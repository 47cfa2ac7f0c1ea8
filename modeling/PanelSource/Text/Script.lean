import PanelSource.Text.Category

/- Scripts of characters.

   The table tells them in runs: the length of a run in decimal, left out when it is one, and then
   the four letters of the script. `Zyyy` is common to many scripts, `Zinh` takes the script of
   what stands before it, and `Zzzz` is none. -/
namespace PanelSource.Text

/-- Reads runs of scripts; `n` is the length read so far. -/
def readScriptRuns : Nat → List Char → List (Nat × String)
  | n, a :: b :: c :: d :: rest =>
    match Number.digitValue a with
    | some k => readScriptRuns (n * 10 + k) (b :: c :: d :: rest)
    | none => (max n 1, String.ofList [a, b, c, d]) :: readScriptRuns 0 rest
  | _, _ => []

def scriptRows : List String :=
  ["65Zyyy26Latn6Zyyy26Latn47ZyyyLatn15ZyyyLatn5Zyyy23LatnZyyy31LatnZyyy449Latn39Zyyy5Latn",
   "5Zyyy2Bopo20Zyyy112Zinh4GrekZyyy3Grek2Zzzz4GrekZyyyGrek4ZzzzGrekZyyyGrekZyyy3GrekZzzzGrek",
   "Zzzz20GrekZzzz63Grek14Copt16Grek133Cyrl2Zinh169CyrlZzzz38Armn2Zzzz50Armn2Zzzz3ArmnZzzz",
   "55Hebr8Zzzz27Hebr4Zzzz6Hebr11Zzzz5ArabZyyy6ArabZyyy14ArabZyyy3ArabZyyy32ArabZyyy10Arab",
   "11Zinh26ArabZinh108ArabZyyy34Arab14SyrcZzzz60Syrc2Zzzz3Syrc48Arab50Thaa14Zzzz59Nkoo2Zzzz",
   "3Nkoo46Samr2Zzzz15SamrZzzz28Mand2ZzzzMandZzzz11Syrc5Zzzz31ArabZzzz2Arab6Zzzz74ArabZyyy",
   "29Arab81Deva4Zinh15Deva2Zyyy26Deva4BengZzzz8Beng2Zzzz2Beng2Zzzz22BengZzzz7BengZzzzBeng",
   "3Zzzz4Beng2Zzzz9Beng2Zzzz2Beng2Zzzz4Beng8ZzzzBeng4Zzzz2BengZzzz5Beng2Zzzz25Beng2Zzzz3Guru",
   "Zzzz6Guru4Zzzz2Guru2Zzzz22GuruZzzz7GuruZzzz2GuruZzzz2GuruZzzz2Guru2ZzzzGuruZzzz5Guru4Zzzz",
   "2Guru2Zzzz3Guru3ZzzzGuru7Zzzz4GuruZzzzGuru7Zzzz17Guru10Zzzz3GujrZzzz9GujrZzzz3GujrZzzz",
   "22GujrZzzz7GujrZzzz2GujrZzzz5Gujr2Zzzz10GujrZzzz3GujrZzzz3Gujr2ZzzzGujr15Zzzz4Gujr2Zzzz",
   "12Gujr7Zzzz7GujrZzzz3OryaZzzz8Orya2Zzzz2Orya2Zzzz22OryaZzzz7OryaZzzz2OryaZzzz5Orya2Zzzz",
   "9Orya2Zzzz2Orya2Zzzz3Orya7Zzzz3Orya4Zzzz2OryaZzzz5Orya2Zzzz18Orya10Zzzz2TamlZzzz6Taml3Zzzz",
   "3TamlZzzz4Taml3Zzzz2TamlZzzzTamlZzzz2Taml3Zzzz2Taml3Zzzz3Taml3Zzzz12Taml4Zzzz5Taml3Zzzz",
   "3TamlZzzz4Taml2ZzzzTaml6ZzzzTaml14Zzzz21Taml5Zzzz13TeluZzzz3TeluZzzz23TeluZzzz16Telu2Zzzz",
   "9TeluZzzz3TeluZzzz4Telu7Zzzz2TeluZzzz3Telu2ZzzzTelu2Zzzz4Telu2Zzzz10Telu7Zzzz9Telu13Knda",
   "Zzzz3KndaZzzz23KndaZzzz10KndaZzzz5Knda2Zzzz9KndaZzzz3KndaZzzz4Knda7Zzzz2Knda6Zzzz2KndaZzzz",
   "4Knda2Zzzz10KndaZzzz3Knda12Zzzz13MlymZzzz3MlymZzzz51MlymZzzz3MlymZzzz6Mlym4Zzzz16Mlym2Zzzz",
   "26MlymZzzz3SinhZzzz18Sinh3Zzzz24SinhZzzz9SinhZzzzSinh2Zzzz7Sinh3ZzzzSinh4Zzzz6SinhZzzzSinh",
   "Zzzz8Sinh6Zzzz10Sinh2Zzzz3Sinh12Zzzz58Thai4ZzzzZyyy28Thai37Zzzz2LaooZzzzLaooZzzz5LaooZzzz",
   "24LaooZzzzLaooZzzz23Laoo2Zzzz5LaooZzzzLaooZzzz7LaooZzzz10Laoo2Zzzz4Laoo32Zzzz72TibtZzzz",
   "36Tibt4Zzzz39TibtZzzz36TibtZzzz15TibtZzzz7Tibt4Zyyy2Tibt37Zzzz160Mymr38GeorZzzzGeor5Zzzz",
   "Geor2Zzzz43GeorZyyy4Geor256Hang73EthiZzzz4Ethi2Zzzz7EthiZzzzEthiZzzz4Ethi2Zzzz41EthiZzzz",
   "4Ethi2Zzzz33EthiZzzz4Ethi2Zzzz7EthiZzzzEthiZzzz4Ethi2Zzzz15EthiZzzz57EthiZzzz4Ethi2Zzzz",
   "67Ethi2Zzzz32Ethi3Zzzz26Ethi6Zzzz86Cher2Zzzz6Cher2Zzzz640Cans29Ogam3Zzzz75Runr3Zyyy11Runr",
   "7Zzzz22Tglg9ZzzzTglg21Hano2Zyyy9Zzzz20Buhd12Zzzz13TagbZzzz3TagbZzzz2Tagb12Zzzz94Khmr2Zzzz",
   "10Khmr6Zzzz10Khmr6Zzzz2Mong2ZyyyMongZyyy20Mong6Zzzz89Mong7Zzzz43Mong5Zzzz70Cans10Zzzz",
   "31LimbZzzz12Limb4Zzzz12Limb4ZzzzLimb3Zzzz12Limb30Tale2Zzzz5Tale11Zzzz44Talu4Zzzz26Talu",
   "6Zzzz11Talu3Zzzz2Talu32Khmr28Bugi2Zzzz2Bugi63LanaZzzz29Lana2Zzzz11Lana6Zzzz10Lana6Zzzz",
   "14Lana2Zzzz31Zinh49Zzzz77Bali3Zzzz47BaliZzzz64Sund52Batk8Zzzz4Batk56Lepc3Zzzz15Lepc3Zzzz",
   "3Lepc48Olck9Cyrl7Zzzz43Geor2Zzzz3Geor8Sund8Zzzz3ZinhZyyy13ZinhZyyy7Zinh4ZyyyZinh6ZyyyZinh",
   "3Zyyy2ZinhZyyy5Zzzz38Latn5GrekCyrl49Latn5Grek4Latn5Grek13LatnCyrl70LatnGrek64Zinh256Latn",
   "22Grek2Zzzz6Grek2Zzzz38Grek2Zzzz6Grek2Zzzz8GrekZzzzGrekZzzzGrekZzzzGrekZzzz31Grek2Zzzz",
   "53GrekZzzz15GrekZzzz14Grek2Zzzz6GrekZzzz19Grek2Zzzz3GrekZzzz9GrekZzzz12Zyyy2Zinh87ZyyyZzzz",
   "11ZyyyLatn2Zzzz11ZyyyLatn15ZyyyZzzz13Latn3Zzzz33Zyyy15Zzzz33Zinh15Zzzz38ZyyyGrek3Zyyy2Latn",
   "6ZyyyLatn27ZyyyLatn17Zyyy41Latn3Zyyy4Zzzz663Zyyy25Zzzz11Zyyy21Zzzz928Zyyy256Brai628Zyyy",
   "2Zzzz32ZyyyZzzz105Zyyy96Glag32Latn116Copt5Zzzz7Copt38GeorZzzzGeor5ZzzzGeor2Zzzz56Tfng7Zzzz",
   "2Tfng14ZzzzTfng23Ethi9Zzzz7EthiZzzz7EthiZzzz7EthiZzzz7EthiZzzz7EthiZzzz7EthiZzzz7EthiZzzz",
   "7EthiZzzz32Cyrl94Zyyy34Zzzz26HaniZzzz89Hani12Zzzz214Hani26Zzzz12Zyyy4Zzzz5ZyyyHaniZyyyHani",
   "25Zyyy9Hani4Zinh2Hang8Zyyy4Hani4ZyyyZzzz86Hira2Zzzz2Zinh2Zyyy3HiraZyyy90Kana2Zyyy3Kana",
   "5Zzzz43BopoZzzz94HangZzzz16Zyyy32Bopo36Zyyy12Zzzz16Kana31HangZzzz64Zyyy31Hang81Zyyy47Kana",
   "Zyyy88Kana168Zyyy6592Hani64Zyyy20992Hani1165Yiii3Zzzz55Yiii9Zzzz48Lisu300Vaii20Zzzz96Cyrl",
   "88Bamu8Zzzz34Zyyy102Latn3Zyyy64Latn5Zzzz2LatnZzzzLatnZzzz5Latn24Zzzz14Latn45Sylo3Zzzz",
   "10Zyyy6Zzzz56Phag8Zzzz70Saur8Zzzz12Saur6Zzzz32Deva46KaliZyyyKali36Rjng11ZzzzRjng29Hang",
   "3Zzzz78JavaZzzzZyyy10Java4Zzzz2Java31MymrZzzz55Cham9Zzzz14Cham2Zzzz10Cham2Zzzz4Cham32Mymr",
   "67Tavt24Zzzz5Tavt23Mtei10Zzzz6Ethi2Zzzz6Ethi2Zzzz6Ethi9Zzzz7EthiZzzz7EthiZzzz43LatnZyyy",
   "9LatnGrek4Latn2Zyyy4Zzzz80Cher46Mtei2Zzzz10Mtei6Zzzz11172Hang12Zzzz23Hang4Zzzz49Hang",
   "8452Zzzz366Hani2Zzzz106Hani38Zzzz7Latn12Zzzz5Armn5Zzzz26HebrZzzz5HebrZzzzHebrZzzz2HebrZzzz",
   "2HebrZzzz10Hebr115Arab16Zzzz363Arab2Zyyy80Arab2Zzzz54Arab7ZzzzArab32Zzzz16Arab16Zinh10Zyyy",
   "6Zzzz14Zinh2Cyrl35ZyyyZzzz19ZyyyZzzz4Zyyy4Zzzz5ArabZzzz135Arab2ZzzzZyyyZzzz32Zyyy26Latn",
   "6Zyyy26Latn11Zyyy10KanaZyyy45Kana2Zyyy31Hang3Zzzz6Hang2Zzzz6Hang2Zzzz6Hang2Zzzz3Hang3Zzzz",
   "7ZyyyZzzz7Zyyy10Zzzz5Zyyy2Zzzz12LinbZzzz26LinbZzzz19LinbZzzz2LinbZzzz15Linb2Zzzz14Linb",
   "34Zzzz123Linb5Zzzz3Zyyy4Zzzz45Zyyy3Zzzz9Zyyy79GrekZzzz13Zyyy3ZzzzGrek47Zzzz45ZyyyZinh",
   "130Zzzz29Lyci3Zzzz49Cari15ZzzzZinh27Zyyy4Zzzz36Ital9Zzzz3Ital27Goth5Zzzz43Perm5Zzzz30Ugar",
   "ZzzzUgar36Xpeo4Zzzz14Xpeo42Zzzz80Dsrt48Shaw30Osma2Zzzz10Osma6Zzzz36Osge4Zzzz36Osge4Zzzz",
   "40Elba8Zzzz52Aghb11ZzzzAghb11VithZzzz15VithZzzz7VithZzzz2VithZzzz11VithZzzz15VithZzzz7Vith",
   "Zzzz2Vith67Zzzz311Lina9Zzzz22Lina10Zzzz8Lina24Zzzz6LatnZzzz42LatnZzzz9Latn69Zzzz6Cprt2Zzzz",
   "CprtZzzz44CprtZzzz2Cprt3ZzzzCprt2ZzzzCprt22ArmiZzzz9Armi32Palm31Nbat8Zzzz9Nbat48Zzzz19Hatr",
   "Zzzz2Hatr5Zzzz5Hatr28Phnx3ZzzzPhnx26Lydi5ZzzzLydi64Zzzz32Mero24Merc4Zzzz20Merc2Zzzz46Merc",
   "4KharZzzz2Khar5Zzzz8KharZzzz3KharZzzz29Khar2Zzzz3Khar4Zzzz10Khar7Zzzz9Khar7Zzzz32Sarb",
   "32Narb32Zzzz39Mani4Zzzz12Mani9Zzzz54Avst3Zzzz7Avst22Prti2Zzzz8Prti19Phli5Zzzz8Phli18Phlp",
   "7Zzzz4Phlp12Zzzz7Phlp80Zzzz73Orkh55Zzzz51Hung13Zzzz51Hung7Zzzz6Hung40Rohg8Zzzz10Rohg",
   "294Zzzz31ArabZzzz42YeziZzzz3Yezi2Zzzz2Yezi75Zzzz3Arab40Sogo8Zzzz42Sogd22Zzzz26Ougr38Zzzz",
   "28Chrs20Zzzz23Elym9Zzzz78Brah4Zzzz36Brah9ZzzzBrah67Kthi10ZzzzKthi2Zzzz25Sora7Zzzz10Sora",
   "6Zzzz53CakmZzzz18Cakm8Zzzz39Mahj9Zzzz96ShrdZzzz20Sinh11Zzzz18KhojZzzz47Khoj62Zzzz7MultZzzz",
   "MultZzzz4MultZzzz15MultZzzz11Mult6Zzzz59Sind5Zzzz10Sind6Zzzz4GranZzzz8Gran2Zzzz2Gran2Zzzz",
   "22GranZzzz7GranZzzz2GranZzzz5GranZzzzZinh9Gran2Zzzz2Gran2Zzzz3Gran2ZzzzGran6ZzzzGran5Zzzz",
   "7Gran2Zzzz7Gran3Zzzz5Gran139Zzzz92NewaZzzz5Newa30Zzzz72Tirh8Zzzz10Tirh166Zzzz54Sidd2Zzzz",
   "38Sidd34Zzzz69Modi11Zzzz10Modi6Zzzz13Mong19Zzzz58Takr6Zzzz10Takr54Zzzz27Ahom2Zzzz15Ahom",
   "4Zzzz23Ahom185Zzzz60Dogr100Zzzz83Wara12ZzzzWara7Diak2ZzzzDiak2Zzzz8DiakZzzz2DiakZzzz30Diak",
   "Zzzz2Diak2Zzzz12Diak9Zzzz10Diak70Zzzz8Nand2Zzzz46Nand2Zzzz11Nand27Zzzz72Zanb8Zzzz83Soyo",
   "13Zzzz16Cans57Pauc7Zzzz10Deva246Zzzz9BhksZzzz45BhksZzzz14Bhks10Zzzz29Bhks3Zzzz32Marc2Zzzz",
   "22MarcZzzz14Marc73Zzzz7GonmZzzz2GonmZzzz44Gonm3ZzzzGonmZzzz2GonmZzzz9Gonm8Zzzz10Gonm6Zzzz",
   "6GongZzzz2GongZzzz37GongZzzz2GongZzzz6Gong7Zzzz10Gong310Zzzz25Maka7Zzzz17KawiZzzz41Kawi",
   "3Zzzz28Kawi86ZzzzLisu15Zzzz50Taml13ZzzzTaml922Xsux102Zzzz111XsuxZzzz5Xsux11Zzzz196Xsux",
   "2636Zzzz99Cpmn13Zzzz1110Egyp4010Zzzz583Hluw8633Zzzz569Bamu7Zzzz31MrooZzzz10Mroo4Zzzz2Mroo",
   "79TnsaZzzz10Tnsa6Zzzz30Bass2Zzzz6Bass10Zzzz70Hmng10Zzzz10HmngZzzz7HmngZzzz21Hmng5Zzzz",
   "19Hmng688Zzzz91Medf101Zzzz75Plrd4Zzzz57Plrd7Zzzz17Plrd64ZzzzTangNshu2HaniKits11Zzzz2Hani",
   "14Zzzz6136Tang8Zzzz768Tang470Kits42Zzzz9Tang8935Zzzz4KanaZzzz7KanaZzzz2KanaZzzzKana287Hira",
   "3Kana15ZzzzHira29Zzzz3Hira2ZzzzKana14Zzzz4Kana8Zzzz396Nshu2308Zzzz107Dupl5Zzzz13Dupl3Zzzz",
   "9Dupl7Zzzz10Dupl2Zzzz4Dupl4Zyyy4700Zzzz46Zinh2Zzzz23Zinh9Zzzz116Zyyy60Zzzz246Zyyy10Zzzz",
   "39Zyyy2Zzzz62Zyyy3Zinh17Zyyy8Zinh2Zyyy7Zinh30Zyyy4Zinh61Zyyy21Zzzz70Grek122Zzzz20Zyyy",
   "12Zzzz20Zyyy12Zzzz87Zyyy9Zzzz25Zyyy135Zzzz85ZyyyZzzz71ZyyyZzzz2Zyyy2ZzzzZyyy2Zzzz2Zyyy",
   "2Zzzz4ZyyyZzzz12ZyyyZzzzZyyyZzzz7ZyyyZzzz65ZyyyZzzz4Zyyy2Zzzz8ZyyyZzzz7ZyyyZzzz28ZyyyZzzz",
   "4ZyyyZzzz5ZyyyZzzzZyyy3Zzzz7ZyyyZzzz340Zyyy2Zzzz292Zyyy2Zzzz50Zyyy652Sgnw15Zzzz5SgnwZzzz",
   "15Sgnw1104Zzzz31Latn6Zzzz6Latn213Zzzz7GlagZzzz17Glag2Zzzz7GlagZzzz2GlagZzzz5Glag5Zzzz",
   "62Cyrl33ZzzzCyrl112Zzzz45Hmnp3Zzzz14Hmnp2Zzzz10Hmnp4Zzzz2Hmnp320Zzzz31Toto17Zzzz58Wcho",
   "5ZzzzWcho464Zzzz42Nagm742Zzzz7EthiZzzz4EthiZzzz2EthiZzzz15EthiZzzz197Mend2Zzzz16Mend41Zzzz",
   "76Adlm4Zzzz10Adlm4Zzzz2Adlm785Zzzz68Zyyy76Zzzz61Zyyy194Zzzz4ArabZzzz27ArabZzzz2ArabZzzz",
   "Arab2ZzzzArabZzzz10ArabZzzz4ArabZzzzArabZzzzArab6ZzzzArab4ZzzzArabZzzzArabZzzzArabZzzz",
   "3ArabZzzz2ArabZzzzArab2ZzzzArabZzzzArabZzzzArabZzzzArabZzzzArabZzzz2ArabZzzzArab2Zzzz4Arab",
   "Zzzz7ArabZzzz4ArabZzzz4ArabZzzzArabZzzz10ArabZzzz17Arab5Zzzz3ArabZzzz5ArabZzzz17Arab52Zzzz",
   "2Arab270Zzzz44Zyyy4Zzzz100Zyyy12Zzzz15Zyyy2Zzzz15ZyyyZzzz15ZyyyZzzz37Zyyy10Zzzz174Zyyy",
   "56Zzzz26ZyyyHira2Zyyy13Zzzz44Zyyy4Zzzz9Zyyy7Zzzz2Zyyy14Zzzz6Zyyy154Zzzz984Zyyy4Zzzz17Zyyy",
   "3Zzzz13Zyyy3Zzzz119Zyyy4Zzzz95Zyyy6Zzzz12Zyyy4ZzzzZyyy15Zzzz12Zyyy4Zzzz56Zyyy8Zzzz10Zyyy",
   "6Zzzz40Zyyy8Zzzz30Zyyy2Zzzz2Zyyy78Zzzz340Zyyy12Zzzz14Zyyy2Zzzz13Zyyy3Zzzz9Zyyy7Zzzz46Zyyy",
   "Zzzz7Zyyy8Zzzz14Zyyy4Zzzz9Zyyy7Zzzz9Zyyy7Zzzz147ZyyyZzzz55Zyyy37Zzzz10Zyyy1030Zzzz",
   "42720Hani32Zzzz4154Hani6Zzzz222Hani2Zzzz5762Hani14Zzzz7473Hani3103Zzzz542Hani1506Zzzz",
   "4939Hani5Zzzz4192Hani711761ZzzzZyyy30Zzzz96Zyyy128Zzzz240Zinh196112Zzzz"]

def scriptRuns : List (Nat × String) :=
  scriptRows.flatMap fun row => readScriptRuns 0 row.toList

/-- The four letters of the script of a code point. -/
def scriptOf (code : Nat) : String := runAt "Zzzz" scriptRuns code

def scripts : List String :=
  ["Adlm", "Aghb", "Ahom", "Arab", "Armi", "Armn", "Avst", "Bali", "Bamu", "Bass", "Batk", "Beng",
   "Bhks", "Bopo", "Brah", "Brai", "Bugi", "Buhd", "Cakm", "Cans", "Cari", "Cham", "Cher", "Chrs",
   "Copt", "Cpmn", "Cprt", "Cyrl", "Deva", "Diak", "Dogr", "Dsrt", "Dupl", "Egyp", "Elba", "Elym",
   "Ethi", "Geor", "Glag", "Gong", "Gonm", "Goth", "Gran", "Grek", "Gujr", "Guru", "Hang", "Hani",
   "Hano", "Hatr", "Hebr", "Hira", "Hluw", "Hmng", "Hmnp", "Hung", "Ital", "Java", "Kali", "Kana",
   "Kawi", "Khar", "Khmr", "Khoj", "Kits", "Knda", "Kthi", "Lana", "Laoo", "Latn", "Lepc", "Limb",
   "Lina", "Linb", "Lisu", "Lyci", "Lydi", "Mahj", "Maka", "Mand", "Mani", "Marc", "Medf", "Mend",
   "Merc", "Mero", "Mlym", "Modi", "Mong", "Mroo", "Mtei", "Mult", "Mymr", "Nagm", "Nand", "Narb",
   "Nbat", "Newa", "Nkoo", "Nshu", "Ogam", "Olck", "Orkh", "Orya", "Osge", "Osma", "Ougr", "Palm",
   "Pauc", "Perm", "Phag", "Phli", "Phlp", "Phnx", "Plrd", "Prti", "Rjng", "Rohg", "Runr", "Samr",
   "Sarb", "Saur", "Sgnw", "Shaw", "Shrd", "Sidd", "Sind", "Sinh", "Sogd", "Sogo", "Sora", "Soyo",
   "Sund", "Sylo", "Syrc", "Tagb", "Takr", "Tale", "Talu", "Taml", "Tang", "Tavt", "Telu", "Tfng",
   "Tglg", "Thaa", "Thai", "Tibt", "Tirh", "Tnsa", "Toto", "Ugar", "Vaii", "Vith", "Wara", "Wcho",
   "Xpeo", "Xsux", "Yezi", "Yiii", "Zanb", "Zinh", "Zyyy", "Zzzz"]

/-- The long names of scripts, in lower case and without separators. -/
def scriptNames : List (String × String) :=
  [("adlam", "Adlm"), ("caucasianalbanian", "Aghb"), ("arabic", "Arab"),
   ("imperialaramaic", "Armi"), ("armenian", "Armn"), ("avestan", "Avst"), ("balinese", "Bali"),
   ("bamum", "Bamu"), ("bassavah", "Bass"), ("batak", "Batk"), ("bengali", "Beng"),
   ("bhaiksuki", "Bhks"), ("bopomofo", "Bopo"), ("brahmi", "Brah"), ("braille", "Brai"),
   ("buginese", "Bugi"), ("buhid", "Buhd"), ("chakma", "Cakm"), ("canadianaboriginal", "Cans"),
   ("carian", "Cari"), ("cherokee", "Cher"), ("chorasmian", "Chrs"), ("coptic", "Copt"),
   ("qaac", "Copt"), ("cyprominoan", "Cpmn"), ("cypriot", "Cprt"), ("cyrillic", "Cyrl"),
   ("devanagari", "Deva"), ("divesakuru", "Diak"), ("dogra", "Dogr"), ("deseret", "Dsrt"),
   ("duployan", "Dupl"), ("egyptianhieroglyphs", "Egyp"), ("elbasan", "Elba"), ("elymaic", "Elym"),
   ("ethiopic", "Ethi"), ("georgian", "Geor"), ("glagolitic", "Glag"), ("gunjalagondi", "Gong"),
   ("masaramgondi", "Gonm"), ("gothic", "Goth"), ("grantha", "Gran"), ("greek", "Grek"),
   ("gujarati", "Gujr"), ("gurmukhi", "Guru"), ("hangul", "Hang"), ("han", "Hani"),
   ("hanunoo", "Hano"), ("hatran", "Hatr"), ("hebrew", "Hebr"), ("hiragana", "Hira"),
   ("anatolianhieroglyphs", "Hluw"), ("pahawhhmong", "Hmng"), ("nyiakengpuachuehmong", "Hmnp"),
   ("oldhungarian", "Hung"), ("olditalic", "Ital"), ("javanese", "Java"), ("kayahli", "Kali"),
   ("katakana", "Kana"), ("kharoshthi", "Khar"), ("khmer", "Khmr"), ("khojki", "Khoj"),
   ("khitansmallscript", "Kits"), ("kannada", "Knda"), ("kaithi", "Kthi"), ("taitham", "Lana"),
   ("lao", "Laoo"), ("latin", "Latn"), ("lepcha", "Lepc"), ("limbu", "Limb"), ("lineara", "Lina"),
   ("linearb", "Linb"), ("lycian", "Lyci"), ("lydian", "Lydi"), ("mahajani", "Mahj"),
   ("makasar", "Maka"), ("mandaic", "Mand"), ("manichaean", "Mani"), ("marchen", "Marc"),
   ("medefaidrin", "Medf"), ("mendekikakui", "Mend"), ("meroiticcursive", "Merc"),
   ("meroitichieroglyphs", "Mero"), ("malayalam", "Mlym"), ("mongolian", "Mong"), ("mro", "Mroo"),
   ("meeteimayek", "Mtei"), ("multani", "Mult"), ("myanmar", "Mymr"), ("nagmundari", "Nagm"),
   ("nandinagari", "Nand"), ("oldnortharabian", "Narb"), ("nabataean", "Nbat"), ("nko", "Nkoo"),
   ("nushu", "Nshu"), ("ogham", "Ogam"), ("olchiki", "Olck"), ("oldturkic", "Orkh"),
   ("oriya", "Orya"), ("osage", "Osge"), ("osmanya", "Osma"), ("olduyghur", "Ougr"),
   ("palmyrene", "Palm"), ("paucinhau", "Pauc"), ("oldpermic", "Perm"), ("phagspa", "Phag"),
   ("inscriptionalpahlavi", "Phli"), ("psalterpahlavi", "Phlp"), ("phoenician", "Phnx"),
   ("miao", "Plrd"), ("inscriptionalparthian", "Prti"), ("rejang", "Rjng"),
   ("hanifirohingya", "Rohg"), ("runic", "Runr"), ("samaritan", "Samr"),
   ("oldsoutharabian", "Sarb"), ("saurashtra", "Saur"), ("signwriting", "Sgnw"),
   ("shavian", "Shaw"), ("sharada", "Shrd"), ("siddham", "Sidd"), ("khudawadi", "Sind"),
   ("sinhala", "Sinh"), ("sogdian", "Sogd"), ("oldsogdian", "Sogo"), ("sorasompeng", "Sora"),
   ("soyombo", "Soyo"), ("sundanese", "Sund"), ("sylotinagri", "Sylo"), ("syriac", "Syrc"),
   ("tagbanwa", "Tagb"), ("takri", "Takr"), ("taile", "Tale"), ("newtailue", "Talu"),
   ("tamil", "Taml"), ("tangut", "Tang"), ("taiviet", "Tavt"), ("telugu", "Telu"),
   ("tifinagh", "Tfng"), ("tagalog", "Tglg"), ("thaana", "Thaa"), ("tibetan", "Tibt"),
   ("tirhuta", "Tirh"), ("tangsa", "Tnsa"), ("ugaritic", "Ugar"), ("vai", "Vaii"),
   ("vithkuqi", "Vith"), ("warangciti", "Wara"), ("wancho", "Wcho"), ("oldpersian", "Xpeo"),
   ("cuneiform", "Xsux"), ("yezidi", "Yezi"), ("yi", "Yiii"), ("zanabazarsquare", "Zanb"),
   ("inherited", "Zinh"), ("qaai", "Zinh"), ("common", "Zyyy"), ("unknown", "Zzzz")]

/-- The script that a name in lower case without separators means. -/
def script? (name : String) : Option String :=
  (scripts.find? fun s => s.toLower == name).or (scriptNames.lookup name)

end PanelSource.Text
