/- Texts as octets in UTF-8.

   Reading goes octet by octet. A sequence that cannot become a character is given up at the first
   octet that does not fit, and that octet is read anew; each sequence given up counts once. -/
namespace PanelSource.Text

def octets (cs : List Char) : List UInt8 := cs.flatMap String.utf8EncodeChar

/-- A character that is being read: the bits so far, how many octets are owed, and the least and
    the greatest that the next one may be. -/
structure PartialChar where
  bits : Nat
  owed : Nat
  least : Nat
  greatest : Nat
  deriving DecidableEq, Repr

/-- What a first octet of several begins. -/
def PartialChar.begin? (b : Nat) : Option PartialChar :=
  if 0xC2 ≤ b ∧ b ≤ 0xDF then some ⟨b - 0xC0, 1, 0x80, 0xBF⟩
  else if b = 0xE0 then some ⟨0, 2, 0xA0, 0xBF⟩
  else if b = 0xED then some ⟨b - 0xE0, 2, 0x80, 0x9F⟩
  else if 0xE1 ≤ b ∧ b ≤ 0xEF then some ⟨b - 0xE0, 2, 0x80, 0xBF⟩
  else if b = 0xF0 then some ⟨0, 3, 0x90, 0xBF⟩
  else if b = 0xF4 then some ⟨b - 0xF0, 3, 0x80, 0x8F⟩
  else if 0xF1 ≤ b ∧ b ≤ 0xF3 then some ⟨b - 0xF0, 3, 0x80, 0xBF⟩
  else none

/-- Reads an octet between characters. -/
def readFirst (b : Nat) : Option PartialChar × List (Option Char) :=
  if b < 0x80 then (none, [some (Char.ofNat b)])
  else
    match PartialChar.begin? b with
    | some p => (some p, [])
    | none => (none, [none])

/-- Reads an octet; what comes out are characters, and `none` for a sequence given up. -/
def readOctet : Option PartialChar → Nat → Option PartialChar × List (Option Char)
  | none, b => readFirst b
  | some p, b =>
    if p.least ≤ b ∧ b ≤ p.greatest then
      let bits := p.bits * 64 + (b - 0x80)
      if p.owed = 1 then (none, [some (Char.ofNat bits)])
      else (some ⟨bits, p.owed - 1, 0x80, 0xBF⟩, [])
    else
      let (q, out) := readFirst b
      (q, none :: out)

def readOctets : Option PartialChar → List UInt8 → List (Option Char)
  | none, [] => []
  | some _, [] => [none]
  | p, b :: rest =>
    let (q, out) := readOctet p b.toNat
    out ++ readOctets q rest

/-- The text of octets, if they are well formed. -/
def ofOctets? (bs : List UInt8) : Option (List Char) := (readOctets none bs).mapM id

/-- The text of octets, with a replacement character for each part that is not well formed. -/
def ofOctetsLossy (bs : List UInt8) : List Char := (readOctets none bs).map (·.getD '\uFFFD')

end PanelSource.Text
