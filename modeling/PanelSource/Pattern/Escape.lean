import PanelSource.Pattern.Basic
import PanelSource.Pattern.Flags
import PanelSource.Pattern.Literal

/- Escapes: what a backslash and the characters after it mean. -/
namespace PanelSource.Pattern
open Text

/-- A part of a pattern that stands for one place in the text. -/
inductive Atom where
  | literal (c : Char) (byte : Bool)
  | set (s : CharSet)
  | look (l : Look)
  deriving DecidableEq, Repr, Inhabited

/-- The value of a hexadecimal digit. -/
def hexValue? (c : Char) : Option Nat :=
  if '0' ≤ c ∧ c ≤ '9' then some (c.toNat - 0x30)
  else if 'a' ≤ c ∧ c ≤ 'f' then some (c.toNat - 0x61 + 10)
  else if 'A' ≤ c ∧ c ≤ 'F' then some (c.toNat - 0x41 + 10)
  else none

def charOfCode (n : Nat) : Except Fault Char :=
  if n.isValidChar then .ok (Char.ofNat n) else .error .invalidCode

/-- Reads so many hexadecimal digits after those that make `n`. -/
def readHexDigits (f : Flags) : Nat → Nat → List Char → Except Fault (Char × List Char)
  | 0, n, cs => do return (← charOfCode n, cs)
  | k + 1, n, cs =>
    match cs with
    | [] => .error .unfinishedEscape
    | c :: rest =>
      match hexValue? c with
      | none => .error .invalidCode
      | some d => readHexDigits f k (n * 16 + d) (f.skip rest)

/-- Reads hexadecimal digits up to a closing brace, after those that make `n`. The number of
    steps is bounded by the number of characters. -/
def readHexBrace (f : Flags) : Nat → Option Nat → List Char → Except Fault (Char × List Char)
  | 0, _, _ => .error .unfinishedEscape
  | k + 1, n, cs =>
    match cs with
    | [] => .error .unfinishedEscape
    | c :: rest =>
      if c = '\x7d' then
        match n with
        | none => .error .invalidCode
        | some n => do return (← charOfCode n, f.skip rest)
      else
        match hexValue? c with
        | none => .error .invalidCode
        | some d => readHexBrace f k (some (n.getD 0 * 16 + d)) (f.skip rest)

/-- Reads a code point after its letter, which tells the number of digits. -/
def readCode (f : Flags) (digits : Nat) (cs : List Char) : Except Fault (Atom × List Char) :=
  match f.skip cs with
  | [] => .error .unfinishedEscape
  | '\x7b' :: rest => do
    let rest := f.skip rest
    let (c, rest) ← readHexBrace f (rest.length + 1) none rest
    return (.literal c false, rest)
  | cs => do
    let (c, rest) ← readHexDigits f digits 0 cs
    return (.literal c (digits == 2), rest)

/-- A name in lower case, without `is` in front and without separators. -/
def plainName (cs : List Char) : String :=
  let (isPrefixed, cs) : Bool × List Char := match cs with
    | a :: b :: rest =>
      if (a = 'i' ∨ a = 'I') ∧ (b = 's' ∨ b = 'S') then (true, rest) else (false, cs)
    | cs => (false, cs)
  let kept := cs.filter fun c => c.toNat < 0x80 && c != ' ' && c != '_' && c != '-'
  let name := String.ofList (kept.map Char.toLower)
  if isPrefixed && name == "c" then "isc" else name

/-- General categories and their groups by their names. -/
def categoryNames : List (String × List Category) :=
  [("lu", [.lu]), ("uppercaseletter", [.lu]), ("ll", [.ll]), ("lowercaseletter", [.ll]),
   ("lt", [.lt]), ("titlecaseletter", [.lt]), ("lm", [.lm]), ("modifierletter", [.lm]),
   ("lo", [.lo]), ("otherletter", [.lo]), ("lc", [.lu, .ll, .lt]),
   ("casedletter", [.lu, .ll, .lt]), ("l", [.lu, .ll, .lt, .lm, .lo]),
   ("letter", [.lu, .ll, .lt, .lm, .lo]), ("mn", [.mn]), ("nonspacingmark", [.mn]),
   ("mc", [.mc]), ("spacingmark", [.mc]), ("me", [.me]), ("enclosingmark", [.me]),
   ("m", [.mn, .mc, .me]), ("mark", [.mn, .mc, .me]), ("combiningmark", [.mn, .mc, .me]),
   ("nd", [.nd]), ("decimalnumber", [.nd]), ("digit", [.nd]), ("nl", [.nl]),
   ("letternumber", [.nl]), ("no", [.no]), ("othernumber", [.no]), ("n", [.nd, .nl, .no]),
   ("number", [.nd, .nl, .no]), ("pc", [.pc]), ("connectorpunctuation", [.pc]), ("pd", [.pd]),
   ("dashpunctuation", [.pd]), ("ps", [.ps]), ("openpunctuation", [.ps]), ("pe", [.pe]),
   ("closepunctuation", [.pe]), ("pi", [.pi]), ("initialpunctuation", [.pi]), ("pf", [.pf]),
   ("finalpunctuation", [.pf]), ("po", [.po]), ("otherpunctuation", [.po]),
   ("p", [.pc, .pd, .ps, .pe, .pi, .pf, .po]),
   ("punctuation", [.pc, .pd, .ps, .pe, .pi, .pf, .po]),
   ("punct", [.pc, .pd, .ps, .pe, .pi, .pf, .po]), ("sm", [.sm]), ("mathsymbol", [.sm]),
   ("sc", [.sc]), ("currencysymbol", [.sc]), ("sk", [.sk]), ("modifiersymbol", [.sk]),
   ("so", [.so]), ("othersymbol", [.so]), ("s", [.sm, .sc, .sk, .so]),
   ("symbol", [.sm, .sc, .sk, .so]), ("zs", [.zs]), ("spaceseparator", [.zs]), ("zl", [.zl]),
   ("lineseparator", [.zl]), ("zp", [.zp]), ("paragraphseparator", [.zp]),
   ("z", [.zs, .zl, .zp]), ("separator", [.zs, .zl, .zp]), ("cc", [.cc]), ("control", [.cc]),
   ("cntrl", [.cc]), ("cf", [.cf]), ("format", [.cf]), ("co", [.co]), ("privateuse", [.co]),
   ("cn", [.cn]), ("unassigned", [.cn]), ("c", [.cc, .cf, .cs, .co, .cn]),
   ("other", [.cc, .cf, .cs, .co, .cn])]

/-- The set of a general category. -/
def categorySet? (name : String) : Option CharSet :=
  match name with
  | "any" => some .any
  | "assigned" => some (.complement (.categories [.cn]))
  | "ascii" => some (.range 0 0x7F)
  | _ => (categoryNames.lookup name).map .categories

/-- The set that a name in braces means: a property, a general category or a script. -/
def namedSet? (name : String) : Option CharSet :=
  ((Property.names.lookup name).map CharSet.property).or
    ((categorySet? name).or ((script? name).map .script))

/-- The set of a property with a value. -/
def valuedSet? (name value : String) : Option CharSet :=
  match name with
  | "gc" | "generalcategory" => categorySet? value
  | "sc" | "script" => (script? value).map .script
  | _ => none

/-- The set that stands between braces. A value may follow its property after an equals sign, a
    colon, or `!=`, which means no more than the equals sign. -/
def propertySet? (cs : List Char) : Option CharSet :=
  let before (p : List Char → Bool) : Option (List Char × List Char) :=
    ((List.range cs.length).find? fun i => p (cs.drop i)).map fun i => (cs.take i, cs.drop i)
  match before fun r => r.take 2 == ['!', '='] with
  | some (name, value) => valuedSet? (plainName name) (plainName (value.drop 2))
  | none =>
    match before fun r => r.take 1 == [':'] with
    | some (name, value) => valuedSet? (plainName name) (plainName (value.drop 1))
    | none =>
      match before fun r => r.take 1 == ['='] with
      | some (name, value) => valuedSet? (plainName name) (plainName (value.drop 1))
      | none => namedSet? (plainName cs)

/-- The characters up to a closing brace, without those that do not count. -/
def readBraced (f : Flags) : Nat → List Char → Except Fault (List Char × List Char)
  | 0, _ => .error .unfinishedEscape
  | k + 1, cs =>
    match cs with
    | [] => .error .unfinishedEscape
    | c :: rest =>
      if c = '\x7d' then .ok ([], rest)
      else do
        let (name, rest) ← readBraced f k (f.skip rest)
        return (c :: name, rest)

/-- Reads a property after its letter. -/
def readProperty (f : Flags) (negated : Bool) (cs : List Char) :
    Except Fault (Atom × List Char) := do
  let (name, rest) ← match f.skip cs with
    | [] => .error .unfinishedEscape
    | '\x7b' :: rest =>
      let rest := f.skip rest
      readBraced f (rest.length + 1) rest
    | '\\' :: _ => .error .unknownProperty
    | c :: rest => .ok ([c], f.skip rest)
  if !f.unicode then .error .unicodeOff
  else
    match propertySet? name with
    | none => .error .unknownProperty
    | some s => return (.set (← f.complementIf negated (f.fold s)), rest)

def isBoundaryLetter (c : Char) : Bool := c.isAlpha || c == '-'

/-- Reads the letters of a boundary, without what does not count. -/
def readBoundaryLetters (f : Flags) : Nat → List Char → List Char × List Char
  | 0, cs => ([], cs)
  | k + 1, cs =>
    match cs with
    | c :: rest =>
      if isBoundaryLetter c then
        let (name, rest) := readBoundaryLetters f k (f.skip rest)
        (c :: name, rest)
      else ([], cs)
    | [] => ([], [])

/-- Reads what follows the letter of a boundary: the kind of a boundary in braces, or nothing. A
    brace before anything but a letter begins a repetition. -/
def readBoundary (f : Flags) (cs : List Char) : Except Fault (Atom × List Char) :=
  let ascii := !f.unicode
  match cs with
  | '\x7b' :: rest =>
    match f.skip rest with
    | [] => .error .unclosedBoundary
    | c :: more =>
      if isBoundaryLetter c then
        match readBoundaryLetters f (more.length + 1) (c :: more) with
        | (name, '\x7d' :: rest) =>
          match String.ofList name with
          | "start" => .ok (.look (.wordStart ascii), rest)
          | "end" => .ok (.look (.wordStop ascii), rest)
          | "start-half" => .ok (.look (.wordStartHalf ascii), rest)
          | "end-half" => .ok (.look (.wordStopHalf ascii), rest)
          | _ => .error .unknownBoundary
        | _ => .error .unclosedBoundary
      else .ok (.look (.boundary ascii), cs)
  | _ => .ok (.look (.boundary ascii), cs)

/-- The set of a letter for digits, blanks or words. -/
def letterSet (f : Flags) (letter : Char) (negated : Bool) : Except Fault CharSet :=
  f.complementIf negated <|
    match letter with
    | 'd' => if f.unicode then .categories [.nd] else .asciiDigit
    | 's' => if f.unicode then .blank else .asciiBlank
    | _ => if f.unicode then .word else .asciiWord

/-- Whether a backslash takes the meaning from a character. -/
def isEscapable (c : Char) : Bool :=
  metaCharacters.contains c || (c.toNat < 0x80 && !c.isAlphanum && c != '<' && c != '>')

/-- Reads what follows a backslash. -/
def readEscape (f : Flags) (cs : List Char) : Except Fault (Atom × List Char) :=
  match cs with
  | [] => .error .unfinishedEscape
  | c :: rest =>
    let ascii := !f.unicode
    if isEscapable c then .ok (.literal c false, rest)
    else if c.isDigit then .error .backReference
    else
      match c with
      | 'x' => readCode f 2 rest
      | 'u' => readCode f 4 rest
      | 'U' => readCode f 8 rest
      | 'p' => readProperty f false rest
      | 'P' => readProperty f true rest
      | 'd' | 's' | 'w' => do return (.set (← letterSet f c false), rest)
      | 'D' => do return (.set (← letterSet f 'd' true), rest)
      | 'S' => do return (.set (← letterSet f 's' true), rest)
      | 'W' => do return (.set (← letterSet f 'w' true), rest)
      | 'a' => .ok (.literal '\x07' false, rest)
      | 'f' => .ok (.literal '\x0c' false, rest)
      | 't' => .ok (.literal '\t' false, rest)
      | 'n' => .ok (.literal '\n' false, rest)
      | 'r' => .ok (.literal '\r' false, rest)
      | 'v' => .ok (.literal '\x0b' false, rest)
      | 'A' => .ok (.look .start, rest)
      | 'z' => .ok (.look .stop, rest)
      | 'b' => readBoundary f rest
      | 'B' => .ok (.look (.noBoundary ascii), rest)
      | '<' => .ok (.look (.wordStart ascii), rest)
      | '>' => .ok (.look (.wordStop ascii), rest)
      | _ => .error .unrecognizedEscape

end PanelSource.Pattern
