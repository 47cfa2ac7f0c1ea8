import PanelSource.Json.Document

/- Reading JSON text (RFC 8259).

   `Document.read` takes one value off the front of a text; `Document.ofText` also says whether
   anything but white space follows it. Values nest at most 127 deep. A number with more digits
   than a 64-bit word holds is scaled by a power of ten in double arithmetic. -/
namespace PanelSource
open Number

namespace Document

def isSpace (c : Char) : Bool := c == ' ' || c == '\n' || c == '\t' || c == '\r'

def skipSpace (cs : List Char) : List Char := cs.dropWhile isSpace

/-! ## Strings -/

def hexValue (c : Char) : Option Nat :=
  if '0' ≤ c ∧ c ≤ '9' then some (c.toNat - 48)
  else if 'a' ≤ c ∧ c ≤ 'f' then some (c.toNat - 87)
  else if 'A' ≤ c ∧ c ≤ 'F' then some (c.toNat - 55)
  else none

/-- Four hexadecimal digits and what follows them. -/
def readHex4 : List Char → Option (Nat × List Char)
  | a :: b :: c :: d :: rest =>
    match hexValue a, hexValue b, hexValue c, hexValue d with
    | some a, some b, some c, some d => some (((a * 16 + b) * 16 + c) * 16 + d, rest)
    | _, _, _, _ => none
  | _ => none

/-- The character of an escape, after its backslash; a surrogate needs its other half. -/
def readEscape : List Char → Option (Char × List Char)
  | '"' :: rest => some ('"', rest)
  | '\\' :: rest => some ('\\', rest)
  | '/' :: rest => some ('/', rest)
  | 'b' :: rest => some ('\x08', rest)
  | 'f' :: rest => some ('\x0c', rest)
  | 'n' :: rest => some ('\n', rest)
  | 'r' :: rest => some ('\r', rest)
  | 't' :: rest => some ('\t', rest)
  | 'u' :: rest =>
    match readHex4 rest with
    | none => none
    | some (n, rest) =>
      if n < 0xD800 ∨ 0xE000 ≤ n then some (Char.ofNat n, rest)
      else if 0xDC00 ≤ n then none
      else
        match rest with
        | '\\' :: 'u' :: rest =>
          match readHex4 rest with
          | some (m, rest) =>
            if 0xDC00 ≤ m ∧ m < 0xE000 then
              some (Char.ofNat (0x10000 + (n - 0xD800) * 0x400 + (m - 0xDC00)), rest)
            else none
          | none => none
        | _ => none
  | _ => none

/-- The rest of a string after its opening quote; `done` holds the characters so far, last first. -/
def readStringFrom : Nat → List Char → List Char → Option (String × List Char)
  | 0, _, _ => none
  | _ + 1, _, [] => none
  | fuel + 1, done, c :: rest =>
    if c = '"' then some (String.ofList done.reverse, rest)
    else if c = '\\' then
      match readEscape rest with
      | some (c, rest) => readStringFrom fuel (c :: done) rest
      | none => none
    else if c < ' ' then none
    else readStringFrom fuel (c :: done) rest

def readString (cs : List Char) : Option (String × List Char) :=
  readStringFrom (cs.length + 1) [] cs

/-! ## Numbers -/

/-- Appends digits to a 64-bit word while it holds them; the digits that are left. -/
def gather : Nat → List Char → Nat × List Char
  | word, [] => (word, [])
  | word, c :: rest =>
    let next := word * 10 + (digitValue c).getD 0
    if uint64Max < next then (word, c :: rest) else gather next rest

def powerOfTen (n : Nat) : Binary64 := .ofDecimal false 1 n

/-- The number `x · 10 ^ e`, by steps that stay within the powers of ten that doubles hold. -/
def scale : Nat → Binary64 → Int → Option Binary64
  | 0, x, _ => some x
  | steps + 1, x, e =>
    if e.natAbs ≤ 308 then
      if e < 0 then some (x.div (powerOfTen e.natAbs))
      else
        let y := x.mul (powerOfTen e.natAbs)
        if y.isInfinite then none else some y
    else if x.isZero then some x
    else if 0 ≤ e then none
    else scale steps (x.div (powerOfTen 308)) (e + 308)

def realNumber (negative : Bool) (word : Nat) (e : Int) : Option JsonNumber :=
  (scale 8 (.ofInt word) e).map fun x => .real (if negative then x.neg else x)

/-- The integer with this sign; one that no 64-bit word holds is a double, and so is minus zero. -/
def wholeNumber (negative : Bool) (word : Nat) : JsonNumber :=
  if !negative then .integer word
  else if word = 0 ∨ twoTo 63 < word then .real (Binary64.ofInt word).neg
  else .integer (-(word : Int))

/-- The exponent of a number, after its letter. -/
def readExponentPart (negative : Bool) (word : Nat) (start : Int) (cs : List Char) :
    Option (JsonNumber × List Char) :=
  let (down, cs) := match cs with
    | '-' :: r => (true, r)
    | '+' :: r => (false, r)
    | r => (false, r)
  let ds := cs.takeWhile isDigit
  let rest := cs.dropWhile isDigit
  if ds.isEmpty then none
  else
    let e := digitsValue ds
    if twoTo 31 - 1 < e then
      if word ≠ 0 ∧ !down then none
      else
        let z := Binary64.zero
        some (.real (if negative then z.neg else z), rest)
    else
      let e := if down then max (start - e) (-(twoTo 31 : Int)) else min (start + e) (twoTo 31 - 1)
      (realNumber negative word e).map (·, rest)

/-- A number without its sign. -/
def readUnsignedNumber (negative : Bool) (cs : List Char) : Option (JsonNumber × List Char) :=
  let whole := cs.takeWhile isDigit
  let rest := cs.dropWhile isDigit
  if whole.isEmpty || (whole.length > 1 && whole.head? == some '0') then none
  else
    let (word, left) := gather 0 whole
    let start : Int := left.length
    match rest with
    | '.' :: rest =>
      let fraction := rest.takeWhile isDigit
      let rest := rest.dropWhile isDigit
      if fraction.isEmpty then none
      else
        let (word, unread) := gather word fraction
        let start := start - (fraction.length - unread.length : Nat)
        match rest with
        | c :: more =>
          if c = 'e' ∨ c = 'E' then readExponentPart negative word start more
          else (realNumber negative word start).map (·, rest)
        | [] => (realNumber negative word start).map (·, rest)
    | c :: more =>
      if c = 'e' ∨ c = 'E' then readExponentPart negative word start more
      else if left.isEmpty then some (wholeNumber negative word, rest)
      else (realNumber negative word start).map (·, rest)
    | [] =>
      if left.isEmpty then some (wholeNumber negative word, rest)
      else (realNumber negative word start).map (·, rest)

def readNumber : List Char → Option (JsonNumber × List Char)
  | '-' :: rest => readUnsignedNumber true rest
  | cs => readUnsignedNumber false cs

/-! ## Values -/

mutual

/-- One value. `fuel` bounds the number of steps and `depth` the containers that may open. -/
def readValue : Nat → Nat → List Char → Document × List Char
  | 0, _, _ => (.broken, [])
  | fuel + 1, depth, cs =>
    match skipSpace cs with
    | [] => (.broken, [])
    | 'n' :: 'u' :: 'l' :: 'l' :: rest => (.null, rest)
    | 't' :: 'r' :: 'u' :: 'e' :: rest => (.bool true, rest)
    | 'f' :: 'a' :: 'l' :: 's' :: 'e' :: rest => (.bool false, rest)
    | '"' :: rest =>
      match readString rest with
      | some (s, rest) => (.string s, rest)
      | none => (.broken, [])
    | '[' :: rest =>
      match depth with
      | 0 => (.broken, [])
      | depth + 1 =>
        match skipSpace rest with
        | ']' :: rest => (.array [] true, rest)
        | rest => readItems fuel depth [] rest
    | '{' :: rest =>
      match depth with
      | 0 => (.broken, [])
      | depth + 1 =>
        match skipSpace rest with
        | '}' :: rest => (.object [] true, rest)
        | rest => readFields fuel depth [] rest
    | cs =>
      match readNumber cs with
      | some (n, rest) => (.number n, rest)
      | none => (.broken, [])

/-- The items of an array from one of them on; `done` holds those before it, last first. -/
def readItems : Nat → Nat → List Document → List Char → Document × List Char
  | 0, _, done, _ => (.array done.reverse false, [])
  | fuel + 1, depth, done, cs =>
    let (item, rest) := readValue fuel depth cs
    match skipSpace rest with
    | ',' :: rest => readItems fuel depth (item :: done) rest
    | ']' :: rest => (.array (item :: done).reverse true, rest)
    | _ => (.array (item :: done).reverse false, [])

/-- The fields of an object from one of them on; `done` holds those before it, last first. -/
def readFields : Nat → Nat → List (String × Document) → List Char → Document × List Char
  | 0, _, done, _ => (.object done.reverse false, [])
  | fuel + 1, depth, done, cs =>
    match skipSpace cs with
    | '"' :: rest =>
      match readString rest with
      | none => (.object done.reverse false, [])
      | some (name, rest) =>
        match skipSpace rest with
        | ':' :: rest =>
          let (value, rest) := readValue fuel depth rest
          match skipSpace rest with
          | ',' :: rest => readFields fuel depth ((name, value) :: done) rest
          | '}' :: rest => (.object ((name, value) :: done).reverse true, rest)
          | _ => (.object ((name, value) :: done).reverse false, [])
        | _ => (.object ((name, .broken) :: done).reverse false, [])
    | _ => (.object done.reverse false, [])

end

def read (cs : List Char) : Document × List Char := readValue (2 * cs.length + 2) 127 cs

/-- The document of a text, and whether only white space follows it. -/
def ofText (s : String) : Document × Bool :=
  let (d, rest) := read s.toList
  (d, (skipSpace rest).isEmpty)

end Document

/-- The value that a text holds, if it is JSON. -/
def Json.parse? (s : String) : Option Json :=
  match Document.ofText s with
  | (d, true) => d.toJson?
  | (_, false) => none

end PanelSource
