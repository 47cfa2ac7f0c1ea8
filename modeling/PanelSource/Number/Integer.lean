/- Decimal integers as they are typed: an optional sign and digits, within bounds.

   Digits are read from the left. The first thing that is wrong decides the fault: a character
   that is no digit, or the digit that takes the number past its bound. -/
namespace PanelSource.Number

def twoTo (k : Nat) : Nat := Nat.pow 2 k

def tenTo (k : Nat) : Nat := Nat.pow 10 k

/-- Why a text is not an integer in range. -/
inductive IntegerFault where
  | empty
  | invalidDigit
  | tooLarge
  | tooSmall
  deriving DecidableEq, Repr

def IntegerFault.message : IntegerFault → String
  | .empty => "cannot parse integer from empty string"
  | .invalidDigit => "invalid digit found in string"
  | .tooLarge => "number too large to fit in target type"
  | .tooSmall => "number too small to fit in target type"

def digitValue (c : Char) : Option Nat :=
  if '0' ≤ c ∧ c ≤ '9' then some (c.toNat - '0'.toNat) else none

def isDigit (c : Char) : Bool := (digitValue c).isSome

/-- Reads digits after those that make `acc`; `beyond` is the fault of a value above `bound`. -/
def readDigits (bound : Nat) (beyond : IntegerFault) : Nat → List Char → Except IntegerFault Nat
  | acc, [] => .ok acc
  | acc, c :: rest =>
    match digitValue c with
    | none => .error .invalidDigit
    | some d =>
      if bound < acc * 10 + d then .error beyond
      else readDigits bound beyond (acc * 10 + d) rest

/-- Reads an unsigned integer of at most `bound`; a plus sign may stand before the digits. -/
def readNatural (bound : Nat) : List Char → Except IntegerFault Nat
  | [] => .error .empty
  | ['+'] => .error .invalidDigit
  | '+' :: digits => readDigits bound .tooLarge 0 digits
  | digits => readDigits bound .tooLarge 0 digits

/-- Reads a signed 64-bit integer. -/
def readInt64 : List Char → Except IntegerFault Int
  | [] => .error .empty
  | ['+'] => .error .invalidDigit
  | ['-'] => .error .invalidDigit
  | '+' :: digits => (readDigits (twoTo 63 - 1) .tooLarge 0 digits).map Int.ofNat
  | '-' :: digits => (readDigits (twoTo 63) .tooSmall 0 digits).map fun n => -(n : Int)
  | digits => (readDigits (twoTo 63 - 1) .tooLarge 0 digits).map Int.ofNat

def uint64Max : Nat := twoTo 64 - 1

def int64Max : Int := twoTo 63 - 1

def int64Min : Int := -(twoTo 63 : Int)

def int32Max : Int := twoTo 31 - 1

def int32Min : Int := -(twoTo 31 : Int)

def int64? (s : String) : Option Int := (readInt64 s.toList).toOption

def decimal (n : Nat) : List Char := Nat.toDigits 10 n

/-- A number in decimal, padded with zeros on the left to `width` digits. -/
def padded (width n : Nat) : List Char :=
  let ds := decimal n
  List.replicate (width - ds.length) '0' ++ ds

/-- An integer in decimal, with a minus sign when it is negative. -/
def signedDecimal (i : Int) : List Char :=
  if i < 0 then '-' :: decimal i.natAbs else decimal i.natAbs

end PanelSource.Number
