import PanelSource.Number.Integer

/- IEEE-754 double precision numbers in exact arithmetic.

   A finite number is a sign, an integer significand and a power of two. `ofRatio` rounds a
   quotient of naturals to the nearest of them (a tie goes to the even significand), and every
   operation here is that rounding after an exact computation. `bits` is the interchange format.

   `readDecimal` reads the usual decimal spellings: digits with an optional point and exponent,
   `inf`, `infinity` and `nan` in any letter case. -/
namespace PanelSource.Number

/-- The quotient `num / den` rounded to the nearest natural, a tie to the even one. -/
def roundHalfEven (num den : Nat) : Nat :=
  let k := num / den
  let twice := 2 * (num % den)
  if den < twice ∨ (twice = den ∧ k % 2 = 1) then k + 1 else k

/-- A double: `finite s m q` is `m · 2 ^ q`, negated when `s` holds. -/
inductive Binary64 where
  | finite (negative : Bool) (significand : Nat) (exponent : Int)
  | infinite (negative : Bool)
  | nan
  deriving DecidableEq, Repr, Inhabited

namespace Binary64

def zero : Binary64 := .finite false 0 (-1074)

/-- The least exponent of a significand; below it the numbers are subnormal. -/
def leastExponent : Int := -1074

/-- The quotient of `num · 2 ^ -q` by `den`, as a pair of naturals. -/
def scaled (num den : Nat) (q : Int) : Nat × Nat :=
  if q < 0 then (num * twoTo q.natAbs, den) else (num, den * twoTo q.natAbs)

/-- The exponent at which `num / den` has 53 significant bits, or the least one. -/
def exponentOf (num den : Nat) : Int :=
  let q := max ((num.log2 : Int) - den.log2 - 52) leastExponent
  let (n, d) := scaled num den q
  if n / d < twoTo 52 ∧ leastExponent < q then q - 1 else q

/-- The double nearest to `num / den` (for a positive `den`), with the given sign. -/
def ofRatio (negative : Bool) (num den : Nat) : Binary64 :=
  if num = 0 then .finite negative 0 leastExponent
  else
    let q := exponentOf num den
    let (n, d) := scaled num den q
    let m := roundHalfEven n d
    let (m, q) := if m = twoTo 53 then (twoTo 52, q + 1) else (m, q)
    if 971 < q then .infinite negative else .finite negative m q

def ofInt (i : Int) : Binary64 := ofRatio (i < 0) i.natAbs 1

/-- The double nearest to `digits · 10 ^ exponent`. Exponents far outside the range of doubles
    are settled by the number of digits alone. -/
def ofDecimal (negative : Bool) (digits : Nat) (exponent : Int) : Binary64 :=
  let magnitude := (decimal digits).length + exponent
  if digits = 0 then .finite negative 0 leastExponent
  else if 400 < magnitude then .infinite negative
  else if magnitude < -400 then .finite negative 0 leastExponent
  else if exponent < 0 then ofRatio negative digits (tenTo exponent.natAbs)
  else ofRatio negative (digits * tenTo exponent.natAbs) 1

def isFinite : Binary64 → Bool
  | .finite .. => true
  | _ => false

def isInfinite : Binary64 → Bool
  | .infinite _ => true
  | _ => false

def isZero : Binary64 → Bool
  | .finite _ 0 _ => true
  | _ => false

def neg : Binary64 → Binary64
  | .finite s m q => .finite (!s) m q
  | .infinite s => .infinite (!s)
  | .nan => .nan

/-- `m · 2 ^ q` as a quotient of naturals. -/
def ratio (m : Nat) (q : Int) : Nat × Nat :=
  if q < 0 then (m, twoTo q.natAbs) else (m * twoTo q.natAbs, 1)

/-- The product, rounded once. -/
def mul : Binary64 → Binary64 → Binary64
  | .finite s m q, .finite s' m' q' =>
    let (n, d) := ratio (m * m') (q + q')
    ofRatio (s != s') n d
  | .infinite s, .finite s' m _ => if m = 0 then .nan else .infinite (s != s')
  | .finite s m _, .infinite s' => if m = 0 then .nan else .infinite (s != s')
  | .infinite s, .infinite s' => .infinite (s != s')
  | _, _ => .nan

/-- The greatest integer that is not above a finite number; nothing else has one. -/
def floor? : Binary64 → Option Int
  | .finite s m q =>
    let (n, d) := ratio m q
    some ((if s then -(n : Int) else n) / d)
  | _ => none

/-- What a finite number is above its floor, rounded once. -/
def fraction : Binary64 → Binary64
  | .finite s m q =>
    let (n, d) := ratio m q
    ofRatio false ((if s then -(n : Int) else n) % d).toNat d
  | x => x

/-- The quotient, rounded once. -/
def div : Binary64 → Binary64 → Binary64
  | .finite s m q, .finite s' m' q' =>
    if m' = 0 then (if m = 0 then .nan else .infinite (s != s'))
    else
      let (n, d) := ratio m q
      let (n', d') := ratio m' q'
      ofRatio (s != s') (n * d') (d * n')
  | .infinite s, .finite s' _ _ => .infinite (s != s')
  | .finite s _ _, .infinite s' => .finite (s != s') 0 leastExponent
  | _, _ => .nan

/-- The 64 bits of the interchange format. -/
def bits : Binary64 → Nat
  | .finite s m q =>
    let sign := if s then twoTo 63 else 0
    if m < twoTo 52 then sign + m
    else sign + (q + 1075).toNat * twoTo 52 + (m - twoTo 52)
  | .infinite s => (if s then twoTo 63 else 0) + 0x7FF * twoTo 52
  | .nan => 0x7FF8 * twoTo 48

end Binary64

/-- Why a text is not a decimal number. -/
inductive DecimalFault where
  | empty
  | invalid
  deriving DecidableEq, Repr

def DecimalFault.message : DecimalFault → String
  | .empty => "cannot parse float from empty string"
  | .invalid => "invalid float literal"

def digitsValue (ds : List Char) : Nat :=
  ds.foldl (fun n c => n * 10 + (digitValue c).getD 0) 0

/-- The exponent after its letter: an optional sign and digits to the end. -/
def readExponent (cs : List Char) : Option Int :=
  let (negative, ds) := match cs with
    | '-' :: r => (true, r)
    | '+' :: r => (false, r)
    | r => (false, r)
  if ds.isEmpty || !ds.all isDigit then none
  else some (if negative then -(digitsValue ds : Int) else digitsValue ds)

/-- Digits with an optional point and exponent; at least one digit stands beside the point. -/
def readUnsigned (negative : Bool) (cs : List Char) : Option Binary64 :=
  let whole := cs.takeWhile isDigit
  let rest := cs.dropWhile isDigit
  let (fraction, rest) := match rest with
    | '.' :: r => (r.takeWhile isDigit, r.dropWhile isDigit)
    | r => ([], r)
  if whole.isEmpty && fraction.isEmpty then none
  else
    let digits := digitsValue (whole ++ fraction)
    match rest with
    | [] => some (.ofDecimal negative digits (-(fraction.length : Int)))
    | c :: r =>
      if c = 'e' ∨ c = 'E' then
        (readExponent r).map fun e => .ofDecimal negative digits (e - fraction.length)
      else none

/-- The spellings of values that no digits write. -/
def readSpecial (negative : Bool) (cs : List Char) : Option Binary64 :=
  match String.ofList (cs.map Char.toLower) with
  | "inf" => some (.infinite negative)
  | "infinity" => some (.infinite negative)
  | "nan" => some .nan
  | _ => none

/-- Reads a decimal number to the nearest double. -/
def readDecimal (cs : List Char) : Except DecimalFault Binary64 :=
  match cs with
  | [] => .error .empty
  | _ =>
    let (negative, r) := match cs with
      | '-' :: r => (true, r)
      | '+' :: r => (false, r)
      | r => (false, r)
    match (readUnsigned negative r).or (readSpecial negative r) with
    | some x => .ok x
    | none => .error .invalid

end PanelSource.Number
