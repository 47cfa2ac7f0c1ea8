import PanelSource.Number.Binary64

/- The shortest decimal text of a double.

   A double is read back from every number nearer to it than to its neighbours. `shortest` looks
   at the grids of 1, 2, … 17 significant digits; the first grid with a point in that interval
   wins, and of two such points the nearer one, a tie going to the even digit. `writeReal` writes
   it positionally for decimal exponents from -5 to 15 and with a power of ten otherwise. -/
namespace PanelSource.Number

/-- The interval that rounds to a double, in quarters of its last place: lower end, value, upper
    end, the scale as a quotient, and whether the ends belong to it. -/
structure Neighbourhood where
  low : Nat
  mid : Nat
  high : Nat
  den : Nat
  closed : Bool

/-- The neighbourhood of `m · 2 ^ q`. Below a power of two the numbers lie twice as dense. -/
def neighbourhood (m : Nat) (q : Int) : Neighbourhood :=
  let down := if m = twoTo 52 ∧ q ≠ Binary64.leastExponent then 1 else 2
  let (scale, den) := Binary64.ratio 1 (q - 2)
  ⟨(4 * m - down) * scale, 4 * m * scale, (4 * m + 2) * scale, den, m % 2 = 0⟩

/-- Whether `d · 10 ^ e` lies in the neighbourhood. -/
def Neighbourhood.holds (b : Neighbourhood) (d : Nat) (e : Int) : Bool :=
  let (n, k) := if e < 0 then (d, tenTo e.natAbs) else (d * tenTo e.natAbs, 1)
  let x := n * b.den
  if b.closed then b.low * k ≤ x && x ≤ b.high * k else b.low * k < x && x < b.high * k

/-- The floor of the value in units of `10 ^ e`, and how it lies to the middle of the unit. -/
def Neighbourhood.floorAt (b : Neighbourhood) (e : Int) : Nat × Ordering :=
  let (n, k) := if e < 0 then (b.mid * tenTo e.natAbs, b.den) else (b.mid, b.den * tenTo e.natAbs)
  (n / k, compare (2 * (n % k)) k)

/-- The exponent of the value's first decimal digit. -/
def Neighbourhood.order (b : Neighbourhood) : Int :=
  if b.den ≤ b.mid then ((decimal (b.mid / b.den)).length : Int) - 1
  else
    let k : Int := (decimal (b.den / b.mid)).length
    if b.mid * tenTo (k - 1).natAbs ≥ b.den then -(k - 1) else -k

/-- The digits and exponent of the first grid, from `precision` digits on, with a hit. -/
def Neighbourhood.search (b : Neighbourhood) : Nat → Nat → Nat × Int
  | 0, precision =>
    let e := b.order - (precision : Int) + 1
    ((b.floorAt e).1, e)
  | tries + 1, precision =>
    let e := b.order - (precision : Int) + 1
    let (d, side) := b.floorAt e
    let below := b.holds d e && d != 0
    let above := b.holds (d + 1) e
    let up := match side with
      | .lt => false
      | .gt => true
      | .eq => d % 2 == 1
    if below && above then (if up then d + 1 else d, e)
    else if below then (d, e)
    else if above then (d + 1, e)
    else b.search tries (precision + 1)

/-- Moves the zeros at the end of the digits into the exponent. -/
def stripZeros : Nat → Nat → Int → Nat × Int
  | 0, d, e => (d, e)
  | steps + 1, d, e => if d % 10 = 0 ∧ d ≠ 0 then stripZeros steps (d / 10) (e + 1) else (d, e)

/-- The digits and the exponent of the shortest decimal that reads back as `m · 2 ^ q`. -/
def shortest (m : Nat) (q : Int) : Nat × Int :=
  let (d, e) := (neighbourhood m q).search 17 1
  stripZeros 20 d e

/-- The text of a finite double with digits `ds` and exponent `e` of the last of them. -/
def layOut (ds : List Char) (e : Int) : List Char :=
  let n : Int := ds.length
  let point := n + e
  if 0 ≤ e ∧ point ≤ 16 then ds ++ List.replicate e.natAbs '0' ++ ['.', '0']
  else if 0 < point ∧ point ≤ 16 then ds.take point.natAbs ++ '.' :: ds.drop point.natAbs
  else if -5 < point ∧ point ≤ 0 then '0' :: '.' :: List.replicate point.natAbs '0' ++ ds
  else
    let mantissa := match ds with
      | [d] => [d]
      | d :: rest => d :: '.' :: rest
      | [] => []
    mantissa ++ 'e' :: signedDecimal (point - 1)

/-- The text of a double; what is not finite has none and is written as null. -/
def writeReal : Binary64 → List Char
  | .finite s m q =>
    let body :=
      if m = 0 then ['0', '.', '0']
      else
        let (d, e) := shortest m q
        layOut (decimal d) e
    if s then '-' :: body else body
  | _ => "null".toList

end PanelSource.Number
