import PanelSource.Text.Blank
import PanelSource.Number.Binary64

/- Spans of time, as panel editors type them: `5m`, `1h30m`, `250ms`, or bare seconds.

   A span is a whole number of nanoseconds below 2^64 seconds. `Span.read` takes the text apart
   into alternating runs of number characters and unit characters; each number is a double, it
   is multiplied by its unit in double arithmetic, and the product is rounded to the nearest
   nanosecond.

   Specification: SPEC_FULL, section 10.5. -/
namespace PanelSource
open Number

/-- A length of time in nanoseconds. -/
structure Span where
  total : Nat
  total_lt : total < twoTo 64 * 1000000000 := by decide
  deriving DecidableEq

instance : Repr Span := ⟨fun s _ => repr s.total⟩

/-- Why a text is not a span. -/
inductive SpanError where
  | invalid (input : String)
  | unknownUnit (input unit : String)
  deriving DecidableEq, Repr

def SpanError.message : SpanError → String
  | .invalid input => s!"invalid duration '{input}'"
  | .unknownUnit input unit => s!"unknown unit '{unit}' in duration '{input}'"

namespace Span

def zero : Span := { total := 0 }

instance : Inhabited Span := ⟨zero⟩

def seconds (s : Span) : Nat := s.total / 1000000000

/-- Nanoseconds past the whole seconds. -/
def nanos (s : Span) : Nat := s.total % 1000000000

def isZero (s : Span) : Bool := s.total == 0

def ofNanos? (n : Nat) : Option Span :=
  if h : n < twoTo 64 * 1000000000 then some ⟨n, h⟩ else none

def ofSeconds? (n : Nat) : Option Span := ofNanos? (n * 1000000000)

def ofSeconds (n : Nat) (h : n < twoTo 64 := by decide) : Span :=
  ⟨n * 1000000000, Nat.mul_lt_mul_of_pos_right h (by decide)⟩

def add? (a b : Span) : Option Span := ofNanos? (a.total + b.total)

/-- The span nearest to a double's worth of seconds; a tie goes to the even nanosecond. -/
def ofReal? : Binary64 → Option Span
  | .finite negative m q =>
    if negative ∧ m ≠ 0 then none
    else
      let (n, d) := Binary64.ratio m q
      if n < twoTo 64 * d then ofNanos? (roundHalfEven (n * 1000000000) d) else none
  | _ => none

/-- The seconds in one unit. -/
def unitSeconds (unit : String) : Option Binary64 :=
  match unit with
  | "ns" => some (.ofDecimal false 1 (-9))
  | "us" => some (.ofDecimal false 1 (-6))
  | "µs" => some (.ofDecimal false 1 (-6))
  | "ms" => some (.ofDecimal false 1 (-3))
  | "s" => some (.ofDecimal false 1 0)
  | "m" => some (.ofDecimal false 60 0)
  | "h" => some (.ofDecimal false 3600 0)
  | _ => none

/-- The characters that numbers are written with; all others belong to units. -/
def isNumeric (c : Char) : Bool := isDigit c || c == '.'

/-- The maximal runs of number characters and of unit characters, in order. -/
def runs (cs : List Char) : List (List Char) := cs.splitBy fun a b => isNumeric a == isNumeric b

/-- Adds up number and unit runs; `input` is the text that errors name. -/
def readRuns (input : String) : Span → List (List Char) → Except SpanError Span
  | sum, [] => .ok sum
  | _, [_] => .error (.invalid input)
  | sum, number :: unit :: rest =>
    match readUnsigned false number with
    | none => .error (.invalid input)
    | some value =>
      match unitSeconds (String.ofList unit) with
      | none => .error (.unknownUnit input (String.ofList unit))
      | some per =>
        match (ofReal? (value.mul per)).bind sum.add? with
        | none => .error (.invalid input)
        | some sum => readRuns input sum rest

/-- Reads a span. Blank text is zero and a bare integer counts seconds. -/
def read (input : String) : Except SpanError Span :=
  match Text.strip input.toList with
  | [] => .ok zero
  | cs =>
    match (readNatural uint64Max cs).toOption.bind ofSeconds? with
    | some s => .ok s
    | none => readRuns input zero (runs cs)

end Span
end PanelSource
