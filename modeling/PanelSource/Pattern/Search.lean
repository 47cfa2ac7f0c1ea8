import PanelSource.Pattern.Basic

/- The search for a match.

   A search keeps a mark for every gap of the text, `text.length + 1` of them: the gaps that a
   match may have reached so far. A pattern moves the marks from the gaps where its matches begin
   to those where they end, all at once, so that the work for a pattern without repetitions is its
   size times the length of the text. -/
namespace PanelSource.Pattern

/-- For every gap of a text, whether an assertion is true there. -/
def lookMarks (l : Look) : Option Char → List Char → List Bool
  | before, [] => [l.holds before none]
  | before, c :: rest => l.holds before (some c) :: lookMarks l (some c) rest

/-- Applies a step so many times, or until nothing changes. -/
def iterate (f : List Bool → List Bool) : Nat → List Bool → List Bool
  | 0, m => m
  | n + 1, m =>
    let m' := f m
    if m' = m then m else iterate f n m'

/-- The marks after a match of a pattern that began at one of the given marks. -/
def advance (text : List Char) : Pattern → List Bool → List Bool
  | .empty, m => m
  | .char s, m => false :: List.zipWith (fun c b => b && s.contains c.toNat) text m
  | .look l, m => List.zipWith (fun a b => a && b) m (lookMarks l none text)
  | .seq a b, m => advance text b (advance text a m)
  | .alt a b, m => List.zipWith (fun a b => a || b) (advance text a m) (advance text b m)
  | .times p least most, m =>
    let widen (m : List Bool) := List.zipWith (fun a b => a || b) m (advance text p m)
    let beyond := match most with
      | none => text.length
      | some k => k - least
    iterate widen beyond (iterate (advance text p) least m)

def occurs (p : Pattern) (text : List Char) : Bool :=
  (advance text p (List.replicate (text.length + 1) true)).any id

end PanelSource.Pattern
