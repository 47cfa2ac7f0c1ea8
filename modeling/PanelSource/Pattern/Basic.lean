import PanelSource.Pattern.CharSet

/- Patterns and the texts that they match.

   `Matches p before mid after` says that a pattern matches `mid` where it stands between `before`
   and `after`; the surroundings matter to assertions only. Which of several matches a reader of
   patterns would prefer plays no part here: a pattern is asked only whether it matches. -/
namespace PanelSource

namespace Pattern

/-- What must be true of a gap between two characters. -/
inductive Look where
  | start
  | stop
  | lineStart
  | lineStop
  /-- Line ends are line feeds, carriage returns, or one before the other. -/
  | anyLineStart
  | anyLineStop
  | boundary (ascii : Bool)
  | noBoundary (ascii : Bool)
  | wordStart (ascii : Bool)
  | wordStop (ascii : Bool)
  /-- No word character stands before the gap. -/
  | wordStartHalf (ascii : Bool)
  /-- No word character stands after the gap. -/
  | wordStopHalf (ascii : Bool)
  deriving DecidableEq, Repr, Inhabited

def isWordAt (ascii : Bool) (c : Option Char) : Bool :=
  c.any fun c => (if ascii then CharSet.asciiWord else CharSet.word).contains c.toNat

/-- Whether an assertion is true between two characters; there is none at the ends of the text. -/
def Look.holds (before after : Option Char) : Look → Bool
  | start => before.isNone
  | stop => after.isNone
  | lineStart => before.isNone || before == some '\n'
  | lineStop => after.isNone || after == some '\n'
  | anyLineStart =>
    before.isNone || before == some '\n' || (before == some '\r' && after != some '\n')
  | anyLineStop =>
    after.isNone || after == some '\r' || (after == some '\n' && before != some '\r')
  | boundary a => isWordAt a before != isWordAt a after
  | noBoundary a => isWordAt a before == isWordAt a after
  | wordStart a => !isWordAt a before && isWordAt a after
  | wordStop a => isWordAt a before && !isWordAt a after
  | wordStartHalf a => !isWordAt a before
  | wordStopHalf a => !isWordAt a after

end Pattern

inductive Pattern where
  | empty
  | char (s : Pattern.CharSet)
  | look (l : Pattern.Look)
  | seq (a b : Pattern)
  | alt (a b : Pattern)
  /-- So many times at least, and at most so many times if there is a limit. -/
  | times (p : Pattern) (least : Nat) (most : Option Nat)
  deriving DecidableEq, Repr, Inhabited

namespace Pattern

inductive Matches : Pattern → List Char → List Char → List Char → Prop
  | empty {x z} : Matches .empty x [] z
  | char {s x z} {c : Char} (h : s.contains c.toNat = true) : Matches (.char s) x [c] z
  | look {l : Look} {x z} (h : l.holds x.getLast? z.head? = true) : Matches (.look l) x [] z
  | seq {a b x u v z} (ha : Matches a x u (v ++ z)) (hb : Matches b (x ++ u) v z) :
      Matches (.seq a b) x (u ++ v) z
  | left {a b x u z} (h : Matches a x u z) : Matches (.alt a b) x u z
  | right {a b x u z} (h : Matches b x u z) : Matches (.alt a b) x u z
  | done {p most x z} : Matches (.times p 0 most) x [] z
  | more {p least most x u v z} (hp : Matches p x u (v ++ z)) (hm : most ≠ some 0)
      (hr : Matches (.times p (least - 1) (most.map (· - 1))) (x ++ u) v z) :
      Matches (.times p least most) x (u ++ v) z

def Occurs (p : Pattern) (text : List Char) : Prop :=
  ∃ x u z, text = x ++ u ++ z ∧ Matches p x u z

end Pattern
end PanelSource
