import PanelSource.Text.Front

/- Legends: the names of series, made from the labels of a row.

   A label is a column and its value. Without a format a legend lists all labels; a format is
   text with placeholders `{{ column }}`. A placeholder becomes the value of the first label of
   that column and stays as it is written where there is none. Values that come in are not
   searched for placeholders.

   Specification: SPEC_FULL, section 10.4. -/
namespace PanelSource.Frame
open Text

abbrev Label := String × String

/-- What follows closing braces, after blanks. -/
def afterBraces (cs : List Char) : Option (List Char) :=
  match stripStart cs with
  | '\x7d' :: '\x7d' :: rest => some rest
  | _ => none

/-- The column of a placeholder at the front of a format, and what follows it. -/
def placeholder? : List Char → Option (List Char × List Char)
  | '\x7b' :: '\x7b' :: rest =>
    (frontAfterBlanks afterBraces rest).map fun (name, rest) => (strip name, rest)
  | _ => none

theorem afterBraces_rest {cs rest : List Char} (h : afterBraces cs = some rest) : rest <:+ cs := by
  unfold afterBraces at h
  split at h
  · rename_i r hs
    simp only [Option.some.injEq] at h
    subst h
    have := List.dropWhile_suffix (l := cs) isBlank
    rw [show cs.dropWhile isBlank = stripStart cs from rfl, hs] at this
    exact ((List.suffix_cons _ _).trans (List.suffix_cons _ _)).trans this
  · exact absurd h (by simp)

theorem placeholder?_rest {cs name r : List Char} (h : placeholder? cs = some (name, r)) :
    r <:+ cs ∧ r.length < cs.length := by
  unfold placeholder? at h
  split at h
  · rename_i rest
    obtain ⟨⟨n, r'⟩, hf, he⟩ := Option.map_eq_some_iff.1 h
    simp only [Prod.mk.injEq] at he
    obtain ⟨t, hs, hl, ht⟩ := frontAfterBlanks_rest hf
    have hr : r <:+ rest := he.2 ▸ (afterBraces_rest ht).trans hs
    exact ⟨hr.trans ((List.suffix_cons _ _).trans (List.suffix_cons _ _)),
      Nat.lt_of_le_of_lt hr.length_le (by simp only [List.length_cons]; omega)⟩
  · exact absurd h (by simp)

/-- A piece of a format: one plain character, or a placeholder with its spelling and column. -/
inductive LegendPart where
  | plain (c : Char)
  | placeholder (spelling column : List Char)
  deriving DecidableEq, Repr

/-- The parts of a format, from the left; a placeholder is taken wherever one starts. -/
def legendParts (cs : List Char) : List LegendPart :=
  match _h : placeholder? cs with
  | some (column, rest) =>
    .placeholder (cs.take (cs.length - rest.length)) column :: legendParts rest
  | none =>
    match cs with
    | [] => []
    | c :: rest => .plain c :: legendParts rest
termination_by cs.length
decreasing_by
  · exact (placeholder?_rest _h).2
  · simp

def LegendPart.render (labels : List Label) : LegendPart → List Char
  | .plain c => [c]
  | .placeholder spelling column =>
    match labels.lookup (String.ofList column) with
    | some v => v.toList
    | none => spelling

/-- The legend that lists all labels. -/
def listLabels (labels : List Label) : String :=
  "\x7b" ++ ",".intercalate (labels.map fun l => l.1 ++ "=\"" ++ l.2 ++ "\"") ++ "\x7d"

/-- The legend of a row with these labels. -/
def legend (format : String) (labels : List Label) : String :=
  if format = "" then listLabels labels
  else String.ofList ((legendParts format.toList).flatMap (LegendPart.render labels))

end PanelSource.Frame
