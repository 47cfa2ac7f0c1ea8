import PanelSource.Text.Word

/- References to template variables inside a text.

   A reference is `$name`, `${name}`, `${name:format}`, `[[name]]` or `[[name:format]]`, where
   names and formats are words. `segments` cuts a text, from the left and without overlap, into
   references and the characters between them; `source_segments` says that nothing is lost. -/
namespace PanelSource.Variable

/-- The longest word at the front of a text, if there is one, and what follows it. -/
def takeWord (cs : List Char) : Option (List Char × List Char) :=
  match cs.takeWhile Text.isWord with
  | [] => none
  | c :: w => some (c :: w, cs.dropWhile Text.isWord)

/-- What follows a `:format`, or the text itself where none stands. -/
def skipFormat : List Char → List Char
  | ':' :: rest =>
    match takeWord rest with
    | some (_, rest) => rest
    | none => ':' :: rest
  | cs => cs

/-- The name that a reference at the front of a text refers to, and what follows it. -/
def reference? : List Char → Option (List Char × List Char)
  | '$' :: '\x7b' :: rest =>
    match takeWord rest with
    | some (name, rest) =>
      match skipFormat rest with
      | '\x7d' :: rest => some (name, rest)
      | _ => none
    | none => none
  | '$' :: rest => takeWord rest
  | '[' :: '[' :: rest =>
    match takeWord rest with
    | some (name, rest) =>
      match skipFormat rest with
      | ']' :: ']' :: rest => some (name, rest)
      | _ => none
    | none => none
  | _ => none

theorem takeWord_eq {cs w r : List Char} (h : takeWord cs = some (w, r)) : cs = w ++ r := by
  unfold takeWord at h
  split at h
  · exact absurd h (by simp)
  · rename_i c w' hw
    simp only [Option.some.injEq, Prod.mk.injEq] at h
    rw [← h.1, ← h.2, ← hw, List.takeWhile_append_dropWhile]

theorem takeWord_ne_nil {cs w r : List Char} (h : takeWord cs = some (w, r)) : w ≠ [] := by
  unfold takeWord at h
  split at h
  · exact absurd h (by simp)
  · simp only [Option.some.injEq, Prod.mk.injEq] at h
    simp [← h.1]

theorem takeWord_suffix {cs w r : List Char} (h : takeWord cs = some (w, r)) : r <:+ cs :=
  ⟨w, (takeWord_eq h).symm⟩

theorem takeWord_length {cs w r : List Char} (h : takeWord cs = some (w, r)) :
    r.length < cs.length := by
  have hw := List.length_pos_iff.2 (takeWord_ne_nil h)
  have he := congrArg List.length (takeWord_eq h)
  simp at he
  omega

theorem skipFormat_suffix (cs : List Char) : skipFormat cs <:+ cs := by
  unfold skipFormat
  split
  · split
    · rename_i h
      exact (takeWord_suffix h).trans (List.suffix_cons _ _)
    · exact List.suffix_refl _
  · exact List.suffix_refl _

/-- What follows a reference ends the text, and the reference takes characters off it. -/
theorem reference?_rest {cs name r : List Char} (h : reference? cs = some (name, r)) :
    r <:+ cs ∧ r.length < cs.length := by
  have bracketed : ∀ {rest w r' : List Char} {a b : Char},
      takeWord rest = some (w, r') → r <:+ skipFormat r' →
      r <:+ a :: b :: rest ∧ r.length < (a :: b :: rest).length := by
    intro rest w r' a b hw hr
    have hs : r <:+ rest := hr.trans ((skipFormat_suffix r').trans (takeWord_suffix hw))
    exact ⟨hs.trans ((List.suffix_cons b rest).trans (List.suffix_cons a _)),
      Nat.lt_of_le_of_lt hs.length_le (by simp only [List.length_cons]; omega)⟩
  unfold reference? at h
  split at h
  · split at h
    · rename_i hw
      split at h
      · rename_i hs
        simp only [Option.some.injEq, Prod.mk.injEq] at h
        exact bracketed hw (by rw [hs, ← h.2]; exact List.suffix_cons _ _)
      · exact absurd h (by simp)
    · exact absurd h (by simp)
  · rename_i rest _
    exact ⟨(takeWord_suffix h).trans (List.suffix_cons _ _),
      Nat.lt_succ_of_lt (takeWord_length h)⟩
  · split at h
    · rename_i hw
      split at h
      · rename_i hs
        simp only [Option.some.injEq, Prod.mk.injEq] at h
        refine bracketed hw ?_
        rw [hs, ← h.2]
        exact (List.suffix_cons _ _).trans (List.suffix_cons _ _)
      · exact absurd h (by simp)
    · exact absurd h (by simp)
  · exact absurd h (by simp)

/-- A piece of a text: one plain character, or a reference with its spelling and its name. -/
inductive Segment where
  | plain (c : Char)
  | reference (spelling name : List Char)
  deriving DecidableEq, Repr

def Segment.source : Segment → List Char
  | .plain c => [c]
  | .reference spelling _ => spelling

/-- The segments of a text, from the left; a reference is taken wherever one starts. -/
def segments (cs : List Char) : List Segment :=
  match _h : reference? cs with
  | some (name, rest) =>
    .reference (cs.take (cs.length - rest.length)) name :: segments rest
  | none =>
    match cs with
    | [] => []
    | c :: rest => .plain c :: segments rest
termination_by cs.length
decreasing_by
  · exact (reference?_rest _h).2
  · simp

/-- Cutting a text into segments loses nothing of it. -/
theorem source_segments (cs : List Char) : (segments cs).flatMap Segment.source = cs := by
  fun_induction segments cs with
  | case1 cs name rest h ih =>
    obtain ⟨p, hp⟩ := (reference?_rest h).1
    subst hp
    simp [Segment.source, ih]
  | case2 => simp
  | case3 c rest _ ih => simp [Segment.source, ih]

end PanelSource.Variable
