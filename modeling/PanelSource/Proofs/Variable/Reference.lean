import PanelSource.Variable.Reference

/- How references to variables are spelled.

   `Spells name cs` says that `cs` is one of the spellings of a reference to `name`: `$name`,
   `${name}` or `[[name]]`, the last two with a format or without one. Reading finds a reference in
   front of a text exactly where a spelling stands, of which the first kind takes in all word
   characters there are (`reference?_eq_some_iff`). -/
namespace PanelSource.Variable
open Text

/-- Word characters, at least one of them. -/
structure Word (cs : List Char) : Prop where
  ne_nil : cs ≠ []
  isWord : ∀ c ∈ cs, isWord c = true

/-- A format behind a name, or no format. -/
inductive Format : List Char → Prop
  | absent : Format []
  | present {w : List Char} (h : Word w) : Format (':' :: w)

/-- The spellings of a reference to a name. -/
inductive Spells (name : List Char) : List Char → Prop
  | dollar (h : Word name) : Spells name ('$' :: name)
  | braced {f : List Char} (h : Word name) (hf : Format f) :
      Spells name ('$' :: '\x7b' :: (name ++ (f ++ ['\x7d'])))
  | bracketed {f : List Char} (h : Word name) (hf : Format f) :
      Spells name ('[' :: '[' :: (name ++ (f ++ [']', ']'])))

/-- No word character stands at the front of a text. -/
def NoWordAhead (cs : List Char) : Prop := ∀ c ∈ cs.head?, isWord c = false

theorem Spells.word {name cs : List Char} (h : Spells name cs) : Word name := by
  cases h with
  | dollar h => exact h
  | braced h _ => exact h
  | bracketed h _ => exact h

theorem noWordAhead_nil : NoWordAhead [] := by
  intro c hc
  cases hc

theorem noWordAhead_cons {c : Char} (h : isWord c = false) (cs : List Char) :
    NoWordAhead (c :: cs) := by
  intro d hd
  cases hd
  exact h

/-! ## Words and formats -/

theorem takeWord_word {w rest : List Char} (hw : Word w) (hr : NoWordAhead rest) :
    takeWord (w ++ rest) = some (w, rest) := by
  have htake : rest.takeWhile isWord = [] ∧ rest.dropWhile isWord = rest := by
    cases rest with
    | nil => exact ⟨rfl, rfl⟩
    | cons c r =>
      have hc : isWord c = false := hr c rfl
      simp [hc]
  unfold takeWord
  rw [List.takeWhile_append_of_pos hw.isWord, List.dropWhile_append_of_pos hw.isWord, htake.1,
    htake.2, List.append_nil]
  cases w with
  | nil => exact absurd rfl hw.ne_nil
  | cons c w => rfl

theorem takeWord_eq_some_iff {cs w rest : List Char} :
    takeWord cs = some (w, rest) ↔ Word w ∧ NoWordAhead rest ∧ cs = w ++ rest := by
  constructor
  · intro h
    have hpart : w = cs.takeWhile isWord ∧ rest = cs.dropWhile isWord := by
      unfold takeWord at h
      split at h
      · cases h
      · rename_i c w' hw
        simp only [Option.some.injEq, Prod.mk.injEq] at h
        exact ⟨by rw [hw, h.1], h.2.symm⟩
    refine ⟨⟨takeWord_ne_nil h, ?_⟩, ?_, takeWord_eq h⟩
    · intro d hd
      rw [hpart.1] at hd
      exact List.all_eq_true.mp List.all_takeWhile d hd
    · intro d hd
      have := List.head?_dropWhile_not isWord cs
      rw [← hpart.2, hd] at this
      simpa using this
  · rintro ⟨hw, hr, rfl⟩
    exact takeWord_word hw hr

theorem skipFormat_format {f rest : List Char} {c : Char} (hf : Format f) (hc : isWord c = false)
    (hcolon : c ≠ ':') : skipFormat (f ++ c :: rest) = c :: rest := by
  cases hf with
  | absent =>
    unfold skipFormat
    split
    · rename_i heq
      cases heq
      exact absurd rfl hcolon
    · rfl
  | present h =>
    rw [List.cons_append, skipFormat, takeWord_word h (noWordAhead_cons hc rest)]

/-- What is left after skipping a format stands behind a format, unless it begins with a colon. -/
theorem eq_append_of_skipFormat {cs rest : List Char} {c : Char}
    (h : skipFormat cs = c :: rest) (hcolon : c ≠ ':') :
    ∃ f, Format f ∧ cs = f ++ c :: rest := by
  unfold skipFormat at h
  split at h
  · split at h
    · rename_i w r hw
      subst h
      obtain ⟨hword, -, rfl⟩ := takeWord_eq_some_iff.mp hw
      exact ⟨_, .present hword, rfl⟩
    · cases h
      exact absurd rfl hcolon
  · exact ⟨[], .absent, h⟩

theorem eq_of_takeWord_skipFormat {cs w r rest : List Char} {c : Char}
    (hw : takeWord cs = some (w, r)) (hs : skipFormat r = c :: rest) (hcolon : c ≠ ':') :
    Word w ∧ ∃ f, Format f ∧ cs = w ++ (f ++ c :: rest) := by
  obtain ⟨hword, -, rfl⟩ := takeWord_eq_some_iff.mp hw
  obtain ⟨f, hf, rfl⟩ := eq_append_of_skipFormat hs hcolon
  exact ⟨hword, f, hf, rfl⟩

/-! ## References -/

theorem noWordAhead_format {f rest : List Char} {c : Char} (hf : Format f)
    (hc : isWord c = false) : NoWordAhead (f ++ c :: rest) := by
  cases hf with
  | absent => exact noWordAhead_cons hc rest
  | present h => exact noWordAhead_cons (by decide) _

/-- A spelling in front of a text is read, all of it. -/
theorem reference?_spelling {name spelling rest : List Char} (h : Spells name spelling)
    (hr : spelling = '$' :: name → NoWordAhead rest) :
    reference? (spelling ++ rest) = some (name, rest) := by
  cases h with
  | dollar hw =>
    have htake := takeWord_word hw (hr rfl)
    cases name with
    | nil => exact absurd rfl hw.ne_nil
    | cons c w =>
      have hc : isWord c = true := hw.isWord c List.mem_cons_self
      simp only [List.cons_append] at htake ⊢
      -- The name begins with a word character, which neither bracket is.
      unfold reference?
      split
      · rename_i heq
        cases heq
        cases hc
      · rename_i heq
        cases heq
        exact htake
      · rename_i heq
        cases heq
      · rename_i heq _
        exact absurd rfl (heq _)
  | braced hw hf =>
    simp only [List.cons_append, List.append_assoc, reference?, List.nil_append]
    rw [takeWord_word hw (noWordAhead_format hf (by decide))]
    simp only
    rw [skipFormat_format hf (by decide) (by decide)]
    rfl
  | bracketed hw hf =>
    simp only [List.cons_append, List.append_assoc, reference?, List.nil_append]
    rw [takeWord_word hw (noWordAhead_format hf (by decide))]
    simp only
    rw [skipFormat_format hf (by decide) (by decide)]
    rfl

/-- What is read as a reference is a spelling of one. -/
theorem spells_of_reference? {cs name rest : List Char} (h : reference? cs = some (name, rest)) :
    ∃ spelling, Spells name spelling ∧ cs = spelling ++ rest ∧
      (spelling = '$' :: name → NoWordAhead rest) := by
  unfold reference? at h
  split at h
  · -- `${name}`
    split at h
    · rename_i w r hw
      split at h
      · rename_i r' hs
        simp only [Option.some.injEq, Prod.mk.injEq] at h
        obtain ⟨rfl, rfl⟩ := h
        obtain ⟨hword, f, hf, rfl⟩ := eq_of_takeWord_skipFormat hw hs (by decide)
        refine ⟨_, .braced hword hf, by simp, ?_⟩
        -- This is no spelling without braces, for a name has no brace in it.
        intro heq
        cases w with
        | nil => exact absurd rfl hword.ne_nil
        | cons c w =>
          have hc := hword.isWord c List.mem_cons_self
          simp only [List.cons.injEq, true_and] at heq
          rw [← heq.1] at hc
          cases hc
      · cases h
    · cases h
  · -- `$name`
    obtain ⟨hword, hr, rfl⟩ := takeWord_eq_some_iff.mp h
    exact ⟨_, .dollar hword, rfl, fun _ => hr⟩
  · -- `[[name]]`
    split at h
    · rename_i w r hw
      split at h
      · rename_i r' hs
        simp only [Option.some.injEq, Prod.mk.injEq] at h
        obtain ⟨rfl, rfl⟩ := h
        obtain ⟨hword, f, hf, rfl⟩ := eq_of_takeWord_skipFormat hw hs (by decide)
        refine ⟨_, .bracketed hword hf, by simp, ?_⟩
        intro heq
        cases heq
      · cases h
    · cases h
  · cases h

/-- A reference is read in front of a text exactly where a spelling of it stands. -/
theorem reference?_eq_some_iff {cs name rest : List Char} :
    reference? cs = some (name, rest) ↔
      ∃ spelling, Spells name spelling ∧ cs = spelling ++ rest ∧
        (spelling = '$' :: name → NoWordAhead rest) := by
  constructor
  · exact spells_of_reference?
  · rintro ⟨spelling, hs, rfl, hr⟩
    exact reference?_spelling hs hr

end PanelSource.Variable
