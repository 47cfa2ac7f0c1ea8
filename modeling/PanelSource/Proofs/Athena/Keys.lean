import PanelSource.Athena.Runner
import PanelSource.Proofs.Number.Decimal

/- Keys of caches tell what they were made of.

   A region without slashes ends at the first slash of a key, and a row limit begins after the last
   one, since a number in decimal has none. What stands between them may hold any characters. Where
   the name of a region has a slash, a key may be cut at another slash as well, and these are the
   only keys that two regions share (`workGroupKey_eq_iff`, `rowsKey_eq_iff`). -/
namespace PanelSource

namespace Number

theorem slash_not_mem_signedDecimal (i : Int) : '/' ∉ signedDecimal i := by
  have hdigits : ∀ n, '/' ∉ decimal n := fun n h =>
    absurd (isDigit_of_mem_decimal h) (by decide)
  unfold signedDecimal
  split
  · intro h
    rcases List.mem_cons.mp h with h | h
    · exact absurd h (by decide)
    · exact hdigits _ h
  · exact hdigits _

end Number

namespace AthenaBackend

/-! ## Texts that are cut at a slash -/

/-- One text is cut at a slash in two ways: at the same one, or at one before another. -/
theorem cons_slash_eq_iff {r r' x x' : List Char} : r ++ '/' :: x = r' ++ '/' :: x' ↔
    (r = r' ∧ x = x') ∨ (∃ m, r = r' ++ '/' :: m ∧ x' = m ++ '/' :: x) ∨
      ∃ m, r' = r ++ '/' :: m ∧ x = m ++ '/' :: x' := by
  constructor
  · intro h
    rcases List.append_eq_append_iff.mp h with ⟨m, hr, hx⟩ | ⟨m, hr, hx⟩
    · cases m with
      | nil =>
        simp only [List.append_nil, List.nil_append, List.cons.injEq, true_and] at hr hx
        exact .inl ⟨hr.symm, hx⟩
      | cons c m =>
        simp only [List.cons_append, List.cons.injEq] at hx
        obtain ⟨rfl, hx⟩ := hx
        exact .inr (.inr ⟨m, hr, hx⟩)
    · cases m with
      | nil =>
        simp only [List.append_nil, List.nil_append, List.cons.injEq, true_and] at hr hx
        exact .inl ⟨hr, hx.symm⟩
      | cons c m =>
        simp only [List.cons_append, List.cons.injEq] at hx
        obtain ⟨rfl, hx⟩ := hx
        exact .inr (.inl ⟨m, hr, hx⟩)
  · rintro (⟨rfl, rfl⟩ | ⟨m, rfl, rfl⟩ | ⟨m, rfl, rfl⟩)
    · rfl
    · simp
    · simp

/-- What stands before the last slash, and what stands after it. -/
theorem append_slash_inj {r r' x x' : List Char} (h : '/' ∉ x) (h' : '/' ∉ x')
    (heq : r ++ '/' :: x = r' ++ '/' :: x') : r = r' ∧ x = x' := by
  rcases cons_slash_eq_iff.mp heq with hsame | ⟨m, -, rfl⟩ | ⟨m, -, rfl⟩
  · exact hsame
  · exact absurd (by simp) h'
  · exact absurd (by simp) h

/-- What the first of two texts ends in, behind a slash, begins the second one of the other two. -/
def Overlaps (first second first' second' : String) : Prop :=
  ∃ middle, first = first' ++ "/" ++ middle ∧ second' = middle ++ "/" ++ second

/-- Two texts are two others, or the same text is cut at two slashes. -/
inductive JoinAlike (first second first' second' : String) : Prop
  | same (hfirst : first = first') (hsecond : second = second')
  | longer (h : Overlaps first second first' second')
  | shorter (h : Overlaps first' second' first second)

theorem JoinAlike.eq_of_no_slash {first second first' second' : String}
    (h : JoinAlike first second first' second') (hslash : '/' ∉ first.toList)
    (hslash' : '/' ∉ first'.toList) : first = first' ∧ second = second' := by
  cases h with
  | same hfirst hsecond => exact ⟨hfirst, hsecond⟩
  | longer h =>
    obtain ⟨middle, rfl, -⟩ := h
    exact absurd (by simp) hslash
  | shorter h =>
    obtain ⟨middle, rfl, -⟩ := h
    exact absurd (by simp) hslash'

theorem overlaps_iff {first second first' second' : String} :
    Overlaps first second first' second' ↔ ∃ m, first.toList = first'.toList ++ '/' :: m ∧
      second'.toList = m ++ '/' :: second.toList := by
  constructor
  · rintro ⟨middle, rfl, rfl⟩
    exact ⟨middle.toList, by simp, by simp⟩
  · rintro ⟨m, hfirst, hsecond⟩
    refine ⟨String.ofList m, String.toList_inj.mp ?_, String.toList_inj.mp ?_⟩
    · simpa using hfirst
    · simpa using hsecond

theorem joinAlike_iff {first second first' second' : String} :
    JoinAlike first second first' second' ↔
      first.toList ++ '/' :: second.toList = first'.toList ++ '/' :: second'.toList := by
  rw [cons_slash_eq_iff, String.toList_inj, String.toList_inj, ← overlaps_iff, ← overlaps_iff]
  constructor
  · rintro (⟨hfirst, hsecond⟩ | h | h)
    · exact .inl ⟨hfirst, hsecond⟩
    · exact .inr (.inl h)
    · exact .inr (.inr h)
  · rintro (⟨hfirst, hsecond⟩ | h | h)
    · exact .same hfirst hsecond
    · exact .longer h
    · exact .shorter h

/-! ## Keys -/

section
variable {region region' workGroup workGroup' what what' : String} {maxRows maxRows' : Int}

theorem workGroupKey_eq_iff : workGroupKey region workGroup = workGroupKey region' workGroup' ↔
    JoinAlike region workGroup region' workGroup' := by
  have htext : ∀ region workGroup, (workGroupKey region workGroup).toList =
      region.toList ++ '/' :: workGroup.toList := by simp [workGroupKey]
  rw [joinAlike_iff, ← String.toList_inj, htext, htext]

theorem rowsKey_eq_iff : rowsKey region what maxRows = rowsKey region' what' maxRows' ↔
    maxRows = maxRows' ∧ JoinAlike region what region' what' := by
  have htext : ∀ region what maxRows, (rowsKey region what maxRows).toList =
      (region.toList ++ '/' :: what.toList) ++ '/' :: Number.signedDecimal maxRows := by
    simp [rowsKey]
  rw [joinAlike_iff, ← String.toList_inj, htext, htext]
  constructor
  · intro h
    obtain ⟨hfront, hlimit⟩ := append_slash_inj (Number.slash_not_mem_signedDecimal _)
      (Number.slash_not_mem_signedDecimal _) h
    exact ⟨Number.signedDecimal_injective hlimit, hfront⟩
  · rintro ⟨rfl, h⟩
    rw [h]

/-- A region without slashes can be told from its key, and so can the workgroup. -/
theorem workGroupKey_inj (h : '/' ∉ region.toList) (h' : '/' ∉ region'.toList)
    (heq : workGroupKey region workGroup = workGroupKey region' workGroup') :
    region = region' ∧ workGroup = workGroup' :=
  (workGroupKey_eq_iff.mp heq).eq_of_no_slash h h'

/-- A key of rows tells the region, what is in it, and the row limit. -/
theorem rowsKey_inj (h : '/' ∉ region.toList) (h' : '/' ∉ region'.toList)
    (heq : rowsKey region what maxRows = rowsKey region' what' maxRows') :
    region = region' ∧ what = what' ∧ maxRows = maxRows' := by
  obtain ⟨hmax, hjoin⟩ := rowsKey_eq_iff.mp heq
  obtain ⟨hregion, hwhat⟩ := hjoin.eq_of_no_slash h h'
  exact ⟨hregion, hwhat, hmax⟩

end

end AthenaBackend
end PanelSource
