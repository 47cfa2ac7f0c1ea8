import Mathlib.Data.List.Basic

/- Lists in the order of a key.

   Sorting leaves elements that may stand either way round as they came
   (`filter_mergeSort_of_tied`). A list in the order of its keys is told by what it has of each key
   (`eq_of_ordered`). So a list has one stably sorted list (`StablySorted.unique`), and the merge
   sort makes it (`stablySorted_mergeSort`). -/
namespace PanelSource

section
variable {α κ : Type}

/-- Sorting keeps the order of elements any two of which may stand either way round. -/
theorem filter_mergeSort_of_tied {le : α → α → Bool}
    (htrans : ∀ a b c, le a b → le b c → le a c) (htotal : ∀ a b, le a b || le b a)
    {p : α → Bool} (htied : ∀ a b, p a → p b → le a b) (xs : List α) :
    (xs.mergeSort le).filter p = xs.filter p := by
  have hpairwise : (xs.filter p).Pairwise (le · ·) := by
    apply List.pairwise_of_forall_mem_list
    intro a ha b hb
    exact htied a b (List.mem_filter.mp ha).2 (List.mem_filter.mp hb).2
  have hkept : (xs.filter p).Sublist (xs.mergeSort le) :=
    List.sublist_mergeSort htrans htotal hpairwise List.filter_sublist
  have hsub : (xs.filter p).Sublist ((xs.mergeSort le).filter p) := by
    simpa only [List.filter_filter, Bool.and_self] using hkept.filter p
  have hlength := ((List.mergeSort_perm xs le).filter p).length_eq
  exact (hsub.eq_of_length hlength.symm).symm

theorem eq_or_rel_head {r : α → α → Prop} {x y : α} {xs : List α} (h : (x :: xs).Pairwise r)
    (hy : y ∈ x :: xs) : y = x ∨ r x y := by
  rcases List.mem_cons.mp hy with rfl | hy
  · exact .inl rfl
  · exact .inr (List.rel_of_pairwise_cons h hy)

theorem mem_iff_of_ties [DecidableEq κ] {key : α → κ} {xs ys : List α}
    (h : ∀ k, (xs.filter fun a => key a = k) = ys.filter fun a => key a = k) (a : α) :
    a ∈ xs ↔ a ∈ ys := by
  have hkey : (a ∈ xs.filter fun b => key b = key a) ↔ a ∈ ys.filter fun b => key b = key a := by
    rw [h]
  simpa using hkey

/-- Lists in the order of their keys are told by their elements of each key. -/
theorem eq_of_ordered [DecidableEq κ] {key : α → κ} {le : κ → κ → Prop}
    (hantisymm : ∀ k l, le k l → le l k → k = l) {xs ys : List α}
    (hxs : xs.Pairwise fun a b => le (key a) (key b))
    (hys : ys.Pairwise fun a b => le (key a) (key b))
    (h : ∀ k, (xs.filter fun a => key a = k) = ys.filter fun a => key a = k) : xs = ys := by
  have hmem := mem_iff_of_ties h
  induction xs generalizing ys with
  | nil =>
    cases ys with
    | nil => rfl
    | cons y ys => exact absurd ((hmem y).mpr List.mem_cons_self) List.not_mem_nil
  | cons x xs ih =>
    cases ys with
    | nil => exact absurd ((hmem x).mp List.mem_cons_self) List.not_mem_nil
    | cons y ys =>
      -- Each head comes no later than the other one, so both are of one key.
      have hkeys : key x = key y := by
        rcases eq_or_rel_head hys ((hmem x).mp List.mem_cons_self) with rfl | hyx
        · rfl
        · rcases eq_or_rel_head hxs ((hmem y).mpr List.mem_cons_self) with rfl | hxy
          · rfl
          · exact hantisymm _ _ hxy hyx
      have hheads := h (key x)
      rw [List.filter_cons_of_pos (by simp), List.filter_cons_of_pos (by simp [hkeys])] at hheads
      obtain ⟨rfl, hsame⟩ := List.cons.inj hheads
      have htails : ∀ k, (xs.filter fun a => key a = k) = ys.filter fun a => key a = k := by
        intro k
        by_cases hk : key x = k
        · subst hk
          exact hsame
        · have hother := h k
          rwa [List.filter_cons_of_neg (by simpa using hk),
            List.filter_cons_of_neg (by simpa using hk)] at hother
      rw [ih hxs.of_cons hys.of_cons htails (mem_iff_of_ties htails)]

end

/-- A list in the order of a key, where elements of one key stand as they came. -/
structure StablySorted {α : Type} (key : α → Int) (xs sorted : List α) : Prop where
  perm : sorted.Perm xs
  ordered : sorted.Pairwise fun a b => key a ≤ key b
  ties : ∀ k, (sorted.filter fun a => key a = k) = xs.filter fun a => key a = k

namespace StablySorted
variable {α : Type} {key : α → Int} {xs sorted sorted' : List α}

theorem unique (h : StablySorted key xs sorted) (h' : StablySorted key xs sorted') :
    sorted = sorted' :=
  eq_of_ordered (fun _ _ => Int.le_antisymm) h.ordered h'.ordered fun k =>
    (h.ties k).trans (h'.ties k).symm

end StablySorted

theorem stablySorted_mergeSort {α : Type} (key : α → Int) (xs : List α) :
    StablySorted key xs (xs.mergeSort fun a b => key a ≤ key b) := by
  have htrans : ∀ a b c, decide (key a ≤ key b) → decide (key b ≤ key c) →
      decide (key a ≤ key c) := by
    intro a b c
    simp only [decide_eq_true_eq]
    omega
  have htotal : ∀ a b, decide (key a ≤ key b) || decide (key b ≤ key a) := by
    intro a b
    simp only [Bool.or_eq_true, decide_eq_true_eq]
    omega
  refine ⟨List.mergeSort_perm _ _, ?_, fun k => ?_⟩
  · simpa using List.pairwise_mergeSort htrans htotal xs
  · apply filter_mergeSort_of_tied htrans htotal
    intro a b ha hb
    simp only [decide_eq_true_eq] at *
    omega

end PanelSource
