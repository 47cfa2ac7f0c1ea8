import Mathlib.Data.List.Induction
import PanelSource.Frame.Convert
import PanelSource.Proofs.Sorting

/- The rows that have a time, in the order of their times.

   A column is the one that an option means when it is the last with the option's name (`LastAt`).
   The timeline of rows has those with a cell in the timestamp column, stably sorted by the times
   that their cells state (`Timeline`). There is one timeline at most (`Timeline.unique`), and
   wherever the rows can be put in order, they are put in the order of their timeline
   (`timeline_of_rowsByTime`). -/
namespace PanelSource

theorem ok_of_bind_ok {ε α β : Type} {x : Except ε α} {f : α → Except ε β} {b : β}
    (h : (x >>= f) = .ok b) : ∃ a, x = .ok a ∧ f a = .ok b := by
  cases x with
  | error e => cases h
  | ok a => exact ⟨a, rfl, h⟩

theorem ok_of_map_ok {ε α β : Type} {x : Except ε α} {f : α → β} {b : β}
    (h : x.map f = .ok b) : ∃ a, x = .ok a ∧ f a = b := by
  cases x with
  | error e => cases h
  | ok a => exact ⟨a, rfl, Except.ok.inj h⟩

namespace Frame

/-! ## The column that is meant -/

/-- The last element with a property stands at a place. -/
def LastAt {α : Type} (p : α → Bool) (xs : List α) (i : Nat) : Prop :=
  (∃ x, xs[i]? = some x ∧ p x) ∧ ∀ k x, xs[k]? = some x → p x → k ≤ i

section
variable {α : Type} {p : α → Bool} {xs : List α}

theorem LastAt.unique {i k : Nat} (h : LastAt p xs i) (h' : LastAt p xs k) : i = k := by
  obtain ⟨⟨x, hx, hpx⟩, hlast⟩ := h
  obtain ⟨⟨y, hy, hpy⟩, hlast'⟩ := h'
  have hle := hlast k y hy hpy
  have hge := hlast' i x hx hpx
  omega

theorem lastIndex?_concat (x : α) :
    lastIndex? p (xs ++ [x]) = if p x then some xs.length else lastIndex? p xs := by
  unfold lastIndex?
  rw [List.zipIdx_append, List.filter_append]
  by_cases hx : p x <;> simp [hx]

theorem lastIndex?_eq_none_iff : lastIndex? p xs = none ↔ ∀ x ∈ xs, ¬ p x := by
  induction xs using List.reverseRecOn with
  | nil => simp [lastIndex?]
  | append_singleton xs x ih => by_cases hx : p x <;> simp [lastIndex?_concat, hx, ih, or_imp, forall_and]

/-- The place of the last element is the one that is found. -/
theorem lastAt_of_lastIndex? {i : Nat} (h : lastIndex? p xs = some i) : LastAt p xs i := by
  induction xs using List.reverseRecOn with
  | nil => cases h
  | append_singleton xs x ih =>
    rw [lastIndex?_concat] at h
    by_cases hx : p x
    · rw [if_pos hx] at h
      cases h
      refine ⟨⟨x, by simp, hx⟩, fun k y hy _ => ?_⟩
      have hk := (List.getElem?_eq_some_iff.mp hy).1
      simp at hk
      omega
    · rw [if_neg hx] at h
      obtain ⟨⟨y, hy, hpy⟩, hlast⟩ := ih h
      have hi := (List.getElem?_eq_some_iff.mp hy).1
      refine ⟨⟨y, by rw [List.getElem?_append_left hi]; exact hy, hpy⟩, fun k z hz hpz => ?_⟩
      by_cases hk : k < xs.length
      · rw [List.getElem?_append_left hk] at hz
        exact hlast k z hz hpz
      · -- Beyond the others there is only the new element, which has not the property.
        rw [List.getElem?_append_right (by omega)] at hz
        have hzx := List.mem_of_getElem? hz
        rw [List.mem_singleton] at hzx
        exact absurd (hzx ▸ hpz) hx

theorem LastAt.lastIndex?_eq {i : Nat} (h : LastAt p xs i) : lastIndex? p xs = some i := by
  cases hfound : lastIndex? p xs with
  | none =>
    obtain ⟨⟨x, hx, hpx⟩, -⟩ := h
    exact absurd hpx (lastIndex?_eq_none_iff.mp hfound x (List.mem_of_getElem? hx))
  | some k => rw [h.unique (lastAt_of_lastIndex? hfound)]

end

/-! ## Times -/

def hasTime (i : Nat) (row : Row) : Bool := (cell? row i).isSome

/-- A row's cell states a time. -/
def StatesTime (i : Nat) (layout : TimeLayout) (row : Row) (t : Int) : Prop :=
  ∃ raw, cell? row i = some raw ∧ readTime layout raw = .ok t

/-- The time that a row's cell states; zero where it states none. -/
def timeAt (i : Nat) (layout : TimeLayout) (row : Row) : Int :=
  match cell? row i with
  | none => 0
  | some raw =>
    match readTime layout raw with
    | .ok t => t
    | .error _ => 0

theorem StatesTime.timeAt_eq {i : Nat} {layout : TimeLayout} {row : Row} {t : Int}
    (h : StatesTime i layout row t) : timeAt i layout row = t := by
  obtain ⟨raw, hcell, hread⟩ := h
  simp [timeAt, hcell, hread]

/-- Rows in the order of their times: all that have a time, and each one's can be read. -/
structure Timeline (i : Nat) (layout : TimeLayout) (rows timed : List Row) : Prop where
  stated : ∀ row ∈ timed, StatesTime i layout row (timeAt i layout row)
  sorted : StablySorted (timeAt i layout) (rows.filter (hasTime i)) timed

section
variable {i : Nat} {layout : TimeLayout} {rows timed timed' : List Row}

theorem Timeline.unique (h : Timeline i layout rows timed) (h' : Timeline i layout rows timed') :
    timed = timed' :=
  h.sorted.unique h'.sorted

theorem Timeline.mem_iff (h : Timeline i layout rows timed) {row : Row} :
    row ∈ timed ↔ row ∈ rows ∧ hasTime i row := by
  rw [h.sorted.perm.mem_iff, List.mem_filter]

def withTime (i : Nat) (layout : TimeLayout) (row : Row) : Int × Row := (timeAt i layout row, row)

/-- Where all times can be read, the rows that have one are kept with it. -/
theorem timedRows_ok {xs : List (Int × Row)} (h : timedRows i layout rows = .ok xs) :
    (∀ row ∈ rows.filter (hasTime i), StatesTime i layout row (timeAt i layout row)) ∧
      xs = (rows.filter (hasTime i)).map (withTime i layout) := by
  induction rows generalizing xs with
  | nil =>
    cases h
    simp
  | cons row rows ih =>
    unfold timedRows at h
    split at h
    · rename_i hcell
      rw [List.filter_cons_of_neg (by simp [hasTime, hcell])]
      exact ih h
    · rename_i raw hcell
      obtain ⟨t, hread, h⟩ := ok_of_bind_ok h
      obtain ⟨later, hlater, h⟩ := ok_of_bind_ok h
      cases h
      obtain ⟨hstated, rfl⟩ := ih hlater
      have hrow : StatesTime i layout row t := ⟨raw, hcell, hread⟩
      rw [List.filter_cons_of_pos (by simp [hasTime, hcell])]
      refine ⟨fun row' hrow' => ?_, ?_⟩
      · rcases List.mem_cons.mp hrow' with rfl | hrow'
        · rw [hrow.timeAt_eq]
          exact hrow
        · exact hstated row' hrow'
      · rw [List.map_cons, withTime, hrow.timeAt_eq]

/-- The rows that are put in the order of their times are their timeline. -/
theorem timeline_of_rowsByTime {xs : List (Int × Row)} (h : rowsByTime i layout rows = .ok xs) :
    ∃ timed, Timeline i layout rows timed ∧ xs = timed.map (withTime i layout) := by
  obtain ⟨unsorted, hunsorted, rfl⟩ := ok_of_map_ok h
  obtain ⟨hstated, rfl⟩ := timedRows_ok hunsorted
  have hsorted := stablySorted_mergeSort (timeAt i layout) (rows.filter (hasTime i))
  refine ⟨_, ⟨fun row hrow => hstated row (hsorted.perm.mem_iff.mp hrow), hsorted⟩, ?_⟩
  exact (List.map_mergeSort (f := withTime i layout) fun _ _ _ _ => rfl).symm

end

theorem rowsByTime_of_ordered {i : Nat} {layout : TimeLayout} {rows : List Row}
    {xs : List (Int × Row)} (h : timedRows i layout rows = .ok xs)
    (hordered : xs.Pairwise fun a b => a.1 ≤ b.1) : rowsByTime i layout rows = .ok xs := by
  have hsorted : xs.Pairwise fun a b => decide (a.1 ≤ b.1) := by simpa using hordered
  rw [rowsByTime, h, Except.map, List.mergeSort_of_pairwise hsorted]

theorem timeLayout?_eq_some {kinds : List CellKind} {i : Nat} {layout : TimeLayout}
    (h : timeLayout? kinds i = some layout) : kinds[i]? = some (.time layout) := by
  unfold timeLayout? at h
  split at h
  · rename_i l hkind
    cases h
    exact hkind
  · cases h

end Frame
end PanelSource
