import Mathlib.Data.List.Induction
import PanelSource.Athena.Runner
import PanelSource.Proofs.Athena.Ending

/- Results of several executions together.

   A result is rectangular when every row has as many cells as there are columns. The rows of
   several results go under the columns of the last one that has any, so whether rectangular results
   stay rectangular together turns on whether the column lists go on from each other (`GoesOn`). One
   more result leaves every row under columns of its own width exactly when it goes on from all
   results before it (`underOwn_concat_iff`); over a whole sequence that is a condition on pairs
   (`underOwn_prefixes_iff`). Whether the columns are the same, and not only as many, is the same
   question about the lists themselves, so both are asked for a function `f` of column lists. -/
namespace PanelSource

namespace ResultSet

/-- Every row has as many cells as there are columns. -/
def Rectangular (r : ResultSet) : Prop := ∀ row ∈ r.rows, row.length = r.columns.length

instance (r : ResultSet) : Decidable r.Rectangular :=
  inferInstanceAs (Decidable (∀ row ∈ r.rows, row.length = r.columns.length))

/-- A result goes on from one before it, as far as `f` tells their columns. -/
structure GoesOn {α : Type} (f : List ResultColumn → α) (a b : ResultSet) : Prop where
  /-- The rows before it come under its columns, if it has any. -/
  before : a.rows ≠ [] → b.columns ≠ [] → f a.columns = f b.columns
  /-- Its rows come under the columns before it, if it has none. -/
  after : b.rows ≠ [] → b.columns = [] → a.columns = []

/-- Together, every result with rows is under its own columns, as far as `f` tells them. -/
def UnderOwn {α : Type} (f : List ResultColumn → α) (rs : List ResultSet) : Prop :=
  ∀ a ∈ rs, a.rows ≠ [] → f (concat rs).columns = f a.columns

section
variable {rs : List ResultSet} {b : ResultSet}

theorem concat_append_singleton (rs : List ResultSet) (b : ResultSet) :
    concat (rs ++ [b]) = (concat rs).extend b := by
  simp [concat]

theorem rows_concat (rs : List ResultSet) : (concat rs).rows = rs.flatMap fun a => a.rows := by
  induction rs using List.reverseRecOn with
  | nil => rfl
  | append_singleton rs b ih => simp [concat_append_singleton, extend, ih]

theorem columns_concat_eq_nil_iff : (concat rs).columns = [] ↔ ∀ a ∈ rs, a.columns = [] := by
  induction rs using List.reverseRecOn with
  | nil => simp [concat]
  | append_singleton rs b ih =>
    by_cases hb : b.columns = []
    · simp [concat_append_singleton, extend, hb, ih, or_imp, forall_and]
    · simp [concat_append_singleton, extend, hb]

theorem columns_concat : (concat rs).columns =
    ((rs.map fun a => a.columns).filter fun columns => columns ≠ []).getLast?.getD [] := by
  induction rs using List.reverseRecOn with
  | nil => rfl
  | append_singleton rs b ih =>
    by_cases hb : b.columns = []
    · simp [concat_append_singleton, extend, hb, ih]
    · simp [concat_append_singleton, extend, hb]

/-- Rectangular results are rectangular together when each is under columns as many as its own. -/
theorem rectangular_concat_iff (hrect : ∀ a ∈ rs, a.Rectangular) :
    (concat rs).Rectangular ↔ UnderOwn List.length rs := by
  unfold Rectangular UnderOwn
  simp only [rows_concat, List.mem_flatMap]
  constructor
  · intro h a ha hrows
    obtain ⟨row, hrow⟩ := List.exists_mem_of_ne_nil _ hrows
    rw [← h row ⟨a, ha, hrow⟩, hrect a ha row hrow]
  · intro h row hrow
    obtain ⟨a, ha, hrow⟩ := hrow
    rw [h a ha (List.ne_nil_of_mem hrow), hrect a ha row hrow]

section
variable {α : Type} {f : List ResultColumn → α}

/-- One more result leaves every row under its own columns exactly when it goes on from all results
    before it. -/
theorem underOwn_concat_iff (hf : ∀ columns, f columns = f [] → columns = [])
    (h : UnderOwn f rs) : UnderOwn f (rs ++ [b]) ↔ ∀ a ∈ rs, GoesOn f a b := by
  unfold UnderOwn
  rw [concat_append_singleton]
  simp only [List.mem_append, List.mem_singleton, or_imp, forall_and, forall_eq]
  -- The columns stay as they are, or are those of the new result.
  by_cases hb : b.columns = []
  · have hcolumns : ((concat rs).extend b).columns = (concat rs).columns := by simp [extend, hb]
    rw [hcolumns, hb]
    constructor
    · intro hall a ha
      refine ⟨fun _ hne => absurd hb hne, fun hrows _ => ?_⟩
      exact columns_concat_eq_nil_iff.mp (hf _ (hall.2 hrows)) a ha
    · intro hall
      refine ⟨h, fun hrows => ?_⟩
      rw [columns_concat_eq_nil_iff.mpr fun a ha => (hall a ha).after hrows hb]
  · have hcolumns : ((concat rs).extend b).columns = b.columns := by simp [extend, hb]
    rw [hcolumns]
    constructor
    · intro hall a ha
      exact ⟨fun hrows _ => (hall.1 a ha hrows).symm, fun _ hnil => absurd hnil hb⟩
    · intro hall
      exact ⟨fun a ha hrows => ((hall a ha).before hrows hb).symm, fun _ => rfl⟩

/-- Every row stays under its own columns while results come in exactly when each result goes on
    from all results before it. -/
theorem underOwn_prefixes_iff (hf : ∀ columns, f columns = f [] → columns = []) :
    (∀ p, p <+: rs → UnderOwn f p) ↔ rs.Pairwise (GoesOn f) := by
  induction rs using List.reverseRecOn with
  | nil => simp [UnderOwn]
  | append_singleton rs b ih =>
    -- The results before the last one are a beginning themselves, which the step goes on from.
    have hsplit : (∀ p, p <+: rs ++ [b] → UnderOwn f p) ↔
        UnderOwn f (rs ++ [b]) ∧ ∀ p, p <+: rs → UnderOwn f p := by
      simp only [List.prefix_concat_iff, or_imp, forall_and, forall_eq]
    rw [hsplit, List.pairwise_append, ← ih]
    constructor
    · intro h
      have hgoes := (underOwn_concat_iff hf (h.2 rs List.prefix_rfl)).mp h.1
      exact ⟨h.2, List.pairwise_singleton _ _, by simpa using hgoes⟩
    · intro h
      have hgoes : ∀ a ∈ rs, GoesOn f a b := by simpa using h.2.2
      exact ⟨(underOwn_concat_iff hf (h.1 rs List.prefix_rfl)).mpr hgoes, h.1⟩

end
end
end ResultSet

namespace AthenaBackend
variable {W : Type}

/-- Reading the rows of executions one after the other succeeds with these results. -/
inductive ReadsRows (b : AthenaBackend W) (name : String) (region : RegionService W) (maxRows : Int)
    (ttl : Span) : List String → List ResultSet → Session W → Session W → Prop
  | done (s : Session W) : ReadsRows b name region maxRows ttl [] [] s s
  | read {id : String} {ids : List String} {a : ResultSet} {rs : List ResultSet}
      {s s₁ s' : Session W} (hread : Ends (b.rows name region id maxRows ttl) s (.ok a) s₁)
      (hrest : ReadsRows b name region maxRows ttl ids rs s₁ s') :
      ReadsRows b name region maxRows ttl (id :: ids) (a :: rs) s s'

/-- Reading all rows puts the results together, in the order of the executions. -/
theorem ReadsRows.allRows {b : AthenaBackend W} {name : String} {region : RegionService W}
    {maxRows : Int} {ttl : Span} {ids : List String} {rs : List ResultSet} {s s' : Session W}
    (h : ReadsRows b name region maxRows ttl ids rs s s') (done : ResultSet) :
    Ends (b.allRows name region maxRows ttl done ids) s (.ok (rs.foldl .extend done)) s' := by
  induction h generalizing done with
  | done s => exact ends_pure.mpr ⟨rfl, rfl⟩
  | read hread _ ih => exact ends_ok_bind.mpr ⟨_, _, hread, ih _⟩

/-- **Results that stay rectangular together.** While rectangular results come in one after the
    other, what they make together stays rectangular exactly when each result has as many columns as
    the rows before it, and every row stays under the columns that it was returned under exactly when
    each result has the columns of the rows before it. This is what reading the executions of a
    target makes of their results. -/
theorem combined_rectangular {rs : List ResultSet} (hrect : ∀ a ∈ rs, a.Rectangular) :
    ((∀ p, p <+: rs → (ResultSet.concat p).Rectangular) ↔
      rs.Pairwise (ResultSet.GoesOn List.length)) ∧
    ((∀ p, p <+: rs → ResultSet.UnderOwn id p) ↔ rs.Pairwise (ResultSet.GoesOn id)) ∧
    ∀ {W : Type} (b : AthenaBackend W) (name : String) (region : RegionService W) (maxRows : Int)
      (ttl : Span) (ids : List String) (s s' : Session W),
      ReadsRows b name region maxRows ttl ids rs s s' →
        Ends (b.allRows name region maxRows ttl {} ids) s (.ok (ResultSet.concat rs)) s' := by
  refine ⟨?_, ResultSet.underOwn_prefixes_iff fun _ h => h, fun _ _ _ _ _ _ _ _ h => h.allRows {}⟩
  rw [← ResultSet.underOwn_prefixes_iff fun _ h => List.eq_nil_of_length_eq_zero h]
  apply forall₂_congr
  intro p hp
  exact ResultSet.rectangular_concat_iff fun a ha => hrect a (hp.subset ha)

/-- Results of one shape, and one without columns and rows between them. -/
def hourly : List ResultSet :=
  [⟨[⟨"host", "varchar"⟩, ⟨"cpu", "double"⟩], [[some "a", some "1"], [some "b", none]]⟩, {},
   ⟨[⟨"host", "varchar"⟩, ⟨"cpu", "double"⟩], [[none, some "2"]]⟩]

theorem combined_rectangular_hourly : (∀ a ∈ hourly, a.Rectangular) ∧
    ((∀ p, p <+: hourly → (ResultSet.concat p).Rectangular) ↔
      hourly.Pairwise (ResultSet.GoesOn List.length)) ∧
    ((∀ p, p <+: hourly → ResultSet.UnderOwn id p) ↔ hourly.Pairwise (ResultSet.GoesOn id)) ∧
    ∀ {W : Type} (b : AthenaBackend W) (name : String) (region : RegionService W) (maxRows : Int)
      (ttl : Span) (ids : List String) (s s' : Session W),
      ReadsRows b name region maxRows ttl ids hourly s s' →
        Ends (b.allRows name region maxRows ttl {} ids) s (.ok (ResultSet.concat hourly)) s' := by
  have hrect : ∀ a ∈ hourly, a.Rectangular := by decide
  exact ⟨hrect, combined_rectangular hrect⟩

/-- Results of two shapes. -/
def reshaped : List ResultSet :=
  [⟨[⟨"a", "varchar"⟩, ⟨"b", "varchar"⟩], [[some "1", some "2"]]⟩,
   ⟨[⟨"c", "varchar"⟩], [[some "3"]]⟩]

/-- Rectangular results of two shapes are not rectangular together. -/
theorem combined_reshaped : (∀ a ∈ reshaped, a.Rectangular) ∧
    ResultSet.concat reshaped = ⟨[⟨"c", "varchar"⟩], [[some "1", some "2"], [some "3"]]⟩ ∧
    ¬ (ResultSet.concat reshaped).Rectangular := by
  decide

end AthenaBackend
end PanelSource
