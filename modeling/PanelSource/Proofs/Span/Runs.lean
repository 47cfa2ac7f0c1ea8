import Mathlib.Data.List.SplitBy
import PanelSource.Proofs.Number.Decimal
import PanelSource.Span

/- How the text of a span is taken apart.

   A text is cut in one way into runs, maximal stretches of number characters and of unit characters
   (`cut_iff`). -/
namespace PanelSource.Span
open Number

def NumberChar (c : Char) : Prop := c.isDigit = true ∨ c = '.'

structure NumberRun (r : List Char) : Prop where
  ne_nil : r ≠ []
  chars : ∀ c ∈ r, NumberChar c

structure UnitRun (r : List Char) : Prop where
  ne_nil : r ≠ []
  chars : ∀ c ∈ r, ¬ NumberChar c

/-- Runs that may stand next to each other: a number and its unit, or a unit and the next number. -/
def Turns (r r' : List Char) : Prop := NumberRun r ∧ UnitRun r' ∨ UnitRun r ∧ NumberRun r'

/-- A text is cut into runs of number characters and of unit characters, which take turns. -/
structure Cut (cs : List Char) (rs : List (List Char)) : Prop where
  flatten : rs.flatten = cs
  kinds : ∀ r ∈ rs, NumberRun r ∨ UnitRun r
  turns : rs.IsChain Turns

theorem isNumeric_iff {c : Char} : isNumeric c = true ↔ NumberChar c := by
  simp [isNumeric, isDigit_eq, NumberChar]

/-- A run of characters that are numeric or not, as `kind` says. -/
def OfKind (kind : Bool) (r : List Char) : Prop := r ≠ [] ∧ ∀ c ∈ r, isNumeric c = kind

theorem ofKind_true_iff {r : List Char} : OfKind true r ↔ NumberRun r := by
  simp only [OfKind, isNumeric_iff]
  exact ⟨fun h => ⟨h.1, h.2⟩, fun h => ⟨h.ne_nil, h.chars⟩⟩

theorem ofKind_false_iff {r : List Char} : OfKind false r ↔ UnitRun r := by
  simp only [OfKind, ← Bool.not_eq_true, isNumeric_iff]
  exact ⟨fun h => ⟨h.1, h.2⟩, fun h => ⟨h.ne_nil, h.chars⟩⟩

theorem OfKind.kind_unique {kind kind' : Bool} {r : List Char} (h : OfKind kind r)
    (h' : OfKind kind' r) : kind' = kind := by
  obtain ⟨c, cs, rfl⟩ := List.exists_cons_of_ne_nil h.1
  rw [← h.2 c List.mem_cons_self, h'.2 c List.mem_cons_self]

theorem NumberRun.not_unitRun {r : List Char} (h : NumberRun r) : ¬ UnitRun r := by
  intro hu
  cases (ofKind_true_iff.mpr h).kind_unique (ofKind_false_iff.mpr hu)

/-! ## The one way to cut a text -/

theorem OfKind.isChain {kind : Bool} {r : List Char} (h : OfKind kind r) :
    r.IsChain fun a b => (isNumeric a == isNumeric b) = true := by
  apply List.Pairwise.isChain
  refine List.Pairwise.imp_of_mem ?_ (List.pairwise_of_forall fun _ _ => trivial)
  intro a b ha hb _
  rw [h.2 a ha, h.2 b hb]
  exact beq_self_eq_true kind

theorem ofKind_of_isChain {r : List Char} (hne : r ≠ [])
    (h : r.IsChain fun a b => (isNumeric a == isNumeric b) = true) : ∃ kind, OfKind kind r := by
  induction r with
  | nil => exact absurd rfl hne
  | cons a r ih =>
    cases r with
    | nil => exact ⟨isNumeric a, hne, by simp⟩
    | cons b r =>
      obtain ⟨hab, hr⟩ := List.isChain_cons_cons.mp h
      obtain ⟨kind, -, hall⟩ := ih (List.cons_ne_nil b r) hr
      refine ⟨kind, hne, List.forall_mem_cons.mpr ⟨?_, hall⟩⟩
      rw [beq_iff_eq.mp hab]
      exact hall b List.mem_cons_self

theorem kind_iff {r : List Char} : NumberRun r ∨ UnitRun r ↔ ∃ kind, OfKind kind r := by
  rw [Bool.exists_bool, ofKind_true_iff, ofKind_false_iff, or_comm]

/-- Runs take turns if they differ where they meet. -/
theorem turns_iff {a b : List Char} (ha : NumberRun a ∨ UnitRun a) (hb : NumberRun b ∨ UnitRun b) :
    Turns a b ↔ ∃ ha hb, (isNumeric (a.getLast ha) == isNumeric (b.head hb)) = false := by
  obtain ⟨k, hka⟩ := kind_iff.mp ha
  obtain ⟨k', hkb⟩ := kind_iff.mp hb
  -- Each run is of one kind throughout, so its end and its beginning tell which.
  have hmeet : (∃ ha hb, (isNumeric (a.getLast ha) == isNumeric (b.head hb)) = false) ↔
      (k == k') = false := by
    have hlast : isNumeric (a.getLast hka.1) = k := hka.2 _ (List.getLast_mem hka.1)
    have hhead : isNumeric (b.head hkb.1) = k' := hkb.2 _ (List.head_mem hkb.1)
    rw [← hlast, ← hhead]
    exact ⟨fun ⟨_, _, h⟩ => h, fun h => ⟨_, _, h⟩⟩
  have hof : ∀ {j j' : Bool} {r : List Char}, OfKind j r → (OfKind j' r ↔ j' = j) :=
    fun h => ⟨h.kind_unique, fun heq => heq ▸ h⟩
  unfold Turns
  rw [hmeet, ← ofKind_true_iff, ← ofKind_true_iff, ← ofKind_false_iff, ← ofKind_false_iff, hof hka,
    hof hka, hof hkb, hof hkb]
  cases k <;> cases k' <;> decide

/-- A text is cut into its runs, and into nothing else. -/
theorem cut_iff {cs : List Char} {rs : List (List Char)} : Cut cs rs ↔ rs = runs cs := by
  unfold runs
  rw [@eq_comm _ rs, List.splitBy_eq_iff]
  constructor
  · intro h
    refine ⟨h.flatten.symm, ?_, ?_, ?_⟩
    · intro hnil
      obtain ⟨kind, hkind⟩ := kind_iff.mp (h.kinds [] hnil)
      exact hkind.1 rfl
    · intro r hr
      obtain ⟨kind, hkind⟩ := kind_iff.mp (h.kinds r hr)
      exact hkind.isChain
    · exact (List.IsChain.iff_of_mem_imp fun a b ha hb =>
        turns_iff (h.kinds a ha) (h.kinds b hb)).mp h.turns
  · rintro ⟨hflatten, hne, hchains, hturns⟩
    -- Neighbours of one kind make a run of that kind.
    have hkinds : ∀ r ∈ rs, NumberRun r ∨ UnitRun r := fun r hr =>
      kind_iff.mpr (ofKind_of_isChain (fun hnil => hne (hnil ▸ hr)) (hchains r hr))
    exact ⟨hflatten.symm, hkinds, (List.IsChain.iff_of_mem_imp fun a b ha hb =>
      turns_iff (hkinds a ha) (hkinds b hb)).mpr hturns⟩

theorem Cut.length_le {cs : List Char} {rs : List (List Char)} (h : Cut cs rs) :
    rs.length ≤ cs.length := by
  have hne : ∀ r ∈ rs, r ≠ [] := fun r hr => (h.kinds r hr).elim (·.ne_nil) (·.ne_nil)
  rw [← h.flatten]
  clear h
  induction rs with
  | nil => exact Nat.le_refl 0
  | cons r rs ih =>
    obtain ⟨hr, hrs⟩ := List.forall_mem_cons.mp hne
    have hpos : 0 < r.length := List.length_pos_iff.mpr hr
    have hrest := ih hrs
    rw [List.flatten_cons, List.length_append, List.length_cons]
    omega

theorem Cut.isValid {cs : List Char} {before after : List (List Char)}
    (h : Cut cs (before ++ after)) :
    (String.ofList before.flatten).rawEndPos.IsValid (String.ofList cs) := by
  refine String.Pos.Raw.isValid_iff_exists_append.mpr ⟨_, String.ofList after.flatten, ?_, rfl⟩
  rw [← String.ofList_append, ← List.flatten_append, h.flatten]

end PanelSource.Span
