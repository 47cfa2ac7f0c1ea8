import PanelSource.Athena.Catalog
import PanelSource.Proofs.Number.Decimal
import PanelSource.Proofs.Wire.Param

/- Lookups with their parameters as texts.

   A lookup reads its parameters as texts, and an integer among them is read back from its text. So
   two lookups whose parameters have the same texts do the same (`fetch_congr`): they answer the
   same, and leave the same session. -/
namespace PanelSource
open Number Text

/-! ## Parameters -/

namespace Param

def rendered (p : Param) : Param := .text p.asText

/-- An integer of 64 bits, or any text. -/
def Fits : Param → Prop
  | .int i => int64Min ≤ i ∧ i ≤ int64Max
  | .text _ => True

theorem asInt_eq {p : Param} (h : p.Fits) :
    p.asInt = (readInt64 (strip p.asText.toList)).toOption := by
  cases p with
  | text s => rfl
  | int i =>
    rw [asText, String.toList_ofList, (bare_signedDecimal i).strip_self,
      readInt64_signedDecimal h.1 h.2]
    rfl

end Param

namespace Params

def rendered (ps : Params) : Params := ps.map fun p => (p.1, p.2.rendered)

/-- Every integer that can be found is one of 64 bits. -/
def Fits (ps : Params) : Prop := ∀ ⦃k p⦄, ps.get? k = some p → p.Fits

theorem fits_of_mem {ps : Params} (h : ∀ x ∈ ps, x.2.Fits) : ps.Fits := by
  induction ps with
  | nil => exact fun k p hp => nomatch hp
  | cons x rest ih =>
    obtain ⟨n, q⟩ := x
    intro k p hp
    rw [get?_cons] at hp
    split at hp
    · cases hp
      exact h _ List.mem_cons_self
    · exact ih (fun y hy => h y (List.mem_cons_of_mem _ hy)) hp

/-- The same names with the same texts. -/
def SameTexts (ps qs : Params) : Prop :=
  ∀ k, (ps.get? k).map Param.asText = (qs.get? k).map Param.asText

theorem keys_rendered (ps : Params) : ps.rendered.map (·.1) = ps.map (·.1) := by
  rw [rendered, List.map_map]
  rfl

theorem get?_rendered (ps : Params) (k : String) :
    ps.rendered.get? k = (ps.get? k).map Param.rendered := by
  induction ps with
  | nil => rfl
  | cons x rest ih =>
    obtain ⟨n, p⟩ := x
    rw [rendered, List.map_cons, get?_cons, get?_cons]
    by_cases hk : k = n
    · rw [if_pos hk, if_pos hk]
      rfl
    · rw [if_neg hk, if_neg hk]
      exact ih

theorem sameTexts_rendered (ps : Params) : ps.rendered.SameTexts ps := by
  intro k
  rw [get?_rendered, Option.map_map]
  rfl

theorem fits_rendered (ps : Params) : ps.rendered.Fits := by
  intro k p h
  rw [get?_rendered] at h
  obtain ⟨q, -, rfl⟩ := Option.map_eq_some_iff.mp h
  exact trivial

section
variable {ps qs : Params} (h : ps.SameTexts qs)
include h

theorem trimmed_congr (name : String) : ps.trimmed name = qs.trimmed name := by
  have hmap (o : Option Param) :
      o.map (fun p => trim p.asText) = (o.map Param.asText).map trim := by
    rw [Option.map_map]
    rfl
  rw [trimmed, trimmed, hmap, hmap, h name]

theorem workGroup?_congr : ps.workGroup? = qs.workGroup? := by
  rw [workGroup?, workGroup?, trimmed_congr h]

theorem patternText_congr : ps.patternText = qs.patternText := by
  rw [patternText, patternText, h "pattern"]

theorem pattern_congr : ps.pattern = qs.pattern := by
  rw [pattern, pattern, patternText_congr h]

theorem SameTexts.cases (k : String) : (ps.get? k = none ∧ qs.get? k = none) ∨
    ∃ p q, ps.get? k = some p ∧ qs.get? k = some q ∧ p.asText = q.asText := by
  have hk := h k
  cases hp : ps.get? k with
  | none =>
    rw [hp] at hk
    exact .inl ⟨rfl, Option.map_eq_none_iff.mp hk.symm⟩
  | some p =>
    rw [hp] at hk
    obtain ⟨q, hq, htext⟩ := Option.map_eq_some_iff.mp hk.symm
    exact .inr ⟨p, q, rfl, hq, htext.symm⟩

theorem stop_congr : ps.stop = qs.stop := by
  unfold stop
  rcases h.cases "to" with ⟨hp, hq⟩ | ⟨p, q, hp, hq, htext⟩
  · rw [hp, hq]
  · simp only [hp, hq, htext]

theorem limit_congr (hps : ps.Fits) (hqs : qs.Fits) : ps.limit = qs.limit := by
  unfold limit
  rcases h.cases "limit" with ⟨hp, hq⟩ | ⟨p, q, hp, hq, htext⟩
  · rw [hp, hq]
  · simp only [hp, hq, Param.asInt_eq (hps hp), Param.asInt_eq (hqs hq), htext]

end

end Params

/-! ## Lookups -/

namespace AthenaBackend
variable {W : Type} {b : AthenaBackend W} {ps qs : Params}

section
variable (h : ps.SameTexts qs)
include h

theorem workGroupNames_congr : b.workGroupNames ps = b.workGroupNames qs := by
  rw [workGroupNames, workGroupNames, Params.trimmed_congr h]

theorem namedQueries_congr : b.namedQueries ps = b.namedQueries qs := by
  rw [namedQueries, namedQueries, Params.trimmed_congr h, Params.workGroup?_congr h]

theorem namedQueryStatements_congr : b.namedQueryStatements ps = b.namedQueryStatements qs := by
  rw [namedQueryStatements, namedQueryStatements, Params.pattern_congr h, namedQueries_congr h]

theorem selectExecutions_congr (f : ExecutionFilter) :
    b.selectExecutions ps f = b.selectExecutions qs f := by
  have hlist : b.executionsOf ps = b.executionsOf qs := by
    rw [executionsOf, executionsOf, Params.trimmed_congr h, Params.workGroup?_congr h]
  rw [selectExecutions, selectExecutions, hlist]

variable (hps : ps.Fits) (hqs : qs.Fits)
include hps hqs

theorem queryExecutions_congr : b.queryExecutions ps = b.queryExecutions qs := by
  simp only [queryExecutions, Params.pattern_congr h, Params.limit_congr h hps hqs,
    Params.stop_congr h, selectExecutions_congr h]

theorem queryExecutionsByName_congr :
    b.queryExecutionsByName ps = b.queryExecutionsByName qs := by
  simp only [queryExecutionsByName, Params.pattern_congr h, Params.limit_congr h hps hqs,
    Params.stop_congr h, selectExecutions_congr h, namedQueries_congr h, Params.patternText_congr h]

/-- **Lookups whose parameters have the same texts do the same.** -/
theorem fetch_congr (name : String) : b.resources.fetch name ps = b.resources.fetch name qs := by
  have hnames : b.namedQueryNames ps = b.namedQueryNames qs := by
    rw [namedQueryNames, namedQueryNames, namedQueries_congr h]
  have hids : b.queryExecutionIds ps = b.queryExecutionIds qs := by
    rw [queryExecutionIds, queryExecutionIds, queryExecutions_congr h hps hqs]
  have hvalue : b.value name ps = b.value name qs := by
    simp only [value, workGroupNames_congr h, hnames, namedQueryStatements_congr h,
      queryExecutions_congr h hps hqs, hids, queryExecutionsByName_congr h hps hqs]
  simp only [resources, lookup, hvalue]

end

end AthenaBackend
end PanelSource
