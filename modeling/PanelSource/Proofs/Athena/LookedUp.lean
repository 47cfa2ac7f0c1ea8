import PanelSource.Proofs.Athena.Direct
import PanelSource.Proofs.Panel.IdField

/- Which executions are looked up for a target of a panel.

   A panel splits the id field of a target once its variables are put in, and sends the ids along
   with the field. The target is run on those ids; without any, the field is split again, but not as
   the panel does: braces around it stay (`inputIds_prepare_iff`). The ids of a target are looked up
   in their order and nothing else is, up to the first failure (`Seeks`). -/
namespace PanelSource

/-! ## Ids that are split off -/

namespace Panel
open Text Variable

theorem mem_splitCommas_self {cs : List Char} {id : String} (h : id ∈ splitCommas cs) :
    trim id = id ∧ id ≠ "" := by
  unfold splitCommas at h
  rw [List.filterMap_map] at h
  obtain ⟨part, -, hpart⟩ := List.mem_filterMap.mp h
  simp only [Function.comp_apply, List.isEmpty_iff] at hpart
  split at hpart
  · cases hpart
  · rename_i hne
    cases hpart
    rw [AthenaBackend.trim_ofList, strip_strip, ne_eq, AthenaBackend.ofList_eq_empty_iff]
    exact ⟨rfl, hne⟩

/-- Nothing is split off blanks and commas, and something is split off all else. -/
theorem splitCommas_eq_nil_iff (cs : List Char) :
    splitCommas cs = [] ↔ ∀ c ∈ cs, isBlank c ∨ c = ',' := by
  constructor
  · intro h c hc
    by_contra hother
    obtain ⟨hblank, hcomma⟩ := not_or.mp hother
    obtain ⟨id, hid, -⟩ := mem_splitCommas hc (by simpa using hblank) hcomma
    rw [h] at hid
    cases hid
  · intro h
    induction cs using comma_induction with
    | none cs hfree =>
      have hblank : Blank cs := fun c hc => (h c hc).resolve_right fun heq => hfree (heq ▸ hc)
      rw [splitCommas_of_notMem hfree, if_pos (strip_blank hblank)]
    | comma xs ys ihx ihy =>
      rw [splitCommas_comma, ihx fun c hc => h c (List.mem_append_left _ hc),
        ihy fun c hc => h c (List.mem_append_right _ (List.mem_cons_of_mem _ hc))]
      rfl

/-- A field with nothing but blanks and commas between braces around it. -/
def Hollow (field : String) : Prop :=
  ∃ inner, strip field.toList = '\x7b' :: (inner ++ ['\x7d']) ∧ ∀ c ∈ inner, isBlank c ∨ c = ','

/-- A hollow field is split into nothing, but not without taking its braces off. -/
theorem hollow_iff {field : String} :
    Hollow field ↔ splitIds field = [] ∧ splitCommas field.toList ≠ [] := by
  constructor
  · rintro ⟨inner, hstrip, hinner⟩
    obtain ⟨id, hid, -⟩ := exists_opening_of_braced hstrip
    refine ⟨?_, List.ne_nil_of_mem hid⟩
    rw [splitIds, hstrip, unbrace_braced]
    exact (splitCommas_eq_nil_iff inner).mpr hinner
  · rintro ⟨hnone, hsome⟩
    rcases splitIds_cases field with hself | ⟨inner, hstrip, hinner⟩
    · rw [hnone] at hself
      exact absurd hself.symm hsome
    · rw [hnone] at hinner
      exact ⟨inner, hstrip, (splitCommas_eq_nil_iff inner).mp hinner.symm⟩

end Panel

namespace AthenaBackend
open Panel Variable
variable {W : Type} {b : AthenaBackend W} {name : String} {service : RegionService W}

/-! ## Ids that are looked up -/

section
variable {vars : Store} {defaultRegion : String} {t : Target}

theorem inputIds_prepare (h : t.executionId ≠ "") :
    inputIds (prepare vars defaultRegion t) =
      if splitIds (vars.resolve .plain t.executionId) = [] then
        splitCommas (vars.resolve .plain t.executionId).toList
      else splitIds (vars.resolve .plain t.executionId) := by
  obtain ⟨hfield, hinputs⟩ := @prepare_field vars defaultRegion t h
  -- The inputs are trimmed once more, which changes none of them.
  have hids : ∀ id ∈ splitIds (vars.resolve .plain t.executionId), Text.trim id = id ∧ id ≠ "" :=
    fun id hid => mem_splitCommas_self hid
  have hsame : ((splitIds (vars.resolve .plain t.executionId)).map Text.trim).filter (· ≠ "") =
      splitIds (vars.resolve .plain t.executionId) := by
    rw [List.map_congr_left fun id hid => (hids id hid).1, List.map_id']
    exact List.filter_eq_self.mpr fun id hid => by simpa using (hids id hid).2
  unfold inputIds
  simp only [hfield, hinputs, hsame, List.isEmpty_iff]

/-- A target that a panel sends is run on the ids that the panel has split off, unless its field is
    hollow. -/
theorem inputIds_prepare_iff (h : t.executionId ≠ "") :
    inputIds (prepare vars defaultRegion t) = splitIds (vars.resolve .plain t.executionId) ↔
      ¬ Hollow (vars.resolve .plain t.executionId) := by
  rw [inputIds_prepare h, hollow_iff]
  by_cases hnone : splitIds (vars.resolve .plain t.executionId) = []
  · rw [if_pos hnone, hnone]
    simp
  · simp [hnone]

end

/-! ## Looking them up -/

/-- The ids that are looked up in calls, one call after the other. -/
def lookedUp (calls : List (Noted W)) : List String :=
  calls.flatMap fun c =>
    match c.call with
    | .executions ids _ => ids
    | _ => []

theorem lookedUp_append (calls calls' : List (Noted W)) :
    lookedUp (calls ++ calls') = lookedUp calls ++ lookedUp calls' :=
  List.flatMap_append

theorem lookedUp_readsRows {calls : List (Noted W)} (h : ∀ c ∈ calls, c.ReadsRows) :
    lookedUp calls = [] := by
  refine List.flatMap_eq_nil_iff.mpr fun c hc => ?_
  obtain ⟨id, maxRows, answer, hcall⟩ := h c hc
  rw [hcall]

/-- Ids are looked up: all of them and no others, or the first ones, up to a call that fails. -/
inductive Seeks {α : Type} (ids : List String) : List (Noted W) → Except AthenaError α → Prop
  | all {calls : List (Noted W)} {r : Except AthenaError α} (hids : lookedUp calls = ids) :
      Seeks ids calls r
  | failed {calls : List (Noted W)} {c : Noted W} {batch : List String} {e : AthenaError}
      (hfailed : c.call = .executions batch (.error e)) (hids : lookedUp (calls ++ [c]) <+: ids) :
      Seeks ids (calls ++ [c]) (.error e)

/-- What a target does with the ids that it names. -/
inductive TargetSeeks (b : AthenaBackend W) (t : Target) (w : W) (ids : List String) :
    List (Noted W) → Except AthenaError Outcome → Prop
  /-- There is no service for the region. -/
  | unserved {e : AthenaError} {v : W}
      (hregion : Ends (b.athena.region (b.targetRegion t)) w (.error e) v) :
      TargetSeeks b t w ids [] (.error e)
  | nameless (hnone : ids = []) :
      TargetSeeks b t w ids [] (.error (.missingParameter "queryExecutionId"))
  | named {calls : List (Noted W)} {r : Except AthenaError Outcome} (hsome : ids ≠ [])
      (hseeks : Seeks ids calls r) : TargetSeeks b t w ids calls r

theorem Seeks.cons {α : Type} {ids batch : List String} {calls : List (Noted W)}
    {r : Except AthenaError α} {c : Noted W} {answer : Except AthenaError (List Execution)}
    (hcall : c.call = .executions batch answer) (h : Seeks ids calls r) :
    Seeks (batch ++ ids) (c :: calls) r := by
  have hlooked : ∀ more, lookedUp (c :: more) = batch ++ lookedUp more := by
    intro more
    simp only [lookedUp, List.flatMap_cons, hcall]
  cases h with
  | all hids =>
    refine .all ?_
    rw [hlooked, hids]
  | failed hfailed hids =>
    rw [← List.cons_append]
    refine .failed hfailed ?_
    rw [List.cons_append, hlooked]
    exact (List.prefix_append_right_inj batch).mpr hids

theorem Seeks.map {α β : Type} {f : α → β} {ids : List String} {calls : List (Noted W)}
    {r : Except AthenaError α} (h : Seeks ids calls r) : Seeks ids calls (r.map f) := by
  cases h with
  | all hids => exact .all hids
  | failed hfailed hids => exact .failed hfailed hids

/-- Batches are looked up one after the other, up to the first failure. -/
theorem seeks_inBatches {batches : List (List String)} {w w' : Logged W}
    {r : Except AthenaError (List Execution)}
    (h : Ends (inBatches (service.recorded name).executions batches) w r w') :
    ∃ calls, w'.2 = w.2 ++ calls ∧ Seeks batches.flatten calls r := by
  induction batches generalizing w r with
  | nil =>
    obtain ⟨rfl, rfl⟩ := ends_pure.mp h
    exact ⟨[], by simp, .all rfl⟩
  | cons batch batches ih =>
    rcases ends_bind.mp h with ⟨records, v, hbatch, h⟩ | ⟨e, hbatch, rfl⟩
    · obtain ⟨answer, hrest, rfl⟩ := ends_map.mp h
      obtain ⟨calls, hcalls, hseeks⟩ := ih hrest
      -- A recorded call is noted in front of those of the batches that follow.
      refine ⟨⟨name, w.1, .executions batch (.ok records)⟩ :: calls, ?_, .cons rfl hseeks.map⟩
      rw [hcalls, (ends_noting.mp hbatch).2, List.append_assoc, List.singleton_append]
    · refine ⟨_, (ends_noting.mp hbatch).2, ?_⟩
      rw [← List.nil_append [_]]
      exact .failed rfl (by simp [lookedUp])

/-- What a target reads is looked up among the ids that it names. -/
theorem seeks_distinctInputs {t : Target} {s s' : Session (Logged W)}
    {r : Except AthenaError (List String)}
    (h : Ends (distinctInputs (service.recorded name) t) s r s') :
    (inputIds t = [] ∧ r = .error (.missingParameter "queryExecutionId") ∧
        s'.world.2 = s.world.2) ∨
      (inputIds t ≠ [] ∧
        ∃ calls, s'.world.2 = s.world.2 ++ calls ∧ Seeks (inputIds t) calls r) := by
  unfold distinctInputs at h
  simp only [List.isEmpty_iff] at h
  split at h
  · rename_i hnone
    obtain ⟨rfl, rfl⟩ := ends_throw.mp h
    exact .inl ⟨hnone, rfl, rfl⟩
  · rename_i hsome
    obtain ⟨answer, hcall, rfl⟩ := ends_map.mp h
    obtain ⟨w, hlook, rfl⟩ := ends_call.mp hcall
    obtain ⟨calls, hcalls, hseeks⟩ := seeks_inBatches hlook
    rw [batches_flatten] at hseeks
    exact .inr ⟨hsome, calls, hcalls, hseeks.map⟩

theorem Seeks.read {α β : Type} {ids : List String} {calls reads : List (Noted W)} {a : α}
    (h : Seeks ids calls (.ok a : Except AthenaError α)) (hreads : ∀ c ∈ reads, c.ReadsRows)
    (r : Except AthenaError β) : Seeks ids (calls ++ reads) r := by
  cases h with
  | all hids =>
    refine .all ?_
    rw [lookedUp_append, hids, lookedUp_readsRows hreads, List.append_nil]

/-- A target without a statement of its own looks up the ids that it names. -/
theorem seeks_runTarget {t : Target} {maxRows : Int} {s s' : Session (Logged W)}
    {r : Except AthenaError Outcome} (hinputs : ¬ isAdHoc t) (hmax : b.maxRows t = .ok maxRows)
    (h : Ends (b.recorded.runTarget t) s r s') :
    ∃ calls, s'.world.2 = s.world.2 ++ calls ∧
      TargetSeeks b t s.world.1 (inputIds t) calls r := by
  cases runTarget_cases h with
  | refused hwhy hafter =>
    -- The row limit is valid, so only the region can be at fault.
    subst hafter
    rcases hwhy with hregion | ⟨service, -, hrefused⟩
    · exact ⟨[], by simp, .unserved hregion⟩
    · rw [hmax] at hrefused
      cases hrefused
  | unread _ _ hsource =>
    rw [source_inputs hinputs] at hsource
    rcases seeks_distinctInputs hsource with ⟨hnone, he, hlog⟩ | ⟨hsome, calls, hlog, hseeks⟩
    · cases he
      exact ⟨[], by simpa using hlog, .nameless hnone⟩
    · refine ⟨calls, hlog, .named hsome ?_⟩
      cases hseeks with
      | all hids => exact .all hids
      | failed hfailed hids => exact .failed hfailed hids
  | read _ _ hsource hrows =>
    rw [source_inputs hinputs] at hsource
    rcases seeks_distinctInputs hsource with ⟨-, he, -⟩ | ⟨hsome, calls, hlog, hseeks⟩
    · cases he
    · obtain ⟨-, reads, hreads, hall⟩ := fills_allRows _ _ hrows
      refine ⟨calls ++ reads, ?_, .named hsome (hseeks.read hall _)⟩
      rw [hreads, hlog, List.append_assoc]

/-- **The ids of a panel are the ones that are looked up, unless the field is hollow.** Whatever has
    been kept, a target without a statement of its own that a panel sends looks up the ids that it
    is run on, all of them unless a call fails; without any it fails for want of ids and makes no
    call. The ids are those that the panel has split off the field, unless there is nothing but
    blanks and commas between braces around it. -/
theorem looks_up_split_ids {vars : Variable.Store} {window : Window} {defaultRegion : String}
    {targets : List Target} {t p : Target} {maxRows : Int} (ht : t ∈ targets)
    (hvisible : t.hide = false) (hp : p = prepare vars defaultRegion t)
    (hfield : t.executionId ≠ "") (hblank : Text.isBlankText t.sql)
    (hmax : b.maxRows t = .ok maxRows) (s : Session (Logged W)) :
    p ∈ (request vars window defaultRegion targets).targets ∧
    (∃ calls, (b.recorded.afterTarget s p).world.2 = s.world.2 ++ calls ∧
      TargetSeeks b p s.world.1 (inputIds p) calls ((b.recorded.runTarget p).run s).1) ∧
    (inputIds p = splitIds (vars.resolve .plain t.executionId) ↔
      ¬ Hollow (vars.resolve .plain t.executionId)) := by
  subst hp
  obtain ⟨hrows, hsql⟩ := @prepare_keeps vars defaultRegion t
  have hinputs : ¬ isAdHoc (prepare vars defaultRegion t) := by simp [isAdHoc, hsql, hblank]
  have hlimit : b.maxRows (prepare vars defaultRegion t) = .ok maxRows := by
    rw [← hmax]
    unfold AthenaBackend.maxRows
    rw [hrows]
  exact ⟨mem_targets_request ht hvisible, seeks_runTarget hinputs hlimit (ends_self _ s),
    inputIds_prepare_iff hfield⟩

end AthenaBackend

namespace Memory

def readingExec : Target := { refId := "A", executionId := "$exec", format := "table" }

def execStore (values : List String) : Variable.Store := ⟨[("exec", values)]⟩

/-- The target as it is sent when the variable has some values. -/
def sent (values : List String) : Target :=
  Panel.prepare (execStore values) "us-east-1" readingExec

def readingSession : Session (Logged Memory) := .fresh backend.settings (pastMemory, [])

theorem looks_up_split_ids_exec :
    readingExec.executionId ≠ "" ∧ Text.isBlankText readingExec.sql ∧
    backend.maxRows readingExec = .ok 1000 ∧
    sent ["b", "a"] ∈
      (Panel.request (execStore ["b", "a"]) ⟨.epoch, .epoch⟩ "us-east-1" [readingExec]).targets ∧
    (∃ calls, (backend.recorded.afterTarget readingSession (sent ["b", "a"])).world.2 =
        readingSession.world.2 ++ calls ∧
      AthenaBackend.TargetSeeks backend (sent ["b", "a"]) pastMemory ["b", "a"] calls
        ((backend.recorded.runTarget (sent ["b", "a"])).run readingSession).1) ∧
    ¬ Panel.Hollow ((execStore ["b", "a"]).resolve .plain "$exec") := by
  have hblank : Text.isBlankText readingExec.sql := by decide +kernel
  have hids : AthenaBackend.inputIds (sent ["b", "a"]) = ["b", "a"] := by decide +kernel
  have hsplit : Panel.splitIds ((execStore ["b", "a"]).resolve .plain "$exec") = ["b", "a"] := by
    decide +kernel
  obtain ⟨hmem, hseeks, hhollow⟩ := @AthenaBackend.looks_up_split_ids Memory backend
    (execStore ["b", "a"]) ⟨.epoch, .epoch⟩ "us-east-1" [readingExec] readingExec _ 1000
    (List.mem_singleton_self _) rfl rfl (by decide) hblank rfl readingSession
  rw [show Panel.prepare _ _ _ = sent ["b", "a"] from rfl, hids] at hseeks
  exact ⟨by decide, hblank, rfl, hmem, hseeks, hhollow.mp (hids.trans hsplit.symm)⟩

/-- Two empty values are no ids for the panel, but their braces are looked up, and nothing fails. -/
theorem looks_up_braces :
    Panel.splitIds ((execStore ["", ""]).resolve .plain readingExec.executionId) = [] ∧
    AthenaBackend.lookedUp
        (backend.recorded.afterTarget readingSession (sent ["", ""])).world.2 =
      ["\x7b", "\x7d"] ∧
    ((backend.recorded.runTarget (sent ["", ""])).run readingSession).1.isOk := by
  decide +kernel

end Memory
end PanelSource
