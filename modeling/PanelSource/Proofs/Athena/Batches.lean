import PanelSource.Proofs.Athena.Finished

/- Lookups of any number of ids.

   A service takes `batchLimit` ids in one call, so a lookup of more ids makes several calls, one
   batch of ids in each. If the service answers id by id, the answers come to what one call for all
   ids would answer, and the first call that fails is the last one that is made (`Gathered`). Which
   calls were made is read off the log of a recorded service (`batchedLookup_inBatches`). -/
namespace PanelSource
variable {W α : Type}

/-- A request that is answered id by id in the order of the ids; ids that are not known are left
    out. What is known of an id is the same in all worlds of `inv`, and calls do not lead out of
    them. Any call may fail, as those do that carry too many ids. -/
structure AnswersById (inv : W → Prop) (call : List String → ServiceM W (List α))
    (known : String → Option α) : Prop where
  answer : ∀ {ids w xs w'}, inv w → Ends (call ids) w (.ok xs) w' → xs = ids.filterMap known
  stays : ∀ {ids w r w'}, inv w → Ends (call ids) w r w' → inv w'

/-- A call for a batch of ids: the world that it was made in, what it carried and what came back. -/
structure BatchCall (W α : Type) where
  world : W
  ids : List String
  answer : Except AthenaError (List α)

def BatchCall.noted (region : String) (call : List String → Except AthenaError (List α) → Call)
    (c : BatchCall W α) : Noted W :=
  ⟨region, c.world, call c.ids c.answer⟩

/-- The calls for some ids and what they come to: all of them are answered, or the last one fails. -/
inductive Gathered (known : String → Option α) (ids : List String) :
    List (BatchCall W α) → Except AthenaError (List α) → Prop
  | all {calls : List (BatchCall W α)} (hids : calls.flatMap BatchCall.ids = ids)
      (hanswers : ∀ c ∈ calls, c.answer = .ok (c.ids.filterMap known)) :
      Gathered known ids calls (.ok (ids.filterMap known))
  | failed {calls : List (BatchCall W α)} {last : BatchCall W α} {e : AthenaError}
      (hids : (calls ++ [last]).flatMap BatchCall.ids <+: ids)
      (hanswers : ∀ c ∈ calls, c.answer = .ok (c.ids.filterMap known))
      (hlast : last.answer = .error e) : Gathered known ids (calls ++ [last]) (.error e)

theorem Gathered.cons {known : String → Option α} {ids : List String} {c : BatchCall W α}
    {calls : List (BatchCall W α)} {r : Except AthenaError (List α)}
    (hc : c.answer = .ok (c.ids.filterMap known)) (h : Gathered known ids calls r) :
    Gathered known (c.ids ++ ids) (c :: calls) (r.map (c.ids.filterMap known ++ ·)) := by
  cases h with
  | all hids hanswers =>
    rw [Except.map, ← List.filterMap_append]
    exact .all (by rw [List.flatMap_cons, hids]) (List.forall_mem_cons.mpr ⟨hc, hanswers⟩)
  | failed hids hanswers hlast =>
    rw [Except.map, ← List.cons_append]
    refine .failed ?_ (List.forall_mem_cons.mpr ⟨hc, hanswers⟩) hlast
    rw [List.cons_append, List.flatMap_cons]
    exact (List.prefix_append_right_inj c.ids).mpr hids

/-- What a lookup does with ids, from the calls that it makes to the result. -/
structure BatchedLookup (region : String) (note : List String → Except AthenaError (List α) → Call)
    (call : List String → ServiceM W (List α)) (known : String → Option α) (ids : List String)
    (w w' : Logged W) (calls : List (BatchCall W α)) (r : Except AthenaError (List α)) : Prop where
  /-- These calls are made and no others. -/
  log : w'.2 = w.2 ++ calls.map (BatchCall.noted region note)
  size : ∀ c ∈ calls, 1 ≤ c.ids.length ∧ c.ids.length ≤ batchLimit
  gathered : Gathered known ids calls r
  /-- One call for all ids, where it is answered, is answered with the same. -/
  whole : ∀ {xs ys v}, r = .ok xs → Ends (call ids) w.1 (.ok ys) v → xs = ys

section
variable {inv : W → Prop} {call : List String → ServiceM W (List α)} {known : String → Option α}
  {region : String} {note : List String → Except AthenaError (List α) → Call}

/-- Batches are asked for one after the other, until a call fails. -/
theorem gathered_inBatches (hcall : AnswersById inv call known) {batches : List (List String)}
    {w w' : Logged W} {r : Except AthenaError (List α)} (hw : inv w.1)
    (h : Ends (inBatches (fun ids => noting region (note ids) (call ids)) batches) w r w') :
    ∃ calls, w'.2 = w.2 ++ calls.map (BatchCall.noted region note) ∧
      calls.map BatchCall.ids <+: batches ∧ Gathered known batches.flatten calls r := by
  induction batches generalizing w r with
  | nil =>
    obtain ⟨rfl, rfl⟩ := ends_pure.mp h
    exact ⟨[], by simp, List.nil_prefix, .all rfl (by simp)⟩
  | cons batch batches ih =>
    rcases ends_bind.mp h with ⟨xs, v, hbatch, h⟩ | ⟨e, hbatch, rfl⟩
    · obtain ⟨hfirst, hlog⟩ := ends_noting.mp hbatch
      obtain ⟨answer, hrest, rfl⟩ := ends_map.mp h
      obtain ⟨calls, hcalls, hfront, hgathered⟩ := ih (hcall.stays hw hfirst) hrest
      have hxs : xs = batch.filterMap known := hcall.answer hw hfirst
      subst hxs
      let first : BatchCall W α := ⟨w.1, batch, .ok (batch.filterMap known)⟩
      -- The first call answers its own ids and keeps the invariant for the others.
      have hnext : Gathered known (first.ids ++ batches.flatten) (first :: calls) _ :=
        hgathered.cons rfl
      refine ⟨first :: calls, ?_, List.cons_prefix_cons.mpr ⟨rfl, hfront⟩, hnext⟩
      rw [hcalls, hlog, List.append_assoc]
      rfl
    · -- The batches that are left are not asked for.
      let last : BatchCall W α := ⟨w.1, batch, .error e⟩
      have hids : ([] ++ [last]).flatMap BatchCall.ids <+: (batch :: batches).flatten := by
        simp [last]
      refine ⟨[] ++ [last], ?_, ?_, .failed hids (by simp) rfl⟩
      · rw [(ends_noting.mp hbatch).2]
        rfl
      · exact List.cons_prefix_cons.mpr ⟨rfl, List.nil_prefix⟩

theorem batchedLookup_inBatches (hcall : AnswersById inv call known) (ids : List String)
    {w w' : Logged W} {r : Except AthenaError (List α)} (hw : inv w.1)
    (h : Ends (inBatches (fun ids => noting region (note ids) (call ids)) (batches ids)) w r w') :
    ∃ calls, BatchedLookup region note call known ids w w' calls r := by
  obtain ⟨calls, hlog, hfront, hgathered⟩ := gathered_inBatches hcall hw h
  rw [batches_flatten] at hgathered
  refine ⟨calls, hlog, fun c hc => ?_, hgathered, ?_⟩
  · exact length_of_mem_batches (hfront.subset (List.mem_map_of_mem hc))
  · -- One call for all ids and the batches begin in the same world.
    intro xs ys v hr hone
    rw [hcall.answer hw hone]
    cases hgathered with
    | all => exact (Except.ok.inj hr).symm
    | failed => cases hr

end

/-- **A lookup in batches is one lookup of all ids.** If a service answers id by id, looking up any
    number of statements or records makes calls with one to `batchLimit` ids each. Together the
    calls carry the ids as they are, and the result is what one call for all of them answers; or a
    call fails, which is the last one, and its error is the result. Noting the calls changes nothing
    about the result. -/
theorem batched_lookups {inv inv' : W → Prop} {service : RegionService W}
    {statements : String → Option NamedQuery} {records : String → Option Execution}
    (hstatements : AnswersById inv service.namedQueries statements)
    (hrecords : AnswersById inv' service.executions records) (region : String)
    (ids : List String) {w : Logged W} (hw : inv w.1) (hw' : inv' w.1) :
    (∃ w' calls r, Ends ((service.recorded region).allNamedQueries ids) w r w' ∧
      Ends (service.allNamedQueries ids) w.1 r w'.1 ∧
      BatchedLookup region .namedQueries service.namedQueries statements ids w w' calls r) ∧
    ∃ w' calls r, Ends ((service.recorded region).allExecutions ids) w r w' ∧
      Ends (service.allExecutions ids) w.1 r w'.1 ∧
      BatchedLookup region .executions service.executions records ids w w' calls r := by
  have hnamed := ends_self ((service.recorded region).allNamedQueries ids) w
  have hexecutions := ends_self ((service.recorded region).allExecutions ids) w
  obtain ⟨calls, hcalls⟩ := batchedLookup_inBatches hstatements ids hw hnamed
  obtain ⟨calls', hcalls'⟩ := batchedLookup_inBatches hrecords ids hw' hexecutions
  exact ⟨⟨_, calls, _, hnamed, Mirrors.inBatches (fun _ => mirrors_noting) _ hnamed, hcalls⟩,
    ⟨_, calls', _, hexecutions, Mirrors.inBatches (fun _ => mirrors_noting) _ hexecutions,
      hcalls'⟩⟩

namespace Memory

def saved? (m : Memory) (id : String) : Option NamedQuery := (m.namedById.lookup id).map (·.2)

def execution? (m : Memory) (id : String) : Option Execution :=
  m.executions.find? fun e => e.id == some id

theorem run_namedQueries (ids : List String) (m : Memory) : (region.namedQueries ids).run m =
    ((checkBatch ids).map fun _ => ids.filterMap m.saved?,
      m.log ("batch_get_named_queries:" ++ count ids.length)) := rfl

theorem answersById_namedQueries (m : Memory) :
    AnswersById (fun v => v.named = m.named) region.namedQueries m.saved? where
  answer {ids v xs v'} hv h := by
    have hsame : v.saved? = m.saved? := by
      funext id
      unfold saved? namedById
      rw [hv]
    have hxs := ((ends_iff_of_run (run_namedQueries ids v)).mp h).1
    cases hbatch : checkBatch ids with
    | error e =>
      rw [hbatch] at hxs
      cases hxs
    | ok _ =>
      rw [hbatch, hsame] at hxs
      exact Except.ok.inj hxs
  stays {ids v r v'} hv h := by
    obtain ⟨-, rfl⟩ := (ends_iff_of_run (run_namedQueries ids v)).mp h
    exact hv

theorem record?_of_no_checks {m : Memory} (h : m.runningChecks = 0) : m.record? = m.execution? := by
  funext id
  unfold record? execution?
  simp [h]

/-- The same holds for executions as long as none is told as running for the time being. -/
theorem answersById_executions (m : Memory) :
    AnswersById (fun v => v.executions = m.executions ∧ v.runningChecks = 0) region.executions
      m.execution? where
  answer {ids v xs v'} hv h := by
    have hsame : v.record? = m.execution? := by
      rw [record?_of_no_checks hv.2]
      unfold execution?
      rw [hv.1]
    rcases executions_cases h with ⟨_, -, hxs, -⟩ | ⟨hxs, -⟩
    · cases hxs
    · rw [hsame] at hxs
      exact Except.ok.inj hxs
  stays {ids v r v'} hv h := by
    rcases executions_cases h with ⟨_, -, -, rfl⟩ | ⟨-, rfl⟩
    · exact hv
    · exact ⟨hv.1, by simp [hv.2]⟩

/-- More statements and executions than one call takes. -/
def crowded : Memory where
  named := List.replicate 60 (none, ⟨"daily", "SELECT 1"⟩)
  executions := List.replicate 60 { id := some "nq-7" }

/-- Ids of statements, one of which is not known. -/
def crowdedIds : List String := (List.range 61).map fun i => "nq-" ++ count i

theorem batched_lookups_crowded :
    AnswersById (fun v => v.named = crowded.named) region.namedQueries crowded.saved? ∧
    AnswersById (fun v => v.executions = crowded.executions ∧ v.runningChecks = 0)
      region.executions crowded.execution? ∧
    (∃ w' calls r, Ends ((region.recorded "r").allNamedQueries crowdedIds) (crowded, []) r w' ∧
      Ends (region.allNamedQueries crowdedIds) crowded r w'.1 ∧
      BatchedLookup "r" .namedQueries region.namedQueries crowded.saved? crowdedIds (crowded, []) w'
        calls r) ∧
    ∃ w' calls r, Ends ((region.recorded "r").allExecutions crowdedIds) (crowded, []) r w' ∧
      Ends (region.allExecutions crowdedIds) crowded r w'.1 ∧
      BatchedLookup "r" .executions region.executions crowded.execution? crowdedIds (crowded, []) w'
        calls r := by
  have hstatements := answersById_namedQueries crowded
  have hexecutions := answersById_executions crowded
  exact ⟨hstatements, hexecutions,
    batched_lookups hstatements hexecutions "r" crowdedIds rfl ⟨rfl, rfl⟩⟩

/-- Sixty-one ids take two calls, and the one that is not known is left out. -/
example : ((region.allNamedQueries crowdedIds).run crowded).2.calls =
    ["batch_get_named_queries:11", "batch_get_named_queries:50"] ∧
    (((region.allNamedQueries crowdedIds).run crowded).1.map List.length).toOption = some 60 := by
  decide +kernel

end Memory

end PanelSource
