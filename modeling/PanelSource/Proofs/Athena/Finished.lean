import PanelSource.Proofs.Athena.Advance

/- Which finished executions a lookup lists.

   A lookup lists every finished execution that passes its filter, but for one: where the newest id
   is still that of a list that is kept, an execution that was queued or ran when that list was
   taken is held back by it (`finished_listed`), until something else is run or the list has
   expired. -/
namespace PanelSource
namespace AthenaBackend
variable {W : Type} {b : AthenaBackend W} {reports : Reports W} {ps : Params}
  {s s' : Session (Logged W)}

variable (b) in
/-- A list whose newest id is still the newest one has an execution that was not finished. -/
def Holds (reports : Reports W) (ps : Params) (w : W) (id : String) (l : Listing) : Prop :=
  (reports.history w (b.regionOf ps) ps.workGroup?).head? = some l.newest ∧
    ∃ e ∈ l.executions, e.id = some id ∧ e.Unfinished

variable (b) in
/-- The clock when a lookup looks for a list that is kept. -/
def lookedAt (ps : Params) (s : Session (Logged W)) : Nat :=
  (b.athena.now ((b.athena.region (b.regionOf ps)).run s.world.1).2).1

variable (b) in
/-- A list that is kept, and has not expired when a lookup looks for it, holds an execution. -/
def HeldBack (reports : Reports W) (ps : Params) (s : Session (Logged W)) (id : String) : Prop :=
  ∃ l ∈ s.listings.entries, l.key = b.listingKey ps ∧ b.lookedAt ps s < l.expires ∧
    b.Holds reports ps s.world.1 id l.value

/-! ## What is listed -/

/-- Among fetched records is the answer for each id. -/
theorem Fetches.finds {region id : String} {bs : List (List String)} {calls : List (Noted W)}
    {executions : List Execution} (h : Fetches region bs calls executions) (hid : id ∈ bs.flatten) :
    ∃ w ids xs, id ∈ ids ∧ ⟨region, w, .executions ids (.ok xs)⟩ ∈ calls ∧ xs ⊆ executions := by
  induction h with
  | nil => cases hid
  | @cons ids bs calls w xs ys _ ih =>
    rw [List.flatten_cons] at hid
    rcases List.mem_append.mp hid with hid | hid
    · exact ⟨w, ids, xs, hid, List.mem_cons_self, List.subset_append_left xs ys⟩
    · obtain ⟨w', ids', xs', hid', hcall, hsub⟩ := ih hid
      exact ⟨w', ids', xs', hid', List.mem_cons_of_mem _ hcall,
        List.Subset.trans hsub (List.subset_append_right xs ys)⟩

theorem FetchesAll.finds {region id : String} {ids : List String} {calls : List (Noted W)}
    {executions : List Execution} (h : FetchesAll region ids calls executions) (hid : id ∈ ids) :
    ∃ w ids xs, id ∈ ids ∧ ⟨region, w, .executions ids (.ok xs)⟩ ∈ calls ∧ xs ⊆ executions := by
  obtain ⟨bs, rfl, -, hfetch⟩ := h
  exact hfetch.finds hid

theorem Taken.advances {w : Logged W} (hknown : Known reports w) {region : String}
    {workGroup : Option String} {listed : List String} {executions : List Execution}
    (h : Taken reports.history w.2 region workGroup listed executions) :
    ∃ w₀, listed = reports.history w₀ region workGroup ∧ Advances reports w₀ w.1 := by
  obtain ⟨earlier, w₀, stopAt, calls, later, hlog, hlisted, -⟩ := h
  have htook : ⟨region, w₀, .executionIds workGroup stopAt (.ok listed)⟩ ∈ w.2 := by
    rw [hlog]
    exact List.mem_append_left _ (List.mem_append_right _ List.mem_cons_self)
  exact ⟨w₀, hlisted, (hknown.calls _ htook).1⟩

/-- A list that was taken has every execution that is there, as long as its newest id is the newest:
    as it is now, or from before it was finished. -/
theorem Taken.finished (hreporting : b.Reporting reports) {w : Logged W} (hknown : Known reports w)
    {region newest : String} {workGroup : Option String} {listed : List String}
    {executions : List Execution}
    (htaken : Taken reports.history w.2 region workGroup listed executions)
    (hold : newest ∈ listed)
    (hnow : (reports.history w.1 region workGroup).head? = some newest) {id : String}
    {e : Execution} (hid : id ∈ reports.history w.1 region workGroup)
    (hrecord : reports.record w.1 region id = some e) :
    ∃ e' ∈ executions, e'.id = some id ∧ (e' = e ∨ e'.Unfinished) := by
  -- Nothing has been added since then, so the id was among those whose records were fetched.
  have hthen : id ∈ listed := by
    obtain ⟨w₀, rfl, hsince⟩ := Taken.advances hknown htaken
    rw [← hsince.history_eq hold hnow]
    exact hid
  obtain ⟨earlier, w₀, stopAt, calls, later, hlog, rfl, hfetch⟩ := htaken
  have horder : InOrder reports (⟨region, w₀, .executionIds workGroup stopAt
      (.ok (reports.history w₀ region workGroup))⟩ :: calls) := by
    have h := hknown.order
    rw [hlog] at h
    exact (List.pairwise_append.mp (List.pairwise_append.mp h).1).2.1
  have hin : ∀ c ∈ calls, c ∈ w.2 := by
    intro c hc
    rw [hlog]
    exact List.mem_append_left _ (List.mem_append_right _ (List.mem_cons_of_mem _ hc))
  obtain ⟨v, batch, xs, hbatch, hcall, hsub⟩ := hfetch.finds hthen
  have hafter := List.rel_of_pairwise_cons horder hcall
  obtain ⟨e', hrecord', hnamed⟩ := hreporting.listed (hafter.mem_history hthen)
  obtain ⟨hadvances, htrue⟩ := hknown.calls _ (hin _ hcall)
  refine ⟨e', hsub (htrue.mem hbatch hrecord'), hnamed, ?_⟩
  by_cases hdone : e'.Unfinished
  · exact .inr hdone
  · have hsame := hadvances.record hrecord' hdone
    exact .inl (Option.some_inj.mp (hsame.symm.trans hrecord))

/-- A finished execution is listed, or a list that is kept holds it. -/
theorem Lists.finished (hreporting : b.Reporting reports) (hknown : Known reports s.world)
    (hkept : ∀ l ∈ s.listings.entries, Complete reports.history s.world.2 l)
    (hgoes : Proceeds reports s.world s'.world) (hslash : '/' ∉ (b.regionOf ps).toList)
    {executions : List Execution} (h : Lists b ps s s' (.ok executions)) {id : String}
    {e : Execution} (hid : id ∈ reports.history s.world.1 (b.regionOf ps) ps.workGroup?)
    (hrecord : reports.record s.world.1 (b.regionOf ps) id = some e) (hdone : ¬ e.Unfinished) :
    e ∈ executions ∨ ∃ l ∈ s.listings.entries, l.key = b.listingKey ps ∧
      b.Holds reports ps s.world.1 id l.value := by
  obtain ⟨-, made, hmade, -, hcalls⟩ := hgoes
  cases h with
  | @empty w stopAt _ hids hlog =>
    -- Nothing is listed only where there is nothing.
    obtain rfl := List.append_cancel_left (hmade.symm.trans hlog)
    have hlater := (hcalls _ List.mem_cons_self).1.mem_history hid
    rcases hreporting.lists hids with hnone | ⟨hne, -, -⟩
    · rw [← hnone] at hlater
      cases hlater
    · exact absurd rfl hne
  | @taken w stopAt ids newest calls _ hnewest hstop hids hfetch hlog _ =>
    obtain rfl := List.append_cancel_left (hmade.symm.trans hlog)
    have hall := hreporting.lists.eq_of_head?_ne hids (by rw [hnewest]; exact Ne.symm hstop)
    have hmem : id ∈ ids := by
      rw [hall]
      exact (hcalls _ List.mem_cons_self).1.mem_history hid
    obtain ⟨v, batch, xs, hbatch, hcall, hsub⟩ := hfetch.finds hmem
    obtain ⟨hbefore, -, htrue⟩ := hcalls _ (List.mem_cons_of_mem _ hcall)
    have hthen : reports.record v (b.regionOf ps) id = some e := hbefore.record hrecord hdone
    exact .inl (hsub (htrue.mem hbatch hthen))
  | @kept w ids l hl hkey hnewest _ hids hlog =>
    obtain rfl := List.append_cancel_left (hmade.symm.trans hlog)
    have hahead := (hcalls _ List.mem_cons_self).1
    obtain ⟨region, workGroup, listed, hslash', hempty, hkey', hhead, htaken⟩ := hkept l hl
    obtain ⟨rfl, hgroup⟩ := workGroupKey_inj hslash' hslash (hkey'.symm.trans hkey)
    obtain rfl := getD_empty_inj hempty (workGroup?_ne_empty ps) hgroup
    have hold := List.mem_of_head? hhead
    -- The newest id is an old one, so nothing has been added up to now either.
    have hthere : l.value.newest ∈ reports.history s.world.1 (b.regionOf ps) ps.workGroup? := by
      obtain ⟨w₀, rfl, hsince⟩ := Taken.advances hknown htaken
      exact hsince.mem_history hold
    have hanswer := hnewest
    rw [hreporting.lists.head?_eq hids] at hanswer
    have hnow : (reports.history s.world.1 (b.regionOf ps) ps.workGroup?).head? =
        some l.value.newest := by
      rw [← hahead.history_eq hthere hanswer]
      exact hanswer
    obtain ⟨e', he', hnamed, rfl | hrunning⟩ :=
      Taken.finished hreporting hknown htaken hold hnow hid hrecord
    · exact .inl he'
    · exact .inr ⟨l, hl, hkey, hnow, e', he', hnamed, hrunning⟩

variable (b) in
/-- The session in which the list of a lookup is gone if it has expired. -/
def withAlive (ps : Params) (s : Session (Logged W)) : Session (Logged W) :=
  { s with listings := (s.listings.get (b.lookedAt ps s) (b.listingKey ps)).2 }

/-- A lookup lists as it would if the list that is kept were gone as soon as it expires. -/
theorem lists_withAlive {executions : List Execution}
    (h : Ends (b.recorded.executionsOf ps) s (.ok executions) s') :
    Lists b ps (b.withAlive ps s) s' (.ok executions) := by
  unfold executionsOf at h
  obtain ⟨a, s₁, hregion, h⟩ := ends_ok_bind.mp h
  obtain ⟨e | service, v, hserves, rfl, hanswer⟩ := ends_recorded hregion
  · cases hanswer
  obtain rfl := Except.ok.inj hanswer
  have hnow : b.lookedAt ps s = (b.athena.now v).1 :=
    congrArg (fun w => (b.athena.now w).1) (congrArg Prod.snd hserves)
  rw [ends_bind_of_run (run_keptListing _ _)] at h
  refine lists_of_kept hserves ?_ ?_ ?_ h
  · unfold withAlive
    rw [hnow]
    exact List.Subset.refl _
  · rfl
  · intro l hl
    unfold withAlive
    rw [hnow]
    exact Cache.get_leaves hl

end AthenaBackend

/-! ## Lookups that succeed -/

/-- A request succeeds, and keeps what it began with. -/
def Succeeds {W α : Type} (P : W → Prop) (x : ServiceM W α) : Prop :=
  ∀ ⦃w⦄, P w → ∃ a w', Ends x w (.ok a) w' ∧ P w'

section
variable {W α β : Type} {P : W → Prop}

theorem succeeds_pure (a : α) : Succeeds P (pure a : ServiceM W α) :=
  fun w h => ⟨a, w, rfl, h⟩

theorem Succeeds.bind {x : ServiceM W α} {f : α → ServiceM W β} (hx : Succeeds P x)
    (hf : ∀ a, Succeeds P (f a)) : Succeeds P (x >>= f) := by
  intro w h
  obtain ⟨a, v, ha, hv⟩ := hx h
  obtain ⟨c, w', hc, hw'⟩ := hf a hv
  exact ⟨c, w', ends_ok_bind.mpr ⟨a, v, ha, hc⟩, hw'⟩

theorem Succeeds.inBatches {call : List String → ServiceM W (List α)} {bs : List (List String)}
    (h : ∀ ids ∈ bs, Succeeds P (call ids)) : Succeeds P (inBatches call bs) := by
  induction bs with
  | nil => exact succeeds_pure []
  | cons ids bs ih =>
    have hrest := ih fun ids hids => h ids (List.mem_cons_of_mem _ hids)
    exact Succeeds.bind (h ids List.mem_cons_self) fun xs =>
      Succeeds.bind hrest fun ys => succeeds_pure _

theorem succeeds_call {x : ServiceM W α} (hx : Succeeds P x) :
    Succeeds (fun s : Session W => P s.world) (Session.call x) := by
  intro s h
  obtain ⟨a, w, ha, hw⟩ := hx h
  exact ⟨a, { s with world := w }, ends_call.mpr ⟨w, ha, rfl⟩, hw⟩

end

namespace AthenaBackend
variable {W : Type} {b : AthenaBackend W} {reports : Reports W} {ps : Params}

variable (b) in
/-- From a world on, the service answers the calls of a listing. -/
structure AnswersFrom (reports : Reports W) (region : String) (workGroup : Option String)
    (w₀ : W) : Prop where
  serves {w : W} (h : Advances reports w₀ w) :
    ∃ service v, Ends (b.athena.region region) w (.ok service) v
  executionIds {service : RegionService W} {v v' : W}
    (hserves : Ends (b.athena.region region) v (.ok service) v') {w : W}
    (h : Advances reports w₀ w) (stopAt : Option String) :
    ∃ ids w', Ends (service.executionIds workGroup stopAt) w (.ok ids) w'
  executions {service : RegionService W} {v v' : W}
    (hserves : Ends (b.athena.region region) v (.ok service) v') {w : W}
    (h : Advances reports w₀ w) {ids : List String} (hlimit : ids.length ≤ batchLimit) :
    ∃ es w', Ends (service.executions ids) w (.ok es) w'

section
variable {region : String} {workGroup : Option String} {w₀ : W} (hreporting : b.Reporting reports)
include hreporting

/-- Listing executions succeeds where the service answers. -/
theorem succeeds_executionsOf (hanswers : b.AnswersFrom reports (b.regionOf ps) ps.workGroup? w₀) :
    Succeeds (fun s : Session W => Advances reports w₀ s.world) (b.executionsOf ps) := by
  have htick : ∀ s : Session W, Advances reports w₀ s.world →
      Advances reports w₀ (b.athena.now s.world).2 :=
    fun s h => IsTrans.trans _ _ _ h (hreporting.now s.world)
  intro s h
  obtain ⟨service, v, hserves⟩ := hanswers.serves h
  have hregion : Ends (b.region (ps.trimmed "region")) s (.ok (b.regionOf ps, service))
      { s with world := v } := ends_region.mpr ⟨_, v, hserves, rfl, rfl⟩
  have hcalls := hreporting.calls hserves
  have hrest : Advances reports w₀ v := IsTrans.trans _ _ _ h (hreporting.region _ hserves)
  simp only [executionsOf, ends_bind_of_run hregion]
  refine Succeeds.bind (P := fun s : Session W => Advances reports w₀ s.world) ?_ ?_ hrest
  · intro s h
    exact ⟨_, _, run_keptListing _ s, htick s h⟩
  intro kept
  refine Succeeds.bind (succeeds_call fun w h => ?_) fun ids => ?_
  · obtain ⟨ids, w', hids⟩ := hanswers.executionIds hserves h (kept.map (·.newest))
    exact ⟨ids, w', hids, IsTrans.trans _ _ _ h (hcalls.2.2.2.1 _ _ hids)⟩
  -- No ids and an unchanged newest id need no further call.
  cases ids.head? with
  | none => exact succeeds_pure []
  | some newest =>
    simp only
    cases kept.filter fun l => l.newest == newest with
    | some l => exact succeeds_pure l.executions
    | none =>
      refine Succeeds.bind (succeeds_call (Succeeds.inBatches fun batch hbatch w h => ?_))
        fun executions => Succeeds.bind (fun s h => ?_) fun _ => succeeds_pure executions
      · obtain ⟨es, w', hes⟩ := hanswers.executions hserves h (length_of_mem_batches hbatch).2
        exact ⟨es, w', hes, IsTrans.trans _ _ _ h (hcalls.2.2.2.2 _ hes)⟩
      · exact ⟨_, _, run_keepListing _ _ s, htick s h⟩

end

/-! ## Lookups of ids -/

theorem ends_queryExecutionIds {s s' : Session W} {f : ExecutionFilter}
    {executions : List Execution} (hpattern : ps.pattern = .ok f.pattern)
    (hlimit : ps.limit = .ok f.limit)
    (hstop : ps.stop = .ok f.stop) (h : Ends (b.executionsOf ps) s (.ok executions) s') :
    Ends (b.queryExecutionIds ps) s (.ok ((f.select executions).filterMap (·.id))) s' := by
  have hselect : Ends (b.selectExecutions ps f) s (.ok (f.select executions)) s' :=
    ends_ok_bind.mpr ⟨executions, s', h, rfl⟩
  have hquery : Ends (b.queryExecutions ps) s (.ok (f.select executions)) s' := by
    unfold queryExecutions
    rw [hpattern, hlimit, hstop]
    exact hselect
  exact ends_ok_bind.mpr ⟨_, s', hquery, rfl⟩

theorem fetch_ids {s s' : Session W} {ids : List String}
    (h : Ends (b.queryExecutionIds ps) s (.ok ids) s') :
    (b.resources.fetch "query_execution_ids" ps s).1 =
      .ok (.object [("query_execution_ids", .strings ids)]) := by
  have hvalue : Ends (b.value "query_execution_ids" ps) s (.ok (.strings ids)) s' :=
    ends_ok_bind.mpr ⟨ids, s', h, rfl⟩
  have hlookup : Ends (b.lookup "query_execution_ids" ps) s
      (.ok (.object [("query_execution_ids", .strings ids)])) s' :=
    ends_ok_bind.mpr ⟨_, s', hvalue, rfl⟩
  show ((b.lookup "query_execution_ids" ps).run s).1.mapError AthenaError.toBackend = _
  rw [hlookup]
  rfl

theorem fetch_of_ids {s : Session W} {ids : List String}
    (h : ((b.queryExecutionIds ps).run s).1.toOption = some ids) :
    (b.resources.fetch "query_execution_ids" ps s).1 =
      .ok (.object [("query_execution_ids", .strings ids)]) := by
  have hends := ends_self (b.queryExecutionIds ps) s
  cases hr : ((b.queryExecutionIds ps).run s).1 with
  | error e =>
    rw [hr] at h
    cases h
  | ok found =>
    rw [hr] at h hends
    cases h
    exact fetch_ids hends

theorem mem_select {f : ExecutionFilter} {executions : List Execution} {e : Execution}
    (hlimit : f.limit < 0) (he : e ∈ executions) (hadmits : f.admits e) :
    e ∈ f.select executions := by
  unfold ExecutionFilter.select
  simp only [if_pos hlimit]
  exact List.mem_mergeSort.mpr (List.mem_filter.mpr ⟨he, hadmits⟩)

/-- **A finished execution is listed, unless a kept list holds it back.** In every run of lookups,
    while the world advances and lists are lost at will, a lookup of ids without a limit succeeds
    where the service answers. It lists every execution of its region and workgroup that has
    succeeded by now, was done by the end of the window and matches the pattern. Only such an
    execution is left out as was queued or running when a list was taken that is kept and has not
    expired, and whose newest id is still the newest one. -/
theorem finished_listed (hreporting : b.Reporting reports) {s : Session (Logged W)}
    (h : AdvancingRun b reports s) (hslash : '/' ∉ (b.regionOf ps).toList) {pattern : Pattern}
    {limit : Int} {stop : Calendar.Instant} (hpattern : ps.pattern = .ok pattern)
    (hlimit : ps.limit = .ok limit) (hnegative : limit < 0) (hstop : ps.stop = .ok stop)
    (hanswers : b.AnswersFrom reports (b.regionOf ps) ps.workGroup? s.world.1) :
    ∃ ids, (b.resources.fetch "query_execution_ids" ps s.unlogged).1 =
        .ok (.object [("query_execution_ids", .strings ids)]) ∧
      ∀ {id e done sql}, id ∈ reports.history s.world.1 (b.regionOf ps) ps.workGroup? →
        reports.record s.world.1 (b.regionOf ps) id = some e → e.state = some "SUCCEEDED" →
        e.completed = some done → done.atOrBefore stop → e.sql = some sql →
        pattern.occursIn sql → id ∈ ids ∨ b.HeldBack reports ps s id := by
  let f : ExecutionFilter := ⟨pattern, limit, stop⟩
  have hself := ends_self (b.recorded.executionsOf ps) s
  obtain ⟨executions, s', hlist, -⟩ :=
    succeeds_executionsOf hreporting hanswers (w := s.unlogged) (refl s.world.1)
  have hsame : ((b.recorded.executionsOf ps).run s).1 = .ok executions := by
    have hplain := mirrors_executionsOf hself
    exact (Prod.mk.inj (hplain.symm.trans hlist)).1
  rw [hsame] at hself
  have hids := ends_queryExecutionIds (f := f) hpattern hlimit hstop hlist
  refine ⟨_, fetch_ids hids, fun {id e done sql} hid hrecord hstate hdone hbefore hsql hmatch => ?_⟩
  -- The execution is done, so that only a listing from before it was can hold it back.
  have hfinished : ¬ e.Unfinished := by
    unfold Execution.Unfinished
    rw [hstate]
    decide
  have hsub := s.listings.get_subset (b.lookedAt ps s) (b.listingKey ps)
  have hkept : ∀ l ∈ (b.withAlive ps s).listings.entries,
      Complete reports.history s.world.2 l :=
    fun l hl => h.lookupRun.kept hreporting.lists l (hsub hl)
  have hgoes := goes_executionsOf hreporting hself
  have hknown : Known reports s.world := h.known hreporting
  rcases Lists.finished (s := b.withAlive ps s) hreporting hknown hkept hgoes hslash
    (lists_withAlive hself) hid hrecord hfinished with hmem | ⟨l, hl, hkey, hholds⟩
  · have hadmits : f.admits e := by
      simp [ExecutionFilter.admits, f, hstate, hdone, hbefore, hsql, hmatch]
    obtain ⟨e', hrecord', hnamed⟩ := hreporting.listed hid
    rw [hrecord] at hrecord'
    cases hrecord'
    exact .inl (List.mem_filterMap.mpr ⟨e, mem_select hnegative hmem hadmits, hnamed⟩)
  · exact .inr ⟨l, hsub hl, hkey, Cache.get_alive hl hkey, hholds⟩

end AthenaBackend

/-! ## A service in memory -/

namespace Memory

def reports : Reports Memory := ⟨history, fun m _ id => m.record? id⟩

theorem record?_eq_some_iff {m : Memory} {id : String} {e : Execution} :
    m.record? id = some e ↔ ∃ raw, m.executions.find? (fun e => e.id == some id) = some raw ∧
      (if 0 < m.runningChecks ∧ id.startsWith "started-" then
        { raw with status := raw.status.map fun s => { s with state := some "RUNNING" } }
      else raw) = e := by
  unfold record?
  rw [Option.map_eq_some_iff]

/-- With the same executions and no more checks to come, finished records stay. -/
theorem advances_of_eq {m m' : Memory} (hexecutions : m'.executions = m.executions)
    (hchecks : m'.runningChecks ≤ m.runningChecks) : Advances reports m m' := by
  refine ⟨fun region workGroup => ⟨[], ?_, fun _ h => absurd h List.not_mem_nil⟩,
    fun {region id e} h hdone => ?_⟩
  · show history m' region workGroup = history m region workGroup
    unfold history
    rw [hexecutions]
  · obtain ⟨raw, hfind, hraw⟩ := record?_eq_some_iff.mp h
    refine record?_eq_some_iff.mpr ⟨raw, by rw [hexecutions, hfind], ?_⟩
    by_cases hmask : 0 < m.runningChecks ∧ id.startsWith "started-"
    · -- Only a record without any status is told as finished here.
      rw [if_pos hmask] at hraw
      cases hstatus : raw.status with
      | some status =>
        rw [hstatus] at hraw
        subst hraw
        exact absurd (.inr rfl) hdone
      | none =>
        rw [hstatus] at hraw
        rw [← hraw]
        split
        · rfl
        · rw [Option.map_none, ← hstatus]
    · rw [if_neg hmask] at hraw
      rw [if_neg fun h => hmask ⟨Nat.lt_of_lt_of_le h.1 hchecks, h.2⟩]
      exact hraw

theorem run_executions (ids : List String) (m : Memory) : (region.executions ids).run m =
    match checkBatch ids with
    | .error e => (.error e, m.log ("batch_get_query_executions:" ++ count ids.length))
    | .ok () => (.ok (ids.filterMap m.record?),
        { m.log ("batch_get_query_executions:" ++ count ids.length) with
          runningChecks := m.runningChecks - 1 }) := rfl

/-- A batch of executions is refused, or it is told by the records there are. -/
theorem executions_cases {ids : List String} {m m' : Memory}
    {r : Except AthenaError (List Execution)} (h : Ends (region.executions ids) m r m') :
    (∃ e, checkBatch ids = .error e ∧ r = .error e ∧
        m' = m.log ("batch_get_query_executions:" ++ count ids.length)) ∨
      r = .ok (ids.filterMap m.record?) ∧
        m' = { m.log ("batch_get_query_executions:" ++ count ids.length) with
          runningChecks := m.runningChecks - 1 } := by
  have hrun := run_executions ids m
  cases hbatch : checkBatch ids with
  | error e =>
    rw [hbatch] at hrun
    exact .inl ⟨e, rfl, (ends_iff_of_run hrun).mp h⟩
  | ok _ =>
    rw [hbatch] at hrun
    exact .inr ((ends_iff_of_run hrun).mp h)

/-- What is called of the service in memory leaves the executions alone, and checks are counted. -/
theorem keeps_calls : Keeps (Advances reports) region.workGroups ∧
    (∀ workGroup, Keeps (Advances reports) (region.namedQueryIds workGroup)) ∧
    (∀ ids, Keeps (Advances reports) (region.namedQueries ids)) ∧
    (∀ workGroup stopAt, Keeps (Advances reports) (region.executionIds workGroup stopAt)) ∧
    ∀ ids, Keeps (Advances reports) (region.executions ids) := by
  have hlogged (call : String) (m : Memory) : Advances reports m (m.log call) :=
    advances_of_eq rfl (Nat.le_refl _)
  refine ⟨fun m r m' h => ?_, fun workGroup m r m' h => ?_, fun ids m r m' h => ?_,
    fun workGroup stopAt m r m' h => ?_, fun ids m r m' h => ?_⟩
  · obtain ⟨-, rfl⟩ := (ends_iff_of_run rfl).mp h
    exact hlogged _ m
  · obtain ⟨-, rfl⟩ := (ends_iff_of_run rfl).mp h
    exact hlogged _ m
  · obtain ⟨-, rfl⟩ := (ends_iff_of_run rfl).mp h
    exact hlogged _ m
  · obtain ⟨-, rfl⟩ := (ends_iff_of_run rfl).mp h
    exact hlogged _ m
  · rcases executions_cases h with ⟨_, -, -, rfl⟩ | ⟨-, rfl⟩
    · exact hlogged _ m
    · exact advances_of_eq rfl (Nat.sub_le _ _)

/-- The service in memory is one to rely on. -/
theorem reporting (settings : AthenaSettings) :
    (⟨athena, settings⟩ : AthenaBackend Memory).Reporting reports where
  lists := listsHistory settings
  listed {m name id workGroup} h := by
    obtain ⟨e, he, hid⟩ := List.mem_filterMap.mp h
    have hsome : (m.executions.find? fun e => e.id == some id).isSome :=
      List.find?_isSome.mpr ⟨e, (List.mem_filter.mp he).1, by simp [hid]⟩
    obtain ⟨raw, hfind⟩ := Option.isSome_iff_exists.mp hsome
    have hnamed : raw.id = some id := by simpa using List.find?_some hfind
    refine ⟨_, record?_eq_some_iff.mpr ⟨raw, hfind, rfl⟩, ?_⟩
    split
    · exact hnamed
    · exact hnamed
  region name m r m' h := by
    obtain ⟨-, rfl⟩ := (ends_iff_of_run rfl).mp h
    exact advances_of_eq rfl (Nat.le_refl _)
  now m := refl m
  calls {name service v v'} hserves := by
    obtain rfl := eq_region hserves
    exact keeps_calls
  executions {name service v v'} hserves {ids m m' es} h := by
    obtain rfl := eq_region hserves
    rcases executions_cases h with ⟨_, -, hes, -⟩ | ⟨hes, -⟩
    · cases hes
    · cases hes
      exact fun id hid e hrecord => List.mem_filterMap.mpr ⟨id, hid, hrecord⟩

/-- It always answers. -/
theorem answersFrom (settings : AthenaSettings) (name : String) (workGroup : Option String)
    (m₀ : Memory) :
    (⟨athena, settings⟩ : AthenaBackend Memory).AnswersFrom reports name workGroup m₀ where
  serves h := ⟨region, _, rfl⟩
  executionIds {service v v'} hserves {m} h stopAt := by
    obtain rfl := eq_region hserves
    exact ⟨_, _, rfl⟩
  executions {service v v'} hserves {m} h {ids} hlimit := by
    obtain rfl := eq_region hserves
    have hbatch : checkBatch ids = .ok () := if_neg (Nat.not_lt.mpr hlimit)
    have hrun := run_executions ids m
    rw [hbatch] at hrun
    exact ⟨_, _, hrun⟩

/-- A statement that was started, as it is told when it has succeeded. -/
def startedStatement : Execution :=
  { id := some "started-0", sql := some "SELECT 1", workGroup := some "primary"
    status := some { state := some "SUCCEEDED", completed := some .epoch } }

/-- A lookup of all ids whose statement has a word in it. -/
def idsOf (region workGroup : String) : Params :=
  [("region", .text region), ("workGroup", .text workGroup), ("pattern", .text "SELECT"),
    ("limit", .int (-1)), ("to", .text "2024-07-01T00:00:00Z")]

def inPrimaryGroup : Params := idsOf "us-east-1" "primary"

/-- The session after a lookup that has found the statement running. -/
def afterRunning : Session (Logged Memory) :=
  (backend.recorded.resources.fetch "query_execution_ids" inPrimaryGroup
    (.fresh backend.settings ({ executions := [startedStatement], runningChecks := 1 }, []))).2

theorem run_afterRunning : AthenaBackend.AdvancingRun backend reports afterRunning :=
  .fetch (.fresh _) "query_execution_ids" _ (by decide +kernel)

/-- The statement that has succeeded by now is to be listed, or held back. -/
theorem finished_listed_afterRunning : AthenaBackend.AdvancingRun backend reports afterRunning ∧
    ∃ ids, (backend.resources.fetch "query_execution_ids" inPrimaryGroup afterRunning.unlogged).1 =
        .ok (.object [("query_execution_ids", .strings ids)]) ∧
      ("started-0" ∈ ids ∨ backend.HeldBack reports inPrimaryGroup afterRunning "started-0") := by
  have hslash : '/' ∉ (backend.regionOf inPrimaryGroup).toList := by decide +kernel
  have hpatterns : inPrimaryGroup.pattern.toOption.any (·.occursIn "SELECT 1") := by decide +kernel
  have hstops : inPrimaryGroup.stop.toOption.any (Calendar.Instant.epoch.atOrBefore ·) := by
    decide +kernel
  have hlimit : inPrimaryGroup.limit = .ok (-1) := by rfl
  have hid : "started-0" ∈ history afterRunning.world.1 (backend.regionOf inPrimaryGroup)
      inPrimaryGroup.workGroup? := by
    decide +kernel
  have hrecord : afterRunning.world.1.record? "started-0" = some startedStatement := by
    decide +kernel
  cases hpattern : inPrimaryGroup.pattern with
  | error e =>
    rw [hpattern] at hpatterns
    cases hpatterns
  | ok pattern =>
    cases hstop : inPrimaryGroup.stop with
    | error e =>
      rw [hstop] at hstops
      cases hstops
    | ok stop =>
      rw [hpattern] at hpatterns
      rw [hstop] at hstops
      obtain ⟨ids, hfetch, hall⟩ := AthenaBackend.finished_listed (reporting {}) run_afterRunning
        hslash hpattern hlimit (by decide) hstop (answersFrom {} _ _ _)
      exact ⟨run_afterRunning, ids, hfetch, hall hid hrecord rfl rfl hstops rfl hpatterns⟩

/-- Two executions, the newer one in a workgroup whose name ends in a slash. -/
def slashMemory : Memory :=
  { executions :=
      [{ startedStatement with id := some "b", workGroup := some "b/" },
       { startedStatement with id := some "a", workGroup := some "a" }] }

/-- The session after a lookup in that workgroup. -/
def afterSlash : Session (Logged Memory) :=
  (backend.recorded.resources.fetch "query_execution_ids" (idsOf "r" "b/")
    (.fresh backend.settings (slashMemory, []))).2

/-- An execution that has succeeded is not listed, since a kept list has it as running; and one is
    not listed in a region with a slash in its name, since a list of another region is served. -/
theorem finished_hidden :
    (AthenaBackend.AdvancingRun backend reports afterRunning ∧
      "started-0" ∈ history afterRunning.world.1 "us-east-1" (some "primary") ∧
      afterRunning.world.1.record? "started-0" = some startedStatement ∧
      (backend.resources.fetch "query_execution_ids" inPrimaryGroup afterRunning.unlogged).1 =
        .ok (.object [("query_execution_ids", .strings [])])) ∧
    (AthenaBackend.AdvancingRun backend reports afterSlash ∧
      "a" ∈ history afterSlash.world.1 "r/b" none ∧
      afterSlash.world.1.record? "a" =
        some { startedStatement with id := some "a", workGroup := some "a" } ∧
      (backend.resources.fetch "query_execution_ids" (idsOf "r/b" "") afterSlash.unlogged).1 =
        .ok (.object [("query_execution_ids", .strings ["b"])])) := by
  have hslash : AthenaBackend.AdvancingRun backend reports afterSlash :=
    .fetch (.fresh slashMemory) "query_execution_ids" _ (by decide +kernel)
  refine ⟨⟨run_afterRunning, by decide +kernel, by decide +kernel, ?_⟩,
    hslash, by decide +kernel, by decide +kernel, ?_⟩
  · exact AthenaBackend.fetch_of_ids (by decide +kernel)
  · exact AthenaBackend.fetch_of_ids (by decide +kernel)

end Memory
end PanelSource
