import PanelSource.Proofs.Athena.Listing

/- A service whose executions go on.

   As time goes by, executions are added in front of the others, and one that is queued or runs may
   change; one that is done stays as it is (`Advances`). Every call that a lookup notes was made in
   a world between the one before the lookup and the one after it, in their order (`Proceeds`), and
   told the records of that world. So what was read at any time in a run is what was so then
   (`AdvancingRun.known`). -/
namespace PanelSource

/-- An execution that is queued or runs. -/
def Execution.Unfinished (e : Execution) : Prop :=
  e.state = some "QUEUED" ∨ e.state = some "RUNNING"

/-- What a service has to report in a world: the ids of a workgroup, the newest first, and the
    record of an id. -/
structure Reports (W : Type) where
  history : W → (region : String) → (workGroup : Option String) → List String
  record : W → (region id : String) → Option Execution

section
variable {W : Type} {reports : Reports W} {w w' : W}

/-- Executions are added in front, and only unfinished ones change. -/
structure Advances (reports : Reports W) (w w' : W) : Prop where
  history (region : String) (workGroup : Option String) : ∃ new,
    reports.history w' region workGroup = new ++ reports.history w region workGroup ∧
      ∀ id ∈ new, id ∉ reports.history w region workGroup
  record {region id : String} {e : Execution} (h : reports.record w region id = some e)
    (hdone : ¬ e.Unfinished) : reports.record w' region id = some e

instance : IsPreorder W (Advances reports) where
  refl w := ⟨fun _ _ => ⟨[], rfl, fun _ h => nomatch h⟩, fun h _ => h⟩
  trans _ _ _ h h' := by
    refine ⟨fun region workGroup => ?_, fun hrecord hdone => ?_⟩
    · obtain ⟨new, hnew, hfresh⟩ := h.history region workGroup
      obtain ⟨new', hnew', hfresh'⟩ := h'.history region workGroup
      refine ⟨new' ++ new, by rw [hnew', hnew, List.append_assoc], fun id hid => ?_⟩
      rcases List.mem_append.mp hid with hid | hid
      · intro hold
        exact hfresh' id hid (hnew ▸ List.mem_append_right new hold)
      · exact hfresh id hid
    · exact h'.record (h.record hrecord hdone) hdone

theorem Advances.mem_history (h : Advances reports w w') {region id : String}
    {workGroup : Option String} (hid : id ∈ reports.history w region workGroup) :
    id ∈ reports.history w' region workGroup := by
  obtain ⟨new, hnew, -⟩ := h.history region workGroup
  rw [hnew]
  exact List.mem_append_right new hid

theorem Advances.history_eq (h : Advances reports w w') {region newest : String}
    {workGroup : Option String} (hold : newest ∈ reports.history w region workGroup)
    (hnewest : (reports.history w' region workGroup).head? = some newest) :
    reports.history w' region workGroup = reports.history w region workGroup := by
  obtain ⟨new, hnew, hfresh⟩ := h.history region workGroup
  cases new with
  | nil => exact hnew
  | cons id new =>
    rw [hnew] at hnewest
    cases hnewest
    exact absurd hold (hfresh newest List.mem_cons_self)

/-- A call for records told the record of each id in the world in which it was made. -/
def Truthful (reports : Reports W) (c : Noted W) : Prop :=
  ∀ ids executions, c.call = .executions ids (.ok executions) → ∀ id ∈ ids, ∀ e,
    reports.record c.world c.region id = some e → e ∈ executions

theorem Truthful.mem {region id : String} {ids : List String} {xs : List Execution} {e : Execution}
    (h : Truthful reports ⟨region, w, .executions ids (.ok xs)⟩) (hid : id ∈ ids)
    (hrecord : reports.record w region id = some e) : e ∈ xs := h ids xs rfl id hid e hrecord

/-- The calls of a log were made while the world advanced. -/
def InOrder (reports : Reports W) (calls : List (Noted W)) : Prop :=
  calls.Pairwise fun c d => Advances reports c.world d.world

/-- The world advances, and what is noted on the way is true. -/
structure Proceeds (reports : Reports W) (w w' : Logged W) : Prop where
  advances : Advances reports w.1 w'.1
  calls : ∃ calls, w'.2 = w.2 ++ calls ∧ InOrder reports calls ∧
    ∀ c ∈ calls, Advances reports w.1 c.world ∧ Advances reports c.world w'.1 ∧ Truthful reports c

instance : IsPreorder (Logged W) (Proceeds reports) where
  refl w := ⟨refl w.1, [], by simp, .nil, fun _ h => nomatch h⟩
  trans u v w h h' := by
    obtain ⟨hadv, calls, hlog, horder, hcalls⟩ := h
    obtain ⟨hadv', calls', hlog', horder', hcalls'⟩ := h'
    refine ⟨IsTrans.trans _ _ _ hadv hadv', calls ++ calls', ?_, ?_, fun c hc => ?_⟩
    · rw [hlog', hlog, List.append_assoc]
    · refine List.pairwise_append.mpr ⟨horder, horder', fun c hc d hd => ?_⟩
      exact IsTrans.trans _ _ _ (hcalls c hc).2.1 (hcalls' d hd).1
    · rcases List.mem_append.mp hc with hc | hc
      · obtain ⟨hbefore, hafter, htrue⟩ := hcalls c hc
        exact ⟨hbefore, IsTrans.trans _ _ _ hafter hadv', htrue⟩
      · obtain ⟨hbefore, hafter, htrue⟩ := hcalls' c hc
        exact ⟨IsTrans.trans _ _ _ hadv hbefore, hafter, htrue⟩

/-- The calls of a log were made in worlds that advanced to the one at hand, and told the truth. -/
structure Known (reports : Reports W) (w : Logged W) : Prop where
  order : InOrder reports w.2
  calls : ∀ c ∈ w.2, Advances reports c.world w.1 ∧ Truthful reports c

theorem Known.proceeds {w w' : Logged W} (h : Known reports w) (hgoes : Proceeds reports w w') :
    Known reports w' := by
  obtain ⟨hadv, calls, hlog, horder, hcalls⟩ := hgoes
  refine ⟨?_, fun c hc => ?_⟩
  · rw [hlog]
    refine List.pairwise_append.mpr ⟨h.order, horder, fun c hc d hd => ?_⟩
    exact IsTrans.trans _ _ _ (h.calls c hc).1 (hcalls d hd).1
  · rw [hlog] at hc
    rcases List.mem_append.mp hc with hc | hc
    · exact ⟨IsTrans.trans _ _ _ (h.calls c hc).1 hadv, (h.calls c hc).2⟩
    · exact (hcalls c hc).2

theorem proceeds_of_advances {v : W} {log : List (Noted W)} (h : Advances reports w v) :
    Proceeds reports (w, log) (v, log) :=
  ⟨h, [], by simp, .nil, fun _ h => nomatch h⟩

theorem proceeds_noting {α : Type} {region : String} {call : Except AthenaError α → Call}
    {x : ServiceM W α} (hx : Keeps (Advances reports) x)
    (htrue : ∀ {w r w'}, Ends x w r w' → Truthful reports ⟨region, w, call r⟩) :
    Keeps (Proceeds reports) (noting region call x) := by
  intro w r w' h
  obtain ⟨hends, hlog⟩ := ends_noting.mp h
  refine ⟨hx hends, _, hlog, List.pairwise_singleton _ _, fun c hc => ?_⟩
  rw [List.mem_singleton.mp hc]
  exact ⟨refl w.1, hx hends, htrue hends⟩

end

namespace AthenaBackend
variable {W : Type} {b : AthenaBackend W} {reports : Reports W}

variable (b) in
/-- What the service is relied on for: it lists what there is, an id that is listed has a record
    with that id, records are told as they are, and while lookups are answered the world
    advances. -/
structure Reporting (reports : Reports W) : Prop where
  lists : b.ListsHistory reports.history
  listed {w : W} {region id : String} {workGroup : Option String}
    (h : id ∈ reports.history w region workGroup) :
    ∃ e, reports.record w region id = some e ∧ e.id = some id
  region (name : String) : Keeps (Advances reports) (b.athena.region name)
  now (w : W) : Advances reports w (b.athena.now w).2
  calls {region : String} {service : RegionService W} {v v' : W}
    (hserves : Ends (b.athena.region region) v (.ok service) v') :
    Keeps (Advances reports) service.workGroups ∧
    (∀ workGroup, Keeps (Advances reports) (service.namedQueryIds workGroup)) ∧
    (∀ ids, Keeps (Advances reports) (service.namedQueries ids)) ∧
    (∀ workGroup stopAt, Keeps (Advances reports) (service.executionIds workGroup stopAt)) ∧
    ∀ ids, Keeps (Advances reports) (service.executions ids)
  executions {region : String} {service : RegionService W} {v v' : W}
    (hserves : Ends (b.athena.region region) v (.ok service) v') {ids : List String} {w w' : W}
    {es : List Execution} (h : Ends (service.executions ids) w (.ok es) w') :
    ∀ id ∈ ids, ∀ e, reports.record w region id = some e → e ∈ es

/-! ## Lookups -/

/-- The world of a session proceeds. -/
def Goes (reports : Reports W) (s s' : Session (Logged W)) : Prop :=
  Proceeds reports s.world s'.world

instance : IsPreorder (Session (Logged W)) (Goes reports) where
  refl s := refl s.world
  trans _ _ _ h h' := IsTrans.trans (r := Proceeds reports) _ _ _ h h'

theorem goes_call {α : Type} {x : ServiceM (Logged W) α} (h : Keeps (Proceeds reports) x) :
    Keeps (Goes reports) (Session.call x) := by
  intro s r s' hs
  obtain ⟨w, hx, rfl⟩ := ends_call.mp hs
  exact h hx

section
variable (hreporting : b.Reporting reports) {ps : Params}
include hreporting

theorem goes_region {α : Type} {name : String}
    {f : String × RegionService (Logged W) → ServiceM (Session (Logged W)) α}
    (h : ∀ {service v v'},
      Ends (b.athena.region (b.settings.resolveRegion name)) v (.ok service) v' →
      Keeps (Goes reports)
        (f (b.settings.resolveRegion name, service.recorded (b.settings.resolveRegion name)))) :
    Keeps (Goes reports) (b.recorded.region name >>= f) := by
  intro s r s' hs
  rcases ends_bind.mp hs with ⟨a, _, ha, hs⟩ | ⟨e, he, rfl⟩
  · obtain ⟨e | service, v, hserves, rfl, hok⟩ := ends_recorded ha
    · cases hok
    · cases hok
      have hbefore : Goes reports s { s with world := (v, s.world.2) } :=
        proceeds_of_advances (hreporting.region _ hserves)
      exact IsTrans.trans _ _ _ hbefore (h hserves hs)
  · obtain ⟨_, v, hserves, rfl, -⟩ := ends_recorded he
    exact proceeds_of_advances (hreporting.region _ hserves)

theorem goes_workGroupNames : Keeps (Goes reports) (b.recorded.workGroupNames ps) :=
  goes_region hreporting fun hserves =>
    goes_call (proceeds_noting (hreporting.calls hserves).1 fun _ _ _ h => nomatch h)

theorem goes_namedQueries : Keeps (Goes reports) (b.recorded.namedQueries ps) := by
  refine goes_region hreporting fun hserves => Keeps.bind (goes_call ?_) fun ids => goes_call ?_
  · exact proceeds_noting ((hreporting.calls hserves).2.1 _) fun _ _ _ h => nomatch h
  · refine Keeps.inBatches (fun ids => ?_) _
    exact proceeds_noting ((hreporting.calls hserves).2.2.1 ids) fun _ _ _ h => nomatch h

theorem goes_keptListing (key : String) : Keeps (Goes reports) (b.recorded.keptListing key) := by
  intro s r s' h
  obtain ⟨-, rfl⟩ := (ends_iff_of_run (run_keptListing key s)).mp h
  exact proceeds_of_advances (hreporting.now s.world.1)

theorem goes_keepListing (key : String) (l : Listing) :
    Keeps (Goes reports) (b.recorded.keepListing key l) := by
  intro s r s' h
  obtain ⟨-, rfl⟩ := (ends_iff_of_run (run_keepListing key l s)).mp h
  exact proceeds_of_advances (hreporting.now s.world.1)

theorem proceeds_executions {region : String} {service : RegionService W} {v v' : W}
    (hserves : Ends (b.athena.region region) v (.ok service) v') (ids : List String) :
    Keeps (Proceeds reports) ((service.recorded region).executions ids) := by
  refine proceeds_noting ((hreporting.calls hserves).2.2.2.2 ids) fun h ids' es hcall => ?_
  cases hcall
  exact hreporting.executions hserves h

theorem goes_executionsOf : Keeps (Goes reports) (b.recorded.executionsOf ps) := by
  unfold executionsOf
  refine goes_region hreporting fun {service _ _} hserves => ?_
  refine Keeps.bind (goes_keptListing hreporting _) fun kept => ?_
  refine Keeps.bind (goes_call ?_) fun ids => ?_
  · exact proceeds_noting ((hreporting.calls hserves).2.2.2.1 _ _) fun _ _ _ h => nomatch h
  · cases ids.head? with
    | none => exact keeps_pure []
    | some newest =>
      simp only
      cases kept.filter fun l => l.newest == newest with
      | some l => exact keeps_pure l.executions
      | none =>
        have hfetch := Keeps.inBatches (proceeds_executions hreporting hserves) (batches ids)
        refine Keeps.bind (goes_call hfetch) fun executions => ?_
        exact Keeps.bind (goes_keepListing hreporting _ _) fun _ => keeps_pure executions

theorem goes_selectExecutions {f : ExecutionFilter} :
    Keeps (Goes reports) (b.recorded.selectExecutions ps f) :=
  Keeps.bind (goes_executionsOf hreporting) fun _ => keeps_pure _

theorem goes_queryExecutions : Keeps (Goes reports) (b.recorded.queryExecutions ps) :=
  Keeps.bind (keeps_mk _) fun _ => Keeps.bind (keeps_mk _) fun _ =>
    Keeps.bind (keeps_mk _) fun _ => goes_selectExecutions hreporting

theorem goes_queryExecutionsByName :
    Keeps (Goes reports) (b.recorded.queryExecutionsByName ps) := by
  refine Keeps.bind (keeps_mk _) fun name => ?_
  refine Keeps.bind (keeps_mk _) fun limit => ?_
  refine Keeps.bind (keeps_mk _) fun stop => ?_
  refine Keeps.bind (goes_namedQueries hreporting) fun queries => ?_
  cases queries.find? fun q => name.occursIn q.name with
  | none => exact keeps_throw _
  | some q =>
    simp only
    cases Pattern.parse (exactText q.sql) with
    | error f => exact keeps_throw _
    | ok pattern => exact goes_selectExecutions hreporting

theorem goes_value (name : String) : Keeps (Goes reports) (b.recorded.value name ps) := by
  unfold value
  simp only
  split
  · exact keeps_pure _
  · exact Keeps.bind (goes_workGroupNames hreporting) fun _ => keeps_pure _
  · exact Keeps.bind (Keeps.bind (goes_namedQueries hreporting) fun _ => keeps_pure _) fun _ =>
      keeps_pure _
  · refine Keeps.bind (Keeps.bind (keeps_mk _) fun _ => ?_) fun _ => keeps_pure _
    exact Keeps.bind (goes_namedQueries hreporting) fun _ => keeps_pure _
  · exact Keeps.bind (goes_queryExecutions hreporting) fun _ => keeps_pure _
  · exact Keeps.bind (Keeps.bind (goes_queryExecutions hreporting) fun _ => keeps_pure _) fun _ =>
      keeps_pure _
  · exact Keeps.bind (goes_queryExecutionsByName hreporting) fun _ => keeps_pure _
  · exact keeps_throw _

theorem goes_fetch (name : String) (s : Session (Logged W)) :
    Proceeds reports s.world (b.recorded.resources.fetch name ps s).2.world := by
  have hlookup : Keeps (Goes reports) (b.recorded.lookup name ps) :=
    Keeps.bind (goes_value hreporting name) fun _ => keeps_pure _
  exact hlookup (ends_self _ s)

end

/-! ## Runs -/

/-- The sessions of a program that answers lookups, while the world advances and lists are dropped
    at will. -/
inductive AdvancingRun (b : AthenaBackend W) (reports : Reports W) : Session (Logged W) → Prop
  | fresh (w : W) : AdvancingRun b reports (.fresh b.settings (w, []))
  | change {s : Session (Logged W)} (h : AdvancingRun b reports s) (w : W)
      (hadvances : Advances reports s.world.1 w) :
      AdvancingRun b reports { s with world := (w, s.world.2) }
  | evict {s : Session (Logged W)} (h : AdvancingRun b reports s) (listings : Cache Listing)
      (hsub : listings.entries ⊆ s.listings.entries) : AdvancingRun b reports { s with listings }
  | fetch {s : Session (Logged W)} (h : AdvancingRun b reports s) (name : String) (ps : Params)
      (hslash : '/' ∉ (b.regionOf ps).toList) :
      AdvancingRun b reports (b.recorded.resources.fetch name ps s).2

section
variable {s : Session (Logged W)}

theorem AdvancingRun.lookupRun (h : AdvancingRun b reports s) : LookupRun b s := by
  induction h with
  | fresh w => exact .fresh w
  | change _ w _ ih => exact ih.change w
  | evict _ listings hsub ih => exact ih.evict listings hsub
  | fetch _ name ps hslash ih => exact ih.fetch name ps hslash

/-- What was read in a run was so at the time. -/
theorem AdvancingRun.known (hreporting : b.Reporting reports) (h : AdvancingRun b reports s) :
    Known reports s.world := by
  induction h with
  | fresh w => exact ⟨.nil, fun _ h => nomatch h⟩
  | change _ w hadvances ih => exact ih.proceeds (proceeds_of_advances hadvances)
  | evict _ _ _ ih => exact ih
  | fetch _ name ps _ ih => exact ih.proceeds (goes_fetch hreporting name _)

end

end AthenaBackend
end PanelSource
