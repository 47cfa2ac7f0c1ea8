import PanelSource.Athena.Catalog
import PanelSource.Proofs.Athena.Recorded
import PanelSource.Proofs.Cache

/- What lookups do with the service and with the lists that are kept.

   A lookup that lists executions asks for the ids first, and tells the newest id it has kept. Then
   it answers nothing, what is kept, or what it fetches and keeps (`executionsOf_cases`). All other
   steps of a lookup leave the lists alone (`fetch_cases`). -/
namespace PanelSource
namespace AthenaBackend
variable {W : Type} {b : AthenaBackend W}

/-! ## Kept lists -/

theorem run_keptListing (key : String) (s : Session W) :
    (b.keptListing key).run s = (.ok (s.listings.get (b.athena.now s.world).1 key).1,
      { s with
        listings := (s.listings.get (b.athena.now s.world).1 key).2
        world := (b.athena.now s.world).2 }) := rfl

theorem run_keepListing (key : String) (l : Listing) (s : Session W) :
    (b.keepListing key l).run s = (.ok (),
      { s with
        listings := s.listings.insert (b.athena.now s.world).1 key l
          (Session.keepFor b.settings.executionCacheSeconds)
        world := (b.athena.now s.world).2 }) := rfl

/-! ## Listing executions -/

variable (b) in
def regionOf (ps : Params) : String := b.settings.resolveRegion (ps.trimmed "region")

variable (b) in
def listingKey (ps : Params) : String := workGroupKey (b.regionOf ps) (ps.workGroup?.getD "")

variable (b) in
/-- The service of a region answers with the ids of executions in a world. -/
def AnswersIds (region : String) (workGroup stopAt : Option String) (w : W) (ids : List String) :
    Prop :=
  ∃ service v v' w', Ends (b.athena.region region) v (.ok service) v' ∧
    Ends (service.executionIds workGroup stopAt) w (.ok ids) w'

/-- The records of batches of ids are fetched, one batch after the other. -/
inductive Fetches (region : String) : List (List String) → List (Noted W) → List Execution → Prop
  | nil : Fetches region [] [] []
  | cons {ids : List String} {batches : List (List String)} {calls : List (Noted W)} {w : W}
      {xs ys : List Execution} (h : Fetches region batches calls ys) :
      Fetches region (ids :: batches) (⟨region, w, .executions ids (.ok xs)⟩ :: calls) (xs ++ ys)

/-- The records of all ids are fetched in their order, at most 50 of them in each call. -/
def FetchesAll (region : String) (ids : List String) (calls : List (Noted W))
    (executions : List Execution) : Prop :=
  ∃ bs : List (List String), bs.flatten = ids ∧ (∀ ids ∈ bs, 0 < ids.length ∧ ids.length ≤ 50) ∧
    Fetches region bs calls executions

theorem Fetches.all {region : String} {ids : List String} {calls : List (Noted W)}
    {executions : List Execution} (h : Fetches region (batches ids) calls executions) :
    FetchesAll region ids calls executions :=
  ⟨batches ids, batches_flatten ids, fun _ => length_of_mem_batches, h⟩

/-- How listing executions ends, and what it does to the lists and the log. -/
inductive Lists (b : AthenaBackend W) (ps : Params) (s s' : Session (Logged W)) :
    Except AthenaError (List Execution) → Prop
  | failed {e : AthenaError} (hkept : s'.listings.entries ⊆ s.listings.entries)
      (hlog : s.world.2 <+: s'.world.2) : Lists b ps s s' (.error e)
  | empty {w : W} {stopAt : Option String} (hkept : s'.listings.entries ⊆ s.listings.entries)
      (hids : b.AnswersIds (b.regionOf ps) ps.workGroup? stopAt w [])
      (hlog : s'.world.2 =
        s.world.2 ++ [⟨b.regionOf ps, w, .executionIds ps.workGroup? stopAt (.ok [])⟩]) :
      Lists b ps s s' (.ok [])
  /-- The newest id is that of a list that was kept. -/
  | kept {w : W} {ids : List String} {e : CacheEntry Listing} (he : e ∈ s.listings.entries)
      (hkey : e.key = b.listingKey ps) (hnewest : ids.head? = some e.value.newest)
      (hkept : s'.listings.entries ⊆ s.listings.entries)
      (hids : b.AnswersIds (b.regionOf ps) ps.workGroup? (some e.value.newest) w ids)
      (hlog : s'.world.2 = s.world.2 ++
        [⟨b.regionOf ps, w, .executionIds ps.workGroup? (some e.value.newest) (.ok ids)⟩]) :
      Lists b ps s s' (.ok e.value.executions)
  /-- The list is not the one at whose newest id it might have been cut short. -/
  | taken {w : W} {stopAt : Option String} {ids : List String} {newest : String}
      {calls : List (Noted W)} {executions : List Execution} (hnewest : ids.head? = some newest)
      (hstop : stopAt ≠ some newest)
      (hids : b.AnswersIds (b.regionOf ps) ps.workGroup? stopAt w ids)
      (hfetch : FetchesAll (b.regionOf ps) ids calls executions)
      (hlog : s'.world.2 = s.world.2 ++
        ⟨b.regionOf ps, w, .executionIds ps.workGroup? stopAt (.ok ids)⟩ :: calls)
      (hkept : ∀ e ∈ s'.listings.entries, e ∈ s.listings.entries ∨
        (e.key = b.listingKey ps ∧ e.value = ⟨newest, executions⟩)) :
      Lists b ps s s' (.ok executions)

theorem fetches_of_inBatches {region : String} {service : RegionService W}
    {bs : List (List String)} {w w' : Logged W} {executions : List Execution}
    (h : Ends (inBatches (service.recorded region).executions bs) w (.ok executions) w') :
    ∃ calls, w'.2 = w.2 ++ calls ∧ Fetches region bs calls executions := by
  induction bs generalizing w w' executions with
  | nil =>
    obtain ⟨hok, rfl⟩ := ends_pure.mp h
    cases hok
    exact ⟨[], by simp, .nil⟩
  | cons ids bs ih =>
    obtain ⟨xs, v, hx, h⟩ := ends_ok_bind.mp h
    obtain ⟨ys, v', hy, h⟩ := ends_ok_bind.mp h
    obtain ⟨hok, rfl⟩ := ends_pure.mp h
    cases hok
    obtain ⟨calls, hlog, hfetch⟩ := ih hy
    refine ⟨⟨region, w.1, .executions ids (.ok xs)⟩ :: calls, ?_, .cons hfetch⟩
    rw [hlog, (ends_noting.mp hx).2, List.append_assoc]
    rfl

theorem extends_inBatches {region : String} {service : RegionService W} {bs : List (List String)} :
    Keeps Later (inBatches (service.recorded region).executions bs) :=
  Keeps.inBatches (fun _ => keeps_noting) bs

/-- Fetching the executions with the given ids, and keeping them. -/
theorem ends_keep_fetched {key newest : String} {ids : List String} {region : String}
    {service : RegionService W} {s s' : Session (Logged W)}
    {r : Except AthenaError (List Execution)}
    (h : Ends (do
      let executions ← Session.call ((service.recorded region).allExecutions ids)
      b.recorded.keepListing key ⟨newest, executions⟩
      pure executions) s r s') :
    (∃ calls executions, r = .ok executions ∧ FetchesAll region ids calls executions ∧
        s'.world.2 = s.world.2 ++ calls ∧
        ∀ e ∈ s'.listings.entries,
          e ∈ s.listings.entries ∨ (e.key = key ∧ e.value = ⟨newest, executions⟩)) ∨
      ∃ e, r = .error e ∧ s'.listings = s.listings ∧ s.world.2 <+: s'.world.2 := by
  rcases ends_bind.mp h with ⟨executions, _, hfetch, h⟩ | ⟨e, hfetch, rfl⟩
  · obtain ⟨w, hcall, rfl⟩ := ends_call.mp hfetch
    obtain ⟨calls, hcalls, hfetches⟩ := fetches_of_inBatches hcall
    rw [ends_bind_of_run (run_keepListing _ _ _)] at h
    obtain ⟨rfl, rfl⟩ := ends_pure.mp h
    refine .inl ⟨calls, executions, rfl, hfetches.all, hcalls, fun e he => ?_⟩
    exact (Cache.mem_insert he).imp id fun ⟨hkey, hvalue, _⟩ => ⟨hkey, hvalue⟩
  · obtain ⟨w, hcall, rfl⟩ := ends_call.mp hfetch
    exact .inr ⟨e, rfl, rfl, extends_inBatches hcall⟩

/-- The part of listing executions that follows the look at what is kept. -/
theorem lists_of_kept {ps : Params} {s s₁ s' : Session (Logged W)} {service : RegionService W}
    {v v' : W} {kept : Option Listing} {r : Except AthenaError (List Execution)}
    (hserves : Ends (b.athena.region (b.regionOf ps)) v (.ok service) v')
    (hsub : s₁.listings.entries ⊆ s.listings.entries) (hlog : s₁.world.2 = s.world.2)
    (hmem : ∀ l, kept = some l →
      ∃ e ∈ s.listings.entries, e.key = b.listingKey ps ∧ e.value = l)
    (h : Ends (do
      let region := service.recorded (b.regionOf ps)
      let ids ← Session.call (region.executionIds ps.workGroup? (kept.map (·.newest)))
      match ids.head? with
      | none => pure []
      | some newest =>
        match kept.filter fun l => l.newest == newest with
        | some l => pure l.executions
        | none => do
          let executions ← Session.call (region.allExecutions ids)
          b.recorded.keepListing (b.listingKey ps) ⟨newest, executions⟩
          pure executions) s₁ r s') :
    Lists b ps s s' r := by
  rcases ends_bind.mp h with ⟨ids, _, hids, h⟩ | ⟨e, hids, rfl⟩
  · obtain ⟨w, hcall, rfl⟩ := ends_call.mp hids
    obtain ⟨hanswer, hnoted⟩ := ends_noting.mp hcall
    have hanswers :
        b.AnswersIds (b.regionOf ps) ps.workGroup? (kept.map (·.newest)) s₁.world.1 ids :=
      ⟨service, v, v', w.1, hserves, hanswer⟩
    rw [hlog] at hnoted
    cases hhead : ids.head? with
    | none =>
      rw [hhead] at h
      obtain ⟨rfl, rfl⟩ := ends_pure.mp h
      obtain rfl := List.head?_eq_none_iff.mp hhead
      exact .empty hsub hanswers hnoted
    | some newest =>
      rw [hhead] at h
      simp only at h
      cases hfilter : kept.filter fun l => l.newest == newest with
      | some l =>
        rw [hfilter] at h
        obtain ⟨rfl, rfl⟩ := ends_pure.mp h
        obtain ⟨hl, heq⟩ := Option.filter_eq_some_iff.mp hfilter
        obtain ⟨e, he, hkey, rfl⟩ := hmem l hl
        subst hl
        have heq : e.value.newest = newest := by simpa using heq
        exact .kept he hkey (by rw [hhead, heq]) hsub hanswers hnoted
      | none =>
        rw [hfilter] at h
        -- The service was told to stop at another id than this one, or not to stop at all.
        have hstop : kept.map (·.newest) ≠ some newest := by
          intro heq
          obtain ⟨l, rfl, rfl⟩ := Option.map_eq_some_iff.mp heq
          simp at hfilter
        rcases ends_keep_fetched h with
          ⟨calls, executions, rfl, hfetches, hcalls, hkept⟩ | ⟨e, rfl, hlists, hlater⟩
        · refine .taken hhead hstop hanswers hfetches ?_ ?_
          · show s'.world.2 = _
            rw [hcalls, hnoted, List.append_assoc]
            rfl
          · exact fun e he => (hkept e he).imp (@hsub e) id
        · refine .failed (hlists ▸ hsub) (List.IsPrefix.trans ?_ hlater)
          rw [hnoted]
          exact List.prefix_append _ _
  · obtain ⟨w, hcall, rfl⟩ := ends_call.mp hids
    obtain ⟨-, hnoted⟩ := ends_noting.mp hcall
    refine .failed hsub ?_
    show s.world.2 <+: w.2
    rw [hnoted, hlog]
    exact List.prefix_append _ _

/-- What listing executions does. -/
theorem executionsOf_cases {ps : Params} {s s' : Session (Logged W)}
    {r : Except AthenaError (List Execution)} (h : Ends (b.recorded.executionsOf ps) s r s') :
    Lists b ps s s' r := by
  unfold executionsOf at h
  rcases ends_bind.mp h with ⟨a, s₁, hregion, h⟩ | ⟨e, hregion, rfl⟩
  · obtain ⟨e | service, v, hserves, rfl, ha⟩ := ends_recorded hregion
    · cases ha
    cases ha
    rw [ends_bind_of_run (run_keptListing _ _)] at h
    have hsub := s.listings.get_subset (b.athena.now v).1 (b.listingKey ps)
    refine lists_of_kept hserves hsub ?_ ?_ h
    · rfl
    · intro l hl
      obtain ⟨e, he, hkey, hvalue, -⟩ := Cache.get_eq_some hl
      exact ⟨e, he, hkey, hvalue⟩
  · obtain ⟨_, v, -, rfl, -⟩ := ends_recorded hregion
    exact .failed (fun _ he => he) List.prefix_rfl

/-! ## Lookups -/

/-- The lists are as they were, and the log may be longer. -/
def Quiet (s s' : Session (Logged W)) : Prop :=
  s'.listings = s.listings ∧ s.world.2 <+: s'.world.2

instance : IsPreorder (Session (Logged W)) Quiet where
  refl _ := ⟨rfl, List.prefix_rfl⟩
  trans _ _ _ h h' := ⟨h'.1.trans h.1, h.2.trans h'.2⟩

theorem keeps_call {α : Type} {x : ServiceM (Logged W) α} (h : Keeps Later x) :
    Keeps Quiet (Session.call x) := by
  intro s r s' hs
  obtain ⟨w, hx, rfl⟩ := ends_call.mp hs
  exact ⟨rfl, h hx⟩

theorem keeps_region {α : Type} {name : String}
    {f : String × RegionService (Logged W) → ServiceM (Session (Logged W)) α}
    (h : ∀ region service, Keeps Quiet (f (region, RegionService.recorded region service))) :
    Keeps Quiet (b.recorded.region name >>= f) := by
  intro s r s' hs
  rcases ends_bind.mp hs with ⟨a, _, ha, hs⟩ | ⟨e, he, rfl⟩
  · obtain ⟨e | service, v, -, rfl, hok⟩ := ends_recorded ha
    · cases hok
    · cases hok
      have hrest := h _ _ hs
      exact hrest
  · obtain ⟨_, v, -, rfl, -⟩ := ends_recorded he
    exact ⟨rfl, List.prefix_rfl⟩

theorem keeps_workGroupNames (ps : Params) : Keeps Quiet (b.recorded.workGroupNames ps) :=
  keeps_region fun _ _ => keeps_call keeps_noting

theorem keeps_namedQueries (ps : Params) : Keeps Quiet (b.recorded.namedQueries ps) :=
  keeps_region fun _ _ => Keeps.bind (keeps_call keeps_noting) fun _ =>
    keeps_call (Keeps.inBatches (fun _ => keeps_noting) _)

variable (b) in
/-- Where a lookup may list executions: at once, or when it has looked up the saved statements. -/
def ListsFrom (ps : Params) (s s₁ : Session (Logged W)) : Prop :=
  s₁ = s ∨ s₁ = ((b.recorded.namedQueries ps).run s).2

theorem ListsFrom.quiet {ps : Params} {s s₁ : Session (Logged W)} (h : b.ListsFrom ps s s₁) :
    Quiet s s₁ := by
  rcases h with rfl | rfl
  · exact refl _
  · exact keeps_namedQueries ps (ends_self _ s)

variable (b) in
/-- A request that leaves the lists alone, or lists executions and does not fail after that. -/
def EndsInListing {α : Type} (ps : Params) (x : ServiceM (Session (Logged W)) α) : Prop :=
  ∀ ⦃s r s'⦄, Ends x s r s' → Quiet s s' ∨
    ∃ s₁ r₁, b.ListsFrom ps s s₁ ∧ Ends (b.recorded.executionsOf ps) s₁ r₁ s' ∧
      ∀ e, r = .error e → ∃ e', r₁ = .error e'

section
variable {α β : Type} {ps : Params} {x : ServiceM (Session (Logged W)) α}

theorem Keeps.endsInListing (h : Keeps Quiet x) : b.EndsInListing ps x :=
  fun _ _ _ hs => .inl (h hs)

theorem EndsInListing.map (h : b.EndsInListing ps x) (f : α → β) :
    b.EndsInListing ps (do return f (← x)) := by
  intro s r s' hs
  rcases ends_bind.mp hs with ⟨a, _, ha, hs⟩ | ⟨e, he, rfl⟩
  · obtain ⟨rfl, rfl⟩ := ends_pure.mp hs
    rcases h ha with hq | ⟨s₁, r₁, hfrom, hlist, -⟩
    · exact .inl hq
    · refine .inr ⟨s₁, r₁, hfrom, hlist, fun e he => ?_⟩
      cases he
  · rcases h he with hq | ⟨s₁, r₁, hfrom, hlist, herr⟩
    · exact .inl hq
    · exact .inr ⟨s₁, r₁, hfrom, hlist, fun _ _ => herr e rfl⟩

theorem endsInListing_mk_bind {e : Except AthenaError α}
    {f : α → ServiceM (Session (Logged W)) β} (h : ∀ a, b.EndsInListing ps (f a)) :
    b.EndsInListing ps (ExceptT.mk (pure e) >>= f) := by
  intro s r s' hs
  rcases ends_bind.mp hs with ⟨a, _, ha, hrest⟩ | ⟨e, he, rfl⟩
  · obtain ⟨-, rfl⟩ := ends_mk.mp ha
    exact h a hrest
  · obtain ⟨-, rfl⟩ := ends_mk.mp he
    exact .inl (refl _)

theorem ends_selectExecutions {f : ExecutionFilter} {s s' : Session (Logged W)}
    {r : Except AthenaError (List Execution)}
    (h : Ends (b.recorded.selectExecutions ps f) s r s') :
    ∃ r₁, Ends (b.recorded.executionsOf ps) s r₁ s' ∧ r = r₁.map f.select :=
  ends_map.mp h

theorem error_of_map {γ : Type} {r : Except AthenaError γ} {f : γ → α} {e : AthenaError}
    (h : r.map f = .error e) : ∃ e', r = .error e' := by
  cases r with
  | error e' => exact ⟨e', rfl⟩
  | ok a => cases h

theorem endsInListing_queryExecutions : b.EndsInListing ps (b.recorded.queryExecutions ps) := by
  unfold queryExecutions
  refine endsInListing_mk_bind fun pattern => ?_
  refine endsInListing_mk_bind fun limit => ?_
  refine endsInListing_mk_bind fun stop => ?_
  intro s r s' hs
  obtain ⟨r₁, hlist, rfl⟩ := ends_selectExecutions hs
  exact .inr ⟨s, r₁, .inl rfl, hlist, fun _ => error_of_map⟩

theorem endsInListing_queryExecutionsByName :
    b.EndsInListing ps (b.recorded.queryExecutionsByName ps) := by
  -- The saved statements are looked up first, and executions are listed only if one is found.
  unfold queryExecutionsByName
  refine endsInListing_mk_bind fun name => ?_
  refine endsInListing_mk_bind fun limit => ?_
  refine endsInListing_mk_bind fun stop => ?_
  intro s r s' hs
  rcases ends_bind.mp hs with ⟨queries, s₁, hqueries, hs⟩ | ⟨e, he, rfl⟩
  · have hquiet : Quiet s s₁ := keeps_namedQueries ps hqueries
    have hfrom : b.ListsFrom ps s s₁ := by
      right
      have hrun : (b.recorded.namedQueries ps).run s = (.ok queries, s₁) := hqueries
      rw [hrun]
    split at hs
    · obtain ⟨-, rfl⟩ := ends_throw.mp hs
      exact .inl hquiet
    · simp only at hs
      split at hs
      · obtain ⟨-, rfl⟩ := ends_throw.mp hs
        exact .inl hquiet
      · obtain ⟨r₁, hlist, rfl⟩ := ends_selectExecutions hs
        exact .inr ⟨s₁, r₁, hfrom, hlist, fun _ => error_of_map⟩
  · exact .inl (keeps_namedQueries ps he)

theorem keeps_namedQueryNames : Keeps Quiet (b.recorded.namedQueryNames ps) :=
  Keeps.bind (keeps_namedQueries ps) fun _ => keeps_pure _

theorem keeps_namedQueryStatements : Keeps Quiet (b.recorded.namedQueryStatements ps) :=
  Keeps.bind (keeps_mk _) fun _ => Keeps.bind (keeps_namedQueries ps) fun _ => keeps_pure _

theorem endsInListing_value (name : String) : b.EndsInListing ps (b.recorded.value name ps) := by
  unfold value
  simp only
  split
  · exact Keeps.endsInListing (keeps_pure _)
  · exact Keeps.endsInListing (Keeps.bind (keeps_workGroupNames ps) fun _ => keeps_pure _)
  · exact Keeps.endsInListing (Keeps.bind keeps_namedQueryNames fun _ => keeps_pure _)
  · exact Keeps.endsInListing (Keeps.bind keeps_namedQueryStatements fun _ => keeps_pure _)
  · exact EndsInListing.map endsInListing_queryExecutions _
  · exact EndsInListing.map (EndsInListing.map endsInListing_queryExecutions _) _
  · exact EndsInListing.map endsInListing_queryExecutionsByName _
  · exact Keeps.endsInListing (keeps_throw _)

end

/-- What a lookup does: it leaves the lists alone, or lists executions, and fails after that only if
    that fails. -/
theorem fetch_cases (b : AthenaBackend W) (name : String) (ps : Params) (s : Session (Logged W)) :
    Quiet s (b.recorded.resources.fetch name ps s).2 ∨
      ∃ s₁ r₁, b.ListsFrom ps s s₁ ∧
        Ends (b.recorded.executionsOf ps) s₁ r₁ (b.recorded.resources.fetch name ps s).2 ∧
        ∀ e, (b.recorded.resources.fetch name ps s).1 = .error e → ∃ e', r₁ = .error e' := by
  have hlookup : b.EndsInListing ps (b.recorded.lookup name ps) :=
    EndsInListing.map (endsInListing_value name) _
  rcases hlookup (ends_self _ s) with hq | ⟨s₁, r₁, hfrom, hlist, herr⟩
  · exact .inl hq
  · refine .inr ⟨s₁, r₁, hfrom, hlist, fun e he => ?_⟩
    have he : ((b.recorded.lookup name ps).run s).1.mapError AthenaError.toBackend = .error e := he
    cases hr : ((b.recorded.lookup name ps).run s).1 with
    | error e' => exact herr e' hr
    | ok a =>
      rw [hr] at he
      cases he

end AthenaBackend
end PanelSource
