import PanelSource.Proofs.Athena.Catalog
import PanelSource.Proofs.Athena.Remembered

/- Recording the calls of a service changes nothing else.

   `Mirrors part x y` says that the request `x` does to a world what `y` does to a part of it, with
   the same result. Every lookup on a recorded service mirrors the lookup on the service itself
   (`fetch_recorded`), and so does every target (`runTarget_recorded`), so that what is shown of a
   recorded run is true of the run. -/
namespace PanelSource

/-- A request does to a world what another does to the part of it that the other sees. -/
def Mirrors {V W α : Type} (part : V → W) (x : ServiceM V α) (y : ServiceM W α) : Prop :=
  ∀ ⦃w r w'⦄, Ends x w r w' → Ends y (part w) r (part w')

section
variable {V W α β : Type} {part : V → W}

theorem mirrors_pure (a : α) : Mirrors part (pure a) (pure a) := by
  intro w r w' h
  obtain ⟨rfl, rfl⟩ := ends_pure.mp h
  exact ends_pure.mpr ⟨rfl, rfl⟩

theorem mirrors_throw (e : AthenaError) :
    Mirrors part (throw e : ServiceM V α) (throw e : ServiceM W α) := by
  intro w r w' h
  obtain ⟨rfl, rfl⟩ := ends_throw.mp h
  exact ends_throw.mpr ⟨rfl, rfl⟩

theorem mirrors_mk (e : Except AthenaError α) :
    Mirrors part (ExceptT.mk (pure e)) (ExceptT.mk (pure e)) := by
  intro w r w' h
  obtain ⟨rfl, rfl⟩ := ends_mk.mp h
  exact ends_mk.mpr ⟨rfl, rfl⟩

theorem Mirrors.bind {x : ServiceM V α} {y : ServiceM W α} {f : α → ServiceM V β}
    {g : α → ServiceM W β} (hx : Mirrors part x y) (hf : ∀ a, Mirrors part (f a) (g a)) :
    Mirrors part (x >>= f) (y >>= g) := by
  intro w r w' h
  rcases ends_bind.mp h with ⟨a, v, ha, h⟩ | ⟨e, he, rfl⟩
  · exact ends_bind.mpr (.inl ⟨a, part v, hx ha, hf a h⟩)
  · exact ends_bind.mpr (.inr ⟨e, hx he, rfl⟩)

theorem Mirrors.inBatches {x : List String → ServiceM V (List α)}
    {y : List String → ServiceM W (List α)} (h : ∀ ids, Mirrors part (x ids) (y ids))
    (bs : List (List String)) : Mirrors part (inBatches x bs) (inBatches y bs) := by
  induction bs with
  | nil => exact mirrors_pure []
  | cons ids bs ih =>
    refine Mirrors.bind (h ids) fun xs => ?_
    exact Mirrors.bind ih fun ys => mirrors_pure _

theorem mirrors_noting {name : String} {call : Except AthenaError α → Call} {x : ServiceM W α} :
    Mirrors Prod.fst (noting name call x) x := by
  intro w r w' h
  exact (ends_noting.mp h).1

/-- A session without its log. -/
def Session.unlogged (s : Session (Logged W)) : Session W where
  listings := s.listings
  scanLimits := s.scanLimits
  started := s.started
  results := s.results
  world := s.world.1

theorem Mirrors.call {x : ServiceM (Logged W) α} {y : ServiceM W α} (h : Mirrors Prod.fst x y) :
    Mirrors Session.unlogged (Session.call x) (Session.call y) := by
  intro s r s' hs
  obtain ⟨w, hx, rfl⟩ := ends_call.mp hs
  exact ends_call.mpr ⟨w.1, h hx, rfl⟩

variable {b : AthenaBackend W}

/-- Whatever is done with a region is done with the recorded one. -/
theorem mirrors_region {name : String}
    {f : String × RegionService (Logged W) → ServiceM (Session (Logged W)) β}
    {g : String × RegionService W → ServiceM (Session W) β}
    (h : ∀ region service,
      Mirrors Session.unlogged (f (region, service.recorded region)) (g (region, service))) :
    Mirrors Session.unlogged (b.recorded.region name >>= f) (b.region name >>= g) := by
  intro s r s' hs
  rcases ends_bind.mp hs with ⟨a, _, ha, hs⟩ | ⟨e, he, rfl⟩
  · obtain ⟨e | service, v, hcall, rfl, hok⟩ := ends_recorded ha
    · cases hok
    · cases hok
      exact ends_bind.mpr (.inl ⟨_, _, ends_region.mpr ⟨_, v, hcall, rfl, rfl⟩, h _ _ hs⟩)
  · obtain ⟨e | service, v, hcall, rfl, herr⟩ := ends_recorded he
    · cases herr
      exact ends_bind.mpr (.inr ⟨_, ends_region.mpr ⟨_, v, hcall, rfl, rfl⟩, rfl⟩)
    · cases herr

/-! ## Lookups -/

variable {key : String} {ps : Params}

theorem mirrors_keptListing :
    Mirrors Session.unlogged (b.recorded.keptListing key) (b.keptListing key) := by
  intro s r s' hs
  obtain ⟨rfl, rfl⟩ := (ends_iff_of_run (AthenaBackend.run_keptListing key s)).mp hs
  exact (ends_iff_of_run (AthenaBackend.run_keptListing key s.unlogged)).mpr ⟨rfl, rfl⟩

theorem mirrors_keepListing {l : Listing} :
    Mirrors Session.unlogged (b.recorded.keepListing key l) (b.keepListing key l) := by
  intro s r s' hs
  obtain ⟨rfl, rfl⟩ := (ends_iff_of_run (AthenaBackend.run_keepListing key l s)).mp hs
  exact (ends_iff_of_run (AthenaBackend.run_keepListing key l s.unlogged)).mpr ⟨rfl, rfl⟩

theorem mirrors_executionsOf :
    Mirrors Session.unlogged (b.recorded.executionsOf ps) (b.executionsOf ps) := by
  unfold AthenaBackend.executionsOf
  refine mirrors_region fun name service => ?_
  refine Mirrors.bind mirrors_keptListing fun kept => ?_
  refine Mirrors.bind (Mirrors.call mirrors_noting) fun ids => ?_
  cases ids.head? with
  | none => exact mirrors_pure []
  | some newest =>
    simp only
    cases kept.filter fun l => l.newest == newest with
    | some l => exact mirrors_pure l.executions
    | none =>
      have hfetch := Mirrors.call (Mirrors.inBatches
        (fun ids => @mirrors_noting W _ name (.executions ids) (service.executions ids))
        (batches ids))
      refine Mirrors.bind hfetch fun executions => ?_
      exact Mirrors.bind mirrors_keepListing fun _ => mirrors_pure executions

theorem mirrors_workGroupNames :
    Mirrors Session.unlogged (b.recorded.workGroupNames ps) (b.workGroupNames ps) :=
  mirrors_region fun _ _ => Mirrors.call mirrors_noting

theorem mirrors_namedQueries :
    Mirrors Session.unlogged (b.recorded.namedQueries ps) (b.namedQueries ps) :=
  mirrors_region fun _ _ => Mirrors.bind (Mirrors.call mirrors_noting) fun ids =>
    Mirrors.call (Mirrors.inBatches (fun _ => mirrors_noting) (batches ids))

theorem mirrors_namedQueryNames :
    Mirrors Session.unlogged (b.recorded.namedQueryNames ps) (b.namedQueryNames ps) :=
  Mirrors.bind mirrors_namedQueries fun _ => mirrors_pure _

theorem mirrors_namedQueryStatements :
    Mirrors Session.unlogged (b.recorded.namedQueryStatements ps) (b.namedQueryStatements ps) :=
  Mirrors.bind (mirrors_mk _) fun _ => Mirrors.bind mirrors_namedQueries fun _ => mirrors_pure _

theorem mirrors_selectExecutions {f : ExecutionFilter} :
    Mirrors Session.unlogged (b.recorded.selectExecutions ps f) (b.selectExecutions ps f) :=
  Mirrors.bind mirrors_executionsOf fun _ => mirrors_pure _

theorem mirrors_queryExecutions :
    Mirrors Session.unlogged (b.recorded.queryExecutions ps) (b.queryExecutions ps) :=
  Mirrors.bind (mirrors_mk _) fun _ => Mirrors.bind (mirrors_mk _) fun _ =>
    Mirrors.bind (mirrors_mk _) fun _ => mirrors_selectExecutions

theorem mirrors_queryExecutionsByName :
    Mirrors Session.unlogged (b.recorded.queryExecutionsByName ps)
      (b.queryExecutionsByName ps) := by
  refine Mirrors.bind (mirrors_mk _) fun name => ?_
  refine Mirrors.bind (mirrors_mk _) fun limit => ?_
  refine Mirrors.bind (mirrors_mk _) fun stop => ?_
  refine Mirrors.bind mirrors_namedQueries fun queries => ?_
  cases queries.find? fun q => name.occursIn q.name with
  | none => exact mirrors_throw _
  | some q =>
    simp only
    cases Pattern.parse (exactText q.sql) with
    | error f => exact mirrors_throw _
    | ok pattern => exact mirrors_selectExecutions

theorem mirrors_value (name : String) :
    Mirrors Session.unlogged (b.recorded.value name ps) (b.value name ps) := by
  unfold AthenaBackend.value
  simp only
  split
  · exact mirrors_pure _
  · exact Mirrors.bind mirrors_workGroupNames fun _ => mirrors_pure _
  · exact Mirrors.bind mirrors_namedQueryNames fun _ => mirrors_pure _
  · exact Mirrors.bind mirrors_namedQueryStatements fun _ => mirrors_pure _
  · exact Mirrors.bind mirrors_queryExecutions fun _ => mirrors_pure _
  · exact Mirrors.bind (Mirrors.bind mirrors_queryExecutions fun _ => mirrors_pure _) fun _ =>
      mirrors_pure _
  · exact Mirrors.bind mirrors_queryExecutionsByName fun _ => mirrors_pure _
  · exact mirrors_throw _

/-- **A recorded lookup is the lookup, with its calls recorded.** -/
theorem fetch_recorded (b : AthenaBackend W) (name : String) (ps : Params)
    (s : Session (Logged W)) :
    b.resources.fetch name ps s.unlogged =
      ((b.recorded.resources.fetch name ps s).1,
        (b.recorded.resources.fetch name ps s).2.unlogged) := by
  have hlookup : Mirrors Session.unlogged (b.recorded.lookup name ps) (b.lookup name ps) :=
    Mirrors.bind (mirrors_value name) fun _ => mirrors_pure _
  have hrun : (b.lookup name ps).run s.unlogged =
      (((b.recorded.lookup name ps).run s).1, ((b.recorded.lookup name ps).run s).2.unlogged) :=
    hlookup (ends_self _ s)
  show (((b.lookup name ps).run s.unlogged).1.mapError AthenaError.toBackend,
    ((b.lookup name ps).run s.unlogged).2) = _
  rw [hrun]
  rfl

/-! ## Targets -/

/-- A cache of a session, and the same cache of the session without its log. -/
structure Shelf.Unlogs {α : Type} (shelf : Shelf (Logged W) α) (shelf' : Shelf W α) : Prop where
  cache : ∀ s : Session (Logged W), shelf'.cache s.unlogged = shelf.cache s
  put : ∀ c (s : Session (Logged W)), (shelf.put c s).unlogged = shelf'.put c s.unlogged

section
variable {α : Type} {shelf : Shelf (Logged W) α} {shelf' : Shelf W α} {name : String}
  {service : RegionService W}

theorem mirrors_lookUp (hshelf : shelf.Unlogs shelf') :
    Mirrors Session.unlogged (b.recorded.lookUp shelf key) (b.lookUp shelf' key) := by
  intro s r s' hs
  obtain ⟨rfl, rfl⟩ := (ends_iff_of_run rfl).mp hs
  refine (ends_iff_of_run rfl).mpr ⟨?_, ?_⟩
  · rw [← hshelf.cache]
    rfl
  · rw [hshelf.put, ← hshelf.cache]
    rfl

theorem mirrors_keep (hshelf : shelf.Unlogs shelf') {a : α} {ttl : Span} :
    Mirrors Session.unlogged (b.recorded.keep shelf key a ttl) (b.keep shelf' key a ttl) := by
  intro s r s' hs
  obtain ⟨rfl, rfl⟩ := (ends_iff_of_run rfl).mp hs
  refine (ends_iff_of_run rfl).mpr ⟨rfl, ?_⟩
  rw [hshelf.put, ← hshelf.cache]
  rfl

theorem mirrors_remembered (hshelf : shelf.Unlogs shelf')
    {ask : ServiceM (Session (Logged W)) α} {ask' : ServiceM (Session W) α} {ttl : Span}
    (hask : Mirrors Session.unlogged ask ask') :
    Mirrors Session.unlogged (b.recorded.remembered shelf key ask ttl)
      (b.remembered shelf' key ask' ttl) := by
  refine Mirrors.bind (mirrors_lookUp hshelf) fun kept => ?_
  cases kept with
  | some a => exact mirrors_pure a
  | none => exact Mirrors.bind hask fun a => mirrors_keep hshelf

theorem mirrors_scanLimit {workGroup : String} :
    Mirrors Session.unlogged (b.recorded.scanLimit name (service.recorded name) workGroup)
      (b.scanLimit name service workGroup) := by
  rw [AthenaBackend.scanLimit_eq, AthenaBackend.scanLimit_eq]
  exact mirrors_remembered ⟨fun _ => rfl, fun _ _ => rfl⟩ (Mirrors.call mirrors_noting)

theorem mirrors_rows {id : String} {maxRows : Int} {ttl : Span} :
    Mirrors Session.unlogged (b.recorded.rows name (service.recorded name) id maxRows ttl)
      (b.rows name service id maxRows ttl) := by
  rw [AthenaBackend.rows_eq, AthenaBackend.rows_eq]
  exact mirrors_remembered ⟨fun _ => rfl, fun _ _ => rfl⟩ (Mirrors.call mirrors_noting)

theorem mirrors_pause : Mirrors Session.unlogged b.recorded.pause b.pause := by
  intro s r s' hs
  obtain ⟨rfl, rfl⟩ := (ends_iff_of_run rfl).mp hs
  exact (ends_iff_of_run rfl).mpr ⟨rfl, rfl⟩

theorem mirrors_await {id : String} {attempts : Nat} (n : Nat) :
    Mirrors Session.unlogged (b.recorded.await (service.recorded name) id attempts n)
      (b.await service id attempts n) := by
  induction n with
  | zero => exact mirrors_throw _
  | succ n ih =>
    refine Mirrors.bind (Mirrors.call mirrors_noting) fun records => ?_
    split
    · exact Mirrors.bind mirrors_pause fun _ => ih
    · exact Mirrors.bind mirrors_pause fun _ => ih
    · exact mirrors_pure ()
    · exact mirrors_throw _

theorem mirrors_started {t : Target} {maxRows : Int} :
    Mirrors Session.unlogged (b.recorded.started name (service.recorded name) t maxRows)
      (b.started name service t maxRows) := by
  rw [AthenaBackend.started_eq, AthenaBackend.started_eq]
  refine Mirrors.bind mirrors_scanLimit fun limit => ?_
  split
  · exact mirrors_throw _
  · refine mirrors_remembered ⟨fun _ => rfl, fun _ _ => rfl⟩ ?_
    refine Mirrors.bind (Mirrors.call mirrors_noting) fun id => ?_
    exact Mirrors.bind (mirrors_await _) fun _ => mirrors_pure id

theorem mirrors_distinctInputs {t : Target} :
    Mirrors Session.unlogged (AthenaBackend.distinctInputs (service.recorded name) t)
      (AthenaBackend.distinctInputs service t) := by
  unfold AthenaBackend.distinctInputs
  simp only
  split
  · exact mirrors_throw _
  · refine Mirrors.bind (Mirrors.call ?_) fun records => mirrors_pure _
    exact Mirrors.inBatches (fun _ => mirrors_noting) _

theorem mirrors_allRows {maxRows : Int} {ttl : Span} (done : ResultSet) (ids : List String) :
    Mirrors Session.unlogged
      (b.recorded.allRows name (service.recorded name) maxRows ttl done ids)
      (b.allRows name service maxRows ttl done ids) := by
  induction ids generalizing done with
  | nil => exact mirrors_pure done
  | cons id ids ih => exact Mirrors.bind mirrors_rows fun r => ih _

theorem mirrors_runTarget (t : Target) :
    Mirrors Session.unlogged (b.recorded.runTarget t) (b.runTarget t) := by
  refine mirrors_region fun name service => ?_
  refine Mirrors.bind (mirrors_mk _) fun maxRows => ?_
  simp only
  split
  · refine Mirrors.bind mirrors_started fun id => ?_
    refine Mirrors.bind (mirrors_pure _) fun ids => ?_
    exact Mirrors.bind (mirrors_allRows _ _) fun r => mirrors_mk _
  · refine Mirrors.bind mirrors_distinctInputs fun ids => ?_
    exact Mirrors.bind (mirrors_allRows _ _) fun r => mirrors_mk _

end

/-- **A recorded target is the target, with its calls recorded.** -/
theorem runTarget_recorded (b : AthenaBackend W) (t : Target) (s : Session (Logged W)) :
    (b.runTarget t).run s.unlogged =
      (((b.recorded.runTarget t).run s).1, ((b.recorded.runTarget t).run s).2.unlogged) :=
  mirrors_runTarget t (ends_self _ s)

end
end PanelSource
