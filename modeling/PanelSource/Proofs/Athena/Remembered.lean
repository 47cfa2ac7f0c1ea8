import PanelSource.Proofs.Athena.Keys
import PanelSource.Proofs.Athena.Recorded
import PanelSource.Proofs.Cache

/- Values that a session remembers.

   Scan limits, started executions and rows are found in one way: the cache is read, and what is not
   there is asked for and kept (`remembered`). What such a request does is said once, for all three
   of them (`remembered_cases`): it answers what is kept under the key, or what it has asked for,
   and it leaves all other caches alone. -/
namespace PanelSource

/-- A request that acts on the world alone keeps this. -/
def OnlyWorld {W : Type} (s s' : Session W) : Prop := ∃ w, s' = { s with world := w }

instance {W : Type} : IsPreorder (Session W) OnlyWorld where
  refl s := ⟨s.world, rfl⟩
  trans _ _ _ h h' := by
    obtain ⟨w, rfl⟩ := h
    obtain ⟨w', rfl⟩ := h'
    exact ⟨w', rfl⟩

/-- One of the caches of a session. -/
structure Shelf (W α : Type) where
  cache : Session W → Cache α
  put : Cache α → Session W → Session W
  cache_put : ∀ c s, cache (put c s) = c
  cache_world : ∀ s w, cache { s with world := w } = cache s
  put_cache : ∀ s, put (cache s) s = s
  put_put : ∀ c c' s, put c (put c' s) = put c s
  put_world : ∀ c s w, put c { s with world := w } = { put c s with world := w }

namespace Shelf
variable {W α : Type}

def scanLimits : Shelf W (Option Int) where
  cache s := s.scanLimits
  put c s := { s with scanLimits := c }
  cache_put _ _ := rfl
  cache_world _ _ := rfl
  put_cache _ := rfl
  put_put _ _ _ := rfl
  put_world _ _ _ := rfl

def started : Shelf W String where
  cache s := s.started
  put c s := { s with started := c }
  cache_put _ _ := rfl
  cache_world _ _ := rfl
  put_cache _ := rfl
  put_put _ _ _ := rfl
  put_world _ _ _ := rfl

def results : Shelf W ResultSet where
  cache s := s.results
  put c s := { s with results := c }
  cache_put _ _ := rfl
  cache_world _ _ := rfl
  put_cache _ := rfl
  put_put _ _ _ := rfl
  put_world _ _ _ := rfl

def listings : Shelf W Listing where
  cache s := s.listings
  put c s := { s with listings := c }
  cache_put _ _ := rfl
  cache_world _ _ := rfl
  put_cache _ := rfl
  put_put _ _ _ := rfl
  put_world _ _ _ := rfl

/-- Nothing but the world and this cache is another one. -/
def Only (shelf : Shelf W α) (s s' : Session W) : Prop :=
  ∃ c w, s' = shelf.put c { s with world := w }

theorem world_put (shelf : Shelf W α) (c : Cache α) (s : Session W) (w : W) :
    (shelf.put c { s with world := w }).world = w := by
  rw [shelf.put_world]

variable {shelf : Shelf W α} {s s' : Session W}

instance : IsPreorder (Session W) shelf.Only where
  refl s := ⟨shelf.cache s, s.world, (shelf.put_cache s).symm⟩
  trans s _ _ h h' := by
    obtain ⟨c, w, rfl⟩ := h
    obtain ⟨c', w', rfl⟩ := h'
    refine ⟨c', w', ?_⟩
    calc
      _ = { shelf.put c' (shelf.put c { s with world := w }) with world := w' } :=
        shelf.put_world _ _ _
      _ = { shelf.put c' { s with world := w } with world := w' } := by rw [shelf.put_put]
      _ = { shelf.put c' s with world := w' } := by rw [shelf.put_world c' s w]
      _ = shelf.put c' { s with world := w' } := (shelf.put_world _ _ _).symm

theorem only_of_onlyWorld (h : OnlyWorld s s') : shelf.Only s s' := by
  obtain ⟨w, rfl⟩ := h
  exact ⟨shelf.cache { s with world := w }, w, (shelf.put_cache _).symm⟩

theorem cache_of_onlyWorld (h : OnlyWorld s s') : shelf.cache s' = shelf.cache s := by
  obtain ⟨w, rfl⟩ := h
  exact shelf.cache_world s w

end Shelf

namespace AthenaBackend
variable {W α : Type} {b : AthenaBackend W}

/-- The value kept under a key. -/
def lookUp (b : AthenaBackend W) (shelf : Shelf W α) (key : String) :
    ServiceM (Session W) (Option α) := do
  let now ← b.now
  let s ← get
  set (shelf.put ((shelf.cache s).get now key).2 s)
  return ((shelf.cache s).get now key).1

/-- Keeps a value under a key. -/
def keep (b : AthenaBackend W) (shelf : Shelf W α) (key : String) (a : α) (ttl : Span) :
    ServiceM (Session W) α := do
  let now ← b.now
  modify fun s => shelf.put ((shelf.cache s).insert now key a ttl) s
  return a

/-- The value kept under a key, or else the one that is asked for, which is then kept. -/
def remembered (b : AthenaBackend W) (shelf : Shelf W α) (key : String)
    (ask : ServiceM (Session W) α) (ttl : Span) : ServiceM (Session W) α := do
  match ← b.lookUp shelf key with
  | some a => return a
  | none =>
    let a ← ask
    b.keep shelf key a ttl

/-! ## What is remembered -/

theorem scanLimit_eq (name : String) (region : RegionService W) (workGroup : String) :
    b.scanLimit name region workGroup =
      b.remembered .scanLimits (workGroupKey name workGroup)
        (Session.call (region.scanLimit workGroup))
        (Session.keepFor b.settings.workGroupCacheSeconds) := by
  unfold scanLimit remembered lookUp keep Shelf.scanLimits
  simp only [bind_assoc, pure_bind]
  refine bind_congr fun now => bind_congr fun s => bind_congr fun _ => ?_
  cases (s.scanLimits.get now (workGroupKey name workGroup)).1 with
  | some limit => rfl
  | none => rfl

theorem rows_eq (name : String) (region : RegionService W) (id : String) (maxRows : Int)
    (ttl : Span) :
    b.rows name region id maxRows ttl =
      b.remembered .results (rowsKey name id maxRows) (Session.call (region.results id maxRows))
        ttl := by
  unfold rows remembered lookUp keep Shelf.results
  simp only [bind_assoc, pure_bind]
  refine bind_congr fun now => bind_congr fun s => bind_congr fun _ => ?_
  cases (s.results.get now (rowsKey name id maxRows)).1 with
  | some r => rfl
  | none => rfl

/-- A text without blanks around it, or else what is configured. -/
def orConfigured (text configured : String) : String :=
  if Text.trim text = "" then configured else Text.trim text

variable (b) in
/-- What a target is to start: its text, in its workgroup and for its output location, or else in
    the workgroup and for the output location that are configured. -/
def statementOf (t : Target) : Statement where
  sql := t.sql
  workGroup := orConfigured t.workGroup b.settings.workGroup
  outputLocation := orConfigured t.outputLocation b.settings.outputLocation

theorem statementOf_eq (t : Target) :
    b.statementOf t = ⟨t.sql, b.workGroupOf t, b.outputLocationOf t⟩ := rfl

@[simp]
theorem statementOf_workGroup (t : Target) : (b.statementOf t).workGroup = b.workGroupOf t := rfl

variable (b) in
/-- Starts the statement of a target and waits until it has succeeded. -/
def startNew (region : RegionService W) (t : Target) : ServiceM (Session W) String := do
  let id ← Session.call (region.start (b.statementOf t))
  b.await region id b.settings.waitAttempts b.settings.waitAttempts
  return id

/-- A statement is started, or remembered, behind the scan limit of its workgroup. -/
theorem started_eq (name : String) (region : RegionService W) (t : Target) (maxRows : Int) :
    b.started name region t maxRows = (do
      if (← b.scanLimit name region (b.workGroupOf t)).isNone then
        throw (.noScanLimit (b.workGroupOf t))
      else
        b.remembered .started (rowsKey name t.sql maxRows) (b.startNew region t)
          t.cacheDuration) := by
  unfold started remembered lookUp keep startNew Shelf.started
  rw [statementOf_eq]
  refine bind_congr fun limit => ?_
  split
  · rfl
  · simp only [bind_assoc, pure_bind]
    refine bind_congr fun now => bind_congr fun s => bind_congr fun _ => ?_
    cases (s.started.get now (rowsKey name t.sql maxRows)).1 with
    | some id => rfl
    | none => rfl

/-! ## What remembering does -/

variable (b) in
/-- The world after a look at the clock. -/
def tick (w : Logged W) : Logged W := ((b.athena.now w.1).2, w.2)

variable (b) in
/-- What is found under a key, and the cache after that. -/
def found (shelf : Shelf (Logged W) α) (key : String) (s : Session (Logged W)) :
    Option α × Cache α :=
  (shelf.cache s).get (b.athena.now s.world.1).1 key

variable (b) in
/-- The session after a look at the cache. -/
def looked (shelf : Shelf (Logged W) α) (key : String) (s : Session (Logged W)) :
    Session (Logged W) :=
  shelf.put (b.found shelf key s).2 { s with world := b.tick s.world }

/-- How a remembered value is found, and what is kept after that. -/
inductive Remembers (b : AthenaBackend W) (shelf : Shelf (Logged W) α) (key : String)
    (ask : ServiceM (Session (Logged W)) α) (s s' : Session (Logged W)) :
    Except AthenaError α → Prop
  | kept {e : CacheEntry α} (he : e ∈ (shelf.cache s).entries) (hkey : e.key = key)
      (hworld : s'.world = b.tick s.world)
      (hkept : (shelf.cache s').entries ⊆ (shelf.cache s).entries) :
      Remembers b shelf key ask s s' (.ok e.value)
  | asked {a : α} {s₁ s₂ : Session (Logged W)} (hask : Ends ask s₁ (.ok a) s₂)
      (hbefore : s₁.world = b.tick s.world) (hafter : s'.world = b.tick s₂.world)
      (hkept : ∀ e ∈ (shelf.cache s').entries,
        (e ∈ (shelf.cache s).entries ∧ e.key ≠ key) ∨ (e.key = key ∧ e.value = a)) :
      Remembers b shelf key ask s s' (.ok a)
  | failed {e : AthenaError} {s₁ : Session (Logged W)} (hask : Ends ask s₁ (.error e) s')
      (hbefore : s₁.world = b.tick s.world)
      (hkept : ∀ e ∈ (shelf.cache s').entries, e ∈ (shelf.cache s).entries ∧ e.key ≠ key) :
      Remembers b shelf key ask s s' (.error e)

section
variable {shelf : Shelf (Logged W) α} {key : String} {ask : ServiceM (Session (Logged W)) α}
  {ttl : Span} {s s' : Session (Logged W)} {r : Except AthenaError α} {a : α}

theorem world_looked : (b.looked shelf key s).world = b.tick s.world := shelf.world_put _ s _

theorem cache_looked : shelf.cache (b.looked shelf key s) = (b.found shelf key s).2 :=
  shelf.cache_put _ _

theorem run_lookUp : (b.recorded.lookUp shelf key).run s =
    (.ok (b.found shelf key s).1, b.looked shelf key s) := by
  have hcache : shelf.cache { s with world := b.tick s.world } = shelf.cache s :=
    shelf.cache_world _ _
  unfold looked found
  rw [← hcache]
  rfl

theorem run_keep : (b.recorded.keep shelf key a ttl).run s =
    (.ok a, shelf.put ((shelf.cache { s with world := b.tick s.world }).insert
      (b.athena.now s.world.1).1 key a ttl) { s with world := b.tick s.world }) := rfl

/-- What is found is answered, and what is not found is asked for and kept. -/
theorem ends_remembered : Ends (b.recorded.remembered shelf key ask ttl) s r s' ↔
    match (b.found shelf key s).1 with
    | some a => r = .ok a ∧ s' = b.looked shelf key s
    | none => Ends (do b.recorded.keep shelf key (← ask) ttl) (b.looked shelf key s) r s' := by
  unfold remembered
  rw [ends_bind_of_run run_lookUp]
  cases (b.found shelf key s).1 with
  | some a => exact ends_pure
  | none => rfl

theorem remembered_cases (hworld : Keeps OnlyWorld ask)
    (h : Ends (b.recorded.remembered shelf key ask ttl) s r s') :
    Remembers b shelf key ask s s' r ∧ shelf.Only s s' := by
  have honly : shelf.Only s (b.looked shelf key s) := ⟨_, _, rfl⟩
  rw [ends_remembered] at h
  cases hfound : (b.found shelf key s).1 with
  | some a =>
    rw [hfound] at h
    obtain ⟨rfl, rfl⟩ := h
    obtain ⟨e, he, hkey, rfl, -⟩ := Cache.get_eq_some hfound
    refine ⟨.kept he hkey world_looked ?_, honly⟩
    rw [cache_looked]
    exact Cache.get_subset _ _ _
  | none =>
    rw [hfound] at h
    -- Looking the key up has dropped whatever stood under it.
    have hgone : ∀ e ∈ (shelf.cache (b.looked shelf key s)).entries,
        e ∈ (shelf.cache s).entries ∧ e.key ≠ key := by
      intro e he
      rw [cache_looked] at he
      exact Cache.get_eq_none hfound he
    rcases ends_bind.mp h with ⟨a, s₂, hask, h⟩ | ⟨e, hask, rfl⟩
    · obtain ⟨rfl, rfl⟩ := (ends_iff_of_run run_keep).mp h
      have hafter := hworld hask
      refine ⟨.asked hask world_looked (shelf.world_put _ _ _) ?_, ?_⟩
      · intro e he
        rw [shelf.cache_put, shelf.cache_world, Shelf.cache_of_onlyWorld hafter] at he
        exact (Cache.mem_insert he).imp (hgone e) fun ⟨hkey, hvalue, _⟩ => ⟨hkey, hvalue⟩
      · refine IsTrans.trans _ _ _ honly (IsTrans.trans _ _ _ (Shelf.only_of_onlyWorld hafter) ?_)
        exact ⟨_, _, rfl⟩
    · have hafter := hworld hask
      refine ⟨.failed hask world_looked ?_, ?_⟩
      · rw [Shelf.cache_of_onlyWorld hafter]
        exact hgone
      · exact IsTrans.trans _ _ _ honly (Shelf.only_of_onlyWorld hafter)

/-- A remembered answer to one call: it is kept, or the call is made and noted. -/
inductive RemembersCall (b : AthenaBackend W) (shelf : Shelf (Logged W) α) (key name : String)
    (call : Except AthenaError α → Call) (x : ServiceM W α) (s s' : Session (Logged W)) :
    Except AthenaError α → Prop
  | kept {e : CacheEntry α} (he : e ∈ (shelf.cache s).entries) (hkey : e.key = key)
      (hworld : s'.world = b.tick s.world)
      (hkept : (shelf.cache s').entries ⊆ (shelf.cache s).entries) :
      RemembersCall b shelf key name call x s s' (.ok e.value)
  | called {r : Except AthenaError α} {v : W} (hends : Ends x (b.tick s.world).1 r v)
      (hlog : s'.world.2 = s.world.2 ++ [⟨name, (b.tick s.world).1, call r⟩])
      (hworld : s'.world.1 = v ∨ s'.world.1 = (b.athena.now v).2)
      (hkept : ∀ e ∈ (shelf.cache s').entries,
        (e ∈ (shelf.cache s).entries ∧ e.key ≠ key) ∨ (e.key = key ∧ r = .ok e.value)) :
      RemembersCall b shelf key name call x s s' r

theorem onlyWorld_call {x : ServiceM (Logged W) α} : Keeps OnlyWorld (Session.call x) := by
  intro s r s' h
  obtain ⟨w, -, rfl⟩ := ends_call.mp h
  exact ⟨w, rfl⟩

theorem remembered_call {name : String} {call : Except AthenaError α → Call} {x : ServiceM W α}
    (h : Ends (b.recorded.remembered shelf key (Session.call (noting name call x)) ttl) s r s') :
    RemembersCall b shelf key name call x s s' r := by
  cases (remembered_cases onlyWorld_call h).1 with
  | kept he hkey hworld hkept => exact .kept he hkey hworld hkept
  | @asked a s₁ s₂ hask hbefore hafter hkept =>
    obtain ⟨w, hcall, rfl⟩ := ends_call.mp hask
    rw [hbefore] at hcall
    obtain ⟨hends, hnoted⟩ := ends_noting.mp hcall
    refine .called hends ?_ (.inr (congrArg Prod.fst hafter)) fun e he => ?_
    · rw [hafter]
      exact hnoted
    · exact (hkept e he).imp_right fun ⟨hkey, hvalue⟩ => ⟨hkey, congrArg Except.ok hvalue.symm⟩
  | @failed e s₁ hask hbefore hkept =>
    obtain ⟨w, hcall, rfl⟩ := ends_call.mp hask
    rw [hbefore] at hcall
    obtain ⟨hends, hnoted⟩ := ends_noting.mp hcall
    exact .called hends hnoted (.inl rfl) fun e he => .inl (hkept e he)

end

end AthenaBackend
end PanelSource
