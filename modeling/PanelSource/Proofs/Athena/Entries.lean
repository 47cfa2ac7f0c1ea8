import PanelSource.Proofs.Athena.Listing
import PanelSource.Proofs.Athena.Succeeded

/- Which requests share what is kept.

   A request uses an entry of a cache if it makes a difference to its effect whether the entry is
   there, or if it may put the entry there (`Shelf.Uses`). Each of the four requests that look into
   a cache uses the entries under one key of it, and uses every one of them that is still alive
   (`Shelf.UsesKey`). So two of them share an entry just when their keys are the same text, which
   they are for different requests where the name of a region has a slash (`shared_entries`). -/
namespace PanelSource

/-! ## Effects -/

section
variable {W α β : Type}

/-- What a request answers, and the world that it leaves. -/
def effect (x : ServiceM (Session W) α) (s : Session W) : Except AthenaError α × W :=
  ((x.run s).1, (x.run s).2.world)

theorem effect_of_ends {x : ServiceM (Session W) α} {s s' : Session W} {r : Except AthenaError α}
    (h : Ends x s r s') : effect x s = (r, s'.world) := by
  unfold effect
  rw [h]

/-- A request whose effect depends on the world only. -/
def Blind (x : ServiceM (Session W) α) : Prop :=
  ∀ ⦃s t : Session W⦄, s.world = t.world → effect x s = effect x t

theorem blind_pure (a : α) : Blind (pure a : ServiceM (Session W) α) :=
  fun _ _ h => congrArg (Prod.mk _) h

theorem blind_throw (e : AthenaError) : Blind (throw e : ServiceM (Session W) α) :=
  fun _ _ h => congrArg (Prod.mk _) h

theorem blind_call (x : ServiceM W α) : Blind (Session.call x) :=
  fun _ _ h => congrArg x.run h

/-- After a first step with the same effect, it is up to the rest. -/
theorem effect_bind {x : ServiceM (Session W) α} {f : α → ServiceM (Session W) β}
    {s t : Session W} (hx : effect x s = effect x t)
    (hf : ∀ {a s' t'}, Ends x s (.ok a) s' → Ends x t (.ok a) t' → s'.world = t'.world →
      effect (f a) s' = effect (f a) t') :
    effect (x >>= f) s = effect (x >>= f) t := by
  have hs := ends_self x s
  have ht := ends_self x t
  obtain ⟨hr, hworld⟩ := Prod.mk.inj hx
  cases hsr : (x.run s).1 with
  | ok a =>
    have htr := hr.symm.trans hsr
    rw [hsr] at hs
    rw [htr] at ht
    have hrest := hf hs ht hworld
    rw [effect_of_ends ((ends_bind_of_run hs).mpr (ends_self _ _)),
      effect_of_ends ((ends_bind_of_run ht).mpr (ends_self _ _))]
    exact hrest
  | error e =>
    have htr := hr.symm.trans hsr
    rw [hsr] at hs
    rw [htr] at ht
    rw [effect_of_ends (ends_bind.mpr (.inr ⟨e, hs, rfl⟩)),
      effect_of_ends (ends_bind.mpr (.inr ⟨e, ht, rfl⟩)), hworld]

theorem Blind.bind {x : ServiceM (Session W) α} {f : α → ServiceM (Session W) β} (hx : Blind x)
    (hf : ∀ a, Blind (f a)) : Blind (x >>= f) :=
  fun _ _ h => effect_bind (hx h) fun _ _ hworld => hf _ hworld

end

/-! ## Using entries -/

namespace Shelf
variable {W α β γ : Type}

/-- A session has an entry more than another one, which is like it otherwise. -/
def OneMore (shelf : Shelf W α) (e : CacheEntry α) (s t : Session W) : Prop :=
  ∃ front back, (shelf.cache s).entries = front ++ e :: back ∧
    t = shelf.put { shelf.cache s with entries := front ++ back } s

/-- A request uses an entry: it ends in another way if the entry is not there, or puts it there. -/
inductive Uses (shelf : Shelf W α) (x : ServiceM (Session W) β) (e : CacheEntry α) : Prop
  | reads {s t : Session W} (hmore : shelf.OneMore e s t) (hdiffers : effect x s ≠ effect x t)
  | puts {s : Session W} (hnew : e ∉ (shelf.cache s).entries)
      (hput : e ∈ (shelf.cache (x.run s).2).entries)

def Share (shelf : Shelf W α) (x : ServiceM (Session W) β) (y : ServiceM (Session W) γ) : Prop :=
  ∃ e, shelf.Uses x e ∧ shelf.Uses y e

/-- A request looks under one key only, puts entries under it only, and uses every entry under it
    that outlives a moment. -/
structure UsesKey (shelf : Shelf W α) (key : String) (moment : Nat) (x : ServiceM (Session W) β) :
    Prop where
  looks : ∀ {s : Session W} {c : Cache α}, c.find? key = (shelf.cache s).find? key →
    effect x s = effect x (shelf.put c s)
  puts : ∀ {s : Session W} {e : CacheEntry α}, e ∈ (shelf.cache (x.run s).2).entries →
    e ∈ (shelf.cache s).entries ∨ e.key = key
  uses : ∀ {e : CacheEntry α}, e.key = key → moment < e.expires → shelf.Uses x e

variable {shelf : Shelf W α} {key key' : String} {moment moment' : Nat}
  {x : ServiceM (Session W) β} {y : ServiceM (Session W) γ} {e : CacheEntry α}

theorem UsesKey.key_eq (h : shelf.UsesKey key moment x) (huses : shelf.Uses x e) : e.key = key := by
  by_contra hkey
  cases huses with
  | @reads s t hmore hdiffers =>
    obtain ⟨front, back, hentries, rfl⟩ := hmore
    apply hdiffers
    apply h.looks
    unfold Cache.find?
    rw [hentries, List.find?_append, List.find?_append,
      List.find?_cons_of_neg (by simpa using hkey)]
  | puts hnew hput =>
    exact (h.puts hput).elim hnew hkey

/-- Two requests share an entry just when they use the same key. -/
theorem share_iff [Inhabited α] (hx : shelf.UsesKey key moment x)
    (hy : shelf.UsesKey key' moment' y) : shelf.Share x y ↔ key = key' := by
  constructor
  · rintro ⟨e, hxe, hye⟩
    exact (hx.key_eq hxe).symm.trans (hy.key_eq hye)
  · rintro rfl
    have hlate : moment < max moment moment' + 1 ∧ moment' < max moment moment' + 1 := by omega
    let e : CacheEntry α := ⟨key, default, max moment moment' + 1⟩
    exact ⟨e, hx.uses rfl hlate.1, hy.uses rfl hlate.2⟩

/-- A session with one entry on a shelf. -/
def holding (shelf : Shelf W α) (e : CacheEntry α) (s : Session W) : Session W :=
  shelf.put { capacity := 1, entries := [e] } s

theorem cache_holding (e : CacheEntry α) (s : Session W) :
    shelf.cache (shelf.holding e s) = { capacity := 1, entries := [e] } := shelf.cache_put _ _

def bare (shelf : Shelf W α) (s : Session W) : Session W := shelf.put { capacity := 1 } s

theorem oneMore_holding (e : CacheEntry α) (s : Session W) :
    shelf.OneMore e (shelf.holding e s) (shelf.bare s) := by
  refine ⟨[], [], ?_, ?_⟩
  · rw [cache_holding]
    rfl
  · rw [cache_holding, holding, shelf.put_put]
    rfl

theorem world_holding (e : CacheEntry α) (s : Session W) :
    (shelf.holding e s).world = s.world := shelf.world_put _ s s.world

theorem world_bare (s : Session W) : (shelf.bare s).world = s.world := shelf.world_put _ s s.world

end Shelf

namespace AthenaBackend
variable {W α : Type} {b : AthenaBackend W} {name : String} {service : RegionService W}
  {t : Target} {maxRows : Int}

/-! ## What is remembered -/

section
variable {shelf : Shelf (Logged W) α} {key : String} {ask : ServiceM (Session (Logged W)) α}
  {ttl : Span} {s s' : Session (Logged W)}

theorem found_congr (hworld : s.world = s'.world)
    (hfind : (shelf.cache s).find? key = (shelf.cache s').find? key) :
    (b.found shelf key s).1 = (b.found shelf key s').1 := by
  unfold found Cache.get
  rw [hworld, hfind]
  cases (shelf.cache s').find? key with
  | none => rfl
  | some e =>
    simp only
    split <;> rfl

theorem effect_remembered_some {a : α} (h : (b.found shelf key s).1 = some a) :
    effect (b.recorded.remembered shelf key ask ttl) s = (.ok a, b.tick s.world) := by
  have hends : Ends (b.recorded.remembered shelf key ask ttl) s (.ok a) (b.looked shelf key s) := by
    rw [ends_remembered, h]
    exact ⟨rfl, rfl⟩
  rw [effect_of_ends hends, world_looked]

theorem blind_keep (a : α) : Blind (b.recorded.keep shelf key a ttl) := by
  intro s s' hworld
  rw [effect_of_ends run_keep, effect_of_ends run_keep, shelf.world_put, shelf.world_put, hworld]

theorem effect_lookUp_congr (hworld : s.world = s'.world)
    (hfind : (shelf.cache s).find? key = (shelf.cache s').find? key) :
    effect (b.recorded.lookUp shelf key) s = effect (b.recorded.lookUp shelf key) s' := by
  rw [effect_of_ends run_lookUp, effect_of_ends run_lookUp, world_looked, world_looked,
    found_congr hworld hfind, hworld]

/-- The effect depends on the world and on the entry under the key. -/
theorem effect_remembered_congr (hask : Blind ask) (hworld : s.world = s'.world)
    (hfind : (shelf.cache s).find? key = (shelf.cache s').find? key) :
    effect (b.recorded.remembered shelf key ask ttl) s =
      effect (b.recorded.remembered shelf key ask ttl) s' := by
  refine effect_bind (effect_lookUp_congr hworld hfind) fun {a s₁ s₁'} _ _ hworld₁ => ?_
  cases a with
  | some a => exact blind_pure a hworld₁
  | none => exact (hask.bind fun a => blind_keep a) hworld₁

/-- What is asked for is noted. -/
def Lengthens (x : ServiceM (Session (Logged W)) α) : Prop :=
  ∀ s, s.world.2.length < (effect x s).2.2.length

theorem lengthens_call {call : Except AthenaError α → Call} {x : ServiceM W α} :
    Lengthens (Session.call (noting name call x)) := by
  intro s
  have hlog := log_call (ends_self (Session.call (noting name call x)) s)
  show s.world.2.length < ((Session.call (noting name call x)).run s).2.world.2.length
  rw [hlog]
  simp

/-- Looking in vain is told from finding something by what is noted. -/
theorem effect_remembered_ne {a : α} (hask : Lengthens ask) (hworld : s.world = s'.world)
    (hsome : (b.found shelf key s).1 = some a) (hnone : (b.found shelf key s').1 = none) :
    effect (b.recorded.remembered shelf key ask ttl) s ≠
      effect (b.recorded.remembered shelf key ask ttl) s' := by
  -- Were both effects the same, then no more would be noted after asking than before it.
  intro heq
  rw [effect_remembered_some hsome] at heq
  have hlog : (b.tick s.world).2 = s'.world.2 := by
    rw [hworld]
    rfl
  have hends := ends_remembered.mp (ends_self (b.recorded.remembered shelf key ask ttl) s')
  rw [hnone] at hends
  have hworld' := (Prod.mk.inj heq).2
  have hlooked : (b.looked shelf key s').world.2.length = s'.world.2.length := by
    rw [world_looked]
    rfl
  have hlonger := hask (b.looked shelf key s')
  rw [hlooked] at hlonger
  rcases ends_bind.mp hends with ⟨a', s₁, hasked, hkeep⟩ | ⟨e, hasked, -⟩
  · obtain ⟨-, hs'⟩ := (ends_iff_of_run run_keep).mp hkeep
    rw [effect_of_ends hasked] at hlonger
    rw [hs', shelf.world_put] at hworld'
    have hsame : (b.tick s.world).2.length = s₁.world.2.length := by
      rw [hworld']
      rfl
    rw [hlog] at hsame
    simp only at hlonger
    omega
  · rw [effect_of_ends hasked] at hlonger
    rw [← hworld'] at hlonger
    rw [hlog] at hlonger
    exact absurd hlonger (Nat.lt_irrefl _)

theorem found_holding {e : CacheEntry α} (hkey : e.key = key)
    (halive : (b.athena.now s.world.1).1 < e.expires) :
    (b.found shelf key (shelf.holding e s)).1 = some e.value := by
  unfold found Cache.get
  rw [Shelf.world_holding, Shelf.cache_holding]
  simp [Cache.find?, hkey, halive]

theorem found_bare : (b.found shelf key (shelf.bare s)).1 = none := by
  unfold found Shelf.bare Cache.get
  rw [shelf.cache_put]
  rfl

theorem remembered_key (honly : Keeps OnlyWorld ask) {r : Except AthenaError α}
    (h : Ends (b.recorded.remembered shelf key ask ttl) s r s') {e : CacheEntry α}
    (he : e ∈ (shelf.cache s').entries) : e ∈ (shelf.cache s).entries ∨ e.key = key := by
  cases (remembered_cases honly h).1 with
  | kept _ _ _ hkept => exact .inl (hkept he)
  | asked _ _ _ hkept => exact (hkept e he).imp And.left And.left
  | failed _ _ hkept => exact .inl (hkept e he).1

theorem usesKey_remembered (hask : Blind ask) (honly : Keeps OnlyWorld ask)
    (hlonger : Lengthens ask) (s : Session (Logged W)) :
    shelf.UsesKey key (b.athena.now s.world.1).1 (b.recorded.remembered shelf key ask ttl) where
  looks {s' c} hfind := by
    refine effect_remembered_congr hask (shelf.world_put c s' s'.world).symm ?_
    rw [shelf.cache_put, hfind]
  puts he := remembered_key honly (ends_self _ _) he
  uses {e} hkey halive := by
    refine .reads (Shelf.oneMore_holding e s) ?_
    refine effect_remembered_ne hlonger ?_ (found_holding hkey halive) found_bare
    rw [Shelf.world_holding, Shelf.world_bare]

end

/-! ## Scan limits, rows and executions of statements -/

theorem usesKey_scanLimit (workGroup : String) (s : Session (Logged W)) :
    Shelf.scanLimits.UsesKey (workGroupKey name workGroup) (b.athena.now s.world.1).1
      (b.recorded.scanLimit name (service.recorded name) workGroup) := by
  rw [scanLimit_eq]
  exact usesKey_remembered (blind_call _) onlyWorld_call lengthens_call s

theorem usesKey_rows (id : String) (ttl : Span) (s : Session (Logged W)) :
    Shelf.results.UsesKey (rowsKey name id maxRows) (b.athena.now s.world.1).1
      (b.recorded.rows name (service.recorded name) id maxRows ttl) := by
  rw [rows_eq]
  exact usesKey_remembered (blind_call _) onlyWorld_call lengthens_call s

theorem blind_pause : Blind b.recorded.pause :=
  fun _ _ h => congrArg (fun w => (Except.ok (), (b.recorded.athena.pause _ w).2)) h

theorem blind_await (id : String) (attempts n : Nat) :
    Blind (b.recorded.await (service.recorded name) id attempts n) := by
  induction n with
  | zero => exact blind_throw _
  | succ n ih =>
    refine (blind_call _).bind fun records => ?_
    split
    · exact blind_pause.bind fun _ => ih
    · exact blind_pause.bind fun _ => ih
    · exact blind_pure ()
    · exact blind_throw _

theorem blind_startNew : Blind (b.recorded.startNew (service.recorded name) t) :=
  (blind_call _).bind fun id => (blind_await id _ _).bind fun _ => blind_pure id

theorem lengthens_startNew : Lengthens (b.recorded.startNew (service.recorded name) t) := by
  intro s
  obtain ⟨calls, hlog, c, hc, -⟩ :=
    (startNew_ends (ends_self (b.recorded.startNew (service.recorded name) t) s)).1
  show s.world.2.length < ((b.recorded.startNew (service.recorded name) t).run s).2.world.2.length
  rw [hlog, List.length_append]
  exact Nat.lt_add_of_pos_right (List.length_pos_of_mem hc)

/-- The scan limit does not depend on the executions that are kept, and leaves them alone. -/
theorem effect_started_congr {s s' : Session (Logged W)} (hlimits : s.scanLimits = s'.scanLimits)
    (hworld : s.world = s'.world)
    (hfind : s.started.find? (rowsKey name t.sql maxRows) =
      s'.started.find? (rowsKey name t.sql maxRows)) :
    effect (b.recorded.started name (service.recorded name) t maxRows) s =
      effect (b.recorded.started name (service.recorded name) t maxRows) s' := by
  have hlimit : effect (b.recorded.scanLimit name (service.recorded name) (b.workGroupOf t)) s =
      effect (b.recorded.scanLimit name (service.recorded name) (b.workGroupOf t)) s' := by
    rw [scanLimit_eq]
    refine effect_remembered_congr (blind_call _) hworld ?_
    exact congrArg (Cache.find? · _) hlimits
  rw [started_eq]
  refine effect_bind hlimit fun {limit s₁ s₁'} h h' hworld₁ => ?_
  obtain ⟨⟨_, _, rfl⟩, -⟩ := fills_scanLimit h
  obtain ⟨⟨_, _, rfl⟩, -⟩ := fills_scanLimit h'
  cases limit with
  | none => exact blind_throw _ hworld₁
  | some n => exact effect_remembered_congr blind_startNew hworld₁ hfind

theorem effect_started_behind {n : Int} {s : Session (Logged W)}
    (h : (b.found .scanLimits (workGroupKey name (b.workGroupOf t)) s).1 = some (some n)) :
    effect (b.recorded.started name (service.recorded name) t maxRows) s =
      effect (b.recorded.remembered .started (rowsKey name t.sql maxRows)
          (b.recorded.startNew (service.recorded name) t) t.cacheDuration)
        (b.looked .scanLimits (workGroupKey name (b.workGroupOf t)) s) := by
  have hlimit : Ends (b.recorded.scanLimit name (service.recorded name) (b.workGroupOf t)) s
      (.ok (some n)) (b.looked .scanLimits (workGroupKey name (b.workGroupOf t)) s) := by
    rw [scanLimit_eq, ends_remembered, h]
    exact ⟨rfl, rfl⟩
  rw [started_eq]
  exact effect_of_ends ((ends_bind_of_run hlimit).mpr (ends_self _ _))

theorem usesKey_started (s : Session (Logged W)) :
    Shelf.started.UsesKey (rowsKey name t.sql maxRows) (b.athena.now (b.tick s.world).1).1
      (b.recorded.started name (service.recorded name) t maxRows) where
  looks {s' c} hfind := effect_started_congr rfl rfl hfind.symm
  puts {s' e} he := by
    rcases started_cases (ends_self (b.recorded.started name (service.recorded name) t maxRows) s')
      with ⟨_, hlimit, -⟩ | ⟨n, s₁, hlimit, hrest⟩
    · obtain ⟨⟨_, _, hsame⟩, -⟩ := fills_scanLimit hlimit
      rw [hsame] at he
      exact .inl he
    · obtain ⟨⟨_, _, rfl⟩, -⟩ := fills_scanLimit hlimit
      exact remembered_key (fun _ _ _ h => (asks_startNew t h).1) hrest he
  uses {e} hkey halive := by
    -- The scan limit is kept, so that the look for the execution comes next.
    let limit : CacheEntry (Option Int) :=
      ⟨workGroupKey name (b.workGroupOf t), some 0, (b.athena.now s.world.1).1 + 1⟩
    let s₀ := Shelf.scanLimits.holding limit s
    have hlimit : (b.found .scanLimits (workGroupKey name (b.workGroupOf t)) s₀).1 =
        some (some 0) := found_holding rfl (Nat.lt_succ_self _)
    refine .reads (Shelf.oneMore_holding e s₀) ?_
    rw [effect_started_behind (s := Shelf.started.holding e s₀) hlimit,
      effect_started_behind (s := Shelf.started.bare s₀) hlimit]
    -- The two caches do not get in each other's way.
    let s₁ := b.looked .scanLimits (workGroupKey name (b.workGroupOf t)) s₀
    exact effect_remembered_ne lengthens_startNew rfl (found_holding (s := s₁) hkey halive)
      (found_bare (s := s₁))

/-! ## Lists of executions -/

/-- The part of listing executions that follows the look at what is kept. -/
def listFrom (b : AthenaBackend W) (key : String) (region : RegionService W) (ps : Params)
    (kept : Option Listing) : ServiceM (Session W) (List Execution) := do
  let ids ← Session.call (region.executionIds ps.workGroup? (kept.map (·.newest)))
  match ids.head? with
  | none => return []
  | some newest =>
    match kept.filter fun l => l.newest == newest with
    | some l => return l.executions
    | none =>
      let executions ← Session.call (region.allExecutions ids)
      b.keepListing key ⟨newest, executions⟩
      return executions

theorem executionsOf_eq (ps : Params) : b.recorded.executionsOf ps = (do
    let (name, region) ← b.recorded.region (ps.trimmed "region")
    let kept ← b.recorded.lookUp .listings (workGroupKey name (ps.workGroup?.getD ""))
    b.recorded.listFrom (workGroupKey name (ps.workGroup?.getD "")) region ps kept) := rfl

theorem blind_listFrom (key : String) (region : RegionService (Logged W)) (ps : Params)
    (kept : Option Listing) : Blind (b.recorded.listFrom key region ps kept) := by
  refine (blind_call _).bind fun ids => ?_
  cases ids.head? with
  | none => exact blind_pure []
  | some newest =>
    simp only
    cases kept.filter fun l => l.newest == newest with
    | some l => exact blind_pure _
    | none =>
      refine (blind_call _).bind fun executions => ?_
      exact Blind.bind (fun _ _ h => congrArg (fun w => (Except.ok (), b.tick w)) h)
        fun _ => blind_pure executions

/-- What is told of the kept list is noted at once. -/
theorem listFrom_noted {key region : String} {ps : Params} {kept : Option Listing}
    {s s' : Session (Logged W)} {r : Except AthenaError (List Execution)}
    (h : Ends (b.recorded.listFrom key (service.recorded region) ps kept) s r s') :
    ∃ answer more, s'.world.2 = s.world.2 ++
      ⟨region, s.world.1, .executionIds ps.workGroup? (kept.map (·.newest)) answer⟩ :: more := by
  -- Whatever comes of the answer, the log goes on behind this call.
  have hnoted : ∀ {answer : Except AthenaError (List String)} {s₁ : Session (Logged W)},
      Ends (Session.call ((service.recorded region).executionIds ps.workGroup?
        (kept.map (·.newest)))) s answer s₁ → Later s₁.world s'.world →
      ∃ answer more, s'.world.2 = s.world.2 ++
        ⟨region, s.world.1, .executionIds ps.workGroup? (kept.map (·.newest)) answer⟩ :: more := by
    intro answer s₁ hcall hlater
    obtain ⟨more, hmore⟩ := hlater
    refine ⟨answer, more, ?_⟩
    rw [← hmore, log_call hcall, List.append_assoc]
    rfl
  rcases ends_bind.mp h with ⟨ids, s₁, hids, h⟩ | ⟨e, hids, rfl⟩
  · refine hnoted hids ?_
    cases hhead : ids.head? with
    | none =>
      rw [hhead] at h
      obtain ⟨-, rfl⟩ := ends_pure.mp h
      exact List.prefix_rfl
    | some newest =>
      rw [hhead] at h
      simp only at h
      cases hfilter : kept.filter fun l => l.newest == newest with
      | some l =>
        rw [hfilter] at h
        obtain ⟨-, rfl⟩ := ends_pure.mp h
        exact List.prefix_rfl
      | none =>
        rw [hfilter] at h
        rcases ends_keep_fetched h with ⟨calls, _, -, -, hlog, -⟩ | ⟨_, -, -, hlater⟩
        · exact ⟨calls, hlog.symm⟩
        · exact hlater
  · exact hnoted hids List.prefix_rfl

theorem effect_listFrom_ne {key region : String} {ps : Params} {l : Listing}
    {s s' : Session (Logged W)} (hworld : s.world = s'.world) :
    effect (b.recorded.listFrom key (service.recorded region) ps (some l)) s ≠
      effect (b.recorded.listFrom key (service.recorded region) ps none) s' := by
  intro heq
  obtain ⟨_, _, hlog⟩ :=
    listFrom_noted (ends_self (b.recorded.listFrom key (service.recorded region) ps (some l)) s)
  obtain ⟨_, _, hlog'⟩ :=
    listFrom_noted (ends_self (b.recorded.listFrom key (service.recorded region) ps none) s')
  rw [hworld] at hlog
  have hsame := hlog.symm.trans ((congrArg (fun x => x.2.2) heq).trans hlog')
  cases (List.cons.inj (List.append_cancel_left hsame)).1

section
variable {ps : Params} {s : Session (Logged W)} {v : W}

theorem effect_executionsOf
    (hserves : Ends (b.athena.region (b.regionOf ps)) s.world.1 (.ok service) v) :
    effect (b.recorded.executionsOf ps) s =
      effect (b.recorded.listFrom (b.listingKey ps) (service.recorded (b.regionOf ps)) ps
          (b.found .listings (b.listingKey ps) { s with world := (v, s.world.2) }).1)
        (b.looked .listings (b.listingKey ps) { s with world := (v, s.world.2) }) := by
  have hregion : Ends (b.recorded.region (ps.trimmed "region")) s
      (.ok (b.regionOf ps, service.recorded (b.regionOf ps)))
      { s with world := (v, s.world.2) } :=
    ends_region.mpr ⟨.ok (service.recorded (b.regionOf ps)), (v, s.world.2),
      ends_recorded_region.mpr ⟨.ok service, hserves, rfl, rfl⟩, rfl, rfl⟩
  rw [executionsOf_eq]
  refine effect_of_ends ((ends_bind_of_run hregion).mpr ?_)
  exact (ends_bind_of_run run_lookUp).mpr (ends_self _ _)

theorem usesKey_executionsOf
    (hserves : Ends (b.athena.region (b.regionOf ps)) s.world.1 (.ok service) v) :
    Shelf.listings.UsesKey (b.listingKey ps) (b.athena.now v).1 (b.recorded.executionsOf ps) where
  looks {s' c} hfind := by
    have hregion : effect (b.recorded.region (ps.trimmed "region")) s' =
        effect (b.recorded.region (ps.trimmed "region")) (Shelf.listings.put c s') :=
      ((blind_call _).bind fun service => blind_pure _) rfl
    rw [executionsOf_eq]
    refine effect_bind hregion fun {a s₁ s₁'} h h' hworld => ?_
    obtain ⟨e | service', v', -, rfl, ha⟩ := ends_recorded h
    · cases ha
    cases ha
    obtain ⟨_, v'', -, rfl, -⟩ := ends_recorded h'
    exact effect_bind (effect_lookUp_congr hworld hfind.symm)
      fun _ _ hworld₁ => blind_listFrom _ _ _ _ hworld₁
  puts {s' e} he := by
    have hlists := executionsOf_cases (ends_self (b.recorded.executionsOf ps) s')
    generalize ((b.recorded.executionsOf ps).run s').1 = r at hlists
    cases hlists with
    | failed hkept => exact .inl (hkept he)
    | empty hkept => exact .inl (hkept he)
    | kept _ _ _ hkept => exact .inl (hkept he)
    | taken _ _ _ _ _ hkept => exact (hkept e he).imp id And.left
  uses {e} hkey halive := by
    -- The first call passes the newest id of a kept listing, so that the log tells it from none.
    refine .reads (Shelf.oneMore_holding e s) ?_
    let s₁ : Session (Logged W) := { s with world := (v, s.world.2) }
    have hsome : (b.found .listings (b.listingKey ps) (Shelf.listings.holding e s₁)).1 =
        some e.value := found_holding hkey halive
    have hnone : (b.found .listings (b.listingKey ps) (Shelf.listings.bare s₁)).1 = none :=
      found_bare
    have hwith : effect (b.recorded.executionsOf ps) (Shelf.listings.holding e s) =
        effect (b.recorded.listFrom (b.listingKey ps) (service.recorded (b.regionOf ps)) ps
          (some e.value)) (b.looked .listings (b.listingKey ps) (Shelf.listings.holding e s₁)) := by
      rw [← hsome]
      exact effect_executionsOf hserves
    have hwithout : effect (b.recorded.executionsOf ps) (Shelf.listings.bare s) =
        effect (b.recorded.listFrom (b.listingKey ps) (service.recorded (b.regionOf ps)) ps none)
          (b.looked .listings (b.listingKey ps) (Shelf.listings.bare s₁)) := by
      rw [← hnone]
      exact effect_executionsOf hserves
    rw [hwith, hwithout]
    exact effect_listFrom_ne rfl

end

/-! ## Sharing -/

/-- **Requests share what is kept just when their keys are the same text.** Two lookups of regions
    that have a service share a list if they mean the same region and workgroup. Otherwise they do
    only where one region is named like the other one with a slash and more behind that, and the
    workgroup of the other one is this again with a slash and the workgroup of the first. The same
    holds for scan limits; and, for the same row limit, for executions with the statements in the
    place of the workgroups, and for rows with the ids of executions. So different requests for
    regions without slashes in their names share nothing. -/
theorem shared_entries (b : AthenaBackend W) (w : W) :
    (∀ {ps ps' : Params} {service service' : RegionService W} {v v' : W},
      Ends (b.athena.region (b.regionOf ps)) w (.ok service) v →
      Ends (b.athena.region (b.regionOf ps')) w (.ok service') v' →
      (Shelf.listings.Share (b.recorded.executionsOf ps) (b.recorded.executionsOf ps') ↔
        JoinAlike (b.regionOf ps) (ps.workGroup?.getD "") (b.regionOf ps')
          (ps'.workGroup?.getD ""))) ∧
    (∀ (region region' workGroup workGroup' : String) (service service' : RegionService W),
      Shelf.scanLimits.Share
          (b.recorded.scanLimit region (service.recorded region) workGroup)
          (b.recorded.scanLimit region' (service'.recorded region') workGroup') ↔
        JoinAlike region workGroup region' workGroup') ∧
    (∀ (region region' : String) (service service' : RegionService W) (t t' : Target)
        (maxRows maxRows' : Int),
      Shelf.started.Share (b.recorded.started region (service.recorded region) t maxRows)
          (b.recorded.started region' (service'.recorded region') t' maxRows') ↔
        maxRows = maxRows' ∧ JoinAlike region t.sql region' t'.sql) ∧
    (∀ (region region' id id' : String) (service service' : RegionService W)
        (maxRows maxRows' : Int) (ttl ttl' : Span),
      Shelf.results.Share (b.recorded.rows region (service.recorded region) id maxRows ttl)
          (b.recorded.rows region' (service'.recorded region') id' maxRows' ttl') ↔
        maxRows = maxRows' ∧ JoinAlike region id region' id') ∧
    ∀ {region second region' second' : String}, '/' ∉ region.toList → '/' ∉ region'.toList →
      (JoinAlike region second region' second' ↔ region = region' ∧ second = second') := by
  let s : Session (Logged W) := .fresh b.settings (w, [])
  refine ⟨fun {ps ps' service service' v v'} h h' => ?_,
    fun region region' workGroup workGroup' service service' => ?_,
    fun region region' service service' t t' maxRows maxRows' => ?_,
    fun region region' id id' service service' maxRows maxRows' ttl ttl' => ?_,
    fun hslash hslash' => ⟨fun h => h.eq_of_no_slash hslash hslash', ?_⟩⟩
  · rw [← workGroupKey_eq_iff]
    exact Shelf.share_iff (usesKey_executionsOf (s := s) h) (usesKey_executionsOf (s := s) h')
  · rw [← workGroupKey_eq_iff]
    exact Shelf.share_iff (usesKey_scanLimit workGroup s) (usesKey_scanLimit workGroup' s)
  · rw [← rowsKey_eq_iff]
    exact Shelf.share_iff (usesKey_started s) (usesKey_started s)
  · rw [← rowsKey_eq_iff]
    exact Shelf.share_iff (usesKey_rows id ttl s) (usesKey_rows id' ttl' s)
  · rintro ⟨rfl, rfl⟩
    exact .same rfl rfl

end AthenaBackend

namespace Memory

def inRegion : Params := [("region", .text "r"), ("workGroup", .text "b/")]

def inLongRegion : Params := [("region", .text "r/b")]

/-- The two lookups share a list: one workgroup ends where the name of the other region does. -/
theorem shared_entries_regions :
    (∃ v, Ends (backend.athena.region (backend.regionOf inRegion)) {} (.ok region) v) ∧
      (∃ v, Ends (backend.athena.region (backend.regionOf inLongRegion)) {} (.ok region) v) ∧
      AthenaBackend.Overlaps (backend.regionOf inLongRegion) (inLongRegion.workGroup?.getD "")
        (backend.regionOf inRegion) (inRegion.workGroup?.getD "") ∧
      Shelf.listings.Share (backend.recorded.executionsOf inRegion)
        (backend.recorded.executionsOf inLongRegion) := by
  have hoverlaps : AthenaBackend.Overlaps (backend.regionOf inLongRegion)
      (inLongRegion.workGroup?.getD "") (backend.regionOf inRegion)
      (inRegion.workGroup?.getD "") := ⟨"b", by decide +kernel, by decide +kernel⟩
  exact ⟨⟨_, rfl⟩, ⟨_, rfl⟩, hoverlaps,
    ((AthenaBackend.shared_entries backend {}).1 rfl rfl).mpr (.shorter hoverlaps)⟩

def ranIn (id workGroup : String) : Execution :=
  { id := some id, sql := some "SELECT 1", workGroup := some workGroup
    status := some { state := some "SUCCEEDED", completed := some .epoch } }

/-- A service with executions of two workgroups, and with a scan limit for one of two others. -/
def mixed : Memory :=
  { executions := [ranIn "b1" "b/", ranIn "a1" "a"]
    scanLimits := [("x/w", 1000)]
    adHocResult := ⟨[⟨"v", "double"⟩], [[some "1"]]⟩ }

def limited : Target := statement "r" "x/w" "s3://a/" "SELECT 1"

def unlimited : Target := statement "r/x" "w" "s3://a/" "SELECT 2"

/-- A lookup serves the list that was taken in another region, and leaves out an execution that it
    finds without that list. A statement is started in a workgroup without a scan limit, since the
    limit of another workgroup in another region is kept. -/
theorem entries_collide :
    let s : Session Memory := .fresh backend.settings mixed
    (backend.regionOf inRegion ≠ backend.regionOf inLongRegion ∧
      Shelf.listings.Share (backend.recorded.executionsOf inRegion)
        (backend.recorded.executionsOf inLongRegion) ∧
      ((backend.executionsOf inLongRegion).run s).1.toOption =
        some [ranIn "b1" "b/", ranIn "a1" "a"] ∧
      ((backend.executionsOf inLongRegion).run ((backend.executionsOf inRegion).run s).2).1.toOption =
        some [ranIn "b1" "b/"]) ∧
    (backend.targetRegion limited ≠ backend.targetRegion unlimited ∧
      Shelf.scanLimits.Share
        (backend.recorded.scanLimit "r" (region.recorded "r") (backend.workGroupOf limited))
        (backend.recorded.scanLimit "r/x" (region.recorded "r/x") (backend.workGroupOf unlimited)) ∧
      ((backend.runTarget unlimited).run s).1.map (fun _ => ()) = .error (.noScanLimit "w") ∧
      ((backend.runTarget unlimited).run (backend.afterTarget s limited)).1.isOk) := by
  have hlists : backend.listingKey inRegion = backend.listingKey inLongRegion := by decide +kernel
  have hlimits : AthenaBackend.workGroupKey "r" (backend.workGroupOf limited) =
      AthenaBackend.workGroupKey "r/x" (backend.workGroupOf unlimited) := by decide +kernel
  let s : Session (Logged Memory) := .fresh backend.settings ({}, [])
  refine ⟨⟨by decide +kernel, ?_, by decide +kernel, by decide +kernel⟩, by decide +kernel, ?_,
    by decide +kernel, by decide +kernel⟩
  · exact (Shelf.share_iff (AthenaBackend.usesKey_executionsOf (s := s) (b := backend) rfl)
      (AthenaBackend.usesKey_executionsOf (s := s) (b := backend) rfl)).mpr hlists
  · exact (Shelf.share_iff (AthenaBackend.usesKey_scanLimit _ s)
      (AthenaBackend.usesKey_scanLimit _ s)).mpr hlimits

end Memory
end PanelSource
