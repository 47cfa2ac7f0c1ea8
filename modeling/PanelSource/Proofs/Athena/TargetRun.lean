import PanelSource.Proofs.Athena.Mirror
import PanelSource.Proofs.Athena.Remembered

/- What a target does, and runs of targets.

   A target is refused at once, finds nothing to read, or reads the rows of the executions that it
   has found (`runTarget_cases`). A run is any row of targets, one by one or in panel requests,
   while the world changes and what is remembered is lost at will (`TargetRun`). What every target
   keeps is kept in every run (`TargetRun.keeps`). -/
namespace PanelSource

/-! ## Requests that leave the caches alone -/

section
variable {W : Type}

/-- The log grows by calls of a kind. -/
def Adds (kind : Noted W → Prop) (w w' : Logged W) : Prop :=
  ∃ calls, w'.2 = w.2 ++ calls ∧ ∀ c ∈ calls, kind c

variable {kind kind' : Noted W → Prop} {w w' : Logged W} {s s' : Session (Logged W)}

instance : IsPreorder (Logged W) (Adds kind) where
  refl w := ⟨[], by simp, fun _ h => nomatch h⟩
  trans _ _ _ h h' := by
    obtain ⟨calls, hcalls, hkind⟩ := h
    obtain ⟨calls', hcalls', hkind'⟩ := h'
    refine ⟨calls ++ calls', by rw [hcalls', hcalls, List.append_assoc], fun c hc => ?_⟩
    exact (List.mem_append.mp hc).elim (hkind c) (hkind' c)

theorem Adds.mono (h : Adds kind w w') (hkind : ∀ c, kind c → kind' c) : Adds kind' w w' := by
  obtain ⟨calls, hcalls, hall⟩ := h
  exact ⟨calls, hcalls, fun c hc => hkind c (hall c hc)⟩

theorem Adds.later (h : Adds kind w w') : Later w w' := by
  obtain ⟨calls, hcalls, -⟩ := h
  exact ⟨calls, hcalls.symm⟩

theorem adds_of_eq (h : w'.2 = w.2) : Adds kind w w' := ⟨[], by simp [h], fun _ h => nomatch h⟩

/-- The world alone changes, and only calls of a kind are made. -/
def Asks (kind : Noted W → Prop) (s s' : Session (Logged W)) : Prop :=
  OnlyWorld s s' ∧ Adds kind s.world s'.world

instance : IsPreorder (Session (Logged W)) (Asks kind) where
  refl s := ⟨refl s, refl s.world⟩
  trans _ _ _ h h' := ⟨IsTrans.trans _ _ _ h.1 h'.1, IsTrans.trans _ _ _ h.2 h'.2⟩

theorem adds_noting {α : Type} {name : String} {call : Except AthenaError α → Call}
    {x : ServiceM W α} (h : ∀ w answer, kind ⟨name, w, call answer⟩) :
    Keeps (Adds kind) (noting name call x) := by
  intro w r w' hx
  refine ⟨_, (ends_noting.mp hx).2, fun c hc => ?_⟩
  rw [List.mem_singleton.mp hc]
  exact h _ _

theorem asks_call {α : Type} {x : ServiceM (Logged W) α} (h : Keeps (Adds kind) x) :
    Keeps (Asks kind) (Session.call x) := by
  intro s r s' hs
  obtain ⟨w, hx, rfl⟩ := ends_call.mp hs
  exact ⟨⟨w, rfl⟩, h hx⟩

theorem Asks.mono (h : Asks kind s s') (hkind : ∀ c, kind c → kind' c) : Asks kind' s s' :=
  ⟨h.1, h.2.mono hkind⟩

/-- One of the caches changes, and only calls of a kind are made. -/
def Fills {α : Type} (shelf : Shelf (Logged W) α) (kind : Noted W → Prop)
    (s s' : Session (Logged W)) : Prop :=
  shelf.Only s s' ∧ Adds kind s.world s'.world

instance {α : Type} {shelf : Shelf (Logged W) α} :
    IsPreorder (Session (Logged W)) (Fills shelf kind) where
  refl s := ⟨refl s, refl s.world⟩
  trans _ _ _ h h' := ⟨IsTrans.trans _ _ _ h.1 h'.1, IsTrans.trans _ _ _ h.2 h'.2⟩

def Noted.LooksUp (c : Noted W) : Prop := ∃ ids answer, c.call = .executions ids answer

def Noted.AsksLimit (c : Noted W) : Prop := ∃ workGroup answer, c.call = .scanLimit workGroup answer

def Noted.ReadsRows (c : Noted W) : Prop := ∃ id maxRows answer, c.call = .results id maxRows answer

def Noted.Starts (region : String) (statement : Statement) (c : Noted W) : Prop :=
  c.region = region ∧ ∃ answer, c.call = .start statement answer

def Noted.StartsNothing (c : Noted W) : Prop := ∀ statement answer, c.call ≠ .start statement answer

theorem Noted.AsksLimit.startsNothing {c : Noted W} (h : c.AsksLimit) : c.StartsNothing := by
  obtain ⟨_, _, hcall⟩ := h
  intro statement answer
  rw [hcall]
  exact Call.noConfusion

theorem Noted.LooksUp.startsNothing {c : Noted W} (h : c.LooksUp) : c.StartsNothing := by
  obtain ⟨_, _, hcall⟩ := h
  intro statement answer
  rw [hcall]
  exact Call.noConfusion

theorem Noted.ReadsRows.startsNothing {c : Noted W} (h : c.ReadsRows) : c.StartsNothing := by
  obtain ⟨_, _, _, hcall⟩ := h
  intro statement answer
  rw [hcall]
  exact Call.noConfusion

end

namespace AthenaBackend
variable {W : Type} {b : AthenaBackend W} {name : String} {service : RegionService W}

theorem asks_allExecutions {ids : List String} :
    Keeps (Asks Noted.LooksUp)
      (Session.call ((service.recorded name).allExecutions ids)) :=
  asks_call (Keeps.inBatches (fun _ => adds_noting fun _ _ => ⟨_, _, rfl⟩) _)

theorem asks_distinctInputs (t : Target) :
    Keeps (Asks Noted.LooksUp) (distinctInputs (service.recorded name) t) := by
  unfold distinctInputs
  simp only
  split
  · exact keeps_throw _
  · exact Keeps.bind asks_allExecutions fun _ => keeps_pure _

theorem asks_pause {kind : Noted W → Prop} : Keeps (Asks kind) b.recorded.pause := by
  intro s r s' h
  obtain ⟨-, rfl⟩ := (ends_iff_of_run rfl).mp h
  exact ⟨⟨_, rfl⟩, adds_of_eq rfl⟩

theorem asks_await (id : String) (attempts n : Nat) :
    Keeps (Asks Noted.LooksUp) (b.recorded.await (service.recorded name) id attempts n) := by
  induction n with
  | zero => exact keeps_throw _
  | succ n ih =>
    refine Keeps.bind (asks_call (adds_noting fun _ _ => ⟨_, _, rfl⟩)) fun records => ?_
    split
    · exact Keeps.bind asks_pause fun _ => ih
    · exact Keeps.bind asks_pause fun _ => ih
    · exact keeps_pure ()
    · exact keeps_throw _

theorem asks_startNew (t : Target) :
    Keeps (Asks fun c => c.LooksUp ∨ c.Starts name (b.statementOf t))
      (b.recorded.startNew (service.recorded name) t) := by
  refine Keeps.bind (asks_call (adds_noting fun _ answer => .inr ⟨rfl, answer, rfl⟩)) fun id => ?_
  refine Keeps.bind (fun _ _ _ h => ?_) fun _ => keeps_pure id
  exact (asks_await id _ _ h).mono fun _ => .inl

/-! ## What is remembered -/

/-- Only what is not remembered is asked for. -/
theorem fills_remembered {α : Type} {shelf : Shelf (Logged W) α} {kind : Noted W → Prop}
    {key : String} {ask : ServiceM (Session (Logged W)) α} {ttl : Span}
    (hask : Keeps (Asks kind) ask) :
    Keeps (Fills shelf kind) (b.recorded.remembered shelf key ask ttl) := by
  intro s r s' h
  obtain ⟨hcases, honly⟩ := remembered_cases (fun _ _ _ h => (hask h).1) h
  refine ⟨honly, ?_⟩
  cases hcases with
  | kept _ _ hworld _ =>
    rw [hworld]
    exact adds_of_eq rfl
  | asked hends hbefore hafter _ =>
    have hcalls := (hask hends).2
    rw [hbefore] at hcalls
    rw [hafter]
    exact hcalls
  | failed hends hbefore _ =>
    have hcalls := (hask hends).2
    rw [hbefore] at hcalls
    exact hcalls

theorem fills_scanLimit {workGroup : String} :
    Keeps (Fills Shelf.scanLimits Noted.AsksLimit)
      (b.recorded.scanLimit name (service.recorded name) workGroup) := by
  rw [scanLimit_eq]
  exact fills_remembered (asks_call (adds_noting fun _ _ => ⟨_, _, rfl⟩))

theorem fills_allRows {maxRows : Int} {ttl : Span} (done : ResultSet) (ids : List String) :
    Keeps (Fills Shelf.results Noted.ReadsRows)
      (b.recorded.allRows name (service.recorded name) maxRows ttl done ids) := by
  induction ids generalizing done with
  | nil => exact keeps_pure done
  | cons id ids ih =>
    refine Keeps.bind ?_ fun r => ih _
    rw [rows_eq]
    exact fills_remembered (asks_call (adds_noting fun _ _ => ⟨_, _, _, rfl⟩))

/-- Starting ends at the scan limit, or is remembered behind it. -/
theorem started_cases {t : Target} {maxRows : Int} {s s' : Session (Logged W)}
    {r : Except AthenaError String}
    (h : Ends (b.recorded.started name (service.recorded name) t maxRows) s r s') :
    (∃ answer,
        Ends (b.recorded.scanLimit name (service.recorded name) (b.workGroupOf t)) s answer s' ∧
        ∃ e, r = .error e) ∨
      ∃ n s₁, Ends (b.recorded.scanLimit name (service.recorded name) (b.workGroupOf t)) s
          (.ok (some n)) s₁ ∧
        Ends (b.recorded.remembered .started (rowsKey name t.sql maxRows)
          (b.recorded.startNew (service.recorded name) t) t.cacheDuration) s₁ r s' := by
  rw [started_eq] at h
  rcases ends_bind.mp h with ⟨none | n, s₁, hlimit, h⟩ | ⟨e, hlimit, rfl⟩
  · obtain ⟨rfl, rfl⟩ := ends_throw.mp h
    exact .inl ⟨_, hlimit, _, rfl⟩
  · exact .inr ⟨n, s₁, hlimit, h⟩
  · exact .inl ⟨_, hlimit, _, rfl⟩

/-! ## One target -/

variable (b) in
def targetRegion (t : Target) : String := b.settings.resolveRegion t.region

variable (b) in
/-- The executions that a target reads. -/
def source (name : String) (region : RegionService W) (t : Target) (maxRows : Int) :
    ServiceM (Session W) (List String) :=
  if isAdHoc t then do
    let id ← b.started name region t maxRows
    return [id]
  else distinctInputs region t

section
variable {region : RegionService W} {t : Target} {maxRows : Int}

theorem source_adHoc (h : isAdHoc t) : b.source name region t maxRows =
    (do return [← b.started name region t maxRows]) := if_pos h

theorem source_inputs (h : ¬ isAdHoc t) : b.source name region t maxRows =
    distinctInputs region t := if_neg h

end

theorem runTarget_eq (t : Target) : b.runTarget t = (do
    let (name, region) ← b.region t.region
    let maxRows ← ExceptT.mk (pure (b.maxRows t))
    let ids ← b.source name region t maxRows
    let r ← b.allRows name region maxRows t.cacheDuration {} ids
    ExceptT.mk (pure (Frame.convert t r))) := by
  unfold runTarget source
  refine bind_congr fun (name, region) => bind_congr fun maxRows => ?_
  split
  · simp only [bind_assoc, pure_bind]
  · rfl

/-- How a target ends. -/
inductive TargetEnds (b : AthenaBackend W) (t : Target) (s s' : Session (Logged W)) :
    Except AthenaError Outcome → Prop
  /-- There is no service for the region, or no row limit. -/
  | refused {e : AthenaError} {v : W}
      (hwhy : Ends (b.athena.region (b.targetRegion t)) s.world.1 (.error e) v ∨
        ∃ service, Ends (b.athena.region (b.targetRegion t)) s.world.1 (.ok service) v ∧
          b.maxRows t = .error e)
      (hafter : s' = { s with world := (v, s.world.2) }) : TargetEnds b t s s' (.error e)
  /-- There is nothing to read. -/
  | unread {service : RegionService W} {v : W} {maxRows : Int} {e : AthenaError}
      (hregion : Ends (b.athena.region (b.targetRegion t)) s.world.1 (.ok service) v)
      (hmax : b.maxRows t = .ok maxRows)
      (hsource : Ends (b.recorded.source (b.targetRegion t) (service.recorded (b.targetRegion t)) t
        maxRows) { s with world := (v, s.world.2) } (.error e) s') : TargetEnds b t s s' (.error e)
  | read {service : RegionService W} {v : W} {maxRows : Int} {ids : List String}
      {s₁ : Session (Logged W)} {rows : Except AthenaError ResultSet}
      (hregion : Ends (b.athena.region (b.targetRegion t)) s.world.1 (.ok service) v)
      (hmax : b.maxRows t = .ok maxRows)
      (hsource : Ends (b.recorded.source (b.targetRegion t) (service.recorded (b.targetRegion t)) t
        maxRows) { s with world := (v, s.world.2) } (.ok ids) s₁)
      (hrows : Ends (b.recorded.allRows (b.targetRegion t) (service.recorded (b.targetRegion t))
        maxRows t.cacheDuration {} ids) s₁ rows s') :
      TargetEnds b t s s' (rows.bind (Frame.convert t))

theorem runTarget_cases {t : Target} {s s' : Session (Logged W)} {r : Except AthenaError Outcome}
    (h : Ends (b.recorded.runTarget t) s r s') : TargetEnds b t s s' r := by
  rw [runTarget_eq] at h
  -- A target stops at the first step that fails: the region, the limit, the ids or the rows.
  rcases ends_bind.mp h with ⟨a, _, hregion, h⟩ | ⟨e, hregion, rfl⟩
  · obtain ⟨e | service, v, hservice, rfl, ha⟩ := ends_recorded hregion
    · cases ha
    cases ha
    rcases ends_bind.mp h with ⟨maxRows, _, hlimit, h⟩ | ⟨e, hlimit, rfl⟩
    · obtain ⟨hmax, rfl⟩ := ends_mk.mp hlimit
      rcases ends_bind.mp h with ⟨ids, s₁, hsource, h⟩ | ⟨e, hsource, rfl⟩
      · rcases ends_bind.mp h with ⟨rows, s₂, hrows, h⟩ | ⟨e, hrows, rfl⟩
        · obtain ⟨rfl, rfl⟩ := ends_mk.mp h
          exact .read hservice hmax.symm hsource hrows
        · exact .read hservice hmax.symm hsource hrows
      · exact .unread hservice hmax.symm hsource
    · obtain ⟨hmax, rfl⟩ := ends_mk.mp hlimit
      exact .refused (.inr ⟨service, hservice, hmax.symm⟩) rfl
  · obtain ⟨e' | service, v, hservice, rfl, he⟩ := ends_recorded hregion
    · cases he
      exact .refused (.inl hservice) rfl
    · cases he

/-! ## Runs -/

variable (b) in
def afterTarget (s : Session W) (t : Target) : Session W := ((b.runTarget t).run s).2

theorem run_outcome (t : Target) (s : Session W) : ((b.outcome t).run s).2 = b.afterTarget s t := by
  unfold outcome
  rw [StateT.run_bind]
  show (StateT.run (m := Id) _ (b.afterTarget s t)).2 = _
  split
  · rfl
  · rfl

theorem run_replyTo (reply : Reply) (ts : List Target) (s : Session W) :
    ((b.replyTo reply ts).run s).2 = ts.foldl b.afterTarget s := by
  induction ts generalizing reply s with
  | nil => rfl
  | cons t ts ih =>
    rw [List.foldl_cons, ← run_outcome]
    exact ih _ _

/-- The targets of a request that are run. -/
def visible (request : Request) : List Target := request.targets.filter fun t => !t.hide

theorem run_query (request : Request) (s : Session W) :
    ((b.panels.query request).run s).2 = (visible request).foldl b.afterTarget s :=
  run_replyTo _ _ _

/-- The sessions of a program that runs targets, with the targets that were run. The world changes
    at will, and any of what is remembered is lost at any time. -/
inductive TargetRun (b : AthenaBackend W) : List Target → Session (Logged W) → Prop
  | fresh (w : W) : TargetRun b [] (.fresh b.settings (w, []))
  | change {ts : List Target} {s : Session (Logged W)} (h : TargetRun b ts s) (w : W) :
      TargetRun b ts { s with world := (w, s.world.2) }
  | forget {ts : List Target} {s : Session (Logged W)} (h : TargetRun b ts s)
      {scanLimits : Cache (Option Int)} {started : Cache String} {results : Cache ResultSet}
      (hlimits : scanLimits.entries ⊆ s.scanLimits.entries)
      (hstarted : started.entries ⊆ s.started.entries)
      (hresults : results.entries ⊆ s.results.entries) :
      TargetRun b ts { s with scanLimits, started, results }
  | target {ts : List Target} {s : Session (Logged W)} (h : TargetRun b ts s) (t : Target)
      (hslash : '/' ∉ (b.targetRegion t).toList) :
      TargetRun b (ts ++ [t]) ((b.recorded.runTarget t).run s).2
  | query {ts : List Target} {s : Session (Logged W)} (h : TargetRun b ts s) (request : Request)
      (hslash : ∀ t ∈ visible request, '/' ∉ (b.targetRegion t).toList) :
      TargetRun b (ts ++ visible request) ((b.recorded.panels.query request).run s).2

section
variable {I : List Target → Session (Logged W) → Prop}

theorem foldl_keeps
    (htarget : ∀ {ts s t r s'}, '/' ∉ (b.targetRegion t).toList →
      Ends (b.recorded.runTarget t) s r s' → I ts s → I (ts ++ [t]) s')
    {more : List Target} (hslash : ∀ t ∈ more, '/' ∉ (b.targetRegion t).toList)
    {ts : List Target} {s : Session (Logged W)} (h : I ts s) :
    I (ts ++ more) (more.foldl b.recorded.afterTarget s) := by
  induction more generalizing ts s with
  | nil =>
    rw [List.append_nil]
    exact h
  | cons t more ih =>
    rw [List.append_cons, List.foldl_cons]
    have hfirst := htarget (hslash t List.mem_cons_self) (ends_self _ s) h
    exact ih (fun u hu => hslash u (List.mem_cons_of_mem t hu)) hfirst

/-- What holds at first, and is kept by every step, holds in every run. -/
theorem TargetRun.keeps (hfresh : ∀ w, I [] (.fresh b.settings (w, [])))
    (hchange : ∀ {ts s} (w : W), I ts s → I ts { s with world := (w, s.world.2) })
    (hforget : ∀ {ts s} {scanLimits : Cache (Option Int)} {started : Cache String}
      {results : Cache ResultSet}, scanLimits.entries ⊆ s.scanLimits.entries →
      started.entries ⊆ s.started.entries → results.entries ⊆ s.results.entries → I ts s →
      I ts { s with scanLimits, started, results })
    (htarget : ∀ {ts s t r s'}, '/' ∉ (b.targetRegion t).toList →
      Ends (b.recorded.runTarget t) s r s' → I ts s → I (ts ++ [t]) s')
    {ts : List Target} {s : Session (Logged W)} (h : TargetRun b ts s) : I ts s := by
  induction h with
  | fresh w => exact hfresh w
  | change _ w ih => exact hchange w ih
  | forget _ hlimits hstarted hresults ih => exact hforget hlimits hstarted hresults ih
  | target _ t hslash ih => exact htarget hslash (ends_self _ _) ih
  | query _ request hslash ih =>
    rw [run_query]
    exact foldl_keeps htarget hslash ih

end

/-- The sessions of the program itself, without a record of its calls. -/
inductive PlainTargetRun (b : AthenaBackend W) : List Target → Session W → Prop
  | fresh (w : W) : PlainTargetRun b [] (.fresh b.settings w)
  | change {ts : List Target} {s : Session W} (h : PlainTargetRun b ts s) (w : W) :
      PlainTargetRun b ts { s with world := w }
  | forget {ts : List Target} {s : Session W} (h : PlainTargetRun b ts s)
      {scanLimits : Cache (Option Int)} {started : Cache String} {results : Cache ResultSet}
      (hlimits : scanLimits.entries ⊆ s.scanLimits.entries)
      (hstarted : started.entries ⊆ s.started.entries)
      (hresults : results.entries ⊆ s.results.entries) :
      PlainTargetRun b ts { s with scanLimits, started, results }
  | target {ts : List Target} {s : Session W} (h : PlainTargetRun b ts s) (t : Target)
      (hslash : '/' ∉ (b.targetRegion t).toList) :
      PlainTargetRun b (ts ++ [t]) ((b.runTarget t).run s).2
  | query {ts : List Target} {s : Session W} (h : PlainTargetRun b ts s) (request : Request)
      (hslash : ∀ t ∈ visible request, '/' ∉ (b.targetRegion t).toList) :
      PlainTargetRun b (ts ++ visible request) ((b.panels.query request).run s).2

theorem foldl_unlogged (ts : List Target) (s : Session (Logged W)) :
    (ts.foldl b.recorded.afterTarget s).unlogged = ts.foldl b.afterTarget s.unlogged := by
  induction ts generalizing s with
  | nil => rfl
  | cons t ts ih =>
    rw [List.foldl_cons, List.foldl_cons, ih]
    unfold afterTarget
    rw [runTarget_recorded]

/-- Every run is a recorded one without its log. -/
theorem PlainTargetRun.recorded {ts : List Target} {p : Session W} (h : PlainTargetRun b ts p) :
    ∃ s, TargetRun b ts s ∧ s.unlogged = p := by
  induction h with
  | fresh w => exact ⟨_, .fresh w, rfl⟩
  | change _ w ih =>
    obtain ⟨s, hs, rfl⟩ := ih
    exact ⟨_, hs.change w, rfl⟩
  | forget _ hlimits hstarted hresults ih =>
    obtain ⟨s, hs, rfl⟩ := ih
    exact ⟨_, hs.forget hlimits hstarted hresults, rfl⟩
  | target _ t hslash ih =>
    obtain ⟨s, hs, rfl⟩ := ih
    refine ⟨_, hs.target t hslash, ?_⟩
    rw [runTarget_recorded]
  | query _ request hslash ih =>
    obtain ⟨s, hs, rfl⟩ := ih
    refine ⟨_, hs.query request hslash, ?_⟩
    rw [run_query, run_query, foldl_unlogged]

end AthenaBackend
end PanelSource
