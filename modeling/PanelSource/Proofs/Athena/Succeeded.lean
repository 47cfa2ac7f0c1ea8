import PanelSource.Proofs.Athena.Reuse
import PanelSource.Proofs.Athena.Waiting

/- Only executions that have succeeded are kept.

   What a target adds to the kept executions is one that it has started and whose wait ended well
   (`puts_runTarget`), so that in every run each of them has succeeded. A start that fails adds
   nothing. Behind the scan limit it leaves nothing under its key either, and the next target with
   that key starts its statement (`only_successes_kept`). -/
namespace PanelSource
namespace AthenaBackend
variable {W : Type} {b : AthenaBackend W} {name key : String} {service : RegionService W}
  {t t' : Target} {maxRows : Int} {s s' : Session (Logged W)}

/-! ## Starting -/

variable (b) in
/-- An execution was started for a statement in a region, and its wait ended well. -/
def Succeeded (region : String) (statement : Statement) (id : String) (log : List (Noted W)) :
    Prop :=
  ∃ earlier w waited,
    WaitEnds region id b.settings.waitAttempts b.settings.waitAttempts
      (earlier ++ [⟨region, w, .start statement (.ok id)⟩]) waited (.ok ()) ∧ waited <+: log

theorem Succeeded.later {region id : String} {statement : Statement} {w w' : Logged W}
    (h : b.Succeeded region statement id w.2) (hlater : Later w w') :
    b.Succeeded region statement id w'.2 := by
  obtain ⟨earlier, v, waited, hends, hprefix⟩ := h
  exact ⟨earlier, v, waited, hends, hprefix.trans hlater⟩

/-- A statement was asked to start between two logs. -/
def AsksStart (region : String) (statement : Statement) (w w' : Logged W) : Prop :=
  ∃ calls, w'.2 = w.2 ++ calls ∧ ∃ c ∈ calls, c.Starts region statement

theorem AsksStart.later {region : String} {statement : Statement} {w v w' : Logged W}
    (h : AsksStart region statement w v) (hlater : Later v w') :
    AsksStart region statement w w' := by
  obtain ⟨calls, hlog, c, hc, hstarts⟩ := h
  obtain ⟨more, hmore⟩ := hlater
  refine ⟨calls ++ more, ?_, c, List.mem_append_left more hc, hstarts⟩
  rw [← hmore, hlog, List.append_assoc]

theorem AsksStart.earlier {region : String} {statement : Statement} {w v w' : Logged W}
    (h : AsksStart region statement v w') (hlater : Later w v) :
    AsksStart region statement w w' := by
  obtain ⟨calls, hlog, c, hc, hstarts⟩ := h
  obtain ⟨before, hbefore⟩ := hlater
  refine ⟨before ++ calls, ?_, c, List.mem_append_right before hc, hstarts⟩
  rw [hlog, ← hbefore, List.append_assoc]

/-- A statement is asked to start, and what comes of that has succeeded. -/
theorem startNew_ends {r : Except AthenaError String}
    (h : Ends (b.recorded.startNew (service.recorded name) t) s r s') :
    AsksStart name (b.statementOf t) s.world s'.world ∧
      ∀ id, r = .ok id → b.Succeeded name (b.statementOf t) id s'.world.2 := by
  have hasks : ∀ {answer : Except AthenaError String} {s₁ : Session (Logged W)},
      Ends (Session.call ((service.recorded name).start (b.statementOf t))) s answer s₁ →
      AsksStart name (b.statementOf t) s.world s₁.world :=
    fun h => ⟨_, log_call h, _, List.mem_singleton_self _, rfl, _, rfl⟩
  rcases ends_bind.mp h with ⟨id, s₁, hstart, h⟩ | ⟨e, hstart, rfl⟩
  · rcases ends_bind.mp h with ⟨_, s₂, hwait, h⟩ | ⟨e, hwait, rfl⟩
    · obtain ⟨rfl, rfl⟩ := ends_pure.mp h
      refine ⟨(hasks hstart).later (asks_await _ _ _ hwait).2.later, fun id' hid => ?_⟩
      cases hid
      have hends := await_ends hwait
      rw [log_call hstart] at hends
      exact ⟨_, _, _, hends, List.prefix_rfl⟩
    · exact ⟨(hasks hstart).later (asks_await _ _ _ hwait).2.later, fun _ hid => nomatch hid⟩
  · exact ⟨hasks hstart, fun _ hid => nomatch hid⟩

/-! ## What a target keeps -/

variable (b) in
/-- An entry for the statement of a target, made when its execution had succeeded. -/
structure KeptFor (t : Target) (e : CacheEntry String) (log : List (Noted W)) : Prop where
  adHoc : isAdHoc t
  key : ∃ maxRows, b.maxRows t = .ok maxRows ∧ e.key = rowsKey (b.targetRegion t) t.sql maxRows
  succeeded : b.Succeeded (b.targetRegion t) (b.statementOf t) e.value log

variable (b) in
/-- No execution is new but that of a target. -/
structure Puts (t : Target) (s s' : Session (Logged W)) : Prop where
  later : Later s.world s'.world
  entries : ∀ e ∈ s'.started.entries, e ∈ s.started.entries ∨ b.KeptFor t e s'.world.2

theorem KeptFor.later {e : CacheEntry String} {w w' : Logged W} (h : b.KeptFor t e w.2)
    (hlater : Later w w') : b.KeptFor t e w'.2 :=
  ⟨h.adHoc, h.key, h.succeeded.later hlater⟩

theorem puts_of_kept (hlater : Later s.world s'.world)
    (hkept : s'.started.entries ⊆ s.started.entries) : b.Puts t s s' :=
  ⟨hlater, fun _ he => .inl (hkept he)⟩

theorem Puts.trans {s₁ : Session (Logged W)} (h : b.Puts t s s₁) (h' : b.Puts t s₁ s') :
    b.Puts t s s' := by
  refine ⟨h.later.trans h'.later, fun e he => ?_⟩
  rcases h'.entries e he with he | hnew
  · exact (h.entries e he).imp_right fun hnew => hnew.later h'.later
  · exact .inr hnew

theorem puts_scanLimit {workGroup : String} {r : Except AthenaError (Option Int)}
    (h : Ends (b.recorded.scanLimit name (service.recorded name) workGroup) s r s') :
    b.Puts t s s' := by
  obtain ⟨⟨_, _, rfl⟩, hadds⟩ := fills_scanLimit h
  exact puts_of_kept hadds.later (List.Subset.refl _)

theorem puts_allRows {ttl : Span} {done : ResultSet} {ids : List String}
    {r : Except AthenaError ResultSet}
    (h : Ends (b.recorded.allRows name (service.recorded name) maxRows ttl done ids) s r s') :
    b.Puts t s s' := by
  obtain ⟨⟨_, _, rfl⟩, hadds⟩ := fills_allRows done ids h
  exact puts_of_kept hadds.later (List.Subset.refl _)

section
variable {r : Except AthenaError String} (hadhoc : isAdHoc t) (hmax : b.maxRows t = .ok maxRows)
include hadhoc hmax

/-- Only an execution that has succeeded is remembered. -/
theorem puts_remembered (h : Ends (b.recorded.remembered .started
      (rowsKey (b.targetRegion t) t.sql maxRows)
      (b.recorded.startNew (service.recorded (b.targetRegion t)) t) t.cacheDuration) s r s') :
    b.Puts t s s' := by
  have hlater := (fills_remembered (asks_startNew t) h).2.later
  cases (remembered_cases (fun _ _ _ h => (asks_startNew t h).1) h).1 with
  | kept _ _ _ hkept => exact puts_of_kept hlater hkept
  | @asked id s₁ s₂ hask _ hafter hkept =>
    have hlog : s'.world.2 = s₂.world.2 := by
      rw [hafter]
      rfl
    refine ⟨hlater, fun e he => (hkept e he).imp And.left fun ⟨hkey, hvalue⟩ => ?_⟩
    refine ⟨hadhoc, ⟨maxRows, hmax, hkey⟩, ?_⟩
    rw [hlog, hvalue]
    exact (startNew_ends hask).2 id rfl
  | failed _ _ hkept => exact puts_of_kept hlater fun e he => (hkept e he).1

theorem puts_started (h : Ends (b.recorded.started (b.targetRegion t)
      (service.recorded (b.targetRegion t)) t maxRows) s r s') : b.Puts t s s' := by
  rcases started_cases h with ⟨answer, hlimit, -⟩ | ⟨n, s₁, hlimit, hrest⟩
  · exact puts_scanLimit hlimit
  · exact (puts_scanLimit hlimit).trans (puts_remembered hadhoc hmax hrest)

end

theorem puts_source {r : Except AthenaError (List String)} (hmax : b.maxRows t = .ok maxRows)
    (h : Ends (b.recorded.source (b.targetRegion t) (service.recorded (b.targetRegion t)) t maxRows)
      s r s') : b.Puts t s s' := by
  by_cases hadhoc : isAdHoc t
  · rw [source_adHoc hadhoc] at h
    obtain ⟨answer, hstarted, -⟩ := ends_map.mp h
    exact puts_started hadhoc hmax hstarted
  · rw [source_inputs hadhoc] at h
    obtain ⟨⟨_, rfl⟩, hadds⟩ := asks_distinctInputs t h
    exact puts_of_kept hadds.later (List.Subset.refl _)

/-- A target keeps no execution but its own, and that only when it has succeeded. -/
theorem puts_runTarget {r : Except AthenaError Outcome} (h : Ends (b.recorded.runTarget t) s r s') :
    b.Puts t s s' := by
  have hregion : ∀ v, b.Puts t s { s with world := (v, s.world.2) } :=
    fun v => puts_of_kept List.prefix_rfl (List.Subset.refl _)
  cases runTarget_cases h with
  | refused _ hafter =>
    rw [hafter]
    exact hregion _
  | unread _ hmax hsource => exact (hregion _).trans (puts_source hmax hsource)
  | read _ hmax hsource hrows =>
    exact (hregion _).trans ((puts_source hmax hsource).trans (puts_allRows hrows))

/-! ## Starts that fail, and starting again -/

def Gone (key : String) (s : Session (Logged W)) : Prop := ∀ e ∈ s.started.entries, e.key ≠ key

variable (b) in
/-- The workgroup of a target has a scan limit, kept or asked for. -/
def HasLimit (service : RegionService W) (t : Target) (s : Session (Logged W)) : Prop :=
  ∃ n s₁, Ends (b.recorded.scanLimit (b.targetRegion t) (service.recorded (b.targetRegion t))
    (b.workGroupOf t)) s (.ok (some n)) s₁

variable (b) in
/-- A target gets as far as its statement: to the service of its region, and past the scan limit. -/
def Admitted (t : Target) (s : Session (Logged W)) : Prop :=
  ∃ service v, Ends (b.athena.region (b.targetRegion t)) s.world.1 (.ok service) v ∧
    b.HasLimit service t { s with world := (v, s.world.2) }

section
variable {r : Except AthenaError String}

theorem started_behind_limit (hlimit : b.HasLimit service t s)
    (h : Ends (b.recorded.started (b.targetRegion t) (service.recorded (b.targetRegion t)) t
      maxRows) s r s') :
    ∃ s₁, Later s.world s₁.world ∧ s₁.started = s.started ∧
      Ends (b.recorded.remembered .started (rowsKey (b.targetRegion t) t.sql maxRows)
        (b.recorded.startNew (service.recorded (b.targetRegion t)) t) t.cacheDuration) s₁ r s' := by
  obtain ⟨n, s₁, hlimit⟩ := hlimit
  obtain ⟨honly, hadds⟩ := fills_scanLimit hlimit
  have hstarted : s₁.started = s.started := by
    obtain ⟨_, _, rfl⟩ := honly
    rfl
  refine ⟨s₁, hadds.later, hstarted, ?_⟩
  rw [started_eq] at h
  exact (ends_bind_of_run hlimit).mp h

/-- A start that fails keeps nothing, and behind the scan limit it has found nothing either. -/
theorem started_fails {e : AthenaError}
    (h : Ends (b.recorded.started (b.targetRegion t) (service.recorded (b.targetRegion t)) t
      maxRows) s (.error e) s') :
    s'.started.entries ⊆ s.started.entries ∧
      (b.HasLimit service t s → Gone (rowsKey (b.targetRegion t) t.sql maxRows) s') := by
  by_cases hlimit : b.HasLimit service t s
  · -- It was asked to start, so that the look for a kept execution was in vain.
    obtain ⟨s₁, -, hstarted, hrest⟩ := started_behind_limit hlimit h
    generalize hr : (Except.error e : Except AthenaError String) = r at hrest
    cases (remembered_cases (fun _ _ _ h => (asks_startNew t h).1) hrest).1 with
    | kept => cases hr
    | asked => cases hr
    | failed _ _ hkept =>
      rw [← hstarted]
      exact ⟨fun e he => (hkept e he).1, fun _ e he => (hkept e he).2⟩
  · -- It failed at the scan limit, where executions are not looked at.
    rcases started_cases h with ⟨answer, hends, -⟩ | ⟨n, s₁, hends, -⟩
    · obtain ⟨⟨_, _, rfl⟩, -⟩ := fills_scanLimit hends
      exact ⟨List.Subset.refl _, fun h => absurd h hlimit⟩
    · exact absurd ⟨n, s₁, hends⟩ hlimit

/-- What is not kept is started, behind the scan limit. -/
theorem asksStart_started (hlimit : b.HasLimit service t s)
    (hgone : Gone (rowsKey (b.targetRegion t) t.sql maxRows) s)
    (h : Ends (b.recorded.started (b.targetRegion t) (service.recorded (b.targetRegion t)) t
      maxRows) s r s') : AsksStart (b.targetRegion t) (b.statementOf t) s.world s'.world := by
  obtain ⟨s₁, hlater, hstarted, hrest⟩ := started_behind_limit hlimit h
  refine AsksStart.earlier ?_ hlater
  cases (remembered_cases (fun _ _ _ h => (asks_startNew t h).1) hrest).1 with
  | @kept e he hkey =>
    have he : e ∈ s₁.started.entries := he
    rw [hstarted] at he
    exact absurd hkey (hgone e he)
  | asked hask hbefore hafter =>
    have hasks := (startNew_ends hask).1
    rw [hbefore] at hasks
    rw [hafter]
    exact hasks
  | failed hask hbefore =>
    have hasks := (startNew_ends hask).1
    rw [hbefore] at hasks
    exact hasks

end

theorem asksStart_source {r : Except AthenaError (List String)} (hadhoc : isAdHoc t)
    (hlimit : b.HasLimit service t s)
    (hgone : Gone (rowsKey (b.targetRegion t) t.sql maxRows) s)
    (h : Ends (b.recorded.source (b.targetRegion t) (service.recorded (b.targetRegion t)) t maxRows)
      s r s') : AsksStart (b.targetRegion t) (b.statementOf t) s.world s'.world := by
  rw [source_adHoc hadhoc] at h
  obtain ⟨answer, hstarted, -⟩ := ends_map.mp h
  exact asksStart_started hlimit hgone hstarted

/-- A target that gets to its statement starts it, unless an execution is kept for it. -/
theorem asksStart_runTarget {r : Except AthenaError Outcome} (hadhoc : isAdHoc t)
    (hmax : b.maxRows t = .ok maxRows) (hadmitted : b.Admitted t s)
    (hgone : Gone (rowsKey (b.targetRegion t) t.sql maxRows) s)
    (h : Ends (b.recorded.runTarget t) s r s') :
    AsksStart (b.targetRegion t) (b.statementOf t) s.world s'.world := by
  obtain ⟨service, v, hregion, hlimit⟩ := hadmitted
  -- Asking for the region changes the world alone, and no entry.
  have hgone₀ : Gone (rowsKey (b.targetRegion t) t.sql maxRows)
    { s with world := (v, s.world.2) } := hgone
  cases runTarget_cases h with
  | refused hwhy =>
    rcases hwhy with hregion' | ⟨_, -, hmax'⟩
    · cases ((ends_iff_of_run hregion).mp hregion').1
    · rw [hmax] at hmax'
      cases hmax'
  | unread hregion' hmax' hsource =>
    obtain ⟨hservice, rfl⟩ := (ends_iff_of_run hregion).mp hregion'
    cases hservice
    rw [hmax] at hmax'
    cases hmax'
    have hasks := asksStart_source hadhoc hlimit hgone₀ hsource
    exact hasks
  | read hregion' hmax' hsource hrows =>
    obtain ⟨hservice, rfl⟩ := (ends_iff_of_run hregion).mp hregion'
    cases hservice
    rw [hmax] at hmax'
    cases hmax'
    have hasks := asksStart_source hadhoc hlimit hgone₀ hsource
    exact hasks.later (fills_allRows _ _ hrows).2.later

/-! ## Runs -/

/-- The sessions that a program reaches from another one. The world and the listings change at will,
    any of what else is remembered is lost at any time, and targets of a kind are run, one by one or
    in panel requests. -/
inductive Reaches (b : AthenaBackend W) (kind : Target → Prop) (s₀ : Session (Logged W)) :
    Session (Logged W) → Prop
  | here : Reaches b kind s₀ s₀
  | change {s : Session (Logged W)} (h : Reaches b kind s₀ s) (w : W) (listings : Cache Listing) :
      Reaches b kind s₀ { s with listings, world := (w, s.world.2) }
  | forget {s : Session (Logged W)} (h : Reaches b kind s₀ s) {scanLimits : Cache (Option Int)}
      {started : Cache String} {results : Cache ResultSet}
      (hlimits : scanLimits.entries ⊆ s.scanLimits.entries)
      (hstarted : started.entries ⊆ s.started.entries)
      (hresults : results.entries ⊆ s.results.entries) :
      Reaches b kind s₀ { s with scanLimits, started, results }
  | target {s : Session (Logged W)} (h : Reaches b kind s₀ s) (t : Target) (ht : kind t) :
      Reaches b kind s₀ (b.recorded.afterTarget s t)
  | query {s : Session (Logged W)} (h : Reaches b kind s₀ s) (request : Request)
      (hkind : ∀ t ∈ visible request, kind t) :
      Reaches b kind s₀ ((b.recorded.panels.query request).run s).2

section
variable {kind : Target → Prop} {s₀ : Session (Logged W)} {I : Session (Logged W) → Prop}

theorem afterTargets_keeps
    (htarget : ∀ {s t s'}, kind t → b.Puts t s s' → I s → I s')
    {ts : List Target} (hkind : ∀ t ∈ ts, kind t) {s : Session (Logged W)} (h : I s) :
    I (ts.foldl b.recorded.afterTarget s) := by
  induction ts generalizing s with
  | nil => exact h
  | cons t ts ih =>
    obtain ⟨ht, hts⟩ := List.forall_mem_cons.mp hkind
    exact ih hts (htarget ht (puts_runTarget (ends_self _ s)) h)

/-- What is kept by changes, by losses, and by what targets put in, is kept in every run. -/
theorem Reaches.keeps (h : Reaches b kind s₀ s)
    (hless : ∀ s s', s'.world.2 = s.world.2 → s'.started.entries ⊆ s.started.entries → I s → I s')
    (htarget : ∀ {s t s'}, kind t → b.Puts t s s' → I s → I s') (h₀ : I s₀) : I s := by
  induction h with
  | here => exact h₀
  | @change s _ w listings ih => exact hless s _ rfl (List.Subset.refl _) ih
  | @forget s _ _ _ _ _ hstarted _ ih => exact hless s _ rfl hstarted ih
  | target _ t ht ih => exact htarget ht (puts_runTarget (ends_self _ _)) ih
  | query _ request hkind ih =>
    rw [run_query]
    exact afterTargets_keeps htarget hkind ih

end

/-- In every run, each execution that is kept has succeeded. -/
theorem Reaches.keptFor {w : W} (h : Reaches b (fun _ => True) (.fresh b.settings (w, [])) s) :
    ∀ e ∈ s.started.entries, ∃ t, b.KeptFor t e s.world.2 := by
  refine h.keeps (I := fun s => ∀ e ∈ s.started.entries, ∃ t, b.KeptFor t e s.world.2) ?_ ?_ ?_
  · intro s s' hlog hsub hkept e he
    rw [hlog]
    exact hkept e (hsub he)
  · intro s t s' _ hputs hkept e he
    rcases hputs.entries e he with he | hnew
    · obtain ⟨u, hu⟩ := hkept e he
      exact ⟨u, hu.later hputs.later⟩
    · exact ⟨t, hnew⟩
  · intro e he
    cases he

variable (b) in
/-- A target has no statement that would be kept under a key. -/
def Avoids (key : String) (t : Target) : Prop :=
  isAdHoc t → ∀ maxRows, b.maxRows t = .ok maxRows →
    rowsKey (b.targetRegion t) t.sql maxRows ≠ key

/-- What is not kept under a key is not kept there before a target with that key is run. -/
theorem Reaches.gone {s₀ : Session (Logged W)} (h : Reaches b (b.Avoids key) s₀ s)
    (h₀ : Gone key s₀) : Gone key s := by
  refine h.keeps (I := Gone key) (fun _ _ _ hsub hgone e he => hgone e (hsub he)) ?_ h₀
  intro s t s' havoids hputs hgone e he
  rcases hputs.entries e he with he | ⟨hadhoc, ⟨maxRows, hmax, hkey⟩, -⟩
  · exact hgone e he
  · rw [hkey]
    exact havoids hadhoc maxRows hmax

variable (b) in
/-- The next target with this key asks for its statement to be started, if it gets that far. -/
def StartsAgain (t : Target) (key : String) (s : Session (Logged W)) : Prop :=
  ∀ {s₁ s₂ : Session (Logged W)} {t' : Target} {r : Except AthenaError Outcome},
    Reaches b (b.Avoids key) s s₁ → b.Alike t t' → b.Admitted t' s₁ →
    Ends (b.recorded.runTarget t') s₁ r s₂ →
    AsksStart (b.targetRegion t') (b.statementOf t') s₁.world s₂.world

theorem startsAgain_of_gone (hadhoc : isAdHoc t) (hmax : b.maxRows t = .ok maxRows)
    (hgone : Gone (rowsKey (b.targetRegion t) t.sql maxRows) s) :
    b.StartsAgain t (rowsKey (b.targetRegion t) t.sql maxRows) s := by
  intro s₁ s₂ t' r hreaches halike hadmitted hends
  have hgone₁ := hreaches.gone hgone
  rw [← halike.region, ← halike.sql] at hgone₁
  have hadhoc' : isAdHoc t' := by
    unfold isAdHoc
    rw [halike.sql]
    exact hadhoc
  exact asksStart_runTarget hadhoc' (halike.maxRows.trans hmax) hadmitted hgone₁ hends

/-- **Only executions that have succeeded are kept.** A wait makes no more checks than are allowed
    and ends as the first reply says that is not pending. In every run, whatever the service does and
    whatever is lost, each kept execution was started and its wait ended well. A start that fails
    keeps nothing. Where the workgroup has a scan limit, nothing is kept under its key after that;
    and if nothing is, the next target with this key starts its statement again. -/
theorem only_successes_kept (b : AthenaBackend W) :
    (∀ {name id : String} {service : RegionService W} {s s' : Session (Logged W)}
        {r : Except AthenaError Unit},
      Ends (b.recorded.await (service.recorded name) id b.settings.waitAttempts
        b.settings.waitAttempts) s r s' →
      WaitEnds name id b.settings.waitAttempts b.settings.waitAttempts s.world.2 s'.world.2 r) ∧
    (∀ {w : W} {s : Session (Logged W)},
      Reaches b (fun _ => True) (.fresh b.settings (w, [])) s →
      ∀ e ∈ s.started.entries, ∃ t, b.KeptFor t e s.world.2) ∧
    ∀ {service : RegionService W} {t : Target} {maxRows : Int} {s s' : Session (Logged W)}
        {e : AthenaError}, isAdHoc t → b.maxRows t = .ok maxRows →
      Ends (b.recorded.started (b.targetRegion t) (service.recorded (b.targetRegion t)) t maxRows)
        s (.error e) s' →
      s'.started.entries ⊆ s.started.entries ∧
      (b.HasLimit service t s → Gone (rowsKey (b.targetRegion t) t.sql maxRows) s') ∧
      (Gone (rowsKey (b.targetRegion t) t.sql maxRows) s' →
        b.StartsAgain t (rowsKey (b.targetRegion t) t.sql maxRows) s') := by
  refine ⟨await_ends, Reaches.keptFor, fun hadhoc hmax h => ?_⟩
  obtain ⟨hsub, hgone⟩ := started_fails h
  exact ⟨hsub, hgone, startsAgain_of_gone hadhoc hmax⟩

theorem hasLimit_of_run (n : Int) (h : ((b.recorded.scanLimit (b.targetRegion t)
      (service.recorded (b.targetRegion t)) (b.workGroupOf t)).run s).1 = .ok (some n)) :
    b.HasLimit service t s := by
  have hends := ends_self (b.recorded.scanLimit (b.targetRegion t)
    (service.recorded (b.targetRegion t)) (b.workGroupOf t)) s
  rw [h] at hends
  exact ⟨n, _, hends⟩

theorem not_asksStart {region : String} {statement : Statement} {w w' : Logged W}
    (h : ¬ (w'.2.drop w.2.length).any (isStartOf region statement)) :
    ¬ AsksStart region statement w w' := by
  rintro ⟨calls, hlog, c, hc, hregion, answer, hcall⟩
  rw [hlog, List.drop_left] at h
  refine h (List.any_eq_true.mpr ⟨c, hc, ?_⟩)
  unfold isStartOf
  rw [hcall]
  simp [hregion]

end AthenaBackend

/-! ## A wait in vain, and a workgroup without a limit for a while -/

namespace Memory

/-- A backend that asks for every scan limit and gives up a wait after two checks. -/
def hasty : AthenaBackend Memory := ⟨athena, { waitAttempts := 2, workGroupCacheSeconds := 0 }⟩

theorem admitted_of_run {s : Session (Logged Memory)} {t : Target} (n : Int)
    (h : ((hasty.recorded.scanLimit (hasty.targetRegion t)
      (region.recorded (hasty.targetRegion t)) (hasty.workGroupOf t)).run
      { s with world := ({ s.world.1 with
        regions := hasty.targetRegion t :: s.world.1.regions }, s.world.2) }).1 = .ok (some n)) :
    hasty.Admitted t s :=
  ⟨region, _, rfl, AthenaBackend.hasLimit_of_run n h⟩

def startIn (s : Session (Logged Memory)) : Except AthenaError String × Session (Logged Memory) :=
  (hasty.recorded.started (hasty.targetRegion inPrimary)
    (region.recorded (hasty.targetRegion inPrimary)) inPrimary 1000).run s

def beforeWait : Session (Logged Memory) :=
  .fresh hasty.settings ({ twoGroups with runningChecks := 3 }, [])

def afterWait : Session (Logged Memory) := (startIn beforeWait).2

/-- A start whose execution runs for too long fails, and the statement is started again. -/
theorem only_successes_kept_afterWait :
    (startIn beforeWait).1 = .error (.queryTimeout "started-0" 2) ∧
      AthenaBackend.Gone (AthenaBackend.rowsKey (hasty.targetRegion inPrimary) inPrimary.sql 1000)
        afterWait ∧
      hasty.Admitted inPrimary afterWait ∧
      AthenaBackend.AsksStart (hasty.targetRegion inPrimary) (hasty.statementOf inPrimary)
        afterWait.world (hasty.recorded.afterTarget afterWait inPrimary).world := by
  have hfails : (startIn beforeWait).1 = .error (.queryTimeout "started-0" 2) := by decide +kernel
  have hends : Ends (hasty.recorded.started (hasty.targetRegion inPrimary)
      (region.recorded (hasty.targetRegion inPrimary)) inPrimary 1000) beforeWait
      (.error (.queryTimeout "started-0" 2)) afterWait := by
    rw [← hfails]
    exact ends_self _ _
  have hlimit : hasty.HasLimit region inPrimary beforeWait :=
    AthenaBackend.hasLimit_of_run 1000 (by decide +kernel)
  have hadmitted : hasty.Admitted inPrimary afterWait :=
    admitted_of_run 1000 (by decide +kernel)
  obtain ⟨-, hgone, hagain⟩ := (AthenaBackend.only_successes_kept hasty).2.2
    (by decide +kernel) (by decide +kernel) hends
  exact ⟨hfails, hgone hlimit, hadmitted,
    hagain (hgone hlimit) .here ⟨rfl, rfl, rfl⟩ hadmitted (ends_self _ _)⟩

def limits (l : List (String × Int)) (s : Session (Logged Memory)) : Session (Logged Memory) :=
  { s with world := ({ s.world.1 with scanLimits := l }, s.world.2) }

theorem reaches_limits {kind : Target → Prop} {s₀ s : Session (Logged Memory)}
    (h : AthenaBackend.Reaches hasty kind s₀ s) (l : List (String × Int)) :
    AthenaBackend.Reaches hasty kind s₀ (limits l s) := h.change _ s.listings

def afterSuccess : Session (Logged Memory) :=
  hasty.recorded.afterTarget (.fresh hasty.settings (twoGroups, [])) inPrimary

/-- The workgroup has no limit any more. -/
def withoutLimit : Session (Logged Memory) := limits [] afterSuccess

/-- The statement was refused, and then the workgroup has its limit again. -/
def afterRefusal : Session (Logged Memory) := hasty.recorded.afterTarget withoutLimit inPrimary

def withLimit : Session (Logged Memory) := limits twoGroups.scanLimits afterRefusal

/-- A start that fails at the scan limit leaves an execution that has succeeded earlier, and a later
    target like it reads that one. -/
theorem reuse_after_failure :
    AthenaBackend.Reaches hasty (fun _ => True) (.fresh hasty.settings (twoGroups, []))
        withoutLimit ∧
      ((hasty.recorded.runTarget inPrimary).run withoutLimit).1.map (fun _ => ()) =
        .error (.noScanLimit "primary") ∧
      AthenaBackend.Reaches hasty (hasty.Avoids (AthenaBackend.rowsKey
        (hasty.targetRegion inPrimary) inPrimary.sql 1000)) afterRefusal withLimit ∧
      hasty.Admitted inPrimary withLimit ∧
      ((hasty.recorded.runTarget inPrimary).run withLimit).1.isOk ∧
      ¬ AthenaBackend.AsksStart (hasty.targetRegion inPrimary) (hasty.statementOf inPrimary)
        withLimit.world (hasty.recorded.afterTarget withLimit inPrimary).world := by
  refine ⟨reaches_limits (.target .here inPrimary trivial) [], by decide +kernel,
    reaches_limits .here _, ?_, by decide +kernel, ?_⟩
  · exact admitted_of_run 1000 (by decide +kernel)
  · exact AthenaBackend.not_asksStart (by decide +kernel)

end Memory
end PanelSource
