import PanelSource.Proofs.Athena.Listing
import PanelSource.Proofs.Athena.TargetRun

/- No statement is started without a scan limit.

   What is kept about the scan limit of a workgroup is what the service has last answered about it
   (`Guarded`). A target asks for the limit before it starts a statement, or finds it kept, and ends
   there if there is none (`Gate`). So in every run the last answer in front of a start is a limit
   for its workgroup in its region (`starts_behind_limit`). -/
namespace PanelSource

section
variable {W : Type} {region region' workGroup workGroup' : String} {log calls : List (Noted W)}
  {c : Noted W}

/-- The answer of a call about the scan limit of a workgroup. -/
def Noted.limitAnswer? (region workGroup : String) (c : Noted W) :
    Option (Except AthenaError (Option Int)) :=
  match c.call with
  | .scanLimit asked answer => if c.region = region ∧ asked = workGroup then some answer else none
  | _ => none

/-- What the service has last answered about the scan limit of a workgroup. -/
def lastLimit (region workGroup : String) (log : List (Noted W)) :
    Option (Except AthenaError (Option Int)) :=
  (log.filterMap (Noted.limitAnswer? region workGroup)).getLast?

/-- The service has answered that a workgroup has a scan limit, and nothing else since then. -/
def Limited (region workGroup : String) (log : List (Noted W)) : Prop :=
  ∃ n, lastLimit region workGroup log = some (.ok (some n))

instance : Decidable (Limited region workGroup log) :=
  match h : lastLimit region workGroup log with
  | some (.ok (some n)) => .isTrue ⟨n, h⟩
  | none | some (.error _) | some (.ok none) =>
    .isFalse fun ⟨n, hn⟩ => by rw [h] at hn; simp at hn

/-- Every statement was started in a workgroup that had a scan limit. -/
def Gated (log : List (Noted W)) : Prop :=
  ∀ earlier c later statement answer, log = earlier ++ c :: later →
    c.call = .start statement answer → Limited c.region statement.workGroup earlier

/-- A call that reads what there is. -/
def Noted.OnlyReads (c : Noted W) : Prop := c.LooksUp ∨ c.ReadsRows

theorem limitAnswer?_eq_none (h : ¬ c.AsksLimit) : c.limitAnswer? region workGroup = none := by
  unfold Noted.limitAnswer?
  split
  · rename_i asked answer hcall
    exact absurd ⟨asked, answer, hcall⟩ h
  · rfl

theorem lastLimit_append (h : ∀ c ∈ calls, c.limitAnswer? region workGroup = none) :
    lastLimit region workGroup (log ++ calls) = lastLimit region workGroup log := by
  unfold lastLimit
  rw [List.filterMap_append, List.filterMap_eq_nil_iff.mpr h, List.append_nil]

theorem lastLimit_concat {answer : Except AthenaError (Option Int)}
    (h : c.limitAnswer? region workGroup = some answer) :
    lastLimit region workGroup (log ++ [c]) = some answer := by
  unfold lastLimit
  rw [List.filterMap_append, List.filterMap_cons_some h, List.filterMap_nil]
  exact List.getLast?_concat

/-- Calls after one another: those in front are fine, and so are those behind them. -/
theorem Gated.append (h : Gated log) (hcalls : ∀ earlier c later statement answer,
      calls = earlier ++ c :: later → c.call = .start statement answer →
      Limited c.region statement.workGroup (log ++ earlier)) : Gated (log ++ calls) := by
  intro earlier c later statement answer heq hstart
  rcases List.append_eq_append_iff.mp heq with ⟨between, rfl, hcalls'⟩ | ⟨between, rfl, hcons⟩
  · exact hcalls between c later statement answer hcalls' hstart
  · cases between with
    | nil =>
      rw [List.append_nil] at h
      have hlimited := hcalls [] c later statement answer hcons.symm hstart
      rw [List.append_nil, List.append_nil] at hlimited
      exact hlimited
    | cons d between =>
      obtain ⟨rfl, -⟩ := List.cons.inj hcons
      exact h earlier c between statement answer rfl hstart

theorem Noted.OnlyReads.startsNothing (h : c.OnlyReads) : c.StartsNothing :=
  h.elim Noted.LooksUp.startsNothing Noted.ReadsRows.startsNothing

theorem Noted.OnlyReads.not_asksLimit (h : c.OnlyReads) : ¬ c.AsksLimit := by
  rintro ⟨_, _, hlimit⟩
  rcases h with ⟨_, _, hcall⟩ | ⟨_, _, _, hcall⟩
  · rw [hcall] at hlimit
    cases hlimit
  · rw [hcall] at hlimit
    cases hlimit

theorem Gated.of_adds {kind : Noted W → Prop} {w w' : Logged W} (h : Gated w.2)
    (hadds : Adds kind w w')
    (hkind : ∀ c, kind c → c.StartsNothing) : Gated w'.2 := by
  obtain ⟨calls, hlog, hcalls⟩ := hadds
  rw [hlog]
  refine h.append fun earlier c later statement answer heq hstart => ?_
  have hc : c ∈ calls := heq ▸ List.mem_append_right _ List.mem_cons_self
  exact absurd hstart (hkind c (hcalls c hc) statement answer)

end

namespace AthenaBackend
variable {W : Type} {b : AthenaBackend W} {name : String} {service : RegionService W} {t : Target}
  {s s' : Session (Logged W)}

/-- What is kept about scan limits is what the service has last answered. -/
def Guarded (s : Session (Logged W)) : Prop :=
  ∀ e ∈ s.scanLimits.entries, ∃ region workGroup, '/' ∉ region.toList ∧
    e.key = workGroupKey region workGroup ∧
    lastLimit region workGroup s.world.2 = some (.ok e.value)

theorem Guarded.of_adds {kind : Noted W → Prop} (h : Guarded s)
    (hkept : s'.scanLimits = s.scanLimits) (hadds : Adds kind s.world s'.world)
    (hkind : ∀ c, kind c → ¬ c.AsksLimit) : Guarded s' := by
  obtain ⟨calls, hlog, hcalls⟩ := hadds
  intro e he
  rw [hkept] at he
  obtain ⟨region, workGroup, hslash, hkey, hlast⟩ := h e he
  refine ⟨region, workGroup, hslash, hkey, ?_⟩
  rw [hlog, lastLimit_append fun c hc => limitAnswer?_eq_none (hkind c (hcalls c hc))]
  exact hlast

theorem limitAnswer?_of_key_ne {region workGroup asked : String} {w : W}
    {answer : Except AthenaError (Option Int)}
    (h : workGroupKey region workGroup ≠ workGroupKey name asked) :
    (⟨name, w, .scanLimit asked answer⟩ : Noted W).limitAnswer? region workGroup = none := by
  refine if_neg ?_
  rintro ⟨rfl, rfl⟩
  exact h rfl

/-- What was known about other keys is still known when a scan limit has been asked for. -/
theorem Guarded.other {asked : String} {w : W} {answer : Except AthenaError (Option Int)}
    (h : Guarded s)
    (hlog : s'.world.2 = s.world.2 ++ [⟨name, w, .scanLimit asked answer⟩])
    {e : CacheEntry (Option Int)} (he : e ∈ s.scanLimits.entries)
    (hkey : e.key ≠ workGroupKey name asked) :
    ∃ region workGroup, '/' ∉ region.toList ∧ e.key = workGroupKey region workGroup ∧
      lastLimit region workGroup s'.world.2 = some (.ok e.value) := by
  obtain ⟨region, workGroup, hslash, hkey', hlast⟩ := h e he
  refine ⟨region, workGroup, hslash, hkey', ?_⟩
  rw [hkey'] at hkey
  rw [hlog, lastLimit_append, hlast]
  intro c hc
  rw [List.mem_singleton.mp hc]
  exact limitAnswer?_of_key_ne hkey

/-- A scan limit is what the service has last answered about it, asked for or kept. -/
theorem guarded_scanLimit {workGroup : String} {r : Except AthenaError (Option Int)}
    (hslash : '/' ∉ name.toList) (hguarded : Guarded s)
    (h : Ends (b.recorded.scanLimit name (service.recorded name) workGroup) s r s') :
    Guarded s' ∧ lastLimit name workGroup s'.world.2 = some r ∧
      Adds Noted.AsksLimit s.world s'.world := by
  have hadds := (fills_scanLimit h).2
  rw [scanLimit_eq] at h
  cases remembered_call h with
  | @kept e he hkey hworld hkept =>
    have hlog : s'.world.2 = s.world.2 := by
      rw [hworld]
      rfl
    refine ⟨fun e' he' => ?_, ?_, hadds⟩
    · rw [hlog]
      exact hguarded e' (hkept he')
    · -- A kept limit is the last answer for its key, which names the region and the workgroup.
      obtain ⟨region, asked, hslash', hkey', hlast⟩ := hguarded e he
      obtain ⟨rfl, rfl⟩ := workGroupKey_inj hslash' hslash (hkey'.symm.trans hkey)
      rw [hlog]
      exact hlast
  | called _ hlog _ hkept =>
    have hlast : lastLimit name workGroup s'.world.2 = some r := by
      rw [hlog]
      exact lastLimit_concat (if_pos ⟨rfl, rfl⟩)
    refine ⟨fun e he => ?_, hlast, hadds⟩
    rcases hkept e he with ⟨hold, hkey⟩ | ⟨hkey, rfl⟩
    · exact hguarded.other hlog hold hkey
    · exact ⟨name, workGroup, hslash, hkey, hlast⟩

/-! ## Targets -/

/-- The calls of a target with a statement of its own: it asks for the scan limit, or finds it kept.
    Behind that it fails at once, or there is a limit. -/
inductive Gate (b : AthenaBackend W) {α : Type} (t : Target) (w w' : Logged W) :
    Except AthenaError α → Prop
  | closed {e : AthenaError} (hasks : Adds Noted.AsksLimit w w') : Gate b t w w' (.error e)
  | opened {r : Except AthenaError α} {v : Logged W} (hasks : Adds Noted.AsksLimit w v)
      (hlimited : Limited (b.targetRegion t) (b.workGroupOf t) v.2)
      (hcalls : Adds (fun c => c.OnlyReads ∨ c.Starts (b.targetRegion t) (b.statementOf t)) v w') :
      Gate b t w w' r

section
variable {w w' : Logged W}

theorem behind_gate {c : Noted W}
    (h : c.OnlyReads ∨ c.Starts (b.targetRegion t) (b.statementOf t)) :
    ¬ c.AsksLimit ∧ ∀ statement answer, c.call = .start statement answer →
      c.region = b.targetRegion t ∧ statement = b.statementOf t := by
  rcases h with h | ⟨hregion, answer, hcall⟩
  · refine ⟨h.not_asksLimit, fun statement answer hcall => ?_⟩
    exact absurd hcall (h.startsNothing statement answer)
  · unfold Noted.AsksLimit
    rw [hcall]
    simp [hregion, eq_comm]

variable {α : Type} {r : Except AthenaError α}

/-- What a target starts has a scan limit. -/
theorem Gate.gated (hgate : Gate b t w w' r) (h : Gated w.2) : Gated w'.2 := by
  cases hgate with
  | closed hasks => exact h.of_adds hasks fun _ => Noted.AsksLimit.startsNothing
  | @opened _ v hasks hlimited hadds =>
    obtain ⟨calls, hlog, hcalls⟩ := hadds
    rw [hlog]
    refine Gated.append (h.of_adds hasks fun _ => Noted.AsksLimit.startsNothing)
      fun earlier c later statement answer heq hstart => ?_
    have hc : c ∈ calls := heq ▸ List.mem_append_right _ List.mem_cons_self
    obtain ⟨hregion, rfl⟩ := (behind_gate (hcalls c hc)).2 _ _ hstart
    have hquiet : ∀ d ∈ earlier, d.limitAnswer? (b.targetRegion t) (b.workGroupOf t) = none := by
      intro d hd
      have hmem : d ∈ calls := heq ▸ List.mem_append_left _ hd
      exact limitAnswer?_eq_none (behind_gate (hcalls d hmem)).1
    obtain ⟨n, hn⟩ := hlimited
    refine ⟨n, ?_⟩
    rw [hregion, statementOf_workGroup, lastLimit_append hquiet, hn]

/-- A target starts what it asks for, in its region and its workgroup; if that has no scan limit, it
    fails and starts nothing. -/
theorem Gate.starts (hgate : Gate b t w w' r) : ∃ calls, w'.2 = w.2 ++ calls ∧
    (∀ c ∈ calls, ∀ statement answer, c.call = .start statement answer →
      c.region = b.targetRegion t ∧ statement = b.statementOf t) ∧
    (¬ Limited (b.targetRegion t) (b.workGroupOf t) w'.2 → (∃ e, r = .error e) ∧
      ∀ c ∈ calls, c.StartsNothing) := by
  cases hgate with
  | closed hasks =>
    obtain ⟨calls, hlog, hlimits⟩ := hasks
    have hnone : ∀ c ∈ calls, c.StartsNothing := fun c hc => (hlimits c hc).startsNothing
    refine ⟨calls, hlog, fun c hc statement answer hstart => ?_, fun _ => ⟨⟨_, rfl⟩, hnone⟩⟩
    exact absurd hstart (hnone c hc statement answer)
  | @opened _ v hasks hlimited hadds =>
    obtain ⟨limits, hbefore, hlimits⟩ := hasks
    obtain ⟨calls, hlog, hcalls⟩ := hadds
    refine ⟨limits ++ calls, ?_, fun c hc statement answer hstart => ?_, fun hnot => ?_⟩
    · rw [hlog, hbefore, List.append_assoc]
    · rcases List.mem_append.mp hc with hc | hc
      · exact absurd hstart ((hlimits c hc).startsNothing statement answer)
      · exact (behind_gate (hcalls c hc)).2 statement answer hstart
    · refine absurd ?_ hnot
      -- Behind the gate no limit is asked for: the last answer is the one it opened on.
      obtain ⟨n, hn⟩ := hlimited
      refine ⟨n, ?_⟩
      rw [hlog, lastLimit_append fun c hc => limitAnswer?_eq_none (behind_gate (hcalls c hc)).1]
      exact hn

end

/-- A statement is started behind its gate. -/
theorem gate_started {maxRows : Int} {r : Except AthenaError String}
    (hslash : '/' ∉ (b.targetRegion t).toList) (hguarded : Guarded s)
    (h : Ends (b.recorded.started (b.targetRegion t) (service.recorded (b.targetRegion t)) t
      maxRows) s r s') : Guarded s' ∧ Gate b t s.world s'.world r := by
  rcases started_cases h with ⟨answer, hlimit, e, rfl⟩ | ⟨n, s₁, hlimit, hrest⟩
  · obtain ⟨hguarded', -, hasks⟩ := guarded_scanLimit hslash hguarded hlimit
    exact ⟨hguarded', .closed hasks⟩
  · obtain ⟨hguarded₁, hlast, hasks⟩ := guarded_scanLimit hslash hguarded hlimit
    obtain ⟨honly, hadds⟩ := fills_remembered (asks_startNew t) hrest
    have hcalls := hadds.mono fun c => Or.imp_left (Or.inl : c.LooksUp → c.OnlyReads)
    refine ⟨?_, .opened hasks ⟨n, hlast⟩ hcalls⟩
    have hkept : s'.scanLimits = s₁.scanLimits := by
      obtain ⟨_, _, rfl⟩ := honly
      rfl
    exact hguarded₁.of_adds hkept hcalls fun c hc => (behind_gate hc).1

theorem Gate.read {α β : Type} {r : Except AthenaError β} {w v w' : Logged W} {a : α}
    (h : Gate b t w v (.ok a)) (hreads : Adds Noted.ReadsRows v w') : Gate b t w w' r := by
  cases h with
  | opened hasks hlimited hcalls =>
    exact .opened hasks hlimited (IsTrans.trans _ _ _ hcalls (hreads.mono fun _ h => .inl (.inr h)))

theorem Gate.map {α β : Type} {r : Except AthenaError α} {w w' : Logged W} (h : Gate b t w w' r)
    (f : α → β) : Gate b t w w' (r.map f) := by
  cases h with
  | closed hasks => exact .closed hasks
  | opened hasks hlimited hcalls => exact .opened hasks hlimited hcalls

variable (b) in
/-- What a target does to the log, and that what is kept about scan limits stays true. -/
structure Behaves {α : Type} (t : Target) (s s' : Session (Logged W)) (r : Except AthenaError α) :
    Prop where
  guarded : Guarded s'
  gate : isAdHoc t → Gate b t s.world s'.world r
  reads : ¬ isAdHoc t → Adds Noted.OnlyReads s.world s'.world

theorem behaves_source {maxRows : Int} {r : Except AthenaError (List String)}
    (hslash : '/' ∉ (b.targetRegion t).toList) (hguarded : Guarded s)
    (h : Ends (b.recorded.source (b.targetRegion t) (service.recorded (b.targetRegion t)) t maxRows)
      s r s') : b.Behaves t s s' r := by
  by_cases hadhoc : isAdHoc t
  · rw [source_adHoc hadhoc] at h
    rcases ends_bind.mp h with ⟨id, _, hstarted, h⟩ | ⟨e, hstarted, rfl⟩
    · obtain ⟨rfl, rfl⟩ := ends_pure.mp h
      obtain ⟨hguarded', hgate⟩ := gate_started hslash hguarded hstarted
      exact ⟨hguarded', fun _ => hgate.map fun id => [id], absurd hadhoc⟩
    · obtain ⟨hguarded', hgate⟩ := gate_started hslash hguarded hstarted
      exact ⟨hguarded', fun _ => hgate.map fun id => [id], absurd hadhoc⟩
  · rw [source_inputs hadhoc] at h
    obtain ⟨⟨w, rfl⟩, hadds⟩ := asks_distinctInputs t h
    refine ⟨?_, fun h => absurd h hadhoc, fun _ => hadds.mono fun _ => .inl⟩
    exact hguarded.of_adds rfl hadds fun c hc => Noted.OnlyReads.not_asksLimit (.inl hc)

/-- What the world is beside its log does not matter. -/
theorem Behaves.after_region {α : Type} {r : Except AthenaError α} {v : W}
    (h : b.Behaves t { s with world := (v, s.world.2) } s' r) : b.Behaves t s s' r := by
  obtain ⟨hguarded, hgate, hreads⟩ := h
  refine ⟨hguarded, fun hadhoc => ?_, hreads⟩
  cases hgate hadhoc with
  | closed hasks => exact .closed hasks
  | opened hasks hlimited hcalls => exact .opened hasks hlimited hcalls

/-- What a target does. -/
theorem behaves_runTarget {r : Except AthenaError Outcome}
    (hslash : '/' ∉ (b.targetRegion t).toList) (hguarded : Guarded s)
    (h : Ends (b.recorded.runTarget t) s r s') : b.Behaves t s s' r := by
  cases runTarget_cases h with
  | refused _ hafter =>
    rw [hafter]
    exact ⟨hguarded, fun _ => .closed (adds_of_eq rfl), fun _ => adds_of_eq rfl⟩
  | @unread _ v _ _ _ _ hsource =>
    have hguarded₀ : Guarded { s with world := (v, s.world.2) } := hguarded
    obtain ⟨hguarded', hgate, hreads⟩ := (behaves_source hslash hguarded₀ hsource).after_region
    exact ⟨hguarded', fun h => (hgate h).map fun _ => default, hreads⟩
  | @read _ v _ _ _ _ _ _ hsource hrows =>
    have hguarded₀ : Guarded { s with world := (v, s.world.2) } := hguarded
    obtain ⟨hguarded₁, hgate, hreads⟩ := (behaves_source hslash hguarded₀ hsource).after_region
    obtain ⟨⟨_, _, rfl⟩, hadds⟩ := fills_allRows _ _ hrows
    refine ⟨?_, fun h => (hgate h).read hadds, fun h => ?_⟩
    · exact hguarded₁.of_adds rfl hadds fun c hc => Noted.OnlyReads.not_asksLimit (.inr hc)
    · exact IsTrans.trans _ _ _ (hreads h) (hadds.mono fun _ => .inr)

/-! ## Runs -/

/-- What is kept about scan limits is true, and every start was behind one. -/
theorem TargetRun.guarded {ts : List Target} (h : TargetRun b ts s) :
    Guarded s ∧ Gated s.world.2 := by
  refine h.keeps (I := fun _ s => Guarded s ∧ Gated s.world.2) (fun w => ?_) (fun w h => h) ?_ ?_
  · refine ⟨fun e he => ?_, fun earlier c later statement answer heq => ?_⟩
    · cases he
    · have hnil : [] = earlier ++ c :: later := heq
      simp at hnil
  · intro ts s scanLimits started results hlimits _ _ h
    exact ⟨fun e he => h.1 e (hlimits he), h.2⟩
  · intro ts s t r s' hslash hends h
    obtain ⟨hguarded, hgate, hreads⟩ := behaves_runTarget hslash h.1 hends
    refine ⟨hguarded, ?_⟩
    by_cases hadhoc : isAdHoc t
    · exact (hgate hadhoc).gated h.2
    · exact h.2.of_adds (hreads hadhoc) fun _ => Noted.OnlyReads.startsNothing

/-- **No statement is started without a scan limit.** In every run of targets, with any world and
    any losses between them, the service had last answered that there is a scan limit whenever a
    statement was started in a workgroup of a region. A target starts nothing but its own statement
    in its own workgroup and region; if the last answer about that is not a limit, it fails and has
    started nothing. -/
theorem starts_behind_limit {ts : List Target} (h : TargetRun b ts s) :
    Gated s.world.2 ∧ ∀ {t r s'}, '/' ∉ (b.targetRegion t).toList →
      Ends (b.recorded.runTarget t) s r s' → ∃ calls, s'.world.2 = s.world.2 ++ calls ∧
        (∀ c ∈ calls, ∀ statement answer, c.call = .start statement answer →
          isAdHoc t ∧ c.region = b.targetRegion t ∧ statement = b.statementOf t) ∧
        (isAdHoc t → ¬ Limited (b.targetRegion t) (b.workGroupOf t) s'.world.2 →
          (∃ e, r = .error e) ∧ ∀ c ∈ calls, c.StartsNothing) := by
  obtain ⟨hguarded, hgated⟩ := h.guarded
  refine ⟨hgated, fun {t r s'} hslash hends => ?_⟩
  obtain ⟨-, hgate, hreads⟩ := behaves_runTarget hslash hguarded hends
  by_cases hadhoc : isAdHoc t
  · obtain ⟨calls, hlog, hstarts, hnot⟩ := (hgate hadhoc).starts
    refine ⟨calls, hlog, fun c hc statement answer hstart => ?_, fun _ => hnot⟩
    exact ⟨hadhoc, hstarts c hc statement answer hstart⟩
  · obtain ⟨calls, hlog, hcalls⟩ := hreads hadhoc
    refine ⟨calls, hlog, fun c hc statement answer hstart => ?_, fun h => absurd h hadhoc⟩
    exact absurd hstart ((hcalls c hc).startsNothing statement answer)

end AthenaBackend

namespace Memory

def limitedMemory : Memory := { scanLimits := [("primary", 1000)] }

def statementIn (workGroup : String) : Target :=
  { region := "us-east-1", workGroup, sql := "SELECT 1" }

def afterStatement : Session (Logged Memory) :=
  ((backend.recorded.runTarget (statementIn "primary")).run
    (.fresh backend.settings (limitedMemory, []))).2

theorem run_afterStatement :
    AthenaBackend.TargetRun backend [statementIn "primary"] afterStatement :=
  .target (.fresh limitedMemory) (statementIn "primary") (by decide +kernel)

/-- The statement was started behind the limit of its workgroup. In a workgroup without a limit it
    fails. -/
theorem starts_behind_limit_afterStatement :
    AthenaBackend.TargetRun backend [statementIn "primary"] afterStatement ∧
      (afterStatement.world.2.any fun c => c.call matches .start ..) ∧
      Gated afterStatement.world.2 ∧
      ¬ Limited (backend.targetRegion (statementIn "etl")) (backend.workGroupOf (statementIn "etl"))
        (backend.recorded.afterTarget afterStatement (statementIn "etl")).world.2 ∧
      ∃ e, Ends (backend.recorded.runTarget (statementIn "etl")) afterStatement (.error e)
        (backend.recorded.afterTarget afterStatement (statementIn "etl")) := by
  have hbehind := AthenaBackend.starts_behind_limit run_afterStatement
  have hnot : ¬ Limited (backend.targetRegion (statementIn "etl"))
      (backend.workGroupOf (statementIn "etl"))
      (backend.recorded.afterTarget afterStatement (statementIn "etl")).world.2 := by
    decide +kernel
  have hslash : '/' ∉ (backend.targetRegion (statementIn "etl")).toList := by decide +kernel
  have hadhoc : AthenaBackend.isAdHoc (statementIn "etl") := by decide +kernel
  obtain ⟨r, hends⟩ : ∃ r, Ends (backend.recorded.runTarget (statementIn "etl")) afterStatement r
      (backend.recorded.afterTarget afterStatement (statementIn "etl")) := ⟨_, ends_self _ _⟩
  obtain ⟨calls, -, -, hfails⟩ := hbehind.2 hslash hends
  obtain ⟨⟨e, rfl⟩, -⟩ := hfails hadhoc hnot
  exact ⟨run_afterStatement, by decide +kernel, hbehind.1, hnot, e, hends⟩

end Memory
end PanelSource
