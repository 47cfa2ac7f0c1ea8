import PanelSource.Proofs.Athena.Direct

/- Which execution a statement reads.

   The execution of a statement is kept under its region, its text and the row limit. Neither the
   workgroup nor the output location is in that key. So a target reads rows of an execution that was
   started for itself, or for an earlier target of the run with the same region, text and row limit,
   in the workgroup and for the output location of that one (`rows_of_started`). -/
namespace PanelSource
namespace AthenaBackend
variable {W : Type} {b : AthenaBackend W} {service : RegionService W} {t : Target}
  {ts : List Target} {s s' : Session (Logged W)}

variable (b) in
/-- An execution was started for a target: in its region, with its statement. -/
def StartedFor (t : Target) (id : String) (log : List (Noted W)) : Prop :=
  ∃ w, ⟨b.targetRegion t, w, .start (b.statementOf t) (.ok id)⟩ ∈ log

variable (b) in
/-- Another target with the same region, the same text and the same row limit. -/
structure Alike (t t' : Target) : Prop where
  region : b.targetRegion t' = b.targetRegion t
  sql : t'.sql = t.sql
  maxRows : b.maxRows t' = b.maxRows t

variable (b) in
/-- What is kept as the execution of a statement was started for a target of the run. -/
def KeptStarts (ts : List Target) (s : Session (Logged W)) : Prop :=
  ∀ e ∈ s.started.entries, ∃ t ∈ ts, ∃ maxRows, '/' ∉ (b.targetRegion t).toList ∧
    b.maxRows t = .ok maxRows ∧ e.key = rowsKey (b.targetRegion t) t.sql maxRows ∧
    b.StartedFor t e.value s.world.2

variable (b) in
/-- The execution was started for the target just now, or nothing was, and it had been started for
    a target like it. -/
def Finds (ts : List Target) (t : Target) (id : String) (w w' : Logged W) : Prop :=
  ∃ calls, w'.2 = w.2 ++ calls ∧ (b.StartedFor t id calls ∨
    (∀ c ∈ calls, c.StartsNothing) ∧ ∃ t' ∈ ts, b.Alike t t' ∧ b.StartedFor t' id w.2)

theorem StartedFor.append_left {id : String} {calls : List (Noted W)} (h : b.StartedFor t id calls)
    (log : List (Noted W)) : b.StartedFor t id (log ++ calls) := by
  obtain ⟨w, hw⟩ := h
  exact ⟨w, List.mem_append_right _ hw⟩

theorem StartedFor.append_right {id : String} {log : List (Noted W)} (h : b.StartedFor t id log)
    (calls : List (Noted W)) : b.StartedFor t id (log ++ calls) := by
  obtain ⟨w, hw⟩ := h
  exact ⟨w, List.mem_append_left _ hw⟩

theorem KeptStarts.later (h : b.KeptStarts ts s) (more : List Target)
    (hkept : s'.started.entries ⊆ s.started.entries) (hlater : Later s.world s'.world) :
    b.KeptStarts (ts ++ more) s' := by
  intro e he
  obtain ⟨t, ht, maxRows, hslash, hmax, hkey, w, hw⟩ := h e (hkept he)
  exact ⟨t, List.mem_append_left _ ht, maxRows, hslash, hmax, hkey, w, hlater.subset hw⟩

theorem Finds.later {kind : Noted W → Prop} {id : String} {w v w' : Logged W}
    (h : b.Finds ts t id w v) (hadds : Adds kind v w') (hkind : ∀ c, kind c → c.StartsNothing) :
    b.Finds ts t id w w' := by
  obtain ⟨calls, hlog, hfinds⟩ := h
  obtain ⟨more, hmore, hcalls⟩ := hadds
  refine ⟨calls ++ more, by rw [hmore, hlog, List.append_assoc], ?_⟩
  rcases hfinds with hnew | ⟨hnone, hold⟩
  · exact .inl (hnew.append_right more)
  · refine .inr ⟨fun c hc => ?_, hold⟩
    exact (List.mem_append.mp hc).elim (hnone c) fun hc => hkind c (hcalls c hc)

theorem Finds.earlier {kind : Noted W → Prop} {id : String} {w v w' : Logged W}
    (h : b.Finds ts t id v w') (hadds : Adds kind w v) (hkind : ∀ c, kind c → c.StartsNothing) :
    b.Finds ts t id w w' := by
  obtain ⟨calls, hlog, hfinds⟩ := h
  obtain ⟨before, hbefore, hcalls⟩ := hadds
  refine ⟨before ++ calls, by rw [hlog, hbefore, List.append_assoc], ?_⟩
  rcases hfinds with hnew | ⟨hnone, t', ht', halike, x, hx⟩
  · exact .inl (hnew.append_left before)
  · refine .inr ⟨fun c hc => ?_, t', ht', halike, x, ?_⟩
    · exact (List.mem_append.mp hc).elim (fun hc => hkind c (hcalls c hc)) (hnone c)
    · rw [hbefore] at hx
      exact (List.mem_append.mp hx).resolve_right fun hx => hkind _ (hcalls _ hx) _ _ rfl

theorem startNew_noted {name id : String}
    (h : Ends (b.recorded.startNew (service.recorded name) t) s (.ok id) s') :
    ∃ w rest, s'.world.2 = s.world.2 ++ ⟨name, w, .start (b.statementOf t) (.ok id)⟩ :: rest := by
  obtain ⟨a, s₁, hstart, h⟩ := ends_ok_bind.mp h
  obtain ⟨_, s₂, hawait, h⟩ := ends_ok_bind.mp h
  obtain ⟨hid, rfl⟩ := ends_pure.mp h
  cases hid
  obtain ⟨rest, hlog, -⟩ := (asks_await id _ _ hawait).2
  refine ⟨s.world.1, rest, ?_⟩
  rw [hlog, log_call hstart, List.append_assoc]
  rfl

/-- The execution that is remembered, or started, for a statement. -/
theorem finds_remembered {maxRows : Int} {r : Except AthenaError String}
    (hslash : '/' ∉ (b.targetRegion t).toList) (hmax : b.maxRows t = .ok maxRows)
    (hkept : b.KeptStarts ts s)
    (h : Ends (b.recorded.remembered .started (rowsKey (b.targetRegion t) t.sql maxRows)
      (b.recorded.startNew (service.recorded (b.targetRegion t)) t) t.cacheDuration) s r s') :
    b.KeptStarts (ts ++ [t]) s' ∧ ∀ id, r = .ok id → b.Finds ts t id s.world s'.world := by
  have hlater := (fills_remembered (asks_startNew t) h).2.later
  cases (remembered_cases (fun _ _ _ h => (asks_startNew t h).1) h).1 with
  | @kept e he hkey hworld hsub =>
    -- The kept entry was put by an earlier target, and its key says that the two are alike.
    have hlog : s'.world.2 = s.world.2 ++ [] := by
      rw [hworld, List.append_nil]
      rfl
    have hnone : ∀ c ∈ ([] : List (Noted W)), c.StartsNothing :=
      fun c hc => absurd hc List.not_mem_nil
    refine ⟨hkept.later [t] hsub hlater, fun id hid => ⟨[], hlog, .inr ⟨hnone, ?_⟩⟩⟩
    cases hid
    obtain ⟨t', ht', maxRows', hslash', hmax', hkey', hfor⟩ := hkept e he
    obtain ⟨hregion, hsql, rfl⟩ := rowsKey_inj hslash' hslash (hkey'.symm.trans hkey)
    exact ⟨t', ht', ⟨hregion, hsql, hmax'.trans hmax.symm⟩, hfor⟩
  | @asked id s₁ s₂ hask hbefore hafter hentries =>
    obtain ⟨w, rest, hnoted⟩ := startNew_noted hask
    have hlog : s'.world.2 = s.world.2 ++
        ⟨b.targetRegion t, w, .start (b.statementOf t) (.ok id)⟩ :: rest := by
      rw [hafter]
      show s₂.world.2 = _
      rw [hnoted, hbefore]
      rfl
    have hnew : b.StartedFor t id
        (⟨b.targetRegion t, w, .start (b.statementOf t) (.ok id)⟩ :: rest) :=
      ⟨w, List.mem_cons_self⟩
    refine ⟨fun e he => ?_, fun id' hid => ?_⟩
    · rcases hentries e he with ⟨hold, -⟩ | ⟨hkey, hvalue⟩
      · obtain ⟨t', ht', maxRows', hslash', hmax', hkey', hfor⟩ := hkept e hold
        refine ⟨t', List.mem_append_left _ ht', maxRows', hslash', hmax', hkey', ?_⟩
        rw [hlog]
        exact hfor.append_right _
      · refine ⟨t, List.mem_append_right _ List.mem_cons_self, maxRows, hslash, hmax, hkey, ?_⟩
        rw [hlog, hvalue]
        exact hnew.append_left _
    · cases hid
      exact ⟨_, hlog, .inl hnew⟩
  | failed _ _ hentries =>
    exact ⟨hkept.later [t] (fun e he => (hentries e he).1) hlater, fun _ hid => nomatch hid⟩

/-- The execution of a statement, and what is kept about executions after that. -/
theorem finds_started {maxRows : Int} {r : Except AthenaError String}
    (hslash : '/' ∉ (b.targetRegion t).toList) (hmax : b.maxRows t = .ok maxRows)
    (hkept : b.KeptStarts ts s)
    (h : Ends (b.recorded.started (b.targetRegion t) (service.recorded (b.targetRegion t)) t
      maxRows) s r s') :
    b.KeptStarts (ts ++ [t]) s' ∧ ∀ id, r = .ok id → b.Finds ts t id s.world s'.world := by
  rcases started_cases h with ⟨answer, hlimit, e, rfl⟩ | ⟨n, s₁, hlimit, hrest⟩
  · obtain ⟨⟨c, w, rfl⟩, hadds⟩ := fills_scanLimit hlimit
    exact ⟨hkept.later [t] (List.Subset.refl _) hadds.later, fun _ hid => nomatch hid⟩
  · obtain ⟨honly, hadds⟩ := fills_scanLimit hlimit
    have hstarted : s₁.started = s.started := by
      obtain ⟨c, w, rfl⟩ := honly
      rfl
    have hkept₁ : b.KeptStarts ts s₁ := by
      rw [← List.append_nil ts]
      exact hkept.later [] (fun e he => hstarted ▸ he) hadds.later
    obtain ⟨hkept', hfinds⟩ := finds_remembered hslash hmax hkept₁ hrest
    refine ⟨hkept', fun id hid => ?_⟩
    exact (hfinds id hid).earlier hadds fun _ => Noted.AsksLimit.startsNothing

/-! ## Targets -/

theorem finds_source {maxRows : Int} {r : Except AthenaError (List String)}
    (hslash : '/' ∉ (b.targetRegion t).toList) (hmax : b.maxRows t = .ok maxRows)
    (hkept : b.KeptStarts ts s)
    (h : Ends (b.recorded.source (b.targetRegion t) (service.recorded (b.targetRegion t)) t maxRows)
      s r s') :
    b.KeptStarts (ts ++ [t]) s' ∧
      (isAdHoc t → ∀ ids, r = .ok ids → ∃ id, ids = [id] ∧ b.Finds ts t id s.world s'.world) := by
  by_cases hadhoc : isAdHoc t
  · rw [source_adHoc hadhoc] at h
    rcases ends_bind.mp h with ⟨id, _, hstarted, h⟩ | ⟨e, hstarted, rfl⟩
    · obtain ⟨rfl, rfl⟩ := ends_pure.mp h
      obtain ⟨hkept', hfinds⟩ := finds_started hslash hmax hkept hstarted
      refine ⟨hkept', fun _ ids hids => ⟨id, ?_, hfinds id rfl⟩⟩
      cases hids
      rfl
    · exact ⟨(finds_started hslash hmax hkept hstarted).1, fun _ _ hids => nomatch hids⟩
  · rw [source_inputs hadhoc] at h
    obtain ⟨⟨w, rfl⟩, hadds⟩ := asks_distinctInputs t h
    exact ⟨hkept.later [t] (List.Subset.refl _) hadds.later, fun h => absurd h hadhoc⟩

theorem keptStarts_runTarget {r : Except AthenaError Outcome}
    (hslash : '/' ∉ (b.targetRegion t).toList) (hkept : b.KeptStarts ts s)
    (h : Ends (b.recorded.runTarget t) s r s') : b.KeptStarts (ts ++ [t]) s' := by
  cases runTarget_cases h with
  | refused _ hafter =>
    rw [hafter]
    exact hkept.later [t] (List.Subset.refl _) List.prefix_rfl
  | @unread _ v _ _ _ hmax hsource =>
    have hkept₀ : b.KeptStarts ts { s with world := (v, s.world.2) } := hkept
    exact (finds_source hslash hmax hkept₀ hsource).1
  | @read _ v _ _ s₁ _ _ hmax hsource hrows =>
    have hkept₀ : b.KeptStarts ts { s with world := (v, s.world.2) } := hkept
    have hkept₁ := (finds_source hslash hmax hkept₀ hsource).1
    obtain ⟨honly, hadds⟩ := fills_allRows _ _ hrows
    have hstarted : s'.started = s₁.started := by
      obtain ⟨c, w, rfl⟩ := honly
      rfl
    rw [← List.append_nil (ts ++ [t])]
    exact hkept₁.later [] (fun e he => hstarted ▸ he) hadds.later

/-- In every run, what is kept about executions is true. -/
theorem TargetRun.keptStarts (h : TargetRun b ts s) : b.KeptStarts ts s := by
  refine h.keeps (I := b.KeptStarts) (fun w e he => ?_) (fun w h => h) ?_ ?_
  · cases he
  · intro ts s scanLimits started results _ hstarted _ h e he
    exact h e (hstarted he)
  · intro ts s t r s' hslash hends h
    exact keptStarts_runTarget hslash h hends

/-- **A statement's rows are those of an execution that was started for it, or for a target like
    it.** In every run of targets, with any world and any losses between them, a target that answers
    with a statement of its own answers rows that the service gave for an execution in its region.
    That one was started in this region with this text, and for this workgroup and output location
    if it was started now. Otherwise nothing was started now, and an earlier target with the same
    region, text and row limit had it started, in its workgroup and for its output location. -/
theorem rows_of_started (h : TargetRun b ts s) {o : Outcome}
    (hslash : '/' ∉ (b.targetRegion t).toList) (hadhoc : isAdHoc t)
    (hends : Ends (b.recorded.runTarget t) s (.ok o) s') :
    ∃ id maxRows rows, b.maxRows t = .ok maxRows ∧
      Frame.convert t rows = .ok o ∧
      NotedRows (b.targetRegion t) id maxRows rows s'.world.2 ∧
      b.Finds ts t id s.world s'.world := by
  generalize hr : (Except.ok o : Except AthenaError Outcome) = r at hends
  cases runTarget_cases hends with
  | refused => cases hr
  | unread => cases hr
  | @read _ v maxRows ids s₁ all _ hmax hsource hrows =>
    have hkept₀ : b.KeptStarts ts { s with world := (v, s.world.2) } := h.keptStarts
    obtain ⟨id, rfl, hfinds⟩ := (finds_source hslash hmax hkept₀ hsource).2 hadhoc ids rfl
    have hrowsKept : KeptRows s₁ := by
      have hkept : KeptRows { s with world := (v, s.world.2) } := h.keptRows
      exact (sameRows_source hsource).keptRows hkept
    have hadds := (fills_allRows _ _ hrows).2
    rcases ends_bind.mp hrows with ⟨rows, _, hone, hrest⟩ | ⟨e, hone, rfl⟩
    · obtain ⟨rfl, rfl⟩ := ends_pure.mp hrest
      have hnoted := (rows_cases hslash hrowsKept hone).2.noted
      rw [ResultSet.empty_extend]
      refine ⟨id, maxRows, rows, hmax, rfl, hnoted, ?_⟩
      exact hfinds.later hadds fun _ => Noted.ReadsRows.startsNothing
    · cases hr

/-- A call that starts a statement in a region. -/
def isStartOf (region : String) (statement : Statement) (c : Noted W) : Bool :=
  match c.call with
  | .start started _ => c.region == region && started == statement
  | _ => false

theorem not_startedFor {log : List (Noted W)}
    (h : ¬ log.any (isStartOf (b.targetRegion t) (b.statementOf t))) (id : String) :
    ¬ b.StartedFor t id log := by
  rintro ⟨w, hw⟩
  refine h (List.any_eq_true.mpr ⟨_, hw, ?_⟩)
  unfold isStartOf
  simp only [beq_self_eq_true, Bool.and_self]

end AthenaBackend

/-! ## Reuse between workgroups -/

namespace Memory

def twoGroups : Memory :=
  { scanLimits := [("primary", 1000), ("etl", 1000)]
    adHocResult := ⟨[⟨"v", "double"⟩], [[some "1"]]⟩ }

def inPrimary : Target := statement "us-east-1" "primary" "s3://a/" "SELECT 1"

def inEtl : Target := statement "us-east-1" "etl" "s3://b/" "SELECT 1"

def afterPrimary : Session (Logged Memory) :=
  backend.recorded.afterTarget (.fresh backend.settings (twoGroups, [])) inPrimary

theorem run_afterPrimary : AthenaBackend.TargetRun backend [inPrimary] afterPrimary :=
  .target (.fresh twoGroups) inPrimary (by decide +kernel)

/-- The statement of one workgroup finds the execution that was started in another. -/
theorem rows_of_started_afterPrimary : AthenaBackend.TargetRun backend [inPrimary] afterPrimary ∧
    AthenaBackend.isAdHoc inEtl ∧
    ((backend.recorded.runTarget inEtl).run afterPrimary).1.isOk ∧
    ∃ id, backend.Finds [inPrimary] inEtl id afterPrimary.world
      (backend.recorded.afterTarget afterPrimary inEtl).world := by
  have hadhoc : AthenaBackend.isAdHoc inEtl := by decide +kernel
  have hslash : '/' ∉ (backend.targetRegion inEtl).toList := by decide +kernel
  have hok : ((backend.recorded.runTarget inEtl).run afterPrimary).1.isOk := by decide +kernel
  refine ⟨run_afterPrimary, hadhoc, hok, ?_⟩
  cases hr : ((backend.recorded.runTarget inEtl).run afterPrimary).1 with
  | error e =>
    rw [hr] at hok
    cases hok
  | ok o =>
    have hends : Ends (backend.recorded.runTarget inEtl) afterPrimary (.ok o)
        (backend.recorded.afterTarget afterPrimary inEtl) := by
      rw [← hr]
      exact ends_self _ _
    obtain ⟨id, _, _, -, -, -, hfinds⟩ :=
      AthenaBackend.rows_of_started run_afterPrimary hslash hadhoc hends
    exact ⟨id, hfinds⟩

/-- A region whose name goes on with a slash, and a text that begins like the rest of it. -/
def inShort : Target := statement "r" "primary" "s3://a/" "a/SELECT 1"

def inLong : Target := statement "r/a" "primary" "s3://a/" "SELECT 1"

def afterShort : Session (Logged Memory) :=
  backend.recorded.afterTarget (.fresh backend.settings (twoGroups, [])) inShort

/-- A target answers although nothing was started in its workgroup and for its output location; and
    where a region has a slash in its name, although nothing was started in its region. -/
theorem reuse_between_workgroups :
    (AthenaBackend.TargetRun backend [inPrimary] afterPrimary ∧ AthenaBackend.isAdHoc inEtl ∧
      ((backend.recorded.runTarget inEtl).run afterPrimary).1.isOk ∧
      ∀ id, ¬ backend.StartedFor inEtl id
        (backend.recorded.afterTarget afterPrimary inEtl).world.2) ∧
    (AthenaBackend.isAdHoc inLong ∧
      ((backend.recorded.runTarget inLong).run afterShort).1.isOk ∧
      ∀ id, ¬ backend.StartedFor inLong id
        (backend.recorded.afterTarget afterShort inLong).world.2) := by
  refine ⟨⟨run_afterPrimary, by decide +kernel, by decide +kernel, ?_⟩, by decide +kernel,
    by decide +kernel, ?_⟩
  · exact AthenaBackend.not_startedFor (by decide +kernel)
  · exact AthenaBackend.not_startedFor (by decide +kernel)

end Memory
end PanelSource
