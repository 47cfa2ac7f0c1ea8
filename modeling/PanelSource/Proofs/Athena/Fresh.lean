import PanelSource.Proofs.Athena.Succeeded

/- Whose execution a target reads that keeps nothing itself.

   How long an execution is kept is said by the target that has it started. A target without a cache
   duration keeps nothing, but it looks for a kept execution like any other. So it starts its
   statement itself, unless an earlier target of the run with the same key, which had a cache
   duration, has put an execution there whose time is not over yet (`zero_duration_starts`). -/
namespace PanelSource
namespace AthenaBackend
variable {W α : Type} {b : AthenaBackend W} {service : RegionService W} {t : Target}
  {maxRows : Int} {s s₁ s₂ s' : Session (Logged W)}

/-! ## What is put on a shelf -/

section
variable {shelf : Shelf (Logged W) α} {key : String} {ask : ServiceM (Session (Logged W)) α}
  {ttl : Span} {r : Except AthenaError α}

/-- A new entry is what was asked for, and it lives from then on for as long as it was to be kept,
    which is for some time. -/
theorem remembered_puts (hworld : Keeps OnlyWorld ask)
    (h : Ends (b.recorded.remembered shelf key ask ttl) s r s') {e : CacheEntry α}
    (he : e ∈ (shelf.cache s').entries) :
    e ∈ (shelf.cache s).entries ∨ (ttl.isZero = false ∧ e.key = key ∧
      ∃ asked, Ends ask (b.looked shelf key s) (.ok e.value) asked ∧
        s'.world = b.tick asked.world ∧
        e.expires = (b.athena.now asked.world.1).1 + min ttl.total Cache.year) := by
  have hsub : (shelf.cache (b.looked shelf key s)).entries ⊆ (shelf.cache s).entries := by
    rw [cache_looked]
    exact Cache.get_subset _ _ _
  rw [ends_remembered] at h
  cases hfound : (b.found shelf key s).1 with
  | some a =>
    rw [hfound] at h
    obtain ⟨rfl, rfl⟩ := h
    exact .inl (hsub he)
  | none =>
    rw [hfound] at h
    rcases ends_bind.mp h with ⟨a, asked, hask, hkeep⟩ | ⟨e', hask, rfl⟩
    · obtain ⟨rfl, rfl⟩ := (ends_iff_of_run run_keep).mp hkeep
      rw [shelf.cache_put, shelf.cache_world, Shelf.cache_of_onlyWorld (hworld hask)] at he
      -- With no time to live nothing is put, and so no entry is new.
      cases hzero : ttl.isZero with
      | true =>
        rw [Cache.insert_of_isZero hzero] at he
        exact .inl (hsub he)
      | false =>
        rcases Cache.mem_insert he with he | ⟨hkey, hvalue, hexpires⟩
        · exact .inl (hsub he)
        · subst hvalue
          exact .inr ⟨rfl, hkey, asked, hask, shelf.world_put _ _ _, hexpires⟩
    · rw [Shelf.cache_of_onlyWorld (hworld hask)] at he
      exact .inl (hsub he)

end

/-! ## Up to the statement of a target, and on from there -/

/-- A target looks for its execution in one session, and goes on with what came of that in another
    one. -/
structure GetsTo (b : AthenaBackend W) (t : Target) (service : RegionService W) (maxRows : Int)
    (s s₁ s₂ s' : Session (Logged W)) (answer : Except AthenaError String)
    (r : Except AthenaError Outcome) : Prop where
  before : Later s.world s₁.world
  startedBefore : s₁.started = s.started
  finds : Ends (b.recorded.remembered .started (rowsKey (b.targetRegion t) t.sql maxRows)
    (b.recorded.startNew (service.recorded (b.targetRegion t)) t) t.cacheDuration) s₁ answer s₂
  after : Later s₂.world s'.world
  startedAfter : s'.started = s₂.started
  /-- What is answered is made of the rows of this execution. -/
  reads : ∀ o, r = .ok o → ∃ id rows, answer = .ok id ∧
    Ends (b.recorded.allRows (b.targetRegion t) (service.recorded (b.targetRegion t)) maxRows
      t.cacheDuration {} [id]) s₂ (.ok rows) s' ∧ Frame.convert t rows = .ok o

theorem started_allRows {name : String} {ttl : Span} {done : ResultSet} {ids : List String}
    {r : Except AthenaError ResultSet}
    (h : Ends (b.recorded.allRows name (service.recorded name) maxRows ttl done ids) s r s') :
    s'.started = s.started ∧ Later s.world s'.world := by
  obtain ⟨⟨_, _, rfl⟩, hadds⟩ := fills_allRows done ids h
  exact ⟨rfl, hadds.later⟩

theorem started_without_limit {r : Except AthenaError String} (hlimit : ¬ b.HasLimit service t s)
    (h : Ends (b.recorded.started (b.targetRegion t) (service.recorded (b.targetRegion t)) t
      maxRows) s r s') : s'.started = s.started ∧ ∃ e, r = .error e := by
  rcases started_cases h with ⟨answer, hends, herror⟩ | ⟨n, s₁, hends, -⟩
  · obtain ⟨⟨_, _, rfl⟩, -⟩ := fills_scanLimit hends
    exact ⟨rfl, herror⟩
  · exact absurd ⟨n, s₁, hends⟩ hlimit

/-- The source of a target with a statement: it gets to its execution, or only to its scan limit. -/
theorem source_getsTo {r : Except AthenaError (List String)} (hadhoc : isAdHoc t)
    (h : Ends (b.recorded.source (b.targetRegion t) (service.recorded (b.targetRegion t)) t maxRows)
      s r s') :
    (∃ s₁ answer, r = answer.map ([·]) ∧ Later s.world s₁.world ∧ s₁.started = s.started ∧
      Ends (b.recorded.remembered .started (rowsKey (b.targetRegion t) t.sql maxRows)
        (b.recorded.startNew (service.recorded (b.targetRegion t)) t) t.cacheDuration) s₁ answer
        s') ∨
      (s'.started = s.started ∧ ¬ b.HasLimit service t s ∧ ∃ e, r = .error e) := by
  rw [source_adHoc hadhoc] at h
  obtain ⟨answer, hstarted, rfl⟩ := ends_map.mp h
  by_cases hlimit : b.HasLimit service t s
  · obtain ⟨s₁, hlater, hsame, hfinds⟩ := started_behind_limit hlimit hstarted
    exact .inl ⟨s₁, answer, rfl, hlater, hsame, hfinds⟩
  · obtain ⟨hsame, e, rfl⟩ := started_without_limit hlimit hstarted
    exact .inr ⟨hsame, hlimit, e, rfl⟩

variable (b) in
/-- A target that is to look for its execution. -/
structure Looks (t : Target) (maxRows : Int) (s : Session (Logged W)) : Prop where
  adHoc : isAdHoc t
  maxRows : b.maxRows t = .ok maxRows
  admitted : b.Admitted t s

/-- A target that has a statement, a row limit and a scan limit gets to its execution, and no other
    target changes anything about executions. -/
theorem runTarget_getsTo {r : Except AthenaError Outcome}
    (h : Ends (b.recorded.runTarget t) s r s') :
    (∃ maxRows service s₁ s₂ answer, isAdHoc t ∧ b.maxRows t = .ok maxRows ∧
      b.GetsTo t service maxRows s s₁ s₂ s' answer r) ∨
      (s'.started = s.started ∧ ∀ maxRows, ¬ b.Looks t maxRows s) := by
  cases runTarget_cases h with
  | refused hwhy hafter =>
    refine .inr ⟨by rw [hafter], fun maxRows hlooks => ?_⟩
    obtain ⟨service, v, hregion, -⟩ := hlooks.admitted
    rcases hwhy with hregion' | ⟨_, -, hmax⟩
    · cases ((ends_iff_of_run hregion).mp hregion').1
    · cases hlooks.maxRows.symm.trans hmax
  | @unread service v maxRows e hregion hmax hsource =>
    by_cases hadhoc : isAdHoc t
    · rcases source_getsTo hadhoc hsource with
        ⟨s₁, answer, hanswer, hbefore, hsame, hfinds⟩ | ⟨hsame, hlimit, -⟩
      · refine .inl ⟨maxRows, service, s₁, s', answer, hadhoc, hmax, hbefore, hsame, hfinds,
          List.prefix_rfl, rfl, fun o ho => nomatch ho⟩
      · refine .inr ⟨hsame, fun maxRows' hlooks => ?_⟩
        obtain ⟨service', v', hregion', hlimit'⟩ := hlooks.admitted
        obtain ⟨hservice, rfl⟩ := (ends_iff_of_run hregion).mp hregion'
        cases hservice
        exact hlimit hlimit'
    · rw [source_inputs hadhoc] at hsource
      obtain ⟨⟨_, rfl⟩, -⟩ := asks_distinctInputs t hsource
      exact .inr ⟨rfl, fun _ hlooks => hadhoc hlooks.adHoc⟩
  | @read service v maxRows ids s₂ rows hregion hmax hsource hrows =>
    obtain ⟨hafter, hlater⟩ := started_allRows hrows
    by_cases hadhoc : isAdHoc t
    · rcases source_getsTo hadhoc hsource with
        ⟨s₁, answer, hanswer, hbefore, hsame, hfinds⟩ | ⟨-, -, e, herror⟩
      · cases answer with
        | error e => cases hanswer
        | ok id =>
          cases hanswer
          refine .inl ⟨maxRows, service, s₁, s₂, .ok id, hadhoc, hmax, hbefore, hsame, hfinds,
            hlater, hafter, fun o ho => ?_⟩
          cases rows with
          | error e => cases ho
          | ok rows => exact ⟨id, rows, rfl, hrows, ho⟩
      · cases herror
    · rw [source_inputs hadhoc] at hsource
      obtain ⟨⟨_, rfl⟩, -⟩ := asks_distinctInputs t hsource
      exact .inr ⟨hafter, fun _ hlooks => hadhoc hlooks.adHoc⟩

/-! ## Who has put an execution -/

variable (b) in
/-- A target puts an entry for its statement: it has the execution started, whose wait ends well,
    and the entry lives from then on for its cache duration, which is not zero, or for 365 days if
    that is less. -/
structure PutBy (t : Target) (e : CacheEntry String) (s s' : Session (Logged W)) : Prop where
  adHoc : isAdHoc t
  lasts : t.cacheDuration.isZero = false
  key : ∃ maxRows, b.maxRows t = .ok maxRows ∧ e.key = rowsKey (b.targetRegion t) t.sql maxRows
  started : ∃ (service : RegionService W) (before asked : Session (Logged W)),
    Ends (b.recorded.startNew (service.recorded (b.targetRegion t)) t) before (.ok e.value) asked ∧
      Later s.world before.world ∧ Later asked.world s'.world ∧
      e.expires = (b.athena.now asked.world.1).1 + min t.cacheDuration.total Cache.year

/-- No execution is new but what a target has put. -/
theorem putBy_runTarget {r : Except AthenaError Outcome} (h : Ends (b.recorded.runTarget t) s r s')
    {e : CacheEntry String} (he : e ∈ s'.started.entries) :
    e ∈ s.started.entries ∨ b.PutBy t e s s' := by
  rcases runTarget_getsTo h with
    ⟨maxRows, service, s₁, s₂, answer, hadhoc, hmax, hgets⟩ | ⟨hsame, -⟩
  · rw [hgets.startedAfter] at he
    rw [← hgets.startedBefore]
    refine (remembered_puts (fun _ _ _ h => (asks_startNew t h).1) hgets.finds he).imp_right ?_
    rintro ⟨hlasts, hkey, asked, hask, hworld, hexpires⟩
    refine ⟨hadhoc, hlasts, ⟨maxRows, hmax, hkey⟩, service, _, asked, hask, ?_, ?_, hexpires⟩
    · have hlooked : (b.looked .started (rowsKey (b.targetRegion t) t.sql maxRows) s₁).world =
          b.tick s₁.world := world_looked
      rw [hlooked]
      exact hgets.before
    · have hafter := hgets.after
      rw [hworld] at hafter
      exact hafter
  · rw [hsame] at he
    exact .inl he

variable (b) in
/-- An entry was put by a target of a kind that was run earlier. -/
def PutEarlier (kind : Target → Prop) (s₀ : Session (Logged W)) (e : CacheEntry String)
    (s : Session (Logged W)) : Prop :=
  ∃ earlier u, Reaches b kind s₀ earlier ∧ kind u ∧
    b.PutBy u e earlier (b.recorded.afterTarget earlier u) ∧
    Reaches b kind (b.recorded.afterTarget earlier u) s

section
variable {kind : Target → Prop} {s₀ : Session (Logged W)}

/-- Every kept execution was there at first, or it was put by a target. -/
def Explained (b : AthenaBackend W) (kind : Target → Prop) (s₀ s : Session (Logged W)) : Prop :=
  ∀ e ∈ s.started.entries, e ∈ s₀.started.entries ∨ b.PutEarlier kind s₀ e s

theorem Explained.mono (h : Explained b kind s₀ s) (hsub : s'.started.entries ⊆ s.started.entries)
    (hreach : ∀ u, Reaches b kind u s → Reaches b kind u s') : Explained b kind s₀ s' := by
  intro e he
  refine (h e (hsub he)).imp_right ?_
  rintro ⟨earlier, u, hearlier, hkind, hput, hsince⟩
  exact ⟨earlier, u, hearlier, hkind, hput, hreach _ hsince⟩

theorem Explained.afterTarget (hreach : Reaches b kind s₀ s) (h : Explained b kind s₀ s)
    (hkind : kind t) : Explained b kind s₀ (b.recorded.afterTarget s t) := by
  intro e he
  rcases putBy_runTarget (ends_self _ s) he with hold | hnew
  · refine (h e hold).imp_right ?_
    rintro ⟨earlier, u, hearlier, hu, hput, hsince⟩
    exact ⟨earlier, u, hearlier, hu, hput, hsince.target t hkind⟩
  · exact .inr ⟨s, t, hreach, hkind, hnew, .here⟩

theorem Explained.afterTargets {ts : List Target} (hkind : ∀ t ∈ ts, kind t)
    (hreach : Reaches b kind s₀ s) (h : Explained b kind s₀ s) :
    Explained b kind s₀ (ts.foldl b.recorded.afterTarget s) := by
  induction ts generalizing s with
  | nil => exact h
  | cons t ts ih =>
    obtain ⟨ht, hts⟩ := List.forall_mem_cons.mp hkind
    exact ih hts (hreach.target t ht) (h.afterTarget hreach ht)

/-- In every run, each kept execution was there at first or was put by an earlier target. -/
theorem Reaches.explained (h : Reaches b kind s₀ s) : Explained b kind s₀ s := by
  -- Only targets put executions; whatever happens between them can only take some away.
  induction h with
  | here => exact fun e he => .inl he
  | change _ w listings ih =>
    exact ih.mono (List.Subset.refl _) fun _ h => h.change w listings
  | forget _ hlimits hstarted hresults ih =>
    exact ih.mono hstarted fun _ h => h.forget hlimits hstarted hresults
  | target hreach t hkind ih => exact ih.afterTarget hreach hkind
  | query hreach request hkind ih =>
    rw [run_query]
    exact ih.afterTargets hkind hreach

end

/-! ## Targets that keep nothing -/

/-- What a target finds: an execution that is kept and alive, or one that it has started. -/
theorem GetsTo.finds_cases {answer : Except AthenaError String} {r : Except AthenaError Outcome}
    (h : b.GetsTo t service maxRows s s₁ s₂ s' answer r) :
    (∃ e ∈ s.started.entries, answer = .ok e.value ∧
        e.key = rowsKey (b.targetRegion t) t.sql maxRows ∧
        (b.athena.now s₁.world.1).1 < e.expires ∧ s₂.world = b.tick s₁.world) ∨
      AsksStart (b.targetRegion t) (b.statementOf t) s₁.world s₂.world ∧
        ∀ id, answer = .ok id → ∃ calls, s₂.world.2 = s₁.world.2 ++ calls ∧
          b.StartedFor t id calls := by
  have hfinds := ends_remembered.mp h.finds
  cases hfound : (b.found .started (rowsKey (b.targetRegion t) t.sql maxRows) s₁).1 with
  | some id =>
    rw [hfound] at hfinds
    obtain ⟨rfl, rfl⟩ := hfinds
    obtain ⟨e, he, hkey, rfl, halive⟩ := Cache.get_eq_some hfound
    have he : e ∈ s₁.started.entries := he
    rw [h.startedBefore] at he
    exact .inl ⟨e, he, rfl, hkey, halive, world_looked⟩
  | none =>
    rw [hfound] at hfinds
    have hlooked : (b.looked .started (rowsKey (b.targetRegion t) t.sql maxRows) s₁).world =
        b.tick s₁.world := world_looked
    rcases ends_bind.mp hfinds with ⟨id, asked, hask, hkeep⟩ | ⟨e, hask, rfl⟩
    · obtain ⟨rfl, rfl⟩ := (ends_iff_of_run run_keep).mp hkeep
      have hasks := (startNew_ends hask).1
      obtain ⟨w, rest, hnoted⟩ := startNew_noted hask
      rw [hlooked] at hasks hnoted
      refine .inr ⟨hasks, fun id' hid => ?_⟩
      cases hid
      exact ⟨_, hnoted, w, List.mem_cons_self⟩
    · have hasks := (startNew_ends hask).1
      rw [hlooked] at hasks
      exact .inr ⟨hasks, fun _ hid => nomatch hid⟩

theorem GetsTo.keeps_nothing {answer : Except AthenaError String} {r : Except AthenaError Outcome}
    (h : b.GetsTo t service maxRows s s₁ s₂ s' answer r) (hzero : t.cacheDuration.isZero) :
    s'.started.entries ⊆ s.started.entries := by
  intro e he
  rw [h.startedAfter] at he
  rcases remembered_puts (fun _ _ _ h => (asks_startNew t h).1) h.finds he with he | ⟨hlasts, -⟩
  · rw [← h.startedBefore]
    exact he
  · rw [hzero] at hlasts
    cases hlasts

/-- **A target without a cache duration starts its statement, unless it finds an execution that
    another target has kept.** In every run of targets of any kind, with any world and any losses
    between them, a target that has a statement but no cache duration, and that gets past its scan
    limit, keeps nothing. It has its statement started, and what it answers is read from that
    execution. Or else it asks for nothing but rows: an earlier target of the run with the same key
    has put an execution, for a cache duration that is not zero and not over yet when this target
    looks, and what it answers is read from that one. -/
theorem zero_duration_starts {kind : Target → Prop} {w : W} {r : Except AthenaError Outcome}
    (hreach : Reaches b kind (.fresh b.settings (w, [])) s) (hadhoc : isAdHoc t)
    (hzero : t.cacheDuration.isZero) (hmax : b.maxRows t = .ok maxRows)
    (hadmitted : b.Admitted t s) (h : Ends (b.recorded.runTarget t) s r s') :
    s'.started.entries ⊆ s.started.entries ∧
      ∃ service s₁ s₂ answer, b.GetsTo t service maxRows s s₁ s₂ s' answer r ∧
        (AsksStart (b.targetRegion t) (b.statementOf t) s.world s'.world ∧
            (∀ id, answer = .ok id → ∃ calls, s₂.world.2 = s₁.world.2 ++ calls ∧
              b.StartedFor t id calls) ∨
          s₂.world = b.tick s₁.world ∧
            ∃ e, answer = .ok e.value ∧ e.key = rowsKey (b.targetRegion t) t.sql maxRows ∧
              (b.athena.now s₁.world.1).1 < e.expires ∧
              b.PutEarlier kind (.fresh b.settings (w, [])) e s) := by
  rcases runTarget_getsTo h with
    ⟨maxRows', service, s₁, s₂, answer, -, hmax', hgets⟩ | ⟨-, hnot⟩
  · cases hmax.symm.trans hmax'
    refine ⟨hgets.keeps_nothing hzero, service, s₁, s₂, answer, hgets, ?_⟩
    rcases hgets.finds_cases with ⟨e, he, hanswer, hkey, halive, hquiet⟩ | ⟨hasks, hstarted⟩
    · refine .inr ⟨hquiet, e, hanswer, hkey, halive, ?_⟩
      exact (hreach.explained e he).resolve_left List.not_mem_nil
    · exact .inl ⟨(hasks.later hgets.after).earlier hgets.before, hstarted⟩
  · exact absurd ⟨hadhoc, hmax, hadmitted⟩ (hnot maxRows)

end AthenaBackend

namespace Memory

/-- The statement of a workgroup, to be kept for no time. -/
def unkept : Target := { inPrimary with cacheDuration := .zero }

def isUnkept (t : Target) : Prop := t.cacheDuration.isZero

def afterUnkept : Session (Logged Memory) :=
  hasty.recorded.afterTarget (.fresh hasty.settings (twoGroups, [])) unkept

/-- Where no target has a cache duration, each one starts its statement. -/
theorem zero_duration_starts_afterUnkept :
    AthenaBackend.Reaches hasty isUnkept (.fresh hasty.settings (twoGroups, [])) afterUnkept ∧
      AthenaBackend.isAdHoc unkept ∧ unkept.cacheDuration.isZero ∧
      hasty.maxRows unkept = .ok 1000 ∧ hasty.Admitted unkept afterUnkept ∧
      AthenaBackend.AsksStart (hasty.targetRegion unkept) (hasty.statementOf unkept)
        afterUnkept.world (hasty.recorded.afterTarget afterUnkept unkept).world := by
  have hzero : unkept.cacheDuration.isZero := rfl
  have hreach : AthenaBackend.Reaches hasty isUnkept (.fresh hasty.settings (twoGroups, []))
      afterUnkept := .target .here unkept hzero
  have hadhoc : AthenaBackend.isAdHoc unkept := by decide +kernel
  have hmax : hasty.maxRows unkept = .ok 1000 := by decide +kernel
  have hadmitted : hasty.Admitted unkept afterUnkept := admitted_of_run 1000 (by decide +kernel)
  have hends : Ends (hasty.recorded.runTarget unkept) afterUnkept _
      (hasty.recorded.afterTarget afterUnkept unkept) := ends_self _ _
  obtain ⟨-, _, _, _, _, -, hcases⟩ :=
    AthenaBackend.zero_duration_starts hreach hadhoc hzero hmax hadmitted hends
  rcases hcases with ⟨hasks, -⟩ | ⟨-, e, -, -, -, earlier, u, -, hkind, hput, -⟩
  · exact ⟨hreach, hadhoc, hzero, hmax, hadmitted, hasks⟩
  · -- No target of this run could have put it.
    cases hput.lasts.symm.trans hkind

/-- A target without a cache duration answers from an execution that an earlier target has kept. -/
theorem reuse_with_zero_duration :
    AthenaBackend.Reaches hasty (fun _ => True) (.fresh hasty.settings (twoGroups, []))
        afterSuccess ∧
      AthenaBackend.isAdHoc unkept ∧ unkept.cacheDuration.isZero ∧
      hasty.maxRows unkept = .ok 1000 ∧ hasty.Admitted unkept afterSuccess ∧
      ((hasty.recorded.runTarget unkept).run afterSuccess).1.isOk ∧
      ¬ AthenaBackend.AsksStart (hasty.targetRegion unkept) (hasty.statementOf unkept)
        afterSuccess.world (hasty.recorded.afterTarget afterSuccess unkept).world := by
  refine ⟨.target .here inPrimary trivial, by decide +kernel, rfl, by decide +kernel, ?_,
    by decide +kernel, AthenaBackend.not_asksStart (by decide +kernel)⟩
  exact admitted_of_run 1000 (by decide +kernel)

end Memory
end PanelSource
