import PanelSource.Proofs.Athena.Combined
import PanelSource.Proofs.Athena.Listing
import PanelSource.Proofs.Athena.Rows

/- Reading executions directly.

   What a target without a statement of its own is to answer can be said without any cache: look up
   the executions that it names, take the first of each text, read their rows, put them one after
   the other and convert them (`directly`). As long as rows that were read once stay the same, the
   caches of a run make no difference to that (`runTarget_directly`). -/
namespace PanelSource

/-- Results one after the other: all their rows, under the columns of the last one that has any. -/
def ResultSet.together (rs : List ResultSet) : ResultSet where
  columns := ((rs.map fun a => a.columns).filter fun columns => columns ≠ []).getLast?.getD []
  rows := rs.flatMap fun a => a.rows

theorem ResultSet.concat_eq_together (rs : List ResultSet) : concat rs = together rs :=
  congrArg₂ ResultSet.mk columns_concat (rows_concat rs)

namespace AthenaBackend
variable {W : Type} {b : AthenaBackend W} {name : String} {service : RegionService W} {t : Target}
  {s s' : Session (Logged W)}

/-! ## Without caches -/

/-- The ids that a target names, by its inputs or else by its id field. -/
def namedIds (t : Target) : List String :=
  let inputs := (t.inputs.map Text.trim).filter fun id => id ≠ ""
  let field := (t.executionId.toList.splitOn ',').map fun part => Text.trim (String.ofList part)
  if inputs = [] then field.filter fun id => id ≠ "" else inputs

/-- The records that share their text with no earlier one. One without a text shares nothing. -/
def firstRecords (records : List Execution) : List Execution :=
  records.zipIdx.filterMap fun (e, i) =>
    if e.sql.isSome ∧ e.sql ∈ (records.take i).map (·.sql) then none else some e

variable (b) in
/-- What a target without a statement of its own answers, without any cache. -/
def directly (t : Target) : ServiceM W Outcome := do
  let region ← b.athena.region (b.targetRegion t)
  let maxRows ← ExceptT.mk (pure (b.maxRows t))
  if namedIds t = [] then throw (.missingParameter "queryExecutionId")
  else
    let records ← region.allExecutions (namedIds t)
    let rows ← ((firstRecords records).filterMap (·.id)).mapM fun id => region.results id maxRows
    ExceptT.mk (pure (Frame.convert t (ResultSet.together rows)))

theorem trim_ofList (part : List Char) :
    Text.trim (String.ofList part) = String.ofList (Text.strip part) := by
  unfold Text.trim
  rw [String.toList_ofList]

theorem ofList_eq_empty_iff (cs : List Char) : String.ofList cs = "" ↔ cs = [] := by
  rw [← String.toList_inj, String.toList_ofList]
  rfl

theorem splitCommas_eq (field : List Char) : Panel.splitCommas field =
    ((field.splitOn ',').map fun part => Text.trim (String.ofList part)).filter (· ≠ "") := by
  unfold Panel.splitCommas
  induction field.splitOn ',' with
  | nil => rfl
  | cons part parts ih =>
    rw [List.map_cons, List.map_cons, trim_ofList]
    cases hpart : Text.strip part with
    | nil => simpa [hpart] using ih
    | cons c cs => simpa [ofList_eq_empty_iff] using ih

theorem inputIds_eq (t : Target) : inputIds t = namedIds t := by
  unfold inputIds namedIds
  simp only [List.isEmpty_iff, splitCommas_eq]

/-- The first records among those that follow others, when the texts of the others were seen. -/
theorem distinct_eq (before rest : List Execution) (seen : List String)
    (hseen : ∀ sql, sql ∈ seen ↔ some sql ∈ before.map (·.sql)) :
    distinct seen rest = (rest.zipIdx before.length).filterMap fun (e, i) =>
      if e.sql.isSome ∧ e.sql ∈ ((before ++ rest).take i).map (·.sql) then none else some e := by
  induction rest generalizing before seen with
  | nil => rfl
  | cons e rest ih =>
    have hnext : (before ++ [e]).length = before.length + 1 := List.length_append
    have hbefore : ((before ++ [e]) ++ rest).take before.length = before := by
      rw [← List.append_cons]
      exact List.take_left
    -- The texts seen so far are those of the executions before, whichever way the head goes.
    have htexts : ∀ sql,
        some sql ∈ (before ++ [e]).map (·.sql) ↔ sql ∈ seen ∨ some sql = e.sql := by
      intro sql
      rw [List.map_append, List.mem_append, ← hseen, List.map_singleton, List.mem_singleton]
    rw [List.zipIdx_cons, List.append_cons before e rest, ← hnext]
    cases hsql : e.sql with
    | none =>
      have hseen' : ∀ sql, sql ∈ seen ↔ some sql ∈ (before ++ [e]).map (·.sql) := by
        intro sql
        rw [htexts, hsql]
        simp
      rw [List.filterMap_cons_some (b := e) (by simp [hsql]), ← ih _ _ hseen']
      simp [distinct, hsql]
    | some text =>
      by_cases hmem : text ∈ seen
      · have hseen' : ∀ sql, sql ∈ seen ↔ some sql ∈ (before ++ [e]).map (·.sql) := by
          intro sql
          rw [htexts, hsql, Option.some.injEq]
          exact ⟨.inl, fun h => h.elim id fun h => h ▸ hmem⟩
        have hshared := (hseen text).mp hmem
        rw [List.filterMap_cons_none (by simpa [hsql, hbefore] using hshared), ← ih _ _ hseen']
        simp [distinct, hsql, hmem]
      · have hseen' : ∀ sql, sql ∈ text :: seen ↔ some sql ∈ (before ++ [e]).map (·.sql) := by
          intro sql
          rw [htexts, hsql, Option.some.injEq, List.mem_cons, or_comm]
        have halone := mt (hseen text).mpr hmem
        rw [List.filterMap_cons_some (b := e) (by simpa [hsql, hbefore] using halone),
          ← ih _ _ hseen']
        simp [distinct, hsql, hmem]

theorem distinct_firstRecords (records : List Execution) :
    distinct [] records = firstRecords records :=
  distinct_eq [] records [] (by simp)

/-! ## Rows that stay the same -/

section
variable {answer : W → String → String → Int → Except AthenaError ResultSet}

variable (b) in
/-- In every world, each region answers for the rows of an execution in its own way, and neither
    reading rows nor looking at the clock changes what it answers. -/
structure SteadyReads (answer : W → String → String → Int → Except AthenaError ResultSet) :
    Prop where
  results {region : String} {service : RegionService W} {v v' : W}
    (hserves : Ends (b.athena.region region) v (.ok service) v') {id : String} {maxRows : Int}
    {w w' : W} {r : Except AthenaError ResultSet} (h : Ends (service.results id maxRows) w r w') :
    r = answer w region id maxRows ∧ answer w' = answer w
  now (w : W) : answer (b.athena.now w).2 = answer w

/-- The rows that were read are still answered. -/
def StillAnswered (answer : W → String → String → Int → Except AthenaError ResultSet)
    (w : Logged W) : Prop :=
  ∀ ⦃region id maxRows rows⦄, NotedRows region id maxRows rows w.2 →
    answer w.1 region id maxRows = .ok rows

variable {maxRows : Int} {ttl : Span} {v v' : W}

/-- Reading rows does not change what is answered. -/
theorem answer_rows {id : String} {r : Except AthenaError ResultSet}
    (hsteady : b.SteadyReads answer) (hserves : Ends (b.athena.region name) v (.ok service) v')
    (hslash : '/' ∉ name.toList) (hkept : KeptRows s)
    (h : Ends (b.recorded.rows name (service.recorded name) id maxRows ttl) s r s') :
    answer s'.world.1 = answer s.world.1 := by
  have htick : answer (b.tick s.world).1 = answer s.world.1 := hsteady.now s.world.1
  cases (rows_cases hslash hkept h).2 with
  | kept _ hworld =>
    rw [hworld]
    exact htick
  | asked hends _ hworld =>
    have hafter := (hsteady.results hserves hends).2
    rcases hworld with hworld | hworld
    · rw [hworld, hafter, htick]
    · rw [hworld, hsteady.now, hafter, htick]

theorem answer_allRows {ids : List String} {done : ResultSet} {r : Except AthenaError ResultSet}
    (hsteady : b.SteadyReads answer) (hserves : Ends (b.athena.region name) v (.ok service) v')
    (hslash : '/' ∉ name.toList) (hkept : KeptRows s)
    (h : Ends (b.recorded.allRows name (service.recorded name) maxRows ttl done ids) s r s') :
    answer s'.world.1 = answer s.world.1 := by
  induction ids generalizing done s with
  | nil =>
    obtain ⟨-, rfl⟩ := ends_pure.mp h
    rfl
  | cons id ids ih =>
    rcases ends_bind.mp h with ⟨rows, s₁, hrows, hrest⟩ | ⟨e, hrows, -⟩
    · rw [ih (rows_cases hslash hkept hrows).1 hrest,
        answer_rows hsteady hserves hslash hkept hrows]
    · exact answer_rows hsteady hserves hslash hkept hrows

theorem rows_steady {id : String} {r : Except AthenaError ResultSet}
    (hsteady : b.SteadyReads answer) (hserves : Ends (b.athena.region name) v (.ok service) v')
    (hslash : '/' ∉ name.toList) (hkept : KeptRows s)
    (hstill : ∀ rows, NotedRows name id maxRows rows s.world.2 →
      answer s.world.1 name id maxRows = .ok rows)
    (h : Ends (b.recorded.rows name (service.recorded name) id maxRows ttl) s r s') :
    r = answer s.world.1 name id maxRows := by
  cases (rows_cases hslash hkept h).2 with
  | kept hnoted _ => exact (hstill _ hnoted).symm
  | asked hends _ _ =>
    have htick : answer (b.tick s.world).1 = answer s.world.1 := hsteady.now s.world.1
    rw [← htick]
    exact (hsteady.results hserves hends).1

/-- The rows of several executions are what the service answers for them, one after the other. -/
theorem allRows_steady {ids : List String} {done : ResultSet} {r : Except AthenaError ResultSet}
    (hsteady : b.SteadyReads answer) (hserves : Ends (b.athena.region name) v (.ok service) v')
    (hslash : '/' ∉ name.toList) (hkept : KeptRows s)
    (hstill : ∀ id rows, NotedRows name id maxRows rows s'.world.2 →
      answer s.world.1 name id maxRows = .ok rows)
    (h : Ends (b.recorded.allRows name (service.recorded name) maxRows ttl done ids) s r s') :
    r = (ids.mapM fun id => answer s.world.1 name id maxRows).map fun rows =>
      rows.foldl ResultSet.extend done := by
  induction ids generalizing done s with
  | nil =>
    obtain ⟨rfl, rfl⟩ := ends_pure.mp h
    rfl
  | cons id ids ih =>
    have hlater := (fills_allRows _ _ h).2.later
    have hstill₀ : ∀ rows, NotedRows name id maxRows rows s.world.2 →
        answer s.world.1 name id maxRows = .ok rows :=
      fun rows hnoted => hstill id rows (hnoted.later hlater)
    rw [List.mapM_cons]
    rcases ends_bind.mp h with ⟨rows, s₁, hrows, hrest⟩ | ⟨e, hrows, rfl⟩
    · have hanswer := rows_steady hsteady hserves hslash hkept hstill₀ hrows
      have hafter := answer_rows hsteady hserves hslash hkept hrows
      have hstill₁ : ∀ id rows, NotedRows name id maxRows rows s'.world.2 →
          answer s₁.world.1 name id maxRows = .ok rows := by
        rw [hafter]
        exact hstill
      -- Reading these rows does not change what is answered for the others.
      rw [ih (rows_cases hslash hkept hrows).1 hstill₁ hrest, ← hanswer, hafter]
      cases ids.mapM fun id => answer s.world.1 name id maxRows with
      | error e => rfl
      | ok more => rfl
    · rw [← rows_steady hsteady hserves hslash hkept hstill₀ hrows]
      rfl

/-- Reading directly answers the same. -/
theorem mapM_steady {w w' : W} {ids : List String}
    {r : Except AthenaError (List ResultSet)} (hsteady : b.SteadyReads answer)
    (hserves : Ends (b.athena.region name) v (.ok service) v')
    (h : Ends (ids.mapM fun id => service.results id maxRows) w r w') :
    r = ids.mapM fun id => answer w name id maxRows := by
  induction ids generalizing w r with
  | nil =>
    obtain ⟨rfl, rfl⟩ := ends_pure.mp h
    rfl
  | cons id ids ih =>
    rw [List.mapM_cons] at h ⊢
    rcases ends_bind.mp h with ⟨rows, w₁, hrows, hrest⟩ | ⟨e, hrows, rfl⟩
    · obtain ⟨hanswer, hafter⟩ := hsteady.results hserves hrows
      rw [← hanswer]
      rcases ends_bind.mp hrest with ⟨more, _, hmore, hdone⟩ | ⟨e, hmore, rfl⟩
      · obtain ⟨rfl, rfl⟩ := ends_pure.mp hdone
        rw [← hafter, ← ih hmore]
        rfl
      · rw [← hafter, ← ih hmore]
        rfl
    · rw [← (hsteady.results hserves hrows).1]
      rfl

end

/-! ## Targets -/

/-- The executions that a target reads are the first ones of the records that it names. -/
theorem distinctInputs_cases {r : Except AthenaError (List String)}
    (h : Ends (distinctInputs (service.recorded name) t) s r s') :
    (namedIds t = [] ∧ r = .error (.missingParameter "queryExecutionId")) ∨
      (namedIds t ≠ [] ∧ ∃ records,
        Ends (service.allExecutions (namedIds t)) s.world.1 records s'.world.1 ∧
        r = records.map fun records => (firstRecords records).filterMap (·.id)) := by
  unfold distinctInputs at h
  simp only [inputIds_eq, List.isEmpty_iff] at h
  split at h
  · rename_i hnone
    exact .inl ⟨hnone, (ends_throw.mp h).1⟩
  · rename_i hsome
    refine .inr ⟨hsome, ?_⟩
    have hmirrors : Mirrors Prod.fst ((service.recorded name).allExecutions (namedIds t))
        (service.allExecutions (namedIds t)) :=
      Mirrors.inBatches (fun _ => mirrors_noting) _
    rcases ends_bind.mp h with ⟨records, _, hlook, h⟩ | ⟨e, hlook, rfl⟩
    · obtain ⟨w, hcall, rfl⟩ := ends_call.mp hlook
      obtain ⟨rfl, rfl⟩ := ends_pure.mp h
      refine ⟨_, hmirrors hcall, ?_⟩
      rw [distinct_firstRecords]
      rfl
    · obtain ⟨w, hcall, rfl⟩ := ends_call.mp hlook
      exact ⟨_, hmirrors hcall, rfl⟩

section
variable {answer : W → String → String → Int → Except AthenaError ResultSet}

/-- What is read without caches once the row limit is known. -/
theorem ends_directly {maxRows : Int} {v w w' : W} {r : Except AthenaError Outcome}
    (hregion : Ends (b.athena.region (b.targetRegion t)) w (.ok service) v)
    (hmax : b.maxRows t = .ok maxRows) : Ends (b.directly t) w r w' ↔
      Ends (if namedIds t = [] then throw (.missingParameter "queryExecutionId")
        else do
          let records ← service.allExecutions (namedIds t)
          let rows ← ((firstRecords records).filterMap (·.id)).mapM fun id =>
            service.results id maxRows
          ExceptT.mk (pure (Frame.convert t (ResultSet.together rows)))) v r w' := by
  unfold directly
  rw [ends_bind_of_run hregion, hmax]
  exact ends_bind_of_run rfl

/-- The rows that were read through the cache are read directly from the same world on. -/
theorem reads_directly {s₁ : Session (Logged W)} {v w : W} {maxRows : Int} {ttl : Span}
    {ids : List String} {rows : Except AthenaError ResultSet} (hsteady : b.SteadyReads answer)
    (hserves : Ends (b.athena.region (b.targetRegion t)) v (.ok service) w)
    (hslash : '/' ∉ (b.targetRegion t).toList) (hkept : KeptRows s₁)
    (hstill : StillAnswered answer s'.world)
    (h : Ends (b.recorded.allRows (b.targetRegion t) (service.recorded (b.targetRegion t)) maxRows
      ttl {} ids) s₁ rows s') :
    ∃ w, Ends (do
      let rows ← ids.mapM fun id => service.results id maxRows
      ExceptT.mk (pure (Frame.convert t (ResultSet.together rows)))) s₁.world.1
      (rows.bind (Frame.convert t)) w := by
  have hafter := answer_allRows hsteady hserves hslash hkept h
  have hstill₁ : ∀ id rows, NotedRows (b.targetRegion t) id maxRows rows s'.world.2 →
      answer s₁.world.1 (b.targetRegion t) id maxRows = .ok rows := by
    intro id rows hnoted
    rw [← hafter]
    exact hstill hnoted
  obtain ⟨all, w, hread⟩ : ∃ all w, Ends (ids.mapM fun id => service.results id maxRows)
      s₁.world.1 all w := ⟨_, _, ends_self _ _⟩
  rw [allRows_steady hsteady hserves hslash hkept hstill₁ h, ← mapM_steady hsteady hserves hread]
  refine ⟨w, ends_bind.mpr ?_⟩
  cases all with
  | error e => exact .inr ⟨e, hread, rfl⟩
  | ok all =>
    refine .inl ⟨all, w, hread, ?_⟩
    rw [← ResultSet.concat_eq_together]
    exact ends_mk.mpr ⟨rfl, rfl⟩

/-- However a target ends, it ends like that without caches. -/
theorem TargetEnds.directly {r : Except AthenaError Outcome} (h : TargetEnds b t s s' r)
    (hsteady : b.SteadyReads answer) (hslash : '/' ∉ (b.targetRegion t).toList)
    (hinputs : ¬ isAdHoc t) (hkept : KeptRows s) (hstill : StillAnswered answer s'.world) :
    ∃ w, Ends (b.directly t) s.world.1 r w := by
  cases h with
  | @refused e v hwhy _ =>
    rcases hwhy with hregion | ⟨service, hregion, hmax⟩
    · exact ⟨v, ends_bind.mpr (.inr ⟨e, hregion, rfl⟩)⟩
    · refine ⟨v, ends_bind.mpr (.inl ⟨service, v, hregion, ?_⟩)⟩
      rw [hmax]
      exact ends_bind.mpr (.inr ⟨e, rfl, rfl⟩)
  | unread hregion hmax hsource =>
    rw [source_inputs hinputs] at hsource
    simp only [ends_directly hregion hmax]
    rcases distinctInputs_cases hsource with ⟨hnone, he⟩ | ⟨hsome, records, hlook, he⟩
    · cases he
      rw [if_pos hnone]
      exact ⟨_, ends_throw.mpr ⟨rfl, rfl⟩⟩
    · rw [if_neg hsome]
      cases records with
      | ok records => cases he
      | error e =>
        cases he
        exact ⟨_, ends_bind.mpr (.inr ⟨_, hlook, rfl⟩)⟩
  | @read service v maxRows ids s₁ rows hregion hmax hsource hrows =>
    simp only [ends_directly hregion hmax]
    -- Finding the ids leaves the shelf of rows alone.
    have hkept₁ : KeptRows s₁ := by
      have hkept₀ : KeptRows { s with world := (v, s.world.2) } := hkept
      exact (sameRows_source hsource).keptRows hkept₀
    rw [source_inputs hinputs] at hsource
    rcases distinctInputs_cases hsource with ⟨-, he⟩ | ⟨hsome, records, hlook, he⟩
    · cases he
    rw [if_neg hsome]
    cases records with
    | error e => cases he
    | ok records =>
      cases he
      obtain ⟨w, hread⟩ := reads_directly hsteady hregion hslash hkept₁ hstill hrows
      exact ⟨w, ends_bind.mpr (.inl ⟨records, _, hlook, hread⟩)⟩

end

end AthenaBackend

namespace Memory

/-- Two executions of one statement. -/
def pastMemory : Memory :=
  { executions :=
      [{ id := some "b", sql := some "SELECT 1" }, { id := some "a", sql := some "SELECT 1" }]
    results :=
      [("b", ⟨[⟨"v", "double"⟩], [[some "1"]]⟩), ("a", ⟨[⟨"v", "double"⟩], [[some "2"]]⟩)] }

/-- A statement in some region, for some workgroup and output location. -/
def statement (region workGroup outputLocation sql : String) : Target :=
  { region, workGroup, outputLocation, sql, format := "table", cacheDuration := .ofSeconds 60 }

end Memory
end PanelSource
