import PanelSource.Proofs.Athena.TargetRun

/- Where rows come from.

   Rows that are kept are what the service has answered for the execution and the row limit in their
   key (`KeptRows`). So whatever rows a target reads, the service has answered them (`rows_cases`),
   now or at some time before. -/
namespace PanelSource

/-- The service of a region has answered with these rows. -/
def NotedRows {W : Type} (region id : String) (maxRows : Int) (rows : ResultSet)
    (log : List (Noted W)) : Prop := ∃ w, ⟨region, w, .results id maxRows (.ok rows)⟩ ∈ log

theorem NotedRows.later {W : Type} {region id : String} {maxRows : Int} {rows : ResultSet}
    {w w' : Logged W} (h : NotedRows region id maxRows rows w.2) (hlater : Later w w') :
    NotedRows region id maxRows rows w'.2 := by
  obtain ⟨v, hv⟩ := h
  exact ⟨v, hlater.subset hv⟩

namespace AthenaBackend
variable {W : Type} {b : AthenaBackend W} {name : String} {service : RegionService W}
  {s s' : Session (Logged W)}

/-- What is kept under the key of an execution are rows that the service has answered for it. -/
def KeptRows (s : Session (Logged W)) : Prop :=
  ∀ e ∈ s.results.entries, ∃ region id maxRows, '/' ∉ region.toList ∧
    e.key = rowsKey region id maxRows ∧ NotedRows region id maxRows e.value s.world.2

theorem KeptRows.later (h : KeptRows s) (hkept : s'.results.entries ⊆ s.results.entries)
    (hlater : Later s.world s'.world) : KeptRows s' := by
  intro e he
  obtain ⟨region, id, maxRows, hslash, hkey, hnoted⟩ := h e (hkept he)
  exact ⟨region, id, maxRows, hslash, hkey, hnoted.later hlater⟩

/-- How rows are read: they are kept, or the service is asked for them. -/
inductive RowsEnd (b : AthenaBackend W) (name : String) (service : RegionService W) (id : String)
    (maxRows : Int) (s s' : Session (Logged W)) : Except AthenaError ResultSet → Prop
  | kept {rows : ResultSet} (hnoted : NotedRows name id maxRows rows s.world.2)
      (hworld : s'.world = b.tick s.world) : RowsEnd b name service id maxRows s s' (.ok rows)
  | asked {r : Except AthenaError ResultSet} {v : W}
      (hends : Ends (service.results id maxRows) (b.tick s.world).1 r v)
      (hlog : s'.world.2 = s.world.2 ++ [⟨name, (b.tick s.world).1, .results id maxRows r⟩])
      (hworld : s'.world.1 = v ∨ s'.world.1 = (b.athena.now v).2) :
      RowsEnd b name service id maxRows s s' r

theorem rows_cases {id : String} {maxRows : Int} {ttl : Span} {r : Except AthenaError ResultSet}
    (hslash : '/' ∉ name.toList) (hkept : KeptRows s)
    (h : Ends (b.recorded.rows name (service.recorded name) id maxRows ttl) s r s') :
    KeptRows s' ∧ RowsEnd b name service id maxRows s s' r := by
  rw [rows_eq] at h
  cases remembered_call h with
  | @kept e he hkey hworld hsub =>
    have hlater : Later s.world s'.world := by
      rw [hworld]
      exact List.prefix_rfl
    obtain ⟨region, id', maxRows', hslash', hkey', hnoted⟩ := hkept e he
    obtain ⟨rfl, rfl, rfl⟩ := rowsKey_inj hslash' hslash (hkey'.symm.trans hkey)
    exact ⟨hkept.later hsub hlater, .kept hnoted hworld⟩
  | called hends hlog hworld hentries =>
    refine ⟨fun e he => ?_, .asked hends hlog hworld⟩
    rcases hentries e he with ⟨hold, -⟩ | ⟨hkey, rfl⟩
    · obtain ⟨region, id', maxRows', hslash', hkey', hnoted⟩ := hkept e hold
      exact ⟨region, id', maxRows', hslash', hkey', hnoted.later ⟨_, hlog.symm⟩⟩
    · refine ⟨name, id, maxRows, hslash, hkey, (b.tick s.world).1, ?_⟩
      rw [hlog]
      exact List.mem_append_right _ List.mem_cons_self

theorem RowsEnd.noted {id : String} {maxRows : Int} {rows : ResultSet}
    (h : RowsEnd b name service id maxRows s s' (.ok rows)) :
    NotedRows name id maxRows rows s'.world.2 := by
  cases h with
  | kept hnoted hworld =>
    rw [hworld]
    exact hnoted
  | asked hends hlog hworld =>
    refine ⟨(b.tick s.world).1, ?_⟩
    rw [hlog]
    exact List.mem_append_right _ List.mem_cons_self

/-! ## Runs -/

theorem keptRows_allRows {maxRows : Int} {ttl : Span} {done : ResultSet} {ids : List String}
    {r : Except AthenaError ResultSet} (hslash : '/' ∉ name.toList) (hkept : KeptRows s)
    (h : Ends (b.recorded.allRows name (service.recorded name) maxRows ttl done ids) s r s') :
    KeptRows s' := by
  induction ids generalizing done s with
  | nil =>
    obtain ⟨-, rfl⟩ := ends_pure.mp h
    exact hkept
  | cons id ids ih =>
    rcases ends_bind.mp h with ⟨rows, s₁, hrows, h⟩ | ⟨e, hrows, -⟩
    · exact ih (rows_cases hslash hkept hrows).1 h
    · exact (rows_cases hslash hkept hrows).1

/-- The rows that are kept are the same ones, and the log may be longer. -/
def SameRows (s s' : Session (Logged W)) : Prop :=
  s'.results = s.results ∧ Later s.world s'.world

instance : IsPreorder (Session (Logged W)) SameRows where
  refl s := ⟨rfl, refl s.world⟩
  trans _ _ _ h h' := ⟨h'.1.trans h.1, IsTrans.trans _ _ _ h.2 h'.2⟩

theorem SameRows.keptRows (h : SameRows s s') (hkept : KeptRows s) : KeptRows s' := by
  refine hkept.later ?_ h.2
  rw [h.1]
  exact List.Subset.refl _

/-- Finding the executions of a target leaves the rows alone. -/
theorem sameRows_source {t : Target} {maxRows : Int} :
    Keeps SameRows (b.recorded.source name (service.recorded name) t maxRows) := by
  by_cases hadhoc : isAdHoc t
  · rw [source_adHoc hadhoc, started_eq]
    refine Keeps.bind (Keeps.bind ?_ fun limit => ?_) fun id => keeps_pure _
    · intro s r s' h
      obtain ⟨⟨c, w, rfl⟩, hadds⟩ := fills_scanLimit h
      exact ⟨rfl, hadds.later⟩
    · split
      · exact keeps_throw _
      · intro s r s' h
        obtain ⟨⟨c, w, rfl⟩, hadds⟩ := fills_remembered (asks_startNew t) h
        exact ⟨rfl, hadds.later⟩
  · rw [source_inputs hadhoc]
    intro s r s' h
    obtain ⟨⟨w, rfl⟩, hadds⟩ := asks_distinctInputs t h
    exact ⟨rfl, hadds.later⟩

theorem keptRows_runTarget {t : Target} {r : Except AthenaError Outcome}
    (hslash : '/' ∉ (b.targetRegion t).toList) (hkept : KeptRows s)
    (h : Ends (b.recorded.runTarget t) s r s') : KeptRows s' := by
  cases runTarget_cases h with
  | refused _ hafter =>
    rw [hafter]
    exact hkept
  | unread _ _ hsource => exact (sameRows_source hsource).keptRows hkept
  | read _ _ hsource hrows =>
    exact keptRows_allRows hslash ((sameRows_source hsource).keptRows hkept) hrows

/-- In every run, rows that are kept were answered. -/
theorem TargetRun.keptRows {ts : List Target} (h : TargetRun b ts s) : KeptRows s := by
  refine h.keeps (I := fun _ s => KeptRows s) (fun w e he => ?_) (fun w h => h) ?_ ?_
  · cases he
  · intro ts s scanLimits started results _ _ hresults h e he
    exact h e (hresults he)
  · intro ts s t r s' hslash hends h
    exact keptRows_runTarget hslash h hends

end AthenaBackend
end PanelSource
