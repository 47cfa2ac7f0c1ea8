import PanelSource.Proofs.Athena.Direct

/- Panels of which some targets fail.

   The outcomes of a request travel in a reply by the references of their targets. Where these are
   distinct each outcome stays what its target made it (`run_replyTo_eq`) and is found again
   (`get?_reply`), so that the panel draws what the targets that succeeded have answered and lists
   the others, both in the order of the targets (`run_panel`). -/
namespace PanelSource

namespace Panel

abbrev Endings := List (Target × Except AthenaError Outcome)

/-- What a panel draws of a target. -/
def drawn : Target × Except AthenaError Outcome → List PanelItem
  | (_, .ok o) => o.series.map .series ++ o.tables.map .table
  | (_, .error _) => []

/-- What a panel reports about a target. -/
def failure? : Target × Except AthenaError Outcome → Option TargetError
  | (_, .ok _) => none
  | (t, .error e) => some ⟨t.refId, e.message⟩

/-- The outcome that travels in a reply. -/
def outcomeOf : Except AthenaError Outcome → Outcome
  | .ok o => o
  | .error e => .failed e.message

def entry (ending : Target × Except AthenaError Outcome) : String × Outcome :=
  (ending.1.refId, outcomeOf ending.2)

/-- No target is said to have succeeded with an error. -/
def Plain (endings : Endings) : Prop := ∀ t o, (t, .ok o) ∈ endings → o.error = none

theorem addOutcome_entry {ending : Target × Except AthenaError Outcome}
    (h : ∀ o, ending.2 = .ok o → o.error = none) (done : PanelReply) :
    addOutcome done ending.1.refId (outcomeOf ending.2) =
      ⟨done.data ++ drawn ending, done.errors ++ (failure? ending).toList⟩ := by
  obtain ⟨t, e | o⟩ := ending
  · simp [addOutcome, outcomeOf, Outcome.failed, drawn, failure?]
  · simp [addOutcome, outcomeOf, h o rfl, drawn, failure?]

/-- An outcome is found by the reference of its target. -/
theorem get?_reply {endings : Endings} (hnodup : (endings.map (·.1.refId)).Nodup)
    {ending : Target × Except AthenaError Outcome} (h : ending ∈ endings) :
    Reply.get? ⟨endings.map entry⟩ ending.1.refId = some (outcomeOf ending.2) := by
  unfold Reply.get?
  induction endings with
  | nil => cases h
  | cons first rest ih =>
    rw [List.map_cons, List.nodup_cons] at hnodup
    rw [List.map_cons, List.lookup_cons]
    rcases List.mem_cons.mp h with rfl | h
    · simp [entry]
    · have hother : (ending.1.refId == first.1.refId) = false := by
        rw [beq_eq_false_iff_ne]
        intro heq
        exact hnodup.1 (heq ▸ List.mem_map_of_mem h)
      show (match ending.1.refId == first.1.refId with | true => _ | false => _) = _
      rw [hother]
      exact ih hnodup.2 h

/-- What a panel adds for one target. -/
def addTarget (reply : Reply) (done : PanelReply) (t : Target) : PanelReply :=
  match reply.get? t.refId with
  | some o => addOutcome done t.refId o
  | none => done

/-- A panel takes the outcomes of its targets one by one from a reply that holds them. -/
theorem reshape_eq {reply : Reply} {endings : Endings} (hplain : Plain endings)
    (hreply : ∀ ending ∈ endings, reply.get? ending.1.refId = some (outcomeOf ending.2)) :
    reshape (endings.map (·.1)) reply =
      ⟨endings.flatMap drawn, endings.filterMap failure?⟩ := by
  -- The fold starts from what earlier targets have added.
  suffices hfrom : ∀ done : PanelReply,
      (endings.map (·.1)).foldl (addTarget reply) done =
      ⟨done.data ++ endings.flatMap drawn, done.errors ++ endings.filterMap failure?⟩ from
    hfrom {}
  induction endings with
  | nil => intro done; simp
  | cons first rest ih =>
    intro done
    have hfirst : ∀ o, first.2 = .ok o → o.error = none := by
      intro o ho
      exact hplain first.1 o (ho ▸ List.mem_cons_self)
    rw [List.map_cons, List.foldl_cons, addTarget, hreply first List.mem_cons_self]
    simp only
    rw [addOutcome_entry hfirst]
    rw [ih (fun t o h => hplain t o (List.mem_cons_of_mem _ h))
      (fun ending h => hreply ending (List.mem_cons_of_mem _ h))]
    cases hfail : failure? first with
    | none => simp [List.filterMap_cons_none hfail]
    | some error => simp [List.filterMap_cons_some hfail]

theorem insert_fresh {reply : Reply} {refId : String} (h : refId ∉ reply.results.map (·.1))
    (o : Outcome) : reply.insert refId o = ⟨reply.results ++ [(refId, o)]⟩ := by
  have hall : (reply.results.filter fun e => e.1 != refId) = reply.results := by
    rw [List.filter_eq_self]
    intro e he
    rw [bne_iff_ne]
    intro heq
    exact h (heq ▸ List.mem_map_of_mem he)
  simp only [Reply.insert, hall]

end Panel

namespace Frame

/-- What is converted carries no error. -/
theorem error_convert {t : Target} {r : ResultSet} {o : Outcome} (h : convert t r = .ok o) :
    o.error = none := by
  unfold convert at h
  simp only at h
  split at h
  · cases htable : toTable (.ofTarget t) r with
    | error e =>
      rw [htable] at h
      cases h
    | ok table =>
      rw [htable] at h
      cases h
      rfl
  · cases hseries : toSeries (.ofTarget t) r with
    | error e =>
      rw [hseries] at h
      cases h
    | ok series =>
      rw [hseries] at h
      cases h
      rfl

end Frame

namespace AthenaBackend
open Panel
variable {W : Type} {b : AthenaBackend W}

theorem error_runTarget {t : Target} {s s' : Session W} {o : Outcome}
    (h : Ends (b.runTarget t) s (.ok o) s') : o.error = none := by
  rw [runTarget_eq] at h
  obtain ⟨region, _, -, h⟩ := ends_ok_bind.mp h
  obtain ⟨maxRows, _, -, h⟩ := ends_ok_bind.mp h
  obtain ⟨ids, _, -, h⟩ := ends_ok_bind.mp h
  obtain ⟨rows, _, -, h⟩ := ends_ok_bind.mp h
  obtain ⟨hconvert, -⟩ := ends_mk.mp h
  exact Frame.error_convert hconvert.symm

variable (b) in
/-- How targets end that are run one after the other, each from the session that the one before it
    has left. -/
def endings : Session W → List Target → Endings
  | _, [] => []
  | s, t :: ts => (t, ((b.runTarget t).run s).1) :: endings (b.afterTarget s t) ts

theorem map_fst_endings (s : Session W) (ts : List Target) :
    (b.endings s ts).map (·.1) = ts := by
  induction ts generalizing s with
  | nil => rfl
  | cons t ts ih => simp [endings, ih]

theorem map_refId_endings (s : Session W) (ts : List Target) :
    (b.endings s ts).map (·.1.refId) = ts.map (·.refId) := by
  conv => rhs; rw [← map_fst_endings (b := b) s ts, List.map_map]
  rfl

theorem plain_endings (s : Session W) (ts : List Target) : Plain (b.endings s ts) := by
  induction ts generalizing s with
  | nil => intro t o h; cases h
  | cons t ts ih =>
    intro t' o h
    rcases List.mem_cons.mp h with h | h
    · obtain ⟨rfl, ho⟩ := Prod.mk.inj h
      exact error_runTarget (Prod.ext ho.symm rfl : (b.runTarget t').run s = (.ok o, _))
    · exact ih _ _ _ h

theorem run_outcome_eq (t : Target) (s : Session W) :
    (b.outcome t).run s = (outcomeOf ((b.runTarget t).run s).1, b.afterTarget s t) := by
  refine Prod.ext ?_ (run_outcome t s)
  have hrun : ((b.outcome t).run s).1 =
      (StateT.run (m := Id) (match ((b.runTarget t).run s).1 with
        | .ok o => return o
        | .error e => return .failed e.message) (b.afterTarget s t)).1 := rfl
  rw [hrun]
  cases ((b.runTarget t).run s).1 with
  | error e => rfl
  | ok o => rfl

/-- Outcomes of distinct targets stand in a reply one behind the other. -/
theorem run_replyTo_eq (reply : Reply) (ts : List Target) (s : Session W)
    (hnodup : (reply.results.map (·.1) ++ ts.map (·.refId)).Nodup) :
    (b.replyTo reply ts).run s =
      (⟨reply.results ++ (b.endings s ts).map entry⟩, ts.foldl b.afterTarget s) := by
  induction ts generalizing reply s with
  | nil =>
    simp only [endings, List.map_nil, List.append_nil]
    rfl
  | cons t ts ih =>
    have hrun : (b.replyTo reply (t :: ts)).run s =
        (b.replyTo (reply.insert t.refId ((b.outcome t).run s).1) ts).run
          ((b.outcome t).run s).2 := rfl
    have hfresh : t.refId ∉ reply.results.map (·.1) := by
      intro hmem
      exact (List.nodup_append.mp hnodup).2.2 _ hmem _ List.mem_cons_self rfl
    rw [hrun, run_outcome_eq, insert_fresh hfresh, ih _ _ (by simpa using hnodup)]
    simp [endings, entry]

end AthenaBackend

namespace Panel

/-- The targets that a panel runs, as it runs them. -/
def asked (vars : Variable.Store) (region : String) (targets : List Target) : List Target :=
  (targets.filter fun t => !t.hide).map (prepare vars region)

section
variable (vars : Variable.Store) (region : String)

@[simp]
theorem refId_prepare (t : Target) : (prepare vars region t).refId = t.refId := by
  unfold prepare
  simp only
  split
  · rfl
  · rfl

@[simp]
theorem hide_prepare (t : Target) : (prepare vars region t).hide = t.hide := by
  unfold prepare
  simp only
  split
  · rfl
  · rfl

theorem map_refId_asked (targets : List Target) : (asked vars region targets).map (·.refId) =
    (targets.filter fun t => !t.hide).map (·.refId) := by
  simp [asked]

theorem filter_asked (targets : List Target) :
    ((asked vars region targets).filter fun t => !t.hide) = asked vars region targets := by
  rw [List.filter_eq_self]
  intro t ht
  obtain ⟨t, hvisible, rfl⟩ := List.mem_map.mp ht
  rw [hide_prepare]
  exact (List.mem_filter.mp hvisible).2

end

end Panel

namespace AthenaBackend
open Panel
variable {W : Type} {b : AthenaBackend W}

theorem run_nothing {vars : Variable.Store} {region : String} {targets : List Target}
    (h : asked vars region targets = []) (window : Window) (backend : PanelBackend W) :
    Panel.run backend vars window region targets = pure (.ok {}) := by
  unfold Panel.run request
  simp only
  rw [← asked, h]
  rfl

/-- With a visible target a panel is the reply to its visible targets, in their order. -/
theorem run_asked {vars : Variable.Store} {region : String} {targets : List Target}
    (h : asked vars region targets ≠ []) (window : Window) (s : Session W) :
    (Panel.run b.panels vars window region targets).run s =
      (.ok (reshape (asked vars region targets)
          ((b.replyTo {} (asked vars region targets)).run s).1),
        ((b.replyTo {} (asked vars region targets)).run s).2) := by
  unfold Panel.run request
  simp only
  rw [← asked, if_neg (by simpa using h)]
  have hall := filter_asked vars region targets
  show (Except.ok (reshape (asked vars region targets)
      ((b.replyTo {} ((asked vars region targets).filter fun t => !t.hide)).run s).1),
    ((b.replyTo {} ((asked vars region targets).filter fun t => !t.hide)).run s).2) = _
  rw [hall]

/-- **A target that fails leaves the rest of a panel as it is.** Where no two visible targets share
    a reference, a panel has an answer: it draws what the visible targets have answered that
    succeeded, and reports the others with their references and their messages, both in the order of
    the targets. These are run one after the other, and nothing else is. Without a visible target
    nothing is asked of any backend. -/
theorem run_panel (vars : Variable.Store) (window : Window) (region : String)
    (targets : List Target) (s : Session W)
    (hnodup : ((targets.filter fun t => !t.hide).map (·.refId)).Nodup) :
    (Panel.run b.panels vars window region targets).run s =
        (.ok ⟨(b.endings s (asked vars region targets)).flatMap drawn,
            (b.endings s (asked vars region targets)).filterMap failure?⟩,
          (asked vars region targets).foldl b.afterTarget s) ∧
      ((targets.filter fun t => !t.hide) = [] → ∀ (V : Type) (backend : PanelBackend V),
        Panel.run backend vars window region targets = pure (.ok {})) := by
  constructor
  · by_cases h : asked vars region targets = []
    · rw [run_nothing h, h]
      rfl
    · rw [← map_refId_asked vars region] at hnodup
      have hreply := run_replyTo_eq (b := b) {} (asked vars region targets) s hnodup
      have hreshape := reshape_eq (plain_endings (b := b) s (asked vars region targets))
        fun _ => get?_reply (by rwa [map_refId_endings])
      rw [map_fst_endings] at hreshape
      rw [run_asked h, hreply]
      show (Except.ok (reshape (asked vars region targets)
        ⟨(b.endings s (asked vars region targets)).map entry⟩), _) = _
      rw [hreshape]
  · intro hnone V backend
    exact run_nothing (by simp [asked, hnone]) window backend

end AthenaBackend

namespace Memory

/-- A table, a hidden target, one that names no execution, and another table; their references are
    not in order. -/
def mixedTargets : List Target :=
  [{ refId := "D", executionId := "b", format := "table" },
    { refId := "C", executionId := "a", format := "table", hide := true },
    { refId := "B", format := "table" },
    { refId := "A", executionId := "$past", format := "table" }]

/-- A session in which the executions of both tables are there. -/
def beforePanel : Session Memory := .fresh backend.settings pastMemory

/-- The numbers in a table. -/
def numbers : PanelItem → List JsonNumber
  | .series _ => []
  | .table t => t.rows.flatten.filterMap fun
    | .number n => some n
    | _ => none

/-- The tables of the first and the last target are drawn, and the third target is reported. -/
theorem run_panel_mixed :
    ((mixedTargets.filter fun t => !t.hide).map (·.refId)).Nodup ∧
      ∃ data s, (Panel.run backend.panels ⟨[("past", ["a"])]⟩ ⟨.epoch, .epoch⟩ "us-east-1"
          mixedTargets).run beforePanel =
            (.ok ⟨data, [⟨"B", "Missing parameter: queryExecutionId"⟩]⟩, s) ∧
        data.flatMap numbers = [.real (.ofInt 1), .real (.ofInt 2)] := by
  have hnodup : ((mixedTargets.filter fun t => !t.hide).map (·.refId)).Nodup := by decide
  have hrun := (AthenaBackend.run_panel ⟨[("past", ["a"])]⟩ ⟨.epoch, .epoch⟩ "us-east-1"
    mixedTargets beforePanel hnodup (b := backend)).1
  have herrors : (backend.endings beforePanel
      (Panel.asked ⟨[("past", ["a"])]⟩ "us-east-1" mixedTargets)).filterMap Panel.failure? =
    [⟨"B", "Missing parameter: queryExecutionId"⟩] := by decide +kernel
  rw [herrors] at hrun
  exact ⟨hnodup, _, _, hrun, by decide +kernel⟩

end Memory
end PanelSource
