import PanelSource.Athena.Catalog
import PanelSource.Athena.Memory
import PanelSource.Proofs.Athena.Finished

/- Why lookups fail.

   `Gives` says of a request why it may fail and what it may answer; it is put together from what
   its steps give. Where the service's own calls fail as failures of the service (`FailsByItself`),
   a lookup that has the limit and the end of the window that it needs blames no parameter but the
   pattern (`Blameless`). The service in memory fails that way (`Memory.failsByItself`). -/
namespace PanelSource

/-! ## What a request gives -/

/-- A request fails only in ways that `P` allows and answers only what `Q` allows. -/
def Gives {W α : Type} (P : AthenaError → Prop) (Q : α → Prop) (x : ServiceM W α) : Prop :=
  ∀ ⦃w r w'⦄, Ends x w r w' → (∀ e, r = .error e → P e) ∧ ∀ a, r = .ok a → Q a

section
variable {W α β : Type} {P : AthenaError → Prop} {Q : α → Prop} {R : β → Prop} {x : ServiceM W α}

theorem gives_mk {r : Except AthenaError α} (herror : ∀ e, r = .error e → P e)
    (hok : ∀ a, r = .ok a → Q a) : Gives P Q (ExceptT.mk (pure r) : ServiceM W α) := by
  intro w r' w' h
  obtain ⟨rfl, -⟩ := ends_mk.mp h
  exact ⟨herror, hok⟩

theorem gives_of_run (h : ∀ w, ∃ a w', x.run w = (.ok a, w')) : Gives P (fun _ => True) x := by
  intro w r w' hends
  obtain ⟨a, v, hrun⟩ := h w
  obtain ⟨rfl, rfl⟩ := (ends_iff_of_run hrun).mp hends
  exact ⟨fun e he => (nomatch he), fun _ _ => trivial⟩

theorem gives_pure {a : α} (h : Q a) : Gives P Q (pure a : ServiceM W α) :=
  gives_mk (fun e he => nomatch he) (fun b hb => by cases hb; exact h)

theorem gives_throw {e : AthenaError} (h : P e) : Gives P Q (throw e : ServiceM W α) :=
  gives_mk (fun e' he => by cases he; exact h) (fun b hb => nomatch hb)

theorem Gives.bind {f : α → ServiceM W β} (hx : Gives P Q x) (hf : ∀ a, Q a → Gives P R (f a)) :
    Gives P R (x >>= f) := by
  intro w r w' h
  rcases ends_bind.mp h with ⟨a, v, ha, h⟩ | ⟨e, he, rfl⟩
  · exact hf a ((hx ha).2 a rfl) h
  · refine ⟨fun e' heq => ?_, fun b hb => nomatch hb⟩
    cases heq
    exact (hx he).1 e rfl

theorem Gives.mono {P' : AthenaError → Prop} {Q' : α → Prop} (h : Gives P Q x)
    (hP : ∀ e, P e → P' e) (hQ : ∀ a, Q a → Q' a) : Gives P' Q' x := by
  intro w r w' hends
  exact ⟨fun e he => hP e ((h hends).1 e he), fun a ha => hQ a ((h hends).2 a ha)⟩

theorem Gives.inBatches {call : List String → ServiceM W (List α)}
    (h : ∀ ids, Gives P (fun _ => True) (call ids)) (bs : List (List String)) :
    Gives P (fun _ => True) (inBatches call bs) := by
  induction bs with
  | nil => exact gives_pure trivial
  | cons ids bs ih =>
    refine Gives.bind (h ids) fun xs _ => ?_
    exact Gives.bind ih fun ys _ => gives_pure trivial

theorem mk_ok_bind (a : α) (f : α → ServiceM W β) :
    ((ExceptT.mk (pure (.ok a)) : ServiceM W α) >>= f) = f a := rfl

theorem gives_call {x : ServiceM W α} (h : Gives P Q x) : Gives P Q (Session.call x) := by
  intro s r s' hs
  obtain ⟨w, hw, -⟩ := ends_call.mp hs
  exact h hw

end

/-! ## Failures -/

/-- A failure of the service itself. -/
def AthenaError.OfService (e : AthenaError) : Prop := ∃ reason, e = .service reason

/-- A failure that is laid to the lookup's name, a parameter that is missing, its limit or the end
    of the window. -/
def AthenaError.BlamesLookup : AthenaError → Prop
  | .unknownResource _ => True
  | .missingParameter _ => True
  | .invalidParameter name _ _ => name = "limit" ∨ name = "to"
  | _ => False

theorem AthenaError.OfService.blameless {e : AthenaError} (h : e.OfService) : ¬ e.BlamesLookup := by
  obtain ⟨reason, rfl⟩ := h
  exact fun h => h

/-- The calls that lookups make of a region fail as failures of the service. -/
structure RegionService.FailsByItself {W : Type} (r : RegionService W) : Prop where
  workGroups : Gives AthenaError.OfService (fun _ => True) r.workGroups
  namedQueryIds : ∀ workGroup,
    Gives AthenaError.OfService (fun _ => True) (r.namedQueryIds workGroup)
  namedQueries : ∀ ids, Gives AthenaError.OfService (fun _ => True) (r.namedQueries ids)
  executionIds : ∀ workGroup stopAt,
    Gives AthenaError.OfService (fun _ => True) (r.executionIds workGroup stopAt)
  executions : ∀ ids, Gives AthenaError.OfService (fun _ => True) (r.executions ids)

/-- What the service is relied on for: its calls fail as failures of the service. -/
def Athena.FailsByItself {W : Type} (a : Athena W) : Prop :=
  ∀ name, Gives AthenaError.OfService RegionService.FailsByItself (a.region name)

/-! ## Lookups -/

namespace AthenaBackend
variable {W : Type} {b : AthenaBackend W} {ps : Params}

/-- A request that blames nothing about its lookup. -/
abbrev Blameless {α : Type} (Q : α → Prop) (x : ServiceM (Session W) α) : Prop :=
  Gives (fun e => ¬ e.BlamesLookup) Q x

theorem blameless_call {α : Type} {Q : α → Prop} {x : ServiceM W α}
    (h : Gives AthenaError.OfService Q x) : Blameless Q (Session.call x) :=
  (gives_call h).mono (fun _ => AthenaError.OfService.blameless) fun _ hq => hq

theorem blameless_pattern : Blameless (fun _ => True)
    (ExceptT.mk (pure ps.pattern) : ServiceM (Session W) Pattern) := by
  refine gives_mk (fun e he => ?_) fun _ _ => trivial
  unfold Params.pattern at he
  cases hp : Pattern.ofString ps.patternText with
  | ok p =>
    rw [hp] at he
    cases he
  | error f =>
    rw [hp] at he
    cases he
    exact fun h => h

section
variable (hservice : b.athena.FailsByItself)
include hservice

theorem blameless_region (name : String) :
    Blameless (fun answer => answer.2.FailsByItself) (b.region name) :=
  Gives.bind (blameless_call (hservice _)) fun _ h => gives_pure h

theorem blameless_workGroupNames : Blameless (fun _ => True) (b.workGroupNames ps) :=
  Gives.bind (blameless_region hservice _) fun _ h => blameless_call h.workGroups

theorem blameless_namedQueries : Blameless (fun _ => True) (b.namedQueries ps) := by
  refine Gives.bind (blameless_region hservice _) fun answer h => ?_
  refine Gives.bind (blameless_call (h.namedQueryIds _)) fun ids _ => ?_
  exact blameless_call (Gives.inBatches h.namedQueries _)

theorem blameless_namedQueryNames : Blameless (fun _ => True) (b.namedQueryNames ps) :=
  Gives.bind (blameless_namedQueries hservice) fun _ _ => gives_pure trivial

theorem blameless_namedQueryStatements :
    Blameless (fun _ => True) (b.namedQueryStatements ps) := by
  refine Gives.bind blameless_pattern fun pattern _ => ?_
  exact Gives.bind (blameless_namedQueries hservice) fun _ _ => gives_pure trivial

theorem blameless_executionsOf : Blameless (fun _ => True) (b.executionsOf ps) := by
  unfold executionsOf
  refine Gives.bind (blameless_region hservice _) fun answer h => ?_
  refine Gives.bind (gives_of_run fun s => ⟨_, _, run_keptListing _ s⟩) fun kept _ => ?_
  refine Gives.bind (blameless_call (h.executionIds _ _)) fun ids _ => ?_
  cases ids.head? with
  | none => exact gives_pure trivial
  | some newest =>
    simp only
    cases kept.filter fun l => l.newest == newest with
    | some l => exact gives_pure trivial
    | none =>
      refine Gives.bind (blameless_call (Gives.inBatches h.executions _)) fun executions _ => ?_
      refine Gives.bind (gives_of_run fun s => ⟨_, _, run_keepListing _ _ s⟩) fun _ _ => ?_
      exact gives_pure trivial

theorem blameless_selectExecutions {f : ExecutionFilter} :
    Blameless (fun _ => True) (b.selectExecutions ps f) :=
  Gives.bind (blameless_executionsOf hservice) fun _ _ => gives_pure trivial

section
variable {limit : Int} {stop : Calendar.Instant} (hlimit : ps.limit = .ok limit)
  (hstop : ps.stop = .ok stop)
include hlimit hstop

theorem blameless_queryExecutions : Blameless (fun _ => True) (b.queryExecutions ps) := by
  unfold queryExecutions
  refine Gives.bind blameless_pattern fun pattern _ => ?_
  rw [hlimit, mk_ok_bind, hstop, mk_ok_bind]
  exact blameless_selectExecutions hservice

theorem blameless_queryExecutionIds : Blameless (fun _ => True) (b.queryExecutionIds ps) :=
  Gives.bind (blameless_queryExecutions hservice hlimit hstop) fun _ _ => gives_pure trivial

theorem blameless_queryExecutionsByName :
    Blameless (fun _ => True) (b.queryExecutionsByName ps) := by
  unfold queryExecutionsByName
  refine Gives.bind blameless_pattern fun name _ => ?_
  rw [hlimit, mk_ok_bind, hstop, mk_ok_bind]
  refine Gives.bind (blameless_namedQueries hservice) fun queries _ => ?_
  cases queries.find? fun q => name.occursIn q.name with
  | none => exact gives_throw fun h => h
  | some q =>
    simp only
    cases Pattern.parse (exactText q.sql) with
    | error f => exact gives_throw fun h => h
    | ok pattern => exact blameless_selectExecutions hservice

end

end

end AthenaBackend

namespace Memory

theorem checkBatch_error {ids : List String} {e : AthenaError} (h : checkBatch ids = .error e) :
    e.OfService := by
  unfold checkBatch at h
  split at h
  · cases h
    exact ⟨_, rfl⟩
  · cases h

/-- Every call of the service in memory answers, or refuses a batch that is too long. -/
theorem region_failsByItself : region.FailsByItself where
  workGroups := gives_of_run fun m => ⟨_, _, rfl⟩
  namedQueryIds workGroup := gives_of_run fun m => ⟨_, _, rfl⟩
  namedQueries ids := by
    intro m r m' h
    obtain ⟨rfl, -⟩ := (ends_iff_of_run rfl).mp h
    refine ⟨fun e he => ?_, fun _ _ => trivial⟩
    cases hbatch : checkBatch ids with
    | error e' =>
      rw [hbatch] at he
      cases he
      exact checkBatch_error hbatch
    | ok _ =>
      rw [hbatch] at he
      cases he
  executionIds workGroup stopAt := gives_of_run fun m => ⟨_, _, rfl⟩
  executions ids := by
    intro m r m' h
    refine ⟨fun e he => ?_, fun _ _ => trivial⟩
    rcases executions_cases h with ⟨_, hbatch, rfl, -⟩ | ⟨rfl, -⟩
    · cases he
      exact checkBatch_error hbatch
    · cases he

theorem failsByItself : athena.FailsByItself := by
  intro name m r m' h
  obtain ⟨rfl, -⟩ := (ends_iff_of_run rfl).mp h
  refine ⟨fun e he => (nomatch he), fun service hservice => ?_⟩
  cases hservice
  exact region_failsByItself

end Memory
end PanelSource
