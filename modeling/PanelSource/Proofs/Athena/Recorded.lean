import PanelSource.Proofs.Athena.Ending

/- A service whose calls are recorded.

   `Athena.recorded` makes a service that answers as the given one does, and notes every call of a
   region: the region, the world in which the call was made, what was asked and what came back.
   Whatever is built on a service can be run on the recorded one, so that a statement about the
   calls of a run is a statement about the log in its world. -/
namespace PanelSource

/-- A call of a region with its answer. -/
inductive Call where
  | workGroups (answer : Except AthenaError (List String))
  | namedQueryIds (workGroup : Option String) (answer : Except AthenaError (List String))
  | namedQueries (ids : List String) (answer : Except AthenaError (List NamedQuery))
  | executionIds (workGroup stopAt : Option String) (answer : Except AthenaError (List String))
  | executions (ids : List String) (answer : Except AthenaError (List Execution))
  | results (id : String) (maxRows : Int) (answer : Except AthenaError ResultSet)
  | scanLimit (workGroup : String) (answer : Except AthenaError (Option Int))
  | start (statement : Statement) (answer : Except AthenaError String)

/-- A call as it is noted: in which region and in which world it was made. -/
structure Noted (W : Type) where
  region : String
  world : W
  call : Call

/-- A world with the calls that were made, the first one first. -/
abbrev Logged (W : Type) := W × List (Noted W)

section
variable {W α : Type}

/-- Notes a call. -/
def noting (region : String) (call : Except AthenaError α → Call) (x : ServiceM W α) :
    ServiceM (Logged W) α :=
  ExceptT.mk fun w =>
    let (answer, v) := x.run w.1
    (answer, (v, w.2 ++ [⟨region, w.1, call answer⟩]))

/-- The service of a region, with its calls noted. -/
def RegionService.recorded (name : String) (r : RegionService W) : RegionService (Logged W) where
  workGroups := noting name .workGroups r.workGroups
  namedQueryIds workGroup := noting name (.namedQueryIds workGroup) (r.namedQueryIds workGroup)
  namedQueries ids := noting name (.namedQueries ids) (r.namedQueries ids)
  executionIds workGroup stopAt :=
    noting name (.executionIds workGroup stopAt) (r.executionIds workGroup stopAt)
  executions ids := noting name (.executions ids) (r.executions ids)
  results id maxRows := noting name (.results id maxRows) (r.results id maxRows)
  scanLimit workGroup := noting name (.scanLimit workGroup) (r.scanLimit workGroup)
  start statement := noting name (.start statement) (r.start statement)

def beside (x : StateM W α) : StateM (Logged W) α := fun w =>
  let (a, v) := x.run w.1
  (a, (v, w.2))

/-- The service with all calls of its regions noted. -/
def Athena.recorded (a : Athena W) : Athena (Logged W) where
  region name := ExceptT.mk do return (← beside (a.region name).run).map (·.recorded name)
  now := beside a.now
  pause milliseconds := beside (a.pause milliseconds)

def AthenaBackend.recorded (b : AthenaBackend W) : AthenaBackend (Logged W) :=
  ⟨b.athena.recorded, b.settings⟩

end

/-! ## What is noted -/

section
variable {W α : Type} {w w' : Logged W} {name : String}

theorem ends_noting {call : Except AthenaError α → Call} {x : ServiceM W α}
    {r : Except AthenaError α} : Ends (noting name call x) w r w' ↔
      Ends x w.1 r w'.1 ∧ w'.2 = w.2 ++ [⟨name, w.1, call r⟩] := by
  obtain ⟨v, log⟩ := w
  obtain ⟨v', log'⟩ := w'
  show ((x.run v).1, (x.run v).2, log ++ [⟨name, v, call (x.run v).1⟩]) = (r, v', log') ↔
    x.run v = (r, v') ∧ _
  constructor
  · intro h
    cases h
    exact ⟨rfl, rfl⟩
  · rintro ⟨h, rfl⟩
    rw [h]

theorem log_call {call : Except AthenaError α → Call} {x : ServiceM W α}
    {s s' : Session (Logged W)} {r : Except AthenaError α}
    (h : Ends (Session.call (noting name call x)) s r s') :
    s'.world.2 = s.world.2 ++ [⟨name, s.world.1, call r⟩] := by
  obtain ⟨w, hx, rfl⟩ := ends_call.mp h
  exact (ends_noting.mp hx).2

theorem ends_recorded_region {a : Athena W} {r : Except AthenaError (RegionService (Logged W))} :
    Ends (a.recorded.region name) w r w' ↔
      ∃ answer, Ends (a.region name) w.1 answer w'.1 ∧ r = answer.map (·.recorded name) ∧
        w'.2 = w.2 := by
  obtain ⟨v, log⟩ := w
  obtain ⟨v', log'⟩ := w'
  show (((a.region name).run v).1.map (·.recorded name), ((a.region name).run v).2, log) =
    (r, v', log') ↔ _
  constructor
  · intro h
    cases h
    exact ⟨_, rfl, rfl, rfl⟩
  · rintro ⟨answer, h, rfl, rfl⟩
    have h : (a.region name).run v = (answer, v') := h
    rw [h]

/-- A log that goes on from another. -/
def Later (w w' : Logged W) : Prop := w.2 <+: w'.2

instance : IsPreorder (Logged W) Later where
  refl _ := List.prefix_rfl
  trans _ _ _ h h' := List.IsPrefix.trans h h'

theorem keeps_noting {call : Except AthenaError α → Call} {x : ServiceM W α} :
    Keeps Later (noting name call x) := by
  intro w r w' h
  exact ⟨_, (ends_noting.mp h).2.symm⟩

theorem ends_recorded {b : AthenaBackend W} {s s' : Session (Logged W)} {name : String}
    {r : Except AthenaError (String × RegionService (Logged W))}
    (h : Ends (b.recorded.region name) s r s') :
    ∃ answer v, Ends (b.athena.region (b.settings.resolveRegion name)) s.world.1 answer v ∧
      s' = { s with world := (v, s.world.2) } ∧
      r = answer.map fun service => (b.settings.resolveRegion name,
        service.recorded (b.settings.resolveRegion name)) := by
  obtain ⟨answer, w, hanswer, rfl, rfl⟩ := ends_region.mp h
  obtain ⟨original, hcall, rfl, hlog⟩ := ends_recorded_region.mp hanswer
  refine ⟨original, w.1, hcall, ?_, ?_⟩
  · rw [← hlog]
  · cases original with
    | error e => rfl
    | ok service => rfl

end

end PanelSource
