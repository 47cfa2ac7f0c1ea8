import PanelSource.Athena.Service

/- A service that lives in memory.

   It holds what a real one would: workgroups, saved statements, executions and their rows. It
   serves the same for every region, and keeps a log of the calls and of the regions asked for.
   Statements that it starts have the same rows and the same final state, after being checked a
   number of times in vain. -/
namespace PanelSource
open Calendar Number

structure Memory where
  workGroups : List String := []
  /-- Scan limits of workgroups, the latest first. -/
  scanLimits : List (String × Int) := []
  /-- Saved statements with their workgroup, in the order of their ids `nq-0`, `nq-1` and so on. -/
  named : List (Option String × NamedQuery) := []
  /-- The newest first. -/
  executions : List Execution := []
  results : List (String × ResultSet) := []
  /-- The rows of statements that are started here. -/
  adHocResult : ResultSet := {}
  /-- The state in which such statements end. -/
  finalState : String := "SUCCEEDED"
  /-- How many more checks find them running. -/
  runningChecks : Nat := 0
  /-- How many have been started. -/
  started : Nat := 0
  /-- The clock, in nanoseconds, and the time of day. -/
  clock : Nat := 0
  today : Instant := .epoch
  /-- The latest first. -/
  calls : List String := []
  regions : List String := []
  deriving Repr, Inhabited

namespace Memory

/-- How many ids of executions a page has. -/
def pageSize : Nat := 50

def addWorkGroup (m : Memory) (name : String) (scanLimit : Option Int) : Memory :=
  { m with
    workGroups := m.workGroups ++ [name]
    scanLimits := match scanLimit with
      | some n => (name, n) :: m.scanLimits
      | none => m.scanLimits }

def addExecution (m : Memory) (e : Execution) : Memory := { m with executions := e :: m.executions }

def addResult (m : Memory) (id : String) (r : ResultSet) : Memory :=
  { m with results := (id, r) :: m.results }

def log (call : String) (m : Memory) : Memory := { m with calls := call :: m.calls }

def answer {α : Type} (call : String) (f : Memory → Except AthenaError α × Memory) :
    ServiceM Memory α :=
  ExceptT.mk fun m => f (m.log call)

def count (n : Nat) : String := String.ofList (decimal n)

def namedById (m : Memory) : List (String × Option String × NamedQuery) :=
  m.named.zipIdx.map fun (q, i) => ("nq-" ++ count i, q)

/-- Whether what belongs to a workgroup is asked for. -/
def isIn (asked workGroup : Option String) : Bool := asked.isNone || workGroup == asked

/-- The ids of a workgroup's executions as they are listed: all, or the first page if it begins
    with the id to stop at. -/
def listIds (m : Memory) (workGroup stopAt : Option String) : List String :=
  let ids := (m.executions.filter fun e => isIn workGroup e.workGroup).filterMap (·.id)
  if stopAt.isSome ∧ ids.head? = stopAt then ids.take pageSize else ids

def checkBatch (ids : List String) : Except AthenaError Unit :=
  if batchLimit < ids.length then
    .error (.service ("batch of " ++ count ids.length ++ " exceeds " ++ count batchLimit))
  else .ok ()

/-- The record of an id; a started statement runs while checks are to find it running. -/
def record? (m : Memory) (id : String) : Option Execution :=
  (m.executions.find? fun e => e.id == some id).map fun e =>
    if 0 < m.runningChecks ∧ id.startsWith "started-" then
      { e with status := e.status.map fun s => { s with state := some "RUNNING" } }
    else e

/-- Starts a statement. -/
def startStatement (m : Memory) (s : Statement) : String × Memory :=
  let id := "started-" ++ count m.started
  let e : Execution :=
    { id := some id, sql := some s.sql, workGroup := some s.workGroup
      status := some
        { state := some m.finalState, submitted := some m.today, completed := some m.today } }
  (id, ({ m with started := m.started + 1 }.addExecution e).addResult id m.adHocResult)

/-- The calls of every region. -/
def region : RegionService Memory where
  workGroups := answer "list_work_groups" fun m => (.ok m.workGroups, m)
  namedQueryIds workGroup := answer ("list_named_query_ids:" ++ workGroup.getD "") fun m =>
    (.ok ((m.namedById.filter fun q => isIn workGroup q.2.1).map (·.1)), m)
  namedQueries ids := answer ("batch_get_named_queries:" ++ count ids.length) fun m =>
    ((checkBatch ids).map fun _ => ids.filterMap fun id => (m.namedById.lookup id).map (·.2), m)
  executionIds workGroup stopAt :=
    answer ("list_query_execution_ids:" ++ workGroup.getD "") fun m =>
      (.ok (m.listIds workGroup stopAt), m)
  executions ids := answer ("batch_get_query_executions:" ++ count ids.length) fun m =>
    match checkBatch ids with
    | .error e => (.error e, m)
    | .ok () => (.ok (ids.filterMap m.record?), { m with runningChecks := m.runningChecks - 1 })
  results id maxRows := answer ("get_query_results:" ++ id) fun m =>
    match m.results.lookup id with
    | none => (.error (.service ("unknown execution " ++ id)), m)
    | some r => (.ok { r with rows := if maxRows < 0 then r.rows else r.rows.take maxRows.toNat }, m)
  scanLimit workGroup := answer ("work_group_scan_cutoff:" ++ workGroup) fun m =>
    (.ok (m.scanLimits.lookup workGroup), m)
  start s := answer ("start_query_execution:" ++ s.workGroup) fun m =>
    let (id, m) := m.startStatement s
    (.ok id, m)

def athena : Athena Memory where
  region name := ExceptT.mk fun m => (.ok region, { m with regions := name :: m.regions })
  now := fun m => (m.clock, m)
  pause milliseconds := fun m => ((), { m with clock := m.clock + milliseconds * 1000000 })

end Memory
end PanelSource
