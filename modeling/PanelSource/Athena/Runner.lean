import PanelSource.Athena.Catalog
import PanelSource.Frame.Convert
import PanelSource.Panel.Run

/- Running targets.

   A target reads the rows of past executions, or starts an ad-hoc statement and reads its rows.
   A statement starts only where its workgroup limits what it may scan. Rows are kept for as long
   as the target asks, and so is the execution of a statement that has succeeded.

   Specification: SPEC_FULL, section 10.3. -/
namespace PanelSource
namespace AthenaBackend
variable {W : Type} (b : AthenaBackend W)

/-- The row limit of a target; -1 stands for none. -/
def maxRows (t : Target) : Except AthenaError Int :=
  let text := Text.trim t.maxRows
  if text = "" then .ok b.settings.maxRows
  else
    match (Number.int64? text).filter fun n => -1 ≤ n with
    | some n => .ok n
    | none =>
      .error (.invalidParameter "maxRows" text "expected a non-negative integer or -1")

/-- The ids that a target names: its inputs or, without any, the ids of its id field. -/
def inputIds (t : Target) : List String :=
  let inputs := (t.inputs.map Text.trim).filter fun id => id ≠ ""
  if inputs.isEmpty then Panel.splitCommas t.executionId.toList else inputs

/-- The first record of each statement; records without a statement all stay. -/
def distinct : (seen : List String) → List Execution → List Execution
  | _, [] => []
  | seen, e :: rest =>
    match e.sql with
    | none => e :: distinct seen rest
    | some sql => if sql ∈ seen then distinct seen rest else e :: distinct (sql :: seen) rest

/-- The executions that a target reads. -/
def distinctInputs (region : RegionService W) (t : Target) :
    ServiceM (Session W) (List String) := do
  let ids := inputIds t
  if ids.isEmpty then throw (.missingParameter "queryExecutionId")
  else
    let records ← Session.call (region.allExecutions ids)
    return (distinct [] records).filterMap (·.id)

/-- The scan limit of a workgroup, from the cache if it is there. -/
def scanLimit (name : String) (region : RegionService W) (workGroup : String) :
    ServiceM (Session W) (Option Int) := do
  let key := workGroupKey name workGroup
  let now ← b.now
  let s ← get
  let (kept, scanLimits) := s.scanLimits.get now key
  set { s with scanLimits }
  match kept with
  | some limit => return limit
  | none =>
    let limit ← Session.call (region.scanLimit workGroup)
    let now ← b.now
    let ttl := Session.keepFor b.settings.workGroupCacheSeconds
    modify fun s => { s with scanLimits := s.scanLimits.insert now key limit ttl }
    return limit

/-- Checks an execution until it is neither queued nor running, at most so many times and with a
    pause after each check in vain. One without a record or a state counts as queued. -/
def await (region : RegionService W) (id : String) (attempts : Nat) :
    Nat → ServiceM (Session W) Unit
  | 0 => throw (.queryTimeout id attempts)
  | k + 1 => do
    let records ← Session.call (region.executions [id])
    match (records.head?.bind (·.state)).getD "QUEUED" with
    | "QUEUED" | "RUNNING" => do
      b.pause
      await region id attempts k
    | "SUCCEEDED" => return ()
    | other => throw (.queryFailed id other)

/-- A key of a region, something in it, and a row limit. -/
def rowsKey (region what : String) (maxRows : Int) : String :=
  region ++ "/" ++ what ++ "/" ++ String.ofList (Number.signedDecimal maxRows)

def workGroupOf (t : Target) : String :=
  let name := Text.trim t.workGroup
  if name = "" then b.settings.workGroup else name

def outputLocationOf (t : Target) : String :=
  let location := Text.trim t.outputLocation
  if location = "" then b.settings.outputLocation else location

/-- The execution of a target's statement: one that is kept, or a new one that has succeeded. -/
def started (name : String) (region : RegionService W) (t : Target) (maxRows : Int) :
    ServiceM (Session W) String := do
  let workGroup := b.workGroupOf t
  if (← b.scanLimit name region workGroup).isNone then throw (.noScanLimit workGroup)
  else
    let key := rowsKey name t.sql maxRows
    let now ← b.now
    let s ← get
    let (kept, started) := s.started.get now key
    set { s with started }
    match kept with
    | some id => return id
    | none =>
      let id ← Session.call (region.start ⟨t.sql, workGroup, b.outputLocationOf t⟩)
      b.await region id b.settings.waitAttempts b.settings.waitAttempts
      let now ← b.now
      modify fun s => { s with started := s.started.insert now key id t.cacheDuration }
      return id

/-- The rows of an execution, from the cache if they are there. -/
def rows (name : String) (region : RegionService W) (id : String) (maxRows : Int) (ttl : Span) :
    ServiceM (Session W) ResultSet := do
  let key := rowsKey name id maxRows
  let now ← b.now
  let s ← get
  let (kept, results) := s.results.get now key
  set { s with results }
  match kept with
  | some r => return r
  | none =>
    let r ← Session.call (region.results id maxRows)
    let now ← b.now
    modify fun s => { s with results := s.results.insert now key r ttl }
    return r

/-- The rows of executions one after the other, added to those at hand. -/
def allRows (name : String) (region : RegionService W) (maxRows : Int) (ttl : Span) :
    ResultSet → List String → ServiceM (Session W) ResultSet
  | done, [] => return done
  | done, id :: ids => do
    let r ← b.rows name region id maxRows ttl
    allRows name region maxRows ttl (done.extend r) ids

/-- Whether a target has a statement of its own. -/
def isAdHoc (t : Target) : Bool := !Text.isBlankText t.sql

/-- Runs a target. -/
def runTarget (t : Target) : ServiceM (Session W) Outcome := do
  let (name, region) ← b.region t.region
  let maxRows ← ExceptT.mk (pure (b.maxRows t))
  let ids ←
    if isAdHoc t then
      let id ← b.started name region t maxRows
      pure [id]
    else distinctInputs region t
  let r ← b.allRows name region maxRows t.cacheDuration {} ids
  ExceptT.mk (pure (Frame.convert t r))

/-- The outcome of a target; a failure is an outcome too. -/
def outcome (t : Target) : StateM (Session W) Outcome := do
  match ← (b.runTarget t).run with
  | .ok o => return o
  | .error e => return .failed e.message

/-- Runs targets one after the other and adds their outcomes to a reply. -/
def replyTo : Reply → List Target → StateM (Session W) Reply
  | reply, [] => return reply
  | reply, t :: rest => do
    let o ← b.outcome t
    replyTo (reply.insert t.refId o) rest

def panels : PanelBackend (Session W) where
  query r := do return .ok (← b.replyTo {} (r.targets.filter fun t => !t.hide))

def backend : Backend (Session W) := ⟨b.resources, b.panels, b.settings.region⟩

end AthenaBackend
end PanelSource
