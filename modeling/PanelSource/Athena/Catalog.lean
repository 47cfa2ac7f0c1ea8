import PanelSource.Athena.Session
import PanelSource.Backend.Client
import PanelSource.Calendar.Reading
import PanelSource.Pattern.Reader

/- Lookups: what the service knows about regions, workgroups, saved statements and executions.

   A list of the executions of a workgroup is kept for as long as the newest id stays the same, so
   that records are fetched again only when something has run.

   Specification: SPEC_FULL, section 10.2. -/
namespace PanelSource
open Calendar

/-- The regions that the service is offered in. -/
def athenaRegions : List String :=
  ["af-south-1", "ap-east-1", "ap-northeast-1", "ap-northeast-2", "ap-northeast-3", "ap-south-1",
   "ap-south-2", "ap-southeast-1", "ap-southeast-2", "ap-southeast-3", "ap-southeast-4",
   "ca-central-1", "cn-north-1", "cn-northwest-1", "eu-central-1", "eu-central-2", "eu-north-1",
   "eu-south-1", "eu-south-2", "eu-west-1", "eu-west-2", "eu-west-3", "il-central-1",
   "me-central-1", "me-south-1", "sa-east-1", "us-east-1", "us-east-2", "us-gov-east-1",
   "us-gov-west-1", "us-west-1", "us-west-2"]

/-- The regions that a request may name, in order. -/
def regionNames : List String := (athenaRegions ++ ["default"]).mergeSort

/-! ## Parameters -/

namespace Params

/-- A text parameter without blanks around it; empty if it is missing. -/
def trimmed (ps : Params) (name : String) : String :=
  ((ps.get? name).map fun p => Text.trim p.asText).getD ""

def workGroup? (ps : Params) : Option String :=
  let name := ps.trimmed "workGroup"
  if name = "" then none else some name

/-- The text of the pattern; a missing one matches everything. -/
def patternText (ps : Params) : String := ((ps.get? "pattern").map Param.asText).getD ""

def pattern (ps : Params) : Except AthenaError Pattern :=
  (Pattern.ofString ps.patternText).mapError fun f => .invalidPattern ps.patternText f.message

def limit (ps : Params) : Except AthenaError Int :=
  match ps.get? "limit" with
  | none => .error (.missingParameter "limit")
  | some p =>
    match p.asInt with
    | some i => .ok i
    | none => .error (.invalidParameter "limit" p.asText "not an integer")

/-- The end of the window. -/
def stop (ps : Params) : Except AthenaError Instant :=
  match ps.get? "to" with
  | none => .error (.missingParameter "to")
  | some p =>
    (readRfc3339 (Text.trim p.asText)).mapError fun f =>
      .invalidParameter "to" p.asText f.message

end Params

/-! ## Executions -/

/-- Which executions to list: those whose statement matches, that were done by an instant, and no
    more than a limit unless that is negative. -/
structure ExecutionFilter where
  pattern : Pattern
  limit : Int
  stop : Instant

namespace ExecutionFilter

/-- Whether an execution passes, its place among the others aside. -/
def admits (f : ExecutionFilter) (e : Execution) : Bool :=
  e.state == some "SUCCEEDED" && (e.completed.any fun t => t.atOrBefore f.stop) &&
    e.sql.any f.pattern.occursIn

/-- Whether an execution was done no earlier than another; one that is not done comes last. -/
def notEarlier (a b : Execution) : Bool :=
  match a.completed, b.completed with
  | _, none => true
  | none, some _ => false
  | some s, some t => t.atOrBefore s

/-- The executions that pass, the latest first. -/
def select (f : ExecutionFilter) (es : List Execution) : List Execution :=
  let chosen := (es.filter f.admits).mergeSort notEarlier
  if f.limit < 0 then chosen else chosen.take f.limit.toNat

end ExecutionFilter

/-- A statement without spaces and then semicolons at its end. -/
def trimStatement (sql : String) : List Char :=
  ((sql.toList.reverse.dropWhile (· = ' ')).dropWhile (· = ';')).reverse

/-- The text of the pattern that matches one statement only. -/
def exactText (sql : String) : List Char :=
  ['^'] ++ Pattern.escape (trimStatement sql) ++ ['$']

namespace AthenaBackend
variable {W : Type} (b : AthenaBackend W)

def workGroupNames (ps : Params) : ServiceM (Session W) (List String) := do
  let (_, region) ← b.region (ps.trimmed "region")
  Session.call region.workGroups

def namedQueries (ps : Params) : ServiceM (Session W) (List NamedQuery) := do
  let (_, region) ← b.region (ps.trimmed "region")
  let ids ← Session.call (region.namedQueryIds ps.workGroup?)
  Session.call (region.allNamedQueries ids)

def namedQueryNames (ps : Params) : ServiceM (Session W) (List String) := do
  return (← b.namedQueries ps).map (·.name)

def namedQueryStatements (ps : Params) : ServiceM (Session W) (List String) := do
  let pattern ← ExceptT.mk (pure ps.pattern)
  return ((← b.namedQueries ps).filter fun q => pattern.occursIn q.name).map (·.sql)

/-- The key of a region and one of its workgroups; no workgroup stands for all. -/
def workGroupKey (region workGroup : String) : String := region ++ "/" ++ workGroup

/-- The list kept under a key, if it is alive. -/
def keptListing (key : String) : ServiceM (Session W) (Option Listing) := do
  let now ← b.now
  let s ← get
  let (kept, listings) := s.listings.get now key
  set { s with listings }
  return kept

def keepListing (key : String) (l : Listing) : ServiceM (Session W) Unit := do
  let now ← b.now
  let ttl := Session.keepFor b.settings.executionCacheSeconds
  modify fun s => { s with listings := s.listings.insert now key l ttl }

/-- Every execution of a workgroup. A kept list is good while the newest id is the one it was
    listed with. -/
def executionsOf (ps : Params) : ServiceM (Session W) (List Execution) := do
  let (name, region) ← b.region (ps.trimmed "region")
  let key := workGroupKey name (ps.workGroup?.getD "")
  let kept ← b.keptListing key
  let ids ← Session.call (region.executionIds ps.workGroup? (kept.map (·.newest)))
  match ids.head? with
  | none => return []
  | some newest =>
    match kept.filter fun l => l.newest == newest with
    | some l => return l.executions
    | none =>
      let executions ← Session.call (region.allExecutions ids)
      b.keepListing key ⟨newest, executions⟩
      return executions

def selectExecutions (ps : Params) (f : ExecutionFilter) :
    ServiceM (Session W) (List Execution) := do
  return f.select (← b.executionsOf ps)

def queryExecutions (ps : Params) : ServiceM (Session W) (List Execution) := do
  let pattern ← ExceptT.mk (pure ps.pattern)
  let limit ← ExceptT.mk (pure ps.limit)
  let stop ← ExceptT.mk (pure ps.stop)
  b.selectExecutions ps ⟨pattern, limit, stop⟩

def queryExecutionIds (ps : Params) : ServiceM (Session W) (List String) := do
  return (← b.queryExecutions ps).filterMap (·.id)

/-- The executions of the first saved statement whose name matches. -/
def queryExecutionsByName (ps : Params) : ServiceM (Session W) (List Execution) := do
  let name ← ExceptT.mk (pure ps.pattern)
  let limit ← ExceptT.mk (pure ps.limit)
  let stop ← ExceptT.mk (pure ps.stop)
  match (← b.namedQueries ps).find? fun q => name.occursIn q.name with
  | none => throw (.namedQueryNotFound ps.patternText)
  | some q =>
    let text := exactText q.sql
    match Pattern.parse text with
    | .error f => throw (.invalidPattern (String.ofList text) f.message)
    | .ok pattern => b.selectExecutions ps ⟨pattern, limit, stop⟩

/-- The value of a lookup. -/
def value (name : String) (ps : Params) : ServiceM (Session W) Json := do
  let records (es : List Execution) : Json := .array (es.map Execution.toJson)
  match name with
  | "regions" => return .strings regionNames
  | "workgroup_names" => return .strings (← b.workGroupNames ps)
  | "named_query_names" => return .strings (← b.namedQueryNames ps)
  | "named_query_queries" => return .strings (← b.namedQueryStatements ps)
  | "query_executions" => return records (← b.queryExecutions ps)
  | "query_execution_ids" => return .strings (← b.queryExecutionIds ps)
  | "query_executions_by_name" => return records (← b.queryExecutionsByName ps)
  | _ => throw (.unknownResource name)

def lookup (name : String) (ps : Params) : ServiceM (Session W) Json := do
  return .object [(name, ← b.value name ps)]

def resources : ResourceClient (Session W) where
  fetch name ps := do return (← (b.lookup name ps).run).mapError AthenaError.toBackend

end AthenaBackend
end PanelSource
