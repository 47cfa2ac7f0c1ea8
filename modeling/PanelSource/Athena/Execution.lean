import PanelSource.Wire.Time

/- Records of past SQL executions.

   Everything in a record may be missing, so that a record with an unexpected shape still
   decodes.

   Specification: SPEC_FULL, section 3. -/
namespace PanelSource
open Calendar

structure ExecutionStatus where
  state : Option String := none
  submitted : Option Instant := none
  completed : Option Instant := none
  deriving DecidableEq, Repr, Inhabited

structure ExecutionStatistics where
  scannedBytes : Option Int := none
  engineMillis : Option Int := none
  deriving DecidableEq, Repr, Inhabited

structure Execution where
  id : Option String := none
  sql : Option String := none
  workGroup : Option String := none
  status : Option ExecutionStatus := none
  statistics : Option ExecutionStatistics := none
  deriving DecidableEq, Repr, Inhabited

def Json.objectOfSome (fields : List (String × Option Json)) : Json :=
  .object (fields.filterMap fun f => f.2.map fun j => (f.1, j))

namespace ExecutionStatus

def toJson (s : ExecutionStatus) : Json :=
  .objectOfSome
    [("State", s.state.map .string),
     ("SubmissionDateTime", s.submitted.map Instant.toJson),
     ("CompletionDateTime", s.completed.map Instant.toJson)]

def decode : Wire.Decoder ExecutionStatus :=
  Wire.record
    [Wire.field "State" (Wire.optional Wire.text) fun v s => { s with state := v },
     Wire.field "SubmissionDateTime" (Wire.optional Wire.instant) fun v s => { s with submitted := v },
     Wire.field "CompletionDateTime" (Wire.optional Wire.instant) fun v s => { s with completed := v }]
    {}

end ExecutionStatus

namespace ExecutionStatistics

def toJson (s : ExecutionStatistics) : Json :=
  .objectOfSome
    [("DataScannedInBytes", s.scannedBytes.map .int),
     ("EngineExecutionTimeInMillis", s.engineMillis.map .int)]

def decode : Wire.Decoder ExecutionStatistics :=
  Wire.record
    [Wire.field "DataScannedInBytes" (Wire.optional Wire.int64) fun v s => { s with scannedBytes := v },
     Wire.field "EngineExecutionTimeInMillis" (Wire.optional Wire.int64)
      fun v s => { s with engineMillis := v }]
    {}

end ExecutionStatistics

namespace Execution

def state (e : Execution) : Option String := e.status.bind (·.state)

def completed (e : Execution) : Option Instant := e.status.bind (·.completed)

def toJson (e : Execution) : Json :=
  .objectOfSome
    [("QueryExecutionId", e.id.map .string),
     ("Query", e.sql.map .string),
     ("WorkGroup", e.workGroup.map .string),
     ("Status", e.status.map ExecutionStatus.toJson),
     ("Statistics", e.statistics.map ExecutionStatistics.toJson)]

def decode : Wire.Decoder Execution :=
  Wire.record
    [Wire.field "QueryExecutionId" (Wire.optional Wire.text) fun v e => { e with id := v },
     Wire.field "Query" (Wire.optional Wire.text) fun v e => { e with sql := v },
     Wire.field "WorkGroup" (Wire.optional Wire.text) fun v e => { e with workGroup := v },
     Wire.field "Status" (Wire.optional ExecutionStatus.decode) fun v e => { e with status := v },
     Wire.field "Statistics" (Wire.optional ExecutionStatistics.decode)
      fun v e => { e with statistics := v }]
    {}

end Execution
end PanelSource
