import PanelSource.Backend.Client
import PanelSource.Variable.Substitution

/- Running the targets of a panel.

   The visible targets become one request: variables are put into regions and execution ids, an
   empty region is the default one, and an empty format is a time series. The reply comes back in
   the order of the targets, series before tables; a target that failed shows up among the
   errors and leaves the others as they are.

   Specification: SPEC_FULL, section 4.5. -/
namespace PanelSource
open Text Variable

/-- One item that a panel draws. -/
inductive PanelItem where
  | series (s : Series)
  | table (t : Table)
  deriving Repr, Inhabited

structure TargetError where
  refId : String
  message : String
  deriving DecidableEq, Repr, Inhabited

/-- What a panel draws, and which of its targets failed. -/
structure PanelReply where
  data : List PanelItem := []
  errors : List TargetError := []
  deriving Repr, Inhabited

namespace PanelItem

def toJson : PanelItem → Json
  | .series s =>
    .object [("target", .string s.name), ("datapoints", .array (s.points.map Series.pointToJson))]
  | .table t => t.toJson

end PanelItem

namespace PanelReply

def isOk (r : PanelReply) : Bool := r.errors.isEmpty

def message (r : PanelReply) : Option String :=
  r.errors.head?.map fun e => "Query " ++ e.refId ++ " failed: " ++ e.message

def errorToJson (e : TargetError) : Json :=
  .object [("refId", .string e.refId), ("message", .string e.message)]

def toJson (r : PanelReply) : Json :=
  .object <|
    ("data", .array (r.data.map PanelItem.toJson)) ::
    if r.errors.isEmpty then [] else [("errors", .array (r.errors.map errorToJson))]

end PanelReply

namespace Panel

/-- The text between braces that enclose all of it, or the text itself. -/
def unbrace (cs : List Char) : List Char :=
  match cs with
  | '\x7b' :: rest =>
    match rest.reverse with
    | '\x7d' :: inner => inner.reverse
    | _ => cs
  | _ => cs

/-- The ids between commas, without blanks and without empty ones. -/
def splitCommas (cs : List Char) : List String :=
  ((cs.splitOn ',').map strip).filterMap fun id =>
    if id.isEmpty then none else some (String.ofList id)

/-- The execution ids that a resolved id field names: `a`, `a,b` or `{a,b}`. -/
def splitIds (field : String) : List String := splitCommas (unbrace (strip field.toList))

/-- A visible target as it goes into the request. -/
def prepare (vars : Store) (defaultRegion : String) (t : Target) : Target :=
  let region := vars.resolve .plain t.region
  let t := { t with
    format := if t.format = "" then "timeserie" else t.format
    region := if isBlankText region then defaultRegion else region }
  if t.executionId = "" then t
  else
    let ids := vars.resolve .plain t.executionId
    { t with executionId := ids, inputs := splitIds ids }

/-- The request of the visible targets. -/
def request (vars : Store) (window : Window) (defaultRegion : String) (targets : List Target) :
    Request :=
  { start := String.ofList (Number.signedDecimal window.start.millis)
    stop := String.ofList (Number.signedDecimal window.stop.millis)
    targets := (targets.filter fun t => !t.hide).map (prepare vars defaultRegion) }

/-- What one target adds to the reply of the panel. -/
def addOutcome (reply : PanelReply) (refId : String) (o : Outcome) : PanelReply :=
  match o.error with
  | some message => { reply with errors := reply.errors ++ [⟨refId, message⟩] }
  | none => { reply with data := reply.data ++ o.series.map .series ++ o.tables.map .table }

/-- The reply of a panel, in the order of its targets. -/
def reshape (targets : List Target) (reply : Reply) : PanelReply :=
  targets.foldl
    (fun done t =>
      match reply.get? t.refId with
      | some o => addOutcome done t.refId o
      | none => done)
    {}

/-- Runs the visible targets. Without any the backend is not called. -/
def run {W : Type} (backend : PanelBackend W) (vars : Store) (window : Window)
    (defaultRegion : String) (targets : List Target) : StateM W (Except QueryError PanelReply) :=
  let r := request vars window defaultRegion targets
  if r.targets.isEmpty then pure (.ok {})
  else do
    match ← backend.query r with
    | .error e => return .error (.backend e)
    | .ok reply => return .ok (reshape r.targets reply)

end Panel
end PanelSource
