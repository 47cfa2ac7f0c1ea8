import PanelSource.Wire.Time

/- Panel requests: the targets of a panel and the time that it shows.

   Specification: SPEC_FULL, sections 3 and 6. -/
namespace PanelSource
open Calendar

/-- What one line of a panel asks for: results of past executions, or of an ad-hoc statement. -/
structure Target where
  refId : String := ""
  hide : Bool := false
  format : String := ""
  region : String := ""
  /-- The id field as it was typed; it may name several ids and hold variables. -/
  executionId : String := ""
  /-- The ids of the executions to read. -/
  inputs : List String := []
  workGroup : String := ""
  maxRows : String := ""
  cacheDuration : Span := .zero
  sql : String := ""
  outputLocation : String := ""
  timestampColumn : String := ""
  valueColumn : String := ""
  legendFormat : String := ""
  timeFormat : String := ""
  deriving DecidableEq, Repr, Inhabited

namespace Target

def wantsTable (t : Target) : Bool := t.format == "table"

def inputToJson (id : String) : Json := .object [("queryExecutionId", .string id)]

def decodeInput : Wire.Decoder String :=
  Wire.record [Wire.requiredField "queryExecutionId" Wire.text fun v _ => v] ""

/-- The span's whole seconds, with their unit. -/
def spanText (s : Span) : String := String.ofList (Number.decimal s.seconds ++ ['s'])

def toJson (t : Target) : Json :=
  .object <|
    [("refId", .string t.refId), ("hide", .bool t.hide), ("format", .string t.format),
      ("region", .string t.region)] ++
    (if t.executionId = "" then [] else [("queryExecutionId", .string t.executionId)]) ++
    [("inputs", .array (t.inputs.map inputToJson)), ("workgroup", .string t.workGroup),
      ("maxRows", .string t.maxRows), ("cacheDuration", .string (spanText t.cacheDuration)),
      ("queryString", .string t.sql), ("outputLocation", .string t.outputLocation),
      ("timestampColumn", .string t.timestampColumn), ("valueColumn", .string t.valueColumn),
      ("legendFormat", .string t.legendFormat), ("timeFormat", .string t.timeFormat)]

def decode : Wire.Decoder Target :=
  Wire.record
    [Wire.field "refId" Wire.text fun v t => { t with refId := v },
     Wire.field "hide" Wire.flag fun v t => { t with hide := v },
     Wire.field "format" Wire.text fun v t => { t with format := v },
     Wire.field "region" Wire.text fun v t => { t with region := v },
     Wire.field "queryExecutionId" Wire.text fun v t => { t with executionId := v },
     Wire.field "inputs" (Wire.list decodeInput) fun v t => { t with inputs := v },
     Wire.field "workgroup" Wire.text fun v t => { t with workGroup := v },
     Wire.field "maxRows" Wire.text fun v t => { t with maxRows := v },
     Wire.field "cacheDuration" Wire.span fun v t => { t with cacheDuration := v },
     Wire.field "queryString" Wire.text fun v t => { t with sql := v },
     Wire.field "outputLocation" Wire.text fun v t => { t with outputLocation := v },
     Wire.field "timestampColumn" Wire.text fun v t => { t with timestampColumn := v },
     Wire.field "valueColumn" Wire.text fun v t => { t with valueColumn := v },
     Wire.field "legendFormat" Wire.text fun v t => { t with legendFormat := v },
     Wire.field "timeFormat" Wire.text fun v t => { t with timeFormat := v }]
    {}

end Target

/-- The targets to answer and the window around them, in milliseconds since 1970 as texts. -/
structure Request where
  start : String := ""
  stop : String := ""
  targets : List Target := []
  deriving DecidableEq, Repr, Inhabited

namespace Request

/-- The window of a request, if both ends are instants. -/
def window? (r : Request) : Option Window := do
  let start ← (Number.int64? r.start).bind Instant.ofMillis?
  let stop ← (Number.int64? r.stop).bind Instant.ofMillis?
  return ⟨start, stop⟩

def toJson (r : Request) : Json :=
  .object [("from", .string r.start), ("to", .string r.stop),
    ("queries", .array (r.targets.map Target.toJson))]

def decode : Wire.Decoder Request :=
  Wire.record
    [Wire.requiredField "from" Wire.text fun v r => { r with start := v },
     Wire.requiredField "to" Wire.text fun v r => { r with stop := v },
     Wire.requiredField "queries" (Wire.list Target.decode) fun v r => { r with targets := v }]
    {}

end Request
end PanelSource
