import PanelSource.Wire.Decoder

/- What targets come to: time series, tables, or an error.

   Specification: SPEC_FULL, section 3. -/
namespace PanelSource
open Number

/-- A named series of points; each has a value, if there is one, and a time in milliseconds. -/
structure Series where
  name : String := ""
  points : List (Option Binary64 × Int) := []
  deriving DecidableEq, Repr, Inhabited

structure TableColumn where
  text : String := ""
  kind : String := ""
  deriving DecidableEq, Repr, Inhabited

structure Table where
  columns : List TableColumn := []
  rows : List (List Json) := []
  deriving Repr, Inhabited

/-- The result of one target. -/
structure Outcome where
  series : List Series := []
  tables : List Table := []
  error : Option String := none
  warnings : List String := []
  deriving Repr, Inhabited

/-- The results of a request, by the reference of their target. -/
structure Reply where
  results : List (String × Outcome) := []
  deriving Repr, Inhabited

namespace Series

def pointToJson (p : Option Binary64 × Int) : Json :=
  .array [Json.ofOption Json.real p.1, .int p.2]

def toJson (s : Series) : Json :=
  .object [("name", .string s.name), ("points", .array (s.points.map pointToJson))]

def decode : Wire.Decoder Series :=
  Wire.record
    [Wire.requiredField "name" Wire.text fun v s => { s with name := v },
     Wire.requiredField "points" (Wire.list (Wire.pair (Wire.optional Wire.real) Wire.int64))
      fun v s => { s with points := v }]
    {}

end Series

namespace TableColumn

def toJson (c : TableColumn) : Json :=
  .object (("text", .string c.text) :: if c.kind = "" then [] else [("type", .string c.kind)])

def decode : Wire.Decoder TableColumn :=
  Wire.record
    [Wire.requiredField "text" Wire.text fun v c => { c with text := v },
     Wire.field "type" Wire.text fun v c => { c with kind := v }]
    {}

end TableColumn

namespace Table

def toJson (t : Table) : Json :=
  .object [("columns", .array (t.columns.map TableColumn.toJson)),
    ("rows", .array (t.rows.map .array))]

def decode : Wire.Decoder Table :=
  Wire.record
    [Wire.requiredField "columns" (Wire.list TableColumn.decode) fun v t => { t with columns := v },
     Wire.requiredField "rows" (Wire.list (Wire.list Wire.value)) fun v t => { t with rows := v }]
    {}

end Table

namespace Outcome

def failed (message : String) : Outcome := { error := some message }

def toJson (o : Outcome) : Json :=
  .object <|
    (if o.series.isEmpty then [] else [("series", .array (o.series.map Series.toJson))]) ++
    (if o.tables.isEmpty then [] else [("tables", .array (o.tables.map Table.toJson))]) ++
    (match o.error with
      | none => []
      | some e => [("error", .string e)]) ++
    (if o.warnings.isEmpty then [] else [("warnings", .strings o.warnings)])

def decode : Wire.Decoder Outcome :=
  Wire.record
    [Wire.field "series" (Wire.list Series.decode) fun v o => { o with series := v },
     Wire.field "tables" (Wire.list Table.decode) fun v o => { o with tables := v },
     Wire.field "error" (Wire.optional Wire.text) fun v o => { o with error := v },
     Wire.field "warnings" (Wire.list Wire.text) fun v o => { o with warnings := v }]
    {}

end Outcome

namespace Reply

/-- Puts the result of a target in, in place of an earlier one of the same reference. -/
def insert (r : Reply) (refId : String) (o : Outcome) : Reply :=
  ⟨(r.results.filter fun e => e.1 != refId) ++ [(refId, o)]⟩

def get? (r : Reply) (refId : String) : Option Outcome := r.results.lookup refId

def toJson (r : Reply) : Json :=
  .object [("results", .object (r.results.map fun e => (e.1, e.2.toJson)))]

def decode : Wire.Decoder Reply :=
  Wire.record
    [Wire.field "results" (Wire.map Outcome.decode) fun v r => { r with results := v }]
    {}

end Reply
end PanelSource
