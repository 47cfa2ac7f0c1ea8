import PanelSource.Frame.Cell
import PanelSource.Frame.Legend
import PanelSource.Panel.Outcome

/- Tables and time series from result rows.

   Where there is a timestamp column, rows without a time are left out and the others are ordered
   by time, rows of one time in the order they came in. A table has a cell for every column in
   every row. Series are the rows of one legend each, in the order in which the legends first
   appear.

   Specification: SPEC_FULL, section 10.4. -/
namespace PanelSource.Frame
open Number

abbrev Row := List (Option String)

/-- The rows that have a time, each with it, in the order they came in. -/
def timedRows (index : Nat) (layout : TimeLayout) : List Row → Except AthenaError (List (Int × Row))
  | [] => .ok []
  | row :: rest =>
    match cell? row index with
    | none => timedRows index layout rest
    | some raw => do
      let t ← readTime layout raw
      return (t, row) :: (← timedRows index layout rest)

/-- The rows that have a time, in the order of their times. -/
def rowsByTime (index : Nat) (layout : TimeLayout) (rows : List Row) :
    Except AthenaError (List (Int × Row)) :=
  (timedRows index layout rows).map fun rs => rs.mergeSort fun a b => a.1 ≤ b.1

/-- How the times of a column are written, if it is a time column. -/
def timeLayout? (kinds : List CellKind) (i : Nat) : Option TimeLayout :=
  match kinds[i]? with
  | some (.time l) => some l
  | _ => none

def notTime (o : Options) : AthenaError :=
  .parse ("timestamp column '" ++ o.timestampColumn ++ "' is not a time column")

/-- The rows of a table, in their order. -/
def tableRows (o : Options) (l : Layout) (rows : List Row) : Except AthenaError (List Row) :=
  match l.timestamp with
  | none => .ok rows
  | some i =>
    match timeLayout? l.kinds i with
    | none => .error (notTime o)
    | some layout => (rowsByTime i layout rows).map fun rs => rs.map Prod.snd

/-- The cells of a row from the column at an index on; what is absent or NULL is null. -/
def readCells (row : Row) : Nat → List CellKind → Except AthenaError (List Json)
  | _, [] => .ok []
  | i, kind :: kinds => do
    let c ← match cell? row i with
      | some raw => readCell kind raw
      | none => .ok .null
    return c :: (← readCells row (i + 1) kinds)

/-- The table of a result. -/
def toTable (o : Options) (r : ResultSet) : Except AthenaError Table := do
  let l := layout o r.columns
  let rows ← tableRows o l r.rows
  let cells ← rows.mapM fun row => readCells row 0 l.kinds
  return {
    columns := (r.columns.zip l.kinds).map fun (c, kind) => ⟨c.name, kind.tableType⟩
    rows := cells }

/-- The labels of a row: its cells other than time and value that are not NULL. -/
def labels (columns : List ResultColumn) (timestamp value : Nat) (row : Row) : List Label :=
  columns.zipIdx.filterMap fun (c, i) =>
    if i = timestamp ∨ i = value then none else (cell? row i).map fun v => (c.name, v)

/-- Adds a point to the series of a name, which starts where there is none yet. -/
def addPoint (name : String) (point : Option Binary64 × Int) : List Series → List Series
  | [] => [⟨name, [point]⟩]
  | s :: rest =>
    if s.name = name then { s with points := s.points ++ [point] } :: rest
    else s :: addPoint name point rest

/-- The value of a row, if there is one. -/
def valueAt (row : Row) (i : Nat) : Except AthenaError (Option Binary64) :=
  match cell? row i with
  | some raw => (readReal raw).map some
  | none => .ok none

/-- Adds rows to series. -/
def addRows (o : Options) (columns : List ResultColumn) (timestamp value : Nat) :
    List Series → List (Int × Row) → Except AthenaError (List Series)
  | done, [] => .ok done
  | done, (t, row) :: rest => do
    let v ← valueAt row value
    let name := legend o.legendFormat (labels columns timestamp value row)
    addRows o columns timestamp value (addPoint name (v, t) done) rest

/-- The time series of a result. -/
def toSeries (o : Options) (r : ResultSet) : Except AthenaError (List Series) := do
  let l := layout o r.columns
  match l.timestamp, l.value with
  | none, _ => .error (.parse ("timestamp column '" ++ o.timestampColumn ++ "' not found"))
  | _, none => .error (.parse ("value column '" ++ o.valueColumn ++ "' not found"))
  | some i, some j =>
    match timeLayout? l.kinds i with
    | none => .error (notTime o)
    | some layout => do
      let rows ← rowsByTime i layout r.rows
      addRows o r.columns i j [] rows

/-- The outcome of a target whose result is at hand. -/
def convert (t : Target) (r : ResultSet) : Except AthenaError Outcome := do
  let o := Options.ofTarget t
  let warnings := typeWarnings r.columns
  if t.wantsTable then
    return { tables := [← toTable o r], warnings }
  else
    return { series := ← toSeries o r, warnings }

end PanelSource.Frame
