import PanelSource.Athena.Error
import PanelSource.Calendar.Reading
import PanelSource.Frame.Layout

/- Reading the texts of cells.

   Specification: SPEC_FULL, section 10.4. -/
namespace PanelSource.Frame
open Calendar Number

/-- The instant that a text states, by the first reading of a format that works: with an offset,
    without one, or as a day. -/
def readCustom (format raw : String) : Except TimeFault Instant :=
  if format = "" then readRfc3339 raw
  else
    match readInstant format raw with
    | .ok t => .ok t
    | .error _ =>
      match readMoment format raw with
      | .ok t => .ok t
      | .error _ => readDate format raw

def readTimeText (raw : String) : TimeLayout → Except TimeFault Instant
  | .date => readDate "%Y-%m-%d" raw
  | .timestamp => readMoment "%Y-%m-%d %H:%M:%S%.f" raw
  | .custom format => readCustom format raw

/-- The time of a cell in milliseconds. -/
def readTime (layout : TimeLayout) (raw : String) : Except AthenaError Int :=
  match readTimeText raw layout with
  | .ok t => .ok t.millis
  | .error e => .error (.parse ("invalid time '" ++ raw ++ "': " ++ e.message))

def readReal (raw : String) : Except AthenaError Binary64 :=
  match readDecimal (Text.strip raw.toList) with
  | .ok x => .ok x
  | .error e => .error (.parse ("invalid number '" ++ raw ++ "': " ++ e.message))

def readInteger (raw : String) : Except AthenaError Int :=
  match readInt64 (Text.strip raw.toList) with
  | .ok i => .ok i
  | .error e => .error (.parse ("invalid integer '" ++ raw ++ "': " ++ e.message))

/-- The typed value of a cell. -/
def readCell (kind : CellKind) (raw : String) : Except AthenaError Json :=
  match kind with
  | .text => .ok (.string raw)
  | .integer => (readInteger raw).map .int
  | .real => (readReal raw).map .real
  | .bool => .ok (.bool (raw == "true"))
  | .time l => (readTime l raw).map .int

/-- The text of a row's cell, if the row has one there and it is not NULL. -/
def cell? (row : List (Option String)) (i : Nat) : Option String := (row[i]?).join

end PanelSource.Frame
