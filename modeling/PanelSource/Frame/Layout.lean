import PanelSource.Athena.ResultSet
import PanelSource.Panel.Request

/- What the columns of a result are taken for.

   A column's type says what its cells are. The target's options override it: the timestamp column
   may be text in a format of its own, and the value column is always a number. Where several
   columns have the name of an option the last of them is meant.

   Specification: SPEC_FULL, section 10.4. -/
namespace PanelSource.Frame

/-- How a time is written. -/
inductive TimeLayout where
  | date
  | timestamp
  /-- RFC 3339 if the format is empty, else the format. -/
  | custom (format : String)
  deriving DecidableEq, Repr

inductive CellKind where
  | text
  | integer
  | real
  | bool
  | time (layout : TimeLayout)
  deriving DecidableEq, Repr

/-- The type that a table's column declares. -/
def CellKind.tableType : CellKind → String
  | .text => "string"
  | .integer => "number"
  | .real => "number"
  | .bool => "boolean"
  | .time _ => "time"

/-- The options of a target that bear on its columns. -/
structure Options where
  timestampColumn : String := ""
  valueColumn : String := ""
  legendFormat : String := ""
  timeFormat : String := ""
  deriving DecidableEq, Repr, Inhabited

def Options.ofTarget (t : Target) : Options :=
  ⟨t.timestampColumn, t.valueColumn, t.legendFormat, t.timeFormat⟩

/-- What a type's cells are, if the type is known. -/
def kindOfType? (type : String) : Option CellKind :=
  match type with
  | "varchar" => some .text
  | "tinyint" => some .integer
  | "smallint" => some .integer
  | "integer" => some .integer
  | "bigint" => some .integer
  | "float" => some .real
  | "double" => some .real
  | "boolean" => some .bool
  | "date" => some (.time .date)
  | "timestamp" => some (.time .timestamp)
  | _ => none

def isTimestamp (o : Options) (c : ResultColumn) : Bool :=
  o.timestampColumn != "" && c.name == o.timestampColumn

def isValue (o : Options) (c : ResultColumn) : Bool := o.valueColumn != "" && c.name == o.valueColumn

/-- What the cells of a column are taken for; cells of an unknown type are text. -/
def kindOf (o : Options) (c : ResultColumn) : CellKind :=
  if isValue o c then .real
  else if isTimestamp o c && c.type == "varchar" then .time (.custom o.timeFormat)
  else (kindOfType? c.type).getD .text

/-- The place of the last element with a property. -/
def lastIndex? {α : Type} (p : α → Bool) (xs : List α) : Option Nat :=
  ((xs.zipIdx.filter fun x => p x.1).getLast?).map Prod.snd

/-- The warnings about columns of unknown types. -/
def typeWarnings (columns : List ResultColumn) : List String :=
  columns.filterMap fun c =>
    match kindOfType? c.type with
    | some _ => none
    | none => some ("unknown column type: " ++ c.type)

/-- The columns of a result under a target's options. -/
structure Layout where
  kinds : List CellKind
  timestamp : Option Nat
  value : Option Nat
  deriving DecidableEq, Repr

def layout (o : Options) (columns : List ResultColumn) : Layout :=
  ⟨columns.map (kindOf o), lastIndex? (isTimestamp o) columns, lastIndex? (isValue o) columns⟩

end PanelSource.Frame
