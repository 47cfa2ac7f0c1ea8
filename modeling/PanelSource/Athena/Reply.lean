import PanelSource.Athena.Service

/- Reading replies of the SQL service.

   A member that is null is one that is missing, nulls in a list are passed over, and members that
   are not known are ignored. A value of another kind than the one expected makes the whole reply a
   failure of the call. Times are seconds since the start of 1970 and keep their milliseconds. -/
namespace PanelSource.AthenaReply
open Calendar Number

abbrev Reader (α : Type) := Json → Except AthenaError (Option α)

def malformed {α : Type} : Except AthenaError α := .error (.service "malformed reply")

def text : Reader String
  | .null => .ok none
  | .string s => .ok (some s)
  | _ => malformed

/-- A number without a fraction that fits 64 bits. -/
def whole : Reader Int
  | .null => .ok none
  | .number n =>
    let value := match n with
      | .integer i => some i
      | .real x => if x.fraction.isZero then x.floor? else none
    match value.filter fun i => int64Min ≤ i ∧ i ≤ int64Max with
    | some i => .ok (some i)
    | none => malformed
  | _ => malformed

/-- The instant so many seconds after the start of 1970, with its milliseconds. -/
def instantOf (seconds : Binary64) : Option Instant := do
  let second ← seconds.floor?
  let nano ← (seconds.fraction.mul (.ofInt 1000000000)).floor?
  Instant.ofMillis? (second * 1000 + nano / 1000000)

/-- An instant; one that no calendar has counts as missing. -/
def instant : Reader Instant
  | .null => .ok none
  | .number (.integer i) => .ok (instantOf (.ofInt i))
  | .number (.real x) => .ok (instantOf x)
  | _ => malformed

def list {α : Type} (item : Reader α) : Reader (List α)
  | .null => .ok none
  | .array xs => (xs.mapM item).map fun items => some (items.filterMap id)
  | _ => malformed

def object {α : Type} (read : Json → Except AthenaError α) : Reader α
  | .null => .ok none
  | .object fields => (read (.object fields)).map some
  | _ => malformed

/-- A member of an object. -/
def member {α : Type} (name : String) (read : Reader α) (j : Json) :
    Except AthenaError (Option α) :=
  match j.field? name with
  | none => .ok none
  | some v => read v

/-- The items of a member that is a list; without the member there are none. -/
def members {α : Type} (name : String) (item : Reader α) (j : Json) :
    Except AthenaError (List α) := (member name (list item) j).map (·.getD [])

/-! ## What replies hold -/

/-- A saved statement; a name or a text that is missing is empty. -/
def namedQuery : Reader NamedQuery := object fun j => do
  let name ← member "Name" text j
  let sql ← member "QueryString" text j
  return ⟨name.getD "", sql.getD ""⟩

def status : Reader ExecutionStatus := object fun j => do
  let state ← member "State" text j
  let submitted ← member "SubmissionDateTime" instant j
  let completed ← member "CompletionDateTime" instant j
  return ⟨state, submitted, completed⟩

def statistics : Reader ExecutionStatistics := object fun j => do
  let scannedBytes ← member "DataScannedInBytes" whole j
  let engineMillis ← member "EngineExecutionTimeInMillis" whole j
  return ⟨scannedBytes, engineMillis⟩

def execution : Reader Execution := object fun j => do
  let id ← member "QueryExecutionId" text j
  let sql ← member "Query" text j
  let workGroup ← member "WorkGroup" text j
  let status ← member "Status" status j
  let statistics ← member "Statistics" statistics j
  return ⟨id, sql, workGroup, status, statistics⟩

/-- A column; a name or a type that is missing is empty. -/
def column : Reader ResultColumn := object fun j => do
  let name ← member "Name" text j
  let type ← member "Type" text j
  return ⟨name.getD "", type.getD ""⟩

def cell : Reader (Option String) := object (member "VarCharValue" text)

def row : Reader (List (Option String)) := object (members "Data" cell)

def columns : Reader (List ResultColumn) := object (members "ColumnInfo" column)

def resultSet : Reader ResultSet := object fun j => do
  let columns ← member "ResultSetMetadata" columns j
  let rows ← members "Rows" row j
  return ⟨columns.getD [], rows⟩

def named : Reader (Option String) := object (member "Name" text)

def workGroup : Reader (Option Int) := object fun j => do
  let limit ← member "Configuration" (object (member "BytesScannedCutoffPerQuery" whole)) j
  return limit.join

end PanelSource.AthenaReply
