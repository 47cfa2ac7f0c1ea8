import PanelSource.Athena.Execution

/- Suggestions, and how a reply becomes a list of them.

   A reply is an object with an array under the name of its resource. Elements that do not fit
   the resource's shape are passed over.

   Specification: SPEC_FULL, section 4.4. -/
namespace PanelSource.Suggest

/-- An entry of a picker: what it shows and what it stands for. -/
structure Suggestion where
  text : String
  value : String
  deriving DecidableEq, Repr, Inhabited

def Suggestion.toJson (s : Suggestion) : Json :=
  .object [("text", .string s.text), ("value", .string s.value)]

/-- What the elements of a reply are. -/
inductive Shape where
  | names
  | executions
  deriving DecidableEq, Repr

/-- The shape of a resource's reply. -/
def shape? (resource : String) : Option Shape :=
  if resource ∈ ["regions", "workgroup_names", "named_query_names", "named_query_queries",
      "query_execution_ids"] then some .names
  else if resource ∈ ["query_executions", "query_executions_by_name"] then some .executions
  else none

/-- Time of completion, id and statement of an execution. -/
def executionLabel (e : Execution) (id : String) : String :=
  let completed := (e.completed.map Calendar.Instant.plainText).getD ""
  Text.trim (completed ++ " " ++ id ++ " " ++ e.sql.getD "")

/-- The suggestion of one element; `label` is what an execution shows. -/
def suggestion? (label : Execution → String → String) : Shape → Json → Option Suggestion
  | .names, j => j.string?.map fun s => ⟨s, s⟩
  | .executions, j =>
    match Wire.ofJson Execution.decode j with
    | .error _ => none
    | .ok e => e.id.map fun id => ⟨label e id, id⟩

def elements (resource : String) (reply : Json) : List Json :=
  match reply.field? resource with
  | some (.array xs) => xs
  | _ => []

/-- The suggestions of a reply. -/
def projectWith (label : Execution → String → String) (resource : String) (reply : Json) :
    List Suggestion :=
  match shape? resource with
  | none => []
  | some shape => (elements resource reply).filterMap (suggestion? label shape)

/-- The suggestions of a reply, where executions show their ids. -/
def project (resource : String) (reply : Json) : List Suggestion :=
  projectWith (fun _ id => id) resource reply

/-- The suggestions of a reply, where executions show when they completed and what they ran. -/
def projectLabeled (resource : String) (reply : Json) : List Suggestion :=
  projectWith executionLabel resource reply

end PanelSource.Suggest
