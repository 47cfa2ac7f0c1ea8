import PanelSource.Backend.Error
import PanelSource.Suggest.Call
import PanelSource.Variable.Substitution
import PanelSource.Wire.Param
import PanelSource.Wire.Time

/- From a call to the lookup that answers it.

   Variables are put into regions, limits and workgroups as plain text and into patterns as
   pattern text. The limit must then be an integer. A call that names no workgroup means the
   default one of its form, and the end of the dashboard's window goes along where the form
   sends it.

   Specification: SPEC_FULL, sections 4.2 and 4.3. -/
namespace PanelSource.Suggest
open Text Variable

/-- The arguments of a call with all variables put in; what a form does not declare is empty. -/
structure Arguments where
  region : String := ""
  limit : Int := 0
  pattern : String := ""
  workGroup : String := ""
  stop : String := ""
  deriving DecidableEq, Repr, Inhabited

def clauseToken (clause : List Char) : List Char :=
  strip ((stripStart clause).dropWhile (· == ','))

def resolveLimit (vars : Store) (limit : String) : Except QueryError Int :=
  let resolved := vars.resolve .plain limit
  match Number.readInt64 (strip resolved.toList) with
  | .ok i => .ok i
  | .error e => .error (.invalidArgument "limit" resolved e.message)

/-- The arguments that a call comes to. -/
def Call.resolve (call : Call) (vars : Store) (window : Window) : Except QueryError Arguments := do
  let raw := call.args
  let limit ← match raw.limit with
    | some l => resolveLimit vars l
    | none => .ok 0
  return {
    region := (raw.region.map (vars.resolve .plain)).getD ""
    limit
    pattern := (raw.pattern.map (vars.resolve .pattern)).getD ""
    workGroup :=
      if call.form.sends .workGroup then
        match raw.workGroup with
        | some clause => vars.resolve .plain (String.ofList (clauseToken clause.toList))
        | none => call.form.defaultWorkGroup
      else ""
    stop := if call.form.sends .stop then window.stopText else "" }

/-- A named lookup. -/
structure Lookup where
  resource : String
  params : Params
  deriving DecidableEq, Repr, Inhabited

def Arguments.param (args : Arguments) : Sent → Param
  | .region => .text args.region
  | .limit => .int args.limit
  | .pattern => .text args.pattern
  | .workGroup => .text args.workGroup
  | .stop => .text args.stop

/-- The lookup of a form: its resource, with the parameters that it sends. -/
def Form.lookup (f : Form) (args : Arguments) : Lookup :=
  ⟨f.resource, Params.ofList (f.sent.map fun p => (p.name, args.param p))⟩

end PanelSource.Suggest
