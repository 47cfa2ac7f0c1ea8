/- The forms of suggestion queries.

   A suggestion query is a call such as `named_query_names(us-east-1, etl)`. A form says how the
   call is written, which workgroup is meant where none is named, which resource answers it and
   which parameters are sent.

   Specification: SPEC_FULL, sections 3, 4.1 and 4.3. -/
namespace PanelSource.Suggest

inductive Form where
  | regions
  | workGroupNames
  | namedQueryNames
  | namedQueryQueries
  | executionIds
  | executionIdsByName
  deriving DecidableEq, Repr, Inhabited

/-- An argument that a form requires. -/
inductive Argument where
  | region
  | limit
  /-- Free text, in which commas and parentheses may stand. -/
  | pattern
  deriving DecidableEq, Repr

/-- A parameter that a form sends. -/
inductive Sent where
  | region
  | limit
  | pattern
  | workGroup
  | stop
  deriving DecidableEq, Repr

def Sent.name : Sent → String
  | .region => "region"
  | .limit => "limit"
  | .pattern => "pattern"
  | .workGroup => "workGroup"
  | .stop => "to"

namespace Form

def all : List Form :=
  [.executionIdsByName, .executionIds, .namedQueryQueries, .namedQueryNames, .workGroupNames,
    .regions]

/-- The name that the call is written with. -/
def function : Form → String
  | .regions => "regions"
  | .workGroupNames => "workgroup_names"
  | .namedQueryNames => "named_query_names"
  | .namedQueryQueries => "named_query_queries"
  | .executionIds => "query_execution_ids"
  | .executionIdsByName => "query_execution_ids_by_name"

def arguments : Form → List Argument
  | .regions => []
  | .workGroupNames => [.region]
  | .namedQueryNames => [.region]
  | .namedQueryQueries => [.region, .pattern]
  | .executionIds => [.region, .limit, .pattern]
  | .executionIdsByName => [.region, .limit, .pattern]

/-- Whether a workgroup may be named after the arguments. -/
def takesWorkGroup : Form → Bool
  | .regions | .workGroupNames => false
  | _ => true

/-- The workgroup of a call that names none. -/
def defaultWorkGroup : Form → String
  | .regions | .workGroupNames => ""
  | _ => "primary"

/-- The resource that answers the form. -/
def resource : Form → String
  | .regions => "regions"
  | .workGroupNames => "workgroup_names"
  | .namedQueryNames => "named_query_names"
  | .namedQueryQueries => "named_query_queries"
  | .executionIds => "query_execution_ids"
  | .executionIdsByName => "query_executions_by_name"

def sent : Form → List Sent
  | .regions => []
  | .workGroupNames => [.region]
  | .namedQueryNames => [.region, .workGroup]
  | .namedQueryQueries => [.region, .pattern, .workGroup]
  | .executionIds => [.region, .limit, .pattern, .workGroup, .stop]
  | .executionIdsByName => [.region, .limit, .pattern, .workGroup, .stop]

def sends (f : Form) (p : Sent) : Bool := f.sent.contains p

end Form
end PanelSource.Suggest
