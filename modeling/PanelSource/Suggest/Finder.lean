import PanelSource.Backend.Client
import PanelSource.Suggest.Arguments
import PanelSource.Suggest.Suggestion
import PanelSource.Suggest.Ticket

/- Answering suggestion queries.

   A query is read, its arguments are resolved, one lookup is made and its reply is projected. A
   text that is no query has no suggestions and makes no lookup.

   Specification: SPEC_FULL, sections 2 and 7. -/
namespace PanelSource.Suggest
open Variable

/-- What a check of the connection finds. -/
inductive Status where
  | working
  | failing (reason : String)
  deriving DecidableEq, Repr, Inhabited

namespace Status

def isWorking : Status → Bool
  | working => true
  | failing _ => false

def message : Status → String
  | working => "Data source is working"
  | failing reason => reason

def toJson (s : Status) : Json :=
  let (name, title) := if s.isWorking then ("success", "Success") else ("error", "Error")
  .object [("status", .string name), ("message", .string s.message), ("title", .string title)]

end Status

/-- A client with the dashboard around it. -/
structure Finder (W : Type) where
  client : ResourceClient W
  store : Store
  window : Window

namespace Finder
variable {W : Type}

/-- Runs a query; `show_` makes suggestions of the reply. -/
def run (f : Finder W) (show_ : String → Json → List Suggestion) (query : String) :
    StateM W (Except QueryError (List Suggestion)) :=
  match parse query with
  | none => pure (.ok [])
  | some call =>
    match call.resolve f.store f.window with
    | .error e => pure (.error e)
    | .ok args => do
      let lookup := call.form.lookup args
      match ← f.client.fetch lookup.resource lookup.params with
      | .error e => return .error (.backend e)
      | .ok reply => return .ok (show_ lookup.resource reply)

def find (f : Finder W) (query : String) : StateM W (Except QueryError (List Suggestion)) :=
  f.run project query

def findLabeled (f : Finder W) (query : String) : StateM W (Except QueryError (List Suggestion)) :=
  f.run projectLabeled query

/-- The labeled suggestions; a failure has none. -/
def suggest (f : Finder W) (query : String) : StateM W (List Suggestion) := do
  match ← f.findLabeled query with
  | .ok xs => return xs
  | .error _ => return []

/-- Runs a query on behalf of an input field. The world holds the sequencer, so that lookups for
    other fields, or later ones for this field, may take tickets while this one is in flight. -/
def findFor {V : Type} (f : Finder (Sequencer × V)) (field query : String) :
    StateM (Sequencer × V) (Except QueryError (Settled (List Suggestion))) := do
  let (s, v) ← get
  let (ticket, s) := s.issue field
  set (s, v)
  let result ← f.findLabeled query
  let (s, _) ← get
  return s.settle ticket result

/-- Checks the connection: the backend has to list the named queries of a region. -/
def check (f : Finder W) (region : String) : StateM W Status := do
  match ← f.client.fetch "named_query_names" [("region", .text region)] with
  | .ok _ => return .working
  | .error e => return .failing e.message

end Finder
end PanelSource.Suggest
