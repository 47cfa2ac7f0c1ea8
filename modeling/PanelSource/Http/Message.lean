import PanelSource.Json.Value

/- Requests and replies of HTTP. -/
namespace PanelSource.Http

structure Request where
  method : String := "GET"
  /-- The path as it is sent, without the query. -/
  path : String
  query : Option String := none
  headers : List (String × String) := []
  body : String := ""
  deriving DecidableEq, Repr, Inhabited

inductive Body where
  | empty
  | text (s : String)
  | json (j : Json)
  deriving Repr, Inhabited

structure Response where
  status : Nat
  headers : List (String × String) := []
  body : Body := .empty
  deriving Repr, Inhabited

def lower (s : String) : String := String.ofList (s.toList.map Char.toLower)

/-- The first value of a header; names are the same in either case. -/
def header? (headers : List (String × String)) (name : String) : Option String :=
  (headers.find? fun h => lower h.1 == lower name).map (·.2)

/-- The target with its query taken apart from its path; a fragment is dropped. -/
def splitTarget (target : String) : String × Option String :=
  let cs := target.toList.takeWhile (· ≠ '#')
  let path := cs.takeWhile (· ≠ '?')
  match cs.dropWhile (· ≠ '?') with
  | [] => (String.ofList path, none)
  | _ :: query => (String.ofList path, some (String.ofList query))

def isSuccess (status : Nat) : Bool := 200 ≤ status && status < 300

end PanelSource.Http
