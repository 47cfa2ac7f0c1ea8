import PanelSource.Athena.Reply

/- The SQL service behind its JSON protocol.

   A call sends an action and a body and gets the body of a reply. Listings and rows come in pages:
   a page that names the next one is followed by it, in the order of the names.

   Specification: SPEC_FULL, section 10.1. -/
namespace PanelSource
open AthenaReply

/-- What one page holds, and the name of the next page. -/
structure Page (α : Type) where
  content : α
  next : Option String

/-- Where a region's calls are sent. -/
structure AthenaEndpoint (W : Type) where
  send : (action : String) → (body : Json) → ServiceM W Json
  /-- The most pages that are asked for; a service that never ends is given up. -/
  pageLimit : Nat := Number.twoTo 64

/-- Asks for page after page, from the one that a token names. Each page is added to what is there
    until one makes it enough or names no next page. -/
def collect {W P A : Type} (ask : Option String → ServiceM W (Page P))
    (add : A → P → Except AthenaError (A × Bool)) : Nat → Option String → A → ServiceM W A
  | 0, _, _ => throw (.service "too many pages")
  | k + 1, token, done => do
    let page ← ask token
    let (done, enough) ← ExceptT.mk (pure (add done page.content))
    if enough then return done
    else
      match page.next with
      | none => return done
      | some next => collect ask add k (some next) done

def addItems {α : Type} (done items : List α) : Except AthenaError (List α × Bool) :=
  .ok (done ++ items, false)

/-- Adds the ids of a page; ids that begin with the one to stop at are enough. -/
def addIds (stopAt : Option String) (done ids : List String) :
    Except AthenaError (List String × Bool) :=
  let ids := done ++ ids
  .ok (ids, stopAt.isSome && ids.head? == stopAt)

/-- Adds the rows of a page; so many rows as are asked for are enough. The columns are those of the
    first page that has any. -/
def addRows (maxRows : Int) (done : ResultSet) :
    Option ResultSet → Except AthenaError (ResultSet × Bool)
  | none => .error (.parse "No ResultSet in response")
  | some r =>
    let columns := if done.columns.isEmpty then r.columns else done.columns
    let rows := done.rows ++ r.rows
    if 0 ≤ maxRows ∧ maxRows ≤ rows.length then .ok (⟨columns, rows.take maxRows.toNat⟩, true)
    else .ok (⟨columns, rows⟩, false)

/-- The first row of the first page repeats the names of the columns. -/
def dropHeader (token : Option String) (r : ResultSet) : ResultSet :=
  if token.isNone then { r with rows := r.rows.drop 1 } else r

namespace AthenaEndpoint
variable {W : Type} (e : AthenaEndpoint W)

/-- Sends an action and reads the reply, which has to be an object. -/
def call {α : Type} (action : String) (body : List (String × Option Json))
    (read : Json → Except AthenaError α) : ServiceM W α := do
  let reply ← e.send action (.objectOfSome body)
  match ← ExceptT.mk (pure (object read reply)) with
  | some a => return a
  | none => throw (.service "malformed reply")

/-- Asks for the page that a token names, or for the first one. -/
def page {α : Type} (action : String) (body : List (String × Option Json))
    (read : Json → Except AthenaError α) (token : Option String) : ServiceM W (Page α) :=
  e.call action (body ++ [("NextToken", token.map .string)]) fun reply => do
    return ⟨← read reply, ← member "NextToken" text reply⟩

def workGroups : ServiceM W (List String) :=
  collect (e.page "ListWorkGroups" [] fun r => (members "WorkGroups" named r).map (·.filterMap id))
    addItems e.pageLimit none []

def namedQueryIds (workGroup : Option String) : ServiceM W (List String) :=
  collect (e.page "ListNamedQueries" [("WorkGroup", workGroup.map .string)]
    (members "NamedQueryIds" text)) addItems e.pageLimit none []

/-- Without ids nothing is asked. -/
def namedQueries (ids : List String) : ServiceM W (List NamedQuery) :=
  if ids.isEmpty then return []
  else e.call "BatchGetNamedQuery" [("NamedQueryIds", some (.strings ids))]
    (members "NamedQueries" namedQuery)

def executionIds (workGroup stopAt : Option String) : ServiceM W (List String) :=
  collect (e.page "ListQueryExecutions" [("WorkGroup", workGroup.map .string)]
    (members "QueryExecutionIds" text)) (addIds stopAt) e.pageLimit none []

/-- Without ids nothing is asked. -/
def executions (ids : List String) : ServiceM W (List Execution) :=
  if ids.isEmpty then return []
  else e.call "BatchGetQueryExecution" [("QueryExecutionIds", some (.strings ids))]
    (members "QueryExecutions" execution)

/-- One page of rows, without the row that repeats the columns. -/
def resultPage (id : String) (token : Option String) : ServiceM W (Page (Option ResultSet)) := do
  let page ← e.page "GetQueryResults" [("QueryExecutionId", some (.string id))]
    (member "ResultSet" resultSet) token
  return ⟨page.content.map (dropHeader token), page.next⟩

def results (id : String) (maxRows : Int) : ServiceM W ResultSet :=
  collect (e.resultPage id) (addRows maxRows) e.pageLimit none {}

def scanLimit (workGroup : String) : ServiceM W (Option Int) := do
  let limit ← e.call "GetWorkGroup" [("WorkGroup", some (.string workGroup))]
    (member "WorkGroup" AthenaReply.workGroup)
  return limit.join

def start (s : Statement) : ServiceM W String := do
  let location : Option Json :=
    if s.outputLocation.isEmpty then none
    else some (.object [("OutputLocation", .string s.outputLocation)])
  let id ← e.call "StartQueryExecution"
    [("QueryString", some (.string s.sql)), ("ResultConfiguration", location),
     ("WorkGroup", some (.string s.workGroup))]
    (member "QueryExecutionId" text)
  match id with
  | some id => return id
  | none => throw (.service "No query execution ID returned")

/-- The calls of the region behind an endpoint. -/
def service : RegionService W :=
  { workGroups := e.workGroups
    namedQueryIds := e.namedQueryIds
    namedQueries := e.namedQueries
    executionIds := e.executionIds
    executions := e.executions
    results := e.results
    scanLimit := e.scanLimit
    start := e.start }

end AthenaEndpoint
end PanelSource
