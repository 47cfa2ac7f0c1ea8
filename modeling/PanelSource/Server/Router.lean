import PanelSource.Backend.Client
import PanelSource.Http.Form
import PanelSource.Http.MediaType
import PanelSource.Http.Message
import PanelSource.Json.Reader
import PanelSource.Server.Cors
import PanelSource.Suggest.Finder

/- The server: lookups, panel requests and a check of the connection over HTTP.

   `GET /health` checks the connection, `GET /resources/NAME` makes a lookup whose parameters are
   the pairs of the query, and `POST /query` answers a panel request. A failed lookup has status
   400 and its message under `error`; a target that fails is a part of the reply to its request.

   Specification: SPEC_FULL, section 6. -/
namespace PanelSource
open Http

namespace Server

/-- What a path leads to. -/
inductive Route where
  | health
  | resource (name : String)
  | query
  deriving DecidableEq, Repr, Inhabited

/-- The route of a path. The name of a lookup is one segment, as it is sent. -/
def route? (path : String) : Option Route :=
  match path.toList.splitOn '/' with
  | [[], s] =>
    if s = "health".toList then some .health
    else if s = "query".toList then some .query
    else none
  | [[], s, name] =>
    if s = "resources".toList ∧ name ≠ [] then some (.resource (String.ofList name)) else none
  | _ => none

def Route.method : Route → String
  | .query => "POST"
  | _ => "GET"

def json (status : Nat) (j : Json) : Response :=
  { status, headers := [("content-type", "application/json")], body := .json j }

def text (status : Nat) (s : String) : Response :=
  { status, headers := [("content-type", "text/plain; charset=utf-8")], body := .text s }

def failure (message : String) : Response := json 400 (.object [("error", .string message)])

def bodyLimit : Nat := 2097152

/-- The request in a body, or the reply that refuses it. What is not JSON at all is told from JSON
    that is no request. -/
def readRequest (r : Http.Request) : Except Response PanelSource.Request :=
  if !(header? r.headers "content-type").any isJsonType then
    .error (text 415 "Expected request with `Content-Type: application/json`")
  else if bodyLimit < r.body.utf8ByteSize then
    .error (text 413 "Failed to buffer the request body: length limit exceeded")
  else
    let (document, atEnd) := Document.ofText r.body
    match PanelSource.Request.decode document with
    | .error .unreadable => .error (text 400 "Failed to parse the request body as JSON")
    | .error _ => .error (text 422 "Failed to deserialize the JSON body into the target type")
    | .ok request =>
      if atEnd then .ok request
      else .error (text 400 "Failed to parse the request body as JSON")

end Server

/-- A server and what it answers from. -/
structure Server (W : Type) extends Backend W where
  /-- The setting for pages of other origins. -/
  origin : String

namespace Server
variable {W : Type} (s : Server W)

/-- Queries without a dashboard around them; checks resolve no variables. -/
def finder : Suggest.Finder W := ⟨s.resources, .empty, ⟨.epoch, .epoch⟩⟩

def health : StateM W Response := do
  let status ← s.finder.check s.region
  let name := if status.isWorking then "ok" else "error"
  return json (if status.isWorking then 200 else 503)
    (.object [("status", .string name), ("message", .string status.message)])

/-- The parameters in a query; of two of one name the later counts. -/
def queryParams (query : Option String) : Params :=
  .ofList ((readPairs (query.getD "")).map fun p => (p.1, .text p.2))

def resource (name : String) (query : Option String) : StateM W Response := do
  match segmentText? name with
  | none => return text 400 "Invalid UTF-8 in `name`"
  | some name =>
    match ← s.resources.fetch name (queryParams query) with
    | .ok reply => return json 200 reply
    | .error e => return failure e.message

def query (r : Http.Request) : StateM W Response := do
  match readRequest r with
  | .error refusal => return refusal
  | .ok request =>
    match ← s.panels.query request with
    | .ok reply => return json 200 reply.toJson
    | .error e => return failure e.message

/-- The reply of a route. -/
def answer (r : Http.Request) : Route → StateM W Response
  | .health => s.health
  | .resource name => s.resource name r.query
  | .query => s.query r

/-- The reply to a request without the headers for other origins. A request for the headers alone
    is answered like one for the whole and loses its body. -/
def dispatch (r : Http.Request) : StateM W Response :=
  match route? r.path with
  | none => pure { status := 404 }
  | some route =>
    if r.method = route.method then s.answer r route
    else if r.method = "HEAD" ∧ route.method = "GET" then do
      return { ← s.answer r route with body := .empty }
    else
      pure { status := 405, headers := [("allow", if route = .query then "POST" else "GET,HEAD")] }

/-- The reply to a request. -/
def handle (r : Http.Request) : StateM W Response :=
  if r.method = "OPTIONS" then pure { status := 200, headers := preflightHeaders s.origin }
  else do
    let reply ← s.dispatch r
    return { reply with headers := reply.headers ++ originHeaders s.origin }

end Server
end PanelSource
