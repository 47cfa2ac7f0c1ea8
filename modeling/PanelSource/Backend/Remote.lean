import PanelSource.Backend.Client
import PanelSource.Http.Url
import PanelSource.Json.Reader
import PanelSource.Json.Writer

/- A server elsewhere as a backend.

   Lookups are sent as `GET BASE/resources/NAME` with their parameters in the query, and panel
   requests as `POST BASE/query`. A status other than success is a failure with the message that
   the server gives under `error`, or with all that it sent if it gives none.

   Specification: SPEC_FULL, section 6. -/
namespace PanelSource
open Http

/-- What comes back for a request that reached its server. -/
structure Arrival where
  status : Nat
  body : String
  deriving DecidableEq, Repr, Inhabited

/-- A server by its base URL, and a way to reach the host of a URL. -/
structure Remote (W : Type) where
  base : String
  send : (authority : String) → Http.Request → StateM W (Except String Arrival)

namespace Remote
variable {W : Type} (r : Remote W)

/-- A base URL without the slashes at its end. -/
def trimBase (url : String) : String :=
  String.ofList (url.toList.reverse.dropWhile (· = '/')).reverse

def resourceUrl (name : String) : String := r.base ++ "/resources/" ++ name

def queryUrl : String := r.base ++ "/query"

/-- The pairs of the query that holds parameters; integers are written in decimal. -/
def queryPairs (ps : Params) : List (String × String) := ps.map fun p => (p.1, p.2.asText)

def failureMessage (body : String) : String :=
  (((Json.parse? body).bind (·.field? "error")).bind Json.string?).getD body

/-- The reply in what came back. -/
def readReply {α : Type} (read : Wire.Decoder α) (a : Arrival) : Except BackendError α :=
  if isSuccess a.status then
    let (document, atEnd) := Document.ofText a.body
    match read document with
    | .ok reply => if atEnd then .ok reply else .error (.malformedReply "trailing characters")
    | .error _ => .error (.malformedReply "unexpected content")
  else .error (.remote a.status (failureMessage a.body))

/-- Sends a request to a URL and reads the reply. -/
def exchange {α : Type} (url : String) (pairs : List (String × String))
    (request : Http.Request) (read : Wire.Decoder α) : StateM W (Except BackendError α) :=
  match Url.ofString? url with
  | none => return .error (.transport "builder error")
  | some u => do
    let u := u.addPairs pairs
    match ← r.send u.authority { request with path := u.path, query := u.query } with
    | .error reason => return .error (.transport reason)
    | .ok arrival => return readReply read arrival

def resources : ResourceClient W where
  fetch name ps := r.exchange (r.resourceUrl name) (queryPairs ps) { path := "/" } Wire.value

def panels : PanelBackend W where
  query request :=
    r.exchange r.queryUrl []
      { method := "POST", path := "/", headers := [("content-type", "application/json")]
        body := request.toJson.compress }
      Reply.decode

/-- The server as a backend; the region is known on this side only. -/
def backend (region : String) : Backend W := ⟨r.resources, r.panels, region⟩

end Remote
end PanelSource
