import PanelSource.Number.Integer

/- Failures of lookups and panel requests.

   Specification: SPEC_FULL, section 7. -/
namespace PanelSource

/-- Why a backend did not answer a lookup or a request. -/
inductive BackendError where
  | transport (reason : String)
  /-- The backend answered with an HTTP status other than success. -/
  | remote (status : Nat) (message : String)
  | unknownResource (name : String)
  | missingParameter (name : String)
  | invalidParameter (name value reason : String)
  | malformedReply (reason : String)
  /-- The SQL service failed. -/
  | aws (reason : String)
  | other (message : String)
  deriving DecidableEq, Repr, Inhabited

def BackendError.message : BackendError → String
  | .transport reason => "Transport error: " ++ reason
  | .remote status message =>
    "Backend returned " ++ String.ofList (Number.decimal status) ++ ": " ++ message
  | .unknownResource name => "Unknown resource: " ++ name
  | .missingParameter name => "Missing parameter: " ++ name
  | .invalidParameter name value reason =>
    "Invalid parameter " ++ name ++ "='" ++ value ++ "': " ++ reason
  | .malformedReply reason => "Malformed reply: " ++ reason
  | .aws reason => "AWS error: " ++ reason
  | .other message => message

/-- Why a suggestion query or a panel has no answer. -/
inductive QueryError where
  /-- An argument is not what it must be after its variables are put in. -/
  | invalidArgument (argument value reason : String)
  | backend (e : BackendError)
  deriving DecidableEq, Repr, Inhabited

def QueryError.message : QueryError → String
  | .invalidArgument argument value reason =>
    "Invalid argument " ++ argument ++ "='" ++ value ++ "': " ++ reason
  | .backend e => "Backend failure: " ++ e.message

end PanelSource
