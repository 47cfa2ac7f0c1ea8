import PanelSource.Backend.Error

/- Failures on the side of the SQL service. -/
namespace PanelSource

inductive AthenaError where
  /-- A call of the service failed. -/
  | service (reason : String)
  /-- Result data that cannot be interpreted. -/
  | parse (reason : String)
  /-- A pattern that is not well formed. -/
  | invalidPattern (pattern reason : String)
  | namedQueryNotFound (name : String)
  /-- Ad-hoc statements run only where a workgroup limits what they scan. -/
  | noScanLimit (workGroup : String)
  | queryFailed (id reason : String)
  /-- The execution was still pending after all checks. -/
  | queryTimeout (id : String) (attempts : Nat)
  | invalidParameter (name value reason : String)
  | missingParameter (name : String)
  | unknownResource (name : String)
  deriving DecidableEq, Repr, Inhabited

namespace AthenaError

def message : AthenaError → String
  | .service reason => "AWS SDK error: " ++ reason
  | .parse reason => "Parse error: " ++ reason
  | .invalidPattern pattern reason => "Invalid pattern '" ++ pattern ++ "': " ++ reason
  | .namedQueryNotFound name => "No query with that name found: " ++ name
  | .noScanLimit workGroup => "Workgroup '" ++ workGroup ++ "' has no scan data limit set"
  | .queryFailed id reason => "Query " ++ id ++ " failed: " ++ reason
  | .queryTimeout id attempts =>
    "Query " ++ id ++ " did not finish after " ++ String.ofList (Number.decimal attempts) ++ " checks"
  | .invalidParameter name value reason =>
    "Invalid parameter " ++ name ++ "='" ++ value ++ "': " ++ reason
  | .missingParameter name => "Missing parameter: " ++ name
  | .unknownResource name => "Unknown resource: " ++ name

/-- The failure as callers of lookups see it. -/
def toBackend : AthenaError → BackendError
  | .service reason => .aws reason
  | .invalidParameter name value reason => .invalidParameter name value reason
  | .invalidPattern pattern reason => .invalidParameter "pattern" pattern reason
  | .missingParameter name => .missingParameter name
  | .unknownResource name => .unknownResource name
  | e => .other e.message

end AthenaError
end PanelSource
