import PanelSource.Athena.Runner
import PanelSource.Backend.Remote
import PanelSource.CommandLine.Run
import PanelSource.Settings.Server
import Std.Time.DateTime.Timestamp

/- The program around the commands: its arguments, its environment and its clock.

   It opens no connections. A command that needs no reply from elsewhere runs to its end; one that
   asks a server or the SQL service ends with the failure of that request. -/
namespace PanelSource.Program
open CommandLine

/-- The keys that settings are read from. -/
def keys : List String :=
  ["HOST", "PORT", "CORS_ORIGIN", "BACKEND_URL", "BACKEND_TIMEOUT_SECONDS", "AWS_REGION",
   "ATHENA_REGION", "ATHENA_WORKGROUP", "ATHENA_OUTPUT_LOCATION", "ATHENA_MAX_ROWS",
   "ATHENA_WAIT_ATTEMPTS", "ATHENA_WAIT_INTERVAL_MS", "ATHENA_CACHE_CAPACITY",
   "ATHENA_EXECUTION_CACHE_SECONDS", "ATHENA_WORKGROUP_CACHE_SECONDS", "ATHENA_ENDPOINT_URL",
   "ATHENA_AWS_PROFILE", "ATHENA_ASSUME_ROLE_ARN"]

/-- Why no request is answered. -/
def noConnection : String := "no connection"

def remote (url : String) : Remote Unit :=
  ⟨Remote.trimBase url, fun _ _ => return .error noConnection⟩

def athena : Athena Unit where
  region _ := throw (.service noConnection)
  now := return 0
  pause _ := return ()

/-- The server that a command asks in place of this process, if there is one. -/
def serverOf (s : Settings) : Command → Option String
  | .serve _ _ => none
  | .suggest _ _ c | .query _ _ c => c.backendUrl.or s.backend.url

/-- Runs a command that makes lookups. -/
def perform (s : Settings) (a : AthenaSettings) (now : Calendar.Instant) (c : Command) : Finish :=
  match serverOf s c with
  | some url => ((run ((remote url).backend a.region) now c).run ()).1
  | none => ((run (AthenaBackend.mk athena a).backend now c).run (Session.fresh a ())).1

def address (s : Settings) (host : Option String) (port : Option Nat) : String :=
  host.getD s.server.host ++ ":" ++ String.ofList (Number.decimal (port.getD s.server.port))

/-- The lines that tell of a failure. -/
def report : Causes → List String
  | [] => []
  | [message] => ["Error: " ++ message]
  | message :: causes => ["Error: " ++ message, "", "Caused by:"] ++ causes.map ("    " ++ ·)

def usage : List String :=
  ["Usage: panelsource [--profile NAME] COMMAND",
   "",
   "Commands:",
   "  serve    Serve lookups and panel requests over HTTP",
   "  suggest  Answer a suggestion query",
   "  query    Run a target and print what a panel draws",
   "  help     Print this message"]

/-- What is printed where no command is run. -/
def explanation : UsageFault → List String
  | .help | .nothingGiven => usage
  | .version => ["panelsource 0.1.0"]
  | .missingCommand => "error: a command is missing" :: "" :: usage
  | .unknownCommand => "error: there is no such command" :: "" :: usage
  | .unknownArgument => ["error: unexpected argument"]
  | .missingValue => ["error: an option needs a value"]
  | .unexpectedValue => ["error: an option takes no value"]
  | .unfitValue => ["error: a value does not fit its option"]
  | .repeatedOption => ["error: an option is given more than once"]
  | .missingOperand => ["error: a query is missing"]

/-! ## Input and output -/

/-- The variables of some names that are set. -/
def environmentOf (names : List String) : IO Environment :=
  names.filterMapM fun name => do return (← IO.getEnv name).map fun value => (name, value)

def clock : IO Calendar.Instant := do
  let nanos := (← Std.Time.Timestamp.now).toNanosecondsSinceUnixEpoch.val
  return ⟨nanos / 1000000000, (nanos % 1000000000).toNat⟩

def execute (v : Invocation) : IO UInt32 := do
  let standing ← environmentOf [Environment.profileVariable]
  let profile := standing.profile v.profile
  let env ← environmentOf (keys ++ keys.map fun key => profile ++ "_" ++ key)
  let s := Settings.ofEnvironment env profile
  let a := AthenaSettings.ofEnvironment env profile
  match v.command with
  | .serve host port => do
    for line in s.summary ++ [a.summary] do
      IO.println line.text
    for line in report ["binding " ++ address s host port, noConnection] do
      IO.eprintln line
    return 1
  | command => do
    let finish := perform s a (← clock) command
    for shown in finish.shown do
      IO.println shown.pretty
    for line in report finish.failure do
      IO.eprintln line
    return finish.code.toUInt32

end PanelSource.Program

/-- Runs a command line. -/
def main (words : List String) : IO UInt32 := do
  let standing ← IO.getEnv PanelSource.Environment.profileVariable
  match PanelSource.CommandLine.parse standing words with
  | .ok invocation => PanelSource.Program.execute invocation
  | .error fault => do
    for line in PanelSource.Program.explanation fault do
      if fault.code = 0 then IO.println line else IO.eprintln line
    return fault.code.toUInt32
