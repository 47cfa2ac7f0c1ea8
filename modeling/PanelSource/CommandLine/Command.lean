import PanelSource.CommandLine.Words
import PanelSource.Panel.Request

/- The commands: to serve, to answer a suggestion query and to run a target. -/
namespace PanelSource.CommandLine

/-- What both commands that make lookups take. -/
structure CommonOptions where
  /-- Assignments of variables, as they were typed. -/
  assignments : List String := []
  /-- How long the window before now is. -/
  range : String := "6h"
  /-- A server to ask in place of this process. -/
  backendUrl : Option String := none
  deriving DecidableEq, Repr, Inhabited

inductive Command where
  | serve (host : Option String) (port : Option Nat)
  | suggest (query : String) (raw : Bool) (common : CommonOptions)
  /-- The target comes without its cache duration, which is as it was typed. -/
  | query (target : Target) (cacheDuration : String) (common : CommonOptions)
  deriving DecidableEq, Repr, Inhabited

/-- A command, and the profile to run it under. -/
structure Invocation where
  profile : Option String
  command : Command
  deriving DecidableEq, Repr, Inhabited

/-! ## What each command takes -/

def globalOptions : List OptionRule := [⟨"profile", .text⟩, ⟨"help", .help⟩]

def commonOptions : List OptionRule := [⟨"var", .texts⟩, ⟨"range", .text⟩, ⟨"backend-url", .text⟩]

def targetOptions : List OptionRule :=
  [⟨"ids", .text⟩, ⟨"sql", .text⟩, ⟨"format", .text⟩, ⟨"region", .text⟩, ⟨"workgroup", .text⟩,
   ⟨"max-rows", .dashedText⟩, ⟨"cache-duration", .text⟩, ⟨"timestamp-column", .text⟩,
   ⟨"value-column", .text⟩, ⟨"legend-format", .text⟩, ⟨"time-format", .text⟩]

/-- What the name of a command stands for. -/
inductive CommandName where
  | serve
  | suggest
  | query
  /-- Explains the commands. -/
  | help
  deriving DecidableEq, Repr, Inhabited

def mainGrammar : Grammar CommandName :=
  { options := ⟨"version", .version⟩ :: globalOptions
    commands := [("serve", .serve), ("suggest", .suggest), ("query", .query), ("help", .help)] }

def serveGrammar : Grammar Empty :=
  { options := [⟨"host", .text⟩, ⟨"port", .port⟩] ++ globalOptions }

def suggestGrammar : Grammar Empty :=
  { options := ⟨"raw", .flag⟩ :: commonOptions ++ globalOptions, operands := 1 }

def queryGrammar : Grammar Empty :=
  { options := targetOptions ++ commonOptions ++ globalOptions }

/-! ## Commands from what was read -/

def readCommon (r : Reading) : CommonOptions :=
  { assignments := r.values "var"
    range := (r.value? "range").getD "6h"
    backendUrl := r.value? "backend-url" }

/-- The target that the options describe; an option that is not given leaves its field empty. -/
def readTarget (r : Reading) : Target :=
  let text (name : String) : String := (r.value? name).getD ""
  { refId := "A"
    format := (r.value? "format").getD "timeserie"
    region := (r.value? "region").getD "default"
    executionId := text "ids"
    workGroup := text "workgroup"
    maxRows := text "max-rows"
    sql := text "sql"
    timestampColumn := text "timestamp-column"
    valueColumn := text "value-column"
    legendFormat := text "legend-format"
    timeFormat := text "time-format" }

def readServe (r : Reading) : Except UsageFault Command :=
  .ok (.serve (r.value? "host") ((r.value? "port").bind port?))

def readSuggest (r : Reading) : Except UsageFault Command :=
  match r.operands with
  | [] => .error .missingOperand
  | query :: _ => .ok (.suggest query (r.value? "raw").isSome (readCommon r))

def readQuery (r : Reading) : Except UsageFault Command :=
  .ok (.query (readTarget r) ((r.value? "cache-duration").getD "") (readCommon r))

/-- What `help` answers: it explains all commands, or the one that it names. -/
def explain : List String → UsageFault
  | [] => .help
  | [name] => if (mainGrammar.command? name).isSome then .help else .unknownCommand
  | _ => .unknownCommand

/-- Reads what comes after the name of a command: the command and the profile that it names. -/
def parseAfter (name : CommandName) (words : List String) :
    Except UsageFault (Command × Option String) := do
  let finish (g : Grammar Empty) (build : Reading → Except UsageFault Command) := do
    let (r, _) ← g.read {} words
    let r ← r.settle
    return (← build r, r.value? "profile")
  match name with
  | .serve => finish serveGrammar readServe
  | .suggest => finish suggestGrammar readSuggest
  | .query => finish queryGrammar readQuery
  | .help => throw (explain words)

/-- Reads a command line. `standing` is the profile in force if none is named; one that is named
    after the command counts before one that is named in front of it. -/
def parse (standing : Option String) (words : List String) : Except UsageFault Invocation := do
  let (r, found) ← mainGrammar.read {} words
  match found with
  | none =>
    let r ← r.settle
    throw (if r.given.isEmpty && standing.isNone then .nothingGiven else .missingCommand)
  | some (name, rest) =>
    let (command, profile) ← parseAfter name rest
    let r ← r.settle
    return ⟨(profile.or (r.value? "profile")).or standing, command⟩

end PanelSource.CommandLine
