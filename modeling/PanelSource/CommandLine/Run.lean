import PanelSource.Backend.Client
import PanelSource.CommandLine.Command
import PanelSource.Panel.Run
import PanelSource.Suggest.Finder

/- Running the commands that make lookups.

   A failure is a chain of messages: what could not be done, and why.

   Specification: SPEC_FULL, section 11. -/
namespace PanelSource.CommandLine
open Calendar

/-- The messages of a failure, the outermost first. -/
abbrev Causes := List String

/-- What a command has to show, and what it failed on, if it did. -/
structure Finish where
  shown : Option Json := none
  failure : Causes := []
  deriving Repr, Inhabited

namespace Finish

def code (f : Finish) : Nat := if f.failure.isEmpty then 0 else 1

def message (f : Finish) : String := ": ".intercalate f.failure

end Finish

def UsageFault.code : UsageFault → Nat
  | .help | .version => 0
  | _ => 2

/-- The messages of a query that failed; a failure of the backend is told again by itself. -/
def causes : QueryError → Causes
  | .backend e => [(QueryError.backend e).message, e.message]
  | e => [e.message]

namespace CommonOptions

/-- The variables that are assigned. -/
def store (c : CommonOptions) : Except Causes Variable.Store :=
  c.assignments.foldlM (fun s text =>
    match Variable.readAssignment text with
    | some (name, values) => .ok (s.set name values)
    | none => .error ["invalid --var '" ++ text ++ "', expected NAME=VALUE"]) .empty

/-- The longest range, in nanoseconds: what 63 bits count in milliseconds. -/
def longestRange : Nat := (Number.twoTo 63 - 1) * 1000000

/-- The window of the range before now. One that would start before all calendars starts with
    them. -/
def window (c : CommonOptions) (now : Instant) : Except Causes Window :=
  match Span.read c.range with
  | .error e => .error ["invalid --range '" ++ c.range ++ "'", e.message]
  | .ok span =>
    if longestRange < span.total then
      .error ["--range out of bounds", "Source duration value is out of range for the target type"]
    else .ok ⟨(now.back? span.total).getD .earliest, now⟩

end CommonOptions

/-- A target with its cache duration. -/
def finishTarget (t : Target) (cacheDuration : String) : Except Causes Target :=
  match Span.read cacheDuration with
  | .error e => .error ["invalid --cache-duration '" ++ cacheDuration ++ "'", e.message]
  | .ok span => .ok { t with cacheDuration := span }

variable {W : Type}

/-- Answers a suggestion query. -/
def suggest (b : Backend W) (now : Instant) (query : String) (raw : Bool) (c : CommonOptions) :
    ExceptT Causes (StateM W) Json := do
  let store ← ExceptT.mk (pure c.store)
  let window ← ExceptT.mk (pure (c.window now))
  let finder : Suggest.Finder W := ⟨b.resources, store, window⟩
  let found ← ExceptT.mk (if raw then finder.find query else finder.findLabeled query)
    |>.adapt causes
  return .array (found.map Suggest.Suggestion.toJson)

/-- Runs a target. -/
def query (b : Backend W) (now : Instant) (t : Target) (cacheDuration : String)
    (c : CommonOptions) : ExceptT Causes (StateM W) PanelReply := do
  let store ← ExceptT.mk (pure c.store)
  let target ← ExceptT.mk (pure (finishTarget t cacheDuration))
  let window ← ExceptT.mk (pure (c.window now))
  ExceptT.mk (Panel.run b.panels store window b.region [target]) |>.adapt causes

/-- Runs a command that makes lookups; of a target that failed the rest is shown all the same. -/
def run (b : Backend W) (now : Instant) : Command → StateM W Finish
  | .serve _ _ => return {}
  | .suggest text raw c => do
    match ← (suggest b now text raw c).run with
    | .ok shown => return { shown := some shown }
    | .error failure => return { failure }
  | .query target cacheDuration c => do
    match ← (query b now target cacheDuration c).run with
    | .ok reply => return { shown := some reply.toJson, failure := reply.message.toList }
    | .error failure => return { failure }

end PanelSource.CommandLine
