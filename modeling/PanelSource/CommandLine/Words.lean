import PanelSource.Number.Integer

/- Reading the words of a command line.

   A word with two dashes in front names an option, which has its value after an equals sign or in
   the next word; a word with one dash is a row of short flags. The word `--` ends the options. A
   word that is nothing of the kind is the name of a command, where there are commands, or an
   operand.

   An option with its value in the next word is settled when something else comes up: only then is
   it found that the value is missing, does not fit, or is one too many. The fault that is found
   first is the one reported. -/
namespace PanelSource.CommandLine

/-- Why no command is run. To ask for help or for the version is one of the reasons. -/
inductive UsageFault where
  | help
  | version
  /-- There is nothing at all where a command has to be. -/
  | nothingGiven
  | missingCommand
  | unknownCommand
  | unknownArgument
  | missingValue
  | unexpectedValue
  | unfitValue
  | repeatedOption
  | missingOperand
  deriving DecidableEq, Repr, Inhabited

/-- What an option is for. -/
inductive OptionKind where
  | help
  | version
  | flag
  | text
  /-- A text that may start with a dash also as the next word. -/
  | dashedText
  /-- A text of which there may be several. -/
  | texts
  | port
  deriving DecidableEq, Repr, Inhabited

structure OptionRule where
  name : String
  kind : OptionKind
  deriving DecidableEq, Repr, Inhabited

/-- What words there may be, and the commands that some of them name. -/
structure Grammar (α : Type) where
  options : List OptionRule
  operands : Nat := 0
  commands : List (String × α) := []
  deriving DecidableEq, Repr, Inhabited

namespace OptionKind

def takesValue : OptionKind → Bool
  | help | version | flag => false
  | _ => true

/-- The flag of one letter that stands for an option. -/
def short? : OptionKind → Option Char
  | help => some 'h'
  | version => some 'V'
  | _ => none

end OptionKind

/-- The number of a port. -/
def port? (s : String) : Option Nat :=
  match Number.readInt64 s.toList with
  | .ok i => if 0 ≤ i ∧ i < Number.twoTo 16 then some i.toNat else none
  | .error _ => none

/-- What has been read so far. -/
structure Reading where
  /-- The options that are settled, in order, with their values. -/
  given : List (String × String) := []
  operands : List String := []
  /-- An option that is not settled, with its value once that is there. -/
  pending : Option (OptionRule × Option String) := none
  /-- Whether the options have ended. -/
  ended : Bool := false
  deriving DecidableEq, Repr, Inhabited

namespace Reading

def values (r : Reading) (name : String) : List String :=
  r.given.filterMap fun g => if g.1 = name then some g.2 else none

def value? (r : Reading) (name : String) : Option String := (r.values name).head?

/-- Takes an option with its value. -/
def give (r : Reading) (o : OptionRule) (value : String) : Except UsageFault Reading :=
  if o.kind = .help then .error .help
  else if o.kind = .version then .error .version
  else if o.kind ≠ .texts ∧ (r.value? o.name).isSome then .error .repeatedOption
  else if o.kind = .port ∧ port? value = none then .error .unfitValue
  else .ok { r with given := r.given ++ [(o.name, value)] }

/-- Settles the pending option. -/
def settle (r : Reading) : Except UsageFault Reading :=
  match r.pending with
  | none => .ok r
  | some (_, none) => .error .missingValue
  | some (o, some value) => { r with pending := none }.give o value

/-- Settles the pending option and takes another one. -/
def settleAndGive (r : Reading) (o : OptionRule) (value : String) : Except UsageFault Reading := do
  (← r.settle).give o value

/-- The option whose value the next word may be. -/
def awaiting? (r : Reading) : Option OptionRule :=
  match r.pending with
  | some (o, none) => if r.ended then none else some o
  | _ => none

end Reading

namespace Grammar
variable {α : Type} (g : Grammar α)

def command? (word : String) : Option α := g.commands.lookup word

/-- A word with two dashes, without them. -/
def readOption (r : Reading) (body : List Char) : Except UsageFault Reading :=
  let name := String.ofList (body.takeWhile (· ≠ '='))
  match g.options.find? fun o => o.name = name, body.dropWhile (· ≠ '=') with
  | none, _ => .error .unknownArgument
  | some o, [] =>
    if o.kind.takesValue then do return { ← r.settle with pending := some (o, none) }
    else r.settleAndGive o ""
  | some o, _ :: value =>
    if o.kind.takesValue then r.settleAndGive o (String.ofList value) else .error .unexpectedValue

/-- The letters of a word with one dash. -/
def readFlags (r : Reading) : List Char → Except UsageFault Reading
  | [] => .ok r
  | c :: rest =>
    match g.options.find? fun o => o.kind.short? = some c with
    | none => .error .unknownArgument
    | some o => do readFlags (← r.settleAndGive o "") rest

/-- A word that is not an option. -/
def readOperand (r : Reading) (word : String) : Except UsageFault Reading :=
  if r.operands.length < g.operands then do
    let r ← r.settle
    return { r with operands := r.operands ++ [word] }
  else if g.commands.isEmpty || (r.ended && (g.command? word).isSome) then .error .unknownArgument
  else .error .unknownCommand

/-- One word that does not name a command. -/
def readWord (r : Reading) (word : String) : Except UsageFault Reading :=
  if r.ended then g.readOperand r word
  else
    match r.awaiting?, word.toList with
    | some ⟨name, .dashedText⟩, _ => .ok { r with pending := some (⟨name, .dashedText⟩, some word) }
    | _, ['-', '-'] => .ok { r with ended := true }
    | _, '-' :: '-' :: body => g.readOption r body
    | _, '-' :: c :: rest => g.readFlags r (c :: rest)
    | some o, _ => .ok { r with pending := some (o, some word) }
    | none, _ => g.readOperand r word

/-- Reads words up to the name of a command; the answer has that command and the words after it. -/
def read (r : Reading) : List String → Except UsageFault (Reading × Option (α × List String))
  | [] => .ok (r, none)
  | word :: rest =>
    let command? := if r.ended || r.awaiting?.isSome then none else g.command? word
    match command? with
    | some command => .ok (r, some (command, rest))
    | none => do read (← g.readWord r word) rest

end Grammar
end PanelSource.CommandLine
