import PanelSource.Suggest.Form
import PanelSource.Text.Front
import PanelSource.Variable.Reference

/- Reading suggestion queries.

   A call is the name of a form, an opening parenthesis, the arguments between commas, and a
   closing parenthesis that ends the text. Regions and limits hold no commas and no parentheses.
   After the last argument a form may take a workgroup clause: a comma and a workgroup, which is a
   name of word characters, points and hyphens or a reference to a variable.

   A pattern may hold anything but line feeds. It ends at the first place where nothing but blanks
   or nothing but a workgroup clause is left. Blanks around arguments do not count; a text of
   blanks alone still stands for an argument, which is then empty.

   Specification: SPEC_FULL, section 4.1. -/
namespace PanelSource.Suggest
open Text Variable

/-- The arguments of a call as they are written, without the blanks around them. -/
structure RawArguments where
  region : Option String := none
  limit : Option String := none
  pattern : Option String := none
  /-- The workgroup clause with its comma. -/
  workGroup : Option String := none
  deriving DecidableEq, Repr, Inhabited

/-- A form with the arguments of one call. -/
structure Call where
  form : Form
  args : RawArguments
  deriving DecidableEq, Repr, Inhabited

def isNameChar (c : Char) : Bool := isWord c || c == '.' || c == '-'

/-- Whether a text names a workgroup, outright or by a variable. -/
def isWorkGroupToken (cs : List Char) : Bool :=
  (!cs.isEmpty && cs.all isNameChar) ||
    match reference? cs with
    | some (_, rest) => rest.isEmpty
    | none => false

/-- What the text after the last argument holds: `none` if it cannot end a call there, else the
    workgroup clause that stands there, if there is one. -/
def closing (workGroup : Bool) (cs : List Char) : Option (Option (List Char)) :=
  match stripStart cs with
  | [] => some none
  | ',' :: rest =>
    if workGroup && isWorkGroupToken (strip rest) then some (some (stripEnd cs)) else none
  | _ => none

/-- Whether a character may stand in a region or a limit. -/
def isPlain (c : Char) : Bool := c != ',' && c != '(' && c != ')'

/-- The text before the first comma, if it can be an argument, and the text after the comma. -/
def takeArgument (cs : List Char) : Option (List Char × List Char) :=
  match cs.takeWhile isPlain, cs.dropWhile isPlain with
  | [], _ => none
  | token, ',' :: rest => some (token, rest)
  | _, _ => none

/-- The length of an argument that begins after its blanks and ends before them; blanks alone
    make an argument of one blank. -/
def withoutBlanksAfter (token : List Char) : List Char :=
  if token.all isBlank then token else stripEnd token

/-- A last argument without commas, and the clause after it. -/
def lastPlain (workGroup : Bool) (cs : List Char) : Option (List Char × Option (List Char)) :=
  match cs.takeWhile isPlain with
  | [] => none
  | c :: token =>
    let argument := withoutBlanksAfter (c :: token)
    (closing workGroup (cs.drop argument.length)).map fun clause => (argument, clause)

/-- The pattern that a text holds, with the clause after it. -/
def lastPattern (workGroup : Bool) (cs : List Char) : Option (List Char × Option (List Char)) :=
  frontAfterBlanks (closing workGroup) cs

def token (cs : List Char) : String := String.ofList (strip cs)

def setArgument (args : RawArguments) : Argument → List Char → RawArguments
  | .region, cs => { args with region := some (token cs) }
  | .limit, cs => { args with limit := some (token cs) }
  | .pattern, cs => { args with pattern := some (token cs) }

/-- Reads the last argument and the workgroup clause. -/
def readLast (workGroup : Bool) (args : RawArguments) (last : Argument) (cs : List Char) :
    Option RawArguments :=
  let found := match last with
    | .pattern => lastPattern workGroup cs
    | _ => lastPlain workGroup cs
  found.map fun (argument, clause) =>
    { setArgument args last argument with workGroup := clause.map String.ofList }

/-- Reads the text between the parentheses of a call. -/
def readArguments (workGroup : Bool) : RawArguments → List Argument → List Char → Option RawArguments
  | args, [], cs => if cs.all isBlank then some args else none
  | args, [last], cs => readLast workGroup args last cs
  | args, a :: more, cs =>
    match takeArgument cs with
    | some (argument, rest) => readArguments workGroup (setArgument args a argument) more rest
    | none => none

/-- The text without its last character, which must be a closing parenthesis. -/
def dropClosing (cs : List Char) : Option (List Char) :=
  match cs.reverse with
  | ')' :: rest => some rest.reverse
  | _ => none

/-- What follows a text at the front of another. -/
def dropFront : List Char → List Char → Option (List Char)
  | [], cs => some cs
  | _ :: _, [] => none
  | p :: ps, c :: cs => if p = c then dropFront ps cs else none

/-- Reads a text as a call of one form. -/
def Form.read (f : Form) (cs : List Char) : Option RawArguments := do
  let inner ← dropClosing (← dropFront (f.function.toList ++ ['(']) cs)
  readArguments f.takesWorkGroup {} f.arguments inner

/-- Reads a suggestion query; what is no call of a known form is no query. -/
def parse (query : String) : Option Call :=
  let cs := strip query.toList
  Form.all.findSome? fun f => (f.read cs).map fun args => ⟨f, args⟩

end PanelSource.Suggest
