import PanelSource.Pattern.Literal
import PanelSource.Variable.Reference
import PanelSource.Variable.Store

/- Substitution of variables in a text.

   Every reference to a stored variable gives way to the variable's values, in one pass from the
   left: what a value brings in is not looked at again. References to variables that are not
   stored stay as they are written.

   Several values become `{a,b}` in plain text. In a pattern each value is escaped, so that it
   matches itself only, and several values become `(a|b)`.

   Specification: SPEC_FULL, sections 2 and 6. -/
namespace PanelSource.Variable

/-- What the text is that values are put into. -/
inductive Mode where
  | plain
  | pattern
  deriving DecidableEq, Repr

/-- The characters that stand for a variable's values. -/
def render (mode : Mode) (values : List String) : List Char :=
  match mode, values.map String.toList with
  | _, [] => []
  | .plain, [v] => v
  | .pattern, [v] => Pattern.escape v
  | .plain, vs => '\x7b' :: [','].intercalate vs ++ ['\x7d']
  | .pattern, vs => '(' :: ['|'].intercalate (vs.map Pattern.escape) ++ [')']

/-- A segment with its variable put in. -/
def Segment.resolve (s : Store) (mode : Mode) : Segment → List Char
  | .plain c => [c]
  | .reference spelling name =>
    match s.get? (String.ofList name) with
    | some values => render mode values
    | none => spelling

def resolveChars (s : Store) (mode : Mode) (cs : List Char) : List Char :=
  (segments cs).flatMap (Segment.resolve s mode)

/-- The text with every reference to a stored variable replaced. -/
def Store.resolve (s : Store) (mode : Mode) (text : String) : String :=
  String.ofList (resolveChars s mode text.toList)

end PanelSource.Variable
