import PanelSource.Text.Blank

/- The template variables of a dashboard.

   A variable has a name and any number of values. A store keeps one variable for each name, in
   the order in which the names came first. -/
namespace PanelSource.Variable

/-- Variables by name, each with its values. -/
structure Store where
  entries : List (String × List String)
  deriving DecidableEq, Repr, Inhabited

namespace Store

def empty : Store := ⟨[]⟩

def get? (s : Store) (name : String) : Option (List String) := s.entries.lookup name

/-- The entries after a variable got new values. -/
def setEntry (name : String) (values : List String) :
    List (String × List String) → List (String × List String)
  | [] => [(name, values)]
  | (k, v) :: rest => if k = name then (name, values) :: rest else (k, v) :: setEntry name values rest

def set (s : Store) (name : String) (values : List String) : Store :=
  ⟨setEntry name values s.entries⟩

def size (s : Store) : Nat := s.entries.length

def ofList (xs : List (String × List String)) : Store :=
  xs.foldl (fun s x => s.set x.1 x.2) empty

end Store

/-- Reads an assignment `name=value` or `name=a,b`; the name may be written with its dollar sign. -/
def readAssignment (text : String) : Option (String × List String) :=
  let cs := text.toList
  match cs.dropWhile (· != '=') with
  | [] => none
  | _ :: value =>
    match (Text.strip (cs.takeWhile (· != '='))).dropWhile (· == '$') with
    | [] => none
    | name =>
      some (String.ofList name, (value.splitOn ',').map fun v => String.ofList (Text.strip v))

end PanelSource.Variable
