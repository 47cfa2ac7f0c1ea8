import PanelSource.Number.Binary64

/- JSON values.

   Integers are kept exactly; every other number is a double. An object is a list of fields in
   the order in which they were written. -/
namespace PanelSource
open Number

/-- A JSON number: an integer of at most 64 bits, or a double. -/
inductive JsonNumber where
  | integer (i : Int)
  | real (x : Binary64)
  deriving DecidableEq, Repr, Inhabited

inductive Json where
  | null
  | bool (b : Bool)
  | number (n : JsonNumber)
  | string (s : String)
  | array (items : List Json)
  | object (fields : List (String × Json))
  deriving Repr, Inhabited

namespace Json

def int (i : Int) : Json := .number (.integer i)

def nat (n : Nat) : Json := .number (.integer n)

/-- A double as a number; what is not finite has no JSON form and becomes null. -/
def real (x : Binary64) : Json := if x.isFinite then .number (.real x) else .null

def strings (xs : List String) : Json := .array (xs.map .string)

def ofOption {α : Type} (f : α → Json) : Option α → Json
  | none => .null
  | some a => f a

/-- The value of a field; the last one of a name counts. -/
def field? (j : Json) (name : String) : Option Json :=
  match j with
  | .object fields => (fields.reverse.find? fun f => f.1 == name).map Prod.snd
  | _ => none

def string? : Json → Option String
  | .string s => some s
  | _ => none

/-- Puts a field into fields that are sorted by name, in place of one of the same name. -/
def insertField (name : String) (value : Json) : List (String × Json) → List (String × Json)
  | [] => [(name, value)]
  | (k, v) :: rest =>
    if name = k then (name, value) :: rest
    else if name < k then (name, value) :: (k, v) :: rest
    else (k, v) :: insertField name value rest

end Json
end PanelSource
