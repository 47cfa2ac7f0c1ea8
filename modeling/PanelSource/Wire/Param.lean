import PanelSource.Wire.Decoder

/- Parameters of a lookup: integers and texts by name.

   Specification: SPEC_FULL, section 6. -/
namespace PanelSource
open Number

inductive Param where
  | int (i : Int)
  | text (s : String)
  deriving DecidableEq, Repr, Inhabited

namespace Param

/-- The text of a parameter; an integer is written in decimal. -/
def asText : Param → String
  | .int i => String.ofList (signedDecimal i)
  | .text s => s

/-- The integer of a parameter; a text is read as a decimal integer between blanks. -/
def asInt : Param → Option Int
  | .int i => some i
  | .text s => (readInt64 (Text.strip s.toList)).toOption

def toJson : Param → Json
  | .int i => .int i
  | .text s => .string s

def decode : Wire.Decoder Param
  | .number (.integer i) =>
    if int64Min ≤ i ∧ i ≤ int64Max then .ok (.int i) else .error .mismatch
  | .string s => .ok (.text s)
  | d => if d.isWhole then .error .mismatch else .error .unreadable

end Param

/-- Parameters by name, in the order of their names. -/
abbrev Params := List (String × Param)

namespace Params

def get? (ps : Params) (name : String) : Option Param := ps.lookup name

/-- Sets a parameter, in its place by name. -/
def set (name : String) (p : Param) : Params → Params
  | [] => [(name, p)]
  | (k, q) :: rest =>
    if name = k then (name, p) :: rest
    else if name < k then (name, p) :: (k, q) :: rest
    else (k, q) :: set name p rest

def ofList (xs : List (String × Param)) : Params := xs.foldl (fun ps x => set x.1 x.2 ps) []

def toJson (ps : Params) : Json := .object (ps.map fun p => (p.1, p.2.toJson))

def decode : Wire.Decoder Params := fun d => (Wire.map Param.decode d).map ofList

end Params
end PanelSource
