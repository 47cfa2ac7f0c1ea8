import PanelSource.Json.Value

/- JSON as it arrives: a value that may break off.

   A `Document` is what can be told of a text before its first fault. Where the text stops being
   JSON the document holds `broken`, or an array or object that is not closed; nothing after that
   place is kept. A reader of documents that goes through them in order so meets the faults of a
   text in the order in which they stand there. Objects keep repeated names. -/
namespace PanelSource

inductive Document where
  | null
  | bool (b : Bool)
  | number (n : JsonNumber)
  | string (s : String)
  | array (items : List Document) (closed : Bool)
  | object (fields : List (String × Document)) (closed : Bool)
  | broken
  deriving Repr, Inhabited

namespace Document

mutual

/-- The value, if the document is whole. Fields come out sorted by name, and of two of one name
    the later stays. -/
def toJson? : Document → Option Json
  | .null => some .null
  | .bool b => some (.bool b)
  | .number n => some (.number n)
  | .string s => some (.string s)
  | .array items closed => if closed then (itemsToJson? items).map .array else none
  | .object fields closed => if closed then (fieldsToJson? fields []).map .object else none
  | .broken => none

def itemsToJson? : List Document → Option (List Json)
  | [] => some []
  | d :: rest =>
    match d.toJson? with
    | none => none
    | some j => (itemsToJson? rest).map (j :: ·)

def fieldsToJson? : List (String × Document) → List (String × Json) → Option (List (String × Json))
  | [], done => some done
  | (name, d) :: rest, done =>
    match d.toJson? with
    | none => none
    | some j => fieldsToJson? rest (Json.insertField name j done)

end

mutual

/-- A value as a document. -/
def ofJson : Json → Document
  | .null => .null
  | .bool b => .bool b
  | .number n => .number n
  | .string s => .string s
  | .array items => .array (itemsOfJson items) true
  | .object fields => .object (fieldsOfJson fields) true

def itemsOfJson : List Json → List Document
  | [] => []
  | j :: rest => ofJson j :: itemsOfJson rest

def fieldsOfJson : List (String × Json) → List (String × Document)
  | [] => []
  | (name, j) :: rest => (name, ofJson j) :: fieldsOfJson rest

end

def isWhole (d : Document) : Bool := d.toJson?.isSome

end Document
end PanelSource
