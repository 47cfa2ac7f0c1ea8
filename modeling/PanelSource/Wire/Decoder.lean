import PanelSource.Json.Document
import PanelSource.Span

/- Decoding documents into domain values.

   A record is an object whose known fields are read in the order in which they stand, or an array
   of its fields in their declared order. Unknown fields are passed over, a field given twice is a
   mismatch, and a field that is not required keeps its starting value where it is missing. The
   first fault that the document shows, from its start on, is the one reported. -/
namespace PanelSource.Wire
open Number

/-- Why a document does not decode. -/
inductive Fault where
  /-- The text is not JSON, or has more items than the record has fields. -/
  | unreadable
  /-- A value of the wrong kind, a missing field or a repeated one. -/
  | mismatch
  /-- A text that should be a span of time. -/
  | span (e : SpanError)
  deriving DecidableEq, Repr

abbrev Decoder (α : Type) := Document → Except Fault α

/-- The fault of a document that is not of the kind asked for. -/
def wrongKind {α : Type} : Document → Except Fault α
  | .broken => .error .unreadable
  | _ => .error .mismatch

def text : Decoder String
  | .string s => .ok s
  | d => wrongKind d

def flag : Decoder Bool
  | .bool b => .ok b
  | d => wrongKind d

def int64 : Decoder Int
  | .number (.integer i) => if int64Min ≤ i ∧ i ≤ int64Max then .ok i else .error .mismatch
  | d => wrongKind d

/-- A double; integers are taken for the nearest one. -/
def real : Decoder Binary64
  | .number (.integer i) => .ok (.ofInt i)
  | .number (.real x) => .ok x
  | d => wrongKind d

/-- Any value. -/
def value : Decoder Json := fun d =>
  match d.toJson? with
  | some j => .ok j
  | none => .error .unreadable

def optional {α : Type} (read : Decoder α) : Decoder (Option α)
  | .null => .ok none
  | d => (read d).map some

def readAll {α : Type} (read : Decoder α) : List Document → Except Fault (List α)
  | [] => .ok []
  | d :: rest => do
    let a ← read d
    return a :: (← readAll read rest)

def list {α : Type} (read : Decoder α) : Decoder (List α)
  | .array items closed => do
    let xs ← readAll read items
    if closed then return xs else .error .unreadable
  | d => wrongKind d

/-- An array of exactly two values. -/
def pair {α β : Type} (first : Decoder α) (second : Decoder β) : Decoder (α × β)
  | .array [] closed => .error (if closed then .mismatch else .unreadable)
  | .array (a :: rest) closed => do
    let a ← first a
    match rest with
    | [] => .error (if closed then .mismatch else .unreadable)
    | b :: more =>
      let b ← second b
      if more.isEmpty && closed then return (a, b) else .error .unreadable
  | d => wrongKind d

def readMapEntries {α : Type} (read : Decoder α) : List (String × Document) → List (String × α) →
    Except Fault (List (String × α))
  | [], done => .ok done
  | (name, d) :: rest, done => do
    let a ← read d
    readMapEntries read rest ((done.filter fun e => e.1 != name) ++ [(name, a)])

/-- An object as pairs of names and values; of two of one name the later stays. -/
def map {α : Type} (read : Decoder α) : Decoder (List (String × α))
  | .object fields closed => do
    let entries ← readMapEntries read fields []
    if closed then return entries else .error .unreadable
  | d => wrongKind d

/-- A span: null is zero, an integer counts seconds, a text is read as a span. -/
def span : Decoder Span
  | .null => .ok .zero
  | .string s =>
    match Span.read s with
    | .ok v => .ok v
    | .error e => .error (.span e)
  | .number (.integer i) =>
    match (if 0 ≤ i then Span.ofSeconds? i.toNat else none) with
    | some v => .ok v
    | none => .error .mismatch
  | d => if d.isWhole then .error .mismatch else .error .unreadable

/-- One field of a record of type `σ`, and how its document changes the record. -/
structure Field (σ : Type) where
  name : String
  required : Bool
  read : Document → σ → Except Fault σ

def field {σ α : Type} (name : String) (read : Decoder α) (put : α → σ → σ) : Field σ :=
  ⟨name, false, fun d s => (read d).map fun a => put a s⟩

def requiredField {σ α : Type} (name : String) (read : Decoder α) (put : α → σ → σ) : Field σ :=
  { field name read put with required := true }

/-- Reads the fields of an object into a record; `seen` are the names that have been read. -/
def readFields {σ : Type} (fields : List (Field σ)) : List String → List (String × Document) → σ →
    Except Fault (List String × σ)
  | seen, [], s => .ok (seen, s)
  | seen, (name, d) :: rest, s =>
    match fields.find? fun f => f.name == name with
    | none => if d.isWhole then readFields fields seen rest s else .error .unreadable
    | some f =>
      if name ∈ seen then .error .mismatch
      else do
        let s ← f.read d s
        readFields fields (name :: seen) rest s

/-- Reads the items of an array into a record, field by field. -/
def readItems {σ : Type} (closed : Bool) : List (Field σ) → List Document → σ → Except Fault σ
  | [], [], s => if closed then .ok s else .error .unreadable
  | [], _ :: _, _ => .error .unreadable
  | f :: fields, [], s =>
    if !closed then .error .unreadable
    else if f.required || fields.any (·.required) then .error .mismatch
    else .ok s
  | f :: fields, d :: rest, s => do
    let s ← f.read d s
    readItems closed fields rest s

/-- A record that starts from `start`. -/
def record {σ : Type} (fields : List (Field σ)) (start : σ) : Decoder σ
  | .object entries closed => do
    let (seen, s) ← readFields fields [] entries start
    if !closed then .error .unreadable
    else if fields.all fun f => !f.required || seen.contains f.name then return s
    else .error .mismatch
  | .array items closed => readItems closed fields items start
  | d => wrongKind d

def ofJson {α : Type} (read : Decoder α) (j : Json) : Except Fault α := read (.ofJson j)

end PanelSource.Wire
