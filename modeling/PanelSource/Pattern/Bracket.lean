import PanelSource.Pattern.Escape

/- Classes in brackets.

   A class lists characters, ranges, escapes and further classes. `&&`, `--` and `~~` combine what
   stands before them with what follows, from the left, and bind weaker than listing. -/
namespace PanelSource.Pattern

/-- A set and how deeply it is nested. -/
structure SetPiece where
  set : CharSet
  depth : Nat := 0
  deriving DecidableEq, Repr, Inhabited

inductive SetOperator where
  | inter | diff | symmDiff
  deriving DecidableEq, Repr, Inhabited

/-- A class that is being read: what stands before the last operator, and what is listed since,
    the last first. -/
structure OpenSet where
  negated : Bool
  pending : Option (SetOperator × SetPiece) := none
  items : List SetPiece := []
  deriving DecidableEq, Repr, Inhabited

/-- All that is listed. -/
def SetPiece.ofItems : List SetPiece → SetPiece
  | [] => ⟨.empty, 0⟩
  | [p] => p
  | ps => ⟨(ps.map (·.set)).foldr .union .empty, (ps.map (·.depth)).foldl max 0 + 1⟩

namespace OpenSet

def add (o : OpenSet) (p : SetPiece) : OpenSet := { o with items := p :: o.items }

/-- What has been read so far. -/
def value (f : Flags) (o : OpenSet) : SetPiece :=
  let right := SetPiece.ofItems o.items
  match o.pending with
  | none => right
  | some (op, left) =>
    let a := f.fold left.set
    let b := f.fold right.set
    let set := match op with
      | .inter => CharSet.inter a b
      | .diff => .diff a b
      | .symmDiff => .symmDiff a b
    ⟨set, max left.depth right.depth + 1⟩

/-- An operator takes all that stands before it. -/
def operator (f : Flags) (op : SetOperator) (o : OpenSet) : OpenSet :=
  { o with pending := some (op, o.value f), items := [] }

def close (f : Flags) (o : OpenSet) : Except Fault SetPiece := do
  let v := o.value f
  return ⟨← f.complementIf o.negated (f.fold v.set), v.depth + 1⟩

end OpenSet

/-- Takes hyphens that stand first in a class. -/
def readHyphens (f : Flags) : Nat → OpenSet → List Char → OpenSet × List Char
  | k + 1, o, '-' :: rest => readHyphens f k (o.add ⟨.single '-', 0⟩) (f.skip rest)
  | _, o, cs => (o, cs)

/-- Begins a class after its bracket. Hyphens that stand first, or else a closing bracket that
    does, are members. -/
def openSet (f : Flags) (cs : List Char) : Except Fault (OpenSet × List Char) := do
  let cs := f.skip cs
  let (negated, cs) := match cs with
    | '^' :: rest => (true, f.skip rest)
    | cs => (false, cs)
  let (o, cs) := readHyphens f cs.length { negated := negated } cs
  match o.items, cs with
  | _, [] => .error .unclosedClass
  | [], ']' :: rest => return (o.add ⟨.single ']', 0⟩, f.skip rest)
  | _, cs => return (o, cs)

/-- The ASCII classes by their names. -/
def asciiClass? (name : String) : Option CharSet :=
  match name with
  | "alnum" => some (.union .asciiDigit .asciiLetter)
  | "alpha" => some .asciiLetter
  | "ascii" => some (.range 0 0x7F)
  | "blank" => some (.union (.range 0x09 0x09) (.range 0x20 0x20))
  | "cntrl" => some (.union (.range 0 0x1F) (.range 0x7F 0x7F))
  | "digit" => some .asciiDigit
  | "graph" => some (.range 0x21 0x7E)
  | "lower" => some (.range 0x61 0x7A)
  | "print" => some (.range 0x20 0x7E)
  | "punct" => some (.union (.union (.range 0x21 0x2F) (.range 0x3A 0x40))
      (.union (.range 0x5B 0x60) (.range 0x7B 0x7E)))
  | "space" => some .asciiBlank
  | "upper" => some (.range 0x41 0x5A)
  | "word" => some .asciiWord
  | "xdigit" => some (.union .asciiDigit (.union (.range 0x41 0x46) (.range 0x61 0x66)))
  | _ => none

/-- Reads a named class after its first bracket, if there is one. -/
def readAsciiClass? : List Char → Option (CharSet × Bool × List Char)
  | ':' :: rest =>
    let (negated, rest) := match rest with
      | '^' :: r => (true, r)
      | r => (false, r)
    match rest.dropWhile (· ≠ ':') with
    | ':' :: ']' :: after =>
      (asciiClass? (String.ofList (rest.takeWhile (· ≠ ':')))).map fun s => (s, negated, after)
    | _ => none
  | _ => none

/-- Reads a character or an escape inside a class. -/
def readMember (f : Flags) (cs : List Char) : Except Fault (Atom × List Char) :=
  match cs with
  | [] => .error .unclosedClass
  | '\\' :: rest => readEscape f rest
  | c :: rest => .ok (.literal c false, rest)

/-- A character or an escape as a set. -/
def memberSet (f : Flags) : Atom → Except Fault SetPiece
  | .literal c byte => do
    let n ← f.classLiteral c byte
    return ⟨.range n n, 0⟩
  | .set s => .ok ⟨s, 0⟩
  | .look _ => .error .invalidClassEscape

def memberCode (f : Flags) : Atom → Except Fault Nat
  | .literal c byte => f.classLiteral c byte
  | _ => .error .invalidClassRange

/-- Reads a member or a range. A hyphen makes a range unless a closing bracket or another hyphen
    follows it. -/
def readRange (f : Flags) (cs : List Char) : Except Fault (SetPiece × List Char) := do
  let (a, rest) ← readMember f cs
  match f.skip rest with
  | [] => .error .unclosedClass
  | '-' :: after =>
    match f.skip after with
    | [] => .error .unclosedClass
    | c :: more =>
      if c = ']' ∨ c = '-' then return (← memberSet f a, '-' :: after)
      else
        let (b, rest) ← readMember f (c :: more)
        let first ← memberCode f a
        let last ← memberCode f b
        if first ≤ last then return (⟨.range first last, 0⟩, rest) else .error .invalidClassRange
  | rest => return (← memberSet f a, rest)

/-- Reads the rest of a class, up to its closing bracket. `outer` holds the classes around it,
    the innermost first. The number of steps is bounded by the number of characters. -/
def readSet (f : Flags) : Nat → List OpenSet → OpenSet → List Char →
    Except Fault (SetPiece × List Char)
  | 0, _, _, _ => .error .unclosedClass
  | k + 1, outer, o, cs =>
    match f.skip cs with
    | [] => .error .unclosedClass
    | '[' :: rest =>
      match readAsciiClass? rest with
      | some (s, negated, rest) => do
        let s ← f.complementIf negated (f.fold s)
        readSet f k outer (o.add ⟨s, 0⟩) rest
      | none => do
        let (inner, rest) ← openSet f rest
        readSet f k (o :: outer) inner rest
    | ']' :: rest => do
      let p ← o.close f
      match outer with
      | [] => return (p, rest)
      | parent :: outer => readSet f k outer (parent.add p) rest
    | '&' :: '&' :: rest => readSet f k outer (o.operator f .inter) rest
    | '-' :: '-' :: rest => readSet f k outer (o.operator f .diff) rest
    | '~' :: '~' :: rest => readSet f k outer (o.operator f .symmDiff) rest
    | cs => do
      let (p, rest) ← readRange f cs
      readSet f k outer (o.add p) rest

def readBracket (f : Flags) (cs : List Char) : Except Fault (SetPiece × List Char) := do
  let (o, rest) ← openSet f cs
  readSet f (rest.length + 1) [] o rest

end PanelSource.Pattern
