import PanelSource.Number.Integer
import PanelSource.Pattern.Bracket
import PanelSource.Pattern.Search

/- Reading patterns.

   The reader takes a pattern apart from left to right. It keeps what it has read of the group it
   is in, and of the groups around that one; each step reads one part: a character, an escape, a
   class, a repetition of what stands before it, or the beginning or the end of a group. -/
namespace PanelSource
namespace Pattern
open Text Number

/-- A pattern and how deeply its parts are nested. -/
structure Piece where
  pattern : Pattern
  depth : Nat := 0
  deriving DecidableEq, Repr, Inhabited

/-- A part of a sequence. A directive sets flags and matches nothing. -/
inductive Item where
  | piece (p : Piece)
  | directive
  deriving DecidableEq, Repr, Inhabited

def Item.toPiece : Item → Piece
  | .piece p => p
  | .directive => ⟨.empty, 0⟩

namespace Piece

/-- One piece after the other; nesting counts only where there is more than one. -/
def sequence : List Piece → Piece
  | [] => ⟨.empty, 0⟩
  | [p] => p
  | ps => ⟨(ps.map (·.pattern)).foldr .seq .empty, (ps.map (·.depth)).foldl max 0 + 1⟩

/-- One piece or another. -/
def choice : List Piece → Piece
  | [] => ⟨.empty, 0⟩
  | [p] => p
  | p :: ps =>
    ⟨((p :: ps).dropLast.map (·.pattern)).foldr .alt ((p :: ps).getLast (by simp)).pattern,
      ((p :: ps).map (·.depth)).foldl max 0 + 1⟩

def ofSet (s : CharSet) : Piece := ⟨.char s, 0⟩

def repeated (least : Nat) (most : Option Nat) (p : Piece) : Piece :=
  ⟨.times p.pattern least most, p.depth + 1⟩

end Piece

/-- A group that is being read: the flags outside it, its finished alternatives, and the parts of
    the one that is being read, all the last first. -/
structure OpenGroup where
  outside : Flags := {}
  branches : List Piece := []
  items : List Item := []
  deriving DecidableEq, Repr, Inhabited

namespace OpenGroup

def add (g : OpenGroup) (i : Item) : OpenGroup := { g with items := i :: g.items }

/-- Ends the alternative that is being read. -/
def branch (g : OpenGroup) : OpenGroup :=
  { g with branches := Piece.sequence (g.items.reverse.map Item.toPiece) :: g.branches, items := [] }

def value (g : OpenGroup) : Piece := Piece.choice g.branch.branches.reverse

end OpenGroup

/-- What the reader knows: the flags in force, the names of groups, the group it is in, and the
    groups around that one, the innermost first. -/
structure Reader where
  flags : Flags := {}
  names : List (List Char) := []
  group : OpenGroup := {}
  outer : List OpenGroup := []
  deriving DecidableEq, Repr, Inhabited

namespace Reader

def add (r : Reader) (p : Piece) : Reader := { r with group := r.group.add (.piece p) }

def addAtom (r : Reader) : Atom → Except Fault Reader
  | .literal c byte => do return r.add (.ofSet (← r.flags.literal c byte))
  | .set s => .ok (r.add (.ofSet s))
  | .look l => .ok (r.add ⟨.look l, 0⟩)

/-- Enters a group under flags of its own. -/
def enter (r : Reader) (inside : Flags) : Reader :=
  { r with flags := inside, group := { outside := r.flags }, outer := r.group :: r.outer }

/-- Leaves the group. -/
def leave (r : Reader) : Except Fault Reader :=
  match r.outer with
  | [] => .error .unopenedGroup
  | g :: outer =>
    let p := r.group.value
    .ok { r with
      flags := r.group.outside
      group := g.add (.piece ⟨p.pattern, p.depth + 1⟩)
      outer := outer }

/-- Repeats what stands before. -/
def repeatLast (r : Reader) (least : Nat) (most : Option Nat) : Except Fault Reader :=
  match r.group.items with
  | .piece p :: rest =>
    .ok { r with group := { r.group with items := .piece (p.repeated least most) :: rest } }
  | _ => .error .missingRepetition

end Reader

/-- Reads flags up to a colon or a closing parenthesis, which is returned too. A hyphen switches
    the flags after it off; each flag and the hyphen may stand there once. -/
def readFlags (f : Flags) (seen : List Char) (on : Bool) :
    List Char → Except Fault (Flags × List Char × Char × List Char)
  | [] => .error .unclosedGroup
  | c :: rest =>
    if c = ':' ∨ c = ')' then
      if seen.head? = some '-' then .error .danglingFlagNegation else .ok (f, seen, c, rest)
    else if c = '-' then
      if seen.contains '-' then .error .duplicateFlag else readFlags f ('-' :: seen) false rest
    else
      match f.switch c on with
      | none => .error .unrecognizedFlag
      | some f' => if seen.contains c then .error .duplicateFlag else readFlags f' (c :: seen) on rest

/-- Whether a character may stand in the name of a group. -/
def isNameChar (first : Bool) (c : Char) : Bool :=
  c == '_' || Property.alphabetic.holds c.toNat ||
    (!first && (c == '.' || c == '[' || c == ']' ||
      [Category.nd, .nl, .no].contains (categoryOf c.toNat)))

/-- Reads the name of a group up to its closing angle. -/
def readGroupName : (first : Bool) → List Char → Except Fault (List Char × List Char)
  | _, [] => .error .unclosedGroup
  | first, c :: rest =>
    if c = '>' then (if first then .error .emptyGroupName else .ok ([], rest))
    else if isNameChar first c then do
      let (name, rest) ← readGroupName false rest
      return (c :: name, rest)
    else .error .invalidGroupName

/-- Enters a group with a name. -/
def enterNamed (r : Reader) (cs : List Char) : Except Fault (Reader × List Char) := do
  let (name, rest) ← readGroupName true cs
  if r.names.contains name then .error .duplicateGroupName
  else return ({ r.enter r.flags with names := name :: r.names }, rest)

/-- Reads what follows an opening parenthesis. -/
def readGroup (r : Reader) (cs : List Char) : Except Fault (Reader × List Char) :=
  match r.flags.skip cs with
  | '?' :: '=' :: _ | '?' :: '!' :: _ | '?' :: '<' :: '=' :: _ | '?' :: '<' :: '!' :: _ =>
    .error .lookAround
  | '?' :: 'P' :: '<' :: rest => enterNamed r rest
  | '?' :: '<' :: rest => enterNamed r rest
  | '?' :: rest => do
    let (f, seen, stop, rest) ← readFlags r.flags [] true rest
    if stop = ':' then return (r.enter f, rest)
    else if seen.isEmpty then .error .missingRepetition
    else return ({ r with flags := f, group := r.group.add .directive }, rest)
  | cs => .ok (r.enter r.flags, cs)

/-- The digits of a number in front, without what does not count between them. -/
def readDigitRun (f : Flags) : Nat → List Char → List Char × List Char
  | k + 1, c :: rest =>
    if isDigit c then
      let (ds, rest) := readDigitRun f k (f.skip rest)
      (c :: ds, rest)
    else ([], c :: rest)
  | _, cs => ([], cs)

/-- Reads a number between blanks. -/
def readCountNumber (f : Flags) (cs : List Char) : Option Nat × List Char :=
  let cs := stripStart cs
  let (ds, rest) := readDigitRun f cs.length cs
  let n := if ds.isEmpty then none else (readDigits (twoTo 32 - 1) .tooLarge 0 ds).toOption
  (n, stripStart rest)

/-- Reads the counts of a repetition after their opening brace. -/
def readCounts (f : Flags) (cs : List Char) : Except Fault (Nat × Option Nat × List Char) :=
  let close (least : Nat) (most : Option Nat) (rest : List Char) :
      Except Fault (Nat × Option Nat × List Char) :=
    match rest with
    | '\x7d' :: rest => .ok (least, most, f.skip rest)
    | _ => .error .unclosedCount
  match f.skip cs with
  | [] => .error .unclosedCount
  | cs =>
    match readCountNumber f cs with
    | (_, []) => .error .unclosedCount
    | (none, _) => .error .emptyCount
    | (some least, ',' :: rest) =>
      match f.skip rest with
      | [] => .error .unclosedCount
      | '\x7d' :: rest => close least none ('\x7d' :: rest)
      | rest =>
        match readCountNumber f rest with
        | (none, _) => .error .emptyCount
        | (some most, rest) =>
          if most < least then .error .invalidCount else close least (some most) rest
    | (some least, rest) => close least (some least) rest

/-- Drops the mark of a repetition that prefers fewer times. -/
def dropLazy : List Char → List Char
  | '?' :: rest => rest
  | cs => cs

/-- The assertion of a caret or a dollar sign. -/
def anchor (f : Flags) (start : Bool) : Look :=
  match start, f.multiLine, f.carriageReturns with
  | true, false, _ => .start
  | true, true, false => .lineStart
  | true, true, true => .anyLineStart
  | false, false, _ => .stop
  | false, true, false => .lineStop
  | false, true, true => .anyLineStop

/-- Reads the part that begins with a character. -/
def Reader.step (r : Reader) (c : Char) (rest : List Char) : Except Fault (Reader × List Char) :=
  match c with
  | '(' => readGroup r rest
  | ')' => do return (← r.leave, rest)
  | '|' => .ok ({ r with group := r.group.branch }, rest)
  | '[' => do
    let (p, rest) ← readBracket r.flags rest
    return (r.add ⟨.char p.set, p.depth⟩, rest)
  | '?' => do return (← r.repeatLast 0 (some 1), dropLazy rest)
  | '*' => do return (← r.repeatLast 0 none, dropLazy rest)
  | '+' => do return (← r.repeatLast 1 none, dropLazy rest)
  | '\x7b' => do
    let (least, most, rest) ← readCounts r.flags rest
    return (← r.repeatLast least most, dropLazy rest)
  | '\\' => do
    let (a, rest) ← readEscape r.flags rest
    return (← r.addAtom a, rest)
  | '.' => do return (r.add (.ofSet (← r.flags.dot)), rest)
  | '^' => .ok (r.add ⟨.look (anchor r.flags true), 0⟩, rest)
  | '$' => .ok (r.add ⟨.look (anchor r.flags false), 0⟩, rest)
  | c => do return (← r.addAtom (.literal c false), rest)

/-- Reads a pattern to its end, in at most so many steps. -/
def Reader.run : Nat → Reader → List Char → Except Fault Reader
  | k, r, cs =>
    match r.flags.skip cs with
    | [] => .ok r
    | c :: rest =>
      match k with
      | 0 => .error .unclosedGroup
      | k + 1 => do
        let (r, rest) ← r.step c rest
        Reader.run k r rest

def depthLimit : Nat := 250

/-- An estimate of the room that a pattern takes when it is made ready for matching, in bytes. What a
    character really takes depends on the matcher and on how the character is encoded, so texts may
    be refused that are shorter than the estimate says; they are still longer than any statement
    that the service runs. -/
def weight : Pattern → Nat
  | .empty => 0
  | .char s => 24 + 60 * (s.ranges - 1)
  | .look _ => 24
  | .seq a b => weight a + weight b
  | .alt a b => weight a + weight b + 24
  | .times p least most =>
    match most with
    | none => weight p * max least 1 + 24
    | some k => weight p * k + 24 * (k - least)

/-- The most room that a pattern may take, by the estimate. -/
def weightLimit : Nat := 10 * twoTo 20

/-- The pattern that a text means. -/
def parse (cs : List Char) : Except Fault Pattern := do
  let r ← Reader.run cs.length {} cs
  if !r.outer.isEmpty then .error .unclosedGroup
  else
    let p := r.group.value
    if depthLimit < p.depth then .error .tooDeep
    else if weightLimit < weight p.pattern then .error .tooLarge
    else return p.pattern

def ofString (s : String) : Except Fault Pattern := parse s.toList

def occursIn (p : Pattern) (s : String) : Bool := occurs p s.toList

end Pattern
end PanelSource
