import PanelSource.Pattern.CharSet
import PanelSource.Pattern.Fault

/- Flags that change how a pattern is read, and what they mean for sets of characters. -/
namespace PanelSource.Pattern
open Text

structure Flags where
  /-- Case does not matter. -/
  insensitive : Bool := false
  /-- The assertions for ends hold at the ends of lines too. -/
  multiLine : Bool := false
  /-- The dot matches line ends too. -/
  dotAll : Bool := false
  /-- Classes and case are those of Unicode, not of ASCII. -/
  unicode : Bool := true
  /-- Blanks between the parts of a pattern do not count, nor do comments. -/
  verbose : Bool := false
  /-- Carriage returns end lines too. -/
  carriageReturns : Bool := false
  deriving DecidableEq, Repr, Inhabited

namespace Flags

/-- Switches a flag by its letter; `U` only changes which of several matches is preferred. -/
def switch (f : Flags) (letter : Char) (on : Bool) : Option Flags :=
  match letter with
  | 'i' => some { f with insensitive := on }
  | 'm' => some { f with multiLine := on }
  | 's' => some { f with dotAll := on }
  | 'u' => some { f with unicode := on }
  | 'x' => some { f with verbose := on }
  | 'R' => some { f with carriageReturns := on }
  | 'U' => some f
  | _ => none

/-- A set under the flag for case. -/
def fold (f : Flags) (s : CharSet) : CharSet :=
  if f.insensitive then (if f.unicode then .folded s else .asciiFolded s) else s

/-- A set or its complement. Without Unicode, a complement would hold parts of characters. -/
def complementIf (f : Flags) (negated : Bool) (s : CharSet) : Except Fault CharSet :=
  if negated then (if f.unicode then .ok (.complement s) else .error .partOfCharacter) else .ok s

/-- What the dot matches. -/
def dot (f : Flags) : Except Fault CharSet :=
  if !f.unicode then .error .partOfCharacter
  else if f.dotAll then .ok .any
  else if f.carriageReturns then .ok (.complement (.union (.single '\n') (.single '\r')))
  else .ok (.complement (.single '\n'))

/-- What a character matches outside a class. `byte` says that it was given by the two digits of
    a byte. -/
def literal (f : Flags) (c : Char) (byte : Bool) : Except Fault CharSet :=
  if f.unicode then .ok (f.fold (.single c))
  else if byte ∧ 0x7F < c.toNat then .error .partOfCharacter
  else .ok (f.fold (.single c))

/-- The code point of a character inside a class. -/
def classLiteral (f : Flags) (c : Char) (byte : Bool) : Except Fault Nat :=
  if f.unicode ∨ c.toNat ≤ 0x7F then .ok c.toNat
  else if byte then .error .partOfCharacter
  else .error .unicodeOff

end Flags

/-- Drops blanks and comments; the flag says whether a comment is going on. -/
def dropComments : Bool → List Char → List Char
  | _, [] => []
  | true, c :: rest => dropComments (c ≠ '\n') rest
  | false, c :: rest =>
    if isBlank c then dropComments false rest
    else if c = '#' then dropComments true rest
    else c :: rest

/-- What is left when everything that does not count has been dropped. -/
def Flags.skip (f : Flags) (cs : List Char) : List Char :=
  if f.verbose then dropComments false cs else cs

end PanelSource.Pattern
