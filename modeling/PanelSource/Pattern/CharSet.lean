import PanelSource.Text.Word
import PanelSource.Text.Property
import PanelSource.Text.Script
import PanelSource.Text.Folding

/- Sets of characters that a pattern can match in one place.

   A set is kept as it is written, by what it is made of; `contains` tells its members by their
   code points. Case is folded where a set is built, before it is complemented, so that the
   complement of a letter lacks the letter in either case. -/
namespace PanelSource.Pattern
open Text

inductive CharSet where
  | empty
  /-- All code points between two, both included. -/
  | range (first last : Nat)
  /-- Word characters. -/
  | word
  /-- White space. -/
  | blank
  | property (p : Property)
  | categories (gs : List Category)
  | script (name : String)
  | union (a b : CharSet)
  | inter (a b : CharSet)
  | diff (a b : CharSet)
  | symmDiff (a b : CharSet)
  | complement (a : CharSet)
  /-- A set and all that differs from its members in case only. -/
  | folded (a : CharSet)
  /-- The same for ASCII letters alone. -/
  | asciiFolded (a : CharSet)
  deriving DecidableEq, Repr, Inhabited

/-- The ASCII letter in the other case, if the code point is one. -/
def asciiPartner? (n : Nat) : Option Nat :=
  if 0x41 ≤ n ∧ n ≤ 0x5A then some (n + 32)
  else if 0x61 ≤ n ∧ n ≤ 0x7A then some (n - 32)
  else none

namespace CharSet

def contains : CharSet → Nat → Bool
  | empty, _ => false
  | range a b, n => a ≤ n && n ≤ b
  | word, n => isWord (Char.ofNat n)
  | blank, n => isBlank (Char.ofNat n)
  | property p, n => p.holds n
  | categories gs, n => gs.contains (categoryOf n)
  | script s, n => scriptOf n == s
  | union a b, n => a.contains n || b.contains n
  | inter a b, n => a.contains n && b.contains n
  | diff a b, n => a.contains n && !b.contains n
  | symmDiff a b, n => a.contains n != b.contains n
  | complement a, n => !a.contains n
  | folded a, n => a.contains n || (casePartners n).any a.contains
  | asciiFolded a, n => a.contains n || (asciiPartner? n).any a.contains

def single (c : Char) : CharSet := range c.toNat c.toNat

def any : CharSet := range 0 0x10FFFF

def asciiDigit : CharSet := range 0x30 0x39

def asciiBlank : CharSet := union (range 0x09 0x0D) (range 0x20 0x20)

def asciiLetter : CharSet := union (range 0x41 0x5A) (range 0x61 0x7A)

def asciiWord : CharSet := union (union asciiDigit asciiLetter) (range 0x5F 0x5F)

/-- How many ranges of code points a set needs, about. -/
def ranges : CharSet → Nat
  | empty => 0
  | range _ _ => 1
  | word => 760
  | blank => 10
  | property _ => 200
  | categories gs => 60 * gs.length
  | script _ => 20
  | union a b | symmDiff a b => a.ranges + b.ranges
  | inter a b => min a.ranges b.ranges
  | diff a b => a.ranges + b.ranges
  | complement a => a.ranges + 1
  | folded a => 2 * a.ranges
  | asciiFolded a => a.ranges + 1

@[simp] theorem contains_single (c d : Char) : (single c).contains d.toNat = true ↔ d = c := by
  simp only [single, contains, Bool.and_eq_true, decide_eq_true_eq]
  constructor
  · intro h
    exact Char.ext (UInt32.toNat_inj.mp (Nat.le_antisymm h.2 h.1))
  · rintro rfl; exact ⟨Nat.le_refl _, Nat.le_refl _⟩

@[simp] theorem contains_any (c : Char) : any.contains c.toNat = true := by
  have h := c.valid
  simp only [any, contains, Bool.and_eq_true, decide_eq_true_eq]
  refine ⟨Nat.zero_le _, ?_⟩
  have : c.toNat.isValidChar := h
  unfold Nat.isValidChar at this
  omega

end CharSet
end PanelSource.Pattern
