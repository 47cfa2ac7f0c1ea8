/- White space at the ends of a text.

   `isBlank` is the Unicode property White_Space. `strip` removes the blanks around a list of
   characters and `trim` does the same for a string; every field, argument and number that a
   user types goes through one of them before it is read. -/
namespace PanelSource.Text

/-- The Unicode white space characters. -/
def isBlank (c : Char) : Bool :=
  let n := c.toNat
  (0x09 ≤ n && n ≤ 0x0D) || n == 0x20 || n == 0x85 || n == 0xA0 || n == 0x1680 ||
    (0x2000 ≤ n && n ≤ 0x200A) || n == 0x2028 || n == 0x2029 || n == 0x202F || n == 0x205F ||
    n == 0x3000

def stripStart (cs : List Char) : List Char := cs.dropWhile isBlank

def stripEnd (cs : List Char) : List Char := (cs.reverse.dropWhile isBlank).reverse

/-- The characters without the blanks at both ends. -/
def strip (cs : List Char) : List Char := stripEnd (stripStart cs)

/-- The string without the blanks at both ends. -/
def trim (s : String) : String := String.ofList (strip s.toList)

/-- Whether nothing but blanks is there. -/
def isBlankText (s : String) : Bool := s.toList.all isBlank

end PanelSource.Text
