import PanelSource.Text.Category
import PanelSource.Text.Property

/- Texts in quotes, as log lines show them.

   Quotes, backslashes, a few control characters and everything that would not be visible on its
   own are written as escapes. -/
namespace PanelSource.Text

/-- Whether a character shows on its own. A space does, other separators do not. -/
def isVisible (c : Char) : Bool :=
  c == ' ' || (!Property.graphemeExtend.holds c.toNat &&
    categoryOf c.toNat ∉ [Category.cc, .cf, .cs, .co, .cn, .zl, .zp, .zs])

/-- A character inside quotes. -/
def quotedChar : Char → List Char
  | '"' => ['\\', '"']
  | '\\' => ['\\', '\\']
  | '\n' => ['\\', 'n']
  | '\r' => ['\\', 'r']
  | '\t' => ['\\', 't']
  | '\x00' => ['\\', '0']
  | c =>
    if isVisible c then [c]
    else ['\\', 'u', '\x7b'] ++ Nat.toDigits 16 c.toNat ++ ['\x7d']

def quoted (s : String) : String :=
  String.ofList (['"'] ++ s.toList.flatMap quotedChar ++ ['"'])

end PanelSource.Text
