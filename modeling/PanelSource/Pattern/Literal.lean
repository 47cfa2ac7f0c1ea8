/- Patterns that match one text only. -/
namespace PanelSource.Pattern

/-- The characters that mean something else than themselves in a pattern. -/
def metaCharacters : List Char :=
  ['\\', '.', '+', '*', '?', '(', ')', '|', '[', ']', '\x7b', '\x7d', '^', '$', '#', '&', '-', '~']

def escapeChar (c : Char) : List Char := if c ∈ metaCharacters then ['\\', c] else [c]

/-- The pattern that matches just these characters. -/
def escape (cs : List Char) : List Char := cs.flatMap escapeChar

end PanelSource.Pattern
