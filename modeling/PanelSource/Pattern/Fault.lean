/- What can be wrong with a pattern. -/
namespace PanelSource.Pattern

inductive Fault where
  | unclosedGroup
  | unopenedGroup
  | emptyGroupName
  | invalidGroupName
  | duplicateGroupName
  /-- Conditions on the text around a match are not supported. -/
  | lookAround
  | unrecognizedFlag
  | duplicateFlag
  | danglingFlagNegation
  /-- A repetition with nothing before it. -/
  | missingRepetition
  | unclosedCount
  | emptyCount
  | invalidCount
  | unclosedClass
  | invalidClassRange
  | invalidClassEscape
  | unfinishedEscape
  | unrecognizedEscape
  /-- References to groups are not supported. -/
  | backReference
  | invalidCode
  | unknownProperty
  | unclosedBoundary
  | unknownBoundary
  /-- A character or class that needs Unicode where Unicode is switched off. -/
  | unicodeOff
  /-- A class that could match a part of a character. -/
  | partOfCharacter
  | tooDeep
  | tooLarge
  deriving DecidableEq, Repr, Inhabited

def Fault.reason : Fault → String
  | unclosedGroup => "unclosed group"
  | unopenedGroup => "unopened group"
  | emptyGroupName => "empty capture group name"
  | invalidGroupName => "invalid capture group character"
  | duplicateGroupName => "duplicate capture group name"
  | lookAround => "look-around, including look-ahead and look-behind, is not supported"
  | unrecognizedFlag => "unrecognized flag"
  | duplicateFlag => "duplicate flag"
  | danglingFlagNegation => "dangling flag negation operator"
  | missingRepetition => "repetition operator missing expression"
  | unclosedCount => "unclosed counted repetition"
  | emptyCount => "repetition quantifier expects a valid decimal"
  | invalidCount => "invalid repetition count range, the start must be <= the end"
  | unclosedClass => "unclosed character class"
  | invalidClassRange => "invalid character class range, the start must be <= the end"
  | invalidClassEscape => "invalid escape sequence found in character class"
  | unfinishedEscape => "incomplete escape sequence, reached end of pattern prematurely"
  | unrecognizedEscape => "unrecognized escape sequence"
  | backReference => "backreferences are not supported"
  | invalidCode => "hexadecimal literal is not a Unicode scalar value"
  | unknownProperty => "Unicode property not found"
  | unclosedBoundary => "special word boundary assertion is unclosed or has an invalid character"
  | unknownBoundary => "unrecognized special word boundary assertion"
  | unicodeOff => "Unicode not allowed here"
  | partOfCharacter => "pattern can match invalid UTF-8"
  | tooDeep => "exceeded the maximum number of nested parentheses or brackets"
  | tooLarge => "compiled pattern exceeds its size limit"

def Fault.message (f : Fault) : String := "regex parse error: " ++ f.reason

end PanelSource.Pattern
