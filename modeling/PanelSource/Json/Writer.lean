import PanelSource.Json.Value
import PanelSource.Number.Shortest

/- Writing JSON text, on one line or indented by two spaces. Numbers that are not integers are
   written with the fewest digits that read back. -/
namespace PanelSource.Json
open Number

def hexDigit (n : Nat) : Char := Nat.digitChar n

/-- One character inside a string. -/
def writeChar (c : Char) : List Char :=
  if c = '"' then ['\\', '"']
  else if c = '\\' then ['\\', '\\']
  else if c = '\n' then ['\\', 'n']
  else if c = '\r' then ['\\', 'r']
  else if c = '\t' then ['\\', 't']
  else if c = '\x08' then ['\\', 'b']
  else if c = '\x0c' then ['\\', 'f']
  else if c < ' ' then ['\\', 'u', '0', '0', hexDigit (c.toNat / 16), hexDigit (c.toNat % 16)]
  else [c]

def writeString (s : String) : List Char := '"' :: s.toList.flatMap writeChar ++ ['"']

def writeNumber : JsonNumber → List Char
  | .integer i => signedDecimal i
  | .real x => writeReal x

mutual

/-- The value on one line, without spaces. -/
def write : Json → List Char
  | .null => "null".toList
  | .bool b => (if b then "true" else "false").toList
  | .number n => writeNumber n
  | .string s => writeString s
  | .array items => '[' :: writeItems items ++ [']']
  | .object fields => '{' :: writeFields fields ++ ['}']

def writeItems : List Json → List Char
  | [] => []
  | [j] => write j
  | j :: rest => write j ++ ',' :: writeItems rest

def writeFields : List (String × Json) → List Char
  | [] => []
  | [(name, j)] => writeString name ++ ':' :: write j
  | (name, j) :: rest => writeString name ++ ':' :: write j ++ ',' :: writeFields rest

end

def newline (depth : Nat) : List Char := '\n' :: List.replicate (2 * depth) ' '

mutual

/-- The value over several lines, two spaces deeper inside each container. -/
def writeIndented (depth : Nat) : Json → List Char
  | .array [] => ['[', ']']
  | .array items => '[' :: writeIndentedItems (depth + 1) items ++ newline depth ++ [']']
  | .object [] => ['{', '}']
  | .object fields => '{' :: writeIndentedFields (depth + 1) fields ++ newline depth ++ ['}']
  | .null => "null".toList
  | .bool b => (if b then "true" else "false").toList
  | .number n => writeNumber n
  | .string s => writeString s

def writeIndentedItems (depth : Nat) : List Json → List Char
  | [] => []
  | [j] => newline depth ++ writeIndented depth j
  | j :: rest => newline depth ++ writeIndented depth j ++ ',' :: writeIndentedItems depth rest

def writeIndentedFields (depth : Nat) : List (String × Json) → List Char
  | [] => []
  | [(name, j)] => newline depth ++ writeString name ++ [':', ' '] ++ writeIndented depth j
  | (name, j) :: rest =>
    newline depth ++ writeString name ++ [':', ' '] ++ writeIndented depth j ++
      ',' :: writeIndentedFields depth rest

end

def compress (j : Json) : String := String.ofList (write j)

def pretty (j : Json) : String := String.ofList (writeIndented 0 j)

end PanelSource.Json
