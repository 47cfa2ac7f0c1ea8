import PanelSource.Http.Percent

/- Pairs of names and values in the query of a URL. -/
namespace PanelSource.Http
open Text

/-- A name or a value as it is meant: a plus sign is a space. -/
def formText (cs : List Char) : String :=
  let octet (b : UInt8) : UInt8 := if b = 0x2B then 0x20 else b
  String.ofList (ofOctetsLossy (percentDecode ((octets cs).map octet)))

/-- A part between ampersands: a name and what follows its first equals sign. -/
def readPair (cs : List Char) : String × String :=
  (formText (cs.takeWhile (· ≠ '=')), formText ((cs.dropWhile (· ≠ '=')).drop 1))

def readPairs (query : String) : List (String × String) :=
  ((query.toList.splitOn '&').filter fun part => !part.isEmpty).map readPair

def isFormChar (c : Char) : Bool := c.isAlphanum || ['*', '-', '.', '_'].contains c

def formEncode (s : String) : List Char :=
  s.toList.flatMap fun c => if c = ' ' then ['+'] else percentEncode isFormChar [c]

def writePairs (pairs : List (String × String)) : String :=
  String.ofList <| List.intercalate ['&'] <|
    pairs.map fun p => formEncode p.1 ++ ['='] ++ formEncode p.2

end PanelSource.Http
