import PanelSource.Http.Form
import PanelSource.Http.Message

/- URLs as far as requests need them: the host that is called, and the path and query it is sent. -/
namespace PanelSource.Http

structure Url where
  /-- The host, with its port if one is named. -/
  authority : String
  /-- The path as it is sent, from its slash on. -/
  path : String
  query : Option String := none
  deriving DecidableEq, Repr, Inhabited

def encodePath (cs : List Char) : List Char := percentEncode isPathChar cs

def isQueryChar (c : Char) : Bool :=
  0x20 < c.toNat && c.toNat < 0x7F && ['"', '#', '<', '>', '\''].all (· ≠ c)

/-- Reads a URL of the scheme `http`; a fragment is not sent. -/
def Url.ofString? (s : String) : Option Url :=
  match s.toList with
  | 'h' :: 't' :: 't' :: 'p' :: ':' :: '/' :: '/' :: rest =>
    let rest := rest.takeWhile (· ≠ '#')
    let authority := rest.takeWhile fun c => c ≠ '/' && c ≠ '?'
    let target := rest.drop authority.length
    let path := target.takeWhile (· ≠ '?')
    let query := match target.drop path.length with
      | [] => none
      | _ :: query => some (String.ofList (percentEncode isQueryChar query))
    if authority.isEmpty then none
    else
      some
        { authority := String.ofList authority
          path := String.ofList (if path.isEmpty then ['/'] else encodePath path)
          query }
  | _ => none

/-- A URL with pairs added to its query. -/
def Url.addPairs (u : Url) (pairs : List (String × String)) : Url :=
  if pairs.isEmpty then u
  else
    { u with
      query := some <| match u.query with
        | none => writePairs pairs
        | some q => if q.isEmpty then writePairs pairs else q ++ "&" ++ writePairs pairs }

end PanelSource.Http
