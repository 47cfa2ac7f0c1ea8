/- Media types, such as `application/json; charset=utf-8`.

   A type and a subtype are tokens; the part of the subtype after its last plus sign is its suffix.
   Parameters follow after semicolons, as tokens or in quotes. -/
namespace PanelSource.Http

def isTokenChar (c : Char) : Bool :=
  c.isAlphanum || ['!', '#', '$', '%', '&', '\'', '*', '+', '-', '.', '^', '_', '\x60', '|', '~'].contains c

def isQuotedChar (c : Char) : Bool := 0x1F < c.toNat && c.toNat ≠ 0x7F && c ≠ '"'

/-- Whether what follows a semicolon are parameters. The number of steps is bounded by the number
    of characters. -/
def areParameters : Nat → List Char → Bool
  | 0, _ => false
  | k + 1, cs =>
    match cs.dropWhile (· = ' ') with
    | [] => true
    | cs =>
      let name := cs.takeWhile isTokenChar
      match name, cs.drop name.length with
      | _ :: _, '=' :: '"' :: rest =>
        let quoted := rest.takeWhile isQuotedChar
        match quoted, rest.drop quoted.length with
        | _ :: _, '"' :: rest =>
          match rest.dropWhile (· = ' ') with
          | [] => true
          | ';' :: rest => areParameters k rest
          | _ => false
        | _, _ => false
      | _ :: _, '=' :: rest =>
        let value := rest.takeWhile isTokenChar
        match rest.drop value.length with
        | [] => true
        | ';' :: rest => !value.isEmpty && areParameters k rest
        | _ => false
      | _, _ => false

/-- Whether a media type is JSON: `application/json`, or one with the suffix `json`. -/
def isJsonType (s : String) : Bool :=
  let cs := s.toList.map Char.toLower
  let type := cs.takeWhile isTokenChar
  match type, cs.drop type.length with
  | _ :: _, '/' :: rest =>
    let subtype := rest.takeWhile isTokenChar
    let after := rest.drop subtype.length
    let wellFormed := !subtype.isEmpty && (match after with
      | [] => true
      | ';' :: parameters => areParameters (parameters.length + 1) parameters
      | _ => false)
    let parts := subtype.splitOn '+'
    let json := "json".toList
    let name := if parts.length = 1 then subtype else List.intercalate ['+'] parts.dropLast
    wellFormed && type == "application".toList &&
      (name == json || (1 < parts.length && parts.getLast? == some json))
  | _, _ => false

end PanelSource.Http
