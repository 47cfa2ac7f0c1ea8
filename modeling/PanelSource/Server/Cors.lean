import PanelSource.Text.Blank

/- Which pages of other origins may call the server.

   Any page may use any method and any header; the setting is the origin that replies name. -/
namespace PanelSource.Server

/-- Whether a text may be the value of a header. -/
def isHeaderValue (s : String) : Bool :=
  s.toList.all fun c => c == '\t' || (0x20 ≤ c.toNat && c.toNat ≠ 0x7F)

/-- The origin that replies name: the one that is set, or any if that cannot be named. -/
def allowedOrigin (setting : String) : String :=
  let origin := Text.trim setting
  if isHeaderValue origin then origin else "*"

def originHeaders (setting : String) : List (String × String) :=
  [("access-control-allow-origin", allowedOrigin setting)]

/-- The headers of the reply to a browser that asks before it calls. -/
def preflightHeaders (setting : String) : List (String × String) :=
  originHeaders setting ++
    [("access-control-allow-methods", "*"), ("access-control-allow-headers", "*")]

end PanelSource.Server
