import PanelSource.Json.Value
import PanelSource.Settings.Environment
import PanelSource.Settings.Summary

/- Settings of the server and of the backend it may pass lookups on to. -/
namespace PanelSource

/-- Where the server listens, and which origin browsers may call it from. -/
structure ServerSettings where
  host : String := "0.0.0.0"
  port : Nat := 3100
  origin : String := "*"
  deriving DecidableEq, Repr, Inhabited

/-- A running server that answers lookups in place of this process, if there is one. -/
structure BackendSettings where
  url : Option String := none
  timeoutSeconds : Nat := 30
  deriving DecidableEq, Repr, Inhabited

structure Settings where
  /-- The profile in upper case; empty for none. -/
  profile : String := ""
  server : ServerSettings := {}
  backend : BackendSettings := {}
  deriving DecidableEq, Repr, Inhabited

def ServerSettings.ofEnvironment (env : Environment) (profile : String) : ServerSettings :=
  { host := env.profiledText profile "HOST" "0.0.0.0"
    port := env.profiledNatural profile "PORT" (Number.twoTo 16 - 1) 3100
    origin := env.profiledText profile "CORS_ORIGIN" "*" }

def BackendSettings.ofEnvironment (env : Environment) (profile : String) : BackendSettings :=
  { url := env.profiled? profile "BACKEND_URL"
    timeoutSeconds := env.profiledNatural profile "BACKEND_TIMEOUT_SECONDS" Number.uint64Max 30 }

namespace Settings

def ofEnvironment (env : Environment) (profile : String) : Settings :=
  let p := Text.upper profile
  { profile := p, server := .ofEnvironment env p, backend := .ofEnvironment env p }

def label (s : Settings) : String := if s.profile.isEmpty then "default" else s.profile

def summary (s : Settings) : List SummaryLine :=
  let number (n : Nat) := String.ofList (Number.decimal n)
  [{ message := "Config loaded (profile: " ++ s.label ++ "):" },
   { message := "  server:   " ++ s.server.host ++ ":" ++ number s.server.port },
   { message := "  backend:  url=" ++ s.backend.url.getD "(in-process)" ++ ", timeout=" ++
      number s.backend.timeoutSeconds ++ "s" }]

def toJson (s : Settings) : Json :=
  .object
    [("profile", .string s.profile),
     ("server", .object
      [("host", .string s.server.host), ("port", .nat s.server.port),
       ("cors_origin", .string s.server.origin)]),
     ("backend", .object
      [("url", Json.ofOption .string s.backend.url), ("timeout_secs", .nat s.backend.timeoutSeconds)])]

end Settings
end PanelSource
