import PanelSource.Number.Integer
import PanelSource.Text.Upper

/- Environment variables as a profile sees them.

   A profile `PROD` reads a key from `PROD_KEY` and, where that is missing or empty, from `KEY`.
   The name of a profile is in upper case; the empty name stands for no profile.

   Specification: SPEC_FULL, section 11. -/
namespace PanelSource

abbrev Environment := List (String × String)

namespace Environment

/-- The value of a variable; an empty one counts as missing. -/
def value? (env : Environment) (name : String) : Option String :=
  (env.lookup name).filter fun v => v ≠ ""

/-- The value of a key under a profile. -/
def profiled? (env : Environment) (profile key : String) : Option String :=
  if profile.isEmpty then env.value? key
  else (env.value? (profile ++ "_" ++ key)).or (env.value? key)

def profiledText (env : Environment) (profile key fallback : String) : String :=
  (env.profiled? profile key).getD fallback

/-- A number of at most `bound` under a key. A value that is no such number counts as missing,
    also where the key without the profile has one. -/
def profiledNatural (env : Environment) (profile key : String) (bound fallback : Nat) : Nat :=
  (((env.profiled? profile key).bind fun v =>
    (Number.readNatural bound v.toList).toOption)).getD fallback

def profileVariable : String := "ATHENAVIZ_PROFILE"

/-- The active profile; empty when none is chosen. -/
def activeProfile (env : Environment) : String :=
  ((env.value? profileVariable).map Text.upper).getD ""

/-- The profile for a command: the one it names, or else the active one. -/
def profile (env : Environment) (chosen : Option String) : String :=
  (chosen.map Text.upper).getD env.activeProfile

end Environment
end PanelSource
