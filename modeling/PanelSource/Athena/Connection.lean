import PanelSource.Athena.Settings

/- Clients for the regions of the SQL service.

   A client for a region is made when the region is first asked for. It is kept, so that a region
   has one client for as long as the program runs. -/
namespace PanelSource

/-- Where clients connect to, and as whom. -/
structure ConnectOptions where
  endpoint : Option String := none
  credentialsProfile : Option String := none
  role : Option String := none
  deriving DecidableEq, Repr, Inhabited

def AthenaSettings.connectOptions (s : AthenaSettings) : ConnectOptions :=
  ⟨s.endpoint, s.credentialsProfile, s.role⟩

/-- The clients that have been made, by region. -/
structure RegionClients (C : Type) where
  entries : List (String × C) := []

namespace RegionClients
variable {C : Type}

/-- The client of a region; `connect` makes one where there is none yet. -/
def get (connect : String → C) (region : String) (cs : RegionClients C) : C × RegionClients C :=
  match cs.entries.lookup region with
  | some c => (c, cs)
  | none =>
    let c := connect region
    (c, ⟨cs.entries ++ [(region, c)]⟩)

theorem get_again (connect connect' : String → C) (region : String) (cs : RegionClients C) :
    (cs.get connect region).2.get connect' region = cs.get connect region := by
  unfold get
  cases h : cs.entries.lookup region with
  | some c => simp [h]
  | none => simp [List.lookup_append, h]

end RegionClients
end PanelSource
