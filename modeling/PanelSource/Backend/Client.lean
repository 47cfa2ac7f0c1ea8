import PanelSource.Backend.Error
import PanelSource.Panel.Outcome
import PanelSource.Panel.Request
import PanelSource.Wire.Param

/- What suggestion queries and panels ask of a backend.

   A backend acts on a world of type `W`: each call takes the world as it is and leaves it as the
   call made it, whether it succeeds or fails.

   Specification: SPEC_FULL, section 2. -/
namespace PanelSource

/-- Answers named lookups. -/
structure ResourceClient (W : Type) where
  fetch : String → Params → StateM W (Except BackendError Json)

/-- Answers panel requests. -/
structure PanelBackend (W : Type) where
  query : Request → StateM W (Except BackendError Reply)

/-- Answers both, and says which region a check of it asks and which one targets mean by default. -/
structure Backend (W : Type) where
  resources : ResourceClient W
  panels : PanelBackend W
  region : String

end PanelSource
