import PanelSource.Athena.Service
import PanelSource.Athena.Settings
import PanelSource.Cache

/- What a running program keeps between requests: four caches beside the world. -/
namespace PanelSource

/-- The executions of a workgroup, and the newest id when they were listed. -/
structure Listing where
  newest : String
  executions : List Execution
  deriving DecidableEq, Repr, Inhabited

structure Session (W : Type) where
  /-- Lists of executions by region and workgroup. -/
  listings : Cache Listing
  /-- Scan limits by region and workgroup. -/
  scanLimits : Cache (Option Int)
  /-- Executions of ad-hoc statements by region, statement and row limit. -/
  started : Cache String
  /-- Rows by region, execution and row limit. -/
  results : Cache ResultSet
  world : W

/-- A backend: the service and the settings for it. -/
structure AthenaBackend (W : Type) where
  athena : Athena W
  settings : AthenaSettings

namespace Session
variable {W α : Type}

/-- A session that has kept nothing yet. -/
def fresh (settings : AthenaSettings) (world : W) : Session W :=
  { listings := .ofCapacity settings.cacheCapacity
    scanLimits := .ofCapacity settings.cacheCapacity
    started := .ofCapacity settings.cacheCapacity
    results := .ofCapacity settings.cacheCapacity
    world }

/-- Lets something act on the world of a session. -/
def act (x : StateM W α) : StateM (Session W) α := fun s =>
  let (a, w) := x.run s.world
  (a, { s with world := w })

def call (x : ServiceM W α) : ServiceM (Session W) α := ExceptT.mk (act x.run)

/-- How long to keep what is kept for so many seconds. -/
def keepFor (seconds : Nat) : Span := (Span.ofSeconds? seconds).getD Cache.longest

end Session

namespace AthenaBackend
variable {W : Type}

def now (b : AthenaBackend W) : ServiceM (Session W) Nat := ExceptT.lift (Session.act b.athena.now)

/-- Waits for as long as a statement is left alone between two checks. -/
def pause (b : AthenaBackend W) : ServiceM (Session W) Unit :=
  ExceptT.lift (Session.act (b.athena.pause b.settings.waitIntervalMillis))

/-- The region that a request means, with the service in it. -/
def region (b : AthenaBackend W) (name : String) :
    ServiceM (Session W) (String × RegionService W) := do
  let name := b.settings.resolveRegion name
  let service ← Session.call (b.athena.region name)
  return (name, service)

end AthenaBackend
end PanelSource
