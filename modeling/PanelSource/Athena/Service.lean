import PanelSource.Athena.Error
import PanelSource.Athena.Execution
import PanelSource.Athena.ResultSet

/- The SQL service, region by region.

   A service acts on a world of type `W`. A call leaves the world as it has made it whether it
   answers or fails, so that what a failing call has done is not undone.

   Specification: SPEC_FULL, section 10.1. -/
namespace PanelSource

/-- What a call makes of the world: an answer or a failure, and the world after it. -/
abbrev ServiceM (W : Type) := ExceptT AthenaError (StateM W)

/-- A saved statement. -/
structure NamedQuery where
  name : String
  sql : String
  deriving DecidableEq, Repr, Inhabited

/-- An ad-hoc statement to start. An empty location leaves it to the workgroup. -/
structure Statement where
  sql : String
  workGroup : String
  outputLocation : String
  deriving DecidableEq, Repr, Inhabited

/-- The calls of one region. -/
structure RegionService (W : Type) where
  workGroups : ServiceM W (List String)
  namedQueryIds : (workGroup : Option String) → ServiceM W (List String)
  /-- The saved statements of at most `batchLimit` ids. -/
  namedQueries : (ids : List String) → ServiceM W (List NamedQuery)
  /-- The ids of executions, the newest first. The list may be cut short once it is seen to begin
      with `stopAt`: nothing has run since the caller last looked. -/
  executionIds : (workGroup stopAt : Option String) → ServiceM W (List String)
  /-- The records of at most `batchLimit` ids. -/
  executions : (ids : List String) → ServiceM W (List Execution)
  /-- The rows of a finished execution, at most `maxRows` of them unless that is negative. -/
  results : (id : String) → (maxRows : Int) → ServiceM W ResultSet
  /-- How many bytes a statement may scan in a workgroup, if there is a limit. -/
  scanLimit : (workGroup : String) → ServiceM W (Option Int)
  /-- Starts a statement; the answer is the id of its execution. -/
  start : Statement → ServiceM W String

/-- The service and a clock in nanoseconds. -/
structure Athena (W : Type) where
  region : String → ServiceM W (RegionService W)
  now : StateM W Nat
  pause : (milliseconds : Nat) → StateM W Unit

/-- The most ids that one call takes. -/
def batchLimit : Nat := 50

/-- The ids in batches that one call takes. -/
def batches : List String → List (List String)
  | [] => []
  | id :: ids => (id :: ids.take (batchLimit - 1)) :: batches (ids.drop (batchLimit - 1))
termination_by ids => ids.length
decreasing_by simp only [List.length_drop, List.length_cons]; omega

/-- The answers for one batch after the other; the first failure ends the calls. -/
def inBatches {W α : Type} (call : List String → ServiceM W (List α)) :
    List (List String) → ServiceM W (List α)
  | [] => pure []
  | batch :: rest => do
    let xs ← call batch
    let ys ← inBatches call rest
    return xs ++ ys

namespace RegionService
variable {W : Type}

def allNamedQueries (r : RegionService W) (ids : List String) : ServiceM W (List NamedQuery) :=
  inBatches r.namedQueries (batches ids)

def allExecutions (r : RegionService W) (ids : List String) : ServiceM W (List Execution) :=
  inBatches r.executions (batches ids)

end RegionService

theorem batches_flatten (ids : List String) : (batches ids).flatten = ids := by
  fun_induction batches ids with
  | case1 => rfl
  | case2 id ids ih => simp [ih]

theorem length_of_mem_batches {ids b : List String} (h : b ∈ batches ids) :
    0 < b.length ∧ b.length ≤ batchLimit := by
  fun_induction batches ids with
  | case1 => simp at h
  | case2 id ids ih =>
    rcases List.mem_cons.mp h with rfl | h
    · simp only [List.length_cons, List.length_take, batchLimit]; omega
    · exact ih h

end PanelSource
