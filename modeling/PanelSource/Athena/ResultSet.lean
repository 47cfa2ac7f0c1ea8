/- Rows that executions returned. -/
namespace PanelSource

structure ResultColumn where
  name : String
  type : String
  deriving DecidableEq, Repr, Inhabited

/-- Columns, and rows of cells in the order of the columns; a cell without a text is NULL. -/
structure ResultSet where
  columns : List ResultColumn := []
  rows : List (List (Option String)) := []
  deriving DecidableEq, Repr, Inhabited

namespace ResultSet

/-- The rows of two executions together, under the columns of the later one that has any. -/
def extend (a b : ResultSet) : ResultSet :=
  ⟨if b.columns.isEmpty then a.columns else b.columns, a.rows ++ b.rows⟩

theorem empty_extend (b : ResultSet) : extend {} b = b := by
  unfold extend
  by_cases h : b.columns = []
  · simp [← h]
  · simp [h]

def concat (rs : List ResultSet) : ResultSet := rs.foldl extend {}

end ResultSet
end PanelSource
