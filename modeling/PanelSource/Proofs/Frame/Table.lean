import Mathlib.Data.List.Forall2
import PanelSource.Proofs.Frame.Timeline

/- Tables: rectangular, typed and complete.

   A cell that is read has the type that its column declares, or is null because it is a number that
   is not finite (`CellFits`). A table has a cell for each column in each of its rows (`RowFits`),
   and has the rows of the result: all of them where no column is named as the timestamp column,
   else their timeline (`tabulates_toTable`). -/
namespace PanelSource
open Number

/-- Whether a value has the type that a table's column declares. -/
def Json.hasType (type : String) : Json → Bool
  | .string _ => type == "string"
  | .bool _ => type == "boolean"
  | .number (.integer _) => type == "number" || type == "time"
  | .number (.real _) => type == "number"
  | _ => false

namespace Frame

/-! ## Cells -/

/-- What a cell of some kind is, where its text is known or there is none. -/
structure CellFits (kind : CellKind) (raw : Option String) (cell : Json) : Prop where
  read : ∀ text, raw = some text → readCell kind text = .ok cell
  typed : cell = .null ∨ cell.hasType kind.tableType
  null_iff : cell = .null ↔
    raw = none ∨ ∃ text x, raw = some text ∧ kind = .real ∧ readReal text = .ok x ∧
      x.isFinite = false

theorem cellFits_none (kind : CellKind) : CellFits kind none .null := by
  refine ⟨fun text htext => ?_, .inl rfl, by simp⟩
  cases htext

/-- A text that is read is a value of the declared type, or a number that is not finite. -/
theorem cellFits_some {kind : CellKind} {text : String} {cell : Json}
    (h : readCell kind text = .ok cell) : CellFits kind (some text) cell := by
  have hread : ∀ text', some text = some text' → readCell kind text' = .ok cell := by
    intro text' htext
    cases htext
    exact h
  cases kind with
  | text =>
    cases h
    exact ⟨hread, .inr rfl, by simp⟩
  | integer =>
    obtain ⟨i, -, rfl⟩ := ok_of_map_ok h
    exact ⟨hread, .inr rfl, by simp [Json.int]⟩
  | bool =>
    cases h
    exact ⟨hread, .inr rfl, by simp⟩
  | time layout =>
    obtain ⟨t, -, rfl⟩ := ok_of_map_ok h
    exact ⟨hread, .inr rfl, by simp [Json.int]⟩
  | real =>
    obtain ⟨x, hx, rfl⟩ := ok_of_map_ok h
    -- Only what is not finite has no form as a number.
    by_cases hfinite : x.isFinite
    · refine ⟨hread, .inr (by simp [Json.real, hfinite, Json.hasType, CellKind.tableType]), ?_⟩
      simp [Json.real, hfinite, hx]
    · refine ⟨hread, .inl (by simp [Json.real, hfinite]), ?_⟩
      simp [Json.real, hfinite, hx]

/-! ## Rows -/

/-- A row of a table has a cell for each kind, made from the raw cell at its place. -/
structure RowFits (kinds : List CellKind) (raw : Nat → Option String) (cells : List Json) : Prop where
  length : cells.length = kinds.length
  cell : ∀ (k : Nat) (kind : CellKind) (cell : Json), kinds[k]? = some kind →
    cells[k]? = some cell → CellFits kind (raw k) cell

theorem rowFits_readCells {kinds : List CellKind} {row : Row} {cells : List Json} {start : Nat}
    (h : readCells row start kinds = .ok cells) :
    RowFits kinds (fun k => cell? row (start + k)) cells := by
  induction kinds generalizing start cells with
  | nil =>
    cases h
    exact ⟨rfl, fun k kind cell hk => by simp at hk⟩
  | cons kind kinds ih =>
    obtain ⟨first, others, hfits, hothers, rfl⟩ : ∃ first others,
        CellFits kind (cell? row start) first ∧ readCells row (start + 1) kinds = .ok others ∧
          cells = first :: others := by
      cases hcell : cell? row start with
      | none =>
        simp only [readCells, hcell] at h
        obtain ⟨_, ⟨⟩, h⟩ := ok_of_bind_ok h
        obtain ⟨others, hothers, h⟩ := ok_of_bind_ok h
        cases h
        exact ⟨.null, others, cellFits_none kind, hothers, rfl⟩
      | some text =>
        simp only [readCells, hcell] at h
        obtain ⟨first, hfirst, h⟩ := ok_of_bind_ok h
        obtain ⟨others, hothers, h⟩ := ok_of_bind_ok h
        cases h
        exact ⟨first, others, cellFits_some hfirst, hothers, rfl⟩
    obtain ⟨hlength, hcells⟩ := ih hothers
    refine ⟨by simp [hlength], ?_⟩
    intro k kind' cell' hkind hcell
    cases k with
    | zero =>
      cases hkind
      cases hcell
      exact hfits
    | succ k =>
      rw [List.getElem?_cons_succ] at hkind hcell
      rw [show start + (k + 1) = start + 1 + k by omega]
      exact hcells k kind' cell' hkind hcell

theorem forall₂_of_mapM_ok {ε α β : Type} {f : α → Except ε β} {xs : List α} {ys : List β}
    (h : xs.mapM f = .ok ys) : List.Forall₂ (fun x y => f x = .ok y) xs ys := by
  induction xs generalizing ys with
  | nil =>
    cases h
    exact .nil
  | cons x xs ih =>
    rw [List.mapM_cons] at h
    obtain ⟨y, hy, h⟩ := ok_of_bind_ok h
    obtain ⟨others, hothers, h⟩ := ok_of_bind_ok h
    cases h
    exact .cons hy (ih hothers)

/-! ## Tables -/

/-- The rows that a table has: all of them, or their timeline where a column is meant as the
    timestamp column. -/
theorem tableRows_ok {o : Options} {columns : List ResultColumn} {rows rows' : List Row}
    (h : tableRows o (layout o columns) rows = .ok rows') :
    ((∀ c ∈ columns, ¬ isTimestamp o c) → rows' = rows) ∧
      ∀ i, LastAt (isTimestamp o) columns i → ∃ c layout, columns[i]? = some c ∧
        kindOf o c = .time layout ∧ Timeline i layout rows rows' := by
  simp only [tableRows, layout] at h
  refine ⟨fun hnone => ?_, fun i hi => ?_⟩
  · rw [lastIndex?_eq_none_iff.mpr hnone] at h
    exact (Except.ok.inj h).symm
  · rw [hi.lastIndex?_eq] at h
    simp only at h
    split at h
    · cases h
    · rename_i layout hlayout
      obtain ⟨xs, hrows, rfl⟩ := ok_of_map_ok h
      obtain ⟨timed, htimed, rfl⟩ := timeline_of_rowsByTime hrows
      have hkind := timeLayout?_eq_some hlayout
      rw [List.getElem?_map, Option.map_eq_some_iff] at hkind
      obtain ⟨c, hc, hkind⟩ := hkind
      refine ⟨c, layout, hc, hkind, ?_⟩
      rw [List.map_map]
      simpa [withTime, Function.comp_def] using htimed

/-- A row of a table shows a raw row under the columns of a result. -/
def Shows (o : Options) (columns : List ResultColumn) (row : Row) (cells : List Json) : Prop :=
  RowFits (columns.map (kindOf o)) (cell? row) cells

/-- How a table shows rows under the columns of a result: it has a column for each one and a row for
    each row, with the cells that the raw row is read as, and nothing in it breaks the types that
    its columns declare. -/
structure Tabulates (o : Options) (columns : List ResultColumn) (rows : List Row) (table : Table) :
    Prop where
  header : table.columns = columns.map fun c => ⟨c.name, (kindOf o c).tableType⟩
  body : List.Forall₂ (Shows o columns) rows table.rows
  rectangular : ∀ cells ∈ table.rows, cells.length = table.columns.length
  typed : ∀ cells ∈ table.rows, ∀ (k : Nat) (column : TableColumn) (cell : Json),
    table.columns[k]? = some column → cells[k]? = some cell →
      cell = .null ∨ cell.hasType column.kind

theorem map_zip_kinds (o : Options) (columns : List ResultColumn) :
    ((columns.zip (columns.map (kindOf o))).map fun (c, kind) =>
      (⟨c.name, kind.tableType⟩ : TableColumn)) =
      columns.map fun c => ⟨c.name, (kindOf o c).tableType⟩ := by
  have hzip := @List.zip_map' _ _ _ id (kindOf o) columns
  rw [List.map_id] at hzip
  simp only [hzip, List.map_map]
  rfl

/-- A table that has the columns and reads the rows shows them. -/
theorem tabulates_of_body {o : Options} {columns : List ResultColumn} {rows : List Row}
    {table : Table}
    (hheader : table.columns = columns.map fun c => ⟨c.name, (kindOf o c).tableType⟩)
    (hbody : List.Forall₂ (Shows o columns) rows table.rows) : Tabulates o columns rows table := by
  have hfits : ∀ cells ∈ table.rows, ∃ row, RowFits (columns.map (kindOf o)) (cell? row) cells := by
    have hboth : List.Forall₂ (fun cells _ =>
        (∃ row, RowFits (columns.map (kindOf o)) (cell? row) cells) ∧ True) table.rows rows :=
      List.Forall₂.flip (List.Forall₂.imp (fun row _ h => ⟨⟨row, h⟩, trivial⟩) hbody)
    exact ((List.forall₂_and_left _ _).mp hboth).1
  refine ⟨hheader, hbody, fun cells hcells => ?_, fun cells hcells k column cell hcolumn hcell => ?_⟩
  · obtain ⟨row, hrow⟩ := hfits cells hcells
    rw [hrow.length, hheader, List.length_map, List.length_map]
  · obtain ⟨row, hrow⟩ := hfits cells hcells
    rw [hheader, List.getElem?_map, Option.map_eq_some_iff] at hcolumn
    obtain ⟨c, hc, rfl⟩ := hcolumn
    have hkind : (columns.map (kindOf o))[k]? = some (kindOf o c) := by
      rw [List.getElem?_map, hc, Option.map_some]
    exact (hrow.cell k _ cell hkind hcell).typed

/-- A column of a table has times only, none of them earlier than one before it. -/
def Ascends (table : Table) (i : Nat) : Prop :=
  ∃ times : List Int, table.rows.map (fun cells => cells[i]?) = times.map (fun t => some (.int t)) ∧
    times.Pairwise (· ≤ ·)

theorem RowFits.getElem?_time {kinds : List CellKind} {row : Row} {cells : List Json} {i : Nat}
    {layout : TimeLayout} {t : Int} (h : RowFits kinds (cell? row) cells)
    (hkind : kinds[i]? = some (.time layout)) (hstated : StatesTime i layout row t) :
    cells[i]? = some (.int t) := by
  obtain ⟨cell, hcell⟩ : ∃ cell, cells[i]? = some cell := by
    have hi := (List.getElem?_eq_some_iff.mp hkind).1
    rw [← h.length] at hi
    exact ⟨cells[i], List.getElem?_eq_getElem hi⟩
  have hfits := h.cell i _ cell hkind hcell
  obtain ⟨text, htext, hread⟩ := hstated
  have hcelltime := hfits.read text htext
  rw [readCell, hread] at hcelltime
  rw [hcell, ← Except.ok.inj hcelltime]

/-- The timestamp column of a timeline ascends. -/
theorem Tabulates.ascends {o : Options} {columns : List ResultColumn} {rows timed : List Row}
    {table : Table} {i : Nat} {c : ResultColumn} {layout : TimeLayout}
    (h : Tabulates o columns timed table) (hc : columns[i]? = some c)
    (hkind : kindOf o c = .time layout) (htimed : Timeline i layout rows timed) :
    Ascends table i := by
  have hkinds : (columns.map (kindOf o))[i]? = some (.time layout) := by
    rw [List.getElem?_map, hc, Option.map_some, hkind]
  have hcells : List.Forall₂ (fun row cells => some (.int (timeAt i layout row)) = cells[i]?) timed
      table.rows := by
    refine List.Forall₂.imp (fun row cells hrow => ?_)
      ((List.forall₂_and_left _ _).mpr ⟨htimed.stated, h.body⟩)
    exact (hrow.2.getElem?_time hkinds hrow.1).symm
  refine ⟨timed.map (timeAt i layout), ?_, ?_⟩
  · rw [List.map_map, eq_comm, ← List.forall₂_eq_eq_eq, List.forall₂_map_left_iff,
      List.forall₂_map_right_iff]
    exact hcells
  · rw [List.pairwise_map]
    exact htimed.sorted.ordered

/-- **Tables are rectangular, typed and complete.** Whenever a result is made into a table, the table
    shows rows under the columns of the result. Where no column is named as the timestamp column
    these are all rows, in their order. Else they are the timeline by the last column of that name,
    whose cells in the table are times that never decrease. -/
theorem tabulates_toTable {o : Options} {r : ResultSet} {table : Table}
    (h : toTable o r = .ok table) :
    ∃ rows, Tabulates o r.columns rows table ∧
      ((∀ c ∈ r.columns, ¬ isTimestamp o c) → rows = r.rows) ∧
      ∀ i, LastAt (isTimestamp o) r.columns i → ∃ c layout, r.columns[i]? = some c ∧
        kindOf o c = .time layout ∧ Timeline i layout r.rows rows ∧ Ascends table i := by
  obtain ⟨rows, hrows, h⟩ := ok_of_bind_ok h
  obtain ⟨shown, hshown, h⟩ := ok_of_bind_ok h
  cases h
  have hbody : List.Forall₂ (Shows o r.columns) rows shown := by
    refine List.Forall₂.imp (fun row cells hcells => ?_) (forall₂_of_mapM_ok hshown)
    have hfits := rowFits_readCells hcells
    simp only [Nat.zero_add] at hfits
    exact hfits
  have htabulates : Tabulates o r.columns rows ⟨_, shown⟩ :=
    tabulates_of_body (map_zip_kinds o r.columns) hbody
  obtain ⟨hall, htimed⟩ := tableRows_ok hrows
  refine ⟨rows, htabulates, hall, fun i hi => ?_⟩
  obtain ⟨c, layout, hc, hkind, htimeline⟩ := htimed i hi
  exact ⟨c, layout, hc, hkind, htimeline, htabulates.ascends hc hkind htimeline⟩

/-- A table whose rows are at hand. -/
theorem toTable_of_rows {o : Options} {r : ResultSet} {rows : List Row} {shown : List (List Json)}
    (hrows : tableRows o (layout o r.columns) r.rows = .ok rows)
    (hshown : rows.mapM (fun row => readCells row 0 (layout o r.columns).kinds) = .ok shown) :
    toTable o r = .ok
      { columns := (r.columns.zip (layout o r.columns).kinds).map fun (c, kind) =>
          ⟨c.name, kind.tableType⟩
        rows := shown } := by
  have hread : toTable o r = (rows.mapM fun row => readCells row 0 (layout o r.columns).kinds) >>=
      fun shown => .ok
        { columns := (r.columns.zip (layout o r.columns).kinds).map fun (c, kind) =>
            ⟨c.name, kind.tableType⟩
          rows := shown } := by
    simp only [toTable, hrows]
    rfl
  rw [hread, hshown]
  rfl

/-- Readings of sensors, the later one first: one is not a number, one is cut short, and one has no
    time. Two columns are named `ts`, and the last of them is meant. -/
def readings : ResultSet :=
  { columns := [⟨"ts", "integer"⟩, ⟨"name", "varchar"⟩, ⟨"level", "float"⟩, ⟨"ts", "varchar"⟩,
      ⟨"open", "boolean"⟩]
    rows :=
      [[some "2", some "", some "NaN", some "02/05/2024", some "yes"],
       [none, some "b", some "0.5", none, some "true"],
       [some " 1 ", none, some "0.5", some "01/05/2024"]] }

def byDay : Options := { timestampColumn := "ts", timeFormat := "%d/%m/%Y" }

def readingsTable : Table :=
  { columns := [⟨"ts", "number"⟩, ⟨"name", "string"⟩, ⟨"level", "number"⟩, ⟨"ts", "time"⟩,
      ⟨"open", "boolean"⟩]
    rows :=
      [[.int 1, .null, .real (.ofRatio false 1 2), .int 1714521600000, .null],
       [.int 2, .string "", .null, .int 1714608000000, .bool false]] }

theorem tabulates_toTable_readings : toTable byDay readings = .ok readingsTable ∧
    ∃ rows, Tabulates byDay readings.columns rows readingsTable ∧
      ((∀ c ∈ readings.columns, ¬ isTimestamp byDay c) → rows = readings.rows) ∧
      ∀ i, LastAt (isTimestamp byDay) readings.columns i → ∃ c layout,
        readings.columns[i]? = some c ∧ kindOf byDay c = .time layout ∧
          Timeline i layout readings.rows rows ∧ Ascends readingsTable i := by
  have hrows : tableRows byDay (layout byDay readings.columns) readings.rows = .ok
      [[some " 1 ", none, some "0.5", some "01/05/2024"],
       [some "2", some "", some "NaN", some "02/05/2024", some "yes"]] := by
    have htimed : timedRows 3 (.custom "%d/%m/%Y") readings.rows = .ok
        [(1714608000000, [some "2", some "", some "NaN", some "02/05/2024", some "yes"]),
         (1714521600000, [some " 1 ", none, some "0.5", some "01/05/2024"])] := by
      decide +kernel
    have hlayout : layout byDay readings.columns =
        ⟨[.integer, .text, .real, .time (.custom "%d/%m/%Y"), .bool], some 3, none⟩ := by
      decide +kernel
    rw [hlayout]
    simp [tableRows, timeLayout?, rowsByTime, htimed, Except.map, List.mergeSort,
      List.MergeSort.Internal.splitInTwo]
  have htable : toTable byDay readings = .ok readingsTable := by
    have hshown : List.mapM (fun row => readCells row 0 (layout byDay readings.columns).kinds)
        [[some " 1 ", none, some "0.5", some "01/05/2024"],
         [some "2", some "", some "NaN", some "02/05/2024", some "yes"]] =
        .ok readingsTable.rows := rfl
    exact toTable_of_rows hrows hshown
  exact ⟨htable, tabulates_toTable htable⟩

end Frame
end PanelSource
