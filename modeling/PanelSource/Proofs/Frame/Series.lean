import PanelSource.Proofs.Frame.Timeline

/- Series as a partition of the rows.

   Points with names are grouped into one series for each name, in the order in which the names
   first come (`grouped`). Adding one more point to series that were grouped leaves them grouped
   (`addPoint_grouped`), so series that are made from rows are the grouped points of the timeline of
   the rows (`toSeries_ok`). They divide the timeline among them: each row gives one point, to the
   series of its legend (`divides_toSeries`). -/
namespace PanelSource.Frame
open Number

/-- A value, if there is one, and a time in milliseconds. -/
abbrev Point := Option Binary64 × Int

/-! ## Grouping -/

section
variable {α : Type} [DecidableEq α]

theorem eraseDups_concat (xs : List α) (x : α) :
    (xs ++ [x]).eraseDups = if x ∈ xs then xs.eraseDups else xs.eraseDups ++ [x] := by
  rw [List.eraseDups_append]
  by_cases hx : x ∈ xs <;> simp [List.removeAll, List.eraseDups_cons, hx]

theorem nodup_eraseDups (xs : List α) : xs.eraseDups.Nodup := by
  induction xs using List.reverseRecOn with
  | nil => simp
  | append_singleton xs x ih =>
    rw [eraseDups_concat]
    split
    · exact ih
    · rename_i hx
      rw [List.nodup_append]
      refine ⟨ih, by simp, ?_⟩
      intro a ha b hb hab
      rw [List.mem_singleton] at hb
      rw [List.mem_eraseDups, hab, hb] at ha
      exact hx ha

end

/-- Points with names as series, one for each name in the order in which the names first come. -/
def grouped (named : List (String × Point)) : List Series :=
  (named.map Prod.fst).eraseDups.map fun name =>
    ⟨name, (named.filter fun x => x.1 = name).map Prod.snd⟩

/-- A point goes to the series of its name; one that no series has yet makes a new one. -/
theorem addPoint_map {names : List String} (hnodup : names.Nodup) (points : String → List Point)
    (name : String) (point : Point) :
    addPoint name point (names.map fun n => ⟨n, points n⟩) =
      if name ∈ names then
        names.map fun n => ⟨n, if n = name then points n ++ [point] else points n⟩
      else (names.map fun n => ⟨n, points n⟩) ++ [⟨name, [point]⟩] := by
  induction names with
  | nil => rfl
  | cons n names ih =>
    obtain ⟨hn, hnodup⟩ := List.nodup_cons.mp hnodup
    rw [List.map_cons, addPoint]
    by_cases hname : n = name
    · -- The names are distinct, so the series that follow stay as they are.
      subst hname
      have hothers : ∀ m ∈ names,
          (⟨m, points m⟩ : Series) = ⟨m, if m = n then points m ++ [point] else points m⟩ := by
        intro m hm
        rw [if_neg (ne_of_mem_of_not_mem hm hn)]
      simp [List.map_congr_left hothers]
    · rw [if_neg hname, ih hnodup]
      have hname' : ¬ name = n := fun h => hname h.symm
      by_cases hmem : name ∈ names <;> simp [hname, hname', hmem]

/-- One more point leaves series grouped. -/
theorem addPoint_grouped (named : List (String × Point)) (name : String) (point : Point) :
    addPoint name point (grouped named) = grouped (named ++ [(name, point)]) := by
  unfold grouped
  rw [addPoint_map (nodup_eraseDups _), List.map_append, List.map_singleton, eraseDups_concat]
  simp only [List.mem_eraseDups]
  split
  · apply List.map_congr_left
    intro n _
    by_cases hn : name = n
    · simp [hn]
    · simp [hn, Ne.symm hn]
  · rename_i hnew
    -- A new name leaves the other series alone, and none of the points had it.
    have hothers : ∀ n ∈ (named.map Prod.fst).eraseDups,
        (⟨n, (named.filter fun x => x.1 = n).map Prod.snd⟩ : Series) =
          ⟨n, ((named ++ [(name, point)]).filter fun x => x.1 = n).map Prod.snd⟩ := by
      intro n hn
      have hne : name ≠ n := fun h => hnew (h ▸ List.mem_eraseDups.mp hn)
      simp [hne]
    have hnone : (named.filter fun x => x.1 = name) = [] := by
      rw [List.filter_eq_nil_iff]
      intro x hx hname
      exact hnew (List.mem_map.mpr ⟨x, hx, by simpa using hname⟩)
    rw [List.map_append, List.map_congr_left hothers]
    simp [hnone]

theorem foldl_addPoint (named more : List (String × Point)) :
    more.foldl (fun done x => addPoint x.1 x.2 done) (grouped named) = grouped (named ++ more) := by
  induction more generalizing named with
  | nil => rw [List.foldl_nil, List.append_nil]
  | cons x more ih =>
    rw [List.foldl_cons, addPoint_grouped, ih, List.append_assoc, List.singleton_append]

section
variable {named : List (String × Point)}

theorem names_grouped :
    (grouped named).map (fun s => s.name) = (named.map Prod.fst).eraseDups := by
  simp [grouped, Function.comp_def]

theorem points_of_mem_grouped {s : Series} (h : s ∈ grouped named) :
    s.points = (named.filter fun x => x.1 = s.name).map Prod.snd := by
  obtain ⟨name, -, rfl⟩ := List.mem_map.mp h
  rfl

theorem length_points_addPoint (name : String) (point : Point) (done : List Series) :
    ((addPoint name point done).flatMap fun s => s.points).length =
      (done.flatMap fun s => s.points).length + 1 := by
  induction done with
  | nil => rfl
  | cons s done ih =>
    unfold addPoint
    split
    · simp only [List.flatMap_cons, List.length_append, List.length_singleton]
      omega
    · simp only [List.flatMap_cons, List.length_append, ih]
      omega

theorem length_points_grouped (named : List (String × Point)) :
    ((grouped named).flatMap fun s => s.points).length = named.length := by
  induction named using List.reverseRecOn with
  | nil => rfl
  | append_singleton named x ih =>
    rw [← addPoint_grouped, length_points_addPoint, ih, List.length_append, List.length_singleton]

end

/-! ## Rows -/

def legendOf (o : Options) (columns : List ResultColumn) (i j : Nat) (row : Row) : String :=
  legend o.legendFormat (labels columns i j row)

/-- A row's cell states a value: a number, or none where it is absent or NULL. -/
def StatesValue (j : Nat) (row : Row) (v : Option Binary64) : Prop :=
  match cell? row j with
  | none => v = none
  | some raw => ∃ x, readReal raw = .ok x ∧ v = some x

/-- The value that a row's cell states; none where it states none. -/
def valueOf (j : Nat) (row : Row) : Option Binary64 :=
  match valueAt row j with
  | .ok v => v
  | .error _ => none

def pointOf (i : Nat) (layout : TimeLayout) (j : Nat) (row : Row) : Point :=
  (valueOf j row, timeAt i layout row)

theorem statesValue_of_valueAt {j : Nat} {row : Row} {v : Option Binary64}
    (h : valueAt row j = .ok v) : StatesValue j row v := by
  unfold valueAt at h
  unfold StatesValue
  split at h
  · rename_i raw hcell
    obtain ⟨x, hread, rfl⟩ := ok_of_map_ok h
    rw [hcell]
    exact ⟨x, hread, rfl⟩
  · rename_i hcell
    rw [hcell]
    exact (Except.ok.inj h).symm

/-- The columns that give rows their times and values. -/
structure Axes (o : Options) (columns : List ResultColumn) (i j : Nat) (layout : TimeLayout) :
    Prop where
  timestamp : LastAt (isTimestamp o) columns i
  value : LastAt (isValue o) columns j
  kind : ∃ c, columns[i]? = some c ∧ kindOf o c = .time layout

section
variable {o : Options} {columns : List ResultColumn} {i j : Nat} {layout : TimeLayout}
  {timed : List Row}

/-- A row's legend with its point. -/
def namedPoint (o : Options) (columns : List ResultColumn) (i j : Nat) (layout : TimeLayout)
    (row : Row) : String × Point :=
  (legendOf o columns i j row, pointOf i layout j row)

/-- Rows that are added state values, and are added with their points. -/
theorem addRows_ok {done series : List Series}
    (h : addRows o columns i j done (timed.map (withTime i layout)) = .ok series) :
    (∀ row ∈ timed, StatesValue j row (valueOf j row)) ∧
      series = (timed.map (namedPoint o columns i j layout)).foldl
        (fun done x => addPoint x.1 x.2 done) done := by
  induction timed generalizing done with
  | nil =>
    cases h
    simp
  | cons row timed ih =>
    obtain ⟨v, hv, hrest⟩ := ok_of_bind_ok h
    have hvalue : valueOf j row = v := by simp [valueOf, hv]
    obtain ⟨hstated, hseries⟩ := ih hrest
    refine ⟨fun row' hrow' => ?_, ?_⟩
    · rcases List.mem_cons.mp hrow' with rfl | hrow'
      · rw [hvalue]
        exact statesValue_of_valueAt hv
      · exact hstated row' hrow'
    · rw [hseries, List.map_cons, List.foldl_cons, namedPoint, pointOf, hvalue]
      rfl

end

/-- Series are the grouped points of the timeline of the rows. -/
theorem toSeries_ok {o : Options} {r : ResultSet} {series : List Series}
    (h : toSeries o r = .ok series) :
    ∃ i j layout timed, Axes o r.columns i j layout ∧ Timeline i layout r.rows timed ∧
      (∀ row ∈ timed, StatesValue j row (valueOf j row)) ∧
      series = grouped (timed.map (namedPoint o r.columns i j layout)) := by
  unfold toSeries at h
  simp only [Frame.layout] at h
  split at h
  · cases h
  · cases h
  · rename_i i j hi hj
    split at h
    · cases h
    · rename_i layout hlayout
      obtain ⟨xs, hrows, h⟩ := ok_of_bind_ok h
      obtain ⟨timed, htimed, rfl⟩ := timeline_of_rowsByTime hrows
      obtain ⟨hvalues, hseries⟩ := addRows_ok h
      have hkind := timeLayout?_eq_some hlayout
      rw [List.getElem?_map, Option.map_eq_some_iff] at hkind
      have haxes : Axes o r.columns i j layout :=
        ⟨lastAt_of_lastIndex? hi, lastAt_of_lastIndex? hj, hkind⟩
      refine ⟨i, j, layout, timed, haxes, htimed, hvalues, ?_⟩
      rw [hseries]
      exact foldl_addPoint [] _

theorem toSeries_of_rows {o : Options} {r : ResultSet} {i j : Nat} {layout : TimeLayout}
    {xs : List (Int × Row)} (hi : lastIndex? (isTimestamp o) r.columns = some i)
    (hj : lastIndex? (isValue o) r.columns = some j)
    (hlayout : timeLayout? (r.columns.map (kindOf o)) i = some layout)
    (hrows : rowsByTime i layout r.rows = .ok xs) :
    toSeries o r = addRows o r.columns i j [] xs := by
  simp only [toSeries, Frame.layout, hi, hj, hlayout, hrows]
  rfl

/-- How series divide a timeline among them: they have distinct names, the legends of the rows in
    the order in which they first appear, and each one has the points of the rows of its name. -/
structure Divides (o : Options) (columns : List ResultColumn) (i j : Nat) (layout : TimeLayout)
    (timed : List Row) (series : List Series) : Prop where
  distinct : (series.map fun s => s.name).Nodup
  order : series.map (fun s => s.name) = (timed.map (legendOf o columns i j)).eraseDups
  values : ∀ row ∈ timed, StatesValue j row (valueOf j row)
  points : ∀ s ∈ series,
    s.points = (timed.filter fun row => legendOf o columns i j row = s.name).map
      (pointOf i layout j)
  times : ∀ s ∈ series, s.points.Pairwise fun p q => p.2 ≤ q.2
  count : (series.flatMap fun s => s.points).length = timed.length

/-- Grouped points divide the timeline that they are the points of. -/
theorem divides_grouped {o : Options} {columns : List ResultColumn} {i j : Nat}
    {layout : TimeLayout} {rows timed : List Row} (htimed : Timeline i layout rows timed)
    (hvalues : ∀ row ∈ timed, StatesValue j row (valueOf j row)) :
    Divides o columns i j layout timed (grouped (timed.map (namedPoint o columns i j layout))) := by
  have hnames : (timed.map (namedPoint o columns i j layout)).map Prod.fst =
      timed.map (legendOf o columns i j) := by
    rw [List.map_map]
    rfl
  have hpoints : ∀ s ∈ grouped (timed.map (namedPoint o columns i j layout)),
      s.points = (timed.filter fun row => legendOf o columns i j row = s.name).map
        (pointOf i layout j) := by
    intro s hs
    rw [points_of_mem_grouped hs, List.filter_map, List.map_map]
    rfl
  refine ⟨?_, ?_, hvalues, hpoints, ?_, ?_⟩
  · rw [names_grouped]
    exact nodup_eraseDups _
  · rw [names_grouped, hnames]
  · intro s hs
    rw [hpoints s hs, List.pairwise_map]
    exact htimed.sorted.ordered.sublist List.filter_sublist
  · rw [length_points_grouped, List.length_map]

/-- **Series are a partition of the timed rows.** Whenever a result is made into series, they divide
    the timeline of its rows among them. -/
theorem divides_toSeries {o : Options} {r : ResultSet} {series : List Series}
    (h : toSeries o r = .ok series) :
    ∃ i j layout timed, Axes o r.columns i j layout ∧ Timeline i layout r.rows timed ∧
      Divides o r.columns i j layout timed series := by
  obtain ⟨i, j, layout, timed, haxes, htimed, hvalues, rfl⟩ := toSeries_ok h
  exact ⟨i, j, layout, timed, haxes, htimed, divides_grouped htimed hvalues⟩

/-- Measurements of three hosts: two at one moment, one without a time, one cut short before its
    value and one whose value is NULL. -/
def measurements : ResultSet :=
  { columns := [⟨"ts", "timestamp"⟩, ⟨"host", "varchar"⟩, ⟨"cpu", "double"⟩]
    rows :=
      [[some "2024-05-01 10:02:00", some "a", some "3"],
       [some "2024-05-01 10:00:00", some "b", some "1"],
       [none, some "a", some "9"],
       [some "2024-05-01 10:02:00", some "b", none],
       [some "2024-05-01 10:02:00", some "a"],
       [some "2024-05-01 10:01:00", some "a", some "2"]] }

def byHost : Options :=
  { timestampColumn := "ts", valueColumn := "cpu", legendFormat := "\x7b\x7bhost\x7d\x7d" }

/-- What the measurements are made into. -/
def hostSeries : List Series :=
  [⟨"b", [(some (Binary64.ofInt 1), 1714557600000), (none, 1714557720000)]⟩,
   ⟨"a", [(some (Binary64.ofInt 2), 1714557660000), (some (Binary64.ofInt 3), 1714557720000),
     (none, 1714557720000)]⟩]

theorem divides_toSeries_measurements : toSeries byHost measurements = .ok hostSeries ∧
    ∃ i j layout timed, Axes byHost measurements.columns i j layout ∧
      Timeline i layout measurements.rows timed ∧
      Divides byHost measurements.columns i j layout timed hostSeries := by
  have hrows : rowsByTime 0 .timestamp measurements.rows = .ok
      [(1714557600000, [some "2024-05-01 10:00:00", some "b", some "1"]),
       (1714557660000, [some "2024-05-01 10:01:00", some "a", some "2"]),
       (1714557720000, [some "2024-05-01 10:02:00", some "a", some "3"]),
       (1714557720000, [some "2024-05-01 10:02:00", some "b", none]),
       (1714557720000, [some "2024-05-01 10:02:00", some "a"])] := by
    have htimed : timedRows 0 .timestamp measurements.rows = .ok
        [(1714557720000, [some "2024-05-01 10:02:00", some "a", some "3"]),
         (1714557600000, [some "2024-05-01 10:00:00", some "b", some "1"]),
         (1714557720000, [some "2024-05-01 10:02:00", some "b", none]),
         (1714557720000, [some "2024-05-01 10:02:00", some "a"]),
         (1714557660000, [some "2024-05-01 10:01:00", some "a", some "2"])] := by
      decide +kernel
    rw [rowsByTime, htimed]
    simp [Except.map, List.mergeSort, List.MergeSort.Internal.splitInTwo]
  have hseries : toSeries byHost measurements = .ok hostSeries := by
    rw [toSeries_of_rows (i := 0) (j := 2) (by decide +kernel) (by decide +kernel)
      (by decide +kernel) hrows]
    decide +kernel
  exact ⟨hseries, divides_toSeries hseries⟩

end PanelSource.Frame
