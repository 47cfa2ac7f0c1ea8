import PanelSource.Proofs.Frame.Series

/- Rows that are told apart by their labels.

   Without a legend format the name of a row's series lists its labels, each with its value in
   quotation marks. Values are listed as they are, so a value with a quotation mark can look like the
   labels that follow it in another row, and a column that is NULL in one row leaves its place to
   the names of later columns. `agree_of_listing` says that there is no other way to confuse two
   rows: in columns whose names stand apart, rows with one listing agree wherever neither can be
   mistaken for the other. The induction is over the label columns, from the left. -/
namespace PanelSource.Frame
open Number

/-- The columns that give rows their labels, with their places: all but those of times and
    values. -/
def labelColumns (o : Options) (columns : List ResultColumn) : List (ResultColumn × Nat) :=
  columns.zipIdx.filter fun c =>
    lastIndex? (isTimestamp o) columns ≠ some c.2 ∧ lastIndex? (isValue o) columns ≠ some c.2

/-- Rows have the same text in each of some columns, or none. -/
def Agree (cs : List (ResultColumn × Nat)) (x y : Row) : Prop :=
  ∀ c ∈ cs, cell? x c.2 = cell? y c.2

/-- Columns have distinct names, and no name goes on from another as a label does. -/
structure StandApart (cs : List (ResultColumn × Nat)) : Prop where
  distinct : (cs.map fun c => c.1.name).Nodup
  apart : ∀ c ∈ cs, ∀ d ∈ cs, ¬ c.1.name.toList ++ ['=', '"'] <+: d.1.name.toList

/-- Text up to its first quotation mark. -/
def upToQuote (cs : List Char) : List Char := cs.takeWhile (· ≠ '"') ++ ['"']

/-- How a label begins in a listing. -/
def lead (name : String) : List Char := upToQuote (name.toList ++ ['='])

/-- A row can be mistaken for another: the other one's text in a column reads like this one's text
    there, followed by the beginning of a later label of this row. -/
def Mistakable (cs : List (ResultColumn × Nat)) (x y : Row) : Prop :=
  ∃ c d v w, [c, d].Sublist cs ∧ cell? x c.2 = some v ∧ cell? y c.2 = some w ∧
    (cell? x d.2).isSome ∧ v.toList ++ ('"' :: ',' :: lead d.1.name) <+: w.toList ++ ['"']

/-- A row cannot be mistaken for one whose texts have no quotation mark in front of a comma. -/
theorem not_mistakable {cs : List (ResultColumn × Nat)} {x y : Row}
    (h : ∀ c ∈ cs, ∀ w, cell? y c.2 = some w → ¬ ['"', ','] <:+: w.toList) :
    ¬ Mistakable cs x y := by
  intro hmistakable
  obtain ⟨c, d, v, w, hsub, -, hw, -, hprefix⟩ := hmistakable
  have hc : c ∈ cs := hsub.subset List.mem_cons_self
  -- The label's beginning ends with a quotation mark, so what is in front of it is in the text.
  have hinside : v.toList ++ ['"', ','] <+: w.toList := by
    rcases List.prefix_concat_iff.mp hprefix with heq | hinside
    · have hends : v.toList ++ ['"', ','] ++ (d.1.name.toList ++ ['=']).takeWhile (· ≠ '"') ++
          ['"'] = w.toList ++ ['"'] := by
        simpa [lead, upToQuote] using heq
      exact ⟨_, List.append_cancel_right hends⟩
    · exact List.IsPrefix.trans ⟨lead d.1.name, by simp⟩ hinside
  have hinfix : ['"', ','] <:+: w.toList :=
    (List.suffix_append v.toList ['"', ',']).isInfix.trans hinside.isInfix
  exact h c hc w hw hinfix

/-! ## Listings -/

/-- The labels of a row in some columns. -/
def labelsIn (cs : List (ResultColumn × Nat)) (row : Row) : List Label :=
  cs.filterMap fun c => (cell? row c.2).map fun v => (c.1.name, v)

theorem labels_eq {o : Options} {columns : List ResultColumn} {i j : Nat} {layout : TimeLayout}
    (haxes : Axes o columns i j layout) (row : Row) :
    labels columns i j row = labelsIn (labelColumns o columns) row := by
  unfold labels labelsIn labelColumns
  rw [haxes.timestamp.lastIndex?_eq, haxes.value.lastIndex?_eq, List.filterMap_filter]
  apply List.filterMap_congr
  intro ck _
  obtain ⟨c, k⟩ := ck
  by_cases hk : k = i ∨ k = j
  · rcases hk with rfl | rfl <;> simp
  · have hi : i ≠ k := fun h => hk (.inl h.symm)
    have hj : j ≠ k := fun h => hk (.inr h.symm)
    simp [hk, hi, hj]

/-- A label as it stands in a listing, after others. -/
def listed (l : Label) : List Char := ',' :: l.1.toList ++ ('=' :: '"' :: l.2.toList) ++ ['"']

/-- The labels of a row in some columns, as they stand in a listing after others. -/
def listing (cs : List (ResultColumn × Nat)) (row : Row) : List Char :=
  (labelsIn cs row).flatMap listed

theorem toList_listLabels (ls : List Label) :
    (listLabels ls).toList = '\x7b' :: (ls.flatMap listed).drop 1 ++ ['\x7d'] := by
  have hjoined : ∀ (l : Label) (ls : List Label),
      (l :: ls).flatMap listed = ',' :: [','].intercalate
        (((l :: ls).map fun l => l.1 ++ "=\"" ++ l.2 ++ "\"").map String.toList) := by
    intro l ls
    induction ls generalizing l with
    | nil => simp [listed]
    | cons m ls ih =>
      rw [List.flatMap_cons, ih m]
      simp [listed]
  have hlist : (listLabels ls).toList = '\x7b' ::
      [','].intercalate ((ls.map fun l => l.1 ++ "=\"" ++ l.2 ++ "\"").map String.toList) ++
        ['\x7d'] := by
    unfold listLabels
    rw [String.toList_append, String.toList_append, String.toList_intercalate]
    rfl
  rw [hlist]
  cases ls with
  | nil => rfl
  | cons l ls => rw [hjoined, List.drop_one, List.tail_cons]

theorem flatMap_listed_of_listLabels {ls ms : List Label} (h : listLabels ls = listLabels ms) :
    ls.flatMap listed = ms.flatMap listed := by
  have hlists := congrArg String.toList h
  simp only [toList_listLabels, List.cons_append, List.cons.injEq, true_and,
    List.append_cancel_right_eq] at hlists
  -- A listing begins with a comma, so only where there are no labels is there nothing to drop.
  cases ls <;> cases ms <;> simp_all [listed]

theorem upToQuote_eq {s t p q : List Char} (h : s ++ '"' :: p = t ++ '"' :: q) :
    upToQuote s = upToQuote t := by
  have hfront : ∀ (s p : List Char),
      (s ++ '"' :: p).takeWhile (· ≠ '"') = s.takeWhile (· ≠ '"') := by
    intro s p
    induction s with
    | nil => simp
    | cons c s ih => rw [List.cons_append, List.takeWhile_cons, List.takeWhile_cons, ih]
  have hwhole := congrArg (List.takeWhile (· ≠ '"')) h
  rw [hfront, hfront] at hwhole
  rw [upToQuote, upToQuote, hwhole]

theorem upToQuote_prefix (s : List Char) : upToQuote s <+: s ++ ['"'] := by
  unfold upToQuote
  induction s with
  | nil => simp
  | cons c s ih =>
    by_cases hc : c = '"'
    · simp [hc]
    · simpa [List.takeWhile_cons, hc] using ih

/-! ## Listings of two rows -/

section
variable {c d : ResultColumn × Nat} {cs : List (ResultColumn × Nat)} {x y : Row}

theorem listing_none (h : cell? x c.2 = none) : listing (c :: cs) x = listing cs x := by
  simp [listing, labelsIn, h]

theorem listing_some {v : String} (h : cell? x c.2 = some v) :
    listing (c :: cs) x = listed (c.1.name, v) ++ listing cs x := by
  simp [listing, labelsIn, h]

theorem exists_lead (h : listing cs x ≠ []) :
    ∃ d ∈ cs, (cell? x d.2).isSome ∧
      ∃ rest, listing cs x = ',' :: d.1.name.toList ++ ('=' :: '"' :: rest) := by
  induction cs with
  | nil => exact absurd rfl h
  | cons c cs ih =>
    cases hc : cell? x c.2 with
    | none =>
      rw [listing_none hc] at h ⊢
      obtain ⟨d, hd, hsome, hrest⟩ := ih h
      exact ⟨d, List.mem_cons_of_mem c hd, hsome, hrest⟩
    | some v =>
      refine ⟨c, List.mem_cons_self, by rw [hc]; rfl, ?_⟩
      exact ⟨v.toList ++ '"' :: listing cs x, by simp [listing_some hc, listed]⟩

/-- Two names that labels begin with at one place are the same, where they stand apart. -/
theorem StandApart.eq (h : StandApart cs) (hc : c ∈ cs) (hd : d ∈ cs) {p q : List Char}
    (heq : c.1.name.toList ++ ('=' :: '"' :: p) = d.1.name.toList ++ ('=' :: '"' :: q)) :
    c.1.name = d.1.name := by
  -- One name begins the other. It stands apart from it, so what it is short of it is nothing.
  have hshort : ∀ {s t p q : List Char}, ¬ s ++ ['=', '"'] <+: s ++ t →
      '=' :: '"' :: p = t ++ '=' :: '"' :: q → t = [] := by
    intro s t p q hprefix heq
    rw [List.prefix_append_right_inj] at hprefix
    match t with
    | [] => rfl
    | [a] => simp at heq
    | a :: b :: t =>
      simp only [List.cons_append, List.cons.injEq] at heq
      obtain ⟨rfl, rfl, -⟩ := heq
      exact absurd (List.prefix_append ['=', '"'] t) hprefix
  rcases List.append_eq_append_iff.mp heq with ⟨t, hdt, ht⟩ | ⟨t, hct, ht⟩
  · have hnil := hshort (hdt ▸ h.apart c hc d hd) ht
    rw [hnil, List.append_nil] at hdt
    exact (String.toList_inj.mp hdt).symm
  · have hnil := hshort (hct ▸ h.apart d hd c hc) ht
    rw [hnil, List.append_nil] at hct
    exact String.toList_inj.mp hct

theorem StandApart.tail (h : StandApart (c :: cs)) : StandApart cs where
  distinct := (List.nodup_cons.mp h.distinct).2
  apart d hd e he := h.apart d (List.mem_cons_of_mem c hd) e (List.mem_cons_of_mem c he)

theorem Mistakable.cons (h : Mistakable cs x y) : Mistakable (c :: cs) x y := by
  obtain ⟨d, e, v, w, hsub, hrest⟩ := h
  exact ⟨d, e, v, w, hsub.cons c, hrest⟩

/-- Where one text is longer than the other and the listings go on alike, the longer one goes on
    with a quotation mark and the label that follows in the other row. -/
theorem mistakable_of_longer {v w : String} {a : List Char} (hv : cell? x c.2 = some v)
    (hw : cell? y c.2 = some w) (hlonger : w.toList = v.toList ++ a) (ha : a ≠ [])
    (heq : '"' :: listing cs x = a ++ '"' :: listing cs y) : Mistakable (c :: cs) x y := by
  obtain ⟨q, a, rfl⟩ := List.exists_cons_of_ne_nil ha
  rw [List.cons_append, List.cons.injEq] at heq
  obtain ⟨rfl, heq⟩ := heq
  have hne : listing cs x ≠ [] := by simp [heq]
  obtain ⟨d, hd, hsome, rest, hrest⟩ := exists_lead hne
  -- The rest of the longer text ends at a quotation mark, so it is no shorter than the label's
  -- beginning, which is free of them but for its last character.
  have hfront : upToQuote (',' :: d.1.name.toList ++ ['=']) = upToQuote a := by
    apply upToQuote_eq (p := rest) (q := listing cs y)
    rw [← heq, hrest]
    simp
  have hlead : ',' :: lead d.1.name <+: a ++ ['"'] := by
    have hprefix := hfront ▸ upToQuote_prefix a
    simpa [upToQuote, lead] using hprefix
  refine ⟨c, d, v, w, (List.singleton_sublist.mpr hd).cons_cons c, hv, hw, hsome, ?_⟩
  rw [hlonger, List.append_assoc, List.cons_append, List.prefix_append_right_inj,
    List.prefix_cons_inj]
  exact hlead

/-- Two texts in one column are the same where the listings go on alike and neither row can be
    mistaken for the other. -/
theorem text_eq {v w : String} (hv : cell? x c.2 = some v) (hw : cell? y c.2 = some w)
    (hxy : ¬ Mistakable (c :: cs) x y) (hyx : ¬ Mistakable (c :: cs) y x)
    (heq : v.toList ++ '"' :: listing cs x = w.toList ++ '"' :: listing cs y) : v = w := by
  rcases List.append_eq_append_iff.mp heq with ⟨a, hwa, ha⟩ | ⟨a, hva, ha⟩
  · by_cases hnil : a = []
    · rw [hnil, List.append_nil] at hwa
      exact (String.toList_inj.mp hwa).symm
    · exact absurd (mistakable_of_longer hv hw hwa hnil ha) hxy
  · by_cases hnil : a = []
    · rw [hnil, List.append_nil] at hva
      exact String.toList_inj.mp hva
    · exact absurd (mistakable_of_longer hw hv hva hnil ha) hyx

/-- A row that has no text in a column does not list what a row lists that has one there. -/
theorem listing_ne {w : String} (hnames : StandApart (c :: cs)) (hx : cell? x c.2 = none)
    (hy : cell? y c.2 = some w) : listing (c :: cs) x ≠ listing (c :: cs) y := by
  intro heq
  rw [listing_none hx, listing_some hy] at heq
  have hne : listing cs x ≠ [] := by simp [heq, listed]
  obtain ⟨d, hd, -, rest, hrest⟩ := exists_lead hne
  have hname : d.1.name = c.1.name := by
    apply hnames.eq (List.mem_cons_of_mem c hd) List.mem_cons_self (p := rest)
      (q := w.toList ++ '"' :: listing cs y)
    simpa [hrest, listed] using heq
  have hfresh := (List.nodup_cons.mp hnames.distinct).1
  exact hfresh (List.mem_map.mpr ⟨d, hd, hname⟩)

/-- Rows with one listing agree, where neither can be mistaken for the other. -/
theorem agree_of_listing (hnames : StandApart cs) (hxy : ¬ Mistakable cs x y)
    (hyx : ¬ Mistakable cs y x) (heq : listing cs x = listing cs y) : Agree cs x y := by
  induction cs with
  | nil => exact fun c hc => absurd hc List.not_mem_nil
  | cons c cs ih =>
    have hrest : listing cs x = listing cs y → Agree cs x y :=
      ih hnames.tail (fun h => hxy h.cons) (fun h => hyx h.cons)
    -- The column's own text and what is listed after it are compared one at a time.
    suffices hboth : cell? x c.2 = cell? y c.2 ∧ listing cs x = listing cs y from
      List.forall_mem_cons.mpr ⟨hboth.1, hrest hboth.2⟩
    cases hx : cell? x c.2 with
    | none =>
      cases hy : cell? y c.2 with
      | none => exact ⟨rfl, by rwa [listing_none hx, listing_none hy] at heq⟩
      | some w => exact absurd heq (listing_ne hnames hx hy)
    | some v =>
      cases hy : cell? y c.2 with
      | none => exact absurd heq.symm (listing_ne hnames hy hx)
      | some w =>
        rw [listing_some hx, listing_some hy] at heq
        simp only [listed, List.append_assoc, List.cons_append, List.nil_append,
          List.cons.injEq, true_and, List.append_cancel_left_eq] at heq
        obtain rfl := text_eq hx hy hxy hyx heq
        simpa using heq

end

/-! ## Series without a legend format -/

/-- Rows land in one series, which has the legend of both for its name. -/
def SameSeries (o : Options) (columns : List ResultColumn) (i j : Nat) (series : List Series)
    (x y : Row) : Prop :=
  ∃ s ∈ series, s.name = legendOf o columns i j x ∧ s.name = legendOf o columns i j y

section
variable {o : Options} {columns : List ResultColumn} {i j : Nat} {layout : TimeLayout}
  {timed : List Row} {series : List Series} {x y : Row}

/-- A row of the timeline lands in a series, so rows land in one series if they have one legend. -/
theorem Divides.sameSeries_iff (h : Divides o columns i j layout timed series) (hx : x ∈ timed) :
    SameSeries o columns i j series x y ↔ legendOf o columns i j x = legendOf o columns i j y := by
  constructor
  · intro hsame
    obtain ⟨s, -, hsx, hsy⟩ := hsame
    rw [← hsx, hsy]
  · intro heq
    have hname : legendOf o columns i j x ∈ series.map fun s => s.name := by
      rw [h.order, List.mem_eraseDups]
      exact List.mem_map_of_mem hx
    obtain ⟨s, hs, hsx⟩ := List.mem_map.mp hname
    exact ⟨s, hs, hsx, hsx.trans heq⟩

theorem legendOf_eq (haxes : Axes o columns i j layout) (hformat : o.legendFormat = "")
    (row : Row) : legendOf o columns i j row = listLabels (labelsIn (labelColumns o columns) row) := by
  rw [legendOf, labels_eq haxes, hformat, legend, if_pos rfl]

theorem Agree.legendOf_eq (haxes : Axes o columns i j layout) (hformat : o.legendFormat = "")
    (h : Agree (labelColumns o columns) x y) :
    legendOf o columns i j x = legendOf o columns i j y := by
  have hlabels : labelsIn (labelColumns o columns) x = labelsIn (labelColumns o columns) y := by
    apply List.filterMap_congr
    intro c hc
    rw [h c hc]
  rw [Frame.legendOf_eq haxes hformat, Frame.legendOf_eq haxes hformat, hlabels]

end

/-- **Labels tell rows apart.** Where series have no legend format, rows that agree on their labels
    land in one series. Where moreover the names of the label columns stand apart, rows of which
    neither can be mistaken for the other land in one series only if they agree. -/
theorem labels_tell_apart {o : Options} {r : ResultSet} {series : List Series}
    (h : toSeries o r = .ok series) (hformat : o.legendFormat = "") :
    ∃ i j layout timed, Axes o r.columns i j layout ∧ Timeline i layout r.rows timed ∧
      Divides o r.columns i j layout timed series ∧
      ∀ x ∈ timed, ∀ y ∈ timed,
        (Agree (labelColumns o r.columns) x y → SameSeries o r.columns i j series x y) ∧
        (StandApart (labelColumns o r.columns) →
          ¬ Mistakable (labelColumns o r.columns) x y →
          ¬ Mistakable (labelColumns o r.columns) y x →
          SameSeries o r.columns i j series x y → Agree (labelColumns o r.columns) x y) := by
  obtain ⟨i, j, layout, timed, haxes, htimed, hvalues, rfl⟩ := toSeries_ok h
  have hdivides : Divides o r.columns i j layout timed _ := divides_grouped htimed hvalues
  refine ⟨i, j, layout, timed, haxes, htimed, hdivides, ?_⟩
  intro x hx y _
  rw [hdivides.sameSeries_iff hx]
  constructor
  · intro hagree
    exact hagree.legendOf_eq haxes hformat
  · intro hnames hxy hyx heq
    rw [legendOf_eq haxes hformat, legendOf_eq haxes hformat] at heq
    exact agree_of_listing hnames hxy hyx (flatMap_listed_of_listLabels heq)

def byLabels : Options := { timestampColumn := "ts", valueColumn := "cpu" }

/-- Loads of hosts that have one label, the other, both, or a quotation mark in one. -/
def loads : ResultSet :=
  { columns := [⟨"ts", "timestamp"⟩, ⟨"host", "varchar"⟩, ⟨"dc", "varchar"⟩, ⟨"cpu", "double"⟩]
    rows :=
      [[some "2024-05-01 10:00:00", some "a", some "eu", some "1"],
       [some "2024-05-01 10:01:00", some "a", none, some "2"],
       [some "2024-05-01 10:02:00", none, some "eu", some "3"],
       [some "2024-05-01 10:03:00", some "a\"b", some "eu", some "4"],
       [some "2024-05-01 10:04:00", some "a", some "eu", some "5"]] }

def loadSeries : List Series :=
  [⟨"\x7bhost=\"a\",dc=\"eu\"\x7d",
     [(some (Binary64.ofInt 1), 1714557600000), (some (Binary64.ofInt 5), 1714557840000)]⟩,
   ⟨"\x7bhost=\"a\"\x7d", [(some (Binary64.ofInt 2), 1714557660000)]⟩,
   ⟨"\x7bdc=\"eu\"\x7d", [(some (Binary64.ofInt 3), 1714557720000)]⟩,
   ⟨"\x7bhost=\"a\"b\",dc=\"eu\"\x7d", [(some (Binary64.ofInt 4), 1714557780000)]⟩]

theorem labels_tell_apart_loads : toSeries byLabels loads = .ok loadSeries ∧
    byLabels.legendFormat = "" ∧ StandApart (labelColumns byLabels loads.columns) ∧
    ∃ i j layout timed, Axes byLabels loads.columns i j layout ∧
      Timeline i layout loads.rows timed ∧
      Divides byLabels loads.columns i j layout timed loadSeries ∧
      ∀ x ∈ timed, ∀ y ∈ timed,
        (Agree (labelColumns byLabels loads.columns) x y →
          SameSeries byLabels loads.columns i j loadSeries x y) ∧
        (StandApart (labelColumns byLabels loads.columns) →
          ¬ Mistakable (labelColumns byLabels loads.columns) x y →
          ¬ Mistakable (labelColumns byLabels loads.columns) y x →
          SameSeries byLabels loads.columns i j loadSeries x y →
          Agree (labelColumns byLabels loads.columns) x y) := by
  have htimed : timedRows 0 .timestamp loads.rows = .ok
      [(1714557600000, [some "2024-05-01 10:00:00", some "a", some "eu", some "1"]),
       (1714557660000, [some "2024-05-01 10:01:00", some "a", none, some "2"]),
       (1714557720000, [some "2024-05-01 10:02:00", none, some "eu", some "3"]),
       (1714557780000, [some "2024-05-01 10:03:00", some "a\"b", some "eu", some "4"]),
       (1714557840000, [some "2024-05-01 10:04:00", some "a", some "eu", some "5"])] := by
    decide +kernel
  have hseries : toSeries byLabels loads = .ok loadSeries := by
    rw [toSeries_of_rows (i := 0) (j := 3) (by decide +kernel) (by decide +kernel)
      (by decide +kernel) (rowsByTime_of_ordered htimed (by simp))]
    decide +kernel
  have hnames : StandApart (labelColumns byLabels loads.columns) :=
    ⟨by decide +kernel, by decide +kernel⟩
  exact ⟨hseries, rfl, hnames, labels_tell_apart hseries rfl⟩

/-- A text that reads like two labels. -/
def oneText : Row := [some "2024-05-01 10:00:00", some "1", some "1\",b=\"2", none]

def twoTexts : Row := [some "2024-05-01 10:01:00", some "3", some "1", some "2"]

def likeTwoLabels : ResultSet :=
  { columns := [⟨"ts", "timestamp"⟩, ⟨"cpu", "double"⟩, ⟨"a", "varchar"⟩, ⟨"b", "varchar"⟩]
    rows := [oneText, twoTexts] }

/-- A text in a column whose name reads like a label and a name. -/
def longName : Row := [some "2024-05-01 10:00:00", some "1", none, some "1", none]

def twoNames : Row := [some "2024-05-01 10:01:00", some "3", some "x", none, some "1"]

def likeLabelAndName : ResultSet :=
  { columns := [⟨"ts", "timestamp"⟩, ⟨"cpu", "double"⟩, ⟨"a", "varchar"⟩,
      ⟨"a=\"x\",b", "varchar"⟩, ⟨"b", "varchar"⟩]
    rows := [longName, twoNames] }

/-- Rows that disagree on their labels, in columns with distinct names, land in one series: where a
    text goes on like a label, and where a name does. -/
theorem labels_collide :
    ((labelColumns byLabels likeTwoLabels.columns).map (fun c => c.1.name) = ["a", "b"] ∧
      ¬ Agree (labelColumns byLabels likeTwoLabels.columns) oneText twoTexts ∧
      toSeries byLabels likeTwoLabels = .ok
        [⟨"\x7ba=\"1\",b=\"2\"\x7d",
          [(some (Binary64.ofInt 1), 1714557600000), (some (Binary64.ofInt 3), 1714557660000)]⟩]) ∧
    (labelColumns byLabels likeLabelAndName.columns).map (fun c => c.1.name) =
        ["a", "a=\"x\",b", "b"] ∧
      ¬ Agree (labelColumns byLabels likeLabelAndName.columns) longName twoNames ∧
      toSeries byLabels likeLabelAndName = .ok
        [⟨"\x7ba=\"x\",b=\"1\"\x7d",
          [(some (Binary64.ofInt 1), 1714557600000), (some (Binary64.ofInt 3), 1714557660000)]⟩] := by
  refine ⟨⟨by decide +kernel, by unfold Agree; decide +kernel, ?_⟩,
    by decide +kernel, by unfold Agree; decide +kernel, ?_⟩
  · have htimed : timedRows 0 .timestamp likeTwoLabels.rows = .ok
        [(1714557600000, oneText), (1714557660000, twoTexts)] := by decide +kernel
    rw [toSeries_of_rows (i := 0) (j := 1) (by decide +kernel) (by decide +kernel)
      (by decide +kernel) (rowsByTime_of_ordered htimed (by simp))]
    decide +kernel
  · have htimed : timedRows 0 .timestamp likeLabelAndName.rows = .ok
        [(1714557600000, longName), (1714557660000, twoNames)] := by decide +kernel
    rw [toSeries_of_rows (i := 0) (j := 1) (by decide +kernel) (by decide +kernel)
      (by decide +kernel) (rowsByTime_of_ordered htimed (by simp))]
    decide +kernel

end PanelSource.Frame
