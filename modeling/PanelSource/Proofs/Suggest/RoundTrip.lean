import PanelSource.Proofs.Suggest.Written

/- Reading what was written. -/
namespace PanelSource.Suggest
open Text Variable

/-! ## What follows the last argument -/

theorem closing_blank (b : Bool) {g : List Char} (hg : Blank g) : closing b g = some none := by
  unfold closing
  rw [stripStart_blank hg]

/-- A workgroup clause closes a call, up to the end of the workgroup. -/
theorem closing_clause {after gap t g : List Char} (ha : Blank after) (hgap : Blank gap)
    (ht : NamesWorkGroup t) (hg : Blank g) :
    closing true (after ++ ',' :: (gap ++ (t ++ g))) =
      some (some (after ++ ',' :: (gap ++ t))) := by
  have htoken : isWorkGroupToken (strip (gap ++ (t ++ g))) = true := by
    rw [strip_padded ht.bare hgap hg]
    exact isWorkGroupToken_iff.mpr ht
  have hend : stripEnd (after ++ ',' :: (gap ++ (t ++ g))) = after ++ ',' :: (gap ++ t) := by
    calc stripEnd (after ++ ',' :: (gap ++ (t ++ g)))
      _ = stripEnd ((after ++ ',' :: gap) ++ t ++ g) := by simp
      _ = (after ++ ',' :: gap) ++ t := by
        rw [stripEnd_append_blank _ hg, ht.bare.stripEnd_append]
      _ = after ++ ',' :: (gap ++ t) := by simp
  unfold closing
  rw [stripStart_blank_append ha, stripStart_cons rfl, hend]
  simp [htoken]

theorem closing_of_not_comma (b : Bool) {gap tail : List Char} {c : Char} (hgap : Blank gap)
    (hc : isBlank c = false) (hcomma : c ≠ ',') : closing b (gap ++ c :: tail) = none := by
  unfold closing
  rw [stripStart_blank_append hgap, stripStart_cons hc]
  split
  · rename_i h
    cases h
  · rename_i h
    cases h
    exact absurd rfl hcomma
  · rfl

theorem closing_of_not_names (b : Bool) {gap tail : List Char} (hgap : Blank gap)
    (h : ¬ NamesWorkGroup (strip tail)) : closing b (gap ++ ',' :: tail) = none := by
  have hfalse : isWorkGroupToken (strip tail) = false := by
    rw [← Bool.not_eq_true, isWorkGroupToken_iff]
    exact h
  unfold closing
  rw [stripStart_blank_append hgap, stripStart_cons rfl]
  simp [hfalse]

/-- A text that ends with something else than a blank does not begin what closes a call, unless it
    begins with a comma and the rest names a workgroup. -/
theorem closing_eq_none (b : Bool) {y tail : List Char} (hne : y ≠ [])
    (hlast : isBlank (y.getLast hne) = false)
    (h : ∀ gap r, Blank gap → Bare (',' :: r) → y = gap ++ ',' :: r →
      ¬ NamesWorkGroup (strip (r ++ tail))) :
    closing b (y ++ tail) = none := by
  obtain ⟨gap, s, hgap, hs, rfl⟩ := blank_append_bare hne hlast
  cases s with
  | nil => exact absurd rfl hs.ne_nil
  | cons c r =>
    rw [List.append_assoc, List.cons_append]
    by_cases hc : c = ','
    · subst hc
      exact closing_of_not_names b hgap (h gap r hgap hs rfl)
    · exact closing_of_not_comma b hgap hs.head hc

/-- No end of a text closes a call if a clause comes behind it: the workgroup would hold a comma. -/
theorem closing_before_comma (b : Bool) {y tail : List Char} (hne : y ≠ [])
    (hlast : isBlank (y.getLast hne) = false) (hcomma : ',' ∈ tail) :
    closing b (y ++ tail) = none := by
  refine closing_eq_none b hne hlast fun gap r _ _ _ hnames => ?_
  have hmem : ',' ∈ strip (r ++ tail) := mem_strip (List.mem_append_right r hcomma) rfl
  exact (hnames.mem ',' hmem).2 rfl

/-- No end of a pattern closes a call before blanks, if the pattern does not end in a clause. -/
theorem closing_before_blank (b : Bool) {p x y g : List Char} (hp : Bare p)
    (hclause : ¬ EndsInClause p) (hxy : p = x ++ y) (hx : x ≠ []) (hy : y ≠ []) (hg : Blank g) :
    closing b (y ++ g) = none := by
  subst hxy
  refine closing_eq_none b hy (hp.last_append hy) fun gap r hgap hs hyr hnames => ?_
  subst hyr
  by_cases hr : r = []
  · subst hr
    rw [List.nil_append, strip_blank hg] at hnames
    exact hnames.ne_nil rfl
  · have hrlast : isBlank (r.getLast hr) = false := by
      have := hs.last
      rwa [List.getLast_cons hr] at this
    obtain ⟨gap', t, hgap', ht, rfl⟩ := blank_append_bare hr hrlast
    rw [List.append_assoc, strip_padded ht hgap' hg] at hnames
    -- The part from this comma on is the clause that the pattern must not end in.
    apply hclause
    have hfront : x.head hx ∈ x ++ gap := List.mem_append_left gap (List.head_mem hx)
    exact ⟨x ++ gap, gap', t, by simp, ⟨_, hfront, hp.head_append hx⟩, hgap', hnames⟩

/-- A pattern that ends in a clause has a workgroup behind its last comma. -/
theorem EndsInClause.lastPart {cs : List Char} (h : EndsInClause cs) :
    isWorkGroupToken (strip (cs.reverse.takeWhile (· != ',')).reverse) = true := by
  obtain ⟨front, gap, t, rfl, -, hgap, ht⟩ := h
  have hno : ∀ c ∈ (gap ++ t).reverse, (c != ',') = true := by
    intro c hc
    rw [bne_iff_ne]
    rintro rfl
    rcases List.mem_append.mp (List.mem_reverse.mp hc) with h | h
    · exact absurd (hgap _ h) (by decide)
    · exact (ht.mem _ h).2 rfl
  have hpart : (front ++ ',' :: (gap ++ t)).reverse.takeWhile (· != ',') = (gap ++ t).reverse := by
    calc (front ++ ',' :: (gap ++ t)).reverse.takeWhile (· != ',')
      _ = ((gap ++ t).reverse ++ ',' :: front.reverse).takeWhile (· != ',') := by simp
      _ = (gap ++ t).reverse ++ (',' :: front.reverse).takeWhile (· != ',') :=
        List.takeWhile_append_of_pos hno
      _ = (gap ++ t).reverse := by simp
  have hstrip : strip (gap ++ t) = t := by
    simpa using strip_padded ht.bare hgap blank_nil
  rw [hpart, List.reverse_reverse, hstrip]
  exact isWorkGroupToken_iff.mpr ht

/-! ## Arguments -/

theorem isPlain_of_isBlank {c : Char} (h : isBlank c = true) : isPlain c = true := by
  have hne : ∀ d : Char, isBlank d = false → (c != d) = true := by
    intro d hd
    rw [bne_iff_ne]
    rintro rfl
    rw [h] at hd
    cases hd
  simp only [isPlain, Bool.and_eq_true]
  exact ⟨⟨hne ',' rfl, hne '(' rfl⟩, hne ')' rfl⟩

theorem token_padded {t before after : List Char} (ht : Bare t) (hb : Blank before)
    (ha : Blank after) : token (before ++ (t ++ after)) = String.ofList t := by
  unfold token
  rw [strip_padded ht hb ha]

theorem takeArgument_plain {plain rest : List Char} (hne : plain ≠ [])
    (hplain : ∀ c ∈ plain, isPlain c = true) :
    takeArgument (plain ++ ',' :: rest) = some (plain, rest) := by
  have hcomma : isPlain ',' = false := rfl
  unfold takeArgument
  rw [List.takeWhile_append_of_pos hplain, List.dropWhile_append_of_pos hplain]
  cases plain with
  | nil => exact absurd rfl hne
  | cons c r => simp [hcomma]

theorem takeArgument_padded (t : PlainToken) {before after rest : List Char} (hb : Blank before)
    (ha : Blank after) :
    takeArgument (before ++ (t.chars ++ after) ++ ',' :: rest) =
      some (before ++ (t.chars ++ after), rest) := by
  have hplain : ∀ c ∈ before ++ (t.chars ++ after), isPlain c = true := by
    intro c hc
    rcases List.mem_append.mp hc with h | h
    · exact isPlain_of_isBlank (hb c h)
    · rcases List.mem_append.mp h with h | h
      · exact t.plain c h
      · exact isPlain_of_isBlank (ha c h)
  exact takeArgument_plain (by simp [t.bare.ne_nil]) hplain

/-- A last argument without commas ends before the blanks behind it. -/
theorem lastPlain_padded (b : Bool) (t : PlainToken) {before tail : List Char}
    {clause : Option (List Char)} (hb : Blank before) (htail : Blank (tail.takeWhile isPlain))
    (hclose : closing b tail = some clause) :
    lastPlain b (before ++ (t.chars ++ tail)) = some (before ++ t.chars, clause) := by
  have htake : (before ++ (t.chars ++ tail)).takeWhile isPlain =
      (before ++ t.chars) ++ tail.takeWhile isPlain := by
    rw [List.takeWhile_append_of_pos fun c hc => isPlain_of_isBlank (hb c hc),
      List.takeWhile_append_of_pos t.plain, List.append_assoc]
  have hwithout : withoutBlanksAfter ((before ++ t.chars) ++ tail.takeWhile isPlain) =
      before ++ t.chars := by
    -- The token is not blank, so that the scan has something to take the blanks from.
    have hmem : t.chars.head t.bare.ne_nil ∈ (before ++ t.chars) ++ tail.takeWhile isPlain := by
      simp [List.head_mem]
    have hnot : ((before ++ t.chars) ++ tail.takeWhile isPlain).all isBlank = false := by
      rw [← Bool.not_eq_true, List.all_eq_true]
      intro hall
      have := hall _ hmem
      rw [t.bare.head] at this
      cases this
    unfold withoutBlanksAfter
    rw [hnot, stripEnd_append_blank _ htail, t.bare.stripEnd_append]
    rfl
  have hne : (before ++ t.chars) ++ tail.takeWhile isPlain ≠ [] := by simp [t.bare.ne_nil]
  unfold lastPlain
  rw [htake]
  split
  · rename_i h
    exact absurd h hne
  · rename_i c r h
    simp only [← h, hwithout]
    rw [← List.append_assoc, List.drop_left, hclose]
    rfl

/-! ## Names and parentheses -/

theorem dropFront_append (p rest : List Char) : dropFront p (p ++ rest) = some rest := by
  induction p with
  | nil => rfl
  | cons c p ih =>
    rw [List.cons_append, dropFront, if_pos rfl]
    exact ih

theorem dropClosing_concat (cs : List Char) : dropClosing (cs ++ [')']) = some cs := by
  simp [dropClosing]

/-! ## Calls of forms -/

namespace Form

theorem read_inner (f : Form) (inner : List Char) :
    f.read (f.function.toList ++ '(' :: (inner ++ [')'])) =
      readArguments f.takesWorkGroup {} f.arguments inner := by
  have hfront : f.function.toList ++ '(' :: (inner ++ [')']) =
      (f.function.toList ++ ['(']) ++ (inner ++ [')']) := by simp
  unfold Form.read
  rw [hfront, dropFront_append]
  simp only [Option.bind_eq_bind, Option.bind_some, dropClosing_concat]

/-- No form but its own reads a call: its name ends at the parenthesis. -/
theorem read_other {f g : Form} (hg : g ≠ f) (rest : List Char) :
    g.read (f.function.toList ++ '(' :: rest) = none := by
  cases f <;> cases g <;> first | exact absurd rfl hg | rfl

theorem bare_call (f : Form) (inner : List Char) :
    Bare (f.function.toList ++ '(' :: (inner ++ [')'])) := by
  have hname : ∃ c r, f.function.toList = c :: r ∧ isBlank c = false := by
    cases f <;> exact ⟨_, _, rfl, rfl⟩
  obtain ⟨c, r, hcr, hc⟩ := hname
  refine ⟨by simp, ?_, ?_⟩
  · simp [hcr, hc]
  · simp only [← List.cons_append, ← List.append_assoc, List.getLast_concat]
    rfl

end Form

/-! ## Written calls -/

namespace Written
variable (w : Written)

/-- What stands between an argument and the closing parenthesis if the argument is the last. -/
def tail (a : Argument) : List Char :=
  (w.after a).chars ++ (w.comma ++ w.beforeClosing.chars)

theorem closing_tail (a : Argument) :
    closing w.form.takesWorkGroup (w.tail a) =
      some (w.named.map fun _ => (w.after a).chars ++ w.comma) := by
  unfold tail comma
  cases hn : w.named with
  | none => exact closing_blank _ (blank_append (w.after a).blank w.beforeClosing.blank)
  | some t =>
    have htakes : w.form.takesWorkGroup = true := by
      unfold named at hn
      split at hn
      · assumption
      · cases hn
    have hassoc : ∀ g : List Char, ',' :: (w.beforeWorkGroup.chars ++ t.chars) ++ g =
        ',' :: (w.beforeWorkGroup.chars ++ (t.chars ++ g)) := by simp
    simp only [hassoc]
    rw [htakes, closing_clause (w.after a).blank w.beforeWorkGroup.blank t.names
      w.beforeClosing.blank]
    rfl

/-- The part of the tail before its first comma is blank. -/
theorem blank_tail (a : Argument) : Blank ((w.tail a).takeWhile isPlain) := by
  have hplain : ∀ (g : Gap), ∀ c ∈ g.chars, isPlain c = true :=
    fun g c hc => isPlain_of_isBlank (g.blank c hc)
  unfold tail comma
  rw [List.takeWhile_append_of_pos (hplain _)]
  cases w.named with
  | none =>
    rw [List.nil_append]
    apply blank_append (w.after a).blank
    intro c hc
    exact w.beforeClosing.blank c (List.takeWhile_subset _ hc)
  | some t =>
    have hcomma : isPlain ',' = false := rfl
    simp only [List.cons_append, List.takeWhile_cons, hcomma, Bool.false_eq_true, if_false,
      List.append_nil]
    exact (w.after a).blank

theorem bare_argument (a : Argument) : Bare (w.argument a) := by
  cases a with
  | region => exact w.region.bare
  | limit => exact w.limit.bare
  | pattern => exact w.pattern.bare

theorem token_argument (a : Argument) : token (w.argument a) = String.ofList (w.argument a) := by
  unfold token
  rw [(w.bare_argument a).strip_self]

end Written

theorem setArgument_congr (args : RawArguments) (a : Argument) {cs ds : List Char}
    (h : token cs = token ds) : setArgument args a cs = setArgument args a ds := by
  cases a <;> simp only [setArgument, h]

namespace Written
variable (w : Written)

theorem setArgument_padded (args : RawArguments) (a : Argument) :
    setArgument args a (w.padded a) = setArgument args a (w.argument a) := by
  apply setArgument_congr
  rw [token_argument]
  exact token_padded (w.bare_argument a) (w.before a).blank (w.after a).blank

/-- The last argument is read up to the blanks behind it, with the clause after them. -/
theorem readLast_tail (h : w.Unambiguous) (args : RawArguments) {a : Argument}
    (ha : a ∈ w.form.arguments) :
    readLast w.form.takesWorkGroup args a ((w.before a).chars ++ (w.argument a ++ w.tail a)) =
      some { setArgument args a (w.argument a) with
        workGroup := (w.named.map fun _ => (w.after a).chars ++ w.comma).map String.ofList } := by
  have hset : setArgument args a ((w.before a).chars ++ w.argument a) =
      setArgument args a (w.argument a) := by
    apply setArgument_congr
    rw [token_argument]
    simpa using token_padded (w.bare_argument a) (w.before a).blank blank_nil
  have hclose := w.closing_tail a
  unfold readLast
  cases a with
  | region =>
    simp only [argument] at hset ⊢
    rw [lastPlain_padded _ w.region (w.before .region).blank (w.blank_tail .region) hclose]
    simp only [Option.map_some, hset]
  | limit =>
    simp only [argument] at hset ⊢
    rw [lastPlain_padded _ w.limit (w.before .limit).blank (w.blank_tail .limit) hclose]
    simp only [Option.map_some, hset]
  | pattern =>
    simp only [argument, lastPattern]
    rw [frontAfterBlanks_append (w.before .pattern).blank w.pattern.bare w.pattern.oneLine hclose]
    · rfl
    · -- A shorter front would leave part of the pattern to the clause.
      intro x y hxy hx hy
      have hlast : isBlank (y.getLast hy) = false := by
        have hbare := w.pattern.bare
        rw [hxy] at hbare
        exact hbare.last_append hy
      unfold tail comma
      cases hn : w.named with
      | none =>
        rw [List.nil_append]
        exact closing_before_blank _ w.pattern.bare (h ha hn) hxy hx hy
          (blank_append (w.after .pattern).blank w.beforeClosing.blank)
      | some t =>
        apply closing_before_comma _ hy hlast
        simp

/-- An argument that is not the last is read up to its comma, unless it is a pattern. -/
theorem takeArgument_argument {a : Argument} (ha : a ≠ .pattern) (rest : List Char) :
    takeArgument (w.padded a ++ ',' :: rest) = some (w.padded a, rest) := by
  cases a with
  | region => exact takeArgument_padded w.region (w.before .region).blank (w.after .region).blank
  | limit => exact takeArgument_padded w.limit (w.before .limit).blank (w.after .limit).blank
  | pattern => exact absurd rfl ha

/-- The texts between the parentheses are read back, one argument after the other. The induction is
    on the arguments that are left; `args` holds those read so far. -/
theorem readArguments_padded (h : w.Unambiguous) :
    ∀ (as : List Argument) (args : RawArguments) (hne : as ≠ []),
    (∀ a ∈ as, a ∈ w.form.arguments) → .pattern ∉ as.dropLast →
    readArguments w.form.takesWorkGroup args as
      ([','].intercalate (as.map w.padded) ++ (w.comma ++ w.beforeClosing.chars)) =
      some { as.foldl (fun args a => setArgument args a (w.argument a)) args with
        workGroup := (w.named.map fun _ => (w.after (as.getLast hne)).chars ++ w.comma).map
          String.ofList } := by
  intro as
  induction as with
  | nil =>
    intro _ hne
    exact absurd rfl hne
  | cons a more ih =>
    intro args _ hmem hpattern
    cases more with
    | nil =>
      -- The last argument, with what closes the call behind it.
      have hlast := w.readLast_tail h args (hmem a List.mem_cons_self)
      simpa [readArguments, padded, tail] using hlast
    | cons b more =>
      -- Not the last, so that it is no pattern and ends at its comma.
      have ha : a ≠ .pattern := by
        rintro rfl
        exact hpattern List.mem_cons_self
      have hrest := ih (setArgument args a (w.argument a)) (by simp)
        (fun c hc => hmem c (List.mem_cons_of_mem a hc))
        (fun hc => hpattern (List.mem_cons_of_mem a hc))
      rw [List.map_cons, List.map_cons, List.intercalate_cons_cons, ← List.map_cons,
        List.append_assoc, List.append_assoc, List.singleton_append, readArguments,
        takeArgument_argument w ha]
      simp only
      rw [setArgument_padded, hrest]
      · rfl
      · rintro ⟨⟩

theorem lastGap_eq (hne : w.form.arguments ≠ []) :
    w.lastGap = (w.after (w.form.arguments.getLast hne)).chars := by
  unfold lastGap
  rw [List.getLast?_eq_some_getLast hne]
  rfl

theorem readArguments_inner (h : w.Unambiguous) :
    readArguments w.form.takesWorkGroup {} w.form.arguments w.inner = some w.rawArguments := by
  by_cases hne : w.form.arguments = []
  · -- Without arguments there is no workgroup either, only blanks.
    have hform : w.form = .regions := by
      revert hne
      cases w.form <;> simp [Form.arguments]
    have hnamed : w.named = none := by simp [named, hform, Form.takesWorkGroup]
    have hinner : w.inner = w.beforeClosing.chars := by
      simp [inner, comma, hnamed, hne]
    have hblank : w.beforeClosing.chars.all isBlank = true :=
      List.all_eq_true.mpr w.beforeClosing.blank
    rw [hne, hinner, readArguments, if_pos hblank]
    simp [rawArguments, declared, clause, hnamed, hne]
  · have hlast : Argument.pattern ∉ w.form.arguments.dropLast := by
      cases w.form <;> simp [Form.arguments]
    have hread := w.readArguments_padded h w.form.arguments {} hne (fun a ha => ha) hlast
    rw [inner, hread, ← w.lastGap_eq hne]
    simp only [rawArguments, clause, declared]
    cases w.form <;> simp [Form.arguments, setArgument, token_argument]

theorem read_call (h : w.Unambiguous) : w.form.read w.call = some w.rawArguments := by
  unfold call
  rw [Form.read_inner]
  exact w.readArguments_inner h

theorem read_call_other {g : Form} (hg : g ≠ w.form) : g.read w.call = none :=
  Form.read_other hg _

theorem bare_call : Bare w.call := w.form.bare_call w.inner

theorem strip_text : strip w.text.toList = w.call := by
  unfold text
  rw [String.toList_ofList]
  exact strip_padded w.bare_call w.lead.blank w.trail.blank

end Written

theorem parse_eq {query : String} {f : Form} {args : RawArguments}
    (hf : f.read (strip query.toList) = some args)
    (hother : ∀ g, g ≠ f → g.read (strip query.toList) = none) :
    parse query = some ⟨f, args⟩ := by
  unfold parse
  cases f <;> simp [Form.all, hf, hother]

/-- The workgroup is what a clause comes to without its comma and its blanks. -/
theorem clauseToken_clause {after gap t : List Char} (ha : Blank after) (hgap : Blank gap)
    (ht : NamesWorkGroup t) : clauseToken (after ++ ',' :: (gap ++ t)) = t := by
  -- All commas in front are dropped, of which there is only the one.
  have hfirst : ∀ c ∈ (gap ++ t).head?, (c == ',') = false := by
    intro c hc
    have hmem : c ∈ gap ++ t := List.mem_of_mem_head? hc
    rw [beq_eq_false_iff_ne]
    rintro rfl
    rcases List.mem_append.mp hmem with h | h
    · exact absurd (hgap _ h) (by decide)
    · exact (ht.mem _ h).2 rfl
  have hdrop : (gap ++ t).dropWhile (· == ',') = gap ++ t := by
    cases hgt : gap ++ t with
    | nil => rfl
    | cons c r =>
      have hc := hfirst c (by rw [hgt]; rfl)
      simp [hc]
  unfold clauseToken
  rw [stripStart_blank_append ha, stripStart_cons rfl, List.dropWhile_cons_of_pos rfl, hdrop]
  simpa using strip_padded ht.bare hgap blank_nil

/-- The workgroup of a call is found in its clause again. -/
theorem Written.clauseToken_workGroup (w : Written) :
    (w.rawArguments.workGroup.map fun clause => clauseToken clause.toList) =
      w.named.map (·.chars) := by
  have hgap : Blank w.lastGap := by
    unfold Written.lastGap
    cases w.form.arguments.getLast? with
    | none => exact blank_nil
    | some a => exact (w.after a).blank
  simp only [rawArguments, clause]
  cases hn : w.named with
  | none => rfl
  | some t =>
    simp only [Option.map_some, String.toList_ofList, comma, hn]
    rw [clauseToken_clause hgap w.beforeWorkGroup.blank t.names]

/-- **Reading undoes writing.** A written call is read as the form and the texts that were put in,
    with the workgroup clause as it is written; the workgroup is found in the clause again; and no
    other form reads the call. -/
theorem parse_text (w : Written) (h : w.Unambiguous) :
    parse w.text = some ⟨w.form, w.rawArguments⟩ ∧
      (w.rawArguments.workGroup.map fun clause => clauseToken clause.toList) =
        w.named.map (·.chars) ∧
      ∀ g, g ≠ w.form → g.read (strip w.text.toList) = none := by
  have hread : w.form.read (strip w.text.toList) = some w.rawArguments := by
    rw [w.strip_text]
    exact w.read_call h
  have hother : ∀ g, g ≠ w.form → g.read (strip w.text.toList) = none := by
    intro g hg
    rw [w.strip_text]
    exact w.read_call_other hg
  exact ⟨parse_eq hread hother, w.clauseToken_workGroup, hother⟩

/-- A call whose pattern has a comma in it, and no workgroup behind the pattern. -/
def countedCall : Written where
  form := .executionIds
  region :=
    ⟨"us-east-1".toList, ⟨by decide, by decide, by decide⟩, List.all_eq_true.mp (by decide)⟩
  limit := ⟨"10".toList, ⟨by decide, by decide, by decide⟩, List.all_eq_true.mp (by decide)⟩
  pattern := ⟨"(x|y)\x7b1,3\x7d".toList, ⟨by decide, by decide, by decide⟩, by decide⟩
  workGroup := none
  before := fun _ => ⟨[' '], by decide⟩
  after := fun _ => ⟨['\n', '\t'], by decide⟩
  beforeWorkGroup := ⟨[], blank_nil⟩
  beforeClosing := ⟨[' '], by decide⟩
  lead := ⟨[' '], by decide⟩
  trail := ⟨[], blank_nil⟩

theorem countedCall_unambiguous : countedCall.Unambiguous := by
  intro _ _ h
  exact absurd h.lastPart (by decide)

theorem parse_text_counted : countedCall.Unambiguous ∧
    parse countedCall.text = some ⟨countedCall.form, countedCall.rawArguments⟩ ∧
      (countedCall.rawArguments.workGroup.map fun clause => clauseToken clause.toList) =
        countedCall.named.map (·.chars) ∧
      ∀ g, g ≠ countedCall.form → g.read (strip countedCall.text.toList) = none :=
  ⟨countedCall_unambiguous, parse_text countedCall countedCall_unambiguous⟩

end PanelSource.Suggest
