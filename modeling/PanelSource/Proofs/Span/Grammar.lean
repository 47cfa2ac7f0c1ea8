import PanelSource.Proofs.Span

/- Which texts are spans, and what is wrong with the others.

   A text of runs is a span if they are sound numbers with known units in turn and their amounts are
   in range. Of any other text the run decides that is the first to be wrong, unless the amounts in
   front of it are already out of range (`Judged`). Blank text is zero and a bare whole number
   counts seconds; with these, `Reading` says what every text is read as (`read_eq_iff`). -/
namespace PanelSource.Span
open Number

/-! ## Numbers and units -/

/-- A number with a digit and at most one dot. -/
structure SoundNumber (r : List Char) : Prop where
  digit : ∃ c ∈ r, c.isDigit = true
  dots : r.count '.' ≤ 1

def KnownUnit (r : List Char) : Prop :=
  String.ofList r ∈ ["ns", "us", "µs", "ms", "s", "m", "h"]

/-- A run that is not wrong in itself. -/
structure Sound (r : List Char) : Prop where
  number : NumberRun r → SoundNumber r
  unit : UnitRun r → KnownUnit r

theorem exists_digits {r : List Char} (h : ∀ c ∈ r, NumberChar c) :
    ∃ ds rest, r = ds ++ rest ∧ Digits ds ∧ (rest = [] ∨ ∃ t, rest = '.' :: t) := by
  induction r with
  | nil => exact ⟨[], [], rfl, by simp [Digits], .inl rfl⟩
  | cons c r ih =>
    obtain ⟨hc, hr⟩ := List.forall_mem_cons.mp h
    rcases hc with hc | rfl
    · obtain ⟨ds, rest, rfl, hds, hrest⟩ := ih hr
      exact ⟨c :: ds, rest, rfl, List.forall_mem_cons.mpr ⟨hc, hds⟩, hrest⟩
    · exact ⟨[], '.' :: r, rfl, by simp [Digits], .inr ⟨r, rfl⟩⟩

theorem count_dot_digits {ds : List Char} (h : Digits ds) : ds.count '.' = 0 :=
  List.count_eq_zero.mpr fun hmem => absurd (h '.' hmem) (by decide)

theorem exists_digit_iff {ds : List Char} (h : Digits ds) :
    (∃ c ∈ ds, c.isDigit = true) ↔ ds ≠ [] := by
  constructor
  · rintro ⟨c, hc, -⟩
    exact List.ne_nil_of_mem hc
  · intro hne
    obtain ⟨c, cs, rfl⟩ := List.exists_cons_of_ne_nil hne
    exact ⟨c, List.mem_cons_self, h c List.mem_cons_self⟩

theorem soundNumber_digits_iff {ds : List Char} (h : Digits ds) : SoundNumber ds ↔ ds ≠ [] := by
  constructor
  · exact fun hsound => (exists_digit_iff h).mp hsound.digit
  · exact fun hne => ⟨(exists_digit_iff h).mpr hne, by simp [count_dot_digits h]⟩

/-- Digits around a dot are a sound number if there are any, and if no other dot follows them. -/
theorem soundNumber_point_iff {ds fs rest : List Char} (hds : Digits ds) (hfs : Digits fs)
    (hrest : rest = [] ∨ ∃ t, rest = '.' :: t) :
    SoundNumber (ds ++ '.' :: (fs ++ rest)) ↔ ¬ (ds = [] ∧ fs = []) ∧ rest = [] := by
  have hcount : (ds ++ '.' :: (fs ++ rest)).count '.' = rest.count '.' + 1 := by
    simp [count_dot_digits hds, count_dot_digits hfs]
  rcases hrest with rfl | ⟨t, rfl⟩
  · have hdigit : (∃ c ∈ ds ++ '.' :: (fs ++ []), c.isDigit = true) ↔ ¬ (ds = [] ∧ fs = []) := by
      have hboth : Digits (ds ++ fs) := List.forall_mem_append.mpr ⟨hds, hfs⟩
      rw [← List.append_eq_nil_iff, ← ne_eq, ← exists_digit_iff hboth]
      simp [or_and_right, exists_or]
    rw [and_iff_left rfl, ← hdigit]
    exact ⟨fun h => h.digit, fun h => ⟨h, by rw [hcount]; simp⟩⟩
  · -- A second dot is one too many, whatever the digits are.
    refine iff_of_false (fun h => ?_) (fun h => by simp at h)
    have hdots := h.dots
    rw [hcount, List.count_cons_self] at hdots
    omega

/-- A run of number characters is read if it is sound. -/
theorem readUnsigned_isSome_iff {r : List Char} (h : ∀ c ∈ r, NumberChar c) :
    (readUnsigned false r).isSome ↔ SoundNumber r := by
  obtain ⟨ds, rest, rfl, hds, rfl | ⟨t, rfl⟩⟩ := exists_digits h
  · rw [List.append_nil, readUnsigned_digits hds, soundNumber_digits_iff hds]
    split <;> simp_all
  · obtain ⟨fs, rest, rfl, hfs, hrest⟩ := exists_digits fun c hc =>
      h c (List.mem_append_right ds (List.mem_cons_of_mem _ hc))
    rw [readUnsigned_point hds hfs hrest, soundNumber_point_iff hds hfs hrest]
    split
    · rename_i hwrong
      simp only [Option.isSome_none, Bool.false_eq_true, false_iff]
      exact fun ⟨hsome, hnone⟩ => hwrong.elim hsome fun hne => hne hnone
    · rename_i hright
      obtain ⟨hsome, hnone⟩ := not_or.mp hright
      exact iff_of_true rfl ⟨hsome, not_not.mp hnone⟩

theorem readUnsigned_unitRun {r : List Char} (h : UnitRun r) : readUnsigned false r = none := by
  obtain ⟨c, cs, rfl⟩ := List.exists_cons_of_ne_nil h.ne_nil
  obtain ⟨hdigit, hdot⟩ := not_or.mp (h.chars c List.mem_cons_self)
  have hc : isDigit c = false := by rw [isDigit_eq]; simpa using hdigit
  unfold readUnsigned
  simp [hc, hdot]

theorem unitSeconds_isSome_iff {r : List Char} :
    (unitSeconds (String.ofList r)).isSome ↔ KnownUnit r := by
  unfold KnownUnit unitSeconds
  split <;> simp_all

/-! ## Sound pairs -/

/-- The span of a number and its unit. -/
def amount (number unit : List Char) : Option Span :=
  (readUnsigned false number).bind fun value =>
    (unitSeconds (String.ofList unit)).bind fun per => ofReal? (value.mul per)

/-- The nanoseconds of all numbers that stand before a unit, if each of them makes a span. -/
def nanoseconds : List (List Char) → Option Nat
  | number :: unit :: rest =>
    (amount number unit).bind fun part => (nanoseconds rest).map (part.total + ·)
  | _ => some 0

/-- The amounts are in range, each by itself and all together. -/
def AddsUp (rs : List (List Char)) (s : Span) : Prop := nanoseconds rs = some s.total

/-- Sound numbers with known units. -/
inductive SoundPairs : List (List Char) → Prop
  | nil : SoundPairs []
  | cons {number unit : List Char} {rest : List (List Char)} (hnumber : NumberRun number)
      (hsound : SoundNumber number) (hunit : KnownUnit unit) (h : SoundPairs rest) :
      SoundPairs (number :: unit :: rest)

theorem ofNanos?_eq_some_iff {n : Nat} {s : Span} : ofNanos? n = some s ↔ n = s.total := by
  unfold ofNanos?
  split
  · rename_i h
    rw [Option.some.injEq]
    exact ⟨fun heq => heq ▸ rfl, fun heq => total_inj heq⟩
  · rename_i h
    refine iff_of_false (by simp) fun heq => h ?_
    rw [heq]
    exact s.total_lt

theorem ofNanos?_eq_none {m n : Nat} (h : ofNanos? m = none) (hle : m ≤ n) : ofNanos? n = none := by
  unfold ofNanos? at h ⊢
  split at h
  · cases h
  · rename_i hm
    exact dif_neg fun hn => hm (Nat.lt_of_le_of_lt hle hn)

theorem addsUp_iff {rs : List (List Char)} {s : Span} :
    AddsUp rs s ↔ (nanoseconds rs).bind ofNanos? = some s := by
  simp only [AddsUp, Option.bind_eq_some_iff, ofNanos?_eq_some_iff, exists_eq_right]

section
variable {input : String} {number unit : List Char} {before rest : List (List Char)}

/-- A sound number with a known unit is added. -/
theorem readRuns_pair (hnumber : NumberRun number) (hsound : SoundNumber number)
    (hunit : KnownUnit unit) (sum : Span) :
    readRuns input sum (number :: unit :: rest) =
      match (amount number unit).bind sum.add? with
      | none => .error (.invalid input)
      | some next => readRuns input next rest := by
  obtain ⟨value, hvalue⟩ :=
    Option.isSome_iff_exists.mp ((readUnsigned_isSome_iff hnumber.chars).mpr hsound)
  obtain ⟨per, hper⟩ := Option.isSome_iff_exists.mp (unitSeconds_isSome_iff.mpr hunit)
  have hamount : amount number unit = ofReal? (value.mul per) := by
    simp only [amount, hvalue, hper, Option.bind_some]
  rw [hamount]
  cases hsum : (ofReal? (value.mul per)).bind sum.add? with
  | none => simp only [readRuns, hvalue, hper, hsum]
  | some next => simp only [readRuns, hvalue, hper, hsum]

/-- Sound pairs are read to the sum of their amounts, on which reading goes on. -/
theorem readRuns_soundPairs (h : SoundPairs before) (sum : Span) :
    readRuns input sum (before ++ rest) =
      match (nanoseconds before).bind fun n => ofNanos? (sum.total + n) with
      | none => .error (.invalid input)
      | some total => readRuns input total rest := by
  -- Each amount is added before the next pair is read, so the induction is over any sum.
  induction h generalizing sum with
  | nil =>
    have hsum : ofNanos? (sum.total + 0) = some sum := ofNanos?_eq_some_iff.mpr rfl
    simp only [List.nil_append, nanoseconds, Option.bind_some, hsum]
  | @cons number unit more hnumber hsound hunit _ ih =>
    rw [List.cons_append, List.cons_append, readRuns_pair hnumber hsound hunit, nanoseconds]
    cases hamount : amount number unit with
    | none => rfl
    | some part =>
      simp only [Option.bind_some, Option.bind_map, Function.comp_def]
      cases hnext : sum.add? part with
      | none =>
        -- The pairs that follow only add to what is out of range already.
        have hbeyond : ∀ n, ofNanos? (sum.total + (part.total + n)) = none := fun n =>
          ofNanos?_eq_none hnext (Nat.add_le_add_left (Nat.le_add_right _ _) _)
        simp [hbeyond]
      | some next =>
        have htotal : sum.total + part.total = next.total := ofNanos?_eq_some_iff.mp hnext
        simp only [← Nat.add_assoc, htotal]
        exact ih next

end

theorem zero_bind (n : Option Nat) :
    (n.bind fun n => ofNanos? (zero.total + n)) = n.bind ofNanos? := by
  simp [zero]

section
variable {input : String} {before rest : List (List Char)}

theorem readRuns_of_addsUp {s : Span} (h : SoundPairs before) (hs : AddsUp before s) :
    readRuns input zero (before ++ rest) = readRuns input s rest := by
  rw [readRuns_soundPairs h, zero_bind, addsUp_iff.mp hs]

theorem readRuns_of_beyond (h : SoundPairs before) (hs : ∀ s, ¬ AddsUp before s) :
    readRuns input zero (before ++ rest) = .error (.invalid input) := by
  have hnone : (nanoseconds before).bind ofNanos? = none :=
    Option.eq_none_iff_forall_ne_some.mpr fun s heq => hs s (addsUp_iff.mpr heq)
  rw [readRuns_soundPairs h, zero_bind, hnone]

theorem addsUp_concat (h : SoundPairs before) (number : List Char) (s : Span) :
    AddsUp (before ++ [number]) s ↔ AddsUp before s := by
  suffices hsame : nanoseconds (before ++ [number]) = nanoseconds before by
    rw [AddsUp, hsame, AddsUp]
  induction h with
  | nil => rfl
  | cons _ _ _ _ ih => rw [List.cons_append, List.cons_append, nanoseconds, ih, nanoseconds]

end

/-! ## What is wrong first -/

/-- Runs that begin with a number. -/
def NumberFirst (rs : List (List Char)) : Prop := ∃ r, rs.head? = some r ∧ NumberRun r

def UnitFirst (rs : List (List Char)) : Prop := ∃ r, rs.head? = some r ∧ UnitRun r

def UnitLast (rs : List (List Char)) : Prop := ∃ r, rs.getLast? = some r ∧ UnitRun r

structure WellFormed (rs : List (List Char)) : Prop where
  first : NumberFirst rs
  last : UnitLast rs
  sound : ∀ r ∈ rs, Sound r

/-- What is wrong with a run in front of others, and the error that says so. -/
inductive Defect (input : String) (r : List Char) (after : List (List Char)) : SpanError → Prop
  | unit (h : UnitRun r) (hunknown : ¬ KnownUnit r) :
      Defect input r after (.unknownUnit input (String.ofList r))
  | number (h : NumberRun r) (hunsound : ¬ SoundNumber r) : Defect input r after (.invalid input)
  | bare (h : NumberRun r) (hlast : after = []) : Defect input r after (.invalid input)

/-- The first run with a defect, what stands before it, and its error. -/
inductive FirstDefect (input : String) : List (List Char) → List (List Char) → SpanError → Prop
  | mk {before after : List (List Char)} {r : List Char} {e : SpanError}
      (hbefore : ∀ r ∈ before, Sound r) (h : Defect input r after e) :
      FirstDefect input (before ++ r :: after) before e

/-- What the runs of a text are read as. -/
inductive Judged (input : String) (rs : List (List Char)) : Except SpanError Span → Prop
  | sum {s : Span} (h : WellFormed rs) (hs : AddsUp rs s) : Judged input rs (.ok s)
  | beyond (h : WellFormed rs) (hs : ∀ s, ¬ AddsUp rs s) : Judged input rs (.error (.invalid input))
  | unitFirst (h : UnitFirst rs) : Judged input rs (.error (.invalid input))
  | defect {before : List (List Char)} {e : SpanError} {s : Span} (hfirst : NumberFirst rs)
      (h : FirstDefect input rs before e) (hs : AddsUp before s) : Judged input rs (.error e)
  /-- The amounts are out of range before anything is wrong. -/
  | beyondBefore {before : List (List Char)} {e : SpanError} (hfirst : NumberFirst rs)
      (h : FirstDefect input rs before e) (hs : ∀ s, ¬ AddsUp before s) :
      Judged input rs (.error (.invalid input))

/-- Numbers and units in turn, a number first. -/
inductive Paired : List (List Char) → Prop
  | nil : Paired []
  | last {number : List Char} (h : NumberRun number) : Paired [number]
  | cons {number unit : List Char} {rest : List (List Char)} (hnumber : NumberRun number)
      (hunit : UnitRun unit) (h : Paired rest) : Paired (number :: unit :: rest)

theorem paired_of_turns : ∀ {rs : List (List Char)}, (∀ r ∈ rs.head?, NumberRun r) →
    rs.IsChain Turns → Paired rs
  | [], _, _ => .nil
  | [number], hfirst, _ => .last (hfirst number rfl)
  | number :: unit :: rest, hfirst, hturns => by
    have hnumber : NumberRun number := hfirst number rfl
    obtain ⟨hpair, htail⟩ := List.isChain_cons_cons.mp hturns
    have hunit : UnitRun unit := hpair.elim (·.2) fun h => absurd h.1 hnumber.not_unitRun
    refine .cons hnumber hunit (paired_of_turns ?_ htail.tail)
    -- Behind the unit comes a number, if anything does.
    intro next hnext
    obtain ⟨more, rfl⟩ : ∃ more, rest = next :: more := by
      cases rest with
      | nil => cases hnext
      | cons a more => exact ⟨more, by cases hnext; rfl⟩
    have hturn := (List.isChain_cons_cons.mp htail).1
    exact hturn.elim (fun h => absurd hunit h.1.not_unitRun) (·.2)

theorem Cut.paired {cs : List Char} {rs : List (List Char)} (h : Cut cs rs)
    (hfirst : NumberFirst rs) : Paired rs := by
  obtain ⟨r, hr, hnumber⟩ := hfirst
  refine paired_of_turns (fun r' hr' => ?_) h.turns
  rw [hr] at hr'
  cases hr'
  exact hnumber

theorem Paired.soundPairs {rs : List (List Char)} (h : Paired rs) (hsound : ∀ r ∈ rs, Sound r)
    (hlast : ∀ r ∈ rs.getLast?, UnitRun r) : SoundPairs rs := by
  induction h with
  | nil => exact .nil
  | last hnumber => exact absurd (hlast _ rfl) hnumber.not_unitRun
  | cons hnumber hunit _ ih =>
    simp only [List.forall_mem_cons] at hsound
    obtain ⟨hsn, hsu, hrest⟩ := hsound
    refine .cons hnumber (hsn.number hnumber) (hsu.unit hunit) (ih hrest fun r hr => hlast r ?_)
    have hr : _ = some r := hr
    simp [List.getLast?_cons, hr]

/-- Sound runs before another one are pairs, and a number on top if that one is a unit. -/
theorem Paired.before {rs : List (List Char)} (h : Paired rs) :
    ∀ {before after : List (List Char)} {r : List Char}, rs = before ++ r :: after →
      (∀ r ∈ before, Sound r) →
      (NumberRun r ∧ SoundPairs before) ∨
        (UnitRun r ∧ ∃ pairs number, before = pairs ++ [number] ∧ SoundPairs pairs ∧
          NumberRun number ∧ SoundNumber number) := by
  induction h with
  | nil =>
    intro before after r heq
    simp at heq
  | @last number hnumber =>
    intro before after r heq _
    obtain ⟨rfl, rfl, -⟩ : before = [] ∧ r = number ∧ after = [] := by
      simpa [List.cons_eq_append_iff] using heq
    exact .inl ⟨hnumber, .nil⟩
  | @cons number unit rest hnumber hunit _ ih =>
    intro before after r heq hsound
    -- The given run is the number, the unit, or behind both of them.
    match before, heq, hsound with
    | [], heq, _ =>
      cases heq
      exact .inl ⟨hnumber, .nil⟩
    | [_], heq, hsound =>
      cases heq
      refine .inr ⟨hunit, [], number, rfl, .nil, hnumber, ?_⟩
      exact (hsound number List.mem_cons_self).number hnumber
    | _ :: _ :: more, heq, hsound =>
      cases heq
      simp only [List.forall_mem_cons] at hsound
      obtain ⟨hsn, hsu, hmore⟩ := hsound
      have hpair : ∀ {pairs}, SoundPairs pairs → SoundPairs (number :: unit :: pairs) :=
        .cons hnumber (hsn.number hnumber) (hsu.unit hunit)
      rcases ih rfl hmore with ⟨hr, hpairs⟩ | ⟨hr, pairs, n, rfl, hpairs, hn⟩
      · exact .inl ⟨hr, hpair hpairs⟩
      · exact .inr ⟨hr, number :: unit :: pairs, n, rfl, hpair hpairs, hn⟩

/-! ## The runs of a text -/

section
variable {input : String} {cs : List Char} {rs before : List (List Char)} {e : SpanError}
  {result : Except SpanError Span}

theorem readRuns_defect {r : List Char} {after : List (List Char)} (hnumber : NumberRun r)
    (h : Defect input r after e) (sum : Span) : readRuns input sum (r :: after) = .error e := by
  cases h with
  | unit hunit => exact absurd hunit hnumber.not_unitRun
  | number _ hunsound =>
    have hnone : readUnsigned false r = none :=
      Option.not_isSome_iff_eq_none.mp ((readUnsigned_isSome_iff hnumber.chars).not.mpr hunsound)
    cases after with
    | nil => rfl
    | cons unit rest => simp only [readRuns, hnone]
  | bare _ hlast =>
    subst hlast
    rfl

theorem readRuns_unknown {number unit : List Char} {after : List (List Char)}
    (hnumber : NumberRun number) (hsound : SoundNumber number) (hunit : UnitRun unit)
    (h : Defect input unit after e) (sum : Span) :
    readRuns input sum (number :: unit :: after) = .error e := by
  cases h with
  | unit _ hunknown =>
    obtain ⟨value, hvalue⟩ :=
      Option.isSome_iff_exists.mp ((readUnsigned_isSome_iff hnumber.chars).mpr hsound)
    have hnone : unitSeconds (String.ofList unit) = none :=
      Option.not_isSome_iff_eq_none.mp (unitSeconds_isSome_iff.not.mpr hunknown)
    simp only [readRuns, hvalue, hnone]
  | number h => exact absurd hunit h.not_unitRun
  | bare h => exact absurd hunit h.not_unitRun

/-- Where a defect is the first, the amounts before it decide whether it is reached. -/
theorem readRuns_firstDefect (hpaired : Paired rs) (h : FirstDefect input rs before e) :
    (∀ s, AddsUp before s → readRuns input zero rs = .error e) ∧
      ((∀ s, ¬ AddsUp before s) → readRuns input zero rs = .error (.invalid input)) := by
  obtain @⟨before, after, r, e, hbefore, hdefect⟩ := h
  rcases hpaired.before rfl hbefore with
    ⟨hnumber, hpairs⟩ | ⟨hunit, pairs, number, rfl, hpairs, hnumber, hsound⟩
  · refine ⟨fun s hs => ?_, readRuns_of_beyond hpairs⟩
    rw [readRuns_of_addsUp hpairs hs]
    exact readRuns_defect hnumber hdefect s
  · -- The number in front of the unit is not counted before the unit is known.
    simp only [addsUp_concat hpairs, List.append_assoc, List.singleton_append]
    refine ⟨fun s hs => ?_, readRuns_of_beyond hpairs⟩
    rw [readRuns_of_addsUp hpairs hs]
    exact readRuns_unknown hnumber hsound hunit hdefect s

theorem WellFormed.soundPairs (hcut : Cut cs rs) (h : WellFormed rs) : SoundPairs rs := by
  obtain ⟨r, hr, hunit⟩ := h.last
  refine (hcut.paired h.first).soundPairs h.sound fun r' hr' => ?_
  rw [hr] at hr'
  cases hr'
  exact hunit

theorem Judged.readRuns_eq (hcut : Cut cs rs) (h : Judged input rs result) :
    readRuns input zero rs = result := by
  cases h with
  | sum h hs =>
    have hread := @readRuns_of_addsUp input rs [] _ (h.soundPairs hcut) hs
    rw [List.append_nil] at hread
    exact hread
  | beyond h hs =>
    have hread := @readRuns_of_beyond input rs [] (h.soundPairs hcut) hs
    rw [List.append_nil] at hread
    exact hread
  | unitFirst h =>
    obtain ⟨r, hr, hunit⟩ := h
    obtain ⟨after, rfl⟩ := List.head?_eq_some_iff.mp hr
    cases after with
    | nil => rfl
    | cons number rest => simp only [readRuns, readUnsigned_unitRun hunit]
  | defect hfirst h hs => exact (readRuns_firstDefect (hcut.paired hfirst) h).1 _ hs
  | beyondBefore hfirst h hs => exact (readRuns_firstDefect (hcut.paired hfirst) h).2 hs

/-- Runs are all sound, or there is a first one that is not. -/
theorem sound_or_first (rs : List (List Char)) : (∀ r ∈ rs, Sound r) ∨
    ∃ before r after, rs = before ++ r :: after ∧ (∀ r ∈ before, Sound r) ∧ ¬ Sound r := by
  induction rs with
  | nil => exact .inl (by simp)
  | cons r rs ih =>
    by_cases hr : Sound r
    · rcases ih with hall | ⟨before, r', after, rfl, hbefore, hr'⟩
      · exact .inl (List.forall_mem_cons.mpr ⟨hr, hall⟩)
      · exact .inr ⟨r :: before, r', after, rfl, List.forall_mem_cons.mpr ⟨hr, hbefore⟩, hr'⟩
    · exact .inr ⟨[], r, rs, rfl, by simp, hr⟩

theorem exists_defect {r : List Char} (hkind : NumberRun r ∨ UnitRun r) (h : ¬ Sound r)
    (after : List (List Char)) : ∃ e, Defect input r after e := by
  rcases hkind with hnumber | hunit
  · refine ⟨_, .number hnumber fun hsound => h ⟨fun _ => hsound, fun hunit => ?_⟩⟩
    exact absurd hunit hnumber.not_unitRun
  · refine ⟨_, .unit hunit fun hknown => h ⟨fun hnumber => ?_, fun _ => hknown⟩⟩
    exact absurd hunit hnumber.not_unitRun

/-- Runs that begin with a number are well-formed, or one of them is the first with a defect. -/
theorem wellFormed_or_firstDefect (hcut : Cut cs rs) (hfirst : NumberFirst rs) :
    WellFormed rs ∨ ∃ before e, FirstDefect input rs before e := by
  rcases sound_or_first rs with hsound | ⟨before, r, after, rfl, hbefore, hr⟩
  · -- Sound runs can only be wrong at their end, where a number has no unit.
    obtain ⟨front, last, rfl⟩ : ∃ front last, rs = front ++ [last] := by
      obtain ⟨r, hr, -⟩ := hfirst
      exact ⟨_, _, (List.dropLast_concat_getLast (List.ne_nil_of_mem (List.mem_of_head? hr))).symm⟩
    rcases hcut.kinds last (by simp) with hnumber | hunit
    · have hfront : ∀ r ∈ front, Sound r := fun r hr => hsound r (List.mem_append_left _ hr)
      exact .inr ⟨front, _, .mk hfront (.bare hnumber rfl)⟩
    · exact .inl ⟨hfirst, ⟨last, by simp, hunit⟩, hsound⟩
  · obtain ⟨e, he⟩ := @exists_defect input r (hcut.kinds r (by simp)) hr after
    exact .inr ⟨before, e, .mk hbefore he⟩

/-- Something is said of all runs of a text. -/
theorem exists_judged (hcut : Cut cs rs) (hne : cs ≠ []) : ∃ result, Judged input rs result := by
  obtain ⟨r, rest, rfl⟩ : ∃ r rest, rs = r :: rest := by
    apply List.exists_cons_of_ne_nil
    rintro rfl
    exact hne hcut.flatten.symm
  -- Only where a number comes first does it matter what follows.
  rcases hcut.kinds r List.mem_cons_self with hnumber | hunit
  · have hfirst : NumberFirst (r :: rest) := ⟨r, rfl, hnumber⟩
    rcases @wellFormed_or_firstDefect input _ _ hcut hfirst with h | ⟨before, e, h⟩
    · by_cases hs : ∃ s, AddsUp (r :: rest) s
      · exact ⟨_, .sum h hs.choose_spec⟩
      · exact ⟨_, .beyond h fun s heq => hs ⟨s, heq⟩⟩
    · by_cases hs : ∃ s, AddsUp before s
      · exact ⟨_, .defect hfirst h hs.choose_spec⟩
      · exact ⟨_, .beyondBefore hfirst h fun s heq => hs ⟨s, heq⟩⟩
  · exact ⟨_, .unitFirst ⟨r, rfl, hunit⟩⟩

end

/-! ## Whole texts -/

/-- A text is a number of whole seconds that a span can have. -/
def BareSeconds (cs : List Char) (n : Nat) : Prop := Typed cs n ∧ n < twoTo 64

/-- What a text is read as. -/
inductive Reading (input : String) : Except SpanError Span → Prop
  | blank (h : Text.Blank input.toList) : Reading input (.ok zero)
  | seconds {n : Nat} {s : Span} (h : BareSeconds (Text.strip input.toList) n)
      (hs : s.total = n * 1000000000) : Reading input (.ok s)
  | runs {rs : List (List Char)} {result : Except SpanError Span}
      (hblank : ¬ Text.Blank input.toList)
      (hseconds : ∀ n, ¬ BareSeconds (Text.strip input.toList) n)
      (hcut : Cut (Text.strip input.toList) rs) (h : Judged input rs result) : Reading input result

theorem bareSeconds_iff {cs : List Char} {s : Span} :
    (readNatural uint64Max cs).toOption.bind ofSeconds? = some s ↔
      ∃ n, BareSeconds cs n ∧ s.total = n * 1000000000 := by
  have hread : ∀ n, (readNatural uint64Max cs).toOption = some n ↔ BareSeconds cs n := by
    intro n
    have hbound : n ≤ uint64Max ↔ n < twoTo 64 := Nat.le_sub_one_iff_lt (by decide)
    rw [BareSeconds, ← hbound, ← readNatural_eq_ok_iff]
    cases readNatural uint64Max cs <;> simp [Except.toOption]
  simp only [Option.bind_eq_some_iff, hread, ofSeconds?, ofNanos?_eq_some_iff]
  simp only [eq_comm]

theorem bareSeconds_none_iff {cs : List Char} :
    (readNatural uint64Max cs).toOption.bind ofSeconds? = none ↔ ∀ n, ¬ BareSeconds cs n := by
  simp only [Option.eq_none_iff_forall_ne_some, ne_eq, bareSeconds_iff, not_exists, not_and]
  constructor
  · intro h n hn
    exact h (ofSeconds n hn.2) n hn rfl
  · intro h s n hn
    exact absurd hn (h n)

theorem read_of_not_blank {input : String} (h : ¬ Text.Blank input.toList) : read input =
    match (readNatural uint64Max (Text.strip input.toList)).toOption.bind ofSeconds? with
    | some s => .ok s
    | none => readRuns input zero (runs (Text.strip input.toList)) := by
  have hne : Text.strip input.toList ≠ [] := fun hnil => h (Text.strip_eq_nil_iff.mp hnil)
  unfold read
  split
  · rename_i hnil
    exact absurd hnil hne
  · rfl

theorem Reading.read_eq {input : String} {result : Except SpanError Span}
    (h : Reading input result) : read input = result := by
  cases h with
  | blank hblank =>
    unfold read
    rw [Text.strip_blank hblank]
  | @seconds n s hn hs =>
    have hblank : ¬ Text.Blank input.toList := fun h => hn.1.ne_nil (Text.strip_blank h)
    rw [read_of_not_blank hblank, bareSeconds_iff.mpr ⟨n, hn, hs⟩]
  | runs hblank hseconds hcut hjudged =>
    rw [read_of_not_blank hblank, bareSeconds_none_iff.mpr hseconds, ← cut_iff.mp hcut]
    exact hjudged.readRuns_eq hcut

theorem exists_reading (input : String) : ∃ result, Reading input result := by
  by_cases hblank : Text.Blank input.toList
  · exact ⟨_, .blank hblank⟩
  · by_cases hseconds : ∃ n, BareSeconds (Text.strip input.toList) n
    · obtain ⟨n, hn⟩ := hseconds
      exact ⟨_, @Reading.seconds input n (ofSeconds n hn.2) hn rfl⟩
    · have hne : Text.strip input.toList ≠ [] := fun hnil => hblank (Text.strip_eq_nil_iff.mp hnil)
      have hcut : Cut (Text.strip input.toList) (runs (Text.strip input.toList)) := cut_iff.mpr rfl
      obtain ⟨result, h⟩ := @exists_judged input _ _ hcut hne
      exact ⟨result, .runs hblank (fun n hn => hseconds ⟨n, hn⟩) hcut h⟩

/-- **Every text is read as its grammar says.** Blank text is zero, and a number of whole seconds is
    that many. Any other text is cut in one way into runs of digits and dots and of all other
    characters, between characters and into no more runs than there are characters. It is a span
    only if these are sound numbers with known units in turn, and then it is their sum unless that
    is out of range; otherwise the first defect decides, unless the amounts before it are out of
    range. -/
theorem read_iff_reading (input : String) :
    (∀ result, read input = result ↔ Reading input result) ∧
    ∃ rs, (∀ other, Cut (Text.strip input.toList) other ↔ other = rs) ∧
      rs.length ≤ (Text.strip input.toList).length ∧
      ∀ before after, rs = before ++ after →
        (String.ofList before.flatten).rawEndPos.IsValid
          (String.ofList (Text.strip input.toList)) := by
  refine ⟨fun result => ⟨?_, Reading.read_eq⟩, runs (Text.strip input.toList), fun _ => cut_iff,
    (cut_iff.mpr rfl).length_le, fun before after hruns => (cut_iff.mpr hruns.symm).isValid⟩
  rintro rfl
  obtain ⟨result, h⟩ := exists_reading input
  rwa [h.read_eq]

/-- An unknown unit is named in front of a malformed number, and blanks belong to units. -/
example : read "5m 1..h" = .error (.unknownUnit "5m 1..h" "m ") := by decide +kernel

end PanelSource.Span
