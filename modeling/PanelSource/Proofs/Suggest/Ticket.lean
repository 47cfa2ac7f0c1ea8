import Mathlib.Data.List.Induction
import PanelSource.Suggest.Finder

/- An answer that was overtaken never wins.

   `Run es s` says that a sequencer came to be `s` through the events `es`: tickets that were
   issued, and answers that were settled, each for a ticket issued before it, in any order and as
   often as one likes. A field's number counts the tickets issued on it (`Run.get?_eq`), so that a
   ticket is current until the next one on its field (`Run.isCurrent_iff`). A lookup on behalf of a
   field is two events of a run, with whatever happens in between (`run_findFor`). All of this holds
   as long as no field runs out of numbers. -/
namespace PanelSource.Suggest

/-- What happens to a sequencer. -/
inductive Event : Type 1 where
  | issued (t : Ticket)
  | settled {ε α : Type} (t : Ticket) (result : Except ε α) (outcome : Except ε (Settled α))

/-- Whether an event issues a ticket on a field. -/
def Event.begins (field : String) : Event → Bool
  | .issued t => t.field == field
  | .settled .. => false

/-- How many tickets were issued on a field. -/
def begins (field : String) (es : List Event) : Nat := es.countP (Event.begins field)

/-- Whether an answer was discarded. -/
def isStale {ε α : Type} : Except ε (Settled α) → Bool
  | .ok .stale => true
  | _ => false

/-- The number of the ticket on a field whose answer an event accepts. -/
def Event.accepted? (field : String) : Event → Option UInt64
  | .issued _ => none
  | .settled t _ outcome => if t.field = field ∧ isStale outcome = false then some t.seq else none

/-- The numbers of the tickets on a field whose answers were accepted, in the order of that. -/
def accepted (field : String) (es : List Event) : List UInt64 :=
  es.filterMap (Event.accepted? field)

/-- The sequencers that are in use, with all that happened to them, the first event first. -/
inductive Run : List Event → Sequencer → Prop
  | start : Run [] .empty
  | issue {es : List Event} {s : Sequencer} (h : Run es s) (field : String) :
      Run (es ++ [.issued (s.issue field).1]) (s.issue field).2
  | settle {ε α : Type} {es : List Event} {s : Sequencer} {t : Ticket} (h : Run es s)
      (ht : .issued t ∈ es) (result : Except ε α) :
      Run (es ++ [.settled t result (s.settle t result)]) s

/-! ## Counting tickets -/

section
variable {field : String} {es more : List Event} {s : Sequencer} {t : Ticket}

theorem begins_append : begins field (es ++ more) = begins field es + begins field more :=
  List.countP_append

theorem begins_issued : begins field [.issued t] = if t.field = field then 1 else 0 := by
  simp [begins, Event.begins, List.countP_cons]

theorem begins_settled {ε α : Type} {result : Except ε α} {outcome : Except ε (Settled α)} :
    begins field [.settled t result outcome] = 0 := rfl

theorem begins_le_length : begins field es ≤ es.length := List.countP_le_length

@[simp] theorem field_issue : (s.issue field).1.field = field := rfl

theorem lookup_filter_ne {l : List (String × UInt64)} {other : String} (h : other ≠ field) :
    (l.filter fun e => e.1 != field).lookup other = l.lookup other := by
  induction l with
  | nil => rfl
  | cons e l ih =>
    obtain ⟨k, n⟩ := e
    by_cases hk : k = field
    · subst hk
      have hother : (other == k) = false := by simpa using h
      simp [ih, List.lookup_cons, hother]
    · simp [hk, ih, List.lookup_cons]

theorem get?_issue (other : String) : (s.issue field).2.get? other =
    if other = field then some ((s.get? field).getD 0 + 1) else s.get? other := by
  unfold Sequencer.issue Sequencer.get?
  by_cases h : other = field
  · subst h
    simp
  · have hother : (other == field) = false := by simpa using h
    simp [List.lookup_cons, hother, h, lookup_filter_ne h]

/-- The number of a field after so many tickets. -/
def numberAfter (n : Nat) : Option UInt64 := if n = 0 then none else some (UInt64.ofNat n)

theorem getD_numberAfter (n : Nat) : (numberAfter n).getD 0 + 1 = UInt64.ofNat (n + 1) := by
  unfold numberAfter
  rw [UInt64.ofNat_add]
  by_cases h : n = 0
  · rw [if_pos h, h]
    rfl
  · rw [if_neg h]
    rfl

/-- **The number of a field is the number of tickets issued on it.** -/
theorem Run.get?_eq (h : Run es s) (field : String) :
    s.get? field = numberAfter (begins field es) := by
  induction h with
  | start => rfl
  | @issue es s h issued ih =>
    rw [get?_issue, begins_append, begins_issued, field_issue]
    by_cases heq : field = issued
    · subst heq
      rw [if_pos rfl, if_pos rfl, ih, getD_numberAfter]
      rfl
    · rw [if_neg heq, if_neg (Ne.symm heq), Nat.add_zero]
      exact ih
  | settle h ht result ih =>
    rw [begins_append, begins_settled, Nat.add_zero]
    exact ih

end

/-! ## Runs up to an event -/

section
variable {es more : List Event} {s : Sequencer} {t : Ticket}

theorem Run.of_concat {e : Event} (h : Run (es ++ [e]) s) :
    ∃ s', Run es s' ∧
      ((∃ field, e = .issued (s'.issue field).1 ∧ s = (s'.issue field).2) ∨
        (s = s' ∧ ∃ (ε α : Type) (t : Ticket) (result : Except ε α), .issued t ∈ es ∧
          e = .settled t result (s'.settle t result))) := by
  generalize hall : es ++ [e] = all at h
  cases h with
  | start => simp at hall
  | issue h field =>
    obtain ⟨rfl, rfl⟩ := List.append_inj' hall rfl |>.imp id (List.singleton_inj.mp)
    exact ⟨_, h, .inl ⟨field, rfl, rfl⟩⟩
  | settle h ht result =>
    obtain ⟨rfl, rfl⟩ := List.append_inj' hall rfl |>.imp id (List.singleton_inj.mp)
    exact ⟨_, h, .inr ⟨rfl, _, _, _, result, ht, rfl⟩⟩

theorem Run.left (h : Run (es ++ more) s) : ∃ s', Run es s' := by
  induction more using List.reverseRecOn generalizing s with
  | nil => exact ⟨s, by simpa using h⟩
  | append_singleton more e ih =>
    rw [← List.append_assoc] at h
    obtain ⟨s', h', -⟩ := h.of_concat
    exact ih h'

theorem Run.issued (h : Run (es ++ [.issued t]) s) :
    ∃ s', Run es s' ∧ t = (s'.issue t.field).1 ∧ s = (s'.issue t.field).2 := by
  obtain ⟨s', h', ⟨field, he, hs⟩ | ⟨-, _, _, _, _, -, he⟩⟩ := h.of_concat
  · cases he
    exact ⟨s', h', rfl, hs⟩
  · cases he

theorem Run.settled {ε α : Type} {result : Except ε α} {outcome : Except ε (Settled α)}
    (h : Run (es ++ [.settled t result outcome]) s) :
    Run es s ∧ .issued t ∈ es ∧ outcome = s.settle t result := by
  obtain ⟨s', h', ⟨field, he, -⟩ | ⟨rfl, _, _, _, _, ht, he⟩⟩ := h.of_concat
  · cases he
  · cases he
    exact ⟨h', ht, rfl⟩

/-! ## Current tickets -/

/-- A ticket has the number of tickets on its field, itself included. -/
theorem Run.seq_eq {earlier later : List Event} (h : Run (earlier ++ .issued t :: later) s) :
    t.seq = UInt64.ofNat (begins t.field earlier + 1) := by
  -- Up to the ticket itself the run is one in which it was the last to be issued.
  rw [List.append_cons] at h
  obtain ⟨_, hissued⟩ := h.left
  obtain ⟨s', h', ht, -⟩ := hissued.issued
  have hseq : t.seq = (s'.get? t.field).getD 0 + 1 := by
    rw [ht]
    rfl
  rw [hseq, h'.get?_eq, getD_numberAfter]

theorem toNat_ofNat {n : Nat} (h : n < UInt64.size) : (UInt64.ofNat n).toNat = n :=
  UInt64.toNat_ofNat_of_lt' h

/-- Numbers within the limit tell how many tickets there are. -/
theorem numberAfter_eq_iff {n m : Nat} (hn : n < UInt64.size) (hm : m + 1 < UInt64.size) :
    numberAfter n = some (UInt64.ofNat (m + 1)) ↔ n = m + 1 := by
  unfold numberAfter
  by_cases h : n = 0
  · subst h
    simp
  · rw [if_neg h, Option.some_inj, ← UInt64.toNat_inj, toNat_ofNat hn, toNat_ofNat hm]

/-- A ticket is current until the next one is issued on its field. -/
theorem Run.isCurrent_iff {earlier later : List Event}
    (h : Run (earlier ++ .issued t :: later) s)
    (hfew : begins t.field (earlier ++ .issued t :: later) < UInt64.size) :
    s.isCurrent t = true ↔ begins t.field later = 0 := by
  have hcount : begins t.field (earlier ++ .issued t :: later) =
      begins t.field earlier + 1 + begins t.field later := by
    calc begins t.field (earlier ++ .issued t :: later)
      _ = begins t.field (earlier ++ [.issued t] ++ later) := by rw [List.append_cons]
      _ = begins t.field earlier + begins t.field [.issued t] + begins t.field later := by
        rw [begins_append, begins_append]
      _ = begins t.field earlier + 1 + begins t.field later := by rw [begins_issued, if_pos rfl]
  -- Two counts below the limit are the same number only if they are equal.
  rw [hcount] at hfew
  unfold Sequencer.isCurrent
  rw [beq_iff_eq, h.get?_eq, h.seq_eq, hcount, numberAfter_eq_iff hfew (by omega)]
  omega

theorem Run.toNat_seq (h : Run es s) (hfew : begins t.field es < UInt64.size)
    (hcur : s.isCurrent t = true) : t.seq.toNat = begins t.field es := by
  unfold Sequencer.isCurrent at hcur
  rw [beq_iff_eq, h.get?_eq] at hcur
  unfold numberAfter at hcur
  split at hcur
  · cases hcur
  · rw [← Option.some_inj.mp hcur, toNat_ofNat hfew]

/-- What becomes of an answer depends on the tickets issued on its field since. -/
theorem Run.settle_eq {ε α : Type} {earlier later : List Event}
    (h : Run (earlier ++ .issued t :: later) s)
    (hfew : begins t.field (earlier ++ .issued t :: later) < UInt64.size) (result : Except ε α) :
    s.settle t result = if begins t.field later = 0 then result.map .current else .ok .stale := by
  unfold Sequencer.settle
  simp only [h.isCurrent_iff hfew]

theorem map_current_ne_stale {ε α : Type} (result : Except ε α) :
    result.map Settled.current ≠ .ok .stale := by
  intro h
  cases result with
  | error e => cases h
  | ok a => cases h

theorem settle_iff {ε α : Type} {result : Except ε α} {outcome : Except ε (Settled α)} {n : Nat}
    (h : outcome = if n = 0 then result.map .current else .ok .stale) :
    (outcome = result.map .current ↔ n = 0) ∧ (outcome = .ok .stale ↔ n ≠ 0) := by
  subst h
  by_cases hn : n = 0
  · rw [if_pos hn]
    exact ⟨⟨fun _ => hn, fun _ => rfl⟩, ⟨fun h => (map_current_ne_stale result h).elim,
      fun h => (h hn).elim⟩⟩
  · rw [if_neg hn]
    exact ⟨⟨fun h => (map_current_ne_stale result h.symm).elim, fun h => (hn h).elim⟩,
      ⟨fun _ => hn, fun _ => rfl⟩⟩

/-- The outcome of an answer depends on the tickets issued on its field in between. -/
theorem Run.outcome_iff {ε α : Type} {earlier later after : List Event} {result : Except ε α}
    {outcome : Except ε (Settled α)}
    (h : Run (earlier ++ .issued t :: (later ++ .settled t result outcome :: after)) s)
    (hfew : begins t.field
      (earlier ++ .issued t :: (later ++ .settled t result outcome :: after)) < UInt64.size) :
    (outcome = result.map .current ↔ begins t.field later = 0) ∧
      (outcome = .ok .stale ↔ begins t.field later ≠ 0) := by
  have hsplit : earlier ++ .issued t :: (later ++ .settled t result outcome :: after) =
      (earlier ++ .issued t :: later ++ [.settled t result outcome]) ++ after := by
    simp
  rw [hsplit] at h hfew
  rw [begins_append, begins_append] at hfew
  obtain ⟨_, hbefore⟩ := h.left
  obtain ⟨hrun, -, rfl⟩ := hbefore.settled
  exact settle_iff (hrun.settle_eq (by omega) result)

theorem Run.settle_quiet {ε α : Type} {s' : Sequencer} (h : Run es s)
    (hfew : begins t.field es < UInt64.size) (ht : .issued t ∈ es) (h' : Run (es ++ more) s')
    (hmore : begins t.field more = 0) (result : Except ε α) :
    s'.settle t result = s.settle t result := by
  obtain ⟨earlier, later, rfl⟩ := List.append_of_mem ht
  have hfew' : begins t.field (earlier ++ .issued t :: later ++ more) < UInt64.size := by
    rwa [begins_append, hmore, Nat.add_zero]
  rw [List.append_assoc, List.cons_append] at h' hfew'
  rw [h.settle_eq hfew, h'.settle_eq hfew', begins_append, hmore, Nat.add_zero]

/-- Once stale, always stale. -/
theorem Run.settle_stale {ε α ε' α' : Type} {s' : Sequencer} {result : Except ε α} (h : Run es s)
    (hfew : begins t.field es < UInt64.size) (ht : .issued t ∈ es) (h' : Run (es ++ more) s')
    (hfew' : begins t.field (es ++ more) < UInt64.size)
    (hstale : s.settle t result = .ok .stale) (result' : Except ε' α') :
    s'.settle t result' = .ok .stale := by
  obtain ⟨earlier, later, rfl⟩ := List.append_of_mem ht
  have hlater : begins t.field later ≠ 0 := (settle_iff (h.settle_eq hfew result)).2.mp hstale
  rw [List.append_assoc, List.cons_append] at h' hfew'
  refine (settle_iff (h'.settle_eq hfew' result')).2.mpr ?_
  rw [begins_append]
  omega

theorem isStale_settle {ε α : Type} (result : Except ε α) :
    isStale (s.settle t result) = !s.isCurrent t := by
  unfold Sequencer.settle
  cases s.isCurrent t with
  | true =>
    cases result with
    | error e => rfl
    | ok a => rfl
  | false => rfl

/-! ## Accepted answers -/

theorem accepted_append {field : String} :
    accepted field (es ++ more) = accepted field es ++ accepted field more :=
  List.filterMap_append

theorem accepted_issued {field : String} : accepted field [.issued t] = [] := rfl

theorem accepted_settled {ε α : Type} {field : String} {result : Except ε α} :
    accepted field [.settled t result (s.settle t result)] =
      if t.field = field ∧ s.isCurrent t = true then [t.seq] else [] := by
  unfold accepted
  rw [List.filterMap_cons, List.filterMap_nil]
  simp only [Event.accepted?, isStale_settle, Bool.not_eq_false']
  by_cases h : t.field = field ∧ s.isCurrent t = true
  · rw [if_pos h, if_pos h]
  · rw [if_neg h, if_neg h]

/-- Accepted answers have tickets no later than the latest of their field, in an order in which
    their numbers do not decrease. -/
theorem Run.accepted_le {field : String} (h : Run es s) (hfew : begins field es < UInt64.size) :
    (∀ n ∈ accepted field es, n.toNat ≤ begins field es) ∧
      (accepted field es).Pairwise (· ≤ ·) := by
  -- Both at once: a number that is accepted next is the count, which bounds those before it.
  induction h with
  | start => exact ⟨fun _ hn => (List.not_mem_nil hn).elim, .nil⟩
  | issue h issued ih =>
    rw [begins_append] at hfew ⊢
    obtain ⟨hle, hpair⟩ := ih (by omega)
    rw [accepted_append, accepted_issued, List.append_nil]
    exact ⟨fun n hn => Nat.le_add_right_of_le (hle n hn), hpair⟩
  | @settle ε α es s t h ht result ih =>
    rw [begins_append, begins_settled, Nat.add_zero] at hfew ⊢
    obtain ⟨hle, hpair⟩ := ih hfew
    rw [accepted_append, accepted_settled]
    split
    next hacc =>
      obtain ⟨rfl, hcur⟩ := hacc
      have hnum := h.toNat_seq hfew hcur
      refine ⟨?_, List.pairwise_append.mpr ⟨hpair, List.pairwise_singleton _ _, ?_⟩⟩
      · intro n hn
        rcases List.mem_append.mp hn with hn | hn
        · exact hle n hn
        · rw [List.mem_singleton.mp hn]
          exact Nat.le_of_eq hnum
      · intro n hn m hm
        rw [List.mem_singleton.mp hm]
        exact UInt64.le_iff_toNat_le.mpr (hnum ▸ hle n hn)
    next =>
      rw [List.append_nil]
      exact ⟨hle, hpair⟩

end

/-! ## Lookups in flight -/

/-- A lookup on behalf of a field issues a ticket, and settles its answer with whatever sequencer
    it finds when the answer has come. -/
theorem findFor_eq {V : Type} (f : Finder (Sequencer × V)) (field query : String) (s : Sequencer)
    (v : V) : f.findFor field query (s, v) =
      let found := f.findLabeled query ((s.issue field).2, v)
      (found.2.1.settle (s.issue field).1 found.1, found.2) := rfl

/-- A lookup in flight is two events of a run, with others in between. -/
theorem run_findFor {V : Type} {f : Finder (Sequencer × V)} {field query : String}
    {es later : List Event} {s s' : Sequencer} {v v' : V}
    {result : Except QueryError (List Suggestion)}
    (hfind : f.findLabeled query ((s.issue field).2, v) = (result, (s', v')))
    (h : Run (es ++ .issued (s.issue field).1 :: later) s') :
    f.findFor field query (s, v) = (s'.settle (s.issue field).1 result, (s', v')) ∧
      Run (es ++ .issued (s.issue field).1 :: later ++
        [.settled (s.issue field).1 result (s'.settle (s.issue field).1 result)]) s' := by
  refine ⟨?_, h.settle (by simp) result⟩
  rw [findFor_eq, hfind]

/-- **An answer that was overtaken never wins.** In every run with fewer than 2^64 tickets on each
    field, an answer is accepted as it is, value or error, exactly if no later ticket has been
    issued on its field, and is stale otherwise; what happens on other fields makes no difference;
    a stale ticket stays stale; the accepted numbers of a field never decrease; and a lookup in
    flight, whatever happens to the sequencer meanwhile, is settled by the same rule. -/
theorem overtaken_never_wins {es : List Event} {s : Sequencer} (h : Run es s)
    (hfew : ∀ field, begins field es < UInt64.size) :
    (∀ {ε α : Type} {t : Ticket} {result : Except ε α} {outcome : Except ε (Settled α)}
      {earlier later after : List Event},
      es = earlier ++ .issued t :: (later ++ .settled t result outcome :: after) →
        (outcome = result.map .current ↔ begins t.field later = 0) ∧
        (outcome = .ok .stale ↔ begins t.field later ≠ 0)) ∧
    (∀ {ε α : Type} {t : Ticket} {more : List Event} {s' : Sequencer} (result : Except ε α),
      .issued t ∈ es → Run (es ++ more) s' → begins t.field more = 0 →
        s'.settle t result = s.settle t result) ∧
    (∀ {ε α ε' α' : Type} {t : Ticket} {more : List Event} {s' : Sequencer}
      {result : Except ε α} (result' : Except ε' α'),
      .issued t ∈ es → Run (es ++ more) s' → begins t.field (es ++ more) < UInt64.size →
        s.settle t result = .ok .stale → s'.settle t result' = .ok .stale) ∧
    (∀ field, (accepted field es).Pairwise (· ≤ ·)) ∧
    (∀ {V : Type} {f : Finder (Sequencer × V)} {field query : String} {v v' : V}
      {later : List Event} {s' : Sequencer} {result : Except QueryError (List Suggestion)},
      f.findLabeled query ((s.issue field).2, v) = (result, (s', v')) →
      Run (es ++ .issued (s.issue field).1 :: later) s' →
      begins field (es ++ .issued (s.issue field).1 :: later) < UInt64.size →
        f.findFor field query (s, v) =
          (if begins field later = 0 then result.map .current else .ok .stale, (s', v')) ∧
        Run (es ++ .issued (s.issue field).1 :: later ++
          [.settled (s.issue field).1 result (f.findFor field query (s, v)).1]) s') := by
  refine ⟨?_, ?_, ?_, ?_, ?_⟩
  · rintro ε α t result outcome earlier later after rfl
    exact h.outcome_iff (hfew t.field)
  · intro ε α t more s' result ht h' hmore
    exact h.settle_quiet (hfew t.field) ht h' hmore result
  · intro ε α ε' α' t more s' result result' ht h' hfew' hstale
    exact h.settle_stale (hfew t.field) ht h' hfew' hstale result'
  · intro field
    exact (h.accepted_le (hfew field)).2
  · intro V f field query v v' later s' result hfind h' hfew'
    obtain ⟨heq, hrun⟩ := run_findFor hfind h'
    have hsettle := h'.settle_eq hfew' result
    rw [field_issue] at hsettle
    rw [heq]
    exact ⟨by rw [hsettle], hrun⟩

/-- Two lookups for one field and one for another, of which the first to begin fails last. -/
def rivalEvents : List Event :=
  [.issued ⟨"a", 1⟩, .issued ⟨"b", 1⟩, .issued ⟨"a", 2⟩,
    .settled ⟨"a", 2⟩ (.ok 5 : Except Unit Nat) (.ok (.current 5)),
    .settled ⟨"a", 1⟩ (.error () : Except Unit Nat) (.ok .stale)]

def rivalSequencer : Sequencer := ⟨[("a", 2), ("b", 1)]⟩

theorem run_rivals : Run rivalEvents rivalSequencer := by
  have hissued : Run [.issued ⟨"a", 1⟩, .issued ⟨"b", 1⟩, .issued ⟨"a", 2⟩] rivalSequencer :=
    ((Run.start.issue "a").issue "b").issue "a"
  have hsecond := hissued.settle (t := ⟨"a", 2⟩) (by simp) (.ok 5 : Except Unit Nat)
  exact hsecond.settle (t := ⟨"a", 1⟩) (by simp) (.error () : Except Unit Nat)

theorem few_rivals (field : String) : begins field rivalEvents < UInt64.size :=
  Nat.lt_of_le_of_lt begins_le_length (by decide)

theorem overtaken_never_wins_rivals :
    Run rivalEvents rivalSequencer ∧ (∀ field, begins field rivalEvents < UInt64.size) ∧
      (accepted "a" rivalEvents).Pairwise (· ≤ ·) ∧
      ∀ {more : List Event} {s' : Sequencer}, Run (rivalEvents ++ more) s' →
        begins "a" (rivalEvents ++ more) < UInt64.size →
          s'.settle ⟨"a", 1⟩ (.ok 7 : Except Unit Nat) = .ok .stale := by
  obtain ⟨-, -, hstale, haccepted, -⟩ := overtaken_never_wins run_rivals few_rivals
  refine ⟨run_rivals, few_rivals, haccepted "a", fun h hfew => ?_⟩
  have hfirst : rivalSequencer.settle ⟨"a", 1⟩ (.ok 7 : Except Unit Nat) = .ok .stale := by decide
  exact hstale _ (by simp [rivalEvents]) h hfew hfirst

end PanelSource.Suggest
