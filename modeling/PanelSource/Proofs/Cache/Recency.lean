import Mathlib.Data.Finset.Card
import PanelSource.Proofs.Cache

/- A cache is a faithful memory of limited room.

   `Run n es now c` says that a cache with room for `n` entries came to be `c` at the moment `now`
   through the events `es`. What was last inserted under a key, and not removed since, stands there
   for the time that it was inserted for, and for 365 days at most (`standing?`). A cache holds entries that stand, the latest used in front, and each one in front
   of another was used since the other was (`Faithful`). So what is not found although it stands and
   is alive gave way to as many other keys as there is room for (`faithful_run`). -/
namespace PanelSource.Cache
variable {α : Type}

/-- What happens to a cache. -/
inductive Event (α : Type) where
  | inserted (moment : Nat) (key : String) (value : α) (ttl : Span)
  | read (key : String) (answer : Option α)
  | removed (key : String)
  deriving DecidableEq, Repr

/-- The key that an event uses: an insertion with a lifetime uses its key, and so does a hit. -/
def Event.used? : Event α → Option String
  | .inserted _ key _ ttl => if ttl.total = 0 then none else some key
  | .read key answer => answer.map fun _ => key
  | .removed _ => none

/-- What was last inserted under a key for some time, unless the key was removed since. It expires
    when that time is over, and after 365 days. Events are listed with the latest first. -/
def standing? (key : String) : List (Event α) → Option (CacheEntry α)
  | [] => none
  | .inserted moment k value ttl :: es =>
    if k = key ∧ 0 < ttl.total then some ⟨k, value, moment + min ttl.total year⟩
    else standing? key es
  | .read _ _ :: es => standing? key es
  | .removed k :: es => if k = key then none else standing? key es

/-- The keys that were used since a key was used. -/
def usedSince (key : String) : List (Event α) → Finset String
  | [] => ∅
  | e :: es =>
    match e.used? with
    | none => usedSince key es
    | some k => if k = key then ∅ else {k} ∪ usedSince key es

/-- The caches with room for `n` entries that are in use, with all that happened to them, the latest
    event first, and the time on the clock. -/
inductive Run (n : Nat) : List (Event α) → Nat → Cache α → Prop
  | empty (now : Nat) : Run n [] now (.ofCapacity n)
  | wait {es : List (Event α)} {now : Nat} {c : Cache α} (h : Run n es now c) (nanos : Nat) :
      Run n es (now + nanos) c
  | insert {es : List (Event α)} {now : Nat} {c : Cache α} (h : Run n es now c) (key : String)
      (value : α) (ttl : Span) :
      Run n (.inserted now key value ttl :: es) now (c.insert now key value ttl)
  | get {es : List (Event α)} {now : Nat} {c : Cache α} (h : Run n es now c) (key : String) :
      Run n (.read key (c.get now key).1 :: es) now (c.get now key).2
  | remove {es : List (Event α)} {now : Nat} {c : Cache α} (h : Run n es now c) (key : String) :
      Run n (.removed key :: es) now (c.remove key)

section
variable {ev : Event α} {es : List (Event α)} {key k : String} {c : Cache α} {now : Nat}
  {e : CacheEntry α}

theorem usedSince_of_unused (h : ev.used? = none) (key : String) :
    usedSince key (ev :: es) = usedSince key es := by
  simp only [usedSince, h]

theorem usedSince_of_used (h : ev.used? = some k) (hne : k ≠ key) :
    usedSince key (ev :: es) = {k} ∪ usedSince key es := by
  simp only [usedSince, h, if_neg hne]

theorem not_mem_others_iff : (∀ e ∈ c.others key, e.key ≠ k) ↔
    k = key ∨ ∀ e ∈ c.entries, e.key ≠ k := by
  unfold others
  constructor
  · intro h
    by_cases hk : k = key
    · exact .inl hk
    · right
      intro e he heq
      exact h e (List.mem_filter.mpr ⟨he, by simpa [heq] using hk⟩) heq
  · rintro (rfl | h) e he
    · simpa using (List.mem_filter.mp he).2
    · exact h e (List.mem_filter.mp he).1

/-- What a cache is after some events: a part of what stands, in the order of use. -/
structure Faithful (es : List (Event α)) (now : Nat) (c : Cache α) : Prop where
  size_le : c.size ≤ c.capacity
  nodup : (c.entries.map (·.key)).Nodup
  standing : ∀ e ∈ c.entries, standing? e.key es = some e
  /-- What is in front was used since. -/
  recent : c.entries.Pairwise fun e e' => e.key ∈ usedSince e'.key es
  /-- What gave way gave way to as many other keys as there is room for. -/
  crowded : ∀ key e, standing? key es = some e → now < e.expires →
    (∀ e' ∈ c.entries, e'.key ≠ key) → c.capacity ≤ (usedSince key es).card

/-! ## Steps -/

/-- Entries that do not fit any more have as many used keys in front of them as there is room. -/
theorem le_card_usedSince {l : List (CacheEntry α)} {room : Nat}
    (hnodup : (l.map (·.key)).Nodup)
    (hrecent : l.Pairwise fun e e' => e.key ∈ usedSince e'.key es)
    (he : e ∈ l.drop room) : room ≤ (usedSince e.key es).card := by
  have hroom : room ≤ l.length := by
    by_contra hlt
    rw [List.drop_eq_nil_of_le (by omega)] at he
    cases he
  have hfront : ((l.take room).map (·.key)).toFinset ⊆ usedSince e.key es := by
    intro k hk
    obtain ⟨e', he', rfl⟩ := List.mem_map.mp (List.mem_toFinset.mp hk)
    rw [← List.take_append_drop room l] at hrecent
    exact (List.pairwise_append.mp hrecent).2.2 e' he' e he
  have hdistinct : ((l.take room).map (·.key)).Nodup :=
    hnodup.sublist ((List.take_sublist room l).map _)
  calc room
    _ = ((l.take room).map (·.key)).length := by
      rw [List.length_map, List.length_take, Nat.min_eq_left hroom]
    _ = ((l.take room).map (·.key)).toFinset.card := (List.toFinset_card_of_nodup hdistinct).symm
    _ ≤ (usedSince e.key es).card := Finset.card_le_card hfront

/-- An entry that is used comes to the front. -/
theorem Faithful.use (h : Faithful es now c) (hroom : 0 < c.capacity)
    (hused : ev.used? = some e.key) (hstanding : standing? e.key (ev :: es) = some e)
    (hother : ∀ k, k ≠ e.key → standing? k (ev :: es) = standing? k es) :
    Faithful (ev :: es) now
      { c with entries := (e :: c.others e.key).take c.capacity } := by
  have hkey : ∀ e' ∈ c.others e.key, e'.key ≠ e.key :=
    fun e' he' => by simpa using (List.mem_filter.mp he').2
  have hsub : (c.others e.key).Sublist c.entries := List.filter_sublist
  have hnodup : ((e :: c.others e.key).map (·.key)).Nodup := by
    rw [List.map_cons, List.nodup_cons]
    refine ⟨fun hmem => ?_, h.nodup.sublist (hsub.map _)⟩
    obtain ⟨e', he', heq⟩ := List.mem_map.mp hmem
    exact hkey e' he' heq
  -- The entry in front was used last: each key behind it sees it in its own set.
  have hrecent : (e :: c.others e.key).Pairwise
      fun e₁ e₂ => e₁.key ∈ usedSince e₂.key (ev :: es) := by
    rw [List.pairwise_cons]
    constructor
    · intro e' he'
      rw [usedSince_of_used hused (hkey e' he').symm]
      exact Finset.mem_union_left _ (Finset.mem_singleton_self _)
    · refine (h.recent.sublist hsub).imp_of_mem fun {e₁ e₂} _ he₂ hmem => ?_
      rw [usedSince_of_used hused (hkey e₂ he₂).symm]
      exact Finset.mem_union_right _ hmem
  constructor
  · simp only [size, List.length_take]
    omega
  · exact hnodup.sublist ((List.take_sublist _ _).map _)
  · intro e' he'
    rcases List.mem_cons.mp (List.mem_of_mem_take he') with rfl | he'
    · exact hstanding
    · rw [hother _ (hkey e' he')]
      exact h.standing e' (hsub.subset he')
  · exact hrecent.sublist (List.take_sublist _ _)
  · intro key e₀ hstands halive hgone
    have hfirst : e ∈ (e :: c.others e.key).take c.capacity := by
      rw [List.take_cons hroom]
      exact List.mem_cons_self
    have hne : key ≠ e.key := fun heq => hgone e hfirst heq.symm
    rw [hother key hne] at hstands
    by_cases hin : ∀ e' ∈ c.entries, e'.key ≠ key
    · -- It was gone before, and one more use only adds to the keys since then.
      rw [usedSince_of_used hused hne.symm]
      calc c.capacity
        _ ≤ (usedSince key es).card := h.crowded key e₀ hstands halive hin
        _ ≤ ({e.key} ∪ usedSince key es).card := Finset.card_le_card Finset.subset_union_right
    · -- It was there, so that it gives way right now.
      push Not at hin
      obtain ⟨e', he', rfl⟩ := hin
      have hmem : e' ∈ e :: c.others e.key :=
        List.mem_cons_of_mem e (List.mem_filter.mpr ⟨he', by simpa using hne⟩)
      rw [← List.take_append_drop c.capacity (e :: c.others e.key)] at hmem
      have hdrop := (List.mem_append.mp hmem).resolve_left fun htake => hgone e' htake rfl
      exact le_card_usedSince hnodup hrecent hdrop

/-- A key that has no live entry standing under it is dropped. -/
theorem Faithful.drop (h : Faithful es now c) (hused : ev.used? = none)
    (hother : ∀ k, k ≠ key → standing? k (ev :: es) = standing? k es)
    (hdead : ∀ e, standing? key (ev :: es) = some e → ¬ now < e.expires) :
    Faithful (ev :: es) now (c.remove key) := by
  have hkey : ∀ e ∈ c.others key, e.key ≠ key :=
    fun e he => by simpa using (List.mem_filter.mp he).2
  have hsub : (c.others key).Sublist c.entries := List.filter_sublist
  constructor
  · exact hsub.length_le.trans h.size_le
  · exact h.nodup.sublist (hsub.map _)
  · intro e he
    rw [hother _ (hkey e he)]
    exact h.standing e (hsub.subset he)
  · simp only [usedSince_of_unused hused]
    exact h.recent.sublist hsub
  · intro k e hstands halive hgone
    rcases not_mem_others_iff.mp hgone with rfl | hgone
    · exact absurd halive (hdead e hstands)
    · rw [usedSince_of_unused hused]
      by_cases hk : k = key
      · exact absurd halive (hdead e (hk ▸ hstands))
      · rw [hother k hk] at hstands
        exact h.crowded k e hstands halive hgone

/-- An event that uses nothing and changes nothing. -/
theorem Faithful.idle (h : Faithful es now c) (hused : ev.used? = none)
    (hstanding : ∀ k, standing? k (ev :: es) = standing? k es) : Faithful (ev :: es) now c := by
  constructor
  · exact h.size_le
  · exact h.nodup
  · intro e he
    rw [hstanding]
    exact h.standing e he
  · simp only [usedSince_of_unused hused]
    exact h.recent
  · intro k e
    rw [hstanding, usedSince_of_unused hused]
    exact h.crowded k e

theorem Faithful.wait (h : Faithful es now c) (nanos : Nat) : Faithful es (now + nanos) c :=
  ⟨h.size_le, h.nodup, h.standing, h.recent, fun key e hstands halive =>
    h.crowded key e hstands (by omega)⟩

theorem Faithful.insert (h : Faithful es now c) (hroom : 0 < c.capacity) (key : String) (value : α)
    (ttl : Span) :
    Faithful (.inserted now key value ttl :: es) now (c.insert now key value ttl) := by
  unfold Cache.insert
  split
  · rename_i hzero
    have hzero : ttl.total = 0 := (isZero_iff ttl).mp hzero
    refine h.idle (by simp [Event.used?, hzero]) fun k => ?_
    simp [standing?, hzero]
  · rename_i hlasts
    have hlasts : ttl.total ≠ 0 := mt (isZero_iff ttl).mpr hlasts
    rw [lifetime_eq]
    have huse := @Faithful.use α (.inserted now key value ttl) es c now
      ⟨key, value, now + min ttl.total year⟩ h hroom
    apply huse
    · simp [Event.used?, hlasts]
    · simp [standing?, Nat.pos_of_ne_zero hlasts]
    · intro k hk
      simp [standing?, hk.symm]

theorem Faithful.get (h : Faithful es now c) (hroom : 0 < c.capacity) (key : String) :
    Faithful (.read key (c.get now key).1 :: es) now (c.get now key).2 := by
  unfold Cache.get
  cases hfind : c.find? key with
  | none => exact h.idle rfl fun _ => rfl
  | some e =>
    obtain ⟨hmem, rfl⟩ := find?_mem hfind
    have hstanding := h.standing e hmem
    simp only
    split
    · -- The entry moves to the front, and there is room for all the others.
      have hlt : (c.others e.key).length < c.entries.length :=
        List.length_filter_lt_length_iff_exists.mpr ⟨e, hmem, by simp⟩
      have hsize : c.entries.length ≤ c.capacity := h.size_le
      have hall : (e :: c.others e.key).take c.capacity = e :: c.others e.key := by
        apply List.take_of_length_le
        rw [List.length_cons]
        omega
      rw [← hall]
      exact h.use hroom rfl hstanding fun _ _ => rfl
    · rename_i hdead
      refine h.drop rfl (fun _ _ => rfl) fun e' he' => ?_
      -- The entry under the key is the one that was found, which has expired.
      have heq : some e' = some e := he'.symm.trans hstanding
      cases heq
      exact hdead

theorem Faithful.remove (h : Faithful es now c) (key : String) :
    Faithful (.removed key :: es) now (c.remove key) := by
  apply h.drop rfl
  · intro k hk
    simp only [standing?, if_neg hk.symm]
  · intro e he
    simp only [standing?, if_pos] at he
    cases he

end

/-! ## Runs -/

section
variable {n now : Nat} {es : List (Event α)} {c : Cache α}

theorem capacity_insert (key : String) (value : α) (ttl : Span) :
    (c.insert now key value ttl).capacity = c.capacity := by
  unfold insert
  split <;> rfl

theorem capacity_get (key : String) : (c.get now key).2.capacity = c.capacity := by
  unfold get
  split
  · rfl
  · split <;> rfl

theorem Run.capacity_eq (h : Run n es now c) : c.capacity = max n 1 := by
  induction h with
  | empty => rfl
  | wait _ _ ih => exact ih
  | insert _ key value ttl ih => rw [capacity_insert, ih]
  | get _ key ih => rw [capacity_get, ih]
  | remove _ _ ih => exact ih

theorem Run.faithful (h : Run n es now c) : Faithful es now c := by
  have hroom : ∀ {es now} {c : Cache α}, Run n es now c → 0 < c.capacity := by
    intro es now c h
    rw [h.capacity_eq]
    omega
  induction h with
  | empty now =>
    refine ⟨Nat.zero_le _, List.nodup_nil, ?_, List.Pairwise.nil, ?_⟩
    · intro e he
      cases he
    · intro key e hstands
      cases hstands
  | wait _ nanos ih => exact ih.wait nanos
  | insert h key value ttl ih => exact ih.insert (hroom h) key value ttl
  | get h key ih => exact ih.get (hroom h) key
  | remove _ key ih => exact ih.remove key

/-- **A cache is a faithful memory of limited room.** It never holds more entries than it has room
    for, nor two under one key. What is read is alive, and is what was last inserted under the key
    and not removed since; it lives for the time that it was inserted for, and for 365 days at most.
    What stands under a key and is alive is missed only if as many other keys as there is room for
    were used since the key was. An insertion for no time changes nothing. -/
theorem faithful_run (h : Run n es now c) :
    c.size ≤ max n 1 ∧ (c.entries.map (·.key)).Nodup ∧
      (∀ key value, (c.get now key).1 = some value →
        ∃ e, standing? key es = some e ∧ e.value = value ∧ now < e.expires) ∧
      (∀ key e, standing? key es = some e → now < e.expires → (c.get now key).1 = none →
        max n 1 ≤ (usedSince key es).card) ∧
      ∀ key value ttl, ttl.total = 0 → c.insert now key value ttl = c := by
  have hfaithful := h.faithful
  have hcapacity := h.capacity_eq
  refine ⟨hcapacity ▸ hfaithful.size_le, hfaithful.nodup, ?_, ?_, ?_⟩
  · intro key value hget
    obtain ⟨e, he, rfl, hvalue, halive⟩ := get_eq_some hget
    exact ⟨e, hfaithful.standing e he, hvalue, halive⟩
  · intro key e hstands halive hget
    rw [← hcapacity]
    apply hfaithful.crowded key e hstands halive
    -- An entry under the key would be the one that stands, and be found alive.
    intro e' he' hkey
    obtain ⟨found, hfound⟩ := exists_find? he'
    rw [hkey] at hfound
    obtain ⟨hmem, rfl⟩ := find?_mem hfound
    rw [hfaithful.standing found hmem] at hstands
    cases hstands
    exact dead_of_get_eq_none hget hfound halive
  · intro key value ttl hzero
    exact insert_of_isZero ((isZero_iff ttl).mpr hzero) value

end

/-! ## A cache that is too small -/

def hour : Span := .ofSeconds 3600

def longTime : Span := .ofSeconds (400 * 24 * 60 * 60)

def twoKept : Cache Nat := ((ofCapacity 2).insert 0 "a" 1 hour).insert 5 "b" 2 hour

/-- Of two entries the first one is read, so that a third one takes the place of the second. -/
def crowded : Cache Nat := (twoKept.get 5 "a").2.insert 5 "c" 3 longTime

def crowdedEvents : List (Event Nat) :=
  [.inserted 5 "c" 3 longTime, .read "a" (twoKept.get 5 "a").1, .inserted 5 "b" 2 hour,
    .inserted 0 "a" 1 hour]

theorem run_crowded : Run 2 crowdedEvents 5 crowded :=
  (((((Run.empty 0).insert "a" 1 hour).wait 5).insert "b" 2 hour).get "a").insert "c" 3 longTime

/-- The second entry gave way before its hour was over, the first one is read until then, and the
    third one expires after a year. -/
theorem faithful_run_crowded : Run 2 crowdedEvents 5 crowded ∧
    standing? "a" crowdedEvents = some ⟨"a", 1, 3600 * 1000000000⟩ ∧
    standing? "b" crowdedEvents = some ⟨"b", 2, 5 + 3600 * 1000000000⟩ ∧
    standing? "c" crowdedEvents = some ⟨"c", 3, 5 + 365 * 24 * 60 * 60 * 1000000000⟩ ∧
    (crowded.get (3600 * 1000000000 - 1) "a").1 = some 1 ∧
    (crowded.get (3600 * 1000000000) "a").1 = none ∧
    (crowded.get (5 + 365 * 24 * 60 * 60 * 1000000000) "c").1 = none ∧
    (crowded.get 5 "b").1 = none ∧ max 2 1 ≤ (usedSince "b" crowdedEvents).card := by
  have hstands : standing? "b" crowdedEvents = some ⟨"b", 2, 5 + 3600 * 1000000000⟩ := by
    decide +kernel
  have hmissed : (crowded.get 5 "b").1 = none := by decide +kernel
  obtain ⟨-, -, -, hcrowded, -⟩ := faithful_run run_crowded
  exact ⟨run_crowded, by decide +kernel, hstands, by decide +kernel, by decide +kernel,
    by decide +kernel, by decide +kernel, hmissed,
    hcrowded "b" _ hstands (by decide +kernel) hmissed⟩

end PanelSource.Cache
