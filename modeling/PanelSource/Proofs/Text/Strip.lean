import Mathlib.Data.List.TakeWhile
import PanelSource.Text.Front
import PanelSource.Text.Word

/- Texts between blanks.

   A text is bare when it has characters and neither the first nor the last of them is a blank.
   Stripping takes the blanks off a bare text and nothing else (`strip_padded`). The shortest front
   that something closes is a given text when nothing closes a shorter one
   (`frontAfterBlanks_append`). -/
namespace PanelSource.Text

def Blank (cs : List Char) : Prop := ∀ c ∈ cs, isBlank c = true

instance (cs : List Char) : Decidable (Blank cs) :=
  decidable_of_iff (cs.all isBlank = true) List.all_eq_true

/-- A text that begins and ends with something else than a blank. -/
structure Bare (cs : List Char) : Prop where
  ne_nil : cs ≠ []
  head : isBlank (cs.head ne_nil) = false
  last : isBlank (cs.getLast ne_nil) = false

/-- Blanks, as many as there are. -/
structure Gap where
  chars : List Char
  blank : Blank chars

theorem blank_nil : Blank [] := by
  intro c hc
  cases hc

theorem blank_append {xs ys : List Char} (hx : Blank xs) (hy : Blank ys) : Blank (xs ++ ys) := by
  intro c hc
  rcases List.mem_append.mp hc with h | h
  · exact hx c h
  · exact hy c h

theorem bare_of_forall {cs : List Char} (hne : cs ≠ []) (h : ∀ c ∈ cs, isBlank c = false) :
    Bare cs :=
  ⟨hne, h _ (List.head_mem hne), h _ (List.getLast_mem hne)⟩

theorem Bare.last_append {x y : List Char} (h : Bare (x ++ y)) (hy : y ≠ []) :
    isBlank (y.getLast hy) = false := by
  have := h.last
  rwa [List.getLast_append_of_ne_nil _ hy] at this

theorem Bare.head_append {x y : List Char} (h : Bare (x ++ y)) (hx : x ≠ []) :
    isBlank (x.head hx) = false := by
  have := h.head
  rwa [List.head_append_of_ne_nil hx] at this

theorem stripStart_eq_nil_iff {cs : List Char} : stripStart cs = [] ↔ Blank cs :=
  List.dropWhile_eq_nil_iff

theorem stripStart_blank {g : List Char} (hg : Blank g) : stripStart g = [] :=
  stripStart_eq_nil_iff.mpr hg

theorem stripStart_blank_append {g : List Char} (hg : Blank g) (cs : List Char) :
    stripStart (g ++ cs) = stripStart cs :=
  List.dropWhile_append_of_pos hg

theorem stripStart_cons {c : Char} (hc : isBlank c = false) (cs : List Char) :
    stripStart (c :: cs) = c :: cs := by
  simp [stripStart, hc]

theorem Bare.stripStart_append {cs : List Char} (h : Bare cs) (tail : List Char) :
    stripStart (cs ++ tail) = cs ++ tail := by
  cases cs with
  | nil => exact absurd rfl h.ne_nil
  | cons c r => exact stripStart_cons h.head (r ++ tail)

/-- A text that ends with something else than a blank is blanks and a bare text. -/
theorem blank_append_bare {cs : List Char} (hne : cs ≠ [])
    (hlast : isBlank (cs.getLast hne) = false) :
    ∃ gap s, Blank gap ∧ Bare s ∧ cs = gap ++ s := by
  induction cs with
  | nil => exact absurd rfl hne
  | cons c r ih =>
    by_cases hc : isBlank c = true
    · by_cases hr : r = []
      · subst hr
        rw [List.getLast_singleton, hc] at hlast
        cases hlast
      · rw [List.getLast_cons hr] at hlast
        obtain ⟨gap, s, hg, hs, rfl⟩ := ih hr hlast
        refine ⟨c :: gap, s, ?_, hs, rfl⟩
        intro d hd
        rcases List.mem_cons.mp hd with rfl | hd
        · exact hc
        · exact hg d hd
    · exact ⟨[], c :: r, blank_nil, ⟨hne, by simpa using hc, hlast⟩, rfl⟩

theorem stripEnd_append_blank (cs : List Char) {g : List Char} (hg : Blank g) :
    stripEnd (cs ++ g) = stripEnd cs := by
  unfold stripEnd
  rw [List.reverse_append, List.dropWhile_append_of_pos]
  intro c hc
  exact hg c (List.mem_reverse.mp hc)

theorem stripEnd_concat (cs : List Char) {c : Char} (hc : isBlank c = false) :
    stripEnd (cs ++ [c]) = cs ++ [c] := by
  simp [stripEnd, hc]

theorem Bare.stripEnd_append {cs : List Char} (h : Bare cs) (front : List Char) :
    stripEnd (front ++ cs) = front ++ cs := by
  rw [← List.dropLast_concat_getLast h.ne_nil, ← List.append_assoc]
  exact stripEnd_concat _ h.last

theorem strip_blank {g : List Char} (hg : Blank g) : strip g = [] := by
  unfold strip
  rw [stripStart_blank hg]
  rfl

theorem strip_blank_append {g : List Char} (hg : Blank g) (cs : List Char) :
    strip (g ++ cs) = strip cs := by
  unfold strip
  rw [stripStart_blank_append hg]

theorem strip_append_blank (cs : List Char) {g : List Char} (hg : Blank g) :
    strip (cs ++ g) = strip cs := by
  unfold strip stripStart
  rw [List.dropWhile_append]
  split
  · rename_i hcs
    rw [List.isEmpty_iff.mp hcs]
    exact congrArg stripEnd (stripStart_blank hg)
  · exact stripEnd_append_blank _ hg

theorem eq_stripEnd_append (cs : List Char) : ∃ after, Blank after ∧ cs = stripEnd cs ++ after := by
  refine ⟨(cs.reverse.takeWhile isBlank).reverse, fun c hc => ?_, ?_⟩
  · exact List.mem_takeWhile_imp (List.mem_reverse.mp hc)
  · unfold stripEnd
    rw [← List.reverse_append, List.takeWhile_append_dropWhile, List.reverse_reverse]

theorem eq_append_stripStart (cs : List Char) :
    ∃ before, Blank before ∧ cs = before ++ stripStart cs :=
  ⟨cs.takeWhile isBlank, fun _ hc => List.mem_takeWhile_imp hc,
    List.takeWhile_append_dropWhile.symm⟩

theorem eq_append_strip (cs : List Char) :
    ∃ before after, Blank before ∧ Blank after ∧ cs = before ++ (strip cs ++ after) := by
  obtain ⟨before, hb, hcs⟩ := eq_append_stripStart cs
  obtain ⟨after, ha, hend⟩ := eq_stripEnd_append (stripStart cs)
  exact ⟨before, after, hb, ha, by rw [strip, ← hend]; exact hcs⟩

theorem strip_eq_nil_iff {cs : List Char} : strip cs = [] ↔ Blank cs := by
  constructor
  · intro h
    obtain ⟨before, after, hb, ha, hcs⟩ := eq_append_strip cs
    rw [h, List.nil_append] at hcs
    rw [hcs]
    exact blank_append hb ha
  · exact strip_blank

theorem strip_padded {cs before after : List Char} (h : Bare cs) (hb : Blank before)
    (ha : Blank after) : strip (before ++ (cs ++ after)) = cs := by
  unfold strip
  rw [stripStart_blank_append hb, h.stripStart_append, stripEnd_append_blank _ ha]
  have := h.stripEnd_append []
  simpa using this

theorem Bare.strip_self {cs : List Char} (h : Bare cs) : strip cs = cs := by
  simpa using strip_padded h blank_nil blank_nil

theorem strip_strip (cs : List Char) : strip (strip cs) = strip cs := by
  obtain ⟨before, after, hb, ha, hcs⟩ := eq_append_strip cs
  calc strip (strip cs)
    _ = strip (before ++ (strip cs ++ after)) := by
      rw [strip_blank_append hb, strip_append_blank _ ha]
    _ = strip cs := by rw [← hcs]

/-- Stripping loses no character but blanks. -/
theorem mem_strip {cs : List Char} {c : Char} (h : c ∈ cs) (hc : isBlank c = false) :
    c ∈ strip cs := by
  have keeps : ∀ {xs : List Char}, c ∈ xs → c ∈ xs.dropWhile isBlank := by
    intro xs hx
    rw [← List.takeWhile_append_dropWhile (p := isBlank) (l := xs), List.mem_append] at hx
    rcases hx with hx | hx
    · have := List.mem_takeWhile_imp hx
      rw [hc] at this
      cases this
    · exact hx
  unfold strip stripEnd stripStart
  exact List.mem_reverse.mpr (keeps (List.mem_reverse.mpr (keeps h)))

/-! ## Word characters -/

def blankCodes : List Nat :=
  [0x09, 0x0A, 0x0B, 0x0C, 0x0D, 0x20, 0x85, 0xA0, 0x1680, 0x2000, 0x2001, 0x2002, 0x2003, 0x2004,
   0x2005, 0x2006, 0x2007, 0x2008, 0x2009, 0x200A, 0x2028, 0x2029, 0x202F, 0x205F, 0x3000]

theorem mem_blankCodes {c : Char} (h : isBlank c = true) : c.toNat ∈ blankCodes := by
  simp only [isBlank, Bool.or_eq_true, Bool.and_eq_true, decide_eq_true_eq, beq_iff_eq] at h
  simp only [blankCodes, List.mem_cons, List.not_mem_nil, or_false]
  omega

theorem isWord_blankCodes : ∀ n ∈ blankCodes, isWord (Char.ofNat n) = false := by
  decide +kernel

theorem isBlank_of_isWord {c : Char} (h : isWord c = true) : isBlank c = false := by
  cases hb : isBlank c with
  | false => rfl
  | true =>
    have hw := isWord_blankCodes _ (mem_blankCodes hb)
    rw [Char.ofNat_toNat, h] at hw
    cases hw

/-! ## Fronts -/

variable {β : Type}

/-- The shortest front is a text that holds no line feed, if what follows it closes and nothing
    shorter is closed. -/
theorem shortestFront_append {close : List Char → Option β} {tail : List Char} {b : β}
    (hb : close tail = some b) : ∀ (p done : List Char), p ≠ [] → '\n' ∉ p →
    (∀ x y, p = x ++ y → x ≠ [] → y ≠ [] → close (y ++ tail) = none) →
    shortestFront close done (p ++ tail) = some (done.reverse ++ p, b) := by
  intro p
  induction p with
  | nil =>
    intro done h
    exact absurd rfl h
  | cons c r ih =>
    intro done _ hn hshort
    have hc : ¬ c = '\n' := by
      rintro rfl
      exact hn List.mem_cons_self
    rw [List.cons_append, shortestFront, if_neg hc]
    by_cases hr : r = []
    · subst hr
      simp [hb]
    · -- This front is shorter, so that nothing closes behind it.
      have hclose : close (r ++ tail) = none := hshort [c] r rfl (by simp) hr
      have hrest := ih (c :: done) hr (fun h => hn (List.mem_cons_of_mem c h)) (by
        intro x y hxy hx hy
        exact hshort (c :: x) y (by rw [hxy]; rfl) (by simp) hy)
      simp only [hclose]
      rw [hrest]
      simp

/-- The same after blanks, before a text that begins with something else. -/
theorem frontAfterBlanks_append {close : List Char → Option β} {before p tail : List Char} {b : β}
    (hg : Blank before) (hp : Bare p) (hn : '\n' ∉ p) (hb : close tail = some b)
    (hshort : ∀ x y, p = x ++ y → x ≠ [] → y ≠ [] → close (y ++ tail) = none) :
    frontAfterBlanks close (before ++ (p ++ tail)) = some (p, b) := by
  have hlen : ((before ++ (p ++ tail)).takeWhile isBlank).length = before.length := by
    rw [List.takeWhile_append_of_pos hg]
    cases p with
    | nil => exact absurd rfl hp.ne_nil
    | cons c r =>
      have hc : isBlank c = false := hp.head
      simp [hc]
  -- The first try skips all blanks in front, and succeeds.
  unfold frontAfterBlanks
  simp only [hlen]
  rw [List.range_succ_eq_map, List.findSome?_cons, Nat.sub_zero, List.drop_left,
    shortestFront_append hb p [] hp.ne_nil hn hshort]
  rfl

/-- What a shortest front is: characters off the text, at least one and no line feed, before
    something that closes. -/
theorem shortestFront_some {close : List Char → Option β} {done cs front : List Char} {b : β}
    (h : shortestFront close done cs = some (front, b)) :
    ∃ p tail, cs = p ++ tail ∧ front = done.reverse ++ p ∧ p ≠ [] ∧ '\n' ∉ p ∧
      close tail = some b := by
  induction cs generalizing done with
  | nil => simp [shortestFront] at h
  | cons c r ih =>
    unfold shortestFront at h
    split at h
    · cases h
    · rename_i hc
      split at h
      · -- The front ends here.
        rename_i b' hb
        cases h
        exact ⟨[c], r, rfl, by simp, by simp, by simpa using Ne.symm hc, hb⟩
      · obtain ⟨p, tail, rfl, rfl, -, hn, hb⟩ := ih h
        refine ⟨c :: p, tail, rfl, by simp, by simp, ?_, hb⟩
        simpa [hn] using Ne.symm hc

/-- Where any front is closed, there is a shortest one. -/
theorem shortestFront_ne_none {close : List Char → Option β} {tail : List Char} {b : β}
    (hb : close tail = some b) : ∀ (p done : List Char), p ≠ [] → '\n' ∉ p →
    shortestFront close done (p ++ tail) ≠ none := by
  intro p
  induction p with
  | nil =>
    intro done h
    exact absurd rfl h
  | cons c r ih =>
    intro done _ hn
    have hc : ¬ c = '\n' := by
      rintro rfl
      exact hn List.mem_cons_self
    rw [List.cons_append, shortestFront, if_neg hc]
    cases hclose : close (r ++ tail) with
    | some b' => simp
    | none =>
      have hr : r ≠ [] := by
        rintro rfl
        rw [List.nil_append, hb] at hclose
        cases hclose
      exact ih (c :: done) hr fun h => hn (List.mem_cons_of_mem c h)

/-- The front comes after some of the blanks; if not after all of them, then because the text
    behind the blanks has no front. -/
theorem frontAfterBlanks_some {close : List Char → Option β} {cs front : List Char} {b : β}
    (h : frontAfterBlanks close cs = some (front, b)) :
    ∃ gap, Blank gap ∧ shortestFront close [] (gap ++ stripStart cs) = some (front, b) ∧
      (gap ≠ [] → shortestFront close [] (stripStart cs) = none) := by
  have hsplit : cs.takeWhile isBlank ++ stripStart cs = cs := List.takeWhile_append_dropWhile
  have hdrop : ∀ i, cs.drop ((cs.takeWhile isBlank).length - i) =
      (cs.takeWhile isBlank).drop ((cs.takeWhile isBlank).length - i) ++ stripStart cs := by
    intro i
    calc cs.drop ((cs.takeWhile isBlank).length - i)
      _ = (cs.takeWhile isBlank ++ stripStart cs).drop ((cs.takeWhile isBlank).length - i) := by
        rw [hsplit]
      _ = (cs.takeWhile isBlank).drop ((cs.takeWhile isBlank).length - i) ++ stripStart cs :=
        List.drop_append_of_le_length (Nat.sub_le _ i)
  unfold frontAfterBlanks at h
  simp only [hdrop] at h
  cases hbody : shortestFront close [] (stripStart cs) with
  | some r =>
    -- The first try passes over all blanks.
    rw [List.range_succ_eq_map, List.findSome?_cons, Nat.sub_zero, List.drop_length,
      List.nil_append, hbody] at h
    exact ⟨[], blank_nil, by rw [List.nil_append, hbody]; exact h, fun hne => absurd rfl hne⟩
  | none =>
    obtain ⟨i, -, hi⟩ := List.exists_of_findSome?_eq_some h
    refine ⟨_, fun c hc => ?_, hi, fun _ => rfl⟩
    exact List.mem_takeWhile_imp (List.mem_of_mem_drop hc)

/-- The front holds something else than blanks exactly if the text behind the blanks has one. -/
theorem blank_frontAfterBlanks_iff {close : List Char → Option β} {cs front : List Char} {b : β}
    (h : frontAfterBlanks close cs = some (front, b)) :
    Blank front ↔ shortestFront close [] (stripStart cs) = none := by
  obtain ⟨gap, hgap, hshort, hbody⟩ := frontAfterBlanks_some h
  obtain ⟨_, tail, hcs, rfl, hne, hn, hb⟩ := shortestFront_some hshort
  constructor
  · intro hfront
    apply hbody
    rintro rfl
    -- Without blanks in front, it begins as the stripped text does.
    rw [List.nil_append] at hcs
    obtain ⟨c, r, hcr⟩ := List.exists_cons_of_ne_nil hne
    have hhead := List.head?_dropWhile_not isBlank cs
    rw [← stripStart, hcs, hcr] at hhead
    simp [hfront c (by simp [hcr])] at hhead
  · intro hnone c hc
    by_contra hblank
    -- Blanks in front do not help a front that goes on behind them.
    rcases List.append_eq_append_iff.mp hcs with ⟨q, rfl, hq⟩ | ⟨q, hq, -⟩
    · have hqne : q ≠ [] := by
        rintro rfl
        rw [List.append_nil] at hc
        exact hblank (hgap c hc)
      rw [hq] at hnone
      exact shortestFront_ne_none hb q [] hqne (fun h => hn (List.mem_append_right gap h)) hnone
    · exact hblank (hgap c (by rw [hq]; exact List.mem_append_left q hc))

end PanelSource.Text
