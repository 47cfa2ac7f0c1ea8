import Mathlib.Logic.Function.Iterate
import PanelSource.Pattern.Search

/- The search finds a match exactly where there is one.

   `Spans text p i j` says that a pattern matches what stands between two gaps of a text. Every kind
   of pattern has an equation for it: one pattern after the other spans two stretches that meet, a
   repetition spans so many stretches in a row (`spans_times_iff`). Moving marks follows the same
   equations (`moves_advance`), so that the search as a whole decides `Occurs` (`occurs_iff`). The
   only condition is that a repetition does not ask for more times than it allows. -/
namespace PanelSource.Pattern

/-! ## What the constructors match -/

section
variable {a b p : Pattern} {x u z : List Char}

theorem matches_empty_iff : Matches .empty x u z ↔ u = [] := by
  constructor
  · rintro ⟨⟩
    rfl
  · rintro rfl
    exact .empty

theorem matches_char_iff {s : CharSet} :
    Matches (.char s) x u z ↔ ∃ c, u = [c] ∧ s.contains c.toNat = true := by
  constructor
  · rintro ⟨⟩
    exact ⟨_, rfl, by assumption⟩
  · rintro ⟨c, rfl, h⟩
    exact .char h

theorem matches_look_iff {l : Look} :
    Matches (.look l) x u z ↔ u = [] ∧ l.holds x.getLast? z.head? = true := by
  constructor
  · rintro ⟨⟩
    exact ⟨rfl, by assumption⟩
  · rintro ⟨rfl, h⟩
    exact .look h

theorem matches_seq_iff : Matches (.seq a b) x u z ↔
    ∃ v w, u = v ++ w ∧ Matches a x v (w ++ z) ∧ Matches b (x ++ v) w z := by
  constructor
  · intro h
    cases h with
    | seq ha hb => exact ⟨_, _, rfl, ha, hb⟩
  · rintro ⟨v, w, rfl, ha, hb⟩
    exact .seq ha hb

theorem matches_alt_iff : Matches (.alt a b) x u z ↔ Matches a x u z ∨ Matches b x u z := by
  constructor
  · intro h
    cases h with
    | left h => exact Or.inl h
    | right h => exact Or.inr h
  · rintro (h | h)
    · exact .left h
    · exact .right h

end

/-! ## Stretches of a text -/

/-- Whether a pattern matches what stands between two gaps of a text. -/
def Spans (text : List Char) (p : Pattern) (i j : Nat) : Prop :=
  ∃ x u z, text = x ++ (u ++ z) ∧ x.length = i ∧ x.length + u.length = j ∧ Matches p x u z

/-- So many matches of a pattern in a row. -/
def Steps (text : List Char) (p : Pattern) : Nat → Nat → Nat → Prop
  | 0, i, j => i = j ∧ i ≤ text.length
  | k + 1, i, j => ∃ m, Spans text p i m ∧ Steps text p k m j

section
variable {text : List Char} {a b p : Pattern} {i j : Nat}

theorem Spans.le (h : Spans text p i j) : i ≤ j ∧ j ≤ text.length := by
  obtain ⟨x, u, z, rfl, rfl, rfl, -⟩ := h
  simp only [List.length_append]
  omega

/-- A stretch without characters lies in one gap. -/
theorem spans_nil_iff {q : List Char → List Char → Prop} :
    (∃ x u z, text = x ++ (u ++ z) ∧ x.length = i ∧ x.length + u.length = j ∧ u = [] ∧ q x z) ↔
      i = j ∧ i ≤ text.length ∧ q (text.take i) (text.drop i) := by
  constructor
  · rintro ⟨x, u, z, rfl, rfl, rfl, rfl, hq⟩
    refine ⟨by simp, by simp, ?_⟩
    simpa using hq
  · rintro ⟨rfl, hi, hq⟩
    refine ⟨text.take i, [], text.drop i, by simp, ?_, ?_, rfl, hq⟩
    · simp only [List.length_take]; omega
    · simp only [List.length_take, List.length_nil]; omega

theorem spans_empty_iff : Spans text .empty i j ↔ i = j ∧ i ≤ text.length := by
  unfold Spans
  simp only [matches_empty_iff]
  have := @spans_nil_iff text i j fun _ _ => True
  simpa only [and_true] using this

theorem spans_look_iff {l : Look} : Spans text (.look l) i j ↔
    i = j ∧ i ≤ text.length ∧ l.holds (text.take i).getLast? (text.drop i).head? = true := by
  unfold Spans
  simp only [matches_look_iff]
  exact spans_nil_iff

theorem spans_char_iff {s : CharSet} : Spans text (.char s) i j ↔
    j = i + 1 ∧ ∃ c, text[i]? = some c ∧ s.contains c.toNat = true := by
  unfold Spans
  simp only [matches_char_iff]
  constructor
  · rintro ⟨x, u, z, rfl, rfl, rfl, c, rfl, hc⟩
    exact ⟨rfl, c, by simp, hc⟩
  · rintro ⟨rfl, c, hi, hc⟩
    obtain ⟨hlt, rfl⟩ := List.getElem?_eq_some_iff.mp hi
    have hlen : (text.take i).length = i := by
      simp only [List.length_take]; omega
    refine ⟨text.take i, [text[i]], text.drop (i + 1), ?_, hlen, ?_, _, rfl, hc⟩
    · simp
    · rw [hlen]; rfl

theorem spans_alt_iff : Spans text (.alt a b) i j ↔ Spans text a i j ∨ Spans text b i j := by
  unfold Spans
  simp only [matches_alt_iff]
  constructor
  · rintro ⟨x, u, z, h, hi, hj, hm | hm⟩
    · exact Or.inl ⟨x, u, z, h, hi, hj, hm⟩
    · exact Or.inr ⟨x, u, z, h, hi, hj, hm⟩
  · rintro (⟨x, u, z, h, hi, hj, hm⟩ | ⟨x, u, z, h, hi, hj, hm⟩)
    · exact ⟨x, u, z, h, hi, hj, Or.inl hm⟩
    · exact ⟨x, u, z, h, hi, hj, Or.inr hm⟩

/-- Two stretches that meet make one, and one stretch is cut into two wherever its match is. -/
theorem spans_append_iff {q : List Char → List Char → List Char → Prop} :
    (∃ x u z, text = x ++ (u ++ z) ∧ x.length = i ∧ x.length + u.length = j ∧
      ∃ v w, u = v ++ w ∧ Matches a x v (w ++ z) ∧ q (x ++ v) w z) ↔
    ∃ k, Spans text a i k ∧
      ∃ x w z, text = x ++ (w ++ z) ∧ x.length = k ∧ x.length + w.length = j ∧ q x w z := by
  constructor
  · rintro ⟨x, u, z, rfl, rfl, rfl, v, w, rfl, ha, hq⟩
    refine ⟨x.length + v.length, ⟨x, v, w ++ z, by simp, rfl, rfl, ha⟩, x ++ v, w, z, by simp,
      by simp, ?_, hq⟩
    simp only [List.length_append]; omega
  · rintro ⟨k, ⟨x, v, z', htext, rfl, rfl, ha⟩, y, w, z, htext', hy, rfl, hq⟩
    -- Both halves cut the text at the same gap.
    have hcut : (x ++ v) ++ z' = y ++ (w ++ z) := by
      rw [List.append_assoc, ← htext, htext']
    obtain ⟨rfl, rfl⟩ := List.append_inj hcut (by rw [List.length_append, hy])
    refine ⟨x, v ++ w, z, by rw [htext]; simp, rfl, ?_, v, w, rfl, ha, hq⟩
    simp only [List.length_append]; omega

theorem spans_seq_iff : Spans text (.seq a b) i j ↔
    ∃ k, Spans text a i k ∧ Spans text b k j := by
  have h := @spans_append_iff text a i j (Matches b)
  unfold Spans at h ⊢
  simp only [matches_seq_iff]
  exact h

theorem spans_times_done {most : Option Nat} (hi : i ≤ text.length) :
    Spans text (.times p 0 most) i i := by
  obtain ⟨x, u, z, h, hx, hu, rfl, -⟩ :=
    (@spans_nil_iff text i i fun _ _ => True).mpr ⟨rfl, hi, trivial⟩
  exact ⟨x, [], z, h, hx, hu, .done⟩

theorem spans_times_more {least : Nat} {most : Option Nat} {k : Nat} (hp : Spans text p i k)
    (hm : most ≠ some 0) (hr : Spans text (.times p (least - 1) (most.map (· - 1))) k j) :
    Spans text (.times p least most) i j := by
  obtain ⟨x, u, z, h, hx, hu, v, w, rfl, ha, hb⟩ := spans_append_iff.mpr ⟨k, hp, hr⟩
  exact ⟨x, v ++ w, z, h, hx, hu, .more ha hm hb⟩

/-- A repetition spans as many stretches in a row as its counts allow. -/
theorem spans_times_iff {least : Nat} {most : Option Nat} :
    Spans text (.times p least most) i j ↔
      ∃ k, least ≤ k ∧ (∀ b ∈ most, k ≤ b) ∧ Steps text p k i j := by
  constructor
  · -- Neither the counts nor the stretch need get smaller, so the induction is on the match.
    rintro ⟨x, u, z, htext, rfl, rfl, hm⟩
    generalize hq : Pattern.times p least most = q at hm
    induction hm generalizing least most with
    | done =>
      cases hq
      refine ⟨0, Nat.le_refl 0, fun _ _ => Nat.zero_le _, by simp, ?_⟩
      rw [htext]
      simp
    | more hp hne hr _ ih =>
      cases hq
      obtain ⟨k, hl, hb, hs⟩ := ih (by simp [htext]) rfl
      refine ⟨k + 1, by omega, ?_, _, ⟨_, _, _, by simp [htext], rfl, rfl, hp⟩, ?_⟩
      · intro b hmem
        have hpos : b ≠ 0 := by
          rintro rfl
          exact hne hmem
        have := hb (b - 1) (by simp [Option.mem_def.mp hmem])
        omega
      · simpa [Nat.add_assoc] using hs
    | empty => cases hq
    | char => cases hq
    | look => cases hq
    | seq => cases hq
    | left => cases hq
    | right => cases hq
  · rintro ⟨k, hl, hb, hs⟩
    induction k generalizing i least most with
    | zero =>
      obtain ⟨rfl, hi⟩ := hs
      obtain rfl : least = 0 := by omega
      exact spans_times_done hi
    | succ k ih =>
      obtain ⟨m, hm, hs⟩ := hs
      refine spans_times_more hm ?_ (ih (by omega) ?_ hs)
      · rintro rfl
        have := hb 0 rfl
        omega
      · intro b hmem
        obtain ⟨b', hb', rfl⟩ := Option.map_eq_some_iff.mp hmem
        have := hb b' hb'
        omega

theorem steps_add {k l m : Nat} (hi : Steps text p k i m) (hj : Steps text p l m j) :
    Steps text p (k + l) i j := by
  induction k generalizing i with
  | zero =>
    obtain ⟨rfl, -⟩ := hi
    rwa [Nat.zero_add]
  | succ k ih =>
    obtain ⟨n, hn, hi⟩ := hi
    rw [Nat.add_right_comm]
    exact ⟨n, hn, ih hi⟩

theorem steps_le {k : Nat} (h : Steps text p k i j) : i ≤ j ∧ j ≤ text.length := by
  induction k generalizing i with
  | zero =>
    obtain ⟨rfl, hi⟩ := h
    exact ⟨Nat.le_refl i, hi⟩
  | succ k ih =>
    obtain ⟨m, hm, h⟩ := h
    have him := hm.le
    have hmj := ih h
    omega

theorem steps_split {k l : Nat} (h : Steps text p (k + l) i j) :
    ∃ m, Steps text p k i m ∧ Steps text p l m j := by
  induction k generalizing i with
  | zero =>
    rw [Nat.zero_add] at h
    have hle := steps_le h
    exact ⟨i, ⟨rfl, by omega⟩, h⟩
  | succ k ih =>
    rw [Nat.add_right_comm] at h
    obtain ⟨n, hn, h⟩ := h
    obtain ⟨m, hk, hl⟩ := ih h
    exact ⟨m, ⟨n, hn, hk⟩, hl⟩

/-- Stretches in a row need be no more than the characters they hold: those without any can be left
    out. -/
theorem steps_short {k : Nat} (h : Steps text p k i j) :
    ∃ l, l ≤ j - i ∧ Steps text p l i j := by
  induction k generalizing i with
  | zero => exact ⟨0, Nat.zero_le _, h⟩
  | succ k ih =>
    obtain ⟨m, hm, h⟩ := h
    obtain ⟨l, hl, hs⟩ := ih h
    have him := hm.le
    have hmj := steps_le h
    by_cases heq : i = m
    · subst heq
      exact ⟨l, hl, hs⟩
    · exact ⟨l + 1, by omega, m, hm, hs⟩

end

/-! ## Marks -/

/-- Whether a gap is marked. -/
def Marked (m : List Bool) (i : Nat) : Prop := m[i]? = some true

theorem marked_cons_false {m : List Bool} {j : Nat} :
    Marked (false :: m) j ↔ ∃ i, j = i + 1 ∧ Marked m i := by
  unfold Marked
  cases j with
  | zero => simp
  | succ j => simp

theorem marked_zipWith_or {m n : List Bool} (h : m.length = n.length) {j : Nat} :
    Marked (List.zipWith (fun a b => a || b) m n) j ↔ Marked m j ∨ Marked n j := by
  unfold Marked
  rw [List.getElem?_zipWith]
  by_cases hj : j < m.length
  · rw [List.getElem?_eq_getElem hj, List.getElem?_eq_getElem (h ▸ hj)]
    simp
  · rw [List.getElem?_eq_none (by omega), List.getElem?_eq_none (by omega)]
    simp

theorem iterate_eq (f : List Bool → List Bool) (k : Nat) (m : List Bool) :
    iterate f k m = f^[k] m := by
  induction k generalizing m with
  | zero => rfl
  | succ k ih =>
    unfold iterate
    by_cases h : f m = m
    · rw [if_pos h, Function.iterate_fixed h]
    · rw [if_neg h, ih, Function.iterate_succ_apply]

theorem Marked.lt {m : List Bool} {i : Nat} (h : Marked m i) : i < m.length :=
  (List.getElem?_eq_some_iff.mp h).1

/-- A step that moves marks along a relation between the gaps of a text. -/
def Moves (text : List Char) (r : Nat → Nat → Prop) (f : List Bool → List Bool) : Prop :=
  ∀ m, m.length = text.length + 1 →
    (f m).length = text.length + 1 ∧ ∀ j, Marked (f m) j ↔ ∃ i, Marked m i ∧ r i j

section
variable {text : List Char} {p : Pattern} {f g : List Bool → List Bool} {r r' : Nat → Nat → Prop}

theorem Moves.congr (h : Moves text r f) (hr : ∀ i j, r i j ↔ r' i j) : Moves text r' f := by
  obtain rfl : r = r' := funext₂ fun i j => propext (hr i j)
  exact h

theorem Moves.id : Moves text (fun i j => i = j ∧ i ≤ text.length) id := by
  intro m hm
  refine ⟨hm, fun j => ⟨fun h => ⟨j, h, rfl, ?_⟩, ?_⟩⟩
  · have hj : j < m.length := h.lt
    omega
  · rintro ⟨i, h, rfl, -⟩
    exact h

theorem Moves.comp (hg : Moves text r' g) (hf : Moves text r f) :
    Moves text (fun i j => ∃ k, r i k ∧ r' k j) (g ∘ f) := by
  intro m hm
  obtain ⟨hlen, hmark⟩ := hf m hm
  obtain ⟨hlen', hmark'⟩ := hg (f m) hlen
  refine ⟨hlen', fun j => ?_⟩
  simp only [Function.comp_apply, hmark', hmark]
  constructor
  · rintro ⟨k, ⟨i, hi, hr⟩, hr'⟩
    exact ⟨i, hi, k, hr, hr'⟩
  · rintro ⟨i, hi, k, hr, hr'⟩
    exact ⟨k, ⟨i, hi, hr⟩, hr'⟩

/-- The marks of either step. -/
theorem Moves.union (hf : Moves text r f) (hg : Moves text r' g) :
    Moves text (fun i j => r i j ∨ r' i j)
      (fun m => List.zipWith (fun a b => a || b) (f m) (g m)) := by
  intro m hm
  obtain ⟨hlen, hmark⟩ := hf m hm
  obtain ⟨hlen', hmark'⟩ := hg m hm
  refine ⟨by simp [hlen, hlen'], fun j => ?_⟩
  rw [marked_zipWith_or (by rw [hlen, hlen']), hmark, hmark']
  constructor
  · rintro (⟨i, hi, hr⟩ | ⟨i, hi, hr⟩)
    · exact ⟨i, hi, Or.inl hr⟩
    · exact ⟨i, hi, Or.inr hr⟩
  · rintro ⟨i, hi, hr | hr⟩
    · exact Or.inl ⟨i, hi, hr⟩
    · exact Or.inr ⟨i, hi, hr⟩

theorem moves_iterate (hf : Moves text (Spans text p) f) (k : Nat) :
    Moves text (Steps text p k) f^[k] := by
  induction k with
  | zero => exact Moves.id
  | succ k ih => exact ih.comp hf

/-- Steps that keep the marks they start from move them by any number of stretches up to theirs. -/
theorem moves_widen (hf : Moves text (Spans text p) f) (k : Nat) :
    Moves text (fun i j => ∃ l, l ≤ k ∧ Steps text p l i j)
      (fun m => List.zipWith (fun a b => a || b) m (f m))^[k] := by
  induction k with
  | zero =>
    refine Moves.id.congr fun i j => ⟨fun h => ⟨0, Nat.le_refl 0, h⟩, ?_⟩
    rintro ⟨l, hl, hs⟩
    obtain rfl : l = 0 := by omega
    exact hs
  | succ k ih =>
    -- One round either stays where it is or goes on by one stretch.
    refine (ih.comp (Moves.id.union hf)).congr fun i j => ?_
    constructor
    · rintro ⟨n, ⟨rfl, -⟩ | hp, l, hl, hs⟩
      · exact ⟨l, by omega, hs⟩
      · exact ⟨l + 1, by omega, n, hp, hs⟩
    · rintro ⟨l, hl, hs⟩
      cases l with
      | zero =>
        obtain ⟨rfl, hi⟩ := hs
        exact ⟨i, Or.inl ⟨rfl, hi⟩, 0, Nat.zero_le k, rfl, hi⟩
      | succ l =>
        obtain ⟨n, hp, hs⟩ := hs
        exact ⟨n, Or.inr hp, l, by omega, hs⟩

theorem moves_repeat (hf : Moves text (Spans text p) f) (least k : Nat) :
    Moves text (fun i j => ∃ l, l ≤ k ∧ Steps text p (least + l) i j)
      ((fun m => List.zipWith (fun a b => a || b) m (f m))^[k] ∘ f^[least]) := by
  refine ((moves_widen hf k).comp (moves_iterate hf least)).congr fun i j => ?_
  constructor
  · rintro ⟨n, hs, l, hl, hs'⟩
    exact ⟨l, hl, steps_add hs hs'⟩
  · rintro ⟨l, hl, hs⟩
    obtain ⟨n, hn, hs'⟩ := steps_split hs
    exact ⟨n, hn, l, hl, hs'⟩

theorem moves_char (text : List Char) (s : CharSet) :
    Moves text (Spans text (.char s)) (advance text (.char s)) := by
  intro m hm
  refine ⟨by simp [advance, hm], fun j => ?_⟩
  unfold advance
  rw [marked_cons_false]
  have hget : ∀ i, Marked (List.zipWith (fun c b => b && s.contains c.toNat) text m) i ↔
      Marked m i ∧ ∃ c, text[i]? = some c ∧ s.contains c.toNat = true := by
    intro i
    unfold Marked
    rw [List.getElem?_zipWith]
    by_cases hi : i < text.length
    · rw [List.getElem?_eq_getElem hi, List.getElem?_eq_getElem (by omega)]
      simp
    · simp [List.getElem?_eq_none (by omega : text.length ≤ i)]
  simp only [spans_char_iff, hget]
  constructor
  · rintro ⟨i, rfl, hi, hc⟩
    exact ⟨i, hi, rfl, hc⟩
  · rintro ⟨i, hi, rfl, hc⟩
    exact ⟨i, rfl, hi, hc⟩

/-- The marks of an assertion tell where it is true; `before` is the character in front of the
    text. -/
theorem getElem?_lookMarks (l : Look) : ∀ (text : List Char) (before : Option Char) (i : Nat),
    i ≤ text.length → (lookMarks l before text)[i]? =
      some (l.holds ((text.take i).getLast?.or before) (text.drop i).head?) := by
  intro text
  induction text with
  | nil =>
    intro before i hi
    obtain rfl : i = 0 := by simpa using hi
    simp [lookMarks]
  | cons c rest ih =>
    intro before i hi
    cases i with
    | zero => simp [lookMarks]
    | succ i =>
      have hlast : ((c :: rest).take (i + 1)).getLast? = (rest.take i).getLast?.or (some c) := by
        rw [List.take_succ_cons, List.getLast?_cons]
        cases (rest.take i).getLast? <;> rfl
      rw [lookMarks, List.getElem?_cons_succ, ih (some c) i (by simpa using hi), hlast,
        List.drop_succ_cons]
      cases (rest.take i).getLast? <;> rfl

theorem length_lookMarks (l : Look) (text : List Char) (before : Option Char) :
    (lookMarks l before text).length = text.length + 1 := by
  induction text generalizing before with
  | nil => rfl
  | cons c rest ih => simp [lookMarks, ih]

theorem moves_look (text : List Char) (l : Look) :
    Moves text (Spans text (.look l)) (advance text (.look l)) := by
  intro m hm
  have hlen := length_lookMarks l text none
  refine ⟨by simp [advance, hm, hlen], fun j => ?_⟩
  have hget : Marked (advance text (.look l) m) j ↔ Marked m j ∧ j ≤ text.length ∧
      l.holds (text.take j).getLast? (text.drop j).head? = true := by
    unfold Marked advance
    rw [List.getElem?_zipWith]
    by_cases hj : j ≤ text.length
    · rw [getElem?_lookMarks l text none j hj, List.getElem?_eq_getElem (by omega)]
      simp [hj]
    · simp [List.getElem?_eq_none (by omega : m.length ≤ j)]
  simp only [hget, spans_look_iff]
  constructor
  · rintro ⟨hj, hle, hl⟩
    exact ⟨j, hj, rfl, hle, hl⟩
  · rintro ⟨i, hi, rfl, hle, hl⟩
    exact ⟨hi, hle, hl⟩

end

/-! ## The search -/

/-- No repetition in a pattern asks for more times than it allows. -/
def Counted : Pattern → Prop
  | .seq a b => Counted a ∧ Counted b
  | .alt a b => Counted a ∧ Counted b
  | .times p least most => Counted p ∧ ∀ k ∈ most, least ≤ k
  | _ => True

theorem moves_times {text : List Char} {p : Pattern} {least : Nat} {most : Option Nat}
    (hp : Moves text (Spans text p) (advance text p)) (hc : ∀ k ∈ most, least ≤ k) :
    Moves text (Spans text (.times p least most)) (advance text (.times p least most)) := by
  intro m hm
  unfold advance
  simp only [iterate_eq]
  refine Moves.congr (moves_repeat hp least _) (fun i j => ?_) m hm
  rw [spans_times_iff]
  cases most with
  | none =>
    constructor
    · rintro ⟨l, -, hs⟩
      refine ⟨least + l, by omega, ?_, hs⟩
      intro b hb
      cases hb
    · rintro ⟨k, hk, -, hs⟩
      obtain ⟨l, rfl⟩ := Nat.exists_eq_add_of_le hk
      obtain ⟨n, hn, hs'⟩ := steps_split hs
      -- No more than the characters that are left.
      obtain ⟨l', hl', hshort⟩ := steps_short hs'
      have hj := (steps_le hs').2
      exact ⟨l', by simp only; omega, steps_add hn hshort⟩
  | some b =>
    have hb := hc b rfl
    constructor
    · rintro ⟨l, hl, hs⟩
      simp only at hl
      refine ⟨least + l, by omega, ?_, hs⟩
      intro c hc
      cases hc
      omega
    · rintro ⟨k, hk, hkb, hs⟩
      have hkb := hkb b rfl
      obtain ⟨l, rfl⟩ := Nat.exists_eq_add_of_le hk
      exact ⟨l, by simp only; omega, hs⟩

/-- Moving marks along a pattern follows its matches. -/
theorem moves_advance (text : List Char) (p : Pattern) (h : Counted p) :
    Moves text (Spans text p) (advance text p) := by
  induction p with
  | empty => exact Moves.id.congr fun _ _ => spans_empty_iff.symm
  | char s => exact moves_char text s
  | look l => exact moves_look text l
  | seq a b iha ihb => exact ((ihb h.2).comp (iha h.1)).congr fun _ _ => spans_seq_iff.symm
  | alt a b iha ihb => exact ((iha h.1).union (ihb h.2)).congr fun _ _ => spans_alt_iff.symm
  | times p least most ih => exact moves_times (ih h.1) h.2

/-- **The search decides whether a pattern matches somewhere in a text.** -/
theorem occurs_iff {p : Pattern} (h : Counted p) (text : List Char) :
    occurs p text = true ↔ Occurs p text := by
  obtain ⟨hlen, hmark⟩ := moves_advance text p h (List.replicate (text.length + 1) true) (by simp)
  unfold occurs
  rw [List.any_eq_true]
  constructor
  · rintro ⟨b, hb, htrue⟩
    obtain ⟨j, hj⟩ := List.mem_iff_getElem?.mp hb
    cases (show b = true from htrue)
    obtain ⟨i, -, x, u, z, htext, -, -, hm⟩ := (hmark j).mp hj
    exact ⟨x, u, z, by rw [htext, List.append_assoc], hm⟩
  · rintro ⟨x, u, z, rfl, hm⟩
    have hstart : Marked (List.replicate ((x ++ u ++ z).length + 1) true) x.length := by
      unfold Marked
      rw [List.getElem?_replicate_of_lt]
      simp only [List.length_append]
      omega
    have hj := (hmark _).mpr
      ⟨x.length, hstart, x, u, z, List.append_assoc x u z, rfl, rfl, hm⟩
    exact ⟨true, List.mem_of_getElem? hj, rfl⟩

end PanelSource.Pattern
