import PanelSource.Proofs.Pattern.Reading
import PanelSource.Proofs.Pattern.Span

/- What sequences and choices of pieces match.

   `MatchesAll ps x u z` says that patterns match a text one after the other. A sequence of pieces
   is matched like that (`matches_sequence`), a choice by any one of its pieces (`matches_choice`).
   A piece made of a text matches that text and no other (`matches_ofText`), so that what is read
   from escaped texts does not depend on what stands around it. A whole pattern that is an escaped
   text between the signs for both ends matches that text only (`occursIn_only`). -/
namespace PanelSource.Pattern

/-- Patterns match a text one after the other. -/
def MatchesAll : List Pattern → List Char → List Char → List Char → Prop
  | [], _, u, _ => u = []
  | p :: ps, x, u, z => ∃ v w, u = v ++ w ∧ Matches p x v (w ++ z) ∧ MatchesAll ps (x ++ v) w z

def patterns (ps : List Piece) : List Pattern := ps.map (·.pattern)

section
variable {p : Pattern} {ps qs : List Pattern} {x u z : List Char}

theorem matchesAll_singleton : MatchesAll [p] x u z ↔ Matches p x u z := by
  constructor
  · rintro ⟨v, w, rfl, h, rfl⟩
    simpa using h
  · intro h
    exact ⟨u, [], by simp, by simpa using h, rfl⟩

theorem matchesAll_append : MatchesAll (ps ++ qs) x u z ↔
    ∃ v w, u = v ++ w ∧ MatchesAll ps x v (w ++ z) ∧ MatchesAll qs (x ++ v) w z := by
  induction ps generalizing x u with
  | nil =>
    constructor
    · intro h
      exact ⟨[], u, rfl, rfl, by simpa using h⟩
    · rintro ⟨v, w, rfl, rfl, h⟩
      simpa using h
  | cons p ps ih =>
    constructor
    · rintro ⟨v, w, rfl, hp, h⟩
      obtain ⟨v', w', rfl, hps, hqs⟩ := ih.mp h
      exact ⟨v ++ v', w', by simp, ⟨v, v', rfl, by simpa using hp, hps⟩, by simpa using hqs⟩
    · rintro ⟨_, w', rfl, ⟨v, v', rfl, hp, hps⟩, hqs⟩
      exact ⟨v, v' ++ w', by simp, by simpa using hp,
        ih.mpr ⟨v', w', rfl, hps, by simpa using hqs⟩⟩

theorem matches_foldr_seq : Matches (ps.foldr .seq .empty) x u z ↔ MatchesAll ps x u z := by
  induction ps generalizing x u with
  | nil => exact matches_empty_iff
  | cons p ps ih => simp only [List.foldr_cons, matches_seq_iff, ih, MatchesAll]

theorem matches_foldr_alt : Matches (ps.foldr .alt p) x u z ↔
    (∃ q ∈ ps, Matches q x u z) ∨ Matches p x u z := by
  induction ps with
  | nil => simp
  | cons q ps ih =>
    simp only [List.foldr_cons, matches_alt_iff, ih, List.mem_cons, exists_eq_or_imp, or_assoc]

end

section
variable {ps : List Piece} {x u z : List Char}

theorem matches_sequence :
    Matches (Piece.sequence ps).pattern x u z ↔ MatchesAll (patterns ps) x u z := by
  unfold Piece.sequence
  split
  · exact matches_empty_iff
  · exact matchesAll_singleton.symm
  · exact matches_foldr_seq

theorem matches_choice (h : ps ≠ []) :
    Matches (Piece.choice ps).pattern x u z ↔ ∃ p ∈ ps, Matches p.pattern x u z := by
  unfold Piece.choice
  split
  · exact absurd rfl h
  · simp
  · rename_i p ps _
    -- A choice is nested to the right, with its last piece innermost.
    have hmem : ∀ q, q ∈ p :: ps ↔ q ∈ (p :: ps).dropLast ∨ q = (p :: ps).getLast (by simp) := by
      intro q
      rw [← List.mem_singleton, ← List.mem_append, List.dropLast_concat_getLast]
    simp only [matches_foldr_alt, hmem, or_and_right, exists_or, exists_eq_left,
      List.mem_map, exists_exists_and_eq_and]

/-! ## Texts -/

theorem matches_ofChar {c : Char} : Matches (Piece.ofChar c).pattern x u z ↔ u = [c] := by
  unfold Piece.ofChar Piece.ofSet
  rw [matches_char_iff]
  constructor
  · rintro ⟨d, rfl, hd⟩
    rw [(CharSet.contains_single c d).mp hd]
  · rintro rfl
    exact ⟨c, rfl, (CharSet.contains_single c c).mpr rfl⟩

theorem matchesAll_ofChar {cs : List Char} :
    MatchesAll (patterns (cs.map .ofChar)) x u z ↔ u = cs := by
  induction cs generalizing x u with
  | nil => exact Iff.rfl
  | cons c cs ih =>
    constructor
    · rintro ⟨v, w, rfl, hc, hcs⟩
      rw [matches_ofChar.mp hc, ih.mp hcs]
      rfl
    · rintro rfl
      exact ⟨[c], cs, rfl, matches_ofChar.mpr rfl, ih.mpr rfl⟩

theorem matches_ofText {cs : List Char} : Matches (Piece.ofText cs).pattern x u z ↔ u = cs :=
  matches_sequence.trans matchesAll_ofChar

/-- A choice between texts matches each of them and nothing else. -/
theorem matches_choice_ofText {vs : List (List Char)} (h : vs ≠ []) :
    Matches (Piece.choice (vs.map .ofText)).pattern x u z ↔ u ∈ vs := by
  rw [matches_choice (by simpa using h)]
  constructor
  · rintro ⟨p, hp, hm⟩
    obtain ⟨v, hv, rfl⟩ := List.mem_map.mp hp
    rwa [matches_ofText.mp hm]
  · intro hu
    exact ⟨.ofText u, List.mem_map_of_mem hu, matches_ofText.mpr rfl⟩

theorem matches_start : Matches (.look .start) x u z ↔ u = [] ∧ x = [] := by
  rw [matches_look_iff]
  simp [Look.holds]

theorem matches_stop : Matches (.look .stop) x u z ↔ u = [] ∧ z = [] := by
  rw [matches_look_iff]
  simp [Look.holds]

/-- Between the assertions for both ends, pieces are matched by a text as a whole. -/
theorem occurs_anchored {text : List Char} :
    Occurs (Piece.sequence (⟨.look .start, 0⟩ :: (ps ++ [⟨.look .stop, 0⟩]))).pattern text ↔
      MatchesAll (patterns ps) [] text [] := by
  have hparts : patterns (⟨.look .start, 0⟩ :: (ps ++ [⟨.look .stop, 0⟩])) =
      .look .start :: (patterns ps ++ [.look .stop]) := by
    simp [patterns]
  unfold Occurs
  simp only [matches_sequence, hparts, MatchesAll, matches_start, matchesAll_append, matches_stop]
  constructor
  · -- The assertions take no characters, and say that nothing stands before the match or after it.
    rintro ⟨_, _, _, rfl, _, _, rfl, ⟨rfl, rfl⟩, v, _, rfl, hm, _, _, rfl, ⟨rfl, hz⟩, rfl⟩
    obtain rfl : _ = [] := hz
    simpa using hm
  · intro hm
    exact ⟨[], text, [], by simp, [], text, rfl, ⟨rfl, rfl⟩, text, [], by simp, by simpa using hm,
      [], [], rfl, ⟨rfl, rfl⟩, rfl⟩

end

/-! ## Counts -/

section
variable {ps : List Piece}

-- Only a repetition can be miscounted, and pieces made of texts repeat nothing.
theorem counted_foldr_seq {ps : List Pattern} (h : ∀ p ∈ ps, Counted p) :
    Counted (ps.foldr .seq .empty) := by
  induction ps with
  | nil => exact trivial
  | cons p ps ih =>
    exact ⟨h p List.mem_cons_self, ih fun q hq => h q (List.mem_cons_of_mem p hq)⟩

theorem counted_sequence (h : ∀ p ∈ ps, Counted p.pattern) :
    Counted (Piece.sequence ps).pattern := by
  unfold Piece.sequence
  split
  · exact trivial
  · exact h _ List.mem_cons_self
  · exact counted_foldr_seq (List.forall_mem_map.mpr h)

theorem counted_foldr_alt {ps : List Pattern} {p : Pattern} (hp : Counted p)
    (h : ∀ p ∈ ps, Counted p) : Counted (ps.foldr .alt p) := by
  induction ps with
  | nil => exact hp
  | cons q ps ih =>
    exact ⟨h q List.mem_cons_self, ih fun a ha => h a (List.mem_cons_of_mem q ha)⟩

theorem counted_choice (h : ∀ p ∈ ps, Counted p.pattern) : Counted (Piece.choice ps).pattern := by
  unfold Piece.choice
  split
  · exact trivial
  · exact h _ List.mem_cons_self
  · refine counted_foldr_alt (h _ (List.getLast_mem _)) (List.forall_mem_map.mpr ?_)
    intro p hp
    exact h p (List.dropLast_subset _ hp)

theorem counted_ofText (cs : List Char) : Counted (Piece.ofText cs).pattern :=
  counted_sequence (List.forall_mem_map.mpr fun _ _ => trivial)

end

/-! ## Weights -/

theorem weight_foldr_seq {ps : List Pattern} {n : Nat} (h : ∀ p ∈ ps, weight p = n) :
    weight (ps.foldr .seq .empty) = n * ps.length := by
  induction ps with
  | nil => rfl
  | cons p ps ih =>
    rw [List.foldr_cons, weight, h p List.mem_cons_self,
      ih fun q hq => h q (List.mem_cons_of_mem p hq), List.length_cons, Nat.mul_add_one,
      Nat.add_comm]

theorem weight_sequence {ps : List Piece} {n : Nat} (h : ∀ p ∈ ps, weight p.pattern = n) :
    weight (Piece.sequence ps).pattern = n * ps.length := by
  unfold Piece.sequence
  split
  · rfl
  · rw [h _ List.mem_cons_self, List.length_singleton, Nat.mul_one]
  · rw [weight_foldr_seq (List.forall_mem_map.mpr h), List.length_map]

/-! ## One text only -/

/-- The pieces of the pattern that matches one text only. -/
def onlyPieces (cs : List Char) : List Piece :=
  ⟨.look .start, 0⟩ :: (cs.map .ofChar ++ [⟨.look .stop, 0⟩])

/-- The pattern that matches one text only. -/
def only (cs : List Char) : Pattern := (Piece.sequence (onlyPieces cs)).pattern

theorem onlyPieces_spec {cs : List Char} {p : Piece} (h : p ∈ onlyPieces cs) :
    p.depth = 0 ∧ Counted p.pattern ∧ weight p.pattern = 24 := by
  rcases List.mem_cons.mp h with rfl | h
  · exact ⟨rfl, trivial, rfl⟩
  rcases List.mem_append.mp h with h | h
  · obtain ⟨c, -, rfl⟩ := List.mem_map.mp h
    exact ⟨rfl, trivial, rfl⟩
  · rw [List.mem_singleton] at h
    subst h
    exact ⟨rfl, trivial, rfl⟩

theorem weight_only (cs : List Char) : weight (only cs) = 24 * (cs.length + 2) := by
  have hlength : (onlyPieces cs).length = cs.length + 2 := by simp [onlyPieces]
  rw [only, weight_sequence fun p hp => (onlyPieces_spec hp).2.2, hlength]

/-- An escaped text between the signs for both ends is read, unless it takes too much room. -/
theorem parse_only (cs : List Char) : parse ('^' :: (escape cs ++ ['$'])) =
    if weightLimit < 24 * (cs.length + 2) then .error .tooLarge else .ok (only cs) := by
  have hreads := reads_between fun r hf => @reads_escape r hf cs ['$']
  have hdepth : ∀ p ∈ onlyPieces cs, p.depth < depthLimit := by
    intro p hp
    rw [(onlyPieces_spec hp).1]
    decide
  rw [parse_eq_of_reads hreads hdepth, ← weight_only]
  rfl

/-- Whatever its characters mean in a pattern, and line breaks among them. -/
theorem occursIn_only (cs : List Char) (text : String) :
    (only cs).occursIn text ↔ text = String.ofList cs := by
  have hcounted : Counted (only cs) := counted_sequence fun p hp => (onlyPieces_spec hp).2.1
  unfold occursIn
  rw [occurs_iff hcounted, only, onlyPieces, occurs_anchored, matchesAll_ofChar, String.ext_iff,
    String.toList_ofList]

end PanelSource.Pattern
