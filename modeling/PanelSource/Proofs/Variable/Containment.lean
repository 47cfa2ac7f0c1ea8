import PanelSource.Proofs.Pattern.Exact
import PanelSource.Proofs.Variable.SinglePass

/- Values stay contained in the patterns that they are put into.

   A pattern is written as a row of parts between `^` and `$`: escaped texts, and references
   `${name}` to stored variables. Substitution finds the references and nothing else
   (`resolveChars_parts`), and what it puts in is read as a choice between the values
   (`reads_render`). So the pattern matches the fillings of its parts, `Fills`, and no other text,
   whatever characters the values are made of (`occursIn_resolve_iff`). -/
namespace PanelSource.Variable
open Pattern

/-- A part of a text that is written for a pattern. -/
inductive Part where
  | literal (cs : List Char)
  | reference (name : List Char)
  deriving DecidableEq, Repr

namespace Part

def source : Part → List Char
  | literal cs => escape cs
  | reference name => '$' :: '\x7b' :: (name ++ ['\x7d'])

/-- The values that a part may take. -/
def values (s : Store) : Part → List (List Char)
  | literal cs => [cs]
  | reference name => ((s.get? (String.ofList name)).getD []).map String.toList

/-- A literal has no dollar sign, and a reference names a stored variable that has a value. -/
def Sound (s : Store) : Part → Prop
  | literal cs => '$' ∉ cs
  | reference name => Word name ∧ ∃ v vs, s.get? (String.ofList name) = some (v :: vs)

end Part

/-- The text of a pattern that is anchored at both ends. -/
def anchored (ps : List Part) : List Char := '^' :: (ps.flatMap Part.source ++ ['$'])

/-- A text is made of the parts: of their literals and, for each reference, one of its values. -/
inductive Fills (s : Store) : List Part → List Char → Prop
  | nil : Fills s [] []
  | literal {cs t : List Char} {ps : List Part} (h : Fills s ps t) :
      Fills s (.literal cs :: ps) (cs ++ t)
  | reference {name t : List Char} {ps : List Part} {vs : List String} {v : String}
      (hs : s.get? (String.ofList name) = some vs) (hv : v ∈ vs) (h : Fills s ps t) :
      Fills s (.reference name :: ps) (v.toList ++ t)

section
variable {s : Store} {mode : Mode}

/-! ## Finding the references -/

theorem resolveChars_nil : resolveChars s mode [] = [] := by
  unfold resolveChars
  rw [segments_nil]
  rfl

theorem resolveChars_plain {c : Char} {rest : List Char} (h : reference? (c :: rest) = none) :
    resolveChars s mode (c :: rest) = c :: resolveChars s mode rest := by
  unfold resolveChars
  rw [segments_plain (reference?_eq_none_iff.mp h)]
  rfl

theorem resolveChars_reference {cs name rest : List Char} {values : List String}
    (h : reference? cs = some (name, rest)) (hs : s.get? (String.ofList name) = some values) :
    resolveChars s mode cs = render mode values ++ resolveChars s mode rest := by
  obtain ⟨spelling, hstands, rfl⟩ := stands_of_reference? h
  unfold resolveChars
  rw [segments_reference hstands]
  simp only [List.flatMap_cons, Segment.resolve, hs]

/-- A reference begins with a dollar sign or with two brackets. -/
theorem reference?_eq_none {c : Char} {rest : List Char} (hc : c ≠ '$')
    (hr : c = '[' → rest.head? ≠ some '[') : reference? (c :: rest) = none := by
  unfold reference?
  split
  · rename_i heq
    cases heq
    exact absurd rfl hc
  · rename_i heq
    cases heq
    exact absurd rfl hc
  · rename_i heq
    cases heq
    exact absurd rfl (hr rfl)
  · rfl

/-- An escaped text without dollar signs holds no reference, nor does one begin in it. -/
theorem resolveChars_escape {cs rest : List Char} (hcs : '$' ∉ cs) (hr : rest.head? ≠ some '[') :
    resolveChars s mode (escape cs ++ rest) = escape cs ++ resolveChars s mode rest := by
  induction cs with
  | nil => rfl
  | cons c cs ih =>
    obtain ⟨hc, hcs⟩ := not_or.mp (mt List.mem_cons.mpr hcs)
    -- A bracket in the text is escaped, so that two of them never stand side by side.
    have hnext := @head?_escape_append '[' (by decide) (by decide) cs rest hr
    have hplain : resolveChars s mode (c :: (escape cs ++ rest)) =
        c :: (escape cs ++ resolveChars s mode rest) := by
      rw [resolveChars_plain (reference?_eq_none (Ne.symm hc) fun _ => hnext), ih hcs]
    have hsplit : ∀ tail, escape (c :: cs) ++ tail = escapeChar c ++ (escape cs ++ tail) := by
      intro tail
      simp [escape]
    rw [hsplit, hsplit]
    unfold escapeChar
    by_cases hm : c ∈ metaCharacters
    · -- The backslash begins no reference either, and is passed like the character behind it.
      rw [if_pos hm]
      have hslash : reference? ('\\' :: c :: (escape cs ++ rest)) = none :=
        reference?_eq_none (by decide) fun h => absurd h (by decide)
      simp only [List.cons_append, List.nil_append]
      rw [resolveChars_plain hslash, hplain]
    · rw [if_neg hm]
      exact hplain

theorem resolveChars_braced {name rest : List Char} {values : List String} (hname : Word name)
    (hs : s.get? (String.ofList name) = some values) :
    resolveChars s mode ((Part.reference name).source ++ rest) =
      render mode values ++ resolveChars s mode rest := by
  have hspells : Spells name ('$' :: '\x7b' :: (name ++ ([] ++ ['\x7d']))) := .braced hname .absent
  refine resolveChars_reference (@reference?_spelling name _ rest hspells ?_) hs
  intro heq
  have hlen := congrArg List.length heq
  simp [Part.source] at hlen
  omega

end

/-! ## What is put in -/

/-- The pieces that a part becomes. -/
def valuePieces : List (List Char) → List Piece
  | [] => []
  | [v] => v.map .ofChar
  | vs => [(Piece.choice (vs.map .ofText)).grouped]

def Part.resolve (s : Store) : Part → List Char
  | literal cs => escape cs
  | reference name => render .pattern ((s.get? (String.ofList name)).getD [])

def Part.pieces (s : Store) (p : Part) : List Piece := valuePieces (p.values s)

section
variable {s : Store} {ps : List Part}

theorem head?_parts {rest : List Char} (hr : rest.head? ≠ some '[') :
    (ps.flatMap Part.source ++ rest).head? ≠ some '[' := by
  induction ps with
  | nil => exact hr
  | cons p ps ih =>
    rw [List.flatMap_cons, List.append_assoc]
    cases p with
    | literal cs => exact head?_escape_append (by decide) (by decide) ih
    | reference name =>
      intro heq
      cases heq

/-- Each reference gives way to its values, and nothing else changes. -/
theorem resolveChars_parts (h : ∀ p ∈ ps, p.Sound s) {rest : List Char}
    (hr : rest.head? ≠ some '[') : resolveChars s .pattern (ps.flatMap Part.source ++ rest) =
      ps.flatMap (Part.resolve s) ++ resolveChars s .pattern rest := by
  induction ps with
  | nil => rfl
  | cons p ps ih =>
    have hp := h p List.mem_cons_self
    have hrest := ih fun q hq => h q (List.mem_cons_of_mem p hq)
    rw [List.flatMap_cons, List.flatMap_cons, List.append_assoc, List.append_assoc, ← hrest]
    cases p with
    | literal cs => exact resolveChars_escape hp (head?_parts hr)
    | reference name =>
      obtain ⟨hname, v, vs, hs⟩ := hp
      rw [resolveChars_braced hname hs]
      simp only [Part.resolve, hs, Option.getD_some]

theorem resolveChars_anchored (h : ∀ p ∈ ps, p.Sound s) :
    resolveChars s .pattern (anchored ps) = '^' :: (ps.flatMap (Part.resolve s) ++ ['$']) := by
  have hstart : ∀ cs, reference? ('^' :: cs) = none :=
    fun cs => reference?_eq_none (by decide) fun h => absurd h (by decide)
  have hstop : resolveChars s .pattern ['$'] = ['$'] := by
    rw [resolveChars_plain rfl, resolveChars_nil]
  unfold anchored
  rw [resolveChars_plain (hstart _), resolveChars_parts h (by decide), hstop]

/-! ## Reading it -/

variable {r : Reader}

theorem reads_render (hf : r.flags = {}) (values : List String) (rest : List Char) :
    Reads r (render .pattern values ++ rest) (r.addAll (valuePieces (values.map String.toList)))
      rest := by
  -- Nothing, the text itself, or a choice: substitution and reading make the same three cases.
  unfold render
  cases values with
  | nil => exact .refl r rest
  | cons v values =>
    cases values with
    | nil => exact reads_escape hf v.toList rest
    | cons w values =>
      have hchoice := reads_choice hf (List.cons_ne_nil v.toList ((w :: values).map String.toList))
        rest
      rw [← addAll_singleton] at hchoice
      simpa [valuePieces] using hchoice

theorem reads_parts (hf : r.flags = {}) (ps : List Part) (rest : List Char) :
    Reads r (ps.flatMap (Part.resolve s) ++ rest) (r.addAll (ps.flatMap (Part.pieces s))) rest := by
  induction ps generalizing r with
  | nil => exact .refl r rest
  | cons p ps ih =>
    rw [List.flatMap_cons, List.flatMap_cons, List.append_assoc, ← addAll_addAll]
    have hp : Reads r (p.resolve s ++ (ps.flatMap (Part.resolve s) ++ rest))
        (r.addAll (p.pieces s)) (ps.flatMap (Part.resolve s) ++ rest) := by
      cases p with
      | literal cs => exact reads_escape hf cs _
      | reference name => exact reads_render hf _ _
    exact hp.trans (@ih (r.addAll (p.pieces s)) hf)

theorem reads_anchored (ps : List Part) :
    Reads {} ('^' :: (ps.flatMap (Part.resolve s) ++ ['$']))
      (Reader.addAll {} (⟨.look .start, 0⟩ :: (ps.flatMap (Part.pieces s) ++ [⟨.look .stop, 0⟩])))
      [] :=
  reads_between fun _ hf => reads_parts hf ps ['$']

/-! ## What it matches -/

theorem matchesAll_values {vs : List (List Char)} (h : vs ≠ []) {x u z : List Char} :
    MatchesAll (patterns (valuePieces vs)) x u z ↔ u ∈ vs := by
  unfold valuePieces
  split
  · exact absurd rfl h
  · rw [matchesAll_ofChar, List.mem_singleton]
  · exact matchesAll_singleton.trans (matches_choice_ofText h)

theorem Part.Sound.values_ne_nil {p : Part} (h : p.Sound s) : p.values s ≠ [] := by
  cases p with
  | literal cs => exact List.cons_ne_nil cs []
  | reference name =>
    obtain ⟨-, v, vs, hs⟩ := h
    simp [Part.values, hs]

/-- A text is filled part by part. -/
theorem fills_cons_iff {p : Part} {t : List Char} :
    Fills s (p :: ps) t ↔ ∃ u w, t = u ++ w ∧ u ∈ p.values s ∧ Fills s ps w := by
  constructor
  · intro h
    cases h with
    | literal h => exact ⟨_, _, rfl, List.mem_singleton_self _, h⟩
    | reference hs hv h => exact ⟨_, _, rfl, by simpa [Part.values, hs] using ⟨_, hv, rfl⟩, h⟩
  · rintro ⟨u, w, rfl, hu, h⟩
    cases p with
    | literal cs =>
      rw [List.mem_singleton.mp hu]
      exact .literal h
    | reference name =>
      obtain ⟨v, hv, rfl⟩ := List.mem_map.mp hu
      cases hs : s.get? (String.ofList name) with
      | none =>
        rw [hs] at hv
        cases hv
      | some vs =>
        rw [hs] at hv
        exact .reference hs hv h

theorem matchesAll_parts (h : ∀ p ∈ ps, p.Sound s) {x u z : List Char} :
    MatchesAll (patterns (ps.flatMap (Part.pieces s))) x u z ↔ Fills s ps u := by
  induction ps generalizing x u with
  | nil =>
    constructor
    · rintro rfl
      exact .nil
    · rintro ⟨⟩
      rfl
  | cons p ps ih =>
    have hsplit : patterns ((p :: ps).flatMap (Part.pieces s)) =
        patterns (p.pieces s) ++ patterns (ps.flatMap (Part.pieces s)) := by
      simp [patterns]
    have hp := (h p List.mem_cons_self).values_ne_nil
    -- What the other parts match does not depend on what stands before them.
    have hps : ∀ x w, MatchesAll (patterns (ps.flatMap (Part.pieces s))) x w z ↔ Fills s ps w :=
      fun _ _ => ih fun q hq => h q (List.mem_cons_of_mem p hq)
    rw [hsplit, matchesAll_append, fills_cons_iff]
    constructor
    · rintro ⟨v, w, rfl, hv, hw⟩
      exact ⟨v, w, rfl, (matchesAll_values hp).mp hv, (hps _ w).mp hw⟩
    · rintro ⟨v, w, rfl, hv, hw⟩
      exact ⟨v, w, rfl, (matchesAll_values hp).mpr hv, (hps _ w).mpr hw⟩

/-- Pieces made of texts are nested little, and repeat nothing. -/
theorem valuePieces_spec {vs : List (List Char)} {p : Piece} (h : p ∈ valuePieces vs) :
    p.depth ≤ 3 ∧ Counted p.pattern := by
  have hchar : ∀ {cs : List Char}, ∀ q ∈ cs.map Piece.ofChar, q.depth ≤ 0 ∧ Counted q.pattern := by
    intro cs q hq
    obtain ⟨c, -, rfl⟩ := List.mem_map.mp hq
    exact ⟨Nat.le_refl 0, trivial⟩
  unfold valuePieces at h
  split at h
  · cases h
  · obtain ⟨hd, hc⟩ := hchar p h
    exact ⟨by omega, hc⟩
  · rw [List.mem_singleton] at h
    subst h
    have htext : ∀ q ∈ vs.map Piece.ofText, q.depth ≤ 1 ∧ Counted q.pattern := by
      intro q hq
      obtain ⟨v, -, rfl⟩ := List.mem_map.mp hq
      exact ⟨depth_sequence_le fun q hq => (hchar q hq).1, counted_ofText v⟩
    have hdepth := depth_choice_le fun q hq => (htext q hq).1
    exact ⟨Nat.succ_le_succ hdepth, counted_choice fun q hq => (htext q hq).2⟩

theorem anchored_spec {p : Piece}
    (h : p ∈ ⟨.look .start, 0⟩ :: (ps.flatMap (Part.pieces s) ++ [⟨.look .stop, 0⟩])) :
    p.depth ≤ 3 ∧ Counted p.pattern := by
  rcases List.mem_cons.mp h with rfl | h
  · exact ⟨Nat.zero_le 3, trivial⟩
  rcases List.mem_append.mp h with h | h
  · obtain ⟨q, -, hq⟩ := List.mem_flatMap.mp h
    exact valuePieces_spec hq
  · rw [List.mem_singleton] at h
    subst h
    exact ⟨Nat.zero_le 3, trivial⟩

end

theorem ofString_resolve {s : Store} {ps : List Part} (h : ∀ p ∈ ps, p.Sound s) :
    ofString (s.resolve .pattern (String.ofList (anchored ps))) =
      parse ('^' :: (ps.flatMap (Part.resolve s) ++ ['$'])) := by
  unfold ofString Store.resolve
  rw [String.toList_ofList, String.toList_ofList, resolveChars_anchored h]

/-- **No value escapes from the pattern that it is put into.** A pattern of literals and references
    between `^` and `$` can be read once its variables are put in, and matches the texts that are
    made of its literals with one value for each reference, unless it takes too much room. -/
theorem occursIn_resolve_iff (s : Store) (ps : List Part) (hps : ∀ p ∈ ps, p.Sound s)
    (hsize : ofString (s.resolve .pattern (String.ofList (anchored ps))) ≠ .error .tooLarge) :
    ∃ p, ofString (s.resolve .pattern (String.ofList (anchored ps))) = .ok p ∧
      ∀ t : String, occursIn p t = true ↔ Fills s ps t.toList := by
  -- Of the limits on patterns, only the one on their size is left to be assumed.
  have hdepth := fun p hp => Nat.lt_of_le_of_lt (@anchored_spec s ps p hp).1
    (show 3 < depthLimit by decide)
  rw [ofString_resolve hps] at hsize ⊢
  refine ⟨_, parse_of_reads (reads_anchored ps) hdepth hsize, fun t => ?_⟩
  unfold occursIn
  rw [occurs_iff (counted_sequence fun p hp => (anchored_spec hp).2), occurs_anchored,
    matchesAll_parts hps]

/-- Values that would end a group or a pattern if they were read as patterns, and an empty one. -/
def hostileStore : Store := ⟨[("env", ["a|b", "", "x)$|(.*"])]⟩

def hostileParts : List Part :=
  [.literal "db.".toList, .reference "env".toList, .literal "[[env]]".toList]

theorem hostileParts_sound : ∀ p ∈ hostileParts, p.Sound hostileStore := by
  have hword : Word "env".toList := ⟨by decide, List.all_eq_true.mp (by decide)⟩
  simp only [hostileParts, List.forall_mem_cons, List.not_mem_nil, false_implies, implies_true]
  exact ⟨(by decide : '$' ∉ "db.".toList), ⟨hword, "a|b", ["", "x)$|(.*"], rfl⟩,
    (by decide : '$' ∉ "[[env]]".toList), trivial⟩

theorem hostileParts_small :
    ofString (hostileStore.resolve .pattern (String.ofList (anchored hostileParts))) ≠
      .error .tooLarge := by
  rw [ofString_resolve hostileParts_sound]
  intro h
  cases h

theorem occursIn_resolve_hostile : (∀ p ∈ hostileParts, p.Sound hostileStore) ∧
    ofString (hostileStore.resolve .pattern (String.ofList (anchored hostileParts))) ≠
      .error .tooLarge ∧
    ∃ p, ofString (hostileStore.resolve .pattern (String.ofList (anchored hostileParts))) = .ok p ∧
      ∀ t : String, occursIn p t = true ↔ Fills hostileStore hostileParts t.toList :=
  ⟨hostileParts_sound, hostileParts_small,
    occursIn_resolve_iff hostileStore hostileParts hostileParts_sound hostileParts_small⟩

end PanelSource.Variable
