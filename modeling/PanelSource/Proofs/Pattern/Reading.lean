import PanelSource.Pattern.Reader

/- What the reader makes of escaped texts.

   `Reads r cs r' rest` says that the reader, from a state `r` before the characters `cs`, comes to
   the state `r'` before the characters `rest`. Escaped characters add one piece each, whatever they
   are (`reads_escape`), and escaped texts between parentheses and bars add one piece that is a
   choice between them (`reads_choice`). Pieces that are nested within the limit make a pattern,
   unless it takes too much room (`parse_of_reads`). -/
namespace PanelSource.Pattern

/-! ## Pieces of a reader -/

def Piece.ofChar (c : Char) : Piece := .ofSet (.single c)

/-- A text as a piece: its characters, one after the other. -/
def Piece.ofText (cs : List Char) : Piece := .sequence (cs.map .ofChar)

def Piece.grouped (p : Piece) : Piece := ⟨p.pattern, p.depth + 1⟩

/-- Adds pieces one after the other. -/
def Reader.addAll (r : Reader) (ps : List Piece) : Reader :=
  { r with group := { r.group with items := (ps.map Item.piece).reverse ++ r.group.items } }

section
variable {r : Reader} {ps qs : List Piece} {p : Piece}

theorem addAll_singleton : r.addAll [p] = r.add p := rfl

theorem addAll_addAll : (r.addAll ps).addAll qs = r.addAll (ps ++ qs) := by
  simp [Reader.addAll]

@[simp] theorem flags_addAll : (r.addAll ps).flags = r.flags := rfl

@[simp] theorem names_addAll : (r.addAll ps).names = r.names := rfl

@[simp] theorem outer_addAll : (r.addAll ps).outer = r.outer := rfl

end

theorem toPiece_items (ps : List Piece) :
    ((ps.map Item.piece).reverse.reverse).map Item.toPiece = ps := by
  rw [List.reverse_reverse, List.map_map]
  exact List.map_id ps

/-! ## Steps -/

/-- The reader comes from one state and text to another. It needs no more steps than the characters
    it takes. -/
def Reads (r : Reader) (cs : List Char) (r' : Reader) (rest : List Char) : Prop :=
  ∃ n, n + rest.length ≤ cs.length ∧ ∀ k, Reader.run (n + k) r cs = Reader.run k r' rest

section
variable {r r' r'' : Reader} {cs cs' cs'' rest : List Char}

theorem Reads.refl (r : Reader) (cs : List Char) : Reads r cs r cs :=
  ⟨0, by omega, fun k => by rw [Nat.zero_add]⟩

theorem Reads.trans (h : Reads r cs r' cs') (h' : Reads r' cs' r'' cs'') : Reads r cs r'' cs'' := by
  obtain ⟨n, hn, hrun⟩ := h
  obtain ⟨m, hm, hrun'⟩ := h'
  refine ⟨n + m, by omega, fun k => ?_⟩
  rw [Nat.add_assoc, hrun, hrun']

theorem Reads.of_step {c : Char} (hf : r.flags = {}) (h : r.step c cs = .ok (r', rest))
    (hlen : rest.length ≤ cs.length) : Reads r (c :: cs) r' rest := by
  refine ⟨1, by simp only [List.length_cons]; omega, fun k => ?_⟩
  have hskip : r.flags.skip (c :: cs) = c :: cs := by
    rw [hf]
    rfl
  rw [Nat.add_comm, Reader.run, hskip]
  simp only [h]
  rfl

theorem Reads.run (h : Reads r cs r' []) : Reader.run cs.length r cs = .ok r' := by
  obtain ⟨n, hn, hrun⟩ := h
  have hskip : r'.flags.skip [] = [] := by
    unfold Flags.skip dropComments
    simp
  obtain ⟨k, hk⟩ := Nat.exists_eq_add_of_le (show n ≤ cs.length by simpa using hn)
  rw [hk, hrun]
  unfold Reader.run
  simp only [hskip]

end

/-! ## Escaped texts -/

section
variable {r : Reader}

theorem step_plain {c : Char} {rest : List Char} (hf : r.flags = {}) (hc : c ∉ metaCharacters) :
    r.step c rest = .ok (r.add (.ofChar c), rest) := by
  have hadd : r.addAtom (.literal c false) = .ok (r.add (.ofChar c)) := by
    simp only [Reader.addAtom, hf]
    rfl
  -- Every other case of a step is for a character that means something.
  unfold Reader.step
  split
  case h_13 => rw [hadd]; rfl
  all_goals exact absurd (by decide) hc

theorem step_backslash {c : Char} {rest : List Char} (hf : r.flags = {})
    (hc : c ∈ metaCharacters) : r.step '\\' (c :: rest) = .ok (r.add (.ofChar c), rest) := by
  have hesc : isEscapable c = true := by
    unfold isEscapable
    rw [List.contains_iff_mem.mpr hc, Bool.true_or]
  have hread : readEscape r.flags (c :: rest) = .ok (.literal c false, rest) := by
    simp only [readEscape, hesc, if_true]
  have hadd : r.addAtom (.literal c false) = .ok (r.add (.ofChar c)) := by
    simp only [Reader.addAtom, hf]
    rfl
  simp only [Reader.step, hread, bind, Except.bind, hadd]
  rfl

theorem reads_escapeChar (hf : r.flags = {}) (c : Char) (rest : List Char) :
    Reads r (escapeChar c ++ rest) (r.add (.ofChar c)) rest := by
  unfold escapeChar
  by_cases hc : c ∈ metaCharacters
  · rw [if_pos hc]
    exact .of_step hf (step_backslash hf hc) (by simp)
  · rw [if_neg hc]
    exact .of_step hf (step_plain hf hc) (Nat.le_refl _)

/-- An escaped text adds its characters. -/
theorem reads_escape (hf : r.flags = {}) (cs rest : List Char) :
    Reads r (escape cs ++ rest) (r.addAll (cs.map .ofChar)) rest := by
  induction cs generalizing r with
  | nil => exact .refl r rest
  | cons c cs ih =>
    have hc := reads_escapeChar hf c (escape cs ++ rest)
    have hcs := @ih (r.add (.ofChar c)) hf
    rw [← addAll_singleton, addAll_addAll] at hcs
    rw [← addAll_singleton] at hc
    simpa [escape] using hc.trans hcs

/-- An escaped text does not begin with a character that means something, but for the backslash. -/
theorem head?_escape_append {d : Char} (hd : d ∈ metaCharacters) (hne : d ≠ '\\')
    {cs rest : List Char} (h : rest.head? ≠ some d) : (escape cs ++ rest).head? ≠ some d := by
  cases cs with
  | nil => exact h
  | cons c cs =>
    unfold escape
    rw [List.flatMap_cons]
    unfold escapeChar
    by_cases hc : c ∈ metaCharacters
    · rw [if_pos hc]
      intro heq
      cases heq
      exact hne rfl
    · rw [if_neg hc]
      intro heq
      cases heq
      exact hc hd

theorem reads_start (hf : r.flags = {}) (cs : List Char) :
    Reads r ('^' :: cs) (r.add ⟨.look .start, 0⟩) cs := by
  refine .of_step hf ?_ (Nat.le_refl _)
  simp only [Reader.step, hf]
  rfl

theorem reads_stop (hf : r.flags = {}) (cs : List Char) :
    Reads r ('$' :: cs) (r.add ⟨.look .stop, 0⟩) cs := by
  refine .of_step hf ?_ (Nat.le_refl _)
  simp only [Reader.step, hf]
  rfl

theorem reads_between {cs : List Char} {ps : List Piece}
    (h : ∀ r : Reader, r.flags = {} → Reads r (cs ++ ['$']) (r.addAll ps) ['$']) :
    Reads {} ('^' :: (cs ++ ['$']))
      (Reader.addAll {} (⟨.look .start, 0⟩ :: (ps ++ [⟨.look .stop, 0⟩]))) [] := by
  have hstart := @reads_start {} rfl (cs ++ ['$'])
  have hparts := h (Reader.add {} ⟨.look .start, 0⟩) rfl
  have hstop := @reads_stop ((Reader.add {} ⟨.look .start, 0⟩).addAll ps) rfl []
  have hall := hstart.trans (hparts.trans hstop)
  rwa [← addAll_singleton, ← addAll_singleton, addAll_addAll, addAll_addAll] at hall

/-! ## Choices -/

theorem reads_open (hf : r.flags = {}) {cs : List Char} (h : cs.head? ≠ some '?') :
    Reads r ('(' :: cs) (r.enter {}) cs := by
  refine .of_step hf ?_ (Nat.le_refl _)
  have hskip : r.flags.skip cs = cs := by
    rw [hf]
    rfl
  unfold Reader.step readGroup
  simp only [hskip]
  split
  case h_8 => rw [hf]
  all_goals exact absurd rfl h

theorem reads_bar (hf : r.flags = {}) (cs : List Char) :
    Reads r ('|' :: cs) { r with group := r.group.branch } cs :=
  .of_step hf rfl (Nat.le_refl _)

theorem reads_close (hf : r.flags = {}) {g : OpenGroup} {outer : List OpenGroup}
    (ho : r.outer = g :: outer) (cs : List Char) :
    Reads r (')' :: cs)
      { r with flags := r.group.outside, group := g.add (.piece r.group.value.grouped),
               outer := outer } cs := by
  refine .of_step hf ?_ (Nat.le_refl _)
  simp only [Reader.step, Reader.leave, ho]
  rfl

/-- The alternative that ends when an escaped text has been read is that text. -/
theorem branch_addAll (hi : r.group.items = []) (v : List Char) :
    (r.addAll (v.map .ofChar)).group.branch =
      { r.group with branches := .ofText v :: r.group.branches } := by
  simp only [Reader.addAll, OpenGroup.branch, hi, List.append_nil, toPiece_items]
  rfl

/-- The alternatives that are left, after those that are finished, up to the end of their group. -/
theorem reads_alternatives (hf : r.flags = {}) {g : OpenGroup} {outer : List OpenGroup}
    (ho : r.outer = g :: outer) (hi : r.group.items = []) (v : List Char) (vs : List (List Char))
    (rest : List Char) :
    Reads r (escape v ++ (vs.flatMap (fun w => '|' :: escape w) ++ ')' :: rest))
      { r with
        flags := r.group.outside
        group := g.add
          (.piece (Piece.choice (r.group.branches.reverse ++ (v :: vs).map .ofText)).grouped)
        outer := outer } rest := by
  induction vs generalizing r v with
  | nil =>
    -- The last one is finished by the parenthesis.
    have hv := reads_escape hf v (')' :: rest)
    have hclose := reads_close (r := r.addAll (v.map .ofChar)) hf ho rest
    simp only [OpenGroup.value, branch_addAll hi, List.reverse_cons] at hclose
    exact hv.trans hclose
  | cons w vs ih =>
    have hv := reads_escape hf v ((w :: vs).flatMap (fun w => '|' :: escape w) ++ ')' :: rest)
    have hbar := reads_bar (r := r.addAll (v.map .ofChar)) hf
      (escape w ++ (vs.flatMap (fun w => '|' :: escape w) ++ ')' :: rest))
    rw [branch_addAll hi] at hbar
    have hrest := @ih { r with group := { r.group with branches := .ofText v :: r.group.branches } }
      hf ho hi w
    simp only [List.flatMap_cons, List.cons_append, List.append_assoc] at hv ⊢
    refine hv.trans (hbar.trans ?_)
    simpa using hrest

theorem intercalate_bar (v : List Char) (vs : List (List Char)) :
    ['|'].intercalate ((v :: vs).map escape) =
      escape v ++ vs.flatMap (fun w => '|' :: escape w) := by
  induction vs generalizing v with
  | nil => simp
  | cons w vs ih =>
    rw [List.map_cons, List.map_cons, List.intercalate_cons_cons, ← List.map_cons, ih]
    simp

/-- Escaped texts between parentheses and bars add a choice between them. -/
theorem reads_choice (hf : r.flags = {}) {vs : List (List Char)} (hvs : vs ≠ [])
    (rest : List Char) :
    Reads r ('(' :: (['|'].intercalate (vs.map escape) ++ ')' :: rest))
      (r.add (Piece.choice (vs.map .ofText)).grouped) rest := by
  obtain ⟨v, vs, rfl⟩ := List.exists_cons_of_ne_nil hvs
  rw [intercalate_bar, List.append_assoc]
  -- A question mark would make this another kind of group; in a value it is escaped.
  have hhead : (vs.flatMap (fun w => '|' :: escape w) ++ ')' :: rest).head? ≠ some '?' := by
    cases vs with
    | nil =>
      intro heq
      cases heq
    | cons w vs =>
      intro heq
      cases heq
  have hopen := reads_open hf (@head?_escape_append '?' (by decide) (by decide) v _ hhead)
  have hrest := @reads_alternatives (r.enter {}) rfl r.group r.outer rfl rfl v vs rest
  refine hopen.trans ?_
  simpa [Reader.enter, Reader.add, hf] using hrest

end

/-! ## The pattern of a text -/

section
variable {ps : List Piece} {n : Nat}

theorem foldl_max_le {ds : List Nat} {a : Nat} (ha : a ≤ n) (h : ∀ d ∈ ds, d ≤ n) :
    ds.foldl max a ≤ n := by
  induction ds generalizing a with
  | nil => exact ha
  | cons d ds ih =>
    have hd := h d List.mem_cons_self
    exact ih (by omega) fun e he => h e (List.mem_cons_of_mem d he)

theorem depth_sequence_le (h : ∀ p ∈ ps, p.depth ≤ n) : (Piece.sequence ps).depth ≤ n + 1 := by
  have hmax := @foldl_max_le n (ps.map (·.depth)) 0 (Nat.zero_le n) (by simpa using h)
  unfold Piece.sequence
  split
  · exact Nat.zero_le _
  · have := h _ List.mem_cons_self
    omega
  · exact Nat.succ_le_succ hmax

theorem depth_choice_le (h : ∀ p ∈ ps, p.depth ≤ n) : (Piece.choice ps).depth ≤ n + 1 := by
  have hmax := @foldl_max_le n (ps.map (·.depth)) 0 (Nat.zero_le n) (by simpa using h)
  unfold Piece.choice
  split
  · exact Nat.zero_le _
  · have := h _ List.mem_cons_self
    omega
  · exact Nat.succ_le_succ hmax

end

/-- A text that is read to its end means the sequence of its pieces, or takes too much room. -/
theorem parse_eq_of_reads {cs : List Char} {ps : List Piece}
    (h : Reads {} cs (Reader.addAll {} ps) []) (hdepth : ∀ p ∈ ps, p.depth < depthLimit) :
    parse cs = if weightLimit < weight (Piece.sequence ps).pattern then .error .tooLarge
      else .ok (Piece.sequence ps).pattern := by
  have hvalue : (Reader.addAll {} ps).group.value = Piece.sequence ps := by
    simp only [Reader.addAll, OpenGroup.value, OpenGroup.branch, List.append_nil, toPiece_items]
    rfl
  have hle : (Piece.sequence ps).depth ≤ depthLimit :=
    depth_sequence_le (n := depthLimit - 1) fun p hp => by have := hdepth p hp; omega
  unfold parse
  simp only [h.run, hvalue, bind, Except.bind]
  rw [if_neg (by simp [Reader.addAll]), if_neg (by omega)]
  rfl

theorem parse_of_reads {cs : List Char} {ps : List Piece} (h : Reads {} cs (Reader.addAll {} ps) [])
    (hdepth : ∀ p ∈ ps, p.depth < depthLimit) (hsize : parse cs ≠ .error .tooLarge) :
    parse cs = .ok (Piece.sequence ps).pattern := by
  rw [parse_eq_of_reads h hdepth] at hsize ⊢
  split at hsize
  · exact absurd rfl hsize
  · rw [if_neg ‹_›]

end PanelSource.Pattern
