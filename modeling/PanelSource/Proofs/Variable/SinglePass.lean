import Mathlib.Data.List.Forall2
import PanelSource.Proofs.Variable.Reference
import PanelSource.Variable.Substitution

/- Substitution is a single pass from the left.

   A text is cut into the references in it and the characters between them. A reference is taken
   wherever one begins that has not been passed yet, and a name without braces takes in all word
   characters there are (`Cut`). Every text is cut in one way (`cut_iff`). What takes the place of
   each segment is said without the program too: the values of a stored variable, written for a
   plain text or for a pattern, or else what stands there (`Replaced`). Substitution is the pieces
   that take the place of the segments of the cut, so that what a value brings in is never part of
   what is cut, and the variables that the text does not refer to have no say in it
   (`resolve_single_pass`). -/
namespace PanelSource.Variable

/-- A reference stands in front of the rest of a text, and could not go on into it. -/
structure Stands (name spelling rest : List Char) : Prop where
  spells : Spells name spelling
  whole : spelling = '$' :: name → NoWordAhead rest

/-- No reference begins where a text begins. -/
def NoneStands (cs : List Char) : Prop :=
  ∀ name spelling rest, Stands name spelling rest → cs ≠ spelling ++ rest

/-- A text is cut from the left into references and single characters; a character is passed only
    where no reference begins. -/
inductive Cut : List Char → List Segment → Prop
  | nil : Cut [] []
  | reference {name spelling rest : List Char} {more : List Segment}
      (h : Stands name spelling rest) (hrest : Cut rest more) :
      Cut (spelling ++ rest) (.reference spelling name :: more)
  | plain {c : Char} {rest : List Char} {more : List Segment}
      (h : NoneStands (c :: rest)) (hrest : Cut rest more) : Cut (c :: rest) (.plain c :: more)

/-- The variable that a segment refers to. -/
def Segment.name? : Segment → Option String
  | .plain _ => none
  | .reference _ name => some (String.ofList name)

/-- The variables that segments refer to. -/
def references (segs : List Segment) : List String := segs.filterMap Segment.name?

/-! ## Where references begin -/

theorem reference?_of_stands {name spelling rest : List Char} (h : Stands name spelling rest) :
    reference? (spelling ++ rest) = some (name, rest) :=
  reference?_spelling h.spells h.whole

theorem stands_of_reference? {cs name rest : List Char} (h : reference? cs = some (name, rest)) :
    ∃ spelling, Stands name spelling rest ∧ cs = spelling ++ rest := by
  obtain ⟨spelling, hspells, hcs, hwhole⟩ := spells_of_reference? h
  exact ⟨spelling, ⟨hspells, hwhole⟩, hcs⟩

theorem reference?_eq_none_iff {cs : List Char} : reference? cs = none ↔ NoneStands cs := by
  constructor
  · intro hnone name spelling rest h hcs
    rw [hcs, reference?_of_stands h] at hnone
    cases hnone
  · intro hnone
    cases h : reference? cs with
    | none => rfl
    | some found =>
      obtain ⟨name, rest⟩ := found
      obtain ⟨spelling, hstands, hcs⟩ := stands_of_reference? h
      exact absurd hcs (hnone name spelling rest hstands)

/-! ## The one way to cut a text -/

theorem segments_nil : segments [] = [] := by
  unfold segments
  rfl

theorem segments_reference {name spelling rest : List Char} (h : Stands name spelling rest) :
    segments (spelling ++ rest) = .reference spelling name :: segments rest := by
  have hread := reference?_of_stands h
  rw [segments.eq_def]
  split
  · rename_i heq
    rw [hread] at heq
    cases heq
    simp
  · rename_i heq
    rw [hread] at heq
    cases heq

theorem segments_plain {c : Char} {rest : List Char} (h : NoneStands (c :: rest)) :
    segments (c :: rest) = .plain c :: segments rest := by
  have hread := reference?_eq_none_iff.mpr h
  rw [segments.eq_def]
  split
  · rename_i heq
    rw [hread] at heq
    cases heq
  · rfl

theorem cut_segments (cs : List Char) : Cut cs (segments cs) := by
  fun_induction segments cs with
  | case1 cs name rest h ih =>
    obtain ⟨spelling, hstands, rfl⟩ := stands_of_reference? h
    -- What is taken off the front is as long as the spelling, so it is the spelling.
    have htake : (spelling ++ rest).take ((spelling ++ rest).length - rest.length) = spelling := by
      simp
    rw [htake]
    exact .reference hstands ih
  | case2 => exact .nil
  | case3 c rest h ih => exact .plain (reference?_eq_none_iff.mp h) ih

theorem Cut.eq_segments {cs : List Char} {segs : List Segment} (h : Cut cs segs) :
    segs = segments cs := by
  induction h with
  | nil => exact segments_nil.symm
  | reference hstands _ ih => rw [segments_reference hstands, ih]
  | plain hnone _ ih => rw [segments_plain hnone, ih]

/-- A text is cut into its segments, and into nothing else. -/
theorem cut_iff {cs : List Char} {segs : List Segment} : Cut cs segs ↔ segs = segments cs := by
  constructor
  · exact Cut.eq_segments
  · rintro rfl
    exact cut_segments cs

/-! ## What takes the place of a segment -/

/-- The characters that a pattern takes for something else than themselves. -/
def special : List Char := "\\.+*?()|[]\x7b\x7d^$#&-~".toList

/-- A text as it is written in a pattern: with a backslash in front of every special character. -/
inductive Escaped : List Char → List Char → Prop
  | nil : Escaped [] []
  | marked {c : Char} {cs out : List Char} (hc : c ∈ special) (h : Escaped cs out) :
      Escaped (c :: cs) ('\\' :: c :: out)
  | plain {c : Char} {cs out : List Char} (hc : c ∉ special) (h : Escaped cs out) :
      Escaped (c :: cs) (c :: out)

/-- What the values of a variable are written as: `a` or `{a,b}` in plain text, and in a pattern
    `a` or `(a|b)` with the values escaped. -/
inductive Shown : Mode → List String → List Char → Prop
  | nothing (mode : Mode) : Shown mode [] []
  | one (v : String) : Shown .plain [v] v.toList
  | list (v w : String) (vs : List String) :
      Shown .plain (v :: w :: vs) ("\x7b" ++ ",".intercalate (v :: w :: vs) ++ "\x7d").toList
  | escaped {v : String} {out : List Char} (h : Escaped v.toList out) : Shown .pattern [v] out
  | choice {v w : String} {vs : List String} {outs : List (List Char)}
      (h : List.Forall₂ (fun v out => Escaped v.toList out) (v :: w :: vs) outs) :
      Shown .pattern (v :: w :: vs) ('(' :: (['|'].intercalate outs ++ [')']))

/-- What takes the place of a segment: the values of a stored variable take the place of a reference
    to it, and everything else stays as it is written. -/
inductive Replaced (s : Store) (mode : Mode) : Segment → List Char → Prop
  | plain (c : Char) : Replaced s mode (.plain c) [c]
  | unknown {spelling name : List Char} (h : s.get? (String.ofList name) = none) :
      Replaced s mode (.reference spelling name) spelling
  | stored {spelling name out : List Char} {values : List String}
      (h : s.get? (String.ofList name) = some values) (hshown : Shown mode values out) :
      Replaced s mode (.reference spelling name) out

theorem special_eq : special = Pattern.metaCharacters := by decide +kernel

theorem escape_cons_of_special {c : Char} (hc : c ∈ special) (cs : List Char) :
    Pattern.escape (c :: cs) = '\\' :: c :: Pattern.escape cs := by
  rw [special_eq] at hc
  simp [Pattern.escape, Pattern.escapeChar, hc]

theorem escape_cons_of_plain {c : Char} (hc : c ∉ special) (cs : List Char) :
    Pattern.escape (c :: cs) = c :: Pattern.escape cs := by
  rw [special_eq] at hc
  simp [Pattern.escape, Pattern.escapeChar, hc]

theorem escaped_iff {cs out : List Char} : Escaped cs out ↔ out = Pattern.escape cs := by
  constructor
  · intro h
    induction h with
    | nil => rfl
    | marked hc _ ih => rw [escape_cons_of_special hc, ih]
    | plain hc _ ih => rw [escape_cons_of_plain hc, ih]
  · rintro rfl
    induction cs with
    | nil => exact .nil
    | cons c cs ih =>
      by_cases hc : c ∈ special
      · rw [escape_cons_of_special hc]
        exact .marked hc ih
      · rw [escape_cons_of_plain hc]
        exact .plain hc ih

/-- Where each item has one image, a list of images is the image of the list. -/
theorem forall₂_image_iff {α β : Type} {r : α → β → Prop} {f : α → β}
    (h : ∀ x y, r x y ↔ y = f x) {xs : List α} {ys : List β} :
    List.Forall₂ r xs ys ↔ ys = xs.map f := by
  calc List.Forall₂ r xs ys
    _ ↔ List.Forall₂ (fun x y => f x = y) xs ys := by
      rw [show r = fun x y => f x = y from funext₂ fun x y => propext ((h x y).trans eq_comm)]
    _ ↔ List.Forall₂ (· = ·) (xs.map f) ys := List.forall₂_map_left_iff.symm
    _ ↔ ys = xs.map f := by rw [List.forall₂_eq_eq_eq, eq_comm]

theorem shown_iff {mode : Mode} {values : List String} {out : List Char} :
    Shown mode values out ↔ out = render mode values := by
  have hchoice : ∀ {vs : List String} {outs : List (List Char)},
      List.Forall₂ (fun v out => Escaped v.toList out) vs outs ↔
        outs = (vs.map String.toList).map Pattern.escape := by
    intro vs outs
    rw [List.map_map]
    exact forall₂_image_iff (f := Pattern.escape ∘ String.toList) fun v out => escaped_iff
  constructor
  · rintro (_ | _ | ⟨v, w, vs⟩ | h | h)
    · cases mode <;> rfl
    · rfl
    · simp [render, String.toList_intercalate]
    · exact escaped_iff.mp h
    · rw [hchoice.mp h]
      rfl
  · -- Each mode tells none, one and several values apart.
    rintro rfl
    match mode, values with
    | .plain, [] => exact .nothing .plain
    | .pattern, [] => exact .nothing .pattern
    | .plain, [v] => exact .one v
    | .pattern, [v] => exact .escaped (escaped_iff.mpr rfl)
    | .plain, v :: w :: vs =>
      have h := Shown.list v w vs
      simpa [render, String.toList_intercalate] using h
    | .pattern, v :: w :: vs => exact .choice (hchoice.mpr rfl)

theorem replaced_iff {s : Store} {mode : Mode} {seg : Segment} {out : List Char} :
    Replaced s mode seg out ↔ out = seg.resolve s mode := by
  constructor
  · rintro (_ | h | ⟨h, hshown⟩)
    · rfl
    · simp only [Segment.resolve, h]
    · simp only [Segment.resolve, h]
      exact shown_iff.mp hshown
  · rintro rfl
    cases seg with
    | plain c => exact .plain c
    | reference spelling name =>
      cases h : s.get? (String.ofList name) with
      | none =>
        simp only [Segment.resolve, h]
        exact .unknown h
      | some values =>
        simp only [Segment.resolve, h]
        exact .stored h (shown_iff.mpr rfl)

/-! ## What has a say in it -/

section
variable {s s' : Store} {mode : Mode}

theorem Segment.resolve_congr {seg : Segment}
    (h : ∀ name, seg.name? = some name → s'.get? name = s.get? name) :
    seg.resolve s' mode = seg.resolve s mode := by
  cases seg with
  | plain c => rfl
  | reference spelling name =>
    simp only [Segment.resolve, h _ rfl]

theorem Segment.resolve_of_unknown {seg : Segment}
    (h : ∀ name, seg.name? = some name → s.get? name = none) :
    seg.resolve s mode = seg.source := by
  cases seg with
  | plain c => rfl
  | reference spelling name =>
    simp only [Segment.resolve, h _ rfl, Segment.source]

theorem name?_mem_references {segs : List Segment} {seg : Segment} {name : String}
    (hseg : seg ∈ segs) (hname : seg.name? = some name) : name ∈ references segs :=
  List.mem_filterMap.mpr ⟨seg, hseg, hname⟩

theorem flatMap_resolve_congr {segs : List Segment}
    (h : ∀ name ∈ references segs, s'.get? name = s.get? name) :
    segs.flatMap (Segment.resolve s' mode) = segs.flatMap (Segment.resolve s mode) := by
  apply List.flatMap_congr
  intro seg hseg
  apply Segment.resolve_congr
  intro name hname
  exact h name (name?_mem_references hseg hname)

theorem flatMap_resolve_of_unknown {segs : List Segment}
    (h : ∀ name ∈ references segs, s.get? name = none) :
    segs.flatMap (Segment.resolve s mode) = segs.flatMap Segment.source := by
  apply List.flatMap_congr
  intro seg hseg
  apply Segment.resolve_of_unknown
  intro name hname
  exact h name (name?_mem_references hseg hname)

end

/-- **Substitution is a single pass from the left.** Every text is cut into references and single
    characters in one way, which does not depend on the variables. Each segment has one piece that
    takes its place: for a reference to a stored variable what the variable's values are written as,
    for every other reference and every other character the segment itself. Substitution is these
    pieces one after the other; what is put in is not cut again. So a store that agrees about the
    variables that the text refers to gives the same, and one that has none of them gives the
    text. -/
theorem resolve_single_pass (s : Store) (mode : Mode) (text : String) :
    ∃ segs pieces, (∀ other, Cut text.toList other ↔ other = segs) ∧
      (∀ other, List.Forall₂ (Replaced s mode) segs other ↔ other = pieces) ∧
      (s.resolve mode text).toList = pieces.flatten ∧
      (∀ s' : Store, (∀ name ∈ references segs, s'.get? name = s.get? name) →
        s'.resolve mode text = s.resolve mode text) ∧
      ∀ s' : Store, (∀ name ∈ references segs, s'.get? name = none) →
        s'.resolve mode text = text := by
  refine ⟨segments text.toList, (segments text.toList).map (Segment.resolve s mode),
    fun other => cut_iff, fun other => ?_, ?_, ?_, ?_⟩
  · exact forall₂_image_iff (f := Segment.resolve s mode) fun seg out => replaced_iff
  · unfold Store.resolve resolveChars
    rw [String.toList_ofList, List.flatMap_def]
  · intro s' hagree
    unfold Store.resolve resolveChars
    rw [flatMap_resolve_congr hagree]
  · intro s' hnone
    unfold Store.resolve resolveChars
    rw [flatMap_resolve_of_unknown hnone, source_segments, String.ofList_toList]

/-- A variable whose value spells a reference, and one with two values. -/
def nested : Store := ⟨[("a", ["[[b]]$"]), ("b", ["x.y", "z"])]⟩

def nestedText : String := "$a\x7bb\x7d [[b:csv]]$$b $c"

def nestedCut : List Segment :=
  [.reference "$a".toList "a".toList, .plain '\x7b', .plain 'b', .plain '\x7d', .plain ' ',
   .reference "[[b:csv]]".toList "b".toList, .plain '$', .reference "$b".toList "b".toList,
   .plain ' ', .reference "$c".toList "c".toList]

/-- What a value brings in stays as it is, and a dollar sign may stand in front of a reference. -/
theorem resolve_single_pass_nested : Cut nestedText.toList nestedCut ∧
    nested.resolve .plain nestedText = "[[b]]$\x7bb\x7d \x7bx.y,z\x7d$\x7bx.y,z\x7d $c" ∧
    nested.resolve .pattern nestedText =
      "\\[\\[b\\]\\]\\$\x7bb\x7d (x\\.y|z)$(x\\.y|z) $c" := by
  have hcut : Cut nestedText.toList nestedCut := cut_iff.mpr (by decide +kernel)
  have ha : nested.get? (String.ofList "a".toList) = some ["[[b]]$"] := by decide +kernel
  have hb : nested.get? (String.ofList "b".toList) = some ["x.y", "z"] := by decide +kernel
  have hc : nested.get? (String.ofList "c".toList) = none := by decide +kernel
  -- The pieces in the place of the cut, for what the two variables are written as.
  have hpieces : ∀ {mode a b}, Shown mode ["[[b]]$"] a → Shown mode ["x.y", "z"] b →
      List.Forall₂ (Replaced nested mode) nestedCut
        [a, ['\x7b'], ['b'], ['\x7d'], [' '], b, ['$'], b, [' '], "$c".toList] := by
    intro mode a b ha' hb'
    exact .cons (.stored ha ha') <| .cons (.plain _) <| .cons (.plain _) <| .cons (.plain _) <|
      .cons (.plain _) <| .cons (.stored hb hb') <| .cons (.plain _) <| .cons (.stored hb hb') <|
      .cons (.plain _) <| .cons (.unknown hc) .nil
  have hout : ∀ {mode a b}, Shown mode ["[[b]]$"] a → Shown mode ["x.y", "z"] b →
      (nested.resolve mode nestedText).toList =
        a ++ "\x7bb\x7d ".toList ++ b ++ "$".toList ++ b ++ " $c".toList := by
    intro mode a b ha' hb'
    obtain ⟨segs, pieces, hsegs, hreplaced, hout, -⟩ := resolve_single_pass nested mode nestedText
    obtain rfl := (hsegs _).mp hcut
    rw [hout, ← (hreplaced _).mp (hpieces ha' hb')]
    simp
  refine ⟨hcut, ?_, ?_⟩
  · rw [← String.toList_inj, hout (.one _) (.list "x.y" "z" [])]
    decide +kernel
  · have hx : Escaped "x.y".toList "x\\.y".toList := escaped_iff.mpr (by decide +kernel)
    have hz : Escaped "z".toList "z".toList := escaped_iff.mpr (by decide +kernel)
    have hdollar : Escaped "[[b]]$".toList "\\[\\[b\\]\\]\\$".toList :=
      escaped_iff.mpr (by decide +kernel)
    rw [← String.toList_inj, hout (.escaped hdollar) (.choice (.cons hx (.cons hz .nil)))]
    decide +kernel

end PanelSource.Variable
