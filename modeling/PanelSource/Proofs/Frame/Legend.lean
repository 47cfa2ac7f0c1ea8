import Mathlib.Data.List.Forall2
import PanelSource.Frame.Legend
import PanelSource.Proofs.Text.Strip

/- Legends from the pieces that a format is written with.

   A format is a row of literals, which have no opening brace, and placeholders, which have blanks
   around a name. It is taken apart into these placeholders and the characters of these literals
   (`legendParts_sources`), wherever closing braces stand in a literal and however placeholders
   touch. So each piece comes out on its own: a literal as it is, and a placeholder as the value of
   the first label with its name, or as it is written where there is none (`legend_of_pieces`). -/
namespace PanelSource.Frame
open Text

/-- Text without an opening brace. -/
structure Literal where
  chars : List Char
  noOpening : '\x7b' ∉ chars

/-- The name in a placeholder: it begins and ends with something else than a blank, and has neither
    closing braces nor line feeds. -/
structure PlaceholderName where
  chars : List Char
  bare : Bare chars
  noClosing : '\x7d' ∉ chars
  oneLine : '\n' ∉ chars

/-- A piece that formats are written with. -/
inductive Piece where
  | literal (text : Literal)
  | placeholder (before : Gap) (name : PlaceholderName) (after : Gap)

def spelling (before : Gap) (name : PlaceholderName) (after : Gap) : List Char :=
  '\x7b' :: '\x7b' :: (before.chars ++ (name.chars ++ (after.chars ++ ['\x7d', '\x7d'])))

def Piece.source : Piece → List Char
  | .literal text => text.chars
  | .placeholder before name after => spelling before name after

def written (pieces : List Piece) : String := String.ofList (pieces.flatMap Piece.source)

/-- What comes out for a piece in a row with these labels. -/
inductive Filled (labels : List Label) : Piece → List Char → Prop
  | literal {text : Literal} : Filled labels (.literal text) text.chars
  /-- The value of the first label with the name. -/
  | known {before after : Gap} {name : PlaceholderName} {earlier later : List Label} {value : String}
      (hlabels : labels = earlier ++ (String.ofList name.chars, value) :: later)
      (hfirst : ∀ l ∈ earlier, l.1 ≠ String.ofList name.chars) :
      Filled labels (.placeholder before name after) value.toList
  | unknown {before after : Gap} {name : PlaceholderName}
      (hnone : ∀ l ∈ labels, l.1 ≠ String.ofList name.chars) :
      Filled labels (.placeholder before name after) (spelling before name after)

/-! ## Taking a format apart -/

theorem legendParts_nil : legendParts [] = [] := by
  unfold legendParts
  rfl

theorem placeholder?_of_ne {c : Char} (h : c ≠ '\x7b') (rest : List Char) :
    placeholder? (c :: rest) = none := by
  unfold placeholder?
  split
  · rename_i heq
    exact absurd (List.cons.inj heq).1 h
  · rfl

theorem legendParts_plain {c : Char} (h : c ≠ '\x7b') (rest : List Char) :
    legendParts (c :: rest) = .plain c :: legendParts rest := by
  rw [legendParts.eq_def]
  split
  · rename_i hsome
    rw [placeholder?_of_ne h] at hsome
    cases hsome
  · rfl

theorem legendParts_literal {cs : List Char} (h : '\x7b' ∉ cs) (rest : List Char) :
    legendParts (cs ++ rest) = cs.map .plain ++ legendParts rest := by
  induction cs with
  | nil => rfl
  | cons c cs ih =>
    obtain ⟨hc, hcs⟩ := not_or.mp (List.mem_cons.not.mp h)
    rw [List.cons_append, legendParts_plain (Ne.symm hc), ih hcs]
    rfl

theorem afterBraces_gap (after : Gap) (rest : List Char) :
    afterBraces (after.chars ++ '\x7d' :: '\x7d' :: rest) = some rest := by
  unfold afterBraces
  rw [stripStart_blank_append after.blank]
  rfl

/-- Nothing closes inside a name: behind blanks there is still a character of the name. -/
theorem afterBraces_inside {name : PlaceholderName} {x y : List Char}
    (hname : name.chars = x ++ y) (hy : y ≠ []) (rest : List Char) :
    afterBraces (y ++ rest) = none := by
  have hlast : isBlank (y.getLast hy) = false := (hname ▸ name.bare).last_append hy
  have hbrace : '\x7d' ∉ y := fun h => name.noClosing (hname ▸ List.mem_append_right x h)
  obtain ⟨gap, inner, hgap, hinner, rfl⟩ := blank_append_bare hy hlast
  unfold afterBraces
  rw [List.append_assoc, stripStart_blank_append hgap, hinner.stripStart_append]
  split
  · -- Two closing braces would begin with a character of the name.
    rename_i heq
    obtain ⟨c, cs, rfl⟩ := List.exists_cons_of_ne_nil hinner.ne_nil
    have hc : c = '\x7d' := (List.cons.inj heq).1
    exact absurd (List.mem_append_right gap (hc ▸ List.mem_cons_self)) hbrace
  · rfl

/-- A placeholder is found by its name, whatever follows it. -/
theorem placeholder?_spelling (before : Gap) (name : PlaceholderName) (after : Gap)
    (rest : List Char) :
    placeholder? (spelling before name after ++ rest) = some (name.chars, rest) := by
  have hclose : afterBraces (after.chars ++ '\x7d' :: '\x7d' :: rest) = some rest :=
    afterBraces_gap after rest
  have hfront := frontAfterBlanks_append before.blank name.bare name.oneLine hclose
    fun x y hname _ hy => afterBraces_inside hname hy _
  have htext : spelling before name after ++ rest = '\x7b' :: '\x7b' ::
      (before.chars ++ (name.chars ++ (after.chars ++ '\x7d' :: '\x7d' :: rest))) := by
    simp [spelling]
  rw [htext, placeholder?, hfront]
  simp [name.bare.strip_self]

theorem legendParts_spelling (before : Gap) (name : PlaceholderName) (after : Gap)
    (rest : List Char) :
    legendParts (spelling before name after ++ rest) =
      .placeholder (spelling before name after) name.chars :: legendParts rest := by
  have hfound := placeholder?_spelling before name after rest
  rw [legendParts.eq_def]
  split
  · rename_i heq
    rw [hfound] at heq
    cases heq
    -- What is taken off the front is as long as the spelling, so it is the spelling.
    simp
  · rename_i heq
    rw [hfound] at heq
    cases heq

/-- What a piece is taken apart into. -/
def Piece.parts : Piece → List LegendPart
  | .literal text => text.chars.map .plain
  | .placeholder before name after => [.placeholder (spelling before name after) name.chars]

/-- A format is taken apart piece by piece. -/
theorem legendParts_sources (pieces : List Piece) :
    legendParts (pieces.flatMap Piece.source) = pieces.flatMap Piece.parts := by
  induction pieces with
  | nil => exact legendParts_nil
  | cons piece pieces ih =>
    rw [List.flatMap_cons, List.flatMap_cons]
    cases piece with
    | literal text => rw [Piece.source, legendParts_literal text.noOpening, ih, Piece.parts]
    | placeholder before name after =>
      rw [Piece.source, legendParts_spelling, ih]
      rfl

/-! ## What comes out -/

/-- What is rendered for a piece. -/
def Piece.render (labels : List Label) (piece : Piece) : List Char :=
  piece.parts.flatMap (LegendPart.render labels)

theorem render_literal (labels : List Label) (text : Literal) :
    (Piece.literal text).render labels = text.chars := by
  simp [Piece.render, Piece.parts, List.flatMap_map, LegendPart.render]

section
variable {labels : List Label} {before after : Gap} {name : PlaceholderName}

theorem render_known {value : String} (h : labels.lookup (String.ofList name.chars) = some value) :
    (Piece.placeholder before name after).render labels = value.toList := by
  simp [Piece.render, Piece.parts, LegendPart.render, h]

theorem render_unknown (h : labels.lookup (String.ofList name.chars) = none) :
    (Piece.placeholder before name after).render labels = spelling before name after := by
  simp [Piece.render, Piece.parts, LegendPart.render, h]

end

theorem filled_render (labels : List Label) (piece : Piece) :
    Filled labels piece (piece.render labels) := by
  cases piece with
  | literal text =>
    rw [render_literal]
    exact .literal
  | placeholder before name after =>
    cases hlookup : labels.lookup (String.ofList name.chars) with
    | some value =>
      obtain ⟨earlier, later, hlabels, hfirst⟩ := List.lookup_eq_some_iff.mp hlookup
      rw [render_known hlookup]
      exact .known hlabels fun l hl => (bne_iff_ne.mp (hfirst l hl)).symm
    | none =>
      rw [render_unknown hlookup]
      exact .unknown fun l hl => (bne_iff_ne.mp (List.lookup_eq_none_iff.mp hlookup l hl)).symm

theorem Filled.eq_render {labels : List Label} {piece : Piece} {out : List Char}
    (h : Filled labels piece out) : out = piece.render labels := by
  cases h with
  | literal => exact (render_literal labels _).symm
  | known hlabels hfirst =>
    refine (render_known (List.lookup_eq_some_iff.mpr ⟨_, _, hlabels, fun l hl => ?_⟩)).symm
    exact bne_iff_ne.mpr (hfirst l hl).symm
  | unknown hnone =>
    refine (render_unknown (List.lookup_eq_none_iff.mpr fun l hl => ?_)).symm
    exact bne_iff_ne.mpr (hnone l hl).symm

theorem forall₂_filled_iff {labels : List Label} {pieces : List Piece} {outs : List (List Char)} :
    List.Forall₂ (Filled labels) pieces outs ↔ outs = pieces.map (Piece.render labels) := by
  constructor
  · intro h
    induction h with
    | nil => rfl
    | cons hpiece _ ih => rw [List.map_cons, hpiece.eq_render, ih]
  · rintro rfl
    rw [List.forall₂_map_right_iff, List.forall₂_same]
    exact fun piece _ => filled_render labels piece

theorem legend_written (labels : List Label) {pieces : List Piece} (h : written pieces ≠ "") :
    (legend (written pieces) labels).toList = pieces.flatMap (Piece.render labels) := by
  unfold legend
  rw [if_neg h, String.toList_ofList, written, String.toList_ofList, legendParts_sources,
    List.flatMap_assoc]
  rfl

/-- **Placeholders are filled in once and each on its own.** However a format is written in literals
    and placeholders, its legend is what comes out for them, in their order: literals as they are,
    placeholders as the value of the first label with their name, and as they are written where no
    label has it. What a value brings in stays as it is. -/
theorem legend_of_pieces (labels : List Label) {pieces : List Piece} (h : written pieces ≠ "")
    (text : String) :
    legend (written pieces) labels = text ↔
      ∃ outs, List.Forall₂ (Filled labels) pieces outs ∧ text.toList = outs.flatten := by
  simp only [forall₂_filled_iff, exists_eq_left]
  rw [← List.flatMap_def, ← legend_written labels h, String.toList_inj, eq_comm]

/-! ## A format whose values look like placeholders -/

def hostName : PlaceholderName where
  chars := "host".toList
  bare := ⟨by decide, by decide, by decide⟩
  noClosing := by decide
  oneLine := by decide

def dataCentre : PlaceholderName where
  chars := "data centre".toList
  bare := ⟨by decide, by decide, by decide⟩
  noClosing := by decide
  oneLine := by decide

def rackName : PlaceholderName where
  chars := "rack".toList
  bare := ⟨by decide, by decide, by decide⟩
  noClosing := by decide
  oneLine := by decide

def lineFeed : Gap := ⟨['\n', ' '], by decide⟩

def noGap : Gap := ⟨[], blank_nil⟩

/-- Two placeholders that touch, a literal with closing braces, and one that no label has. -/
def touchingPieces : List Piece :=
  [.placeholder lineFeed hostName noGap, .placeholder noGap dataCentre lineFeed,
   .literal ⟨"\x7d\x7d / ".toList, by decide⟩, .placeholder noGap rackName noGap]

/-- The first host has the beginning of a placeholder for its value, the data centre a whole one. -/
def placeholderLabels : List Label :=
  [("host", "\x7b\x7brack"), ("data centre", "eu\x7b\x7bhost\x7d\x7d"), ("host", "b")]

theorem legend_of_pieces_touching :
    written touchingPieces ≠ "" ∧
    legend (written touchingPieces) placeholderLabels =
      "\x7b\x7brackeu\x7b\x7bhost\x7d\x7d\x7d\x7d / \x7b\x7brack\x7d\x7d" := by
  have hwritten : written touchingPieces ≠ "" := by decide
  have hhost : String.ofList hostName.chars = "host" := String.ofList_toList
  have hcentre : String.ofList dataCentre.chars = "data centre" := String.ofList_toList
  have hfirst : placeholderLabels =
      [] ++ (String.ofList hostName.chars, "\x7b\x7brack") :: placeholderLabels.tail := by
    rw [hhost]
    rfl
  have hsecond : placeholderLabels = [("host", "\x7b\x7brack")] ++
      (String.ofList dataCentre.chars, "eu\x7b\x7bhost\x7d\x7d") :: [("host", "b")] := by
    rw [hcentre]
    rfl
  have hnone : ∀ l ∈ placeholderLabels, l.1 ≠ String.ofList rackName.chars := by
    rw [show String.ofList rackName.chars = "rack" from String.ofList_toList]
    decide
  refine ⟨hwritten, (legend_of_pieces placeholderLabels hwritten _).mpr
    ⟨["\x7b\x7brack".toList, "eu\x7b\x7bhost\x7d\x7d".toList, "\x7d\x7d / ".toList,
      "\x7b\x7brack\x7d\x7d".toList], ?_, by decide⟩⟩
  exact .cons (.known hfirst (by simp)) (.cons (.known hsecond (by simp [hcentre]))
    (.cons .literal (.cons (.unknown hnone) .nil)))

end PanelSource.Frame
