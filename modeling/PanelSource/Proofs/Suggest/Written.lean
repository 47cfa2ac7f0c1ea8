import PanelSource.Proofs.Text.Strip
import PanelSource.Proofs.Variable.Reference
import PanelSource.Suggest.Arguments

/- Calls as they are written, and what reading makes of them.

   A `Written` call is a form with a text for each of its arguments, a workgroup or none, and
   blanks wherever the syntax lets them stand. Reading the text of such a call gives back the form
   and the texts that were put in, and no other form reads it (`parse_text`). One call cannot be
   told from another one: a pattern that itself ends in a comma and a workgroup, where no workgroup
   is written after it. -/
namespace PanelSource.Suggest
open Text Variable

/-- The texts that name a workgroup. -/
inductive NamesWorkGroup : List Char → Prop
  | outright {cs : List Char} (hne : cs ≠ []) (h : ∀ c ∈ cs, isNameChar c = true) :
      NamesWorkGroup cs
  | reference {name cs : List Char} (h : Spells name cs) : NamesWorkGroup cs

/-- The text of a region or a limit. -/
structure PlainToken where
  chars : List Char
  bare : Bare chars
  plain : ∀ c ∈ chars, isPlain c = true

/-- The text of a pattern. -/
structure PatternToken where
  chars : List Char
  bare : Bare chars
  oneLine : '\n' ∉ chars

structure WorkGroupToken where
  chars : List Char
  names : NamesWorkGroup chars

/-- A call with the blanks that it is written with. Arguments that the form does not have are not
    written, nor is a workgroup where the form takes none. -/
structure Written where
  form : Form
  region : PlainToken
  limit : PlainToken
  pattern : PatternToken
  workGroup : Option WorkGroupToken
  /-- What stands in front of each argument and behind it. -/
  before : Argument → Gap
  after : Argument → Gap
  /-- What stands between the comma and the workgroup. -/
  beforeWorkGroup : Gap
  beforeClosing : Gap
  lead : Gap
  trail : Gap

namespace Written
variable (w : Written)

def argument : Argument → List Char
  | .region => w.region.chars
  | .limit => w.limit.chars
  | .pattern => w.pattern.chars

def padded (a : Argument) : List Char :=
  (w.before a).chars ++ (w.argument a ++ (w.after a).chars)

/-- The workgroup that is written. -/
def named : Option WorkGroupToken := if w.form.takesWorkGroup then w.workGroup else none

/-- The workgroup with the comma in front of it. -/
def comma : List Char :=
  match w.named with
  | some t => ',' :: (w.beforeWorkGroup.chars ++ t.chars)
  | none => []

/-- The blanks behind the last argument. -/
def lastGap : List Char := (w.form.arguments.getLast?.map fun a => (w.after a).chars).getD []

/-- The workgroup clause as written: from the end of the last argument to that of the workgroup. -/
def clause : Option (List Char) := w.named.map fun _ => w.lastGap ++ w.comma

def inner : List Char :=
  [','].intercalate (w.form.arguments.map w.padded) ++ (w.comma ++ w.beforeClosing.chars)

def call : List Char := w.form.function.toList ++ '(' :: (w.inner ++ [')'])

def text : String := String.ofList (w.lead.chars ++ (w.call ++ w.trail.chars))

def declared (a : Argument) : Option String :=
  if a ∈ w.form.arguments then some (String.ofList (w.argument a)) else none

/-- The arguments that were put in. -/
def rawArguments : RawArguments where
  region := w.declared .region
  limit := w.declared .limit
  pattern := w.declared .pattern
  workGroup := w.clause.map String.ofList

end Written

/-- A pattern that ends in a comma and a workgroup, behind something else than blanks. -/
def EndsInClause (cs : List Char) : Prop :=
  ∃ front gap t, cs = front ++ ',' :: (gap ++ t) ∧ (∃ c ∈ front, isBlank c = false) ∧
    Blank gap ∧ NamesWorkGroup t

/-- No part of the pattern can be taken for the workgroup of the call. -/
def Written.Unambiguous (w : Written) : Prop :=
  .pattern ∈ w.form.arguments → w.named = none → ¬ EndsInClause w.pattern.chars

/-! ## Workgroups -/

theorem isBlank_of_isNameChar {c : Char} (h : isNameChar c = true) : isBlank c = false := by
  simp only [isNameChar, Bool.or_eq_true, beq_iff_eq] at h
  rcases h with (h | rfl) | rfl
  · exact isBlank_of_isWord h
  · rfl
  · rfl

/-- The characters that references are made of. -/
theorem spells_mem {name cs : List Char} (h : Spells name cs) :
    ∀ c ∈ cs, isWord c = true ∨ c ∈ ['$', '\x7b', '\x7d', '[', ']', ':'] := by
  have hword : ∀ {w : List Char}, Word w →
      ∀ c ∈ w, isWord c = true ∨ c ∈ ['$', '\x7b', '\x7d', '[', ']', ':'] :=
    fun hw c hc => Or.inl (hw.isWord c hc)
  have hformat : ∀ {f : List Char}, Format f →
      ∀ c ∈ f, isWord c = true ∨ c ∈ ['$', '\x7b', '\x7d', '[', ']', ':'] := by
    intro f hf
    cases hf with
    | absent => simp
    | present hw => exact List.forall_mem_cons.mpr ⟨Or.inr (by simp), hword hw⟩
  cases h with
  | dollar h => exact List.forall_mem_cons.mpr ⟨Or.inr (by simp), hword h⟩
  | braced h hf =>
    simp only [List.forall_mem_cons, List.forall_mem_append]
    exact ⟨by simp, by simp, hword h, hformat hf, by simp⟩
  | bracketed h hf =>
    simp only [List.forall_mem_cons, List.forall_mem_append]
    exact ⟨by simp, by simp, hword h, hformat hf, by simp⟩

/-- A workgroup is named without blanks and commas. -/
theorem NamesWorkGroup.mem {cs : List Char} (h : NamesWorkGroup cs) :
    ∀ c ∈ cs, isBlank c = false ∧ c ≠ ',' := by
  intro c hc
  cases h with
  | outright _ hall =>
    refine ⟨isBlank_of_isNameChar (hall c hc), ?_⟩
    rintro rfl
    exact absurd (hall _ hc) (by decide)
  | reference hs =>
    rcases spells_mem hs c hc with hw | hm
    · refine ⟨isBlank_of_isWord hw, ?_⟩
      rintro rfl
      exact absurd hw (by decide)
    · simp only [List.mem_cons, List.not_mem_nil, or_false] at hm
      rcases hm with rfl | rfl | rfl | rfl | rfl | rfl <;> exact ⟨rfl, by decide⟩

theorem NamesWorkGroup.ne_nil {cs : List Char} (h : NamesWorkGroup cs) : cs ≠ [] := by
  cases h with
  | outright hne _ => exact hne
  | reference hs => cases hs <;> simp

theorem NamesWorkGroup.bare {cs : List Char} (h : NamesWorkGroup cs) : Bare cs :=
  bare_of_forall h.ne_nil fun c hc => (h.mem c hc).1

theorem isWorkGroupToken_iff {cs : List Char} :
    isWorkGroupToken cs = true ↔ NamesWorkGroup cs := by
  unfold isWorkGroupToken
  rw [Bool.or_eq_true]
  constructor
  · rintro (h | h)
    · simp only [Bool.and_eq_true, Bool.not_eq_true', List.isEmpty_eq_false_iff,
        List.all_eq_true] at h
      exact .outright h.1 h.2
    · -- A reference is a token if nothing is left behind it.
      split at h
      · rename_i name rest hr
        rw [List.isEmpty_iff] at h
        subst h
        obtain ⟨s, hs, rfl, -⟩ := reference?_eq_some_iff.mp hr
        rw [List.append_nil]
        exact .reference hs
      · cases h
  · intro h
    cases h with
    | outright hne hall =>
      left
      simpa [hne] using hall
    | reference hs =>
      right
      have := @reference?_spelling _ _ [] hs fun _ => noWordAhead_nil
      rw [List.append_nil] at this
      simp [this]

end PanelSource.Suggest
