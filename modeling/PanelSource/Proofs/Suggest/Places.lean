import Mathlib.Data.List.DropRight
import PanelSource.Proofs.Suggest.RoundTrip

/- The places of arguments.

   The commas of a call part the text between its parentheses into places, one for each argument of
   the form; a pattern has all that follows the comma in front of it. In every call that is read,
   each place holds text and each argument is set (`arguments_of_parse`). An argument is empty
   exactly if its place is vacant: blanks alone stand there, or, for a pattern, the workgroup clause
   begins at once and its workgroup stands on a later line than its comma. Blanks in every place are
   no hindrance: such a call is read (`BlankPlaces.parse_call`). -/
namespace PanelSource.Suggest
open Text Variable

/-- An argument of a call. -/
def RawArguments.get (args : RawArguments) : Argument → Option String
  | .region => args.region
  | .limit => args.limit
  | .pattern => args.pattern

def behindComma (cs : List Char) : List Char := (cs.dropWhile (· != ',')).drop 1

/-- The part of a text that an argument at its beginning may take. -/
def Argument.span : Argument → List Char → List Char
  | .pattern, cs => cs
  | _, cs => cs.takeWhile (· != ',')

/-- The place of an argument among others, in the text between the parentheses. -/
def place (a : Argument) : List Argument → List Char → List Char
  | [], _ => []
  | b :: more, cs => if b = a then a.span cs else place a more (behindComma cs)

/-- A place with nothing in it that could be an argument. -/
inductive Vacant : Argument → List Char → Prop
  | blank {a : Argument} {cs : List Char} (h : Blank cs) : Vacant a cs
  | clause {before gap t after : List Char} (hb : Blank before) (hgap : Blank gap)
      (hline : '\n' ∈ gap) (ht : NamesWorkGroup t) (ha : Blank after) :
      Vacant .pattern (before ++ ',' :: (gap ++ (t ++ after)))

/-- There is text in a place, and the argument is set; it is empty exactly if the place is
    vacant. -/
def Filled (args : RawArguments) (a : Argument) (place : List Char) : Prop :=
  place ≠ [] ∧ ∃ text, args.get a = some text ∧ (text = "" ↔ Vacant a place)

theorem get_setArgument (args : RawArguments) (a b : Argument) (cs : List Char) :
    (setArgument args b cs).get a = if b = a then some (token cs) else args.get a := by
  cases a <;> cases b <;> rfl

theorem get_workGroup (args : RawArguments) (workGroup : Option String) (a : Argument) :
    RawArguments.get { args with workGroup := workGroup } a = args.get a := by
  cases a <;> rfl

theorem token_eq_empty_iff {cs : List Char} : token cs = "" ↔ Blank cs := by
  unfold token
  rw [← strip_eq_nil_iff, String.ofList_eq_empty_iff]

theorem filled_of_token {args : RawArguments} {a : Argument} {cs place : List Char}
    (hset : args.get a = some (token cs)) (hne : place ≠ [])
    (hvacant : Blank cs ↔ Vacant a place) : Filled args a place :=
  ⟨hne, token cs, hset, token_eq_empty_iff.trans hvacant⟩

/-- Nothing but a comma stands in front of what closes a call, if anything does. -/
theorem closing_some {b : Bool} {cs : List Char} {clause : Option (List Char)}
    (h : closing b cs = some clause) :
    stripStart cs = [] ∨
      ∃ rest, stripStart cs = ',' :: rest ∧ NamesWorkGroup (strip rest) := by
  unfold closing at h
  split at h
  · rename_i hnil
    exact .inl hnil
  · rename_i rest hcomma
    split at h
    · rename_i hnames
      rw [Bool.and_eq_true, isWorkGroupToken_iff] at hnames
      exact .inr ⟨rest, hcomma, hnames.2⟩
    · cases h
  · cases h

/-! ## Regions and limits -/

theorem Argument.span_of_ne {a : Argument} (ha : a ≠ .pattern) (cs : List Char) :
    a.span cs = cs.takeWhile (· != ',') := by
  cases a with
  | pattern => exact absurd rfl ha
  | region => rfl
  | limit => rfl

theorem vacant_iff_of_ne {a : Argument} (ha : a ≠ .pattern) {cs : List Char} :
    Vacant a cs ↔ Blank cs := by
  constructor
  · intro h
    cases h with
    | blank h => exact h
    | clause => exact absurd rfl ha
  · exact .blank

/-- Where a comma follows the plain text, or nothing, the text before the first comma is plain. -/
theorem split_at_comma {cs : List Char}
    (h : cs.dropWhile isPlain = [] ∨ ∃ r, cs.dropWhile isPlain = ',' :: r) :
    cs.takeWhile (· != ',') = cs.takeWhile isPlain ∧
      cs.dropWhile (· != ',') = cs.dropWhile isPlain := by
  -- No plain character is a comma, so that both scans go at least through the plain text.
  have hne : ∀ c ∈ cs.takeWhile isPlain, (c != ',') = true := by
    intro c hc
    have hplain := List.mem_takeWhile_imp hc
    simp only [isPlain, Bool.and_eq_true] at hplain
    exact hplain.1.1
  have hrest : (cs.dropWhile isPlain).takeWhile (· != ',') = [] ∧
      (cs.dropWhile isPlain).dropWhile (· != ',') = cs.dropWhile isPlain := by
    rcases h with hnil | ⟨r, hcomma⟩
    · simp [hnil]
    · simp [hcomma]
  have hcs : cs.takeWhile isPlain ++ cs.dropWhile isPlain = cs := List.takeWhile_append_dropWhile
  constructor
  · calc cs.takeWhile (· != ',')
      _ = (cs.takeWhile isPlain ++ cs.dropWhile isPlain).takeWhile (· != ',') := by rw [hcs]
      _ = cs.takeWhile isPlain ++ (cs.dropWhile isPlain).takeWhile (· != ',') :=
        List.takeWhile_append_of_pos hne
      _ = cs.takeWhile isPlain := by rw [hrest.1, List.append_nil]
  · calc cs.dropWhile (· != ',')
      _ = (cs.takeWhile isPlain ++ cs.dropWhile isPlain).dropWhile (· != ',') := by rw [hcs]
      _ = (cs.dropWhile isPlain).dropWhile (· != ',') := List.dropWhile_append_of_pos hne
      _ = cs.dropWhile isPlain := hrest.2

theorem takeArgument_some {cs argument rest : List Char}
    (h : takeArgument cs = some (argument, rest)) :
    argument ≠ [] ∧ argument = cs.takeWhile (· != ',') ∧ rest = behindComma cs := by
  unfold takeArgument at h
  split at h
  · cases h
  · rename_i hdrop hne
    cases h
    obtain ⟨htake, hbehind⟩ := split_at_comma (.inr ⟨rest, hdrop⟩)
    refine ⟨hne, htake.symm, ?_⟩
    rw [behindComma, hbehind, hdrop]
    rfl
  · cases h

/-- What stands behind a plain text and its blanks begins with a comma, if it closes a call. -/
theorem comma_of_closing {b : Bool} {cs after : List Char} {clause : Option (List Char)}
    (hafter : Blank after) (h : closing b (after ++ cs.dropWhile isPlain) = some clause) :
    cs.dropWhile isPlain = [] ∨ ∃ r, cs.dropWhile isPlain = ',' :: r := by
  have hstop := List.head?_dropWhile_not isPlain cs
  have hclose := closing_some h
  rw [stripStart_blank_append hafter] at hclose
  cases hrest : cs.dropWhile isPlain with
  | nil => exact .inl rfl
  | cons d r =>
    rw [hrest] at hstop hclose
    have hd : isBlank d = false := by
      rw [← Bool.not_eq_true]
      intro hblank
      simp [isPlain_of_isBlank hblank] at hstop
    rw [stripStart_cons hd] at hclose
    rcases hclose with hnil | ⟨r', hcons, -⟩
    · cases hnil
    · cases hcons
      exact .inr ⟨r, rfl⟩

theorem eq_withoutBlanksAfter (plain : List Char) :
    ∃ after, Blank after ∧ plain = withoutBlanksAfter plain ++ after := by
  unfold withoutBlanksAfter
  split
  · exact ⟨[], blank_nil, (List.append_nil plain).symm⟩
  · exact eq_stripEnd_append plain

/-- A last argument without commas is the text in its place, but for blanks. -/
theorem lastPlain_some {b : Bool} {cs argument : List Char} {clause : Option (List Char)}
    (h : lastPlain b cs = some (argument, clause)) :
    cs.takeWhile (· != ',') ≠ [] ∧ (Blank argument ↔ Blank (cs.takeWhile (· != ','))) := by
  obtain ⟨after, hafter, hcut⟩ := eq_withoutBlanksAfter (cs.takeWhile isPlain)
  -- The blanks behind the argument are given back to what has to close the call.
  have hdrop : cs.drop (withoutBlanksAfter (cs.takeWhile isPlain)).length =
      after ++ cs.dropWhile isPlain := by
    calc cs.drop (withoutBlanksAfter (cs.takeWhile isPlain)).length
      _ = (withoutBlanksAfter (cs.takeWhile isPlain) ++ (after ++ cs.dropWhile isPlain)).drop
          (withoutBlanksAfter (cs.takeWhile isPlain)).length := by
        rw [← List.append_assoc, ← hcut, List.takeWhile_append_dropWhile]
      _ = after ++ cs.dropWhile isPlain := List.drop_left
  unfold lastPlain at h
  split at h
  · cases h
  · rename_i c r hcr
    rw [← hcr, Option.map_eq_some_iff] at h
    obtain ⟨clause', hclose, hargument⟩ := h
    cases hargument
    rw [hdrop] at hclose
    rw [(split_at_comma (comma_of_closing hafter hclose)).1]
    refine ⟨by simp [hcr], ?_⟩
    constructor
    · intro hblank
      rw [hcut]
      exact blank_append hblank hafter
    · intro hblank d hd
      apply hblank d
      rw [hcut]
      exact List.mem_append_left after hd

/-! ## Patterns -/

/-- Where no pattern is found behind the blanks, there is nothing, or only a clause over lines. -/
theorem vacant_of_no_front {b : Bool} {cs : List Char}
    (hnone : shortestFront (closing b) [] (stripStart cs) = none)
    (h : stripStart cs = [] ∨
      ∃ rest, stripStart cs = ',' :: rest ∧ NamesWorkGroup (strip rest)) :
    Vacant .pattern cs := by
  rcases h with hnil | ⟨rest, hcomma, hnames⟩
  · exact .blank (stripStart_eq_nil_iff.mp hnil)
  · obtain ⟨before, hbefore, hcs⟩ := eq_append_stripStart cs
    obtain ⟨gap, after, hgap, hafter, hrest⟩ := eq_append_strip rest
    rw [hcs, hcomma, hrest]
    refine .clause hbefore hgap ?_ hnames hafter
    by_contra hline
    -- On one line, the clause itself would be taken for the pattern.
    have hfront : '\n' ∉ ',' :: (gap ++ strip rest) := by
      intro hmem
      rcases List.mem_append.mp (List.mem_of_ne_of_mem (by decide) hmem) with h | h
      · exact hline h
      · exact absurd (hnames.mem _ h).1 (by decide)
    apply shortestFront_ne_none (closing_blank b hafter) _ [] (by simp) hfront
    calc shortestFront (closing b) [] (',' :: (gap ++ strip rest) ++ after)
      _ = shortestFront (closing b) [] (',' :: rest) := by
        conv => rhs; rw [hrest]
        simp
      _ = none := by rw [← hcomma]; exact hnone

/-- No pattern begins with the comma of a clause whose workgroup is on a later line. -/
theorem no_front_of_vacant {b : Bool} {cs : List Char} (h : Vacant .pattern cs) :
    shortestFront (closing b) [] (stripStart cs) = none := by
  cases h with
  | blank h =>
    rw [stripStart_blank h]
    rfl
  | @clause before gap t after hb hgap hline ht ha =>
    rw [stripStart_blank_append hb, stripStart_cons rfl]
    by_contra hfound
    obtain ⟨⟨front, clause⟩, hsome⟩ := Option.ne_none_iff_exists'.mp hfound
    obtain ⟨p, tail, hsplit, -, hne, hn, hclose⟩ := shortestFront_some hsome
    obtain ⟨c, p, rfl⟩ := List.exists_cons_of_ne_nil hne
    rw [List.cons_append, List.cons.injEq] at hsplit
    rcases List.append_eq_append_iff.mp hsplit.2 with ⟨q, rfl, -⟩ | ⟨q, rfl, rfl⟩
    · -- The front would hold the line feed.
      exact hn (List.mem_cons_of_mem c (List.mem_append_left q hline))
    · -- The workgroup would close the call without a comma.
      obtain ⟨d, t, rfl⟩ := List.exists_cons_of_ne_nil ht.ne_nil
      have hd := ht.mem d List.mem_cons_self
      have hq : Blank q := fun e he => hgap e (List.mem_append_right p he)
      rw [List.cons_append, closing_of_not_comma b hq hd.1 hd.2] at hclose
      cases hclose

/-- A pattern is blank exactly if its place is vacant. -/
theorem lastPattern_some {b : Bool} {cs front : List Char} {clause : Option (List Char)}
    (h : lastPattern b cs = some (front, clause)) :
    cs ≠ [] ∧ (Blank front ↔ Vacant .pattern cs) := by
  obtain ⟨gap, hgap, hshort, -⟩ := frontAfterBlanks_some h
  obtain ⟨_, tail, hcs, rfl, hne, -, hclose⟩ := shortestFront_some hshort
  refine ⟨?_, ?_⟩
  · rintro rfl
    obtain ⟨rest, -, hlt, -⟩ := frontAfterBlanks_rest h
    exact absurd hlt (Nat.not_lt_zero _)
  · constructor
    · intro hblank
      have hstart : stripStart cs = stripStart tail := by
        calc stripStart cs
          _ = stripStart (stripStart cs) := (List.dropWhile_idempotent isBlank cs).symm
          _ = stripStart (gap ++ stripStart cs) := (stripStart_blank_append hgap _).symm
          _ = stripStart (front ++ tail) := by rw [hcs]
          _ = stripStart tail := stripStart_blank_append hblank tail
      apply vacant_of_no_front ((blank_frontAfterBlanks_iff h).mp hblank)
      rw [hstart]
      exact closing_some hclose
    · intro hvacant
      exact (blank_frontAfterBlanks_iff h).mpr (no_front_of_vacant hvacant)

/-! ## Calls -/

/-- The last argument is set to what stands in its place, and no other argument is. -/
theorem filled_readLast {b : Bool} {args read : RawArguments} {last : Argument} {cs : List Char}
    (h : readLast b args last cs = some read) :
    Filled read last (last.span cs) ∧ ∀ a, a ≠ last → read.get a = args.get a := by
  unfold readLast at h
  rw [Option.map_eq_some_iff] at h
  obtain ⟨⟨argument, clause⟩, hfound, rfl⟩ := h
  have hplace : last.span cs ≠ [] ∧ (Blank argument ↔ Vacant last (last.span cs)) := by
    cases last with
    | pattern => exact lastPattern_some hfound
    | region =>
      rw [Argument.span_of_ne (by decide), vacant_iff_of_ne (by decide)]
      exact lastPlain_some hfound
    | limit =>
      rw [Argument.span_of_ne (by decide), vacant_iff_of_ne (by decide)]
      exact lastPlain_some hfound
  refine ⟨filled_of_token ?_ hplace.1 hplace.2, ?_⟩
  · rw [get_workGroup, get_setArgument, if_pos rfl]
  · intro a ha
    rw [get_workGroup, get_setArgument, if_neg (Ne.symm ha)]

/-- Each argument is set to what stands in its place, one after the other; `args` holds those read
    so far. -/
theorem filled_readArguments (b : Bool) : ∀ (as : List Argument) (args read : RawArguments)
    (cs : List Char), as.Nodup → .pattern ∉ as.dropLast →
    readArguments b args as cs = some read →
    (∀ a ∈ as, Filled read a (place a as cs)) ∧ ∀ a, a ∉ as → read.get a = args.get a := by
  intro as
  induction as with
  | nil =>
    intro args read cs _ _ h
    rw [readArguments] at h
    split at h
    · cases h
      simp
    · cases h
  | cons a more ih =>
    intro args read cs hnodup hpattern h
    cases more with
    | nil =>
      have hlast := filled_readLast h
      simpa [place] using hlast
    | cons c more =>
      rw [readArguments] at h
      · split at h
        · rename_i argument rest htake
          obtain ⟨hne, hargument, hrest⟩ := takeArgument_some htake
          -- A pattern only stands last, so that this argument ends at its comma.
          have ha : a ≠ .pattern := by
            rintro rfl
            exact hpattern List.mem_cons_self
          obtain ⟨hnot, hmore⟩ := List.nodup_cons.mp hnodup
          obtain ⟨hfilled, hkept⟩ := ih (setArgument args a argument) read rest hmore
            (fun hmem => hpattern (List.mem_cons_of_mem a hmem)) h
          constructor
          · intro d hd
            rw [place]
            split
            · -- The first place, which the later ones leave as it was set.
              rename_i had
              subst had
              rw [Argument.span_of_ne ha, ← hargument]
              apply filled_of_token _ hne (vacant_iff_of_ne ha).symm
              rw [hkept a hnot, get_setArgument, if_pos rfl]
            · rename_i had
              rw [← hrest]
              exact hfilled d (List.mem_of_ne_of_mem (Ne.symm had) hd)
          · intro d hd
            rw [List.mem_cons, not_or] at hd
            rw [hkept d hd.2, get_setArgument, if_neg (Ne.symm hd.1)]
        · cases h
      · rintro ⟨⟩

theorem eq_of_dropFront {front cs rest : List Char} (h : dropFront front cs = some rest) :
    cs = front ++ rest := by
  induction front generalizing cs with
  | nil =>
    cases h
    rfl
  | cons c front ih =>
    cases cs with
    | nil => cases h
    | cons d cs =>
      rw [dropFront] at h
      split at h
      · rename_i hcd
        rw [hcd, ih h]
        rfl
      · cases h

theorem eq_of_dropClosing {cs inner : List Char} (h : dropClosing cs = some inner) :
    cs = inner ++ [')'] := by
  unfold dropClosing at h
  split at h
  · rename_i rest hreverse
    cases h
    rw [← List.reverse_cons, ← hreverse, List.reverse_reverse]
  · cases h

theorem Form.eq_of_read {f : Form} {cs : List Char} {args : RawArguments}
    (h : f.read cs = some args) :
    ∃ inner, cs = f.function.toList ++ '(' :: (inner ++ [')']) ∧
      readArguments f.takesWorkGroup {} f.arguments inner = some args := by
  unfold Form.read at h
  simp only [Option.bind_eq_bind, Option.bind_eq_some_iff] at h
  obtain ⟨rest, hfront, inner, hclosing, hread⟩ := h
  refine ⟨inner, ?_, hread⟩
  rw [eq_of_dropFront hfront, eq_of_dropClosing hclosing]
  simp

theorem read_of_parse {query : String} {call : Call} (h : parse query = some call) :
    call.form.read (strip query.toList) = some call.args := by
  unfold parse at h
  obtain ⟨f, -, hf⟩ := List.exists_of_findSome?_eq_some h
  rw [Option.map_eq_some_iff] at hf
  obtain ⟨args, hread, rfl⟩ := hf
  exact hread

theorem Form.nodup_arguments (f : Form) : f.arguments.Nodup := by
  cases f <;> decide

theorem Form.pattern_last (f : Form) : .pattern ∉ f.arguments.dropLast := by
  cases f <;> decide

/-- **A call has its arguments, but for vacant places.** In every query that is read, there is text
    in the place of each argument of the form, and the argument is set. It is empty exactly if the
    place is vacant. Other arguments are not set. -/
theorem arguments_of_parse {query : String} {call : Call} (h : parse query = some call) :
    ∃ inner, strip query.toList = call.form.function.toList ++ '(' :: (inner ++ [')']) ∧
      (∀ a ∈ call.form.arguments,
        Filled call.args a (place a call.form.arguments inner)) ∧
      ∀ a, a ∉ call.form.arguments → call.args.get a = none := by
  obtain ⟨inner, hquery, hread⟩ := Form.eq_of_read (read_of_parse h)
  obtain ⟨hfilled, hunset⟩ := filled_readArguments _ _ {} call.args inner
    call.form.nodup_arguments call.form.pattern_last hread
  refine ⟨inner, hquery, hfilled, fun a ha => ?_⟩
  rw [hunset a ha]
  cases a <;> rfl

/-- A call that leaves the places of its limit and its pattern vacant, each in its own way. -/
def vacantQuery : String := "query_execution_ids($region, \t , ,\netl)"

def vacantCall : Call where
  form := .executionIds
  args := ⟨some "$region", some "", some "", some ",\netl"⟩

theorem parse_vacant : parse vacantQuery = some vacantCall := by
  decide +kernel

theorem arguments_of_parse_vacant : parse vacantQuery = some vacantCall ∧
    ∃ inner, strip vacantQuery.toList =
        vacantCall.form.function.toList ++ '(' :: (inner ++ [')']) ∧
      (∀ a ∈ vacantCall.form.arguments,
        Filled vacantCall.args a (place a vacantCall.form.arguments inner)) ∧
      ∀ a, a ∉ vacantCall.form.arguments → vacantCall.args.get a = none :=
  ⟨parse_vacant, arguments_of_parse parse_vacant⟩

/-- One blank is enough for a call to be read without its argument. -/
theorem parse_without_argument :
    parse "named_query_names( )" = some ⟨.namedQueryNames, { region := some "" }⟩ ∧
      ¬ ∀ (query : String) (call : Call), parse query = some call →
        ∀ a ∈ call.form.arguments, ∃ text, call.args.get a = some text ∧ text ≠ "" := by
  have hparse : parse "named_query_names( )" = some ⟨.namedQueryNames, { region := some "" }⟩ := by
    decide +kernel
  refine ⟨hparse, fun hclaim => ?_⟩
  obtain ⟨text, hregion, hne⟩ := hclaim _ _ hparse .region (by decide)
  cases hregion
  exact hne rfl

/-! ## Blanks in all places -/

/-- Blanks alone are a pattern, if they are not all line feeds. -/
theorem lastPattern_blank (b : Bool) {g : List Char} (hg : Blank g) (hline : ∃ c ∈ g, c ≠ '\n') :
    lastPattern b g ≠ none := by
  intro hnone
  obtain ⟨c, hc, hne⟩ := hline
  obtain ⟨x, y, rfl⟩ := List.append_of_mem hc
  have hall : (x ++ c :: y).takeWhile isBlank = x ++ c :: y := List.takeWhile_eq_self_iff.mpr hg
  unfold lastPattern frontAfterBlanks at hnone
  rw [hall, List.findSome?_eq_none_iff] at hnone
  -- The try that leaves just the last of these blanks to the front succeeds.
  have hmem : (c :: y).length ∈ List.range ((x ++ c :: y).length + 1) := by
    rw [List.mem_range, List.length_append]
    omega
  have htry := hnone _ hmem
  rw [List.length_append, Nat.add_sub_cancel, List.drop_left] at htry
  have hy : Blank y := fun d hd => hg d (by simp [hd])
  exact shortestFront_ne_none (closing_blank b hy) [c] [] (by simp) (by simpa using hne.symm) htry

theorem lastPlain_blank (b : Bool) {g : List Char} (hg : Blank g) (hne : g ≠ []) :
    lastPlain b g = some (g, none) := by
  have hplain : g.takeWhile isPlain = g :=
    List.takeWhile_eq_self_iff.mpr fun c hc => isPlain_of_isBlank (hg c hc)
  have hall : withoutBlanksAfter g = g := if_pos (List.all_eq_true.mpr hg)
  unfold lastPlain
  rw [hplain]
  cases g with
  | nil => exact absurd rfl hne
  | cons c r =>
    simp only [hall, List.drop_length]
    rw [closing_blank b blank_nil]
    rfl

/-- Places that hold blanks, of which not all are line feeds. -/
structure BlankPlaces where
  chars : Argument → List Char
  blank : ∀ a, Blank (chars a)
  line : ∀ a, ∃ c ∈ chars a, c ≠ '\n'

namespace BlankPlaces
variable (p : BlankPlaces)

theorem ne_nil (a : Argument) : p.chars a ≠ [] := by
  obtain ⟨c, hc, -⟩ := p.line a
  exact List.ne_nil_of_mem hc

def inner (as : List Argument) : List Char := [','].intercalate (as.map p.chars)

theorem inner_cons (a b : Argument) (more : List Argument) :
    p.inner (a :: b :: more) = p.chars a ++ ',' :: p.inner (b :: more) := by
  unfold inner
  rw [List.map_cons, List.map_cons, List.intercalate_cons_cons, ← List.map_cons,
    List.append_assoc, List.singleton_append]

theorem ne_comma (a : Argument) : ∀ c ∈ p.chars a, (c != ',') = true := by
  intro c hc
  rw [bne_iff_ne]
  rintro rfl
  exact absurd (p.blank a _ hc) (by decide)

/-- The blanks of an argument are what stands in its place. -/
theorem place_inner {a : Argument} : ∀ (as : List Argument), a ∈ as → .pattern ∉ as.dropLast →
    place a as (p.inner as) = p.chars a := by
  intro as
  induction as with
  | nil =>
    intro h
    cases h
  | cons b more ih =>
    intro hmem hpattern
    cases more with
    | nil =>
      obtain rfl := List.mem_singleton.mp hmem
      rw [place, if_pos rfl, inner, List.map_singleton, List.intercalate_singleton]
      by_cases ha : a = .pattern
      · rw [ha]
        rfl
      · rw [Argument.span_of_ne ha]
        exact List.takeWhile_eq_self_iff.mpr (p.ne_comma a)
    | cons c more =>
      rw [inner_cons, place]
      split
      · rename_i hba
        subst hba
        have hb : b ≠ .pattern := by
          rintro rfl
          exact hpattern List.mem_cons_self
        rw [Argument.span_of_ne hb, List.takeWhile_append_of_pos (p.ne_comma b)]
        simp
      · rename_i hba
        have hbehind : behindComma (p.chars b ++ ',' :: p.inner (c :: more)) =
            p.inner (c :: more) := by
          rw [behindComma, List.dropWhile_append_of_pos (p.ne_comma b)]
          simp
        rw [hbehind]
        exact ih (List.mem_of_ne_of_mem (Ne.symm hba) hmem)
          fun h => hpattern (List.mem_cons_of_mem b h)

theorem readArguments_ne_none (b : Bool) : ∀ (as : List Argument) (args : RawArguments), as ≠ [] →
    readArguments b args as (p.inner as) ≠ none := by
  intro as
  induction as with
  | nil =>
    intro args hne
    exact absurd rfl hne
  | cons a more ih =>
    intro args _
    cases more with
    | nil =>
      simp only [inner, List.map_cons, List.map_nil, List.intercalate_singleton, readArguments,
        readLast]
      rw [ne_eq, Option.map_eq_none_iff]
      cases a with
      | pattern => exact lastPattern_blank b (p.blank _) (p.line _)
      | region => simp [lastPlain_blank b (p.blank _) (p.ne_nil _)]
      | limit => simp [lastPlain_blank b (p.blank _) (p.ne_nil _)]
    | cons c more =>
      have hplain : ∀ d ∈ p.chars a, isPlain d = true :=
        fun d hd => isPlain_of_isBlank (p.blank a d hd)
      rw [inner_cons, readArguments, takeArgument_plain (p.ne_nil a) hplain]
      · exact ih _ (by simp)
      · rintro ⟨⟩

/-- **However many blanks stand in the places of its arguments, a call is read**, and each of its
    arguments is empty. -/
theorem parse_call (f : Form) (hf : f.arguments ≠ []) :
    ∃ args, parse (String.ofList (f.function.toList ++ '(' :: (p.inner f.arguments ++ [')']))) =
        some ⟨f, args⟩ ∧ ∀ a ∈ f.arguments, args.get a = some "" := by
  obtain ⟨args, hargs⟩ := Option.ne_none_iff_exists'.mp
    (p.readArguments_ne_none f.takesWorkGroup f.arguments {} hf)
  refine ⟨args, parse_eq ?_ fun g hg => ?_, fun a ha => ?_⟩
  · rw [String.toList_ofList, (f.bare_call _).strip_self, Form.read_inner, hargs]
  · rw [String.toList_ofList, (f.bare_call _).strip_self]
    exact Form.read_other hg _
  · obtain ⟨-, text, htext, hempty⟩ :=
      (filled_readArguments _ _ _ _ _ f.nodup_arguments f.pattern_last hargs).1 a ha
    rw [p.place_inner _ ha f.pattern_last] at hempty
    rw [htext, hempty.mpr (.blank (p.blank a))]

end BlankPlaces

end PanelSource.Suggest
