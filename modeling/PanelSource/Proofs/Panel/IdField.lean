import PanelSource.Panel.Run
import PanelSource.Proofs.Text.Strip
import PanelSource.Proofs.Variable.Containment

/- The ids that a field of a target names.

   A field is a list of items between commas, with blanks around them (`fieldOf`). An item is an
   execution id, or a reference to a variable whose values are execution ids. Putting the variables
   in writes several values between braces, and splitting takes one pair of braces off the field as
   a whole. So the ids that are split off are those of the items just when the field is one item, or
   no item has several values (`inputs_eq_iff`). -/
namespace PanelSource.Panel
open Text Variable

/-! ## Splitting at commas -/

section
variable {cs : List Char}

/-- Everything about splitting follows from what it does at one comma and without any. -/
theorem splitCommas_comma (xs ys : List Char) :
    splitCommas (xs ++ ',' :: ys) = splitCommas xs ++ splitCommas ys := by
  unfold splitCommas List.splitOn
  rw [List.splitOnP_append_cons xs ys (by decide), List.map_append, List.filterMap_append]

theorem splitCommas_of_notMem (h : ',' ∉ cs) :
    splitCommas cs = if strip cs = [] then [] else [String.ofList (strip cs)] := by
  unfold splitCommas
  rw [List.splitOn_eq_singleton h, List.map_singleton]
  by_cases hs : strip cs = []
  · simp [hs]
  · simp [hs]

theorem comma_induction {motive : List Char → Prop} (none : ∀ cs, ',' ∉ cs → motive cs)
    (comma : ∀ xs ys, motive xs → motive ys → motive (xs ++ ',' :: ys)) (cs : List Char) :
    motive cs := by
  by_cases h : ',' ∈ cs
  · obtain ⟨xs, ys, hcs, hxs⟩ := List.eq_append_cons_of_mem h
    rw [hcs]
    exact comma xs ys (none xs hxs) (comma_induction none comma ys)
  · exact none cs h
termination_by cs.length
decreasing_by
  rw [hcs]
  simp only [List.length_append, List.length_cons]
  omega

theorem splitCommas_intercalate (parts : List (List Char)) :
    splitCommas ([','].intercalate parts) = parts.flatMap splitCommas := by
  induction parts with
  | nil => rfl
  | cons part parts ih =>
    cases parts with
    | nil => simp
    | cons next parts =>
      rw [List.intercalate_cons_cons, List.append_assoc, List.singleton_append, splitCommas_comma,
        ih]
      rfl

/-- Blanks around a list of ids are not part of any id. -/
theorem splitCommas_padded {before after : List Char} (hb : Blank before) (ha : Blank after) :
    splitCommas (before ++ (cs ++ after)) = splitCommas cs := by
  have hfree : ∀ {g xs : List Char}, Blank g → ',' ∉ xs → ',' ∉ g ++ xs ∧ ',' ∉ xs ++ g := by
    intro g xs hg hxs
    have hcomma : ',' ∉ g := fun hmem => nomatch hg _ hmem
    simp [hcomma, hxs]
  have hstart : ∀ xs, ',' ∉ xs → splitCommas (before ++ xs) = splitCommas xs := by
    intro xs hxs
    rw [splitCommas_of_notMem hxs, splitCommas_of_notMem (hfree hb hxs).1, strip_blank_append hb]
  -- Blanks behind the list join its last id, which the induction from comma to comma gets to.
  have hend : splitCommas (cs ++ after) = splitCommas cs := by
    induction cs using comma_induction with
    | none cs h =>
      rw [splitCommas_of_notMem h, splitCommas_of_notMem (hfree ha h).2, strip_append_blank cs ha]
    | comma xs ys _ ih =>
      rw [List.append_assoc, List.cons_append, splitCommas_comma, splitCommas_comma, ih]
  rw [← hend]
  generalize cs ++ after = ys
  by_cases h : ',' ∈ ys
  · -- The blanks join what stands before the first comma.
    obtain ⟨xs, ys, rfl, hxs⟩ := List.eq_append_cons_of_mem h
    rw [← List.append_assoc, splitCommas_comma, splitCommas_comma, hstart xs hxs]
  · exact hstart ys h

theorem mem_splitCommas {c : Char} (h : c ∈ cs) (hblank : isBlank c = false) (hcomma : c ≠ ',') :
    ∃ id ∈ splitCommas cs, c ∈ id.toList := by
  induction cs using comma_induction with
  | none cs hfree =>
    have hc := mem_strip h hblank
    rw [splitCommas_of_notMem hfree, if_neg (List.ne_nil_of_mem hc)]
    exact ⟨_, List.mem_singleton_self _, by rwa [String.toList_ofList]⟩
  | comma xs ys ihx ihy =>
    rw [splitCommas_comma]
    rcases List.mem_append.mp h with h | h
    · obtain ⟨id, hid, hc⟩ := ihx h
      exact ⟨id, List.mem_append_left _ hid, hc⟩
    · obtain ⟨id, hid, hc⟩ := ihy (List.mem_of_ne_of_mem hcomma h)
      exact ⟨id, List.mem_append_right _ hid, hc⟩

/-! ## Braces around a field -/

theorem unbrace_braced (inner : List Char) : unbrace ('\x7b' :: (inner ++ ['\x7d'])) = inner := by
  simp [unbrace]

theorem unbrace_cases (cs : List Char) :
    unbrace cs = cs ∨ ∃ inner, cs = '\x7b' :: (inner ++ ['\x7d']) ∧ unbrace cs = inner := by
  unfold unbrace
  split
  · rename_i rest
    split
    · rename_i inner hrest
      refine .inr ⟨inner.reverse, ?_, rfl⟩
      rw [← List.reverse_reverse rest, hrest, List.reverse_cons]
    · exact .inl rfl
  · exact .inl rfl

theorem splitIds_cases (field : String) : splitIds field = splitCommas field.toList ∨
    ∃ inner, strip field.toList = '\x7b' :: (inner ++ ['\x7d']) ∧
      splitIds field = splitCommas inner := by
  unfold splitIds
  rcases unbrace_cases (strip field.toList) with hself | ⟨inner, hbraced, hinner⟩
  · obtain ⟨before, after, hb, ha, hfield⟩ := eq_append_strip field.toList
    left
    calc splitCommas (unbrace (strip field.toList))
      _ = splitCommas (before ++ (strip field.toList ++ after)) := by
        rw [hself, splitCommas_padded hb ha]
      _ = splitCommas field.toList := by rw [← hfield]
  · exact .inr ⟨inner, hbraced, by rw [hinner]⟩

section
variable {inner x z : List Char}

/-- Splitting without taking them off leaves the braces around a text in its ids. -/
theorem exists_opening_of_braced (hcs : strip cs = '\x7b' :: (inner ++ ['\x7d'])) :
    ∃ id ∈ splitCommas cs, '\x7b' ∈ id.toList := by
  have hmem : '\x7b' ∈ cs := by
    obtain ⟨before, after, -, -, heq⟩ := eq_append_strip cs
    rw [heq, hcs]
    exact List.mem_append_right before (List.mem_append_left after List.mem_cons_self)
  exact mem_splitCommas hmem (by decide) (by decide)

/-- A brace that opens behind a comma is not the one that is taken off. -/
theorem opening_mem_inner (hcs : strip cs = '\x7b' :: (inner ++ ['\x7d']))
    (hbrace : cs = x ++ '\x7b' :: z) (hcomma : ',' ∈ x) : '\x7b' ∈ inner := by
  obtain ⟨before, after, hb, ha, hstrip⟩ := eq_append_strip cs
  have hbefore : ',' ∉ before := fun hmem => nomatch hb _ hmem
  have hafter : '\x7b' ∉ after := fun hmem => nomatch ha _ hmem
  rw [hcs, hbrace, List.cons_append] at hstrip
  rcases List.append_eq_append_iff.mp hstrip with ⟨front, rfl, -⟩ | ⟨front, rfl, hrest⟩
  · exact absurd (List.mem_append_left front hcomma) hbefore
  · cases front with
    | nil =>
      rw [List.append_nil] at hcomma
      exact absurd hcomma hbefore
    | cons c front =>
      obtain ⟨-, hrest⟩ := List.cons.inj hrest
      have hmem : '\x7b' ∈ inner ++ ['\x7d'] ++ after := by
        rw [hrest]
        exact List.mem_append_right front List.mem_cons_self
      simpa [hafter] using hmem

/-- A brace that closes before a comma is not the one that is taken off. -/
theorem closing_mem_inner (hcs : strip cs = '\x7b' :: (inner ++ ['\x7d']))
    (hbrace : cs = x ++ '\x7d' :: z) (hcomma : ',' ∈ z) : '\x7d' ∈ inner := by
  obtain ⟨before, after, hb, ha, hstrip⟩ := eq_append_strip cs
  have hbefore : '\x7d' ∉ before := fun hmem => nomatch hb _ hmem
  have hafter : ',' ∉ after := fun hmem => nomatch ha _ hmem
  have hparts : x ++ '\x7d' :: z = (before ++ '\x7b' :: inner) ++ '\x7d' :: after := by
    rw [← hbrace, hstrip, hcs]
    simp
  -- Behind the last brace there are only blanks, so that this one comes before it.
  rcases List.append_eq_append_iff.mp hparts with ⟨last, hfront, hrest⟩ | ⟨last, rfl, hrest⟩
  · cases last with
    | nil =>
      obtain ⟨-, rfl⟩ := List.cons.inj hrest
      exact absurd hcomma hafter
    | cons c last =>
      obtain ⟨rfl, -⟩ := List.cons.inj hrest
      have hmem : '\x7d' ∈ before ++ '\x7b' :: inner := by
        rw [hfront]
        exact List.mem_append_right x List.mem_cons_self
      simpa [hbefore] using hmem
  · cases last with
    | nil =>
      obtain ⟨-, rfl⟩ := List.cons.inj hrest
      exact absurd hcomma hafter
    | cons c last =>
      obtain ⟨-, rfl⟩ := List.cons.inj hrest
      exact absurd (List.mem_append_right last (List.mem_cons_of_mem _ hcomma)) hafter

/-- Braces that enclose a part of a field end up in an id. -/
theorem exists_brace_mem_splitIds {field : String} {y : List Char}
    (hfield : field.toList = x ++ ('\x7b' :: (y ++ '\x7d' :: z))) (hcomma : ',' ∈ x ∨ ',' ∈ z) :
    ∃ id ∈ splitIds field, '\x7b' ∈ id.toList ∨ '\x7d' ∈ id.toList := by
  rcases splitIds_cases field with hsplit | ⟨inner, hstrip, hsplit⟩
  · have hmem : '\x7b' ∈ field.toList := by
      rw [hfield]
      exact List.mem_append_right x List.mem_cons_self
    obtain ⟨id, hid, hbrace⟩ := mem_splitCommas hmem (by decide) (by decide)
    exact ⟨id, hsplit ▸ hid, .inl hbrace⟩
  · rcases hcomma with hcomma | hcomma
    · have hmem := opening_mem_inner hstrip hfield hcomma
      obtain ⟨id, hid, hbrace⟩ := mem_splitCommas hmem (by decide) (by decide)
      exact ⟨id, hsplit ▸ hid, .inl hbrace⟩
    · have hclosing : field.toList = (x ++ '\x7b' :: y) ++ '\x7d' :: z := by simp [hfield]
      have hmem := closing_mem_inner hstrip hclosing hcomma
      obtain ⟨id, hid, hbrace⟩ := mem_splitCommas hmem (by decide) (by decide)
      exact ⟨id, hsplit ▸ hid, .inr hbrace⟩

end
end

/-! ## Fields -/

/-- The text of an execution id: none of its characters separates ids, encloses them or begins a
    reference. -/
structure ExecutionId (cs : List Char) : Prop where
  ne_nil : cs ≠ []
  plain : ∀ c ∈ cs, isBlank c = false ∧ c ∉ [',', '\x7b', '\x7d', '$', '[']

/-- What may stand between the commas of a field. -/
inductive IdItem where
  | id {cs : List Char} (h : ExecutionId cs)
  | reference {name spelling : List Char} (h : Spells name spelling)

namespace IdItem

def source : IdItem → List Char
  | @id cs _ => cs
  | @reference _ spelling _ => spelling

/-- The ids that an item denotes. -/
def ids (s : Store) : IdItem → List String
  | @id cs _ => [String.ofList cs]
  | @reference name _ _ => (s.get? (String.ofList name)).getD []

/-- A reference is to a stored variable that has values, all of them execution ids. -/
def Sound (s : Store) : IdItem → Prop
  | id _ => True
  | @reference name _ _ => ∃ values, s.get? (String.ofList name) = some values ∧ values ≠ [] ∧
      ∀ v ∈ values, ExecutionId v.toList

end IdItem

/-- An item with the blanks around it. -/
structure IdEntry where
  before : Gap
  item : IdItem
  after : Gap

def IdEntry.source (e : IdEntry) : List Char :=
  e.before.chars ++ (e.item.source ++ e.after.chars)

def fieldOf (es : List IdEntry) : String :=
  String.ofList ([','].intercalate (es.map IdEntry.source))

/-- The ids that entries denote, in their order. -/
def denoted (s : Store) (es : List IdEntry) : List String := es.flatMap fun e => e.item.ids s

/-! ## Putting the variables in -/

section
variable {s : Store} {e : IdEntry} {es : List IdEntry} {i : IdItem}

/-- The entry with its variable put in. -/
def IdEntry.resolved (s : Store) (e : IdEntry) : List Char :=
  e.before.chars ++ (render .plain (e.item.ids s) ++ e.after.chars)

theorem IdItem.Sound.ids (h : i.Sound s) : i.ids s ≠ [] ∧ ∀ v ∈ i.ids s, ExecutionId v.toList := by
  cases i with
  | @id cs hid =>
    refine ⟨List.cons_ne_nil _ _, fun v hv => ?_⟩
    rw [List.mem_singleton.mp hv, String.toList_ofList]
    exact hid
  | reference hspells =>
    obtain ⟨values, hs, hne, hids⟩ := h
    simp only [IdItem.ids, hs, Option.getD_some]
    exact ⟨hne, hids⟩

theorem resolveChars_without {cs : List Char} (h : ∀ c ∈ cs, c ≠ '$' ∧ c ≠ '[')
    (rest : List Char) :
    resolveChars s .plain (cs ++ rest) = cs ++ resolveChars s .plain rest := by
  induction cs with
  | nil => rfl
  | cons c cs ih =>
    obtain ⟨hdollar, hbracket⟩ := h c List.mem_cons_self
    have hrest := ih fun d hd => h d (List.mem_cons_of_mem c hd)
    rw [List.cons_append, resolveChars_plain, hrest, List.cons_append]
    exact reference?_eq_none hdollar fun heq => absurd heq hbracket

theorem resolveChars_blank {g : List Char} (hg : Blank g) (rest : List Char) :
    resolveChars s .plain (g ++ rest) = g ++ resolveChars s .plain rest := by
  refine resolveChars_without (fun c hc => ⟨?_, ?_⟩) rest
  · rintro rfl
    exact nomatch hg _ hc
  · rintro rfl
    exact nomatch hg _ hc

theorem noWordAhead_blank {g rest : List Char} (hg : Blank g) (hrest : NoWordAhead rest) :
    NoWordAhead (g ++ rest) := by
  cases g with
  | nil => exact hrest
  | cons c g =>
    refine noWordAhead_cons ?_ _
    cases hc : isWord c with
    | false => rfl
    | true =>
      have hblank := hg c List.mem_cons_self
      rw [isBlank_of_isWord hc] at hblank
      cases hblank

/-- An item gives way to what its ids are written as. -/
theorem resolveChars_item (hi : i.Sound s) {rest : List Char} (hrest : NoWordAhead rest) :
    resolveChars s .plain (i.source ++ rest) =
      render .plain (i.ids s) ++ resolveChars s .plain rest := by
  cases i with
  | @id cs hid =>
    have hrender : render .plain [String.ofList cs] = cs := String.toList_ofList
    simp only [IdItem.source, IdItem.ids, hrender]
    refine resolveChars_without (fun c hc => ?_) rest
    have hplain := (hid.plain c hc).2
    simp only [List.mem_cons, List.not_mem_nil, or_false, not_or] at hplain
    exact ⟨hplain.2.2.2.1, hplain.2.2.2.2⟩
  | reference hspells =>
    obtain ⟨values, hs, -⟩ := hi
    simp only [IdItem.source, IdItem.ids, hs, Option.getD_some]
    exact resolveChars_reference (reference?_spelling hspells fun _ => hrest) hs

theorem resolveChars_entry (he : e.item.Sound s) {rest : List Char} (hrest : NoWordAhead rest) :
    resolveChars s .plain (e.source ++ rest) = e.resolved s ++ resolveChars s .plain rest := by
  unfold IdEntry.source IdEntry.resolved
  rw [List.append_assoc, List.append_assoc, resolveChars_blank e.before.blank,
    resolveChars_item he (noWordAhead_blank e.after.blank hrest),
    resolveChars_blank e.after.blank]
  simp

/-- Each reference of a field gives way to its values, and nothing else changes. -/
theorem resolve_fieldOf (h : ∀ e ∈ es, e.item.Sound s) :
    (s.resolve .plain (fieldOf es)).toList = [','].intercalate (es.map (·.resolved s)) := by
  unfold Store.resolve fieldOf
  rw [String.toList_ofList, String.toList_ofList]
  induction es with
  | nil => exact resolveChars_nil
  | cons e es ih =>
    have he := h e List.mem_cons_self
    cases es with
    | nil =>
      have hlast := resolveChars_entry he noWordAhead_nil
      rw [resolveChars_nil, List.append_nil, List.append_nil] at hlast
      simpa using hlast
    | cons next es =>
      have hrest := ih fun d hd => h d (List.mem_cons_of_mem e hd)
      have hcomma : ∀ cs, resolveChars s .plain (',' :: cs) = ',' :: resolveChars s .plain cs :=
        @resolveChars_without s [','] (by simp)
      simp only [List.map_cons, List.intercalate_cons_cons, List.append_assoc,
        List.singleton_append] at hrest ⊢
      rw [resolveChars_entry he (noWordAhead_cons (by decide) _), hcomma, hrest]

/-! ## Splitting it again -/

theorem splitCommas_id {cs : List Char} (h : ExecutionId cs) :
    splitCommas cs = [String.ofList cs] := by
  have hbare : Bare cs := bare_of_forall h.ne_nil fun c hc => (h.plain c hc).1
  have hcomma : ',' ∉ cs := fun hmem => (h.plain _ hmem).2 (by decide)
  rw [splitCommas_of_notMem hcomma, hbare.strip_self, if_neg h.ne_nil]

theorem splitCommas_ids {ids : List String} (h : ∀ id ∈ ids, ExecutionId id.toList) :
    splitCommas ([','].intercalate (ids.map String.toList)) = ids := by
  rw [splitCommas_intercalate]
  induction ids with
  | nil => rfl
  | cons id ids ih =>
    rw [List.map_cons, List.flatMap_cons, splitCommas_id (h id List.mem_cons_self),
      String.ofList_toList, ih fun d hd => h d (List.mem_cons_of_mem id hd)]
    rfl

theorem render_many {ids : List String} (h : 1 < ids.length) : render .plain ids =
    '\x7b' :: ([','].intercalate (ids.map String.toList) ++ ['\x7d']) := by
  match ids, h with
  | id :: next :: ids, _ => rfl

/-- An item with one id stands for it, and one with several has braces around them. -/
theorem IdItem.Sound.render_cases (h : i.Sound s) :
    (∃ id, i.ids s = [id] ∧ render .plain (i.ids s) = id.toList) ∨
      (1 < (i.ids s).length ∧ render .plain (i.ids s) =
        '\x7b' :: ([','].intercalate ((i.ids s).map String.toList) ++ ['\x7d'])) := by
  cases hids : i.ids s with
  | nil => exact absurd hids h.ids.1
  | cons id rest =>
    cases rest with
    | nil => exact .inl ⟨id, rfl, rfl⟩
    | cons next rest => exact .inr ⟨by simp, render_many (by simp)⟩

theorem executionId_of_mem_denoted (h : ∀ e ∈ es, e.item.Sound s) {id : String}
    (hid : id ∈ denoted s es) : ExecutionId id.toList := by
  obtain ⟨e, he, hid⟩ := List.mem_flatMap.mp hid
  exact (h e he).ids.2 id hid

/-- Items with one id each are split off as they are. -/
theorem splitIds_of_single (h : ∀ e ∈ es, e.item.Sound s)
    (hone : ∀ e ∈ es, (e.item.ids s).length = 1) :
    splitIds (s.resolve .plain (fieldOf es)) = denoted s es := by
  have hentry : ∀ e ∈ es, splitCommas (e.resolved s) = e.item.ids s := by
    intro e he
    unfold IdEntry.resolved
    rw [splitCommas_padded e.before.blank e.after.blank]
    rcases (h e he).render_cases with ⟨id, hids, hrender⟩ | ⟨hmany, -⟩
    · have hid := (h e he).ids.2 id (by rw [hids]; exact List.mem_singleton_self id)
      rw [hrender, hids, splitCommas_id hid, String.ofList_toList]
    · rw [hone e he] at hmany
      exact absurd hmany (by decide)
  have hsplit : splitCommas (s.resolve .plain (fieldOf es)).toList = denoted s es := by
    rw [resolve_fieldOf h, splitCommas_intercalate, List.flatMap_map, denoted, List.flatMap_def,
      List.map_congr_left hentry, List.flatMap_def]
  rcases splitIds_cases (s.resolve .plain (fieldOf es)) with hself | ⟨inner, hstrip, -⟩
  · rw [hself, hsplit]
  · -- No braces were put in that could be taken off.
    obtain ⟨id, hid, hmem⟩ := exists_opening_of_braced hstrip
    rw [hsplit] at hid
    exact absurd (by decide) ((executionId_of_mem_denoted h hid).plain _ hmem).2

/-- The braces around several values are taken off where they enclose the whole field. -/
theorem splitIds_of_many (he : e.item.Sound s) (hmany : 1 < (e.item.ids s).length) :
    splitIds (s.resolve .plain (fieldOf [e])) = denoted s [e] := by
  have hsound : ∀ d ∈ [e], d.item.Sound s := fun d hd => (List.mem_singleton.mp hd) ▸ he
  have hbare : Bare (render .plain (e.item.ids s)) := by
    rw [render_many hmany]
    refine ⟨List.cons_ne_nil _ _, rfl, ?_⟩
    rw [List.getLast_cons (by simp), List.getLast_concat]
    rfl
  unfold splitIds
  rw [resolve_fieldOf hsound, List.map_singleton, List.intercalate_singleton, IdEntry.resolved,
    strip_padded hbare e.before.blank e.after.blank, render_many hmany, unbrace_braced,
    splitCommas_ids he.ids.2]
  simp [denoted]

/-- Where a part stands among others, there is a comma beside it. -/
theorem exists_intercalate_eq {part : List Char} {parts : List (List Char)} (h : part ∈ parts) :
    ∃ x z, [','].intercalate parts = x ++ (part ++ z) ∧
      (parts.length ≠ 1 → ',' ∈ x ∨ ',' ∈ z) := by
  induction parts with
  | nil => cases h
  | cons first parts ih =>
    cases parts with
    | nil =>
      rw [List.mem_singleton.mp h]
      exact ⟨[], [], by simp, fun hmore => absurd rfl hmore⟩
    | cons next parts =>
      rw [List.intercalate_cons_cons]
      rcases List.mem_cons.mp h with rfl | h
      · exact ⟨[], ',' :: [','].intercalate (next :: parts), by simp,
          fun _ => .inr List.mem_cons_self⟩
      · obtain ⟨x, z, heq, -⟩ := ih h
        exact ⟨first ++ ',' :: x, z, by simp [heq], fun _ => .inl (by simp)⟩

/-- The braces around several values stay where other items stand beside them. -/
theorem splitIds_of_mixed (h : ∀ e ∈ es, e.item.Sound s) (he : e ∈ es)
    (hmany : 1 < (e.item.ids s).length) (hmore : es.length ≠ 1) :
    splitIds (s.resolve .plain (fieldOf es)) ≠ denoted s es := by
  intro heq
  obtain ⟨x, z, hfield, hcomma⟩ :=
    exists_intercalate_eq (List.mem_map_of_mem (f := (·.resolved s)) he)
  rw [← resolve_fieldOf h, IdEntry.resolved, render_many hmany] at hfield
  rw [List.length_map] at hcomma
  obtain ⟨id, hid, hbrace⟩ := exists_brace_mem_splitIds
    (x := x ++ e.before.chars) (z := e.after.chars ++ z)
    (y := [','].intercalate ((e.item.ids s).map String.toList)) (by simpa using hfield)
    ((hcomma hmore).imp (List.mem_append_left _) (List.mem_append_right _))
  rw [heq] at hid
  have hplain := (executionId_of_mem_denoted h hid).plain
  rcases hbrace with hmem | hmem
  · exact absurd (by decide) (hplain _ hmem).2
  · exact absurd (by decide) (hplain _ hmem).2

theorem IdItem.source_ne_nil (i : IdItem) : i.source ≠ [] := by
  cases i with
  | id hid => exact hid.ne_nil
  | reference hspells =>
    cases hspells with
    | dollar _ => exact List.cons_ne_nil _ _
    | braced _ _ => exact List.cons_ne_nil _ _
    | bracketed _ _ => exact List.cons_ne_nil _ _

theorem fieldOf_ne_empty (hne : es ≠ []) : fieldOf es ≠ "" := by
  obtain ⟨e, he⟩ := List.exists_mem_of_ne_nil es hne
  obtain ⟨x, z, hfield, -⟩ := exists_intercalate_eq (List.mem_map_of_mem (f := IdEntry.source) he)
  intro hempty
  rw [fieldOf, hfield, ← String.toList_inj, String.toList_ofList] at hempty
  simp only [IdEntry.source, String.toList_empty, List.append_eq_nil_iff] at hempty
  exact e.item.source_ne_nil hempty.2.1.2.1

theorem prepare_field {region : String} {t : Target} (h : t.executionId ≠ "") :
    (prepare s region t).executionId = s.resolve .plain t.executionId ∧
      (prepare s region t).inputs = splitIds (s.resolve .plain t.executionId) := by
  unfold prepare
  simp only [if_neg h, and_self]

theorem prepare_keeps (region : String) (t : Target) :
    (prepare s region t).maxRows = t.maxRows ∧ (prepare s region t).sql = t.sql := by
  unfold prepare
  simp only
  split
  · exact ⟨rfl, rfl⟩
  · exact ⟨rfl, rfl⟩

theorem mem_targets_request {window : Window} {region : String} {targets : List Target} {t : Target}
    (ht : t ∈ targets) (hvisible : t.hide = false) :
    prepare s region t ∈ (request s window region targets).targets :=
  List.mem_map_of_mem (List.mem_filter.mpr ⟨ht, by rw [hvisible]; rfl⟩)

/-- **A field is split into the ids that it denotes, unless it mixes several values with other
    items.** A visible target goes into the request, and its inputs are the ids of the items of its
    field in their order, each variable with all its values in their order, just when the field is
    one item or none of its items has several values. -/
theorem inputs_eq_iff {window : Window} {region : String} {targets : List Target} {t : Target}
    (ht : t ∈ targets) (hvisible : t.hide = false) (hfield : t.executionId = fieldOf es)
    (hne : es ≠ []) (h : ∀ e ∈ es, e.item.Sound s) :
    prepare s region t ∈ (request s window region targets).targets ∧
      ((prepare s region t).inputs = denoted s es ↔
        es.length = 1 ∨ ∀ e ∈ es, (e.item.ids s).length = 1) := by
  have hinputs := (@prepare_field s region t (hfield ▸ fieldOf_ne_empty hne)).2
  rw [hinputs, hfield]
  have hmany : ∀ e ∈ es, (e.item.ids s).length ≠ 1 → 1 < (e.item.ids s).length := by
    intro e he hother
    have hpos := List.length_pos_iff.mpr (h e he).ids.1
    omega
  refine ⟨mem_targets_request ht hvisible, fun heq => ?_, fun hform => ?_⟩
  · refine or_iff_not_imp_left.mpr fun hmore e he => ?_
    by_contra hother
    exact splitIds_of_mixed h he (hmany e he hother) hmore heq
  · by_cases hone : ∀ e ∈ es, (e.item.ids s).length = 1
    · exact splitIds_of_single h hone
    · obtain ⟨e, rfl⟩ := List.length_eq_one_iff.mp (hform.resolve_right hone)
      have he := List.mem_singleton_self e
      rw [List.forall_mem_singleton] at hone
      exact splitIds_of_many (h e he) (hmany e he hone)

end

/-- A variable with one value and another with two. -/
def dayStore : Store := ⟨[("day", ["e1"]), ("exec", ["e1", "e2"])]⟩

theorem executionId_of_all {cs : List Char} (hne : cs ≠ [])
    (h : cs.all fun c => !isBlank c && !([',', '\x7b', '\x7d', '$', '['].contains c)) :
    ExecutionId cs := by
  refine ⟨hne, fun c hc => ?_⟩
  simpa using List.all_eq_true.mp h c hc

/-- A reference to a variable, and an execution id behind it. -/
def pairOf {name : List Char} (h : Word name) : List IdEntry :=
  have hid : ExecutionId "e3".toList := executionId_of_all (by decide) (by decide)
  [⟨⟨[], blank_nil⟩, .reference (.dollar h), ⟨[], blank_nil⟩⟩,
   ⟨⟨[], blank_nil⟩, .id hid, ⟨[], blank_nil⟩⟩]

theorem word_day : Word "day".toList := ⟨by decide, List.all_eq_true.mp (by decide)⟩

theorem word_exec : Word "exec".toList := ⟨by decide, List.all_eq_true.mp (by decide)⟩

theorem sound_pairOf {name : List Char} (h : Word name) {values : List String}
    (hs : dayStore.get? (String.ofList name) = some values) (hne : values ≠ [])
    (hids : ∀ v ∈ values, ExecutionId v.toList) : ∀ e ∈ pairOf h, e.item.Sound dayStore := by
  simp only [pairOf, List.forall_mem_cons, List.not_mem_nil, false_implies, implies_true, and_true]
  exact ⟨⟨values, hs, hne, hids⟩, trivial⟩

theorem sound_day : ∀ e ∈ pairOf word_day, e.item.Sound dayStore := by
  refine sound_pairOf word_day rfl (List.cons_ne_nil "e1" []) ?_
  simp only [List.forall_mem_singleton]
  exact executionId_of_all (by decide) (by decide)

theorem sound_exec : ∀ e ∈ pairOf word_exec, e.item.Sound dayStore := by
  refine sound_pairOf word_exec rfl (List.cons_ne_nil "e1" ["e2"]) ?_
  simp only [List.forall_mem_cons, List.not_mem_nil, false_implies, implies_true, and_true]
  exact ⟨executionId_of_all (by decide) (by decide), executionId_of_all (by decide) (by decide)⟩

def dayTarget : Target := { refId := "A", executionId := "$day,e3" }

def execTarget : Target := { refId := "A", executionId := "$exec,e3" }

theorem inputs_dayTarget : dayTarget.hide = false ∧
    dayTarget.executionId = fieldOf (pairOf word_day) ∧
    (∀ e ∈ pairOf word_day, e.item.Sound dayStore) ∧
    prepare dayStore "r" dayTarget ∈
      (request dayStore ⟨.epoch, .epoch⟩ "r" [dayTarget]).targets ∧
    (prepare dayStore "r" dayTarget).inputs = denoted dayStore (pairOf word_day) := by
  have hfield : dayTarget.executionId = fieldOf (pairOf word_day) := by decide +kernel
  obtain ⟨hmem, hinputs⟩ := @inputs_eq_iff dayStore _ ⟨.epoch, .epoch⟩ "r" [dayTarget] dayTarget
    (List.mem_singleton_self _) rfl hfield (List.cons_ne_nil _ _) sound_day
  exact ⟨rfl, hfield, sound_day, hmem, hinputs.mpr (.inr (by decide +kernel))⟩

/-- Two values beside an execution id are split in the middle, and keep their braces. -/
theorem inputs_execTarget : execTarget.executionId = fieldOf (pairOf word_exec) ∧
    (∀ e ∈ pairOf word_exec, e.item.Sound dayStore) ∧
    denoted dayStore (pairOf word_exec) = ["e1", "e2", "e3"] ∧
    (request dayStore ⟨.epoch, .epoch⟩ "r" [execTarget]).targets.map (·.inputs) =
      [["\x7be1", "e2\x7d", "e3"]] :=
  ⟨by decide +kernel, sound_exec, by decide +kernel, by decide +kernel⟩

end PanelSource.Panel
