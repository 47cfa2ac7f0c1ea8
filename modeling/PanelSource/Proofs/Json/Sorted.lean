import PanelSource.Json.Document

/- Values as they are read: with sorted fields.

   A value that is written and read again has the fields of its objects in the order of their names
   (`Document.toJson?_ofJson`). That moves fields, and changes none: each name has the value that it
   had, sorted in turn (`Json.field?_sorted`). -/
namespace PanelSource

namespace Json

mutual

/-- The value with the fields of all its objects in the order of their names. -/
def sorted : Json → Json
  | .null => .null
  | .bool b => .bool b
  | .number n => .number n
  | .string s => .string s
  | .array items => .array (sortedItems items)
  | .object fields => .object (sortedFields fields [])

def sortedItems : List Json → List Json
  | [] => []
  | j :: rest => sorted j :: sortedItems rest

/-- Puts fields one after the other into sorted ones. -/
def sortedFields : List (String × Json) → List (String × Json) → List (String × Json)
  | [], done => done
  | (name, j) :: rest, done => sortedFields rest (insertField name (sorted j) done)

end

/-! ## Fields of sorted values -/

theorem field?_cons (n : String) (v : Json) (fields : List (String × Json)) (name : String) :
    (Json.object ((n, v) :: fields)).field? name =
      ((Json.object fields).field? name).or (if n = name then some v else none) := by
  simp only [field?, List.reverse_cons, List.find?_append]
  cases (fields.reverse.find? fun f => f.1 == name) with
  | some f => rfl
  | none =>
    by_cases h : n = name
    · simp [h]
    · simp [h]

theorem field?_eq_none {fields : List (String × Json)} {name : String}
    (h : ∀ f ∈ fields, f.1 ≠ name) : (Json.object fields).field? name = none := by
  simp only [field?, Option.map_eq_none_iff, List.find?_eq_none, List.mem_reverse, beq_iff_eq]
  exact h

/-- Fields in the order of their names, with one of each name. -/
def Ascending (fields : List (String × Json)) : Prop := fields.Pairwise fun f g => f.1 < g.1

theorem mem_insertField {name : String} {v : Json} {fields : List (String × Json)}
    {f : String × Json} (h : f ∈ insertField name v fields) : f = (name, v) ∨ f ∈ fields := by
  induction fields with
  | nil => exact .inl (List.mem_singleton.mp h)
  | cons g fields ih =>
    obtain ⟨k, w⟩ := g
    unfold insertField at h
    split at h
    · rcases List.mem_cons.mp h with rfl | h
      · exact .inl rfl
      · exact .inr (List.mem_cons_of_mem _ h)
    · split at h
      · exact List.mem_cons.mp h
      · rcases List.mem_cons.mp h with rfl | h
        · exact .inr List.mem_cons_self
        · rcases ih h with rfl | h
          · exact .inl rfl
          · exact .inr (List.mem_cons_of_mem _ h)

theorem lt_of_not_lt {a b : String} (hne : a ≠ b) (h : ¬ a < b) : b < a :=
  String.not_le.mp fun hle => hne (String.le_antisymm hle (String.not_lt.mp h))

theorem ascending_insertField {name : String} {v : Json} {fields : List (String × Json)}
    (h : Ascending fields) : Ascending (insertField name v fields) := by
  induction fields with
  | nil => exact List.pairwise_singleton _ _
  | cons g fields ih =>
    obtain ⟨k, w⟩ := g
    obtain ⟨hhead, htail⟩ := List.pairwise_cons.mp h
    unfold insertField
    by_cases hname : name = k
    · subst hname
      rw [if_pos rfl]
      exact List.pairwise_cons.mpr ⟨hhead, htail⟩
    · rw [if_neg hname]
      by_cases hlt : name < k
      · rw [if_pos hlt]
        refine List.pairwise_cons.mpr ⟨fun f hf => ?_, h⟩
        rcases List.mem_cons.mp hf with rfl | hf
        · exact hlt
        · exact String.lt_trans hlt (hhead f hf)
      · rw [if_neg hlt]
        refine List.pairwise_cons.mpr ⟨fun f hf => ?_, ih htail⟩
        rcases mem_insertField hf with rfl | hf
        · exact lt_of_not_lt hname hlt
        · exact hhead f hf

theorem field?_insertField {name : String} {v : Json} {fields : List (String × Json)}
    (h : Ascending fields) (k : String) :
    (Json.object (insertField name v fields)).field? k =
      if name = k then some v else (Json.object fields).field? k := by
  induction fields with
  | nil =>
    rw [insertField, field?_cons]
    rfl
  | cons g fields ih =>
    obtain ⟨n, w⟩ := g
    obtain ⟨hhead, htail⟩ := List.pairwise_cons.mp h
    -- Names below all of the rest are not among the rest.
    have habove (m : String) (hm : ∀ f ∈ fields, m < f.1) : (Json.object fields).field? m = none :=
      field?_eq_none fun f hf heq => String.lt_irrefl m (heq ▸ hm f hf)
    unfold insertField
    by_cases hname : name = n
    · rw [if_pos hname, field?_cons, field?_cons, hname]
      by_cases hk : n = k
      · rw [if_pos hk, if_pos hk, ← hk, habove n hhead]
        rfl
      · rw [if_neg hk, if_neg hk, if_neg hk]
    · rw [if_neg hname]
      by_cases hlt : name < n
      · rw [if_pos hlt, field?_cons]
        by_cases hk : name = k
        · have hnone : (Json.object ((n, w) :: fields)).field? name = none := by
            rw [field?_cons, habove name fun f hf => String.lt_trans hlt (hhead f hf),
              if_neg fun heq => hname heq.symm]
            rfl
          rw [if_pos hk, if_pos hk, ← hk, hnone]
          rfl
        · rw [if_neg hk, if_neg hk, Option.or_none]
      · rw [if_neg hlt, field?_cons, field?_cons, ih htail]
        by_cases hk : name = k
        · rw [if_pos hk, if_pos hk]
          rfl
        · rw [if_neg hk, if_neg hk]

theorem field?_sortedFields (fields : List (String × Json)) {done : List (String × Json)}
    (h : Ascending done) (k : String) :
    (Json.object (sortedFields fields done)).field? k =
      (((Json.object fields).field? k).map sorted).or ((Json.object done).field? k) := by
  induction fields generalizing done with
  | nil => rfl
  | cons f fields ih =>
    obtain ⟨n, v⟩ := f
    rw [sortedFields, ih (ascending_insertField h), field?_insertField h, field?_cons]
    cases (Json.object fields).field? k with
    | some w => rfl
    | none =>
      by_cases hk : n = k
      · rw [if_pos hk, if_pos hk]
        rfl
      · rw [if_neg hk, if_neg hk]
        rfl

/-- **Sorting moves fields and takes none away.** -/
theorem field?_sorted (j : Json) (k : String) : j.sorted.field? k = (j.field? k).map sorted := by
  cases j with
  | object fields =>
    rw [sorted, field?_sortedFields fields List.Pairwise.nil]
    exact Option.or_none
  | null => rfl
  | bool b => rfl
  | number n => rfl
  | string s => rfl
  | array items => rfl

end Json

namespace Document

mutual

theorem toJson?_ofJson : ∀ j : Json, (ofJson j).toJson? = some j.sorted
  | .null => rfl
  | .bool _ => rfl
  | .number _ => rfl
  | .string _ => rfl
  | .array items => by
    rw [ofJson, toJson?, if_pos rfl, itemsToJson?_ofJson items]
    rfl
  | .object fields => by
    rw [ofJson, toJson?, if_pos rfl, fieldsToJson?_ofJson fields []]
    rfl

theorem itemsToJson?_ofJson : ∀ items : List Json,
    itemsToJson? (itemsOfJson items) = some (Json.sortedItems items)
  | [] => rfl
  | j :: rest => by
    simp only [itemsOfJson, itemsToJson?, toJson?_ofJson j, itemsToJson?_ofJson rest]
    rfl

theorem fieldsToJson?_ofJson : ∀ (fields done : List (String × Json)),
    fieldsToJson? (fieldsOfJson fields) done = some (Json.sortedFields fields done)
  | [], _ => rfl
  | (name, j) :: rest, done => by
    simp only [fieldsOfJson, fieldsToJson?, toJson?_ofJson j, fieldsToJson?_ofJson rest]
    rfl

end

end Document
end PanelSource
