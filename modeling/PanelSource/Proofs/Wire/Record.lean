import Mathlib.Data.List.Basic
import PanelSource.Wire.Decoder

/- Records read back.

   An object supplies a record when its members stand in the order of the record's fields and each
   of them is read; fields that are not required may be left out (`Supplies`). A record whose fields
   have distinct names is read from such an object to the state that its members make
   (`record_supplies`), and a list is read item by item (`list_ofJson`). -/
namespace PanelSource.Wire

variable {σ α β : Type}

/-- Members in the order of the fields take a record from one state to another. -/
inductive Supplies : List (Field σ) → List (String × Document) → σ → σ → Prop
  | done {s : σ} : Supplies [] [] s s
  | skip {f : Field σ} {fields : List (Field σ)} {members : List (String × Document)} {s s' : σ}
      (hfree : f.required = false) (h : Supplies fields members s s') :
      Supplies (f :: fields) members s s'
  | read {f : Field σ} {fields : List (Field σ)} {members : List (String × Document)}
      {d : Document} {s₀ s s' : σ} (hread : f.read d s₀ = .ok s)
      (h : Supplies fields members s s') :
      Supplies (f :: fields) ((f.name, d) :: members) s₀ s'

section
variable {name : String} {read : Decoder α} {put : α → σ → σ} {fields : List (Field σ)}
  {members : List (String × Document)} {d : Document} {a : α} {s s' : σ}

theorem Supplies.field (hread : read d = .ok a) (h : Supplies fields members (put a s) s') :
    Supplies (Wire.field name read put :: fields) ((name, d) :: members) s s' := by
  refine .read (f := Wire.field name read put) ?_ h
  simp only [Wire.field, hread]
  rfl

theorem Supplies.requiredField (hread : read d = .ok a) (h : Supplies fields members (put a s) s') :
    Supplies (Wire.requiredField name read put :: fields) ((name, d) :: members) s s' := by
  refine .read (f := Wire.requiredField name read put) ?_ h
  simp only [Wire.requiredField, Wire.field, hread]
  rfl

theorem Supplies.omitted {p : Prop} [Decidable p] {j : Json} {rest : List (String × Json)}
    (hread : read (.ofJson j) = .ok a) (hp : p → put a s = s)
    (h : Supplies fields (Document.fieldsOfJson rest) (put a s) s') :
    Supplies (Wire.field name read put :: fields)
      (Document.fieldsOfJson ((if p then [] else [(name, j)]) ++ rest)) s s' := by
  by_cases hyes : p
  · rw [if_pos hyes]
    rw [hp hyes] at h
    exact .skip rfl h
  · rw [if_neg hyes]
    exact .field hread h

end

theorem find?_field {before after : List (Field σ)} {f : Field σ}
    (hnodup : ((before ++ f :: after).map (·.name)).Nodup) :
    ((before ++ f :: after).find? fun g => g.name == f.name) = some f := by
  rw [List.find?_append]
  have hnone : (before.find? fun g => g.name == f.name) = none := by
    rw [List.find?_eq_none]
    intro g hg heq
    rw [List.map_append, List.nodup_append] at hnodup
    exact hnodup.2.2 _ (List.mem_map_of_mem hg) _ List.mem_cons_self (by simpa using heq)
  simp [hnone]

/-- Members behind others that were read. -/
theorem readFields_supplies {fields : List (Field σ)} {members : List (String × Document)}
    {s s' : σ} (h : Supplies fields members s s') (before : List (Field σ))
    (hnodup : ((before ++ fields).map (·.name)).Nodup) {seen : List String}
    (hseen : seen ⊆ before.map (·.name)) :
    ∃ seen', readFields (before ++ fields) seen members s = .ok (seen', s') ∧ seen ⊆ seen' ∧
      ∀ f ∈ fields, f.required = true → f.name ∈ seen' := by
  induction h generalizing before seen with
  | done =>
    refine ⟨seen, rfl, List.Subset.refl seen, ?_⟩
    intro f hf
    cases hf
  | @skip f fields members s s' hfree h ih =>
    -- A field that is not in the document moves to the ones that are done with.
    rw [List.append_cons] at hnodup ⊢
    obtain ⟨seen', hread, hsub, hall⟩ := ih (before ++ [f]) hnodup
      (fun name hname => by simp [List.mem_map.mp (hseen hname)])
    refine ⟨seen', hread, hsub, ?_⟩
    intro g hg hrequired
    rcases List.mem_cons.mp hg with rfl | hg
    · rw [hfree] at hrequired
      cases hrequired
    · exact hall g hg hrequired
  | @read f fields members d s₀ s s' hread h ih =>
    have hfind := find?_field hnodup
    -- What has been seen are names of fields before this one, and names occur once.
    have hfresh : f.name ∉ seen := by
      intro hmem
      rw [List.map_append, List.nodup_append] at hnodup
      exact hnodup.2.2 _ (hseen hmem) _ List.mem_cons_self rfl
    have hseen' : f.name :: seen ⊆ (before ++ [f]).map (·.name) := by
      intro name hname
      rw [List.map_append, List.mem_append]
      rcases List.mem_cons.mp hname with rfl | hname
      · exact .inr List.mem_cons_self
      · exact .inl (hseen hname)
    rw [List.append_cons] at hnodup
    obtain ⟨seen', hrest, hsub, hall⟩ := ih (before ++ [f]) hnodup hseen'
    rw [← List.append_cons] at hrest
    refine ⟨seen', ?_, fun name hname => hsub (List.mem_cons_of_mem _ hname), ?_⟩
    · simp only [readFields, hfind, if_neg hfresh, hread]
      exact hrest
    · intro g hg hrequired
      rcases List.mem_cons.mp hg with rfl | hg
      · exact hsub List.mem_cons_self
      · exact hall g hg hrequired

/-- **A record is read from an object that supplies it.** -/
theorem record_supplies {fields : List (Field σ)} {members : List (String × Document)} {start s : σ}
    (hnodup : (fields.map (·.name)).Nodup) (h : Supplies fields members start s) :
    record fields start (.object members true) = .ok s := by
  obtain ⟨seen, hread, -, hall⟩ := readFields_supplies h [] hnodup (List.Subset.refl [])
  have hrequired : (fields.all fun f => !f.required || seen.contains f.name) = true := by
    rw [List.all_eq_true]
    intro f hf
    cases hreq : f.required with
    | false => rfl
    | true => simpa using hall f hf hreq
  rw [List.nil_append] at hread
  simp only [record, hread]
  show (if fields.all fun f => !f.required || seen.contains f.name then _ else _) = _
  rw [if_pos hrequired]
  rfl

theorem itemsOfJson_eq (items : List Json) :
    Document.itemsOfJson items = items.map Document.ofJson := by
  induction items with
  | nil => rfl
  | cons j items ih => rw [Document.itemsOfJson, ih, List.map_cons]

/-- A list is read whose items are. -/
theorem list_ofJson {read : Decoder β} {write : α → Json} {f : α → β} {xs : List α}
    (h : ∀ x ∈ xs, read (.ofJson (write x)) = .ok (f x)) :
    list read (.ofJson (.array (xs.map write))) = .ok (xs.map f) := by
  have hall : readAll read (xs.map fun x => .ofJson (write x)) = .ok (xs.map f) := by
    induction xs with
    | nil => rfl
    | cons x xs ih =>
      rw [List.map_cons, readAll, h x List.mem_cons_self,
        ih fun y hy => h y (List.mem_cons_of_mem x hy)]
      rfl
  rw [Document.ofJson, itemsOfJson_eq, List.map_map]
  unfold list
  show (readAll read (xs.map fun x => .ofJson (write x)) >>= _) = _
  rw [hall]
  rfl

end PanelSource.Wire
