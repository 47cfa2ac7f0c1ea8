import Mathlib.Data.List.Nodup
import PanelSource.Athena.Execution
import PanelSource.Proofs.Calendar.Timestamp
import PanelSource.Proofs.Json.Text
import PanelSource.Proofs.Wire.Record

/- Records of executions read back.

   A record whose times are ones that clocks show and whose counters fit 64 bits is decoded from its
   JSON to itself (`Execution.decode_toJson`); what is missing in it is left out there. -/
namespace PanelSource
open Calendar Number

/-- An instant that the calendar has. -/
structure Calendar.Instant.Kept (t : Instant) : Prop where
  proper : t.Proper
  inRange : t.inRange = true

/-! ## Members that may be missing -/

namespace Json

/-- A field is found where names are distinct. -/
theorem field?_of_mem {fields : List (String × Json)} (hnodup : (fields.map (·.1)).Nodup)
    {name : String} {j : Json} (h : (name, j) ∈ fields) :
    (Json.object fields).field? name = some j := by
  have hsome : (fields.reverse.find? fun f => f.1 == name).isSome := by
    rw [List.find?_isSome]
    exact ⟨_, List.mem_reverse.mpr h, beq_self_eq_true name⟩
  obtain ⟨f, hf⟩ := Option.isSome_iff_exists.mp hsome
  have hmem : f ∈ fields := List.mem_reverse.mp (List.mem_of_find?_eq_some hf)
  have htest : (f.1 == name) = true := by
    have htest := List.find?_some hf
    exact htest
  have hname : f.1 = name := beq_iff_eq.mp htest
  obtain rfl : f = (name, j) := List.inj_on_of_nodup_map hnodup hmem h hname
  rw [Json.field?, hf]
  rfl

theorem names_of_some (fields : List (String × Option Json)) :
    ((fields.filterMap fun f => f.2.map fun j => (f.1, j)).map (·.1)).Sublist
      (fields.map (·.1)) := by
  induction fields with
  | nil => exact .slnil
  | cons f fields ih =>
    obtain ⟨name, o⟩ := f
    cases o with
    | none => exact ih.cons _
    | some j => exact ih.cons_cons _

theorem field?_objectOfSome {fields : List (String × Option Json)}
    (hnodup : (fields.map (·.1)).Nodup) {name : String} {j : Json} (h : (name, some j) ∈ fields) :
    (Json.objectOfSome fields).field? name = some j :=
  field?_of_mem (hnodup.sublist (names_of_some fields))
    (List.mem_filterMap.mpr ⟨_, h, rfl⟩)

end Json

namespace Wire
variable {σ α : Type}

/-- The members of an object that leaves out what is missing. -/
def someMembers (fields : List (String × Option Json)) : List (String × Document) :=
  Document.fieldsOfJson (fields.filterMap fun f => f.2.map fun j => (f.1, j))

theorem Supplies.optional {name : String} {read : Decoder α} {write : α → Json}
    {put : Option α → σ → σ} {o : Option α} {fields : List (Field σ)}
    {rest : List (String × Option Json)} {s s' : σ}
    (hread : ∀ a ∈ o, optional read (.ofJson (write a)) = .ok (some a))
    (hput : put none s = s) (h : Supplies fields (someMembers rest) (put o s) s') :
    Supplies (Wire.field name (Wire.optional read) put :: fields)
      (someMembers ((name, o.map write) :: rest)) s s' := by
  cases o with
  | none =>
    rw [hput] at h
    exact .skip rfl h
  | some a => exact Supplies.field (hread a rfl) h

theorem optional_of_ok {read : Decoder α} {d : Document} {a : α} (hd : d ≠ .null)
    (h : read d = .ok a) : optional read d = .ok (some a) := by
  unfold optional
  split
  · exact absurd rfl hd
  · rw [h]
    rfl

theorem record_objectOfSome {fields : List (Field σ)} {members : List (String × Option Json)}
    {start s : σ} (hnodup : (fields.map (·.name)).Nodup)
    (h : Supplies fields (someMembers members) start s) :
    record fields start (.ofJson (.objectOfSome members)) = .ok s := by
  rw [Json.objectOfSome, Document.ofJson]
  exact record_supplies hnodup h

theorem optional_string {s : String} : optional text (.ofJson (.string s)) = .ok (some s) := rfl

theorem optional_int {i : Int} (h : int64Min ≤ i ∧ i ≤ int64Max) :
    optional int64 (.ofJson (.int i)) = .ok (some i) := by
  refine optional_of_ok (fun h => nomatch h) ?_
  exact if_pos h

theorem optional_instant {t : Instant} (h : t.Kept) :
    optional instant (.ofJson t.toJson) = .ok (some t) := by
  refine optional_of_ok (fun h => nomatch h) ?_
  have hread : instant (.string t.rfc3339) = .ok t := by
    unfold instant
    simp only [readLenient_rfc3339 h.proper h.inRange]
  exact hread

end Wire

/-! ## Executions -/

structure ExecutionStatus.Proper (s : ExecutionStatus) : Prop where
  submitted : ∀ t ∈ s.submitted, t.Kept
  completed : ∀ t ∈ s.completed, t.Kept

structure ExecutionStatistics.Proper (s : ExecutionStatistics) : Prop where
  scannedBytes : ∀ i ∈ s.scannedBytes, int64Min ≤ i ∧ i ≤ int64Max
  engineMillis : ∀ i ∈ s.engineMillis, int64Min ≤ i ∧ i ≤ int64Max

/-- A record with times that the calendar has and counters of 64 bits. -/
structure Execution.Proper (e : Execution) : Prop where
  status : ∀ s ∈ e.status, s.Proper
  statistics : ∀ s ∈ e.statistics, s.Proper

theorem ExecutionStatus.decode_toJson {s : ExecutionStatus} (h : s.Proper) :
    ExecutionStatus.decode (.ofJson s.toJson) = .ok s := by
  refine Wire.record_objectOfSome (by decide) ?_
  refine .optional (fun _ _ => Wire.optional_string) (by rfl) ?_
  refine .optional (fun t ht => Wire.optional_instant (h.submitted t ht)) (by rfl) ?_
  refine .optional (fun t ht => Wire.optional_instant (h.completed t ht)) (by rfl) ?_
  exact .done

theorem ExecutionStatistics.decode_toJson {s : ExecutionStatistics} (h : s.Proper) :
    ExecutionStatistics.decode (.ofJson s.toJson) = .ok s := by
  refine Wire.record_objectOfSome (by decide) ?_
  refine .optional (fun i hi => Wire.optional_int (h.scannedBytes i hi)) (by rfl) ?_
  refine .optional (fun i hi => Wire.optional_int (h.engineMillis i hi)) (by rfl) ?_
  exact .done

/-- **A record is read back from its JSON.** -/
theorem Execution.decode_toJson {e : Execution} (h : e.Proper) :
    Execution.decode (.ofJson e.toJson) = .ok e := by
  refine Wire.record_objectOfSome (by decide) ?_
  refine .optional (fun _ _ => Wire.optional_string) (by rfl) ?_
  refine .optional (fun _ _ => Wire.optional_string) (by rfl) ?_
  refine .optional (fun _ _ => Wire.optional_string) (by rfl) ?_
  refine .optional (fun s hs => Wire.optional_of_ok (fun h => nomatch h)
    (ExecutionStatus.decode_toJson (h.status s hs))) (by rfl) ?_
  refine .optional (fun s hs => Wire.optional_of_ok (fun h => nomatch h)
    (ExecutionStatistics.decode_toJson (h.statistics s hs))) (by rfl) ?_
  exact .done

/-! ## Records as texts -/

theorem Json.plain_objectOfSome {depth : Nat} {fields : List (String × Option Json)}
    (h : ∀ f ∈ fields, ∀ j ∈ f.2, Json.Plain depth j) :
    (Json.objectOfSome fields).Plain (depth + 1) := by
  refine .object fun f hf => ?_
  obtain ⟨g, hg, hsome⟩ := List.mem_filterMap.mp hf
  obtain ⟨j, hj, rfl⟩ := Option.map_eq_some_iff.mp hsome
  exact h g hg j hj

theorem Json.plain_map {depth : Nat} {α : Type} {f : α → Json} {o : Option α}
    (h : ∀ a ∈ o, (f a).Plain depth) : ∀ j ∈ o.map f, j.Plain depth := by
  intro j hj
  obtain ⟨a, ha, rfl⟩ := Option.map_eq_some_iff.mp hj
  exact h a ha

theorem ExecutionStatus.plain_toJson (depth : Nat) (s : ExecutionStatus) :
    s.toJson.Plain (depth + 1) := by
  refine Json.plain_objectOfSome ?_
  simp only [List.forall_mem_cons, List.not_mem_nil, false_imp_iff, implies_true, and_true]
  exact ⟨Json.plain_map fun state _ => .string state, Json.plain_map fun t _ => .string t.rfc3339,
    Json.plain_map fun t _ => .string t.rfc3339⟩

theorem ExecutionStatistics.plain_toJson (depth : Nat) {s : ExecutionStatistics} (h : s.Proper) :
    s.toJson.Plain (depth + 1) := by
  have hcounter {i : Int} (hi : int64Min ≤ i ∧ i ≤ int64Max) : (Json.int i).Plain depth :=
    .integer hi.1 (Int.le_trans hi.2 (by decide))
  refine Json.plain_objectOfSome ?_
  simp only [List.forall_mem_cons, List.not_mem_nil, false_imp_iff, implies_true, and_true]
  exact ⟨Json.plain_map fun i hi => hcounter (h.scannedBytes i hi),
    Json.plain_map fun i hi => hcounter (h.engineMillis i hi)⟩

theorem Execution.plain_toJson (depth : Nat) {e : Execution} (h : ∀ s ∈ e.statistics, s.Proper) :
    e.toJson.Plain (depth + 2) := by
  refine Json.plain_objectOfSome ?_
  simp only [List.forall_mem_cons, List.not_mem_nil, false_imp_iff, implies_true, and_true]
  exact ⟨Json.plain_map fun id _ => .string id, Json.plain_map fun sql _ => .string sql,
    Json.plain_map fun name _ => .string name, Json.plain_map fun s _ => s.plain_toJson depth,
    Json.plain_map fun s hs => ExecutionStatistics.plain_toJson depth (h s hs)⟩

end PanelSource
