import PanelSource.Proofs.Json.Text
import PanelSource.Proofs.Span
import PanelSource.Proofs.Wire.Record
import PanelSource.Server.Router

/- Panel requests over the wire.

   A request is written as plain JSON, so its text is read back as it was written. Every field of a
   target comes back as it was but the cache duration, which is written in whole seconds
   (`decode_target`). So a request comes back with its cache durations cut to whole seconds, and
   that is what a server is asked (`parse?_compress`, `readRequest_posted`). -/
namespace PanelSource
open Number

namespace Target

/-- The target with its cache duration cut to whole seconds. -/
def whole (t : Target) : Target := { t with cacheDuration := t.cacheDuration.whole }

theorem decode_input (id : String) : decodeInput (.ofJson (inputToJson id)) = .ok id := rfl

/-- A target is read back, up to what its cache duration has past its whole seconds. -/
theorem decode_target {t : Target} (hexact : Exact t.cacheDuration.seconds) :
    decode (.ofJson t.toJson) = .ok t.whole := by
  have hinputs : Wire.list decodeInput (.ofJson (.array (t.inputs.map inputToJson))) =
      .ok (t.inputs.map id) := Wire.list_ofJson fun id _ => decode_input id
  rw [List.map_id] at hinputs
  have hspan : Wire.span (.ofJson (.string (spanText t.cacheDuration))) =
      .ok t.cacheDuration.whole := by
    simp only [Document.ofJson, Wire.span, Span.read_spanText hexact]
  unfold decode toJson
  rw [List.append_assoc]
  apply Wire.record_supplies (by decide)
  refine .field (by rfl) <| .field (by rfl) <| .field (by rfl) <| .field (by rfl) ?_
  -- An empty id field is not written, and is what a target has without one.
  refine .omitted (by rfl) (fun hid => by rw [hid]) ?_
  refine .field hinputs <| .field (by rfl) <| .field (by rfl) <| .field hspan ?_
  refine .field (by rfl) <| .field (by rfl) <| .field (by rfl) <| .field (by rfl) ?_
  exact .field (by rfl) <| .field (by rfl) .done

theorem plain_toJson (t : Target) : Json.Plain 125 t.toJson := by
  have hinputs : Json.Plain 124 (.array (t.inputs.map inputToJson)) := by
    refine .array ?_
    intro j hj
    obtain ⟨id, -, rfl⟩ := List.mem_map.mp hj
    refine .object ?_
    intro f hf
    rw [List.mem_singleton.mp hf]
    exact .string id
  apply Json.Plain.object
  rw [List.forall_mem_append, List.forall_mem_append]
  refine ⟨⟨by simp [Json.Plain.string, Json.Plain.bool], ?_⟩, by simp [Json.Plain.string, hinputs]⟩
  split
  · simp
  · simp [Json.Plain.string]

end Target

namespace Request

/-- The request with the cache durations of its targets cut to whole seconds. -/
def whole (r : Request) : Request := { r with targets := r.targets.map Target.whole }

/-- The request that a text holds. -/
def parse? (s : String) : Option Request :=
  match Document.ofText s with
  | (d, true) => (decode d).toOption
  | (_, false) => none

theorem decode_toJson {r : Request} (hexact : ∀ t ∈ r.targets, Exact t.cacheDuration.seconds) :
    decode (.ofJson r.toJson) = .ok r.whole := by
  have htargets : Wire.list Target.decode (.ofJson (.array (r.targets.map Target.toJson))) =
      .ok (r.targets.map Target.whole) :=
    Wire.list_ofJson fun t ht => Target.decode_target (hexact t ht)
  unfold decode toJson
  apply Wire.record_supplies (by decide)
  exact .requiredField (by rfl) <| .requiredField (by rfl) <| .requiredField htargets .done

theorem plain_toJson (r : Request) : Json.Plain 127 r.toJson := by
  refine .object ?_
  intro f hf
  simp only [List.mem_cons, List.not_mem_nil, or_false] at hf
  rcases hf with rfl | rfl | rfl
  · exact .string _
  · exact .string _
  · refine .array ?_
    intro j hj
    obtain ⟨t, -, rfl⟩ := List.mem_map.mp hj
    exact t.plain_toJson

theorem whole_of_nanos {r : Request} (h : ∀ t ∈ r.targets, t.cacheDuration.nanos = 0) :
    r.whole = r := by
  have htargets : r.targets.map Target.whole = r.targets.map id := by
    apply List.map_congr_left
    intro t ht
    show { t with cacheDuration := t.cacheDuration.whole } = t
    rw [Span.whole_of_nanos (h t ht)]
  show { r with targets := r.targets.map Target.whole } = r
  rw [htargets, List.map_id]

theorem parse?_compress {r : Request} (hexact : ∀ t ∈ r.targets, Exact t.cacheDuration.seconds) :
    parse? r.toJson.compress = some r.whole := by
  unfold parse?
  rw [Document.ofText_compress r.plain_toJson]
  simp only [decode_toJson hexact]
  rfl

/-- The request of a client that posts a panel request. -/
def posted (path : String) (r : Request) : Http.Request :=
  { method := "POST", path, headers := [("content-type", "application/json")]
    body := r.toJson.compress }

theorem readRequest_posted {r : Request} (hexact : ∀ t ∈ r.targets, Exact t.cacheDuration.seconds)
    (hsize : r.toJson.compress.utf8ByteSize ≤ Server.bodyLimit) (path : String) :
    Server.readRequest (posted path r) = .ok r.whole := by
  have hjson : (Http.header? (posted path r).headers "content-type").any Http.isJsonType =
      true := by
    show (Http.header? [("content-type", "application/json")] "content-type").any _ = true
    decide +kernel
  unfold Server.readRequest
  rw [hjson]
  simp only [posted, Bool.not_true, Bool.false_eq_true, if_false, Nat.not_lt.mpr hsize,
    Document.ofText_compress r.plain_toJson, decode_toJson hexact, if_true]

/-- **A request comes back from its text with its cache durations in whole seconds**, where doubles
    hold the numbers of these seconds, as they do up to 2^53. So it comes back as it was if its
    cache durations are whole seconds, and a server that it is posted to is asked for just that. -/
theorem read_written (r : Request) (hexact : ∀ t ∈ r.targets, Exact t.cacheDuration.seconds) :
    parse? r.toJson.compress = some r.whole ∧
      ((∀ t ∈ r.targets, t.cacheDuration.nanos = 0) → parse? r.toJson.compress = some r) ∧
      (r.toJson.compress.utf8ByteSize ≤ Server.bodyLimit →
        ∀ path, Server.readRequest (posted path r) = .ok r.whole) := by
  refine ⟨parse?_compress hexact, ?_, readRequest_posted hexact⟩
  intro hnanos
  rw [parse?_compress hexact, whole_of_nanos hnanos]

/-- Two targets whose results are kept for a quarter of an hour and for ninety seconds and a half.
    -/
def quarterHour : Request :=
  { start := "0", stop := "60000"
    targets :=
      [{ refId := "A", executionId := "x", cacheDuration := .ofSeconds 900 },
        { refId := "B", inputs := ["y", "z"], cacheDuration := { total := 90500000000 } }] }

/-- The half second is lost. -/
theorem read_written_quarterHour : (∀ t ∈ quarterHour.targets, Exact t.cacheDuration.seconds) ∧
    parse? quarterHour.toJson.compress =
      some { quarterHour with targets :=
        [{ refId := "A", executionId := "x", cacheDuration := .ofSeconds 900 },
          { refId := "B", inputs := ["y", "z"], cacheDuration := .ofSeconds 90 }] } := by
  have hexact : ∀ t ∈ quarterHour.targets, Exact t.cacheDuration.seconds := by
    intro t ht
    apply exact_of_le
    simp only [quarterHour, List.mem_cons, List.not_mem_nil, or_false] at ht
    rcases ht with rfl | rfl
    · decide
    · decide
  exact ⟨hexact, (read_written quarterHour hexact).1.trans (by decide +kernel)⟩

/-- A target whose results are kept for a quarter of a second. -/
def quarterSecond : Request :=
  { start := "0", stop := "60000", targets := [{ cacheDuration := { total := 250000000 } }] }

/-- A cache duration below a second does not come back. -/
theorem parse?_quarterSecond : parse? quarterSecond.toJson.compress ≠ some quarterSecond := by
  rw [parse?_compress]
  · decide +kernel
  · intro t ht
    rw [List.mem_singleton.mp ht]
    exact exact_of_le (by decide)

end Request
end PanelSource
