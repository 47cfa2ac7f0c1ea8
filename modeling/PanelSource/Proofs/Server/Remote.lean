import PanelSource.Athena.Runner
import PanelSource.Backend.Remote
import PanelSource.Proofs.Athena.Listing
import PanelSource.Proofs.Athena.Rendered
import PanelSource.Proofs.Http.Url
import PanelSource.Proofs.Json.Sorted
import PanelSource.Proofs.Wire.Execution
import PanelSource.Server.Router

/- A server as a backend for lookups.

   A lookup that is sent to a server arrives there with the texts of its parameters
   (`fetch_atHost`), and what the server answers comes back: its reply with sorted fields, or status
   400 with the message of the failure (`readReply_reply`, `readReply_failure`). Since a lookup
   reads its parameters as texts, it answers from afar what it answers here (`lookups_remote`). -/
namespace PanelSource
open Http Text

/-- A body as it is sent. -/
def Http.Body.sent : Body → String
  | .empty => ""
  | .text s => s
  | .json j => j.compress

/-- What of a reply reaches the other side. -/
def Http.Response.arrival (r : Response) : Arrival := ⟨r.status, r.body.sent⟩

/-- The server from afar: what is sent to its host reaches it, and what it replies comes back. -/
def Server.atHost {W : Type} (server : Server W) (host : String) : Remote W where
  base := "http://" ++ host
  send authority request :=
    if authority = host then do return .ok (← server.handle request).arrival
    else return .error "connection refused"

/-- The lookups of the backend. -/
def resourceNames : List String :=
  ["regions", "workgroup_names", "named_query_names", "named_query_queries", "query_executions",
    "query_execution_ids", "query_executions_by_name"]

theorem isSegment_of_mem : ∀ name ∈ resourceNames, IsSegment name := by decide

/-! ## The way there -/

/-- The path of a resource leads to it. -/
theorem route?_resource {name : String} (h : IsSegment name) :
    Server.route? ("/resources/" ++ name) = some (.resource name) := by
  have hsplit : ("/resources/" ++ name).toList.splitOn '/' =
      [[], "resources".toList, name.toList] := by
    have hfree : ∀ part ∈ [[], "resources".toList, name.toList], '/' ∉ part := by
      intro part hpart
      simp only [List.mem_cons, List.not_mem_nil, or_false] at hpart
      rcases hpart with rfl | rfl | rfl
      · exact List.not_mem_nil
      · decide
      · exact fun hmem => (h.plain _ hmem).2.2 rfl
    have htext : ("/resources/" ++ name).toList =
        ['/'].intercalate [[], "resources".toList, name.toList] := by
      rw [String.toList_append]
      simp
    rw [htext]
    exact List.splitOn_intercalate '/' hfree (by simp)
  unfold Server.route?
  rw [hsplit]
  show (if "resources".toList = "resources".toList ∧ name.toList ≠ [] then
    some (Server.Route.resource (String.ofList name.toList)) else none) = _
  rw [if_pos ⟨rfl, h.ne_nil⟩, String.ofList_toList]

theorem ofString?_resource {host name : String} (hhost : IsHost host) (hname : IsSegment name) :
    Url.ofString? ("http://" ++ host ++ ("/resources/" ++ name)) =
      some ⟨host, "/resources/" ++ name, none⟩ := by
  refine ofString?_path hhost (fun c hc => ?_) (by rw [String.toList_append]; rfl)
  rw [String.toList_append, List.mem_append] at hc
  rcases hc with hc | hc
  · exact List.all_eq_true.mp (by decide : "/resources/".toList.all isPathChar = true) c hc
  · exact (hname.plain c hc).1

/-! ## The way back -/

/-- The reply to a lookup that was answered. -/
def Server.replyOf : Except BackendError Json → Response
  | .ok reply => Server.json 200 reply
  | .error e => Server.failure e.message

/-- What is made of an answer on its way. The fields of a reply are sorted, which changes none of
    them (`Json.field?_sorted`), and of a failure stays its message. -/
def relayed : Except BackendError Json → Except BackendError Json
  | .ok reply => .ok reply.sorted
  | .error e => .error (.remote 400 e.message)

theorem readReply_reply {reply : Json} (h : reply.Plain 127) :
    Remote.readReply Wire.value ⟨200, reply.compress⟩ = .ok reply.sorted := by
  unfold Remote.readReply
  rw [if_pos (show isSuccess 200 = true from rfl), Document.ofText_compress h]
  simp only [Wire.value, Document.toJson?_ofJson, if_true]

theorem readReply_failure (message : String) :
    Remote.readReply Wire.value ⟨400, (Json.object [("error", .string message)]).compress⟩ =
      .error (.remote 400 message) := by
  have hplain : (Json.object [("error", .string message)]).Plain 127 := by
    refine .object fun f hf => ?_
    rw [List.mem_singleton.mp hf]
    exact .string message
  have hmessage : Remote.failureMessage (Json.object [("error", .string message)]).compress =
      message := by
    unfold Remote.failureMessage Json.parse?
    rw [Document.ofText_compress hplain]
    simp only [Document.toJson?_ofJson, Option.bind_some, Json.field?_sorted]
    rfl
  unfold Remote.readReply
  rw [if_neg (show ¬ isSuccess 400 = true by decide), hmessage]

theorem readReply_replyOf {answer : Except BackendError Json}
    (h : ∀ reply, answer = .ok reply → reply.Plain 127) :
    Remote.readReply Wire.value (Server.replyOf answer).arrival = relayed answer := by
  cases answer with
  | ok reply => exact readReply_reply (h reply rfl)
  | error e => exact readReply_failure e.message

/-! ## There and back -/

/-- The parameters that arrive are those that were sent, as texts. -/
theorem queryParams_addPairs {u : Url} (hu : u.query = none) (ps : Params) :
    Server.queryParams (u.addPairs (Remote.queryPairs ps)).query = .ofList ps.rendered := by
  have hpairs : readPairs ((u.addPairs (Remote.queryPairs ps)).query.getD "") =
      Remote.queryPairs ps := by
    unfold Url.addPairs
    by_cases hempty : (Remote.queryPairs ps).isEmpty = true
    · rw [if_pos hempty, hu, List.isEmpty_iff.mp hempty]
      rfl
    · rw [if_neg hempty, hu]
      exact readPairs_writePairs (Remote.queryPairs ps)
  rw [Server.queryParams, hpairs, Remote.queryPairs, List.map_map]
  rfl

section
variable {W : Type} (server : Server W) {host name : String}

/-- What a server replies to the request for a resource. -/
theorem handle_resource (hname : IsSegment name) (query : Option String) (w : W) :
    (server.handle { path := "/resources/" ++ name, query }).run w =
      let answered := (server.resources.fetch name (Server.queryParams query)).run w
      let reply := Server.replyOf answered.1
      ({ reply with headers := reply.headers ++ Server.originHeaders server.origin },
        answered.2) := by
  have hdispatch : server.dispatch { path := "/resources/" ++ name, query } =
      server.resource name query := by
    unfold Server.dispatch
    rw [show Server.route? ("/resources/" ++ name) = _ from route?_resource hname]
    rfl
  unfold Server.handle
  rw [if_neg (show ¬ "GET" = "OPTIONS" by decide), hdispatch, Server.resource,
    segmentText?_segment hname]
  cases hrun : (server.resources.fetch name (Server.queryParams query)).run w with
  | mk answer after =>
    cases answer with
    | ok reply =>
      simp only [StateT.run_bind, hrun]
      rfl
    | error e =>
      simp only [StateT.run_bind, hrun]
      rfl

/-- **A lookup that is sent to a server is the server's lookup with the texts of its parameters.**
    -/
theorem fetch_atHost (hhost : IsHost host) (hname : IsSegment name) (ps : Params) (w : W) :
    ((server.atHost host).resources.fetch name ps).run w =
      let answered := (server.resources.fetch name (.ofList ps.rendered)).run w
      (Remote.readReply Wire.value (Server.replyOf answered.1).arrival, answered.2) := by
  have hurl : Url.ofString? ((server.atHost host).resourceUrl name) =
      some ⟨host, "/resources/" ++ name, none⟩ := by
    rw [← ofString?_resource hhost hname]
    simp [Remote.resourceUrl, Server.atHost, String.append_assoc]
  have hsent := handle_resource server hname
    (Url.addPairs ⟨host, "/resources/" ++ name, none⟩ (Remote.queryPairs ps)).query w
  rw [queryParams_addPairs rfl] at hsent
  show (Remote.exchange _ _ _ _ _).run w = _
  unfold Remote.exchange
  simp only [hurl, addPairs_path, addPairs_authority]
  simp only [Server.atHost, if_true, StateT.run_bind, hsent]
  rfl

end

/-- **A lookup from afar answers what it answers here.** Its parameters are sent as texts, which
    changes neither the answer nor the session that it leaves. From a server of the backend the same
    reply comes back, or status 400 with the message of the failure. -/
theorem AthenaBackend.lookups_remote {W : Type} (b : AthenaBackend W) {ps : Params}
    (hfits : ps.Fits) :
    (∀ name, b.resources.fetch name ps.rendered = b.resources.fetch name ps) ∧
      ∀ origin host : String, IsHost host → (ps.map (·.1)).Nodup →
        ∀ name ∈ resourceNames, ∀ s : Session W,
          let server : Server (Session W) := { b.backend with origin }
          let answered := (b.resources.fetch name ps).run s
          (∀ reply, answered.1 = .ok reply → reply.Plain 127) →
            ((server.atHost host).resources.fetch name ps).run s =
              (relayed answered.1, answered.2) := by
  refine ⟨fun name => ?_, fun origin host hhost hnodup name hname s => ?_⟩
  · exact fetch_congr ps.sameTexts_rendered ps.fits_rendered hfits name
  · have hget (k : String) : (Params.ofList ps.rendered).get? k = ps.rendered.get? k := by
      refine Params.get?_ofList ?_ k
      rw [Params.keys_rendered]
      exact hnodup
    have hsame : (Params.ofList ps.rendered).SameTexts ps := fun k => by
      rw [hget]
      exact ps.sameTexts_rendered k
    have hrendered : (Params.ofList ps.rendered).Fits := fun k p hp => by
      rw [hget] at hp
      exact ps.fits_rendered hp
    intro server answered hplain
    have hsent := fetch_atHost server hhost (isSegment_of_mem name hname) ps s
    rw [show server.resources = b.resources from rfl, fetch_congr hsame hrendered hfits] at hsent
    rw [← readReply_replyOf hplain]
    exact hsent

namespace Memory

/-- A service with one execution. -/
def oneExecution : Memory :=
  { executions :=
      [{ id := some "a", sql := some "SELECT 1", workGroup := some "primary"
         status := some { state := some "SUCCEEDED", completed := some ⟨100, 500000000⟩ }
         statistics := some { scannedBytes := some 1024 } }] }

/-- The reply to a lookup of everything that the service holds. -/
def executionsReply : Json :=
  .object [("query_executions", .array (oneExecution.executions.map Execution.toJson))]

theorem executionsReply_plain : executionsReply.Plain 127 := by
  refine .object fun f hf => ?_
  rw [List.mem_singleton.mp hf]
  refine .array fun j hj => ?_
  obtain ⟨e, he, rfl⟩ := List.mem_map.mp hj
  refine Execution.plain_toJson 123 fun s hs => ?_
  rw [List.mem_singleton.mp he] at hs
  cases hs
  exact ⟨by decide, by decide⟩

/-- The executions of a service, with an integer for the limit, as a server sends them. -/
theorem lookups_remote_everything :
    everything.Fits ∧ IsHost "localhost:3100" ∧ (everything.map (·.1)).Nodup ∧
      "query_executions" ∈ resourceNames ∧
      (let s : Session Memory := .fresh backend.settings oneExecution
       let server : Server (Session Memory) := { backend.backend with origin := "*" }
       let answered := (backend.resources.fetch "query_executions" everything).run s
       answered.1 = .ok executionsReply ∧
        ((server.atHost "localhost:3100").resources.fetch "query_executions" everything).run s =
          (.ok executionsReply.sorted, answered.2)) := by
  have hfits : everything.Fits := by
    refine Params.fits_of_mem fun x hx => ?_
    simp only [everything, List.mem_cons, List.not_mem_nil, or_false] at hx
    rcases hx with rfl | rfl | rfl
    · exact trivial
    · exact ⟨by decide, by decide⟩
    · exact trivial
  have hhost : IsHost "localhost:3100" := by decide
  have hnodup : (everything.map (·.1)).Nodup := by decide
  have hname : "query_executions" ∈ resourceNames := by decide
  have hanswer : ((backend.resources.fetch "query_executions" everything).run
      (.fresh backend.settings oneExecution)).1 = .ok executionsReply := by
    with_unfolding_all rfl
  have hplain : ∀ reply, ((backend.resources.fetch "query_executions" everything).run
      (.fresh backend.settings oneExecution)).1 = .ok reply → reply.Plain 127 := by
    intro reply h
    rw [hanswer] at h
    cases h
    exact executionsReply_plain
  have hremote := (AthenaBackend.lookups_remote backend hfits).2 "*" _ hhost hnodup
    "query_executions" hname _ hplain
  rw [hanswer] at hremote
  exact ⟨hfits, hhost, hnodup, hname, hanswer, hremote⟩

end Memory
end PanelSource
