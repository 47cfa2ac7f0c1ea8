import PanelSource.Athena.Protocol
import PanelSource.Proofs.Athena.Replies

/- Failures of the service behind its protocol.

   What a reply holds that cannot be read is refused as a failure of the service (`Refuses`), and a
   call that asks for page after page fails only as one of its pages does, or because they never
   end. So the calls that lookups make fail as failures of the service if what sends them does
   (`failsByItself`). A service whose regions are reached like that has what the agreement of queries
   and the backend relies on (`Athena.failsByItself_of_endpoints`). -/
namespace PanelSource

/-! ## Readers -/

namespace AthenaReply

/-- A reader that refuses what it cannot read as a failure of the service. -/
def Refuses {α : Type} (read : Json → Except AthenaError α) : Prop :=
  ∀ j e, read j = .error e → e.OfService

section
variable {α β : Type} {read : Json → Except AthenaError α}

theorem malformed_error {e : AthenaError} (h : (malformed : Except AthenaError α) = .error e) :
    e.OfService := by
  cases h
  exact ⟨_, rfl⟩

theorem refuses_pure (a : α) : Refuses fun _ => (pure a : Except AthenaError α) :=
  fun _ _ h => nomatch h

theorem Refuses.bind {next : α → Json → Except AthenaError β} (h : Refuses read)
    (hnext : ∀ a, Refuses (next a)) : Refuses fun j => read j >>= fun a => next a j := by
  intro j e he
  cases hj : read j with
  | error e' =>
    simp only [hj] at he
    cases he
    exact h j e hj
  | ok a =>
    simp only [hj] at he
    exact hnext a j e he

theorem Refuses.map (h : Refuses read) (f : α → β) : Refuses fun j => (read j).map f := by
  intro j e he
  cases hj : read j with
  | error e' =>
    simp only [hj] at he
    cases he
    exact h j e hj
  | ok a =>
    simp only [hj] at he
    cases he

theorem refuses_text : Refuses text := by
  intro j e h
  unfold text at h
  split at h
  · cases h
  · cases h
  · exact malformed_error h

theorem refuses_whole : Refuses whole := by
  intro j e h
  unfold whole at h
  split at h
  · cases h
  · simp only at h
    split at h
    · cases h
    · exact malformed_error h
  · exact malformed_error h

theorem refuses_instant : Refuses instant := by
  intro j e h
  unfold instant at h
  split at h
  · cases h
  · cases h
  · cases h
  · exact malformed_error h

theorem mapM_error {item : Reader α} (h : Refuses item) {xs : List Json} {e : AthenaError}
    (he : xs.mapM item = .error e) : e.OfService := by
  induction xs with
  | nil => cases he
  | cons x xs ih =>
    rw [List.mapM_cons] at he
    cases hx : item x with
    | error e' =>
      rw [hx] at he
      cases he
      exact h x e hx
    | ok a =>
      cases hrest : xs.mapM item with
      | error e' =>
        rw [hx, hrest] at he
        cases he
        exact ih hrest
      | ok as =>
        rw [hx, hrest] at he
        cases he

theorem refuses_list {item : Reader α} (h : Refuses item) : Refuses (list item) := by
  intro j e he
  unfold list at he
  split at he
  · cases he
  · rename_i xs
    cases hxs : xs.mapM item with
    | error e' =>
      rw [hxs] at he
      cases he
      exact mapM_error h hxs
    | ok items =>
      rw [hxs] at he
      cases he
  · exact malformed_error he

theorem refuses_object (h : Refuses read) : Refuses (object read) := by
  intro j e he
  unfold object at he
  split at he
  · cases he
  · exact h.map some _ e he
  · exact malformed_error he

theorem refuses_member {item : Reader α} (h : Refuses item) (name : String) :
    Refuses (member name item) := by
  intro j e he
  unfold member at he
  cases hv : j.field? name with
  | none =>
    rw [hv] at he
    cases he
  | some v =>
    rw [hv] at he
    exact h v e he

theorem refuses_members {item : Reader α} (h : Refuses item) (name : String) :
    Refuses (members name item) :=
  (refuses_member (refuses_list h) name).map (·.getD [])

end

theorem refuses_named : Refuses named := refuses_object (refuses_member refuses_text _)

theorem refuses_namedQuery : Refuses namedQuery := by
  refine refuses_object ?_
  refine .bind (refuses_member refuses_text _) fun name => ?_
  exact .bind (refuses_member refuses_text _) fun sql => refuses_pure _

theorem refuses_status : Refuses status := by
  refine refuses_object ?_
  refine .bind (refuses_member refuses_text _) fun state => ?_
  refine .bind (refuses_member refuses_instant _) fun submitted => ?_
  exact .bind (refuses_member refuses_instant _) fun completed => refuses_pure _

theorem refuses_statistics : Refuses statistics := by
  refine refuses_object ?_
  refine .bind (refuses_member refuses_whole _) fun scannedBytes => ?_
  exact .bind (refuses_member refuses_whole _) fun engineMillis => refuses_pure _

theorem refuses_execution : Refuses execution := by
  refine refuses_object ?_
  refine .bind (refuses_member refuses_text _) fun id => ?_
  refine .bind (refuses_member refuses_text _) fun sql => ?_
  refine .bind (refuses_member refuses_text _) fun workGroup => ?_
  refine .bind (refuses_member refuses_status _) fun status => ?_
  exact .bind (refuses_member refuses_statistics _) fun statistics => refuses_pure _

end AthenaReply

/-! ## Calls -/

section
variable {W : Type}

/-- Pages that are asked for one after the other fail as one of them does, or as adding one does. -/
theorem Gives.collect {P A : Type} {ask : Option String → ServiceM W (Page P)}
    {add : A → P → Except AthenaError (A × Bool)}
    (hask : ∀ token, Gives AthenaError.OfService (fun _ => True) (ask token))
    (hadd : ∀ done content e, add done content = .error e → e.OfService) :
    ∀ (pages : Nat) (token : Option String) (done : A),
      Gives AthenaError.OfService (fun _ => True) (collect ask add pages token done)
  | 0, _, _ => gives_throw ⟨_, rfl⟩
  | pages + 1, token, done => by
    refine Gives.bind (hask token) fun page _ => ?_
    refine Gives.bind (Q := fun _ => True)
      (gives_mk (hadd done page.content) fun _ _ => trivial) fun added _ => ?_
    obtain ⟨done, enough⟩ := added
    cases enough with
    | true => exact gives_pure trivial
    | false =>
      cases hnext : page.next with
      | none => exact gives_pure trivial
      | some next => exact Gives.collect hask hadd pages (some next) done

namespace AthenaEndpoint
open AthenaReply
variable {e : AthenaEndpoint W}

/-- What is sent fails as a failure of the service. -/
def SendsByItself (e : AthenaEndpoint W) : Prop :=
  ∀ action body, Gives AthenaError.OfService (fun _ => True) (e.send action body)

section
variable (h : e.SendsByItself)
include h

theorem gives_call {α : Type} {read : Json → Except AthenaError α} (hread : Refuses read)
    (action : String) (body : List (String × Option Json)) :
    Gives AthenaError.OfService (fun _ => True) (e.call action body read) := by
  refine Gives.bind (h action _) fun reply _ => ?_
  refine Gives.bind (Q := fun _ => True)
    (gives_mk (refuses_object hread reply) fun _ _ => trivial) fun answer _ => ?_
  cases answer with
  | some a => exact gives_pure trivial
  | none => exact gives_throw ⟨_, rfl⟩

theorem gives_page {α : Type} {read : Json → Except AthenaError α} (hread : Refuses read)
    (action : String) (body : List (String × Option Json)) (token : Option String) :
    Gives AthenaError.OfService (fun _ => True) (e.page action body read token) := by
  refine gives_call h ?_ action _
  refine .bind hread fun content => ?_
  exact .bind (refuses_member refuses_text _) fun next => refuses_pure _

theorem gives_pages {α : Type} {add : List α → List α → Except AthenaError (List α × Bool)}
    (hadd : ∀ done items, ∃ added, add done items = .ok added)
    {read : Json → Except AthenaError (List α)} (hread : Refuses read) (action : String)
    (body : List (String × Option Json)) :
    Gives AthenaError.OfService (fun _ => True)
      (collect (e.page action body read) add e.pageLimit none []) := by
  refine Gives.collect (gives_page h hread action body) (fun done items e' he => ?_) _ _ _
  obtain ⟨added, hadded⟩ := hadd done items
  rw [hadded] at he
  cases he

/-- **The calls of lookups fail as failures of the service.** -/
theorem failsByItself : e.service.FailsByItself where
  workGroups := gives_pages h (fun _ _ => ⟨_, rfl⟩) ((refuses_members refuses_named _).map _) _ _
  namedQueryIds workGroup :=
    gives_pages h (fun _ _ => ⟨_, rfl⟩) (refuses_members refuses_text _) _ _
  namedQueries ids := by
    show Gives _ _ (e.namedQueries ids)
    unfold namedQueries
    split
    · exact gives_pure trivial
    · exact gives_call h (refuses_members refuses_namedQuery _) _ _
  executionIds workGroup stopAt :=
    gives_pages h (fun _ _ => ⟨_, rfl⟩) (refuses_members refuses_text _) _ _
  executions ids := by
    show Gives _ _ (e.executions ids)
    unfold executions
    split
    · exact gives_pure trivial
    · exact gives_call h (refuses_members refuses_execution _) _ _

end

end AthenaEndpoint

/-- A service whose regions are reached through such endpoints fails by itself. That is the
    hypothesis under which queries agree with the backend. -/
theorem Athena.failsByItself_of_endpoints {a : Athena W}
    (h : ∀ name, Gives AthenaError.OfService
      (fun region => ∃ e : AthenaEndpoint W, e.SendsByItself ∧ region = e.service)
      (a.region name)) : a.FailsByItself := by
  intro name
  refine (h name).mono (fun _ he => he) fun region hregion => ?_
  obtain ⟨e, hsends, rfl⟩ := hregion
  exact e.failsByItself hsends

end
end PanelSource
