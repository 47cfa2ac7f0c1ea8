import PanelSource.Proofs.Athena.Recorded
import PanelSource.Athena.Runner

/- Waiting for an execution.

   A wait checks an execution until a reply is not pending: until it says that the execution is
   neither queued nor running, or is an error. That reply decides how the wait ends; if there is
   none among as many checks as are allowed, time is up (`await_ends`). -/
namespace PanelSource

/-- What a check of an execution answers. -/
abbrev CheckReply := Except AthenaError (List Execution)

/-- The state of an execution; one without a record or a state counts as queued. -/
def stateOf (records : List Execution) : String :=
  (records.head?.bind (·.state)).getD "QUEUED"

/-- The execution has not ended, and is to be checked again. -/
def CheckReply.isPending : CheckReply → Bool
  | .ok records => stateOf records == "QUEUED" || stateOf records == "RUNNING"
  | .error _ => false

/-- How a wait ends by its last reply. -/
def CheckReply.ending (id : String) : CheckReply → Except AthenaError Unit
  | .ok records =>
    if stateOf records = "SUCCEEDED" then .ok () else .error (.queryFailed id (stateOf records))
  | .error e => .error e

/-- The first reply that is not pending decides; without any, time is up. -/
def verdict (id : String) (attempts : Nat) (replies : List CheckReply) : Except AthenaError Unit :=
  match replies.find? fun reply => !reply.isPending with
  | some reply => reply.ending id
  | none => .error (.queryTimeout id attempts)

/-- A check of an execution, with the world in which it was made. -/
structure Check (W : Type) where
  world : W
  reply : CheckReply

def Check.noted {W : Type} (region id : String) (c : Check W) : Noted W :=
  ⟨region, c.world, .executions [id] c.reply⟩

section
variable {W : Type} {log log' : List (Noted W)} {region id : String} {n attempts : Nat}
  {reply : CheckReply} {replies : List CheckReply} {checks : List (Check W)}

/-- The checks of a wait: at most so many, all but the last in vain, and all of them only if there
    are as many as there may be. -/
structure Checks (region id : String) (n : Nat) (checks : List (Check W))
    (log log' : List (Noted W)) : Prop where
  noted : log' = log ++ checks.map (Check.noted region id)
  few : checks.length ≤ n
  inVain : ∀ c ∈ checks.dropLast, c.reply.isPending
  all : (∀ c ∈ checks, c.reply.isPending) → checks.length = n

theorem verdict_pending (h : reply.isPending) :
    verdict id attempts (reply :: replies) = verdict id attempts replies := by
  unfold verdict
  rw [List.find?_cons_of_neg (by simp [h])]

theorem verdict_settled (h : ¬ reply.isPending) :
    verdict id attempts (reply :: replies) = reply.ending id := by
  unfold verdict
  rw [List.find?_cons_of_pos (by simpa using h)]

theorem Checks.cons {c : Check W} (h : Checks region id n checks (log ++ [c.noted region id]) log')
    (hpending : c.reply.isPending) : Checks region id (n + 1) (c :: checks) log log' := by
  refine ⟨?_, Nat.succ_le_succ h.few, ?_, fun hall => ?_⟩
  · rw [h.noted, List.append_assoc]
    rfl
  · cases checks with
    | nil => simp
    | cons d checks =>
      rw [List.dropLast_cons_of_ne_nil (List.cons_ne_nil d checks)]
      exact List.forall_mem_cons.mpr ⟨hpending, h.inVain⟩
  · rw [List.length_cons, h.all (List.forall_mem_cons.mp hall).2]

/-- How a wait ends after these checks. -/
def WaitEnds (region id : String) (attempts n : Nat) (log log' : List (Noted W))
    (r : Except AthenaError Unit) : Prop :=
  ∃ checks, Checks region id n checks log log' ∧ r = verdict id attempts (checks.map (·.reply))

theorem WaitEnds.cons {c : Check W} {r : Except AthenaError Unit}
    (h : WaitEnds region id attempts n (log ++ [c.noted region id]) log' r)
    (hpending : c.reply.isPending) : WaitEnds region id attempts (n + 1) log log' r := by
  obtain ⟨checks, hchecks, rfl⟩ := h
  exact ⟨c :: checks, hchecks.cons hpending, (verdict_pending hpending).symm⟩

/-- Any other check ends the wait. -/
theorem waitEnds_last {c : Check W} (hsettled : ¬ c.reply.isPending) :
    WaitEnds region id attempts (n + 1) log (log ++ [c.noted region id]) (c.reply.ending id) := by
  refine ⟨[c], ⟨rfl, by simp, by simp, fun hall => ?_⟩, (verdict_settled hsettled).symm⟩
  exact absurd (hall c List.mem_cons_self) hsettled

end

namespace AthenaBackend
variable {W : Type} {b : AthenaBackend W} {name id : String} {service : RegionService W}

theorem run_pause (s : Session (Logged W)) : b.recorded.pause.run s =
    (.ok (), { s with world :=
      ((b.athena.pause b.settings.waitIntervalMillis s.world.1).2, s.world.2) }) := rfl

/-- A wait goes on while replies are pending. -/
theorem await_succ (region : RegionService W) (attempts k : Nat) :
    b.await region id attempts (k + 1) = (do
      let records ← Session.call (region.executions [id])
      if CheckReply.isPending (.ok records) then do
        b.pause
        b.await region id attempts k
      else ExceptT.mk (pure (CheckReply.ending id (.ok records)))) := by
  rw [await]
  refine bind_congr fun records => ?_
  rw [← stateOf]
  split
  · rename_i hstate
    rw [if_pos (by simp [CheckReply.isPending, hstate])]
  · rename_i hstate
    rw [if_pos (by simp [CheckReply.isPending, hstate])]
  · rename_i hstate
    rw [if_neg (by simp [CheckReply.isPending, hstate]), CheckReply.ending, if_pos hstate]
    rfl
  · rename_i hqueued hrunning hsucceeded
    have hsettled : ¬ CheckReply.isPending (.ok records) := by
      rw [CheckReply.isPending, Bool.or_eq_true, beq_iff_eq, beq_iff_eq]
      exact not_or.mpr ⟨hqueued, hrunning⟩
    rw [if_neg hsettled, CheckReply.ending, if_neg hsucceeded]
    rfl

/-- **How a wait ends.** Whatever the service replies, a wait makes at most as many checks as are
    allowed, and ends as the first reply says that is not pending. -/
theorem await_ends {attempts n : Nat} {s s' : Session (Logged W)} {r : Except AthenaError Unit}
    (h : Ends (b.recorded.await (service.recorded name) id attempts n) s r s') :
    WaitEnds name id attempts n s.world.2 s'.world.2 r := by
  induction n generalizing s with
  | zero =>
    obtain ⟨rfl, rfl⟩ := ends_throw.mp h
    exact ⟨[], ⟨by simp, Nat.le_refl _, by simp, fun _ => rfl⟩, rfl⟩
  | succ n ih =>
    rw [await_succ] at h
    rcases ends_bind.mp h with ⟨records, s₁, hcall, h⟩ | ⟨e, hcall, rfl⟩
    · have hlog := log_call hcall
      split at h
      · rename_i hpending
        -- After the pause, the log is what it was after the check.
        rw [ends_bind_of_run (run_pause s₁)] at h
        have hrest := ih h
        rw [hlog] at hrest
        exact hrest.cons (c := ⟨s.world.1, .ok records⟩) hpending
      · rename_i hsettled
        obtain ⟨rfl, rfl⟩ := ends_mk.mp h
        rw [hlog]
        exact waitEnds_last (c := ⟨s.world.1, .ok records⟩) hsettled
    · -- A failing check ends the wait as well.
      rw [log_call hcall]
      exact waitEnds_last (c := ⟨s.world.1, .error e⟩) Bool.false_ne_true

end AthenaBackend
end PanelSource
