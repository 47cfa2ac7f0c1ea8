import Mathlib.Data.List.DropRight
import PanelSource.Proofs.Athena.Listing
import PanelSource.Proofs.Athena.Selection
import PanelSource.Proofs.Pattern.Exact

/- The executions of a saved statement.

   They are looked for by a pattern that matches the text of the statement only, whatever characters
   that has (`Pattern.occursIn_only`). What a statement ends in is left out of the text: its spaces
   and then its semicolons, which is all of the spaces and semicolons at its end just when they
   stand in that order (`trimStatement_eq_iff`). -/
namespace PanelSource
open Calendar

/-! ## Ends of statements -/

/-- Whether a statement may end in a character without meaning anything else. -/
def isEnding (c : Char) : Bool := c = ' ' || c = ';'

/-- A statement without any of the spaces and semicolons at its end. -/
def bareStatement (sql : String) : List Char := sql.toList.rdropWhile isEnding

/-- Semicolons and then spaces are all that a statement ends in. -/
def EndsInOrder (sql : String) : Prop :=
  ∃ semicolons spaces, sql.toList = bareStatement sql ++
    (List.replicate semicolons ';' ++ List.replicate spaces ' ')

section
variable {p : Char → Bool} {xs ys : List Char}

theorem rdropWhile_append_of_all (h : ∀ c ∈ ys, p c) :
    (xs ++ ys).rdropWhile p = xs.rdropWhile p := by
  unfold List.rdropWhile
  rw [List.reverse_append, List.dropWhile_append_of_pos]
  intro c hc
  exact h c (List.mem_reverse.mp hc)

theorem rtakeWhile_eq_replicate (c : Char) :
    ∃ n, xs.rtakeWhile (· = c) = List.replicate n c := by
  refine ⟨_, List.eq_replicate_of_mem fun d hd => ?_⟩
  exact of_decide_eq_true (List.mem_rtakeWhile_imp (p := (· = c)) hd)

end

theorem trimStatement_eq (sql : String) :
    trimStatement sql = (sql.toList.rdropWhile (· = ' ')).rdropWhile (· = ';') := by
  unfold trimStatement List.rdropWhile
  rw [List.reverse_reverse]

theorem bareStatement_rdropWhile {c : Char} (h : isEnding c) (sql : String) :
    (bareStatement sql).rdropWhile (· = c) = bareStatement sql := by
  refine List.rdropWhile_eq_self_iff.mpr fun hne heq => ?_
  rw [← of_decide_eq_true heq] at h
  exact List.rdropWhile_last_not isEnding sql.toList hne h

/-- A statement is left without all its spaces and semicolons just when they stand in order. -/
theorem trimStatement_eq_iff (sql : String) :
    trimStatement sql = bareStatement sql ↔ EndsInOrder sql := by
  rw [trimStatement_eq]
  constructor
  · intro h
    obtain ⟨spaces, hspaces⟩ := @rtakeWhile_eq_replicate sql.toList ' '
    obtain ⟨semicolons, hsemicolons⟩ :=
      @rtakeWhile_eq_replicate (sql.toList.rdropWhile (· = ' ')) ';'
    refine ⟨semicolons, spaces, ?_⟩
    rw [← h, ← hsemicolons, ← hspaces, ← List.append_assoc, List.rdropWhile_append_rtakeWhile,
      List.rdropWhile_append_rtakeWhile]
  · rintro ⟨semicolons, spaces, h⟩
    have hspaces : sql.toList.rdropWhile (· = ' ') =
        bareStatement sql ++ List.replicate semicolons ';' := by
      rw [h, ← List.append_assoc, rdropWhile_append_of_all (by simp)]
      -- Without semicolons the spaces end at the bare statement, otherwise at the last semicolon.
      cases semicolons with
      | zero => simpa using bareStatement_rdropWhile (by decide) sql
      | succ n =>
        rw [List.replicate_succ', ← List.append_assoc]
        exact List.rdropWhile_concat_neg _ _ _ (by decide)
    rw [hspaces, rdropWhile_append_of_all (by simp)]
    exact bareStatement_rdropWhile (by decide) sql

/-! ## Looking them up -/

namespace AthenaBackend
variable {W : Type} {b : AthenaBackend W} {ps : Params} {s s₁ : Session W} {name : Pattern}
  {limit : Int} {stop : Instant} {queries : List NamedQuery} {q : NamedQuery}

/-- The lookup goes on with the first saved statement whose name matches. -/
theorem ends_queryExecutionsByName (hpattern : ps.pattern = .ok name)
    (hlimit : ps.limit = .ok limit) (hstop : ps.stop = .ok stop)
    (hqueries : Ends (b.namedQueries ps) s (.ok queries) s₁)
    (hfirst : queries.find? (name.occursIn ·.name) = some q)
    {r : Except AthenaError (List Execution)} {s' : Session W} :
    Ends (b.queryExecutionsByName ps) s r s' ↔
      Ends (if Pattern.weightLimit < 24 * ((trimStatement q.sql).length + 2) then
          throw (.invalidPattern (String.ofList (exactText q.sql)) Pattern.Fault.tooLarge.message)
        else b.selectExecutions ps ⟨.only (trimStatement q.sql), limit, stop⟩) s₁ r s' := by
  have htext : exactText q.sql = '^' :: (Pattern.escape (trimStatement q.sql) ++ ['$']) := rfl
  unfold queryExecutionsByName
  rw [hpattern, hlimit, hstop]
  refine (ends_bind_of_run hqueries).trans ?_
  simp only [hfirst, htext, Pattern.parse_only]
  split_ifs
  · rfl
  · rfl

/-- **A saved statement finds the executions that have its text.** Without a limit, the lookup by
    name ranks the listing by the executions that have succeeded, were done by the end of the
    window, and whose text is that of the first saved statement with a matching name, without the
    spaces and then the semicolons at its end, whatever other characters it has. That leaves out all
    spaces and semicolons at its end just when the semicolons come first. A text that takes too much
    room as a pattern, by the estimate of `Pattern.weight`, is refused. -/
theorem saved_statement_ranks (hpattern : ps.pattern = .ok name) (hlimit : ps.limit = .ok limit)
    (hneg : limit < 0) (hstop : ps.stop = .ok stop)
    (hqueries : Ends (b.namedQueries ps) s (.ok queries) s₁)
    (hfirst : queries.find? (name.occursIn ·.name) = some q) :
    (24 * ((trimStatement q.sql).length + 2) ≤ Pattern.weightLimit →
      ∀ listing s₂, Ends (b.executionsOf ps) s₁ (.ok listing) s₂ →
        ∃ found, Ends (b.queryExecutionsByName ps) s (.ok found) s₂ ∧
          Ranked (ExecutionFilter.Selected (· == String.ofList (trimStatement q.sql)) stop)
            listing found) ∧
    (trimStatement q.sql = bareStatement q.sql ↔ EndsInOrder q.sql) ∧
    (Pattern.weightLimit < 24 * ((trimStatement q.sql).length + 2) →
      Ends (b.queryExecutionsByName ps) s (.error (.invalidPattern
        (String.ofList (exactText q.sql)) Pattern.Fault.tooLarge.message)) s₁) := by
  refine ⟨fun hroom listing s₂ hlisted => ?_, trimStatement_eq_iff q.sql, fun hlarge => ?_⟩
  · have hkind : (Pattern.only (trimStatement q.sql)).occursIn =
        (· == String.ofList (trimStatement q.sql)) := by
      funext sql
      rw [Bool.eq_iff_iff, Pattern.occursIn_only, beq_iff_eq]
    have hranked := @ExecutionFilter.ranked_unlimited (.only (trimStatement q.sql)) stop listing
    simp only [hkind] at hranked
    refine ⟨_, ?_, hranked⟩
    rw [ends_queryExecutionsByName hpattern hlimit hstop hqueries hfirst,
      if_neg (Nat.not_lt.mpr hroom)]
    refine ends_ok_bind.mpr ⟨listing, s₂, hlisted, ?_⟩
    rw [ExecutionFilter.select_of_neg hneg]
    rfl
  · rw [ends_queryExecutionsByName hpattern hlimit hstop hqueries hfirst, if_pos hlarge]
    exact ends_throw.mpr ⟨rfl, rfl⟩

end AthenaBackend

namespace Memory

def byName : Params :=
  [("region", .text "us-east-1"), ("pattern", .text "^dai"), ("limit", .int (-1)),
    ("to", .text "1970-01-01T00:00:00Z")]

theorem byName_pattern : byName.pattern =
    .ok (Pattern.Piece.sequence (⟨.look .start, 0⟩ :: "dai".toList.map .ofChar)).pattern := rfl

/-- An execution of a statement that has succeeded. -/
def succeeded (sql : String) : Execution :=
  { id := some sql
    sql := some sql
    status := some { state := some "SUCCEEDED", completed := some .epoch } }

def saved (sql : String) (executed : List String) : Session Memory :=
  .fresh backend.settings
    { named := [(none, ⟨"daily", sql⟩)], executions := executed.map succeeded }

/-- A statement with characters that mean something in a pattern and a line break. -/
def daily : String := "SELECT a.b FROM t\nWHERE c = '$|(';;  "

/-- The statement without its end has been executed, and so has another that its text would match
    as a pattern. -/
def dailyExecuted : List String :=
  ["SELECT a_b FROM t\nWHERE c = '$|('", "SELECT a.b FROM t\nWHERE c = '$|('"]

theorem saved_statement_ranks_daily :
    byName.limit = .ok (-1) ∧ byName.stop = .ok .epoch ∧ EndsInOrder daily ∧
    ∃ found s₂, Ends (backend.queryExecutionsByName byName) (saved daily dailyExecuted)
        (.ok found) s₂ ∧
      Ranked (ExecutionFilter.Selected (· == String.ofList (trimStatement daily)) .epoch)
        (dailyExecuted.map succeeded) found := by
  have hqueries : Ends (backend.namedQueries byName) (saved daily dailyExecuted)
      (.ok [⟨"daily", daily⟩]) _ := Prod.ext (by decide +kernel) rfl
  have hlisted : Ends (backend.executionsOf byName)
      ((backend.namedQueries byName).run (saved daily dailyExecuted)).2
      (.ok (dailyExecuted.map succeeded)) _ := Prod.ext (by decide +kernel) rfl
  obtain ⟨hranks, horder, -⟩ := AthenaBackend.saved_statement_ranks byName_pattern rfl (by decide)
    rfl hqueries (q := ⟨"daily", daily⟩) (by decide +kernel)
  obtain ⟨found, hfound⟩ := hranks (by decide +kernel) _ _ hlisted
  exact ⟨rfl, rfl, horder.mp (by decide +kernel), found, _, hfound⟩

/-- An execution of a saved statement is not found, since a space stands before the semicolon at its
    end. -/
theorem saved_statement_hidden :
    bareStatement "SELECT 1 ;" = "SELECT 1".toList ∧
    ((backend.executionsOf byName).run (saved "SELECT 1 ;" ["SELECT 1"])).1 =
      .ok [succeeded "SELECT 1"] ∧
    ExecutionFilter.Selected (· == String.ofList (bareStatement "SELECT 1 ;")) .epoch
      (succeeded "SELECT 1") ∧
    ((backend.queryExecutionsByName byName).run (saved "SELECT 1 ;" ["SELECT 1"])).1 = .ok [] := by
  decide +kernel

end Memory
end PanelSource
