import PanelSource.Proofs.Athena.SavedStatement
import PanelSource.Proofs.Suggest.Agreement

/- The end of the window, on its way to the executions.

   A query sends the end of the dashboard's window as a timestamp in milliseconds. The backend reads
   it as the last instant of whole milliseconds that is not after that end (`Instant.RoundsDown`),
   before 1970 as well as since then, and that instant is what it compares completions with. An
   execution that was done at whole milliseconds is thus let through just when it was done by the
   end of the window itself (`RoundsDown.atOrBefore_iff`). -/
namespace PanelSource
open Calendar

/-! ## Whole milliseconds -/

namespace Calendar.Instant

def WholeMillis (t : Instant) : Prop := t.nano % 1000000 = 0

/-- The last instant of whole milliseconds that is not after another one. -/
structure RoundsDown (t m : Instant) : Prop where
  whole : m.WholeMillis
  notAfter : m.atOrBefore t
  last : ∀ d : Instant, d.WholeMillis → d.atOrBefore t → d.atOrBefore m

theorem roundsDown (t : Instant) : t.RoundsDown ⟨t.second, t.nano / 1000000 * 1000000⟩ := by
  refine ⟨Nat.mul_mod_left _ _, atOrBefore_iff.mpr (.inr ⟨rfl, Nat.div_mul_le_self _ _⟩), ?_⟩
  intro d hwhole hd
  rw [atOrBefore_iff] at hd ⊢
  rcases hd with hsecond | ⟨hsecond, hnano⟩
  · exact .inl hsecond
  · -- A multiple of the unit that is not above a number is not above its last multiple either.
    have hunits : d.nano / 1000000 * 1000000 = d.nano :=
      Nat.div_mul_cancel (Nat.dvd_of_mod_eq_zero hwhole)
    have hle : d.nano / 1000000 * 1000000 ≤ t.nano / 1000000 * 1000000 :=
      Nat.mul_le_mul_right _ (Nat.div_le_div_right hnano)
    rw [hunits] at hle
    exact .inr ⟨hsecond, hle⟩

variable {t m m' d : Instant}

theorem RoundsDown.unique (h : t.RoundsDown m) (h' : t.RoundsDown m') : m = m' :=
  atOrBefore_antisymm (h'.last m h.whole h.notAfter) (h.last m' h'.whole h'.notAfter)

theorem RoundsDown.atOrBefore_iff (h : t.RoundsDown m) (hd : d.WholeMillis) :
    d.atOrBefore m ↔ d.atOrBefore t :=
  ⟨fun hle => atOrBefore_trans hle h.notAfter, h.last d hd⟩

end Calendar.Instant

/-! ## What a form's lookup searches -/

namespace Suggest

/-- Executions in the shape of a reply. -/
def Shape.tell : Shape → List Execution → Json
  | .names, es => .strings (es.filterMap (·.id))
  | .executions, es => .array (es.map Execution.toJson)

/-- A lookup of a form comes to a pattern and a listing to search for it. The pattern is the one
    that is sent, or it is the statement of the first saved query whose name matches that, if that
    one has room by the estimate of `Pattern.weight`. -/
inductive Searches {W : Type} (b : AthenaBackend W) (ps : Params) (s : Session W) :
    Form → Pattern → List Execution → Session W → Prop
  | byPattern {pattern : Pattern} {listing : List Execution} {s' : Session W}
      (hpattern : ps.pattern = .ok pattern)
      (hlist : Ends (b.executionsOf ps) s (.ok listing) s') :
      Searches b ps s .executionIds pattern listing s'
  | byName {name : Pattern} {queries : List NamedQuery} {q : NamedQuery}
      {listing : List Execution} {s₁ s' : Session W} (hname : ps.pattern = .ok name)
      (hqueries : Ends (b.namedQueries ps) s (.ok queries) s₁)
      (hfirst : queries.find? (name.occursIn ·.name) = some q)
      (hroom : 24 * ((trimStatement q.sql).length + 2) ≤ Pattern.weightLimit)
      (hlist : Ends (b.executionsOf ps) s₁ (.ok listing) s') :
      Searches b ps s .executionIdsByName (.only (trimStatement q.sql)) listing s'

section
variable {W : Type} {b : AthenaBackend W} {ps : Params} {s s' : Session W} {f : Form}
  {pattern : Pattern} {listing : List Execution} {limit : Int} {stop : Instant}

theorem fetch_of_value {value : Json} (h : Ends (b.value f.resource ps) s (.ok value) s') :
    (b.resources.fetch f.resource ps).run s = (.ok (.object [(f.resource, value)]), s') := by
  have hlookup : Ends (b.lookup f.resource ps) s (.ok (.object [(f.resource, value)])) s' :=
    ends_ok_bind.mpr ⟨value, s', h, rfl⟩
  have hrun : (b.resources.fetch f.resource ps).run s =
      (((b.lookup f.resource ps).run s).1.mapError AthenaError.toBackend,
        ((b.lookup f.resource ps).run s).2) := rfl
  rw [hrun, hlookup]
  rfl

/-- The reply tells what the filter of the parameters selects from the listing. -/
theorem Searches.fetch (h : Searches b ps s f pattern listing s') (hlimit : ps.limit = .ok limit)
    (hstop : ps.stop = .ok stop) :
    (b.resources.fetch f.resource ps).run s =
      (.ok (.object [(f.resource,
        f.shape.tell (ExecutionFilter.select ⟨pattern, limit, stop⟩ listing))]), s') := by
  apply fetch_of_value
  cases h with
  | byPattern hpattern hlist =>
    exact ends_ok_bind.mpr ⟨_, s', AthenaBackend.ends_queryExecutionIds
      (f := ⟨pattern, limit, stop⟩) hpattern hlimit hstop hlist, rfl⟩
  | byName hname hqueries hfirst hroom hlist =>
    refine ends_ok_bind.mpr ⟨_, s', ?_, rfl⟩
    rw [AthenaBackend.ends_queryExecutionsByName hname hlimit hstop hqueries hfirst,
      if_neg (Nat.not_lt.mpr hroom)]
    exact ends_ok_bind.mpr ⟨listing, s', hlist, rfl⟩

/-- Of the executions that succeeded with a statement that matches, a ranking of the listing has
    those that were done by the end of the window. -/
theorem mem_of_ranked {kind : String → Bool} {all : List Execution}
    (h : Ranked (ExecutionFilter.Selected kind stop) listing all) {e : Execution}
    (hstate : e.state = some "SUCCEEDED") (hsql : ∃ sql, e.sql = some sql ∧ kind sql) :
    e ∈ all ↔ e ∈ listing ∧ ∃ done, e.completed = some done ∧ done.atOrBefore stop := by
  -- What passes the filter stands in the ranking as often as in the listing.
  constructor
  · intro he
    have hselected := h.passes e he
    refine ⟨List.count_pos_iff.mp ?_, hselected.2.1⟩
    rw [← h.count e hselected]
    exact List.count_pos_iff.mpr he
  · rintro ⟨he, hdone⟩
    apply List.count_pos_iff.mp
    rw [h.count e ⟨hstate, hdone, hsql⟩]
    exact List.count_pos_iff.mpr he

/-- **The end of the window decides which executions are told.** Where a call sends the end of the
    window, in a year of up to four digits, the backend reads it as that instant rounded down to the
    millisecond. Whatever the lookup comes to search, the reply then tells, up to the limit, the
    executions that succeeded by that instant with a statement that matches, the latest first: of
    the executions in the listing that succeeded with such a statement, those and only those that
    were done at or before it. -/
theorem window_end_selects {call : Call} {store : Variable.Store} {window : Window}
    {args : Arguments} (hsent : Sent.stop ∈ call.form.sent)
    (hargs : call.resolve store window = .ok args) (hproper : window.stop.Proper)
    (hlow : 0 ≤ window.stop.moment.date.year) (hhigh : window.stop.moment.date.year ≤ 9999) :
    ∃ stop, window.stop.RoundsDown stop ∧ (call.form.lookup args).params.stop = .ok stop ∧
      ∀ {W : Type} {b : AthenaBackend W} {s s' : Session W} {pattern : Pattern}
        {listing : List Execution},
        Searches b (call.form.lookup args).params s call.form pattern listing s' →
        ∃ all, (b.resources.fetch call.form.resource (call.form.lookup args).params).run s =
            (.ok (.object [(call.form.resource, call.form.shape.tell
              (if args.limit < 0 then all else all.take args.limit.toNat))]), s') ∧
          Ranked (ExecutionFilter.Selected pattern.occursIn stop) listing all ∧
          ∀ e : Execution, e.state = some "SUCCEEDED" →
            (∃ sql, e.sql = some sql ∧ pattern.occursIn sql) →
            (e ∈ all ↔ e ∈ listing ∧ ∃ done, e.completed = some done ∧ done.atOrBefore stop) := by
  have hstopText : args.stop = window.stopText := by
    rcases call.resolve_cases store window with ⟨e, _, _, herror, -⟩ | ⟨args', hargs', hstop⟩
    · rw [hargs] at herror
      cases herror
    · rw [hargs] at hargs'
      cases hargs'
      exact hstop hsent
  have hstop := Form.stop_lookup hsent hstopText hproper hlow hhigh
  refine ⟨_, window.stop.roundsDown, hstop, fun {W b s s' pattern listing} h => ?_⟩
  have hlimited : Sent.limit ∈ call.form.sent := by
    generalize call.form = f at h
    cases h <;> decide
  have hranked := @ExecutionFilter.ranked_unlimited pattern
    ⟨window.stop.second, window.stop.nano / 1000000 * 1000000⟩ listing
  refine ⟨_, h.fetch (Form.limit_lookup hlimited) hstop, hranked, ?_⟩
  intro e hstate hsql
  exact mem_of_ranked hranked hstate hsql

end
end Suggest

namespace Memory

/-- Two executions of one statement, done in the last millisecond before 1970. -/
def lateExecutions : List Execution :=
  let doneAt id nano : Execution :=
    { id := some id, sql := some "SELECT 1", workGroup := some "primary"
      status := some { state := some "SUCCEEDED", completed := some ⟨-1, nano⟩ } }
  [doneAt "b" 999000001, doneAt "a" 999000000]

def lateSession : Session Memory := .fresh backend.settings { executions := lateExecutions }

/-- A window that ends a nanosecond before 1970. -/
def lateWindow : Window := ⟨.epoch, ⟨-1, 999999999⟩⟩

def lateCall : Suggest.Call :=
  ⟨.executionIds, { region := some "us-east-1", limit := some "-1", pattern := some "SELECT" }⟩

def lateArguments : Suggest.Arguments where
  region := "us-east-1"
  limit := -1
  pattern := "SELECT"
  workGroup := "primary"
  stop := "1969-12-31T23:59:59.999Z"

def lateParams : Params := (lateCall.form.lookup lateArguments).params

theorem lateParams_pattern : lateParams.pattern =
    .ok (Pattern.Piece.sequence ("SELECT".toList.map .ofChar)).pattern := rfl

/-- Both executions were done by the end of the window, and one of them by the last millisecond
    before it, which is the one that is told. -/
theorem window_end_selects_late :
    lateCall.resolve .empty lateWindow = .ok lateArguments ∧ lateWindow.stop.Proper ∧
      0 ≤ lateWindow.stop.moment.date.year ∧ lateWindow.stop.moment.date.year ≤ 9999 ∧
      ∃ stop pattern all, lateWindow.stop.RoundsDown stop ∧ lateParams.stop = .ok stop ∧
        lateParams.pattern = .ok pattern ∧
        Ranked (ExecutionFilter.Selected pattern.occursIn stop) lateExecutions all ∧
        ((backend.resources.fetch "query_execution_ids" lateParams).run lateSession).1 =
          .ok (.object [("query_execution_ids", .strings (all.filterMap (·.id)))]) ∧
        all.filterMap (·.id) = ["a"] := by
  have hargs : lateCall.resolve .empty lateWindow = .ok lateArguments := by decide +kernel
  have hproper : lateWindow.stop.Proper := .inl (by decide)
  have hlow : 0 ≤ lateWindow.stop.moment.date.year := by decide
  have hhigh : lateWindow.stop.moment.date.year ≤ 9999 := by decide
  obtain ⟨stop, hrounds, hstop, hselects⟩ :=
    Suggest.window_end_selects (by decide) hargs hproper hlow hhigh
  have hlist : Ends (backend.executionsOf lateParams) lateSession (.ok lateExecutions) _ :=
    Prod.ext (by decide +kernel) rfl
  obtain ⟨all, hfetch, hranked, -⟩ := hselects (.byPattern lateParams_pattern hlist)
  have htold : ((backend.resources.fetch "query_execution_ids" lateParams).run lateSession).1 =
      .ok (.object [("query_execution_ids", .strings (all.filterMap (·.id)))]) :=
    congrArg Prod.fst hfetch
  have hids : ((backend.resources.fetch "query_execution_ids" lateParams).run lateSession).1 =
      .ok (.object [("query_execution_ids", .strings ["a"])]) :=
    AthenaBackend.fetch_of_ids (by decide +kernel)
  refine ⟨hargs, hproper, hlow, hhigh, stop, _, all, hrounds, hstop, lateParams_pattern, hranked,
    htold, ?_⟩
  rw [htold] at hids
  simpa [Json.strings, Function.comp_def] using hids

end Memory
end PanelSource
