import PanelSource.Athena.Memory
import PanelSource.Proofs.Athena.Keys
import PanelSource.Proofs.Athena.Mirror

/- Lists of executions are complete and belong where they are served.

   A service is relied on to list all ids of a workgroup, or else a part that begins with the newest
   one where the caller has said that it knows it (`ListsHistory`). Every list that is kept was then
   taken from all ids of the region and workgroup of its key: they were listed, and right after that
   the records of all of them were fetched (`LookupRun.kept`). A lookup serves such a list, with the
   newest id of now, or takes one itself (`complete_listings`). -/
namespace PanelSource
namespace AthenaBackend
variable {W : Type} {b : AthenaBackend W}

/-! ## Keys -/

theorem workGroup?_ne_empty (ps : Params) : ps.workGroup? ≠ some "" := by
  unfold Params.workGroup?
  simp only
  split
  · exact fun h => nomatch h
  · rename_i hname
    intro h
    exact hname (Option.some_inj.mp h)

theorem getD_empty_inj {a b : Option String} (ha : a ≠ some "") (hb : b ≠ some "")
    (h : a.getD "" = b.getD "") : a = b := by
  cases a with
  | none =>
    cases b with
    | none => rfl
    | some y => exact absurd (congrArg some h).symm hb
  | some x =>
    cases b with
    | none => exact absurd (congrArg some h) ha
    | some y => exact congrArg some h

/-! ## Complete lists -/

variable (b) in
/-- What the service is relied on for: a list of ids is all that a workgroup has, the newest first,
    or a part of that which begins with the id to stop at. -/
def ListsHistory (history : W → String → Option String → List String) : Prop :=
  ∀ ⦃region workGroup stopAt w ids⦄, b.AnswersIds region workGroup stopAt w ids →
    ids = history w region workGroup ∨
      (ids ≠ [] ∧ ids.head? = stopAt ∧ ids <+: history w region workGroup)

/-- At some point of a log all ids of a workgroup were listed, and right after that the records of
    all of them were fetched. -/
def Taken (history : W → String → Option String → List String) (log : List (Noted W))
    (region : String) (workGroup : Option String) (ids : List String)
    (executions : List Execution) : Prop :=
  ∃ earlier w stopAt calls later,
    log = earlier ++ ⟨region, w, .executionIds workGroup stopAt (.ok ids)⟩ :: calls ++ later ∧
      ids = history w region workGroup ∧ FetchesAll region ids calls executions

/-- A list that is kept was taken for its key, and carries the newest id. -/
def Complete (history : W → String → Option String → List String) (log : List (Noted W))
    (e : CacheEntry Listing) : Prop :=
  ∃ region workGroup ids, '/' ∉ region.toList ∧ workGroup ≠ some "" ∧
    e.key = workGroupKey region (workGroup.getD "") ∧ ids.head? = some e.value.newest ∧
      Taken history log region workGroup ids e.value.executions

/-- The sessions of a program that answers lookups, while the world changes and lists are dropped
    at will. -/
inductive LookupRun (b : AthenaBackend W) : Session (Logged W) → Prop
  | fresh (w : W) : LookupRun b (.fresh b.settings (w, []))
  | change {s : Session (Logged W)} (h : LookupRun b s) (w : W) :
      LookupRun b { s with world := (w, s.world.2) }
  | evict {s : Session (Logged W)} (h : LookupRun b s) (listings : Cache Listing)
      (hsub : listings.entries ⊆ s.listings.entries) : LookupRun b { s with listings }
  | fetch {s : Session (Logged W)} (h : LookupRun b s) (name : String) (ps : Params)
      (hslash : '/' ∉ (b.regionOf ps).toList) :
      LookupRun b (b.recorded.resources.fetch name ps s).2

section
variable {history : W → String → Option String → List String} {log log' : List (Noted W)}
  {region : String} {workGroup : Option String} {ids : List String} {executions : List Execution}

theorem Taken.later (h : Taken history log region workGroup ids executions) (hlog : log <+: log') :
    Taken history log' region workGroup ids executions := by
  obtain ⟨more, rfl⟩ := hlog
  obtain ⟨earlier, w, stopAt, calls, later, rfl, hids, hfetch⟩ := h
  exact ⟨earlier, w, stopAt, calls, later ++ more, by simp, hids, hfetch⟩

theorem Complete.later {e : CacheEntry Listing} (h : Complete history log e)
    (hlog : log <+: log') : Complete history log' e := by
  obtain ⟨region, workGroup, ids, hslash, hempty, hkey, hnewest, htaken⟩ := h
  exact ⟨region, workGroup, ids, hslash, hempty, hkey, hnewest, htaken.later hlog⟩

theorem ListsHistory.head?_eq (h : b.ListsHistory history) {stopAt : Option String} {w : W}
    (hids : b.AnswersIds region workGroup stopAt w ids) :
    ids.head? = (history w region workGroup).head? := by
  rcases h hids with rfl | ⟨hne, -, more, hmore⟩
  · rfl
  · rw [← hmore]
    cases ids with
    | nil => exact absurd rfl hne
    | cons id ids => rfl

/-- A list that does not begin with the id to stop at is not cut short. -/
theorem ListsHistory.eq_of_head?_ne (h : b.ListsHistory history) {stopAt : Option String} {w : W}
    (hids : b.AnswersIds region workGroup stopAt w ids) (hne : ids.head? ≠ stopAt) :
    ids = history w region workGroup := by
  rcases h hids with heq | ⟨-, hhead, -⟩
  · exact heq
  · exact absurd hhead hne

/-! ## Runs -/

variable {ps : Params} {s s' : Session (Logged W)} {r : Except AthenaError (List Execution)}

theorem Lists.later (h : Lists b ps s s' r) : s.world.2 <+: s'.world.2 := by
  cases h with
  | failed _ hlog => exact hlog
  | empty _ _ hlog => exact ⟨_, hlog.symm⟩
  | kept _ _ _ _ _ hlog => exact ⟨_, hlog.symm⟩
  | taken _ _ _ _ hlog _ => exact ⟨_, hlog.symm⟩

theorem Lists.taken_now {w : W} {stopAt : Option String} {newest : String} {calls : List (Noted W)}
    (hhistory : b.ListsHistory history) (hnewest : ids.head? = some newest)
    (hstop : stopAt ≠ some newest)
    (hids : b.AnswersIds (b.regionOf ps) ps.workGroup? stopAt w ids)
    (hfetch : FetchesAll (b.regionOf ps) ids calls executions)
    (hlog : log' = log ++
      ⟨b.regionOf ps, w, .executionIds ps.workGroup? stopAt (.ok ids)⟩ :: calls) :
    Taken history log' (b.regionOf ps) ps.workGroup? ids executions :=
  ⟨log, w, stopAt, calls, [], by rw [hlog, List.append_nil],
    hhistory.eq_of_head?_ne hids (by rw [hnewest]; exact Ne.symm hstop), hfetch⟩

/-- Listing executions keeps complete lists only. -/
theorem Lists.complete (hhistory : b.ListsHistory history) (hslash : '/' ∉ (b.regionOf ps).toList)
    (hall : ∀ e ∈ s.listings.entries, Complete history s.world.2 e) (h : Lists b ps s s' r) :
    ∀ e ∈ s'.listings.entries, Complete history s'.world.2 e := by
  intro e he
  have hlater := h.later
  cases h with
  | failed hkept _ => exact (hall e (hkept he)).later hlater
  | empty hkept _ _ => exact (hall e (hkept he)).later hlater
  | kept _ _ _ hkept _ _ => exact (hall e (hkept he)).later hlater
  | @taken _ _ ids _ _ _ hnewest hstop hids hfetch hlog hkept =>
    rcases hkept e he with hold | ⟨hkey, hvalue⟩
    · exact (hall e hold).later hlater
    · -- What is new is kept under the key of this region and workgroup.
      have htaken := Lists.taken_now hhistory hnewest hstop hids hfetch hlog
      refine ⟨_, _, ids, hslash, workGroup?_ne_empty ps, hkey, ?_, ?_⟩
      · rw [hvalue]
        exact hnewest
      · rw [hvalue]
        exact htaken

/-- **Every list that is kept in a run is complete.** -/
theorem LookupRun.kept (hhistory : b.ListsHistory history) (h : LookupRun b s) :
    ∀ e ∈ s.listings.entries, Complete history s.world.2 e := by
  induction h with
  | fresh w =>
    intro e he
    cases he
  | change _ _ ih => exact ih
  | evict _ listings hsub ih => exact fun e he => ih e (hsub he)
  | @fetch s _ name ps hslash ih =>
    have hquiet : ∀ {s₁}, Quiet s s₁ → ∀ e ∈ s₁.listings.entries, Complete history s₁.world.2 e :=
      fun hq e he => (ih e (hq.1 ▸ he)).later hq.2
    rcases fetch_cases b name ps s with hq | ⟨s₁, r₁, hfrom, hlist, -⟩
    · exact hquiet hq
    · exact (executionsOf_cases hlist).complete hhistory hslash (hquiet hfrom.quiet)

/-- A listing that succeeds serves what was taken from all ids of its region and workgroup. -/
theorem Lists.serves (hhistory : b.ListsHistory history) (hslash : '/' ∉ (b.regionOf ps).toList)
    (hall : ∀ e ∈ s.listings.entries, Complete history s.world.2 e)
    (h : Lists b ps s s' (.ok executions)) :
    ∃ w stopAt ids calls,
      s'.world.2 = s.world.2 ++
        ⟨b.regionOf ps, w, .executionIds ps.workGroup? stopAt (.ok ids)⟩ :: calls ∧
      ids.head? = (history w (b.regionOf ps) ps.workGroup?).head? ∧
      (ids = [] → executions = []) ∧
      (ids ≠ [] → ∃ listed, listed.head? = ids.head? ∧
        Taken history s'.world.2 (b.regionOf ps) ps.workGroup? listed executions) := by
  have hlater := h.later
  cases h with
  | empty _ hids hlog =>
    exact ⟨_, _, _, _, hlog, hhistory.head?_eq hids, fun _ => rfl, fun h => absurd rfl h⟩
  | kept he hkey hnewest _ hids hlog =>
    refine ⟨_, _, _, _, hlog, hhistory.head?_eq hids, fun h => ?_, fun _ => ?_⟩
    · rw [h] at hnewest
      cases hnewest
    · -- The key tells the region and the workgroup that the list was taken for.
      obtain ⟨region, workGroup, listed, hslash', hempty, hkey', hhead, htaken⟩ := hall _ he
      obtain ⟨rfl, hgroup⟩ := workGroupKey_inj hslash' hslash (hkey'.symm.trans hkey)
      obtain rfl := getD_empty_inj hempty (workGroup?_ne_empty ps) hgroup
      exact ⟨listed, by rw [hhead, hnewest], htaken.later hlater⟩
  | taken hnewest hstop hids hfetch hlog _ =>
    refine ⟨_, _, _, _, hlog, hhistory.head?_eq hids, fun h => ?_, fun _ => ?_⟩
    · rw [h] at hnewest
      cases hnewest
    · exact ⟨_, rfl, Lists.taken_now hhistory hnewest hstop hids hfetch hlog⟩

theorem head?_eq_none_iff_of_eq {xs ys : List String} (h : xs.head? = ys.head?) :
    xs = [] ↔ ys = [] := by
  rw [← List.head?_eq_none_iff, h, List.head?_eq_none_iff]

end

/-! ## Runs without a log -/

/-- The sessions of the program itself, without a record of its calls. -/
inductive PlainRun (b : AthenaBackend W) : Session W → Prop
  | fresh (w : W) : PlainRun b (.fresh b.settings w)
  | change {s : Session W} (h : PlainRun b s) (w : W) : PlainRun b { s with world := w }
  | evict {s : Session W} (h : PlainRun b s) (listings : Cache Listing)
      (hsub : listings.entries ⊆ s.listings.entries) : PlainRun b { s with listings }
  | fetch {s : Session W} (h : PlainRun b s) (name : String) (ps : Params)
      (hslash : '/' ∉ (b.regionOf ps).toList) : PlainRun b (b.resources.fetch name ps s).2

/-- Every run is a recorded one without its log. -/
theorem PlainRun.recorded {t : Session W} (h : PlainRun b t) :
    ∃ s, LookupRun b s ∧ s.unlogged = t := by
  induction h with
  | fresh w => exact ⟨_, .fresh w, rfl⟩
  | change _ w ih =>
    obtain ⟨s, hs, rfl⟩ := ih
    exact ⟨_, hs.change w, rfl⟩
  | evict _ listings hsub ih =>
    obtain ⟨s, hs, rfl⟩ := ih
    exact ⟨_, hs.evict listings hsub, rfl⟩
  | fetch _ name ps hslash ih =>
    obtain ⟨s, hs, rfl⟩ := ih
    refine ⟨_, hs.fetch name ps hslash, ?_⟩
    rw [fetch_recorded]

/-- **Lists of executions are complete and belong where they are served.** In every run of lookups,
    with any world and any losses between them, a listing that succeeds while its workgroup has a
    history serves records that were fetched for all ids of that region and workgroup, of which the
    newest is the newest one now; every list that is kept was taken like that for its key; and a
    lookup that fails keeps no list. -/
theorem complete_listings {history : W → String → Option String → List String}
    (hhistory : b.ListsHistory history) {s : Session (Logged W)} (h : LookupRun b s) :
    (∀ {ps s₁ s' executions}, '/' ∉ (b.regionOf ps).toList → b.ListsFrom ps s s₁ →
      Ends (b.recorded.executionsOf ps) s₁ (.ok executions) s' →
      ∃ w stopAt ids calls,
        s'.world.2 = s₁.world.2 ++
          ⟨b.regionOf ps, w, .executionIds ps.workGroup? stopAt (.ok ids)⟩ :: calls ∧
        ids.head? = (history w (b.regionOf ps) ps.workGroup?).head? ∧
        (history w (b.regionOf ps) ps.workGroup? = [] → executions = []) ∧
        (history w (b.regionOf ps) ps.workGroup? ≠ [] → ∃ listed, listed.head? = ids.head? ∧
          Taken history s'.world.2 (b.regionOf ps) ps.workGroup? listed executions)) ∧
    (∀ e ∈ s.listings.entries, Complete history s.world.2 e) ∧
    (∀ {name ps e}, (b.recorded.resources.fetch name ps s).1 = .error e →
      (b.recorded.resources.fetch name ps s).2.listings.entries ⊆ s.listings.entries) := by
  have hkept := h.kept hhistory
  refine ⟨fun {ps s₁ s' executions} hslash hfrom hlist => ?_, hkept, fun {name ps e} herr => ?_⟩
  · have hquiet := hfrom.quiet
    -- Until the listing itself no entry is put, and the log only grows.
    have hall : ∀ e ∈ s₁.listings.entries, Complete history s₁.world.2 e := by
      intro e he
      rw [hquiet.1] at he
      exact (hkept e he).later hquiet.2
    obtain ⟨w, stopAt, ids, calls, hlog, hhead, hnone, hsome⟩ :=
      (executionsOf_cases hlist).serves hhistory hslash hall
    have hempty := head?_eq_none_iff_of_eq hhead
    exact ⟨w, stopAt, ids, calls, hlog, hhead, fun h => hnone (hempty.mpr h),
      fun h => hsome (mt hempty.mp h)⟩
  · rcases fetch_cases b name ps s with hq | ⟨s₁, r₁, hfrom, hlist, hfails⟩
    · rw [hq.1]
      exact fun _ he => he
    · obtain ⟨e', rfl⟩ := hfails e herr
      cases executionsOf_cases hlist with
      | failed hsub _ =>
        rw [hfrom.quiet.1] at hsub
        exact hsub

end AthenaBackend

/-! ## A service in memory -/

namespace Memory

def history (m : Memory) (_ : String) (workGroup : Option String) : List String :=
  (m.executions.filter fun e => isIn workGroup e.workGroup).filterMap (·.id)

/-- One service answers for every region. -/
theorem eq_region {name : String} {service : RegionService Memory} {m m' : Memory}
    (h : Ends (athena.region name) m (.ok service) m') : service = region := by
  cases h
  rfl

/-- The service in memory lists what it is relied on for. -/
theorem listsHistory (settings : AthenaSettings) :
    (⟨athena, settings⟩ : AthenaBackend Memory).ListsHistory history := by
  rintro name workGroup stopAt m ids ⟨service, v, v', m', hserves, hids⟩
  obtain rfl := eq_region hserves
  have hlist : m.listIds workGroup stopAt = ids := by
    cases hids
    rfl
  unfold listIds at hlist
  simp only at hlist
  split at hlist
  · rename_i hstop
    obtain ⟨hsome, hhead⟩ := hstop
    have htake : ids.head? = stopAt := by
      rw [← hlist, List.head?_take, if_neg (by decide)]
      exact hhead
    refine .inr ⟨?_, htake, hlist ▸ List.take_prefix _ _⟩
    rintro rfl
    rw [← htake] at hsome
    cases hsome
  · exact .inl hlist.symm

/-- A service with two executions, a lookup of them all, and the session after it. -/
def backend : AthenaBackend Memory := ⟨athena, {}⟩

def twoExecutions : Memory := { executions := [{ id := some "b" }, { id := some "a" }] }

def everything : Params :=
  [("region", .text "us-east-1"), ("limit", .int (-1)), ("to", .text "2024-05-01T00:00:00Z")]

def afterLookup : Session (Logged Memory) :=
  (backend.recorded.resources.fetch "query_execution_ids" everything
    (.fresh backend.settings (twoExecutions, []))).2

theorem run_afterLookup : AthenaBackend.LookupRun backend afterLookup :=
  .fetch (.fresh twoExecutions) "query_execution_ids" everything (by decide +kernel)

theorem complete_listings_afterLookup : backend.ListsHistory history ∧
    AthenaBackend.LookupRun backend afterLookup ∧ afterLookup.listings.entries.length = 1 ∧
      ∀ e ∈ afterLookup.listings.entries,
        AthenaBackend.Complete history afterLookup.world.2 e ∧
          e.value = ⟨"b", twoExecutions.executions⟩ := by
  have hcomplete := AthenaBackend.complete_listings (listsHistory {}) run_afterLookup
  have hvalue : ∀ e ∈ afterLookup.listings.entries, e.value = ⟨"b", twoExecutions.executions⟩ := by
    decide +kernel
  exact ⟨listsHistory {}, run_afterLookup, by decide +kernel,
    fun e he => ⟨hcomplete.2.1 e he, hvalue e he⟩⟩

end Memory
end PanelSource
