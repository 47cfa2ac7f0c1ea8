import Mathlib.Data.List.Nodup
import PanelSource.Suggest.Finder
import PanelSource.Proofs.Athena.Replies
import PanelSource.Proofs.Wire.Execution
import PanelSource.Proofs.Wire.Param

/- Queries and the backend agree.

   A query that cannot be read or whose limit is no integer makes no lookup. Every other query makes
   one, which the backend knows and which carries the parameters that the backend asks for; what the
   backend answers then becomes suggestions element by element, with the same values whether they
   are labeled or not (`Agree`). -/
namespace PanelSource
open Calendar Text

/-- A client with its lookups noted, the first one first. -/
def ResourceClient.noting {W : Type} (c : ResourceClient W) :
    ResourceClient (W × List Suggest.Lookup) where
  fetch name ps := fun (w, log) =>
    let (answer, w) := (c.fetch name ps).run w
    (answer, (w, log ++ [⟨name, ps⟩]))

/-- A failure that is laid to the lookup's name, a parameter that is missing, its limit or the end
    of the window. -/
def BackendError.BlamesLookup : BackendError → Prop
  | .unknownResource _ => True
  | .missingParameter _ => True
  | .invalidParameter name _ _ => name = "limit" ∨ name = "to"
  | _ => False

theorem AthenaError.toBackend_blameless {e : AthenaError} (h : ¬ e.BlamesLookup) :
    ¬ e.toBackend.BlamesLookup := by
  cases e with
  | invalidPattern pattern reason =>
    intro hname
    rcases hname with hname | hname
    · exact absurd hname (by decide)
    · exact absurd hname (by decide)
  | service => exact h
  | parse => exact h
  | namedQueryNotFound => exact h
  | noScanLimit => exact h
  | queryFailed => exact h
  | queryTimeout => exact h
  | invalidParameter => exact h
  | missingParameter => exact h
  | unknownResource => exact h

namespace Suggest

/-! ## The parameters of a lookup -/

theorem Sent.name_injective : Function.Injective Sent.name := by
  intro p q h
  cases p <;> cases q <;> first | rfl | exact absurd h (by decide)

section
variable {f : Form} {args : Arguments}

theorem Form.nodup_sent (f : Form) : f.sent.Nodup := by
  cases f <;> decide

theorem Form.get?_lookup {p : Sent} (h : p ∈ f.sent) :
    (f.lookup args).params.get? p.name = some (args.param p) := by
  have hnames : ((f.sent.map fun p => (p.name, args.param p)).map (·.1)).Nodup := by
    rw [List.map_map]
    exact f.nodup_sent.map Sent.name_injective
  rw [Form.lookup, Params.get?_ofList hnames]
  exact Params.get?_of_mem hnames (List.mem_map_of_mem h)

theorem Form.limit_lookup (h : Sent.limit ∈ f.sent) :
    (f.lookup args).params.limit = .ok args.limit := by
  have hget : (f.lookup args).params.get? "limit" = some (.int args.limit) := Form.get?_lookup h
  unfold Params.limit
  rw [hget]
  rfl

theorem Form.stop_lookup (h : Sent.stop ∈ f.sent) {window : Window}
    (hargs : args.stop = window.stopText) (hstop : window.stop.Proper)
    (hlow : 0 ≤ window.stop.moment.date.year) (hhigh : window.stop.moment.date.year ≤ 9999) :
    (f.lookup args).params.stop =
      .ok ⟨window.stop.second, window.stop.nano / 1000000 * 1000000⟩ := by
  have hget : (f.lookup args).params.get? "to" = some (.text window.stopText) := by
    rw [← hargs]
    exact Form.get?_lookup h
  have htrim : trim window.stopText = window.stopText := by
    rw [Window.stopText, trim, (bare_rfc3339Millis _).strip_self]
    exact String.ofList_toList
  unfold Params.stop
  rw [hget]
  show (readRfc3339 (trim window.stopText)).mapError _ = _
  rw [htrim, Window.stopText, readRfc3339_millis hstop hlow hhigh]
  rfl

end

theorem resolveLimit_error {store : Variable.Store} {limit : String} {e : QueryError}
    (h : resolveLimit store limit = .error e) :
    ∃ value reason, e = .invalidArgument "limit" value reason := by
  unfold resolveLimit at h
  simp only at h
  split at h
  · cases h
  · cases h
    exact ⟨_, _, rfl⟩

/-- A call is resolved unless its limit is no integer, with the end of the window where its form
    sends that. -/
theorem Call.resolve_cases (call : Call) (store : Variable.Store) (window : Window) :
    (∃ e value reason, call.resolve store window = .error e ∧
      e = .invalidArgument "limit" value reason) ∨
    ∃ args, call.resolve store window = .ok args ∧
      (Sent.stop ∈ call.form.sent → args.stop = window.stopText) := by
  have hstop (h : Sent.stop ∈ call.form.sent) : call.form.sends .stop = true :=
    List.contains_iff_mem.mpr h
  unfold Call.resolve
  cases hlimit : call.args.limit with
  | none =>
    simp only [hlimit]
    exact .inr ⟨_, rfl, fun h => if_pos (hstop h)⟩
  | some limit =>
    simp only [hlimit]
    cases hresolve : resolveLimit store limit with
    | error e =>
      obtain ⟨value, reason, rfl⟩ := resolveLimit_error hresolve
      exact .inl ⟨_, value, reason, rfl, rfl⟩
    | ok i => exact .inr ⟨_, rfl, fun h => if_pos (hstop h)⟩

/-! ## What the backend answers -/

/-- The shape of a form's reply. -/
def Form.shape : Form → Shape
  | .executionIdsByName => .executions
  | _ => .names

theorem Form.shape?_resource (f : Form) : shape? f.resource = some f.shape := by
  cases f <;> rfl

/-- What the backend tells in a shape: names, or records of executions. -/
def Shape.Fits : Shape → Json → Prop
  | .names, value => ∃ xs, value = .strings xs
  | .executions, value => ∃ es : List Execution, value = .array (es.map Execution.toJson)

section
variable {W : Type} {b : AthenaBackend W} {f : Form} {ps : Params}

open AthenaBackend

/-- The backend knows the resource of every form and answers in its shape. -/
theorem blameless_value (hservice : b.athena.FailsByItself)
    (hlimit : Sent.limit ∈ f.sent → ∃ limit, ps.limit = .ok limit)
    (hstop : Sent.stop ∈ f.sent → ∃ stop, ps.stop = .ok stop) :
    Blameless f.shape.Fits (b.value f.resource ps) := by
  cases f with
  | regions => exact gives_pure ⟨_, rfl⟩
  | workGroupNames =>
    exact Gives.bind (blameless_workGroupNames hservice) fun xs _ => gives_pure ⟨xs, rfl⟩
  | namedQueryNames =>
    exact Gives.bind (blameless_namedQueryNames hservice) fun xs _ => gives_pure ⟨xs, rfl⟩
  | namedQueryQueries =>
    exact Gives.bind (blameless_namedQueryStatements hservice) fun xs _ => gives_pure ⟨xs, rfl⟩
  | executionIds =>
    obtain ⟨limit, hlimit⟩ := hlimit (by decide)
    obtain ⟨stop, hstop⟩ := hstop (by decide)
    exact Gives.bind (blameless_queryExecutionIds hservice hlimit hstop)
      fun xs _ => gives_pure ⟨xs, rfl⟩
  | executionIdsByName =>
    obtain ⟨limit, hlimit⟩ := hlimit (by decide)
    obtain ⟨stop, hstop⟩ := hstop (by decide)
    exact Gives.bind (blameless_queryExecutionsByName hservice hlimit hstop)
      fun es _ => gives_pure ⟨es, rfl⟩

/-- The reply of a form's lookup, or a failure that blames nothing about it. -/
theorem fetch_form (hservice : b.athena.FailsByItself)
    (hlimit : Sent.limit ∈ f.sent → ∃ limit, ps.limit = .ok limit)
    (hstop : Sent.stop ∈ f.sent → ∃ stop, ps.stop = .ok stop) (s : Session W) :
    (∀ e, ((b.resources.fetch f.resource ps).run s).1 = .error e → ¬ e.BlamesLookup) ∧
      ∀ reply, ((b.resources.fetch f.resource ps).run s).1 = .ok reply →
        ∃ value, reply = .object [(f.resource, value)] ∧ f.shape.Fits value := by
  have hlookup : Blameless
      (fun reply => ∃ value, reply = .object [(f.resource, value)] ∧ f.shape.Fits value)
      (b.lookup f.resource ps) :=
    Gives.bind (blameless_value hservice hlimit hstop) fun value h => gives_pure ⟨value, rfl, h⟩
  obtain ⟨hfails, hanswers⟩ := hlookup (ends_self _ s)
  have hrun : ((b.resources.fetch f.resource ps).run s).1 =
      ((b.lookup f.resource ps).run s).1.mapError AthenaError.toBackend := rfl
  rw [hrun]
  cases hr : ((b.lookup f.resource ps).run s).1 with
  | error e =>
    refine ⟨fun e' he => ?_, fun _ h => nomatch h⟩
    cases he
    exact AthenaError.toBackend_blameless (hfails e hr)
  | ok reply =>
    refine ⟨fun _ h => (nomatch h), fun reply' h => ?_⟩
    cases h
    exact hanswers reply hr

end

/-! ## Suggestions of a reply -/

/-- What an element of a reply stands for: itself where it is a name, or the id that it carries. -/
def elementValue? (j : Json) : Option String :=
  j.string?.or ((j.field? "QueryExecutionId").bind Json.string?)

/-- Each element of a reply becomes one suggestion that stands for it, in their order, and the
    labeled suggestions stand for the same. -/
structure Projects (resource : String) (reply : Json) : Prop where
  plain : (project resource reply).map (fun x => some x.value) =
    (elements resource reply).map elementValue?
  labeled : (projectLabeled resource reply).map (·.value) =
    (project resource reply).map (·.value)

/-- An element that one suggestion is made of, with the value that it stands for. -/
def Stands (shape : Shape) (j : Json) : Prop :=
  ∃ value, elementValue? j = some value ∧
    ∀ label, ∃ text, suggestion? label shape j = some ⟨text, value⟩

theorem map_value_filterMap {shape : Shape} {xs : List Json} (h : ∀ x ∈ xs, Stands shape x)
    (label : Execution → String → String) :
    (xs.filterMap (suggestion? label shape)).map (fun x => some x.value) =
      xs.map elementValue? := by
  induction xs with
  | nil => rfl
  | cons x xs ih =>
    obtain ⟨value, hvalue, htext⟩ := h x List.mem_cons_self
    obtain ⟨text, htext⟩ := htext label
    rw [List.filterMap_cons_some htext, List.map_cons, List.map_cons, hvalue,
      ih fun y hy => h y (List.mem_cons_of_mem x hy)]

/-- Where every element stands for a value, none is lost. -/
theorem projects_of_stands {resource : String} {shape : Shape} (h : shape? resource = some shape)
    {xs : List Json} (hxs : ∀ x ∈ xs, Stands shape x) :
    Projects resource (.object [(resource, .array xs)]) := by
  have helements : elements resource (.object [(resource, .array xs)]) = xs := by
    simp [elements, Json.field?]
  have hvalues (label : Execution → String → String) :
      (projectWith label resource (.object [(resource, .array xs)])).map (fun x => some x.value) =
        xs.map elementValue? := by
    simp only [projectWith, h, helements]
    exact map_value_filterMap hxs label
  constructor
  · rw [helements]
    exact hvalues _
  · have hsame := (hvalues executionLabel).trans (hvalues fun _ id => id).symm
    have hsome (ys : List Suggestion) :
        ys.map (fun x => some x.value) = (ys.map (·.value)).map some := by
      rw [List.map_map]
      rfl
    rw [hsome, hsome] at hsame
    exact List.map_injective_iff.mpr (Option.some_injective _) hsame

theorem stands_string (s : String) : Stands .names (.string s) :=
  ⟨s, rfl, fun _ => ⟨s, rfl⟩⟩

/-- A record stands for the id that it carries. -/
theorem stands_record {e : Execution} (h : e.Proper) (hid : e.id.isSome) :
    Stands .executions e.toJson := by
  obtain ⟨id, hid⟩ := Option.isSome_iff_exists.mp hid
  have hfield : e.toJson.field? "QueryExecutionId" = some (.string id) := by
    refine Json.field?_objectOfSome ?_ (by simp [hid])
    simp only [List.map_cons, List.map_nil]
    decide
  refine ⟨id, ?_, fun label => ⟨label e id, ?_⟩⟩
  · unfold elementValue?
    rw [hfield]
    rfl
  · unfold suggestion?
    simp only [Wire.ofJson, Execution.decode_toJson h, hid, Option.map_some]

/-- A reply under the name of its resource: names, all of which are suggested, or records, all of
    which are suggested if they carry ids. -/
inductive Answered (resource : String) (reply : Json) : Prop
  | names (xs : List String) (hreply : reply = .object [(resource, .strings xs)])
      (h : Projects resource reply)
  | records (es : List Execution)
      (hreply : reply = .object [(resource, .array (es.map Execution.toJson))])
      (h : (∀ e ∈ es, e.Proper ∧ e.id.isSome) → Projects resource reply)

theorem answered_of_fits {resource : String} {shape : Shape} (h : shape? resource = some shape)
    {value : Json} (hvalue : shape.Fits value) :
    Answered resource (.object [(resource, value)]) := by
  cases shape with
  | names =>
    obtain ⟨xs, rfl⟩ := hvalue
    refine .names xs rfl (projects_of_stands h fun x hx => ?_)
    obtain ⟨s, -, rfl⟩ := List.mem_map.mp hx
    exact stands_string s
  | executions =>
    obtain ⟨es, rfl⟩ := hvalue
    refine .records es rfl fun hes => projects_of_stands h fun x hx => ?_
    obtain ⟨e, he, rfl⟩ := List.mem_map.mp hx
    exact stands_record (hes e he).1 (hes e he).2

/-! ## Queries -/

/-- The answer of a backend as the answer to a query. -/
def shown (show_ : Json → List Suggestion) : Except BackendError Json →
    Except QueryError (List Suggestion)
  | .error e => .error (.backend e)
  | .ok reply => .ok (show_ reply)

namespace Finder
variable {W : Type} {c : ResourceClient W} {store : Variable.Store} {window : Window}

/-- A query that ends, labeled or not, and leaves everything as it was. -/
def Silent (f : Finder W) (query : String) (w : W)
    (result : Except QueryError (List Suggestion)) : Prop :=
  (f.find query).run w = (result, w) ∧ (f.findLabeled query).run w = (result, w)

/-- A query that makes one lookup and shows the answer of the client, labeled or not. -/
def AsksOnce (c : ResourceClient W) (store : Variable.Store) (window : Window) (query : String)
    (w : W) (log : List Lookup) (l : Lookup) : Prop :=
  let f : Finder (W × List Lookup) := ⟨c.noting, store, window⟩
  let (answer, w') := (c.fetch l.resource l.params).run w
  (f.find query).run (w, log) = (shown (project l.resource) answer, (w', log ++ [l])) ∧
    (f.findLabeled query).run (w, log) =
      (shown (projectLabeled l.resource) answer, (w', log ++ [l]))

theorem silent_of_parse {f : Finder W} {query : String} (h : parse query = none) (w : W) :
    f.Silent query w (.ok []) := by
  constructor
  · simp only [find, run, h]
    rfl
  · simp only [findLabeled, run, h]
    rfl

theorem silent_of_resolve {f : Finder W} {query : String} {call : Call} {e : QueryError}
    (h : parse query = some call) (he : call.resolve f.store f.window = .error e) (w : W) :
    f.Silent query w (.error e) := by
  constructor
  · simp only [find, run, h, he]
    rfl
  · simp only [findLabeled, run, h, he]
    rfl

theorem run_noting (name : String) (ps : Params) (w : W) (log : List Lookup) :
    (c.noting.fetch name ps).run (w, log) =
      (((c.fetch name ps).run w).1, (((c.fetch name ps).run w).2, log ++ [⟨name, ps⟩])) := rfl

theorem run_of_resolve {query : String} {call : Call} {args : Arguments}
    (h : parse query = some call) (hargs : call.resolve store window = .ok args)
    (show_ : String → Json → List Suggestion) (w : W) (log : List Lookup) :
    ((⟨c.noting, store, window⟩ : Finder (W × List Lookup)).run show_ query).run (w, log) =
      (shown (show_ (call.form.lookup args).resource)
          ((c.fetch (call.form.lookup args).resource (call.form.lookup args).params).run w).1,
        (((c.fetch (call.form.lookup args).resource (call.form.lookup args).params).run w).2,
          log ++ [call.form.lookup args])) := by
  unfold run
  simp only [h, hargs]
  rw [StateT.run_bind, run_noting]
  cases hanswer :
      ((c.fetch (call.form.lookup args).resource (call.form.lookup args).params).run w).1 with
  | error e => rfl
  | ok reply => rfl

theorem asksOnce_of_resolve {query : String} {call : Call} {args : Arguments}
    (h : parse query = some call) (hargs : call.resolve store window = .ok args) (w : W)
    (log : List Lookup) : AsksOnce c store window query w log (call.form.lookup args) :=
  ⟨run_of_resolve h hargs project w log, run_of_resolve h hargs projectLabeled w log⟩

end Finder

/-- What a backend and the queries on it agree on: a query that is read and resolved makes one
    lookup, which the backend does not blame, and suggests all that it answers; any other query
    makes no lookup. -/
def Agree {W : Type} (b : AthenaBackend W) (store : Variable.Store) (window : Window)
    (query : String) (s : Session W) (log : List Lookup) : Prop :=
  let f : Finder (Session W × List Lookup) := ⟨b.resources.noting, store, window⟩
  (parse query = none → f.Silent query (s, log) (.ok [])) ∧
    ∀ call, parse query = some call →
      (∃ value reason, call.resolve store window = .error (.invalidArgument "limit" value reason) ∧
        f.Silent query (s, log) (.error (.invalidArgument "limit" value reason))) ∨
      ∃ args, call.resolve store window = .ok args ∧
        Finder.AsksOnce b.resources store window query s log (call.form.lookup args) ∧
        let answer := ((b.resources.fetch (call.form.lookup args).resource
          (call.form.lookup args).params).run s).1
        (∀ e, answer = .error e → ¬ e.BlamesLookup) ∧
          ∀ reply, answer = .ok reply → Answered (call.form.lookup args).resource reply

/-- **Queries and the backend agree.** -/
theorem queries_agree {W : Type} {b : AthenaBackend W} (hservice : b.athena.FailsByItself)
    (store : Variable.Store) {window : Window} (hstop : window.stop.Proper)
    (hlow : 0 ≤ window.stop.moment.date.year) (hhigh : window.stop.moment.date.year ≤ 9999)
    (query : String) (s : Session W) (log : List Lookup) :
    Agree b store window query s log := by
  let f : Finder (Session W × List Lookup) := ⟨b.resources.noting, store, window⟩
  refine ⟨fun h => Finder.silent_of_parse h _, fun call h => ?_⟩
  rcases call.resolve_cases store window with ⟨_, value, reason, herror, rfl⟩ | ⟨args, hargs, hsent⟩
  · exact .inl ⟨value, reason, herror, Finder.silent_of_resolve (f := f) h herror (s, log)⟩
  · have hlimit (hl : Sent.limit ∈ call.form.sent) :
        ∃ limit, (call.form.lookup args).params.limit = .ok limit := ⟨_, Form.limit_lookup hl⟩
    have hend (hs : Sent.stop ∈ call.form.sent) :
        ∃ stop, (call.form.lookup args).params.stop = .ok stop :=
      ⟨_, Form.stop_lookup hs (hsent hs) hstop hlow hhigh⟩
    obtain ⟨hfails, hanswers⟩ := fetch_form hservice hlimit hend s
    have honce := Finder.asksOnce_of_resolve (c := b.resources) h hargs s log
    refine .inr ⟨args, hargs, honce, hfails, fun reply hreply => ?_⟩
    obtain ⟨value, rfl, hvalue⟩ := hanswers reply hreply
    exact answered_of_fits call.form.shape?_resource hvalue

end Suggest

namespace Memory

def doneAt (id sql : String) (second : Int) : Execution :=
  { id := some id, sql := some sql, workGroup := some "primary"
    status := some { state := some "SUCCEEDED", completed := some ⟨second, 500000000⟩ } }

/-- A saved statement, an execution of it and one of another, later statement. -/
def dailyMemory : Memory :=
  { named := [(some "primary", ⟨"daily", "SELECT 1;"⟩)]
    executions := [doneAt "b" "SELECT 2" 200, doneAt "a" "SELECT 1" 100] }

def dailyWindow : Window := ⟨.epoch, ⟨86399, 1250000000⟩⟩

def dailyQuery : String := " query_execution_ids_by_name(default, $n, dai.*)"

/-- The execution of the saved statement is suggested. -/
theorem queries_agree_daily :
    athena.FailsByItself ∧ dailyWindow.stop.Proper ∧ 0 ≤ dailyWindow.stop.moment.date.year ∧
      dailyWindow.stop.moment.date.year ≤ 9999 ∧
      Suggest.Agree backend ⟨[("n", ["2"])]⟩ dailyWindow dailyQuery
        (.fresh backend.settings dailyMemory) [] ∧
      (((⟨backend.resources, ⟨[("n", ["2"])]⟩, dailyWindow⟩ : Suggest.Finder _).find dailyQuery).run
        (.fresh backend.settings dailyMemory)).1 = .ok [⟨"a", "a"⟩] := by
  have hstop : dailyWindow.stop.Proper := .inr ⟨by decide, by decide⟩
  have hlow : 0 ≤ dailyWindow.stop.moment.date.year := by decide
  have hhigh : dailyWindow.stop.moment.date.year ≤ 9999 := by decide
  exact ⟨failsByItself, hstop, hlow, hhigh,
    Suggest.queries_agree (b := backend) failsByItself _ hstop hlow hhigh _ _ _, by decide +kernel⟩

end Memory
end PanelSource
