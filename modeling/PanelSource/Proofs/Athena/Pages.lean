import PanelSource.Athena.Protocol
import PanelSource.Proofs.Athena.Ending

/- Rows that come in pages.

   Pages are asked for by the token that the page before them gives (`Paged`), and none after the
   first one with which there is enough (`Asked`). The rows that are answered are those of all pages
   together without the very first one, cut to the limit, wherever one page ends and the next one
   begins (`results_of_pages`). -/
namespace PanelSource

/-- What a service answers page after page, from the one that a token names: each page with the
    token that it is asked for by. The last page names no next one. -/
inductive Paged {W P : Type} (ask : Option String → ServiceM W (Page P)) :
    Option String → W → List (Option String × P) → Prop
  | last {token : Option String} {w v : W} {content : P}
      (h : Ends (ask token) w (.ok ⟨content, none⟩) v) : Paged ask token w [(token, content)]
  | more {token : Option String} {next : String} {w v : W} {content : P}
      {pages : List (Option String × P)} (h : Ends (ask token) w (.ok ⟨content, some next⟩) v)
      (hrest : Paged ask (some next) v pages) : Paged ask token w ((token, content) :: pages)

/-- What asking for a page comes to, with the page at hand. -/
theorem ends_collect {W P A : Type} {ask : Option String → ServiceM W (Page P)}
    {add : A → P → Except AthenaError (A × Bool)} {k : Nat} {token : Option String} {done : A}
    {w v w' : W} {page : Page P} {r : Except AthenaError A} (h : Ends (ask token) w (.ok page) v) :
    Ends (collect ask add (k + 1) token done) w r w' ↔
      match add done page.content, page.next with
      | .error e, _ => r = .error e ∧ w' = v
      | .ok (done, true), _ => r = .ok done ∧ w' = v
      | .ok (done, false), none => r = .ok done ∧ w' = v
      | .ok (done, false), some next => Ends (collect ask add k (some next) done) v r w' := by
  obtain ⟨content, next⟩ := page
  refine (ends_bind_of_run h).trans ?_
  cases hadd : add done content with
  | error e => exact ends_iff_of_run rfl
  | ok added =>
    obtain ⟨done, enough⟩ := added
    cases enough with
    | true => exact ends_iff_of_run rfl
    | false =>
      cases next with
      | none => exact ends_iff_of_run rfl
      | some next => rfl

/-! ## What pages hold together -/

/-- The rows of a page; a page without a result has none. -/
def pageRows (page : Option ResultSet) : List (List (Option String)) :=
  (page.map (·.rows)).getD []

/-- The rows of pages without the very first one, which repeats the names of the columns. -/
def dataRows (pages : List (Option ResultSet)) : List (List (Option String)) :=
  (pages.flatMap pageRows).drop 1

/-- The columns of the first page that has any. -/
def pageColumns (pages : List (Option ResultSet)) : List ResultColumn :=
  ((pages.filterMap (·.map (·.columns))).find? fun columns => !columns.isEmpty).getD []

/-- Rows cut to a limit; a negative one leaves all of them. -/
def cutRows (maxRows : Int) (rows : List (List (Option String))) : List (List (Option String)) :=
  if maxRows < 0 then rows else rows.take maxRows.toNat

/-- After these pages no other is needed: one of them has no result, or there are as many rows as
    the limit leaves. -/
def Enough (maxRows : Int) (pages : List (Option ResultSet)) : Prop :=
  none ∈ pages ∨ (0 ≤ maxRows ∧ maxRows ≤ (dataRows pages).length)

/-- Of the pages that there are, those that are asked for: all of them, or all up to the first one
    with which there is enough. -/
structure Asked (maxRows : Int) (pages asked : List (Option ResultSet)) : Prop where
  front : asked <+: pages
  ne_nil : asked ≠ []
  needed : ∀ before, before <+: asked → before ≠ [] → Enough maxRows before → before = asked
  ends : asked = pages ∨ Enough maxRows asked

/-- What the asked pages come to, out of all that there are. -/
def pageResult (maxRows : Int) (pages asked : List (Option ResultSet)) :
    Except AthenaError ResultSet :=
  if none ∈ asked then .error (.parse "No ResultSet in response")
  else .ok ⟨pageColumns asked, cutRows maxRows (dataRows pages)⟩

section
variable {pages more : List (Option ResultSet)} {maxRows : Int}

theorem dataRows_append (h : pages.flatMap pageRows ≠ []) :
    dataRows (pages ++ more) = dataRows pages ++ more.flatMap pageRows := by
  have hlen : 1 ≤ (pages.flatMap pageRows).length := List.length_pos_iff.mpr h
  unfold dataRows
  rw [List.flatMap_append, List.drop_append_of_le_length hlen]

theorem pageColumns_concat (r : ResultSet) : pageColumns (pages ++ [some r]) =
    if (pageColumns pages).isEmpty then r.columns else pageColumns pages := by
  unfold pageColumns
  rw [List.filterMap_append, List.find?_append]
  cases hfound : (pages.filterMap (·.map (·.columns))).find? fun columns => !columns.isEmpty with
  | none => cases hcolumns : r.columns <;> simp [hcolumns]
  | some columns =>
    have hsome := List.find?_some hfound
    simp only [Bool.not_eq_true'] at hsome
    simp [hsome]

theorem cutRows_of_prefix {rows all : List (List (Option String))} (h : rows <+: all)
    (hlow : 0 ≤ maxRows) (hmany : maxRows ≤ rows.length) :
    cutRows maxRows all = rows.take maxRows.toNat := by
  obtain ⟨rest, rfl⟩ := h
  have hlen : maxRows.toNat ≤ rows.length := by omega
  unfold cutRows
  rw [if_neg (Int.not_lt.mpr hlow), List.take_append_of_le_length hlen]

theorem cutRows_of_few {rows : List (List (Option String))}
    (h : ¬ (0 ≤ maxRows ∧ maxRows ≤ rows.length)) : cutRows maxRows rows = rows := by
  unfold cutRows
  split
  · rfl
  · exact List.take_of_length_le (by omega)

/-- Pages that have come and are not enough, the first of them with the names of the columns. -/
structure GoesOn (maxRows : Int) (front : List (Option ResultSet)) : Prop where
  needed : ∀ before, before <+: front → before ≠ [] → ¬ Enough maxRows before
  header : front ≠ [] → front.flatMap pageRows ≠ []

theorem goesOn_nil : GoesOn maxRows [] :=
  ⟨fun _ hbefore hne _ => hne (List.prefix_nil.mp hbefore), fun h => absurd rfl h⟩

theorem GoesOn.none_not_mem {front : List (Option ResultSet)} (h : GoesOn maxRows front) :
    none ∉ front := by
  intro hnone
  exact h.needed front List.prefix_rfl (List.ne_nil_of_mem hnone) (.inl hnone)

theorem GoesOn.asked {front more : List (Option ResultSet)} (h : GoesOn maxRows front)
    {page : Option ResultSet} (hends : more = [] ∨ Enough maxRows (front ++ [page])) :
    Asked maxRows (front ++ page :: more) (front ++ [page]) := by
  refine ⟨⟨more, by simp⟩, by simp, fun before hbefore hne henough => ?_, ?_⟩
  · rcases List.prefix_concat_iff.mp hbefore with heq | hbefore
    · exact heq
    · exact absurd henough (h.needed before hbefore hne)
  · exact hends.imp_left fun h => by rw [h]

theorem GoesOn.header_concat {front : List (Option ResultSet)} (h : GoesOn maxRows front)
    {r : ResultSet} (hheader : front = [] → r.rows ≠ []) :
    (front ++ [some r]).flatMap pageRows ≠ [] := by
  rw [List.flatMap_append]
  by_cases hfront : front = []
  · simpa [hfront, pageRows] using hheader hfront
  · exact List.append_ne_nil_of_left_ne_nil (h.header hfront) _

theorem GoesOn.concat {front : List (Option ResultSet)} (h : GoesOn maxRows front)
    {r : ResultSet} (hheader : front = [] → r.rows ≠ [])
    (hfew : ¬ Enough maxRows (front ++ [some r])) : GoesOn maxRows (front ++ [some r]) := by
  refine ⟨fun before hbefore hne => ?_, fun _ => h.header_concat hheader⟩
  rcases List.prefix_concat_iff.mp hbefore with rfl | hbefore
  · exact hfew
  · exact h.needed before hbefore hne

/-- What pages come to with the last one that is asked for. -/
theorem GoesOn.pageResult_concat {front more : List (Option ResultSet)}
    (h : GoesOn maxRows front) {r : ResultSet} (hheader : front = [] → r.rows ≠ [])
    (hends : more = [] ∨ Enough maxRows (front ++ [some r])) :
    pageResult maxRows (front ++ some r :: more) (front ++ [some r]) =
      .ok ⟨pageColumns (front ++ [some r]),
        if 0 ≤ maxRows ∧ maxRows ≤ (dataRows (front ++ [some r])).length then
          (dataRows (front ++ [some r])).take maxRows.toNat
        else dataRows (front ++ [some r])⟩ := by
  have hresult : none ∉ front ++ [some r] := by simpa using h.none_not_mem
  have hall : dataRows (front ++ some r :: more) =
      dataRows (front ++ [some r]) ++ more.flatMap pageRows := by
    rw [List.append_cons, dataRows_append (h.header_concat hheader)]
  have hrows : cutRows maxRows (dataRows (front ++ some r :: more)) =
      if 0 ≤ maxRows ∧ maxRows ≤ (dataRows (front ++ [some r])).length then
        (dataRows (front ++ [some r])).take maxRows.toNat
      else dataRows (front ++ [some r]) := by
    by_cases hmany : 0 ≤ maxRows ∧ maxRows ≤ (dataRows (front ++ [some r])).length
    · rw [if_pos hmany]
      exact cutRows_of_prefix (hall ▸ List.prefix_append _ _) hmany.1 hmany.2
    · rw [if_neg hmany]
      rcases hends with rfl | hnone | henough
      · exact cutRows_of_few hmany
      · exact absurd hnone hresult
      · exact absurd henough hmany
  rw [pageResult, if_neg hresult, hrows]

section
variable {front : List (Option ResultSet)} {token : Option String} {r : ResultSet}
  (h : GoesOn maxRows front) (htoken : token.isNone ↔ front = [])
include h htoken

/-- The rows of one more page come after those that are there; only the first page has a row that
    is none. -/
theorem dataRows_concat :
    dataRows (front ++ [some r]) = dataRows front ++ (dropHeader token r).rows := by
  by_cases hfront : front = []
  · have hfirst := htoken.mpr hfront
    subst hfront
    simp [dataRows, pageRows, dropHeader, hfirst]
  · have hlater : ¬ token.isNone := fun h => hfront (htoken.mp h)
    rw [dataRows_append (h.header hfront), dropHeader, if_neg hlater]
    simp [pageRows]

theorem addRows_page :
    addRows maxRows ⟨pageColumns front, dataRows front⟩ (some (dropHeader token r)) =
      if 0 ≤ maxRows ∧ maxRows ≤ (dataRows (front ++ [some r])).length then
        .ok (⟨pageColumns (front ++ [some r]),
          (dataRows (front ++ [some r])).take maxRows.toNat⟩, true)
      else .ok (⟨pageColumns (front ++ [some r]), dataRows (front ++ [some r])⟩, false) := by
  have hcolumns : (dropHeader token r).columns = r.columns := by
    unfold dropHeader
    split
    · rfl
    · rfl
  unfold addRows
  simp only [hcolumns, dataRows_concat h htoken, pageColumns_concat]

end

end

/-! ## Asking for them -/

namespace AthenaEndpoint
open AthenaReply
variable {W : Type} {e : AthenaEndpoint W} {id : String} {token : Option String} {w v : W}

/-- An endpoint with what is sent noted, the first request first. -/
def noting (e : AthenaEndpoint W) : AthenaEndpoint (W × List (String × Json)) where
  send action body := ExceptT.mk fun w =>
    let (answer, v) := (e.send action body).run w.1
    (answer, (v, w.2 ++ [(action, body)]))
  pageLimit := e.pageLimit

variable (e) in
def rowsPage (id : String) : Option String → ServiceM W (Page (Option ResultSet)) :=
  e.page "GetQueryResults" [("QueryExecutionId", some (.string id))] (member "ResultSet" resultSet)

def rowsRequest (id : String) (token : Option String) : String × Json :=
  ("GetQueryResults", .objectOfSome [("QueryExecutionId", some (.string id)),
    ("NextToken", token.map .string)])

theorem ends_call_ok {α : Type} {action : String} {body : List (String × Option Json)}
    {read : Json → Except AthenaError α} {a : α} : Ends (e.call action body read) w (.ok a) v ↔
      ∃ reply, Ends (e.send action (.objectOfSome body)) w (.ok reply) v ∧
        object read reply = .ok (some a) := by
  unfold call
  rw [ends_ok_bind]
  constructor
  · rintro ⟨reply, v', hsend, h⟩
    obtain ⟨answer, _, hanswer, h⟩ := ends_ok_bind.mp h
    obtain ⟨hread, rfl⟩ := ends_mk.mp hanswer
    cases answer with
    | none => cases (ends_throw.mp h).1
    | some a' =>
      obtain ⟨ha, rfl⟩ := ends_pure.mp h
      cases ha
      exact ⟨reply, hsend, hread.symm⟩
  · rintro ⟨reply, hsend, hread⟩
    refine ⟨reply, v, hsend, ?_⟩
    rw [hread]
    exact rfl

/-- Asking for a page of rows sends one request. -/
theorem ends_noting_resultPage {content : Option ResultSet} {next : Option String}
    (h : Ends (e.rowsPage id token) w (.ok ⟨content, next⟩) v) (log : List (String × Json)) :
    Ends (e.noting.resultPage id token) (w, log) (.ok ⟨content.map (dropHeader token), next⟩)
      (v, log ++ [rowsRequest id token]) := by
  obtain ⟨reply, hsend, hread⟩ := ends_call_ok.mp h
  have hnoted : Ends (e.noting.send "GetQueryResults" (rowsRequest id token).2) (w, log)
      (.ok reply) (v, log ++ [rowsRequest id token]) := by
    have hsend : (e.send "GetQueryResults" (rowsRequest id token).2).run w = (.ok reply, v) := hsend
    show (((e.send "GetQueryResults" (rowsRequest id token).2).run w).1,
      ((e.send "GetQueryResults" (rowsRequest id token).2).run w).2,
        log ++ [rowsRequest id token]) = _
    rw [hsend]
  have hpage : Ends (e.noting.rowsPage id token) (w, log) (.ok ⟨content, next⟩)
      (v, log ++ [rowsRequest id token]) := ends_call_ok.mpr ⟨reply, hnoted, hread⟩
  exact ends_ok_bind.mpr ⟨_, _, hpage, rfl⟩

section
variable {maxRows : Int} {front : List (Option ResultSet)} (hfront : GoesOn maxRows front)
  (htoken : token.isNone ↔ front = [])
include hfront htoken

/-- The last page that is asked for: there is no next one, or there is enough with it. -/
theorem ends_collect_last {content : Option ResultSet} {next : Option String}
    (h : Ends (e.rowsPage id token) w (.ok ⟨content, next⟩) v) {more : List (Option ResultSet)}
    (hheader : front = [] → ∀ r, content = some r → r.rows ≠ [])
    (hends : (next = none ∧ more = []) ∨ Enough maxRows (front ++ [content])) (k : Nat)
    (log : List (String × Json)) :
    Ends (collect (e.noting.resultPage id) (addRows maxRows) (k + 1) token
        ⟨pageColumns front, dataRows front⟩) (w, log)
      (pageResult maxRows (front ++ content :: more) (front ++ [content]))
      (v, log ++ [rowsRequest id token]) := by
  refine (ends_collect (ends_noting_resultPage h log)).mpr ?_
  cases content with
  | none =>
    refine ⟨?_, rfl⟩
    rw [pageResult, if_pos (List.mem_append_right _ List.mem_cons_self)]
  | some r =>
    have hresult := hfront.pageResult_concat (fun hnil => hheader hnil r rfl)
      (hends.imp_left And.right)
    simp only [Option.map_some, addRows_page hfront htoken]
    -- Enough rows end the loop whether or not there is a next page.
    by_cases hmany : 0 ≤ maxRows ∧ maxRows ≤ (dataRows (front ++ [some r])).length
    · rw [if_pos hmany]
      rw [if_pos hmany] at hresult
      exact ⟨hresult, trivial⟩
    · rw [if_neg hmany]
      rw [if_neg hmany] at hresult
      rcases hends with ⟨rfl, -⟩ | hnone | henough
      · exact ⟨hresult, trivial⟩
      · exact absurd hnone (by simpa using hfront.none_not_mem)
      · exact absurd henough hmany

end

/-- Pages are asked for from where others have come that are not enough. -/
theorem ends_collect_pages {maxRows : Int} {pages : List (Option String × Option ResultSet)}
    (hpages : Paged (e.rowsPage id) token w pages) {front : List (Option ResultSet)}
    (hfront : GoesOn maxRows front) (htoken : token.isNone ↔ front = [])
    (hheader : front = [] → ∀ r, (pages.map (·.2)).head? = some (some r) → r.rows ≠ []) {k : Nat}
    (hk : pages.length ≤ k) (log : List (String × Json)) :
    ∃ asked v, asked <+: pages ∧
      Asked maxRows (front ++ pages.map (·.2)) (front ++ asked.map (·.2)) ∧
      Ends (collect (e.noting.resultPage id) (addRows maxRows) k token
          ⟨pageColumns front, dataRows front⟩) (w, log)
        (pageResult maxRows (front ++ pages.map (·.2)) (front ++ asked.map (·.2)))
        (v, log ++ asked.map fun page => rowsRequest id page.1) := by
  -- What is added up is what the pages in front hold together, and they are not enough yet.
  induction hpages generalizing front k log with
  | @last token w v content h =>
    obtain ⟨k, rfl⟩ := Nat.exists_eq_add_of_le' hk
    refine ⟨[(token, content)], v, List.prefix_rfl, hfront.asked (.inl rfl), ?_⟩
    exact ends_collect_last hfront htoken h (fun hnil r hr => hheader hnil r (by rw [hr]; rfl))
      (.inl ⟨rfl, rfl⟩) k log
  | @more token next w v content pages h hrest ih =>
    obtain ⟨k, rfl⟩ := Nat.exists_eq_add_of_le' (Nat.le_of_add_left_le hk)
    have hfirst : front = [] → ∀ r, content = some r → r.rows ≠ [] :=
      fun hnil r hr => hheader hnil r (by rw [hr]; rfl)
    -- This page is the last one that is asked for, or it belongs to the front from here on.
    by_cases henough : Enough maxRows (front ++ [content])
    · refine ⟨[(token, content)], v, ⟨pages, rfl⟩, hfront.asked (.inr henough), ?_⟩
      exact ends_collect_last hfront htoken h hfirst (.inr henough) k log
    · cases content with
      | none => exact absurd (.inl (List.mem_append_right _ List.mem_cons_self)) henough
      | some r =>
        have hgoes := hfront.concat (fun hnil => hfirst hnil r rfl) henough
        have hfew : ¬ (0 ≤ maxRows ∧ maxRows ≤ (dataRows (front ++ [some r])).length) :=
          fun hmany => henough (.inr hmany)
        obtain ⟨asked, v', hprefix, hasked, hends⟩ := ih hgoes (by simp) (by simp)
          (k := k) (by simpa using hk) (log ++ [rowsRequest id token])
        refine ⟨(token, some r) :: asked, v', (List.prefix_cons_inj _).mpr hprefix, ?_, ?_⟩
        · simpa using hasked
        · refine (ends_collect (ends_noting_resultPage h log)).mpr ?_
          simp only [Option.map_some, addRows_page hfront htoken, if_neg hfew]
          simpa using hends

/-- **Where one page ends and the next one begins makes no difference.** A service has pages of
    rows, the first of which begins with the names of the columns, and the endpoint may ask for so
    many. Then pages are asked for one by one, each by the token that the page before it gives, up
    to the first one without a result or with which there are as many rows as the limit leaves.
    A page without a result makes the call fail. Otherwise the rows are those of all pages together
    without the very first one, cut to the limit, and the columns are those of the first page asked
    for that has any. -/
theorem results_of_pages {pages : List (Option String × Option ResultSet)}
    (h : Paged (e.rowsPage id) none w pages) (hlimit : pages.length ≤ e.pageLimit)
    (hheader : ∀ r, (pages.map (·.2)).head? = some (some r) → r.rows ≠ []) (maxRows : Int)
    (log : List (String × Json)) :
    ∃ asked v, asked <+: pages ∧ Asked maxRows (pages.map (·.2)) (asked.map (·.2)) ∧
      Ends (e.noting.results id maxRows) (w, log)
        (pageResult maxRows (pages.map (·.2)) (asked.map (·.2)))
        (v, log ++ asked.map fun page => rowsRequest id page.1) :=
  ends_collect_pages h goesOn_nil (by simp) (fun _ => hheader) hlimit log

/-- An endpoint that answers with the replies at hand, one after the other. -/
def replying : AthenaEndpoint (List Json) where
  send _ _ := ExceptT.mk fun
    | [] => (.error (.service "no reply"), [])
    | reply :: rest => (.ok reply, rest)

/-- The reply with a page of rows of one cell each. -/
def rowsReply (columns cells : List String) (next : Option String) : Json :=
  let row cell := Json.object [("Data", .array [.object [("VarCharValue", .string cell)]])]
  let column name := Json.object [("Name", .string name), ("Type", .string "varchar")]
  .objectOfSome
    [("ResultSet", some (.object
      [("ResultSetMetadata", .object [("ColumnInfo", .array (columns.map column))]),
        ("Rows", .array (cells.map row))])),
      ("NextToken", next.map .string)]

def rowsPageOf (columns cells : List String) : Option ResultSet :=
  some ⟨columns.map fun name => ⟨name, "varchar"⟩, cells.map fun cell => [some cell]⟩

/-- Three pages: the names of the columns come on the second one, and the third one has more rows
    than are asked for. -/
def threeReplies : List Json :=
  [rowsReply [] ["v"] (some "b"), rowsReply ["v"] ["1", "2"] (some "c"), rowsReply ["v"] ["3"] none]

def threePages : List (Option String × Option ResultSet) :=
  [(none, rowsPageOf [] ["v"]), (some "b", rowsPageOf ["v"] ["1", "2"]),
    (some "c", rowsPageOf ["v"] ["3"])]

theorem paged_three : Paged (replying.rowsPage "q") none threeReplies threePages :=
  .more rfl (.more rfl (.last rfl))

/-- Two rows are answered from two of the three pages. -/
theorem results_of_pages_three :
    Paged (replying.rowsPage "q") none threeReplies threePages ∧
      threePages.length ≤ replying.pageLimit ∧
      (∀ r, (threePages.map (·.2)).head? = some (some r) → r.rows ≠ []) ∧
      (∃ (asked : List (Option String × Option ResultSet)) (v : List Json),
        Asked 2 (threePages.map (·.2)) (asked.map (·.2)) ∧
        Ends (replying.noting.results "q" 2) (threeReplies, [])
          (pageResult 2 (threePages.map (·.2)) (asked.map (·.2)))
          (v, asked.map fun page => rowsRequest "q" page.1)) ∧
      ((replying.noting.results "q" 2).run (threeReplies, [])).1 =
        .ok ⟨[⟨"v", "varchar"⟩], [[some "1"], [some "2"]]⟩ := by
  have hlimit : threePages.length ≤ replying.pageLimit := by decide +kernel
  have hheader : ∀ r, (threePages.map (·.2)).head? = some (some r) → r.rows ≠ [] := by
    intro r hr
    cases hr
    decide
  obtain ⟨asked, v, -, hasked, hends⟩ := results_of_pages paged_three hlimit hheader 2 []
  exact ⟨paged_three, hlimit, hheader, ⟨asked, v, hasked, hends⟩, rfl⟩

end AthenaEndpoint
end PanelSource
