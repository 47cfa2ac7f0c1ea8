import Mathlib.Data.List.TakeWhile
import PanelSource.Http.Url
import PanelSource.Proofs.Http.Form

/- URLs of plain parts.

   A URL that is put together from a host and a path of characters that are sent as they are is read
   as that host and that path (`ofString?_path`), and a segment of such a path without percent signs
   means itself (`segmentText?_segment`). -/
namespace PanelSource.Http
open Text

/-! ## Hosts and segments -/

/-- A host, with its port if one is named. -/
structure IsHost (host : String) : Prop where
  ne_nil : host.toList ≠ []
  plain : ∀ c ∈ host.toList, c ≠ '/' ∧ c ≠ '?' ∧ c ≠ '#'

/-- A name that stands in a path as it is. -/
structure IsSegment (name : String) : Prop where
  ne_nil : name.toList ≠ []
  plain : ∀ c ∈ name.toList, isPathChar c = true ∧ c ≠ '%' ∧ c ≠ '/'

instance (host : String) : Decidable (IsHost host) :=
  decidable_of_iff (host.toList ≠ [] ∧ host.toList.all fun c => c ≠ '/' ∧ c ≠ '?' ∧ c ≠ '#')
    ⟨fun h => ⟨h.1, by simpa using h.2⟩, fun h => ⟨h.ne_nil, by simpa using h.plain⟩⟩

instance (name : String) : Decidable (IsSegment name) :=
  decidable_of_iff
    (name.toList ≠ [] ∧ name.toList.all fun c => isPathChar c = true ∧ c ≠ '%' ∧ c ≠ '/')
    ⟨fun h => ⟨h.1, by simpa using h.2⟩, fun h => ⟨h.ne_nil, by simpa using h.plain⟩⟩

/-! ## What is sent as it is -/

theorem encodePath_plain {cs : List Char} (h : ∀ c ∈ cs, isPathChar c = true) :
    encodePath cs = cs := by
  induction cs with
  | nil => rfl
  | cons c cs ih =>
    have hrest := ih fun d hd => h d (List.mem_cons_of_mem c hd)
    unfold encodePath percentEncode at hrest ⊢
    rw [List.flatMap_cons, if_pos (h c List.mem_cons_self), hrest]
    rfl

theorem percentDecode_octets {cs : List Char} (h : ∀ c ∈ cs, isPathChar c = true ∧ c ≠ '%') :
    percentDecode (octets cs) = octets cs := by
  induction cs with
  | nil => simp [octets, percentDecode]
  | cons c cs ih =>
    obtain ⟨hpath, hpercent⟩ := h c List.mem_cons_self
    have hascii : c.toNat < 0x80 := by
      simp only [isPathChar, Bool.and_eq_true, decide_eq_true_eq] at hpath
      omega
    have hoctets : octets (c :: cs) = UInt8.ofNat c.toNat :: octets cs := by
      rw [octets, List.flatMap_cons, encodeChar_ascii hascii]
      rfl
    rw [hoctets, percentDecode_plain (ofNat_ne hascii (by decide) hpercent),
      ih fun d hd => h d (List.mem_cons_of_mem c hd)]

theorem segmentText?_segment {name : String} (h : IsSegment name) :
    segmentText? name = some name := by
  rw [segmentText?, percentDecode_octets fun c hc => ⟨(h.plain c hc).1, (h.plain c hc).2.1⟩,
    ofOctets?_octets, Option.map_some, String.ofList_toList]

/-! ## URLs -/

theorem takeWhile_stop {p : Char → Bool} {front : List Char} (hfront : ∀ c ∈ front, p c = true)
    {d : Char} (hd : p d = false) (rest : List Char) :
    (front ++ d :: rest).takeWhile p = front := by
  rw [List.takeWhile_append_of_pos hfront, List.takeWhile_cons_of_neg (by simp [hd]),
    List.append_nil]

/-- A URL is read as the host and the path that it is put together from. -/
theorem ofString?_path {host path : String} (hhost : IsHost host)
    (hpath : ∀ c ∈ path.toList, isPathChar c = true) (hslash : path.toList.head? = some '/') :
    Url.ofString? ("http://" ++ host ++ path) = some ⟨host, path, none⟩ := by
  have hmark {d : Char} (hd : isPathChar d = false) : ∀ c ∈ path.toList, c ≠ d := by
    intro c hc heq
    rw [← heq, hpath c hc] at hd
    cases hd
  obtain ⟨target, htarget⟩ : ∃ target, path.toList = '/' :: target :=
    List.head?_eq_some_iff.mp hslash
  have htext : ("http://" ++ host ++ path).toList =
      'h' :: 't' :: 't' :: 'p' :: ':' :: '/' :: '/' :: (host.toList ++ path.toList) := by
    simp [String.toList_append]
  -- None of the marks that end a part is a character of the host or of the path.
  have hfragment : (host.toList ++ path.toList).takeWhile (· ≠ '#') =
      host.toList ++ path.toList := by
    refine List.takeWhile_eq_self_iff.mpr fun c hc => ?_
    rcases List.mem_append.mp hc with hc | hc
    · simpa using (hhost.plain c hc).2.2
    · simpa using hmark (d := '#') (by decide) c hc
  have hauthority : (host.toList ++ path.toList).takeWhile (fun c => c ≠ '/' && c ≠ '?') =
      host.toList := by
    rw [htarget]
    refine takeWhile_stop (fun c hc => ?_) (by decide) target
    simpa using ⟨(hhost.plain c hc).1, (hhost.plain c hc).2.1⟩
  have hquery : path.toList.takeWhile (· ≠ '?') = path.toList := by
    refine List.takeWhile_eq_self_iff.mpr fun c hc => ?_
    simpa using hmark (d := '?') (by decide) c hc
  have hempty : host.toList.isEmpty = false := by
    simpa using hhost.ne_nil
  have hrooted : path.toList.isEmpty = false := by
    rw [htarget]
    rfl
  unfold Url.ofString?
  simp only [htext, hfragment, hauthority, List.drop_left, hquery, List.drop_length, hempty,
    hrooted, encodePath_plain hpath, String.ofList_toList, if_false, Bool.false_eq_true]

@[simp] theorem addPairs_path (u : Url) (pairs : List (String × String)) :
    (u.addPairs pairs).path = u.path := by
  unfold Url.addPairs
  split <;> rfl

@[simp] theorem addPairs_authority (u : Url) (pairs : List (String × String)) :
    (u.addPairs pairs).authority = u.authority := by
  unfold Url.addPairs
  split <;> rfl

end PanelSource.Http
