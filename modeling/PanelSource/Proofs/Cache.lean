import PanelSource.Cache

/- What a cache may hold.

   Reading takes nothing in, and what is inserted under a key is all that is new. So a property of
   entries is kept by every read, by every eviction, and by every insertion of a value that has
   it. A new entry lives for the time that is asked for, and for 365 days at most. -/
namespace PanelSource.Cache
variable {α : Type} {c : Cache α} {now : Nat} {key : String}

/-- The nanoseconds of 365 days. -/
def year : Nat := 365 * 24 * 60 * 60 * 1000000000

theorem lifetime_eq (ttl : Span) : lifetime ttl = min ttl.total year := rfl

theorem isZero_iff (ttl : Span) : ttl.isZero = true ↔ ttl.total = 0 := by
  unfold Span.isZero
  exact beq_iff_eq

theorem find?_mem {e : CacheEntry α} (h : c.find? key = some e) : e ∈ c.entries ∧ e.key = key :=
  ⟨List.mem_of_find?_eq_some h, by simpa using List.find?_some h⟩

theorem others_subset (c : Cache α) (key : String) : c.others key ⊆ c.entries := by
  intro e he
  exact (List.mem_filter.mp he).1

theorem get_subset (c : Cache α) (now : Nat) (key : String) :
    (c.get now key).2.entries ⊆ c.entries := by
  unfold get
  cases h : c.find? key with
  | none => exact fun _ he => he
  | some e =>
    simp only
    split
    · exact List.cons_subset.mpr ⟨(find?_mem h).1, c.others_subset key⟩
    · exact c.others_subset key

/-- What is read was kept under the key, and is alive. -/
theorem get_eq_some {a : α} (h : (c.get now key).1 = some a) :
    ∃ e ∈ c.entries, e.key = key ∧ e.value = a ∧ now < e.expires := by
  unfold get at h
  cases he : c.find? key with
  | none =>
    rw [he] at h
    cases h
  | some e =>
    rw [he] at h
    simp only at h
    split at h
    · cases h
      exact ⟨e, (find?_mem he).1, (find?_mem he).2, rfl, by assumption⟩
    · cases h

/-- A read in vain leaves nothing under the key. -/
theorem get_eq_none (h : (c.get now key).1 = none) {e : CacheEntry α}
    (he : e ∈ (c.get now key).2.entries) : e ∈ c.entries ∧ e.key ≠ key := by
  unfold get at h he
  cases hfind : c.find? key with
  | none =>
    rw [hfind] at he
    have hkey := List.find?_eq_none.mp hfind e he
    exact ⟨he, by simpa using hkey⟩
  | some found =>
    rw [hfind] at h he
    simp only at h he
    split at h
    · cases h
    · rw [if_neg (by assumption)] at he
      obtain ⟨hmem, hkey⟩ := List.mem_filter.mp he
      exact ⟨hmem, by simpa using hkey⟩

theorem exists_find? {e : CacheEntry α} (he : e ∈ c.entries) :
    ∃ found, c.find? e.key = some found := by
  rw [← Option.isSome_iff_exists]
  unfold find?
  rw [List.find?_isSome]
  exact ⟨e, he, beq_self_eq_true _⟩

theorem dead_of_get_eq_none (h : (c.get now key).1 = none) {e : CacheEntry α}
    (he : c.find? key = some e) : ¬ now < e.expires := by
  unfold get at h
  rw [he] at h
  simp only at h
  split at h
  · cases h
  · assumption

/-- What is read is still there. -/
theorem get_leaves {a : α} (h : (c.get now key).1 = some a) :
    ∃ e ∈ (c.get now key).2.entries, e.key = key ∧ e.value = a := by
  unfold get at h ⊢
  cases hfind : c.find? key with
  | none =>
    rw [hfind] at h
    cases h
  | some e =>
    rw [hfind] at h
    simp only at h ⊢
    split at h
    · cases h
      rw [if_pos (by assumption)]
      exact ⟨e, List.mem_cons_self, (find?_mem hfind).2, rfl⟩
    · cases h

/-- What a read leaves under its key is alive. -/
theorem get_alive {e : CacheEntry α} (he : e ∈ (c.get now key).2.entries) (hkey : e.key = key) :
    now < e.expires := by
  have hothers : e ∉ c.others key := by
    intro h
    have hne := (List.mem_filter.mp h).2
    simp [hkey] at hne
  unfold get at he
  cases hfind : c.find? key with
  | none =>
    rw [hfind] at he
    exact absurd hkey (by simpa using List.find?_eq_none.mp hfind e he)
  | some found =>
    rw [hfind] at he
    simp only at he
    split at he
    · rcases List.mem_cons.mp he with rfl | he
      · assumption
      · exact absurd he hothers
    · exact absurd he hothers

theorem insert_of_isZero {ttl : Span} (h : ttl.isZero) (a : α) : c.insert now key a ttl = c :=
  if_pos h

/-- What is in a cache after an insertion was inserted or was in it before. -/
theorem mem_insert {a : α} {ttl : Span} {e : CacheEntry α}
    (h : e ∈ (c.insert now key a ttl).entries) :
    e ∈ c.entries ∨ (e.key = key ∧ e.value = a ∧ e.expires = now + min ttl.total year) := by
  unfold insert at h
  split at h
  · exact .inl h
  · rcases List.mem_cons.mp (List.mem_of_mem_take h) with rfl | h
    · exact .inr ⟨rfl, rfl, rfl⟩
    · exact .inl (c.others_subset key h)

end PanelSource.Cache
