import PanelSource.Wire.Param

/- Parameters by name.

   Setting a parameter changes what is found under its name and nothing else, so that the parameters
   of a list are the pairs of the list (`Params.get?_ofList`). -/
namespace PanelSource.Params

theorem get?_cons (n : String) (p : Param) (ps : Params) (k : String) :
    get? ((n, p) :: ps) k = if k = n then some p else ps.get? k := by
  rw [get?, List.lookup_cons]
  by_cases hk : k = n
  · rw [if_pos hk, beq_iff_eq.mpr hk]
  · rw [if_neg hk, beq_eq_false_iff_ne.mpr hk]
    rfl

theorem get?_set (name : String) (p : Param) (ps : Params) (k : String) :
    (set name p ps).get? k = if k = name then some p else ps.get? k := by
  induction ps with
  | nil => exact get?_cons name p [] k
  | cons x rest ih =>
    obtain ⟨n, q⟩ := x
    unfold set
    by_cases hname : name = n
    · rw [if_pos hname, get?_cons, get?_cons, hname]
      split
      · rfl
      · rfl
    · rw [if_neg hname]
      by_cases hlt : name < n
      · rw [if_pos hlt, get?_cons]
      · rw [if_neg hlt, get?_cons, get?_cons, ih]
        by_cases hk : k = n
        · rw [if_pos hk, if_pos hk, if_neg fun h => hname (h.symm.trans hk)]
        · rw [if_neg hk, if_neg hk]

theorem get?_eq_none {ps : Params} {k : String} (h : k ∉ ps.map (·.1)) : ps.get? k = none := by
  induction ps with
  | nil => rfl
  | cons x rest ih =>
    obtain ⟨n, q⟩ := x
    rw [List.map_cons, List.mem_cons, not_or] at h
    rw [get?_cons, if_neg h.1, ih h.2]

theorem get?_of_mem {ps : Params} (hnodup : (ps.map (·.1)).Nodup) {k : String} {p : Param}
    (h : (k, p) ∈ ps) : ps.get? k = some p := by
  induction ps with
  | nil => cases h
  | cons x rest ih =>
    obtain ⟨n, q⟩ := x
    rw [List.map_cons, List.nodup_cons] at hnodup
    rw [get?_cons]
    rcases List.mem_cons.mp h with heq | h
    · cases heq
      exact if_pos rfl
    · have hne : k ≠ n := fun hk => hnodup.1 (hk ▸ List.mem_map_of_mem (f := (·.1)) h)
      rw [if_neg hne, ih hnodup.2 h]

theorem get?_foldl_set {xs : Params} (hnodup : (xs.map (·.1)).Nodup) (ps : Params) (k : String) :
    (xs.foldl (fun ps x => set x.1 x.2 ps) ps).get? k = (xs.get? k).or (ps.get? k) := by
  induction xs generalizing ps with
  | nil => rfl
  | cons x xs ih =>
    obtain ⟨n, p⟩ := x
    rw [List.map_cons, List.nodup_cons] at hnodup
    rw [List.foldl_cons, ih hnodup.2, get?_set, get?_cons]
    by_cases hk : k = n
    · rw [if_pos hk, if_pos hk, get?_eq_none (hk ▸ hnodup.1)]
      rfl
    · rw [if_neg hk, if_neg hk]

theorem get?_ofList {xs : Params} (hnodup : (xs.map (·.1)).Nodup) (k : String) :
    (ofList xs).get? k = xs.get? k := by
  rw [ofList, get?_foldl_set hnodup]
  exact Option.or_none

end PanelSource.Params
