import Mathlib.Algebra.Group.Nat.Defs
import PanelSource.Number.Binary64
import PanelSource.Proofs.Text.Strip

/- Numbers in decimal read back.

   Digits stand for a number by `Nat.ofDigitChars`, and every reader of digits computes it: with a
   bound (`readDigits_eq`), for a fixed number of digits (`scanDigits` in the calendar), or for all
   digits that are there, with or without a point (`readUnsigned_point`). So what `decimal`,
   `padded` and `signedDecimal` write is read back (`readInt64_signedDecimal`), zeros in front or
   not. -/
namespace PanelSource.Number

theorem ne_of_isDigit {c d : Char} (hc : c.isDigit = true) (hd : d.isDigit = false) : c ≠ d := by
  intro h
  rw [h, hd] at hc
  cases hc

def Digits (ds : List Char) : Prop := ∀ c ∈ ds, c.isDigit = true

theorem isDigit_of_mem_decimal {n : Nat} {c : Char} (h : c ∈ decimal n) : c.isDigit = true :=
  Nat.isDigit_of_mem_toDigits (by decide) (by decide) h

theorem digits_decimal (n : Nat) : Digits (decimal n) := fun _ => isDigit_of_mem_decimal

theorem decimal_ne_nil (n : Nat) : decimal n ≠ [] := Nat.toDigits_ne_nil

@[simp]
theorem ofDigitChars_decimal (n : Nat) : Nat.ofDigitChars 10 (decimal n) 0 = n :=
  Nat.ofDigitChars_ten_toDigits

theorem decimal_injective {m n : Nat} (h : decimal m = decimal n) : m = n :=
  calc
    m = Nat.ofDigitChars 10 (decimal m) 0 := (ofDigitChars_decimal m).symm
    _ = Nat.ofDigitChars 10 (decimal n) 0 := by rw [h]
    _ = n := ofDigitChars_decimal n

theorem minus_ne_decimal {n : Nat} {cs : List Char} : '-' :: cs ≠ decimal n := by
  intro h
  have hdigit := isDigit_of_mem_decimal (h ▸ List.mem_cons_self : '-' ∈ decimal n)
  exact absurd hdigit (by decide)

theorem signedDecimal_injective {i j : Int} (h : signedDecimal i = signedDecimal j) : i = j := by
  unfold signedDecimal at h
  split at h
  · split at h
    · have habs := decimal_injective (List.cons.inj h).2
      omega
    · exact absurd h minus_ne_decimal
  · split at h
    · exact absurd h.symm minus_ne_decimal
    · have habs := decimal_injective h
      omega

/-! ## Digits -/

theorem digitValue_of_isDigit {c : Char} (h : c.isDigit = true) :
    digitValue c = some (c.toNat - '0'.toNat) := by
  have hrange : '0' ≤ c ∧ c ≤ '9' := by simpa [Char.isDigit, Char.le_def] using h
  simp [digitValue, hrange]

theorem isDigit_eq (c : Char) : isDigit c = c.isDigit := by
  cases h : c.isDigit with
  | true => simp [isDigit, digitValue_of_isDigit h]
  | false =>
    have hrange : ¬ ('0' ≤ c ∧ c ≤ '9') := by
      intro ⟨hlow, hhigh⟩
      simp only [Char.le_def] at hlow hhigh
      simp [Char.isDigit, UInt32.le_iff_toNat_le] at h hlow hhigh
      omega
    simp [isDigit, digitValue, hrange]

theorem digitValue_eq_none {c : Char} (h : c.isDigit = false) : digitValue c = none := by
  have := isDigit_eq c
  rw [h] at this
  simpa [isDigit] using this

theorem le_ofDigitChars (ds : List Char) (n : Nat) : n ≤ Nat.ofDigitChars 10 ds n := by
  rw [Nat.ofDigitChars_eq_ofDigitChars_zero]
  have hpos : 0 < 10 ^ ds.length := Nat.pow_pos (by decide)
  exact Nat.le_trans (Nat.le_mul_of_pos_left n hpos) (Nat.le_add_right _ _)

theorem ofDigitChars_cons_digit (c : Char) (ds : List Char) (n : Nat) :
    Nat.ofDigitChars 10 (c :: ds) n = Nat.ofDigitChars 10 ds (n * 10 + (c.toNat - '0'.toNat)) := by
  rw [Nat.ofDigitChars_cons, Nat.mul_comm]

theorem digitsValue_eq {ds : List Char} (h : Digits ds) :
    digitsValue ds = Nat.ofDigitChars 10 ds 0 := by
  suffices hfrom : ∀ n, ds.foldl (fun n c => n * 10 + (digitValue c).getD 0) n =
      Nat.ofDigitChars 10 ds n from hfrom 0
  induction ds with
  | nil => intro n; simp
  | cons c ds ih =>
    intro n
    rw [List.foldl_cons, digitValue_of_isDigit (h c List.mem_cons_self), ofDigitChars_cons_digit]
    exact ih (fun d hd => h d (List.mem_cons_of_mem c hd)) _

/-- Digits up to the bound are read to their value. -/
theorem readDigits_eq {bound : Nat} {beyond : IntegerFault} {ds : List Char} {n : Nat}
    (h : Digits ds) (hle : Nat.ofDigitChars 10 ds n ≤ bound) :
    readDigits bound beyond n ds = .ok (Nat.ofDigitChars 10 ds n) := by
  induction ds generalizing n with
  | nil => simp [readDigits]
  | cons c ds ih =>
    rw [ofDigitChars_cons_digit] at hle ⊢
    have hnext : n * 10 + (c.toNat - '0'.toNat) ≤ bound := le_trans (le_ofDigitChars ds _) hle
    simp only [readDigits, digitValue_of_isDigit (h c List.mem_cons_self)]
    rw [if_neg (by omega)]
    exact ih (fun d hd => h d (List.mem_cons_of_mem c hd)) hle

/-- What is read is the value of digits, and it is in bounds. -/
theorem of_readDigits {bound : Nat} {beyond : IntegerFault} {ds : List Char} {acc n : Nat}
    (hacc : acc ≤ bound) (h : readDigits bound beyond acc ds = .ok n) :
    Digits ds ∧ n = Nat.ofDigitChars 10 ds acc ∧ n ≤ bound := by
  induction ds generalizing acc with
  | nil =>
    cases h
    exact ⟨by simp [Digits], by simp, hacc⟩
  | cons c ds ih =>
    rw [readDigits] at h
    cases hc : c.isDigit with
    | false =>
      rw [digitValue_eq_none hc] at h
      cases h
    | true =>
      rw [digitValue_of_isDigit hc] at h
      simp only at h
      split at h
      · cases h
      · rename_i hle
        obtain ⟨hds, hn, hbound⟩ := ih (Nat.le_of_not_lt hle) h
        exact ⟨List.forall_mem_cons.mpr ⟨hc, hds⟩, by rw [ofDigitChars_cons_digit, hn], hbound⟩

theorem readDigits_eq_ok_iff {bound : Nat} {beyond : IntegerFault} {ds : List Char} {n : Nat} :
    readDigits bound beyond 0 ds = .ok n ↔
      Digits ds ∧ n = Nat.ofDigitChars 10 ds 0 ∧ n ≤ bound := by
  constructor
  · exact of_readDigits (Nat.zero_le bound)
  · rintro ⟨hds, rfl, hle⟩
    exact readDigits_eq hds hle

theorem readDigits_other {bound : Nat} {beyond : IntegerFault} {ds rest : List Char} {c : Char}
    (hc : c.isDigit = false) (n : Nat) :
    (readDigits bound beyond n (ds ++ c :: rest)).toOption = none := by
  induction ds generalizing n with
  | nil => simp [readDigits, digitValue_eq_none hc, Except.toOption]
  | cons d ds ih =>
    rw [List.cons_append, readDigits]
    split
    · rfl
    · split
      · rfl
      · exact ih _

theorem readNatural_eq {bound : Nat} {cs : List Char} (hne : cs ≠ []) (hplus : ∀ r, cs ≠ '+' :: r) :
    readNatural bound cs = readDigits bound .tooLarge 0 cs := by
  unfold readNatural
  split
  · exact absurd rfl hne
  · exact absurd rfl (hplus [])
  · exact absurd rfl (hplus _)
  · rfl

/-- How a number without a minus sign is typed: in digits, which may have a plus sign in front. -/
inductive Typed : List Char → Nat → Prop
  | digits {ds : List Char} (hne : ds ≠ []) (h : Digits ds) : Typed ds (Nat.ofDigitChars 10 ds 0)
  | plus {ds : List Char} (hne : ds ≠ []) (h : Digits ds) :
      Typed ('+' :: ds) (Nat.ofDigitChars 10 ds 0)

theorem Typed.ne_nil {cs : List Char} {n : Nat} (h : Typed cs n) : cs ≠ [] := by
  cases h with
  | digits hne _ => exact hne
  | plus _ _ => exact List.cons_ne_nil _ _

theorem plus_notMem_digits {ds : List Char} (h : Digits ds) : '+' ∉ ds :=
  fun hmem => absurd (h '+' hmem) (by decide)

/-- A number is read if it is typed like that and in bounds, and nothing else is. -/
theorem readNatural_eq_ok_iff {bound n : Nat} {cs : List Char} :
    readNatural bound cs = .ok n ↔ Typed cs n ∧ n ≤ bound := by
  constructor
  · intro h
    unfold readNatural at h
    split at h
    · cases h
    · cases h
    · rename_i ds hne
      obtain ⟨hds, rfl, hle⟩ := readDigits_eq_ok_iff.mp h
      exact ⟨.plus (fun hnil => hne (hnil ▸ rfl)) hds, hle⟩
    · rename_i hne _ _
      obtain ⟨hds, rfl, hle⟩ := readDigits_eq_ok_iff.mp h
      exact ⟨.digits hne hds, hle⟩
  · rintro ⟨htyped, hle⟩
    cases htyped with
    | digits hne hds =>
      rw [readNatural_eq hne fun r hr => plus_notMem_digits hds (hr ▸ List.mem_cons_self)]
      exact readDigits_eq hds hle
    | @plus ds hne hds =>
      obtain ⟨c, r, rfl⟩ := List.exists_cons_of_ne_nil hne
      exact readDigits_eq hds hle

theorem takeWhile_digits {ds rest : List Char} (h : Digits ds)
    (hrest : ∀ c ∈ rest.head?, c.isDigit = false) : (ds ++ rest).takeWhile isDigit = ds := by
  have hds : ∀ c ∈ ds, isDigit c = true := fun c hc => by rw [isDigit_eq, h c hc]
  rw [List.takeWhile_append_of_pos hds]
  cases rest with
  | nil => simp
  | cons c rest => simp [isDigit_eq, hrest c rfl]

theorem dropWhile_digits {ds rest : List Char} (h : Digits ds)
    (hrest : ∀ c ∈ rest.head?, c.isDigit = false) : (ds ++ rest).dropWhile isDigit = rest := by
  have hds : ∀ c ∈ ds, isDigit c = true := fun c hc => by rw [isDigit_eq, h c hc]
  rw [List.dropWhile_append_of_pos hds]
  cases rest with
  | nil => rfl
  | cons c rest => simp [isDigit_eq, hrest c rfl]

/-! ## Numbers with a point -/

theorem not_isDigit_of_point {rest : List Char} (h : rest = [] ∨ ∃ t, rest = '.' :: t) :
    ∀ c ∈ rest.head?, c.isDigit = false := by
  rcases h with rfl | ⟨t, rfl⟩
  · simp
  · intro c hc
    obtain rfl : '.' = c := by simpa using hc
    rfl

theorem readUnsigned_digits {negative : Bool} {ds : List Char} (h : Digits ds) :
    readUnsigned negative ds =
      if ds = [] then none else some (.ofDecimal negative (Nat.ofDigitChars 10 ds 0) 0) := by
  have htake := @takeWhile_digits ds [] h (by simp)
  have hdrop := @dropWhile_digits ds [] h (by simp)
  rw [List.append_nil] at htake hdrop
  unfold readUnsigned
  simp [htake, hdrop, digitsValue_eq h]

/-- Digits around a point are read if there are any, and if no other point follows them. -/
theorem readUnsigned_point {negative : Bool} {ds fs rest : List Char} (hds : Digits ds)
    (hfs : Digits fs) (hrest : rest = [] ∨ ∃ t, rest = '.' :: t) :
    readUnsigned negative (ds ++ '.' :: (fs ++ rest)) =
      if ds = [] ∧ fs = [] ∨ rest ≠ [] then none
      else some (.ofDecimal negative (Nat.ofDigitChars 10 (ds ++ fs) 0) (-(fs.length : Int))) := by
  have hpoint : ∀ c ∈ ('.' :: (fs ++ rest)).head?, c.isDigit = false :=
    not_isDigit_of_point (.inr ⟨_, rfl⟩)
  have hboth : Digits (ds ++ fs) := List.forall_mem_append.mpr ⟨hds, hfs⟩
  unfold readUnsigned
  simp only [takeWhile_digits hds hpoint, dropWhile_digits hds hpoint,
    takeWhile_digits hfs (not_isDigit_of_point hrest),
    dropWhile_digits hfs (not_isDigit_of_point hrest)]
  rcases hrest with rfl | ⟨t, rfl⟩
  · simp [digitsValue_eq hboth]
  · simp

/-! ## Padded numbers -/

theorem digits_padded (width n : Nat) : Digits (padded width n) := by
  intro c hc
  rcases List.mem_append.mp hc with hc | hc
  · rw [List.eq_of_mem_replicate hc]
    decide
  · exact isDigit_of_mem_decimal hc

@[simp]
theorem ofDigitChars_padded (width n : Nat) : Nat.ofDigitChars 10 (padded width n) 0 = n := by
  simp [padded, Nat.ofDigitChars_append]

theorem length_padded {width n : Nat} (hwidth : 0 < width) (h : n < 10 ^ width) :
    (padded width n).length = width := by
  have hle : (decimal n).length ≤ width := (Nat.length_toDigits_le_iff (by decide) hwidth).mpr h
  simp only [padded, List.length_append, List.length_replicate]
  omega

theorem padded_ne_nil (width n : Nat) : padded width n ≠ [] := by
  simp [padded, decimal_ne_nil]

/-! ## Signed numbers -/

theorem readInt64_of_digits {n : Nat} {ds : List Char} (hds : decimal n = ds)
    (h : n ≤ twoTo 63 - 1) : readInt64 ds = .ok (n : Int) := by
  have hread : readDigits (twoTo 63 - 1) .tooLarge 0 ds = .ok n := by
    have hvalue : Nat.ofDigitChars 10 ds 0 = n := by rw [← hds, ofDigitChars_decimal]
    rw [readDigits_eq (hds ▸ digits_decimal n) (by omega), hvalue]
  have hplus : '+' ∉ ds := plus_notMem_digits (hds ▸ digits_decimal n)
  have hminus : '-' ∉ ds := fun hmem => absurd (isDigit_of_mem_decimal (hds ▸ hmem)) (by decide)
  unfold readInt64
  split
  · exact absurd hds (decimal_ne_nil n)
  · simp at hplus
  · simp at hminus
  · simp at hplus
  · simp at hminus
  · rw [hread]
    rfl

/-- **An integer of 64 bits is read back from its decimal text.** -/
theorem readInt64_signedDecimal {i : Int} (hmin : int64Min ≤ i) (hmax : i ≤ int64Max) :
    readInt64 (signedDecimal i) = .ok i := by
  have htwo : twoTo 63 = 9223372036854775808 := by decide
  simp only [int64Min, int64Max, htwo] at hmin hmax
  unfold signedDecimal
  split
  · -- Behind the sign stand digits, which are read with the bound of the negative numbers.
    have hread : readDigits (twoTo 63) .tooSmall 0 (decimal i.natAbs) = .ok i.natAbs := by
      rw [readDigits_eq (digits_decimal _) (by rw [ofDigitChars_decimal, htwo]; omega),
        ofDigitChars_decimal]
    unfold readInt64
    split
    · rename_i h
      simp at h
    · rename_i h
      simp at h
    · rename_i h
      simp [decimal_ne_nil] at h
    · rename_i h
      simp at h
    · rename_i h
      cases h
      rw [hread]
      show Except.ok (-(i.natAbs : Int)) = Except.ok i
      congr 1
      omega
    · rename_i h
      exact absurd rfl (h _)
  · rw [readInt64_of_digits rfl (by rw [htwo]; omega)]
    congr 1
    omega

theorem not_isBlank_of_isDigit {c : Char} (h : c.isDigit = true) : Text.isBlank c = false := by
  have hrange : 48 ≤ c.toNat ∧ c.toNat ≤ 57 := by
    simp only [Char.isDigit, Bool.and_eq_true, decide_eq_true_eq, UInt32.le_iff_toNat_le, ge_iff_le]
      at h
    exact h
  cases hb : Text.isBlank c with
  | false => rfl
  | true =>
    have hcode := Text.mem_blankCodes hb
    simp only [Text.blankCodes, List.mem_cons, List.not_mem_nil, or_false] at hcode
    omega

theorem bare_signedDecimal (i : Int) : Text.Bare (signedDecimal i) := by
  refine Text.bare_of_forall ?_ fun c hc => ?_
  · unfold signedDecimal
    split
    · exact List.cons_ne_nil _ _
    · exact decimal_ne_nil _
  · unfold signedDecimal at hc
    split at hc
    · rcases List.mem_cons.mp hc with rfl | hc
      · decide
      · exact not_isBlank_of_isDigit (isDigit_of_mem_decimal hc)
    · exact not_isBlank_of_isDigit (isDigit_of_mem_decimal hc)

end PanelSource.Number
