import Mathlib.Data.Nat.Log
import Mathlib.Tactic.Ring
import PanelSource.Proofs.Number.Decimal

/- Natural numbers that doubles hold.

   A natural number of 53 bits times a power of two is a double. Rounding a quotient that is such a
   number gives that number (`isNat_ofRatio`), so that reading its decimal digits does
   (`isNat_ofDecimal`), and a product that is such a number is not rounded (`IsNat.mul`). -/
namespace PanelSource.Number

/-- A number of at most 53 bits times a power of two. -/
def Exact (n : Nat) : Prop := ∃ c k, c < 2 ^ 53 ∧ n = c * 2 ^ k

/-- All numbers up to 2^53 are exact. -/
theorem exact_of_le {n : Nat} (h : n ≤ 2 ^ 53) : Exact n := by
  by_cases hn : n < 2 ^ 53
  · exact ⟨n, 0, hn, by simp⟩
  · exact ⟨1, 53, by decide, by omega⟩

theorem roundHalfEven_mul {m d : Nat} (hd : 0 < d) : roundHalfEven (m * d) d = m := by
  have hno : ¬ (d < 2 * (m * d % d) ∨ 2 * (m * d % d) = d ∧ m * d / d % 2 = 1) := by
    simp only [Nat.mul_mod_left]
    omega
  unfold roundHalfEven
  rw [if_neg hno, Nat.mul_div_cancel m hd]

namespace Binary64

/-- A double that is a natural number. -/
def IsNat (x : Binary64) (n : Nat) : Prop :=
  ∃ m q, x = .finite false m q ∧ m * 2 ^ q.toNat = n * 2 ^ (-q).toNat

theorem ratio_eq (m : Nat) (q : Int) : ratio m q = (m * 2 ^ q.toNat, 2 ^ (-q).toNat) := by
  unfold ratio
  split
  · rename_i h
    have hzero : q.toNat = 0 := by omega
    have habs : q.natAbs = (-q).toNat := by omega
    rw [hzero, habs, Nat.pow_zero, Nat.mul_one]
    rfl
  · rename_i h
    have hzero : (-q).toNat = 0 := by omega
    have habs : q.natAbs = q.toNat := by omega
    rw [hzero, habs, Nat.pow_zero]
    rfl

theorem scaled_eq (num den : Nat) (q : Int) :
    scaled num den q = (num * 2 ^ (-q).toNat, den * 2 ^ q.toNat) := by
  unfold scaled
  split
  · rename_i h
    have hzero : q.toNat = 0 := by omega
    have habs : q.natAbs = (-q).toNat := by omega
    rw [hzero, habs, Nat.pow_zero, Nat.mul_one]
    rfl
  · rename_i h
    have hzero : (-q).toNat = 0 := by omega
    have habs : q.natAbs = q.toNat := by omega
    rw [hzero, habs, Nat.pow_zero, Nat.mul_one]
    rfl

theorem log2_mul_pow {n : Nat} (hn : n ≠ 0) (k : Nat) : (n * 2 ^ k).log2 = n.log2 + k := by
  have hne : n * 2 ^ k ≠ 0 := Nat.mul_ne_zero hn (Nat.two_pow_pos k).ne'
  rw [Nat.log2_eq_iff hne]
  constructor
  · rw [Nat.pow_add]
    exact Nat.mul_le_mul_right _ (Nat.log2_self_le hn)
  · have hlt : n < 2 ^ (n.log2 + 1) := Nat.lt_log2_self
    calc
      n * 2 ^ k < 2 ^ (n.log2 + 1) * 2 ^ k := Nat.mul_lt_mul_of_pos_right hlt (Nat.two_pow_pos k)
      _ = 2 ^ (n.log2 + k + 1) := by rw [← Nat.pow_add]; congr 1; omega

/-- A number at the scale of its significand: an integer, with 53 bits if the number is exact. -/
theorem exists_significand {n : Nat} (hexact : Exact n) (hn : n ≠ 0) :
    ∃ m, n * 2 ^ (52 - n.log2) = m * 2 ^ (n.log2 - 52) ∧ 2 ^ 52 ≤ m ∧ m < 2 ^ 53 := by
  obtain ⟨m, hm⟩ : ∃ m, n * 2 ^ (52 - n.log2) = m * 2 ^ (n.log2 - 52) := by
    by_cases hlog : n.log2 ≤ 52
    · have hzero : n.log2 - 52 = 0 := by omega
      exact ⟨n * 2 ^ (52 - n.log2), by rw [hzero, Nat.pow_zero, Nat.mul_one]⟩
    · -- A number with more bits has as many factors of two as it has bits beyond 53.
      obtain ⟨c, k, hc, rfl⟩ := hexact
      have hcne : c ≠ 0 := by
        intro h
        simp [h] at hn
      have hbits : (c * 2 ^ k).log2 = c.log2 + k := log2_mul_pow hcne k
      have hclog : c.log2 < 53 := (Nat.log2_lt hcne).mpr hc
      have hzero : 52 - (c * 2 ^ k).log2 = 0 := by omega
      refine ⟨c * 2 ^ (k - ((c * 2 ^ k).log2 - 52)), ?_⟩
      rw [hzero, Nat.pow_zero, Nat.mul_one, Nat.mul_assoc, ← Nat.pow_add]
      congr 2
      omega
  have hlow : 2 ^ n.log2 ≤ n := Nat.log2_self_le hn
  have hhigh : n < 2 ^ (n.log2 + 1) := Nat.lt_log2_self
  refine ⟨m, hm, ?_, ?_⟩
  · refine Nat.le_of_mul_le_mul_right ?_ (Nat.two_pow_pos (n.log2 - 52))
    calc
      2 ^ 52 * 2 ^ (n.log2 - 52) = 2 ^ n.log2 * 2 ^ (52 - n.log2) := by
        rw [← Nat.pow_add, ← Nat.pow_add]; congr 1; omega
      _ ≤ n * 2 ^ (52 - n.log2) := Nat.mul_le_mul_right _ hlow
      _ = m * 2 ^ (n.log2 - 52) := hm
  · refine Nat.lt_of_mul_lt_mul_right (a := 2 ^ (n.log2 - 52)) ?_
    calc
      m * 2 ^ (n.log2 - 52) = n * 2 ^ (52 - n.log2) := hm.symm
      _ < 2 ^ (n.log2 + 1) * 2 ^ (52 - n.log2) :=
        Nat.mul_lt_mul_of_pos_right hhigh (Nat.two_pow_pos _)
      _ = 2 ^ 53 * 2 ^ (n.log2 - 52) := by
        rw [← Nat.pow_add, ← Nat.pow_add]; congr 1; omega

/-- At the scale of the significand a quotient is the significand. -/
theorem scaled_significand {n m : Nat} (k : Nat)
    (hm : n * 2 ^ (52 - n.log2) = m * 2 ^ (n.log2 - 52)) :
    scaled (n * 2 ^ k) (2 ^ k) ((n.log2 : Int) - 52) =
      (m * (2 ^ k * 2 ^ (n.log2 - 52)), 2 ^ k * 2 ^ (n.log2 - 52)) := by
  have hup : ((n.log2 : Int) - 52).toNat = n.log2 - 52 := by omega
  have hdown : (-((n.log2 : Int) - 52)).toNat = 52 - n.log2 := by omega
  have hnum : n * 2 ^ k * 2 ^ (52 - n.log2) = m * (2 ^ k * 2 ^ (n.log2 - 52)) := by
    calc
      n * 2 ^ k * 2 ^ (52 - n.log2) = n * 2 ^ (52 - n.log2) * 2 ^ k := by ring
      _ = m * (2 ^ k * 2 ^ (n.log2 - 52)) := by rw [hm]; ring
  rw [scaled_eq, hup, hdown, hnum]

theorem scale_pos (j k : Nat) : 0 < 2 ^ j * 2 ^ k :=
  Nat.mul_pos (Nat.two_pow_pos j) (Nat.two_pow_pos k)

/-- The exponent at which an exact number is an integer of 53 bits. -/
theorem exponentOf_eq {n m : Nat} (hn : n ≠ 0) (k : Nat)
    (hm : n * 2 ^ (52 - n.log2) = m * 2 ^ (n.log2 - 52)) (hlow : 2 ^ 52 ≤ m) :
    exponentOf (n * 2 ^ k) (2 ^ k) = (n.log2 : Int) - 52 := by
  have hmax : max (((n * 2 ^ k).log2 : Int) - ((2 ^ k : Nat).log2 : Int) - 52) leastExponent =
      (n.log2 : Int) - 52 := by
    rw [log2_mul_pow hn k, Nat.log2_two_pow]
    simp only [leastExponent]
    omega
  have hno : ¬ (m < twoTo 52 ∧ leastExponent < (n.log2 : Int) - 52) := by
    have htwo : twoTo 52 = 2 ^ 52 := rfl
    omega
  unfold exponentOf
  simp only [hmax, scaled_significand k hm, Nat.mul_div_cancel m (scale_pos _ _), if_neg hno]

/-- A quotient that is an exact number is that number. -/
theorem isNat_ofRatio {n : Nat} (hexact : Exact n) (hlt : n < 2 ^ 64) (k : Nat) :
    IsNat (ofRatio false (n * 2 ^ k) (2 ^ k)) n := by
  by_cases hn : n = 0
  · subst hn
    exact ⟨0, leastExponent, by simp [ofRatio], by simp⟩
  · obtain ⟨m, hm, hlow, hhigh⟩ := exists_significand hexact hn
    have hlog : n.log2 < 64 := (Nat.log2_lt hn).mpr hlt
    have hne : n * 2 ^ k ≠ 0 := Nat.mul_ne_zero hn (Nat.two_pow_pos k).ne'
    have hcarry : ¬ m = twoTo 53 := by
      have htwo : twoTo 53 = 2 ^ 53 := rfl
      omega
    have hrange : ¬ (971 < (n.log2 : Int) - 52) := by omega
    refine ⟨m, (n.log2 : Int) - 52, ?_, ?_⟩
    · unfold ofRatio
      rw [if_neg hne, exponentOf_eq hn k hm hlow]
      simp only [scaled_significand k hm, roundHalfEven_mul (scale_pos _ _), if_neg hcarry,
        if_neg hrange]
    · have hup : ((n.log2 : Int) - 52).toNat = n.log2 - 52 := by omega
      have hdown : (-((n.log2 : Int) - 52)).toNat = 52 - n.log2 := by omega
      rw [hup, hdown, hm]

theorem tenTo_zero : tenTo 0 = 1 := rfl

theorem length_decimal_le {n : Nat} (h : n < 2 ^ 64) : (decimal n).length ≤ 20 :=
  (Nat.length_toDigits_le_iff (by decide) (by decide)).mpr (Nat.lt_of_lt_of_le h (by decide))

/-- Digits are read to the number that they write, if it is exact. -/
theorem isNat_ofDecimal {n : Nat} (hexact : Exact n) (hlt : n < 2 ^ 64) :
    IsNat (ofDecimal false n 0) n := by
  by_cases hn : n = 0
  · subst hn
    exact ⟨0, leastExponent, rfl, by simp⟩
  · have hlen := length_decimal_le hlt
    have hratio := isNat_ofRatio hexact hlt 0
    unfold ofDecimal
    simp only
    rw [if_neg hn, if_neg (by omega), if_neg (by omega), if_neg (by omega)]
    simpa [tenTo_zero] using hratio

/-- A product that is an exact number is not rounded. -/
theorem IsNat.mul {x y : Binary64} {a b : Nat} (hx : IsNat x a) (hy : IsNat y b)
    (hexact : Exact (a * b)) (hlt : a * b < 2 ^ 64) : IsNat (x.mul y) (a * b) := by
  obtain ⟨m, p, rfl, hm⟩ := hx
  obtain ⟨m', p', rfl, hm'⟩ := hy
  have hshift : p.toNat + p'.toNat + (-(p + p')).toNat =
      (-p).toNat + (-p').toNat + (p + p').toNat := by omega
  have hproduct : m * m' * 2 ^ (p + p').toNat = a * b * 2 ^ (-(p + p')).toNat := by
    have hpos := Nat.two_pow_pos ((-p).toNat + (-p').toNat)
    refine Nat.eq_of_mul_eq_mul_right hpos ?_
    calc
      m * m' * 2 ^ (p + p').toNat * 2 ^ ((-p).toNat + (-p').toNat)
          = m * m' * 2 ^ ((-p).toNat + (-p').toNat + (p + p').toNat) := by ring
      _ = m * m' * 2 ^ (p.toNat + p'.toNat + (-(p + p')).toNat) := by rw [hshift]
      _ = (m * 2 ^ p.toNat) * (m' * 2 ^ p'.toNat) * 2 ^ (-(p + p')).toNat := by ring
      _ = (a * 2 ^ (-p).toNat) * (b * 2 ^ (-p').toNat) * 2 ^ (-(p + p')).toNat := by rw [hm, hm']
      _ = a * b * 2 ^ (-(p + p')).toNat * 2 ^ ((-p).toNat + (-p').toNat) := by ring
  unfold Binary64.mul
  simp only [ratio_eq, hproduct]
  exact isNat_ofRatio hexact hlt _

end Binary64
end PanelSource.Number
