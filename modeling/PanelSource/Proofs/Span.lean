import PanelSource.Panel.Request
import PanelSource.Proofs.Number.Exact
import PanelSource.Proofs.Span.Runs

/- Spans over the wire.

   A span is written as its whole seconds with their unit, and the text is read in the arithmetic of
   doubles. Where a double holds the number of seconds, what is read are the whole seconds of the
   span (`read_spanText`). -/
namespace PanelSource.Span
open Number

theorem seconds_lt (s : Span) : s.seconds < twoTo 64 := by
  have h := s.total_lt
  unfold seconds
  omega

/-- A span without what it has past its whole seconds. -/
def whole (s : Span) : Span := ofSeconds s.seconds s.seconds_lt

theorem total_inj {s t : Span} (h : s.total = t.total) : s = t := by
  cases s
  cases t
  simp only at h
  subst h
  rfl

theorem whole_of_nanos {s : Span} (h : s.nanos = 0) : s.whole = s := by
  apply total_inj
  show s.seconds * 1000000000 = s.total
  unfold nanos at h
  unfold seconds
  omega

theorem runs_seconds (n : Nat) : runs (decimal n ++ ['s']) = [decimal n, ['s']] := by
  have hnumber : NumberRun (decimal n) :=
    ⟨decimal_ne_nil n, fun c hc => .inl (isDigit_of_mem_decimal hc)⟩
  have hunit : UnitRun ['s'] := ⟨by simp, by simp [NumberChar]⟩
  refine (cut_iff.mp ⟨by simp, ?_, ?_⟩).symm
  · simp [hnumber, hunit]
  · exact List.isChain_pair.mpr (.inl ⟨hnumber, hunit⟩)

theorem readUnsigned_decimal (n : Nat) :
    readUnsigned false (decimal n) = some (.ofDecimal false n 0) := by
  rw [readUnsigned_digits (digits_decimal n), if_neg (decimal_ne_nil n), ofDigitChars_decimal]

theorem ofReal?_isNat {x : Binary64} {n : Nat} (h : x.IsNat n) (hlt : n < twoTo 64) :
    ofReal? x = some (ofSeconds n hlt) := by
  obtain ⟨m, q, rfl, hm⟩ := h
  have hpos : 0 < 2 ^ (-q).toNat := Nat.two_pow_pos _
  have hround : roundHalfEven (n * 2 ^ (-q).toNat * 1000000000) (2 ^ (-q).toNat) =
      n * 1000000000 := by
    rw [Nat.mul_right_comm, roundHalfEven_mul hpos]
  have hrange : n * 1000000000 < twoTo 64 * 1000000000 := by omega
  unfold ofReal?
  simp only [Bool.false_eq_true, false_and, if_false, Binary64.ratio_eq, hm, hround]
  rw [if_pos (Nat.mul_lt_mul_of_pos_right hlt hpos), ofNanos?, dif_pos hrange]
  rfl

theorem add?_zero (s : Span) : zero.add? s = some s := by
  have h : zero.total + s.total < twoTo 64 * 1000000000 := by
    have hs := s.total_lt
    show 0 + s.total < _
    omega
  unfold add? ofNanos?
  rw [dif_pos h]
  congr 1
  exact total_inj (Nat.zero_add _)

theorem plus_ne_seconds (n : Nat) (r : List Char) : decimal n ++ ['s'] ≠ '+' :: r := by
  intro h
  cases hd : decimal n with
  | nil => exact decimal_ne_nil n hd
  | cons c cs =>
    rw [hd] at h
    have hc : c = '+' := (List.cons.inj h).1
    exact ne_of_isDigit (isDigit_of_mem_decimal (hd ▸ List.mem_cons_self)) rfl hc

/-- **The text of a span is read as its whole seconds**, if a double holds their number. -/
theorem read_spanText {s : Span} (hexact : Exact s.seconds) :
    read (Target.spanText s) = .ok s.whole := by
  have hlt : s.seconds < 2 ^ 64 := s.seconds_lt
  have hbare : Text.Bare (decimal s.seconds ++ ['s']) := by
    refine Text.bare_of_forall (by simp) ?_
    intro c hc
    rcases List.mem_append.mp hc with hc | hc
    · exact not_isBlank_of_isDigit (isDigit_of_mem_decimal hc)
    · rw [List.mem_singleton.mp hc]
      decide
  -- The unit keeps the text from being read as a bare number.
  have hnatural : (readNatural uint64Max (decimal s.seconds ++ ['s'])).toOption = none := by
    rw [readNatural_eq hbare.ne_nil (plus_ne_seconds s.seconds)]
    exact readDigits_other rfl 0
  -- The product with the unit of one second is exact, as the count of seconds is.
  have hvalue : ((Binary64.ofDecimal false s.seconds 0).mul (.ofDecimal false 1 0)).IsNat
      (s.seconds * 1) :=
    (Binary64.isNat_ofDecimal hexact hlt).mul
      (Binary64.isNat_ofDecimal (exact_of_le (by decide)) (by decide))
      (by rwa [Nat.mul_one]) (by rwa [Nat.mul_one])
  rw [Nat.mul_one] at hvalue
  have hruns : readRuns (Target.spanText s) zero (runs (decimal s.seconds ++ ['s'])) =
      .ok s.whole := by
    rw [runs_seconds]
    have hsum : (ofReal? ((Binary64.ofDecimal false s.seconds 0).mul
        (.ofDecimal false 1 0))).bind zero.add? = some s.whole := by
      rw [ofReal?_isNat hvalue s.seconds_lt, Option.bind_some, add?_zero]
      rfl
    have hunit : unitSeconds (String.ofList ['s']) = some (.ofDecimal false 1 0) := rfl
    simp only [readRuns, readUnsigned_decimal, hunit, hsum]
  unfold read
  rw [Target.spanText, String.toList_ofList, hbare.strip_self]
  rw [Target.spanText] at hruns
  cases hcs : decimal s.seconds ++ ['s'] with
  | nil => exact absurd hcs hbare.ne_nil
  | cons c cs =>
    rw [hcs] at hnatural hruns
    simp only [hnatural]
    exact hruns

end PanelSource.Span
