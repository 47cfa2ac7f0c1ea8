import Mathlib.Algebra.Order.Ring.Int
import PanelSource.Calendar.Instant

/- Dates and day numbers.

   The year of a day is the one that begins no later and ends after it (`daysBefore_yearOf`,
   `lt_daysBefore_yearOf`), and the month and the day in it are found by taking off whole months
   (`splitMonths_spec`). So the date of a day number is a date that the calendar has
   (`valid_ofDayNumber`), and its day number is that one (`dayNumber_ofDayNumber`). -/
namespace PanelSource.Calendar

/-- A date that the calendar has, in whatever year. -/
structure Date.Valid (d : Date) : Prop where
  month_pos : 1 ≤ d.month
  month_le : d.month ≤ 12
  day_pos : 1 ≤ d.day
  day_le : d.day ≤ ((monthLengths (isLeap d.year))[d.month - 1]?).getD 0

theorem daysBefore_yearOf (days : Int) : daysBefore (yearOf days) ≤ days := by
  unfold yearOf
  simp only
  split
  · unfold daysBefore at *
    omega
  · split
    · assumption
    · unfold daysBefore at *
      omega

theorem lt_daysBefore_yearOf (days : Int) : days < daysBefore (yearOf days + 1) := by
  unfold yearOf
  simp only
  split
  · unfold daysBefore at *
    omega
  · split
    · unfold daysBefore at *
      omega
    · unfold daysBefore at *
      omega

theorem isLeap_iff (year : Int) :
    isLeap year = true ↔ year % 4 = 0 ∧ (year % 100 ≠ 0 ∨ year % 400 = 0) := by
  simp [isLeap]

theorem daysBefore_succ (year : Int) :
    daysBefore (year + 1) = daysBefore year + yearLength year := by
  have hleap := isLeap_iff year
  unfold yearLength daysBefore
  cases h : isLeap year with
  | false =>
    simp only [h, Bool.false_eq_true, false_iff, not_and, not_or] at hleap
    simp only [Bool.false_eq_true, if_false]
    omega
  | true =>
    simp only [h, true_iff] at hleap
    simp only [if_true]
    omega

theorem sum_monthLengths (year : Int) :
    (monthLengths (isLeap year)).foldr Nat.add 0 = yearLength year := by
  unfold yearLength
  cases isLeap year with
  | false => rfl
  | true => rfl

/-- Taking off whole months leaves a day of the month that is reached. -/
theorem splitMonths_spec (month : Nat) (lengths : List Nat) (offset : Nat)
    (h : offset < lengths.foldr Nat.add 0) :
    ∃ k day, splitMonths month lengths offset = (month + k, day + 1) ∧ k < lengths.length ∧
      (lengths.take k).foldr Nat.add 0 + day = offset ∧ day < (lengths[k]?).getD 0 := by
  induction lengths generalizing month offset with
  | nil => exact absurd h (Nat.not_lt_zero _)
  | cons n rest ih =>
    by_cases hn : offset < n
    · exact ⟨0, offset, by simp [splitMonths, hn], by simp, by simp, by simpa using hn⟩
    · simp only [List.foldr_cons] at h
      have hrest : offset - n < rest.foldr Nat.add 0 := by
        have : n + rest.foldr Nat.add 0 = Nat.add n (rest.foldr Nat.add 0) := rfl
        omega
      obtain ⟨k, day, hsplit, hk, hsum, hday⟩ := ih (month + 1) (offset - n) hrest
      refine ⟨k + 1, day, ?_, by simpa using hk, ?_, by simpa using hday⟩
      · rw [splitMonths, if_neg hn, hsplit]
        congr 1
        omega
      · simp only [List.take_succ_cons, List.foldr_cons]
        show n + _ + day = offset
        omega

namespace Date

/-- The date at an offset into a year. -/
theorem ofYearOffset_spec {year : Int} {offset : Nat} (h : offset < yearLength year) :
    (ofYearOffset year offset).Valid ∧ (ofYearOffset year offset).year = year ∧
      (ofYearOffset year offset).offset = offset := by
  rw [← sum_monthLengths] at h
  obtain ⟨k, day, hsplit, hk, hsum, hday⟩ := splitMonths_spec 1 _ offset h
  have hlen : (monthLengths (isLeap year)).length = 12 := rfl
  have hdate : ofYearOffset year offset = ⟨year, 1 + k, day + 1⟩ := by
    unfold ofYearOffset
    rw [hsplit]
  have hmonth : 1 + k - 1 = k := by omega
  rw [hdate]
  refine ⟨⟨by simp, by simp only; omega, by simp, ?_⟩, rfl, ?_⟩
  · simp only [hmonth]
    omega
  · unfold Date.offset
    simp only [hmonth]
    omega

theorem offset_lt (n : Int) : (n + epochDay - daysBefore (yearOf (n + epochDay))).toNat <
    yearLength (yearOf (n + epochDay)) := by
  have hlow := daysBefore_yearOf (n + epochDay)
  have hhigh := lt_daysBefore_yearOf (n + epochDay)
  rw [daysBefore_succ] at hhigh
  omega

theorem valid_ofDayNumber (n : Int) : (ofDayNumber n).Valid := (ofYearOffset_spec (offset_lt n)).1

/-- **The date of a day number has that day number.** -/
theorem dayNumber_ofDayNumber (n : Int) : (ofDayNumber n).dayNumber = n := by
  obtain ⟨-, hyear, hoffset⟩ := ofYearOffset_spec (offset_lt n)
  have hlow := daysBefore_yearOf (n + epochDay)
  unfold dayNumber ofDayNumber
  simp only [hyear, hoffset]
  omega

theorem inRange_iff (d : Date) : d.inRange = true ↔ -262143 ≤ d.year ∧ d.year ≤ 262142 := by
  have hiff : d.inRange = true ↔ leastYear ≤ d.year ∧ d.year ≤ greatestYear := by
    simp only [inRange, Bool.and_eq_true, decide_eq_true_eq]
  exact hiff

theorem Valid.ofYmd? {d : Date} (h : d.Valid) (hrange : d.inRange = true) :
    Date.ofYmd? d.year d.month d.day = some d := by
  simp only [inRange, Bool.and_eq_true, decide_eq_true_eq] at hrange
  unfold Date.ofYmd?
  rw [if_pos ⟨hrange.1, hrange.2, h.month_pos, h.month_le, h.day_pos, h.day_le⟩]

theorem Valid.day_le_31 {d : Date} (h : d.Valid) : d.day ≤ 31 := by
  have hlengths : ∀ leap : Bool, ∀ i < 12, ((monthLengths leap)[i]?).getD 0 ≤ 31 := by decide
  have hmonth : d.month - 1 < 12 := by
    have := h.month_le
    omega
  exact Nat.le_trans h.day_le (hlengths _ _ hmonth)

end Date
end PanelSource.Calendar
