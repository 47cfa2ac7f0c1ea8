import PanelSource.Calendar.Reading
import PanelSource.Calendar.Writing
import PanelSource.Proofs.Calendar.Date
import PanelSource.Proofs.Number.Decimal
import PanelSource.Proofs.Text.Strip

/- Timestamps read back.

   What is written for an instant is read as that instant: by the strict reader, where the year has
   four digits and up to the milliseconds that are written (`readRfc3339_millis`), and by the
   lenient one for every instant that the calendar has (`readLenient_rfc3339`). Each part of a
   timestamp is a padded number in front of a character that is no digit, so that it is read for
   itself. -/
namespace PanelSource.Calendar
open Number

/-- An instant as clocks have it: nanoseconds of a second, or of a leap second at the end of a
    minute. -/
def Instant.Proper (t : Instant) : Prop :=
  t.nano < 1000000000 ∨ (t.second % 60 = 59 ∧ t.nano < 2000000000)

/-! ## Numbers in front of other characters -/

def NoDigit (cs : List Char) : Prop := ∀ c ∈ cs.head?, c.isDigit = false

theorem noDigit_cons {c : Char} (h : c.isDigit = false) (cs : List Char) : NoDigit (c :: cs) := by
  intro d hd
  cases hd
  exact h

theorem scanDigits_digits {ds : List Char} (h : Digits ds) (acc : Nat) (rest : List Char) :
    scanDigits acc ds.length (ds ++ rest) = .ok (Nat.ofDigitChars 10 ds acc, rest) := by
  induction ds generalizing acc with
  | nil => simp [scanDigits]
  | cons c ds ih =>
    have hc : c.isDigit = true := h c List.mem_cons_self
    rw [ofDigitChars_cons_digit, List.cons_append, List.length_cons, scanDigits,
      digitValue_of_isDigit hc]
    exact ih (fun d hd => h d (List.mem_cons_of_mem c hd)) _

theorem scanDigits_padded {width n : Nat} (hwidth : 0 < width) (h : n < 10 ^ width)
    (rest : List Char) : scanDigits 0 width (padded width n ++ rest) = .ok (n, rest) := by
  have hread := scanDigits_digits (digits_padded width n) 0 rest
  rwa [length_padded hwidth h, ofDigitChars_padded] at hread

theorem byteLength_cons (c : Char) (cs : List Char) :
    byteLength (c :: cs) = c.utf8Size + byteLength cs := rfl

theorem length_le_byteLength (cs : List Char) : cs.length ≤ byteLength cs := by
  induction cs with
  | nil => exact Nat.le_refl 0
  | cons c cs ih =>
    have hpos := c.utf8Size_pos
    rw [byteLength_cons, List.length_cons]
    omega

/-- A number that does not go on is read to its value. -/
theorem scanNumber_digits {ds rest : List Char} (h : Digits ds) (hrest : NoDigit rest) {least : Nat}
    (hleast : least ≤ ds.length) {most : Option Nat} (hmost : ∀ m ∈ most, ds.length ≤ m)
    (hbound : Nat.ofDigitChars 10 ds 0 ≤ twoTo 63 - 1) :
    scanNumber least most (ds ++ rest) = .ok ((Nat.ofDigitChars 10 ds 0 : Nat), rest) := by
  have hlen : ¬ byteLength (ds ++ rest) < least := by
    have := length_le_byteLength (ds ++ rest)
    rw [List.length_append] at this
    omega
  have hvalue : boundedValue ds = .ok ((Nat.ofDigitChars 10 ds 0 : Nat) : Int) := by
    unfold boundedValue
    rw [readDigits_eq h hbound]
  have hread : (if ds.length < least then .error .invalid
      else do
        let v ← boundedValue ds
        return (v, (ds ++ rest).drop ds.length) : Except TimeFault (Int × List Char)) =
      .ok ((Nat.ofDigitChars 10 ds 0 : Nat), rest) := by
    rw [if_neg (Nat.not_lt.mpr hleast), hvalue, List.drop_left]
    rfl
  unfold scanNumber
  rw [if_neg hlen, takeWhile_digits h hrest]
  cases most with
  | none => exact hread
  | some m =>
    have htake : ds.take m = ds := List.take_of_length_le (hmost m rfl)
    simp only [htake]
    exact hread

theorem scanNumber_padded {width n : Nat} (hwidth : 0 < width) (h : n < 10 ^ width)
    (hsmall : width ≤ 18) {rest : List Char} (hrest : NoDigit rest) {most : Option Nat}
    (hmost : ∀ m ∈ most, width ≤ m) :
    scanNumber 1 most (padded width n ++ rest) = .ok (n, rest) := by
  have hlen := length_padded hwidth h
  have hbound : n ≤ twoTo 63 - 1 := by
    have hpow : 10 ^ width ≤ 10 ^ 18 := Nat.pow_le_pow_right (by decide) hsmall
    have htwo : twoTo 63 = 9223372036854775808 := by decide
    omega
  have hread := scanNumber_digits (digits_padded width n) hrest (show 1 ≤ _ by omega)
    (fun m hm => by rw [hlen]; exact hmost m hm) (by rwa [ofDigitChars_padded])
  rwa [ofDigitChars_padded] at hread

theorem dropWhile_noDigit {cs : List Char} (h : NoDigit cs) : cs.dropWhile isDigit = cs :=
  dropWhile_digits (fun _ hc => nomatch hc : Digits []) h

theorem scanFraction_padded {width n : Nat} (hwidth : 0 < width) (h : n < 10 ^ width)
    (hsmall : width ≤ 9) {rest : List Char} (hrest : NoDigit rest) :
    scanFraction (padded width n ++ rest) = .ok (n * tenTo (9 - width), rest) := by
  have hmost : ∀ m ∈ some 9, width ≤ m := fun m hm => by cases hm; exact hsmall
  have hnumber := scanNumber_padded hwidth h (by omega) hrest hmost
  have hlen : (padded width n ++ rest).length - rest.length = width := by
    rw [List.length_append, length_padded hwidth h]
    omega
  unfold scanFraction
  rw [hnumber]
  show Except.ok ((n : Int) * tenTo (9 - ((padded width n ++ rest).length - rest.length)),
    rest.dropWhile isDigit) = _
  rw [hlen, dropWhile_noDigit hrest]

/-! ## Moments -/

/-- A moment as clocks show it. -/
structure Moment.Proper (m : Moment) : Prop where
  second_lt : m.second < 86400
  nano_lt : m.nano < 1000000000 ∨ (m.second % 60 = 59 ∧ m.nano < 2000000000)

namespace Instant

theorem Proper.moment {t : Instant} (h : t.Proper) : t.moment.Proper := by
  have hsecond : t.moment.second = (t.second % 86400).toNat := rfl
  have hnano : t.moment.nano = t.nano := rfl
  refine ⟨by omega, ?_⟩
  rcases h with h | ⟨h, hlt⟩
  · exact .inl h
  · exact .inr ⟨by omega, hlt⟩

theorem valid_moment (t : Instant) : t.moment.date.Valid := Date.valid_ofDayNumber _

theorem inRange_moment (t : Instant) : t.moment.date.inRange = t.inRange := rfl

theorem instant_moment (t : Instant) : t.moment.instant = t := by
  have hday : t.moment.date.dayNumber = t.second / 86400 := Date.dayNumber_ofDayNumber _
  have hsecond : t.moment.second = (t.second % 86400).toNat := rfl
  unfold Moment.instant
  have hwhole : t.moment.date.dayNumber * 86400 + t.moment.second = t.second := by omega
  rw [hwhole]
  rfl

end Instant

/-! ## The strict reader -/

theorem ok_bind {α β : Type} (a : α) (f : α → Except TimeFault β) : (Except.ok a >>= f) = f a := rfl

theorem scanMark_cons (c : Char) (rest : List Char) : scanMark c (c :: rest) = .ok ((), rest) :=
  if_pos rfl

/-- A date of a year with four digits. -/
theorem scanDate_writeDate {d : Date} (h : d.Valid) (hlow : 0 ≤ d.year) (hhigh : d.year ≤ 9999)
    (rest : List Char) : scanDate (writeDate d ++ rest) = .ok (d, rest) := by
  have hrange : d.inRange = true := d.inRange_iff.mpr ⟨by omega, by omega⟩
  have hmonth := h.month_le
  have hday := h.day_le_31
  have hyear : ((d.year.natAbs : Nat) : Int) = d.year := by omega
  have htext : writeDate d ++ rest = padded 4 d.year.natAbs ++ '-' :: (padded 2 d.month ++
      '-' :: (padded 2 d.day ++ rest)) := by
    unfold writeDate writeYear
    rw [if_pos ⟨hlow, hhigh⟩]
    simp
  unfold scanDate
  simp only [htext, scanDigits_padded (by decide) (show d.year.natAbs < 10 ^ 4 by omega),
    scanDigits_padded (by decide) (show d.month < 10 ^ 2 by omega),
    scanDigits_padded (by decide) (show d.day < 10 ^ 2 by omega), scanMark_cons, ok_bind, hyear,
    h.ofYmd? hrange]
  rfl

theorem clock_sum (n : Nat) : n / 3600 * 3600 + n / 60 % 60 * 60 + n % 60 = n := by omega

/-- The clock of a moment, with what follows it read as a fraction of a second. -/
theorem scanClock_writeClock {m : Moment} (h : m.Proper) {tail rest : List Char} {fraction : Nat}
    (hfraction : scanPointFraction tail = .ok (fraction, rest)) :
    scanClock (writeClock m ++ tail) =
      .ok ((m.second, m.nano / 1000000000 * 1000000000 + fraction), rest) := by
  have hsecond := h.second_lt
  have hnano := h.nano_lt
  have htext : writeClock m ++ tail = padded 2 (m.second / 3600) ++ ':' ::
      (padded 2 (m.second / 60 % 60) ++ ':' ::
        (padded 2 (m.second % 60 + m.nano / 1000000000) ++ tail)) := by
    simp [writeClock]
  have hclock : m.second / 3600 < 24 ∧ m.second / 60 % 60 < 60 := by omega
  unfold scanClock
  simp only [htext, scanDigits_padded (by decide) (show m.second / 3600 < 10 ^ 2 by omega),
    scanDigits_padded (by decide) (show m.second / 60 % 60 < 10 ^ 2 by omega),
    scanDigits_padded (by decide) (show m.second % 60 + m.nano / 1000000000 < 10 ^ 2 by omega),
    scanMark_cons, ok_bind, hfraction]
  by_cases hleap : m.nano < 1000000000
  · have hplain : m.second % 60 + m.nano / 1000000000 = m.second % 60 := by omega
    have hzero : m.nano / 1000000000 = 0 := Nat.div_eq_of_lt hleap
    rw [hplain, hzero, Nat.zero_mul, Nat.zero_add, if_neg (show ¬ m.second % 60 = 60 by omega)]
    simp only [clock_sum]
    rw [if_pos ⟨hclock.1, hclock.2, by omega⟩]
    rfl
  · -- A leap second is shown as second 60 and goes back to the second before it.
    have hsixty : m.second % 60 + m.nano / 1000000000 = 60 := by omega
    have hwhole : m.nano / 1000000000 = 1 := by omega
    have hlast : m.second % 60 = 59 := by omega
    have hsum := clock_sum m.second
    rw [hlast] at hsum
    rw [hsixty, hwhole, Nat.one_mul, if_pos rfl]
    simp only [hsum]
    rw [if_pos ⟨hclock.1, hclock.2, by omega⟩]
    rfl

theorem scanPointFraction_padded {width n : Nat} (hwidth : 0 < width) (h : n < 10 ^ width)
    (hsmall : width ≤ 9) {rest : List Char} (hrest : NoDigit rest) :
    scanPointFraction ('.' :: (padded width n ++ rest)) = .ok (n * tenTo (9 - width), rest) := by
  unfold scanPointFraction
  simp only [scanFraction_padded hwidth h hsmall hrest, ok_bind]
  rfl

theorem length_writeDate {d : Date} (h : d.Valid) (hlow : 0 ≤ d.year) (hhigh : d.year ≤ 9999) :
    (writeDate d).length = 10 := by
  have hmonth := h.month_le
  have hday := h.day_le_31
  unfold writeDate writeYear
  rw [if_pos ⟨hlow, hhigh⟩]
  simp only [List.length_append, List.length_cons]
  rw [length_padded (by decide) (by omega), length_padded (by decide) (by omega),
    length_padded (by decide) (by omega)]

theorem length_writeClock {m : Moment} (h : m.Proper) : (writeClock m).length = 8 := by
  have hsecond := h.second_lt
  have hnano := h.nano_lt
  unfold writeClock
  simp only [List.length_append, List.length_cons]
  rw [length_padded (by decide) (by omega), length_padded (by decide) (by omega),
    length_padded (by decide) (by omega)]

theorem nano_millis (n : Nat) :
    n / 1000000000 * 1000000000 + n % 1000000000 / 1000000 * 1000000 = n / 1000000 * 1000000 := by
  omega

/-- **A timestamp in milliseconds is read as the instant, cut to milliseconds.** -/
theorem readRfc3339_millis {t : Instant} (h : t.Proper) (hlow : 0 ≤ t.moment.date.year)
    (hhigh : t.moment.date.year ≤ 9999) :
    readRfc3339 t.rfc3339Millis = .ok ⟨t.second, t.nano / 1000000 * 1000000⟩ := by
  have hvalid := t.valid_moment
  have hproper := h.moment
  have hmillis : t.moment.nano % 1000000000 / 1000000 < 10 ^ 3 := by omega
  have hmark : NoDigit ['Z'] := noDigit_cons (by decide) []
  have hfraction := scanPointFraction_padded (by decide) hmillis (by decide) hmark
  have htext : t.rfc3339Millis.toList = writeDate t.moment.date ++ 'T' :: (writeClock t.moment ++
      '.' :: (padded 3 (t.moment.nano % 1000000000 / 1000000) ++ ['Z'])) := by
    simp [Instant.rfc3339Millis]
  have hlen : ¬ byteLength t.rfc3339Millis.toList < 19 := by
    have hle := length_le_byteLength t.rfc3339Millis.toList
    rw [htext] at hle ⊢
    simp only [List.length_append, List.length_cons, length_writeDate hvalid hlow hhigh,
      length_writeClock hproper] at hle
    omega
  have htime : ∀ rest, scanTimeMark ('T' :: rest) = .ok ((), rest) := fun rest => rfl
  have hoffset : scanOffset ⟨true, false⟩ (scanChar ':') ['Z'] = .ok (0, []) := rfl
  have hsecond : t.moment.date.dayNumber * 86400 + t.moment.second = t.second :=
    congrArg Instant.second t.instant_moment
  unfold readRfc3339
  rw [if_neg hlen]
  simp only [htext, scanDate_writeDate hvalid hlow hhigh, htime,
    scanClock_writeClock hproper hfraction, hoffset, ok_bind]
  show Except.ok (Instant.mk (t.moment.date.dayNumber * 86400 + t.moment.second - 0)
    (t.nano / 1000000000 * 1000000000 + t.nano % 1000000000 / 1000000 * tenTo 6)) = _
  rw [hsecond, Int.sub_zero, show tenTo 6 = 1000000 from rfl, nano_millis]

theorem head_writeYear (y : Int) : ∃ c rest, writeYear y = c :: rest ∧ Text.isBlank c = false := by
  unfold writeYear
  split
  · have hdigits := digits_padded 4 y.natAbs
    cases hpadded : padded 4 y.natAbs with
    | nil => exact absurd hpadded (padded_ne_nil 4 y.natAbs)
    | cons c ds =>
      rw [hpadded] at hdigits
      exact ⟨c, ds, rfl, not_isBlank_of_isDigit (hdigits c List.mem_cons_self)⟩
  · refine ⟨_, _, rfl, ?_⟩
    split
    · decide
    · decide

theorem bare_rfc3339Millis (t : Instant) : Text.Bare t.rfc3339Millis.toList := by
  obtain ⟨c, rest, hyear, hc⟩ := head_writeYear t.moment.date.year
  have htext : ∃ middle, t.rfc3339Millis.toList = c :: middle ++ ['Z'] := by
    simp [Instant.rfc3339Millis, writeDate, hyear, ← List.append_assoc]
  obtain ⟨middle, htext⟩ := htext
  have hlast : Text.isBlank ((c :: middle ++ ['Z']).getLast (by simp)) = false := by
    rw [List.getLast_append_of_ne_nil _ (List.cons_ne_nil _ _)]
    decide
  rw [htext]
  exact ⟨List.cons_ne_nil _ _, hc, hlast⟩

/-! ## The lenient reader -/

/-- A number in front of what is no digit is the value of a quantity that takes so many digits. -/
theorem scanQuantity_padded {q : Quantity} {width n : Nat} (hwidth : 0 < width) (h : n < 10 ^ width)
    (hsmall : width ≤ 18) (hmost : ∀ m ∈ q.width, width ≤ m) {rest : List Char}
    (hrest : NoDigit rest) : scanQuantity q (padded width n ++ rest) = .ok (n, rest) := by
  have hnumber := scanNumber_padded hwidth h hsmall hrest hmost
  have hdigits := digits_padded width n
  cases hpadded : padded width n with
  | nil => exact absurd hpadded (padded_ne_nil width n)
  | cons c ds =>
    rw [hpadded] at hnumber hdigits
    have hc : c.isDigit = true := hdigits c List.mem_cons_self
    have hminus : c ≠ '-' := ne_of_isDigit hc (by decide)
    have hplus : c ≠ '+' := ne_of_isDigit hc (by decide)
    unfold scanQuantity
    rw [List.cons_append, Text.stripStart_cons (not_isBlank_of_isDigit hc)]
    simp only [hminus, hplus, and_false, if_false]
    exact hnumber

/-- A year with its sign, if it has one. -/
theorem scanQuantity_writeYear {y : Int} (h : y.natAbs ≤ twoTo 63 - 1) {rest : List Char}
    (hrest : NoDigit rest) : scanQuantity .year (writeYear y ++ rest) = .ok (y, rest) := by
  unfold writeYear
  by_cases hfour : 0 ≤ y ∧ y ≤ 9999
  · have hmost : ∀ m ∈ Quantity.width .year, 4 ≤ m := fun m hm => by cases hm; decide
    have hvalue : ((y.natAbs : Nat) : Int) = y := by omega
    rw [if_pos hfour, scanQuantity_padded (by decide) (by omega) (by decide) hmost hrest, hvalue]
  · have hlen : 1 ≤ (padded 4 y.natAbs).length := List.length_pos_iff.mpr (padded_ne_nil 4 y.natAbs)
    have hmost : ∀ m ∈ (none : Option Nat), (padded 4 y.natAbs).length ≤ m := by
      intro m hm
      cases hm
    have hnumber := scanNumber_digits (digits_padded 4 y.natAbs) hrest hlen hmost
      (by rwa [ofDigitChars_padded])
    rw [ofDigitChars_padded] at hnumber
    rw [if_neg hfour]
    by_cases hneg : y < 0
    · have hvalue : -((y.natAbs : Nat) : Int) = y := by omega
      rw [if_pos hneg, List.cons_append]
      unfold scanQuantity
      rw [Text.stripStart_cons (by decide)]
      simp only [Quantity.signed, hnumber, and_self, if_true, ok_bind, hvalue]
      rfl
    · have hvalue : ((y.natAbs : Nat) : Int) = y := by omega
      rw [if_neg hneg, List.cons_append]
      unfold scanQuantity
      rw [Text.stripStart_cons (by decide)]
      simp only [Quantity.signed, show ¬ ('+' = '-') by decide, and_false, if_false, and_self,
        if_true]
      rw [hnumber, hvalue]

theorem withinNat_natCast {low high n : Nat} (hlow : low ≤ n) (hhigh : n ≤ high) :
    withinNat low high n = .ok n := by
  unfold withinNat within
  rw [if_pos ⟨by omega, by omega⟩]
  rfl

section
variable {f f' : Fields}

theorem readPlainItem_number {q : Quantity} {v : Int} {cs rest : List Char}
    (hscan : scanQuantity q cs = .ok (v, rest)) (hset : q.set f v = .ok f') :
    readPlainItem (.number q) f cs = .ok (f', rest) := by
  simp only [readPlainItem, hscan, ok_bind, hset]
  rfl

theorem readPlainItem_two {q : Quantity} {n : Nat} {rest : List Char} (hq : q.width = some 2)
    (h : n < 100) (hrest : NoDigit rest) (hset : q.set f n = .ok f') :
    readPlainItem (.number q) f (padded 2 n ++ rest) = .ok (f', rest) := by
  have hmost : ∀ m ∈ q.width, 2 ≤ m := by
    intro m hm
    rw [hq] at hm
    cases hm
    exact Nat.le_refl 2
  exact readPlainItem_number (scanQuantity_padded (by decide) h (by decide) hmost hrest) hset

theorem readPlainItem_blanks {c : Char} (hc : Text.isBlank c = false) (rest : List Char) :
    readPlainItem .blanks f (c :: rest) = .ok (f, c :: rest) := by
  simp only [readPlainItem, Text.stripStart_cons hc]

theorem readPlainItem_mark (c : Char) (rest : List Char) :
    readPlainItem (.literal [c]) f (c :: rest) = .ok (f, rest) := by
  have hlen : ¬ byteLength (c :: rest) < byteLength [c] := by
    rw [byteLength_cons, byteLength_cons]
    exact Nat.not_lt.mpr (Nat.add_le_add_left (Nat.zero_le _) _)
  simp [readPlainItem, hlen]

/-- A fraction that takes no more digits than it needs, or none. -/
theorem readPlainItem_fraction {nano : Nat} (h : nano < 1000000000) (hf : f.nano = none) :
    readPlainItem (.fraction none) f (writeFraction nano ++ ['Z']) =
      .ok ({ f with nano := if nano = 0 then none else some nano }, ['Z']) := by
  have hmark : NoDigit ['Z'] := noDigit_cons (by decide) []
  have hplaces : ∀ width n, 0 < width → width ≤ 9 → n < 10 ^ width → n * tenTo (9 - width) = nano →
      nano ≠ 0 → readPlainItem (.fraction none) f ('.' :: padded width n ++ ['Z']) =
        .ok ({ f with nano := if nano = 0 then none else some nano }, ['Z']) := by
    intro width n hwidth hsmall hn hvalue hzero
    have hwhole : ((n : Int) * tenTo (9 - width)) = (nano : Nat) := by
      rw [← hvalue]
      rfl
    have hset : f.setNano (nano : Nat) = .ok { f with nano := some nano } := by
      have hwithin := withinNat_natCast (Nat.zero_le nano) (show nano ≤ 999999999 by omega)
      unfold Fields.setNano
      simp only [hwithin, hf, agree, ok_bind]
      rfl
    rw [if_neg hzero]
    simp only [readPlainItem, List.cons_append, scanFraction_padded hwidth hn hsmall hmark, ok_bind,
      hwhole, hset]
    rfl
  -- The fraction is written with the fewest of three, six and nine places that lose nothing.
  unfold writeFraction
  by_cases hzero : nano = 0
  · have hsame : { f with nano := none } = f := by rw [← hf]
    rw [if_pos hzero, if_pos hzero, hsame]
    rfl
  · rw [if_neg hzero]
    by_cases hmillis : nano % 1000000 = 0
    · rw [if_pos hmillis]
      exact hplaces 3 _ (by decide) (by decide) (by omega)
        (by rw [show tenTo (9 - 3) = 1000000 from rfl]; omega) hzero
    · rw [if_neg hmillis]
      by_cases hmicros : nano % 1000 = 0
      · rw [if_pos hmicros]
        exact hplaces 6 _ (by decide) (by decide) (by omega)
          (by rw [show tenTo (9 - 6) = 1000 from rfl]; omega) hzero
      · rw [if_neg hmicros]
        exact hplaces 9 _ (by decide) (by decide) (by omega)
          (by rw [show tenTo (9 - 9) = 1 from rfl]; omega) hzero

end

/-- What the lenient reader takes from the text of a moment. -/
def Moment.fields (m : Moment) : Fields :=
  { year := some m.date.year, month := some m.date.month, day := some m.date.day
    halfDay := some (m.second / 3600 / 12), hourOfHalf := some (m.second / 3600 % 12)
    minute := some (m.second / 60 % 60)
    second := some (m.second % 60 + m.nano / 1000000000)
    nano := if m.nano % 1000000000 = 0 then none else some (m.nano % 1000000000)
    offset := some 0 }

section
variable {f : Fields} {n : Nat}

theorem set_month (hf : f.month = none) (hlow : 1 ≤ n) (hhigh : n ≤ 12) :
    Quantity.month.set f n = .ok { f with month := some n } := by
  simp only [Quantity.set, Fields.setMonth, withinNat_natCast hlow hhigh, agree, ok_bind, hf]
  rfl

theorem set_day (hf : f.day = none) (hlow : 1 ≤ n) (hhigh : n ≤ 31) :
    Quantity.day.set f n = .ok { f with day := some n } := by
  simp only [Quantity.set, Fields.setDay, withinNat_natCast hlow hhigh, agree, ok_bind, hf]
  rfl

theorem set_hour (hhalf : f.halfDay = none) (hhour : f.hourOfHalf = none) (hhigh : n ≤ 23) :
    Quantity.hour.set f n =
      .ok { f with halfDay := some (n / 12), hourOfHalf := some (n % 12) } := by
  simp only [Quantity.set, Fields.setHour, withinNat_natCast (Nat.zero_le n) hhigh, agree, ok_bind,
    hhalf, hhour]
  rfl

theorem set_minute (hf : f.minute = none) (hhigh : n ≤ 59) :
    Quantity.minute.set f n = .ok { f with minute := some n } := by
  simp only [Quantity.set, Fields.setMinute, withinNat_natCast (Nat.zero_le n) hhigh, agree,
    ok_bind, hf]
  rfl

theorem set_second (hf : f.second = none) (hhigh : n ≤ 60) :
    Quantity.second.set f n = .ok { f with second := some n } := by
  simp only [Quantity.set, Fields.setSecond, withinNat_natCast (Nat.zero_le n) hhigh, agree,
    ok_bind, hf]
  rfl

end

theorem noDigit_writeFraction (nano : Nat) : NoDigit (writeFraction nano ++ ['Z']) := by
  unfold writeFraction
  split
  · exact noDigit_cons (by decide) []
  · split
    · exact noDigit_cons (by decide) _
    · split
      · exact noDigit_cons (by decide) _
      · exact noDigit_cons (by decide) _

theorem readPlainItems_writeDate {d : Date} (h : d.Valid) (hrange : d.inRange = true)
    {rest : List Char} (hrest : NoDigit rest) :
    readPlainItems lenientDate {} (writeDate d ++ rest) =
      .ok ({ year := some d.year, month := some d.month, day := some d.day }, rest) := by
  have hmonth := h.month_le
  have hday := h.day_le_31
  have hyears := d.inRange_iff.mp hrange
  have hdash : ∀ rest, NoDigit ('-' :: rest) := noDigit_cons (by decide)
  have htext : writeDate d ++ rest = writeYear d.year ++ '-' :: (padded 2 d.month ++
      '-' :: (padded 2 d.day ++ rest)) := by
    simp [writeDate]
  have hyear : readPlainItem (.number .year) {} (writeDate d ++ rest) =
      .ok ({ year := some d.year },
        '-' :: (padded 2 d.month ++ '-' :: (padded 2 d.day ++ rest))) := by
    rw [htext]
    refine readPlainItem_number (scanQuantity_writeYear ?_ (hdash _)) ?_
    · have hbound : twoTo 63 - 1 = 9223372036854775807 := by decide
      omega
    · -- Years in range are far from the bounds of the field, which are those of 32 bits.
      have hwithin : within int32Min int32Max d.year = .ok d.year := by
        have hlow : int32Min = -2147483648 := by decide
        have hhigh : int32Max = 2147483647 := by decide
        unfold within
        rw [if_pos (by omega)]
      simp only [Quantity.set, Fields.setYear, hwithin, agree, ok_bind]
      rfl
  have hmonthRead : readPlainItem (.number .month) { year := some d.year }
      (padded 2 d.month ++ '-' :: (padded 2 d.day ++ rest)) =
        .ok ({ year := some d.year, month := some d.month }, '-' :: (padded 2 d.day ++ rest)) :=
    readPlainItem_two rfl (by omega) (hdash _) (set_month rfl h.month_pos hmonth)
  have hdayRead : readPlainItem (.number .day) { year := some d.year, month := some d.month }
      (padded 2 d.day ++ rest) =
        .ok ({ year := some d.year, month := some d.month, day := some d.day }, rest) :=
    readPlainItem_two rfl (by omega) hrest (set_day rfl h.day_pos hday)
  simp only [lenientDate, readPlainItems, hyear, hmonthRead, hdayRead, readPlainItem_mark, ok_bind,
    readPlainItem_blanks (show Text.isBlank '-' = false by decide)]

theorem readPlainItems_writeClock {m : Moment} (h : m.Proper) :
    readPlainItems lenientTime
        { year := some m.date.year, month := some m.date.month, day := some m.date.day }
        (writeClock m ++ (writeFraction (m.nano % 1000000000) ++ ['Z'])) =
      .ok ({ m.fields with offset := none }, ['Z']) := by
  have hsecond := h.second_lt
  have hnano := h.nano_lt
  have hcolon : ∀ rest, NoDigit (':' :: rest) := noDigit_cons (by decide)
  have htext : writeClock m ++ (writeFraction (m.nano % 1000000000) ++ ['Z']) =
      padded 2 (m.second / 3600) ++ ':' :: (padded 2 (m.second / 60 % 60) ++ ':' ::
        (padded 2 (m.second % 60 + m.nano / 1000000000) ++
          (writeFraction (m.nano % 1000000000) ++ ['Z']))) := by
    simp [writeClock]
  have hhour : ∀ rest, readPlainItem (.number .hour)
      { year := some m.date.year, month := some m.date.month, day := some m.date.day }
      (padded 2 (m.second / 3600) ++ ':' :: rest) =
        .ok ({ year := some m.date.year, month := some m.date.month, day := some m.date.day
               halfDay := some (m.second / 3600 / 12)
               hourOfHalf := some (m.second / 3600 % 12) }, ':' :: rest) :=
    fun rest => readPlainItem_two rfl (by omega) (hcolon rest) (set_hour rfl rfl (by omega))
  have hminute : ∀ f : Fields, f.minute = none → ∀ rest, readPlainItem (.number .minute) f
      (padded 2 (m.second / 60 % 60) ++ ':' :: rest) =
        .ok ({ f with minute := some (m.second / 60 % 60) }, ':' :: rest) :=
    fun f hf rest => readPlainItem_two rfl (by omega) (hcolon rest) (set_minute hf (by omega))
  have hseconds : ∀ f : Fields, f.second = none → readPlainItem (.number .second) f
      (padded 2 (m.second % 60 + m.nano / 1000000000) ++
        (writeFraction (m.nano % 1000000000) ++ ['Z'])) =
        .ok ({ f with second := some (m.second % 60 + m.nano / 1000000000) },
          writeFraction (m.nano % 1000000000) ++ ['Z']) :=
    fun f hf => readPlainItem_two rfl (by omega) (noDigit_writeFraction _)
      (set_second hf (by omega))
  have hfraction : ∀ f : Fields, f.nano = none → readPlainItem (.fraction none) f
      (writeFraction (m.nano % 1000000000) ++ ['Z']) = _ :=
    fun f hf => readPlainItem_fraction (Nat.mod_lt _ (by decide)) hf
  -- Every item in turn leaves the text of the ones behind it.
  rw [htext]
  simp only [lenientTime, readPlainItems, hhour, hminute, hseconds, hfraction, readPlainItem_mark,
    readPlainItem_blanks (show Text.isBlank ':' = false by decide),
    readPlainItem_blanks (show Text.isBlank 'Z' = false by decide), ok_bind]
  rfl

/-- The moment that the fields of a moment's text agree on. -/
theorem instant?_fields {m : Moment} (h : m.Proper) (hvalid : m.date.Valid)
    (hrange : m.date.inRange = true) (ht : m.instant.inRange = true) :
    m.fields.instant? = .ok m.instant := by
  have hsecond := h.second_lt
  have hnano := h.nano_lt
  have hdate : m.fields.date? = .ok m.date := by
    unfold Fields.date? Fields.candidate
    simp only [Moment.fields, Fields.resolveYear, hvalid.ofYmd? hrange, ok_bind,
      Fields.orOutOfRange]
    rfl
  have htime : m.fields.time? = .ok (m.second, m.nano) := by
    unfold Fields.time?
    -- A leap second is written as second 60 and kept as second 59 with more than a second of nanos.
    by_cases hleap : m.nano < 1000000000
    · have hplain : m.second % 60 + m.nano / 1000000000 = m.second % 60 := by omega
      have hsixty : m.second % 60 ≠ 60 := by omega
      have hnanos : m.nano % 1000000000 = m.nano := Nat.mod_eq_of_lt hleap
      by_cases hzero : m.nano = 0
      · simp [Moment.fields, Fields.required, ok_bind, hzero, Nat.div_add_mod', clock_sum]
      · simp [Moment.fields, Fields.required, ok_bind, hplain, hnanos, hzero, Nat.div_add_mod',
          clock_sum]
    · have hsixty : m.second % 60 + m.nano / 1000000000 = 60 := by omega
      have hlast : m.second % 60 = 59 := by omega
      have hnanos : 1000000000 + m.nano % 1000000000 = m.nano := by omega
      have hsum := clock_sum m.second
      rw [hlast] at hsum
      by_cases hzero : m.nano % 1000000000 = 0
      · rw [hzero, Nat.add_zero] at hnanos
        simp [Moment.fields, Fields.required, ok_bind, hsixty, hzero, Nat.div_add_mod', hsum]
        exact hnanos
      · simp [Moment.fields, Fields.required, ok_bind, hsixty, hzero, Nat.div_add_mod', hsum,
          hnanos]
  have hmoment : m.fields.moment? 0 = .ok m := by
    unfold Fields.moment?
    simp only [hdate, htime]
    rfl
  unfold Fields.instant?
  simp only [show m.fields.offset = some 0 from rfl]
  show (m.fields.moment? 0 >>= _) = _
  rw [hmoment]
  show (if (Instant.mk (m.instant.second - 0) m.nano).inRange then
    Except.ok (Instant.mk (m.instant.second - 0) m.nano) else _) = _
  rw [Int.sub_zero]
  exact if_pos ht

/-- **A timestamp is read as its instant.** -/
theorem readLenient_rfc3339 {t : Instant} (h : t.Proper) (hrange : t.inRange = true) :
    readLenient t.rfc3339 = .ok t := by
  have hvalid := t.valid_moment
  have hproper := h.moment
  have hdate := readPlainItems_writeDate hvalid (t.inRange_moment.trans hrange)
    (noDigit_cons (show 'T'.isDigit = false by decide)
      (writeClock t.moment ++ (writeFraction (t.moment.nano % 1000000000) ++ ['Z'])))
  have hclock := readPlainItems_writeClock hproper
  have htext : t.rfc3339.toList = writeDate t.moment.date ++ 'T' :: (writeClock t.moment ++
      (writeFraction (t.moment.nano % 1000000000) ++ ['Z'])) := by
    simp [Instant.rfc3339]
  have htime : ∀ rest, scanTimeMark ('T' :: rest) = .ok ((), rest) := fun rest => rfl
  have hblank : Text.isBlank 'Z' = false := by decide
  have hutc : ¬ lowered (List.take 3 ['Z']) = ['u', 't', 'c'] := by decide
  have hzero : scanOffset ⟨true, false⟩ skipColonsAndBlanks ['Z'] = .ok (0, []) := rfl
  have hset : ({ t.moment.fields with offset := none } : Fields).setOffset 0 =
      .ok t.moment.fields := rfl
  have hfields : readLenientFields {} t.rfc3339.toList = .ok (t.moment.fields, []) := by
    unfold readLenientFields
    simp only [htext, hdate, htime, hclock, ok_bind, Text.stripStart_cons hblank, hutc, if_false,
      hzero, hset]
    rfl
  unfold readLenient
  simp only [hfields, ok_bind]
  have hback : t.moment.instant.inRange = true := by
    rw [t.instant_moment]
    exact hrange
  rw [instant?_fields hproper hvalid (t.inRange_moment.trans hrange) hback, t.instant_moment]
  rfl

end PanelSource.Calendar
