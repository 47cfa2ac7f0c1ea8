import PanelSource.Json.Reader
import PanelSource.Json.Writer
import PanelSource.Proofs.Number.Decimal

/- JSON text read back.

   A value is plain when it holds no doubles, its integers fit words of 64 bits, and its containers
   do not nest too deep. What is written for a plain value is read back as the value, whatever
   follows it that cannot be a part of it (`readsBack_of_plain`); so a whole text is
   (`ofText_compress`). Each step of the reader takes a character, of which the written text has
   enough. -/
namespace PanelSource
open Number

namespace Number

/-! ## Digits in JSON -/

theorem head?_decimal {n : Nat} (h : 0 < n) : (decimal n).head? ≠ some '0' := by
  induction n using Nat.strongRecOn with
  | _ n ih =>
    by_cases hn : n < 10
    · have hsmall : ∀ m < 10, 0 < m → (decimal m).head? ≠ some '0' := by decide
      exact hsmall n hn h
    · have hlong : decimal n = decimal (n / 10) ++ [Nat.digitChar (n % 10)] :=
        Nat.toDigits_of_base_le (by decide) (by omega)
      have hfront := ih (n / 10) (by omega) (by omega)
      rw [hlong]
      cases hd : decimal (n / 10) with
      | nil => exact absurd hd (decimal_ne_nil _)
      | cons c cs =>
        rw [hd] at hfront
        exact hfront

end Number

namespace Document

theorem digits_cons {c : Char} {ds : List Char} (h : Digits (c :: ds)) :
    c.isDigit = true ∧ Digits ds :=
  ⟨h c List.mem_cons_self, fun d hd => h d (List.mem_cons_of_mem c hd)⟩

theorem gather_digits {ds : List Char} (h : Digits ds) {word : Nat}
    (hle : Nat.ofDigitChars 10 ds word ≤ uint64Max) :
    gather word ds = (Nat.ofDigitChars 10 ds word, []) := by
  induction ds generalizing word with
  | nil => rfl
  | cons c ds ih =>
    obtain ⟨hc, hds⟩ := digits_cons h
    rw [ofDigitChars_cons_digit] at hle ⊢
    have hnext : ¬ uint64Max < word * 10 + (c.toNat - '0'.toNat) := by
      have := le_ofDigitChars ds (word * 10 + (c.toNat - '0'.toNat))
      omega
    simp only [gather, digitValue_of_isDigit hc, Option.getD_some, if_neg hnext]
    exact ih hds hle

/-- What may follow a value inside a text: nothing, or what separates and closes. -/
def Ended (rest : List Char) : Prop := ∀ c ∈ rest.head?, c = ',' ∨ c = ']' ∨ c = '\x7d'

theorem ended_nil : Ended [] := by
  intro c hc
  cases hc

theorem ended_comma (rest : List Char) : Ended (',' :: rest) := by
  intro c hc
  cases hc
  exact .inl rfl

theorem ended_bracket (rest : List Char) : Ended (']' :: rest) := by
  intro c hc
  cases hc
  exact .inr (.inl rfl)

theorem ended_brace (rest : List Char) : Ended ('\x7d' :: rest) := by
  intro c hc
  cases hc
  exact .inr (.inr rfl)

theorem readUnsignedNumber_decimal {n : Nat} (hle : n ≤ uint64Max) (negative : Bool)
    {rest : List Char} (hrest : Ended rest) :
    readUnsignedNumber negative (decimal n ++ rest) = some (wholeNumber negative n, rest) := by
  have hafter : ∀ c ∈ rest.head?, c.isDigit = false := by
    intro c hc
    rcases hrest c hc with rfl | rfl | rfl
    · rfl
    · rfl
    · rfl
  have hzero : ((decimal n).length > 1 && (decimal n).head? == some '0') = false := by
    by_cases hn : n = 0
    · subst hn
      rfl
    · have hhead := head?_decimal (Nat.pos_of_ne_zero hn)
      simp [hhead]
  have hgather : gather 0 (decimal n) = (n, []) := by
    rw [gather_digits (digits_decimal n) (by simpa using hle), ofDigitChars_decimal]
  unfold readUnsignedNumber
  simp only [takeWhile_digits (digits_decimal n) hafter, dropWhile_digits (digits_decimal n) hafter,
    hzero, hgather, List.isEmpty_iff, decimal_ne_nil, Bool.or_false, if_false]
  cases rest with
  | nil => rfl
  | cons c more =>
    rcases hrest c rfl with rfl | rfl | rfl
    · rfl
    · rfl
    · rfl

/-- An integer that fits a word is read back, with its sign. -/
theorem readNumber_signedDecimal {i : Int} (hmin : int64Min ≤ i) (hmax : i ≤ uint64Max)
    {rest : List Char} (hrest : Ended rest) :
    readNumber (signedDecimal i ++ rest) = some (.integer i, rest) := by
  have htwo : twoTo 63 = 9223372036854775808 := by decide
  have hword : uint64Max = 18446744073709551615 := by decide
  simp only [int64Min, htwo] at hmin
  rw [hword] at hmax
  by_cases hneg : i < 0
  · have hread := readUnsignedNumber_decimal (n := i.natAbs) (by omega) true hrest
    have hwhole : wholeNumber true i.natAbs = .integer i := by
      have hrange : ¬ (i.natAbs = 0 ∨ twoTo 63 < i.natAbs) := by omega
      simp only [wholeNumber, Bool.not_true, Bool.false_eq_true, if_false, if_neg hrange]
      congr 1
      omega
    rw [signedDecimal, if_pos hneg, List.cons_append]
    show readUnsignedNumber true _ = _
    rw [hread, hwhole]
  · have hread := readUnsignedNumber_decimal (n := i.natAbs) (by omega) false hrest
    have hwhole : wholeNumber false i.natAbs = .integer i := by
      simp only [wholeNumber, Bool.not_false, if_true]
      congr 1
      omega
    -- The digits do not begin with the sign, so that the text is read as a number without one.
    have hsign : ∀ r, decimal i.natAbs ++ rest ≠ '-' :: r := by
      intro r h
      cases hd : decimal i.natAbs with
      | nil => exact decimal_ne_nil _ hd
      | cons c cs =>
        rw [hd] at h
        cases h
        exact minus_ne_decimal hd.symm
    rw [signedDecimal, if_neg hneg]
    unfold readNumber
    split
    · rename_i r h
      exact absurd h (hsign r)
    · rw [hread, hwhole]

end Document

/-! ## Strings in JSON -/

namespace Document
open Json

theorem readHex4_control : ∀ n < 32,
    hexValue (hexDigit (n / 16)) = some (n / 16) ∧
      hexValue (hexDigit (n % 16)) = some (n % 16) := by
  decide

/-- A character is read back from what is written for it. -/
theorem readStringFrom_writeChar (c : Char) (fuel : Nat) (done rest : List Char) :
    readStringFrom (fuel + 1) done (writeChar c ++ rest) =
      readStringFrom fuel (c :: done) rest := by
  by_cases hquote : c = '"'
  · subst hquote
    rfl
  by_cases hslash : c = '\\'
  · subst hslash
    rfl
  by_cases hn : c = '\n'
  · subst hn
    rfl
  by_cases hr : c = '\r'
  · subst hr
    rfl
  by_cases ht : c = '\t'
  · subst ht
    rfl
  by_cases hb : c = '\x08'
  · subst hb
    rfl
  by_cases hf : c = '\x0c'
  · subst hf
    rfl
  -- The other control characters have no letter and are escaped by their number.
  by_cases hcontrol : c < ' '
  · have hlt : c.toNat < 32 := hcontrol
    obtain ⟨hhigh, hlow⟩ := readHex4_control c.toNat hlt
    have hzero : hexValue '0' = some 0 := rfl
    have hvalue : ((0 * 16 + 0) * 16 + c.toNat / 16) * 16 + c.toNat % 16 = c.toNat := by omega
    have hescape : readEscape ('u' :: '0' :: '0' :: hexDigit (c.toNat / 16) ::
        hexDigit (c.toNat % 16) :: rest) = some (c, rest) := by
      simp only [readEscape, readHex4, hhigh, hlow, hzero, hvalue]
      rw [if_pos (by omega), Char.ofNat_toNat]
    simp only [writeChar, hquote, hslash, hn, hr, ht, hb, hf, hcontrol, if_true, if_false,
      List.cons_append, List.nil_append]
    rw [readStringFrom, if_neg (by decide), if_pos rfl, hescape]
  · simp only [writeChar, hquote, hslash, hn, hr, ht, hb, hf, hcontrol, if_false]
    show readStringFrom (fuel + 1) done (c :: rest) = _
    rw [readStringFrom, if_neg hquote, if_neg hslash, if_neg hcontrol]

theorem readStringFrom_chars (cs : List Char) {fuel : Nat} (hfuel : cs.length < fuel)
    (done rest : List Char) : readStringFrom fuel done (cs.flatMap writeChar ++ '"' :: rest) =
      some (String.ofList (done.reverse ++ cs), rest) := by
  induction cs generalizing fuel done with
  | nil =>
    obtain ⟨fuel, rfl⟩ := Nat.exists_eq_succ_of_ne_zero (by omega : fuel ≠ 0)
    simp [readStringFrom]
  | cons c cs ih =>
    obtain ⟨fuel, rfl⟩ := Nat.exists_eq_succ_of_ne_zero (by omega : fuel ≠ 0)
    rw [List.flatMap_cons, List.append_assoc, readStringFrom_writeChar]
    rw [ih (by simpa using hfuel)]
    simp

theorem one_le_length_writeChar (c : Char) : 1 ≤ (writeChar c).length := by
  unfold writeChar
  repeat' split
  all_goals simp

theorem length_le_flatMap_writeChar (cs : List Char) :
    cs.length ≤ (cs.flatMap writeChar).length := by
  induction cs with
  | nil => simp
  | cons c cs ih =>
    have := one_le_length_writeChar c
    simp only [List.flatMap_cons, List.length_append, List.length_cons]
    omega

theorem readString_chars (s : String) (rest : List Char) :
    readString (s.toList.flatMap writeChar ++ '"' :: rest) = some (s, rest) := by
  have hlen := length_le_flatMap_writeChar s.toList
  unfold readString
  rw [readStringFrom_chars s.toList (by simp only [List.length_append, List.length_cons]; omega)]
  simp

end Document

/-! ## Values -/

namespace Json

/-- A value that a text holds exactly: no doubles, integers of at most 64 bits, and containers that
    nest no deeper than so many levels. -/
inductive Plain : Nat → Json → Prop
  | null {depth : Nat} : Plain depth .null
  | bool {depth : Nat} (b : Bool) : Plain depth (.bool b)
  | integer {depth : Nat} {i : Int} (hmin : int64Min ≤ i) (hmax : i ≤ uint64Max) :
      Plain depth (.number (.integer i))
  | string {depth : Nat} (s : String) : Plain depth (.string s)
  | array {depth : Nat} {items : List Json} (h : ∀ j ∈ items, Plain depth j) :
      Plain (depth + 1) (.array items)
  | object {depth : Nat} {fields : List (String × Json)} (h : ∀ f ∈ fields, Plain depth f.2) :
      Plain (depth + 1) (.object fields)

theorem writeItems_cons (j : Json) {rest : List Json} (h : rest ≠ []) :
    writeItems (j :: rest) = write j ++ ',' :: writeItems rest := by
  cases rest with
  | nil => exact absurd rfl h
  | cons k rest => rfl

theorem writeFields_cons (name : String) (j : Json) {rest : List (String × Json)} (h : rest ≠ []) :
    writeFields ((name, j) :: rest) =
      writeString name ++ ':' :: write j ++ ',' :: writeFields rest := by
  cases rest with
  | nil => exact absurd rfl h
  | cons k rest => rfl

/-- What a number begins with. -/
def BeginsNumber (c : Char) : Prop := c = '-' ∨ c.isDigit = true

theorem BeginsNumber.ne {c d : Char} (h : BeginsNumber c) (hd : d.isDigit = false)
    (hsign : d ≠ '-') : c ≠ d := by
  rcases h with rfl | h
  · exact hsign.symm
  · exact ne_of_isDigit h hd

theorem BeginsNumber.not_isSpace {c : Char} (h : BeginsNumber c) : Document.isSpace c = false := by
  have hspace := h.ne (d := ' ') rfl (by decide)
  have hfeed := h.ne (d := '\n') rfl (by decide)
  have htab := h.ne (d := '\t') rfl (by decide)
  have hreturn := h.ne (d := '\r') rfl (by decide)
  simp [Document.isSpace, hspace, hfeed, htab, hreturn]

theorem signedDecimal_cons (i : Int) : ∃ c cs, signedDecimal i = c :: cs ∧ BeginsNumber c := by
  unfold signedDecimal
  split
  · exact ⟨_, _, rfl, .inl rfl⟩
  · cases hd : decimal i.natAbs with
    | nil => exact absurd hd (decimal_ne_nil _)
    | cons c cs => exact ⟨c, cs, rfl, .inr (isDigit_of_mem_decimal (hd ▸ List.mem_cons_self))⟩

theorem Plain.head {depth : Nat} {j : Json} (h : Plain depth j) :
    ∃ c cs, write j = c :: cs ∧ Document.isSpace c = false ∧ c ≠ ']' ∧ c ≠ '\x7d' := by
  cases h with
  | null => exact ⟨_, _, rfl, rfl, by decide, by decide⟩
  | bool b =>
    cases b with
    | false => exact ⟨_, _, rfl, rfl, by decide, by decide⟩
    | true => exact ⟨_, _, rfl, rfl, by decide, by decide⟩
  | integer hmin hmax =>
    obtain ⟨c, cs, hcs, hc⟩ := signedDecimal_cons ‹Int›
    exact ⟨c, cs, hcs, hc.not_isSpace, hc.ne rfl (by decide), hc.ne rfl (by decide)⟩
  | string s => exact ⟨_, _, rfl, rfl, by decide, by decide⟩
  | array h => exact ⟨_, _, rfl, rfl, by decide, by decide⟩
  | object h => exact ⟨_, _, rfl, rfl, by decide, by decide⟩

theorem Plain.length_pos {depth : Nat} {j : Json} (h : Plain depth j) : 0 < (write j).length := by
  obtain ⟨c, cs, hcs, -⟩ := h.head
  simp [hcs]

end Json

namespace Document
open Json

theorem skipSpace_cons {c : Char} (h : isSpace c = false) (cs : List Char) :
    skipSpace (c :: cs) = c :: cs := by
  simp [skipSpace, h]

/-- A value is read back where a reader has enough steps and it is followed by what ends it. -/
def ReadsBack (depth : Nat) (j : Json) : Prop :=
  ∀ fuel rest, 2 * (write j).length ≤ fuel → Ended rest →
    readValue fuel depth (write j ++ rest) = (ofJson j, rest)

theorem readValue_number {c : Char} (hc : BeginsNumber c) (fuel depth : Nat) {cs rest : List Char}
    {n : JsonNumber} (h : readNumber (c :: cs) = some (n, rest)) :
    readValue (fuel + 1) depth (c :: cs) = (.number n, rest) := by
  have hn := hc.ne (d := 'n') rfl (by decide)
  have ht := hc.ne (d := 't') rfl (by decide)
  have hf := hc.ne (d := 'f') rfl (by decide)
  have hquote := hc.ne (d := '"') rfl (by decide)
  have hbracket := hc.ne (d := '[') rfl (by decide)
  have hbrace := hc.ne (d := '\x7b') rfl (by decide)
  rw [readValue, skipSpace_cons hc.not_isSpace]
  split <;> simp_all

theorem readsBack_integer {depth : Nat} {i : Int} (hmin : int64Min ≤ i) (hmax : i ≤ uint64Max) :
    ReadsBack depth (.number (.integer i)) := by
  intro fuel rest hfuel hrest
  obtain ⟨c, cs, hcs, hc⟩ := signedDecimal_cons i
  have hread := readNumber_signedDecimal hmin hmax hrest
  show readValue fuel depth (signedDecimal i ++ rest) = (.number (.integer i), rest)
  have hlen : 2 * (signedDecimal i).length ≤ fuel := hfuel
  rw [hcs] at hread hlen ⊢
  obtain ⟨fuel, rfl⟩ := Nat.exists_eq_succ_of_ne_zero (by simp at hlen; omega : fuel ≠ 0)
  rw [List.cons_append] at hread ⊢
  exact readValue_number hc fuel depth hread

theorem readsBack_string {depth : Nat} (s : String) : ReadsBack depth (.string s) := by
  intro fuel rest hfuel hrest
  have hwrite : write (.string s) ++ rest = '"' :: (s.toList.flatMap writeChar ++ '"' :: rest) := by
    simp [write, writeString]
  obtain ⟨fuel, rfl⟩ : ∃ n, fuel = n + 1 := by
    refine Nat.exists_eq_succ_of_ne_zero ?_
    simp only [write, writeString, List.length_append, List.length_cons] at hfuel
    omega
  rw [hwrite, readValue, skipSpace_cons (by rfl)]
  simp only [readString_chars]
  rfl

/-- Items are read back one after the other, up to the bracket behind them. -/
theorem readItems_write {depth : Nat} {j : Json} {items : List Json}
    (hback : ∀ k ∈ j :: items, ReadsBack depth k)
    (fuel : Nat) (hfuel : 2 * (writeItems (j :: items)).length + 1 ≤ fuel)
    (done : List Document) (rest : List Char) :
    readItems fuel depth done (writeItems (j :: items) ++ ']' :: rest) =
      (.array (done.reverse ++ itemsOfJson (j :: items)) true, rest) := by
  induction items generalizing j fuel done with
  | nil =>
    obtain ⟨fuel, rfl⟩ := Nat.exists_eq_succ_of_ne_zero (by omega : fuel ≠ 0)
    have hj := hback j List.mem_cons_self fuel (']' :: rest)
      (by simp only [writeItems] at hfuel; omega) (ended_bracket rest)
    simp only [writeItems] at hj ⊢
    rw [readItems, hj]
    simp [skipSpace_cons (show isSpace ']' = false from rfl), itemsOfJson]
  | cons k items ih =>
    obtain ⟨fuel, rfl⟩ := Nat.exists_eq_succ_of_ne_zero (by omega : fuel ≠ 0)
    rw [writeItems_cons j (List.cons_ne_nil k items)] at hfuel ⊢
    simp only [List.length_append, List.length_cons] at hfuel
    have hj := hback j List.mem_cons_self fuel (',' :: (writeItems (k :: items) ++ ']' :: rest))
      (by omega) (ended_comma _)
    have hitems := ih (fun l hl => hback l (List.mem_cons_of_mem j hl)) fuel (by omega)
      (ofJson j :: done)
    rw [List.append_assoc, List.cons_append, readItems, hj]
    simp only [skipSpace_cons (show isSpace ',' = false from rfl), hitems]
    simp [itemsOfJson]

/-- Fields are read back one after the other, up to the brace behind them. -/
theorem readFields_write {depth : Nat} {f : String × Json} {fields : List (String × Json)}
    (hback : ∀ g ∈ f :: fields, ReadsBack depth g.2)
    (fuel : Nat) (hfuel : 2 * (writeFields (f :: fields)).length + 1 ≤ fuel)
    (done : List (String × Document)) (rest : List Char) :
    readFields fuel depth done (writeFields (f :: fields) ++ '\x7d' :: rest) =
      (.object (done.reverse ++ fieldsOfJson (f :: fields)) true, rest) := by
  induction fields generalizing f fuel done with
  | nil =>
    obtain ⟨name, j⟩ := f
    obtain ⟨fuel, rfl⟩ := Nat.exists_eq_succ_of_ne_zero (by omega : fuel ≠ 0)
    have htext : writeFields [(name, j)] ++ '\x7d' :: rest =
        '"' :: (name.toList.flatMap writeChar ++ '"' :: ':' :: (write j ++ '\x7d' :: rest)) := by
      simp [writeFields, writeString]
    have hback : ReadsBack depth j := hback _ List.mem_cons_self
    have hj := hback fuel ('\x7d' :: rest)
      (by simp only [writeFields, List.length_append, List.length_cons] at hfuel; omega)
      (ended_brace rest)
    rw [htext, readFields, skipSpace_cons (by rfl)]
    simp only [readString_chars, skipSpace_cons (show isSpace ':' = false from rfl), hj,
      skipSpace_cons (show isSpace '\x7d' = false from rfl)]
    simp [fieldsOfJson]
  | cons g fields ih =>
    obtain ⟨name, j⟩ := f
    obtain ⟨fuel, rfl⟩ := Nat.exists_eq_succ_of_ne_zero (by omega : fuel ≠ 0)
    rw [writeFields_cons name j (List.cons_ne_nil g fields)] at hfuel ⊢
    simp only [List.length_append, List.length_cons] at hfuel
    have htext : writeString name ++ ':' :: write j ++ ',' :: writeFields (g :: fields) ++
        '\x7d' :: rest = '"' :: (name.toList.flatMap writeChar ++ '"' :: ':' ::
          (write j ++ ',' :: (writeFields (g :: fields) ++ '\x7d' :: rest))) := by
      simp [writeString]
    have hfirst : ReadsBack depth j := hback _ List.mem_cons_self
    have hj := hfirst fuel (',' :: (writeFields (g :: fields) ++ '\x7d' :: rest)) (by omega)
      (ended_comma _)
    have hfields := ih (fun h hh => hback h (List.mem_cons_of_mem _ hh)) fuel (by omega)
      ((name, ofJson j) :: done)
    rw [htext, readFields, skipSpace_cons (by rfl)]
    simp only [readString_chars, skipSpace_cons (show isSpace ':' = false from rfl), hj,
      skipSpace_cons (show isSpace ',' = false from rfl), hfields]
    simp [fieldsOfJson]

theorem readsBack_array {depth : Nat} {items : List Json} (hplain : ∀ j ∈ items, Plain depth j)
    (hback : ∀ j ∈ items, ReadsBack depth j) : ReadsBack (depth + 1) (.array items) := by
  intro fuel rest hfuel hrest
  simp only [write, List.length_append, List.length_cons, List.length_nil] at hfuel
  obtain ⟨fuel, rfl⟩ := Nat.exists_eq_succ_of_ne_zero (by omega : fuel ≠ 0)
  have htext : write (.array items) ++ rest = '[' :: (writeItems items ++ ']' :: rest) := by
    simp [write]
  rw [htext, readValue, skipSpace_cons (by rfl)]
  cases items with
  | nil => rfl
  | cons j items =>
    have hitems := readItems_write hback fuel (by omega) [] rest
    obtain ⟨c, cs, hcs, hspace, hclose, -⟩ := (hplain j List.mem_cons_self).head
    have hhead : ∃ ds, writeItems (j :: items) ++ ']' :: rest = c :: ds := by
      cases items with
      | nil => exact ⟨cs ++ ']' :: rest, by simp [writeItems, hcs]⟩
      | cons k items => exact ⟨_, by rw [writeItems_cons j (by simp), hcs]; rfl⟩
    obtain ⟨ds, hds⟩ := hhead
    simp only
    rw [hds] at hitems ⊢
    rw [skipSpace_cons hspace]
    split
    · rename_i h
      exact absurd (List.cons.inj h).1 hclose
    · exact hitems

theorem readsBack_object {depth : Nat} {fields : List (String × Json)}
    (hback : ∀ f ∈ fields, ReadsBack depth f.2) : ReadsBack (depth + 1) (.object fields) := by
  intro fuel rest hfuel hrest
  simp only [write, List.length_append, List.length_cons, List.length_nil] at hfuel
  obtain ⟨fuel, rfl⟩ := Nat.exists_eq_succ_of_ne_zero (by omega : fuel ≠ 0)
  have htext : write (.object fields) ++ rest =
      '\x7b' :: (writeFields fields ++ '\x7d' :: rest) := by
    simp [write]
  rw [htext, readValue, skipSpace_cons (by rfl)]
  cases fields with
  | nil => rfl
  | cons f fields =>
    have hfields := readFields_write hback fuel (by omega) [] rest
    have hhead : ∃ ds, writeFields (f :: fields) ++ '\x7d' :: rest = '"' :: ds := by
      cases fields with
      | nil => exact ⟨_, rfl⟩
      | cons g fields => exact ⟨_, rfl⟩
    obtain ⟨ds, hds⟩ := hhead
    simp only
    rw [hds] at hfields ⊢
    rw [skipSpace_cons (by rfl)]
    exact hfields

/-- **What is written for a plain value is read back as the value.** -/
theorem readsBack_of_plain {depth : Nat} {j : Json} (h : Plain depth j) : ReadsBack depth j := by
  induction h with
  | null =>
    intro fuel rest hfuel hrest
    have hlen := (Plain.null : Plain 0 _).length_pos
    obtain ⟨fuel, rfl⟩ := Nat.exists_eq_succ_of_ne_zero (by omega : fuel ≠ 0)
    rfl
  | bool b =>
    intro fuel rest hfuel hrest
    have hlen := (Plain.bool b : Plain 0 _).length_pos
    obtain ⟨fuel, rfl⟩ := Nat.exists_eq_succ_of_ne_zero (by omega : fuel ≠ 0)
    cases b with
    | false => rfl
    | true => rfl
  | integer hmin hmax => exact readsBack_integer hmin hmax
  | string s => exact readsBack_string s
  | array h ih => exact readsBack_array h ih
  | object h ih => exact readsBack_object ih

/-- The text of a plain value is read as the value, and nothing is left of it. -/
theorem ofText_compress {j : Json} (h : Plain 127 j) : ofText j.compress = (ofJson j, true) := by
  have hread := readsBack_of_plain h (2 * (write j).length + 2) [] (by omega)
    ended_nil
  rw [List.append_nil] at hread
  unfold ofText Document.read compress
  rw [String.toList_ofList, hread]
  rfl

end Document
end PanelSource
