import PanelSource.Http.Form
import PanelSource.Proofs.Text.Octets

/- Pairs in a query read back.

   Every octet that is not kept is written as a percent sign and two digits, which no reader takes
   for anything else; what is kept is no percent sign, no plus sign and no separator
   (`isFormChar_bounds`). So a name or a value is read as it was meant (`formText_formEncode`), and
   the pairs of a query are the pairs that it was written from (`readPairs_writePairs`). -/
namespace PanelSource.Http
open Text

/-! ## Percent signs -/

theorem percentDecode_plain {b : UInt8} (h : b ≠ 0x25) (rest : List UInt8) :
    percentDecode (b :: rest) = b :: percentDecode rest := by
  cases rest with
  | nil => simp [percentDecode, h]
  | cons hi rest =>
    cases rest with
    | nil => simp [percentDecode, h]
    | cons lo rest => rw [percentDecode, if_neg h]

def hexByte (n : Nat) : UInt8 := UInt8.ofNat (if n < 10 then 0x30 + n else 0x37 + n)

theorem octets_hexDigitOf : ∀ n < 16, String.utf8EncodeChar (hexDigitOf n) = [hexByte n] := by
  decide

theorem hexOctet?_hexByte : ∀ n < 16, hexOctet? (hexByte n) = some (UInt8.ofNat n) := by
  decide

theorem hexByte_ne_plus : ∀ n < 16, hexByte n ≠ 0x2B := by
  decide

/-- A plus sign as the space that it means. -/
def spaced (b : UInt8) : UInt8 := if b = 0x2B then 0x20 else b

theorem nibbles (b : UInt8) :
    UInt8.ofNat (b.toNat / 16) * 16 + UInt8.ofNat (b.toNat % 16) = b := by
  have hb := b.toNat_lt
  have hsixteen : (16 : UInt8).toNat = 16 := rfl
  apply UInt8.toNat_inj.mp
  simp only [UInt8.toNat_add, UInt8.toNat_mul, UInt8.toNat_ofNat', hsixteen]
  omega

/-- An octet that is written in digits is read as it was. -/
theorem percentDecode_percentOctet (b : UInt8) (rest : List UInt8) :
    percentDecode ((octets (percentOctet b)).map spaced ++ rest) = b :: percentDecode rest := by
  have hb := b.toNat_lt
  have hhigh : b.toNat / 16 < 16 := by omega
  have hlow : b.toNat % 16 < 16 := by omega
  have hoctets : octets (percentOctet b) =
      [0x25, hexByte (b.toNat / 16), hexByte (b.toNat % 16)] := by
    simp only [octets, percentOctet, List.flatMap_cons, List.flatMap_nil, octets_hexDigitOf _ hhigh,
      octets_hexDigitOf _ hlow]
    rfl
  have hspaced : (octets (percentOctet b)).map spaced = octets (percentOctet b) := by
    rw [hoctets]
    simp [spaced, hexByte_ne_plus _ hhigh, hexByte_ne_plus _ hlow]
  rw [hspaced, hoctets, List.cons_append, List.cons_append, List.cons_append, percentDecode]
  simp only [if_true, hexOctet?_hexByte _ hhigh, hexOctet?_hexByte _ hlow, nibbles]
  rfl

theorem percentDecode_percentOctets (bs rest : List UInt8) :
    percentDecode ((octets (bs.flatMap percentOctet)).map spaced ++ rest) =
      bs ++ percentDecode rest := by
  induction bs with
  | nil => rfl
  | cons b bs ih =>
    have hsplit : octets ((b :: bs).flatMap percentOctet) =
        octets (percentOctet b) ++ octets (bs.flatMap percentOctet) := by
      rw [List.flatMap_cons, octets, List.flatMap_append]
      rfl
    rw [hsplit, List.map_append, List.append_assoc, percentDecode_percentOctet, ih]
    rfl

/-! ## Names and values -/

/-- What is kept is one octet, no percent sign, no plus sign and no separator. -/
theorem isFormChar_bounds {c : Char} (h : isFormChar c = true) :
    c.toNat < 0x80 ∧ c ≠ '%' ∧ c ≠ '+' ∧ c ≠ '&' ∧ c ≠ '=' := by
  have hne (d : Char) (hd : isFormChar d = false) : c ≠ d := by
    intro heq
    rw [heq, hd] at h
    cases h
  refine ⟨?_, hne _ (by decide), hne _ (by decide), hne _ (by decide), hne _ (by decide)⟩
  have hletters : c.isAlphanum = true → c.toNat < 0x80 := by
    intro hc
    have hsplit : c.isAlphanum = (decide (c.val ≥ 'A'.val ∧ c.val ≤ 'Z'.val) ||
      (decide (c.val ≥ 'a'.val) && decide (c.val ≤ 'z'.val)) ||
      (decide (c.val ≥ '0'.val) && decide (c.val ≤ '9'.val))) := rfl
    simp only [hsplit, Bool.or_eq_true, Bool.and_eq_true, decide_eq_true_eq, ge_iff_le,
      UInt32.le_iff_toNat_le] at hc
    have hcodes : ((65 ≤ c.toNat ∧ c.toNat ≤ 90) ∨ (97 ≤ c.toNat ∧ c.toNat ≤ 122)) ∨
        (48 ≤ c.toNat ∧ c.toNat ≤ 57) := hc
    omega
  simp only [isFormChar, Bool.or_eq_true, List.contains_eq_mem, List.mem_cons, List.not_mem_nil,
    or_false, decide_eq_true_eq] at h
  rcases h with h | rfl | rfl | rfl | rfl
  · exact hletters h
  · decide
  · decide
  · decide
  · decide

theorem encodeChar_ascii {c : Char} (h : c.toNat < 0x80) :
    String.utf8EncodeChar c = [UInt8.ofNat c.toNat] := by
  have hval : c.val.toNat ≤ 0x7F := Nat.le_of_lt_succ h
  unfold String.utf8EncodeChar
  simp only
  rw [if_pos hval]
  rfl

theorem ofNat_ne {c : Char} (h : c.toNat < 0x80) {d : Char} (hd : d.toNat < 0x80) (hne : c ≠ d) :
    UInt8.ofNat c.toNat ≠ UInt8.ofNat d.toNat := by
  intro heq
  have hnat := congrArg UInt8.toNat heq
  rw [toNat_ofNat (by omega), toNat_ofNat (by omega)] at hnat
  exact hne (Char.toNat_inj.mp hnat)

/-- A character is read as it was meant. -/
theorem percentDecode_char (c : Char) (rest : List UInt8) :
    percentDecode ((octets (if c = ' ' then ['+'] else percentEncode isFormChar [c])).map spaced ++
      rest) = String.utf8EncodeChar c ++ percentDecode rest := by
  by_cases hspace : c = ' '
  · subst hspace
    exact percentDecode_plain (by decide) rest
  rw [if_neg hspace]
  unfold percentEncode
  rw [List.flatMap_cons, List.flatMap_nil, List.append_nil]
  cases hkept : isFormChar c with
  | true =>
    obtain ⟨hascii, hpercent, hplus, -⟩ := isFormChar_bounds hkept
    have hbyte : UInt8.ofNat c.toNat ≠ 0x25 := ofNat_ne hascii (by decide) hpercent
    have hspaced : spaced (UInt8.ofNat c.toNat) = UInt8.ofNat c.toNat :=
      if_neg (ofNat_ne hascii (by decide) hplus)
    have hoctets : octets [c] = [UInt8.ofNat c.toNat] := by
      rw [octets, List.flatMap_cons, List.flatMap_nil, encodeChar_ascii hascii]
      rfl
    rw [if_pos rfl, hoctets, List.map_cons, List.map_nil, hspaced, List.cons_append,
      percentDecode_plain hbyte, encodeChar_ascii hascii]
    rfl
  | false =>
    have hoctets : octets [c] = String.utf8EncodeChar c := by
      rw [octets, List.flatMap_cons, List.flatMap_nil, List.append_nil]
    rw [if_neg Bool.false_ne_true, percentDecode_percentOctets, hoctets]

/-- A name or a value is read as it was meant. -/
theorem formText_formEncode (s : String) : formText (formEncode s) = s := by
  have hdecode (cs : List Char) : percentDecode ((octets (cs.flatMap fun c =>
      if c = ' ' then ['+'] else percentEncode isFormChar [c])).map spaced) = octets cs := by
    induction cs with
    | nil => simp [octets, percentDecode]
    | cons c cs ih =>
      rw [List.flatMap_cons, octets, List.flatMap_append, List.map_append]
      exact (percentDecode_char c _).trans (congrArg (String.utf8EncodeChar c ++ ·) ih)
  unfold formText formEncode
  show String.ofList (ofOctetsLossy (percentDecode (List.map spaced _))) = s
  rw [hdecode, ofOctetsLossy_octets, String.ofList_toList]

/-! ## Pairs -/

theorem isFormChar_hexDigitOf : ∀ n < 16, isFormChar (hexDigitOf n) = true := by
  decide

/-- No separator stands in what is written for a name or a value. -/
theorem ne_of_mem_formEncode {s : String} {c : Char} (h : c ∈ formEncode s) :
    c ≠ '&' ∧ c ≠ '=' := by
  obtain ⟨d, -, hc⟩ := List.mem_flatMap.mp h
  split at hc
  · rw [List.mem_singleton.mp hc]
    decide
  · obtain ⟨e, he, hc⟩ := List.mem_flatMap.mp hc
    split at hc
    · rename_i hkept
      rw [List.mem_singleton.mp hc]
      exact (isFormChar_bounds hkept).2.2.2
    · obtain ⟨b, -, hc⟩ := List.mem_flatMap.mp hc
      have hb := b.toNat_lt
      simp only [percentOctet, List.mem_cons, List.not_mem_nil, or_false] at hc
      rcases hc with rfl | rfl | rfl
      · decide
      · exact (isFormChar_bounds (isFormChar_hexDigitOf _ (by omega))).2.2.2
      · exact (isFormChar_bounds (isFormChar_hexDigitOf _ (by omega))).2.2.2

def writePair (p : String × String) : List Char := formEncode p.1 ++ ['='] ++ formEncode p.2

theorem readPair_writePair (p : String × String) : readPair (writePair p) = p := by
  have hname : ∀ c ∈ formEncode p.1, c ≠ '=' := fun c hc => (ne_of_mem_formEncode hc).2
  have htext : writePair p = formEncode p.1 ++ '=' :: formEncode p.2 := by simp [writePair]
  have htake : (writePair p).takeWhile (· ≠ '=') = formEncode p.1 := by
    rw [htext, List.takeWhile_append_of_pos (by simpa using hname)]
    simp
  have hdrop : (writePair p).dropWhile (· ≠ '=') = '=' :: formEncode p.2 := by
    rw [htext, List.dropWhile_append_of_pos (by simpa using hname)]
    simp
  rw [readPair, htake, hdrop, formText_formEncode]
  show (p.1, formText (formEncode p.2)) = p
  rw [formText_formEncode]

/-- **The pairs of a query are the pairs that it was written from.** -/
theorem readPairs_writePairs (pairs : List (String × String)) :
    readPairs (writePairs pairs) = pairs := by
  by_cases hempty : pairs = []
  · subst hempty
    rfl
  have hsplit : (writePairs pairs).toList.splitOn '&' = pairs.map writePair := by
    have hfree : ∀ part ∈ pairs.map writePair, '&' ∉ part := by
      intro part hpart hmem
      obtain ⟨p, -, rfl⟩ := List.mem_map.mp hpart
      simp only [writePair, List.mem_append, List.mem_singleton] at hmem
      rcases hmem with (hmem | hmem) | hmem
      · exact (ne_of_mem_formEncode hmem).1 rfl
      · exact absurd hmem (by decide)
      · exact (ne_of_mem_formEncode hmem).1 rfl
    rw [writePairs, String.toList_ofList]
    exact List.splitOn_intercalate '&' hfree (by simpa using hempty)
  have hfilter : (pairs.map writePair).filter (fun part => !part.isEmpty) =
      pairs.map writePair := by
    rw [List.filter_eq_self]
    intro part hpart
    obtain ⟨p, -, rfl⟩ := List.mem_map.mp hpart
    simp [writePair]
  rw [readPairs, hsplit, hfilter, List.map_map]
  exact (List.map_congr_left fun p _ => readPair_writePair p).trans (List.map_id pairs)

end PanelSource.Http
