import PanelSource.Text.Octets

/- Texts in UTF-8 read back.

   The octets of a character are taken one after the other to the character itself, whatever follows
   (`readOctets_char`), so that a text is read back from its octets, by the strict reader and by the
   lossy one (`ofOctets?_octets`, `ofOctetsLossy_octets`). -/
namespace PanelSource.Text

/-! ## One octet -/

section
variable {p : PartialChar} {n : Nat} (rest : List UInt8)

theorem toNat_ofNat (h : n < 256) : (UInt8.ofNat n).toNat = n := by
  rw [UInt8.toNat_ofNat']
  exact Nat.mod_eq_of_lt h

theorem readOctets_ascii (h : n < 0x80) :
    readOctets none (UInt8.ofNat n :: rest) = some (Char.ofNat n) :: readOctets none rest := by
  rw [readOctets, toNat_ofNat (by omega)]
  simp [readOctet, readFirst, h]

/-- The first octet of several. -/
theorem readOctets_begin (hlow : 0x80 ≤ n) (hhigh : n < 256) (h : PartialChar.begin? n = some p) :
    readOctets none (UInt8.ofNat n :: rest) = readOctets (some p) rest := by
  rw [readOctets, toNat_ofNat hhigh]
  simp [readOctet, readFirst, Nat.not_lt.mpr hlow, h]

variable {bits least greatest : Nat}

theorem readOctets_next {owed : Nat} (hfits : least ≤ n ∧ n ≤ greatest) (hhigh : n < 256) :
    readOctets (some ⟨bits, owed + 2, least, greatest⟩) (UInt8.ofNat n :: rest) =
      readOctets (some ⟨bits * 64 + (n - 0x80), owed + 1, 0x80, 0xBF⟩) rest := by
  rw [readOctets, toNat_ofNat hhigh]
  simp [readOctet, hfits]

theorem readOctets_last (hfits : least ≤ n ∧ n ≤ greatest) (hhigh : n < 256) :
    readOctets (some ⟨bits, 1, least, greatest⟩) (UInt8.ofNat n :: rest) =
      some (Char.ofNat (bits * 64 + (n - 0x80))) :: readOctets none rest := by
  rw [readOctets, toNat_ofNat hhigh]
  simp [readOctet, hfits]

end

/-! ## What a first octet begins -/

theorem begin?_two {n : Nat} (hlow : 0xC2 ≤ n) (hhigh : n ≤ 0xDF) :
    PartialChar.begin? n = some ⟨n - 0xC0, 1, 0x80, 0xBF⟩ := by
  unfold PartialChar.begin?
  rw [if_pos ⟨hlow, hhigh⟩]

/-- Three octets; the second is bounded so that the character needs three and is no surrogate. -/
theorem begin?_three {n : Nat} (hlow : 0xE0 ≤ n) (hhigh : n ≤ 0xEF) :
    PartialChar.begin? n =
      some ⟨n - 0xE0, 2, if n = 0xE0 then 0xA0 else 0x80, if n = 0xED then 0x9F else 0xBF⟩ := by
  unfold PartialChar.begin?
  rw [if_neg (by omega)]
  by_cases hfirst : n = 0xE0
  · subst hfirst
    rfl
  · by_cases hsurrogate : n = 0xED
    · subst hsurrogate
      rfl
    · rw [if_neg hfirst, if_neg hsurrogate, if_pos (by omega), if_neg hfirst, if_neg hsurrogate]

/-- Four octets; the second is bounded so that the character needs four and is one of Unicode. -/
theorem begin?_four {n : Nat} (hlow : 0xF0 ≤ n) (hhigh : n ≤ 0xF4) :
    PartialChar.begin? n =
      some ⟨n - 0xF0, 3, if n = 0xF0 then 0x90 else 0x80, if n = 0xF4 then 0x8F else 0xBF⟩ := by
  unfold PartialChar.begin?
  rw [if_neg (by omega), if_neg (by omega), if_neg (by omega), if_neg (by omega)]
  by_cases hfirst : n = 0xF0
  · subst hfirst
    rfl
  · by_cases hlast : n = 0xF4
    · subst hlast
      rfl
    · rw [if_neg hfirst, if_neg hlast, if_pos (by omega), if_neg hfirst, if_neg hlast]

/-! ## Characters -/

/-- A character is read from its octets. -/
theorem readOctets_char (c : Char) (rest : List UInt8) :
    readOctets none (String.utf8EncodeChar c ++ rest) = some c :: readOctets none rest := by
  -- The surrogates are no characters, which is what bounds the second octet of three.
  have hvalid : c.toNat < 0xD800 ∨ (0xDFFF < c.toNat ∧ c.toNat < 0x110000) := c.valid
  have hback (n : Nat) (h : n = c.toNat) : Char.ofNat n = c := by
    rw [h, Char.ofNat_toNat]
  have hval : c.val.toNat = c.toNat := rfl
  unfold String.utf8EncodeChar
  simp only [hval]
  generalize c.toNat = v at hvalid hback ⊢
  by_cases hone : v ≤ 0x7F
  · rw [if_pos hone, List.cons_append, readOctets_ascii _ (by omega), hback v rfl]
    rfl
  rw [if_neg hone]
  by_cases htwo : v ≤ 0x7FF
  · rw [if_pos htwo, List.cons_append,
      readOctets_begin _ (by omega) (by omega) (begin?_two (by omega) (by omega)), List.cons_append,
      readOctets_last _ ⟨by omega, by omega⟩ (by omega), hback _ (by omega)]
    rfl
  rw [if_neg htwo]
  by_cases hthree : v ≤ 0xFFFF
  · rw [if_pos hthree, List.cons_append,
      readOctets_begin _ (by omega) (by omega) (begin?_three (by omega) (by omega)),
      List.cons_append, readOctets_next _ ?_ (by omega), List.cons_append,
      readOctets_last _ ⟨by omega, by omega⟩ (by omega), hback _ (by omega)]
    · rfl
    · constructor
      · split
        · omega
        · omega
      · split
        · omega
        · omega
  rw [if_neg hthree, List.cons_append,
    readOctets_begin _ (by omega) (by omega) (begin?_four (by omega) (by omega)),
    List.cons_append, readOctets_next _ ?_ (by omega), List.cons_append,
    readOctets_next _ ⟨by omega, by omega⟩ (by omega), List.cons_append,
    readOctets_last _ ⟨by omega, by omega⟩ (by omega), hback _ (by omega)]
  · rfl
  · constructor
    · split
      · omega
      · omega
    · split
      · omega
      · omega

theorem readOctets_octets (cs : List Char) : readOctets none (octets cs) = cs.map some := by
  induction cs with
  | nil => rfl
  | cons c cs ih =>
    rw [octets, List.flatMap_cons, readOctets_char, List.map_cons, ← ih]
    rfl

/-- **The octets of a text are read back as the text.** -/
theorem ofOctets?_octets (cs : List Char) : ofOctets? (octets cs) = some cs := by
  rw [ofOctets?, readOctets_octets]
  induction cs with
  | nil => rfl
  | cons c cs ih =>
    rw [List.map_cons, List.mapM_cons, ih]
    rfl

theorem ofOctetsLossy_octets (cs : List Char) : ofOctetsLossy (octets cs) = cs := by
  rw [ofOctetsLossy, readOctets_octets, List.map_map]
  exact List.map_id cs

end PanelSource.Text
