import SimPhonebook.Text.Utf16

/-!
# UTF-16 and back

Text written as UTF-16 is read back with its stray octets replaced by U+FFFD and nothing else changed
(`Utf16.decode_encode`). Each character is read back from its units whatever follows them (`Utf16.charsOf_unitsOf_append`):
a unit of its own is no surrogate, and a pair is a high surrogate in front of a low one.
-/

namespace SimPhonebook.Utf16

/-! ## Units and octets -/

/-- The value of a character is in the range of Unicode and no surrogate. -/
theorem toNat_valid (c : Char) : c.toNat < 0xD800 ∨ 0xDFFF < c.toNat ∧ c.toNat < 0x110000 := c.valid

theorem unitsOf_lt {c : Char} {u : Nat} (h : u ∈ unitsOf c) : u < 65536 := by
  have hc := toNat_valid c
  simp only [unitsOf] at h
  split at h
  · rw [List.mem_singleton.1 h]
    assumption
  · simp only [List.mem_cons, List.not_mem_nil, or_false] at h
    omega

theorem units_octetsOf_append {u : Nat} (h : u < 65536) (rest : Octets) : units (octetsOf u ++ rest) = u :: units rest := by
  simp only [octetsOf, List.cons_append, List.nil_append, units, UInt8.toNat_ofNat']
  congr 1
  omega

theorem units_flatMap_octetsOf {us : List Nat} (h : ∀ u ∈ us, u < 65536) : units (us.flatMap octetsOf) = us := by
  induction us with
  | nil => rfl
  | cons u us ih =>
    rw [List.flatMap_cons, units_octetsOf_append (h u (List.mem_cons_self ..)),
      ih fun v hv => h v (List.mem_cons_of_mem u hv)]

theorem length_flatMap_octetsOf (us : List Nat) : (us.flatMap octetsOf).length = 2 * us.length := by
  induction us with
  | nil => rfl
  | cons u us ih =>
    rw [List.flatMap_cons, List.length_append, ih, List.length_cons, octetsOf]
    simp only [List.length_cons, List.length_nil]
    omega

/-! ## Characters and units -/

/-- A unit that is no surrogate is a character, whatever follows it. -/
theorem charsOf_cons {u : Nat} (h : isSurrogate u = false) (rest : List Nat) :
    charsOf (u :: rest) = Char.ofNat u :: charsOf rest := by
  cases rest with
  | nil => simp [charsOf, h]
  | cons v rest => simp [charsOf, h]

theorem charsOf_pair {u v : Nat} (hu : isHigh u = true) (hv : isLow v = true) (rest : List Nat) :
    charsOf (u :: v :: rest) = pair u v :: charsOf rest := by
  have hs : isSurrogate u = true := by
    simp only [isHigh, isSurrogate, Bool.and_eq_true, decide_eq_true_eq] at hu ⊢
    omega
  simp [charsOf, hs, hv, hu]

/-- A character is read back from its units, whatever follows them. -/
theorem charsOf_unitsOf_append (c : Char) (rest : List Nat) : charsOf (unitsOf c ++ rest) = c :: charsOf rest := by
  have hc := toNat_valid c
  simp only [unitsOf]
  split
  · have hs : isSurrogate c.toNat = false := by
      simp only [isSurrogate, Bool.and_eq_false_iff, decide_eq_false_iff_not]
      omega
    rw [List.cons_append, List.nil_append, charsOf_cons hs, Char.ofNat_toNat]
  · rename_i hbig
    have hu : isHigh (0xD800 + (c.toNat - 0x10000) / 1024) = true := by
      simp only [isHigh, Bool.and_eq_true, decide_eq_true_eq]
      omega
    have hv : isLow (0xDC00 + (c.toNat - 0x10000) % 1024) = true := by
      simp only [isLow, Bool.and_eq_true, decide_eq_true_eq]
      omega
    have hpair : 0x10000 + (0xD800 + (c.toNat - 0x10000) / 1024 - 0xD800) * 1024 +
        (0xDC00 + (c.toNat - 0x10000) % 1024 - 0xDC00) = c.toNat := by
      omega
    rw [List.cons_append, List.cons_append, List.nil_append, charsOf_pair hu hv, pair, hpair, Char.ofNat_toNat]

theorem charsOf_flatMap_unitsOf (cs : List Char) : charsOf (cs.flatMap unitsOf) = cs := by
  induction cs with
  | nil => rfl
  | cons c cs ih => rw [List.flatMap_cons, charsOf_unitsOf_append, ih]

/-! ## Text -/

theorem length_encode_mod_two (t : Text) : (encode t).length % 2 = 0 := by
  rw [encode, length_flatMap_octetsOf, Nat.mul_mod_right]

/-- **Text is read back from its UTF-16 octets**, with U+FFFD in place of each stray octet. -/
theorem decode_encode (t : Text) : decode (encode t) = .ok t.repair := by
  have hunits : units (encode t) = t.chars.flatMap unitsOf := by
    refine units_flatMap_octetsOf fun u hu => ?_
    obtain ⟨c, -, hc⟩ := List.mem_flatMap.1 hu
    exact unitsOf_lt hc
  rw [decode, if_pos (length_encode_mod_two t), hunits, charsOf_flatMap_unitsOf]
  rfl

/-- Only the empty text is written with no octets. -/
theorem encode_eq_nil_iff (t : Text) : encode t = [] ↔ t = Text.empty := by
  constructor
  · intro h
    have hunits : t.chars.flatMap unitsOf = [] := by
      have hlength := length_flatMap_octetsOf (t.chars.flatMap unitsOf)
      rw [← encode, h, List.length_nil] at hlength
      exact List.eq_nil_of_length_eq_zero (by omega)
    have hchars : t.chars = [] := by
      cases hcs : t.chars with
      | nil => rfl
      | cons c cs =>
        rw [hcs, List.flatMap_cons, List.append_eq_nil_iff] at hunits
        have hunit := hunits.1
        simp only [unitsOf] at hunit
        split at hunit <;> cases hunit
    obtain ⟨data⟩ := t
    cases data with
    | nil => rfl
    | cons b rest => simp [Text.chars, Utf8.chars, Utf8.pieces] at hchars
  · rintro rfl
    simp [encode, Text.chars, Utf8.chars, Utf8.pieces]

theorem repair_of_encode_eq_nil {t : Text} (h : encode t = []) : t.repair = Text.empty := by
  have hempty : decode [] = .ok Text.empty := rfl
  rw [← h, decode_encode] at hempty
  exact Except.ok.inj hempty

end SimPhonebook.Utf16
