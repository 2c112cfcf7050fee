import SimPhonebook.Proofs.Utf8Text

/-!
# Well-formed text and its repair

The octets of a character are cut off as that character, whatever follows them (`Utf8.pieces_encode_append`). So the octets
that are text without stray ones are just the octets of lists of characters (`Utf8.isValid_iff`), and what `Utf8.repair` does can
be said without cutting anything (`Utf8.repaired_iff`): characters stay, and an octet at which no character starts becomes
U+FFFD.
-/

namespace SimPhonebook.Utf8

/-! ## Reading a character from its octets -/

/-- Characters are written as the strings of the language are. -/
theorem encode_eq_utf8EncodeChar (c : Char) : encode c = String.utf8EncodeChar c := by
  have hc : c.toNat < 0xD800 ∨ 0xDFFF < c.toNat ∧ c.toNat < 0x110000 := c.valid
  have hval : c.val.toNat = c.toNat := rfl
  simp only [encode, String.utf8EncodeChar, hval]
  by_cases h₁ : c.toNat < 0x80
  · rw [if_pos h₁, if_pos (show c.toNat ≤ 127 by omega)]
  · rw [if_neg h₁, if_neg (show ¬c.toNat ≤ 127 by omega)]
    by_cases h₂ : c.toNat < 0x800
    · rw [if_pos h₂, if_pos (show c.toNat ≤ 2047 by omega), Nat.mod_eq_of_lt (show c.toNat / 64 < 32 by omega),
        Nat.add_comm 0xC0, Nat.add_comm 0x80]
    · rw [if_neg h₂, if_neg (show ¬c.toNat ≤ 2047 by omega)]
      by_cases h₃ : c.toNat < 0x10000
      · rw [if_pos h₃, if_pos (show c.toNat ≤ 65535 by omega), Nat.mod_eq_of_lt (show c.toNat / 4096 < 16 by omega),
          Nat.add_comm 0xE0, Nat.add_comm 0x80, Nat.add_comm 0x80]
      · rw [if_neg h₃, if_neg (show ¬c.toNat ≤ 65535 by omega), Nat.mod_eq_of_lt (show c.toNat / 262144 < 8 by omega),
          Nat.add_comm 0xF0, Nat.add_comm 0x80, Nat.add_comm 0x80, Nat.add_comm 0x80]

theorem scalar?_toNat {low n : Nat} {c : Char} (hn : n = c.toNat) (h : low ≤ c.toNat) : scalar? low n = some c := by
  subst hn
  have hvalid : c.toNat.isValidChar := c.valid
  rw [scalar?, dif_pos hvalid, if_pos h]
  rfl

section
variable {b : UInt8}

/-- Only octets below 0xE0 start a character of two. -/
theorem two?_eq_none (h : 0xE0 ≤ b.toNat) (b₁ : UInt8) : two? b b₁ = none := by
  rw [two?, if_neg]
  simp [UInt8.lt_iff_toNat_lt]
  omega

/-- Only octets below 0xF0 start a character of three. -/
theorem three?_eq_none (h : 0xF0 ≤ b.toNat) (b₁ b₂ : UInt8) : three? b b₁ b₂ = none := by
  rw [three?, if_neg]
  simp [UInt8.lt_iff_toNat_lt]
  omega

end

theorem toNat_octet {n : Nat} (h : n < 256) : (UInt8.ofNat n).toNat = n := UInt8.toNat_ofNat_of_lt' h

theorem isTail_octet {n : Nat} (h : n < 64) : isTail (UInt8.ofNat (0x80 + n)) = true := by
  rw [isTail_iff, toNat_octet (by omega)]
  omega

section
variable {c : Char}

theorem two?_of_lead (h : 0x80 ≤ c.toNat) (h' : c.toNat < 0x800) :
    two? (UInt8.ofNat (0xC0 + c.toNat / 64)) (UInt8.ofNat (0x80 + c.toNat % 64)) = some c := by
  rw [two?, if_pos]
  · apply scalar?_toNat _ h
    rw [toNat_octet (by omega), toNat_octet (by omega)]
    omega
  · simp only [isTail_octet (Nat.mod_lt _ (by decide)), Bool.and_true, Bool.and_eq_true, decide_eq_true_eq,
      UInt8.le_iff_toNat_le, UInt8.lt_iff_toNat_lt]
    rw [toNat_octet (by omega)]
    simp
    omega

theorem three?_of_lead (h : 0x800 ≤ c.toNat) (h' : c.toNat < 0x10000) :
    three? (UInt8.ofNat (0xE0 + c.toNat / 4096)) (UInt8.ofNat (0x80 + c.toNat / 64 % 64))
      (UInt8.ofNat (0x80 + c.toNat % 64)) = some c := by
  rw [three?, if_pos]
  · apply scalar?_toNat _ h
    rw [toNat_octet (by omega), toNat_octet (by omega), toNat_octet (by omega)]
    omega
  · simp only [isTail_octet (Nat.mod_lt _ (by decide)), Bool.and_true, Bool.and_eq_true, decide_eq_true_eq,
      UInt8.le_iff_toNat_le, UInt8.lt_iff_toNat_lt]
    rw [toNat_octet (by omega)]
    simp
    omega

theorem four?_of_lead (h : 0x10000 ≤ c.toNat) :
    four? (UInt8.ofNat (0xF0 + c.toNat / 262144)) (UInt8.ofNat (0x80 + c.toNat / 4096 % 64))
      (UInt8.ofNat (0x80 + c.toNat / 64 % 64)) (UInt8.ofNat (0x80 + c.toNat % 64)) = some c := by
  have hc : c.toNat < 0xD800 ∨ 0xDFFF < c.toNat ∧ c.toNat < 0x110000 := c.valid
  rw [four?, if_pos]
  · apply scalar?_toNat _ h
    rw [toNat_octet (by omega), toNat_octet (by omega), toNat_octet (by omega), toNat_octet (by omega)]
    omega
  · simp only [isTail_octet (Nat.mod_lt _ (by decide)), Bool.and_true, Bool.and_eq_true, decide_eq_true_eq,
      UInt8.le_iff_toNat_le, UInt8.lt_iff_toNat_lt]
    rw [toNat_octet (by omega)]
    simp
    omega

end

section
variable {c : Char} {b b₁ b₂ b₃ : UInt8} {rest after : Octets}

theorem firstChar?_of_two (h : two? b b₁ = some c) : firstChar? b (b₁ :: rest) = some (c, rest) := by
  simp only [firstChar?, h]

theorem firstChar?_of_three (h₂ : two? b b₁ = none) (h : three? b b₁ b₂ = some c) :
    firstChar? b (b₁ :: b₂ :: rest) = some (c, rest) := by
  simp only [firstChar?, h₂, h]

theorem firstChar?_of_four (h₂ : two? b b₁ = none) (h₃ : three? b b₁ b₂ = none) (h : four? b b₁ b₂ b₃ = some c) :
    firstChar? b (b₁ :: b₂ :: b₃ :: rest) = some (c, rest) := by
  simp only [firstChar?, h₂, h₃, h, Option.map_some]

theorem pieces_of_firstChar? (hb : 0x80 ≤ b.toNat) (h : firstChar? b rest = some (c, after)) :
    pieces (b :: rest) = .char c :: pieces after := by
  have hlead : ¬b < 0x80 := by simpa [UInt8.lt_iff_toNat_lt] using hb
  rw [pieces, firstPiece, if_neg hlead, h]

end

/-- **A character is cut off whole**, whatever follows its octets. -/
theorem pieces_encode_append (c : Char) (rest : Octets) : pieces (encode c ++ rest) = .char c :: pieces rest := by
  have hc : c.toNat < 0xD800 ∨ 0xDFFF < c.toNat ∧ c.toNat < 0x110000 := c.valid
  simp only [encode]
  by_cases h₁ : c.toNat < 0x80
  · have hlead : UInt8.ofNat c.toNat < 0x80 := by
      rw [UInt8.lt_iff_toNat_lt, toNat_octet (by omega)]
      exact h₁
    rw [if_pos h₁, List.cons_append, List.nil_append, pieces, firstPiece, if_pos hlead, toNat_octet (by omega),
      Char.ofNat_toNat]
  rw [if_neg h₁]
  by_cases h₂ : c.toNat < 0x800
  · have hlead : (UInt8.ofNat (0xC0 + c.toNat / 64)).toNat = 0xC0 + c.toNat / 64 := toNat_octet (by omega)
    rw [if_pos h₂]
    exact pieces_of_firstChar? (by omega) (firstChar?_of_two (two?_of_lead (by omega) h₂))
  rw [if_neg h₂]
  by_cases h₃ : c.toNat < 0x10000
  · have hlead : (UInt8.ofNat (0xE0 + c.toNat / 4096)).toNat = 0xE0 + c.toNat / 4096 := toNat_octet (by omega)
    rw [if_pos h₃]
    exact pieces_of_firstChar? (by omega)
      (firstChar?_of_three (two?_eq_none (by omega) _) (three?_of_lead (by omega) h₃))
  · have hlead : (UInt8.ofNat (0xF0 + c.toNat / 262144)).toNat = 0xF0 + c.toNat / 262144 := toNat_octet (by omega)
    rw [if_neg h₃]
    exact pieces_of_firstChar? (by omega)
      (firstChar?_of_four (two?_eq_none (by omega) _) (three?_eq_none (by omega) _ _) (four?_of_lead (by omega)))

/-! ## Well-formed text -/

theorem pieces_ofChars (cs : List Char) : pieces (ofChars cs) = cs.map .char := by
  induction cs with
  | nil => simp [ofChars, pieces]
  | cons c cs ih => rw [ofChars, List.flatMap_cons, pieces_encode_append, ← ofChars, ih, List.map_cons]

/-- **Characters are read back from their octets.** -/
theorem chars_ofChars (cs : List Char) : chars (ofChars cs) = cs := by
  rw [chars, pieces_ofChars, List.map_map]
  exact List.map_id cs

theorem isValid_ofChars (cs : List Char) : isValid (ofChars cs) = true := by
  simp [isValid, pieces_ofChars]

/-- No octet of the data is stray exactly if the data are the octets of characters. -/
theorem isValid_iff (data : Octets) : isValid data = true ↔ data.toByteArray.IsValidUTF8 := by
  have hencode : ∀ cs : List Char, cs.utf8Encode = (ofChars cs).toByteArray := by
    intro cs
    rw [List.utf8Encode, ofChars, funext encode_eq_utf8EncodeChar]
  constructor
  · intro h
    refine ⟨chars data, ?_⟩
    rw [hencode, ← repair, repair_of_isValid h]
  · rintro ⟨cs, hcs⟩
    rw [hencode, List.toByteArray_inj] at hcs
    rw [hcs, isValid_ofChars]

/-! ## Repairing -/

/-- `out` is `data` with U+FFFD in place of every octet at which no character starts and that belongs to none before it. -/
inductive Repaired : Octets → Octets → Prop where
  | nil : Repaired [] []
  | char (c : Char) {data out : Octets} : Repaired data out →
      Repaired (String.utf8EncodeChar c ++ data) (String.utf8EncodeChar c ++ out)
  | stray (b : UInt8) {data out : Octets} : (∀ c rest, b :: data ≠ String.utf8EncodeChar c ++ rest) → Repaired data out →
      Repaired (b :: data) (String.utf8EncodeChar '\uFFFD' ++ out)

theorem repair_nil : repair [] = [] := by
  simp [repair, chars, pieces, ofChars]

theorem repair_cons (b : UInt8) (data : Octets) :
    repair (b :: data) = encode (firstPiece b data).1.shown ++ repair (firstPiece b data).2 := by
  rw [repair, chars, pieces]
  rfl

/-- Where no character starts, the first piece is a stray octet, and only there (`no_char_of_firstPiece`). -/
theorem firstPiece_of_no_char {b : UInt8} {data : Octets} (h : ∀ c rest, b :: data ≠ String.utf8EncodeChar c ++ rest) :
    firstPiece b data = (.stray b, data) := by
  have hoctets := octets_firstPiece b data
  rcases hfirst : firstPiece b data with ⟨_ | b', after⟩
  · rw [hfirst, Piece.octets, encode_eq_utf8EncodeChar] at hoctets
    exact absurd hoctets.symm (h _ _)
  · rw [hfirst] at hoctets
    simp only [Piece.octets, List.cons_append, List.nil_append, List.cons.injEq] at hoctets
    rw [hoctets.1, hoctets.2]

theorem no_char_of_firstPiece {b b' : UInt8} {data after : Octets} (h : firstPiece b data = (.stray b', after)) (c : Char)
    (rest : Octets) : b :: data ≠ String.utf8EncodeChar c ++ rest := by
  intro hdata
  have hpieces := pieces_encode_append c rest
  rw [encode_eq_utf8EncodeChar, ← hdata, pieces, h] at hpieces
  cases hpieces

theorem repaired_repair (data : Octets) : Repaired data (repair data) := by
  fun_induction pieces data with
  | case1 =>
    rw [repair_nil]
    exact .nil
  | case2 b data ih =>
    have hoctets := octets_firstPiece b data
    rw [repair_cons]
    rcases hfirst : firstPiece b data with ⟨c | b', after⟩
    · rw [hfirst] at ih hoctets
      rw [← hoctets, Piece.octets, Piece.shown, encode_eq_utf8EncodeChar]
      exact .char c ih
    · have hno := no_char_of_firstPiece hfirst
      rw [firstPiece_of_no_char hno] at hfirst ih
      cases hfirst
      rw [Piece.shown, encode_eq_utf8EncodeChar]
      exact .stray b hno ih

/-- **Repairing replaces exactly the stray octets.** -/
theorem repaired_iff {data out : Octets} : Repaired data out ↔ out = repair data := by
  constructor
  · intro h
    induction h with
    | nil => exact repair_nil.symm
    | char c _ ih =>
      rw [← encode_eq_utf8EncodeChar, repair, chars, pieces_encode_append, ih]
      rfl
    | stray b hno _ ih =>
      rw [ih, repair_cons, firstPiece_of_no_char hno, ← encode_eq_utf8EncodeChar]
      rfl
  · rintro rfl
    exact repaired_repair data

end SimPhonebook.Utf8
