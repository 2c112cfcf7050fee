import SimPhonebook.Text.Basic

/-!
# Cutting text into characters

Cutting octets into characters and stray octets loses nothing: the pieces, written again one after the other, are the
octets (`Utf8.flatMap_pieces`). So repairing a text changes its stray octets only, and a text without any is left as it is
(`Utf8.repair_of_isValid`).
-/

namespace SimPhonebook.Utf8

/-! ## Characters from octets and back -/

theorem toNat_of_scalar? {low n : Nat} {c : Char} (h : scalar? low n = some c) : c.toNat = n ∧ low ≤ n := by
  unfold scalar? at h
  by_cases hvalid : n.isValidChar
  · rw [dif_pos hvalid] at h
    by_cases hlow : low ≤ n
    · rw [if_pos hlow] at h
      cases h
      exact ⟨rfl, hlow⟩
    · rw [if_neg hlow] at h
      cases h
  · rw [dif_neg hvalid] at h
    cases h

theorem isTail_iff (b : UInt8) : isTail b = true ↔ 128 ≤ b.toNat ∧ b.toNat < 192 := by
  simp [isTail, UInt8.le_iff_toNat_le, UInt8.lt_iff_toNat_lt]

theorem ofNat_eq_of_toNat_eq {n : Nat} {b : UInt8} (h : n = b.toNat) : UInt8.ofNat n = b := by
  rw [h, UInt8.ofNat_toNat]

theorem encode_of_two? {b b₁ : UInt8} {c : Char} (h : two? b b₁ = some c) : encode c = [b, b₁] := by
  unfold two? at h
  split at h
  · rename_i hlead
    simp only [Bool.and_eq_true, decide_eq_true_eq, isTail_iff, UInt8.le_iff_toNat_le, UInt8.lt_iff_toNat_lt] at hlead
    obtain ⟨hn, hlow⟩ := toNat_of_scalar? h
    simp at hlead
    simp only [encode, hn]
    rw [if_neg (by omega), if_pos (by omega), ofNat_eq_of_toNat_eq (b := b) (by omega),
      ofNat_eq_of_toNat_eq (b := b₁) (by omega)]
  · cases h

theorem encode_of_three? {b b₁ b₂ : UInt8} {c : Char} (h : three? b b₁ b₂ = some c) : encode c = [b, b₁, b₂] := by
  unfold three? at h
  split at h
  · rename_i hlead
    simp only [Bool.and_eq_true, decide_eq_true_eq, isTail_iff, UInt8.le_iff_toNat_le, UInt8.lt_iff_toNat_lt] at hlead
    obtain ⟨hn, hlow⟩ := toNat_of_scalar? h
    simp at hlead
    simp only [encode, hn]
    rw [if_neg (by omega), if_neg (by omega), if_pos (by omega), ofNat_eq_of_toNat_eq (b := b) (by omega),
      ofNat_eq_of_toNat_eq (b := b₁) (by omega), ofNat_eq_of_toNat_eq (b := b₂) (by omega)]
  · cases h

theorem encode_of_four? {b b₁ b₂ b₃ : UInt8} {c : Char} (h : four? b b₁ b₂ b₃ = some c) :
    encode c = [b, b₁, b₂, b₃] := by
  unfold four? at h
  split at h
  · rename_i hlead
    simp only [Bool.and_eq_true, decide_eq_true_eq, isTail_iff, UInt8.le_iff_toNat_le, UInt8.lt_iff_toNat_lt] at hlead
    obtain ⟨hn, hlow⟩ := toNat_of_scalar? h
    simp at hlead
    simp only [encode, hn]
    rw [if_neg (by omega), if_neg (by omega), if_neg (by omega), ofNat_eq_of_toNat_eq (b := b) (by omega),
      ofNat_eq_of_toNat_eq (b := b₁) (by omega), ofNat_eq_of_toNat_eq (b := b₂) (by omega),
      ofNat_eq_of_toNat_eq (b := b₃) (by omega)]
  · cases h

theorem encode_ofNat_of_lt {b : UInt8} (h : b < 0x80) : encode (Char.ofNat b.toNat) = [b] := by
  have hb : b.toNat < 128 := by simpa [UInt8.lt_iff_toNat_lt] using h
  have hn : (Char.ofNat b.toNat).toNat = b.toNat := by
    rw [Char.ofNat, dif_pos (Or.inl (by omega))]
    rfl
  simp only [encode, hn]
  rw [if_pos hb, UInt8.ofNat_toNat]

/-! ## Nothing is lost -/

theorem encode_of_firstChar? {b : UInt8} {rest after : Octets} {c : Char} (h : firstChar? b rest = some (c, after)) :
    encode c ++ after = b :: rest := by
  unfold firstChar? at h
  split at h
  · cases h
  · split at h
    · rename_i h₂
      cases h
      simp [encode_of_two? h₂]
    · cases h
    · split at h
      · rename_i h₃
        cases h
        simp [encode_of_three? h₃]
      · cases h
      · obtain ⟨c', h₄, hc⟩ := Option.map_eq_some_iff.1 h
        cases hc
        simp [encode_of_four? h₄]

theorem octets_firstPiece (b : UInt8) (rest : Octets) :
    (firstPiece b rest).1.octets ++ (firstPiece b rest).2 = b :: rest := by
  unfold firstPiece
  split
  · rename_i hb
    simp [Piece.octets, encode_ofNat_of_lt hb]
  · split
    · rename_i h
      exact encode_of_firstChar? h
    · rfl

/-- **Cutting loses nothing.** -/
theorem flatMap_pieces (data : Octets) : (pieces data).flatMap Piece.octets = data := by
  fun_induction pieces data with
  | case1 => rfl
  | case2 b rest ih => rw [List.flatMap_cons, ih, octets_firstPiece]

/-! ## Repairing -/

theorem encode_shown_of_isValid {data : Octets} (h : isValid data = true) {p : Piece} (hp : p ∈ pieces data) :
    encode p.shown = p.octets := by
  have hall := List.all_eq_true.1 h p hp
  cases p with
  | char c => rfl
  | stray b => cases hall

/-- **Text without stray octets is left as it is.** -/
theorem repair_of_isValid {data : Octets} (h : isValid data = true) : repair data = data := by
  calc repair data = (pieces data).flatMap fun p => encode p.shown := by
        rw [repair, ofChars, chars, List.flatMap_map]
    _ = (pieces data).flatMap Piece.octets := by
        rw [List.flatMap_def, List.flatMap_def, List.map_congr_left fun p hp => encode_shown_of_isValid h hp]
    _ = data := flatMap_pieces data

end SimPhonebook.Utf8

namespace SimPhonebook.Text

theorem repair_of_isValid {t : Text} (h : t.isValid = true) : t.repair = t := by
  rw [repair, Utf8.repair_of_isValid h]

end SimPhonebook.Text
