import Mathlib.Algebra.Group.Nat.Defs
import SimPhonebook.Octets

/-!
# Words in octets

A word and its four octets determine each other (`joinWord_ofWord`, `ofWord_joinWord`). What `wordAt` reads is a matter of
the four octets at its position alone: octets in front of them move it (`wordAt_append_right`), octets behind them do not
count (`wordAt_append_left`), and overwriting a word leaves every other one as it was (`wordAt_setWord_of_disjoint`).
-/

namespace SimPhonebook.Octets

/-! ## A word and its octets -/

theorem toNat_joinWord (b₀ b₁ b₂ b₃ : UInt8) :
    (joinWord b₀ b₁ b₂ b₃).toNat = b₀.toNat + 2 ^ 8 * b₁.toNat + 2 ^ 16 * b₂.toNat + 2 ^ 24 * b₃.toNat := by
  have h₀ := b₀.toNat_lt
  have h₁ := b₁.toNat_lt
  have h₂ := b₂.toNat_lt
  have h₃ := b₃.toNat_lt
  have e₁ : (b₁.toUInt32 <<< 8).toNat = 2 ^ 8 * b₁.toNat := by
    simp [UInt32.toNat_shiftLeft, Nat.shiftLeft_eq]; omega
  have e₂ : (b₂.toUInt32 <<< 16).toNat = 2 ^ 16 * b₂.toNat := by
    simp [UInt32.toNat_shiftLeft, Nat.shiftLeft_eq]; omega
  have e₃ : (b₃.toUInt32 <<< 24).toNat = 2 ^ 24 * b₃.toNat := by
    simp [UInt32.toNat_shiftLeft, Nat.shiftLeft_eq]; omega
  rw [joinWord, UInt32.toNat_or, UInt32.toNat_or, UInt32.toNat_or, e₁, e₂, e₃, UInt8.toNat_toUInt32]
  -- the summands have no bit in common, so each `or` is a sum
  rw [Nat.or_comm b₀.toNat, ← Nat.two_pow_add_eq_or_of_lt h₀, Nat.or_comm _ (2 ^ 16 * _),
    ← Nat.two_pow_add_eq_or_of_lt (by omega), Nat.or_comm _ (2 ^ 24 * _),
    ← Nat.two_pow_add_eq_or_of_lt (by omega)]
  omega

theorem joinWord_ofWord (w : UInt32) :
    joinWord w.toUInt8 (w >>> 8).toUInt8 (w >>> 16).toUInt8 (w >>> 24).toUInt8 = w := by
  apply UInt32.toNat_inj.1
  have := w.toNat_lt
  simp only [toNat_joinWord, UInt32.toNat_toUInt8, UInt32.toNat_shiftRight, Nat.shiftRight_eq_div_pow]
  simp
  omega

theorem ofWord_joinWord (b₀ b₁ b₂ b₃ : UInt8) : ofWord (joinWord b₀ b₁ b₂ b₃) = [b₀, b₁, b₂, b₃] := by
  have hword := toNat_joinWord b₀ b₁ b₂ b₃
  have h₀ := b₀.toNat_lt
  have h₁ := b₁.toNat_lt
  have h₂ := b₂.toNat_lt
  have h₃ := b₃.toNat_lt
  have octet : ∀ (k : UInt32) (b : UInt8), (joinWord b₀ b₁ b₂ b₃).toNat >>> (k.toNat % 32) % 256 = b.toNat →
      (joinWord b₀ b₁ b₂ b₃ >>> k).toUInt8 = b := by
    intro k b h
    apply UInt8.toNat_inj.1
    rw [UInt32.toNat_toUInt8, UInt32.toNat_shiftRight]
    exact h
  simp only [ofWord, List.cons.injEq, and_true]
  refine ⟨?_, octet 8 b₁ ?_, octet 16 b₂ ?_, octet 24 b₃ ?_⟩
  · apply UInt8.toNat_inj.1
    rw [UInt32.toNat_toUInt8, hword]
    omega
  all_goals
    rw [hword, Nat.shiftRight_eq_div_pow]
    simp
    omega

theorem toNat_ofNat_of_lt {n : Nat} (h : n < 2 ^ 32) : (UInt32.ofNat n).toNat = n := by
  rw [UInt32.toNat_ofNat', Nat.mod_eq_of_lt h]

/-! ## Reading -/

theorem headWord?_append {a : Octets} (b : Octets) (h : 4 ≤ a.length) : headWord? (a ++ b) = headWord? a := by
  match a, h with
  | _ :: _ :: _ :: _ :: _, _ => rfl

theorem wordAt_append_left {a : Octets} (b : Octets) {pos : Nat} (h : pos + 4 ≤ a.length) :
    wordAt (a ++ b) pos = wordAt a pos := by
  rw [wordAt, wordAt, word?, word?, List.drop_append_of_le_length (by omega),
    headWord?_append b (by rw [List.length_drop]; omega)]

theorem wordAt_append_right (a b : Octets) (pos : Nat) : wordAt (a ++ b) (a.length + pos) = wordAt b pos := by
  rw [wordAt, wordAt, word?, word?, List.drop_append, List.drop_of_length_le (by omega), List.nil_append,
    Nat.add_sub_cancel_left]

theorem wordAt_drop (data : Octets) (n pos : Nat) : wordAt (data.drop n) pos = wordAt data (n + pos) := by
  rw [wordAt, wordAt, word?, word?, List.drop_drop]

theorem wordAt_take {data : Octets} {n pos : Nat} (hn : pos + 4 ≤ n) (h : pos + 4 ≤ data.length) :
    wordAt (data.take n) pos = wordAt data pos := by
  conv => rhs; rw [← List.take_append_drop n data]
  exact (wordAt_append_left _ (by rw [List.length_take]; omega)).symm

@[simp] theorem wordAt_ofWord_append (w : UInt32) (rest : Octets) : wordAt (ofWord w ++ rest) 0 = w :=
  joinWord_ofWord w

/-- Octets are the word read at a position, and what follows it. -/
theorem drop_eq_ofWord_append {data : Octets} (pos : Nat) (h : pos + 4 ≤ data.length) :
    data.drop pos = ofWord (wordAt data pos) ++ data.drop (pos + 4) := by
  rw [wordAt, word?, ← List.drop_drop]
  have hfour : 4 ≤ (data.drop pos).length := by rw [List.length_drop]; omega
  rcases hrest : data.drop pos with _ | ⟨b₀, _ | ⟨b₁, _ | ⟨b₂, _ | ⟨b₃, rest⟩⟩⟩⟩
  case cons.cons.cons.cons =>
    simp only [headWord?, Option.getD_some, ofWord_joinWord]
    rfl
  all_goals simp [hrest] at hfour

/-- The word that stands behind `a.length` octets. -/
theorem wordAt_of_eq_append {data a b : Octets} {w : UInt32} {pos : Nat} (h : data = a ++ (ofWord w ++ b))
    (hpos : a.length = pos) : wordAt data pos = w := by
  subst h hpos
  rw [← Nat.add_zero a.length, wordAt_append_right, wordAt_ofWord_append]

/-! ## Overwriting -/

theorem wordAt_setWord_of_disjoint {data : Octets} {pos pos' : Nat} (w : UInt32) (hfit : pos + 4 ≤ data.length)
    (h : pos' + 4 ≤ pos ∨ pos + 4 ≤ pos') : wordAt (setWord data pos w) pos' = wordAt data pos' := by
  have htake : (data.take pos).length = pos := by rw [List.length_take]; omega
  rcases h with h | h
  · rw [setWord, List.append_assoc, wordAt_append_left _ (by omega)]
    conv => rhs; rw [← List.take_append_drop pos data]
    rw [wordAt_append_left _ (by omega)]
  · have hlen : (data.take pos ++ ofWord w).length = pos + 4 := by rw [List.length_append, htake, length_ofWord]
    obtain ⟨k, rfl⟩ := Nat.exists_eq_add_of_le h
    calc wordAt (setWord data pos w) (pos + 4 + k)
        = wordAt (data.drop (pos + 4)) k := by rw [setWord, ← hlen, wordAt_append_right, hlen]
      _ = wordAt data (pos + 4 + k) := wordAt_drop _ _ _

theorem wordAt_setWord_self {data : Octets} {pos : Nat} (w : UInt32) (hfit : pos + 4 ≤ data.length) :
    wordAt (setWord data pos w) pos = w :=
  wordAt_of_eq_append (List.append_assoc _ _ _) (by rw [List.length_take]; omega)

theorem getElem?_setWord_of_disjoint {data : Octets} {pos i : Nat} (w : UInt32) (hfit : pos + 4 ≤ data.length)
    (h : i < pos ∨ pos + 4 ≤ i) : (setWord data pos w)[i]? = data[i]? := by
  have htake : (data.take pos).length = pos := by rw [List.length_take]; omega
  have hlen : (data.take pos ++ ofWord w).length = pos + 4 := by rw [List.length_append, htake, length_ofWord]
  rcases h with h | h
  · rw [setWord, List.append_assoc, List.getElem?_append_left (by omega), List.getElem?_take_of_lt h]
  · rw [setWord, List.getElem?_append_right (by omega), hlen, List.getElem?_drop, Nat.add_sub_cancel' h]

end SimPhonebook.Octets
