import Mathlib.Data.List.Induction
import Mathlib.Data.Nat.Digits.Lemmas
import SimPhonebook.Text.Integer
import SimPhonebook.Text.Numeral

/-!
# Numerals and their values

The text of a number holds the digits of the number (`Numeral.digits_eq`). Read as a decimal number of any length,
decimal text gives the number back (`Numeral.decimalValue_digits`), and it is made of decimal digits only
(`Numeral.isDecimal_digits`). Hexadecimal text is read back by `Integer.digits?` (`Numeral.digits?_hex`).
-/

namespace SimPhonebook.Numeral

/-- The value of decimal digits, the most significant first. -/
def decimalValue (ds : Octets) : Nat := Nat.ofDigits 10 (ds.reverse.map fun b => b.toNat - 0x30)

@[simp] theorem decimalValue_nil : decimalValue [] = 0 := rfl

theorem decimalValue_concat (ds : Octets) (b : UInt8) :
    decimalValue (ds ++ [b]) = 10 * decimalValue ds + (b.toNat - 0x30) := by
  simp [decimalValue, Nat.ofDigits_cons, Nat.add_comm]

/-- A digit from `0` to `9`. -/
def IsDecimal (b : UInt8) : Prop := 0x30 ≤ b.toNat ∧ b.toNat ≤ 0x39

instance (b : UInt8) : Decidable (IsDecimal b) := inferInstanceAs (Decidable (_ ∧ _))

theorem toNat_digit {d : Nat} (h : d < 10) : (digit d).toNat = 0x30 + d := by
  rw [digit, if_pos h, UInt8.toNat_ofNat']
  omega

theorem digits_zero : digits 10 0 = [0x30] := by
  rw [digits]
  decide

/-- The digits of a number, one after the other. -/
theorem digits_eq {base n : Nat} (hbase : 1 < base) (hn : 0 < n) :
    digits base n = ((Nat.digits base n).map digit).reverse := by
  fun_induction digits base n with
  | case1 n h =>
    have hlt : n < base := h.resolve_right (by omega)
    rw [Nat.digits_of_lt base n (by omega) hlt]
    rfl
  | case2 n h ih =>
    have hle : base ≤ n := by omega
    rw [ih (Nat.div_pos hle (by omega)), Nat.digits_def' hbase hn]
    simp

theorem isDecimal_digits (n : Nat) : ∀ b ∈ digits 10 n, IsDecimal b := by
  intro b hb
  rcases Nat.eq_zero_or_pos n with rfl | hn
  · rw [digits_zero, List.mem_singleton] at hb
    subst hb
    decide
  · rw [digits_eq (by omega) hn, List.mem_reverse, List.mem_map] at hb
    obtain ⟨d, hd, rfl⟩ := hb
    have hlt : d < 10 := Nat.digits_lt_base (by omega) hd
    rw [IsDecimal, toNat_digit hlt]
    omega

/-- **Decimal text is read back.** -/
theorem decimalValue_digits (n : Nat) : decimalValue (digits 10 n) = n := by
  rcases Nat.eq_zero_or_pos n with rfl | hn
  · rw [digits_zero]
    decide
  · have hback : (Nat.digits 10 n).map ((fun b : UInt8 => b.toNat - 0x30) ∘ digit) = Nat.digits 10 n := by
      refine (List.map_congr_left fun d hd => ?_).trans (List.map_id _)
      have hlt : d < 10 := Nat.digits_lt_base (by omega) hd
      simp [toNat_digit hlt]
    rw [digits_eq (by omega) hn, decimalValue, List.reverse_reverse, List.map_map, hback, Nat.ofDigits_digits]

/-! ## Hexadecimal text -/

theorem digit?_digit : ∀ d < 16, Integer.digit? 16 (digit d) = some d := by decide

theorem digits?_concat (base : Nat) (ds : Octets) (b : UInt8) :
    Integer.digits? base (ds ++ [b]) =
      (Integer.digits? base ds).bind fun n => (Integer.digit? base b).map (n * base + ·) := by
  rw [Integer.digits?, List.foldl_append]
  rfl

theorem digits?_digits (n : Nat) : Integer.digits? 16 (digits 16 n) = some n := by
  fun_induction digits 16 n with
  | case1 n h =>
    have hlt : n < 16 := h.resolve_right (by decide)
    rw [← List.nil_append [digit n], digits?_concat, digit?_digit n hlt]
    simp [Integer.digits?]
  | case2 n h ih =>
    rw [digits?_concat, ih, digit?_digit _ (Nat.mod_lt n (by decide))]
    simp only [Option.bind_some, Option.map_some, Option.some.injEq]
    omega

theorem digits?_padLeft (width : Nat) (ds : Octets) :
    Integer.digits? 16 (padLeft 0x30 width ds) = Integer.digits? 16 ds := by
  have hzeros : ∀ k, Integer.digits? 16 (List.replicate k 0x30) = some 0 := by
    intro k
    induction k with
    | zero => rfl
    | succ k ih =>
      rw [List.replicate_succ', digits?_concat, ih]
      decide
  rw [padLeft, Integer.digits?, List.foldl_append]
  exact congrArg (List.foldl _ · ds) (hzeros _)

/-- **Hexadecimal text is read back**, however many zeros it was filled up with. -/
theorem digits?_hex (width n : Nat) : Integer.digits? 16 (hex width n).octets = some n :=
  (digits?_padLeft width _).trans (digits?_digits n)

theorem digits?_hexOctet (b : UInt8) : Integer.digits? 16 (hexOctet b) = some b.toNat := by
  have hlt := b.toNat_lt
  have hhigh := digit?_digit (b.toNat / 16) (by omega)
  have hlow := digit?_digit (b.toNat % 16) (by omega)
  simp only [Integer.digits?, hexOctet, List.foldl_cons, List.foldl_nil, Option.bind_some, hhigh, hlow, Option.map_some,
    Option.some.injEq]
  omega

/-- What has a value is made of digits. -/
theorem isSome_digit?_of_mem {ds : Octets} {n : Nat} (h : Integer.digits? 16 ds = some n) {b : UInt8} (hb : b ∈ ds) :
    (Integer.digit? 16 b).isSome = true := by
  induction ds using List.reverseRecOn generalizing n with
  | nil => cases hb
  | append_singleton ds c ih =>
    rw [digits?_concat, Option.bind_eq_some_iff] at h
    obtain ⟨m, hm, hmap⟩ := h
    obtain ⟨d, hd, -⟩ := Option.map_eq_some_iff.1 hmap
    rcases List.mem_append.1 hb with hb | hb
    · exact ih hm hb
    · rw [List.mem_singleton.1 hb, hd]
      rfl

theorem width_le_length_hex (width n : Nat) : width ≤ (hex width n).octets.length := by
  simp only [hex, padLeft, List.length_append, List.length_replicate]
  omega

theorem length_hex_of_lt {width n : Nat} (hwidth : 0 < width) (h : n < 16 ^ width) : (hex width n).octets.length = width := by
  have hdigits : (digits 16 n).length ≤ width := by
    rcases Nat.eq_zero_or_pos n with rfl | hn
    · rw [digits]
      exact hwidth
    · rw [digits_eq (by decide) hn, List.length_reverse, List.length_map]
      exact (Nat.digits_length_le_iff (by decide) n).2 h
  simp only [hex, padLeft, List.length_append, List.length_replicate]
  omega

end SimPhonebook.Numeral
