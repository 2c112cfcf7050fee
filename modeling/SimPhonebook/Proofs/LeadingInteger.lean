import Mathlib.Algebra.Order.Ring.Int
import Mathlib.Data.List.Induction
import SimPhonebook.Phonebook.EntryInput
import SimPhonebook.Proofs.Numerals

/-!
# The integer a text starts with

A text falls in exactly one way into spaces, a sign, digits and the rest (`PartsOf`), and so starts with one integer of any
size, `Parts.value`. Reading it leniently gives that integer, moved to the nearest end of the 64-bit range where it lies
outside, and then its low 32 bits (`leadingInteger_clamps`).

The invariant of the digits is `Magnitude.Tracks`: as long as no digit was lost the magnitude is the value of the digits so
far, and a digit was lost exactly if that value has passed `2 ^ 63`. No operation on the way wraps around
(`Magnitude.PushExact`, `Magnitude.SignedExact`).
-/

namespace SimPhonebook.Phonebook

open Numeral

/-! ## The parts of a text -/

inductive Sign where
  | absent
  | plus
  | minus
deriving DecidableEq, Repr

def Sign.octets : Sign → Octets
  | .absent => []
  | .plus => [0x2B]
  | .minus => [0x2D]

/-- What a text that starts with an integer is made of. -/
structure Parts where
  spaces : Octets
  sign : Sign
  digits : Octets
  rest : Octets
deriving DecidableEq, Repr

/-- The integer of a sign and digits, of any size. -/
def Parts.value (p : Parts) : Int :=
  if p.sign = .minus then -(decimalValue p.digits : Int) else decimalValue p.digits

/-- Blank, tab, line feed, vertical tab, form feed, carriage return. -/
def spaceOctets : Octets := [0x20, 0x09, 0x0A, 0x0B, 0x0C, 0x0D]

/-- The octets fall into these parts, of which the spaces, the sign and the digits each go as far as they can. -/
structure PartsOf (p : Parts) (s : Octets) : Prop where
  whole : s = p.spaces ++ (p.sign.octets ++ (p.digits ++ p.rest))
  spaces : ∀ b ∈ p.spaces, b ∈ spaceOctets
  allSpaces : ∀ b ∈ (p.sign.octets ++ (p.digits ++ p.rest)).head?, b ∉ spaceOctets
  allSign : p.sign = .absent → ∀ b ∈ (p.digits ++ p.rest).head?, b ≠ 0x2B ∧ b ≠ 0x2D
  digits : ∀ b ∈ p.digits, IsDecimal b
  allDigits : ∀ b ∈ p.rest.head?, ¬IsDecimal b

theorem isSpace_iff (b : UInt8) : isSpace b = true ↔ b ∈ spaceOctets := by
  simp only [isSpace, spaceOctets, List.mem_cons, List.not_mem_nil, or_false, Bool.or_eq_true, beq_iff_eq,
    Bool.and_eq_true, decide_eq_true_eq, UInt8.le_iff_toNat_le, ← UInt8.toNat_inj, UInt8.reduceToNat]
  omega

theorem isDigit_iff (b : UInt8) : isDigit b = true ↔ IsDecimal b := by
  simp [isDigit, IsDecimal, UInt8.le_iff_toNat_le]

section
variable {q : UInt8 → Bool} {front back : Octets} (hfront : ∀ b ∈ front, q b = true) (hback : ∀ b ∈ back.head?, ¬q b = true)
include hfront hback

theorem takeWhile_append_of_head? : (front ++ back).takeWhile q = front := by
  rw [List.takeWhile_append_of_pos hfront]
  cases back with
  | nil => simp
  | cons b back => simp [hback b rfl]

theorem dropWhile_append_of_head? : (front ++ back).dropWhile q = back := by
  rw [List.dropWhile_append_of_pos hfront]
  cases back with
  | nil => rfl
  | cons b back => simp [hback b rfl]

end

theorem not_of_head?_dropWhile {q : UInt8 → Bool} {s : Octets} {b : UInt8} (h : b ∈ (s.dropWhile q).head?) : ¬q b = true := by
  have := List.head?_dropWhile_not q s
  rw [Option.mem_def.1 h] at this
  simpa using this

namespace PartsOf

variable {p q : Parts} {s : Octets}

theorem takeWhile_isSpace (h : PartsOf p s) : s.takeWhile isSpace = p.spaces := by
  rw [h.whole]
  exact takeWhile_append_of_head? (fun b hb => (isSpace_iff b).2 (h.spaces b hb))
    fun b hb hspace => h.allSpaces b hb ((isSpace_iff b).1 hspace)

theorem dropWhile_isSpace (h : PartsOf p s) : s.dropWhile isSpace = p.sign.octets ++ (p.digits ++ p.rest) := by
  rw [h.whole]
  exact dropWhile_append_of_head? (fun b hb => (isSpace_iff b).2 (h.spaces b hb))
    fun b hb hspace => h.allSpaces b hb ((isSpace_iff b).1 hspace)

theorem takeWhile_isDigit (h : PartsOf p s) : (p.digits ++ p.rest).takeWhile isDigit = p.digits :=
  takeWhile_append_of_head? (fun b hb => (isDigit_iff b).2 (h.digits b hb))
    fun b hb hdigit => h.allDigits b hb ((isDigit_iff b).1 hdigit)

theorem dropWhile_isDigit (h : PartsOf p s) : (p.digits ++ p.rest).dropWhile isDigit = p.rest :=
  dropWhile_append_of_head? (fun b hb => (isDigit_iff b).2 (h.digits b hb))
    fun b hb hdigit => h.allDigits b hb ((isDigit_iff b).1 hdigit)

/-- Without a sign, what follows the spaces starts with none. -/
theorem ne_cons (h : PartsOf p s) (hsign : p.sign = .absent) (rest : Octets) :
    p.digits ++ p.rest ≠ 0x2B :: rest ∧ p.digits ++ p.rest ≠ 0x2D :: rest := by
  constructor
  · intro heq
    exact (h.allSign hsign 0x2B (by rw [heq]; rfl)).1 rfl
  · intro heq
    exact (h.allSign hsign 0x2D (by rw [heq]; rfl)).2 rfl

theorem sign_eq (hp : PartsOf p s) (hq : PartsOf q s) : p.sign = q.sign := by
  have hbody := hp.dropWhile_isSpace.symm.trans hq.dropWhile_isSpace
  cases hps : p.sign with
  | absent =>
    cases hqs : q.sign with
    | absent => rfl
    | plus => exact absurd (by simpa [hps, hqs, Sign.octets] using hbody) (hp.ne_cons hps _).1
    | minus => exact absurd (by simpa [hps, hqs, Sign.octets] using hbody) (hp.ne_cons hps _).2
  | plus =>
    cases hqs : q.sign with
    | absent => exact absurd (by simpa [hps, hqs, Sign.octets] using hbody.symm) (hq.ne_cons hqs _).1
    | plus => rfl
    | minus => simp [hps, hqs, Sign.octets] at hbody
  | minus =>
    cases hqs : q.sign with
    | absent => exact absurd (by simpa [hps, hqs, Sign.octets] using hbody.symm) (hq.ne_cons hqs _).2
    | plus => simp [hps, hqs, Sign.octets] at hbody
    | minus => rfl

/-- A text falls into its parts in one way only. -/
theorem unique (hp : PartsOf p s) (hq : PartsOf q s) : p = q := by
  have hsign := hp.sign_eq hq
  have htail : p.digits ++ p.rest = q.digits ++ q.rest := by
    have hbody := hp.dropWhile_isSpace.symm.trans hq.dropWhile_isSpace
    rw [hsign] at hbody
    exact List.append_cancel_left hbody
  have hspaces := hp.takeWhile_isSpace.symm.trans hq.takeWhile_isSpace
  have hdigits := hp.takeWhile_isDigit
  have hrest := hp.dropWhile_isDigit
  rw [htail, hq.takeWhile_isDigit] at hdigits
  rw [htail, hq.dropWhile_isDigit] at hrest
  cases p
  cases q
  simp_all

end PartsOf

/-- Octets after their spaces: a sign or none, and what follows it. -/
theorem exists_sign (body : Octets) :
    ∃ sign tail, body = Sign.octets sign ++ tail ∧ (sign = .absent → ∀ b ∈ tail.head?, b ≠ 0x2B ∧ b ≠ 0x2D) := by
  cases body with
  | nil => exact ⟨.absent, [], rfl, by simp⟩
  | cons b tail =>
    by_cases hplus : b = 0x2B
    · exact ⟨.plus, tail, by rw [hplus]; rfl, by simp⟩
    by_cases hminus : b = 0x2D
    · exact ⟨.minus, tail, by rw [hminus]; rfl, by simp⟩
    · exact ⟨.absent, b :: tail, rfl, by simp [hplus, hminus]⟩

/-- Every text falls into parts. -/
theorem exists_partsOf (s : Octets) : ∃ p, PartsOf p s := by
  obtain ⟨sign, tail, hbody, hsign⟩ := exists_sign (s.dropWhile isSpace)
  have htail : tail.takeWhile isDigit ++ tail.dropWhile isDigit = tail := List.takeWhile_append_dropWhile
  refine ⟨⟨s.takeWhile isSpace, sign, tail.takeWhile isDigit, tail.dropWhile isDigit⟩, ?_, ?_, ?_, ?_, ?_, ?_⟩
  · simp only [htail, ← hbody, List.takeWhile_append_dropWhile]
  · intro b hb
    exact (isSpace_iff b).1 (List.all_eq_true.1 List.all_takeWhile b hb)
  · intro b hb hspace
    simp only [htail, ← hbody] at hb
    exact not_of_head?_dropWhile hb ((isSpace_iff b).2 hspace)
  · simp only [htail]
    exact hsign
  · intro b hb
    exact (isDigit_iff b).1 (List.all_eq_true.1 List.all_takeWhile b hb)
  · intro b hb hdigit
    exact not_of_head?_dropWhile hb ((isDigit_iff b).2 hdigit)

/-! ## The digits -/

/-- The magnitude of digits. -/
def Magnitude.after (ds : Octets) : Magnitude := ds.foldl Magnitude.push ⟨0, false⟩

theorem Magnitude.after_concat (ds : Octets) (b : UInt8) : after (ds ++ [b]) = (after ds).push b := by
  simp [after]

theorem PartsOf.leadingInteger_eq {p : Parts} {t : Text} (h : PartsOf p t.octets) :
    leadingInteger t = ((Magnitude.after p.digits).signed (p.sign = .minus)).toInt32 := by
  have hdigits : Magnitude.ofDigits (p.digits ++ p.rest) = Magnitude.after p.digits := by
    rw [Magnitude.ofDigits, h.takeWhile_isDigit, Magnitude.after]
  unfold leadingInteger
  rw [h.dropWhile_isSpace]
  cases hsign : p.sign with
  | absent =>
    simp only [Sign.octets, List.nil_append]
    split
    · rename_i rest heq
      exact absurd heq (h.ne_cons hsign rest).2
    · rename_i rest heq
      exact absurd heq (h.ne_cons hsign rest).1
    · rw [hdigits]
      rfl
  | plus => simp [Sign.octets, hdigits]
  | minus => simp [Sign.octets, hdigits]

namespace Magnitude

/-- Appending a digit, no operation wraps around: the digit's value, the room left for it, and the new magnitude where it is
taken. -/
structure PushExact (m : Magnitude) (b : UInt8) : Prop where
  digit : (b - 0x30).toUInt64.toNat + 0x30 = b.toNat
  room : (0x8000000000000000 - (b - 0x30).toUInt64).toNat + (b - 0x30).toUInt64.toNat = 2 ^ 63
  product : (m.push b).overflow = false → (m.value * 10).toNat = m.value.toNat * 10
  sum : (m.push b).overflow = false →
    (m.value * 10 + (b - 0x30).toUInt64).toNat = (m.value * 10).toNat + (b - 0x30).toUInt64.toNat

/-- The magnitude of digits of the value `n`. -/
structure Tracks (m : Magnitude) (n : Nat) : Prop where
  lost : m.overflow = true ↔ 2 ^ 63 < n
  value : m.overflow = false → m.value.toNat = n

theorem toNat_digitOctet {b : UInt8} (h : IsDecimal b) : (b - 0x30).toUInt64.toNat = b.toNat - 0x30 := by
  rw [UInt8.toNat_toUInt64, UInt8.toNat_sub_of_le b 0x30 (UInt8.le_iff_toNat_le.2 h.1)]
  rfl

theorem toNat_room {b : UInt8} (h : IsDecimal b) :
    (0x8000000000000000 - (b - 0x30).toUInt64).toNat = 2 ^ 63 - (b.toNat - 0x30) := by
  have hdigit := toNat_digitOctet h
  have hle : (b - 0x30).toUInt64 ≤ 0x8000000000000000 := by
    have := h.2
    rw [UInt64.le_iff_toNat_le, hdigit]
    simp
    omega
  rw [UInt64.toNat_sub_of_le _ _ hle, hdigit]
  rfl

/-- A digit does not fit exactly if it would take the magnitude past `2 ^ 63`. -/
theorem exceeds_iff (m : Magnitude) {b : UInt8} (h : IsDecimal b) :
    m.value > (0x8000000000000000 - (b - 0x30).toUInt64) / 10 ↔ 2 ^ 63 < 10 * m.value.toNat + (b.toNat - 0x30) := by
  have := h.2
  rw [gt_iff_lt, UInt64.lt_iff_toNat_lt, UInt64.toNat_div, toNat_room h]
  simp
  omega

theorem push_of_lost {m : Magnitude} {b : UInt8} (h : IsDecimal b)
    (hlost : m.overflow = true ∨ 2 ^ 63 < 10 * m.value.toNat + (b.toNat - 0x30)) : m.push b = ⟨m.value, true⟩ := by
  unfold push
  rw [if_pos (by simpa only [Bool.or_eq_true, decide_eq_true_eq, exceeds_iff m h] using hlost)]

theorem push_of_fits {m : Magnitude} {b : UInt8} (h : IsDecimal b)
    (hfits : ¬(m.overflow = true ∨ 2 ^ 63 < 10 * m.value.toNat + (b.toNat - 0x30))) :
    m.push b = ⟨m.value * 10 + (b - 0x30).toUInt64, false⟩ := by
  unfold push
  rw [if_neg (by simpa only [Bool.or_eq_true, decide_eq_true_eq, exceeds_iff m h] using hfits)]

/-- No operation wraps around while a digit is appended. -/
theorem pushExact (m : Magnitude) {b : UInt8} (h : IsDecimal b) : PushExact m b := by
  have hdigit := toNat_digitOctet h
  have hroom := toNat_room h
  have hlow := h.1
  have hhigh := h.2
  -- where the digit is taken, the new magnitude is at most `2 ^ 63`
  have hfits (htaken : (m.push b).overflow = false) : 10 * m.value.toNat + (b.toNat - 0x30) ≤ 2 ^ 63 := by
    by_contra hexceeds
    rw [push_of_lost h (Or.inr (by omega))] at htaken
    cases htaken
  refine ⟨by omega, by omega, ?_, ?_⟩
  · intro htaken
    have := hfits htaken
    rw [UInt64.toNat_mul]
    simp
    omega
  · intro htaken
    have := hfits htaken
    rw [UInt64.toNat_add, UInt64.toNat_mul, hdigit]
    simp
    omega

/-- One more digit. -/
theorem Tracks.push {m : Magnitude} {n : Nat} (hm : Tracks m n) {b : UInt8} (h : IsDecimal b) :
    Tracks (m.push b) (10 * n + (b.toNat - 0x30)) := by
  have hlost := hm.lost
  have hvalue := hm.value
  by_cases hpast : m.overflow = true ∨ 2 ^ 63 < 10 * m.value.toNat + (b.toNat - 0x30)
  · have hn : 2 ^ 63 < 10 * n + (b.toNat - 0x30) := by
      by_cases hoverflow : m.overflow = true
      · have := hlost.1 hoverflow
        omega
      · have := hvalue (by simpa using hoverflow)
        have := hpast.resolve_left hoverflow
        omega
    rw [push_of_lost h hpast]
    exact ⟨iff_of_true rfl hn, by simp⟩
  · have hpush := push_of_fits h hpast
    have hexact := pushExact m h
    have htaken : (m.push b).overflow = false := by rw [hpush]
    have hproduct := hexact.product htaken
    have hsum := hexact.sum htaken
    have hdigit := toNat_digitOctet h
    have := hvalue (by simpa using fun hoverflow => hpast (Or.inl hoverflow))
    rw [hpush]
    exact ⟨iff_of_false (by simp) (by omega), fun _ => by simp only; omega⟩

/-- The digits of a text, one after the other. -/
theorem tracks_after {ds : Octets} (h : ∀ b ∈ ds, IsDecimal b) : Tracks (after ds) (decimalValue ds) := by
  induction ds using List.reverseRecOn with
  | nil => exact ⟨by simp [after], fun _ => rfl⟩
  | append_singleton ds b ih =>
    rw [after_concat, decimalValue_concat]
    exact (ih fun c hc => h c (List.mem_append_left _ hc)).push (h b (by simp))

/-! ## The sign -/

/-- Giving the magnitude its sign, no operation wraps around. -/
structure SignedExact (m : Magnitude) (negative : Bool) : Prop where
  negated : negative = true → m.overflow = false → m.value ≠ 0x8000000000000000 →
    m.value.toInt64.toInt = m.value.toNat ∧ (-m.value.toInt64).toInt = -m.value.toInt64.toInt
  kept : negative = false → m.overflow = false → m.value ≤ 0x7FFFFFFFFFFFFFFF → m.value.toInt64.toInt = m.value.toNat

/-- An integer moved to the nearest end of the 64-bit range where it lies outside. -/
def clamp (v : Int) : Int := max (-2 ^ 63) (min v (2 ^ 63 - 1))

theorem toInt_toInt64 {w : UInt64} (h : w.toNat < 2 ^ 63) : w.toInt64.toInt = w.toNat := by
  have hbits : w.toInt64.toInt = (w.toNat : Int).bmod (2 ^ 64) := BitVec.toInt_eq_toNat_bmod w.toBitVec
  rw [hbits]
  exact Int.bmod_eq_of_le (by omega) (by omega)

theorem toInt_neg_toInt64 {w : UInt64} (h : w.toNat < 2 ^ 63) : (-w.toInt64).toInt = -w.toNat := by
  rw [Int64.toInt_neg, toInt_toInt64 h]
  exact Int.bmod_eq_of_le (by omega) (by omega)

variable {m : Magnitude} {n : Nat}

theorem Tracks.toNat_value (hm : Tracks m n) (hn : n ≤ 2 ^ 63) : m.overflow = false ∧ m.value.toNat = n := by
  have hkept : m.overflow = false := by
    by_contra hoverflow
    have := hm.lost.1 (by simpa using hoverflow)
    omega
  exact ⟨hkept, hm.value hkept⟩

/-- The test for a negative number that is at the lower end. -/
theorem Tracks.reaches_iff (hm : Tracks m n) : (m.overflow = true ∨ m.value = 0x8000000000000000) ↔ 2 ^ 63 ≤ n := by
  by_cases hn : n ≤ 2 ^ 63
  · obtain ⟨hkept, hvalue⟩ := hm.toNat_value hn
    rw [hkept, ← UInt64.toNat_inj, hvalue]
    simp
    omega
  · exact iff_of_true (Or.inl (hm.lost.2 (by omega))) (by omega)

/-- The test for a positive number that is past the upper end. -/
theorem Tracks.passes_iff (hm : Tracks m n) : (m.overflow = true ∨ m.value > 0x7FFFFFFFFFFFFFFF) ↔ 2 ^ 63 ≤ n := by
  by_cases hn : n ≤ 2 ^ 63
  · obtain ⟨hkept, hvalue⟩ := hm.toNat_value hn
    rw [hkept, gt_iff_lt, UInt64.lt_iff_toNat_lt, hvalue]
    simp
    omega
  · exact iff_of_true (Or.inl (hm.lost.2 (by omega))) (by omega)

theorem Tracks.signedExact (hm : Tracks m n) (negative : Bool) : SignedExact m negative := by
  have hlt (hbelow : ¬2 ^ 63 ≤ n) : m.value.toNat < 2 ^ 63 := by
    rw [(hm.toNat_value (by omega)).2]
    omega
  constructor
  · intro _ hkept hne
    have hbelow : ¬2 ^ 63 ≤ n := by
      rw [← hm.reaches_iff]
      simp [hkept, hne]
    rw [toInt_neg_toInt64 (hlt hbelow), toInt_toInt64 (hlt hbelow)]
    exact ⟨rfl, rfl⟩
  · intro _ hkept hle
    have hbelow : ¬2 ^ 63 ≤ n := by
      rw [← hm.passes_iff]
      simp [hkept, hle]
    exact toInt_toInt64 (hlt hbelow)

/-- The 64-bit integer is the exact one, moved to the end of the range that it passes. -/
theorem Tracks.toInt_signed (hm : Tracks m n) (negative : Bool) :
    (m.signed negative).toInt = clamp (if negative then -n else n) := by
  unfold signed
  cases negative with
  | true =>
    simp only [if_true, Bool.or_eq_true, beq_iff_eq, hm.reaches_iff]
    by_cases hend : 2 ^ 63 ≤ n
    · rw [if_pos hend, Int64.toInt_minValue, clamp]
      omega
    · obtain ⟨-, hvalue⟩ := hm.toNat_value (by omega)
      rw [if_neg hend, toInt_neg_toInt64 (by omega), hvalue, clamp]
      omega
  | false =>
    simp only [Bool.false_eq_true, if_false, Bool.or_eq_true, decide_eq_true_eq, hm.passes_iff]
    by_cases hend : 2 ^ 63 ≤ n
    · rw [if_pos hend, Int64.toInt_maxValue, clamp]
      omega
    · obtain ⟨-, hvalue⟩ := hm.toNat_value (by omega)
      rw [if_neg hend, toInt_toInt64 (by omega), hvalue, clamp]
      omega

end Magnitude

/-! ## The whole text -/

/-- No operation wraps around while the parts are read: each digit after those before it, then the sign. -/
structure Parts.Exact (p : Parts) : Prop where
  push : ∀ before b after, p.digits = before ++ b :: after → (Magnitude.after before).PushExact b
  signed : (Magnitude.after p.digits).SignedExact (p.sign = .minus)

section
variable {p : Parts} {t : Text} (h : PartsOf p t.octets)
include h

theorem PartsOf.exact : p.Exact := by
  constructor
  · intro before b after hdigits
    exact Magnitude.pushExact _ (h.digits b (by rw [hdigits]; simp))
  · exact (Magnitude.tracks_after h.digits).signedExact _

theorem PartsOf.toInt_leadingInteger : (leadingInteger t).toInt = (Magnitude.clamp p.value).bmod (2 ^ 32) := by
  have hvalue : p.value = if decide (p.sign = .minus) = true then -(decimalValue p.digits : Int) else decimalValue p.digits := by
    simp [Parts.value]
  rw [h.leadingInteger_eq, Int64.toInt_toInt32, (Magnitude.tracks_after h.digits).toInt_signed, hvalue]

end

/-- The parts of the decimal text of an integer. -/
def Parts.ofInt (v : Int) : Parts := ⟨[], if v < 0 then .minus else .absent, Numeral.digits 10 v.natAbs, []⟩

theorem octets_integer (v : Int) :
    (Numeral.integer v).octets = (Parts.ofInt v).sign.octets ++ (Numeral.digits 10 v.natAbs ++ []) := by
  rw [List.append_nil]
  cases v with
  | ofNat n => rfl
  | negSucc n =>
    have hminus : ("-" : Text).octets = [0x2D] := by decide
    simp [Numeral.integer, Numeral.decimal, Parts.ofInt, Sign.octets, Int.negSucc_lt_zero, hminus]

theorem not_mem_spaceOctets {b : UInt8} (h : IsDecimal b) : b ∉ spaceOctets := by
  intro hb
  simp only [spaceOctets, List.mem_cons, List.not_mem_nil, or_false] at hb
  rcases hb with rfl | rfl | rfl | rfl | rfl | rfl <;> revert h <;> decide

theorem partsOf_integer (v : Int) : PartsOf (Parts.ofInt v) (Numeral.integer v).octets := by
  have hdecimal := Numeral.isDecimal_digits v.natAbs
  refine ⟨octets_integer v, by simp [Parts.ofInt], ?_, ?_, hdecimal, by simp [Parts.ofInt]⟩
  · intro b hb
    have hmem := List.mem_of_mem_head? hb
    rw [List.mem_append, List.mem_append] at hmem
    rcases hmem with hsign | hdigit | hrest
    · by_cases hv : v < 0
      · have hminus : b = 0x2D := by simpa [Parts.ofInt, hv, Sign.octets] using hsign
        subst hminus
        decide
      · simp [Parts.ofInt, hv, Sign.octets] at hsign
    · exact not_mem_spaceOctets (hdecimal b hdigit)
    · cases hrest
  · intro _ b hb
    have hmem := List.mem_of_mem_head? hb
    simp only [Parts.ofInt, List.append_nil] at hmem
    have hb := hdecimal b hmem
    constructor <;> rintro rfl <;> revert hb <;> decide

theorem value_ofInt (v : Int) : (Parts.ofInt v).value = v := by
  simp only [Parts.value, Parts.ofInt, Numeral.decimalValue_digits]
  by_cases hv : v < 0
  · rw [if_pos hv, if_pos rfl]
    omega
  · rw [if_neg hv, if_neg (by simp)]
    omega

/-- **The integer a text starts with, as far as 64 bits reach, and of that the low 32 bits.** A text falls into spaces, a
sign, digits and a rest in one way; what is read is the integer of the sign and the digits, clamped to 64 bits and then cut
to 32, and no operation on the way wraps around. So the decimal text of a 32-bit integer is read as that integer. -/
theorem leadingInteger_clamps :
    (∀ t : Text, ∃ p : Parts, PartsOf p t.octets ∧ (∀ q : Parts, PartsOf q t.octets → q = p) ∧
      (leadingInteger t).toInt = (Magnitude.clamp p.value).bmod (2 ^ 32) ∧
      leadingInteger t = ((Magnitude.after p.digits).signed (p.sign = .minus)).toInt32 ∧ p.Exact) ∧
    ∀ i : Int32, leadingInteger (Numeral.integer i.toInt) = i := by
  constructor
  · intro t
    obtain ⟨p, hp⟩ := exists_partsOf t.octets
    exact ⟨p, hp, fun q hq => hq.unique hp, hp.toInt_leadingInteger, hp.leadingInteger_eq, hp.exact⟩
  · intro i
    have hlow := i.le_toInt
    have hhigh := i.toInt_lt
    have hclamp : Magnitude.clamp i.toInt = i.toInt := by
      rw [Magnitude.clamp]
      omega
    apply Int32.toInt_inj.1
    rw [(partsOf_integer i.toInt).toInt_leadingInteger, value_ofInt, hclamp]
    exact Int.bmod_eq_of_le (by omega) (by omega)

/-- An integer just below the 64-bit range, between spaces and a letter. -/
def belowRange : Parts := ⟨[0x20, 0x0B], .minus, ("9223372036854775809" : Text).octets, [0x78]⟩

theorem belowRange_clamped :
    PartsOf belowRange (" \x0B-9223372036854775809x" : Text).octets ∧ belowRange.value = -9223372036854775809 ∧
    (leadingInteger " \x0B-9223372036854775809x").toInt = (-9223372036854775808 : Int).bmod (2 ^ 32) := by
  have hparts : PartsOf belowRange (" \x0B-9223372036854775809x" : Text).octets :=
    ⟨by decide +kernel, by decide +kernel, by decide +kernel, by decide +kernel, by decide +kernel, by decide +kernel⟩
  obtain ⟨p, -, hunique, hread, -⟩ := leadingInteger_clamps.1 " \x0B-9223372036854775809x"
  have hvalue : belowRange.value = -9223372036854775809 := by decide +kernel
  rw [← hunique belowRange hparts, hvalue] at hread
  exact ⟨hparts, hvalue, hread⟩

end SimPhonebook.Phonebook
