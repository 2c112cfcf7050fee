import SimPhonebook.Proofs.Repair
import SimPhonebook.Proofs.Utf16Text

/-!
# Text and strings of units

Text written as units and read again is the text repaired; text without stray octets comes back as it was. The other way
round, every whole number of units reads as well-formed text, and writing that text gives the units back exactly if each
surrogate among them has its partner (`Utf16.transcoding_round_trips`).

Whether a surrogate has its partner is said by its neighbours alone (`Utf16.Unpaired`). `Utf16.charsOf` takes pairs off the front,
so the proofs follow its cases: a unit that is no surrogate and a pair can be taken off a sequence without changing whether
it has unpaired surrogates (`allPaired_cons`, `allPaired_pair`), and a surrogate that cannot be taken off as part of a pair is
unpaired (`not_allPaired`).
-/

namespace SimPhonebook.Utf16

/-! ## Octets as units -/

theorem flatMap_octetsOf_units {data : Octets} (h : data.length % 2 = 0) : (units data).flatMap octetsOf = data := by
  fun_induction units data with
  | case1 lo hi rest ih =>
    have hlo := lo.toNat_lt
    have hhi := hi.toNat_lt
    have hrest : rest.length % 2 = 0 := by
      simp only [List.length_cons] at h
      omega
    have hunit : octetsOf (lo.toNat + 256 * hi.toNat) = [lo, hi] := by
      rw [octetsOf, show (lo.toNat + 256 * hi.toNat) % 256 = lo.toNat by omega,
        show (lo.toNat + 256 * hi.toNat) / 256 = hi.toNat by omega, UInt8.ofNat_toNat, UInt8.ofNat_toNat]
    rw [List.flatMap_cons, hunit, ih hrest]
    rfl
  | case2 data hshort =>
    rcases data with _ | ⟨lo, _ | ⟨hi, rest⟩⟩
    · rfl
    · simp at h
    · exact absurd rfl (hshort lo hi rest)

theorem units_lt (data : Octets) : ∀ u ∈ units data, u < 65536 := by
  fun_induction units data with
  | case1 lo hi rest ih =>
    have hlo := lo.toNat_lt
    have hhi := hi.toNat_lt
    intro u hu
    rcases List.mem_cons.1 hu with rfl | hu
    · omega
    · exact ih u hu
  | case2 => simp

/-! ## Surrogates and their partners -/

def highAt (us : List Nat) (i : Nat) : Bool := us[i]?.any isHigh

def lowAt (us : List Nat) (i : Nat) : Bool := us[i]?.any isLow

/-- Unit `i` is a high surrogate with no low one behind it, or a low surrogate with no high one before it. -/
def Unpaired (us : List Nat) (i : Nat) : Prop :=
  (highAt us i = true ∧ lowAt us (i + 1) = false) ∨ (lowAt us i = true ∧ (i = 0 ∨ highAt us (i - 1) = false))

/-- No unit is an unpaired surrogate. -/
def AllPaired (us : List Nat) : Prop := ∀ i, ¬Unpaired us i

section
variable {u v : Nat} {us : List Nat}

theorem isSurrogate_iff : isSurrogate u = true ↔ isHigh u = true ∨ isLow u = true := by
  simp only [isSurrogate, isHigh, isLow, Bool.and_eq_true, decide_eq_true_eq]
  omega

theorem isHigh_of_isLow (h : isLow u = true) : isHigh u = false := by
  simp only [isHigh, isLow, Bool.and_eq_true, Bool.and_eq_false_iff, decide_eq_true_eq, decide_eq_false_iff_not] at *
  omega

theorem allPaired_nil : AllPaired [] := by
  intro i
  simp [Unpaired, highAt, lowAt]

/-- Behind a unit that is not high, the surrogates are paired as they are without it. -/
theorem unpaired_cons_succ (h : isHigh u = false) (i : Nat) : Unpaired (u :: us) (i + 1) ↔ Unpaired us i := by
  cases i with
  | zero => simp [Unpaired, highAt, lowAt, h]
  | succ i => simp [Unpaired, highAt, lowAt]

theorem allPaired_cons (h : isSurrogate u = false) : AllPaired (u :: us) ↔ AllPaired us := by
  have hu : isHigh u = false ∧ isLow u = false := by
    rw [← Bool.not_eq_true, isSurrogate_iff, not_or] at h
    simpa using h
  constructor
  · intro hall i hi
    exact hall (i + 1) ((unpaired_cons_succ hu.1 i).2 hi)
  · intro hall i hi
    cases i with
    | zero => simp [Unpaired, highAt, lowAt, hu] at hi
    | succ i => exact hall i ((unpaired_cons_succ hu.1 i).1 hi)

theorem allPaired_pair (hu : isHigh u = true) (hv : isLow v = true) : AllPaired (u :: v :: us) ↔ AllPaired us := by
  have hlow : isLow u = false := by
    rw [← Bool.not_eq_true]
    intro hlow
    rw [isHigh_of_isLow hlow] at hu
    cases hu
  have hskip : ∀ i, Unpaired (u :: v :: us) (i + 2) ↔ Unpaired us i := by
    intro i
    rw [← unpaired_cons_succ (isHigh_of_isLow hv) i]
    -- the unit in front of the pair is no neighbour of what follows it
    simp [Unpaired, highAt, lowAt]
  constructor
  · intro hall i hi
    exact hall (i + 2) ((hskip i).2 hi)
  · intro hall i hi
    rcases i with _ | _ | i
    · simp [Unpaired, highAt, lowAt, hlow, hv] at hi
    · simp [Unpaired, highAt, lowAt, isHigh_of_isLow hv, hu] at hi
    · exact hall i ((hskip i).1 hi)

/-- A surrogate at the front is paired only as the high one of a pair. -/
theorem not_allPaired (hu : isSurrogate u = true) (h : ¬(isHigh u = true ∧ lowAt us 0 = true)) : ¬AllPaired (u :: us) := by
  intro hall
  apply hall 0
  rcases isSurrogate_iff.1 hu with hhigh | hlow
  · left
    refine ⟨by simpa [highAt] using hhigh, ?_⟩
    rw [← Bool.not_eq_true]
    exact fun hv => h ⟨hhigh, by simpa [lowAt] using hv⟩
  · right
    exact ⟨by simpa [lowAt] using hlow, Or.inl rfl⟩

end

/-! ## Units as characters -/

theorem toNat_ofNat_of_isValidChar {n : Nat} (h : n.isValidChar) : (Char.ofNat n).toNat = n := by
  rw [Char.ofNat, dif_pos h]
  rfl

theorem unitsOf_ofNat {u : Nat} (hlt : u < 65536) (h : isSurrogate u = false) : unitsOf (Char.ofNat u) = [u] := by
  have hvalid : u.isValidChar := by
    simp only [isSurrogate, Bool.and_eq_false_iff, decide_eq_false_iff_not] at h
    unfold Nat.isValidChar
    omega
  simp only [unitsOf, toNat_ofNat_of_isValidChar hvalid]
  rw [if_pos hlt]

theorem unitsOf_pair {u v : Nat} (hu : isHigh u = true) (hv : isLow v = true) : unitsOf (pair u v) = [u, v] := by
  simp only [isHigh, isLow, Bool.and_eq_true, decide_eq_true_eq] at hu hv
  have hvalid : (0x10000 + (u - 0xD800) * 1024 + (v - 0xDC00)).isValidChar := by
    unfold Nat.isValidChar
    omega
  simp only [unitsOf, pair, toNat_ofNat_of_isValidChar hvalid]
  rw [if_neg (by omega), show 0xD800 + (0x10000 + (u - 0xD800) * 1024 + (v - 0xDC00) - 0x10000) / 1024 = u by omega,
    show 0xDC00 + (0x10000 + (u - 0xD800) * 1024 + (v - 0xDC00) - 0x10000) % 1024 = v by omega]

/-- A character is one unit that is no surrogate, or a pair. -/
theorem unitsOf_cases (c : Char) :
    (∃ u, unitsOf c = [u] ∧ isSurrogate u = false) ∨
      ∃ u v, unitsOf c = [u, v] ∧ isHigh u = true ∧ isLow v = true := by
  have hc := toNat_valid c
  simp only [unitsOf]
  split
  · refine Or.inl ⟨_, rfl, ?_⟩
    simp only [isSurrogate, Bool.and_eq_false_iff, decide_eq_false_iff_not]
    omega
  · refine Or.inr ⟨_, _, rfl, ?_, ?_⟩
    · simp only [isHigh, Bool.and_eq_true, decide_eq_true_eq]
      omega
    · simp only [isLow, Bool.and_eq_true, decide_eq_true_eq]
      omega

/-- The units of characters have no unpaired surrogate. -/
theorem allPaired_flatMap_unitsOf (cs : List Char) : AllPaired (cs.flatMap unitsOf) := by
  induction cs with
  | nil => exact allPaired_nil
  | cons c cs ih =>
    rw [List.flatMap_cons]
    rcases unitsOf_cases c with ⟨u, hc, hu⟩ | ⟨u, v, hc, hu, hv⟩
    · rw [hc]
      exact (allPaired_cons hu).2 ih
    · rw [hc]
      exact (allPaired_pair hu hv).2 ih

/-- Units without an unpaired surrogate are those of the characters read from them. -/
theorem flatMap_unitsOf_charsOf {us : List Nat} (hlt : ∀ u ∈ us, u < 65536) (h : AllPaired us) :
    (charsOf us).flatMap unitsOf = us := by
  fun_induction charsOf us with
  | case1 => rfl
  | case2 u =>
    have hu : isSurrogate u = false := by
      rw [← Bool.not_eq_true]
      exact fun hu => not_allPaired hu (by simp [lowAt]) h
    simp [hu, unitsOf_ofNat (hlt u (by simp)) hu]
  | case3 u v rest hu hv ih =>
    have hhigh : isHigh u = true :=
      Decidable.byContradiction fun hlow => not_allPaired hu (fun hpair => hlow hpair.1) h
    rw [if_pos hhigh, List.flatMap_cons, unitsOf_pair hhigh hv,
      ih (fun w hw => hlt w (by simp [hw])) ((allPaired_pair hhigh hv).1 h)]
    rfl
  | case4 u v rest hu hv ih => exact absurd h (not_allPaired hu fun hpair => hv (by simpa [lowAt] using hpair.2))
  | case5 u v rest hu ih =>
    have hu : isSurrogate u = false := by simpa using hu
    rw [List.flatMap_cons, unitsOf_ofNat (hlt u (by simp)) hu,
      ih (fun w hw => hlt w (List.mem_cons_of_mem u hw)) ((allPaired_cons hu).1 h)]
    rfl

/-! ## Text from octets and back -/

theorem decode_of_even {data : Octets} (h : data.length % 2 = 0) :
    decode data = .ok (Text.ofChars (charsOf (units data))) := by
  rw [decode, if_pos h]

theorem units_encode_ofChars (cs : List Char) : units (encode (Text.ofChars cs)) = cs.flatMap unitsOf := by
  rw [encode, Text.chars, Text.ofChars, Utf8.chars_ofChars]
  refine units_flatMap_octetsOf fun u hu => ?_
  obtain ⟨c, -, hc⟩ := List.mem_flatMap.1 hu
  exact unitsOf_lt hc

/-- What is read from a whole number of units is written as they are exactly if no surrogate is unpaired. -/
theorem encode_ofChars_charsOf_iff {data : Octets} (h : data.length % 2 = 0) :
    encode (Text.ofChars (charsOf (units data))) = data ↔ AllPaired (units data) := by
  constructor
  · intro hback
    have hunits := units_encode_ofChars (charsOf (units data))
    rw [hback] at hunits
    rw [hunits]
    exact allPaired_flatMap_unitsOf _
  · intro hpaired
    rw [encode, Text.chars, Text.ofChars, Utf8.chars_ofChars, flatMap_unitsOf_charsOf (units_lt data) hpaired,
      flatMap_octetsOf_units h]

/-- **Text and strings of units determine each other.** Well-formed text is read back from its units; any other text comes
back with its stray octets replaced and nothing else changed. Only the empty text has no units. A whole number of units always
reads as well-formed text, which is written as the same units exactly if each surrogate has its partner; a number of octets
that is not a whole number of units is refused. -/
theorem transcoding_round_trips (t : Text) (data : Octets) :
    (t.octets.toByteArray.IsValidUTF8 → decode (encode t) = .ok t) ∧
    (∀ u : Text, decode (encode t) = .ok u ↔ Utf8.Repaired t.octets u.octets) ∧
    (encode t).length % 2 = 0 ∧ (encode t = [] ↔ t = Text.empty) ∧
    (data.length % 2 = 0 → ∃ u : Text, decode data = .ok u ∧ u.octets.toByteArray.IsValidUTF8 ∧
      (encode u = data ↔ ∀ i, ¬Unpaired (units data) i)) ∧
    (data.length % 2 = 1 → decode data = .error ⟨data.length⟩) := by
  refine ⟨fun hvalid => ?_, fun u => ?_, length_encode_mod_two t, encode_eq_nil_iff t, fun heven => ?_, fun hodd => ?_⟩
  · rw [decode_encode, Text.repair_of_isValid ((Utf8.isValid_iff t.octets).2 hvalid)]
  · rw [decode_encode, Utf8.repaired_iff, Except.ok.injEq, Text.repair]
    constructor
    · rintro rfl
      rfl
    · intro h
      rw [← h]
  · exact ⟨_, decode_of_even heven, (Utf8.isValid_iff _).1 (Utf8.isValid_ofChars _), encode_ofChars_charsOf_iff heven⟩
  · rw [decode, if_neg (by omega)]

/-- A character of two units comes back; two low surrogates are read, but not written again; three octets are refused. -/
theorem surrogates_transcoded :
    decode (encode "a𝄞") = .ok "a𝄞" ∧
    (∃ u : Text, decode [0x00, 0xDC, 0x01, 0xDC] = .ok u ∧ u.octets.toByteArray.IsValidUTF8 ∧
      encode u ≠ [0x00, 0xDC, 0x01, 0xDC]) ∧
    decode [0x34, 0xD8, 0x1E] = .error ⟨3⟩ := by
  obtain ⟨hback, -, -, -, hread, -⟩ := transcoding_round_trips "a𝄞" [0x00, 0xDC, 0x01, 0xDC]
  obtain ⟨-, -, -, -, -, hodd⟩ := transcoding_round_trips "a𝄞" [0x34, 0xD8, 0x1E]
  obtain ⟨u, hu, hvalid, hiff⟩ := hread rfl
  refine ⟨hback ((Utf8.isValid_iff _).1 (by decide +kernel)), ⟨u, hu, hvalid, fun h => ?_⟩, hodd rfl⟩
  exact hiff.1 h 0 (Or.inr ⟨by decide, Or.inl rfl⟩)

end SimPhonebook.Utf16
