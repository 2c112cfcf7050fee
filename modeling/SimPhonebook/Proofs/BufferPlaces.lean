import Mathlib.Algebra.GroupWithZero.Nat
import SimPhonebook.Proofs.EntryBounds

/-!
# Where the parts of a buffer stand

A buffer is built exactly if its fixed area was declared with four octets for each word and eight for each string. Wherever
its octets stand, a reader at their start reads back every field (`build_readable_anywhere`). The data of the strings follows
the fixed area in the order of the fields: each piece starts at a multiple of four, since the pieces before it are filled up
to one, and no two of them overlap.
-/

namespace SimPhonebook.InfoBuffer

open Octets

/-! ## Sizes -/

def Field.isWord : Field → Bool
  | .word _ => true
  | .string _ => false

def Field.isString : Field → Bool
  | .word _ => false
  | .string _ => true

/-- The size of a fixed area that holds just these fields. -/
def declaredSize (fields : List Field) : Nat := 4 * fields.countP Field.isWord + 8 * fields.countP Field.isString

/-- Where field `i` stands in the fixed area: behind the fields before it. -/
def position (fields : List Field) (i : Nat) : Nat := declaredSize (fields.take i)

/-- The string of a field as it stands in the data area; a word has none. -/
def Field.encoded : Field → Octets
  | .word _ => []
  | .string t => Utf16.encode t

theorem fixedSize_eq_declaredSize (fields : List Field) : fixedSize fields = declaredSize fields := by
  induction fields with
  | nil => rfl
  | cons f fs ih =>
    rw [declaredSize] at ih
    rw [fixedSize, ih, declaredSize, List.countP_cons, List.countP_cons]
    cases f with
    | word w =>
      simp only [Field.fixedSize, Field.isWord, Field.isString, if_true, Bool.false_eq_true, if_false]
      omega
    | string t =>
      simp only [Field.fixedSize, Field.isWord, Field.isString, if_true, Bool.false_eq_true, if_false]
      omega

theorem padded_spec (n : Nat) : n ≤ padded n ∧ padded n < n + 4 ∧ padded n % 4 = 0 := by
  unfold padded
  omega

theorem Field.length_data (f : Field) : f.data.length = padded f.encoded.length := by
  cases f with
  | word w => simp [Field.data, Field.encoded, padded]
  | string t =>
    have := (padded_spec (Utf16.encode t).length).1
    simp only [Field.data, Field.encoded, pad, List.length_append, List.length_replicate]
    omega

theorem length_dataArea (fields : List Field) :
    (dataArea fields).length = (fields.map fun f => padded f.encoded.length).sum := by
  induction fields with
  | nil => rfl
  | cons f fs ih => rw [dataArea_cons, List.length_append, ih, Field.length_data, List.map_cons, List.sum_cons]

/-- The data of fields end at a multiple of four. -/
theorem length_dataArea_mod_four (fields : List Field) : (dataArea fields).length % 4 = 0 := by
  induction fields with
  | nil => rfl
  | cons f fs ih =>
    have := (padded_spec f.encoded.length).2.2
    rw [dataArea_cons, List.length_append, Field.length_data]
    omega

/-! ## Reading a field back -/

/-- The reader finds the field at the offset, a text with its stray octets repaired. -/
def Field.FoundBy (r : Reader) (offset : Nat) : Field → Prop
  | .word w => r.word offset = .ok w
  | .string t => r.string offset = .ok t.repair

section
variable {fields : List Field} {i : Nat} {f : Field}

theorem split_at_field (h : fields[i]? = some f) :
    fields = fields.take i ++ f :: fields.drop (i + 1) ∧ fixedSize (fields.take i) = position fields i := by
  obtain ⟨hi, rfl⟩ := List.getElem?_eq_some_iff.1 h
  refine ⟨?_, fixedSize_eq_declaredSize _⟩
  rw [← List.drop_eq_getElem_cons hi, List.take_append_drop]

theorem foundBy_layout (front back : Octets) (base : Nat) (hshort : (layout fields).length < 2 ^ 32)
    (h : fields[i]? = some f) :
    f.FoundBy (Reader.moveTo ⟨front ++ layout fields ++ back, base⟩ front.length) (position fields i) := by
  obtain ⟨hsplit, hposition⟩ := split_at_field h
  rw [Reader.moveTo, List.append_assoc, ← hposition]
  cases f with
  | word w => exact Reader.word_layout front back _ hsplit
  | string t => exact Reader.string_layout front back _ hsplit hshort

end

/-! ## The data of a string -/

/-- What is referred to is the string, in the data area and at a multiple of four. -/
structure Reference.Locates (ref : Reference) (size : Nat) (out : Octets) (t : Text) : Prop where
  aligned : ref.offset % 4 = 0
  behindFixed : size ≤ ref.offset
  inside : ref.offset + ref.size ≤ out.length
  holds : (out.drop ref.offset).take ref.size = Utf16.encode t

/-- No octet belongs to both. -/
def Reference.Apart (a b : Reference) : Prop := a.offset + a.size ≤ b.offset ∨ b.offset + b.size ≤ a.offset

section
variable {fields : List Field} {i j : Nat} {t u : Text}

theorem length_dataArea_split {f : Field} (h : fields[i]? = some f) :
    (dataArea fields).length =
      (dataArea (fields.take i)).length + (padded f.encoded.length + (dataArea (fields.drop (i + 1))).length) := by
  conv => lhs; rw [(split_at_field h).1]
  simp [Field.length_data]

/-- The offset and the size of a string that is not empty, as they stand in the fixed area. -/
theorem referenceAt_layout (h : fields[i]? = some (.string t)) (ht : t ≠ Text.empty)
    (hshort : (layout fields).length < 2 ^ 32) :
    referenceAt (layout fields) (position fields i) =
      ⟨fixedSize fields + (dataArea (fields.take i)).length, (Utf16.encode t).length⟩ := by
  obtain ⟨hsplit, hposition⟩ := split_at_field h
  have hsize : (Utf16.encode t).length ≠ 0 := fun hzero =>
    ht ((Utf16.encode_eq_nil_iff t).1 (List.eq_nil_of_length_eq_zero hzero))
  obtain ⟨hstart, hlength⟩ := Reader.words_layout [] [] _ hsplit
    (x := UInt32.ofNat (fixedSize fields + (dataArea (fields.take i)).length)) (y := UInt32.ofNat (Utf16.encode t).length)
    (by simp [Field.fixed, hsize])
  simp only [List.nil_append, List.append_nil, List.length_nil] at hstart hlength
  have hoffset := (Reader.word_eq_ok_iff.1 hstart).2
  have hcount := (Reader.word_eq_ok_iff (k := fixedSize (fields.take i) + 4).1 hlength).2
  have hfits := length_dataArea_split h
  have hpad := (padded_spec (Utf16.encode t).length).1
  rw [length_layout, hfits, Field.encoded] at hshort
  rw [Nat.zero_add] at hoffset hcount
  rw [← hposition, referenceAt, hoffset, hcount, toNat_ofNat_of_lt (by omega), toNat_ofNat_of_lt (by omega)]

/-- **The data of a string stands where its reference says.** -/
theorem locates_layout (h : fields[i]? = some (.string t)) (ht : t ≠ Text.empty)
    (hshort : (layout fields).length < 2 ^ 32) :
    (referenceAt (layout fields) (position fields i)).Locates (fixedSize fields) (layout fields) t := by
  have hfits := length_dataArea_split h
  have hpad := (padded_spec (Utf16.encode t).length).1
  have hdata := length_dataArea_mod_four (fields.take i)
  have hfixed := fixedSize_eq_declaredSize fields
  rw [declaredSize] at hfixed
  rw [Field.encoded] at hfits
  rw [referenceAt_layout h ht hshort]
  constructor
  · simp only
    omega
  · simp
  · simp only [length_layout]
    omega
  · obtain ⟨rest, hrest⟩ := Reader.layout_eq_append_data [] [] _ (split_at_field h).1
    simp only [List.nil_append, List.append_nil] at hrest
    simp only [hrest]
    rw [List.drop_left' (by simp), List.take_left]

/-- The data of a string ends before the data of a later one starts. -/
theorem reference_before (hi : fields[i]? = some (.string t)) (ht : t ≠ Text.empty) (hj : fields[j]? = some (.string u))
    (hu : u ≠ Text.empty) (hij : i < j) (hshort : (layout fields).length < 2 ^ 32) :
    (referenceAt (layout fields) (position fields i)).offset + (referenceAt (layout fields) (position fields i)).size ≤
      (referenceAt (layout fields) (position fields j)).offset := by
  -- among the fields before the later string is the earlier one
  have hsplit : (fields.take j)[i]? = some (.string t) := by rw [List.getElem?_take_of_lt hij, hi]
  have hfits := length_dataArea_split hsplit
  have hpad := (padded_spec (Utf16.encode t).length).1
  rw [List.take_take, Nat.min_eq_left (Nat.le_of_lt hij), Field.encoded] at hfits
  rw [referenceAt_layout hi ht hshort, referenceAt_layout hj hu hshort]
  simp only
  omega

end

/-! ## The whole buffer -/

/-- **A buffer can be read wherever it stands.** It is built exactly if the declared size is that of its fields. Then every
field is read back at its position, with any octets in front of the buffer and behind it; the buffer is as long as the fixed
area and the filled-up strings; and the data of the strings that are not empty stand behind the fixed area, each at a multiple
of four and apart from the others. -/
theorem build_readable_anywhere (size : Nat) (fields : List Field) :
    ((∃ out, build size fields = .ok out) ↔
      size = 4 * fields.countP Field.isWord + 8 * fields.countP Field.isString) ∧
    ∀ out, build size fields = .ok out → out.length < 2 ^ 32 →
      (∀ (front back : Octets) (base i : Nat) (f : Field), fields[i]? = some f →
        f.FoundBy (Reader.moveTo ⟨front ++ out ++ back, base⟩ front.length) (position fields i)) ∧
      out.length = size + (fields.map fun f => padded f.encoded.length).sum ∧
      (∀ (i : Nat) (t : Text), fields[i]? = some (.string t) → t ≠ Text.empty →
        (referenceAt out (position fields i)).Locates size out t) ∧
      ∀ (i j : Nat) (t u : Text), fields[i]? = some (.string t) → t ≠ Text.empty → fields[j]? = some (.string u) →
        u ≠ Text.empty → i ≠ j →
        (referenceAt out (position fields i)).Apart (referenceAt out (position fields j)) := by
  refine ⟨⟨?_, fun hsize => ⟨_, build_eq_ok ((fixedSize_eq_declaredSize fields).trans hsize.symm)⟩⟩, ?_⟩
  · rintro ⟨out, h⟩
    rw [← (build_eq_ok_iff.1 h).1, fixedSize_eq_declaredSize, declaredSize]
  · intro out h hshort
    obtain ⟨rfl, rfl⟩ := build_eq_ok_iff.1 h
    refine ⟨fun front back base i f hi => foundBy_layout front back base hshort hi, ?_,
      fun i t hi ht => locates_layout hi ht hshort, fun i j t u hi ht hj hu hij => ?_⟩
    · rw [length_layout, length_dataArea]
    · rcases Nat.lt_or_gt_of_ne hij with hlt | hgt
      · exact Or.inl (reference_before hi ht hj hu hlt hshort)
      · exact Or.inr (reference_before hj hu hi ht hgt hshort)

/-- A word, an empty string, three units of which two make one character, and an octet of no character. -/
def mixedFields : List Field := [.word 7, .string "", .string "𝄞é", .string ⟨[0xFF]⟩]

theorem mixedFields_readable :
    ∃ out, build 28 mixedFields = .ok out ∧ out.length = 40 ∧
      Reader.word (Reader.moveTo ⟨[1, 2, 3] ++ out ++ [4], 0⟩ 3) 0 = .ok 7 ∧
      Reader.string (Reader.moveTo ⟨[1, 2, 3] ++ out ++ [4], 0⟩ 3) 20 = .ok "\uFFFD" ∧
      (referenceAt out 12).Locates 28 out "𝄞é" ∧ (referenceAt out 12).Apart (referenceAt out 20) := by
  obtain ⟨hbuilt, hread⟩ := build_readable_anywhere 28 mixedFields
  obtain ⟨out, hout⟩ := hbuilt.2 (by decide)
  have hlength : out.length = 40 := by
    have h : (build 28 mixedFields).toOption.elim 0 List.length = 40 := by decide +kernel
    rwa [hout] at h
  obtain ⟨hfound, -, hlocates, hapart⟩ := hread out hout (by rw [hlength]; decide)
  have hrepair : (⟨[0xFF]⟩ : Text).repair = "\uFFFD" := by decide +kernel
  exact ⟨out, hout, hlength, hfound [1, 2, 3] [4] 0 0 _ rfl, hrepair ▸ hfound [1, 2, 3] [4] 0 3 _ rfl,
    hlocates 2 _ rfl (by decide), hapart 2 3 _ _ rfl (by decide) rfl (by decide) (by decide)⟩

end SimPhonebook.InfoBuffer
