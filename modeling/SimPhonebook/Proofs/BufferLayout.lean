import SimPhonebook.InfoBuffer.Builder
import SimPhonebook.InfoBuffer.Reader
import SimPhonebook.Proofs.Utf16Text
import SimPhonebook.Proofs.Words

/-!
# Reading a buffer field by field

A buffer is built exactly if its fixed area was declared with the size that the fields take (`build_eq_ok_iff`). A reader
that stands at its start reads back each field at the field's position, whatever stands in front of the buffer and
behind it (`Reader.word_layout`, `Reader.string_layout`): the offset written for a string is where its data comes to stand,
since the data of the fields before it has just the length that the offsets were advanced by.
-/

namespace SimPhonebook.InfoBuffer

open Octets

/-! ## Sizes -/

/-- The octets a field takes in the fixed area. -/
def Field.fixedSize : Field → Nat
  | .word _ => 4
  | .string _ => 8

/-- The octets the fields take in the fixed area. -/
def fixedSize : List Field → Nat
  | [] => 0
  | f :: fs => f.fixedSize + fixedSize fs

@[simp] theorem Field.length_fixed (start : Nat) (f : Field) : (f.fixed start).length = f.fixedSize := by
  cases f with
  | word w => rfl
  | string t =>
    simp only [Field.fixed]
    split
    · rfl
    · rfl

@[simp] theorem length_fixedArea (start : Nat) (fields : List Field) :
    (fixedArea start fields).length = fixedSize fields := by
  induction fields generalizing start with
  | nil => rfl
  | cons f fs ih => simp [fixedArea, fixedSize, ih]

theorem fixedSize_append (xs ys : List Field) : fixedSize (xs ++ ys) = fixedSize xs + fixedSize ys := by
  induction xs with
  | nil => simp [fixedSize]
  | cons x xs ih => simp [fixedSize, ih, Nat.add_assoc]

@[simp] theorem dataArea_append (xs ys : List Field) : dataArea (xs ++ ys) = dataArea xs ++ dataArea ys :=
  List.flatMap_append

@[simp] theorem dataArea_cons (f : Field) (fs : List Field) : dataArea (f :: fs) = f.data ++ dataArea fs :=
  List.flatMap_cons

theorem fixedArea_append (start : Nat) (xs ys : List Field) :
    fixedArea start (xs ++ ys) = fixedArea start xs ++ fixedArea (start + (dataArea xs).length) ys := by
  induction xs generalizing start with
  | nil => rfl
  | cons x xs ih => simp [fixedArea, ih, Nat.add_assoc]

/-! ## Building -/

/-- The buffer of the fields, its fixed area of just their size. -/
def layout (fields : List Field) : Octets := fixedArea (fixedSize fields) fields ++ dataArea fields

theorem length_layout (fields : List Field) : (layout fields).length = fixedSize fields + (dataArea fields).length := by
  rw [layout, List.length_append, length_fixedArea]

/-- **A buffer is built exactly if the size of its fixed area was declared right.** -/
theorem build_eq_ok_iff {size : Nat} {fields : List Field} {out : Octets} :
    build size fields = .ok out ↔ fixedSize fields = size ∧ out = layout fields := by
  simp only [build, length_fixedArea]
  constructor
  · intro h
    split at h
    · rename_i hsize
      cases h
      exact ⟨hsize, by rw [layout, hsize]⟩
    · cases h
  · rintro ⟨rfl, rfl⟩
    rw [if_pos rfl, layout]

theorem build_eq_ok {size : Nat} {fields : List Field} (h : fixedSize fields = size) :
    build size fields = .ok (layout fields) :=
  build_eq_ok_iff.2 ⟨h, rfl⟩

/-! ## Reading at a position -/

namespace Reader

variable {r : Reader} {a b : Octets}

theorem word_of_append {w : UInt32} {offset : Nat} (h : r.buffer = a ++ (ofWord w ++ b))
    (hoffset : a.length = r.base + offset) : r.word offset = .ok w := by
  have hlen : r.base + offset + 4 ≤ r.buffer.length := by
    rw [h, List.length_append, List.length_append, length_ofWord]
    omega
  have hposition : ((r.base : Int) + offset).toNat = r.base + offset := by omega
  simp only [word]
  rw [if_neg (by omega), hposition, wordAt_of_eq_append h hoffset]

theorem slice_of_append {s : Octets} {offset size : UInt32} (h : r.buffer = a ++ (s ++ b))
    (hoffset : a.length = r.base + offset.toNat) (hsize : s.length = size.toNat) : r.slice offset size = .ok s := by
  have hfit : ¬r.base + offset.toNat + size.toNat > r.buffer.length := by
    rw [h, List.length_append, List.length_append]
    omega
  simp only [slice]
  rw [if_neg hfit, h, List.drop_left' hoffset, List.take_left' hsize]

/-- A string is read from the offset and size that stand at its position. -/
theorem string_of_words {start size : UInt32} {offset : Int} (hstart : r.word offset = .ok start)
    (hsize : r.word (offset + 4) = .ok size) :
    r.string offset =
      if size = 0 then .ok Text.empty
      else (r.slice start size).bind fun data => (Utf16.decode data).mapError fun e => .oddString e.length := by
  simp only [string, hstart, hsize, bind, Except.bind, pure, Except.pure]

/-! ## Reading the fields of a buffer -/

/-- The reader finds the fields one after the other from `offset` on, their texts with the stray octets repaired. -/
def Finds (r : Reader) (offset : Nat) : List Field → Prop
  | [] => True
  | .word w :: fields => r.word offset = .ok w ∧ r.Finds (offset + 4) fields
  | .string t :: fields => r.string offset = .ok t.repair ∧ r.Finds (offset + 8) fields

section
variable {fields after : List Field} (front back : Octets) (before : List Field)

/-- The buffer around the fixed part of one of its fields. -/
theorem layout_eq_append {f : Field} (h : fields = before ++ f :: after) :
    ∃ rest, front ++ (layout fields ++ back) =
      (front ++ fixedArea (fixedSize fields) before) ++ (f.fixed (fixedSize fields + (dataArea before).length) ++ rest) := by
  refine ⟨fixedArea (fixedSize fields + (dataArea before).length + f.data.length) after ++ (dataArea fields ++ back), ?_⟩
  rw [layout]
  generalize fixedSize fields = size
  generalize dataArea fields = data
  rw [h, fixedArea_append, fixedArea]
  simp only [List.append_assoc]

/-- The buffer around the data of one of its strings, which stands behind the fixed area and the data of the fields
before it. -/
theorem layout_eq_append_data {t : Text} (h : fields = before ++ .string t :: after) :
    ∃ rest, front ++ (layout fields ++ back) =
      (front ++ (fixedArea (fixedSize fields) fields ++ dataArea before)) ++ (Utf16.encode t ++ rest) := by
  refine ⟨List.replicate (padded (Utf16.encode t).length - (Utf16.encode t).length) 0 ++ (dataArea after ++ back), ?_⟩
  rw [layout]
  generalize fixedArea (fixedSize fields) fields = fixed
  rw [h, dataArea_append, dataArea_cons, Field.data, pad]
  simp only [List.append_assoc]

theorem word_layout {w : UInt32} (h : fields = before ++ .word w :: after) :
    word ⟨front ++ (layout fields ++ back), front.length⟩ (fixedSize before) = .ok w := by
  obtain ⟨rest, hrest⟩ := layout_eq_append front back before h
  exact word_of_append hrest (by simp)

theorem wordAt_layout {w : UInt32} (h : fields = before ++ .word w :: after) :
    wordAt (layout fields ++ back) (fixedSize before) = w := by
  obtain ⟨rest, hrest⟩ := layout_eq_append [] back before h
  exact wordAt_of_eq_append hrest (by simp)

/-- The offset and the size of a string. -/
theorem words_layout {t : Text} {x y : UInt32} (h : fields = before ++ .string t :: after)
    (hfixed : Field.fixed (fixedSize fields + (dataArea before).length) (.string t) = ofWord x ++ ofWord y) :
    word ⟨front ++ (layout fields ++ back), front.length⟩ (fixedSize before) = .ok x ∧
    word ⟨front ++ (layout fields ++ back), front.length⟩ (fixedSize before + 4) = .ok y := by
  obtain ⟨rest, hrest⟩ := layout_eq_append front back before h
  rw [hfixed, List.append_assoc (ofWord x)] at hrest
  constructor
  · exact word_of_append hrest (by simp)
  · rw [← List.append_assoc (front ++ _)] at hrest
    exact word_of_append hrest (by simp)

/-- **A string is read back** with its stray octets repaired, as long as the offsets fit their words. -/
theorem string_layout {t : Text} (h : fields = before ++ .string t :: after) (hshort : (layout fields).length < 2 ^ 32) :
    string ⟨front ++ (layout fields ++ back), front.length⟩ (fixedSize before) = .ok t.repair := by
  obtain ⟨rest, hrest⟩ := layout_eq_append_data front back before h
  have hfit : fixedSize fields + (dataArea before).length + (Utf16.encode t).length ≤ (layout fields).length := by
    have hdata : (dataArea fields).length =
        (dataArea before).length + ((pad (Utf16.encode t)).length + (dataArea after).length) := by
      rw [h]
      simp [Field.data]
    rw [length_layout, hdata, pad, List.length_append]
    omega
  by_cases hempty : (Utf16.encode t).length = 0
  · obtain ⟨hstart, hsize⟩ := words_layout front back before h (x := 0) (y := 0) (by simp [Field.fixed, hempty])
    rw [string_of_words hstart hsize, if_pos rfl,
      Utf16.repair_of_encode_eq_nil (List.eq_nil_of_length_eq_zero hempty)]
  · obtain ⟨hstart, hsize⟩ := words_layout front back before h
      (x := UInt32.ofNat (fixedSize fields + (dataArea before).length)) (y := UInt32.ofNat (Utf16.encode t).length)
      (by simp [Field.fixed, hempty])
    have hlength : (UInt32.ofNat (Utf16.encode t).length).toNat = (Utf16.encode t).length :=
      toNat_ofNat_of_lt (by omega)
    have hne : UInt32.ofNat (Utf16.encode t).length ≠ 0 := by
      intro h0
      rw [h0] at hlength
      exact hempty hlength.symm
    have hslice : slice ⟨front ++ (layout fields ++ back), front.length⟩
        (UInt32.ofNat (fixedSize fields + (dataArea before).length)) (UInt32.ofNat (Utf16.encode t).length) =
          .ok (Utf16.encode t) := by
      refine slice_of_append hrest ?_ hlength.symm
      rw [toNat_ofNat_of_lt (by omega)]
      simp
    rw [string_of_words hstart hsize, if_neg hne, hslice, Except.bind, Utf16.decode_encode]
    rfl

end

/-- **All fields of a buffer are read back**, whatever stands in front of it and behind it. -/
theorem finds_layout (front back : Octets) {fields : List Field} (hshort : (layout fields).length < 2 ^ 32) :
    Finds ⟨front ++ (layout fields ++ back), front.length⟩ 0 fields := by
  -- From the position behind the fields `before`, the fields that are left are found.
  have hrest (before after : List Field) (h : fields = before ++ after) :
      Finds ⟨front ++ (layout fields ++ back), front.length⟩ (fixedSize before) after := by
    induction after generalizing before with
    | nil => trivial
    | cons f after ih =>
      have hnext := ih (before ++ [f]) (by rw [h, List.append_assoc]; rfl)
      rw [fixedSize_append] at hnext
      cases f with
      | word w => exact ⟨word_layout front back before h, hnext⟩
      | string t => exact ⟨string_layout front back before h hshort, hnext⟩
  exact hrest [] fields rfl

end Reader

end SimPhonebook.InfoBuffer
