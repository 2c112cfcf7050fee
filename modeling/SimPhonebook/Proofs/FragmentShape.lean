import Mathlib.Algebra.Order.Floor.Div
import SimPhonebook.Proofs.Fragmentation

/-!
# The shape of fragments

A message that does not fit its transfer is cut into frames of the size of the transfer, all but the last of which are full.
What the frames hold behind their two headers are the parts of equal size of what follows the two headers of the whole
message (`fragments_eq_framesOf`), so the place of every octet is known (`getElem?_chunks`), and so is the number of the
frames, which is the one that they were given beforehand (`fragmentCount_eq`). Both layouts of a message with fragments end
their fixed fields with the length of the payload (`encode_eq_append_sizedPayload`); the first frame has room for all of
them. `fragments_shape` puts this together, with the limits at which a message is not cut or cannot be.
-/

namespace SimPhonebook

open Octets

/-! ## Parts of equal size -/

theorem chunks_eq_cons {size : Nat} (hsize : size ≠ 0) {data : Octets} (hdata : data ≠ []) :
    chunks size data = data.take size :: chunks size (data.drop size) := by
  rw [chunks, if_neg (by simp [hsize, hdata])]

/-- The place of every part in the data. -/
theorem getElem?_chunks {size : Nat} (hsize : size ≠ 0) (data : Octets) (i : Nat) :
    (chunks size data)[i]? = if i * size < data.length then some ((data.drop (i * size)).take size) else none := by
  fun_induction chunks size data generalizing i with
  | case1 data h =>
    have hdata : data = [] := h.resolve_right hsize
    simp [hdata]
  | case2 data h ih =>
    have hdata : 0 < data.length := List.length_pos_iff.2 fun hnil => h (Or.inl hnil)
    cases i with
    | zero => simp [hdata]
    | succ i =>
      have hplace : (i + 1) * size = size + i * size := by rw [Nat.succ_mul, Nat.add_comm]
      have hfits : i * size < data.length - size ↔ size + i * size < data.length := by omega
      rw [List.getElem?_cons_succ, ih, hplace, List.length_drop, List.drop_drop]
      simp only [hfits]

/-- No part is empty, and all but the last are full. -/
theorem length_of_getElem?_chunks {size : Nat} {data c : Octets} {i : Nat} (h : (chunks size data)[i]? = some c) :
    0 < c.length ∧ c.length ≤ size ∧ (i + 1 < (chunks size data).length → c.length = size) := by
  have hpos : 0 < c.length := List.length_pos_iff.2 (ne_nil_of_mem_chunks (List.mem_of_getElem? h))
  have hsize : size ≠ 0 := by
    rintro rfl
    simp [chunks] at h
  rw [getElem?_chunks hsize] at h
  split at h
  · cases h
    refine ⟨hpos, List.length_take_le _ _, fun hnext => ?_⟩
    have hsome := List.getElem?_eq_getElem hnext
    rw [getElem?_chunks hsize] at hsome
    split at hsome
    · rename_i hfits
      rw [Nat.succ_mul] at hfits
      rw [List.length_take, List.length_drop]
      omega
    · cases hsome
  · cases h

namespace Message

/-! ## Fixed fields and payload -/

/-- The fixed fields of a message with fragments end with the length of its payload. -/
theorem encode_eq_append_sizedPayload {m : Message} (h : m.type.isFragmented = true) :
    ∃ front, front.length + 4 = m.type.fixedSize ∧ m.encode = front ++ sizedPayload m.body.payload := by
  have hbody : ∃ front, m.body.octets = front ++ sizedPayload m.body.payload := by
    obtain ⟨t, b⟩ := m
    cases b with
    | command t k p => exact ⟨_, rfl⟩
    | commandDone t s p => exact ⟨_, rfl⟩
    | indication t p => exact ⟨_, rfl⟩
    | _ => cases h
  obtain ⟨front, hfront⟩ := hbody
  have hencode : m.encode =
      headerOctets m.type m.encode.length m.transaction ++ front ++ sizedPayload m.body.payload := by
    rw [List.append_assoc, ← hfront, ← m.encode_eq]
  refine ⟨_, ?_, hencode⟩
  have hlength := m.length_encode
  rw [hencode, List.length_append, length_sizedPayload] at hlength
  omega

theorem drop_fixedSize_encode {m : Message} (h : m.type.isFragmented = true) :
    m.encode.drop m.type.fixedSize = m.body.payload := by
  obtain ⟨front, hfront, hencode⟩ := encode_eq_append_sizedPayload h
  rw [hencode, sizedPayload, ← List.append_assoc]
  exact List.drop_left' (by rw [List.length_append, length_ofWord, hfront])

theorem wordAt_encode_payloadLength {m : Message} (h : m.type.isFragmented = true) :
    m.encode.wordAt (m.type.fixedSize - 4) = UInt32.ofNat m.body.payload.length := by
  obtain ⟨front, hfront, hencode⟩ := encode_eq_append_sizedPayload h
  exact wordAt_of_eq_append hencode (by omega)

/-! ## Frames of given contents -/

/-- The parts of the payload in the frames: the first frame has all fixed fields before it, the others two headers. -/
def payloadParts (m : Message) : List Octets → List Octets
  | [] => []
  | first :: rest => first.drop m.type.fixedSize :: rest.map (·.drop (headerSize + fragmentHeaderSize))

section Frames
variable {m : Message} {contents : List Octets}

theorem length_framesOf : (m.framesOf contents).length = contents.length := List.length_mapIdx

theorem exists_of_getElem?_framesOf {i : Nat} {f : Octets} (h : (m.framesOf contents)[i]? = some f) :
    ∃ content, contents[i]? = some content ∧ f = m.fragment contents.length i content := by
  rw [framesOf, List.getElem?_mapIdx] at h
  obtain ⟨content, hcontent, rfl⟩ := Option.map_eq_some_iff.1 h
  exact ⟨content, hcontent, rfl⟩

theorem framesOf_cons (first : Octets) (rest : List Octets) :
    m.framesOf (first :: rest) = m.fragment (rest.length + 1) 0 first ::
      rest.mapIdx fun i content => m.fragment (rest.length + 1) (i + 1) content :=
  List.mapIdx_cons

theorem flatten_payloadParts_framesOf (h : m.type.isFragmented = true) (first : Octets) (rest : List Octets) :
    (m.payloadParts (m.framesOf (first :: rest))).flatten =
      first.drop (m.type.fixedSize - (headerSize + fragmentHeaderSize)) ++ rest.flatten := by
  have hfixed := MessageType.fixedSize_ge_of_isFragmented h
  have hskip : m.type.fixedSize =
      headerSize + fragmentHeaderSize + (m.type.fixedSize - (headerSize + fragmentHeaderSize)) := by
    simp only [headerSize, fragmentHeaderSize]
    omega
  have hfirst : (m.fragment (rest.length + 1) 0 first).drop m.type.fixedSize =
      first.drop (m.type.fixedSize - (headerSize + fragmentHeaderSize)) := by
    rw [hskip, ← List.drop_drop, drop_fragment, ← hskip]
  have hrest : (rest.mapIdx fun i content => m.fragment (rest.length + 1) (i + 1) content).map
      (·.drop (headerSize + fragmentHeaderSize)) = rest := by
    refine List.ext_getElem? fun i => ?_
    rw [List.getElem?_map, List.getElem?_mapIdx, Option.map_map]
    exact Option.map_id'
  rw [framesOf_cons, payloadParts, List.flatten_cons, hfirst, hrest]

end Frames

/-! ## Cutting -/

/-- What frame `number` of `total` says about itself, and how long it is, where a message is cut at `limit`. -/
structure CutFrame (m : Message) (limit total number : Nat) (f : Octets) : Prop where
  bounded : f.length ≤ limit
  full : number + 1 < total → f.length = limit
  nonempty : headerSize + fragmentHeaderSize < f.length
  typeWord : f.wordAt 0 = m.type.code
  lengthWord : (f.wordAt 4).toNat = f.length
  transactionWord : f.wordAt 8 = m.transaction
  totalWord : (f.wordAt 12).toNat = total
  numberWord : (f.wordAt 16).toNat = number

/-- The frame keeps the fixed fields of the message, and with them the length of the whole payload. -/
structure KeepsFixed (m : Message) (f : Octets) : Prop where
  room : m.type.fixedSize < f.length
  fields : (f.drop (headerSize + fragmentHeaderSize)).take (m.type.fixedSize - (headerSize + fragmentHeaderSize)) =
    (m.encode.drop (headerSize + fragmentHeaderSize)).take (m.type.fixedSize - (headerSize + fragmentHeaderSize))
  payloadLength : (f.wordAt (m.type.fixedSize - 4)).toNat = m.body.payload.length

/-- The frames into which a message is cut at a `limit` above the size of its fixed fields and below its length. -/
structure CutInto (m : Message) (limit : Nat) (frames : List Octets) : Prop where
  count : frames.length =
    1 + (m.body.payload.length - (limit - m.type.fixedSize)) ⌈/⌉ (limit - (headerSize + fragmentHeaderSize))
  frame : ∀ i f, frames[i]? = some f → m.CutFrame limit frames.length i f
  first : ∃ f rest, frames = f :: rest ∧ m.KeepsFixed f
  payload : (m.payloadParts frames).flatten = m.body.payload

theorem cutFrame_of_chunks {m : Message} {size : Nat} {data : Octets} (hsize : headerSize + fragmentHeaderSize < size)
    (hlimit : size < 2 ^ 32) (hdata : data.length < 2 ^ 32) {i : Nat} {f : Octets}
    (h : (m.framesOf (chunks (size - (headerSize + fragmentHeaderSize)) data))[i]? = some f) :
    m.CutFrame size (chunks (size - (headerSize + fragmentHeaderSize)) data).length i f := by
  obtain ⟨content, hcontent, rfl⟩ := exists_of_getElem?_framesOf h
  obtain ⟨hpos, hle, hfull⟩ := length_of_getElem?_chunks hcontent
  have hlength := m.length_fragment (chunks (size - (headerSize + fragmentHeaderSize)) data).length i content
  obtain ⟨hi, -⟩ := List.getElem?_eq_some_iff.1 hcontent
  have hcount : (chunks (size - (headerSize + fragmentHeaderSize)) data).length ≤ data.length := by
    have hflatten := length_le_length_flatten fun c (hc : c ∈ chunks (size - (headerSize + fragmentHeaderSize)) data) =>
      ne_nil_of_mem_chunks hc
    rwa [flatten_chunks (by omega)] at hflatten
  refine ⟨by omega, fun hnext => ?_, by omega, wordAt_fragment_type .., ?_, wordAt_fragment_transaction .., ?_, ?_⟩
  · have := hfull hnext
    omega
  · rw [wordAt_fragment_length, toNat_ofNat_of_lt (by omega), hlength]
  · rw [wordAt_fragment_total, toNat_ofNat_of_lt (by omega)]
  · rw [wordAt_fragment_number, toNat_ofNat_of_lt (by omega)]

section Cut
variable {m : Message} {size : Nat} (h : m.type.isFragmented = true) (hlong : size < m.encode.length)
  (hroom : m.type.fixedSize < size)
include h hlong hroom

/-- What the frames of a message that is cut hold behind their two headers. -/
theorem fragments_eq_framesOf :
    m.fragments size =
      .ok (m.framesOf (chunks (size - (headerSize + fragmentHeaderSize))
        (m.encode.drop (headerSize + fragmentHeaderSize)))) := by
  have hfixed := MessageType.fixedSize_ge_of_isFragmented h
  have hne : m.encode.drop (headerSize + fragmentHeaderSize) ≠ [] := by
    rw [← List.length_pos_iff, List.length_drop]
    simp only [headerSize, fragmentHeaderSize]
    omega
  have hskip : headerSize + fragmentHeaderSize + (size - (headerSize + fragmentHeaderSize)) = size := by
    simp only [headerSize, fragmentHeaderSize]
    omega
  -- the content of the first frame is cut from the whole message, but it is as long as any other part
  rw [chunks_eq_cons (by simp only [headerSize, fragmentHeaderSize]; omega) hne, List.drop_drop, hskip, ← List.drop_take]
  exact fragments_of_cut h hlong hroom

/-- The first frame has room for all fixed fields and some of the payload. -/
theorem keepsFixed_first (hshort : m.encode.length < 2 ^ 32) (total : Nat) :
    m.KeepsFixed (m.fragment total 0
      ((m.encode.drop (headerSize + fragmentHeaderSize)).take (size - (headerSize + fragmentHeaderSize)))) := by
  have hfixed := MessageType.fixedSize_ge_of_isFragmented h
  have hlength := m.length_encode
  have htwenty : headerSize + fragmentHeaderSize = 20 := rfl
  refine ⟨?_, ?_, ?_⟩
  · rw [length_fragment, List.length_take, List.length_drop]
    omega
  · rw [drop_fragment, List.take_take, Nat.min_eq_left (by omega)]
  · have hplace : m.type.fixedSize - 4 = headerSize + fragmentHeaderSize + (m.type.fixedSize - 24) := by omega
    rw [hplace, ← wordAt_drop, drop_fragment, wordAt_take (by omega) (by rw [List.length_drop]; omega), wordAt_drop,
      ← hplace, wordAt_encode_payloadLength h, toNat_ofNat_of_lt (by omega)]

theorem exists_cutInto (hshort : m.encode.length < 2 ^ 32) :
    ∃ frames, m.fragments size = .ok frames ∧ m.CutInto size frames := by
  have hfixed := MessageType.fixedSize_ge_of_isFragmented h
  have hlength := m.length_encode
  have htwenty : headerSize + fragmentHeaderSize = 20 := rfl
  refine ⟨_, fragments_eq_framesOf h hlong hroom, ?_⟩
  have hdata : (m.encode.drop (headerSize + fragmentHeaderSize)).length = m.encode.length - 20 := List.length_drop
  have hne : m.encode.drop (headerSize + fragmentHeaderSize) ≠ [] := by
    rw [← List.length_pos_iff]
    omega
  have hpart : size - (headerSize + fragmentHeaderSize) ≠ 0 := by omega
  have hcons := chunks_eq_cons hpart hne
  refine ⟨?_, fun i f hf => ?_, ?_, ?_⟩
  · have hrest : m.encode.length - 20 - (size - (headerSize + fragmentHeaderSize)) =
        m.body.payload.length - (size - m.type.fixedSize) := by omega
    rw [length_framesOf, hcons, List.length_cons, length_chunks (by omega), List.length_drop, hdata, hrest, Nat.add_comm,
      Nat.ceilDiv_eq_add_pred_div]
  · rw [length_framesOf]
    exact cutFrame_of_chunks (by omega) (by omega) (by omega) hf
  · rw [hcons, framesOf_cons]
    exact ⟨_, _, rfl, keepsFixed_first h hlong hroom hshort _⟩
  · rw [hcons, flatten_payloadParts_framesOf h, flatten_chunks (by omega)]
    -- the fixed fields lie inside the first part, so they can be dropped from all parts together
    rw [← List.drop_append_of_le_length (by rw [List.length_take]; omega), List.take_append_drop, List.drop_drop,
      Nat.add_sub_cancel' (by omega), drop_fixedSize_encode h]

end Cut

/-! ## Every message and every limit -/

/-- **How a message is cut.** It cannot be if its type has fragments, it does not fit, and the limit leaves no room behind the
fixed fields. It is not if it fits or its type has no fragments. In all other cases the frames are full up to the last, each
knows its place, the first keeps the fixed fields, and together they hold the payload. -/
theorem fragments_shape (m : Message) (limit : Int) (hshort : m.encode.length < 2 ^ 32) :
    (m.fragments limit = .error ⟨limit⟩ ↔
      m.type.isFragmented = true ∧ limit < m.encode.length ∧ limit ≤ m.type.fixedSize) ∧
    (m.type.isFragmented = false ∨ m.encode.length ≤ limit → m.fragments limit = .ok [m.encode]) ∧
    (m.type.isFragmented = true ∧ limit < m.encode.length ∧ m.type.fixedSize < limit →
      ∃ frames, m.fragments limit = .ok frames ∧ m.CutInto limit.toNat frames) := by
  have hcut (h : m.type.isFragmented = true) (hlong : limit < m.encode.length) (hroom : m.type.fixedSize < limit) :
      ∃ frames, m.fragments limit = .ok frames ∧ m.CutInto limit.toNat frames := by
    obtain ⟨size, rfl⟩ : ∃ size : Nat, limit = size := ⟨limit.toNat, by omega⟩
    exact exists_cutInto h (by omega) (by omega) hshort
  refine ⟨⟨fun herror => ?_, fun ⟨h, hlong, hlimit⟩ => fragments_of_limit_le h hlong hlimit⟩, fragments_of_fits,
    fun ⟨h, hlong, hroom⟩ => hcut h hlong hroom⟩
  by_cases hfits : m.type.isFragmented = false ∨ m.encode.length ≤ limit
  · rw [fragments_of_fits hfits] at herror
    cases herror
  · rw [not_or, Bool.not_eq_false, Int.not_le] at hfits
    refine ⟨hfits.1, hfits.2, Int.not_lt.1 fun hroom => ?_⟩
    obtain ⟨frames, hframes, -⟩ := hcut hfits.1 hfits.2 hroom
    cases herror.symm.trans hframes

/-- An indication of 144 octets. -/
def longIndication : Message := ⟨7, .indication ⟨.sms, 2⟩ (List.replicate 100 0xAB)⟩

/-- At 60 octets a frame it takes four frames, at 82 two full ones. At its own length it is sent whole; at the size of its
fixed fields and below zero it cannot be sent. -/
theorem longIndication_cut :
    (∃ frames, longIndication.fragments 60 = .ok frames ∧ longIndication.CutInto 60 frames ∧ frames.length = 4) ∧
    (∃ frames, longIndication.fragments 82 = .ok frames ∧ longIndication.CutInto 82 frames ∧ frames.length = 2) ∧
    longIndication.fragments 144 = .ok [longIndication.encode] ∧
    longIndication.fragments 44 = .error ⟨44⟩ ∧ longIndication.fragments (-1) = .error ⟨-1⟩ := by
  have hlength : longIndication.encode.length = 144 := by rw [length_encode]; rfl
  have hfixed : longIndication.type.fixedSize = 44 := rfl
  have hshort : longIndication.encode.length < 2 ^ 32 := by omega
  have hshape (limit : Int) := fragments_shape longIndication limit hshort
  refine ⟨?_, ?_, (hshape 144).2.1 (Or.inr (by omega)), (hshape 44).1.2 ⟨rfl, by omega, by omega⟩,
    (hshape (-1)).1.2 ⟨rfl, by omega, by omega⟩⟩
  · obtain ⟨frames, hframes, hcut⟩ := (hshape 60).2.2 ⟨rfl, by omega, by omega⟩
    exact ⟨frames, hframes, hcut, hcut.count⟩
  · obtain ⟨frames, hframes, hcut⟩ := (hshape 82).2.2 ⟨rfl, by omega, by omega⟩
    exact ⟨frames, hframes, hcut, hcut.count⟩

end Message

end SimPhonebook
