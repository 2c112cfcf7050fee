import SimPhonebook.Proofs.Reassembly

/-!
# From fragments back to the message

`fragments_cases` says what cutting gives: the whole message as one frame, or numbered fragments whose contents are not
empty and together are what follows the two headers of the whole message. `fragments_deliver` follows those frames through
a slot of the reassembler: all but the last only add to the slot, the last completes the octets of the whole message and
leaves the slot empty.
-/

namespace SimPhonebook

open Octets

/-! ## Parts of equal size -/

theorem flatten_chunks {size : Nat} (hsize : size ≠ 0) (data : Octets) : (chunks size data).flatten = data := by
  fun_induction chunks size data with
  | case1 data h =>
    rcases h with h | h
    · simp [h]
    · exact absurd h hsize
  | case2 data h ih => rw [List.flatten_cons, ih, List.take_append_drop]

theorem ne_nil_of_mem_chunks {size : Nat} {data c : Octets} (hc : c ∈ chunks size data) : c ≠ [] := by
  fun_induction chunks size data with
  | case1 data h => cases hc
  | case2 data h ih =>
    rw [not_or] at h
    rcases List.mem_cons.1 hc with hc | hc
    · subst hc
      simp [h.1, h.2]
    · exact ih hc

theorem chunks_ne_nil {size : Nat} (hsize : size ≠ 0) {data : Octets} (hdata : data ≠ []) : chunks size data ≠ [] := by
  unfold chunks
  simp [hsize, hdata]

/-- The number of the parts is the length divided by the size of a part, rounded up. -/
theorem length_chunks {size : Nat} (hsize : 0 < size) (data : Octets) :
    (chunks size data).length = (data.length + size - 1) / size := by
  fun_induction chunks size data with
  | case1 data h =>
    have hdata : data = [] := h.resolve_right (by omega)
    rw [hdata, List.length_nil, List.length_nil, Nat.div_eq_of_lt (by omega)]
  | case2 data h ih =>
    have hdata : 0 < data.length := List.length_pos_iff.2 fun hnil => h (Or.inl hnil)
    have hround : data.length + size - 1 = data.length - 1 + size := by omega
    rw [List.length_cons, ih, List.length_drop, hround, Nat.add_div_right _ hsize]
    -- where the data are shorter than a part, nothing is left and both quotients are zero
    by_cases hmore : size ≤ data.length
    · rw [show data.length - size + size - 1 = data.length - 1 by omega]
    · rw [Nat.div_eq_of_lt (by omega), Nat.div_eq_of_lt (by omega)]

theorem length_le_length_flatten {parts : List Octets} (h : ∀ c ∈ parts, c ≠ []) :
    parts.length ≤ parts.flatten.length := by
  induction parts with
  | nil => exact Nat.le_refl 0
  | cons c parts ih =>
    have hc : 0 < c.length := List.length_pos_iff.2 (h c (List.mem_cons_self ..))
    have := ih fun c hc => h c (List.mem_cons_of_mem _ hc)
    simp only [List.flatten_cons, List.length_append, List.length_cons]
    omega

namespace Message

/-! ## What cutting gives -/

/-- The contents of the fragments of a message: several parts, none empty, of what follows its two headers. -/
structure Parts (m : Message) (contents : List Octets) : Prop where
  several : 2 ≤ contents.length
  nonempty : ∀ c ∈ contents, c ≠ []
  flatten : contents.flatten = m.encode.drop (headerSize + fragmentHeaderSize)

/-- The frames for contents that are cut already. -/
def framesOf (m : Message) (contents : List Octets) : List Octets :=
  contents.mapIdx fun i content => m.fragment contents.length i content

theorem fragments_of_fits {m : Message} {limit : Int} (h : m.type.isFragmented = false ∨ m.encode.length ≤ limit) :
    m.fragments limit = .ok [m.encode] := by
  unfold fragments
  rw [if_pos (by simpa using h)]

theorem fragments_of_limit_le {m : Message} {limit : Int} (h : m.type.isFragmented = true)
    (hlong : limit < m.encode.length) (hlimit : limit ≤ m.type.fixedSize) : m.fragments limit = .error ⟨limit⟩ := by
  unfold fragments
  rw [if_neg (by simp [h, hlong]), if_pos hlimit]

/-- The number of fragments that is reckoned from the lengths is the number that cutting gives. -/
theorem fragmentCount_eq {whole : Octets} {fixed size skip : Nat} (hfixed : fixed ≤ size) (hskip : skip < size)
    (hlong : size < whole.length) :
    fragmentCount (whole.length - fixed) (size - fixed) (size - skip) =
      (chunks (size - skip) (whole.drop size)).length + 1 := by
  have hrest : whole.length - fixed - (size - fixed) = (whole.drop size).length := by
    rw [List.length_drop]
    omega
  rw [fragmentCount, if_pos (by omega), hrest, length_chunks (by omega), Nat.add_comm]

theorem fragments_of_cut {m : Message} {size : Nat} (h : m.type.isFragmented = true) (hlong : size < m.encode.length)
    (hroom : m.type.fixedSize < size) :
    m.fragments size = .ok (m.framesOf ((m.encode.take size).drop (headerSize + fragmentHeaderSize) ::
      chunks (size - (headerSize + fragmentHeaderSize)) (m.encode.drop size))) := by
  have hskip : headerSize + fragmentHeaderSize < size := by
    have := MessageType.fixedSize_ge_of_isFragmented h
    simp only [headerSize, fragmentHeaderSize]
    omega
  unfold fragments
  simp only [h, Int.toNat_natCast]
  rw [if_neg (by simp; omega), if_neg (by omega), fragmentCount_eq (Nat.le_of_lt hroom) hskip hlong]
  rfl

theorem fragments_cases {m : Message} {limit : Int} {frames : List Octets} (h : m.fragments limit = .ok frames) :
    frames = [m.encode] ∨
    m.type.isFragmented = true ∧ ∃ contents, m.Parts contents ∧ frames = m.framesOf contents := by
  by_cases hfits : m.type.isFragmented = false ∨ m.encode.length ≤ limit
  · rw [fragments_of_fits hfits] at h
    exact Or.inl (Except.ok.inj h).symm
  rw [not_or, Bool.not_eq_false, Int.not_le] at hfits
  obtain ⟨hfrag, hlong⟩ := hfits
  by_cases hlimit : limit ≤ m.type.fixedSize
  · rw [fragments_of_limit_le hfrag hlong hlimit] at h
    cases h
  have hfixed := MessageType.fixedSize_ge_of_isFragmented hfrag
  obtain ⟨size, rfl⟩ : ∃ size : Nat, limit = size := ⟨limit.toNat, by omega⟩
  rw [fragments_of_cut hfrag (by omega) (by omega)] at h
  cases h
  have hsize : 44 < size := by omega
  have hrest : m.encode.drop size ≠ [] := by
    rw [← List.length_pos_iff, List.length_drop]; omega
  have hparts : chunks (size - (headerSize + fragmentHeaderSize)) (m.encode.drop size) ≠ [] :=
    chunks_ne_nil (by simp only [headerSize, fragmentHeaderSize]; omega) hrest
  refine Or.inr ⟨hfrag, _, ⟨?_, ?_, ?_⟩, rfl⟩
  · have := List.length_pos_iff.2 hparts
    rw [List.length_cons]; omega
  · intro c hc
    rcases List.mem_cons.1 hc with hc | hc
    · subst hc
      rw [← List.length_pos_iff, List.length_drop, List.length_take]
      simp only [headerSize, fragmentHeaderSize]; omega
    · exact ne_nil_of_mem_chunks hc
  · have hskip : headerSize + fragmentHeaderSize + (size - (headerSize + fragmentHeaderSize)) = size := by
      simp only [headerSize, fragmentHeaderSize]; omega
    calc _ = (m.encode.take size).drop (headerSize + fragmentHeaderSize) ++ m.encode.drop size := by
          rw [List.flatten_cons, flatten_chunks (by simp only [headerSize, fragmentHeaderSize]; omega)]
      _ = (m.encode.drop (headerSize + fragmentHeaderSize)).take (size - (headerSize + fragmentHeaderSize)) ++
            (m.encode.drop (headerSize + fragmentHeaderSize)).drop (size - (headerSize + fragmentHeaderSize)) := by
          rw [List.drop_take, List.drop_drop, hskip]
      _ = m.encode.drop (headerSize + fragmentHeaderSize) := List.take_append_drop _ _

/-! ## Reading the frames -/

section Fragment
variable (m : Message) (total number : Nat) (content : Octets)

theorem fragment_eq : m.fragment total number content =
    headerOctets m.type (headerSize + fragmentHeaderSize + content.length) m.transaction ++
      (fragmentOctets (UInt32.ofNat total) (UInt32.ofNat number) ++ content) := List.append_assoc _ _ _

@[simp] theorem length_fragment :
    (m.fragment total number content).length = headerSize + fragmentHeaderSize + content.length := by
  rw [fragment_eq, List.length_append, List.length_append, length_headerOctets, length_fragmentOctets, headerSize,
    fragmentHeaderSize, Nat.add_assoc]

@[simp] theorem wordAt_fragment_type : (m.fragment total number content).wordAt 0 = m.type.code := joinWord_ofWord _

@[simp] theorem wordAt_fragment_length : (m.fragment total number content).wordAt 4 =
    UInt32.ofNat (headerSize + fragmentHeaderSize + content.length) := joinWord_ofWord _

@[simp] theorem wordAt_fragment_transaction : (m.fragment total number content).wordAt 8 = m.transaction :=
  joinWord_ofWord _

@[simp] theorem wordAt_fragment_total : (m.fragment total number content).wordAt 12 = UInt32.ofNat total :=
  joinWord_ofWord _

@[simp] theorem wordAt_fragment_number : (m.fragment total number content).wordAt 16 = UInt32.ofNat number :=
  joinWord_ofWord _

@[simp] theorem drop_fragment : (m.fragment total number content).drop (headerSize + fragmentHeaderSize) = content := rfl

end Fragment

theorem encode_eq (m : Message) : m.encode = headerOctets m.type m.encode.length m.transaction ++ m.body.octets := by
  conv => lhs; rw [encode]
  rw [m.length_encode, Message.type, ← m.body.length_octets]
  rfl

theorem wordAt_encode_length (m : Message) : m.encode.wordAt 4 = UInt32.ofNat m.encode.length := by
  rw [m.encode_eq, wordAt_headerOctets_length, ← m.encode_eq]

theorem carries_encode (m : Message) : carries m.transaction m.encode = true := by
  rw [carries_iff]
  refine ⟨m.headerSize_le_length_encode, ?_⟩
  rw [m.encode_eq, wordAt_headerOctets_transaction]

/-- A message with a fragment header, taken apart behind it. -/
theorem encode_eq_of_isFragmented {m : Message} (h : m.type.isFragmented = true) :
    m.encode = headerOctets m.type m.encode.length m.transaction ++
      (fragmentOctets 1 0 ++ m.encode.drop (headerSize + fragmentHeaderSize)) := by
  have hbody : ∃ rest, m.body.octets = fragmentOctets 1 0 ++ rest := by
    obtain ⟨t, b⟩ := m
    cases b with
    | command t k p => exact ⟨_, List.append_assoc _ _ _ |>.trans (List.append_assoc _ _ _)⟩
    | commandDone t s p => exact ⟨_, List.append_assoc _ _ _ |>.trans (List.append_assoc _ _ _)⟩
    | indication t p => exact ⟨_, List.append_assoc _ _ _⟩
    | _ => cases h
  obtain ⟨rest, hrest⟩ := hbody
  have hdrop : m.encode.drop (headerSize + fragmentHeaderSize) = rest := by rw [m.encode_eq, hrest]; rfl
  rw [hdrop, ← hrest, ← m.encode_eq]

theorem carries_of_mem_fragments {m : Message} {limit : Int} {frames : List Octets}
    (h : m.fragments limit = .ok frames) {f : Octets} (hf : f ∈ frames) :
    carries m.transaction f = true ∧ f.wordAt 4 = UInt32.ofNat f.length := by
  rcases fragments_cases h with rfl | ⟨-, contents, -, rfl⟩
  · rw [List.mem_singleton.1 hf]
    exact ⟨m.carries_encode, m.wordAt_encode_length⟩
  · obtain ⟨i, hi, rfl⟩ := List.mem_mapIdx.1 hf
    rw [carries_iff, length_fragment, wordAt_fragment_length]
    exact ⟨⟨by omega, wordAt_fragment_transaction ..⟩, rfl⟩

/-! ## Following the frames through a slot -/

end Message

namespace Reassembler

/-- The frames, fed to the slot one after the other, are taken without an answer up to the last, which completes `data`
and leaves the slot empty. -/
def Delivers (data : Octets) : Option Collected → List Octets → Prop
  | _, [] => False
  | slot, [f] => advance slot f = (none, .ok (some data))
  | slot, f :: g :: fs => ∃ slot', advance slot f = (slot', .ok none) ∧ Delivers data slot' (g :: fs)

theorem advance_of_not_isFragmented {frame : Octets} (hlen : headerSize ≤ frame.length)
    (h : (MessageType.ofCode (frame.wordAt 0)).isFragmented = false) (slot : Option Collected) :
    advance slot frame = (slot, .ok (some frame)) := by
  unfold advance
  rw [if_neg (by omega), h]
  rfl

/-- A message in one piece is passed on. -/
theorem advance_encode {m : Message} (h : m.type.isFragmented = true) (slot : Option Collected) :
    advance slot m.encode = (none, .ok (some m.encode)) := by
  have hlen : headerSize + fragmentHeaderSize ≤ m.encode.length := by
    have := MessageType.fixedSize_ge_of_isFragmented h
    rw [m.length_encode]
    simp only [headerSize, fragmentHeaderSize]; omega
  have htype : m.encode.wordAt 0 = m.type.code := by rw [m.encode_eq, wordAt_headerOctets_type]
  have htotal : m.encode.wordAt 12 = 1 := by
    rw [Message.encode_eq_of_isFragmented h]
    exact joinWord_ofWord 1
  unfold advance
  rw [if_neg (by omega), htype, MessageType.ofCode_code_of_isKnown (MessageType.isKnown_of_isFragmented h), h, htotal,
    if_neg (by simp), if_neg (by omega), if_pos (by decide)]

section Fragment
variable {m : Message} (h : m.type.isFragmented = true) {total : Nat} (htotal : 2 ≤ total) (hfits : total < 2 ^ 32)
include h htotal hfits

/-- The first fragment of several opens the slot. -/
theorem advance_first (content : Octets) :
    advance none (m.fragment total 0 content) =
      (some ⟨UInt32.ofNat total, UInt32.ofNat 1, m.fragment total 0 content⟩, .ok none) := by
  have hmany : ¬UInt32.ofNat total ≤ 1 := by
    rw [UInt32.le_iff_toNat_le, toNat_ofNat_of_lt hfits]
    exact Nat.not_le.2 htotal
  unfold advance
  simp only [Message.length_fragment, Message.wordAt_fragment_type, Message.wordAt_fragment_total,
    Message.wordAt_fragment_number]
  rw [if_neg (by omega), MessageType.ofCode_code_of_isKnown (MessageType.isKnown_of_isFragmented h), h,
    if_neg (by simp), if_neg (by omega), if_neg hmany, if_neg (by decide)]
  rfl

/-- The fragment that is due adds to the slot, and the last one completes the message. -/
theorem advance_next {number : Nat} (hnumber : number < total) (data content : Octets) :
    advance (some ⟨UInt32.ofNat total, UInt32.ofNat number, data⟩) (m.fragment total number content) =
      if number + 1 < total then
        (some ⟨UInt32.ofNat total, UInt32.ofNat (number + 1), data ++ content⟩, .ok none)
      else (none, .ok (some (whole (data ++ content)))) := by
  have hmany : ¬UInt32.ofNat total ≤ 1 := by
    rw [UInt32.le_iff_toNat_le, toNat_ofNat_of_lt hfits]
    exact Nat.not_le.2 htotal
  have hsucc : UInt32.ofNat number + 1 = UInt32.ofNat (number + 1) := by rw [UInt32.ofNat_add]; rfl
  have hlast : UInt32.ofNat (number + 1) < UInt32.ofNat total ↔ number + 1 < total := by
    rw [UInt32.lt_iff_toNat_lt, toNat_ofNat_of_lt hfits, toNat_ofNat_of_lt (by omega)]
  unfold advance
  simp only [Message.length_fragment, Message.wordAt_fragment_type, Message.wordAt_fragment_total,
    Message.wordAt_fragment_number, Message.drop_fragment]
  rw [if_neg (by omega), MessageType.ofCode_code_of_isKnown (MessageType.isKnown_of_isFragmented h), h,
    if_neg (by simp), if_neg (by omega), if_neg hmany, if_neg (by simp), hsucc]
  simp only [hlast]

end Fragment

/-- Fixing the words that cutting changed. -/
theorem whole_fragment (m : Message) (total number : Nat) (content more : Octets) :
    whole (m.fragment total number content ++ more) =
      headerOctets m.type (headerSize + fragmentHeaderSize + (content ++ more).length) m.transaction ++
        (fragmentOctets 1 0 ++ (content ++ more)) := by
  have hlen : (m.fragment total number content ++ more).length =
      headerSize + fragmentHeaderSize + (content ++ more).length := by
    rw [List.length_append, Message.length_fragment, List.length_append, Nat.add_assoc]
  rw [whole, hlen]
  rfl

/-- The frames after some that have been taken: the slot holds the contents so far behind the two headers of the first
fragment, and what is missing is in the frames still to come. -/
theorem delivers_rest {m : Message} (h : m.type.isFragmented = true) {total : Nat} (htotal : 2 ≤ total)
    (hfits : total < 2 ^ 32) (first : Octets) :
    ∀ (rest : List Octets) (number : Nat) (sofar : Octets), rest ≠ [] → number + rest.length = total →
      first ++ sofar ++ rest.flatten = m.encode.drop (headerSize + fragmentHeaderSize) →
      Delivers m.encode (some ⟨UInt32.ofNat total, UInt32.ofNat number, m.fragment total 0 first ++ sofar⟩)
        (rest.mapIdx fun i content => m.fragment total (number + i) content)
  | [], _, _, hne, _, _ => absurd rfl hne
  | [c], number, sofar, _, hnumber, hparts => by
    rw [List.length_singleton] at hnumber
    rw [List.flatten_singleton] at hparts
    have hlen : headerSize + fragmentHeaderSize + (first ++ (sofar ++ c)).length = m.encode.length := by
      have := MessageType.fixedSize_ge_of_isFragmented h
      rw [← List.append_assoc, hparts, List.length_drop, m.length_encode]
      simp only [headerSize, fragmentHeaderSize]; omega
    show advance _ (m.fragment total (number + 0) c) = _
    rw [Nat.add_zero, advance_next h htotal hfits (by omega), if_neg (by omega), List.append_assoc, whole_fragment, hlen,
      ← List.append_assoc first, hparts, ← Message.encode_eq_of_isFragmented h]
  | c :: d :: rest, number, sofar, _, hnumber, hparts => by
    rw [List.length_cons] at hnumber
    have hmore : number + 1 < total := by rw [List.length_cons] at hnumber; omega
    have ih := delivers_rest h htotal hfits first (d :: rest) (number + 1) (sofar ++ c) (List.cons_ne_nil _ _)
      (by omega) (by rw [← hparts]; simp)
    have hstep := advance_next h htotal hfits (show number < total by omega) (m.fragment total 0 first ++ sofar) c
    rw [if_pos hmore, List.append_assoc] at hstep
    rw [List.mapIdx_cons, List.mapIdx_cons, Delivers]
    refine ⟨_, hstep, ?_⟩
    simpa only [List.mapIdx_cons, Nat.add_assoc, Nat.add_comm 1] using ih

/-- **Cutting and putting together**: the frames of a message with a fragment header deliver the whole of it. -/
theorem fragments_deliver {m : Message} (h : m.Canonical) (hfrag : m.type.isFragmented = true) {limit : Int}
    {frames : List Octets} (hframes : m.fragments limit = .ok frames) : Delivers m.encode none frames := by
  rcases Message.fragments_cases hframes with rfl | ⟨-, contents, hparts, rfl⟩
  · exact advance_encode hfrag none
  · have hfits : contents.length < 2 ^ 32 := by
      have hle := length_le_length_flatten hparts.nonempty
      have := h.short
      rw [hparts.flatten, List.length_drop, m.length_encode] at hle
      omega
    match contents, hparts, hfits with
    | first :: second :: rest, hparts, hfits =>
      rw [Message.framesOf, List.mapIdx_cons, List.mapIdx_cons, Delivers]
      refine ⟨_, advance_first hfrag hparts.several hfits first, ?_⟩
      have hrest := delivers_rest hfrag hparts.several hfits first (second :: rest) 1 [] (List.cons_ne_nil _ _)
        (by simp only [List.length_cons]; omega) (by rw [← hparts.flatten]; simp)
      simpa only [List.append_nil, List.mapIdx_cons, Nat.add_comm 1, Nat.zero_add] using hrest
    | [_], hparts, _ => exact absurd hparts.several (by simp)
    | [], hparts, _ => exact absurd hparts.several (by simp)

end Reassembler

end SimPhonebook
