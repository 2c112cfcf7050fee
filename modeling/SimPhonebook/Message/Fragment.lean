import SimPhonebook.Message.Codec

/-!
# Fragments

A message that carries a fragment header may be longer than one transfer. `Message.fragments` cuts it: the first fragment
keeps all fixed fields, with the length of the whole payload among them, and as much of the payload as fits; each further
one holds a header, a fragment header and the next part of the payload. Each fragment says how many there are; this is
known from the lengths, before the message is cut (`Message.fragmentCount`).
-/

namespace SimPhonebook

/-- A transfer of `limit` octets leaves no room for payload. -/
structure LimitTooSmall where
  limit : Int
deriving DecidableEq, Repr

instance : Described LimitTooSmall := ⟨fun e => "max control transfer too small: " ++ Numeral.integer e.limit⟩

/-- The data in parts of `size` octets; the last may be shorter. -/
def chunks (size : Nat) (data : Octets) : List Octets :=
  if data = [] ∨ size = 0 then [] else data.take size :: chunks size (data.drop size)
termination_by data.length
decreasing_by
  rename_i h
  have : data.length ≠ 0 := fun h0 => h (Or.inl (List.length_eq_zero_iff.1 h0))
  have : size ≠ 0 := fun h0 => h (Or.inr h0)
  simp only [List.length_drop]
  omega

namespace Message

/-- A fragment of the message: its header, its place in the sequence and what it holds. -/
def fragment (m : Message) (total number : Nat) (content : Octets) : Octets :=
  headerOctets m.type (headerSize + fragmentHeaderSize + content.length) m.transaction ++
    fragmentOctets (UInt32.ofNat total) (UInt32.ofNat number) ++ content

/-- The number of fragments for a payload of which the first fragment takes `first` octets and any other up to `next`. -/
def fragmentCount (payload first next : Nat) : Nat :=
  if first < payload then 1 + (payload - first + next - 1) / next else 1

/-- The message in pieces of at most `limit` octets. A message without a fragment header is sent whole in any case. -/
def fragments (m : Message) (limit : Int) : Except LimitTooSmall (List Octets) :=
  let whole := m.encode
  let fixed := m.type.fixedSize
  if !m.type.isFragmented || whole.length ≤ limit then .ok [whole]
  else if limit ≤ fixed then .error ⟨limit⟩
  else
    let size := limit.toNat
    let skip := headerSize + fragmentHeaderSize
    let total := fragmentCount (whole.length - fixed) (size - fixed) (size - skip)
    let contents := (whole.take size).drop skip :: chunks (size - skip) (whole.drop size)
    .ok (contents.mapIdx fun i content => m.fragment total i content)

end Message

end SimPhonebook
