import SimPhonebook.Text.Utf16

/-!
# Building information buffers

The payload of a command is an information buffer: a fixed area of words, then a data area. A string takes two words of
the fixed area, the offset and the size of its UTF-16 octets, which stand in the data area, filled up with zeros to a
multiple of four. Offsets count from the start of the buffer. An empty string is offset 0, size 0 and no data.
-/

namespace SimPhonebook.InfoBuffer

inductive Field where
  | word (value : UInt32)
  | string (value : Text)
deriving DecidableEq, Repr

/-- `n` rounded up to a multiple of four. -/
def padded (n : Nat) : Nat := (n + 3) / 4 * 4

/-- The octets filled up with zeros to a multiple of four. -/
def pad (data : Octets) : Octets := data ++ List.replicate (padded data.length - data.length) 0

/-- What a field adds to the data area. -/
def Field.data : Field → Octets
  | .word _ => []
  | .string t => pad (Utf16.encode t)

/-- What a field puts in the fixed area, where `start` is the offset at which its data would stand. -/
def Field.fixed (start : Nat) : Field → Octets
  | .word w => Octets.ofWord w
  | .string t =>
    let size := (Utf16.encode t).length
    if size = 0 then Octets.ofWord 0 ++ Octets.ofWord 0
    else Octets.ofWord (UInt32.ofNat start) ++ Octets.ofWord (UInt32.ofNat size)

/-- The fixed area of the fields, where `start` is the offset at which the data of the first would stand. -/
def fixedArea (start : Nat) : List Field → Octets
  | [] => []
  | f :: fs => f.fixed start ++ fixedArea (start + f.data.length) fs

def dataArea (fields : List Field) : Octets := fields.flatMap Field.data

/-- The fixed area has another size than was declared. -/
structure SizeMismatch where
  actual : Nat
  declared : Nat
deriving DecidableEq, Repr

instance : Described SizeMismatch := ⟨fun e => s!"fixed area is {e.actual} bytes, declared {e.declared}"⟩

/-- The buffer of the fields, whose fixed area is declared to take `size` octets. -/
def build (size : Nat) (fields : List Field) : Except SizeMismatch Octets :=
  let fixed := fixedArea size fields
  if fixed.length = size then .ok (fixed ++ dataArea fields) else .error ⟨fixed.length, size⟩

end SimPhonebook.InfoBuffer
