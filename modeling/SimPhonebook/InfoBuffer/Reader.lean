import SimPhonebook.Text.Utf16
import SimPhonebook.Text.Numeral

/-!
# Reading information buffers

A `Reader` looks at a buffer from the start of one structure inside it: positions of fields and offsets of strings count
from there. Nothing is read outside the buffer.
-/

namespace SimPhonebook.InfoBuffer

structure Reader where
  buffer : Octets
  base : Nat
deriving DecidableEq, Repr

inductive ReadError where
  /-- There are no four octets at the position. -/
  | noWord (position : Int) (length : Nat)
  /-- A string reaches past the end. -/
  | stringExceeds (start : Nat) (size : UInt32) (length : Nat)
  | oddString (length : Nat)
deriving DecidableEq, Repr

instance : Described ReadError where
  message
    | .noWord p n =>
      "information buffer too short: need 4 bytes at offset " ++ Numeral.integer p ++ s!", have {n}"
    | .stringExceeds start size n =>
      s!"information buffer too short: string at {start}+{size.toNat} exceeds {n} bytes"
    | .oddString n => message (Utf16.OddLength.mk n)

namespace Reader

/-- A reader of the same buffer from position `base`. -/
def moveTo (r : Reader) (base : Nat) : Reader := ⟨r.buffer, base⟩

/-- The word at `offset` from the base. -/
def word (r : Reader) (offset : Int) : Except ReadError UInt32 :=
  let position := r.base + offset
  if offset < 0 ∨ position + 4 > r.buffer.length then .error (.noWord position r.buffer.length)
  else .ok (r.buffer.wordAt position.toNat)

/-- The octets of the string of `size` octets at `offset` from the base. -/
def slice (r : Reader) (offset size : UInt32) : Except ReadError Octets :=
  let start := r.base + offset.toNat
  if start + size.toNat > r.buffer.length then .error (.stringExceeds start size r.buffer.length)
  else .ok ((r.buffer.drop start).take size.toNat)

/-- The string whose offset and size stand at `offset` from the base. -/
def string (r : Reader) (offset : Int) : Except ReadError Text := do
  let start ← r.word offset
  let size ← r.word (offset + 4)
  if size = 0 then return Text.empty
  let data ← r.slice start size
  (Utf16.decode data).mapError fun e => .oddString e.length

end Reader

end SimPhonebook.InfoBuffer
