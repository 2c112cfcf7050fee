/-!
# Octets and little-endian words

Everything on the control channel is a list of octets. Integers are 32-bit words, least significant octet first.

- `Octets.ofWord` writes a word as its four octets, `Octets.word?` reads the word at a position if all four octets are
  there.
- `Octets.setWord` overwrites the word at a position; the length stays.
-/

namespace SimPhonebook

abbrev Octets := List UInt8

namespace Octets

/-- The four octets of a word, least significant first. -/
def ofWord (w : UInt32) : Octets :=
  [w.toUInt8, (w >>> 8).toUInt8, (w >>> 16).toUInt8, (w >>> 24).toUInt8]

/-- The word whose octets, least significant first, are the four given. -/
def joinWord (b₀ b₁ b₂ b₃ : UInt8) : UInt32 :=
  b₀.toUInt32 ||| (b₁.toUInt32 <<< 8) ||| (b₂.toUInt32 <<< 16) ||| (b₃.toUInt32 <<< 24)

/-- The word at the front, if four octets are there. -/
def headWord? : Octets → Option UInt32
  | b₀ :: b₁ :: b₂ :: b₃ :: _ => some (joinWord b₀ b₁ b₂ b₃)
  | _ => none

/-- The word at position `pos`, if all four of its octets are there. -/
def word? (data : Octets) (pos : Nat) : Option UInt32 :=
  headWord? (data.drop pos)

/-- The word at position `pos`; zero where the data ends before it does. Used only behind a length check. -/
def wordAt (data : Octets) (pos : Nat) : UInt32 :=
  (word? data pos).getD 0

/-- The data with the word at position `pos` overwritten. -/
def setWord (data : Octets) (pos : Nat) (w : UInt32) : Octets :=
  data.take pos ++ ofWord w ++ data.drop (pos + 4)

@[simp] theorem length_ofWord (w : UInt32) : (ofWord w).length = 4 := rfl

@[simp] theorem headWord?_ofWord_append (w : UInt32) (rest : Octets) :
    headWord? (ofWord w ++ rest) =
      some (joinWord w.toUInt8 (w >>> 8).toUInt8 (w >>> 16).toUInt8 (w >>> 24).toUInt8) := rfl

theorem length_setWord (data : Octets) (pos : Nat) (w : UInt32) (h : pos + 4 ≤ data.length) :
    (setWord data pos w).length = data.length := by
  simp only [setWord, List.length_append, List.length_take, List.length_drop, length_ofWord]
  omega

end Octets

end SimPhonebook
