import SimPhonebook.Octets

/-!
# UTF-8

Text on the command line, in files and in messages is meant to be UTF-8 but need not be. `Utf8.pieces` cuts any octets
into characters and stray octets, losing nothing: an octet is stray when no well-formed character starts there. Overlong
forms, surrogates and values above U+10FFFF are not well formed.

`Utf8.encode` writes one character. `Utf8.repair` replaces every stray octet by U+FFFD, so its result is well formed.
-/

namespace SimPhonebook.Utf8

/-- The octets of one character. -/
def encode (c : Char) : Octets :=
  let n := c.toNat
  if n < 0x80 then [UInt8.ofNat n]
  else if n < 0x800 then [UInt8.ofNat (0xC0 + n / 64), UInt8.ofNat (0x80 + n % 64)]
  else if n < 0x10000 then
    [UInt8.ofNat (0xE0 + n / 4096), UInt8.ofNat (0x80 + n / 64 % 64), UInt8.ofNat (0x80 + n % 64)]
  else
    [UInt8.ofNat (0xF0 + n / 262144), UInt8.ofNat (0x80 + n / 4096 % 64), UInt8.ofNat (0x80 + n / 64 % 64),
      UInt8.ofNat (0x80 + n % 64)]

/-- A piece of text: a character, or an octet that belongs to none. -/
inductive Piece where
  | char (c : Char)
  | stray (b : UInt8)
deriving DecidableEq, Repr

/-- The character a reader sees: a stray octet shows as U+FFFD. -/
def Piece.shown : Piece → Char
  | .char c => c
  | .stray _ => '�'

/-- The octets the piece was read from. -/
def Piece.octets : Piece → Octets
  | .char c => encode c
  | .stray b => [b]

/-- Octets that continue a character. -/
def isTail (b : UInt8) : Bool := 0x80 ≤ b && b < 0xC0

/-- The character of value `n`, if it is one and not below `low`, the least value that needs so many octets. -/
def scalar? (low n : Nat) : Option Char :=
  if h : n.isValidChar then if low ≤ n then some (Char.ofNatAux n h) else none else none

/-- The character of two octets, if they form one. -/
def two? (b b₁ : UInt8) : Option Char :=
  if 0xC0 ≤ b && b < 0xE0 && isTail b₁ then scalar? 0x80 (b.toNat % 32 * 64 + b₁.toNat % 64) else none

/-- The character of three octets, if they form one. -/
def three? (b b₁ b₂ : UInt8) : Option Char :=
  if 0xE0 ≤ b && b < 0xF0 && isTail b₁ && isTail b₂ then
    scalar? 0x800 (b.toNat % 16 * 4096 + b₁.toNat % 64 * 64 + b₂.toNat % 64)
  else none

/-- The character of four octets, if they form one. -/
def four? (b b₁ b₂ b₃ : UInt8) : Option Char :=
  if 0xF0 ≤ b && b < 0xF8 && isTail b₁ && isTail b₂ && isTail b₃ then
    scalar? 0x10000 (b.toNat % 8 * 262144 + b₁.toNat % 64 * 4096 + b₂.toNat % 64 * 64 + b₃.toNat % 64)
  else none

/-- The character that starts with the octet `b`, if one does, and what follows it. -/
def firstChar? (b : UInt8) : Octets → Option (Char × Octets)
  | [] => none
  | b₁ :: r₁ =>
    match two? b b₁, r₁ with
    | some c, _ => some (c, r₁)
    | none, [] => none
    | none, b₂ :: r₂ =>
      match three? b b₁ b₂, r₂ with
      | some c, _ => some (c, r₂)
      | none, [] => none
      | none, b₃ :: r₃ => (four? b b₁ b₂ b₃).map (·, r₃)

/-- The first piece of the text `b :: rest` and what follows it. -/
def firstPiece (b : UInt8) (rest : Octets) : Piece × Octets :=
  if b < 0x80 then (.char (Char.ofNat b.toNat), rest)
  else match firstChar? b rest with
    | some (c, after) => (.char c, after)
    | none => (.stray b, rest)

theorem length_firstChar?_lt {b : UInt8} {rest after : Octets} {c : Char} (h : firstChar? b rest = some (c, after)) :
    after.length < rest.length := by
  unfold firstChar? at h
  split at h
  · cases h
  · split at h
    · cases h; simp
    · cases h
    · split at h
      · cases h; simp only [List.length_cons]; omega
      · cases h
      · obtain ⟨c', _, h'⟩ := Option.map_eq_some_iff.1 h
        cases h'
        simp only [List.length_cons]
        omega

theorem length_firstPiece_le (b : UInt8) (rest : Octets) : (firstPiece b rest).2.length ≤ rest.length := by
  unfold firstPiece
  split
  · exact Nat.le_refl _
  · split
    · next h => exact Nat.le_of_lt (length_firstChar?_lt h)
    · exact Nat.le_refl _

/-- Text as characters and stray octets, in order. -/
def pieces : Octets → List Piece
  | [] => []
  | b :: rest => (firstPiece b rest).1 :: pieces (firstPiece b rest).2
termination_by data => data.length
decreasing_by
  have := length_firstPiece_le b rest
  simp only [List.length_cons]
  omega

/-- The characters a reader sees. -/
def chars (data : Octets) : List Char := (pieces data).map Piece.shown

/-- Whether every octet belongs to a character. -/
def isValid (data : Octets) : Bool :=
  (pieces data).all fun p => match p with
    | .char _ => true
    | .stray _ => false

/-- The octets of a list of characters. -/
def ofChars (cs : List Char) : Octets := cs.flatMap encode

/-- Every stray octet replaced by U+FFFD. -/
def repair (data : Octets) : Octets := ofChars (chars data)

end SimPhonebook.Utf8
