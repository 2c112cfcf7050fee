import SimPhonebook.Text.Basic

/-!
# UTF-16 strings on the wire

Strings inside messages are sequences of 16-bit units, each written with its low octet first and without a byte order
mark. A character above U+FFFF takes two units, a high and a low surrogate.

- `Utf16.encode` writes text. An octet of the text that belongs to no character is written as U+FFFD.
- `Utf16.decode` reads units back and refuses an odd number of octets. A surrogate that is not followed by a low
  surrogate reads as U+FFFD. A surrogate that is takes its follower along: the two make one character if the first is
  high, and a single U+FFFD if it is low too.
-/

namespace SimPhonebook.Utf16

def isSurrogate (u : Nat) : Bool := 0xD800 ≤ u && u < 0xE000

def isHigh (u : Nat) : Bool := 0xD800 ≤ u && u < 0xDC00

def isLow (u : Nat) : Bool := 0xDC00 ≤ u && u < 0xE000

/-- The units of one character. -/
def unitsOf (c : Char) : List Nat :=
  let n := c.toNat
  if n < 0x10000 then [n] else [0xD800 + (n - 0x10000) / 1024, 0xDC00 + (n - 0x10000) % 1024]

/-- A unit as two octets, the low one first. -/
def octetsOf (u : Nat) : Octets := [UInt8.ofNat (u % 256), UInt8.ofNat (u / 256)]

def encode (t : Text) : Octets := (t.chars.flatMap unitsOf).flatMap octetsOf

/-- The units of an even number of octets; a last lone octet is left out. -/
def units : Octets → List Nat
  | lo :: hi :: rest => (lo.toNat + 256 * hi.toNat) :: units rest
  | _ => []

/-- The character a high and a low surrogate make together. -/
def pair (high low : Nat) : Char := Char.ofNat (0x10000 + (high - 0xD800) * 1024 + (low - 0xDC00))

/-- The characters of a sequence of units. -/
def charsOf : List Nat → List Char
  | [] => []
  | [u] => [if isSurrogate u then '�' else Char.ofNat u]
  | u :: v :: rest =>
    if isSurrogate u then
      if isLow v then (if isHigh u then pair u v else '�') :: charsOf rest
      else '�' :: charsOf (v :: rest)
    else Char.ofNat u :: charsOf (v :: rest)

/-- The number of octets of a string that is not a whole number of units. -/
structure OddLength where
  length : Nat
deriving DecidableEq, Repr

instance : Described OddLength := ⟨fun e => s!"odd UTF-16 string length {e.length}"⟩

def decode (data : Octets) : Except OddLength Text :=
  if data.length % 2 = 0 then .ok (Text.ofChars (charsOf (units data))) else .error ⟨data.length⟩

end SimPhonebook.Utf16
