import SimPhonebook.Text.Basic

/-!
# Numerals

Decimal and hexadecimal text of numbers. Hexadecimal digits are lower case; `Numeral.hex width` fills up with zeros to at
least `width` digits.
-/

namespace SimPhonebook.Numeral

/-- The digit of value `d`, a lower-case letter from ten on. -/
def digit (d : Nat) : UInt8 := if d < 10 then UInt8.ofNat (48 + d) else UInt8.ofNat (87 + d)

/-- The digits of `n` in a base above one, most significant first; at least one. -/
def digits (base n : Nat) : Octets :=
  if n < base ∨ base < 2 then [digit n]
  else digits base (n / base) ++ [digit (n % base)]
termination_by n
decreasing_by exact Nat.div_lt_self (by omega) (by omega)

def decimal (n : Nat) : Text := ⟨digits 10 n⟩

/-- Decimal text with a minus sign before a negative number. -/
def integer : Int → Text
  | .ofNat n => decimal n
  | .negSucc n => "-" ++ decimal (n + 1)

/-- Octets filled up on the left to at least `width`. -/
def padLeft (fill : UInt8) (width : Nat) (data : Octets) : Octets :=
  List.replicate (width - data.length) fill ++ data

/-- Hexadecimal text of at least `width` digits. -/
def hex (width n : Nat) : Text := ⟨padLeft 0x30 width (digits 16 n)⟩

/-- The two hexadecimal digits of an octet. -/
def hexOctet (b : UInt8) : Octets := [digit (b.toNat / 16), digit (b.toNat % 16)]

/-- Two hexadecimal digits for each octet. -/
def hexOctets (data : Octets) : Text := ⟨data.flatMap hexOctet⟩

/-- A word as `0x` and eight digits. -/
def hexWord (w : UInt32) : Text := "0x" ++ hex 8 w.toNat

def word (w : UInt32) : Text := decimal w.toNat

end SimPhonebook.Numeral
