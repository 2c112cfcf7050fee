import SimPhonebook.Text.Basic

/-!
# Reading integers

An integer may have a sign. Its first characters tell its base: `0x`, `0o` and `0b`, with at least one more character, stand
for sixteen, eight and two, any other leading zero for eight. Single underscores may stand between digits, and after what
tells the base.
-/

namespace SimPhonebook.Integer

def isDecimalDigit (b : UInt8) : Bool := 0x30 ≤ b && b ≤ 0x39

/-- The value of a digit in a base. -/
def digit? (base : Nat) (b : UInt8) : Option Nat :=
  let n := b.toNat
  let value :=
    if isDecimalDigit b then n - 48 else if 97 ≤ n && n ≤ 122 then n - 87 else if 65 ≤ n && n ≤ 90 then n - 55 else base
  if value < base then some value else none

/-- The value of digits in a base; of none, zero. -/
def digits? (base : Nat) (s : Octets) : Option Nat :=
  s.foldl (fun n b => n.bind fun n => (digit? base b).map (n * base + ·)) (some 0)

def underscore : UInt8 := 0x5F

/-- Whether every underscore has a digit on both sides; `afterDigit` tells what stands before the text. -/
def isSeparated (afterDigit : Bool) : Octets → Bool
  | [] => afterDigit
  | b :: rest => if b = underscore then afterDigit && isSeparated false rest else isSeparated true rest

/-- The base, whether something was written to tell it, and the digits after that. -/
def base : Octets → Nat × Bool × Octets
  | 0x30 :: x :: y :: rest =>
    if x = 0x78 || x = 0x58 then (16, true, y :: rest)
    else if x = 0x6F || x = 0x4F then (8, true, y :: rest)
    else if x = 0x62 || x = 0x42 then (2, true, y :: rest)
    else (8, true, x :: y :: rest)
  | 0x30 :: rest => (8, true, rest)
  | s => (10, false, s)

/-- The value of an integer without a sign. -/
def magnitude? (s : Octets) : Option Nat :=
  let (base, told, digits) := base s
  if isSeparated told digits then digits? base (digits.filter (· ≠ underscore)) else none

/-- The value of an integer. -/
def ofOctets? : Octets → Option Int
  | 0x2D :: s => (magnitude? s).map fun n => -(n : Int)
  | 0x2B :: s => (magnitude? s).map Int.ofNat
  | s => (magnitude? s).map Int.ofNat

/-- The value of an integer that fits in 32 bits. -/
def int32? (t : Text) : Option Int32 :=
  (ofOctets? t.octets).bind fun n => if -0x80000000 ≤ n && n < 0x80000000 then some (Int32.ofInt n) else none

end SimPhonebook.Integer
