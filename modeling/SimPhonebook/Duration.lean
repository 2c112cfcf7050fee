import SimPhonebook.Text.Numeral

/-!
# Durations

A duration is a signed number of nanoseconds that fits in 64 bits.

- `Duration.text` is the usual notation: a duration below a second in its largest fitting unit (`1.5µs`, `2ms`), any
  other in hours, minutes and seconds (`1m0s`, `1h0m0.5s`); fractions without trailing zeros; nothing at all is `0s`.
- `Duration.parse?` reads a sign and then one or more decimal numbers, each with a unit, or `0` alone. Digits of a
  fraction beyond the nanosecond are cut off. What does not fit in 64 bits is refused.
-/

namespace SimPhonebook

structure Duration where
  nanoseconds : Int
deriving DecidableEq, Repr, Inhabited

namespace Duration

def seconds (n : Nat) : Duration := ⟨n * 1000000000⟩

def milliseconds (n : Nat) : Duration := ⟨n * 1000000⟩

/-! ## Writing -/

/-- The digits of a fraction of `places` decimal places without trailing zeros, with the point, or nothing if it is
zero. -/
def fraction (places value : Nat) : Octets :=
  let digits := Numeral.padLeft 0x30 places (Numeral.digits 10 value)
  let kept := (digits.reverse.dropWhile (· == 0x30)).reverse
  if value = 0 then [] else 0x2E :: kept

/-- `value` units of `10 ^ places` parts each, followed by the name of the unit. -/
def inUnit (places value : Nat) (unit : Text) : Text :=
  Numeral.decimal (value / Nat.pow 10 places) ++ ⟨fraction places (value % Nat.pow 10 places)⟩ ++ unit

/-- The text of a positive number of nanoseconds. -/
def magnitude (n : Nat) : Text :=
  if n < 1000 then inUnit 0 n "ns"
  else if n < 1000000 then inUnit 3 n "µs"
  else if n < 1000000000 then inUnit 6 n "ms"
  else
    let minutes := n / 60000000000
    let rest := inUnit 9 (n % 60000000000) "s"
    if minutes = 0 then rest
    else if minutes < 60 then Numeral.decimal minutes ++ "m" ++ rest
    else Numeral.decimal (minutes / 60) ++ "h" ++ Numeral.decimal (minutes % 60) ++ "m" ++ rest

def text (d : Duration) : Text :=
  match d.nanoseconds with
  | .ofNat 0 => "0s"
  | .ofNat n => magnitude n
  | .negSucc n => "-" ++ magnitude (n + 1)

/-! ## Reading -/

def isDigit (b : UInt8) : Bool := 0x30 ≤ b && b ≤ 0x39

/-- The value of a list of decimal digits. -/
def value (digits : Octets) : Nat := digits.foldl (fun n b => n * 10 + (b.toNat - 0x30)) 0

/-- The length of a unit in nanoseconds, by its name. The micro sign and the Greek letter mu both name microseconds. -/
def unit? (name : Octets) : Option Nat :=
  ([("ns", 1), ("us", 1000), ("µs", 1000), ("μs", 1000), ("ms", 1000000), ("s", 1000000000), ("m", 60000000000),
    ("h", 3600000000000)] : List (Text × Nat)).findSome? fun (known, length) =>
      if known.octets = name then some length else none

/-- `2 ^ 63`: one more than the nanoseconds of the longest duration. -/
def limit : Nat := 0x8000000000000000

/-- The value of the digits before the point, unless it passes the limit. -/
def whole? (digits : Octets) : Option Nat :=
  if value digits ≤ limit then some (value digits) else none

/-- The digits after the point as a number and the power of ten it is counted in. Digits from the one on that would take
the number past the limit do not count. -/
def part (digits : Octets) : Nat × Nat :=
  let step : Nat × Nat × Bool → UInt8 → Nat × Nat × Bool := fun (x, places, full) b =>
    let y := x * 10 + (b.toNat - 0x30)
    if full || x > (limit - 1) / 10 || y > limit then (x, places, true) else (y, places + 1, false)
  let (x, places, _) := digits.foldl step (0, 0, false)
  (x, places)

/-- The nanoseconds of a fraction `x / 10 ^ places` of a unit, rounded in floating point and cut off. -/
def partOf (x places unit : Nat) : Nat :=
  (Float.ofNat x * (Float.ofNat unit / Float.ofNat (Nat.pow 10 places))).toUInt64.toNat

/-- One number with its unit, in nanoseconds, and what follows it. -/
def term? (s : Octets) : Option (Nat × Octets) := do
  let before := s.takeWhile isDigit
  let afterWhole := s.dropWhile isDigit
  let (after, rest) := match afterWhole with
    | 0x2E :: r => (r.takeWhile isDigit, r.dropWhile isDigit)
    | r => ([], r)
  guard (before ≠ [] ∨ after ≠ [])
  let v ← whole? before
  let isUnit : UInt8 → Bool := fun b => b != 0x2E && !isDigit b
  let unit ← unit? (rest.takeWhile isUnit)
  guard (v ≤ limit / unit)
  let (x, places) := part after
  let total := v * unit + if x = 0 then 0 else partOf x places unit
  guard (total ≤ limit)
  some (total, rest.dropWhile isUnit)

/-- The sum of one or more terms that take up all of the text, unless it passes the limit. The fuel is the number of terms
that may still follow. -/
def terms? : Nat → Nat → Octets → Option Nat
  | _, total, [] => some total
  | 0, _, _ => none
  | fuel + 1, total, s => do
    let (t, rest) ← term? s
    guard (total + t ≤ limit)
    terms? fuel (total + t) rest

/-- The duration a text stands for, if it stands for one. -/
def parse? (t : Text) : Option Duration := do
  let (negative, s) := match t.octets with
    | 0x2D :: r => (true, r)
    | 0x2B :: r => (false, r)
    | r => (false, r)
  if s = [0x30] then return ⟨0⟩
  guard (s ≠ [])
  let total ← terms? s.length 0 s
  if negative then return ⟨-total⟩
  guard (total < limit)
  return ⟨total⟩

end Duration

end SimPhonebook
