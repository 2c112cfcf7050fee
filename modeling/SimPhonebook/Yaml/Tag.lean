import SimPhonebook.Text.Integer

/-!
# What a scalar stands for

A scalar has a tag: the one written before it, or the one its text calls for. Texts that read as a truth value, as nothing,
as a number or as a date get the tag of that; all others are strings.
-/

namespace SimPhonebook.Yaml

namespace Tag

def string : Text := "!!str"

def null : Text := "!!null"

def bool : Text := "!!bool"

def int : Text := "!!int"

def float : Text := "!!float"

def timestamp : Text := "!!timestamp"

def binary : Text := "!!binary"

def merge : Text := "!!merge"

def sequence : Text := "!!seq"

def mapping : Text := "!!map"

/-- The start of the full form of the usual tags. -/
def commonLead : Text := "tag:yaml.org,2002:"

/-- The short form of a tag. -/
def shorten (t : Text) : Text := if t.startsWith commonLead then "!!" ++ t.dropOctets commonLead.size else t

end Tag

/-- The value of a scalar, as far as it matters to a reader of settings. -/
inductive Value where
  | null
  | bool (b : Bool)
  | text (t : Text)
  | integer (n : Int)
  /-- A floating-point number or a date. -/
  | other
deriving DecidableEq, Repr

/-! ## Numbers -/

namespace Numeric

/-- The value of one or more digits in a base. -/
def number? (base : Nat) (s : Octets) : Option Nat := if s.isEmpty then none else Integer.digits? base s

/-- A number in the base its first characters tell. -/
def based? : Octets → Option Nat
  | 0x30 :: x :: rest =>
    if x = 0x78 || x = 0x58 then number? 16 rest
    else if x = 0x62 || x = 0x42 then number? 2 rest
    else if x = 0x6F || x = 0x4F then number? 8 rest
    else number? 8 (x :: rest)
  | s => number? 10 s

/-- A sign, if there is one, and the rest: whether the number is negative. -/
def sign : Octets → Bool × Bool × Octets
  | 0x2D :: rest => (true, true, rest)
  | 0x2B :: rest => (true, false, rest)
  | s => (false, false, s)

/-- Whether a magnitude fits in 64 bits, signed, or without a sign. -/
def fits (signed negative : Bool) (n : Nat) : Bool :=
  if negative then n ≤ 0x8000000000000000 else if signed then n < 0x8000000000000000 else n < 0x10000000000000000

/-- A sign and a magnitude as a number, if it fits. -/
def signed? (magnitude? : Octets → Option Nat) (s : Octets) : Option Int :=
  let (signed, negative, rest) := sign s
  ((magnitude? rest).filter (fits signed negative)).map fun n => if negative then -(n : Int) else n

/-- The integer that a text is. After `0b` and `0o` a sign may stand. -/
def integer? (s : Octets) : Option Int :=
  (signed? based? s).or (match s with
    | 0x30 :: 0x62 :: rest => signed? (number? 2) rest
    | 0x30 :: 0x6F :: rest => signed? (number? 8) rest
    | _ => none)

/-- The parts of a decimal number: digits before and after the point, and the exponent. -/
structure Decimal where
  whole : Octets
  fraction : Octets
  exponent : Int

/-- An exponent, which has to be all there is. -/
def exponent? : Octets → Option Int
  | [] => some 0
  | e :: rest =>
    if e = 0x65 || e = 0x45 then
      let (_, negative, digits) := sign rest
      (number? 10 digits).map fun n => if negative then -(n : Int) else n
    else none

def decimal? (s : Octets) : Option Decimal :=
  let whole := s.takeWhile Integer.isDecimalDigit
  match s.dropWhile Integer.isDecimalDigit with
  | 0x2E :: rest =>
    let fraction := rest.takeWhile Integer.isDecimalDigit
    if whole.isEmpty && fraction.isEmpty then none
    else (exponent? (rest.dropWhile Integer.isDecimalDigit)).map (⟨whole, fraction, ·⟩)
  | rest => if whole.isEmpty then none else (exponent? rest).map (⟨whole, [], ·⟩)

/-- Whether a decimal number is below the limit of a 64-bit floating-point number. -/
def Decimal.isFinite (d : Decimal) : Bool :=
  let digits := (d.whole ++ d.fraction).dropWhile (· = 0x30)
  let n := (number? 10 digits).getD 0
  let scale := d.exponent - d.fraction.length
  if n = 0 || scale + digits.length ≤ 300 then true
  else if scale + digits.length > 400 then false
  else
    let limit := Nat.pow 2 1024 - Nat.pow 2 970
    if scale ≥ 0 then n * Nat.pow 10 scale.toNat < limit else n < limit * Nat.pow 10 (-scale).toNat

/-- Whether a text is a decimal number without a sign. -/
def isUnsignedFloat (s : Octets) : Bool := (decimal? s).any Decimal.isFinite

def isFloat (s : Octets) : Bool := isUnsignedFloat (sign s).2.2

/-- A text without underscores. -/
def withoutUnderscores (s : Octets) : Octets := s.filter (· ≠ 0x5F)

/-- Whether each underscore stands between two digits. `afterDigit` tells of the octet before. -/
def separatesDigits (afterDigit : Bool) : Octets → Bool
  | [] => true
  | b :: rest =>
    if b = 0x5F then afterDigit && rest.head?.any Integer.isDecimalDigit && separatesDigits false rest
    else separatesDigits (Integer.isDecimalDigit b) rest

/-- Whether a text that starts with a point is a fraction. -/
def isFraction (s : Octets) : Bool := separatesDigits false s && isUnsignedFloat (withoutUnderscores s)

end Numeric

/-! ## Dates -/

namespace Date

/-- One or two digits, and the rest. -/
def short? : Octets → Option (Nat × Octets)
  | a :: b :: rest =>
    if !Integer.isDecimalDigit a then none
    else if Integer.isDecimalDigit b then some ((a.toNat - 48) * 10 + (b.toNat - 48), rest)
    else some (a.toNat - 48, b :: rest)
  | [a] => if Integer.isDecimalDigit a then some (a.toNat - 48, []) else none
  | [] => none

/-- The rest after a given octet. -/
def after? (b : UInt8) : Octets → Option Octets
  | x :: rest => if x = b then some rest else none
  | [] => none

def isLeap (year : Nat) : Bool := year % 4 = 0 && (year % 100 ≠ 0 || year % 400 = 0)

def daysIn (year month : Nat) : Nat :=
  if month = 2 then if isLeap year then 29 else 28
  else if month = 4 || month = 6 || month = 9 || month = 11 then 30
  else 31

/-- A year of four digits, a month and a day, and the rest. -/
def date? (s : Octets) : Option Octets := do
  let year ← Numeric.number? 10 (s.take 4)
  let s ← after? 0x2D (s.drop 4)
  let (month, s) ← short? s
  let s ← after? 0x2D s
  let (day, s) ← short? s
  if month < 1 || month > 12 || day < 1 || day > daysIn year month then none else some s

/-- Hours, minutes and seconds with or without a fraction, and the rest. -/
def time? (s : Octets) : Option Octets := do
  let (hour, s) ← short? s
  let s ← after? 0x3A s
  let (minute, s) ← short? s
  let s ← after? 0x3A s
  let (second, s) ← short? s
  if hour > 23 || minute > 59 || second > 59 then none
  else match s with
    | point :: digit :: rest =>
      if (point = 0x2E || point = 0x2C) && Integer.isDecimalDigit digit then some (rest.dropWhile Integer.isDecimalDigit)
      else some (point :: digit :: rest)
    | s => some s

/-- Whether a text is a time zone. -/
def isZone (s : Octets) : Bool :=
  match s with
  | [0x5A] => true
  | [sign, h₁, h₂, 0x3A, m₁, m₂] =>
    (sign = 0x2B || sign = 0x2D) && (Numeric.number? 10 [h₁, h₂]).any (· ≤ 24) && (Numeric.number? 10 [m₁, m₂]).any (· ≤ 60)
  | _ => false

/-- Whether a text is a date, or a date and a time: after the letter T with a time zone, after blanks without. -/
def isTimestamp (s : Octets) : Bool :=
  if (s.takeWhile Integer.isDecimalDigit).length ≠ 4 then false
  else match date? s with
    | none => false
    | some [] => true
    | some (mark :: rest) =>
      if mark = 0x54 || mark = 0x74 then (time? rest).any isZone
      else if mark = 0x20 then (time? (rest.dropWhile (· = 0x20))).any List.isEmpty
      else false

end Date

/-! ## Resolution -/

/-- Texts with a meaning of their own. -/
def keywords : List (Text × Text × Value) :=
  [("true", Tag.bool, .bool true), ("True", Tag.bool, .bool true), ("TRUE", Tag.bool, .bool true),
    ("false", Tag.bool, .bool false), ("False", Tag.bool, .bool false), ("FALSE", Tag.bool, .bool false),
    ("", Tag.null, .null), ("~", Tag.null, .null), ("null", Tag.null, .null), ("Null", Tag.null, .null),
    ("NULL", Tag.null, .null), (".nan", Tag.float, .other), (".NaN", Tag.float, .other), (".NAN", Tag.float, .other),
    (".inf", Tag.float, .other), (".Inf", Tag.float, .other), (".INF", Tag.float, .other),
    ("+.inf", Tag.float, .other), ("+.Inf", Tag.float, .other), ("+.INF", Tag.float, .other),
    ("-.inf", Tag.float, .other), ("-.Inf", Tag.float, .other), ("-.INF", Tag.float, .other)]

/-- The tag and the value that a text calls for. It can be a date only if `tag` is none or that of dates. -/
def infer (tag : Text) (t : Text) : Text × Value :=
  match keywords.lookup t with
  | some r => r
  | none =>
    match t.octets with
    | [] => (Tag.string, .text t)
    | b :: _ =>
      let digits := Numeric.withoutUnderscores t.octets
      if b = 0x2E then if Numeric.isFraction t.octets then (Tag.float, .other) else (Tag.string, .text t)
      else if Integer.isDecimalDigit b || b = 0x2B || b = 0x2D then
        if (tag.isEmpty || tag = Tag.timestamp) && Date.isTimestamp t.octets then (Tag.timestamp, .other)
        else match Numeric.integer? digits with
          | some n => (Tag.int, .integer n)
          | none => if Numeric.isFloat digits then (Tag.float, .other) else (Tag.string, .text t)
      else (Tag.string, .text t)

/-- A text does not read as what its tag says. -/
structure TagMismatch where
  found : Text
  text : Text
  wanted : Text
deriving DecidableEq, Repr

instance : Described TagMismatch := ⟨fun e => "cannot decode " ++ e.found ++ " `" ++ e.text ++ "` as a " ++ e.wanted⟩

/-- Whether a scalar with a tag is read as its text calls for. Under any other tag it stays text. -/
def isInferred (tag : Text) : Bool :=
  [Text.empty, Tag.null, Tag.bool, Tag.int, Tag.float, Tag.timestamp].contains tag

/-- The tag and the value of a scalar. What its text calls for has to be what its tag says; only an integer may stand for a
floating-point number, if it fits in 64 bits with a sign. -/
def resolve (tag : Text) (t : Text) : Except TagMismatch (Text × Value) :=
  if !isInferred tag then .ok (tag, .text t)
  else
    let (found, value) := infer tag t
    if tag.isEmpty || tag = found then .ok (found, value)
    else match value with
      | .integer n => if tag = Tag.float && n < 0x8000000000000000 then .ok (Tag.float, .other) else .error ⟨found, t, tag⟩
      | _ => .error ⟨found, t, tag⟩

/-! ## Base 64 -/

def base64Digit? (b : UInt8) : Option Nat :=
  let n := b.toNat
  if 65 ≤ n && n ≤ 90 then some (n - 65)
  else if 97 ≤ n && n ≤ 122 then some (n - 71)
  else if 48 ≤ n && n ≤ 57 then some (n + 4)
  else if n = 43 then some 62
  else if n = 47 then some 63
  else none

/-- The octets of groups of four digits; the last may be filled up with equals signs. -/
def base64Groups? : Octets → Option Octets
  | [] => some []
  | [a, b, 0x3D, 0x3D] => do
    let n := (← base64Digit? a) * 64 + (← base64Digit? b)
    return [UInt8.ofNat (n / 16)]
  | [a, b, c, 0x3D] => do
    let n := ((← base64Digit? a) * 64 + (← base64Digit? b)) * 64 + (← base64Digit? c)
    return [UInt8.ofNat (n / 1024), UInt8.ofNat (n / 4)]
  | a :: b :: c :: d :: rest => do
    let n := (((← base64Digit? a) * 64 + (← base64Digit? b)) * 64 + (← base64Digit? c)) * 64 + (← base64Digit? d)
    return UInt8.ofNat (n / 65536) :: UInt8.ofNat (n / 256) :: UInt8.ofNat n :: (← base64Groups? rest)
  | _ => none

/-- The text that base 64 stands for; line breaks do not matter. -/
def base64? (t : Text) : Option Text :=
  (base64Groups? (t.octets.filter fun b => b ≠ 0x0A && b ≠ 0x0D)).map Text.mk

end SimPhonebook.Yaml
