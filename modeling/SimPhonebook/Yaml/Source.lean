import SimPhonebook.Text.Basic

/-!
# The characters of a file

A settings file is UTF-8, or UTF-16 if it starts with a byte order mark that says so. The mark itself is no character of the
file. Only printable characters, tabs and line breaks may occur.

A file is read in portions of 512 octets, as they are needed, and a portion with a fault gives no character at all. So a fault
matters only to a reader who comes near it. An incomplete character at the end is no fault of the portion it starts in.
-/

namespace SimPhonebook.Yaml

/-- What is wrong with the octets of a file. -/
inductive SourceError where
  | invalidLead
  | incompleteSequence
  | invalidTail
  | invalidLength
  | invalidCharacter
  | incompleteUnit
  | unexpectedLowSurrogate
  | incompletePair
  | expectedLowSurrogate
  | controlCharacter
deriving DecidableEq, Repr

instance : Described SourceError where
  message
    | .invalidLead => "invalid leading UTF-8 octet"
    | .incompleteSequence => "incomplete UTF-8 octet sequence"
    | .invalidTail => "invalid trailing UTF-8 octet"
    | .invalidLength => "invalid length of a UTF-8 sequence"
    | .invalidCharacter => "invalid Unicode character"
    | .incompleteUnit => "incomplete UTF-16 character"
    | .unexpectedLowSurrogate => "unexpected low surrogate area"
    | .incompletePair => "incomplete UTF-16 surrogate pair"
    | .expectedLowSurrogate => "expected low surrogate area"
    | .controlCharacter => "control characters are not allowed"

/-- Whether octets are missing at the end of the file. -/
def SourceError.isIncomplete : SourceError → Bool
  | incompleteSequence | incompleteUnit | incompletePair => true
  | _ => false

structure Source where
  /-- The characters up to the fault, or all. -/
  chars : List Char
  fault : Option SourceError
  /-- How many characters the first portion has. -/
  opening : Nat
deriving Repr

namespace Source

/-- Whether a character may occur in a file. -/
def isAllowed (n : Nat) : Bool :=
  n = 0x09 || n = 0x0A || n = 0x0D || (0x20 ≤ n && n ≤ 0x7E) || n = 0x85 || (0xA0 ≤ n && n ≤ 0xD7FF) ||
    (0xE000 ≤ n && n ≤ 0xFFFD) || (0x10000 ≤ n && n ≤ 0x10FFFF)

def check (n : Nat) : Except SourceError Char :=
  if isAllowed n then .ok (Char.ofNat n) else .error .controlCharacter

/-- How many octets the sequence that starts with `b` has. -/
def width (b : UInt8) : Option Nat :=
  if b < 0x80 then some 1
  else if b &&& 0xE0 = 0xC0 then some 2
  else if b &&& 0xF0 = 0xE0 then some 3
  else if b &&& 0xF8 = 0xF0 then some 4
  else none

/-- The value bits of the first octet of a sequence of `width` octets. -/
def leadBits (width : Nat) (b : UInt8) : Nat :=
  match width with
  | 1 => b.toNat
  | 2 => b.toNat % 32
  | 3 => b.toNat % 16
  | _ => b.toNat % 8

/-- The value of a sequence, given that of its first octet and the octets after it. -/
def tailValue (value : Nat) : Octets → Except SourceError Nat
  | [] => .ok value
  | b :: rest => if b &&& 0xC0 = 0x80 then tailValue (value * 64 + b.toNat % 64) rest else .error .invalidTail

/-- The least value that needs `width` octets. -/
def leastValue (width : Nat) : Nat :=
  match width with
  | 1 => 0
  | 2 => 0x80
  | 3 => 0x800
  | _ => 0x10000

/-- The character of a sequence of `width` octets that starts with `b`. -/
def sequenceValue (width : Nat) (b : UInt8) (tail : Octets) : Except SourceError Char := do
  if tail.length + 1 < width then throw .incompleteSequence
  let value ← tailValue (leadBits width b) tail
  if value < leastValue width then throw .invalidLength
  if (0xD800 ≤ value && value ≤ 0xDFFF) || value > 0x10FFFF then throw .invalidCharacter
  check value

/-- A character and how many octets it takes, or what is wrong with it. -/
abbrev Item := Nat × Except SourceError Char

/-- What stands at the front of UTF-8. -/
def utf8Item (b : UInt8) (rest : Octets) : Item :=
  match width b with
  | none => (1, .error .invalidLead)
  | some w => (w, sequenceValue w b (rest.take (w - 1)))

/-- A unit of UTF-16, low octet first or not. -/
def unit (lowFirst : Bool) (a b : UInt8) : Nat :=
  if lowFirst then a.toNat + 256 * b.toNat else 256 * a.toNat + b.toNat

def isHighSurrogate (u : Nat) : Bool := 0xD800 ≤ u && u ≤ 0xDBFF

def isLowSurrogate (u : Nat) : Bool := 0xDC00 ≤ u && u ≤ 0xDFFF

/-- What stands at the front of UTF-16. -/
def utf16Item (lowFirst : Bool) (a : UInt8) : Octets → Item
  | [] => (2, .error .incompleteUnit)
  | b :: rest =>
    let u := unit lowFirst a b
    if isLowSurrogate u then (2, .error .unexpectedLowSurrogate)
    else if !isHighSurrogate u then (2, check u)
    else match rest with
      | c :: d :: _ =>
        let v := unit lowFirst c d
        (4, if isLowSurrogate v then check (0x10000 + u % 1024 * 1024 + v % 1024) else .error .expectedLowSurrogate)
      | _ => (4, .error .incompletePair)

/-- The characters up to the first fault. `skip` octets belong to the character before. -/
def items (front : UInt8 → Octets → Item) (skip : Nat) : Octets → List Item
  | [] => []
  | b :: rest =>
    match skip with
    | n + 1 => items front n rest
    | 0 =>
      match front b rest with
      | (w, .ok c) => (w, .ok c) :: items front (w - 1) rest
      | (w, .error e) => [(w, .error e)]

/-- The size of a portion. -/
def portion : Nat := 512

/-- How many characters fit in `room` octets. -/
def fitting (room : Nat) : List Item → Nat
  | [] => 0
  | (w, _) :: rest => if w ≤ room then fitting (room - w) rest + 1 else 0

/-- The characters that can be read, and the fault after them. The portion read so far holds `pending`, in reverse, and has
room for `room` octets more. -/
def available (room : Nat) (pending : List Char) : List Item → List Char × Option SourceError
  | [] => (pending.reverse, none)
  | (w, r) :: rest =>
    let full := w > room
    let done := if full then pending.reverse else []
    let pending := if full then [] else pending
    match r with
    | .ok c =>
      let (cs, e) := available ((if full then portion else room) - w) (c :: pending) rest
      (done ++ cs, e)
    | .error e => (done ++ (if e.isIncomplete then pending.reverse else []), some e)

/-- The source of items after a byte order mark of `mark` octets. -/
def ofItems (mark : Nat) (l : List Item) : Source :=
  let (cs, e) := available (portion - mark) [] l
  ⟨cs, e, fitting (portion - mark) l⟩

/-- The characters of a file. -/
def decode : Octets → Source
  | 0xFF :: 0xFE :: rest => ofItems 2 (items (utf16Item true) 0 rest)
  | 0xFE :: 0xFF :: rest => ofItems 2 (items (utf16Item false) 0 rest)
  | 0xEF :: 0xBB :: 0xBF :: rest => ofItems 3 (items utf8Item 0 rest)
  | data => ofItems 0 (items utf8Item 0 data)

end Source

end SimPhonebook.Yaml
