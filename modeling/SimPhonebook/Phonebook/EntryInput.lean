import SimPhonebook.Text.Basic

/-!
# Entries as arguments

An entry is given on the command line as `Name,Number` or `Name,Number,Index`. Fields are taken as they stand. The index
is read leniently: `leadingInteger` takes what decimal number the text starts with, as a 64-bit integer that stops at its
limits, and keeps its low 32 bits.
-/

namespace SimPhonebook.Phonebook

structure EntryInput where
  name : Text
  number : Text
  /-- Empty where no index was asked for. -/
  index : Text
deriving DecidableEq, Repr

inductive InputError where
  | tooManyArguments
  | missingArguments
  /-- A single field was asked for and given: there is no number among the fields. -/
  | noNumberField
deriving DecidableEq, Repr

instance : Described InputError where
  message
    | .tooManyArguments => "couldn't parse input string, too many arguments"
    | .missingArguments => "couldn't parse input string, missing arguments"
    | .noNumberField => "couldn't parse input string, no number field"

/-- The fields of an input that has to hold exactly `count` of them. -/
def EntryInput.parse (input : Text) (count : Int) : Except InputError EntryInput :=
  let fields := input.split 0x2C
  if fields.length > count then .error .tooManyArguments
  else if fields.length < count then .error .missingArguments
  else match fields with
    | name :: number :: rest => .ok ⟨name, number, rest.head?.getD Text.empty⟩
    | _ => .error .noNumberField

/-! ## Lenient integers -/

/-- Blank, tab, line feed, vertical tab, form feed, carriage return. -/
def isSpace (b : UInt8) : Bool := b == 0x20 || (0x09 ≤ b && b ≤ 0x0D)

def isDigit (b : UInt8) : Bool := 0x30 ≤ b && b ≤ 0x39

/-- A magnitude of at most `2 ^ 63`, and whether a digit was lost because it would have passed that. -/
structure Magnitude where
  value : UInt64
  overflow : Bool
deriving DecidableEq, Repr

/-- Appends a digit. From the first digit that does not fit, no digit is taken. -/
def Magnitude.push (m : Magnitude) (digit : UInt8) : Magnitude :=
  let d := (digit - 0x30).toUInt64
  if m.overflow || m.value > (0x8000000000000000 - d) / 10 then ⟨m.value, true⟩
  else ⟨m.value * 10 + d, false⟩

/-- The digits at the front. -/
def Magnitude.ofDigits (s : Octets) : Magnitude :=
  (s.takeWhile isDigit).foldl Magnitude.push ⟨0, false⟩

/-- The 64-bit integer of a sign and a magnitude, at its limits where it does not fit. -/
def Magnitude.signed (negative : Bool) (m : Magnitude) : Int64 :=
  if negative then
    if m.overflow || m.value == 0x8000000000000000 then Int64.minValue else -m.value.toInt64
  else if m.overflow || m.value > 0x7FFFFFFFFFFFFFFF then Int64.maxValue
  else m.value.toInt64

/-- The integer a text starts with, after any spaces and one sign; zero if there is none. -/
def leadingInteger (t : Text) : Int32 :=
  match t.octets.dropWhile isSpace with
  | 0x2D :: rest => ((Magnitude.ofDigits rest).signed true).toInt32
  | 0x2B :: rest => ((Magnitude.ofDigits rest).signed false).toInt32
  | rest => ((Magnitude.ofDigits rest).signed false).toInt32

end SimPhonebook.Phonebook
