import SimPhonebook.Duration
import SimPhonebook.HexDump
import SimPhonebook.Text.Quoted

/-!
# Diagnostic lines

A diagnostic is a line of `key=value` pairs: its level, its message and its attributes. Keys and texts that would not read
back are quoted. Diagnostics below debug level are left out, and all of them unless the run is verbose.
-/

namespace SimPhonebook.Log

inductive Value where
  | text (t : Text)
  | integer (n : Int)
  | flag (b : Bool)
  | duration (d : Duration)
  /-- Octets, shown as a dump below the line. -/
  | dump (data : Octets)
deriving DecidableEq, Repr

structure Record where
  level : Int
  message : Text
  attributes : List (Text × Value)
deriving DecidableEq, Repr

def debugLevel : Int := -4

/-- A diagnostic at debug level. -/
def debug (message : Text) (attributes : List (Text × Value)) : Record := ⟨debugLevel, message, attributes⟩

/-- A named level and the distance from it, with its sign. -/
def levelFrom (base : Text) (distance : Int) : Text :=
  if distance = 0 then base
  else if distance < 0 then base ++ Numeral.integer distance
  else base ++ "+" ++ Numeral.integer distance

/-- A level by the next lower named one. -/
def levelName (n : Int) : Text :=
  if n < 0 then levelFrom "DEBUG" (n + 4)
  else if n < 4 then levelFrom "INFO" n
  else if n < 8 then levelFrom "WARN" (n - 4)
  else levelFrom "ERROR" (n - 8)

/-- Whether a piece of text cannot stand unquoted: a blank, a quote, an equals sign, U+FFFD and what cannot be printed.
A backslash and U+007F can. -/
def needsQuotes : Utf8.Piece → Bool
  | .stray _ => true
  | .char c =>
    let n := c.toNat
    if n < 0x80 then n ≤ 0x20 || n = 0x22 || n = 0x3D else n = 0xFFFD || !Text.isPrintable c

/-- Whether a text has to be quoted. -/
def isQuoted (t : Text) : Bool := t.isEmpty || (Utf8.pieces t.octets).any needsQuotes

/-- A text, quoted if it has to be. -/
def field (t : Text) : Text := if isQuoted t then t.quoted else t

def Value.field : Value → Text
  | text t => Log.field t
  | integer n => Numeral.integer n
  | flag b => if b then "true" else "false"
  | duration d => d.text
  | dump data => Log.field ("\n" ++ hexDump data)

/-- A key with the name of the group before it. -/
def keyIn (group : Option Text) (key : Text) : Text :=
  match group with
  | none => field key
  | some g =>
    let lead := g ++ "."
    if isQuoted lead || isQuoted key then (lead ++ key).quoted else lead ++ key

/-- An attribute as ` key=value`. Outside a group the key `time` is not shown. -/
def pair (group : Option Text) (key : Text) (value : Value) : Text :=
  if group.isNone && key = "time" then Text.empty else " " ++ keyIn group key ++ "=" ++ value.field

/-- The whole line, with its line break. -/
def Record.lineIn (group : Option Text) (r : Record) : Text :=
  "level=" ++ levelName r.level ++ " msg=" ++ field r.message ++
    Text.concat (r.attributes.map fun (k, v) => pair group k v) ++ "\n"

def Record.line (r : Record) : Text := r.lineIn none

/-- The lines of the diagnostics that are shown. -/
def lines (verbose : Bool) (group : Option Text) (records : List Record) : List Text :=
  if verbose then (records.filter fun r => debugLevel ≤ r.level).map fun r => r.lineIn group else []

end SimPhonebook.Log
