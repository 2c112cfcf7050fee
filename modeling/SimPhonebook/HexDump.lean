import SimPhonebook.Text.Numeral

/-!
# Hex dump

Octets as lines of sixteen: the offset of the line in at least four hexadecimal digits, two digits for each octet with a
wider gap after the eighth, and the octets as characters between bars, a point for each that is not printable. The
columns of a short last line are filled with blanks, so that the bars line up.
-/

namespace SimPhonebook

namespace HexDump

/-- The octets a line holds. -/
def lineSize : Nat := 16

/-- The data cut into lines; only the last may be short. -/
def rows (data : Octets) : List Octets :=
  if data = [] then [] else data.take lineSize :: rows (data.drop lineSize)
termination_by data.length
decreasing_by
  have := List.length_pos_iff.2 ‹¬data = []›
  simp only [List.length_drop, lineSize]
  omega

/-- The column of an octet: two digits and a blank, or three blanks where the line has ended. -/
def column : Option UInt8 → Octets
  | some b => Numeral.hexOctet b ++ [0x20]
  | none => [0x20, 0x20, 0x20]

/-- The hexadecimal part of a line: sixteen columns, with a further blank after the eighth. -/
def columns (row : Octets) : Octets :=
  (List.range 8).flatMap (fun j => column row[j]?) ++ [0x20] ++ (List.range 8).flatMap (fun j => column row[8 + j]?)

/-- An octet as a character, a point if it is not printable. -/
def shown (b : UInt8) : UInt8 := if 32 ≤ b && b < 127 then b else 0x2E

/-- One line, without its line break. -/
def line (offset : Nat) (row : Octets) : Octets :=
  (Numeral.hex 4 offset).octets ++ [0x20, 0x20] ++ columns row ++ [0x20, 0x7C] ++ row.map shown ++ [0x7C]

/-- The lines of the data, the first at offset `offset`. -/
def lines (offset : Nat) : List Octets → List Octets
  | [] => []
  | row :: rest => line offset row :: lines (offset + lineSize) rest

end HexDump

/-- The whole dump, each line ended by a line break. -/
def hexDump (data : Octets) : Text :=
  ⟨(HexDump.lines 0 (HexDump.rows data)).flatMap (· ++ [0x0A])⟩

end SimPhonebook
