import SimPhonebook.Text.Numeral
import SimPhonebook.Text.Printable

/-!
# Quoted text

Text between double quotes, on one line and readable: printable characters stand for themselves, quotes and backslashes
follow a backslash, common control characters have a letter, all else is written by number.
-/

namespace SimPhonebook.Text

/-- The letters for common control characters. -/
def escapeLetters : List (Nat × String) :=
  [(7, "\\a"), (8, "\\b"), (9, "\\t"), (10, "\\n"), (11, "\\v"), (12, "\\f"), (13, "\\r")]

/-- A character inside quotes. -/
def quotedChar (c : Char) : Text :=
  let n := c.toNat
  if n = 0x22 || n = 0x5C then "\\" ++ ofChars [c]
  else if isPrintable c then ofChars [c]
  else match escapeLetters.lookup n with
    | some letter => letter
    | none =>
      if n < 0x20 || n = 0x7F then "\\x" ++ Numeral.hex 2 n
      else if n < 0x10000 then "\\u" ++ Numeral.hex 4 n
      else "\\U" ++ Numeral.hex 8 n

/-- A piece of text inside quotes. -/
def quotedPiece : Utf8.Piece → Text
  | .char c => quotedChar c
  | .stray b => "\\x" ++ Numeral.hex 2 b.toNat

def quoted (t : Text) : Text := "\"" ++ concat ((Utf8.pieces t.octets).map quotedPiece) ++ "\""

end SimPhonebook.Text
