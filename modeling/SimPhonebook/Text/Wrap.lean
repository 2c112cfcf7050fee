import SimPhonebook.Text.Columns

/-!
# Wrapped text

Text in lines of a given number of columns. A line is broken at blanks, which are then left out, after a hyphen, or inside a
word that alone does not fit. Line breaks of the text stay.
-/

namespace SimPhonebook

open Columns (Glyph)

/-- A text being wrapped: lines that are complete as far as they go, then blanks and a word that may still move on. -/
structure Wrapping where
  done : Octets
  blanks : Octets
  word : Octets
  /-- The columns of the last line in `done`. -/
  column : Nat
  wordWidth : Nat
deriving Repr

namespace Wrapping

def start : Wrapping := ⟨[], [], [], 0, 0⟩

/-- The blanks stay on the line. -/
def addBlanks (w : Wrapping) : Wrapping :=
  { w with done := w.done ++ w.blanks, blanks := [], column := w.column + w.blanks.length }

/-- The word stays on the line, and the blanks before it. -/
def addWord (w : Wrapping) : Wrapping :=
  if w.word.isEmpty then w
  else
    let w := w.addBlanks
    { w with done := w.done ++ w.word, word := [], column := w.column + w.wordWidth, wordWidth := 0 }

/-- The line ends before the blanks, which are left out. -/
def breakLine (w : Wrapping) : Wrapping := { w with done := w.done ++ [0x0A], blanks := [], column := 0 }

/-- Blanks that no word follows stay if they fit. -/
def settleBlanks (w : Wrapping) (limit : Nat) : Wrapping :=
  if w.wordWidth ≠ 0 then w
  else if w.column + w.blanks.length > limit then { w with blanks := [], column := 0 }
  else { w with done := w.done ++ w.blanks, blanks := [] }

/-- Adds a glyph to the word. -/
def extend (w : Wrapping) (limit : Nat) (g : Glyph) : Wrapping :=
  let w := if w.wordWidth + g.width > limit then w.addWord else w
  let w := { w with word := w.word ++ g.octets, wordWidth := w.wordWidth + g.width }
  if w.column + w.wordWidth + w.blanks.length > limit then w.breakLine else w

def add (limit : Nat) (w : Wrapping) (g : Glyph) : Wrapping :=
  if g.octets = [0x0A] then (w.settleBlanks limit).addWord.breakLine
  else if g.width = 0 then { w with word := w.word ++ g.octets }
  else if g.octets = [0x20] then { w.addWord with blanks := w.addWord.blanks ++ [0x20] }
  else if g.octets = [0x2D] then
    let w := w.addBlanks
    if w.column + w.wordWidth + 1 ≤ limit then
      let w := w.addWord
      { w with done := w.done ++ [0x2D], column := w.column + 1 }
    else w.extend limit g
  else w.extend limit g

end Wrapping

/-- The text in lines of at most `limit` columns. -/
def Text.wrap (t : Text) (limit : Nat) : Text :=
  ⟨((t.glyphs.foldl (Wrapping.add limit) .start).settleBlanks limit).addWord.done⟩

end SimPhonebook
