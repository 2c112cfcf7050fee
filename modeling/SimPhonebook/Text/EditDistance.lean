/-!
# Edit distance

How many characters have to be put in, taken out or exchanged to make one text of another. It is found row by row: after
some characters of the first text, the row holds their distance to every start of the second.
-/

namespace SimPhonebook.EditDistance

/-- The rest of the row after one more character `c`, from the last entry found and the row before. -/
def fill (c : Char) : List Char → Nat → List Nat → List Nat
  | d :: ds, left, corner :: above :: row =>
    let here := min (min left above + 1) (if c = d then corner else corner + 1)
    here :: fill c ds here (above :: row)
  | _, _, _ => []

/-- The row after one more character. -/
def next (target : List Char) (row : List Nat) (c : Char) : List Nat :=
  let first := row.headD 0 + 1
  first :: fill c target first row

def distance (source target : List Char) : Nat :=
  (source.foldl (next target) (List.range (target.length + 1))).getLastD 0

end SimPhonebook.EditDistance
