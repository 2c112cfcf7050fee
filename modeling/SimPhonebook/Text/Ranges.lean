/-!
# Ranges of characters

A class of characters given by a standard is a list of ranges of code points, both ends included, in rising order.
-/

namespace SimPhonebook

abbrev Ranges := List (Nat × Nat)

/-- Whether a code point lies in one of the ranges. -/
def Ranges.contains (r : Ranges) (n : Nat) : Bool := r.any fun (lo, hi) => lo ≤ n && n ≤ hi

end SimPhonebook
