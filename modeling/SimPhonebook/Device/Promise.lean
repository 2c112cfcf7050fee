/-!
# Promises

A result that is set once. Of several attempts to set it only the first has an effect, and each learns whether it was the
first.
-/

namespace SimPhonebook

structure Promise (ρ : Type) where
  result : Option ρ
deriving DecidableEq, Repr

namespace Promise

variable {ρ : Type}

def unresolved : Promise ρ := ⟨none⟩

def isResolved (p : Promise ρ) : Bool := p.result.isSome

/-- The promise with its result set, and whether this was what set it. -/
def resolve (p : Promise ρ) (r : ρ) : Promise ρ × Bool :=
  match p.result with
  | some _ => (p, false)
  | none => (⟨some r⟩, true)

end Promise

end SimPhonebook
