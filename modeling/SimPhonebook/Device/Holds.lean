/-!
# Holds

Users of a device hold it while they work. A hold is released once: releasing it again changes nothing. The number of
holders is a counter that taking a hold raises and a release that counts lowers.
-/

namespace SimPhonebook

abbrev HoldId := Nat

structure Holds where
  /-- How many holds are unreleased. -/
  holders : Int32
  /-- For each hold ever taken, whether it has been released. -/
  released : List Bool
deriving DecidableEq, Repr

namespace Holds

def none : Holds := ⟨0, []⟩

instance : Inhabited Holds := ⟨none⟩

def take (h : Holds) : Holds × HoldId := (⟨h.holders + 1, h.released ++ [false]⟩, h.released.length)

def release (h : Holds) (id : HoldId) : Holds :=
  if h.released[id]? = some false then ⟨h.holders - 1, h.released.set id true⟩ else h

end Holds

end SimPhonebook
