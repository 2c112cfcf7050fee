import SimPhonebook.Text.Numeral

/-!
# The phonebook of a SIM

What a device tells about its phonebook (`Configuration`) and the records it holds (`Entry`).
-/

namespace SimPhonebook.Phonebook

/-- Whether the phonebook can be used yet. -/
structure Readiness where
  code : UInt32
deriving DecidableEq, Repr, Inhabited

/-- The label of a defined code. -/
def Readiness.name? (r : Readiness) : Option Text :=
  if r.code = 0 then some "not-initialized" else if r.code = 1 then some "initialized" else none

structure Configuration where
  readiness : Readiness
  totalEntries : UInt32
  usedEntries : UInt32
  maxNumberLength : UInt32
  maxNameLength : UInt32
deriving DecidableEq, Repr, Inhabited

/-- A record of the phonebook. -/
structure Entry where
  index : UInt32
  number : Text
  name : Text
deriving DecidableEq, Repr, Inhabited

/-- The entry as a reader of its text sees it. -/
def Entry.repair (e : Entry) : Entry := ⟨e.index, e.number.repair, e.name.repair⟩

end SimPhonebook.Phonebook
