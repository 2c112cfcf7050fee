import SimPhonebook.InfoBuffer.Builder
import SimPhonebook.Message.Basic
import SimPhonebook.Phonebook.Entry

/-!
# Phonebook requests

The commands of the phonebook service. A read or delete names one entry by its index or all entries; a write stores an
entry at a free place or at a given index.
-/

namespace SimPhonebook.Phonebook

/-- Which entries a read or delete is about. -/
structure Scope where
  code : UInt32
deriving DecidableEq, Repr, Inhabited

namespace Scope

def all : Scope := ⟨0⟩

def index : Scope := ⟨1⟩

def name (s : Scope) : Text :=
  if s = all then "all" else if s = index then "index" else "unknown (" ++ Numeral.word s.code ++ ")"

end Scope

/-- Where a write stores its entry. -/
structure Placement where
  code : UInt32
deriving DecidableEq, Repr, Inhabited

namespace Placement

def unused : Placement := ⟨0⟩

def index : Placement := ⟨1⟩

def name (p : Placement) : Text :=
  if p = unused then "save-unused" else if p = index then "save-index"
  else "unknown (" ++ Numeral.word p.code ++ ")"

end Placement

/-- A command without a transaction ID yet. -/
def command (target : Target) (kind : CommandKind) (payload : Octets) : Message :=
  ⟨0, .command target kind payload⟩

/-- The size of the fixed area of a read or delete. -/
def filterSize : Nat := 8

/-- The size of the fixed area of a write. -/
def writeSize : Nat := 24

/-- The buffer of a read or delete; empty if it were not built. -/
def filterBuffer (scope : Scope) (index : UInt32) : Octets :=
  (InfoBuffer.build filterSize [.word scope.code, .word index]).toOption.getD []

def queryConfiguration : Message := command .phonebookConfiguration .query []

def queryEntries (scope : Scope) (index : UInt32) : Message :=
  command .phonebookRead .query (filterBuffer scope index)

def deleteEntries (scope : Scope) (index : UInt32) : Message :=
  command .phonebookDelete .set (filterBuffer scope index)

def writeEntry (placement : Placement) (index : UInt32) (number name : Text) :
    Except InfoBuffer.SizeMismatch Message := do
  let payload ← InfoBuffer.build writeSize [.word placement.code, .word index, .string number, .string name]
  return command .phonebookWrite .set payload

end SimPhonebook.Phonebook
