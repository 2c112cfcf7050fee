import SimPhonebook.InfoBuffer.Builder
import SimPhonebook.InfoBuffer.Reader
import SimPhonebook.Message.Basic
import SimPhonebook.Phonebook.Entry

/-!
# Phonebook answers

Reading the answers of the phonebook service, and writing them the way a device does.

The answer to a read is the number of entries, then an offset and a size for each, then the entries. An entry is its
index, its number and its name; the offsets of its strings count from the start of the entry.
-/

namespace SimPhonebook.Phonebook

/-- Why a message is not the answer that was waited for. -/
inductive ResponseError where
  | noMessage
  | wrongType (type : MessageType)
  | wrongTarget (got wanted : Target)
  | failed (failure : DeviceFailure)
  | shortConfiguration (length : Nat)
  | noCount (error : InfoBuffer.ReadError)
  | countExceeds (count : UInt32) (length : Nat)
  | entryExceeds (entry : Nat) (offset size : UInt32)
  | badIndex (entry : Nat) (error : InfoBuffer.ReadError)
  | badNumber (entry : Nat) (error : InfoBuffer.ReadError)
  | badName (entry : Nat) (error : InfoBuffer.ReadError)
deriving DecidableEq, Repr

/-- A target as service and command. -/
def targetText (t : Target) : Text := t.service.name ++ "/" ++ t.commandName

def configurationSize : Nat := 20

def entrySize : Nat := 20

instance : Described ResponseError where
  message
    | .noMessage => "unexpected response message: no message"
    | .wrongType t => "unexpected response message: type " ++ t.name
    | .wrongTarget got wanted =>
      "unexpected response message: " ++ targetText got ++ ", want " ++ targetText wanted
    | .failed f => message f
    | .shortConfiguration n =>
      s!"information buffer too short: configuration needs {configurationSize} bytes, have {n}"
    | .noCount e => "reading entry count: " ++ message e
    | .countExceeds count n =>
      s!"information buffer too short: {count.toNat} entries do not fit in {n} bytes"
    | .entryExceeds i offset size =>
      s!"information buffer too short: entry {i} at {offset.toNat}+{size.toNat}"
    | .badIndex i e => s!"entry {i}: " ++ message e
    | .badNumber i e => s!"entry {i} number: " ++ message e
    | .badName i e => s!"entry {i} name: " ++ message e

/-! ## Reading -/

/-- The payload of a successful answer to a command for `target`. -/
def payloadOf (target : Target) : Option Message → Except ResponseError Octets
  | none => .error .noMessage
  | some m =>
    match m.body with
    | .commandDone got status payload =>
      if got ≠ target then .error (.wrongTarget got target)
      else if !status.isSuccess then .error (.failed (.status status))
      else .ok payload
    | body => .error (.wrongType body.type)

def decodeConfiguration (m : Option Message) : Except ResponseError Configuration := do
  let payload ← payloadOf .phonebookConfiguration m
  if payload.length < configurationSize then throw (.shortConfiguration payload.length)
  let field (i : Nat) : UInt32 := payload.wordAt (4 * i)
  return ⟨⟨field 0⟩, field 1, field 2, field 3, field 4⟩

/-- The entry that starts where the reader stands, the `i`-th of its answer. -/
def entryAt (r : InfoBuffer.Reader) (i : Nat) : Except ResponseError Entry := do
  let index ← (r.word 0).mapError (.badIndex i)
  let number ← (r.string 4).mapError (.badNumber i)
  let name ← (r.string 12).mapError (.badName i)
  return ⟨index, number, name⟩

/-- The `i`-th entry of the answer to a read. -/
def decodeEntry (payload : Octets) (i : Nat) : Except ResponseError Entry :=
  let offset := payload.wordAt (4 + 8 * i)
  let size := payload.wordAt (8 + 8 * i)
  if size.toNat < entrySize ∨ offset.toNat + size.toNat > payload.length then
    .error (.entryExceeds i offset size)
  else entryAt ⟨payload, offset.toNat⟩ i

def decodeEntries (m : Option Message) : Except ResponseError (List Entry) := do
  let payload ← payloadOf .phonebookRead m
  let count ← (InfoBuffer.Reader.word ⟨payload, 0⟩ 0).mapError .noCount
  if count.toNat * 8 + 4 > payload.length then throw (.countExceeds count payload.length)
  (List.range count.toNat).mapM (decodeEntry payload)

def checkDeleted (m : Option Message) : Except ResponseError Unit := do
  let _ ← payloadOf .phonebookDelete m

def checkWritten (m : Option Message) : Except ResponseError Unit := do
  let _ ← payloadOf .phonebookWrite m

/-! ## Writing -/

/-- The buffer of a configuration; empty if it were not built. -/
def encodeConfiguration (c : Configuration) : Octets :=
  (InfoBuffer.build configurationSize [.word c.readiness.code, .word c.totalEntries, .word c.usedEntries,
    .word c.maxNumberLength, .word c.maxNameLength]).toOption.getD []

def encodeEntry (e : Entry) : Except InfoBuffer.SizeMismatch Octets :=
  InfoBuffer.build entrySize [.word e.index, .string e.number, .string e.name]

/-- The offset and the size of each structure, the first at `start`. -/
def entryTable (start : Nat) : List Octets → List InfoBuffer.Field
  | [] => []
  | s :: rest => .word (UInt32.ofNat start) :: .word (UInt32.ofNat s.length) :: entryTable (start + s.length) rest

def encodeEntries (entries : List Entry) : Except InfoBuffer.SizeMismatch Octets := do
  let structures ← entries.mapM encodeEntry
  let start := 4 + 8 * entries.length
  let head ← InfoBuffer.build start (.word (UInt32.ofNat entries.length) :: entryTable start structures)
  return head ++ structures.flatten

end SimPhonebook.Phonebook
