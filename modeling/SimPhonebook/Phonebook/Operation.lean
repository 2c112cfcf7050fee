import SimPhonebook.Log
import SimPhonebook.Phonebook.Action
import SimPhonebook.Phonebook.EntryInput
import SimPhonebook.Phonebook.Report
import SimPhonebook.Phonebook.Request
import SimPhonebook.Phonebook.Response

/-!
# Operations

An `Operation` is what an action comes to: the request that is sent, and how its answer is read and shown. Input given for
an entry names the name first; on the wire the number comes first.
-/

namespace SimPhonebook.Phonebook

/-- Why an action has no request. -/
inductive RequestError where
  | input (cause : InputError)
  | notBuilt (cause : InfoBuffer.SizeMismatch)
deriving DecidableEq, Repr

instance : Described RequestError where
  message
    | .input e => message e
    | .notBuilt e => "building phonebook write: " ++ message e

structure Operation where
  label : Text
  target : Target
  request : Except RequestError Message
  /-- Diagnostics about the input. -/
  remarks : List Log.Record
  /-- What is printed about the answer, with or without color. -/
  complete : Bool → Option Message → Except ResponseError Text

/-- The unsigned word of the same bits. -/
def wordOfIndex (index : Int32) : UInt32 := index.toUInt32

def writeRequest (input : Text) : Except RequestError Message := do
  let e ← (EntryInput.parse input 2).mapError .input
  (writeEntry .unused 0 e.number e.name).mapError .notBuilt

def updateRequest (input : Text) : Except RequestError Message := do
  let e ← (EntryInput.parse input 3).mapError .input
  (writeEntry .index (wordOfIndex (leadingInteger e.index)) e.number e.name).mapError .notBuilt

/-- An index that is not the plain text of the integer it is read as is worth a remark. -/
def updateRemarks (input : Text) : List Log.Record :=
  match EntryInput.parse input 3 with
  | .error _ => []
  | .ok e =>
    let index := (leadingInteger e.index).toInt
    if Numeral.integer index = e.index then []
    else [Log.debug "entry index is not a plain integer" [("input", .text e.index), ("index", .integer index)]]

def showConfiguration (color : Bool) (answer : Option Message) : Except ResponseError Text :=
  (decodeConfiguration answer).map (Report.configuration color)

def showEntries (color : Bool) (answer : Option Message) : Except ResponseError Text :=
  (decodeEntries answer).map (Report.entries color)

def showDeleted (color : Bool) (answer : Option Message) : Except ResponseError Text :=
  (checkDeleted answer).map fun _ => Report.deleted color

def showWritten (color : Bool) (answer : Option Message) : Except ResponseError Text :=
  (checkWritten answer).map fun _ => Report.written color

/-- The operation of an action, if it has one. -/
def Action.operation? : Action → Option Operation
  | .queryConfiguration =>
    some ⟨"Querying phonebook configuration", .phonebookConfiguration, .ok Phonebook.queryConfiguration, [],
      showConfiguration⟩
  | .read index =>
    some ⟨"Reading phonebook entry", .phonebookRead, .ok (queryEntries .index (wordOfIndex index)), [], showEntries⟩
  | .readAll => some ⟨"Reading phonebook entries", .phonebookRead, .ok (queryEntries .all 0), [], showEntries⟩
  | .delete index =>
    some ⟨"Deleting phonebook entry", .phonebookDelete, .ok (deleteEntries .index (wordOfIndex index)), [], showDeleted⟩
  | .deleteAll => some ⟨"Deleting phonebook entries", .phonebookDelete, .ok (deleteEntries .all 0), [], showDeleted⟩
  | .write input => some ⟨"Writing phonebook entry", .phonebookWrite, writeRequest input, [], showWritten⟩
  | .update input =>
    some ⟨"Updating phonebook entry", .phonebookWrite, updateRequest input, updateRemarks input, showWritten⟩
  | .none | .unassigned _ => Option.none

end SimPhonebook.Phonebook
