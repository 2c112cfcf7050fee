import SimPhonebook.Phonebook.Operation
import SimPhonebook.Proofs.BufferLayout

/-!
# What a device is asked

The request table (`Row`) gives for each action the command, its kind and the fields of its buffer. An action has a request
unless it takes its input from a text with the wrong number of commas; the request is a command of the phonebook service
from whose buffer a device reads the fields of the row (`Action.operation_conforms`). A text with one comma is cut there
into a name and a number, which change places on the wire.
-/

namespace SimPhonebook.Phonebook

open InfoBuffer

/-- The number of commas in a text. -/
def commas (t : Text) : Nat := t.octets.count 0x2C

theorem commas_append (a b : Text) : commas (a ++ b) = commas a + commas b := List.count_append

theorem commas_eq_zero_iff {t : Text} : commas t = 0 ↔ 0x2C ∉ t.octets := List.count_eq_zero

/-- A text with commas is cut at the first. -/
theorem exists_first_field {t : Text} {n : Nat} (h : commas t = n + 1) :
    ∃ field rest, commas field = 0 ∧ commas rest = n ∧ t = field ++ "," ++ rest := by
  have hmem : (0x2C : UInt8) ∈ t.octets := List.count_pos_iff.1 (by rw [← commas, h]; omega)
  obtain ⟨field, rest, hoctets, hfield⟩ := List.eq_append_cons_of_mem hmem
  have hfirst : commas ⟨field⟩ = 0 := commas_eq_zero_iff.2 hfield
  have ht : t = ⟨field⟩ ++ "," ++ ⟨rest⟩ := by
    rw [Text.append_assoc]
    exact congrArg Text.mk hoctets
  refine ⟨⟨field⟩, ⟨rest⟩, hfirst, ?_, ht⟩
  have hcomma : commas "," = 1 := by decide
  rw [ht, commas_append, commas_append, hfirst, hcomma] at h
  omega

theorem split_of_commas {t : Text} (h : commas t = 0) : t.split 0x2C = [t] := by
  rw [Text.split, Text.splitOctets_of_not_mem (commas_eq_zero_iff.1 h)]
  rfl

theorem split_field {field : Text} (h : commas field = 0) (rest : Text) :
    (field ++ "," ++ rest).split 0x2C = field :: rest.split 0x2C := by
  have hoctets : (field ++ "," ++ rest).octets = field.octets ++ 0x2C :: rest.octets := by
    rw [Text.append_assoc]
    rfl
  rw [Text.split, hoctets, Text.splitOctets_append_cons (commas_eq_zero_iff.1 h)]
  rfl

namespace EntryInput

theorem length_split (input : Text) : (input.split 0x2C).length = commas input + 1 := by
  rw [Text.split, List.length_map, Text.length_splitOctets, commas]

theorem parse_of_few {input : Text} {count : Int} (h : (commas input : Int) + 1 < count) :
    parse input count = .error .missingArguments := by
  have hlength := length_split input
  rw [parse, if_neg (by omega), if_pos (by omega)]

theorem parse_of_many {input : Text} {count : Int} (h : count < (commas input : Int) + 1) :
    parse input count = .error .tooManyArguments := by
  have hlength := length_split input
  rw [parse, if_pos (by omega)]

section
variable {name number index : Text} (hname : commas name = 0) (hnumber : commas number = 0)
include hname hnumber

theorem parse_two : parse (name ++ "," ++ number) 2 = .ok ⟨name, number, Text.empty⟩ := by
  simp [parse, split_field hname, split_of_commas hnumber]

theorem parse_three (hindex : commas index = 0) :
    parse (name ++ "," ++ number ++ "," ++ index) 3 = .ok ⟨name, number, index⟩ := by
  have hinput : name ++ "," ++ number ++ "," ++ index = name ++ "," ++ (number ++ "," ++ index) := by
    simp only [Text.append_assoc]
  simp [hinput, parse, split_field hname, split_field hnumber, split_of_commas hindex]

end

end EntryInput

/-! ## The request table -/

/-- The request table: the command, its kind and the fields that an action comes to. -/
inductive Row : Action → Target → CommandKind → List Field → Prop
  | configuration : Row .queryConfiguration ⟨.phonebook, 1⟩ .query []
  | read (i : Int32) : Row (.read i) ⟨.phonebook, 2⟩ .query [.word 1, .word (UInt32.ofInt i.toInt)]
  | readAll : Row .readAll ⟨.phonebook, 2⟩ .query [.word 0, .word 0]
  | delete (i : Int32) : Row (.delete i) ⟨.phonebook, 3⟩ .set [.word 1, .word (UInt32.ofInt i.toInt)]
  | deleteAll : Row .deleteAll ⟨.phonebook, 3⟩ .set [.word 0, .word 0]
  | write (name number : Text) (hname : commas name = 0) (hnumber : commas number = 0) :
    Row (.write (name ++ "," ++ number)) ⟨.phonebook, 4⟩ .set [.word 0, .word 0, .string number, .string name]
  | update (name number index : Text) (hname : commas name = 0) (hnumber : commas number = 0)
      (hindex : commas index = 0) :
    Row (.update (name ++ "," ++ number ++ "," ++ index)) ⟨.phonebook, 4⟩ .set
      [.word 1, .word (UInt32.ofInt (leadingInteger index).toInt), .string number, .string name]

/-- The message is the command of the action's row, and a device reads the fields of the row from its buffer. -/
def Asks (a : Action) (m : Message) : Prop :=
  ∃ target kind fields payload, Row a target kind fields ∧ m = ⟨0, .command target kind payload⟩ ∧
    build (fixedSize fields) fields = .ok payload ∧ (fields = [] → payload = []) ∧
    (payload.length < 2 ^ 32 → Reader.Finds ⟨payload, 0⟩ 0 fields)

theorem Row.asks {a : Action} {target : Target} {kind : CommandKind} {fields : List Field}
    (h : Row a target kind fields) : Asks a (command target kind (layout fields)) := by
  refine ⟨target, kind, fields, layout fields, h, rfl, build_eq_ok rfl, ?_, fun hshort => ?_⟩
  · rintro rfl
    rfl
  · simpa using Reader.finds_layout [] [] hshort

theorem filterBuffer_eq (scope : Scope) (index : UInt32) :
    filterBuffer scope index = layout [.word scope.code, .word index] := by
  rw [filterBuffer, build_eq_ok (by rfl)]
  rfl

theorem writeEntry_eq (placement : Placement) (index : UInt32) (number name : Text) :
    writeEntry placement index number name =
      .ok (command .phonebookWrite .set
        (layout [.word placement.code, .word index, .string number, .string name])) := by
  rw [writeEntry, build_eq_ok (by rfl)]
  rfl

theorem wordOfIndex_eq (i : Int32) : wordOfIndex i = UInt32.ofInt i.toInt := by
  have hlt : i.toBitVec.toNat < 2 ^ 32 := i.toBitVec.isLt
  have h : i.toInt % 2 ^ 32 = i.toBitVec.toNat := by
    rw [Int32.toInt, BitVec.toInt_eq_toNat_cond]
    split <;> omega
  rw [wordOfIndex, UInt32.ofInt, h]
  exact (UInt32.ofNat_toNat (x := i.toUInt32)).symm

/-! ## The requests of the actions -/

/-- How many commas the input of an action must have, if the action has an input. -/
def Action.commasWanted? : Action → Option Nat
  | .write _ => some 1
  | .update _ => some 2
  | _ => Option.none

/-- What a request has to be for its action. -/
structure Conforms (a : Action) (request : Except RequestError Message) : Prop where
  built_iff : (∃ m, request = .ok m) ↔ ∀ n, a.commasWanted? = some n → commas a.input = n
  few : ∀ n, a.commasWanted? = some n → commas a.input < n → request = .error (.input .missingArguments)
  many : ∀ n, a.commasWanted? = some n → n < commas a.input → request = .error (.input .tooManyArguments)
  asks : ∀ m, request = .ok m → Asks a m

/-- An action without an input. -/
theorem Row.conforms {a : Action} {target : Target} {kind : CommandKind} {fields : List Field}
    (h : Row a target kind fields) (hwanted : a.commasWanted? = Option.none) :
    Conforms a (.ok (command target kind (layout fields))) where
  built_iff := by simp [hwanted]
  few := by simp [hwanted]
  many := by simp [hwanted]
  asks := by
    rintro m ⟨⟩
    exact h.asks

/-- An action with an input. -/
theorem conforms_of_input {a : Action} {request : Except RequestError Message} {n : Nat}
    (hwanted : a.commasWanted? = some n)
    (hfew : commas a.input < n → request = .error (.input .missingArguments))
    (hmany : n < commas a.input → request = .error (.input .tooManyArguments))
    (hasks : commas a.input = n → ∃ m, request = .ok m ∧ Asks a m) : Conforms a request := by
  have hn {n' : Nat} (h : a.commasWanted? = some n') : n' = n := Option.some.inj (h.symm.trans hwanted)
  have hcommas {m : Message} (hm : request = .ok m) : commas a.input = n := by
    rcases Nat.lt_trichotomy (commas a.input) n with h | h | h
    · rw [hfew h] at hm
      cases hm
    · exact h
    · rw [hmany h] at hm
      cases hm
  refine ⟨⟨?_, fun h => ?_⟩, ?_, ?_, fun m hm => ?_⟩
  · rintro ⟨m, hm⟩ n' hn'
    rw [hn hn', hcommas hm]
  · obtain ⟨m, hm, -⟩ := hasks (h n hwanted)
    exact ⟨m, hm⟩
  · intro n' hn' h
    exact hfew (hn hn' ▸ h)
  · intro n' hn' h
    exact hmany (hn hn' ▸ h)
  · obtain ⟨m', hm', h⟩ := hasks (hcommas hm)
    cases hm'.symm.trans hm
    exact h

theorem conforms_write (input : Text) : Conforms (.write input) (writeRequest input) := by
  refine conforms_of_input rfl (fun h => ?_) (fun h => ?_) (fun h => ?_)
  · have hfew : commas input < 1 := h
    rw [writeRequest, EntryInput.parse_of_few (by omega)]
    rfl
  · have hmany : 1 < commas input := h
    rw [writeRequest, EntryInput.parse_of_many (by omega)]
    rfl
  · obtain ⟨name, number, hname, hnumber, rfl⟩ := exists_first_field h
    refine ⟨_, ?_, (Row.write name number hname hnumber).asks⟩
    simp only [writeRequest, EntryInput.parse_two hname hnumber, writeEntry_eq]
    rfl

theorem conforms_update (input : Text) : Conforms (.update input) (updateRequest input) := by
  refine conforms_of_input rfl (fun h => ?_) (fun h => ?_) (fun h => ?_)
  · have hfew : commas input < 2 := h
    rw [updateRequest, EntryInput.parse_of_few (by omega)]
    rfl
  · have hmany : 2 < commas input := h
    rw [updateRequest, EntryInput.parse_of_many (by omega)]
    rfl
  · obtain ⟨name, rest, hname, hrest, rfl⟩ := exists_first_field h
    obtain ⟨number, index, hnumber, hindex, rfl⟩ := exists_first_field hrest
    have hinput : name ++ "," ++ (number ++ "," ++ index) = name ++ "," ++ number ++ "," ++ index := by
      simp only [Text.append_assoc]
    rw [hinput]
    refine ⟨_, ?_, (Row.update name number index hname hnumber hindex).asks⟩
    simp only [updateRequest, EntryInput.parse_three hname hnumber hindex, ← wordOfIndex_eq]
    exact congrArg (Except.mapError RequestError.notBuilt) (writeEntry_eq ..)

theorem queryEntries_eq (scope : Scope) (index : UInt32) :
    queryEntries scope index = command .phonebookRead .query (layout [.word scope.code, .word index]) := by
  rw [queryEntries, filterBuffer_eq]

theorem deleteEntries_eq (scope : Scope) (index : UInt32) :
    deleteEntries scope index = command .phonebookDelete .set (layout [.word scope.code, .word index]) := by
  rw [deleteEntries, filterBuffer_eq]

theorem conforms_of_operation {a : Action} {op : Operation} (h : a.operation? = some op) : Conforms a op.request := by
  cases a with
  | none => cases h
  | queryConfiguration =>
    cases h
    exact Row.configuration.conforms rfl
  | read i =>
    cases h
    rw [queryEntries_eq, wordOfIndex_eq]
    exact (Row.read i).conforms rfl
  | readAll =>
    cases h
    rw [queryEntries_eq]
    exact Row.readAll.conforms rfl
  | write input =>
    cases h
    exact conforms_write input
  | update input =>
    cases h
    exact conforms_update input
  | delete i =>
    cases h
    rw [deleteEntries_eq, wordOfIndex_eq]
    exact (Row.delete i).conforms rfl
  | deleteAll =>
    cases h
    rw [deleteEntries_eq]
    exact Row.deleteAll.conforms rfl
  | unassigned n => cases h

theorem operation?_isSome (a : Action) : a.operation?.isSome = true ↔ a ≠ .none ∧ ∀ n, a ≠ .unassigned n := by
  cases a <;> simp [Action.operation?]

/-- **Every action comes to the request of its row in the request table**, from which a device reads the fields of the row.
Only an input with the wrong number of commas has no request. -/
theorem Action.operation_conforms (a : Action) (hnone : a ≠ .none) (hassigned : ∀ n, a ≠ .unassigned n) :
    ∃ op, a.operation? = some op ∧ Conforms a op.request := by
  obtain ⟨op, hop⟩ := Option.isSome_iff_exists.1 ((operation?_isSome a).2 ⟨hnone, hassigned⟩)
  exact ⟨op, hop, conforms_of_operation hop⟩

/-- An update whose number has spaces and whose index is negative and goes on after its digits. -/
def spacedUpdate : Action := .update "Zoë, 12 ,-6x"

/-- It is asked of the device; a write of the same input is not. -/
theorem spacedUpdate_asked :
    (∃ op m, spacedUpdate.operation? = some op ∧ op.request = .ok m ∧ Asks spacedUpdate m) ∧
    ∃ op, (Action.write spacedUpdate.input).operation? = some op ∧
      op.request = .error (.input .tooManyArguments) := by
  constructor
  · obtain ⟨op, hop, h⟩ := Action.operation_conforms spacedUpdate (by decide) (fun n => by simp [spacedUpdate])
    obtain ⟨m, hm⟩ := h.built_iff.2 fun n hn => by
      cases hn
      decide +kernel
    exact ⟨op, m, hop, hm, h.asks m hm⟩
  · obtain ⟨op, hop, h⟩ := Action.operation_conforms (.write spacedUpdate.input) (by decide) (fun n => by simp)
    exact ⟨op, hop, h.many 1 rfl (by decide +kernel)⟩

end SimPhonebook.Phonebook
