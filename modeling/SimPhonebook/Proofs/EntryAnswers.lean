import SimPhonebook.Message.Codec
import SimPhonebook.Phonebook.Response
import SimPhonebook.Proofs.BufferLayout
import SimPhonebook.Proofs.Utf8Text

/-!
# Answers to a read

The entries written into the answer to a read are the entries read from it, in their order, with the stray octets of their
texts repaired (`decodeEntries_encodeEntries`). The table gives the place of each entry: the head of the answer and the
entries before it. From there its index and its two strings are read as from a buffer that starts there.
-/

namespace SimPhonebook.Phonebook

open Octets InfoBuffer

/-! ## One entry -/

/-- The fields of an entry in the order in which they are written. -/
def Entry.fields (e : Entry) : List Field := [.word e.index, .string e.number, .string e.name]

theorem encodeEntry_eq (e : Entry) : encodeEntry e = .ok (layout e.fields) := build_eq_ok rfl

theorem entrySize_le_length (e : Entry) : entrySize ≤ (layout e.fields).length := by
  have hfixed : fixedSize e.fields = entrySize := rfl
  rw [length_layout, hfixed]
  omega

theorem mapError_ok {ε ε' α : Type} (f : ε → ε') (a : α) : (Except.ok a).mapError f = .ok a := rfl

/-- An entry is read back wherever its octets stand. -/
theorem entryAt_layout (front back : Octets) (e : Entry) (i : Nat) (hshort : (layout e.fields).length < 2 ^ 32) :
    entryAt ⟨front ++ (layout e.fields ++ back), front.length⟩ i = .ok e.repair := by
  obtain ⟨hindex, hnumber, hname, -⟩ := Reader.finds_layout front back hshort
  simp only [Nat.zero_add, Nat.reduceAdd, Int.cast_ofNat_Int] at hindex hnumber hname
  simp [entryAt, hindex, hnumber, hname, mapError_ok, bind, Except.bind, pure, Except.pure, Entry.repair]

/-! ## The table -/

theorem fixedSize_entryTable (start : Nat) (structures : List Octets) :
    fixedSize (entryTable start structures) = 8 * structures.length := by
  induction structures generalizing start with
  | nil => rfl
  | cons s structures ih =>
    simp only [entryTable, fixedSize, Field.fixedSize, ih, List.length_cons]
    omega

theorem dataArea_entryTable (start : Nat) (structures : List Octets) : dataArea (entryTable start structures) = [] := by
  induction structures generalizing start with
  | nil => rfl
  | cons s structures ih => simp [entryTable, Field.data, ih]

theorem entryTable_append (start : Nat) (xs ys : List Octets) :
    entryTable start (xs ++ ys) = entryTable start xs ++ entryTable (start + xs.flatten.length) ys := by
  induction xs generalizing start with
  | nil => rfl
  | cons x xs ih => simp [entryTable, ih, Nat.add_assoc]

/-- The fields of the head: the number of structures, and the table. -/
def headFields (structures : List Octets) : List Field :=
  .word (UInt32.ofNat structures.length) :: entryTable (4 + 8 * structures.length) structures

theorem fixedSize_headFields (structures : List Octets) : fixedSize (headFields structures) = 4 + 8 * structures.length := by
  rw [headFields, fixedSize, Field.fixedSize, fixedSize_entryTable]

/-- The head, and the structures behind it. -/
def withTable (structures : List Octets) : Octets := layout (headFields structures) ++ structures.flatten

theorem length_withTable (structures : List Octets) :
    (withTable structures).length = 4 + 8 * structures.length + structures.flatten.length := by
  have hdata : dataArea (headFields structures) = [] := by simp [headFields, Field.data, dataArea_entryTable]
  rw [withTable, List.length_append, length_layout, fixedSize_headFields, hdata, List.length_nil, Nat.add_zero]

theorem word_withTable_count (structures : List Octets) :
    Reader.word ⟨withTable structures, 0⟩ 0 = .ok (UInt32.ofNat structures.length) :=
  Reader.word_layout [] structures.flatten [] rfl

section
variable {structures before after : List Octets} {s : Octets} (h : structures = before ++ s :: after)

/-- Where the structure behind the structures `before` stands. -/
def placeBehind (count : Nat) (before : List Octets) : Nat := 4 + 8 * count + before.flatten.length

include h

theorem headFields_eq :
    headFields structures =
      (.word (UInt32.ofNat structures.length) :: entryTable (4 + 8 * structures.length) before) ++
        .word (UInt32.ofNat (placeBehind structures.length before)) :: .word (UInt32.ofNat s.length) ::
          entryTable (placeBehind structures.length before + s.length) after := by
  rw [headFields]
  generalize structures.length = count
  rw [h, entryTable_append]
  rfl

/-- The offset of a structure in the table. -/
theorem wordAt_withTable_offset :
    wordAt (withTable structures) (4 + 8 * before.length) = UInt32.ofNat (placeBehind structures.length before) := by
  have hfixed : fixedSize (.word (UInt32.ofNat structures.length) :: entryTable (4 + 8 * structures.length) before) =
      4 + 8 * before.length := by
    rw [fixedSize, Field.fixedSize, fixedSize_entryTable]
  rw [← hfixed]
  exact Reader.wordAt_layout _ _ (headFields_eq h)

/-- The size of a structure in the table. -/
theorem wordAt_withTable_size :
    wordAt (withTable structures) (8 + 8 * before.length) = UInt32.ofNat s.length := by
  have hfixed : fixedSize ((.word (UInt32.ofNat structures.length) ::
      entryTable (4 + 8 * structures.length) before) ++ [.word (UInt32.ofNat (placeBehind structures.length before))]) =
        8 + 8 * before.length := by
    rw [fixedSize_append, fixedSize, Field.fixedSize, fixedSize_entryTable]
    simp only [fixedSize, Field.fixedSize]
    omega
  rw [← hfixed]
  exact Reader.wordAt_layout _ _ ((headFields_eq h).trans (List.append_assoc _ [_] (_ :: _)).symm)

/-- A structure stands where the table says. -/
theorem withTable_eq :
    ∃ front, front.length = placeBehind structures.length before ∧
      withTable structures = front ++ (s ++ after.flatten) := by
  refine ⟨layout (headFields structures) ++ before.flatten, ?_, ?_⟩
  · have := length_withTable structures
    rw [withTable, List.length_append] at this
    rw [List.length_append, placeBehind]
    omega
  · rw [withTable, List.append_assoc]
    congr 1
    rw [h]
    simp

end

/-! ## The whole answer -/

/-- The octets of the entries, each on its own. -/
def structuresOf (entries : List Entry) : List Octets := entries.map fun e => layout e.fields

@[simp] theorem length_structuresOf (entries : List Entry) : (structuresOf entries).length = entries.length :=
  List.length_map _

theorem encodeEntries_eq (entries : List Entry) : encodeEntries entries = .ok (withTable (structuresOf entries)) := by
  have hstructures : entries.mapM encodeEntry = .ok (structuresOf entries) := by
    rw [show encodeEntry = fun e => pure (layout e.fields) from funext encodeEntry_eq, List.mapM_pure]
    rfl
  have hhead : build (4 + 8 * entries.length)
      (.word (UInt32.ofNat entries.length) :: entryTable (4 + 8 * entries.length) (structuresOf entries)) =
        .ok (layout (headFields (structuresOf entries))) := by
    rw [headFields, length_structuresOf]
    exact build_eq_ok (by rw [fixedSize, Field.fixedSize, fixedSize_entryTable, length_structuresOf])
  simp only [encodeEntries, hstructures, bind, Except.bind, hhead, pure, Except.pure, withTable]

/-- **Each entry is read back from its place in the answer.** -/
theorem decodeEntry_withTable {entries before after : List Entry} {e : Entry} (h : entries = before ++ e :: after)
    (hshort : (withTable (structuresOf entries)).length < 2 ^ 32) :
    decodeEntry (withTable (structuresOf entries)) before.length = .ok e.repair := by
  have hsplit : structuresOf entries = structuresOf before ++ layout e.fields :: structuresOf after := by
    rw [h]
    simp [structuresOf]
  have hoffset := wordAt_withTable_offset hsplit
  have hsize := wordAt_withTable_size hsplit
  obtain ⟨front, hfront, hpayload⟩ := withTable_eq hsplit
  have hlength := congrArg List.length hpayload
  rw [List.length_append, List.length_append] at hlength
  have hentry := entrySize_le_length e
  rw [length_structuresOf before, ← hfront] at hoffset
  rw [length_structuresOf before] at hsize
  simp only [decodeEntry, hoffset, hsize]
  rw [toNat_ofNat_of_lt (by omega), toNat_ofNat_of_lt (by omega), if_neg (by omega), hpayload]
  exact entryAt_layout front _ e _ (by omega)

theorem exists_split_of_getElem? {α : Type} {l : List α} {i : Nat} {a : α} (h : l[i]? = some a) :
    ∃ before after, l = before ++ a :: after ∧ before.length = i := by
  obtain ⟨hi, rfl⟩ := List.getElem?_eq_some_iff.1 h
  refine ⟨l.take i, l.drop (i + 1), ?_, List.length_take_of_le (Nat.le_of_lt hi)⟩
  rw [← List.drop_eq_getElem_cons hi, List.take_append_drop]

theorem mapM_range'_eq_ok {ε β : Type} {f : Nat → Except ε β} (l : List β) (k : Nat)
    (h : ∀ i b, l[i]? = some b → f (k + i) = .ok b) : (List.range' k l.length).mapM f = .ok l := by
  induction l generalizing k with
  | nil => rfl
  | cons b l ih =>
    have hhead : f k = .ok b := h 0 b rfl
    have htail := ih (k + 1) fun i b' hb => by
      rw [Nat.add_assoc, Nat.add_comm 1 i]
      exact h (i + 1) b' hb
    rw [List.length_cons, List.range'_succ, List.mapM_cons, hhead]
    simp [htail, bind, Except.bind, pure, Except.pure]

theorem mapM_decodeEntry (entries : List Entry) (hshort : (withTable (structuresOf entries)).length < 2 ^ 32) :
    (List.range entries.length).mapM (decodeEntry (withTable (structuresOf entries))) =
      .ok (entries.map Entry.repair) := by
  have h := mapM_range'_eq_ok (f := decodeEntry (withTable (structuresOf entries))) (entries.map Entry.repair) 0 (by
    intro i b hb
    rw [List.getElem?_map] at hb
    obtain ⟨e, he, rfl⟩ := Option.map_eq_some_iff.1 hb
    obtain ⟨before, after, hsplit, rfl⟩ := exists_split_of_getElem? he
    rw [Nat.zero_add]
    exact decodeEntry_withTable hsplit hshort)
  rwa [List.length_map, ← List.range_eq_range'] at h

theorem map_repair_of_isValid {entries : List Entry}
    (h : ∀ e ∈ entries, e.number.isValid = true ∧ e.name.isValid = true) : entries.map Entry.repair = entries := by
  refine (List.map_congr_left fun e he => ?_).trans (List.map_id entries)
  obtain ⟨hnumber, hname⟩ := h e he
  rw [Entry.repair, Text.repair_of_isValid hnumber, Text.repair_of_isValid hname]
  rfl

/-- **The entries of an answer are read back as they were written**: the list in its order, each text with U+FFFD in place
of its stray octets, and so the very list if the texts have none. -/
theorem decodeEntries_encodeEntries (entries : List Entry) :
    ∃ payload, encodeEntries entries = .ok payload ∧
      (payload.length < 2 ^ 32 - MessageType.commandDone.fixedSize → ∀ transaction : UInt32,
        decodeEntries (some ⟨transaction, .commandDone .phonebookRead .success payload⟩) =
          .ok (entries.map Entry.repair) ∧
        ((∀ e ∈ entries, e.number.isValid = true ∧ e.name.isValid = true) →
          decodeEntries (some ⟨transaction, .commandDone .phonebookRead .success payload⟩) = .ok entries)) := by
  refine ⟨withTable (structuresOf entries), encodeEntries_eq entries, fun hshort transaction => ?_⟩
  have hlength := length_withTable (structuresOf entries)
  rw [length_structuresOf] at hlength
  have hcount : (UInt32.ofNat entries.length).toNat = entries.length := toNat_ofNat_of_lt (by omega)
  have hread : decodeEntries (some ⟨transaction, .commandDone .phonebookRead .success (withTable (structuresOf entries))⟩) =
      .ok (entries.map Entry.repair) := by
    have hpayload : payloadOf .phonebookRead
        (some ⟨transaction, .commandDone .phonebookRead .success (withTable (structuresOf entries))⟩) =
          .ok (withTable (structuresOf entries)) := by
      simp [payloadOf, Status.isSuccess, Status.success]
    have hword := word_withTable_count (structuresOf entries)
    rw [length_structuresOf] at hword
    have hfit : ¬entries.length * 8 + 4 > (withTable (structuresOf entries)).length := by omega
    simp only [decodeEntries, hpayload, hword, mapError_ok, bind, Except.bind, hcount, if_neg hfit]
    exact mapM_decodeEntry entries (by omega)
  refine ⟨hread, fun hvalid => ?_⟩
  rw [hread, map_repair_of_isValid hvalid]

/-- Entries with an empty text, a character beyond the sixteen-bit ones, and one index twice. -/
def unusualEntries : List Entry := [⟨0, "+1", ""⟩, ⟨4294967295, "", "𝄞é"⟩, ⟨0, "5", "x"⟩]

/-- An entry whose number ends in an octet of no character. -/
def strayEntry : Entry := ⟨1, ⟨[0x31, 0xFF]⟩, "a"⟩

theorem unusualEntries_readBack :
    (∃ payload, encodeEntries unusualEntries = .ok payload ∧ payload.length = 108 ∧
      decodeEntries (some ⟨2, .commandDone .phonebookRead .success payload⟩) = .ok unusualEntries) ∧
    ∃ payload, encodeEntries [strayEntry] = .ok payload ∧ payload.length = 40 ∧
      decodeEntries (some ⟨2, .commandDone .phonebookRead .success payload⟩) = .ok [⟨1, "1\uFFFD", "a"⟩] := by
  constructor
  · obtain ⟨payload, hencode, hread⟩ := decodeEntries_encodeEntries unusualEntries
    have hlength : payload.length = 108 := by
      have h : (encodeEntries unusualEntries).toOption.elim 0 List.length = 108 := by decide +kernel
      rwa [hencode] at h
    have hvalid : ∀ e ∈ unusualEntries, e.number.isValid = true ∧ e.name.isValid = true := by decide +kernel
    exact ⟨payload, hencode, hlength, (hread (by rw [hlength]; decide) 2).2 hvalid⟩
  · obtain ⟨payload, hencode, hread⟩ := decodeEntries_encodeEntries [strayEntry]
    have hlength : payload.length = 40 := by
      have h : (encodeEntries [strayEntry]).toOption.elim 0 List.length = 40 := by decide +kernel
      rwa [hencode] at h
    have hrepair : [strayEntry].map Entry.repair = [⟨1, "1\uFFFD", "a"⟩] := by decide +kernel
    exact ⟨payload, hencode, hlength, hrepair ▸ (hread (by rw [hlength]; decide) 2).1⟩

end SimPhonebook.Phonebook
