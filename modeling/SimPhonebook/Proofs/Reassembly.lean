import SimPhonebook.Message.Reassembly
import SimPhonebook.Proofs.WireFormat

/-!
# One transaction at a time

A reassembler is a table of independent slots, one for each transaction ID. `Reassembler.advance` is what a frame does to
the slot of its own transaction; `answer_add` and `slot_add` say that this is all it does. So what is collected for a
transaction after any frames is what the frames of that transaction alone would have left (`slot_feed_filter`).

What is collected under an ID starts with a fragment that carries the ID (`WellKept`), and so does a message put together
from it (`transaction_of_advance`).
-/

namespace SimPhonebook

open Octets

/-- Whether the header of a frame names the transaction. -/
def carries (t : UInt32) (frame : Octets) : Bool := headerSize ≤ frame.length && frame.wordAt 8 == t

theorem carries_iff {t : UInt32} {frame : Octets} :
    carries t frame = true ↔ headerSize ≤ frame.length ∧ frame.wordAt 8 = t := by
  simp [carries]

namespace Reassembler

/-- What a frame does to what is collected for its transaction, and the answer to it. -/
def advance (slot : Option Collected) (frame : Octets) :
    Option Collected × Except ReassemblyError (Option Octets) :=
  if frame.length < headerSize then (slot, .error (.shortHeader frame.length))
  else if !(MessageType.ofCode (frame.wordAt 0)).isFragmented then (slot, .ok (some frame))
  else if frame.length < headerSize + fragmentHeaderSize then (slot, .error (.shortFragment frame.length))
  else if frame.wordAt 12 ≤ 1 then (none, .ok (some frame))
  else match slot with
    | none =>
      if frame.wordAt 16 ≠ 0 then (none, .error (.startsLate (frame.wordAt 8) (frame.wordAt 16)))
      else (some ⟨frame.wordAt 12, 1, frame⟩, .ok none)
    | some c =>
      if frame.wordAt 16 ≠ c.next ∨ frame.wordAt 12 ≠ c.total then
        (none, .error (.outOfSequence (frame.wordAt 8) (frame.wordAt 16) (frame.wordAt 12) c.next c.total))
      else
        let grown := c.data ++ frame.drop (headerSize + fragmentHeaderSize)
        if c.next + 1 < c.total then (some ⟨c.total, c.next + 1, grown⟩, .ok none)
        else (none, .ok (some (whole grown)))

/-- What is collected for a transaction. -/
def slot (r : Reassembler) (t : UInt32) : Option Collected := r.collected.find? t

theorem add_eq_advance (r : Reassembler) (frame : Octets) :
    (r.add frame).2 = (advance (r.slot (frame.wordAt 8)) frame).2 ∧
    ∀ t, (r.add frame).1.slot t =
      if t = frame.wordAt 8 then (advance (r.slot (frame.wordAt 8)) frame).1 else r.slot t := by
  have same : ∀ t, r.slot t = if t = frame.wordAt 8 then r.slot (frame.wordAt 8) else r.slot t := by
    intro t
    split
    · rename_i h
      rw [h]
    · rfl
  unfold add advance
  split
  · exact ⟨rfl, same⟩
  split
  · exact ⟨rfl, same⟩
  split
  · exact ⟨rfl, same⟩
  simp only
  split
  · exact ⟨rfl, fun t => TransactionTable.find?_erase _ _ _⟩
  unfold join
  -- `slot` and `find?` are the same look into the table
  cases hslot : r.slot (frame.wordAt 8) with
  | none =>
    rw [slot] at hslot
    simp only [hslot]
    split
    · refine ⟨rfl, fun t => (same t).trans ?_⟩
      rw [slot, hslot]
    · exact ⟨rfl, fun t => TransactionTable.find?_insert _ _ _ _⟩
  | some c =>
    rw [slot] at hslot
    simp only [hslot]
    split
    · exact ⟨rfl, fun t => TransactionTable.find?_erase _ _ _⟩
    split
    · exact ⟨rfl, fun t => TransactionTable.find?_insert _ _ _ _⟩
    · exact ⟨rfl, fun t => TransactionTable.find?_erase _ _ _⟩

theorem answer_add (r : Reassembler) (frame : Octets) :
    (r.add frame).2 = (advance (r.slot (frame.wordAt 8)) frame).2 := (add_eq_advance r frame).1

theorem slot_add (r : Reassembler) (frame : Octets) (t : UInt32) :
    (r.add frame).1.slot t =
      if t = frame.wordAt 8 then (advance (r.slot (frame.wordAt 8)) frame).1 else r.slot t :=
  (add_eq_advance r frame).2 t

/-- A frame leaves the slots of the transactions that its header does not name. -/
theorem slot_add_of_not_carries (r : Reassembler) {frame : Octets} {t : UInt32} (h : carries t frame = false) :
    (r.add frame).1.slot t = r.slot t := by
  rw [slot_add]
  split
  · rename_i ht
    subst ht
    have hshort : frame.length < headerSize := by
      simpa [carries] using h
    unfold advance
    rw [if_pos hshort]
  · rfl

/-! ## Many frames -/

/-- The reassembler after some frames. -/
def feed (r : Reassembler) (frames : List Octets) : Reassembler := frames.foldl (fun r f => (r.add f).1) r

theorem feed_append (r : Reassembler) (fs gs : List Octets) : r.feed (fs ++ gs) = (r.feed fs).feed gs :=
  List.foldl_append

theorem slot_add_congr {r r' : Reassembler} {t : UInt32} (h : r.slot t = r'.slot t) {frame : Octets}
    (hframe : carries t frame = true) : (r.add frame).1.slot t = (r'.add frame).1.slot t := by
  rw [slot_add, slot_add, (carries_iff.1 hframe).2, if_pos rfl, if_pos rfl, h]

theorem slot_feed_filter_of_eq : ∀ (frames : List Octets) {r r' : Reassembler} {t : UInt32}, r.slot t = r'.slot t →
    (r.feed frames).slot t = (r'.feed (frames.filter (carries t))).slot t
  | [], _, _, _, h => h
  | f :: fs, r, r', t, h => by
    by_cases hf : carries t f = true
    · rw [List.filter_cons_of_pos hf]
      exact slot_feed_filter_of_eq fs (slot_add_congr h hf)
    · rw [List.filter_cons_of_neg hf]
      refine slot_feed_filter_of_eq fs ?_
      rw [slot_add_of_not_carries r (by simpa using hf), h]

/-- **Transactions do not meet in a reassembler**: what is collected for one is decided by its own frames. -/
theorem slot_feed_filter (r : Reassembler) (frames : List Octets) (t : UInt32) :
    (r.feed frames).slot t = (r.feed (frames.filter (carries t))).slot t :=
  slot_feed_filter_of_eq frames rfl

/-! ## The transaction of what is put together -/

/-- The data begins with a header and a fragment header, and the header names the transaction. -/
def Begins (t : UInt32) (data : Octets) : Prop := headerSize + fragmentHeaderSize ≤ data.length ∧ data.wordAt 8 = t

theorem Begins.append {t : UInt32} {data : Octets} (h : Begins t data) (more : Octets) : Begins t (data ++ more) := by
  obtain ⟨hlen, hword⟩ := h
  simp only [headerSize, fragmentHeaderSize] at hlen
  refine ⟨?_, ?_⟩
  · simp only [List.length_append, headerSize, fragmentHeaderSize]; omega
  · rw [wordAt_append_left more (by omega), hword]

theorem Begins.whole {t : UInt32} {data : Octets} (h : Begins t data) : Begins t (whole data) := by
  obtain ⟨hlen, hword⟩ := h
  simp only [headerSize, fragmentHeaderSize] at hlen
  have h4 := length_setWord data 4 (UInt32.ofNat data.length) (by omega)
  have h12 := length_setWord (data.setWord 4 (UInt32.ofNat data.length)) 12 1 (by omega)
  have h16 := length_setWord ((data.setWord 4 (UInt32.ofNat data.length)).setWord 12 1) 16 0 (by omega)
  refine ⟨?_, ?_⟩
  · simp only [Reassembler.whole, headerSize, fragmentHeaderSize]; omega
  · rw [Reassembler.whole, wordAt_setWord_of_disjoint _ (by omega) (by omega),
      wordAt_setWord_of_disjoint _ (by omega) (by omega), wordAt_setWord_of_disjoint _ (by omega) (by omega), hword]

/-- What is collected in a slot begins with the ID of the slot. -/
def Kept (t : UInt32) (slot : Option Collected) : Prop := ∀ c, slot = some c → Begins t c.data

theorem kept_none (t : UInt32) : Kept t none := fun _ h => by cases h

theorem kept_advance {slot : Option Collected} {frame : Octets} (h : Kept (frame.wordAt 8) slot) :
    Kept (frame.wordAt 8) (advance slot frame).1 := by
  unfold advance
  split
  · exact h
  split
  · exact h
  split
  · exact h
  split
  · exact kept_none _
  rename_i hlen _
  have hframe : Begins (frame.wordAt 8) frame := ⟨Nat.le_of_not_lt hlen, rfl⟩
  cases slot with
  | none =>
    simp only
    split
    · exact kept_none _
    · rintro c ⟨⟩
      exact hframe
  | some c =>
    simp only
    split
    · exact kept_none _
    split
    · rintro c' ⟨⟩
      exact (h c rfl).append _
    · exact kept_none _

/-- A completed message has the transaction ID of the frame that completed it. -/
theorem transaction_of_advance {slot : Option Collected} {frame data : Octets} (h : Kept (frame.wordAt 8) slot)
    (hdata : (advance slot frame).2 = .ok (some data)) : headerSize ≤ data.length ∧ data.wordAt 8 = frame.wordAt 8 := by
  unfold advance at hdata
  split at hdata
  · cases hdata
  rename_i hheader
  have hself : headerSize ≤ frame.length ∧ frame.wordAt 8 = frame.wordAt 8 := ⟨Nat.le_of_not_lt hheader, rfl⟩
  split at hdata
  · cases hdata
    exact hself
  split at hdata
  · cases hdata
  split at hdata
  · cases hdata
    exact hself
  cases slot with
  | none =>
    simp only at hdata
    split at hdata <;> cases hdata
  | some c =>
    simp only at hdata
    split at hdata
    · cases hdata
    split at hdata
    · cases hdata
    · cases hdata
      have hbegins := ((h c rfl).append (frame.drop (headerSize + fragmentHeaderSize))).whole
      exact ⟨Nat.le_trans (Nat.le_add_right _ _) hbegins.1, hbegins.2⟩

/-- Every slot begins with its own ID. -/
def WellKept (r : Reassembler) : Prop := ∀ t, Kept t (r.slot t)

theorem wellKept_empty : empty.WellKept := fun t => kept_none t

theorem WellKept.add {r : Reassembler} (h : r.WellKept) (frame : Octets) : (r.add frame).1.WellKept := by
  intro t
  rw [slot_add]
  split
  · rename_i ht
    subst ht
    exact kept_advance (h _)
  · exact h t

end Reassembler

end SimPhonebook
