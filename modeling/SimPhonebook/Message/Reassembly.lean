import SimPhonebook.Message.Fragment
import SimPhonebook.TransactionTable

/-!
# Reassembly

A `Reassembler` joins arriving fragments into whole messages, any number of transactions at a time. Fragments of one
transaction have to arrive in order and agree on their number; one that does not ends what was collected for its
transaction. Messages that are whole already pass through.
-/

namespace SimPhonebook

/-- What has arrived of one message. -/
structure Collected where
  /-- How many fragments the message has. -/
  total : UInt32
  /-- The number of the fragment that has to come next. -/
  next : UInt32
  data : Octets
deriving DecidableEq, Repr

/-- Why a fragment is refused. -/
inductive ReassemblyError where
  | shortHeader (length : Nat)
  | shortFragment (length : Nat)
  /-- The first fragment to arrive is not the first of its message. -/
  | startsLate (transaction number : UInt32)
  | outOfSequence (transaction number total wantedNumber wantedTotal : UInt32)
deriving DecidableEq, Repr

instance : Described ReassemblyError where
  message
    | .shortHeader n => message (DecodeError.shortHeader n)
    | .shortFragment n => s!"message too short: fragment is {n} bytes"
    | .startsLate t n => s!"fragment out of sequence: transaction {t.toNat} starts at fragment {n.toNat}"
    | .outOfSequence t n total wn wt =>
      s!"fragment out of sequence: transaction {t.toNat} got {n.toNat}/{total.toNat}, " ++
        s!"want {wn.toNat}/{wt.toNat}"

structure Reassembler where
  collected : TransactionTable Collected
deriving Repr

namespace Reassembler

def empty : Reassembler := ⟨.empty⟩

instance : Inhabited Reassembler := ⟨empty⟩

/-- How many messages wait for fragments. -/
def pending (r : Reassembler) : Nat := r.collected.size

/-- The whole message that the collected data is, as a single fragment. -/
def whole (data : Octets) : Octets :=
  ((data.setWord 4 (UInt32.ofNat data.length)).setWord 12 1).setWord 16 0

/-- Takes in a fragment of a message of several: the next of its transaction, or the first. -/
def join (r : Reassembler) (transaction total number : UInt32) (data : Octets) :
    Reassembler × Except ReassemblyError (Option Octets) :=
  match r.collected.find? transaction with
  | none =>
    if number ≠ 0 then (r, .error (.startsLate transaction number))
    else (⟨r.collected.insert transaction ⟨total, 1, data⟩⟩, .ok none)
  | some c =>
    if number ≠ c.next ∨ total ≠ c.total then
      (⟨r.collected.erase transaction⟩, .error (.outOfSequence transaction number total c.next c.total))
    else
      let grown := c.data ++ data.drop (headerSize + fragmentHeaderSize)
      if c.next + 1 < c.total then
        (⟨r.collected.insert transaction ⟨c.total, c.next + 1, grown⟩⟩, .ok none)
      else (⟨r.collected.erase transaction⟩, .ok (some (whole grown)))

/-- Takes in one frame. The answer is a message in one piece once one is complete. -/
def add (r : Reassembler) (data : Octets) : Reassembler × Except ReassemblyError (Option Octets) :=
  if data.length < headerSize then (r, .error (.shortHeader data.length))
  else if !(MessageType.ofCode (data.wordAt 0)).isFragmented then (r, .ok (some data))
  else if data.length < headerSize + fragmentHeaderSize then (r, .error (.shortFragment data.length))
  else
    let transaction := data.wordAt 8
    let total := data.wordAt 12
    if total ≤ 1 then (⟨r.collected.erase transaction⟩, .ok (some data))
    else r.join transaction total (data.wordAt 16) data

end Reassembler

end SimPhonebook
