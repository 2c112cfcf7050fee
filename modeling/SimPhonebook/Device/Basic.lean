import SimPhonebook.Device.Call
import SimPhonebook.Device.Holds
import SimPhonebook.Journal

/-!
# The device

A `Device` is an open control channel: the calls made on it, the table of those that wait for an answer, and the reader of
its incoming stream. Several parties change it at the same time: those who submit requests, the timers and cancellations
of calls, the reader, and whoever closes it. `Device.step` is one uninterrupted action of one of them. An action that is
not possible in a state leaves the state as it is.

A request is submitted in three actions: it gets its transaction ID, it is registered for an answer, and it is written.
A call is completed in three actions: deciding on the outcome, taking the call out of the table, and resolving its
promise. What lies between is a `Finish`.
-/

namespace SimPhonebook

/-- The place of a call among all calls made on its device. -/
abbrev CallId := Nat

/-- A completion under way. -/
structure Finish where
  call : CallId
  outcome : Outcome
  /-- Whether the call has been taken out of the table. -/
  taken : Bool
  /-- Who tells about a failure, if someone does. -/
  voice : Option Voice
deriving DecidableEq, Repr

inductive ReaderState where
  | running
  /-- The stream has failed; the waiting calls do not know yet. -/
  | failing
  | stopped
deriving DecidableEq, Repr

/-- How far the closing of a device has come. -/
inductive Closing where
  | notBegun
  /-- No new call is accepted. -/
  | announced
  | streamClosed
  | complete
deriving DecidableEq, Repr

structure Device where
  name : Text
  /-- The size of the largest transfer. -/
  maxTransfer : Int
  /-- The transaction ID given out last. -/
  lastTransaction : UInt32
  holds : Holds
  calls : List Call
  /-- The calls that wait for an answer. -/
  pending : TransactionTable CallId
  finishing : List Finish
  closing : Closing
  readFailure : Option Stream.Error
  reader : ReaderState
  reassembler : Reassembler
  /-- The frames written, in order. -/
  sent : List Octets
  journal : Journal
deriving Repr

/-- The transaction ID after `last`: the next number that is not zero, since zero marks unsolicited indications. -/
def nextTransaction (last : UInt32) : UInt32 := if last + 1 = 0 then last + 2 else last + 1

/-- Writing fails after `after` frames. -/
structure WriteFault where
  after : Nat
  reason : Text
deriving DecidableEq, Repr

namespace Device

def defaultMaxTransfer : Int := 4096

/-- A device just opened. -/
def new (name : Text) (maxTransfer : Int) (journal : Journal) : Device where
  name := name
  maxTransfer := maxTransfer
  lastTransaction := 0
  holds := .none
  calls := []
  pending := .empty
  finishing := []
  closing := .notBegun
  readFailure := none
  reader := .running
  reassembler := .empty
  sent := []
  journal := journal

def isClosed (d : Device) : Bool := d.closing != .notBegun

def note (d : Device) (voice : Voice) (text : Text) (attributes : List (Text × Log.Value)) : Device :=
  { d with journal := d.journal ++ [.diagnostic voice (Log.debug text attributes)] }

def modifyCall (d : Device) (id : CallId) (f : Call → Call) : Device := { d with calls := d.calls.modify id f }

/-- A frame in the journal. -/
def noteFrame (d : Device) (voice : Voice) (direction : Text) (frame : Octets) : Device :=
  d.note voice "frame" [("dir", .text direction), ("bytes", .integer frame.length), ("dump", .dump frame)]

/-! ## Submitting -/

/-- A new call, under the next transaction ID. -/
def submit (d : Device) (request : Message) (timeout : Duration) : Device :=
  let transaction := nextTransaction d.lastTransaction
  { d with
    lastTransaction := transaction
    calls := d.calls ++ [⟨⟨transaction, request.body⟩, timeout, .unregistered, .unresolved⟩] }

/-- Ends a call that the device does not accept. -/
def refuse (d : Device) (id : CallId) (e : CallError) : Device :=
  d.modifyCall id fun c => { c with sending := .over, promise := (c.promise.resolve (.error e)).1 }

/-- Registers a new call for an answer, unless the device cannot give one any more: then the call fails at once. -/
def register (d : Device) (id : CallId) : Device :=
  match d.calls[id]? with
  | none => d
  | some c =>
    if c.sending ≠ .unregistered then d
    else if d.isClosed then d.refuse id .deviceClosed
    else match d.readFailure with
      | some e => d.refuse id (.readFailed e)
      | none =>
        let d := d.modifyCall id fun c => { c with sending := .due }
        note { d with pending := d.pending.insert c.transaction id }
          .host "submitting request" [("msg", .text c.request.summary), ("timeout", .duration c.timeout)]

/-- Writes one frame. -/
def send (d : Device) (frame : Octets) : Device :=
  let d := d.noteFrame .host "out" frame
  { d with sent := d.sent ++ [frame] }

/-- Decides on the outcome of a call. -/
def decide (d : Device) (id : CallId) (outcome : Outcome) (voice : Voice) : Device :=
  { d with finishing := d.finishing ++ [⟨id, outcome, false, some voice⟩] }

/-- Writes the frames of a request, as far as writing succeeds. -/
def transmitFrames (d : Device) (id : CallId) (frames : List Octets) (fault : Option WriteFault) : Device :=
  match fault.bind fun f => frames[f.after]?.map (f, ·) with
  | none => (frames.foldl send d).modifyCall id fun c => { c with sending := .complete }
  | some (f, frame) =>
    (((frames.take f.after).foldl send d).noteFrame .host "out" frame).decide id
      (.error (.writeFailed (f.after + 1) frames.length f.reason)) .host

/-- Writes the request of a call, which is due. -/
def transmit (d : Device) (id : CallId) (fault : Option WriteFault) : Device :=
  match d.calls[id]? with
  | none => d
  | some c =>
    if c.sending ≠ .due then d
    else
      let d := d.modifyCall id fun c => { c with sending := .over }
      match c.request.fragments d.maxTransfer with
      | .error e => d.decide id (.error (.notEncoded e)) .host
      | .ok frames => d.transmitFrames id frames fault

/-- Ends the waiting for an answer for a reason of its own. -/
def giveUp (d : Device) (id : CallId) (reason : Call → CallError) : Device :=
  match d.calls[id]? with
  | none => d
  | some c =>
    if c.sending ≠ .complete then d
    else (d.modifyCall id fun c => { c with sending := .over }).decide id (.error (reason c)) .host

/-! ## Completing -/

/-- Takes the call of a completion out of the table, if it is what waits under its transaction ID. -/
def takeOut (d : Device) (id : CallId) : Device :=
  match d.calls[id]? with
  | none => d
  | some c => if d.pending.find? c.transaction = some id then { d with pending := d.pending.erase c.transaction } else d

/-- Completion `i` takes its call out of the table. -/
def takeStep (d : Device) (i : Nat) : Device :=
  match d.finishing[i]? with
  | none => d
  | some f =>
    if f.taken then d
    else takeOut { d with finishing := d.finishing.modify i fun f => { f with taken := true } } f.call

/-- Resolves the promise of a call, and tells about a failure if this is what resolved it. -/
def resolve (d : Device) (f : Finish) : Device :=
  match d.calls[f.call]? with
  | none => d
  | some c =>
    let (promise, first) := c.promise.resolve f.outcome
    let d := d.modifyCall f.call fun c => { c with promise := promise }
    match f.outcome, f.voice with
    | .error e, some voice =>
      if first then
        d.note voice "request failed" [("tid", .integer c.transaction.toNat), ("error", .text (message e))]
      else d
    | _, _ => d

/-- Completion `i`, which has taken its call out of the table, resolves it. -/
def deliverStep (d : Device) (i : Nat) : Device :=
  match d.finishing[i]? with
  | none => d
  | some f => if f.taken then resolve { d with finishing := d.finishing.eraseIdx i } f else d

/-- Takes all calls out of the table, to be completed with the error. -/
def failPending (d : Device) (e : CallError) : Device :=
  { d with
    pending := .empty
    finishing := d.finishing ++ d.pending.values.map fun id => ⟨id, .error e, true, none⟩ }

/-! ## Reading -/

/-- Fails the call that the header of the data names, if it waits. -/
def failTransaction (d : Device) (data : Octets) (e : CallError) : Device :=
  match Header.decode data with
  | .error _ => d.note .reader "dropping unreadable frame" [("error", .text (message e))]
  | .ok h =>
    match d.pending.find? h.transaction with
    | none =>
      d.note .reader "dropping bad frame" [("tid", .integer h.transaction.toNat), ("error", .text (message e))]
    | some id => d.decide id (.error e) .reader

/-- What a message means for a call that waits under its transaction ID. -/
def outcomeOf (c : Call) (m : Message) : Outcome :=
  match m.body with
  | .functionError f => .error (.refused (.fault f))
  | _ => if m.type = c.request.type.answer then .ok m else .error (.unexpectedType m.type c.request.type)

/-- Routes a message to the call that waits for it. Indications are for no call. -/
def dispatch (d : Device) (m : Message) : Device :=
  let d := d.note .reader "received response" [("msg", .text m.summary)]
  match m.body with
  | .indication target _ =>
    d.note .reader "ignoring indication"
      [("service", .text target.service.name), ("cid", .text target.commandName)]
  | _ =>
    match d.pending.find? m.transaction with
    | none => d.note .reader "no pending request for response" [("tid", .integer m.transaction.toNat)]
    | some id =>
      match d.calls[id]? with
      | none => d
      | some c => d.decide id (outcomeOf c m) .reader

/-- The reader handles a frame. -/
def arrive (d : Device) (frame : Octets) : Device :=
  if d.reader ≠ .running then d
  else
    let d := d.noteFrame .reader "in" frame
    let (reassembler, result) := d.reassembler.add frame
    let d := { d with reassembler := reassembler }
    match result with
    | .error e => d.failTransaction frame (.notReassembled e)
    | .ok none => d
    | .ok (some data) =>
      match Message.decode data with
      | .error e => d.failTransaction data (.notDecoded e)
      | .ok m => d.dispatch m

/-- The reader meets the end of the stream, or an error. If the device is being closed it just stops. -/
def lose (d : Device) (e : Stream.Error) : Device :=
  if d.reader ≠ .running then d
  else if d.isClosed then { d with reader := .stopped }
  else note { d with readFailure := some e, reader := .failing } .reader "reader stopped" [("error", .text (message e))]

/-- The reader, having recorded its failure, fails the waiting calls. -/
def abandon (d : Device) : Device :=
  match d.reader, d.readFailure with
  | .failing, some e => failPending { d with reader := .stopped } (.readFailed e)
  | _, _ => d

/-! ## Closing -/

/-- From here on no call is accepted. -/
def announceClose (d : Device) : Device :=
  if d.closing ≠ .notBegun then d
  else
    let d := { d with closing := .announced }
    let holders := d.holds.holders.toInt
    if holders > 0 then d.note .host "closing device with active holders" [("holders", .integer holders)] else d

def closeStream (d : Device) : Device := if d.closing = .announced then { d with closing := .streamClosed } else d

/-- Once the reader has stopped, the waiting calls fail and the device is closed. -/
def completeClose (d : Device) : Device :=
  if d.closing = .streamClosed ∧ d.reader = .stopped then failPending { d with closing := .complete } .deviceClosed
  else d

/-! ## Steps -/

inductive Event where
  | submit (request : Message) (timeout : Duration)
  | register (call : CallId)
  | transmit (call : CallId) (fault : Option WriteFault)
  | arrive (frame : Octets)
  /-- The timer of a call fires. -/
  | expire (call : CallId)
  | cancel (call : CallId)
  /-- Completion `index` takes its call out of the table. -/
  | take (index : Nat)
  /-- Completion `index` resolves its call. -/
  | deliver (index : Nat)
  /-- The incoming stream ends or fails. -/
  | lose (error : Stream.Error)
  | abandon
  | announceClose
  | closeStream
  | completeClose
deriving Repr

def step (d : Device) : Event → Device
  | .submit request timeout => d.submit request timeout
  | .register call => d.register call
  | .transmit call fault => d.transmit call fault
  | .arrive frame => d.arrive frame
  | .expire call => d.giveUp call fun c => .timedOut c.timeout c.transaction
  | .cancel call => d.giveUp call fun _ => .cancelled
  | .take index => d.takeStep index
  | .deliver index => d.deliverStep index
  | .lose error => d.lose error
  | .abandon => d.abandon
  | .announceClose => d.announceClose
  | .closeStream => d.closeStream
  | .completeClose => d.completeClose

def run (d : Device) (events : List Event) : Device := events.foldl step d

/-- Carries out all completions that are under way, the oldest first. -/
def settle (d : Device) : Device :=
  (List.range d.finishing.length).foldl (fun d _ => d.run [.take 0, .deliver 0]) d

/-- Does what an event says and completes the calls it decides. -/
def perform (d : Device) (e : Event) : Device := (d.step e).settle

end Device

end SimPhonebook
