import SimPhonebook.Device.Basic
import SimPhonebook.Device.Modem

/-!
# A device in use

A `Channel` is a device together with what is behind it: the modem, what has arrived from it and is not a whole frame yet,
and whether writing or closing fails. Its operations let everything that has become due happen before they return.
-/

namespace SimPhonebook

structure Channel where
  device : Device
  modem : Modem
  /-- What has arrived after the last whole frame. -/
  unread : Octets
  writeFault : Option WriteFault
  closeFault : Option Text
  /-- The calls whose requests the modem has received. -/
  asked : List CallId
deriving Repr

/-- A session could not be opened or closed. -/
inductive SessionError where
  | notOpened (cause : CallError)
  | notClosed (cause : CallError)
deriving DecidableEq, Repr

instance : Described SessionError where
  message
    | .notOpened e => "failed to open MBIM session: " ++ message e
    | .notClosed e => "failed to close MBIM session: " ++ message e

namespace Channel

def new (device : Device) (modem : Modem) : Channel := ⟨device, modem, [], none, none, []⟩

def perform (c : Channel) (e : Device.Event) : Channel := { c with device := c.device.perform e }

def note (c : Channel) (text : Text) (attributes : List (Text × Log.Value)) : Channel :=
  { c with device := c.device.note .host text attributes }

/-- Puts a note of its user into the journal of the device. -/
def write (c : Channel) (n : Note) : Channel := { c with device := { c.device with journal := c.device.journal ++ [n] } }

/-- What arrives is read as far as it makes whole frames. -/
def receive (c : Channel) (r : Reaction) : Channel :=
  if c.device.reader ≠ .running then c
  else
    let (frames, remainder) := Stream.frames (c.unread ++ r.chunks.flatten) r.ending
    let device := frames.foldl (fun d f => d.perform (.arrive f)) c.device
    match remainder with
    | .waiting rest => { c with device := device, unread := rest }
    | .failed e rest => { c with device := (device.perform (.lose e)).perform .abandon, unread := rest }

/-- A device connected to a modem. -/
def connected (device : Device) (modem : Modem) : Channel := (new device modem).receive modem.greeting

/-- Submits a request, registers it and writes it. The answer is the call. -/
def submit (c : Channel) (request : Message) (timeout : Duration) : Channel × CallId :=
  let id := c.device.calls.length
  let written := c.device.sent.length
  let device := ((c.device.perform (.submit request timeout)).perform (.register id)).perform
    (.transmit id c.writeFault)
  let fault := c.writeFault.map fun f => ⟨f.after - (device.sent.length - written), f.reason⟩
  ({ c with device := device, writeFault := fault }, id)

def call? (c : Channel) (id : CallId) : Option Call := c.device.calls[id]?

/-- Whether the request of a call has been written and its outcome is open. -/
def awaits (c : Channel) (id : CallId) : Bool :=
  match c.call? id with
  | some call => call.sending == .complete && !call.promise.isResolved
  | none => false

/-- The timer of a call fires, or the call is cancelled, whichever it is that ends the waiting. -/
def giveUp (c : Channel) (id : CallId) (cancelled : Bool) : Channel :=
  c.perform (if cancelled then .cancel id else .expire id)

/-- Cancels all calls. -/
def cancelAll (c : Channel) : Channel := (List.range c.device.calls.length).foldl (fun c id => c.giveUp id true) c

/-- Lets the modem react to a request that has just been written. -/
def exchange (c : Channel) (id : CallId) : Channel :=
  match c.call? id with
  | none => c
  | some call =>
    let (reaction, modem) := c.modem.react (call.request.fragments c.device.maxTransfer |>.toOption.getD [])
    receive { c with modem := modem, asked := c.asked ++ [id] } reaction

/-- Waits for the outcome of a call just made. Where the reaction of the modem does not bring one, the call is cancelled or
times out. -/
def await (c : Channel) (id : CallId) (cancelled : Bool) : Channel × Outcome :=
  let c := if c.awaits id then c.exchange id else c
  let c := if c.awaits id then c.giveUp id cancelled else c
  match (c.call? id).bind Call.outcome? with
  | some outcome => (c, outcome)
  | none => (c, .error .deviceClosed)

/-- Submits a request and waits for the outcome. -/
def command (c : Channel) (request : Message) (timeout : Duration) (cancelled : Bool) : Channel × Outcome :=
  let (c, id) := c.submit request timeout
  c.await id cancelled

/-- The outcome of a call that only has to succeed. -/
def acknowledged : Outcome → Except CallError Unit
  | .error e => .error e
  | .ok m => match m.failure? with
    | some f => .error (.refused f)
    | none => .ok ()

def openSession (c : Channel) (timeout : Duration) (cancelled : Bool) : Channel × Option SessionError :=
  let (c, outcome) := c.command (.openSession (UInt32.ofInt c.device.maxTransfer)) timeout cancelled
  match acknowledged outcome with
  | .error e => (c, some (.notOpened e))
  | .ok _ => (c.note "MBIM session open" [("device", .text c.device.name)], none)

def closeSession (c : Channel) (timeout : Duration) (cancelled : Bool) : Channel × Option SessionError :=
  let (c, outcome) := c.command .closeSession timeout cancelled
  match acknowledged outcome with
  | .error e => (c, some (.notClosed e))
  | .ok _ => (c.note "MBIM session closed" [("device", .text c.device.name)], none)

def hold (c : Channel) : Channel × HoldId :=
  let (holds, id) := c.device.holds.take
  ({ c with device := { c.device with holds := holds } }, id)

def release (c : Channel) (id : HoldId) : Channel :=
  { c with device := { c.device with holds := c.device.holds.release id } }

/-- Closes the device. Only the first time has an effect and can fail; a failure to close the stream stops nothing. -/
def close (c : Channel) : Channel × Option Text :=
  if c.device.isClosed then (c, none)
  else
    let c := (c.perform .announceClose).perform .closeStream
    ((c.perform (.lose (.stopped .ended))).perform .completeClose, c.closeFault)

end Channel

end SimPhonebook
