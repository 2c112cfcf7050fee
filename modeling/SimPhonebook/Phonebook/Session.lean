import SimPhonebook.Device.Holds
import SimPhonebook.Duration
import SimPhonebook.Journal
import SimPhonebook.Message.Basic

/-!
# Sessions

A `Transport` is what a phonebook command needs of a device: it can be held, and requests can be submitted to it. A
`Session` is the time one command spends on it: a hold, and a context that tells those who work for the command when it is
over. Both end together, once.
-/

namespace SimPhonebook.Phonebook

/-- Operations on a state `σ`, with calls `κ` that fail with `ε`. -/
structure Transport (σ κ ε : Type) where
  hold : σ → σ × HoldId
  release : σ → HoldId → σ
  /-- Submits a request, under a context that may be cancelled already. -/
  submit : σ → Message → Duration → Bool → σ × κ
  /-- Waits for the outcome of a call. -/
  result : σ → κ → σ × Except ε (Option Message)
  /-- Writes to the journal. -/
  write : σ → Note → σ

structure Session where
  hold : HoldId
  /-- Whether the context of the session is cancelled. -/
  cancelled : Bool
  finalized : Bool
deriving DecidableEq, Repr

namespace Session

variable {σ κ ε : Type}

/-- A session inside a context that may be cancelled already. -/
def start (t : Transport σ κ ε) (s : σ) (cancelled : Bool) : σ × Session :=
  let (s, hold) := t.hold s
  (s, ⟨hold, cancelled, false⟩)

/-- Ends the session and tells whether this is what ended it. -/
def finalize (t : Transport σ κ ε) (s : σ) (session : Session) : σ × Session × Bool :=
  if session.finalized then (s, session, false) else (t.release s session.hold, ⟨session.hold, true, true⟩, true)

end Session

end SimPhonebook.Phonebook
