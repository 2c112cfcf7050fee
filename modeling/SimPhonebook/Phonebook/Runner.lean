import SimPhonebook.Phonebook.Operation
import SimPhonebook.Phonebook.Session

/-!
# Running a command

A `Runner` carries out one action on a transport: it submits the request, waits for the outcome, and prints either the
result or one line about the failure. The session it holds ends on every path.
-/

namespace SimPhonebook.Phonebook

/-- How far a command has come. -/
inductive RunState where
  | idle
  | submitted
  | succeeded
  | protocolError
  | transportError
  | finalized
  /-- A number that stands for no state. -/
  | unassigned (number : Int)
deriving DecidableEq, Repr

namespace RunState

def ofNumber : Int → RunState
  | 0 => idle
  | 1 => submitted
  | 2 => succeeded
  | 3 => protocolError
  | 4 => transportError
  | 5 => finalized
  | n => unassigned n

def name : RunState → Text
  | idle => "idle"
  | submitted => "submitted"
  | succeeded => "completed-success"
  | protocolError => "completed-protocol-error"
  | transportError => "completed-transport-error"
  | finalized => "finalized"
  | unassigned n => "state(" ++ Numeral.integer n ++ ")"

end RunState

/-- Why a command failed; `ε` is what a call on the transport can fail with. -/
inductive Failure (ε : Type) where
  | noOperation (action : Action)
  | invalidInput (cause : RequestError)
  | transport (cause : ε)
  | response (cause : ResponseError)
deriving Repr

namespace Failure

variable {ε : Type}

def code : Failure ε → Text
  | noOperation _ | invalidInput _ => "PHONEBOOK_INVALID_INPUT"
  | transport _ => "PHONEBOOK_TRANSPORT_FAILURE"
  | response _ => "PHONEBOOK_DECODE_FAILURE"

def summary : Failure ε → Text
  | noOperation a => "no phonebook operation for action " ++ a.name
  | invalidInput _ => "invalid phonebook input"
  | transport _ => "phonebook operation failed"
  | response _ => "couldn't parse phonebook response"

instance : Described (Failure ε) := ⟨fun f => "[" ++ f.code ++ "]: " ++ f.summary⟩

end Failure

/-- What is left of a run. -/
structure Completion (ε : Type) where
  stdout : Text
  failure : Option (Failure ε)
  /-- The session of the run, if it had one. -/
  session : Option Session

structure Runner (σ κ ε : Type) where
  transport : Transport σ κ ε
  color : Bool
  timeout : Duration
  /-- Done once a request is submitted, with a label for what is waited for. -/
  onWait : σ → Text → σ

def defaultTimeout : Duration := .seconds 10

namespace Runner

variable {σ κ ε : Type}

def note (r : Runner σ κ ε) (s : σ) (text : Text) (attributes : List (Text × Log.Value)) : σ :=
  r.transport.write s (.diagnostic .host (Log.debug text attributes))

/-- A change of state in the journal. -/
def enter (r : Runner σ κ ε) (s : σ) (current next : RunState) : σ :=
  r.note s "phonebook command state" [("from", .text current.name), ("to", .text next.name)]

/-- A line about a failure. -/
def complain (r : Runner σ κ ε) (s : σ) (reason : Text) : σ :=
  r.transport.write s (.printed (Report.error r.color reason))

/-- Ends a run that has come to a state, with what it has printed or the failure it has met. -/
def finish (r : Runner σ κ ε) (a : Action) (s : σ) (session : Session) (state : RunState)
    (result : Except (Failure ε) Text) : σ × Completion ε :=
  let (s, session, _) := session.finalize r.transport s
  let s := r.enter s state .finalized
  let s := r.note s "phonebook command finished" [("action", .text a.name), ("success", .flag result.isOk)]
  match result with
  | .ok stdout => (s, ⟨stdout, none, some session⟩)
  | .error f => (s, ⟨Text.empty, some f, some session⟩)

/-- Submits a request, waits for its outcome and shows it. -/
def converse [Described ε] (r : Runner σ κ ε) (a : Action) (op : Operation) (request : Message) (s : σ)
    (session : Session) : σ × Completion ε :=
  let s := r.note s (op.label ++ "...") [("action", .text a.name), ("cid", .text op.target.commandName)]
  let (s, call) := r.transport.submit s request r.timeout session.cancelled
  let s := r.enter s .idle .submitted
  let s := r.onWait s op.label
  let (s, outcome) := r.transport.result s call
  match outcome with
  | .error e =>
    let s := r.enter s .submitted .transportError
    let s := r.complain s ("operation failed: " ++ message e)
    r.finish a s session .transportError (.error (.transport e))
  | .ok answer =>
    match op.complete r.color answer with
    | .error e =>
      let s := r.enter s .submitted .protocolError
      let s := r.complain s ("couldn't parse response message: " ++ message e)
      r.finish a s session .protocolError (.error (.response e))
    | .ok stdout =>
      let s := r.enter s .submitted .succeeded
      r.finish a s session .succeeded (.ok stdout)

/-- Carries out an action, inside a context that may be cancelled already. -/
def run [Described ε] (r : Runner σ κ ε) (s : σ) (cancelled : Bool) (a : Action) : σ × Completion ε :=
  match a.operation? with
  | none => (s, ⟨Text.empty, some (.noOperation a), none⟩)
  | some op =>
    let (s, session) := Session.start r.transport s cancelled
    let s := op.remarks.foldl (fun s record => r.transport.write s (.diagnostic .host record)) s
    match op.request with
    | .error e => r.finish a (r.complain s (message e)) session .idle (.error (.invalidInput e))
    | .ok request => r.converse a op request s session

end Runner

end SimPhonebook.Phonebook
