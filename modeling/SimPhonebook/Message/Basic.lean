import SimPhonebook.Message.Type
import SimPhonebook.Message.Status
import SimPhonebook.Message.Service

/-!
# Control messages

A `Message` is a whole control message: its transaction ID and what it says. Each type carries its own fields, so a
`Body` holds just those.
-/

namespace SimPhonebook

inductive Body where
  | openRequest (maxTransfer : UInt32)
  | closeRequest
  | command (target : Target) (kind : CommandKind) (payload : Octets)
  | hostError (fault : Fault)
  | openDone (status : Status)
  | closeDone (status : Status)
  | commandDone (target : Target) (status : Status) (payload : Octets)
  | functionError (fault : Fault)
  | indication (target : Target) (payload : Octets)
  | other (code : UInt32)
deriving DecidableEq, Repr, Inhabited

def Body.type : Body → MessageType
  | .openRequest _ => .openRequest
  | .closeRequest => .closeRequest
  | .command _ _ _ => .command
  | .hostError _ => .hostError
  | .openDone _ => .openDone
  | .closeDone _ => .closeDone
  | .commandDone _ _ _ => .commandDone
  | .functionError _ => .functionError
  | .indication _ _ => .indication
  | .other code => .other code

structure Message where
  transaction : UInt32
  body : Body
deriving DecidableEq, Repr, Inhabited

namespace Message

def type (m : Message) : MessageType := m.body.type

/-- A request to open a session, naming the largest transfer the host accepts. -/
def openSession (maxTransfer : UInt32) : Message := ⟨0, .openRequest maxTransfer⟩

/-- A request to close the session. -/
def closeSession : Message := ⟨0, .closeRequest⟩

/-- The failure that an answer reports, if it reports one. -/
def failure? (m : Message) : Option DeviceFailure :=
  match m.body with
  | .openDone s | .closeDone s | .commandDone _ s _ => if s.isSuccess then none else some (.status s)
  | .functionError f | .hostError f => some (.fault f)
  | _ => none

/-- One line about the message: its type, its transaction and its fields by name. -/
def summary (m : Message) : Text :=
  let head := m.type.name ++ " tid=" ++ Numeral.word m.transaction
  let target (t : Target) : Text := " service=" ++ t.service.name ++ " cid=" ++ t.commandName
  let size (payload : Octets) : Text := " buffer=" ++ Numeral.decimal payload.length
  match m.body with
  | .openRequest n => head ++ " max-control-transfer=" ++ Numeral.word n
  | .openDone s | .closeDone s => head ++ " status=" ++ s.name
  | .functionError f | .hostError f => head ++ " error=" ++ f.name
  | .command t k p => head ++ target t ++ " type=" ++ k.name ++ size p
  | .commandDone t s p => head ++ target t ++ " status=" ++ s.name ++ size p
  | .indication t p => head ++ target t ++ size p
  | .closeRequest | .other _ => head

end Message

end SimPhonebook
