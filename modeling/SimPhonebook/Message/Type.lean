import SimPhonebook.Text.Numeral

/-!
# Message types

The nine types of control message, and a place for codes outside the protocol. Bit 31 marks what flows from the device to
the host. Commands, their answers and indications carry a fragment header and may be sent in pieces.
-/

namespace SimPhonebook

inductive MessageType where
  | openRequest
  | closeRequest
  | command
  | hostError
  | openDone
  | closeDone
  | commandDone
  | functionError
  | indication
  | other (code : UInt32)
deriving DecidableEq, Repr, Inhabited

namespace MessageType

def code : MessageType → UInt32
  | openRequest => 0x00000001
  | closeRequest => 0x00000002
  | command => 0x00000003
  | hostError => 0x00000004
  | openDone => 0x80000001
  | closeDone => 0x80000002
  | commandDone => 0x80000003
  | functionError => 0x80000004
  | indication => 0x80000007
  | other code => code

def ofCode (code : UInt32) : MessageType :=
  if code = 0x00000001 then openRequest
  else if code = 0x00000002 then closeRequest
  else if code = 0x00000003 then command
  else if code = 0x00000004 then hostError
  else if code = 0x80000001 then openDone
  else if code = 0x80000002 then closeDone
  else if code = 0x80000003 then commandDone
  else if code = 0x80000004 then functionError
  else if code = 0x80000007 then indication
  else other code

def name : MessageType → Text
  | openRequest => "open"
  | closeRequest => "close"
  | command => "command"
  | hostError => "host-error"
  | openDone => "open-done"
  | closeDone => "close-done"
  | commandDone => "command-done"
  | functionError => "function-error"
  | indication => "indicate-status"
  | other code => "unknown (" ++ Numeral.hexWord code ++ ")"

/-- Whether the type is one the protocol defines. -/
def isKnown : MessageType → Bool
  | other _ => false
  | _ => true

/-- Whether the type flows from the device to the host. -/
def isResponse (t : MessageType) : Bool := t.code &&& 0x80000000 != 0

/-- Whether messages of the type carry a fragment header. -/
def isFragmented : MessageType → Bool
  | command | commandDone | indication => true
  | _ => false

/-- The type of the answer to a request of this type. -/
def answer : MessageType → MessageType
  | openRequest => openDone
  | closeRequest => closeDone
  | _ => commandDone

@[simp] theorem code_ofCode (c : UInt32) : (ofCode c).code = c := by
  unfold ofCode
  repeat' split
  all_goals simp_all [code]

theorem ofCode_code_of_isKnown {t : MessageType} (h : t.isKnown = true) : ofCode t.code = t := by
  cases t <;> first | rfl | cases h

end MessageType

end SimPhonebook
