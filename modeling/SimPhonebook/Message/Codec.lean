import SimPhonebook.Message.Basic

/-!
# Messages on the wire

A message is a header of twelve octets and what its type asks for:

| octets | field |
| --- | --- |
| 0 to 3 | type |
| 4 to 7 | length of the message, header included |
| 8 to 11 | transaction ID |
| 12 to 15 | number of fragments, where the type has a fragment header |
| 16 to 19 | number of this fragment, counted from zero |
| 20 to 35 | service ID |
| 36 to 39 | command of the service |
| 40 to 43 | kind of a command, status of its answer; an indication has no such field |
| next four | length of the payload |
| rest | payload |

- `Message.encode` writes a message as a single fragment.
- `Message.decode` reads one back. It asks for the exact length, for a single fragment and for a payload that fits;
  octets after the payload and the number of the fragment do not matter.
-/

namespace SimPhonebook

def headerSize : Nat := 12

def fragmentHeaderSize : Nat := 8

/-- The octets of a message of the type before its payload. -/
def MessageType.fixedSize : MessageType → Nat
  | .command | .commandDone => 48
  | .indication => 44
  | .openRequest | .openDone | .closeDone | .functionError | .hostError => 16
  | .closeRequest | .other _ => 12

/-! ## Writing -/

/-- The first twelve octets of a message of `length` octets. -/
def headerOctets (type : MessageType) (length : Nat) (transaction : UInt32) : Octets :=
  Octets.ofWord type.code ++ Octets.ofWord (UInt32.ofNat length) ++ Octets.ofWord transaction

/-- The fragment header of fragment `number` of `total`. -/
def fragmentOctets (total number : UInt32) : Octets := Octets.ofWord total ++ Octets.ofWord number

def Target.octets (t : Target) : Octets := t.service.octets ++ Octets.ofWord t.command

/-- The payload with its length before it. -/
def sizedPayload (payload : Octets) : Octets := Octets.ofWord (UInt32.ofNat payload.length) ++ payload

/-- What follows the header in a message sent in one piece. -/
def Body.octets : Body → Octets
  | .openRequest n => Octets.ofWord n
  | .closeRequest => []
  | .command t k p => fragmentOctets 1 0 ++ t.octets ++ Octets.ofWord k.code ++ sizedPayload p
  | .hostError f => Octets.ofWord f.code
  | .openDone s => Octets.ofWord s.code
  | .closeDone s => Octets.ofWord s.code
  | .commandDone t s p => fragmentOctets 1 0 ++ t.octets ++ Octets.ofWord s.code ++ sizedPayload p
  | .functionError f => Octets.ofWord f.code
  | .indication t p => fragmentOctets 1 0 ++ t.octets ++ sizedPayload p
  | .other _ => []

def Message.encode (m : Message) : Octets :=
  headerOctets m.type (headerSize + m.body.octets.length) m.transaction ++ m.body.octets

/-! ## Reading -/

/-- Why octets are not a message. -/
inductive DecodeError where
  /-- There is no whole header. -/
  | shortHeader (length : Nat)
  /-- The header gives another length than there is. -/
  | lengthMismatch (declared : UInt32) (length : Nat)
  /-- The fixed fields of the type do not fit. -/
  | shortBody (type : MessageType) (length : Nat)
  /-- The message is one fragment of several, or of none. -/
  | notReassembled (total : UInt32)
  /-- The payload does not fit. -/
  | payloadExceeds (declared : UInt32)
  | unknownType (code : UInt32)
deriving DecidableEq, Repr

instance : Described DecodeError where
  message
    | .shortHeader n => s!"message too short: {n} bytes"
    | .lengthMismatch declared n => s!"message length mismatch: header says {declared.toNat}, got {n}"
    | .shortBody type n => "message too short: " ++ type.name ++ s!" message is {n} bytes"
    | .notReassembled total => s!"fragmented message not reassembled: {total.toNat} fragments"
    | .payloadExceeds n => s!"message too short: buffer length {n.toNat} exceeds message"
    | .unknownType code => "unknown message type: " ++ Numeral.hexWord code

structure Header where
  type : MessageType
  length : UInt32
  transaction : UInt32
deriving DecidableEq, Repr

def Header.decode (data : Octets) : Except DecodeError Header :=
  if data.length < headerSize then .error (.shortHeader data.length)
  else .ok ⟨MessageType.ofCode (data.wordAt 0), data.wordAt 4, data.wordAt 8⟩

/-- The service ID and command at octet 20. Used only behind a length check. -/
def Target.ofOctets (data : Octets) : Target :=
  ⟨(ServiceId.ofOctets? ((data.drop 20).take 16)).getD ServiceId.zero, data.wordAt 36⟩

/-- The payload of the length given at `pos`, which starts right after that length. -/
def payloadAt (data : Octets) (pos : Nat) : Except DecodeError Octets :=
  let declared := data.wordAt pos
  if pos + 4 + declared.toNat > data.length then .error (.payloadExceeds declared)
  else .ok ((data.drop (pos + 4)).take declared.toNat)

/-- What a message of the type says, given all of its octets. -/
def Body.decode (type : MessageType) (data : Octets) : Except DecodeError Body :=
  if !type.isKnown then .error (.unknownType type.code)
  else if data.length < type.fixedSize then .error (.shortBody type data.length)
  else if type.isFragmented && data.wordAt 12 != 1 then .error (.notReassembled (data.wordAt 12))
  else match type with
    | .openRequest => .ok (.openRequest (data.wordAt 12))
    | .closeRequest => .ok .closeRequest
    | .openDone => .ok (.openDone ⟨data.wordAt 12⟩)
    | .closeDone => .ok (.closeDone ⟨data.wordAt 12⟩)
    | .functionError => .ok (.functionError ⟨data.wordAt 12⟩)
    | .hostError => .ok (.hostError ⟨data.wordAt 12⟩)
    | .command => (payloadAt data 44).map (.command (.ofOctets data) ⟨data.wordAt 40⟩)
    | .commandDone => (payloadAt data 44).map (.commandDone (.ofOctets data) ⟨data.wordAt 40⟩)
    | .indication => (payloadAt data 40).map (.indication (.ofOctets data))
    | .other code => .error (.unknownType code)

def Message.decode (data : Octets) : Except DecodeError Message := do
  let header ← Header.decode data
  if header.length.toNat ≠ data.length then throw (.lengthMismatch header.length data.length)
  let body ← Body.decode header.type data
  return ⟨header.transaction, body⟩

end SimPhonebook
