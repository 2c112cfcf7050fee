import SimPhonebook.Device.Promise
import SimPhonebook.Duration
import SimPhonebook.Message.Reassembly
import SimPhonebook.Stream

/-!
# Calls

A call is a request under way and the promise of its outcome: the answer from the device, or the reason why there is none.
-/

namespace SimPhonebook

/-- Why a call has no answer. -/
inductive CallError where
  | deviceClosed
  /-- The incoming stream has failed. -/
  | readFailed (error : Stream.Error)
  | notEncoded (error : LimitTooSmall)
  /-- Writing fragment `number` of `total` failed. -/
  | writeFailed (number total : Nat) (reason : Text)
  | timedOut (timeout : Duration) (transaction : UInt32)
  | cancelled
  | notReassembled (error : ReassemblyError)
  | notDecoded (error : DecodeError)
  /-- The device answered with a failure. -/
  | refused (failure : DeviceFailure)
  /-- The device answered with a message of a type that does not answer the request. -/
  | unexpectedType (got request : MessageType)
deriving DecidableEq, Repr

instance : Described CallError where
  message
    | .deviceClosed => "device closed"
    | .readFailed e => "device read failed: " ++ message e
    | .notEncoded e => "failed to encode request: " ++ message e
    | .writeFailed number total reason => s!"failed to write fragment {number}/{total}: " ++ reason
    | .timedOut timeout transaction =>
      "operation timed out after " ++ timeout.text ++ s!" (transaction {transaction.toNat})"
    | .cancelled => "operation cancelled: context canceled"
    | .notReassembled e => "failed to reassemble response: " ++ message e
    | .notDecoded e => "failed to decode response: " ++ message e
    | .refused f => message f
    | .unexpectedType got request => "unexpected response type: got " ++ got.name ++ " for " ++ request.name

abbrev Outcome := Except CallError Message

instance : DecidableEq Outcome
  | .ok a, .ok b => if h : a = b then isTrue (h ▸ rfl) else isFalse fun e => h (Except.ok.inj e)
  | .error a, .error b => if h : a = b then isTrue (h ▸ rfl) else isFalse fun e => h (Except.error.inj e)
  | .ok _, .error _ => isFalse nofun
  | .error _, .ok _ => isFalse nofun

/-- How far the sending of a request has come. -/
inductive Sending where
  /-- The call has its transaction ID, but the device does not know of it yet. -/
  | unregistered
  | due
  /-- All of it is written. From here on the call may time out or be cancelled. -/
  | complete
  | over
deriving DecidableEq, Repr

structure Call where
  /-- The request with the transaction ID it was given. -/
  request : Message
  timeout : Duration
  sending : Sending
  promise : Promise Outcome
deriving DecidableEq, Repr

namespace Call

def transaction (c : Call) : UInt32 := c.request.transaction

def outcome? (c : Call) : Option Outcome := c.promise.result

end Call

end SimPhonebook
