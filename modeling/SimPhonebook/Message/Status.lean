import SimPhonebook.Text.Numeral

/-!
# Status and fault codes

The codes a device answers with: a `Status` in every answer to a request, a `Fault` where it could not make sense of what
it received. Codes outside the tables are shown by number.
-/

namespace SimPhonebook

/-- How a request ended on the device. -/
structure Status where
  code : UInt32
deriving DecidableEq, Repr, Inhabited

namespace Status

def success : Status := ⟨0⟩

def isSuccess (s : Status) : Bool := s.code == 0

/-- The names of the defined codes. -/
def names : List (UInt32 × String) :=
  [(0, "success"), (1, "busy"), (2, "failure"), (3, "sim-not-inserted"), (4, "bad-sim"), (5, "pin-required"),
    (6, "pin-disabled"), (7, "not-registered"), (8, "providers-not-found"), (9, "no-device-support"),
    (10, "provider-not-visible"), (11, "data-class-not-available"), (12, "packet-service-detached"),
    (13, "max-activated-contexts"), (14, "not-initialized"), (15, "voice-call-in-progress"),
    (16, "context-not-activated"), (17, "service-not-activated"), (18, "invalid-access-string"),
    (19, "invalid-user-name-pwd"), (20, "radio-power-off"), (21, "invalid-parameters"), (22, "read-failure"),
    (23, "write-failure"), (25, "no-phonebook"), (26, "parameter-too-long"), (27, "stk-busy"),
    (28, "operation-not-allowed"), (29, "memory-failure"), (30, "invalid-memory-index"), (31, "memory-full"),
    (32, "filter-not-supported"), (33, "dss-instance-limit"), (34, "invalid-device-service-operation"),
    (35, "auth-incorrect-autn"), (36, "auth-sync-failure"), (37, "auth-amf-not-set"), (38, "context-not-supported"),
    (100, "sms-unknown-smsc-address"), (101, "sms-network-timeout"), (102, "sms-lang-not-supported"),
    (103, "sms-encoding-not-supported"), (104, "sms-format-not-supported")]

def name (s : Status) : Text :=
  match names.lookup s.code with
  | some n => n
  | none => "unknown (" ++ Numeral.hexWord s.code ++ ")"

end Status

/-- Why a device or host could not handle a message. -/
structure Fault where
  code : UInt32
deriving DecidableEq, Repr, Inhabited

namespace Fault

/-- The names of the defined codes. -/
def names : List (UInt32 × String) :=
  [(1, "timeout-fragment"), (2, "fragment-out-of-sequence"), (3, "length-mismatch"), (4, "duplicated-tid"),
    (5, "not-opened"), (6, "unknown"), (7, "cancel"), (8, "max-transfer")]

def name (f : Fault) : Text :=
  match names.lookup f.code with
  | some n => n
  | none => "unknown (" ++ Numeral.hexWord f.code ++ ")"

end Fault

/-- The failure an answer from the device reports. -/
inductive DeviceFailure where
  | status (s : Status)
  | fault (f : Fault)
deriving DecidableEq, Repr

instance : Described DeviceFailure where
  message
    | .status s => "device returned status " ++ s.name
    | .fault f => "device reported protocol error " ++ f.name

end SimPhonebook
