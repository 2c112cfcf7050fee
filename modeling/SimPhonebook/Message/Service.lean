import SimPhonebook.Text.Numeral

/-!
# Device services

A command is addressed to a device service, named by a 16-octet UUID, and to one of the service's commands, named by a
number.
-/

namespace SimPhonebook

/-- A UUID in the order its octets travel. -/
structure ServiceId where
  octets : Octets
  length_octets : octets.length = 16
deriving DecidableEq, Repr

namespace ServiceId

/-- The service ID of sixteen octets. -/
def ofOctets? (data : Octets) : Option ServiceId :=
  if h : data.length = 16 then some ⟨data, h⟩ else none

/-- The service ID of no service: all octets zero. -/
def zero : ServiceId := ⟨List.replicate 16 0, by decide⟩

instance : Inhabited ServiceId := ⟨zero⟩

def basicConnect : ServiceId :=
  ⟨[0xA2, 0x89, 0xCC, 0x33, 0xBC, 0xBB, 0x8B, 0x4F, 0xB6, 0xB0, 0x13, 0x3E, 0xC2, 0xAA, 0xE6, 0xDF], rfl⟩

def sms : ServiceId :=
  ⟨[0x53, 0x3F, 0xBE, 0xEB, 0x14, 0xFE, 0x44, 0x67, 0x9F, 0x90, 0x33, 0xA2, 0x23, 0xE5, 0x6C, 0x3F], rfl⟩

def ussd : ServiceId :=
  ⟨[0xE5, 0x50, 0xA0, 0xC8, 0x5E, 0x82, 0x47, 0x9E, 0x82, 0xF7, 0x10, 0xAB, 0xF4, 0xC3, 0x35, 0x1F], rfl⟩

def phonebook : ServiceId :=
  ⟨[0x4B, 0xF3, 0x84, 0x76, 0x1E, 0x6A, 0x41, 0xDB, 0xB1, 0xD8, 0xBE, 0xD2, 0x89, 0xC2, 0x5B, 0xDB], rfl⟩

def stk : ServiceId :=
  ⟨[0xD8, 0xF2, 0x01, 0x31, 0xFC, 0xB5, 0x4E, 0x17, 0x86, 0x02, 0xD6, 0xED, 0x38, 0x16, 0x16, 0x4C], rfl⟩

def auth : ServiceId :=
  ⟨[0x1D, 0x2B, 0x5F, 0xF7, 0x0A, 0xA1, 0x48, 0xB2, 0xAA, 0x52, 0x50, 0xF1, 0x57, 0x67, 0x17, 0x4E], rfl⟩

def dss : ServiceId :=
  ⟨[0xC0, 0x8A, 0x26, 0xDD, 0x77, 0x18, 0x43, 0x82, 0x84, 0x82, 0x6E, 0x0D, 0x58, 0x3C, 0x4D, 0x0E], rfl⟩

/-- The names of the services known by name. -/
def names : List (ServiceId × String) :=
  [(basicConnect, "basic-connect"), (sms, "sms"), (ussd, "ussd"), (phonebook, "phonebook"), (stk, "stk"),
    (auth, "auth"), (dss, "dss")]

/-- The UUID in five groups of digits. -/
def uuid (s : ServiceId) : Text :=
  Text.join "-" ([(0, 4), (4, 2), (6, 2), (8, 2), (10, 6)].map fun (start, count) =>
    Numeral.hexOctets ((s.octets.drop start).take count))

/-- The short name of a known service, or the UUID. -/
def name (s : ServiceId) : Text :=
  match names.find? (·.1 = s) with
  | some (_, n) => n
  | none => s.uuid

end ServiceId

/-- A command of a device service. -/
structure Target where
  service : ServiceId
  command : UInt32
deriving DecidableEq, Repr, Inhabited

namespace Target

def phonebookConfiguration : Target := ⟨.phonebook, 1⟩

def phonebookRead : Target := ⟨.phonebook, 2⟩

def phonebookDelete : Target := ⟨.phonebook, 3⟩

def phonebookWrite : Target := ⟨.phonebook, 4⟩

/-- The names of the commands known by name. -/
def names : List (Target × String) :=
  [(phonebookConfiguration, "configuration"), (phonebookRead, "read"), (phonebookDelete, "delete"),
    (phonebookWrite, "write")]

/-- The name of the command within its service, or its number. -/
def commandName (t : Target) : Text :=
  match names.find? (·.1 = t) with
  | some (_, n) => n
  | none => "unknown (" ++ Numeral.word t.command ++ ")"

end Target

/-- What a command asks of the device: to tell or to change something. -/
structure CommandKind where
  code : UInt32
deriving DecidableEq, Repr, Inhabited

namespace CommandKind

def query : CommandKind := ⟨0⟩

def set : CommandKind := ⟨1⟩

def name (k : CommandKind) : Text :=
  if k = query then "query" else if k = set then "set" else "unknown (" ++ Numeral.word k.code ++ ")"

end CommandKind

end SimPhonebook
