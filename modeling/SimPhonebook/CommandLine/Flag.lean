import SimPhonebook.Text.Basic

/-!
# Flags

What can stand on the command line. Every flag has a name, some a letter too. Switches stand alone; the others need a value.
-/

namespace SimPhonebook

inductive Flag where
  | help | device | config | verbose | noOpen | noClose | noProgress | version
  | queryConfiguration | read | readAll | write | entryUpdate | delete | deleteAll
deriving DecidableEq, Repr

namespace Flag

/-- All flags, in the order in which they are offered. -/
def all : List Flag :=
  [help, device, config, verbose, noOpen, noClose, noProgress, version, queryConfiguration, read, readAll, write,
    entryUpdate, delete, deleteAll]

def name : Flag → Text
  | help => "--help"
  | device => "--device"
  | config => "--config"
  | verbose => "--verbose"
  | noOpen => "--no-open"
  | noClose => "--no-close"
  | noProgress => "--no-progress"
  | version => "--version"
  | queryConfiguration => "--phonebook-query-configuration"
  | read => "--phonebook-read"
  | readAll => "--phonebook-read-all"
  | write => "--phonebook-write"
  | entryUpdate => "--phonebook-entry-update"
  | delete => "--phonebook-delete"
  | deleteAll => "--phonebook-delete-all"

/-- The flag by its letter. -/
def letter? : Flag → Option Text
  | help => some "-h"
  | device => some "-d"
  | verbose => some "-v"
  | _ => none

/-- All ways to write the flag. -/
def spellings (f : Flag) : List Text := f.name :: f.letter?.toList

/-- The flag written so. -/
def ofSpelling? (t : Text) : Option Flag := all.find? fun f => f.spellings.contains t

/-- What a flag takes. -/
inductive Kind where
  /-- Nothing, or a truth value attached to it. -/
  | switch
  /-- Nothing at all. -/
  | bare
  | text
  | path
  | integer
deriving DecidableEq, Repr

def kind : Flag → Kind
  | help | verbose | noOpen | noClose | noProgress | queryConfiguration | readAll | deleteAll => .switch
  | version => .bare
  | device | write | entryUpdate => .text
  | config => .path
  | read | delete => .integer

/-- Whether a flag of the kind needs a value. -/
def Kind.needsValue : Kind → Bool
  | switch | bare => false
  | text | path | integer => true

/-- What a value of the kind is called. -/
def Kind.valueName : Kind → Text
  | switch | bare => "bool"
  | text => "string"
  | path => "file"
  | integer => "int"

end Flag

end SimPhonebook
