import SimPhonebook.Text.Numeral

/-!
# Actions

The one thing a run does to the phonebook, with its arguments as they were given.
-/

namespace SimPhonebook.Phonebook

inductive Action where
  /-- Nothing was asked for. -/
  | none
  | queryConfiguration
  | read (index : Int32)
  | readAll
  | write (input : Text)
  | update (input : Text)
  | delete (index : Int32)
  | deleteAll
  /-- A number that stands for no action. -/
  | unassigned (number : Int)
deriving DecidableEq, Repr, Inhabited

namespace Action

/-- The number of the kind of action. -/
def number : Action → Int
  | none => 0
  | queryConfiguration => 1
  | read _ => 2
  | readAll => 3
  | write _ => 4
  | update _ => 5
  | delete _ => 6
  | deleteAll => 7
  | unassigned n => n

/-- The action of a number, with the index and the input it may need. -/
def ofNumber (n : Int) (index : Int32) (input : Text) : Action :=
  match n with
  | 0 => none
  | 1 => queryConfiguration
  | 2 => read index
  | 3 => readAll
  | 4 => write input
  | 5 => update input
  | 6 => delete index
  | 7 => deleteAll
  | n => unassigned n

def name : Action → Text
  | none => "none"
  | queryConfiguration => "query-configuration"
  | read _ => "read"
  | readAll => "read-all"
  | write _ => "write"
  | update _ => "entry-update"
  | delete _ => "delete"
  | deleteAll => "delete-all"
  | unassigned n => "ActionKind(" ++ Numeral.integer n ++ ")"

/-- The index an action is about; zero where it is about none. -/
def index : Action → Int32
  | read i | delete i => i
  | _ => 0

/-- The input of an action; empty where it has none. -/
def input : Action → Text
  | write t | update t => t
  | _ => Text.empty

end Action

end SimPhonebook.Phonebook
