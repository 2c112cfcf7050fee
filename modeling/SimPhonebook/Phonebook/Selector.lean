import SimPhonebook.Phonebook.Action

/-!
# Selecting the action

A run does one action. `Options` holds what was asked for; an index of zero and an empty text stand for an option that was
not given. A `Selector` decides once, at its first use, and keeps the decision, so that the complaint about several
actions is printed at most once.
-/

namespace SimPhonebook.Phonebook

structure Options where
  queryConfiguration : Bool := false
  read : Int32 := 0
  readAll : Bool := false
  write : Text := Text.empty
  entryUpdate : Text := Text.empty
  delete : Int32 := 0
  deleteAll : Bool := false
deriving DecidableEq, Repr, Inhabited

namespace Options

/-- Whether each option is given, in the order in which they are counted. -/
def given (o : Options) : List Bool :=
  [o.queryConfiguration, o.read ≠ 0, o.readAll, o.write ≠ Text.empty, o.entryUpdate ≠ Text.empty, o.delete ≠ 0,
    o.deleteAll]

/-- How many actions are asked for. -/
def count (o : Options) : Nat := o.given.count true

/-- The first action asked for. Actions are looked at in an order of their own, with the inputs last. -/
def action (o : Options) : Action :=
  if o.queryConfiguration then .queryConfiguration
  else if o.read ≠ 0 then .read o.read
  else if o.readAll then .readAll
  else if o.delete ≠ 0 then .delete o.delete
  else if o.deleteAll then .deleteAll
  else if o.write ≠ Text.empty then .write o.write
  else if o.entryUpdate ≠ Text.empty then .update o.entryUpdate
  else .none

end Options

/-- More than one action was asked for. -/
structure TooManyActions where
  count : Nat
deriving DecidableEq, Repr

instance : Described TooManyActions :=
  ⟨fun e => s!"[PHONEBOOK_TOO_MANY_ACTIONS]: too many phonebook actions requested: {e.count}"⟩

/-- What is printed when more than one action was asked for. -/
def tooManyLine : Text := "error: too many phonebook actions requested\n"

/-- What the options come to. -/
structure Decision where
  count : Nat
  /-- The one action asked for; `none` if there is none or there are several. -/
  action : Action
  error : Option TooManyActions
deriving DecidableEq, Repr

def Options.decide (o : Options) : Decision :=
  if 1 < o.count then ⟨o.count, .none, some ⟨o.count⟩⟩ else ⟨o.count, o.action, none⟩

structure Selector where
  options : Options
  /-- The decision, once it has been made. -/
  decision : Option Decision
  /-- All that was printed. -/
  printed : Text
deriving DecidableEq, Repr

namespace Selector

def new (options : Options) : Selector := ⟨options, none, Text.empty⟩

/-- The decision and the selector that keeps it. A decision against several actions is printed when it is made. -/
def settle (s : Selector) : Selector × Decision :=
  match s.decision with
  | some d => (s, d)
  | none =>
    let d := s.options.decide
    (⟨s.options, some d, if d.error.isSome then s.printed ++ tooManyLine else s.printed⟩, d)

/-- Whether exactly one action was asked for. -/
def enabled (s : Selector) : Selector × Bool × Option TooManyActions :=
  let (s, d) := s.settle
  (s, d.error.isNone && d.count == 1, d.error)

/-- The selected action. -/
def action (s : Selector) : Selector × Action × Option TooManyActions :=
  let (s, d) := s.settle
  (s, d.action, d.error)

end Selector

end SimPhonebook.Phonebook
