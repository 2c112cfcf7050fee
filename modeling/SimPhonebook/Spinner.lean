import SimPhonebook.Style

/-!
# Waiting for the device

A spinner with a label, shown on a terminal until a call completes. It moves by ticks; a tick that another spinner made, or
that is older than the last one obeyed, does nothing.
-/

namespace SimPhonebook

/-- A tick, and the number of ticks its spinner had obeyed when it was made. -/
structure Tick where
  /-- Whether it was made by the spinner that receives it. -/
  own : Bool
  tag : Nat
deriving DecidableEq, Repr

structure Spinner where
  label : Text
  frame : Nat
  tag : Nat
  /-- Whether the call has completed. -/
  done : Bool
deriving DecidableEq, Repr

namespace Spinner

def frames : List Text := ["⣾ ", "⣽ ", "⣻ ", "⢿ ", "⡿ ", "⣟ ", "⣯ ", "⣷ "]

def new (label : Text) : Spinner := ⟨label, 0, 0, false⟩

/-- A tick made now. -/
def tick (s : Spinner) : Tick := ⟨true, s.tag⟩

/-- What happens while waiting. -/
inductive Event where
  | tick (t : Tick)
  /-- The call has completed. -/
  | completed
  /-- Anything else. -/
  | unrelated
deriving DecidableEq, Repr

/-- What has to be done after an event. -/
inductive Effect where
  | nothing
  /-- The next tick has to be made. -/
  | nextTick
  | quit
deriving DecidableEq, Repr

def update (s : Spinner) : Event → Spinner × Effect
  | .completed => (⟨s.label, s.frame, s.tag, true⟩, .quit)
  | .unrelated => (s, .nothing)
  | .tick t =>
    if !t.own || (t.tag > 0 && t.tag != s.tag) then (s, .nothing)
    else (⟨s.label, (s.frame + 1) % frames.length, s.tag + 1, s.done⟩, .nextTick)

def view (s : Spinner) (color : Bool) : Text :=
  if s.done then Text.empty
  else Style.spinner.render color (frames[s.frame]?.getD Text.empty) ++ " " ++ Style.muted.render color s.label

end Spinner

end SimPhonebook
