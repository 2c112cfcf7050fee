import SimPhonebook.Log

/-!
# The journal of a run

Everything a run tells on its error stream, in order: diagnostics and printed lines. A diagnostic has a voice, since the
reader of the incoming stream works beside the rest and its lines have no fixed place among the others.
-/

namespace SimPhonebook

/-- Who writes a diagnostic. -/
inductive Voice where
  /-- The run itself. -/
  | host
  /-- The reader of the incoming stream. -/
  | reader
deriving DecidableEq, Repr

inductive Note where
  | diagnostic (voice : Voice) (record : Log.Record)
  | printed (text : Text)
deriving DecidableEq, Repr

abbrev Journal := List Note

namespace Journal

/-- The printed text alone. -/
def printed (j : Journal) : Text :=
  Text.concat (j.filterMap fun n => match n with
    | .printed t => some t
    | .diagnostic _ _ => none)

/-- The lines of the diagnostics in a voice that a verbose run shows. -/
def lines (voice : Voice) (j : Journal) : List Text :=
  j.filterMap fun n => match n with
    | .diagnostic v r => if v = voice then some r.line else none
    | .printed _ => none

/-- The error stream: printed text, and the diagnostics in the voices that are shown. -/
def errorStream (shown : Voice → Bool) (j : Journal) : Text :=
  Text.concat (j.filterMap fun n => match n with
    | .printed t => some t
    | .diagnostic v r => if shown v then some r.line else none)

end Journal

end SimPhonebook
