import SimPhonebook.CommandLine.Flag
import SimPhonebook.Text.EditDistance
import SimPhonebook.Text.Quoted

/-!
# Mistakes on the command line

Why a command line cannot be understood. For a flag that does not exist, those that start with what was written or differ
from it by little are offered.
-/

namespace SimPhonebook

inductive UsageError where
  | unexpectedArgument (argument : Text)
  | unknownFlag (written : Text)
  /-- A value for a flag that takes none. -/
  | unexpectedValue (value : Text)
  | invalidTruth (flag : Flag) (value : Text)
  | invalidInteger (flag : Flag) (value : Text)
  | missingValue (flag : Flag)
  /-- A flag where the value of another one should be. -/
  | flagForValue (flag : Flag) (argument : Text)
deriving DecidableEq, Repr

/-- Whether a way to write a flag is close to what was written. -/
def isNear (written candidate : Text) : Bool :=
  candidate.startsWith written || EditDistance.distance candidate.chars written.chars ≤ 2

/-- The ways to write a flag that may have been meant. -/
def suggestions (written : Text) : List Text := (Flag.all.flatMap Flag.spellings).filter (isNear written)

/-- The end of a message that offers suggestions. -/
def offer (candidates : List Text) : Text :=
  match candidates with
  | [] => Text.empty
  | [c] => ", did you mean " ++ c.quoted ++ "?"
  | cs => ", did you mean one of " ++ Text.join ", " (cs.map Text.quoted) ++ "?"

instance : Described UsageError where
  message
    | .unexpectedArgument a => "unexpected argument " ++ a
    | .unknownFlag w => "unknown flag " ++ w ++ offer (suggestions w)
    | .unexpectedValue v => "unexpected flag argument " ++ v.quoted
    | .invalidTruth f v => f.name ++ ": bool value must be true, 1, yes, false, 0 or no but got " ++ v.quoted
    | .invalidInteger f v => f.name ++ ": expected a valid 32 bit int but got " ++ v.quoted
    | .missingValue f => f.name ++ ": expected " ++ f.kind.valueName ++ " value but got \"EOL\" (<EOL>)"
    | .flagForValue f a =>
      f.name ++ ": expected " ++ f.kind.valueName ++ " value but got " ++ a.quoted ++
        (if a.startsWith "--" then " (long flag)" else " (short flag)") ++
        "; perhaps try " ++ f.name ++ "=" ++ a.quoted ++ "?"

end SimPhonebook
