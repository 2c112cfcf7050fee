import SimPhonebook.Settings.Basic

/-!
# Color

Whether output is colored: the environment may forbid it or ask for it in any case. Otherwise there is color on a terminal
that is known to have it.
-/

namespace SimPhonebook

/-- Whether `part` occurs among the octets. -/
def occurs (part : Octets) : Octets → Bool
  | [] => part.isEmpty
  | b :: rest => part.isPrefixOf (b :: rest) || occurs part rest

namespace Environment

/-- Whether color is asked for even where there is no terminal. -/
def forcesColor (e : Environment) : Bool :=
  let value := e.get "CLICOLOR_FORCE"
  !value.isEmpty && value != "0"

def forbidsColor (e : Environment) : Bool :=
  !(e.get "NO_COLOR").isEmpty || (e.get "CLICOLOR" == "0" && !e.forcesColor)

/-- Whether the terminal is one with color. -/
def namesColor (e : Environment) : Bool :=
  let kind := e.get "TERM"
  let mentions (word : String) : Bool := occurs (Text.ofString word).octets kind.octets
  !(e.get "COLORTERM").isEmpty || mentions "color" || mentions "ansi" || kind == "linux"

/-- Whether to use color on a stream, which may be a terminal. -/
def color (e : Environment) (terminal : Bool) : Bool := !e.forbidsColor && (e.forcesColor || (terminal && e.namesColor))

end Environment

end SimPhonebook
