import SimPhonebook.Stream

/-!
# The other side

What a modem sends, as far as a host can see it: a greeting as soon as it is connected, and a reaction to each request that
has been written completely.
-/

namespace SimPhonebook

/-- Octets in chunks as they arrive, and perhaps the end of the stream. -/
structure Reaction where
  chunks : List Octets
  ending : Option Ending
deriving DecidableEq, Repr

def Reaction.silence : Reaction := ⟨[], none⟩

instance : Inhabited Reaction := ⟨.silence⟩

inductive Modem where
  /-- Greets, then reacts to one request after the other as laid down, then to none. -/
  | scripted (reactions : List Reaction) (greeting : Reaction := .silence)
  /-- Sends back what it receives. -/
  | echo
deriving DecidableEq, Repr

namespace Modem

def silent : Modem := .scripted []

instance : Inhabited Modem := ⟨silent⟩

/-- Sends something of its own accord and reacts to nothing. -/
def playing (greeting : Reaction) : Modem := .scripted [] greeting

/-- What the modem sends before any request. -/
def greeting : Modem → Reaction
  | scripted _ r => r
  | echo => .silence

/-- The reaction to a request of the given frames, and the modem after it. -/
def react : Modem → List Octets → Reaction × Modem
  | scripted [] g, _ => (.silence, scripted [] g)
  | scripted (r :: rest) g, _ => (r, scripted rest g)
  | echo, frames => (⟨frames, none⟩, echo)

end Modem

end SimPhonebook
