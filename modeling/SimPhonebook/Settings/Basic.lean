import SimPhonebook.Duration
import SimPhonebook.Files.Path

/-!
# Settings

What a run can be told by a settings file, and where that file is looked for.
-/

namespace SimPhonebook

structure Settings where
  device : Text
  verbose : Bool
  openTimeout : Duration
  noOpen : Bool
  noClose : Bool
  noProgress : Bool
deriving DecidableEq, Repr

namespace Settings

def defaultDevice : Text := "/dev/cdc-wdm0"

def defaultOpenTimeout : Duration := .seconds 15

def default : Settings := ⟨defaultDevice, false, defaultOpenTimeout, false, false, false⟩

instance : Inhabited Settings := ⟨default⟩

/-- The settings with the default for a device or timeout that says nothing. -/
def completed (s : Settings) : Settings :=
  { s with
    device := if s.device.isEmpty then defaultDevice else s.device
    openTimeout := if s.openTimeout.nanoseconds ≤ 0 then defaultOpenTimeout else s.openTimeout }

end Settings

/-- Where a run takes place. -/
structure Environment where
  /-- The environment variables that are set. -/
  assignments : List (Text × Text)
  /-- The working directory. -/
  directory : Text
  /-- The home directory of the user, if it is known. -/
  home : Option Text
deriving Repr

/-- The value of a variable; empty if it is not set. -/
def Environment.get (e : Environment) (name : Text) : Text := (e.assignments.lookup name).getD Text.empty

/-- The directory for settings: the one the environment names, which has to be absolute, or one in the home directory. -/
def Environment.configDirectory? (e : Environment) : Option Text :=
  let named := e.get "XDG_CONFIG_HOME"
  let home := e.get "HOME"
  if !named.isEmpty then if Path.isAbsolute named then some named else none
  else if home.isEmpty then none
  else some (home ++ "/.config")

/-- Where settings are looked for if no file is named; empty if nowhere. -/
def Settings.defaultPath (e : Environment) : Text :=
  match e.configDirectory? with
  | some directory => Path.join [directory, "mbim", "config.yaml"]
  | none => Text.empty

end SimPhonebook
