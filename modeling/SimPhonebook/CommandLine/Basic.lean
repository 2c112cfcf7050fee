import SimPhonebook.CommandLine.UsageError
import SimPhonebook.Phonebook.Selector
import SimPhonebook.Settings.Load
import SimPhonebook.Text.Integer
import SimPhonebook.Text.Lowercase

/-!
# The command line

Arguments are read one after the other. `--name` and `-x` are flags, `-xyz` several of them at once. A value is attached,
as in `--name=value` and `-xvalue`, or it is the next argument, which then must not look like a flag. Where a flag is
repeated, the last time counts. Nothing but flags may stand on the line, and `--` ends them.

A line that asks for help or for the version gets that, if all of it can be understood.
-/

namespace SimPhonebook

/-- What was asked for on the command line. -/
structure CommandLine where
  /-- The device; empty if none is named. -/
  device : Text
  /-- The path of the settings file; empty if none is named. -/
  config : Text
  verbose : Bool
  noOpen : Bool
  noClose : Bool
  noProgress : Bool
  options : Phonebook.Options
deriving DecidableEq, Repr

/-- What a user can be told about the program instead of a run. -/
inductive Notice where
  | help
  | version
deriving DecidableEq, Repr

namespace CommandLine

/-- How far the arguments have been read. -/
structure Reading where
  /-- The device named on the line, if one is. -/
  device : Option Text
  /-- The settings file as it is written on the line, if it is. -/
  config : Option Text
  verbose : Bool
  noOpen : Bool
  noClose : Bool
  noProgress : Bool
  options : Phonebook.Options
  /-- What is asked for first instead of a run. -/
  notice : Option Notice
  /-- A flag that waits for its value. -/
  pending : Option Flag
  /-- Whether the flags are over. -/
  ended : Bool
deriving DecidableEq, Repr

namespace Reading

def start : Reading := ⟨none, none, false, false, false, false, {}, none, none, false⟩

/-- Asks for a notice, if none has been asked for yet. -/
def ask (r : Reading) (n : Notice) : Reading := { r with notice := r.notice.or (some n) }

/-- Sets a switch. Help is given whichever way its switch is set. -/
def switch (r : Reading) (f : Flag) (b : Bool) : Reading :=
  match f with
  | .help => r.ask .help
  | .version => r.ask .version
  | .verbose => { r with verbose := b }
  | .noOpen => { r with noOpen := b }
  | .noClose => { r with noClose := b }
  | .noProgress => { r with noProgress := b }
  | .queryConfiguration => { r with options := { r.options with queryConfiguration := b } }
  | .readAll => { r with options := { r.options with readAll := b } }
  | .deleteAll => { r with options := { r.options with deleteAll := b } }
  | .device | .config | .read | .write | .entryUpdate | .delete => r

def setText (r : Reading) (f : Flag) (t : Text) : Reading :=
  match f with
  | .device => { r with device := some t }
  | .config => { r with config := some t }
  | .write => { r with options := { r.options with write := t } }
  | .entryUpdate => { r with options := { r.options with entryUpdate := t } }
  | _ => r

def setIndex (r : Reading) (f : Flag) (n : Int32) : Reading :=
  match f with
  | .read => { r with options := { r.options with read := n } }
  | .delete => { r with options := { r.options with delete := n } }
  | _ => r

end Reading

/-- The truth value of a text in lower case. -/
def truth? (t : Text) : Option Bool :=
  if t = "true" || t = "1" || t = "yes" then some true
  else if t = "false" || t = "0" || t = "no" then some false
  else none

/-- Gives a flag its value. -/
def assign (r : Reading) (f : Flag) (value : Text) : Except UsageError Reading :=
  match f.kind with
  | .switch =>
    match truth? value.lower with
    | some b => .ok (r.switch f b)
    | none => .error (.invalidTruth f value.lower)
  | .bare => .error (.unexpectedValue value)
  | .text | .path => .ok (r.setText f value)
  | .integer =>
    match Integer.int32? value with
    | some n => .ok (r.setIndex f n)
    | none => .error (.invalidInteger f value)

/-- A flag with nothing attached: a switch is turned on, any other flag waits for its value. -/
def raise (r : Reading) (f : Flag) : Reading := if f.kind.needsValue then { r with pending := some f } else r.switch f true

def dash : UInt8 := 0x2D

def equals : UInt8 := 0x3D

/-- A flag by name, perhaps with a value attached. -/
def readNamed (r : Reading) (argument : Octets) : Except UsageError Reading :=
  let name : Text := ⟨argument.takeWhile (· ≠ equals)⟩
  match Flag.ofSpelling? name, argument.dropWhile (· ≠ equals) with
  | none, _ => .error (.unknownFlag name)
  | some f, [] => .ok (raise r f)
  | some f, _ :: value => assign r f ⟨value⟩

/-- Flags by letter. What follows one that needs a value is its value. -/
def readLetters (r : Reading) : Octets → Except UsageError Reading
  | [] => .ok r
  | b :: rest =>
    match Flag.ofSpelling? ⟨[dash, b]⟩ with
    | none => .error (.unknownFlag ⟨[dash, b]⟩)
    | some f => if f.kind.needsValue && !rest.isEmpty then assign r f ⟨rest⟩ else readLetters (raise r f) rest

/-- Whether an argument looks like a flag. -/
def isFlagLike : Octets → Bool
  | b :: _ :: _ => b = dash
  | _ => false

/-- Reads the next argument. -/
def readArgument (r : Reading) (argument : Text) : Except UsageError Reading :=
  match r.pending with
  | some f =>
    if isFlagLike argument.octets then .error (.flagForValue f argument)
    else assign { r with pending := none } f argument
  | none =>
    if r.ended || !isFlagLike argument.octets then .error (.unexpectedArgument argument)
    else if argument = "--" then .ok { r with ended := true }
    else if argument.startsWith "--" then readNamed r argument.octets
    else readLetters r (argument.octets.drop 1)

/-- Reads all arguments. -/
def readArguments (arguments : List Text) : Except UsageError Reading := do
  let r ← arguments.foldlM readArgument .start
  match r.pending with
  | some f => .error (.missingValue f)
  | none => .ok r

/-- A path from the command line: `-` stays, one in the home directory or below the working directory becomes absolute. -/
def locate (e : Environment) (path : Text) : Text :=
  if path = "-" || Path.isAbsolute path then path
  else if path.startsWith "~/" then
    match e.home with
    | some home => Path.join [home, path.dropOctets 2]
    | none => path
  else Path.join [e.directory, path]

/-- What the arguments come to: a notice, or a command line in its environment. -/
def parse (e : Environment) (arguments : List Text) : Except UsageError (Notice ⊕ CommandLine) := do
  let r ← readArguments arguments
  return match r.notice with
    | some n => .inl n
    | none => .inr ⟨r.device.getD (e.get "MBIM_DEVICE"), (r.config.map (locate e)).getD Text.empty, r.verbose, r.noOpen,
        r.noClose, r.noProgress, r.options⟩

/-- Where the settings file is looked for; empty if nowhere. -/
def settingsPath (c : CommandLine) (e : Environment) : Text := if c.config.isEmpty then Settings.defaultPath e else c.config

/-- The settings with the command line over them. -/
def override (c : CommandLine) (s : Settings) : Settings :=
  { s with
    device := if c.device.isEmpty then s.device else c.device
    verbose := s.verbose || c.verbose
    noOpen := s.noOpen || c.noOpen
    noClose := s.noClose || c.noClose
    noProgress := s.noProgress || c.noProgress }

/-- The settings for the run: those of the settings file, and over them the command line. A file that is named has to be
there. -/
def settings (c : CommandLine) (e : Environment) (read : Text → Except FileError Octets) :
    Except Settings.LoadError Settings := do
  let s ← Settings.load read (c.settingsPath e) (!c.config.isEmpty)
  return c.override s

/-! ## Where the settings come from -/

/-- What the command line makes of the settings in the file: a device it names comes first, and a switch counts wherever it
is turned on. -/
structure Overrides (c : CommandLine) (file s : Settings) : Prop where
  device : s.device = if c.device = Text.empty then file.device else c.device
  openTimeout : s.openTimeout = file.openTimeout
  verbose : s.verbose = true ↔ c.verbose = true ∨ file.verbose = true
  noOpen : s.noOpen = true ↔ c.noOpen = true ∨ file.noOpen = true
  noClose : s.noClose = true ↔ c.noClose = true ∨ file.noClose = true
  noProgress : s.noProgress = true ↔ c.noProgress = true ∨ file.noProgress = true

/-- The settings are those of a file, with the command line over them. A file that the line names has to be there. Where it
names none, the environment says where one is looked for. -/
def Configures (c : CommandLine) (e : Environment) (read : Text → Except FileError Octets) (s : Settings) : Prop :=
  ∃ file, (if c.config = Text.empty then Settings.Loads read (Settings.defaultPath e) false file
    else Settings.Loads read c.config true file) ∧ c.Overrides file s

section
variable {c : CommandLine} {e : Environment} {read : Text → Except FileError Octets} {file s : Settings}

theorem load_settingsPath_iff : Settings.load read (c.settingsPath e) (!c.config.isEmpty) = .ok file ↔
    if c.config = Text.empty then Settings.Loads read (Settings.defaultPath e) false file
    else Settings.Loads read c.config true file := by
  rw [Settings.load_eq_ok_iff, settingsPath]
  by_cases hnamed : c.config = Text.empty
  · simp [hnamed, Text.isEmpty_iff.2 rfl]
  · simp [hnamed, Bool.eq_false_iff.2 (mt Text.isEmpty_iff.1 hnamed)]

theorem overrides_iff : c.Overrides file s ↔ s = c.override file := by
  have hswitch : ∀ a b : Bool, (a || b) = true ↔ b = true ∨ a = true := by decide
  constructor
  · rintro ⟨hdevice, htimeout, hverbose, hopen, hclose, hprogress⟩
    have heq : ∀ {x a b : Bool}, (x = true ↔ b = true ∨ a = true) → x = (a || b) := fun h =>
      Bool.eq_iff_iff.2 (h.trans (hswitch _ _).symm)
    obtain ⟨device, verbose, timeout, noOpen, noClose, noProgress⟩ := s
    simp only [override, Text.isEmpty_iff, Settings.mk.injEq]
    exact ⟨hdevice, heq hverbose, htimeout, heq hopen, heq hclose, heq hprogress⟩
  · rintro rfl
    refine ⟨?_, rfl, hswitch _ _, hswitch _ _, hswitch _ _, hswitch _ _⟩
    simp only [override, Text.isEmpty_iff]

/-- **How settings are made**: from a file or the defaults, under the command line. -/
theorem settings_eq_ok_iff : c.settings e read = .ok s ↔ c.Configures e read s := by
  simp only [Configures, ← load_settingsPath_iff, overrides_iff]
  cases hload : Settings.load read (c.settingsPath e) (!c.config.isEmpty) with
  | error error =>
    have hsettings : c.settings e read = .error error := by
      rw [settings, hload]
      rfl
    simp [hsettings]
  | ok file =>
    have hsettings : c.settings e read = .ok (c.override file) := by
      rw [settings, hload]
      rfl
    simp [hsettings, eq_comm]

/-- A device on the line comes before the one that the environment names, and either before the one in the file. -/
theorem Overrides.device_of_parse (h : c.Overrides file s) {arguments : List Text}
    (hparse : parse e arguments = .ok (.inr c)) :
    ∃ r, readArguments arguments = .ok r ∧ r.notice = none ∧
      s.device = if r.device.getD (e.get "MBIM_DEVICE") = Text.empty then file.device
        else r.device.getD (e.get "MBIM_DEVICE") := by
  cases hr : readArguments arguments with
  | error error =>
    rw [parse, hr] at hparse
    cases hparse
  | ok r =>
    refine ⟨r, rfl, ?_⟩
    rw [parse, hr] at hparse
    cases hnotice : r.notice with
    | some n => simp [bind, Except.bind, pure, Except.pure, hnotice] at hparse
    | none =>
      simp only [bind, Except.bind, pure, Except.pure, hnotice, Except.ok.injEq, Sum.inr.injEq] at hparse
      subst hparse
      exact ⟨rfl, h.device⟩

theorem Configures.unique {t : Settings} (hs : c.Configures e read s) (ht : c.Configures e read t) : s = t :=
  Except.ok.inj ((settings_eq_ok_iff.2 hs).symm.trans (settings_eq_ok_iff.2 ht))

end

end CommandLine

end SimPhonebook
