import SimPhonebook.CommandLine.Help
import SimPhonebook.Device.Channel
import SimPhonebook.Phonebook.Runner

/-!
# A whole run

A run does the one action its command line asks for. It loads the settings, connects to the device, opens a session on it,
carries out the action and closes the session again. Whatever fails is told on the error stream, and the run fails with it,
except that a session that cannot be closed does not change the result.

`CommandLine.run` is a function of what the run finds around it: files, devices, and how the modem behaves.
-/

namespace SimPhonebook

/-- A device could not be connected to. -/
inductive ConnectError where
  | notOpened (error : FileError)
  /-- Any other reason. -/
  | refused (reason : Text)
deriving DecidableEq, Repr

instance : Described ConnectError where
  message
    | .notOpened e => "failed to open " ++ e.path ++ ": " ++ message e
    | .refused reason => reason

/-- What a run finds around it. -/
structure Surroundings where
  environment : Environment
  read : Text → Except FileError Octets
  /-- Connects to the modem behind a device. -/
  connect : Text → Except ConnectError Modem
  /-- Whether writing to the device fails at some point. -/
  writeFault : Option WriteFault
  color : Bool
  /-- Whether the run is interrupted from the start. -/
  cancelled : Bool
  commandTimeout : Duration

/-- What a run leaves. -/
structure RunResult where
  success : Bool
  stdout : Text
  journal : Journal
  /-- Whether diagnostics are shown. -/
  verbose : Bool
  /-- The device that was to be opened, if the run came so far. -/
  device : Option Text
  /-- The channel in its last state, if the device was opened. -/
  channel : Option Channel

namespace RunResult

/-- The exit status. -/
def status (r : RunResult) : UInt32 := if r.success then 0 else 1

/-- The frames that were sent. -/
def sent (r : RunResult) : List Octets := r.channel.elim [] fun c => c.device.sent

/-- A run that ends before it comes to a device. -/
def early (n : Note) : RunResult := ⟨false, Text.empty, [n], false, none, none⟩

end RunResult

/-- The line about what a run failed with. -/
def errorNote (reason : Text) : Note := .printed ("error: " ++ reason ++ "\n")

/-! ## On a channel -/

namespace Channel

/-- A call and whether it is made under a context that is cancelled already. -/
structure Ticket where
  call : CallId
  cancelled : Bool
deriving DecidableEq, Repr

/-- Phonebook commands use a channel as their transport. -/
def transport : Phonebook.Transport Channel Ticket CallError where
  hold c := c.hold
  release c id := c.release id
  submit c request timeout cancelled :=
    let (c, id) := c.submit request timeout
    (c, ⟨id, cancelled⟩)
  result c ticket :=
    let (c, outcome) := c.await ticket.call ticket.cancelled
    (c, outcome.map some)
  write c n := c.write n

/-- Opens a session unless the settings forbid it, and tells whether the command can go on. -/
def prepare (c : Channel) (s : Settings) (cancelled : Bool) : Channel × Bool :=
  if s.noOpen then (c, true)
  else match c.openSession s.openTimeout cancelled with
    | (c, none) => (c, true)
    | (c, some e) => (c.write (errorNote ("couldn't open the MBIM session: " ++ message e)), false)

/-- Carries out an action. -/
def act (c : Channel) (w : Surroundings) (a : Phonebook.Action) : Channel × Phonebook.Completion CallError :=
  let runner : Phonebook.Runner Channel Ticket CallError := ⟨transport, w.color, w.commandTimeout, fun c _ => c⟩
  let (c, done) := runner.run c w.cancelled a
  match done.failure with
  | none => (c, done)
  | some f => (c.note "phonebook action failed" [("code", .text f.code), ("error", .text (message f))], done)

/-- Closes the session unless the settings forbid it. This is done even if the run is interrupted. -/
def conclude (c : Channel) (s : Settings) : Channel :=
  if s.noClose then c
  else match c.closeSession s.openTimeout false with
    | (c, none) => c
    | (c, some e) =>
      (c.note "close failed" [("device", .text c.device.name), ("error", .text (message e))]).write
        (errorNote ("couldn't close the MBIM session: " ++ message e))

/-- All that is done on an open device: the channel after it, whether the action succeeded and what it printed. -/
def serve (c : Channel) (w : Surroundings) (s : Settings) (a : Phonebook.Action) : Channel × Bool × Text :=
  match c.prepare s w.cancelled with
  | (c, false) => (c, false, Text.empty)
  | (c, true) =>
    let (c, done) := c.act w a
    (c.conclude s, done.failure.isNone, done.stdout)

end Channel

/-! ## From the command line -/

/-- The settings of a run in its journal. -/
def settingsNote (s : Settings) : Note :=
  .diagnostic .host (Log.debug "configuration" [("device", .text s.device), ("open_timeout", .duration s.openTimeout),
    ("no_open", .flag s.noOpen), ("no_close", .flag s.noClose)])

/-- Does an action as the settings say. -/
def Settings.run (s : Settings) (w : Surroundings) (a : Phonebook.Action) : RunResult :=
  match w.connect s.device with
  | .error e =>
    ⟨false, Text.empty, [settingsNote s, errorNote ("couldn't open the MBIM device: " ++ message e)], s.verbose,
      some s.device, none⟩
  | .ok modem =>
    let device := Device.new s.device Device.defaultMaxTransfer [settingsNote s]
    let c := { Channel.connected device modem with writeFault := w.writeFault }
    let (c, success, stdout) := c.serve w s a
    let (c, _) := c.close
    ⟨success, stdout, c.device.journal, s.verbose, some s.device, some c⟩

/-- Does what the command line asks for. -/
def CommandLine.run (c : CommandLine) (w : Surroundings) : RunResult :=
  let (selector, enabled, refusal) := (Phonebook.Selector.new c.options).enabled
  if refusal.isSome then .early (.printed selector.printed)
  else if !enabled then .early (errorNote "no actions specified")
  else match c.settings w.environment w.read with
    | .error e => .early (errorNote (message e))
    | .ok s => s.run w selector.action.2.1

/-- What a program leaves when it ends. -/
structure Exit where
  status : UInt32
  stdout : Text
  stderr : Text
deriving DecidableEq, Repr

/-- The exit status after a mistake on the command line. -/
def usageStatus : UInt32 := 80

/-- The whole program: reads its arguments and does what they say. After a mistake in them the help text is shown too. -/
def program (w : Surroundings) (arguments : List Text) : Exit :=
  match CommandLine.parse w.environment arguments with
  | .error e => ⟨usageStatus, helpText ++ "\n", programName ++ ": error: " ++ message e ++ "\n"⟩
  | .ok (.inl notice) => ⟨0, notice.text, Text.empty⟩
  | .ok (.inr c) =>
    let r := c.run w
    ⟨r.status, r.stdout, r.journal.errorStream fun _ => r.verbose⟩

end SimPhonebook
