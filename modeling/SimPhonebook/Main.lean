import SimPhonebook.Run
import SimPhonebook.Spinner
import SimPhonebook.Terminal

/-!
# The program

A run is a function of what the modem sends. The program finds that out step by step: it does the run with what has arrived
so far, sends the request for which the modem's reaction is not known yet, waits, and does the run again with that reaction.
When no reaction is missing, the run is what is printed.
-/

namespace SimPhonebook.Program

/-! ## Files -/

def string (t : Text) : String := String.ofList t.chars

def faultOf : IO.Error → FileFault
  | .noFileOrDirectory _ _ _ => .notFound
  | .inappropriateType _ code details =>
    if code = 21 then .isDirectory else if code = 20 then .notDirectory else .other (Text.lower details)
  | .permissionDenied _ _ details => .other (Text.lower details)
  | .resourceBusy _ details => .other (Text.lower details)
  | e => .other (Text.lower (toString e))

def readFile (path : Text) : IO (Except FileError Octets) := do
  match ← (IO.FS.readBinFile (string path)).toBaseIO with
  | .ok data => return .ok data.toList
  | .error e =>
    let fault := faultOf e
    return .error ⟨if fault = .isDirectory then "read" else "open", path, fault⟩

/-! ## The device -/

/-- Reads the next frame, or as much of it as there is. -/
def readFrame (input : IO.FS.Handle) : IO Reaction := do
  let header : Octets := (← input.read (USize.ofNat headerSize)).toList
  if header.length < headerSize then return ⟨[header], some .closed⟩
  match Stream.next header none with
  | .waiting =>
    let wanted := (header.wordAt 4).toNat - headerSize
    let rest := (← input.read (USize.ofNat wanted)).toList
    return ⟨[header ++ rest], if rest.length < wanted then some .closed else none⟩
  | .frame _ _ | .failed _ _ => return ⟨[header], none⟩

/-- An open device. It is read only while something is waited for. -/
structure Link where
  output : IO.FS.Handle
  input : IO.FS.Handle
  /-- The reading under way. -/
  reading : IO.Ref (Option (Task (Except IO.Error Reaction)))

def openLink (path : Text) : IO (Except ConnectError Link) := do
  match ← (IO.FS.Handle.mk (string path) .readWrite).toBaseIO with
  | .error e => return .error (.notOpened ⟨"open", path, faultOf e⟩)
  | .ok output => return .ok ⟨output, ← IO.FS.Handle.mk (string path) .read, ← IO.mkRef none⟩

/-- What the device has sent, if it has sent something more. -/
def Link.poll (l : Link) : IO (Option Reaction) := do
  let reading ← match ← l.reading.get with
    | some reading => pure reading
    | none => IO.asTask (readFrame l.input) .dedicated
  if ← IO.hasFinished reading then
    l.reading.set none
    match reading.get with
    | .ok r => return some r
    | .error e => return some ⟨[], some (.broken (message (faultOf e)))⟩
  else
    l.reading.set (some reading)
    return none

/-- Writes frames one by one. If that fails, the answer is how many were written, and why. -/
def Link.write (l : Link) : List Octets → Nat → IO (Option WriteFault)
  | [], _ => return none
  | f :: fs, written => do
    match ← (do l.output.write ⟨f.toArray⟩; l.output.flush : IO Unit).toBaseIO with
    | .ok _ => l.write fs (written + 1)
    | .error e => return some ⟨written, message (faultOf e)⟩

/-! ## Waiting -/

/-- A request whose reaction is not known. -/
structure Request where
  call : CallId
  frames : List Octets
  timeout : Duration

/-- The first request of a run for which the script has no reaction. -/
def missing? (r : RunResult) (script : List Reaction) : Option Request := do
  let c ← r.channel
  let id ← c.asked[script.length]?
  let call ← c.call? id
  return ⟨id, (call.request.fragments c.device.maxTransfer).toOption.getD [], call.timeout⟩

/-- Whether a call has come to its end in a run other than by waiting in vain. -/
def isAnswered (r : RunResult) (id : CallId) : Bool :=
  match r.channel.bind fun c => (c.call? id).bind Call.outcome? with
  | some (.error (.timedOut _ _)) => false
  | _ => true

/-- Waits until a reaction settles what it is a reaction to, or the time is up. -/
partial def waitUntil (l : Link) (settles : Reaction → Bool) (deadline : Nat) (display : Nat → IO Unit) (seen : Reaction) :
    IO Reaction := do
  let now ← IO.monoMsNow
  match ← l.poll with
  | some r =>
    let seen : Reaction := ⟨seen.chunks ++ r.chunks, r.ending⟩
    if settles seen || deadline ≤ now then return seen else waitUntil l settles deadline display seen
  | none =>
    if deadline ≤ now then return seen
    display now
    IO.sleep 5
    waitUntil l settles deadline display seen

/-- The view of a spinner that has moved for some time. -/
def spinnerView (label : Text) (color : Bool) (milliseconds : Nat) : Text :=
  Spinner.view ⟨label, milliseconds / 100 % Spinner.frames.length, 0, false⟩ color

/-- What is shown while waiting for an answer, if anything is. -/
def progress (label : Option Text) (color : Bool) (now : Nat) : IO Unit :=
  match label with
  | none => return
  | some label => IO.eprint (string ("\r" ++ spinnerView label color now))

/-! ## The run -/

/-- The label to show while a call of the run is waited for: a spinner is for the command itself. -/
def labelOf (c : CommandLine) (w : Surroundings) (request : Request) (terminal : Bool) : Option Text :=
  let quiet := match c.settings w.environment w.read with
    | .ok s => s.verbose || s.noProgress || (!s.noOpen && request.call = 0)
    | .error _ => true
  if quiet || !terminal then none else c.options.decide.action.operation?.map fun op => op.label

/-- Finds out how the modem reacts to all requests of the run. -/
partial def converse (c : CommandLine) (l : Link) (terminal : Bool) (w : Surroundings) (script : List Reaction)
    (written : Nat) : IO Surroundings := do
  let given (script : List Reaction) : Surroundings := { w with connect := fun _ => .ok (.scripted script) }
  match missing? (c.run (given script)) script with
  | none => return given script
  | some request =>
    match ← l.write request.frames written with
    | some fault => converse c l terminal { w with writeFault := some fault } script written
    | none =>
      let label := labelOf c w request terminal
      let deadline := (← IO.monoMsNow) + (request.timeout.nanoseconds / 1000000).toNat
      let settles (r : Reaction) : Bool := isAnswered (c.run (given (script ++ [r]))) request.call
      let reaction ← waitUntil l settles deadline (progress label w.color) .silence
      if label.isSome then IO.eprint "\r\x1b[K"
      converse c l terminal w (script ++ [reaction]) (written + request.frames.length)

/-- The environment variables a run looks at. -/
def variableNames : List String :=
  ["MBIM_DEVICE", "XDG_CONFIG_HOME", "HOME", "CLICOLOR_FORCE", "CLICOLOR", "NO_COLOR", "COLORTERM", "TERM"]

def environment : IO Environment := do
  let assignments ← variableNames.filterMapM fun name => do
    return (← IO.getEnv name).map fun value => (Text.ofString name, Text.ofString value)
  let home := assignments.lookup (Text.ofString "HOME")
  return ⟨assignments, Text.ofString (← IO.currentDir).toString, home⟩

/-- What a command line meets: its settings file is read, and its device opened if the run comes to it. -/
def meet (c : CommandLine) (w : Surroundings) (terminal : Bool) : IO Surroundings := do
  let path := c.settingsPath w.environment
  let content ← if path.isEmpty then pure (w.read path) else readFile path
  let w := { w with read := fun _ => content }
  match (c.run w).device with
  | none => return w
  | some device =>
    match ← openLink device with
    | .error e => return { w with connect := fun _ => .error e }
    | .ok l => converse c l terminal w [] 0

end SimPhonebook.Program

open SimPhonebook in
def main (arguments : List String) : IO UInt32 := do
  let e ← Program.environment
  let stdout ← IO.getStdout
  let stderr ← IO.getStderr
  let w : Surroundings :=
    ⟨e, fun path => .error ⟨"open", path, .notFound⟩, fun _ => .ok .silent, none, e.color (← stdout.isTty), false,
      Phonebook.defaultTimeout⟩
  let arguments := arguments.map Text.ofString
  let w ← match CommandLine.parse e arguments with
    | .ok (.inr c) => Program.meet c w (← stderr.isTty)
    | _ => pure w
  let result := program w arguments
  stdout.write ⟨result.stdout.octets.toArray⟩
  stdout.flush
  stderr.write ⟨result.stderr.octets.toArray⟩
  return result.status
