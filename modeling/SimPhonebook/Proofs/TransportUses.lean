import SimPhonebook.Phonebook.Runner
import SimPhonebook.Proofs.Settling

/-!
# What a run does to its transport

A run is watched through its transport: `Runner.recorded` carries out the same run and keeps a list of the uses that are
made of the transport. What a run can do is said once (`Runs`), one case for each way through it, and every run is one of
them (`recorded_run`). Three views of the uses are told apart: the traffic, what is printed, and the changes of state.
-/

namespace SimPhonebook.Phonebook

/-- A use of a transport, with what came of it. -/
inductive Use (κ ε : Type) where
  | hold (id : HoldId)
  | release (id : HoldId)
  | submit (request : Message) (timeout : Duration) (cancelled : Bool) (call : κ)
  | result (call : κ) (outcome : Except ε (Option Message))
  | write (note : Note)

section
variable {σ κ ε : Type}

/-- The transport with a list of its uses beside the state. -/
def Transport.recorded (t : Transport σ κ ε) : Transport (σ × List (Use κ ε)) κ ε where
  hold := fun (s, uses) =>
    let (s, id) := t.hold s
    ((s, uses ++ [.hold id]), id)
  release := fun (s, uses) id => (t.release s id, uses ++ [.release id])
  submit := fun (s, uses) request timeout cancelled =>
    let (s, call) := t.submit s request timeout cancelled
    ((s, uses ++ [.submit request timeout cancelled call]), call)
  result := fun (s, uses) call =>
    let (s, outcome) := t.result s call
    ((s, uses ++ [.result call outcome]), outcome)
  write := fun (s, uses) note => (t.write s note, uses ++ [.write note])

/-- The runner on the recorded transport. What is done while it waits is not a use. -/
def Runner.recorded (r : Runner σ κ ε) : Runner (σ × List (Use κ ε)) κ ε :=
  ⟨r.transport.recorded, r.color, r.timeout, fun (s, uses) label => (r.onWait s label, uses)⟩

namespace Use

def note? : Use κ ε → Option Note
  | write n => some n
  | _ => none

/-- The uses that are not notes. -/
def traffic (uses : List (Use κ ε)) : List (Use κ ε) := uses.filter fun u => u.note?.isNone

/-- What is printed on the error stream. -/
def prints (uses : List (Use κ ε)) : List Text := Journal.prints (uses.filterMap note?)

/-- The attributes of a note about a change of state. -/
def change? : Note → Option (List (Text × Log.Value))
  | .diagnostic .host record => if record.message = "phonebook command state" then some record.attributes else none
  | _ => none

/-- The changes of state in the journal. -/
def changes (uses : List (Use κ ε)) : List (List (Text × Log.Value)) := (uses.filterMap note?).filterMap change?

/-! The uses that a run is made of. -/

def noted (text : Text) (attributes : List (Text × Log.Value)) : Use κ ε :=
  .write (.diagnostic .host (Log.debug text attributes))

/-- The attributes of a change of state. -/
def stateChange (current next : Text) : List (Text × Log.Value) := [("from", .text current), ("to", .text next)]

def entered (current next : RunState) : Use κ ε :=
  noted "phonebook command state" (stateChange current.name next.name)

def complained (color : Bool) (reason : Text) : Use κ ε := .write (.printed (Report.error color reason))

def remarked (op : Operation) : List (Use κ ε) := op.remarks.map fun record => .write (.diagnostic .host record)

/-- The uses at the end of a run that has come to a state. -/
def closing (a : Action) (hold : HoldId) (state : RunState) (success : Bool) : List (Use κ ε) :=
  [.release hold, entered state .finalized,
    noted "phonebook command finished" [("action", .text a.name), ("success", .flag success)]]

/-- The uses up to the outcome of a call. -/
def asked (r : Runner σ κ ε) (a : Action) (op : Operation) (request : Message) (cancelled : Bool) (call : κ)
    (outcome : Except ε (Option Message)) : List (Use κ ε) :=
  [noted (op.label ++ "...") [("action", .text a.name), ("cid", .text op.target.commandName)],
    .submit request r.timeout cancelled call, entered .idle .submitted, .result call outcome]

end Use

open Use

section
variable {r : Runner σ κ ε} (s : σ) (uses : List (Use κ ε))

theorem recorded_enter (current next : RunState) :
    r.recorded.enter (s, uses) current next = (r.enter s current next, uses ++ [entered current next]) := rfl

theorem recorded_complain (reason : Text) :
    r.recorded.complain (s, uses) reason = (r.complain s reason, uses ++ [complained r.color reason]) := rfl

theorem recorded_submit {s s' : σ} {request : Message} {timeout : Duration} {cancelled : Bool} {call : κ}
    (h : r.transport.submit s request timeout cancelled = (s', call)) :
    r.recorded.transport.submit (s, uses) request timeout cancelled =
      ((s', uses ++ [.submit request timeout cancelled call]), call) := by
  simp only [Runner.recorded, Transport.recorded, h]

theorem recorded_result {s s' : σ} {call : κ} {outcome : Except ε (Option Message)}
    (h : r.transport.result s call = (s', outcome)) :
    r.recorded.transport.result (s, uses) call = ((s', uses ++ [.result call outcome]), outcome) := by
  simp only [Runner.recorded, Transport.recorded, h]

theorem recorded_remarks (records : List Log.Record) :
    records.foldl (fun s record => r.recorded.transport.write s (.diagnostic .host record)) (s, uses) =
      (records.foldl (fun s record => r.transport.write s (.diagnostic .host record)) s,
        uses ++ records.map fun record => .write (.diagnostic .host record)) := by
  induction records generalizing s uses with
  | nil => simp
  | cons record records ih =>
    rw [List.foldl_cons, List.foldl_cons, List.map_cons, List.append_cons]
    exact ih ..

theorem recorded_finish (a : Action) (hold : HoldId) (cancelled : Bool) (state : RunState)
    (result : Except (Failure ε) Text) :
    r.recorded.finish a (s, uses) ⟨hold, cancelled, false⟩ state result =
      (((r.finish a s ⟨hold, cancelled, false⟩ state result).1, uses ++ closing a hold state result.isOk),
        (r.finish a s ⟨hold, cancelled, false⟩ state result).2) := by
  have hclosing : uses ++ closing a hold state result.isOk =
      uses ++ [.release hold] ++ [entered state .finalized] ++
        [noted "phonebook command finished" [("action", .text a.name), ("success", .flag result.isOk)]] := by
    simp [closing]
  rw [hclosing]
  cases result with
  | error f => rfl
  | ok stdout => rfl

end

/-! ## What a run can do -/

variable [Described ε]

/-- What follows the outcome of a call. -/
inductive Settles (r : Runner σ κ ε) (a : Action) (op : Operation) (hold : HoldId) :
    Except ε (Option Message) → List (Use κ ε) → Completion ε → Prop
  | unanswered (e : ε) :
    Settles r a op hold (.error e)
      (entered .submitted .transportError :: complained r.color ("operation failed: " ++ message e) ::
        closing a hold .transportError false)
      ⟨Text.empty, some (.transport e), some ⟨hold, true, true⟩⟩
  | unreadable {answer : Option Message} {e : ResponseError} (h : op.complete r.color answer = .error e) :
    Settles r a op hold (.ok answer)
      (entered .submitted .protocolError :: complained r.color ("couldn't parse response message: " ++ message e) ::
        closing a hold .protocolError false)
      ⟨Text.empty, some (.response e), some ⟨hold, true, true⟩⟩
  | shown {answer : Option Message} {stdout : Text} (h : op.complete r.color answer = .ok stdout) :
    Settles r a op hold (.ok answer)
      (entered .submitted .succeeded :: closing a hold .succeeded true)
      ⟨stdout, none, some ⟨hold, true, true⟩⟩

/-- The uses that a run makes of its transport, and how it completes. -/
inductive Runs (r : Runner σ κ ε) (cancelled : Bool) (a : Action) : List (Use κ ε) → Completion ε → Prop
  | declined (hop : a.operation? = none) : Runs r cancelled a [] ⟨Text.empty, some (.noOperation a), none⟩
  | refused {op : Operation} (hold : HoldId) {e : RequestError} (hop : a.operation? = some op)
      (hrequest : op.request = .error e) :
    Runs r cancelled a (.hold hold :: (remarked op ++ complained r.color (message e) :: closing a hold .idle false))
      ⟨Text.empty, some (.invalidInput e), some ⟨hold, true, true⟩⟩
  | settled {op : Operation} (hold : HoldId) {request : Message} (call : κ) {outcome : Except ε (Option Message)}
      {uses : List (Use κ ε)} {done : Completion ε} (hop : a.operation? = some op) (hrequest : op.request = .ok request)
      (h : Settles r a op hold outcome uses done) :
    Runs r cancelled a (.hold hold :: (remarked op ++ (asked r a op request cancelled call outcome ++ uses))) done

/-! ## The recorded run -/

/-- What a runner does with the outcome of a call. -/
def Runner.settle (r : Runner σ κ ε) (a : Action) (op : Operation) (s : σ) (session : Session) :
    Except ε (Option Message) → σ × Completion ε
  | .error e =>
    r.finish a (r.complain (r.enter s .submitted .transportError) ("operation failed: " ++ message e)) session
      .transportError (.error (.transport e))
  | .ok answer =>
    match op.complete r.color answer with
    | .error e =>
      r.finish a (r.complain (r.enter s .submitted .protocolError) ("couldn't parse response message: " ++ message e))
        session .protocolError (.error (.response e))
    | .ok stdout => r.finish a (r.enter s .submitted .succeeded) session .succeeded (.ok stdout)

variable (r : Runner σ κ ε) (a : Action) (op : Operation)

variable {r a op} in
theorem converse_eq_settle {request : Message} {s s₁ s₂ : σ} {session : Session} {call : κ}
    {outcome : Except ε (Option Message)}
    (hsubmit : r.transport.submit
      (r.note s (op.label ++ "...") [("action", .text a.name), ("cid", .text op.target.commandName)]) request r.timeout
      session.cancelled = (s₁, call))
    (hresult : r.transport.result (r.onWait (r.enter s₁ .idle .submitted) op.label) call = (s₂, outcome)) :
    r.converse a op request s session = r.settle a op s₂ session outcome := by
  simp only [Runner.converse, hsubmit, hresult]
  cases outcome with
  | error e => rfl
  | ok answer => rfl

theorem recorded_settle (s : σ) (before : List (Use κ ε)) (hold : HoldId) (cancelled : Bool)
    (outcome : Except ε (Option Message)) :
    ∃ uses, r.recorded.settle a op (s, before) ⟨hold, cancelled, false⟩ outcome =
        (((r.settle a op s ⟨hold, cancelled, false⟩ outcome).1, before ++ uses),
          (r.settle a op s ⟨hold, cancelled, false⟩ outcome).2) ∧
      Settles r a op hold outcome uses (r.settle a op s ⟨hold, cancelled, false⟩ outcome).2 := by
  have hcolor : r.recorded.color = r.color := rfl
  cases outcome with
  | error e =>
    refine ⟨_, ?_, .unanswered e⟩
    simp only [Runner.settle, recorded_enter, recorded_complain, recorded_finish, List.append_assoc]
    rfl
  | ok answer =>
    cases hcomplete : op.complete r.color answer with
    | error e =>
      simp only [Runner.settle, hcolor, hcomplete]
      refine ⟨_, ?_, .unreadable hcomplete⟩
      simp only [recorded_enter, recorded_complain, recorded_finish, List.append_assoc]
      rfl
    | ok stdout =>
      simp only [Runner.settle, hcolor, hcomplete]
      refine ⟨_, ?_, .shown hcomplete⟩
      simp only [recorded_enter, recorded_finish, List.append_assoc]
      rfl

theorem recorded_converse (request : Message) (s : σ) (before : List (Use κ ε)) (hold : HoldId) (cancelled : Bool) :
    ∃ call outcome uses, r.recorded.converse a op request (s, before) ⟨hold, cancelled, false⟩ =
        (((r.converse a op request s ⟨hold, cancelled, false⟩).1,
            before ++ (asked r a op request cancelled call outcome ++ uses)),
          (r.converse a op request s ⟨hold, cancelled, false⟩).2) ∧
      Settles r a op hold outcome uses (r.converse a op request s ⟨hold, cancelled, false⟩).2 := by
  obtain ⟨⟨s₁, call⟩, hsubmit⟩ : ∃ submitted, r.transport.submit (r.note s (op.label ++ "...")
    [("action", .text a.name), ("cid", .text op.target.commandName)]) request r.timeout cancelled = submitted := ⟨_, rfl⟩
  obtain ⟨⟨s₂, outcome⟩, hresult⟩ : ∃ answered,
    r.transport.result (r.onWait (r.enter s₁ .idle .submitted) op.label) call = answered := ⟨_, rfl⟩
  -- Both runners submit the same request and wait for the same call, so they have the same outcome to settle.
  have hplain : r.converse a op request s ⟨hold, cancelled, false⟩ = r.settle a op s₂ ⟨hold, cancelled, false⟩ outcome :=
    converse_eq_settle hsubmit hresult
  have hrecorded : r.recorded.converse a op request (s, before) ⟨hold, cancelled, false⟩ =
      r.recorded.settle a op (s₂, before ++ asked r a op request cancelled call outcome) ⟨hold, cancelled, false⟩
        outcome := by
    have hasked : before ++ asked r a op request cancelled call outcome =
        before ++ [noted (op.label ++ "...") [("action", .text a.name), ("cid", .text op.target.commandName)]] ++
          [.submit request r.timeout cancelled call] ++ [entered .idle .submitted] ++ [.result call outcome] := by
      simp [asked]
    rw [hasked]
    exact converse_eq_settle (recorded_submit _ hsubmit) (recorded_result _ hresult)
  obtain ⟨uses, hsettle, h⟩ := recorded_settle r a op s₂ (before ++ asked r a op request cancelled call outcome) hold cancelled
    outcome
  refine ⟨call, outcome, uses, ?_, hplain ▸ h⟩
  rw [hrecorded, hsettle, hplain, List.append_assoc]

/-- **The recorded run is the run**, and its uses are one of the ways through a run. -/
theorem recorded_run (s : σ) (cancelled : Bool) :
    ∃ uses, r.recorded.run (s, []) cancelled a = (((r.run s cancelled a).1, uses), (r.run s cancelled a).2) ∧
      Runs r cancelled a uses (r.run s cancelled a).2 := by
  cases hop : a.operation? with
  | none =>
    simp only [Runner.run, hop]
    exact ⟨[], rfl, .declined hop⟩
  | some op =>
    obtain ⟨⟨s₁, hold⟩, hhold⟩ : ∃ held, r.transport.hold s = held := ⟨_, rfl⟩
    have hstart : Session.start r.transport s cancelled = (s₁, ⟨hold, cancelled, false⟩) := by
      simp only [Session.start, hhold]
    have hstart' : Session.start r.recorded.transport (s, []) cancelled =
        ((s₁, [.hold hold]), ⟨hold, cancelled, false⟩) := by
      simp only [Session.start, Runner.recorded, Transport.recorded, hhold, List.nil_append]
    simp only [Runner.run, hop, hstart, hstart', recorded_remarks]
    cases hrequest : op.request with
    | error e =>
      refine ⟨_, ?_, .refused hold hop hrequest⟩
      simp only [recorded_complain, recorded_finish, List.append_assoc]
      rfl
    | ok request =>
      obtain ⟨call, outcome, uses, hconverse, h⟩ := recorded_converse r a op request
        (op.remarks.foldl (fun s record => r.transport.write s (.diagnostic .host record)) s₁)
        ([.hold hold] ++ remarked op) hold cancelled
      refine ⟨_, ?_, .settled hold call hop hrequest h⟩
      simp only [remarked, List.append_assoc] at hconverse
      exact hconverse

end

end SimPhonebook.Phonebook
