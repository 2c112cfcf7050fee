import SimPhonebook.Proofs.EntryBounds
import SimPhonebook.Proofs.ErrorLines
import SimPhonebook.Proofs.RequestTable
import SimPhonebook.Proofs.TransportUses

/-!
# How a run ends

The runs of an operation fall into four kinds (`Verdict`), by what the request, the outcome of the call and the answer are
(`Due`). Each kind has its code, its states and its output (`Concluded`), and exactly one of them is due. On each of them
the device is held once and released once (`Classified`).

An answer is good if it is a successful answer to the request that was submitted (`Answers`) and the action can read its
payload (`Shows`); then what is printed is what the payload says (`complete_eq_ok_iff`).
-/

namespace SimPhonebook.Phonebook

open Octets

/-! ## What is shown of an answer -/

/-- The five words of a configuration. -/
def configurationIn (payload : Octets) : Configuration :=
  ⟨⟨payload.wordAt 0⟩, payload.wordAt 4, payload.wordAt 8, payload.wordAt 12, payload.wordAt 16⟩

theorem showConfiguration_eq_ok_iff {color : Bool} {answer : Option Message} {stdout : Text} :
    showConfiguration color answer = .ok stdout ↔
      ∃ payload, Carries .phonebookConfiguration answer payload ∧
        configurationSize ≤ payload.length ∧ stdout = Report.configuration color (configurationIn payload) := by
  simp only [showConfiguration, map_eq_ok_iff, decodeConfiguration, bind, bind_eq_ok_iff, payloadOf_eq_ok_iff]
  constructor
  · rintro ⟨c, ⟨payload, hcarries, hread⟩, rfl⟩
    refine ⟨payload, hcarries, ?_⟩
    split at hread
    · cases hread
    · cases hread
      exact ⟨by omega, rfl⟩
  · rintro ⟨payload, hcarries, hlong, rfl⟩
    refine ⟨configurationIn payload, ⟨payload, hcarries, ?_⟩, rfl⟩
    rw [if_neg (by omega)]
    rfl

theorem showEntries_eq_ok_iff {color : Bool} {answer : Option Message} {stdout : Text} :
    showEntries color answer = .ok stdout ↔
      ∃ payload, Carries .phonebookRead answer payload ∧
        InBounds payload ∧ ∃ entries, Lists payload entries ∧ stdout = Report.entries color entries := by
  simp only [showEntries, map_eq_ok_iff, decodeEntries_eq_ok_iff]
  constructor
  · rintro ⟨entries, ⟨payload, hcarries, hbounds, hlists⟩, rfl⟩
    exact ⟨payload, hcarries, hbounds, entries, hlists, rfl⟩
  · rintro ⟨payload, hcarries, hbounds, entries, hlists, rfl⟩
    exact ⟨entries, ⟨payload, hcarries, hbounds, hlists⟩, rfl⟩

/-- Nothing is read from the payload of an acknowledgement. -/
theorem acknowledgement_eq_ok_iff {target : Target} {answer : Option Message} {report stdout : Text} :
    ((payloadOf target answer).bind fun _ => .ok ()).map (fun _ => report) = .ok stdout ↔
      ∃ payload, Carries target answer payload ∧ stdout = report := by
  simp only [map_eq_ok_iff, bind_eq_ok_iff, payloadOf_eq_ok_iff]
  constructor
  · rintro ⟨_, ⟨payload, hcarries, -⟩, rfl⟩
    exact ⟨payload, hcarries, rfl⟩
  · rintro ⟨payload, hcarries, rfl⟩
    exact ⟨(), ⟨payload, hcarries, trivial⟩, rfl⟩

/-- The action can read the payload of its answer, and this is what it shows of it. -/
def Shows (color : Bool) (a : Action) (payload : Octets) (stdout : Text) : Prop :=
  match a with
  | .queryConfiguration =>
    configurationSize ≤ payload.length ∧ stdout = Report.configuration color (configurationIn payload)
  | .read _ | .readAll => InBounds payload ∧ ∃ entries, Lists payload entries ∧ stdout = Report.entries color entries
  | .delete _ | .deleteAll => stdout = Report.deleted color
  | .write _ | .update _ => stdout = Report.written color
  | .none | .unassigned _ => False

/-- The message is a successful answer to the command of the phonebook service that the request is. -/
def Answers (request : Message) (answer : Option Message) (payload : Octets) : Prop :=
  ∃ cid kind buffer, request.body = .command ⟨.phonebook, cid⟩ kind buffer ∧ Carries ⟨.phonebook, cid⟩ answer payload

theorem Row.target {a : Action} {op : Operation} {target : Target} {kind : CommandKind} {fields : List InfoBuffer.Field}
    (h : Row a target kind fields) (hop : a.operation? = some op) : op.target = target ∧ target.service = .phonebook := by
  cases h <;> cases hop <;> exact ⟨rfl, rfl⟩

section
variable {a : Action} {op : Operation} (hop : a.operation? = some op)
include hop

theorem answers_iff {request : Message} (hrequest : op.request = .ok request) {answer : Option Message} {payload : Octets} :
    Answers request answer payload ↔ Carries op.target answer payload := by
  obtain ⟨target, kind, fields, buffer, hrow, rfl, -⟩ := (conforms_of_operation hop).asks request hrequest
  obtain ⟨htarget, hservice⟩ := hrow.target hop
  obtain ⟨service, cid⟩ := target
  cases hservice
  rw [htarget]
  constructor
  · rintro ⟨cid', kind', buffer', hbody, hcarries⟩
    cases hbody
    exact hcarries
  · intro hcarries
    exact ⟨cid, kind, buffer, rfl, hcarries⟩

/-- An operation shows of an answer what its action shows of the payload. -/
theorem complete_eq_ok_iff {color : Bool} {answer : Option Message} {stdout : Text} :
    op.complete color answer = .ok stdout ↔
      ∃ payload, Carries op.target answer payload ∧ Shows color a payload stdout := by
  cases a with
  | none => cases hop
  | queryConfiguration =>
    cases hop
    exact showConfiguration_eq_ok_iff
  | read i =>
    cases hop
    exact showEntries_eq_ok_iff
  | readAll =>
    cases hop
    exact showEntries_eq_ok_iff
  | write input =>
    cases hop
    exact acknowledgement_eq_ok_iff
  | update input =>
    cases hop
    exact acknowledgement_eq_ok_iff
  | delete i =>
    cases hop
    exact acknowledgement_eq_ok_iff
  | deleteAll =>
    cases hop
    exact acknowledgement_eq_ok_iff
  | unassigned n => cases hop

end

/-! ## The notes of an operation -/

namespace Use

variable {κ ε : Type}

theorem traffic_remarked (op : Operation) (rest : List (Use κ ε)) : traffic (remarked op ++ rest) = traffic rest := by
  simp [traffic, remarked, note?]

theorem prints_remarked (op : Operation) (rest : List (Use κ ε)) : prints (remarked op ++ rest) = prints rest := by
  simp [prints, remarked, note?, Journal.prints, Note.text?, List.filterMap_map, Function.comp_def]

/-- A remark is not about a change of state. -/
theorem message_of_mem_remarks {a : Action} {op : Operation} (hop : a.operation? = some op) {record : Log.Record}
    (h : record ∈ op.remarks) : record.message ≠ "phonebook command state" := by
  cases a with
  | none => cases hop
  | update input =>
    have hmessage : ("entry index is not a plain integer" : Text) ≠ "phonebook command state" := by decide
    cases hop
    simp only [updateRemarks] at h
    split at h
    · cases h
    · split at h
      · cases h
      · cases List.mem_singleton.1 h
        exact hmessage
  | unassigned n => cases hop
  | _ =>
    cases hop
    cases h

theorem changes_remarked {a : Action} {op : Operation} (hop : a.operation? = some op) (rest : List (Use κ ε)) :
    changes (remarked op ++ rest) = changes rest := by
  have hnone : ((remarked op : List (Use κ ε)).filterMap note?).filterMap change? = [] := by
    simp only [List.filterMap_filterMap, List.filterMap_eq_nil_iff, remarked, List.mem_map]
    rintro u ⟨record, hrecord, rfl⟩
    exact if_neg (message_of_mem_remarks hop hrecord)
  rw [changes, List.filterMap_append, List.filterMap_append, hnone, List.nil_append]
  rfl

theorem changes_entered (current next : RunState) (rest : List (Use κ ε)) :
    changes (entered current next :: rest) = stateChange current.name next.name :: changes rest := rfl

theorem changes_noted {text : Text} (h : text ≠ "phonebook command state") (attributes : List (Text × Log.Value))
    (rest : List (Use κ ε)) : changes (noted text attributes :: rest) = changes rest := by
  simp [changes, noted, note?, change?, Log.debug, h]

theorem changes_complained (color : Bool) (reason : Text) (rest : List (Use κ ε)) :
    changes (complained color reason :: rest) = changes rest := rfl

theorem changes_closing (a : Action) (hold : HoldId) (state : RunState) (success : Bool) :
    changes (closing a hold state success : List (Use κ ε)) = [stateChange state.name "finalized"] := by
  have hfinished : ("phonebook command finished" : Text) ≠ "phonebook command state" := by decide
  calc changes (closing a hold state success)
      = stateChange state.name "finalized" :: changes [noted "phonebook command finished" _] := rfl
    _ = [stateChange state.name "finalized"] := by rw [changes_noted hfinished]; rfl

/-- The note that a request is on its way ends in dots. -/
theorem label_ne (label : Text) : label ++ "..." ≠ "phonebook command state" := by
  intro h
  -- the last octets differ, whatever the label is
  have hlast := congrArg (fun t : Text => t.octets.getLast?) h
  have hdots : ("..." : Text).octets.getLast? = some 0x2E := by decide
  have hstate : ("phonebook command state" : Text).octets.getLast? = some 0x65 := by decide
  simp only [Text.octets_append, List.getLast?_append, hdots, hstate, Option.some_or] at hlast
  revert hlast
  decide

end Use

/-! ## Verdicts -/

/-- The ways in which the run of an operation ends. -/
inductive Verdict where
  | invalidInput
  | transportFailure
  | decodeFailure
  | success
deriving DecidableEq, Repr

namespace Verdict

def code? : Verdict → Option Text
  | invalidInput => some "PHONEBOOK_INVALID_INPUT"
  | transportFailure => some "PHONEBOOK_TRANSPORT_FAILURE"
  | decodeFailure => some "PHONEBOOK_DECODE_FAILURE"
  | success => none

/-- The states of the run. -/
def states : Verdict → List Text
  | invalidInput => ["idle", "finalized"]
  | transportFailure => ["idle", "submitted", "completed-transport-error", "finalized"]
  | decodeFailure => ["idle", "submitted", "completed-protocol-error", "finalized"]
  | success => ["idle", "submitted", "completed-success", "finalized"]

end Verdict

/-- The changes from each state to the next. -/
def stepsThrough (states : List Text) : List (List (Text × Log.Value)) :=
  List.zipWith Use.stateChange states states.tail

/-- What the line about a failure says. -/
def Failure.reason {ε : Type} [Described ε] : Failure ε → Text
  | noOperation a => (Failure.noOperation a : Failure ε).summary
  | invalidInput e => message e
  | transport e => "operation failed: " ++ message e
  | response e => "couldn't parse response message: " ++ message e

section
variable {σ κ ε : Type}

open Use

/-- A request was submitted and answered, and this is what the action shows of the payload of its answer. -/
def Displays (color : Bool) (a : Action) (traffic : List (Use κ ε)) (stdout : Text) : Prop :=
  ∃ request timeout cancelled call answer payload, .submit request timeout cancelled call ∈ traffic ∧
    .result call (.ok answer) ∈ traffic ∧ Answers request answer payload ∧ Shows color a payload stdout

/-- When a verdict is due. -/
inductive Due (color : Bool) (a : Action) (op : Operation) (traffic : List (Use κ ε)) : Verdict → Prop
  | invalidInput {e : RequestError} (hrequest : op.request = .error e)
      (hnone : ∀ request timeout cancelled call, .submit request timeout cancelled call ∉ traffic) :
    Due color a op traffic .invalidInput
  | transportFailure {call : κ} {e : ε} (h : .result call (.error e) ∈ traffic) : Due color a op traffic .transportFailure
  | decodeFailure {call : κ} {answer : Option Message} (h : .result call (.ok answer) ∈ traffic)
      (hnone : ∀ stdout, ¬Displays color a traffic stdout) :
    Due color a op traffic .decodeFailure
  | success {stdout : Text} (h : Displays color a traffic stdout) : Due color a op traffic .success

/-- All that is given out is one error line with the reason of the failure. -/
def Complains [Described ε] (color : Bool) (uses : List (Use κ ε)) (done : Completion ε) : Prop :=
  done.stdout = Text.empty ∧ ∃ failure line, done.failure = some failure ∧ prints uses = [line] ∧
    line = Report.error color failure.reason ∧ TellsOf color failure.reason line

/-- What a run gives out: the report of a success, or one line about a failure. -/
def GivesOut [Described ε] (color : Bool) (a : Action) (uses : List (Use κ ε)) (done : Completion ε) : Verdict → Prop
  | .success => prints uses = [] ∧ Displays color a (traffic uses) done.stdout
  | .invalidInput | .transportFailure | .decodeFailure => Complains color uses done

theorem complains_of_prints [Described ε] {color : Bool} {uses : List (Use κ ε)} {done : Completion ε} (failure : Failure ε)
    (hstdout : done.stdout = Text.empty) (hfailure : done.failure = some failure)
    (hprints : prints uses = [Report.error color failure.reason]) : Complains color uses done :=
  ⟨hstdout, failure, _, hfailure, hprints, rfl, tellsOf_report color failure.reason⟩

/-- What follows from a verdict. -/
structure Concluded [Described ε] (color : Bool) (a : Action) (uses : List (Use κ ε)) (done : Completion ε)
    (v : Verdict) : Prop where
  code : done.failure.map Failure.code = v.code?
  states : changes uses = stepsThrough v.states
  output : GivesOut color a uses done v

section
variable {color : Bool} {a : Action} {op : Operation} {hold : HoldId} {v : Verdict}

theorem due_of_refused {e : RequestError} (hrequest : op.request = .error e) :
    Due color a op ([.hold hold, .release hold] : List (Use κ ε)) v ↔ v = .invalidInput := by
  constructor
  · rintro (⟨-, -⟩ | ⟨h⟩ | ⟨h, -⟩ | ⟨_, _, _, _, _, _, h, -⟩)
    · rfl
    all_goals simp at h
  · rintro rfl
    exact .invalidInput hrequest (by simp)

variable {request : Message} {timeout : Duration} {cancelled : Bool} {call : κ} {outcome : Except ε (Option Message)}

theorem submit_mem_iff {request' : Message} {timeout' : Duration} {cancelled' : Bool} {call' : κ} :
    Use.submit request' timeout' cancelled' call' ∈
        [Use.hold hold, .submit request timeout cancelled call, .result call outcome, .release hold] ↔
      request' = request ∧ timeout' = timeout ∧ cancelled' = cancelled ∧ call' = call := by
  simp

theorem result_mem_iff {call' : κ} {outcome' : Except ε (Option Message)} :
    Use.result call' outcome' ∈
        [Use.hold hold, .submit request timeout cancelled call, .result call outcome, .release hold] ↔
      call' = call ∧ outcome' = outcome := by
  simp

variable (hop : a.operation? = some op) (hrequest : op.request = .ok request)
include hop hrequest

theorem displays_iff {stdout : Text} :
    Displays color a [.hold hold, .submit request timeout cancelled call, .result call outcome, .release hold] stdout ↔
      ∃ answer, outcome = .ok answer ∧ op.complete color answer = .ok stdout := by
  simp only [complete_eq_ok_iff hop, ← answers_iff hop hrequest, Displays, submit_mem_iff, result_mem_iff]
  constructor
  · rintro ⟨_, _, _, _, answer, payload, ⟨rfl, -, -, -⟩, ⟨-, houtcome⟩, hanswers, hshows⟩
    exact ⟨answer, houtcome.symm, payload, hanswers, hshows⟩
  · rintro ⟨answer, rfl, payload, hanswers, hshows⟩
    exact ⟨request, timeout, cancelled, call, answer, payload, ⟨rfl, rfl, rfl, rfl⟩, ⟨rfl, rfl⟩, hanswers, hshows⟩

/-- The verdict on a request that was submitted, by the outcome. -/
theorem due_of_submitted :
    Due color a op [.hold hold, .submit request timeout cancelled call, .result call outcome, .release hold] v ↔
      (v = .transportFailure ∧ ∃ e, outcome = .error e) ∨
      (v = .decodeFailure ∧ ∃ answer e, outcome = .ok answer ∧ op.complete color answer = .error e) ∨
      (v = .success ∧ ∃ answer stdout, outcome = .ok answer ∧ op.complete color answer = .ok stdout) := by
  constructor
  · intro h
    cases h with
    | invalidInput hrequest' => cases hrequest'.symm.trans hrequest
    | transportFailure h => exact Or.inl ⟨rfl, _, (result_mem_iff.1 h).2.symm⟩
    | @decodeFailure call' answer h hnone =>
      have houtcome : outcome = .ok answer := (result_mem_iff.1 h).2.symm
      cases hcomplete : op.complete color answer with
      | error e => exact Or.inr (Or.inl ⟨rfl, answer, e, houtcome, hcomplete⟩)
      | ok stdout => exact absurd ((displays_iff hop hrequest).2 ⟨answer, houtcome, hcomplete⟩) (hnone stdout)
    | @success stdout h =>
      obtain ⟨answer, houtcome, hcomplete⟩ := (displays_iff hop hrequest).1 h
      exact Or.inr (Or.inr ⟨rfl, answer, stdout, houtcome, hcomplete⟩)
  · rintro (⟨rfl, e, rfl⟩ | ⟨rfl, answer, e, rfl, hcomplete⟩ | ⟨rfl, answer, stdout, rfl, hcomplete⟩)
    · exact .transportFailure (result_mem_iff.2 ⟨rfl, rfl⟩)
    · refine .decodeFailure (result_mem_iff.2 ⟨rfl, rfl⟩) fun stdout h => ?_
      obtain ⟨answer', houtcome, hcomplete'⟩ := (displays_iff hop hrequest).1 h
      cases houtcome
      cases hcomplete.symm.trans hcomplete'
    · exact .success ((displays_iff hop hrequest).2 ⟨answer, rfl, hcomplete⟩)

end

section
variable {r : Runner σ κ ε} {cancelled : Bool} {a : Action} {op : Operation} {hold : HoldId} {request : Message} {call : κ}
  {outcome : Except ε (Option Message)} {uses : List (Use κ ε)} {done : Completion ε}

theorem prints_settled :
    prints (.hold hold :: (remarked op ++ (asked r a op request cancelled call outcome ++ uses))) = prints uses :=
  prints_remarked op (asked r a op request cancelled call outcome ++ uses)

theorem changes_settled (hop : a.operation? = some op) :
    changes (.hold hold :: (remarked op ++ (asked r a op request cancelled call outcome ++ uses))) =
      stateChange "idle" "submitted" :: changes uses := by
  calc changes (.hold hold :: (remarked op ++ (asked r a op request cancelled call outcome ++ uses)))
      = changes (remarked op ++ (asked r a op request cancelled call outcome ++ uses)) := rfl
    _ = changes (asked r a op request cancelled call outcome ++ uses) := changes_remarked hop _
    _ = stateChange "idle" "submitted" :: changes uses := changes_noted (label_ne op.label) _ _

variable [Described ε]

theorem Settles.traffic (h : Settles r a op hold outcome uses done) (request : Message) (cancelled : Bool) (call : κ) :
    traffic (.hold hold :: (remarked op ++ (asked r a op request cancelled call outcome ++ uses))) =
      [.hold hold, .submit request r.timeout cancelled call, .result call outcome, .release hold] := by
  have hclosing : Use.traffic uses = [.release hold] := by cases h <;> rfl
  calc Use.traffic (.hold hold :: (remarked op ++ (asked r a op request cancelled call outcome ++ uses)))
      = .hold hold :: Use.traffic (remarked op ++ (asked r a op request cancelled call outcome ++ uses)) := rfl
    _ = .hold hold :: .submit request r.timeout cancelled call :: .result call outcome :: Use.traffic uses := by
      rw [traffic_remarked]
      rfl
    _ = _ := by rw [hclosing]

theorem Settles.session (h : Settles r a op hold outcome uses done) : done.session = some ⟨hold, true, true⟩ := by
  cases h <;> rfl

/-- Every outcome has its verdict, and what follows from it. -/
theorem Settles.concluded (h : Settles r a op hold outcome uses done) (hop : a.operation? = some op)
    (hrequest : op.request = .ok request) (cancelled : Bool) (call : κ) :
    ∃ v, (∀ v', Due r.color a op
        [.hold hold, .submit request r.timeout cancelled call, .result call outcome, .release hold] v' ↔ v' = v) ∧
      Concluded r.color a (.hold hold :: (remarked op ++ (asked r a op request cancelled call outcome ++ uses))) done v := by
  have htraffic := h.traffic request cancelled call
  simp only [due_of_submitted hop hrequest]
  cases h with
  | unanswered e =>
    refine ⟨.transportFailure, fun v => by simp, rfl, ?_, complains_of_prints (.transport e) rfl rfl ?_⟩
    · rw [changes_settled hop, changes_entered, changes_complained, changes_closing]
      rfl
    · rw [prints_settled]
      rfl
  | @unreadable answer e hcomplete =>
    refine ⟨.decodeFailure, fun v => by simp [hcomplete], rfl, ?_, complains_of_prints (.response e) rfl rfl ?_⟩
    · rw [changes_settled hop, changes_entered, changes_complained, changes_closing]
      rfl
    · rw [prints_settled]
      rfl
  | @shown answer stdout hcomplete =>
    refine ⟨.success, fun v => by simp [hcomplete], rfl, ?_, ?_, ?_⟩
    · rw [changes_settled hop, changes_entered, changes_closing]
      rfl
    · rw [prints_settled]
      rfl
    · rw [htraffic]
      exact (displays_iff hop hrequest).2 ⟨answer, rfl, hcomplete⟩

/-- What is to be said about a run with these uses and this completion. -/
structure Classified (r : Runner σ κ ε) (cancelled : Bool) (a : Action) (uses : List (Use κ ε))
    (done : Completion ε) : Prop where
  /-- An action without an operation does nothing. -/
  declined : a.operation? = none →
    uses = [] ∧ done.session = none ∧ done.stdout = Text.empty ∧
      done.failure.map Failure.code = some "PHONEBOOK_INVALID_INPUT"
  /-- Any other is held once and released once, with at most one request between, and leaves its session cancelled. -/
  served : ∀ op, a.operation? = some op →
    ∃ hold, done.session = some ⟨hold, true, true⟩ ∧
      (traffic uses = [.hold hold, .release hold] ∨
        ∃ request call outcome, Asks a request ∧
          traffic uses = [.hold hold, .submit request r.timeout cancelled call, .result call outcome, .release hold])
  due : ∀ op, a.operation? = some op → ∃! v, Due r.color a op (traffic uses) v
  concluded : ∀ op v, a.operation? = some op → Due r.color a op (traffic uses) v → Concluded r.color a uses done v

theorem classified_of_verdict {v : Verdict} (hop : a.operation? = some op) (hsession : done.session = some ⟨hold, true, true⟩)
    (htraffic : traffic uses = [.hold hold, .release hold] ∨
      ∃ request call outcome, Asks a request ∧
        traffic uses = [.hold hold, .submit request r.timeout cancelled call, .result call outcome, .release hold])
    (hdue : ∀ v', Due r.color a op (traffic uses) v' ↔ v' = v) (hconcluded : Concluded r.color a uses done v) :
    Classified r cancelled a uses done := by
  have hsame {op' : Operation} (hop' : a.operation? = some op') : op' = op := Option.some.inj (hop'.symm.trans hop)
  refine ⟨fun hnone => ?_, fun op' hop' => ⟨hold, hsession, htraffic⟩, fun op' hop' => ?_, fun op' v' hop' hv' => ?_⟩
  · cases hop.symm.trans hnone
  · cases hsame hop'
    exact ⟨v, (hdue v).2 rfl, fun v' hv' => (hdue v').1 hv'⟩
  · cases hsame hop'
    cases (hdue v').1 hv'
    exact hconcluded

theorem Runs.classified (h : Runs r cancelled a uses done) : Classified r cancelled a uses done := by
  cases h with
  | declined hop =>
    have hsome {op : Operation} (hop' : a.operation? = some op) : False := by cases hop.symm.trans hop'
    exact ⟨fun _ => ⟨rfl, rfl, rfl, rfl⟩, fun op hop' => (hsome hop').elim, fun op hop' => (hsome hop').elim,
      fun op v hop' => (hsome hop').elim⟩
  | @refused op hold e hop hrequest =>
    have htraffic : traffic (.hold hold :: (remarked op ++ complained r.color (message e) :: closing a hold .idle false)) =
        ([.hold hold, .release hold] : List (Use κ ε)) :=
      congrArg (Use.hold hold :: ·) (traffic_remarked op _)
    refine classified_of_verdict hop rfl (Or.inl htraffic) (fun v => ?_)
      (v := .invalidInput) ⟨rfl, ?_, complains_of_prints (.invalidInput e) rfl rfl (prints_remarked op _)⟩
    · rw [htraffic]
      exact due_of_refused hrequest
    · calc changes (.hold hold :: (remarked op ++ complained r.color (message e) :: closing a hold .idle false))
          = changes (complained r.color (message e) :: closing a hold .idle false) := changes_remarked hop _
        _ = [stateChange "idle" "finalized"] := changes_closing a hold .idle false
  | @settled op hold request call outcome uses done hop hrequest h =>
    obtain ⟨v, hdue, hconcluded⟩ := h.concluded hop hrequest cancelled call
    have htraffic := h.traffic request cancelled call
    refine classified_of_verdict hop h.session (Or.inr ⟨request, call, outcome, ?_, htraffic⟩) (fun v' => ?_) hconcluded
    · exact (conforms_of_operation hop).asks request hrequest
    · rw [htraffic]
      exact hdue v'

/-- **Every run ends in exactly one of four ways, and cleans up in each.** The recorded run is the run itself. If the action
has no operation, nothing is done. If it has one, the device is held and released once, at most one request is submitted
between, the context of the session is cancelled, and one verdict is due: the request cannot be built, the call has failed,
the answer is not a successful answer to the request that the action can read, or the action shows what its payload says.
The code, the states and the output are those of the verdict. -/
theorem run_classified (r : Runner σ κ ε) (s : σ) (cancelled : Bool) (a : Action) :
    ∃ uses, r.recorded.run (s, []) cancelled a = (((r.run s cancelled a).1, uses), (r.run s cancelled a).2) ∧
      Classified r cancelled a uses (r.run s cancelled a).2 := by
  obtain ⟨uses, hrecorded, hruns⟩ := recorded_run r a s cancelled
  exact ⟨uses, hrecorded, hruns.classified⟩

end

end

/-- A transport without a device: the outcome of every call is the one it is in. -/
def settledTransport : Transport (Except Text (Option Message)) Unit Text where
  hold s := (s, 0)
  release s _ := s
  submit s _ _ _ := (s, ())
  result s _ := (s, s)
  write s _ := s

def settledRunner : Runner (Except Text (Option Message)) Unit Text := ⟨settledTransport, false, defaultTimeout, fun s _ => s⟩

/-- The acknowledgement of a read. -/
def readAcknowledged : Message := ⟨1, .commandDone .phonebookRead .success []⟩

/-- It does not answer a delete, and the run says so once. -/
theorem readAcknowledged_classified :
    ∃ uses, settledRunner.recorded.run (.ok (some readAcknowledged), []) false (.delete 3) =
        (((settledRunner.run (.ok (some readAcknowledged)) false (.delete 3)).1, uses),
          (settledRunner.run (.ok (some readAcknowledged)) false (.delete 3)).2) ∧
      Concluded false (.delete 3) uses (settledRunner.run (.ok (some readAcknowledged)) false (.delete 3)).2
        .decodeFailure := by
  obtain ⟨uses, hrecorded, h⟩ := run_classified settledRunner (.ok (some readAcknowledged)) false (.delete 3)
  have htraffic : Use.traffic uses = [.hold 0, .submit (deleteEntries .index 3) defaultTimeout false (),
      .result () (.ok (some readAcknowledged)), .release 0] := by
    have huses := congrArg (fun x => Use.traffic x.1.2) hrecorded
    exact huses.symm
  refine ⟨uses, hrecorded, h.concluded _ .decodeFailure rfl ?_⟩
  rw [htraffic]
  refine .decodeFailure (result_mem_iff.2 ⟨rfl, rfl⟩) fun stdout hstdout => ?_
  obtain ⟨answer, hanswer, hcomplete⟩ := (displays_iff rfl rfl).1 hstdout
  cases hanswer
  cases hcomplete

end SimPhonebook.Phonebook
