import SimPhonebook.Proofs.ChannelUse
import SimPhonebook.Proofs.ErrorLines
import SimPhonebook.Proofs.RequestTable
import SimPhonebook.Run

/-!
# Serving an action

What is done on an open device is to open a session, to carry out the action and to close the session. Each part is
described by what it does to the view of the channel (`prepare_shows`, `act_acts`, `conclude_shows`), and so is the whole of
them (`serve_serves`). Whether it succeeds is decided by the answer to the command alone. Whatever is printed on the way is
a line about an error.
-/

namespace SimPhonebook

open Device Channel

/-! ## Answers that count as success -/

/-- The outcome is that the session is open. -/
def opensSession : Body → Option Outcome → Bool
  | .openRequest _, some (.ok ⟨_, .openDone status⟩) => status.isSuccess
  | _, _ => false

namespace Phonebook

/-- The answer is one that the action is done with. -/
def Action.accepts (a : Action) (m : Message) : Bool :=
  match a with
  | .queryConfiguration => (decodeConfiguration (some m)).isOk
  | .read _ | .readAll => (decodeEntries (some m)).isOk
  | .delete _ | .deleteAll => (checkDeleted (some m)).isOk
  | .write _ | .update _ => (checkWritten (some m)).isOk
  | .none | .unassigned _ => false

/-- Whether the input of the action, if it takes one, has the fields it must have. -/
def Action.inputFits (a : Action) : Bool :=
  match a.commasWanted? with
  | Option.none => true
  | some n => commas a.input == n

theorem inputFits_iff {a : Action} : a.inputFits = true ↔ ∀ n, a.commasWanted? = some n → commas a.input = n := by
  unfold Action.inputFits
  cases a.commasWanted? with
  | none => simp
  | some n => simp

/-- What an action asks, if its input fits. -/
theorem exists_asks {a : Action} {op : Operation} (hop : a.operation? = some op) :
    ∃ request, a.inputFits = true → Asks a request := by
  have hconforms := conforms_of_operation hop
  by_cases hfits : a.inputFits = true
  · obtain ⟨m, hm⟩ := hconforms.built_iff.2 (inputFits_iff.1 hfits)
    exact ⟨m, fun _ => hconforms.asks m hm⟩
  · exact ⟨⟨0, .closeRequest⟩, fun h => absurd h hfits⟩

theorem shows_of_map {α ε : Type} (x : Except ε α) {f : α → Text} (hf : ∀ a, f a ≠ Text.empty) :
    (x.isOk = true ∧ ∃ t, x.map f = .ok t ∧ t ≠ Text.empty) ∨ (x.isOk = false ∧ ∃ e, x.map f = .error e) := by
  cases x with
  | ok a => exact Or.inl ⟨rfl, f a, rfl, hf a⟩
  | error e => exact Or.inr ⟨rfl, e, rfl⟩

theorem append_ne_empty {a b : Text} (h : a ≠ Text.empty ∨ b ≠ Text.empty) : a ++ b ≠ Text.empty := by
  intro hab
  have hoctets : a.octets ++ b.octets = [] := congrArg Text.octets hab
  obtain ⟨ha, hb⟩ := List.append_eq_nil_iff.1 hoctets
  rcases h with h | h
  · exact h (congrArg Text.mk ha)
  · exact h (congrArg Text.mk hb)

theorem configuration_ne_empty (color : Bool) (c : Configuration) : Report.configuration color c ≠ Text.empty :=
  append_ne_empty (Or.inr (append_ne_empty (Or.inr (by decide))))

theorem entries_ne_empty (color : Bool) (es : List Entry) : Report.entries color es ≠ Text.empty :=
  append_ne_empty (Or.inl (append_ne_empty (Or.inr (by decide))))

theorem written_ne_empty (color : Bool) : Report.written color ≠ Text.empty := append_ne_empty (Or.inr (by decide))

theorem deleted_ne_empty (color : Bool) : Report.deleted color ≠ Text.empty := append_ne_empty (Or.inr (by decide))

/-- An operation shows something about an answer exactly if its action is done with the answer. -/
theorem complete_cases {a : Action} {op : Operation} (h : a.operation? = some op) (color : Bool) (m : Message) :
    (a.accepts m = true ∧ ∃ t, op.complete color (some m) = .ok t ∧ t ≠ Text.empty) ∨
    (a.accepts m = false ∧ ∃ e, op.complete color (some m) = .error e) := by
  cases a with
  | none => cases h
  | queryConfiguration =>
    cases h
    exact shows_of_map (decodeConfiguration (some m)) (configuration_ne_empty color)
  | read i =>
    cases h
    exact shows_of_map (decodeEntries (some m)) (entries_ne_empty color)
  | readAll =>
    cases h
    exact shows_of_map (decodeEntries (some m)) (entries_ne_empty color)
  | write input =>
    cases h
    exact shows_of_map (checkWritten (some m)) fun _ => written_ne_empty color
  | update input =>
    cases h
    exact shows_of_map (checkWritten (some m)) fun _ => written_ne_empty color
  | delete i =>
    cases h
    exact shows_of_map (checkDeleted (some m)) fun _ => deleted_ne_empty color
  | deleteAll =>
    cases h
    exact shows_of_map (checkDeleted (some m)) fun _ => deleted_ne_empty color
  | unassigned n => cases h

end Phonebook

/-! ## On the channel -/

/-- The texts are lines about errors. -/
def ErrorLines (color : Bool) (lines : List Text) : Prop := ∀ t ∈ lines, IsErrorLine color t

theorem isErrorLine_errorNote (color : Bool) (reason : Text) : IsErrorLine color ("error: " ++ reason ++ "\n") :=
  ⟨Text.empty, reason, Or.inl rfl, rfl⟩

theorem errorLines_singleton {color : Bool} {t : Text} (h : IsErrorLine color t) : ErrorLines color [t] := by
  simpa [ErrorLines] using h

theorem ErrorLines.append {color : Bool} {lines lines' : List Text} (h : ErrorLines color lines)
    (h' : ErrorLines color lines') : ErrorLines color (lines ++ lines') := by
  intro t ht
  rcases List.mem_append.1 ht with ht | ht
  · exact h t ht
  · exact h' t ht

/-- The command can be asked: the session is open, or it is not to be opened. -/
def ready (s : Settings) (o : Outcome) : Bool := s.noOpen || opensSession (.openRequest 4096) (some o)

/-- The command is asked, and it has an answer that its action is done with. -/
def Succeeds (s : Settings) (a : Phonebook.Action) (o₁ o₂ : Outcome) : Prop :=
  ready s o₁ = true ∧ a.inputFits = true ∧ ∃ m, o₂ = .ok m ∧ a.accepts m = true

namespace Channel

variable {c : Channel} {v : View}

theorem Shows.remark (h : c.Shows v) (voice : Voice) (r : Log.Record) : (c.write (.diagnostic voice r)).Shows v := by
  have h' := h.write (.diagnostic voice r)
  rwa [Note.text?, Option.toList_none, List.append_nil] at h'

theorem Shows.say (h : c.Shows v) (t : Text) : (c.write (.printed t)).Shows { v with prints := v.prints ++ [t] } :=
  h.write (.printed t)

theorem acknowledged_open {n : UInt32} {o : Outcome} (h : ∀ m, o = .ok m → m.type = .openDone) :
    (acknowledged o = .ok () ∧ opensSession (.openRequest n) (some o) = true) ∨
    ∃ e, acknowledged o = .error e ∧ opensSession (.openRequest n) (some o) = false := by
  cases o with
  | error e => exact Or.inr ⟨e, rfl, rfl⟩
  | ok m =>
    obtain ⟨t, body⟩ := m
    cases body with
    | openDone status =>
      by_cases hs : status.isSuccess = true
      · exact Or.inl ⟨by simp [acknowledged, Message.failure?, hs], hs⟩
      · exact Or.inr ⟨.refused (.status status), by simp [acknowledged, Message.failure?, hs], eq_false_of_ne_true hs⟩
    | _ => cases h _ rfl

/-- A session is opened, unless the settings forbid it. -/
theorem prepare_shows (h : c.Shows v) (hres : v.Resolved) (hroom : v.exchanges.length + 1 < 2 ^ 32) (s : Settings)
    (color cancelled : Bool) :
    ∃ o lines, (c.prepare s cancelled).1.Shows
        { v with
          exchanges := v.exchanges ++ if s.noOpen then [] else [(.openRequest 4096, some o)]
          prints := v.prints ++ lines } ∧
      (c.prepare s cancelled).2 = ready s o ∧
      ErrorLines color lines ∧ ((c.prepare s cancelled).2 = false → lines ≠ []) := by
  cases hno : s.noOpen with
  | true =>
    refine ⟨.error .cancelled, [], ?_, ?_, nofun, ?_⟩
    · simpa [prepare, hno] using h
    · simp [prepare, ready, hno]
    · simp [prepare, hno]
  | false =>
    have hrequest : Message.openSession (UInt32.ofInt c.device.maxTransfer) = ⟨0, .openRequest 4096⟩ := by
      rw [h.maxTransfer]
      rfl
    obtain ⟨hshows, htype⟩ := h.command hres hroom ⟨0, .openRequest 4096⟩ s.openTimeout cancelled
    generalize hcommand : c.command ⟨0, .openRequest 4096⟩ s.openTimeout cancelled = answered at hshows htype
    obtain ⟨c', o⟩ := answered
    have hready : ready s o = opensSession (.openRequest 4096) (some o) := by rw [ready, hno, Bool.false_or]
    rcases acknowledged_open (n := 4096) htype with ⟨hack, hopens⟩ | ⟨e, hack, hopens⟩
    · have hprepare : c.prepare s cancelled = (c'.note "MBIM session open" [("device", .text c'.device.name)], true) := by
        simp only [prepare, hno, Bool.false_eq_true, if_false, openSession, hrequest, hcommand, hack]
      rw [hprepare]
      refine ⟨o, [], ?_, (hready.trans hopens).symm, nofun, nofun⟩
      simpa using hshows.note _ _
    · have hprepare : c.prepare s cancelled =
          (c'.write (errorNote ("couldn't open the MBIM session: " ++ message (SessionError.notOpened e))), false) := by
        simp only [prepare, hno, Bool.false_eq_true, if_false, openSession, hrequest, hcommand, hack]
      rw [hprepare]
      exact ⟨o, _, hshows.say _, (hready.trans hopens).symm, errorLines_singleton (isErrorLine_errorNote color _),
        fun _ => by simp⟩

/-- The session is closed, unless the settings forbid it. -/
theorem conclude_shows (h : c.Shows v) (hres : v.Resolved) (hroom : v.exchanges.length + 1 < 2 ^ 32) (s : Settings)
    (color : Bool) :
    ∃ o lines, (c.conclude s).Shows
        { v with
          exchanges := v.exchanges ++ if s.noClose then [] else [(.closeRequest, some o)]
          prints := v.prints ++ lines } ∧ ErrorLines color lines := by
  cases hno : s.noClose with
  | true => exact ⟨.error .cancelled, [], by simpa [conclude, hno] using h, nofun⟩
  | false =>
    obtain ⟨hshows, -⟩ := h.command hres hroom .closeSession s.openTimeout false
    generalize hcommand : c.command .closeSession s.openTimeout false = answered at hshows
    obtain ⟨c', o⟩ := answered
    cases hack : acknowledged o with
    | ok _ =>
      have hconclude : c.conclude s = c'.note "MBIM session closed" [("device", .text c'.device.name)] := by
        simp only [conclude, hno, Bool.false_eq_true, if_false, closeSession, hcommand, hack]
      rw [hconclude]
      exact ⟨o, [], by simpa [Message.closeSession] using hshows.note _ _, nofun⟩
    | error e =>
      have hconclude : c.conclude s =
          (c'.note "close failed" [("device", .text c'.device.name),
            ("error", .text (message (SessionError.notClosed e)))]).write
            (errorNote ("couldn't close the MBIM session: " ++ message (SessionError.notClosed e))) := by
        simp only [conclude, hno, Bool.false_eq_true, if_false, closeSession, hcommand, hack]
      rw [hconclude]
      exact ⟨o, _, (hshows.note _ _).say _, errorLines_singleton (isErrorLine_errorNote color _)⟩

/-! ## The action -/

open Phonebook (Runner Session Completion Operation Action RunState Failure)

/-- What carries out the action of a run. -/
def actor (w : Surroundings) : Runner Channel Ticket CallError := ⟨transport, w.color, w.commandTimeout, fun c _ => c⟩

variable {w : Surroundings}

theorem Shows.tell (h : c.Shows v) (text : Text) (attributes : List (Text × Log.Value)) :
    ((actor w).note c text attributes).Shows v :=
  h.remark ..

theorem Shows.enter (h : c.Shows v) (current next : RunState) : ((actor w).enter c current next).Shows v :=
  h.tell ..

theorem Shows.complain (h : c.Shows v) (reason : Text) :
    ((actor w).complain c reason).Shows { v with prints := v.prints ++ [Phonebook.Report.error w.color reason] } :=
  h.say _

theorem Shows.remarks (h : c.Shows v) (records : List Log.Record) :
    (records.foldl (fun c record => (actor w).transport.write c (.diagnostic .host record)) c).Shows v := by
  induction records generalizing c with
  | nil => exact h
  | cons record records ih => exact ih (h.remark ..)

/-- The end of the action releases the hold of its session. -/
theorem Shows.finish (h : c.Shows v) (a : Action) {session : Session} (hsession : session.finalized = false)
    (state : RunState) (result : Except (Failure CallError) Text) :
    ((actor w).finish a c session state result).1.Shows { v with holds := v.holds.release session.hold } := by
  have hrelease : (actor w).transport.release c session.hold = c.release session.hold := rfl
  cases result <;> simp only [Runner.finish, Session.finalize, hsession, Bool.false_eq_true, if_false, hrelease] <;>
    exact ((h.release session.hold).enter ..).tell ..

/-- A request of an operation is submitted and waited for. -/
def reply (w : Surroundings) (a : Action) (op : Operation) (request : Message) (c : Channel) (cancelled : Bool) :
    Channel × Outcome :=
  let asked := ((actor w).note c (op.label ++ "...")
    [("action", .text a.name), ("cid", .text op.target.commandName)]).submit request w.commandTimeout
  ((actor w).enter asked.1 .idle .submitted).await asked.2 cancelled

theorem reply_shows (h : c.Shows v) (hres : v.Resolved) (hroom : v.exchanges.length + 1 < 2 ^ 32) (a : Action)
    (op : Operation) (request : Message) (cancelled : Bool) :
    (reply w a op request c cancelled).1.Shows
      { v with exchanges := v.exchanges ++ [(request.body, some (reply w a op request c cancelled).2)] } := by
  have htold := h.tell (w := w) (op.label ++ "...") [("action", .text a.name), ("cid", .text op.target.commandName)]
  obtain ⟨hid, hattends, o, hasked⟩ := htold.submit hres hroom request w.commandTimeout
  simp only [reply]
  generalize submit _ request w.commandTimeout = asked at hid hattends hasked ⊢
  have hentered : ((actor w).enter asked.1 .idle .submitted).Attends v.exchanges.length := hattends
  rw [hid]
  exact ((hasked.enter (w := w) .idle .submitted).await hres hentered cancelled).1

-- The runner knows its transport by an interface only. On a channel, its exchange is `reply`.
theorem converse_eq (a : Action) (op : Operation) (request : Message) (c : Channel) (session : Session) :
    (actor w).converse a op request c session =
      let (c, o) := reply w a op request c session.cancelled
      match o with
      | .error e =>
        (actor w).finish a ((actor w).complain ((actor w).enter c .submitted .transportError)
          ("operation failed: " ++ message e)) session .transportError (.error (.transport e))
      | .ok m =>
        match op.complete w.color (some m) with
        | .error e =>
          (actor w).finish a ((actor w).complain ((actor w).enter c .submitted .protocolError)
            ("couldn't parse response message: " ++ message e)) session .protocolError (.error (.response e))
        | .ok stdout =>
          (actor w).finish a ((actor w).enter c .submitted .succeeded) session .succeeded (.ok stdout) := by
  have hsubmit (c : Channel) (request : Message) (cancelled : Bool) :
      (actor w).transport.submit c request (actor w).timeout cancelled =
        ((c.submit request w.commandTimeout).1, ⟨(c.submit request w.commandTimeout).2, cancelled⟩) := rfl
  have hresult (c : Channel) (ticket : Ticket) : (actor w).transport.result c ticket =
      ((c.await ticket.call ticket.cancelled).1, (c.await ticket.call ticket.cancelled).2.map some) := rfl
  have hwait (c : Channel) (label : Text) : (actor w).onWait c label = c := rfl
  have hcolor : (actor w).color = w.color := rfl
  simp only [Runner.converse, hsubmit, hresult, hwait, hcolor, reply]
  generalize await _ _ _ = answered
  obtain ⟨c, o⟩ := answered
  cases o with
  | error e => rfl
  | ok m => rfl

/-- What carrying out an action leaves, where the view was `v` before. The exchanges it has added are `asked`. -/
structure Acts (a : Action) (color : Bool) (v : View) (asked : List (Body × Option Outcome)) (c : Channel)
    (done : Completion CallError) : Prop where
  shows : ∃ lines, c.Shows ⟨v.exchanges ++ asked, v.prints ++ lines, v.holds.take.1.release v.holds.take.2⟩ ∧
    ErrorLines color lines ∧ (done.failure.isSome = true → lines ≠ [])
  stdout : done.stdout ≠ Text.empty ↔ done.failure.isNone = true
  success : done.failure.isNone = true ↔ ∃ b m, (b, some (.ok m)) ∈ asked ∧ a.accepts m = true

theorem Acts.success_iff {a : Action} {color : Bool} {b : Body} {o : Outcome} {done : Completion CallError}
    (h : Acts a color v (if a.inputFits then [(b, some o)] else []) c done) :
    done.failure.isNone = true ↔ a.inputFits = true ∧ ∃ m, o = .ok m ∧ a.accepts m = true := by
  rw [h.success]
  cases a.inputFits with
  | false => simp
  | true =>
    constructor
    · rintro ⟨b, m, hmem, haccepts⟩
      cases List.mem_singleton.1 hmem
      exact ⟨rfl, m, rfl, haccepts⟩
    · rintro ⟨-, m, rfl, haccepts⟩
      exact ⟨b, m, List.mem_singleton_self _, haccepts⟩

section
variable {a : Action} {op : Operation} {session : Session} (hsession : session.finalized = false)
include hsession

theorem finish_error (c : Channel) (state : RunState) (f : Failure CallError) :
    ((actor w).finish a c session state (.error f)).2.failure = some f ∧
    ((actor w).finish a c session state (.error f)).2.stdout = Text.empty := by
  simp [Runner.finish, Session.finalize, hsession]

theorem finish_ok (c : Channel) (state : RunState) (t : Text) :
    ((actor w).finish a c session state (.ok t)).2.failure = none ∧
    ((actor w).finish a c session state (.ok t)).2.stdout = t := by
  simp [Runner.finish, Session.finalize, hsession]

variable (hhold : session.hold = v.holds.take.2)
include hhold

/-- An action that ends with a complaint has failed. -/
theorem acts_of_complaint {asked : List (Body × Option Outcome)}
    (h : c.Shows ⟨v.exchanges ++ asked, v.prints, v.holds.take.1⟩)
    (hfails : ∀ b m, (b, some (.ok m)) ∈ asked → a.accepts m = false) (reason : Text) (state : RunState)
    (f : Failure CallError) :
    Acts a w.color v asked ((actor w).finish a ((actor w).complain c reason) session state (.error f)).1
      ((actor w).finish a ((actor w).complain c reason) session state (.error f)).2 := by
  have hshows := (h.complain (w := w) reason).finish (w := w) a hsession state (.error f)
  rw [hhold] at hshows
  obtain ⟨hfailure, hstdout⟩ := finish_error (w := w) (a := a) hsession ((actor w).complain c reason) state f
  refine ⟨⟨_, hshows, errorLines_singleton (isErrorLine_report w.color reason), fun _ => by simp⟩, ?_, ?_⟩
  · simp [hfailure, hstdout]
  · rw [hfailure]
    constructor
    · intro h
      cases h
    · rintro ⟨b, m, hmem, haccepts⟩
      rw [hfails b m hmem] at haccepts
      cases haccepts

/-- A request is submitted and waited for, and what comes of it is shown. -/
theorem converse_acts (h : c.Shows { v with holds := v.holds.take.1 }) (hres : v.Resolved)
    (hroom : v.exchanges.length + 1 < 2 ^ 32) (hop : a.operation? = some op) (request : Message) :
    ∃ o, Acts a w.color v [(request.body, some o)] ((actor w).converse a op request c session).1
      ((actor w).converse a op request c session).2 := by
  have hreply := reply_shows (w := w) h hres hroom a op request session.cancelled
  rw [converse_eq]
  generalize reply w a op request c session.cancelled = replied at hreply
  obtain ⟨c', o⟩ := replied
  refine ⟨o, ?_⟩
  cases o with
  | error e => exact acts_of_complaint hsession hhold (hreply.enter ..) (by simp) _ _ _
  | ok m =>
    rcases Phonebook.complete_cases hop w.color m with ⟨haccepts, t, ht, hne⟩ | ⟨hrejects, e, he⟩
    · have hshows := (hreply.enter (w := w) .submitted .succeeded).finish (w := w) a hsession .succeeded (.ok t)
      obtain ⟨hfailure, hstdout⟩ :=
        finish_ok (w := w) (a := a) hsession ((actor w).enter c' .submitted .succeeded) .succeeded t
      rw [hhold] at hshows
      simp only [ht]
      refine ⟨⟨[], by simpa using hshows, nofun, ?_⟩, ?_, ?_⟩
      · simp [hfailure]
      · simp [hfailure, hstdout, hne]
      · simp [hfailure, haccepts]
    · simp only [he]
      refine acts_of_complaint hsession hhold (hreply.enter ..) ?_ _ _ _
      intro b m' hmem
      simp only [List.mem_singleton, Prod.mk.injEq, Option.some.injEq, Except.ok.injEq] at hmem
      rw [hmem.2]
      exact hrejects

end

variable {a : Action} {op : Operation}

theorem run_acts (h : c.Shows v) (hres : v.Resolved) (hroom : v.exchanges.length + 1 < 2 ^ 32)
    (hop : a.operation? = some op) :
    ∃ (request : Message) (o : Outcome), (a.inputFits = true → Phonebook.Asks a request) ∧
      Acts a w.color v (if a.inputFits then [(request.body, some o)] else []) ((actor w).run c w.cancelled a).1
        ((actor w).run c w.cancelled a).2 := by
  have hconforms := Phonebook.conforms_of_operation hop
  have hbuilt := hconforms.built_iff
  rw [← Phonebook.inputFits_iff] at hbuilt
  obtain ⟨htaken, hhold⟩ := h.hold
  have hremarks := htaken.remarks (w := w) op.remarks
  generalize hstart : op.remarks.foldl (fun c record => (actor w).transport.write c (.diagnostic .host record)) c.hold.1 =
    started at hremarks
  have hheld : (actor w).transport.hold c = (c.hold.1, c.hold.2) := rfl
  cases hrequest : op.request with
  | error e =>
    have hfits : a.inputFits = false := by
      refine eq_false_of_ne_true fun hfits => ?_
      obtain ⟨m, hm⟩ := hbuilt.2 hfits
      cases hrequest.symm.trans hm
    have hrun : (actor w).run c w.cancelled a = (actor w).finish a ((actor w).complain started (message e))
        ⟨c.hold.2, w.cancelled, false⟩ .idle (.error (.invalidInput e)) := by
      simp only [Runner.run, hop, Session.start, hheld, hstart, hrequest]
    rw [hrun]
    refine ⟨⟨0, .closeRequest⟩, .error .cancelled, by simp [hfits], ?_⟩
    simp only [hfits, Bool.false_eq_true, if_false]
    refine acts_of_complaint rfl hhold ?_ (by simp) _ _ _
    simpa using hremarks
  | ok request =>
    have hfits : a.inputFits = true := hbuilt.1 ⟨request, hrequest⟩
    have hrun : (actor w).run c w.cancelled a =
        (actor w).converse a op request started ⟨c.hold.2, w.cancelled, false⟩ := by
      simp only [Runner.run, hop, Session.start, hheld, hstart, hrequest]
    rw [hrun]
    have hfresh : (⟨c.hold.2, w.cancelled, false⟩ : Session).finalized = false := rfl
    obtain ⟨o, hacts⟩ := converse_acts (w := w) hfresh hhold hremarks hres hroom hop request
    refine ⟨request, o, fun _ => hconforms.asks request hrequest, ?_⟩
    rw [if_pos hfits]
    exact hacts

theorem act_acts (h : c.Shows v) (hres : v.Resolved) (hroom : v.exchanges.length + 1 < 2 ^ 32)
    (hop : a.operation? = some op) :
    ∃ (request : Message) (o : Outcome), (a.inputFits = true → Phonebook.Asks a request) ∧
      Acts a w.color v (if a.inputFits then [(request.body, some o)] else []) (c.act w a).1 (c.act w a).2 := by
  obtain ⟨request, o, hasks, hacts⟩ := run_acts (w := w) h hres hroom hop
  refine ⟨request, o, hasks, ?_⟩
  generalize hran : (actor w).run c w.cancelled a = ran at hacts
  obtain ⟨c', done⟩ := ran
  simp only [actor] at hran
  cases hfailure : done.failure with
  | none =>
    have hact : c.act w a = (c', done) := by simp only [act, hran, hfailure]
    rw [hact]
    exact hacts
  | some f =>
    have hact : c.act w a =
        (c'.note "phonebook action failed" [("code", .text f.code), ("error", .text (message f))], done) := by
      simp only [act, hran, hfailure]
    rw [hact]
    obtain ⟨lines, hshows, hlines, hfailed⟩ := hacts.shows
    exact ⟨⟨lines, hshows.note _ _, hlines, hfailed⟩, hacts.stdout, hacts.success⟩

/-- What is asked in a run on an open device, with what came of it. -/
def course (s : Settings) (a : Action) (command : Body) (o₁ o₂ o₃ : Outcome) : List (Body × Option Outcome) :=
  (if s.noOpen then [] else [(.openRequest 4096, some o₁)]) ++
  if ready s o₁ then
    (if a.inputFits then [(command, some o₂)] else []) ++ if s.noClose then [] else [(.closeRequest, some o₃)]
  else []

theorem course_resolved {s : Settings} {a : Action} {command : Body} {o₁ o₂ o₃ : Outcome} {lines : List Text}
    {holds : Holds} : View.Resolved ⟨course s a command o₁ o₂ o₃, lines, holds⟩ := by
  intro x hx
  simp only [course, List.mem_append, List.mem_ite_nil_left, List.mem_ite_nil_right, List.mem_singleton] at hx
  rcases hx with ⟨-, rfl⟩ | ⟨-, ⟨-, rfl⟩ | ⟨-, rfl⟩⟩ <;> simp

/-- What serving an action on an open device leaves. The requests end as `o₁`, `o₂` and `o₃` say. -/
structure Serves (s : Settings) (a : Action) (color : Bool) (command : Body) (o₁ o₂ o₃ : Outcome) (lines : List Text)
    (served : Channel × Bool × Text) : Prop where
  shows : ∃ holds : Holds, holds.holders = 0 ∧ served.1.Shows ⟨course s a command o₁ o₂ o₃, lines, holds⟩
  errors : ErrorLines color lines
  failed : served.2.1 = false → lines ≠ []
  stdout : served.2.2 ≠ Text.empty ↔ served.2.1 = true
  success : served.2.1 = true ↔ Succeeds s a o₁ o₂

theorem serve_serves (h : c.Shows ⟨[], [], .none⟩) (s : Settings) (hop : a.operation? = some op) :
    ∃ (request : Message) (o₁ o₂ o₃ : Outcome) (lines : List Text), (a.inputFits = true → Phonebook.Asks a request) ∧
      Serves s a w.color request.body o₁ o₂ o₃ lines (c.serve w s a) := by
  obtain ⟨o₁, lines₁, hprepared, hready, hlines₁, hfailed₁⟩ :=
    prepare_shows h (by simp [View.Resolved]) (by simp) s w.color w.cancelled
  generalize hprepare : c.prepare s w.cancelled = prepared at hprepared hready hfailed₁
  obtain ⟨c₁, go⟩ := prepared
  have hready : go = ready s o₁ := hready
  cases go with
  | false =>
    -- Nothing else is asked. The request is the one that the action would have asked.
    obtain ⟨request, hasks⟩ := Phonebook.exists_asks hop
    have hserve : c.serve w s a = (c₁, false, Text.empty) := by simp only [serve, hprepare]
    rw [hserve]
    refine ⟨request, o₁, o₁, o₁, lines₁, hasks, ⟨.none, rfl, ?_⟩, hlines₁, fun _ => hfailed₁ rfl, by simp, ?_⟩
    · simpa [course, ← hready] using hprepared
    · simp [Succeeds, ← hready]
  | true =>
    have hopened : View.Resolved ⟨[] ++ if s.noOpen then [] else [(.openRequest 4096, some o₁)], [] ++ lines₁, .none⟩ := by
      cases s.noOpen <;> simp [View.Resolved]
    obtain ⟨request, o₂, hasks, hacts⟩ := act_acts (w := w) hprepared hopened (by cases s.noOpen <;> simp) hop
    generalize hact : c₁.act w a = acted at hacts
    obtain ⟨c₂, done⟩ := acted
    obtain ⟨lines₂, hacted, hlines₂, hfailed₂⟩ := hacts.shows
    obtain ⟨o₃, lines₃, hconcluded, hlines₃⟩ := conclude_shows hacted
      (by cases s.noOpen <;> cases a.inputFits <;> simp [View.Resolved])
      (by cases s.noOpen <;> cases a.inputFits <;> simp) s w.color
    have hserve : c.serve w s a = (c₂.conclude s, done.failure.isNone, done.stdout) := by
      simp only [serve, hprepare, hact]
    rw [hserve]
    refine ⟨request, o₁, o₂, o₃, lines₁ ++ lines₂ ++ lines₃, hasks,
      ⟨Holds.none.take.1.release Holds.none.take.2, rfl, ?_⟩, ?_, ?_, hacts.stdout, ?_⟩
    · simpa [course, ← hready] using hconcluded
    · exact (hlines₁.append hlines₂).append hlines₃
    · intro hfailure
      have hlines := hfailed₂ (by simpa [Option.isNone_eq_false_iff] using hfailure)
      simp [hlines]
    · rw [hacts.success_iff, Succeeds, ← hready]
      simp

end Channel

end SimPhonebook
