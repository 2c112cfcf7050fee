import Mathlib.Data.List.Induction
import SimPhonebook.Proofs.Coherence

/-!
# Calls are completed once, and with their own answers

Every outcome has an origin: an event that started a completion with this outcome, or the refusal to register the call
(`origins`). Completions under way keep the outcome they were started with until they are carried out, and of
several completions of a call only the first has an effect. So what may be an outcome is what an event may start
(`starts_cases`), and an event starts a completion with an answer only if it is the arrival of the frame that completes
the answer.
-/

namespace SimPhonebook

namespace Device

/-! ## Received frames -/

/-- The frames that the reader takes in. -/
def received (d : Device) : List Event → List Octets
  | [] => []
  | .arrive frame :: events =>
    if d.reader = .running then frame :: received (d.step (.arrive frame)) events
    else received (d.step (.arrive frame)) events
  | e :: events => received (d.step e) events

theorem reassembler_step {d : Device} (hd : d.Coherent) (e : Event) :
    (d.step e).reassembler = d.reassembler.feed (d.received [e]) := by
  have hmove := step_move hd e
  generalize d.step e = d' at hmove
  cases hmove with
  | idle e hsubmit harrive =>
    cases e with
    | arrive frame => rw [received, if_neg (harrive frame rfl)]; rfl
    | _ => rfl
  | arrive frame hr j => rw [received, if_pos hr]; rfl
  | giveUp e he =>
    rcases he with rfl | rfl
    · rfl
    · rfl
  | _ => rfl

theorem received_cons (d : Device) (e : Event) (events : List Event) :
    d.received (e :: events) = d.received [e] ++ (d.step e).received events := by
  cases e with
  | arrive frame =>
    simp only [received]
    split
    · rfl
    · rfl
  | _ => rfl

/-- The reassembler of a device holds what the frames received make of it. -/
theorem reassembler_run {d : Device} (hd : d.Coherent) (events : List Event) :
    (d.run events).reassembler = d.reassembler.feed (d.received events) := by
  induction events generalizing d with
  | nil => rfl
  | cons e events ih =>
    rw [received_cons, Reassembler.feed_append, ← reassembler_step hd]
    exact ih (hd.step e)

/-- The message that the arrival of a frame completes, if it completes one that makes sense. -/
def completes (d : Device) (frame : Octets) : Option Message :=
  if d.reader = .running then
    match (d.reassembler.add frame).2 with
    | .ok (some data) => (Message.decode data).toOption
    | _ => none
  else none

/-- Frames of the transaction, taken in by the reader in the course of the events, make up the message. -/
def Arrives (start : Device) (events : List Event) (t : UInt32) (m : Message) : Prop :=
  ∃ before frame after data, events = before ++ .arrive frame :: after ∧ (start.run before).reader = .running ∧
    carries t frame = true ∧
    ((start.reassembler.feed ((start.received before).filter (carries t))).add frame).2 = .ok (some data) ∧
    Message.decode data = .ok m

/-! ## What events start -/

/-- The event starts a completion of the call with the outcome. -/
def Starts (d : Device) (e : Event) (id : CallId) (o : Outcome) : Prop :=
  ∃ g ∈ (d.step e).finishing.drop d.finishing.length, g.call = id ∧ g.outcome = o

section
variable {d : Device} {e : Event} {id : CallId} {o : Outcome}

/-- Only an arrival starts anything but a failure, and what it starts is its verdict on the call that waits. -/
theorem starts_cases (hd : d.Coherent) (h : Starts d e id o) :
    ((∀ frame, e ≠ .arrive frame) ∧ ∃ reason, o = .error reason) ∨
    ∃ frame outcome c, e = .arrive frame ∧ d.reader = .running ∧ d.pending.find? (frame.wordAt 8) = some id ∧
      d.calls[id]? = some c ∧ verdict (d.reassembler.slot (frame.wordAt 8)) frame = some outcome ∧ o = outcome c := by
  obtain ⟨g, hg, rfl, rfl⟩ := h
  have hmove := step_move hd e
  generalize d.step e = d' at hmove hg
  cases hmove with
  | unwritten fault hc hs reason sent j =>
    rw [List.drop_left, List.mem_singleton] at hg
    exact Or.inl ⟨nofun, reason, by rw [hg]⟩
  | giveUp e he hc hs reason =>
    rw [List.drop_left, List.mem_singleton] at hg
    exact Or.inl ⟨by rcases he with rfl | rfl <;> nofun, reason, by rw [hg]⟩
  | arrive frame hr j =>
    rw [List.drop_left, Option.mem_toList] at hg
    obtain ⟨outcome, hv, hg⟩ := Option.bind_eq_some_iff.1 hg
    obtain ⟨id, c, hid, hc, rfl⟩ := mem_conclude hg
    exact Or.inr ⟨frame, outcome, c, rfl, hr, hid, hc, hv, rfl⟩
  | abandon reason hr he =>
    simp only [failPending, List.drop_left] at hg
    obtain ⟨id, -, rfl⟩ := List.mem_map.1 hg
    exact Or.inl ⟨nofun, _, rfl⟩
  | completeClose h hr =>
    simp only [failPending, List.drop_left] at hg
    obtain ⟨id, -, rfl⟩ := List.mem_map.1 hg
    exact Or.inl ⟨nofun, _, rfl⟩
  | take hg' ht hc =>
    rw [List.drop_eq_nil_of_le (Nat.le_of_eq (List.length_modify _ _ _))] at hg
    cases hg
  | deliver hg' ht j =>
    rw [List.drop_eq_nil_of_le (List.length_eraseIdx_le _ _)] at hg
    cases hg
  | _ => simp [submit, refuse, modifyCall] at hg

/-- A completion under way was under way before, or the event has started it. -/
theorem finish_step (hd : d.Coherent) {g : Finish} (hg : g ∈ (d.step e).finishing) :
    (∃ g₀ ∈ d.finishing, g₀.call = g.call ∧ g₀.outcome = g.outcome) ∨ Starts d e g.call g.outcome := by
  have hold : g ∈ d.finishing → ∃ g₀ ∈ d.finishing, g₀.call = g.call ∧ g₀.outcome = g.outcome :=
    fun h => ⟨g, h, rfl, rfl⟩
  have hadd : ∀ new, (d.step e).finishing = d.finishing ++ new →
      (∃ g₀ ∈ d.finishing, g₀.call = g.call ∧ g₀.outcome = g.outcome) ∨ Starts d e g.call g.outcome := by
    intro new hnew
    rw [hnew] at hg
    rcases List.mem_append.1 hg with h | h
    · exact Or.inl (hold h)
    · exact Or.inr ⟨g, by rw [hnew, List.drop_left]; exact h, rfl, rfl⟩
  have hmove := step_move hd e
  generalize d.step e = d' at hmove hg hadd
  cases hmove with
  | unwritten => exact hadd _ rfl
  | giveUp => exact hadd _ rfl
  | arrive => exact hadd _ rfl
  | abandon => exact hadd _ rfl
  | completeClose => exact hadd _ rfl
  | take hg' ht hc =>
    rcases mem_modify_cases hg with h | ⟨g₀, h, rfl⟩
    · exact Or.inl (hold h)
    · exact Or.inl ⟨g₀, List.mem_of_getElem? h, rfl, rfl⟩
  | deliver hg' ht j => exact Or.inl (hold (List.mem_of_mem_eraseIdx hg))
  | _ => exact Or.inl (hold hg)

/-- Registering the call ends it at once, with the outcome. -/
def Refuses (d : Device) (e : Event) (id : CallId) (o : Outcome) : Prop :=
  e = .register id ∧ ∃ reason, d.refusal = some reason ∧ o = .error reason

theorem outcome?_resolve {c : Call} {o o' : Outcome} {s : Sending}
    (h : Call.outcome? { c with sending := s, promise := (c.promise.resolve o').1 } = some o) :
    c.outcome? = some o ∨ (c.outcome? = none ∧ o' = o) := by
  simp only [Call.outcome?, Promise.resolve] at h ⊢
  cases hp : c.promise.result with
  | none =>
    rw [hp] at h
    exact Or.inr ⟨rfl, Option.some.inj h⟩
  | some o'' =>
    rw [hp] at h
    exact Or.inl (hp.symm.trans h)

/-- An outcome was there before, or was that of a completion under way, or is a refusal. -/
theorem outcome_step (hd : d.Coherent) {c' : Call} (hc' : (d.step e).calls[id]? = some c') (ho : c'.outcome? = some o) :
    (∃ c, d.calls[id]? = some c ∧ c.outcome? = some o) ∨ (∃ g ∈ d.finishing, g.call = id ∧ g.outcome = o) ∨
      Refuses d e id o := by
  -- a change of how far the sending has come leaves the outcome
  have hsending : ∀ {k : CallId} {s : Sending},
      (d.calls.modify k fun c => { c with sending := s })[id]? = some c' →
      ∃ c, d.calls[id]? = some c ∧ c.outcome? = some o := by
    intro k s h
    rcases modify_cases h with ⟨-, h₀⟩ | ⟨rfl, c, h₀, rfl⟩
    · exact ⟨c', h₀, ho⟩
    · exact ⟨c, h₀, ho⟩
  have hmove := step_move hd e
  generalize d.step e = d' at hmove hc'
  cases hmove with
  | submit request timeout =>
    rcases submit_cases hc' with hc | ⟨-, rfl⟩
    · exact Or.inl ⟨c', hc, ho⟩
    · cases ho
  | refuse hc hs he =>
    rcases modify_cases hc' with ⟨-, h⟩ | ⟨rfl, c, h, rfl⟩
    · exact Or.inl ⟨c', h, ho⟩
    · rcases outcome?_resolve ho with ho | ⟨-, rfl⟩
      · exact Or.inl ⟨c, h, ho⟩
      · exact Or.inr (Or.inr ⟨rfl, _, he, rfl⟩)
  | register => exact Or.inl (hsending hc')
  | written => exact Or.inl (hsending hc')
  | unwritten => exact Or.inl (hsending hc')
  | giveUp => exact Or.inl (hsending hc')
  | deliver hg ht j =>
    rcases modify_cases hc' with ⟨-, h⟩ | ⟨rfl, c, h, rfl⟩
    · exact Or.inl ⟨c', h, ho⟩
    · rcases outcome?_resolve (s := c.sending) ho with ho | ⟨-, ho⟩
      · exact Or.inl ⟨c, h, ho⟩
      · exact Or.inr (Or.inl ⟨_, List.mem_of_getElem? hg, rfl, ho⟩)
  | _ => exact Or.inl ⟨c', hc', ho⟩

end

/-! ## Origins -/

/-- One of the events has started a completion of the call with the outcome, or has refused the call. -/
def Origin (start : Device) (events : List Event) (id : CallId) (o : Outcome) : Prop :=
  ∃ before e after, events = before ++ e :: after ∧
    (Starts (start.run before) e id o ∨ Refuses (start.run before) e id o)

section
variable {start : Device} {events : List Event} {id : CallId} {o : Outcome}

theorem Origin.append (h : Origin start events id o) (more : List Event) : Origin start (events ++ more) id o := by
  obtain ⟨before, e, after, rfl, h⟩ := h
  exact ⟨before, e, after ++ more, by simp, h⟩

theorem origin_last {e : Event} (h : Starts (start.run events) e id o ∨ Refuses (start.run events) e id o) :
    Origin start (events ++ [e]) id o := ⟨events, e, [], rfl, h⟩

/-- Every completion under way and every outcome of a new device in use has an origin. -/
theorem origins (hstart : start.IsNew) (events : List Event) :
    (∀ g ∈ (start.run events).finishing, Origin start events g.call g.outcome) ∧
    ∀ (id : CallId) (c : Call) (o : Outcome), (start.run events).calls[id]? = some c → c.outcome? = some o →
      Origin start events id o := by
  induction events using List.reverseRecOn with
  | nil =>
    obtain ⟨name, maxTransfer, journal, rfl⟩ := hstart
    simp [run, new]
  | append_singleton events e ih =>
    obtain ⟨hfinishing, houtcome⟩ := ih
    have hd := hstart.coherent.run events
    have hrun : start.run (events ++ [e]) = (start.run events).step e := run_append start events [e]
    rw [hrun]
    constructor
    · intro g hg
      rcases finish_step hd hg with ⟨g₀, hg₀, hcall, ho⟩ | h
      · rw [← hcall, ← ho]
        exact (hfinishing g₀ hg₀).append [e]
      · exact origin_last (Or.inl h)
    · intro id c' o hc' ho
      rcases outcome_step hd hc' ho with ⟨c, hc, ho⟩ | ⟨g, hg, rfl, rfl⟩ | h
      · exact (houtcome id c o hc ho).append [e]
      · exact (hfinishing g hg).append [e]
      · exact origin_last (Or.inr h)

/-! ## Answers -/

/-- The outcome that a message is for a call. -/
inductive Fits (c : Call) (m : Message) : Outcome → Prop
  | answer (h : m.type = c.request.type.answer) : Fits c m (.ok m)
  | fault {f : Fault} (h : m.body = .functionError f) : Fits c m (.error (.refused (.fault f)))
  | unexpected (hf : m.type ≠ .functionError) (ha : m.type ≠ c.request.type.answer) :
      Fits c m (.error (.unexpectedType m.type c.request.type))

theorem answer_ne_functionError (t : MessageType) : t.answer ≠ .functionError := by
  cases t <;> nofun

theorem fits_iff {c : Call} {m : Message} {o : Outcome} : Fits c m o ↔ o = outcomeOf c m := by
  unfold outcomeOf
  split
  · rename_i f hf
    have htype : m.type = .functionError := congrArg Body.type hf
    constructor
    · intro h
      cases h with
      | answer h => exact absurd (h.symm.trans htype) (answer_ne_functionError _)
      | fault h => rw [hf] at h; cases h; rfl
      | unexpected h _ => exact absurd htype h
    · rintro rfl
      exact .fault hf
  · rename_i hf
    have htype : m.type ≠ .functionError := by
      intro h
      obtain ⟨t, body⟩ := m
      cases body with
      | functionError f => exact hf f rfl
      | _ => cases h
    constructor
    · intro h
      cases h with
      | answer h => rw [if_pos h]
      | fault h => exact absurd h (hf _)
      | unexpected _ h => rw [if_neg h]
    · rintro rfl
      split
      · exact .answer (by assumption)
      · exact .unexpected htype (by assumption)

theorem Fits.of_ok {c : Call} {m m' : Message} (h : Fits c m (.ok m')) : m = m' ∧ m.type = c.request.type.answer := by
  cases h with
  | answer h => exact ⟨rfl, h⟩

/-- A verdict that is an answer is the message just completed. -/
theorem verdict_ok {slot : Option Collected} {frame : Octets} {outcome : Call → Outcome} {c : Call} {m : Message}
    (hv : verdict slot frame = some outcome) (hm : outcome c = .ok m) :
    m.type = c.request.type.answer ∧
      ∃ data, (Reassembler.advance slot frame).2 = .ok (some data) ∧ Message.decode data = .ok m := by
  unfold verdict at hv
  split at hv
  · cases hv
  cases hadv : (Reassembler.advance slot frame).2 with
  | error e =>
    rw [hadv] at hv
    cases hv
    cases hm
  | ok result =>
    rw [hadv] at hv
    cases result with
    | none => cases hv
    | some data =>
      cases hdecode : Message.decode data with
      | error e =>
        simp only [hdecode] at hv
        cases hv
        cases hm
      | ok m' =>
        simp only [hdecode] at hv
        split at hv
        · cases hv
        · cases hv
          obtain ⟨rfl, htype⟩ := (fits_iff.2 hm.symm).of_ok
          exact ⟨htype, data, rfl, hdecode⟩

/-- What the reassembler answers to a frame is decided by the frames received under the ID of the frame. -/
theorem answer_eq_of_carries (hd : start.Coherent) {t : UInt32} {frame : Octets} (hframe : carries t frame = true) :
    (Reassembler.advance ((start.run events).reassembler.slot t) frame).2 =
      ((start.reassembler.feed ((start.received events).filter (carries t))).add frame).2 := by
  rw [reassembler_run hd, Reassembler.slot_feed_filter, Reassembler.answer_add, (carries_iff.1 hframe).2]

/-- An answer that is the outcome of a call has come for this call. -/
theorem answer_arrives (hstart : start.IsNew) {c : Call} {m : Message} (hc : (start.run events).calls[id]? = some c)
    (ho : c.outcome? = some (.ok m)) :
    m.transaction = c.transaction ∧ m.type = c.request.type.answer ∧ Arrives start events c.transaction m := by
  obtain ⟨before, e, after, rfl, hstarts | ⟨-, reason, -, h⟩⟩ := (origins hstart events).2 id c _ hc ho
  · have hd := hstart.coherent.run before
    rcases starts_cases hd hstarts with ⟨-, reason, h⟩ | ⟨frame, outcome, c₀, rfl, hr, hid, hc₀, hv, h⟩
    · cases h
    · obtain ⟨htype, data, hadv, hdecode⟩ := verdict_ok hv h.symm
      -- the call has kept its request since the frame came
      obtain ⟨c', hc', hbecomes⟩ := becomes_run hd (.arrive frame :: after) hc₀
      rw [← run_append] at hc'
      obtain rfl : c = c' := Option.some.inj (hc.symm.trans hc')
      obtain ⟨ht, -⟩ := hd.waits hid hc₀
      have htransaction : c.transaction = frame.wordAt 8 := (congrArg Message.transaction hbecomes.request).trans ht
      have hcarries : carries c.transaction frame = true :=
        carries_iff.2 ⟨headerSize_le_of_verdict hv, htransaction.symm⟩
      obtain ⟨-, hword⟩ := Reassembler.transaction_of_advance (hd.kept _) hadv
      refine ⟨?_, by rw [hbecomes.request]; exact htype, before, frame, after, data, rfl, hr, hcarries, ?_, hdecode⟩
      · rw [transaction_of_decode hdecode, hword, htransaction]
      · rw [← answer_eq_of_carries hstart.coherent hcarries, htransaction]
        exact hadv
  · cases h

theorem verdict_of_completes {d : Device} (hd : d.Coherent) {frame : Octets} {m : Message}
    (hm : d.completes frame = some m) :
    d.reader = .running ∧ m.transaction = frame.wordAt 8 ∧
      verdict (d.reassembler.slot (frame.wordAt 8)) frame =
        if m.type = .indication then none else some (outcomeOf · m) := by
  unfold completes at hm
  split at hm
  · rename_i hr
    rw [Reassembler.answer_add] at hm
    split at hm
    · rename_i data hadv
      have hdecode : Message.decode data = .ok m := by
        cases h : Message.decode data with
        | error e => rw [h] at hm; cases hm
        | ok m' => rw [h] at hm; cases hm; rfl
      obtain ⟨-, hword⟩ := Reassembler.transaction_of_advance (hd.kept _) hadv
      have hlong : ¬frame.length < headerSize := by
        intro hshort
        unfold Reassembler.advance at hadv
        rw [if_pos hshort] at hadv
        cases hadv
      refine ⟨hr, (transaction_of_decode hdecode).trans hword, ?_⟩
      unfold verdict
      rw [if_neg hlong, hadv]
      simp only [hdecode]
    · cases hm
  · cases hm

/-- What the arrival of a message starts. -/
theorem starts_iff_of_completes {d : Device} (hd : d.Coherent) {frame : Octets} {m : Message}
    (hm : d.completes frame = some m) :
    Starts d (.arrive frame) id o ↔
      m.type ≠ .indication ∧ ∃ c, d.pending.find? m.transaction = some id ∧ d.calls[id]? = some c ∧ Fits c m o := by
  obtain ⟨hr, ht, hv⟩ := verdict_of_completes hd hm
  constructor
  · intro h
    rcases starts_cases hd h with ⟨hno, -⟩ | ⟨_, outcome, c, ⟨⟩, -, hid, hc, hv', rfl⟩
    · exact absurd rfl (hno frame)
    · rw [hv] at hv'
      split at hv'
      · cases hv'
      · rename_i hi
        cases hv'
        exact ⟨hi, c, by rw [ht]; exact hid, hc, fits_iff.2 rfl⟩
  · rintro ⟨hi, c, hid, hc, hfits⟩
    rw [ht] at hid
    rw [if_neg hi] at hv
    obtain ⟨j, hj⟩ := arrive_eq hd hr frame
    have hdecided : d.decided frame = some ⟨id, outcomeOf c m, false, some .reader⟩ := by
      rw [decided, hv, Option.bind_some, conclude_eq_some hid hc]
    refine ⟨⟨id, outcomeOf c m, false, some .reader⟩, ?_, rfl, (fits_iff.1 hfits).symm⟩
    rw [step, hj, List.drop_left, hdecided]
    exact List.mem_singleton.2 rfl

end

/-- **Calls are completed once, and with their own answers.** Of a new device in use:
an outcome stays;
an answer that is the outcome of a call has the transaction ID of the call and the type its request asks for, and is made
up of frames received under this ID;
no answer is the outcome of two calls;
every outcome has an origin, and where this is the arrival of a message, the message is no indication and the outcome
is the answer, the fault it reports or its unexpected type. -/
theorem outcomes_final_and_routed {start : Device} (hstart : start.IsNew) {events : List Event}
    (few : submissions events < 2 ^ 32 - 1) :
    (∀ (before after : List Event) (id : CallId) (c : Call) (o : Outcome), events = before ++ after →
      (start.run before).calls[id]? = some c → c.outcome? = some o →
      ∃ c' : Call, (start.run events).calls[id]? = some c' ∧ c'.outcome? = some o) ∧
    (∀ (id : CallId) (c : Call) (m : Message),
      (start.run events).calls[id]? = some c → c.outcome? = some (.ok m) →
      m.transaction = c.transaction ∧ m.type = c.request.type.answer ∧ Arrives start events c.transaction m) ∧
    (∀ (id id' : CallId) (c c' : Call) (m : Message),
      (start.run events).calls[id]? = some c → (start.run events).calls[id']? = some c' →
      c.outcome? = some (.ok m) → c'.outcome? = some (.ok m) → id = id') ∧
    (∀ (id : CallId) (c : Call) (o : Outcome),
      (start.run events).calls[id]? = some c → c.outcome? = some o → Origin start events id o) ∧
    (∀ (before after : List Event) (frame : Octets) (m : Message), events = before ++ .arrive frame :: after →
      (start.run before).completes frame = some m →
      ∀ (id : CallId) (o : Outcome), Starts (start.run before) (.arrive frame) id o ↔
        m.type ≠ .indication ∧ ∃ c, (start.run before).pending.find? m.transaction = some id ∧
          (start.run before).calls[id]? = some c ∧ Fits c m o) := by
  have hd := hstart.coherent
  refine ⟨?_, fun id c m hc ho => answer_arrives hstart hc ho, ?_, (origins hstart events).2, ?_⟩
  · rintro before after id c o rfl hc ho
    obtain ⟨c', hc', hbecomes⟩ := becomes_run (hd.run before) after hc
    exact ⟨c', by rw [run_append]; exact hc', hbecomes.outcome o ho⟩
  · intro id id' c c' m hc hc' ho ho'
    obtain ⟨ht, -⟩ := answer_arrives hstart hc ho
    obtain ⟨ht', -⟩ := answer_arrives hstart hc' ho'
    exact (hstart.numbered_run few).id_eq hc hc' (ht.symm.trans ht')
  · intro before after frame m _ hm id o
    exact starts_iff_of_completes (hd.run before) hm

/-- A session is opened; the timer of the request fires when its answer has come and is not delivered yet. -/
def openingRace : List Event :=
  [.submit (.openSession 4096) ⟨0⟩, .register 0, .transmit 0 none, .arrive (Message.mk 1 (.openDone ⟨0⟩)).encode,
    .expire 0, .take 0, .take 1, .deliver 0, .deliver 0]

theorem openingRace_routed :
    submissions openingRace < 2 ^ 32 - 1 ∧
    ∃ c, ((new "" defaultMaxTransfer []).run openingRace).calls[0]? = some c ∧
      c.outcome? = some (.ok ⟨1, .openDone ⟨0⟩⟩) ∧ 1 = c.transaction ∧
      Arrives (new "" defaultMaxTransfer []) openingRace c.transaction ⟨1, .openDone ⟨0⟩⟩ := by
  have hfew : submissions openingRace < 2 ^ 32 - 1 := by decide
  have houtcome : (((new "" defaultMaxTransfer []).run openingRace).calls[0]?).bind Call.outcome? =
      some (.ok ⟨1, .openDone ⟨0⟩⟩) := by decide +kernel
  obtain ⟨c, hc, ho⟩ := Option.bind_eq_some_iff.1 houtcome
  obtain ⟨ht, -, harrives⟩ := (outcomes_final_and_routed ⟨_, _, _, rfl⟩ hfew).2.1 0 c _ hc ho
  exact ⟨hfew, c, hc, ho, ht, harrives⟩

end Device

end SimPhonebook
