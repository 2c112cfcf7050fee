import SimPhonebook.Proofs.Completion
import SimPhonebook.Proofs.Shutdown

/-!
# A device between two operations

Whoever uses a device lets everything that has become due happen before going on: `Device.perform` carries out the
completions that an event starts, until none is under way (`finishing_settle`). So between two operations a call that is
given up has its outcome, and an outcome that is an answer answers the request (`Sound`).

No event touches the holds of a device, and no event prints: what stands in the journal beside diagnostics was put there by
the user of the device (`prints_step`).
-/

namespace SimPhonebook

/-! ## Printed text -/

def Note.text? : Note → Option Text
  | .printed t => some t
  | .diagnostic _ _ => none

/-- The printed texts of a journal. -/
def Journal.prints (j : Journal) : List Text := j.filterMap Note.text?

namespace Device

@[simp] theorem prints_note (d : Device) (voice : Voice) (text : Text) (attributes : List (Text × Log.Value)) :
    (d.note voice text attributes).journal.prints = d.journal.prints := by
  simp [note, Journal.prints, Note.text?]

@[simp] theorem prints_noteFrame (d : Device) (voice : Voice) (direction : Text) (frame : Octets) :
    (d.noteFrame voice direction frame).journal.prints = d.journal.prints :=
  prints_note ..

@[simp] theorem prints_foldl_send (frames : List Octets) (d : Device) :
    (frames.foldl send d).journal.prints = d.journal.prints := by
  induction frames generalizing d with
  | nil => rfl
  | cons frame frames ih => exact (ih _).trans (prints_noteFrame ..)

theorem prints_register (d : Device) (id : CallId) : (d.register id).journal.prints = d.journal.prints := by
  unfold register
  split
  · rfl
  split
  · rfl
  split
  · rfl
  split
  · rfl
  · exact prints_note ..

theorem prints_transmit (d : Device) (id : CallId) (fault : Option WriteFault) :
    (d.transmit id fault).journal.prints = d.journal.prints := by
  unfold transmit
  split
  · rfl
  split
  · rfl
  simp only
  split
  · rfl
  unfold transmitFrames
  split
  · exact prints_foldl_send ..
  · simp [decide, modifyCall]

theorem prints_giveUp (d : Device) (id : CallId) (reason : Call → CallError) :
    (d.giveUp id reason).journal.prints = d.journal.prints := by
  unfold giveUp
  split
  · rfl
  split
  · rfl
  · rfl

theorem prints_takeStep (d : Device) (i : Nat) : (d.takeStep i).journal.prints = d.journal.prints := by
  unfold takeStep takeOut
  split
  · rfl
  split
  · rfl
  split
  · rfl
  split
  · rfl
  · rfl

theorem prints_deliverStep (d : Device) (i : Nat) : (d.deliverStep i).journal.prints = d.journal.prints := by
  unfold deliverStep resolve
  split
  · rfl
  split
  · split
    · rfl
    simp only
    split
    · split
      · simp [modifyCall]
      · rfl
    · rfl
  · rfl

theorem prints_failTransaction (d : Device) (data : Octets) (e : CallError) :
    (d.failTransaction data e).journal.prints = d.journal.prints := by
  unfold failTransaction
  split
  · exact prints_note ..
  split
  · exact prints_note ..
  · rfl

theorem prints_dispatch (d : Device) (m : Message) : (d.dispatch m).journal.prints = d.journal.prints := by
  unfold dispatch
  simp only
  split
  · simp
  split
  · simp
  split
  · simp
  · simp [decide]

theorem prints_arrive (d : Device) (frame : Octets) : (d.arrive frame).journal.prints = d.journal.prints := by
  unfold arrive
  split
  · rfl
  simp only
  split
  · rw [prints_failTransaction]
    simp
  · simp
  split
  · rw [prints_failTransaction]
    simp
  · rw [prints_dispatch]
    simp

/-- **No event prints.** -/
theorem prints_step (d : Device) (e : Event) : (d.step e).journal.prints = d.journal.prints := by
  cases e with
  | submit request timeout => rfl
  | register id => exact prints_register d id
  | transmit id fault => exact prints_transmit d id fault
  | arrive frame => exact prints_arrive d frame
  | expire id => exact prints_giveUp ..
  | cancel id => exact prints_giveUp ..
  | take i => exact prints_takeStep d i
  | deliver i => exact prints_deliverStep d i
  | lose e =>
    simp only [step, lose]
    split
    · rfl
    split
    · rfl
    · exact prints_note ..
  | abandon =>
    simp only [step, abandon]
    split
    · rfl
    · rfl
  | announceClose =>
    simp only [step, announceClose]
    split
    · rfl
    split
    · simp
    · rfl
  | closeStream =>
    simp only [step, closeStream]
    split
    · rfl
    · rfl
  | completeClose =>
    simp only [step, completeClose]
    split
    · rfl
    · rfl

/-! ## Carrying out completions -/

theorem finishing_takeOut (d : Device) (id : CallId) : (d.takeOut id).finishing = d.finishing := by
  unfold takeOut
  split
  · rfl
  split
  · rfl
  · rfl

theorem finishing_resolve (d : Device) (g : Finish) : (d.resolve g).finishing = d.finishing := by
  unfold resolve
  split
  · rfl
  simp only
  split
  · split
    · rfl
    · rfl
  · rfl

/-- Taking the call of the oldest completion out of the table and resolving it ends the completion. -/
theorem finishing_take_deliver (d : Device) : (d.run [.take 0, .deliver 0]).finishing = d.finishing.tail := by
  simp only [run, List.foldl_cons, List.foldl_nil, step]
  cases hd : d.finishing with
  | nil => simp [takeStep, deliverStep, hd]
  | cons g rest =>
    have htake : ∃ g', g'.taken = true ∧ (d.takeStep 0).finishing = g' :: rest := by
      rcases Bool.eq_false_or_eq_true g.taken with ht | ht
      · exact ⟨g, ht, by simp [takeStep, hd, ht]⟩
      · exact ⟨{ g with taken := true }, rfl, by simp [takeStep, hd, ht, finishing_takeOut]⟩
    obtain ⟨g', ht, htake⟩ := htake
    simp [deliverStep, htake, ht, finishing_resolve]

/-- A property that taking out and resolving keep is kept while completions are carried out. -/
theorem settle_induction {P : Device → Prop} {d : Device} (h : P d)
    (htake : ∀ d, P d → P (d.step (.take 0))) (hdeliver : ∀ d, P d → P (d.step (.deliver 0))) : P d.settle := by
  have hfold (turns : List Nat) : ∀ d, P d → P (turns.foldl (fun d _ => d.run [.take 0, .deliver 0]) d) := by
    induction turns with
    | nil => exact fun d h => h
    | cons _ turns ih => exact fun d h => ih _ (hdeliver _ (htake d h))
  exact hfold _ d h

theorem settle_of_finishing_eq_nil {d : Device} (h : d.finishing = []) : d.settle = d := by
  rw [settle, h]
  rfl

/-- **In the end no completion is under way.** -/
theorem finishing_settle (d : Device) : d.settle.finishing = [] := by
  have hfold (turns : List Nat) :
      ∀ d : Device, (turns.foldl (fun d _ => d.run [.take 0, .deliver 0]) d).finishing = d.finishing.drop turns.length := by
    induction turns with
    | nil => exact fun d => rfl
    | cons _ turns ih =>
      intro d
      rw [List.foldl_cons, ih, finishing_take_deliver, List.length_cons, List.drop_tail]
  rw [settle, hfold, List.length_range, List.drop_length]

/-! ## Sound devices -/

/-- What holds of a device at any time, as far as its user counts on it. -/
structure Sound (d : Device) : Prop where
  coherent : d.Coherent
  numbered : d.Numbered
  /-- A call that is given up has its outcome, or is about to get it. -/
  ended : ∀ (id : CallId) (c : Call), d.calls[id]? = some c → c.sending = .over →
    c.outcome? ≠ none ∨ ∃ g ∈ d.finishing, g.call = id
  /-- An answer that a call is about to get answers its request. -/
  promised : ∀ g ∈ d.finishing, ∀ m, g.outcome = .ok m →
    ∃ c : Call, d.calls[g.call]? = some c ∧ m.type = c.request.type.answer
  answered : ∀ (id : CallId) (c : Call) (m : Message), d.calls[id]? = some c → c.outcome? = some (.ok m) →
    m.type = c.request.type.answer

section
variable {d : Device}

theorem over_step (hd : d.Sound) (e : Event) {id : CallId} {c : Call} (hc : (d.step e).calls[id]? = some c)
    (hs : c.sending = .over) : c.outcome? ≠ none ∨ ∃ g ∈ (d.step e).finishing, g.call = id := by
  -- a call that was given up before still has, or is still about to get, its outcome
  have hold {new : List Finish} (h : d.calls[id]? = some c) :
      c.outcome? ≠ none ∨ ∃ g ∈ d.finishing ++ new, g.call = id := by
    rcases hd.ended id c h hs with ho | ⟨g, hg, hid⟩
    · exact Or.inl ho
    · exact Or.inr ⟨g, List.mem_append_left new hg, hid⟩
  have hmove := step_move hd.coherent e
  generalize d.step e = d' at hmove hc
  cases hmove with
  | idle => exact hd.ended id c hc hs
  | submit request timeout =>
    rcases submit_cases hc with h | ⟨-, rfl⟩
    · exact hd.ended id c h hs
    · cases hs
  | refuse hc₀ hs₀ he =>
    rcases modify_cases hc with ⟨-, h⟩ | ⟨-, c₀, h, rfl⟩
    · exact hd.ended id c h hs
    · exact Or.inl (outcome?_resolve_ne_none c₀ _ _)
  | register hc₀ hs₀ he j =>
    rcases modify_cases hc with ⟨-, h⟩ | ⟨-, c₀, h, rfl⟩
    · exact hd.ended id c h hs
    · cases hs
  | written fault hc₀ hs₀ sent j =>
    rcases modify_cases hc with ⟨-, h⟩ | ⟨-, c₀, h, rfl⟩
    · exact hd.ended id c h hs
    · cases hs
  | unwritten fault hc₀ hs₀ reason sent j =>
    rcases modify_cases hc with ⟨-, h⟩ | ⟨rfl, c₀, h, rfl⟩
    · exact hold h
    · exact Or.inr ⟨_, List.mem_append_right _ (List.mem_singleton.2 rfl), rfl⟩
  | giveUp e he hc₀ hs₀ reason =>
    rcases modify_cases hc with ⟨-, h⟩ | ⟨rfl, c₀, h, rfl⟩
    · exact hold h
    · exact Or.inr ⟨_, List.mem_append_right _ (List.mem_singleton.2 rfl), rfl⟩
  | arrive frame hr j => exact hold hc
  | @take i g₀ c₀ hg₀ ht hc₀ =>
    rcases hd.ended id c hc hs with ho | ⟨g, hg, hid⟩
    · exact Or.inl ho
    · obtain ⟨n, hn⟩ := List.mem_iff_getElem?.1 hg
      obtain ⟨g', hg', hcall⟩ := exists_modify (i := i) (f := fun g => { g with taken := true }) hn
        (fun g' => g'.call = id) hid fun _ => hid
      exact Or.inr ⟨g', List.mem_of_getElem? hg', hcall⟩
  | deliver hg ht j =>
    rcases modify_cases hc with ⟨hne, h⟩ | ⟨-, c₀, h, rfl⟩
    · rcases hd.ended id c h hs with ho | ⟨g', hg', rfl⟩
      · exact Or.inl ho
      · obtain ⟨n, hn⟩ := List.mem_iff_getElem?.1 hg'
        refine Or.inr ⟨g', List.mem_eraseIdx_iff_getElem?.2 ⟨n, ?_, hn⟩, rfl⟩
        rintro rfl
        exact hne (congrArg Finish.call (Option.some.inj (hn.symm.trans hg)))
    · exact Or.inl (outcome?_resolve_ne_none c₀ _ c₀.sending)
  | stop => exact hd.ended id c hc hs
  | fail => exact hd.ended id c hc hs
  | abandon => exact hold hc
  | announceClose => exact hd.ended id c hc hs
  | closeStream => exact hd.ended id c hc hs
  | completeClose => exact hold hc

theorem promised_step (hd : d.Sound) (e : Event) {g : Finish} (hg : g ∈ (d.step e).finishing) {m : Message}
    (hm : g.outcome = .ok m) : ∃ c : Call, (d.step e).calls[g.call]? = some c ∧ m.type = c.request.type.answer := by
  have hpromised : ∃ c : Call, d.calls[g.call]? = some c ∧ m.type = c.request.type.answer := by
    rcases finish_step hd.coherent hg with ⟨g₀, hg₀, hcall, ho⟩ | hstarts
    · rw [← hcall]
      exact hd.promised g₀ hg₀ m (ho.trans hm)
    · rcases starts_cases hd.coherent hstarts with ⟨-, reason, h⟩ | ⟨frame, outcome, c, -, -, -, hc, hv, h⟩
      · rw [h] at hm
        cases hm
      · exact ⟨c, hc, (verdict_ok hv (h.symm.trans hm)).1⟩
  obtain ⟨c, hc, htype⟩ := hpromised
  obtain ⟨c', hc', hbecomes⟩ := becomes_step hd.coherent e hc
  exact ⟨c', hc', by rw [hbecomes.request]; exact htype⟩

theorem answered_step (hd : d.Sound) (e : Event) {id : CallId} {c' : Call} {m : Message}
    (hc' : (d.step e).calls[id]? = some c') (ho : c'.outcome? = some (.ok m)) : m.type = c'.request.type.answer := by
  -- the call was there before, with the same request
  have hsame {c : Call} (hc : d.calls[id]? = some c) (h : m.type = c.request.type.answer) :
      m.type = c'.request.type.answer := by
    obtain ⟨c'', hc'', hbecomes⟩ := becomes_step hd.coherent e hc
    obtain rfl : c' = c'' := Option.some.inj (hc'.symm.trans hc'')
    rw [hbecomes.request]
    exact h
  rcases outcome_step hd.coherent hc' ho with ⟨c, hc, ho⟩ | ⟨g, hg, rfl, hm⟩ | ⟨-, reason, -, h⟩
  · exact hsame hc (hd.answered id c m hc ho)
  · obtain ⟨c, hc, htype⟩ := hd.promised g hg m hm
    exact hsame hc htype
  · cases h

theorem Sound.step (hd : d.Sound) (e : Event) (hroom : d.calls.length + submissions [e] < 2 ^ 32) : (d.step e).Sound where
  coherent := hd.coherent.step e
  numbered := (hd.numbered.step hd.coherent e hroom).1
  ended := fun _ _ => over_step hd e
  promised := fun _ hg _ => promised_step hd e hg
  answered := fun _ _ _ => answered_step hd e

theorem Sound.congr {d' : Device} (hd : d.Sound) (hreassembler : d'.reassembler = d.reassembler)
    (hlast : d'.lastTransaction = d.lastTransaction) (hcalls : d'.calls = d.calls) (hpending : d'.pending = d.pending)
    (hfinishing : d'.finishing = d.finishing) : d'.Sound := by
  refine ⟨hd.coherent.congr (hreassembler ▸ hd.coherent.kept) hcalls hpending hfinishing, ⟨?_, ?_⟩, ?_, ?_, ?_⟩ <;>
    simp only [hlast, hcalls, hfinishing]
  · exact hd.numbered.last
  · exact hd.numbered.call
  · exact hd.ended
  · exact hd.promised
  · exact hd.answered

theorem sound_new (name : Text) (maxTransfer : Int) (journal : Journal) : (new name maxTransfer journal).Sound where
  coherent := coherent_new name maxTransfer journal
  numbered := numbered_new name maxTransfer journal
  ended := fun id c h => by cases h
  promised := fun g h => by cases h
  answered := fun id c m h => by cases h

end

/-! ## What stays -/

/-- From `d` to `d'` no call came and nothing was printed; the calls went forward. -/
structure Keeps (d d' : Device) : Prop where
  holds : d'.holds = d.holds
  maxTransfer : d'.maxTransfer = d.maxTransfer
  prints : d'.journal.prints = d.journal.prints
  length : d'.calls.length = d.calls.length
  becomes : ∀ (k : CallId) (c : Call), d.calls[k]? = some c → ∃ c', d'.calls[k]? = some c' ∧ c.Becomes c'

/-- From `d` to `d'` the user of the device only waited. -/
structure Waits (d d' : Device) : Prop extends Keeps d d' where
  sound : d'.Sound
  closing : d'.closing = d.closing
  sending : ∀ (k : CallId) (c c' : Call), d.calls[k]? = some c → d'.calls[k]? = some c' → c'.sending = c.sending

/-- The event does not come from the user of the device. -/
def Event.isForeign : Event → Bool
  | .arrive _ | .take _ | .deliver _ | .lose _ | .abandon => true
  | _ => false

/-- The event is part of closing the device. -/
def Event.isClosing : Event → Bool
  | .announceClose | .closeStream | .completeClose => true
  | _ => false

section
variable {d d' d'' : Device}

theorem Keeps.refl (d : Device) : Keeps d d := ⟨rfl, rfl, rfl, rfl, fun _ c hc => ⟨c, hc, .refl c⟩⟩

theorem Keeps.trans (h : Keeps d d') (h' : Keeps d' d'') : Keeps d d'' where
  holds := h'.holds.trans h.holds
  maxTransfer := h'.maxTransfer.trans h.maxTransfer
  prints := h'.prints.trans h.prints
  length := h'.length.trans h.length
  becomes := fun k c hc => by
    obtain ⟨c', hc', hb⟩ := h.becomes k c hc
    obtain ⟨c'', hc'', hb'⟩ := h'.becomes k c' hc'
    exact ⟨c'', hc'', hb.trans hb'⟩

theorem Waits.refl (h : d.Sound) : Waits d d :=
  ⟨.refl d, h, rfl, fun _ _ _ hc hc' => by rw [Option.some.inj (hc'.symm.trans hc)]⟩

theorem Waits.trans (h : Waits d d') (h' : Waits d' d'') : Waits d d'' where
  toKeeps := h.toKeeps.trans h'.toKeeps
  sound := h'.sound
  closing := h'.closing.trans h.closing
  sending := fun k c c'' hc hc'' => by
    obtain ⟨c', hc', -⟩ := h.becomes k c hc
    exact (h'.sending k c' c'' hc' hc'').trans (h.sending k c c' hc hc')

/-- No event touches the holds of a device or the size of its transfers. -/
theorem frame_step (hd : d.Coherent) (e : Event) : (d.step e).holds = d.holds ∧ (d.step e).maxTransfer = d.maxTransfer := by
  have hmove := step_move hd e
  generalize d.step e = d' at hmove
  cases hmove <;> exact ⟨rfl, rfl⟩

theorem keeps_step (hd : d.Coherent) {e : Event} (he : e.isSubmit = false) : Keeps d (d.step e) := by
  have hframe := frame_step hd e
  exact ⟨hframe.1, hframe.2, prints_step d e, (step_of_not_submit hd he).1, fun _ _ => becomes_step hd e⟩

theorem closing_step (hd : d.Coherent) {e : Event} (he : e.isClosing = false) : (d.step e).closing = d.closing := by
  have hmove := step_move hd e
  generalize d.step e = d' at hmove
  cases hmove with
  | announceClose => cases he
  | closeStream => cases he
  | completeClose => cases he
  | _ => rfl

theorem kind_of_isForeign {e : Event} (he : e.isForeign = true) : e.isSubmit = false ∧ e.isClosing = false := by
  cases e <;> simp_all [Event.isForeign, Event.isSubmit, Event.isClosing]

theorem Sound.step_of_not_submit (hd : d.Sound) {e : Event} (he : e.isSubmit = false) : (d.step e).Sound := by
  refine hd.step e ?_
  have hlast := hd.numbered.last
  have hlt := d.lastTransaction.toNat_lt
  simp only [submissions, List.countP_singleton, he, Bool.false_eq_true, if_false]
  omega

theorem waits_step (hd : d.Sound) {e : Event} (he : e.isForeign = true) : Waits d (d.step e) := by
  obtain ⟨hsubmit, hclosing⟩ := kind_of_isForeign he
  refine ⟨keeps_step hd.coherent hsubmit, hd.step_of_not_submit hsubmit, closing_step hd.coherent hclosing, ?_⟩
  intro k c c' hc hc'
  have hmove := step_move hd.coherent e
  generalize d.step e = d' at hmove hc'
  have hsame (h : d.calls[k]? = some c') : c'.sending = c.sending := by rw [Option.some.inj (h.symm.trans hc)]
  cases hmove with
  | submit => cases he
  | refuse => cases he
  | register => cases he
  | written => cases he
  | unwritten => cases he
  | giveUp e hgiveUp =>
    rcases hgiveUp with rfl | rfl
    · cases he
    · cases he
  | deliver hg ht j =>
    rcases modify_cases hc' with ⟨-, h⟩ | ⟨rfl, c₀, h, rfl⟩
    · exact hsame h
    · rw [Option.some.inj (h.symm.trans hc)]
  | _ => exact hsame hc'

/-- While completions are carried out, the reader goes no further. -/
theorem settle_waits (hd : d.Sound) :
    Waits d d.settle ∧ d.settle.reader = d.reader ∧ d.settle.readFailure = d.readFailure := by
  have hstep (e : Event) (he : e = .take 0 ∨ e = .deliver 0) (d' : Device)
      (h : Waits d d' ∧ d'.reader = d.reader ∧ d'.readFailure = d.readFailure) :
      Waits d (d'.step e) ∧ (d'.step e).reader = d.reader ∧ (d'.step e).readFailure = d.readFailure := by
    obtain ⟨hwaits, hreader, hfailure⟩ := h
    have hforeign : e.isForeign = true := by rcases he with rfl | rfl <;> rfl
    refine ⟨hwaits.trans (waits_step hwaits.sound hforeign), ?_⟩
    rw [← hreader, ← hfailure]
    have hmove := step_move hwaits.sound.coherent e
    generalize d'.step e = d'' at hmove
    cases hmove with
    | stop => rcases he with he | he <;> cases he
    | fail => rcases he with he | he <;> cases he
    | abandon => rcases he with he | he <;> cases he
    | _ => exact ⟨rfl, rfl⟩
  exact settle_induction ⟨.refl hd, rfl, rfl⟩ (hstep _ (Or.inl rfl)) (hstep _ (Or.inr rfl))

theorem waits_perform (hd : d.Sound) {e : Event} (he : e.isForeign = true) : Waits d (d.perform e) := by
  have h := waits_step hd he
  exact h.trans (settle_waits h.sound).1

theorem keeps_perform (hd : d.Sound) {e : Event} (he : e.isSubmit = false) : Keeps d (d.perform e) :=
  (keeps_step hd.coherent he).trans (settle_waits (hd.step_of_not_submit he)).1.toKeeps

/-- The completions that an event starts change neither how far the closing has come nor the state of the reader. -/
theorem stage_perform (hd : d.Sound) {e : Event} (he : e.isSubmit = false) :
    (d.perform e).closing = (d.step e).closing ∧ (d.perform e).reader = (d.step e).reader ∧
      (d.perform e).readFailure = (d.step e).readFailure := by
  obtain ⟨hwaits, hreader, hfailure⟩ := settle_waits (hd.step_of_not_submit he)
  exact ⟨hwaits.closing, hreader, hfailure⟩

theorem closing_perform (hd : d.Sound) {e : Event} (hsubmit : e.isSubmit = false) (he : e.isClosing = false) :
    (d.perform e).closing = d.closing :=
  (stage_perform hd hsubmit).1.trans (closing_step hd.coherent he)

theorem Sound.perform (hd : d.Sound) {e : Event} (he : e.isSubmit = false) : (d.perform e).Sound :=
  (settle_waits (hd.step_of_not_submit he)).1.sound

end

/-! ## Quiet devices -/

/-- A device between two operations. -/
structure Quiet (d : Device) : Prop where
  sound : d.Sound
  settled : d.finishing = []
  reader : d.reader ≠ .failing

section
variable {d : Device}

theorem Quiet.congr {d' : Device} (h : d.Quiet) (hreassembler : d'.reassembler = d.reassembler)
    (hlast : d'.lastTransaction = d.lastTransaction) (hcalls : d'.calls = d.calls) (hpending : d'.pending = d.pending)
    (hfinishing : d'.finishing = d.finishing) (hreader : d'.reader = d.reader) : d'.Quiet :=
  ⟨h.sound.congr hreassembler hlast hcalls hpending hfinishing, hfinishing.trans h.settled, hreader ▸ h.reader⟩

theorem Quiet.outcome?_of_over (hd : d.Quiet) {id : CallId} {c : Call} (hc : d.calls[id]? = some c)
    (hs : c.sending = .over) : c.outcome? ≠ none := by
  rcases hd.sound.ended id c hc hs with ho | ⟨g, hg, -⟩
  · exact ho
  · rw [hd.settled] at hg
    cases hg

/-- Whatever a device does, it is quiet after it, unless the reader is left failing. -/
theorem quiet_perform (hd : d.Sound) {e : Event} (he : e.isSubmit = false) (hreader : (d.step e).reader ≠ .failing) :
    (d.perform e).Quiet where
  sound := hd.perform he
  settled := finishing_settle _
  reader := by
    rw [(stage_perform hd he).2.1]
    exact hreader

theorem reader_of_ne_lose (hd : d.Coherent) {e : Event} (he : ∀ reason, e ≠ .lose reason)
    (hr : d.reader ≠ .failing) : (d.step e).reader ≠ .failing := by
  have hmove := step_move hd e
  generalize d.step e = d' at hmove
  cases hmove with
  | fail e => exact absurd rfl (he e)
  | stop => nofun
  | abandon => nofun
  | _ => exact hr

theorem Quiet.perform (hd : d.Quiet) {e : Event} (hsubmit : e.isSubmit = false) (hlose : ∀ reason, e ≠ .lose reason) :
    (d.perform e).Quiet :=
  quiet_perform hd.sound hsubmit (reader_of_ne_lose hd.sound.coherent hlose hd.reader)

/-- A reader that has lost its stream stops. -/
theorem Quiet.lose_abandon (hd : d.Quiet) (e : Stream.Error) : ((d.perform (.lose e)).perform .abandon).Quiet := by
  have hlose : (d.step (.lose e)).reader ≠ .failing ∨ (d.step (.lose e)).readFailure ≠ none := by
    simp only [step, lose]
    split
    · exact Or.inl hd.reader
    split
    · exact Or.inl (by simp)
    · exact Or.inr (by simp [note])
  obtain ⟨-, hreader, hfailure⟩ := stage_perform hd.sound (e := .lose e) rfl
  rw [← hreader, ← hfailure] at hlose
  refine quiet_perform (hd.sound.perform rfl) rfl ?_
  generalize d.perform (.lose e) = d' at hlose
  simp only [step, abandon]
  split
  · simp [failPending]
  · rename_i hstays
    intro hfailing
    rcases hlose with h | h
    · exact h hfailing
    · obtain ⟨reason, hreason⟩ := Option.ne_none_iff_exists'.1 h
      exact hstays reason hfailing hreason

end

end Device

end SimPhonebook
