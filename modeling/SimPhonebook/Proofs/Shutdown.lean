import Mathlib.Data.List.Induction
import SimPhonebook.Proofs.Coherence

/-!
# No call is lost

A registered call has an outcome, or waits in the table, or is being resolved by a completion that has taken it out of the
table (`Covered`). When the reader has failed, or the device has been closed, the table is emptied; from then on nothing is
put into it any more, since every new call is refused (`Drained`). So a call is not left waiting for an answer that
cannot come. Whoever empties the table resolves the calls in it one by one, and goes on when that is done (`CloseReturned`,
`ReaderReturned`); a call that has no outcome then is being resolved by someone who had decided on it before.
-/

namespace SimPhonebook

namespace Device

/-! ## Every call is taken care of -/

/-- Each registered call is resolved, waits, or is being resolved and waits no more. -/
def Covered (d : Device) : Prop :=
  ∀ (id : CallId) (c : Call), d.calls[id]? = some c → c.sending ≠ .unregistered →
    c.outcome? ≠ none ∨ d.pending.find? c.transaction = some id ∨ ∃ g ∈ d.finishing, g.call = id ∧ g.taken = true

theorem outcome?_resolve_ne_none (c : Call) (o : Outcome) (s : Sending) :
    Call.outcome? { c with sending := s, promise := (c.promise.resolve o).1 } ≠ none := by
  simp only [Call.outcome?, Promise.resolve]
  cases hp : c.promise.result with
  | none => exact Option.some_ne_none o
  | some o' =>
    intro h
    rw [hp] at h
    cases h

section
variable {d : Device} {id : CallId} {c : Call}

theorem Covered.congr {d' : Device} (h : d.Covered) (hcalls : d'.calls = d.calls) (hpending : d'.pending = d.pending)
    (hfinishing : ∀ g ∈ d.finishing, g ∈ d'.finishing) : d'.Covered := by
  intro k c hc hs
  rw [hcalls] at hc
  rcases h k c hc hs with ho | hwaits | ⟨g, hg, hcall, ht⟩
  · exact Or.inl ho
  · exact Or.inr (Or.inl (hpending ▸ hwaits))
  · exact Or.inr (Or.inr ⟨g, hfinishing g hg, hcall, ht⟩)

/-- The sending of a registered call may go on. -/
theorem Covered.modifySending (h : d.Covered) (hc : d.calls[id]? = some c) (hs : c.sending ≠ .unregistered)
    (s : Sending) : (d.modifyCall id fun c => { c with sending := s }).Covered := by
  intro k c' hc' hs'
  rcases modify_cases hc' with ⟨-, h₀⟩ | ⟨rfl, c₀, h₀, rfl⟩
  · exact h k c' h₀ hs'
  · obtain rfl : c = c₀ := Option.some.inj (hc.symm.trans h₀)
    exact h k c hc hs

theorem Covered.refuse (h : d.Covered) (id : CallId) (e : CallError) : (d.refuse id e).Covered := by
  intro k c' hc' hs'
  rcases modify_cases hc' with ⟨-, h₀⟩ | ⟨rfl, c₀, h₀, rfl⟩
  · exact h k c' h₀ hs'
  · exact Or.inl (outcome?_resolve_ne_none c₀ _ _)

/-- A call that is registered waits; the others are under other IDs. -/
theorem Covered.register (h : d.Covered) (hn : d.Numbered) (hc : d.calls[id]? = some c) (j : Journal) :
    Covered { d with
      calls := d.calls.modify id fun c => { c with sending := .due }
      pending := d.pending.insert c.transaction id
      journal := j } := by
  intro k c' hc' hs'
  rcases modify_cases hc' with ⟨hk, h₀⟩ | ⟨rfl, c₀, h₀, rfl⟩
  · rcases h k c' h₀ hs' with ho | hwaits | hg
    · exact Or.inl ho
    · have hne : c'.transaction ≠ c.transaction := fun ht => hk (hn.id_eq h₀ hc ht)
      refine Or.inr (Or.inl ?_)
      simp only [TransactionTable.find?_insert, if_neg hne]
      exact hwaits
    · exact Or.inr (Or.inr hg)
  · obtain rfl : c = c₀ := Option.some.inj (hc.symm.trans h₀)
    refine Or.inr (Or.inl ?_)
    simp only [TransactionTable.find?_insert]
    exact if_pos rfl

theorem Covered.take (h : d.Covered) (hn : d.Numbered) {i : Nat} {g : Finish} (hg : d.finishing[i]? = some g)
    (hc : d.calls[g.call]? = some c) :
    Covered { d with
      finishing := d.finishing.modify i fun g => { g with taken := true }
      pending := if d.pending.find? c.transaction = some g.call then d.pending.erase c.transaction else d.pending } := by
  intro k c' hc' hs'
  by_cases hk : g.call = k
  · exact Or.inr (Or.inr ⟨_, List.mem_of_getElem? (getElem?_modify_self hg _), hk, rfl⟩)
  rcases h k c' hc' hs' with ho | hwaits | ⟨f, hf, hcall, ht⟩
  · exact Or.inl ho
  · have hne : c'.transaction ≠ c.transaction := fun ht => hk (hn.id_eq hc hc' ht.symm)
    refine Or.inr (Or.inl ?_)
    simp only
    split
    · rw [TransactionTable.find?_erase, if_neg hne]
      exact hwaits
    · exact hwaits
  · obtain ⟨n, hfn⟩ := List.mem_iff_getElem?.1 hf
    have hni : n ≠ i := by
      rintro rfl
      obtain rfl : g = f := Option.some.inj (hg.symm.trans hfn)
      exact hk hcall
    exact Or.inr (Or.inr ⟨f, List.mem_of_getElem? ((List.getElem?_modify_ne _ _ hni.symm).trans hfn), hcall, ht⟩)

theorem Covered.deliver (h : d.Covered) {i : Nat} {g : Finish} (hg : d.finishing[i]? = some g) (j : Journal) :
    Covered { d with
      finishing := d.finishing.eraseIdx i
      calls := d.calls.modify g.call fun c => { c with promise := (c.promise.resolve g.outcome).1 }
      journal := j } := by
  intro k c' hc' hs'
  rcases modify_cases hc' with ⟨hk, h₀⟩ | ⟨rfl, c₀, h₀, rfl⟩
  · rcases h k c' h₀ hs' with ho | hwaits | ⟨f, hf, hcall, ht⟩
    · exact Or.inl ho
    · exact Or.inr (Or.inl hwaits)
    · obtain ⟨n, hfn⟩ := List.mem_iff_getElem?.1 hf
      have hni : n ≠ i := by
        rintro rfl
        obtain rfl : g = f := Option.some.inj (hg.symm.trans hfn)
        exact hk hcall.symm
      exact Or.inr (Or.inr ⟨f, List.mem_eraseIdx_iff_getElem?.2 ⟨n, hni, hfn⟩, hcall, ht⟩)
  · exact Or.inl (outcome?_resolve_ne_none c₀ _ _)

theorem Covered.failPending (h : d.Covered) (e : CallError) : (d.failPending e).Covered := by
  intro k c hc hs
  rcases h k c hc hs with ho | hwaits | ⟨g, hg, hcall, ht⟩
  · exact Or.inl ho
  · have hmem : k ∈ d.pending.values := (d.pending.mem_values_iff k).2 ⟨_, hwaits⟩
    exact Or.inr (Or.inr ⟨⟨k, .error e, true, none⟩,
      List.mem_append_right _ (List.mem_map.2 ⟨k, hmem, rfl⟩), rfl, rfl⟩)
  · exact Or.inr (Or.inr ⟨g, List.mem_append_left _ hg, hcall, ht⟩)

theorem Covered.step (h : d.Covered) (hd : d.Coherent) (hn : d.Numbered) (e : Event) : (d.step e).Covered := by
  have hmove := step_move hd e
  generalize d.step e = d' at hmove
  cases hmove with
  | idle => exact h
  | submit request timeout =>
    intro k c hc hs
    rcases submit_cases hc with hc | ⟨-, rfl⟩
    · exact h k c hc hs
    · exact absurd rfl hs
  | refuse hc hs he => exact h.refuse _ _
  | register hc hs he j => exact h.register hn hc j
  | written fault hc hs sent j =>
    exact (h.modifySending hc (by rw [hs]; nofun) _).congr rfl rfl fun _ hg => hg
  | unwritten fault hc hs reason sent j =>
    exact (h.modifySending hc (by rw [hs]; nofun) _).congr rfl rfl fun _ hg => List.mem_append_left _ hg
  | giveUp e he hc hs reason =>
    exact (h.modifySending hc (by rw [hs]; nofun) _).congr rfl rfl fun _ hg => List.mem_append_left _ hg
  | arrive frame hr j => exact h.congr rfl rfl fun _ hg => List.mem_append_left _ hg
  | take hg ht hc => exact h.take hn hg hc
  | deliver hg ht j => exact h.deliver hg j
  | stop => exact h.congr rfl rfl fun _ hg => hg
  | fail => exact h.congr rfl rfl fun _ hg => hg
  | abandon reason hr he =>
    have h' : Covered { d with reader := .stopped } := h.congr rfl rfl fun _ hg => hg
    exact h'.failPending _
  | announceClose => exact h.congr rfl rfl fun _ hg => hg
  | closeStream => exact h.congr rfl rfl fun _ hg => hg
  | completeClose hclosing hr =>
    have h' : Covered { d with closing := .complete } := h.congr rfl rfl fun _ hg => hg
    exact h'.failPending _

end

theorem covered_run {start : Device} (hstart : start.IsNew) {events : List Event}
    (few : submissions events < 2 ^ 32 - 1) : (start.run events).Covered := by
  induction events using List.reverseRecOn with
  | nil =>
    obtain ⟨name, maxTransfer, journal, rfl⟩ := hstart
    intro id c hc
    simp [run, new] at hc
  | append_singleton events e ih =>
    have hfew : submissions events < 2 ^ 32 - 1 := by
      simp only [submissions, List.countP_append] at few ⊢
      omega
    rw [run_append]
    exact (ih hfew).step (hstart.coherent.run events) (hstart.numbered_run hfew) e

/-! ## The table stays empty -/

/-- The event empties the table for good: the reader, having failed, fails the waiting calls, or the closing ends. -/
def Drains (d : Device) (e : Event) : Prop :=
  (e = .abandon ∧ d.reader = .failing) ∨ (e = .completeClose ∧ d.closing = .streamClosed ∧ d.reader = .stopped)

/-- Nothing waits, and no call is accepted. -/
structure Drained (d : Device) : Prop where
  empty : ∀ t, d.pending.find? t = none
  refuses : d.refusal ≠ none

section
variable {d : Device}

theorem refusal_ne_none_iff : d.refusal ≠ none ↔ d.closing ≠ .notBegun ∨ d.readFailure ≠ none := by
  unfold refusal isClosed
  cases hc : d.closing with
  | notBegun => simp
  | _ => simp

theorem refuses_step (hd : d.Coherent) (h : d.refusal ≠ none) (e : Event) : (d.step e).refusal ≠ none := by
  have hmove := step_move hd e
  generalize d.step e = d' at hmove
  rw [refusal_ne_none_iff] at h ⊢
  cases hmove with
  | fail => exact Or.inr nofun
  | announceClose => exact Or.inl nofun
  | closeStream => exact Or.inl nofun
  | completeClose => exact Or.inl nofun
  | _ => exact h

theorem Drained.step (h : d.Drained) (hd : d.Coherent) (e : Event) : (d.step e).Drained := by
  refine ⟨?_, refuses_step hd h.refuses e⟩
  have hmove := step_move hd e
  generalize d.step e = d' at hmove
  cases hmove with
  | register hc hs he j => exact absurd he h.refuses
  | take hg ht hc =>
    intro t
    simp only
    split
    · rw [TransactionTable.find?_erase, h.empty, ite_self]
    · exact h.empty t
  | abandon => exact TransactionTable.find?_empty
  | completeClose => exact TransactionTable.find?_empty
  | _ => exact h.empty

theorem Drained.run (h : d.Drained) (hd : d.Coherent) (events : List Event) : (d.run events).Drained := by
  induction events generalizing d with
  | nil => exact h
  | cons e events ih => exact ih (h.step hd e) (hd.step e)

/-- A reader that fails says why, and one that runs has not failed. -/
structure ReaderTells (d : Device) : Prop where
  failing : d.reader = .failing → d.readFailure ≠ none
  running : d.reader = .running → d.readFailure = none

theorem readerTells_run {start : Device} (hstart : start.IsNew) (events : List Event) : (start.run events).ReaderTells := by
  induction events using List.reverseRecOn with
  | nil =>
    obtain ⟨name, maxTransfer, journal, rfl⟩ := hstart
    exact ⟨nofun, fun _ => rfl⟩
  | append_singleton events e ih =>
    rw [run_append]
    have hmove := step_move (hstart.coherent.run events) e
    change ((start.run events).step e).ReaderTells
    generalize (start.run events).step e = d' at hmove
    cases hmove with
    | fail => exact ⟨fun _ => nofun, nofun⟩
    | stop => exact ⟨nofun, nofun⟩
    | abandon => exact ⟨nofun, nofun⟩
    | _ => exact ⟨ih.failing, ih.running⟩

theorem drained_of_drains {start : Device} (hstart : start.IsNew) {events : List Event} {e : Event}
    (h : Drains (start.run events) e) : ((start.run events).step e).Drained := by
  have hfailing := (readerTells_run hstart events).failing
  generalize start.run events = d at h hfailing
  rcases h with ⟨rfl, hr⟩ | ⟨rfl, hclosing, hr⟩
  · obtain ⟨err, herr⟩ := Option.ne_none_iff_exists'.1 (hfailing hr)
    have hstep : d.step .abandon = failPending { d with reader := .stopped } (.readFailed err) := by
      simp only [step, abandon, hr, herr]
    rw [hstep]
    exact ⟨TransactionTable.find?_empty, refusal_ne_none_iff.2 (Or.inr (by simp [failPending, herr]))⟩
  · have hstep : d.step .completeClose = failPending { d with closing := .complete } .deviceClosed := by
      rw [step, completeClose, if_pos ⟨hclosing, hr⟩]
    rw [hstep]
    exact ⟨TransactionTable.find?_empty, refusal_ne_none_iff.2 (Or.inl (by simp [failPending]))⟩

/-! ## Who has emptied the table -/

/-- Whoever emptied the table is through with the calls it found there. What is still under way was decided for one call alone;
these are the completions that tell about a failure. -/
def Swept (d : Device) : Prop := ∀ g ∈ d.finishing, g.voice ≠ none

/-- The closing is over, and whoever closed the device goes on. -/
structure CloseReturned (d : Device) : Prop where
  complete : d.closing = .complete
  swept : d.Swept

/-- The reader has failed the calls that waited, and has ended. -/
structure ReaderReturned (d : Device) : Prop where
  stopped : d.reader = .stopped
  failed : d.readFailure ≠ none
  swept : d.Swept

theorem voice_of_decided {frame : Octets} {g : Finish} (h : d.decided frame = some g) : g.voice = some .reader := by
  obtain ⟨outcome, -, h⟩ := Option.bind_eq_some_iff.1 h
  obtain ⟨id, c, -, -, rfl⟩ := mem_conclude h
  rfl

/-- Emptying an empty table begins no completion. -/
theorem Drained.swept_failPending (h : d.Drained) (hswept : d.Swept) (e : CallError) : (d.failPending e).Swept := by
  have hvalues : d.pending.values = [] := by
    rw [TransactionTable.values, TransactionTable.entries_eq_nil h.empty]
    rfl
  simpa [Swept, failPending, hvalues] using hswept

theorem Drained.swept_step (h : d.Drained) (hd : d.Coherent) (hswept : d.Swept) (e : Event) : (d.step e).Swept := by
  have happend : ∀ {more : List Finish}, (∀ g ∈ more, g.voice ≠ none) → ∀ g ∈ d.finishing ++ more, g.voice ≠ none :=
    fun hmore g hg => (List.mem_append.1 hg).elim (hswept g) (hmore g)
  have hmove := step_move hd e
  generalize d.step e = d' at hmove
  cases hmove with
  | unwritten => exact happend fun g hg => by rw [List.mem_singleton.1 hg]; nofun
  | giveUp => exact happend fun g hg => by rw [List.mem_singleton.1 hg]; nofun
  | arrive => exact happend fun g hg => by rw [voice_of_decided (Option.mem_toList.1 hg)]; nofun
  | take =>
    intro g hg
    rcases mem_modify_cases hg with hg | ⟨g', hg', rfl⟩
    · exact hswept g hg
    · exact hswept g' (List.mem_of_getElem? hg')
  | deliver => exact fun g hg => hswept g (List.mem_of_mem_eraseIdx hg)
  | abandon => exact Drained.swept_failPending (d := { d with reader := .stopped }) ⟨h.empty, h.refuses⟩ hswept _
  | completeClose hclosing =>
    refine Drained.swept_failPending (d := { d with closing := .complete }) ⟨h.empty, ?_⟩ hswept _
    exact refusal_ne_none_iff.2 (Or.inl nofun)
  | _ => exact hswept

theorem Drained.swept_run (h : d.Drained) (hd : d.Coherent) (hswept : d.Swept) (events : List Event) :
    (d.run events).Swept := by
  induction events generalizing d with
  | nil => exact hswept
  | cons e events ih => exact ih (h.step hd e) (hd.step e) (h.swept_step hd hswept e)

/-- The closing is complete, or the reader has failed and stopped. -/
def Emptied (d : Device) : Prop := d.closing = .complete ∨ d.reader = .stopped ∧ d.readFailure ≠ none

/-- Then one of the two has emptied the table. -/
theorem exists_drains {start : Device} (hstart : start.IsNew) (events : List Event) (h : (start.run events).Emptied) :
    ∃ before e after, events = before ++ e :: after ∧ Drains (start.run before) e := by
  induction events using List.reverseRecOn with
  | nil =>
    obtain ⟨name, maxTransfer, journal, rfl⟩ := hstart
    rcases h with h | ⟨h, -⟩
    · cases h
    · cases h
  | append_singleton events e ih =>
    -- an event that leaves both conditions as they are adds nothing; only the two draining events make one of them true
    have hearlier (h : (start.run events).Emptied) :
        ∃ before e' after, events ++ [e] = before ++ e' :: after ∧ Drains (start.run before) e' := by
      obtain ⟨before, e', after, rfl, hdrains⟩ := ih h
      exact ⟨before, e', after ++ [e], by simp, hdrains⟩
    have hnow (h : Drains (start.run events) e) :
        ∃ before e' after, events ++ [e] = before ++ e' :: after ∧ Drains (start.run before) e' :=
      ⟨events, e, [], rfl, h⟩
    have hrunning := (readerTells_run hstart events).running
    have hmove := step_move (hstart.coherent.run events) e
    rw [run_append] at h
    change ((start.run events).step e).Emptied at h
    generalize (start.run events).step e = d' at hmove h
    cases hmove with
    | stop _ hr =>
      rcases h with h | ⟨-, h⟩
      · exact hearlier (Or.inl h)
      · exact absurd (hrunning hr) h
    | fail =>
      rcases h with h | ⟨h, -⟩
      · exact hearlier (Or.inl h)
      · cases h
    | abandon _ hr => exact hnow (Or.inl ⟨rfl, hr⟩)
    | announceClose =>
      rcases h with h | h
      · cases h
      · exact hearlier (Or.inr h)
    | closeStream =>
      rcases h with h | h
      · cases h
      · exact hearlier (Or.inr h)
    | completeClose hclosing hr => exact hnow (Or.inr ⟨rfl, hclosing, hr⟩)
    | _ => exact hearlier h

/-! ## Later requests -/

theorem register_eq_refuse {id : CallId} {c : Call} {reason : CallError} (hr : d.refusal = some reason)
    (hc : d.calls[id]? = some c) (hs : c.sending = .unregistered) : d.register id = d.refuse id reason := by
  unfold refusal at hr
  rw [register, hc]
  simp only [hs, ne_eq, not_true, if_false]
  split
  · rename_i hclosed
    rw [if_pos hclosed] at hr
    rw [Option.some.inj hr]
  · rename_i hopen
    rw [if_neg hopen] at hr
    obtain ⟨err, herr, rfl⟩ := Option.map_eq_some_iff.1 hr
    rw [herr]

/-- A device that accepts no call resolves a new one at once, and changes nothing else. -/
theorem register_of_refusal {id : CallId} {c : Call} {reason : CallError} (hd : d.Coherent)
    (hr : d.refusal = some reason) (hc : d.calls[id]? = some c) (hs : c.sending = .unregistered) :
    d.step (.register id) =
      { d with calls := d.calls.modify id fun c => { c with sending := .over, promise := ⟨some (.error reason)⟩ } } := by
  have hfresh : c.promise.result = none := hd.fresh id c hc hs
  have hsame : d.calls.modify id (fun c => { c with sending := .over, promise := (c.promise.resolve (.error reason)).1 }) =
      d.calls.modify id fun c => { c with sending := .over, promise := ⟨some (.error reason)⟩ } :=
    modify_congr hc (by simp only [Promise.resolve, hfresh])
  rw [step, register_eq_refuse hr hc hs, refuse, modifyCall, hsame]

/-- A call that is not to be written. -/
def Mute (c : Call) : Prop := c.sending = .unregistered ∨ c.sending = .over

theorem transmit_of_mute {id : CallId} {c : Call} (hc : d.calls[id]? = some c) (h : Mute c)
    (fault : Option WriteFault) : d.step (.transmit id fault) = d := by
  rw [step, transmit, hc]
  rcases h with h | h
  · simp [h]
  · simp [h]

/-- A device that accepts no call gives no call to be written. -/
theorem mute_step (hd : d.Coherent) (hr : d.refusal ≠ none) (e : Event) {id : CallId} {c : Call}
    (hc : d.calls[id]? = some c) (h : Mute c) : ∃ c', (d.step e).calls[id]? = some c' ∧ Mute c' := by
  have hmodify : ∀ {k : CallId} {f : Call → Call}, (id = k → Mute (f c)) →
      ∃ c', (d.calls.modify k f)[id]? = some c' ∧ Mute c' := fun hf => exists_modify hc Mute h hf
  have hmove := step_move hd e
  generalize d.step e = d' at hmove
  cases hmove with
  | submit request timeout => exact ⟨c, getElem?_submit request timeout hc, h⟩
  | refuse hc₀ hs he => exact hmodify fun _ => Or.inr rfl
  | register hc₀ hs he j => exact absurd he hr
  | written fault hc₀ hs sent j =>
    -- what is written was due, so it was not mute
    refine hmodify fun hid => ?_
    subst hid
    rw [← Option.some.inj (hc.symm.trans hc₀)] at hs
    rcases h with h | h
    · rw [hs] at h
      cases h
    · rw [hs] at h
      cases h
  | unwritten fault hc₀ hs reason sent j => exact hmodify fun _ => Or.inr rfl
  | giveUp e he hc₀ hs reason => exact hmodify fun _ => Or.inr rfl
  | deliver hg ht j => exact hmodify fun _ => h
  | _ => exact ⟨c, hc, h⟩

theorem mute_run (hd : d.Coherent) (hr : d.refusal ≠ none) (events : List Event) {id : CallId} {c : Call}
    (hc : d.calls[id]? = some c) (h : Mute c) : ∃ c', (d.run events).calls[id]? = some c' ∧ Mute c' := by
  induction events generalizing d c with
  | nil => exact ⟨c, hc, h⟩
  | cons e events ih =>
    obtain ⟨c', hc', h'⟩ := mute_step hd hr e hc h
    exact ih (hd.step e) (refuses_step hd hr e) hc' h'

end

/-- Nothing waits, no registered call is lost, and a request submitted now fails at once and is never written. -/
structure ShutDown (d : Device) : Prop where
  empty : d.pending.entries = []
  resolved : ∀ (id : CallId) (c : Call), d.calls[id]? = some c → c.sending ≠ .unregistered →
    c.outcome? ≠ none ∨ ∃ g ∈ d.finishing, g.call = id ∧ g.taken = true
  /-- Once whoever emptied the table is through, what a call without an outcome has is a completion of its own. -/
  swept : d.Swept → ∀ (id : CallId) (c : Call), d.calls[id]? = some c → c.sending ≠ .unregistered →
    c.outcome? ≠ none ∨ ∃ g ∈ d.finishing, g.call = id ∧ g.taken = true ∧ g.voice ≠ none
  refused : ∀ (id : CallId) (c : Call), d.calls[id]? = some c → c.sending = .unregistered → ∃ reason,
    (d.isClosed = true ∧ reason = .deviceClosed ∨
      d.isClosed = false ∧ ∃ e, d.readFailure = some e ∧ reason = .readFailed e) ∧
    d.step (.register id) =
      { d with calls := d.calls.modify id fun c => { c with sending := .over, promise := ⟨some (.error reason)⟩ } }
  unwritten : ∀ (id : CallId) (c : Call), d.calls[id]? = some c → c.sending = .unregistered →
    ∀ (later : List Event) (fault : Option WriteFault), (d.run later).step (.transmit id fault) = d.run later

theorem refusal_eq_some {d : Device} (h : d.refusal ≠ none) : ∃ reason, d.refusal = some reason ∧
    (d.isClosed = true ∧ reason = .deviceClosed ∨
      d.isClosed = false ∧ ∃ e, d.readFailure = some e ∧ reason = .readFailed e) := by
  obtain ⟨reason, hr⟩ := Option.ne_none_iff_exists'.1 h
  refine ⟨reason, hr, ?_⟩
  unfold refusal at hr
  split at hr
  · rename_i hclosed
    exact Or.inl ⟨hclosed, (Option.some.inj hr).symm⟩
  · rename_i hopen
    obtain ⟨e, he, rfl⟩ := Option.map_eq_some_iff.1 hr
    exact Or.inr ⟨eq_false_of_ne_true hopen, e, he, rfl⟩

theorem Drained.resolved {d : Device} (h : d.Drained) (hcovered : d.Covered) {id : CallId} {c : Call}
    (hc : d.calls[id]? = some c) (hs : c.sending ≠ .unregistered) :
    c.outcome? ≠ none ∨ ∃ g ∈ d.finishing, g.call = id ∧ g.taken = true := by
  rcases hcovered id c hc hs with ho | hwaits | hg
  · exact Or.inl ho
  · rw [h.empty] at hwaits
    cases hwaits
  · exact Or.inr hg

theorem Drained.shutDown {d : Device} (h : d.Drained) (hd : d.Coherent) (hcovered : d.Covered) : d.ShutDown where
  empty := TransactionTable.entries_eq_nil h.empty
  resolved := fun _ _ => h.resolved hcovered
  swept := by
    intro hswept id c hc hs
    rcases h.resolved hcovered hc hs with ho | ⟨g, hg, hcall, ht⟩
    · exact Or.inl ho
    · exact Or.inr ⟨g, hg, hcall, ht, hswept g hg⟩
  refused := by
    intro id c hc hs
    obtain ⟨reason, hr, hreason⟩ := refusal_eq_some h.refuses
    exact ⟨reason, hreason, register_of_refusal hd hr hc hs⟩
  unwritten := by
    intro id c hc hs later fault
    obtain ⟨c', hc', hmute⟩ := mute_run hd h.refuses later hc (Or.inl hs)
    exact transmit_of_mute hc' hmute fault

/-- The device is shut down from the moment on at which the table is emptied. -/
theorem shutDown_of_drains {start : Device} (hstart : start.IsNew) {before after : List Event} {e : Event}
    (few : submissions (before ++ e :: after) < 2 ^ 32 - 1) (hdrains : Drains (start.run before) e) :
    (start.run (before ++ e :: after)).Drained ∧ (start.run (before ++ e :: after)).ShutDown := by
  have hdrained := (drained_of_drains hstart hdrains).run ((hstart.coherent.run before).step e) after
  have hrun : start.run (before ++ e :: after) = ((start.run before).step e).run after := run_append start before _
  rw [← hrun] at hdrained
  exact ⟨hdrained, hdrained.shutDown (hstart.coherent.run _) (covered_run hstart few)⟩

/-- **No call is lost at shutdown.** What waits in the table of a device waits under the transaction ID of its own call,
and has no outcome. Once the reader has failed the waiting calls, or the closing has ended, the device is shut down, whatever
happens then. Once the reader or the closing has also resolved the calls it found waiting, no completion is left but those
that were decided for one call alone. -/
theorem shutdown_loses_no_call {start : Device} (hstart : start.IsNew) {events : List Event}
    (few : submissions events < 2 ^ 32 - 1) :
    (∀ (t : UInt32) (id : CallId), (t, id) ∈ (start.run events).pending.entries →
      ∃ c : Call, (start.run events).calls[id]? = some c ∧ c.transaction = t ∧ c.outcome? = none) ∧
    (∀ (before after : List Event) (e : Event), events = before ++ e :: after → Drains (start.run before) e →
      (start.run events).ShutDown) ∧
    ∀ before after : List Event, events = before ++ after →
      (start.run before).CloseReturned ∨ (start.run before).ReaderReturned →
      (start.run events).ShutDown ∧ (start.run events).Swept := by
  refine ⟨?_, ?_, ?_⟩
  · intro t id h
    obtain ⟨c, hc, ht, -, ho⟩ := (hstart.coherent.run events).waiting t id ((TransactionTable.mem_entries_iff _ t id).1 h)
    exact ⟨c, hc, ht, ho⟩
  · rintro before after e rfl hdrains
    exact (shutDown_of_drains hstart few hdrains).2
  · rintro before after rfl hreturned
    have hswept : (start.run before).Swept := hreturned.elim CloseReturned.swept ReaderReturned.swept
    obtain ⟨first, e, rest, rfl, hdrains⟩ := exists_drains hstart before
      (hreturned.imp CloseReturned.complete fun h => ⟨h.stopped, h.failed⟩)
    have hfew : submissions (first ++ e :: rest) < 2 ^ 32 - 1 := by
      simp only [submissions, List.countP_append] at few ⊢
      omega
    have hdrained := (shutDown_of_drains hstart hfew hdrains).1
    have hlater := hdrained.swept_run (hstart.coherent.run _) hswept after
    rw [← run_append] at hlater
    rw [List.append_assoc, List.cons_append] at few hlater ⊢
    exact ⟨(shutDown_of_drains hstart few hdrains).2, hlater⟩

/-- A request waits and another is about to be registered when the stream ends. -/
def lateRequest : List Event :=
  [.submit (.openSession 4096) ⟨0⟩, .register 0, .transmit 0 none, .submit .closeSession ⟨0⟩, .lose (.stopped .ended)]

theorem lateRequest_shutDown :
    submissions (lateRequest ++ [.abandon, .take 0, .deliver 0]) < 2 ^ 32 - 1 ∧
    Drains ((new "" defaultMaxTransfer []).run lateRequest) .abandon ∧
    ((new "" defaultMaxTransfer []).run (lateRequest ++ [.abandon, .take 0, .deliver 0])).ReaderReturned ∧
    ((new "" defaultMaxTransfer []).run (lateRequest ++ [.abandon, .take 0, .deliver 0])).ShutDown := by
  have hfew : submissions (lateRequest ++ [.abandon, .take 0, .deliver 0]) < 2 ^ 32 - 1 := by decide
  have hdrains : Drains ((new "" defaultMaxTransfer []).run lateRequest) .abandon :=
    Or.inl ⟨rfl, by decide +kernel⟩
  have hreturned : ((new "" defaultMaxTransfer []).run (lateRequest ++ [.abandon, .take 0, .deliver 0])).ReaderReturned :=
    ⟨by decide +kernel, by decide +kernel, by unfold Swept; decide +kernel⟩
  exact ⟨hfew, hdrains, hreturned,
    (shutdown_loses_no_call ⟨_, _, _, rfl⟩ hfew).2.1 lateRequest _ .abandon rfl hdrains⟩

end Device

end SimPhonebook
