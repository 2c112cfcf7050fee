import Mathlib.Logic.Basic
import SimPhonebook.Device.Basic
import SimPhonebook.Proofs.Reassembly

/-!
# What a device can do in one step

`Move d e d'` lists, event by event, what a step does to the calls, the table, the completions under way and the reader;
the journal may change in any way. `step_move` says that every step is a move, so an invariant of devices is proved by one
case per move and never opens `Device.step`.

A frame that arrives decides at most one call: the one that waits under the transaction ID in its own header. What it
decides is the `verdict` of what is collected for that ID, whichever way the frame takes through the reader
(`arrive_eq`). This needs what holds of every device, `Coherent`.
-/

namespace SimPhonebook

namespace Device

/-! ## The shape of a device -/

/-- What the table, the completions under way and the calls say about each other. -/
structure Coherent (d : Device) : Prop where
  kept : d.reassembler.WellKept
  /-- A call that waits does so under its own transaction ID, and has no outcome yet. -/
  waiting : ∀ (t : UInt32) (id : CallId), d.pending.find? t = some id →
    ∃ c : Call, d.calls[id]? = some c ∧ c.transaction = t ∧ c.sending ≠ .unregistered ∧ c.outcome? = none
  /-- A call that is not registered has no outcome. -/
  fresh : ∀ (id : CallId) (c : Call), d.calls[id]? = some c → c.sending = .unregistered → c.outcome? = none
  /-- Only registered calls are completed. -/
  finishing : ∀ g ∈ d.finishing, ∃ c : Call, d.calls[g.call]? = some c ∧ c.sending ≠ .unregistered
  /-- A completion that has taken its call out of the table finds no other trace of it there. -/
  taken : ∀ g ∈ d.finishing, g.taken = true → ∀ t, d.pending.find? t ≠ some g.call
  nonzero : ∀ (id : CallId) (c : Call), d.calls[id]? = some c → c.transaction ≠ 0

theorem coherent_new (name : Text) (maxTransfer : Int) (journal : Journal) :
    (new name maxTransfer journal).Coherent where
  kept := Reassembler.wellKept_empty
  waiting := fun t id h => by cases h
  fresh := fun id c h => by cases h
  finishing := fun g h => by cases h
  taken := fun g h => by cases h
  nonzero := fun id c h => by cases h

theorem Coherent.congr {d d' : Device} (hd : d.Coherent) (hkept : d'.reassembler.WellKept) (hcalls : d'.calls = d.calls)
    (hpending : d'.pending = d.pending) (hfinishing : d'.finishing = d.finishing) : d'.Coherent := by
  refine ⟨hkept, ?_, ?_, ?_, ?_, ?_⟩ <;> simp only [hcalls, hpending, hfinishing]
  · exact hd.waiting
  · exact hd.fresh
  · exact hd.finishing
  · exact hd.taken
  · exact hd.nonzero

theorem nextTransaction_ne_zero (last : UInt32) : nextTransaction last ≠ 0 := by
  unfold nextTransaction
  split
  · rename_i h
    rw [show last + 2 = last + 1 + 1 from (UInt32.add_assoc last 1 1).symm, h]
    decide
  · assumption

/-! ## Arrivals -/

/-- What a frame decides for the call of its transaction, given what is collected for the transaction. -/
def verdict (slot : Option Collected) (frame : Octets) : Option (Call → Outcome) :=
  if frame.length < headerSize then none
  else match (Reassembler.advance slot frame).2 with
    | .error e => some fun _ => .error (.notReassembled e)
    | .ok none => none
    | .ok (some data) =>
      match Message.decode data with
      | .error e => some fun _ => .error (.notDecoded e)
      | .ok m => if m.type = .indication then none else some (outcomeOf · m)

/-- The completion, with what it makes of the call, of the call that waits under a transaction ID. -/
def conclude (d : Device) (t : UInt32) (outcome : Call → Outcome) : Option Finish :=
  (d.pending.find? t).bind fun id => (d.calls[id]?).map fun c => ⟨id, outcome c, false, some .reader⟩

/-- The completion that a frame starts, if it starts one. -/
def decided (d : Device) (frame : Octets) : Option Finish :=
  (verdict (d.reassembler.slot (frame.wordAt 8)) frame).bind (d.conclude (frame.wordAt 8))

theorem conclude_eq_none {d : Device} {t : UInt32} {outcome : Call → Outcome} (h : d.pending.find? t = none) :
    d.conclude t outcome = none := by
  rw [conclude, h]
  rfl

theorem conclude_eq_some {d : Device} {t : UInt32} {id : CallId} {c : Call} {outcome : Call → Outcome}
    (hid : d.pending.find? t = some id) (hc : d.calls[id]? = some c) :
    d.conclude t outcome = some ⟨id, outcome c, false, some .reader⟩ := by
  rw [conclude, hid, Option.bind_some, hc]
  rfl

theorem mem_conclude {d : Device} {t : UInt32} {outcome : Call → Outcome} {g : Finish}
    (h : d.conclude t outcome = some g) :
    ∃ id c, d.pending.find? t = some id ∧ d.calls[id]? = some c ∧ g = ⟨id, outcome c, false, some .reader⟩ := by
  obtain ⟨id, hid, h⟩ := Option.bind_eq_some_iff.1 h
  obtain ⟨c, hc, rfl⟩ := Option.map_eq_some_iff.1 h
  exact ⟨id, c, hid, hc, rfl⟩

theorem transaction_of_decode {data : Octets} {m : Message} (h : Message.decode data = .ok m) :
    m.transaction = data.wordAt 8 :=
  (Message.decode_eq_ok_iff.1 h).2.2.1

theorem failTransaction_eq {d : Device} (hd : d.Coherent) {data : Octets} (hdata : headerSize ≤ data.length)
    (e : CallError) :
    ∃ j, d.failTransaction data e =
      { d with finishing := d.finishing ++ (d.conclude (data.wordAt 8) fun _ => .error e).toList, journal := j } := by
  unfold failTransaction Header.decode
  rw [if_neg (Nat.not_lt.2 hdata)]
  simp only
  cases hid : d.pending.find? (data.wordAt 8) with
  | none =>
    rw [conclude_eq_none hid]
    exact ⟨_, by rw [Option.toList_none, List.append_nil]; rfl⟩
  | some id =>
    obtain ⟨c, hc, -⟩ := hd.waiting _ _ hid
    rw [conclude_eq_some hid hc]
    exact ⟨_, rfl⟩

theorem dispatch_of_indication (d : Device) {m : Message} (hm : m.type = .indication) :
    ∃ j, d.dispatch m = { d with journal := j } := by
  obtain ⟨t, body⟩ := m
  cases body with
  | indication target payload => exact ⟨_, rfl⟩
  | _ => cases hm

theorem dispatch_eq {d : Device} (hd : d.Coherent) {m : Message} (hm : m.type ≠ .indication) :
    ∃ j, d.dispatch m =
      { d with finishing := d.finishing ++ (d.conclude m.transaction (outcomeOf · m)).toList, journal := j } := by
  unfold dispatch
  split
  · rename_i hbody
    exact absurd (by rw [Message.type, hbody]; rfl) hm
  cases hid : d.pending.find? m.transaction with
  | none =>
    rw [conclude_eq_none hid]
    exact ⟨_, by simp only [note, hid, Option.toList_none, List.append_nil]; rfl⟩
  | some id =>
    obtain ⟨c, hc, -⟩ := hd.waiting _ _ hid
    rw [conclude_eq_some hid hc]
    exact ⟨_, by simp only [note, hid, hc]; rfl⟩

/-- A frame decides nothing, or the call that waits under its ID. -/
theorem decided_cases {d : Device} (hd : d.Coherent) (frame : Octets) :
    d.decided frame = none ∨
    ∃ id c outcome, d.pending.find? (frame.wordAt 8) = some id ∧ d.calls[id]? = some c ∧
      verdict (d.reassembler.slot (frame.wordAt 8)) frame = some outcome := by
  cases hv : verdict (d.reassembler.slot (frame.wordAt 8)) frame with
  | none => exact Or.inl (by rw [decided, hv]; rfl)
  | some outcome =>
    cases hid : d.pending.find? (frame.wordAt 8) with
    | none => exact Or.inl (by rw [decided, hv]; exact conclude_eq_none hid)
    | some id =>
      obtain ⟨c, hc, -⟩ := hd.waiting _ _ hid
      exact Or.inr ⟨id, c, outcome, rfl, hc, rfl⟩

theorem headerSize_le_of_verdict {slot : Option Collected} {frame : Octets} {outcome : Call → Outcome}
    (h : verdict slot frame = some outcome) : headerSize ≤ frame.length := by
  unfold verdict at h
  split at h
  · cases h
  · rename_i hlen
    exact Nat.not_lt.1 hlen

/-- **What an arrival does.** However a frame fares in the reader, it starts the completion of the call that waits under
the transaction ID of its header, or none. -/
theorem arrive_eq {d : Device} (hd : d.Coherent) (hr : d.reader = .running) (frame : Octets) :
    ∃ j, d.arrive frame =
      { d with
        reassembler := (d.reassembler.add frame).1
        finishing := d.finishing ++ (d.decided frame).toList
        journal := j } := by
  -- the device that decides differs from `d` in what decides nothing: the reassembler and the journal
  have hd' : ∀ r j, Reassembler.WellKept r → Coherent { d with reassembler := r, journal := j } :=
    fun r j h => hd.congr h rfl rfl rfl
  have hkept := hd.kept.add frame
  have hslot := hd.kept (frame.wordAt 8)
  unfold arrive decided verdict
  rw [if_neg (fun h => h hr)]
  simp only [noteFrame, note, Reassembler.answer_add]
  by_cases hshort : frame.length < headerSize
  · have hadv : (Reassembler.advance (d.reassembler.slot (frame.wordAt 8)) frame).2
        = .error (.shortHeader frame.length) := by
      unfold Reassembler.advance
      rw [if_pos hshort]
    rw [if_pos hshort, hadv]
    simp only [failTransaction, Header.decode, if_pos hshort]
    exact ⟨_, by simp [note]; rfl⟩
  rw [if_neg hshort]
  cases hadv : (Reassembler.advance (d.reassembler.slot (frame.wordAt 8)) frame).2 with
  | error e =>
    exact failTransaction_eq (hd' _ _ hkept) (Nat.not_lt.1 hshort) (.notReassembled e)
  | ok result =>
    cases result with
    | none => exact ⟨_, by simp; rfl⟩
    | some data =>
      obtain ⟨hlen, hword⟩ := Reassembler.transaction_of_advance hslot hadv
      simp only
      cases hm : Message.decode data with
      | error e =>
        rw [← hword]
        exact failTransaction_eq (hd' _ _ hkept) hlen (.notDecoded e)
      | ok m =>
        have ht : m.transaction = frame.wordAt 8 := (transaction_of_decode hm).trans hword
        by_cases hi : m.type = .indication
        · simp only [if_pos hi, Option.bind_none, Option.toList_none, List.append_nil]
          exact dispatch_of_indication _ hi
        · simp only [if_neg hi, Option.bind_some, ← ht]
          exact dispatch_eq (hd' _ _ hkept) hi

/-! ## Moves -/

/-- Why the device accepts no new call, if it does not. -/
def refusal (d : Device) : Option CallError :=
  if d.isClosed then some .deviceClosed else d.readFailure.map .readFailed

/-- What an event does to a device. -/
inductive Move (d : Device) : Event → Device → Prop
  /-- The event is not possible, or says nothing new. -/
  | idle (e : Event) (hsubmit : ∀ request timeout, e ≠ .submit request timeout)
      (harrive : ∀ frame, e = .arrive frame → d.reader ≠ .running) : Move d e d
  | submit (request : Message) (timeout : Duration) : Move d (.submit request timeout) (d.submit request timeout)
  | refuse {id : CallId} {c : Call} {e : CallError} (hc : d.calls[id]? = some c) (hs : c.sending = .unregistered)
      (he : d.refusal = some e) : Move d (.register id) (d.refuse id e)
  | register {id : CallId} {c : Call} (hc : d.calls[id]? = some c) (hs : c.sending = .unregistered)
      (he : d.refusal = none) (j : Journal) :
      Move d (.register id)
        { d with
          calls := d.calls.modify id fun c => { c with sending := .due }
          pending := d.pending.insert c.transaction id
          journal := j }
  | written {id : CallId} {c : Call} (fault : Option WriteFault) (hc : d.calls[id]? = some c) (hs : c.sending = .due)
      (sent : List Octets) (j : Journal) :
      Move d (.transmit id fault)
        { d with calls := d.calls.modify id fun c => { c with sending := .complete }, sent := sent, journal := j }
  | unwritten {id : CallId} {c : Call} (fault : Option WriteFault) (hc : d.calls[id]? = some c) (hs : c.sending = .due)
      (e : CallError) (sent : List Octets) (j : Journal) :
      Move d (.transmit id fault)
        { d with
          calls := d.calls.modify id fun c => { c with sending := .over }
          finishing := d.finishing ++ [⟨id, .error e, false, some .host⟩]
          sent := sent
          journal := j }
  | giveUp {id : CallId} {c : Call} (e : Event) (he : e = .expire id ∨ e = .cancel id) (hc : d.calls[id]? = some c)
      (hs : c.sending = .complete) (reason : CallError) :
      Move d e
        { d with
          calls := d.calls.modify id fun c => { c with sending := .over }
          finishing := d.finishing ++ [⟨id, .error reason, false, some .host⟩] }
  | arrive (frame : Octets) (hr : d.reader = .running) (j : Journal) :
      Move d (.arrive frame)
        { d with
          reassembler := (d.reassembler.add frame).1
          finishing := d.finishing ++ (d.decided frame).toList
          journal := j }
  | take {i : Nat} {g : Finish} {c : Call} (hg : d.finishing[i]? = some g) (ht : g.taken = false)
      (hc : d.calls[g.call]? = some c) :
      Move d (.take i)
        { d with
          finishing := d.finishing.modify i fun g => { g with taken := true }
          pending := if d.pending.find? c.transaction = some g.call then d.pending.erase c.transaction else d.pending }
  | deliver {i : Nat} {g : Finish} (hg : d.finishing[i]? = some g) (ht : g.taken = true) (j : Journal) :
      Move d (.deliver i)
        { d with
          finishing := d.finishing.eraseIdx i
          calls := d.calls.modify g.call fun c => { c with promise := (c.promise.resolve g.outcome).1 }
          journal := j }
  | stop (e : Stream.Error) (hr : d.reader = .running) (hclosed : d.isClosed = true) :
      Move d (.lose e) { d with reader := .stopped }
  | fail (e : Stream.Error) (hr : d.reader = .running) (hopen : d.isClosed = false) (j : Journal) :
      Move d (.lose e) { d with readFailure := some e, reader := .failing, journal := j }
  | abandon (e : Stream.Error) (hr : d.reader = .failing) (he : d.readFailure = some e) :
      Move d .abandon (failPending { d with reader := .stopped } (.readFailed e))
  | announceClose (h : d.closing = .notBegun) (j : Journal) :
      Move d .announceClose { d with closing := .announced, journal := j }
  | closeStream (h : d.closing = .announced) : Move d .closeStream { d with closing := .streamClosed }
  | completeClose (h : d.closing = .streamClosed) (hr : d.reader = .stopped) :
      Move d .completeClose (failPending { d with closing := .complete } .deviceClosed)

theorem modify_congr {α : Type} {l : List α} {i : Nat} {a : α} {f g : α → α} (h : l[i]? = some a) (hfg : f a = g a) :
    l.modify i f = l.modify i g := by
  refine List.ext_getElem? fun j => ?_
  rw [List.getElem?_modify, List.getElem?_modify]
  by_cases hj : i = j
  · subst hj
    simp [h, hfg]
  · simp [hj]

theorem foldl_send (frames : List Octets) (d : Device) :
    ∃ j, frames.foldl send d = { d with sent := d.sent ++ frames, journal := j } := by
  induction frames generalizing d with
  | nil => exact ⟨d.journal, by simp⟩
  | cons frame frames ih =>
    obtain ⟨j, hj⟩ := ih (d.send frame)
    exact ⟨j, by rw [List.foldl_cons, hj]; simp [send, noteFrame, note]⟩

theorem register_move (d : Device) (id : CallId) : Move d (.register id) (d.register id) := by
  unfold register
  cases hc : d.calls[id]? with
  | none => exact .idle _ nofun nofun
  | some c =>
    simp only
    split
    · exact .idle _ nofun nofun
    rename_i hs
    have hs : c.sending = .unregistered := not_not.1 hs
    split
    · rename_i hclosed
      exact .refuse hc hs (by simp [refusal, hclosed])
    rename_i hopen
    cases hf : d.readFailure with
    | some e => exact .refuse hc hs (by simp [refusal, hopen, hf])
    | none => exact .register hc hs (by simp [refusal, hopen, hf]) _

theorem transmit_move (d : Device) (id : CallId) (fault : Option WriteFault) :
    Move d (.transmit id fault) (d.transmit id fault) := by
  unfold transmit
  cases hc : d.calls[id]? with
  | none => exact .idle _ nofun nofun
  | some c =>
    simp only
    split
    · exact .idle _ nofun nofun
    rename_i hs
    have hs : c.sending = .due := not_not.1 hs
    cases c.request.fragments (d.modifyCall id fun c => { c with sending := .over }).maxTransfer with
    | error e => exact .unwritten fault hc hs _ d.sent d.journal
    | ok frames =>
      simp only [transmitFrames]
      cases fault.bind fun f => frames[f.after]?.map (f, ·) with
      | none =>
        obtain ⟨j, hj⟩ := foldl_send frames (d.modifyCall id fun c => { c with sending := .over })
        simp only [hj]
        simp only [modifyCall, List.modify_modify_eq]
        exact .written fault hc hs _ j
      | some p =>
        obtain ⟨j, hj⟩ := foldl_send (frames.take p.1.after) (d.modifyCall id fun c => { c with sending := .over })
        simp only [hj]
        exact .unwritten fault hc hs _ _ _

theorem giveUp_move {d : Device} {id : CallId} {e : Event} (he : e = .expire id ∨ e = .cancel id)
    (reason : Call → CallError) : Move d e (d.giveUp id reason) := by
  have hidle : Move d e d := .idle e (by rcases he with rfl | rfl <;> nofun) (by rcases he with rfl | rfl <;> nofun)
  unfold giveUp
  cases hc : d.calls[id]? with
  | none => exact hidle
  | some c =>
    simp only
    split
    · exact hidle
    · rename_i hs
      exact .giveUp e he hc (not_not.1 hs) (reason c)

theorem takeStep_eq {d : Device} {i : Nat} {g : Finish} {c : Call} (hg : d.finishing[i]? = some g)
    (ht : g.taken = false) (hc : d.calls[g.call]? = some c) :
    d.takeStep i =
      { d with
        finishing := d.finishing.modify i fun g => { g with taken := true }
        pending := if d.pending.find? c.transaction = some g.call then d.pending.erase c.transaction else d.pending } := by
  simp only [takeStep, hg, ht, takeOut, hc, Bool.false_eq_true, if_false]
  split
  · rfl
  · rfl

theorem takeStep_move {d : Device} (hd : d.Coherent) (i : Nat) : Move d (.take i) (d.takeStep i) := by
  cases hg : d.finishing[i]? with
  | none =>
    rw [takeStep, hg]
    exact .idle _ nofun nofun
  | some g =>
    rcases Bool.eq_false_or_eq_true g.taken with ht | ht
    · simp only [takeStep, hg, ht, if_true]
      exact .idle _ nofun nofun
    · obtain ⟨c, hc, -⟩ := hd.finishing g (List.mem_of_getElem? hg)
      rw [takeStep_eq hg ht hc]
      exact .take hg ht hc

theorem resolve_eq {d : Device} {g : Finish} {c : Call} (hc : d.calls[g.call]? = some c) :
    ∃ j, d.resolve g =
      { d with
        calls := d.calls.modify g.call fun c => { c with promise := (c.promise.resolve g.outcome).1 }
        journal := j } := by
  have hsame := modify_congr (f := fun c' => { c' with promise := (c.promise.resolve g.outcome).1 })
    (g := fun c' => { c' with promise := (c'.promise.resolve g.outcome).1 }) hc rfl
  rw [← hsame]
  simp only [resolve, hc]
  split
  · split
    · exact ⟨_, rfl⟩
    · exact ⟨_, rfl⟩
  · exact ⟨_, rfl⟩

theorem deliverStep_eq {d : Device} {i : Nat} {g : Finish} {c : Call} (hg : d.finishing[i]? = some g)
    (ht : g.taken = true) (hc : d.calls[g.call]? = some c) :
    ∃ j, d.deliverStep i =
      { d with
        finishing := d.finishing.eraseIdx i
        calls := d.calls.modify g.call fun c => { c with promise := (c.promise.resolve g.outcome).1 }
        journal := j } := by
  simp only [deliverStep, hg, ht, if_true]
  exact resolve_eq (d := { d with finishing := d.finishing.eraseIdx i }) hc

theorem deliverStep_move {d : Device} (hd : d.Coherent) (i : Nat) : Move d (.deliver i) (d.deliverStep i) := by
  cases hg : d.finishing[i]? with
  | none =>
    rw [deliverStep, hg]
    exact .idle _ nofun nofun
  | some g =>
    rcases Bool.eq_false_or_eq_true g.taken with ht | ht
    · obtain ⟨c, hc, -⟩ := hd.finishing g (List.mem_of_getElem? hg)
      obtain ⟨j, hj⟩ := deliverStep_eq hg ht hc
      rw [hj]
      exact .deliver hg ht j
    · simp only [deliverStep, hg, ht, Bool.false_eq_true, if_false]
      exact .idle _ nofun nofun

theorem lose_move (d : Device) (e : Stream.Error) : Move d (.lose e) (d.lose e) := by
  unfold lose
  split
  · exact .idle _ nofun nofun
  rename_i hr
  split
  · rename_i hclosed
    exact .stop e (not_not.1 hr) hclosed
  · rename_i hopen
    exact .fail e (not_not.1 hr) (eq_false_of_ne_true hopen) _

theorem abandon_move (d : Device) : Move d .abandon d.abandon := by
  unfold abandon
  split
  · rename_i e hr he
    exact .abandon e hr he
  · exact .idle _ nofun nofun

theorem announceClose_move (d : Device) : Move d .announceClose d.announceClose := by
  unfold announceClose
  split
  · exact .idle _ nofun nofun
  rename_i h
  simp only
  split
  · exact .announceClose (not_not.1 h) _
  · exact .announceClose (not_not.1 h) _

theorem step_move {d : Device} (hd : d.Coherent) (e : Event) : Move d e (d.step e) := by
  cases e with
  | submit request timeout => exact .submit request timeout
  | register id => exact register_move d id
  | transmit id fault => exact transmit_move d id fault
  | arrive frame =>
    by_cases hr : d.reader = .running
    · obtain ⟨j, hj⟩ := arrive_eq hd hr frame
      rw [step, hj]
      exact .arrive frame hr j
    · rw [step, arrive, if_pos hr]
      exact .idle _ nofun fun _ _ => hr
  | expire id => exact giveUp_move (Or.inl rfl) _
  | cancel id => exact giveUp_move (Or.inr rfl) _
  | take i => exact takeStep_move hd i
  | deliver i => exact deliverStep_move hd i
  | lose e => exact lose_move d e
  | abandon => exact abandon_move d
  | announceClose => exact announceClose_move d
  | closeStream =>
    rw [step, closeStream]
    split
    · exact .closeStream ‹_›
    · exact .idle _ nofun nofun
  | completeClose =>
    rw [step, completeClose]
    split
    · rename_i h
      exact .completeClose h.1 h.2
    · exact .idle _ nofun nofun

end Device

end SimPhonebook
