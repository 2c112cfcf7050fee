import SimPhonebook.Proofs.Coherence

/-!
# Transactions do not meet in the reader

The reader handles frame after frame, and completes the call that a frame decides before it reads the next one
(`Device.handle`). What it does to a transaction depends on the frames of that transaction alone, however the frames of
others fare: two devices that `Agree` on a transaction still do after a frame of it (`Agree.handle`), and a frame of another
transaction leaves a device in agreement with what it was (`agree_handle_of_not_carries`).
-/

namespace SimPhonebook

namespace Device

/-- The reader handles a frame to the end: it completes the call that the frame decides, if there is one, and touches no
other completion. -/
def handle (d : Device) (frame : Octets) : Device :=
  d.run [.arrive frame, .take d.finishing.length, .deliver d.finishing.length]

def handleAll (d : Device) (frames : List Octets) : Device := frames.foldl handle d

/-! ## One frame -/

section
variable {d : Device} {frame : Octets}

theorem Coherent.handle (hd : d.Coherent) (frame : Octets) : (d.handle frame).Coherent := hd.run _

theorem handle_eq_self {d' : Device} (harrive : d.arrive frame = d') (hfinishing : d'.finishing = d.finishing) :
    d.handle frame = d' := by
  have hnone : d'.finishing[d.finishing.length]? = none := by rw [hfinishing, List.getElem?_eq_none (Nat.le_refl _)]
  have htake : d'.takeStep d.finishing.length = d' := by rw [takeStep, hnone]
  have hdeliver : d'.deliverStep d.finishing.length = d' := by rw [deliverStep, hnone]
  simp only [handle, run, List.foldl_cons, List.foldl_nil, step, harrive, htake, hdeliver]

theorem handle_of_not_running (hr : d.reader ≠ .running) (frame : Octets) : d.handle frame = d :=
  handle_eq_self (by rw [arrive, if_pos hr]) rfl

/-- Carrying out the completion that stands last. -/
theorem complete_last {l : List Finish} {g : Finish} {c : Call} (hlast : d.finishing = l ++ [g]) (ht : g.taken = false)
    (hc : d.calls[g.call]? = some c) (hid : d.pending.find? c.transaction = some g.call) :
    ∃ j, d.run [.take l.length, .deliver l.length] =
      { d with
        finishing := l
        pending := d.pending.erase c.transaction
        calls := d.calls.modify g.call fun c' => { c' with promise := (c'.promise.resolve g.outcome).1 }
        journal := j } := by
  have hg : d.finishing[l.length]? = some g := by rw [hlast]; simp
  have htake := takeStep_eq hg ht hc
  rw [if_pos hid] at htake
  have hg' : (d.takeStep l.length).finishing[l.length]? = some { g with taken := true } := by
    rw [htake]
    exact getElem?_modify_self hg _
  obtain ⟨j, hj⟩ := deliverStep_eq hg' rfl (c := c) (by rw [htake]; exact hc)
  refine ⟨j, ?_⟩
  have hleft : (d.finishing.modify l.length fun g => { g with taken := true }).eraseIdx l.length = l := by
    rw [List.eraseIdx_modify_of_eq, hlast, List.eraseIdx_append_of_length_le (Nat.le_refl _)]
    simp
  show (d.takeStep l.length).deliverStep l.length = _
  rw [hj]
  simp only [htake, hleft]

/-- A frame that decides nothing is added to what is collected. -/
theorem handle_of_undecided (hd : d.Coherent) (hr : d.reader = .running) (h : d.decided frame = none) :
    ∃ j, d.handle frame = { d with reassembler := (d.reassembler.add frame).1, journal := j } := by
  obtain ⟨j, hj⟩ := arrive_eq hd hr frame
  rw [h, Option.toList_none, List.append_nil] at hj
  exact ⟨j, handle_eq_self hj rfl⟩

/-- A frame that decides a call takes it out of the table and resolves it. -/
theorem handle_of_decided (hd : d.Coherent) (hr : d.reader = .running) {id : CallId} {c : Call}
    {outcome : Call → Outcome} (hid : d.pending.find? (frame.wordAt 8) = some id) (hc : d.calls[id]? = some c)
    (hv : verdict (d.reassembler.slot (frame.wordAt 8)) frame = some outcome) :
    ∃ j, d.handle frame =
      { d with
        reassembler := (d.reassembler.add frame).1
        pending := d.pending.erase (frame.wordAt 8)
        calls := d.calls.modify id fun c' => { c' with promise := (c'.promise.resolve (outcome c)).1 }
        journal := j } := by
  obtain ⟨ht, -⟩ := hd.waits hid hc
  obtain ⟨j, hj⟩ := arrive_eq hd hr frame
  rw [decided, hv, Option.bind_some, conclude_eq_some hid hc, Option.toList_some] at hj
  obtain ⟨j', hj'⟩ := complete_last (d := d.arrive frame) (l := d.finishing) (g := ⟨id, outcome c, false, some .reader⟩)
    (c := c) (by rw [hj]) rfl (by rw [hj]; exact hc) (by rw [hj, ht]; exact hid)
  refine ⟨j', ?_⟩
  rw [show d.handle frame = (d.arrive frame).run [.take d.finishing.length, .deliver d.finishing.length] from rfl, hj',
    hj, ht]

end

/-! ## Agreement on one transaction -/

/-- The devices agree on a transaction: on whether frames are read, on what is collected for it, on what waits under its
ID and on the calls that have the ID. -/
structure Agree (t : UInt32) (d d' : Device) : Prop where
  reader : d.reader = d'.reader
  slot : d.reassembler.slot t = d'.reassembler.slot t
  pending : d.pending.find? t = d'.pending.find? t
  calls : ∀ (id : CallId) (c : Call), c.transaction = t → (d.calls[id]? = some c ↔ d'.calls[id]? = some c)

section
variable {t : UInt32} {d d' d'' : Device} {frame : Octets}

theorem Agree.refl (t : UInt32) (d : Device) : Agree t d d := ⟨rfl, rfl, rfl, fun _ _ _ => Iff.rfl⟩

theorem Agree.trans (h : Agree t d d') (h' : Agree t d' d'') : Agree t d d'' :=
  ⟨h.reader.trans h'.reader, h.slot.trans h'.slot, h.pending.trans h'.pending,
    fun id c hc => (h.calls id c hc).trans (h'.calls id c hc)⟩

theorem Agree.symm (h : Agree t d d') : Agree t d' d :=
  ⟨h.reader.symm, h.slot.symm, h.pending.symm, fun id c hc => (h.calls id c hc).symm⟩

/-- A change of one call is invisible to the transactions that it does not have. -/
theorem modify_agrees {id : CallId} {c : Call} {f : Call → Call} (hc : d.calls[id]? = some c) (ht : c.transaction ≠ t)
    (hf : (f c).transaction = c.transaction) (k : CallId) (c' : Call) (hc' : c'.transaction = t) :
    (d.calls.modify id f)[k]? = some c' ↔ d.calls[k]? = some c' := by
  by_cases hk : k = id
  · subst hk
    rw [getElem?_modify_self hc, hc, Option.some.injEq, Option.some.injEq]
    constructor
    · rintro rfl
      exact absurd (hf.symm.trans hc') ht
    · rintro rfl
      exact absurd hc' ht
  · rw [List.getElem?_modify_ne f d.calls (Ne.symm hk)]

/-- A frame of another transaction changes nothing for `t`. -/
theorem agree_handle_of_not_carries (hd : d.Coherent) (h : carries t frame = false) : Agree t (d.handle frame) d := by
  by_cases hr : d.reader = .running
  · have hslot := d.reassembler.slot_add_of_not_carries h
    rcases decided_cases hd frame with hnone | ⟨id, c, outcome, hid, hc, hv⟩
    · obtain ⟨j, hj⟩ := handle_of_undecided hd hr hnone
      rw [hj]
      exact ⟨rfl, hslot, rfl, fun _ _ _ => Iff.rfl⟩
    · obtain ⟨j, hj⟩ := handle_of_decided hd hr hid hc hv
      obtain ⟨ht, -⟩ := hd.waits hid hc
      have hne : frame.wordAt 8 ≠ t := fun hword =>
        Bool.false_ne_true (h.symm.trans (carries_iff.2 ⟨headerSize_le_of_verdict hv, hword⟩))
      rw [hj]
      refine ⟨rfl, hslot, ?_, modify_agrees hc (ht ▸ hne) rfl⟩
      simp only [TransactionTable.find?_erase, if_neg (Ne.symm hne)]
  · rw [handle_of_not_running hr]
    exact Agree.refl t d

/-- The call that waits is the same call on both sides. -/
theorem Agree.conclude (h : Agree t d d') (hd : d.Coherent) (outcome : Call → Outcome) :
    d.conclude t outcome = d'.conclude t outcome := by
  cases hid : d.pending.find? t with
  | none => rw [conclude_eq_none hid, conclude_eq_none (h.pending ▸ hid)]
  | some id =>
    obtain ⟨c, hc, ht, -⟩ := hd.waiting t id hid
    rw [conclude_eq_some hid hc, conclude_eq_some (h.pending ▸ hid) ((h.calls id c ht).1 hc)]

/-- A frame of the transaction keeps the agreement. -/
theorem Agree.handle (hd : d.Coherent) (hd' : d'.Coherent) (h : Agree t d d') (hframe : carries t frame = true) :
    Agree t (d.handle frame) (d'.handle frame) := by
  obtain ⟨-, rfl⟩ := carries_iff.1 hframe
  by_cases hr : d.reader = .running
  · have hr' : d'.reader = .running := h.reader ▸ hr
    have hslot := Reassembler.slot_add_congr h.slot hframe
    have hdecided : d.decided frame = d'.decided frame := by
      rw [decided, decided, ← h.slot, funext (h.conclude hd)]
    rcases decided_cases hd frame with hnone | ⟨id, c, outcome, hid, hc, hv⟩
    · obtain ⟨j, hj⟩ := handle_of_undecided hd hr hnone
      obtain ⟨j', hj'⟩ := handle_of_undecided hd' hr' (hdecided ▸ hnone)
      rw [hj, hj']
      exact ⟨h.reader, hslot, h.pending, h.calls⟩
    · obtain ⟨ht, -⟩ := hd.waits hid hc
      have hc' : d'.calls[id]? = some c := (h.calls id c ht).1 hc
      obtain ⟨j, hj⟩ := handle_of_decided hd hr hid hc hv
      obtain ⟨j', hj'⟩ := handle_of_decided hd' hr' (h.pending ▸ hid) hc' (h.slot ▸ hv)
      rw [hj, hj']
      refine ⟨h.reader, hslot, by simp, ?_⟩
      intro k c₁ ht₁
      by_cases hk : k = id
      · subst hk
        rw [getElem?_modify_self hc, getElem?_modify_self hc']
      · rw [List.getElem?_modify_ne _ _ (Ne.symm hk), List.getElem?_modify_ne _ _ (Ne.symm hk)]
        exact h.calls k c₁ ht₁
  · have hr' : d'.reader ≠ .running := h.reader ▸ hr
    rwa [handle_of_not_running hr, handle_of_not_running hr']

theorem agree_handleAll (frames : List Octets) (hd : d.Coherent) (hd' : d'.Coherent) (h : Agree t d d') :
    Agree t (d.handleAll frames) (d'.handleAll (frames.filter (carries t))) := by
  induction frames generalizing d d' with
  | nil => exact h
  | cons frame frames ih =>
    rcases Bool.eq_false_or_eq_true (carries t frame) with hframe | hframe
    · rw [List.filter_cons_of_pos hframe]
      exact ih (hd.handle frame) (hd'.handle frame) (h.handle hd hd' hframe)
    · rw [List.filter_cons_of_neg (by rw [hframe]; exact Bool.false_ne_true)]
      exact ih (hd.handle frame) hd' ((agree_handle_of_not_carries hd hframe).trans h)

theorem Coherent.handleAll (hd : d.Coherent) (frames : List Octets) : (d.handleAll frames).Coherent := by
  induction frames generalizing d with
  | nil => exact hd
  | cons frame frames ih => exact ih (hd.handle frame)

theorem becomes_handleAll (hd : d.Coherent) (frames : List Octets) {id : CallId} {c : Call}
    (hc : d.calls[id]? = some c) : ∃ c', (d.handleAll frames).calls[id]? = some c' ∧ c.Becomes c' := by
  induction frames generalizing d c with
  | nil => exact ⟨c, hc, .refl c⟩
  | cons frame frames ih =>
    obtain ⟨c', hc', h⟩ := becomes_run hd _ hc
    obtain ⟨c'', hc'', h'⟩ := ih (hd.handle frame) hc'
    exact ⟨c'', hc'', h.trans h'⟩

/-! ## No transaction -/

/-- Nothing waits under the ID zero. -/
theorem Coherent.find?_zero (hd : d.Coherent) : d.pending.find? 0 = none := by
  cases h : d.pending.find? 0 with
  | none => rfl
  | some id =>
    obtain ⟨c, hc, ht, -⟩ := hd.waiting 0 id h
    exact absurd ht (hd.nonzero id c hc)

/-- Devices that agree on all transactions but zero have the same calls, and the same of them wait. -/
theorem eq_of_agree_of_ne_zero (hd : d.Coherent) (hd' : d'.Coherent) (h : ∀ s ≠ 0, Agree s d d') :
    (∀ s, d.pending.find? s = d'.pending.find? s) ∧ d.calls = d'.calls := by
  constructor
  · intro s
    by_cases hs : s = 0
    · rw [hs, hd.find?_zero, hd'.find?_zero]
    · exact (h s hs).pending
  · refine List.ext_getElem? fun id => Option.ext fun c => ?_
    by_cases hs : c.transaction = 0
    · exact ⟨fun hc => absurd hs (hd.nonzero id c hc), fun hc => absurd hs (hd'.nonzero id c hc)⟩
    · exact (h c.transaction hs).calls id c rfl

/-- Frames under the ID zero are none of any other transaction. -/
theorem filter_carries_of_ne_zero (ht : t ≠ 0) (frames : List Octets) :
    (frames.filter fun f => !carries 0 f).filter (carries t) = frames.filter (carries t) := by
  rw [List.filter_filter]
  refine List.filter_congr fun f _ => ?_
  rcases Bool.eq_false_or_eq_true (carries t f) with hf | hf
  · have hzero : carries 0 f = false := by
      rw [← Bool.not_eq_true, carries_iff]
      rintro ⟨-, h⟩
      exact ht ((carries_iff.1 hf).2.symm.trans h)
    rw [hf, hzero]
    rfl
  · rw [hf, Bool.false_and]

end

/-- **Transactions do not meet in the reader.** Whatever frames come to a device, what waits under a transaction ID, what
becomes of the call that waited under it and what is collected for it are decided by the frames that carry the ID.
Frames that carry the ID zero could as well not have come: they change nothing that waits, and no call. -/
theorem handleAll_isolated {d : Device} (hd : d.Reachable) (frames : List Octets) (t : UInt32) :
    (d.handleAll frames).pending.find? t = (d.handleAll (frames.filter (carries t))).pending.find? t ∧
    (∀ id, d.pending.find? t = some id → ∃ c,
      (d.handleAll frames).calls[id]? = some c ∧ (d.handleAll (frames.filter (carries t))).calls[id]? = some c) ∧
    (d.handleAll frames).reassembler.slot t = (d.handleAll (frames.filter (carries t))).reassembler.slot t ∧
    (∀ s, (d.handleAll frames).pending.find? s =
      (d.handleAll (frames.filter fun f => !carries 0 f)).pending.find? s) ∧
    (d.handleAll frames).calls = (d.handleAll (frames.filter fun f => !carries 0 f)).calls := by
  have hc := hd.coherent
  have hown : ∀ s fs, Agree s (d.handleAll fs) (d.handleAll (fs.filter (carries s))) :=
    fun s fs => agree_handleAll fs hc hc (.refl s d)
  refine ⟨(hown t frames).pending, ?_, (hown t frames).slot, ?_⟩
  · intro id hid
    obtain ⟨c₀, hc₀, ht, -⟩ := hc.waiting t id hid
    obtain ⟨c, hcall, hbecomes⟩ := becomes_handleAll hc frames hc₀
    have htransaction : c.transaction = t := (congrArg Message.transaction hbecomes.request).trans ht
    exact ⟨c, hcall, ((hown t frames).calls id c htransaction).1 hcall⟩
  · refine eq_of_agree_of_ne_zero (hc.handleAll _) (hc.handleAll _) fun s hs => ?_
    have hleft := hown s frames
    have hright := hown s (frames.filter fun f => !carries 0 f)
    rw [filter_carries_of_ne_zero hs] at hright
    exact hleft.trans hright.symm

/-- A device with two requests waiting: to open a session, and to close it. -/
def twoRequests : Device :=
  (new "" defaultMaxTransfer []).run
    [.submit (.openSession 4096) ⟨0⟩, .submit .closeSession ⟨0⟩, .register 0, .register 1]

/-- An answer of the wrong kind to the second request, a broken indication, and the answer to the first request. -/
def mixedFrames : List Octets :=
  [(Message.mk 2 (.openDone ⟨0⟩)).encode, headerOctets .indication 12 0, (Message.mk 1 (.openDone ⟨0⟩)).encode]

theorem twoRequests_isolated :
    twoRequests.Reachable ∧ twoRequests.pending.find? 1 = some 0 ∧
    ∃ c, (twoRequests.handleAll mixedFrames).calls[0]? = some c ∧ c.outcome? = some (.ok ⟨1, .openDone ⟨0⟩⟩) := by
  have hreachable : twoRequests.Reachable := ⟨_, _, ⟨_, _, _, rfl⟩, rfl⟩
  have hwaits : twoRequests.pending.find? 1 = some 0 := by decide +kernel
  obtain ⟨c, hall, hown⟩ := (handleAll_isolated hreachable mixedFrames 1).2.1 0 hwaits
  have houtcome : (twoRequests.handleAll (mixedFrames.filter (carries 1))).calls[0]?.bind Call.outcome? =
      some (.ok ⟨1, .openDone ⟨0⟩⟩) := by decide +kernel
  rw [hown] at houtcome
  exact ⟨hreachable, hwaits, c, hall, houtcome⟩

end Device

end SimPhonebook
