import SimPhonebook.Proofs.DeviceSteps

/-!
# Coherent devices and their calls

Every step keeps a device `Coherent` (`Coherent.step`), and takes each of its calls forward only: the request stays, and an
outcome is final (`becomes_step`). As long as the transaction IDs have not all been given out, each call has an ID of its
own (`Numbered`).
-/

namespace SimPhonebook

namespace Device

theorem getElem?_modify_self {α : Type} {l : List α} {i : Nat} {a : α} (h : l[i]? = some a) (f : α → α) :
    (l.modify i f)[i]? = some (f a) := by
  rw [List.getElem?_modify_eq, h]
  rfl

theorem modify_cases {α : Type} {l : List α} {i k : Nat} {b : α} {f : α → α} (h : (l.modify i f)[k]? = some b) :
    (k ≠ i ∧ l[k]? = some b) ∨ (k = i ∧ ∃ a, l[i]? = some a ∧ b = f a) := by
  by_cases hk : k = i
  · subst hk
    rw [List.getElem?_modify_eq] at h
    obtain ⟨a, ha, rfl⟩ := Option.map_eq_some_iff.1 h
    exact Or.inr ⟨rfl, a, ha, rfl⟩
  · rw [List.getElem?_modify_ne f l (Ne.symm hk)] at h
    exact Or.inl ⟨hk, h⟩

theorem mem_modify_cases {α : Type} {l : List α} {i : Nat} {b : α} {f : α → α} (h : b ∈ l.modify i f) :
    b ∈ l ∨ ∃ a, l[i]? = some a ∧ b = f a := by
  obtain ⟨k, hk⟩ := List.mem_iff_getElem?.1 h
  rcases modify_cases hk with ⟨-, h⟩ | ⟨-, h⟩
  · exact Or.inl (List.mem_of_getElem? h)
  · exact Or.inr h

section
variable {d : Device} {id : CallId} {c : Call}

theorem getElem?_submit (request : Message) (timeout : Duration) (hc : d.calls[id]? = some c) :
    (d.submit request timeout).calls[id]? = some c :=
  (List.getElem?_append_left (List.getElem?_eq_some_iff.1 hc).1).trans hc

theorem submit_cases {request : Message} {timeout : Duration} (hc : (d.submit request timeout).calls[id]? = some c) :
    d.calls[id]? = some c ∨ (id = d.calls.length ∧
      c = ⟨⟨nextTransaction d.lastTransaction, request.body⟩, timeout, .unregistered, .unresolved⟩) := by
  simp only [submit, List.getElem?_append] at hc
  split at hc
  · exact Or.inl hc
  · rename_i hid
    obtain ⟨hlast, -⟩ := List.getElem?_eq_some_iff.1 hc
    have hlast : id - d.calls.length = 0 := Nat.lt_one_iff.1 hlast
    exact Or.inr ⟨Nat.le_antisymm (Nat.sub_eq_zero_iff_le.1 hlast) (Nat.not_lt.1 hid),
      List.mem_singleton.1 (List.mem_of_getElem? hc)⟩

theorem Coherent.waits (hd : d.Coherent) {t : UInt32} (hid : d.pending.find? t = some id) (hc : d.calls[id]? = some c) :
    c.transaction = t ∧ c.sending ≠ .unregistered ∧ c.outcome? = none := by
  obtain ⟨c', hc', h⟩ := hd.waiting t id hid
  rwa [Option.some.inj (hc.symm.trans hc')]

/-- Nothing knows of a call that is not registered. -/
theorem Coherent.unseen (hd : d.Coherent) (hc : d.calls[id]? = some c) (hs : c.sending = .unregistered) :
    (∀ t, d.pending.find? t ≠ some id) ∧ ∀ g ∈ d.finishing, g.call ≠ id := by
  constructor
  · intro t ht
    exact (hd.waits ht hc).2.1 hs
  · rintro g hg rfl
    obtain ⟨c', hc', hs'⟩ := hd.finishing g hg
    exact hs' (Option.some.inj (hc.symm.trans hc') ▸ hs)

/-- A registered or refused call may change if it does not wait, or if its outcome stays as it is. -/
theorem Coherent.modifyCall (hd : d.Coherent) {f : Call → Call} (hc : d.calls[id]? = some c)
    (htransaction : (f c).transaction = c.transaction) (hregistered : (f c).sending ≠ .unregistered)
    (houtcome : (∀ t, d.pending.find? t ≠ some id) ∨ (f c).outcome? = c.outcome?) :
    (d.modifyCall id f).Coherent := by
  have hself := getElem?_modify_self hc f
  refine ⟨hd.kept, ?_, ?_, ?_, hd.taken, ?_⟩
  · intro t k hk
    obtain ⟨c', hc', ht, hs, ho⟩ := hd.waiting t k hk
    by_cases hid : k = id
    · subst hid
      obtain rfl : c = c' := Option.some.inj (hc.symm.trans hc')
      refine ⟨f c, hself, htransaction.trans ht, hregistered, ?_⟩
      rcases houtcome with hno | heq
      · exact absurd hk (hno t)
      · rw [heq, ho]
    · exact ⟨c', (List.getElem?_modify_ne f d.calls (Ne.symm hid)).trans hc', ht, hs, ho⟩
  · intro k c' hc' hs
    rcases modify_cases hc' with ⟨-, h⟩ | ⟨-, c₀, h, rfl⟩
    · exact hd.fresh k c' h hs
    · obtain rfl : c = c₀ := Option.some.inj (hc.symm.trans h)
      exact absurd hs hregistered
  · intro g hg
    obtain ⟨c', hc', hs⟩ := hd.finishing g hg
    by_cases hid : g.call = id
    · exact ⟨f c, by rw [hid]; exact hself, hregistered⟩
    · exact ⟨c', (List.getElem?_modify_ne f d.calls (Ne.symm hid)).trans hc', hs⟩
  · intro k c' hc'
    rcases modify_cases hc' with ⟨-, h⟩ | ⟨-, c₀, h, rfl⟩
    · exact hd.nonzero k c' h
    · obtain rfl : c = c₀ := Option.some.inj (hc.symm.trans h)
      rw [htransaction]
      exact hd.nonzero id c h

/-- Registered calls may be decided on. -/
theorem Coherent.decide (hd : d.Coherent) (new : List Finish)
    (hnew : ∀ g ∈ new, g.taken = false ∧ ∃ c : Call, d.calls[g.call]? = some c ∧ c.sending ≠ .unregistered) :
    Coherent { d with finishing := d.finishing ++ new } := by
  refine ⟨hd.kept, hd.waiting, hd.fresh, ?_, ?_, hd.nonzero⟩
  · intro g hg
    rcases List.mem_append.1 hg with hg | hg
    · exact hd.finishing g hg
    · exact (hnew g hg).2
  · intro g hg htaken
    rcases List.mem_append.1 hg with hg | hg
    · exact hd.taken g hg htaken
    · rw [(hnew g hg).1] at htaken
      cases htaken

/-- A call that nobody completes may be put into the table. -/
theorem Coherent.insert (hd : d.Coherent) (hc : d.calls[id]? = some c) (hs : c.sending ≠ .unregistered)
    (ho : c.outcome? = none) (hnone : ∀ g ∈ d.finishing, g.call ≠ id) :
    Coherent { d with pending := d.pending.insert c.transaction id } := by
  refine ⟨hd.kept, ?_, hd.fresh, hd.finishing, ?_, hd.nonzero⟩
  · intro t k hk
    simp only [TransactionTable.find?_insert] at hk
    split at hk
    · rename_i ht
      cases hk
      exact ⟨c, hc, ht.symm, hs, ho⟩
    · exact hd.waiting t k hk
  · intro g hg htaken t ht
    simp only [TransactionTable.find?_insert] at ht
    split at ht
    · cases ht
      exact hnone g hg rfl
    · exact hd.taken g hg htaken t ht

theorem Coherent.failPending (hd : d.Coherent) (e : CallError) : (d.failPending e).Coherent := by
  refine ⟨hd.kept, ?_, hd.fresh, ?_, ?_, hd.nonzero⟩
  · intro t id h
    cases h
  · intro g hg
    rcases List.mem_append.1 hg with hg | hg
    · exact hd.finishing g hg
    · obtain ⟨id, hid, rfl⟩ := List.mem_map.1 hg
      obtain ⟨t, ht⟩ := (d.pending.mem_values_iff id).1 hid
      obtain ⟨c, hc, -, hs, -⟩ := hd.waiting t id ht
      exact ⟨c, hc, hs⟩
  · intro g _ _ t h
    cases h

theorem Coherent.submit (hd : d.Coherent) (request : Message) (timeout : Duration) :
    (d.submit request timeout).Coherent := by
  refine ⟨hd.kept, ?_, ?_, ?_, hd.taken, ?_⟩
  · intro t k hk
    obtain ⟨c, hc, h⟩ := hd.waiting t k hk
    exact ⟨c, getElem?_submit request timeout hc, h⟩
  · intro k c hc hs
    rcases submit_cases hc with h | ⟨-, rfl⟩
    · exact hd.fresh k c h hs
    · rfl
  · intro g hg
    obtain ⟨c, hc, hs⟩ := hd.finishing g hg
    exact ⟨c, getElem?_submit request timeout hc, hs⟩
  · intro k c hc
    rcases submit_cases hc with h | ⟨-, rfl⟩
    · exact hd.nonzero k c h
    · exact nextTransaction_ne_zero d.lastTransaction

/-- A completion takes its call out of the table. -/
theorem Coherent.take (hd : d.Coherent) {i : Nat} {g : Finish} (hg : d.finishing[i]? = some g)
    (hc : d.calls[g.call]? = some c) :
    Coherent { d with
      finishing := d.finishing.modify i fun g => { g with taken := true }
      pending := if d.pending.find? c.transaction = some g.call then d.pending.erase c.transaction else d.pending } := by
  -- what is still in the table was there before, and is not the call of `g`
  have hfind : ∀ {t id}, (if d.pending.find? c.transaction = some g.call then d.pending.erase c.transaction
      else d.pending).find? t = some id → d.pending.find? t = some id ∧ id ≠ g.call := by
    intro t id h
    have hold : d.pending.find? t = some id := by
      split at h
      · rw [TransactionTable.find?_erase] at h
        split at h
        · cases h
        · exact h
      · exact h
    refine ⟨hold, ?_⟩
    rintro rfl
    obtain ⟨rfl, -⟩ := hd.waits hold hc
    rw [if_pos hold, TransactionTable.find?_erase, if_pos rfl] at h
    cases h
  refine ⟨hd.kept, fun t id h => hd.waiting t id (hfind h).1, hd.fresh, ?_, ?_, hd.nonzero⟩
  · intro f hf
    rcases mem_modify_cases hf with h | ⟨f', h, rfl⟩
    · exact hd.finishing f h
    · exact hd.finishing f' (List.mem_of_getElem? h)
  · intro f hf htaken t ht
    rcases mem_modify_cases hf with h | ⟨f', h, rfl⟩
    · exact hd.taken f h htaken t (hfind ht).1
    · obtain rfl : g = f' := Option.some.inj (hg.symm.trans h)
      exact (hfind ht).2 rfl

/-- **Coherence is kept**, whatever happens. -/
theorem Coherent.step (hd : d.Coherent) (e : Event) : (d.step e).Coherent := by
  have hmove := step_move hd e
  generalize d.step e = d' at hmove
  cases hmove with
  | idle => exact hd
  | submit request timeout => exact hd.submit request timeout
  | refuse hc hs _ => exact hd.modifyCall hc rfl nofun (Or.inl (hd.unseen hc hs).1)
  | register hc hs _ j =>
    have hd' := hd.modifyCall (f := fun c => { c with sending := .due }) hc rfl nofun (Or.inr rfl)
    have ho := hd.fresh _ _ hc hs
    have h := hd'.insert (getElem?_modify_self hc _) nofun ho (hd.unseen hc hs).2
    exact h.congr hd.kept rfl rfl rfl
  | written fault hc hs sent j =>
    have h := hd.modifyCall (f := fun c => { c with sending := .complete }) hc rfl nofun (Or.inr rfl)
    exact h.congr hd.kept rfl rfl rfl
  | unwritten fault hc hs e sent j =>
    have hd' := hd.modifyCall (f := fun c => { c with sending := .over }) hc rfl nofun (Or.inr rfl)
    have h := hd'.decide [⟨_, .error e, false, some .host⟩] (by simpa using ⟨_, getElem?_modify_self hc _, nofun⟩)
    exact h.congr hd.kept rfl rfl rfl
  | giveUp e he hc hs reason =>
    have hd' := hd.modifyCall (f := fun c => { c with sending := .over }) hc rfl nofun (Or.inr rfl)
    exact hd'.decide [⟨_, .error reason, false, some .host⟩] (by simpa using ⟨_, getElem?_modify_self hc _, nofun⟩)
  | arrive frame hr j =>
    have h := hd.decide (d.decided frame).toList (by
      intro g hg
      obtain ⟨outcome, -, hg⟩ := Option.bind_eq_some_iff.1 (Option.mem_toList.1 hg)
      obtain ⟨id, c, hid, hc, rfl⟩ := mem_conclude hg
      obtain ⟨c', hc', -, hs, -⟩ := hd.waiting _ _ hid
      exact ⟨rfl, c', hc', hs⟩)
    exact h.congr (hd.kept.add frame) rfl rfl rfl
  | take hg ht hc => exact hd.take hg hc
  | @deliver i g hg ht j =>
    have hmem := List.mem_of_getElem? hg
    obtain ⟨c, hc, hs⟩ := hd.finishing g hmem
    have h := hd.modifyCall (f := fun c => { c with promise := (c.promise.resolve g.outcome).1 }) hc rfl hs
      (Or.inl (hd.taken g hmem ht))
    exact ⟨h.kept, h.waiting, h.fresh, fun g' hg' => h.finishing g' (List.mem_of_mem_eraseIdx hg'),
      fun g' hg' => h.taken g' (List.mem_of_mem_eraseIdx hg'), h.nonzero⟩
  | stop e hr hclosed => exact hd.congr hd.kept rfl rfl rfl
  | fail e hr hopen j => exact hd.congr hd.kept rfl rfl rfl
  | abandon e hr he =>
    have hd' : Coherent { d with reader := .stopped } := hd.congr hd.kept rfl rfl rfl
    exact hd'.failPending _
  | announceClose h j => exact hd.congr hd.kept rfl rfl rfl
  | closeStream h => exact hd.congr hd.kept rfl rfl rfl
  | completeClose h hr =>
    have hd' : Coherent { d with closing := .complete } := hd.congr hd.kept rfl rfl rfl
    exact hd'.failPending _

theorem Coherent.run (hd : d.Coherent) (events : List Event) : (d.run events).Coherent := by
  induction events generalizing d with
  | nil => exact hd
  | cons e events ih => exact ih (hd.step e)

end

end Device

/-! ## Calls in the course of time -/

/-- `c'` is what has become of the call `c`: the request is the same, and an outcome is final. -/
structure Call.Becomes (c c' : Call) : Prop where
  request : c'.request = c.request
  outcome : ∀ o, c.outcome? = some o → c'.outcome? = some o

namespace Call

theorem Becomes.refl (c : Call) : Becomes c c := ⟨rfl, fun _ h => h⟩

theorem Becomes.trans {c c' c'' : Call} (h : Becomes c c') (h' : Becomes c' c'') : Becomes c c'' :=
  ⟨h'.request.trans h.request, fun o ho => h'.outcome o (h.outcome o ho)⟩

theorem becomes_sending (c : Call) (s : Sending) : Becomes c { c with sending := s } := ⟨rfl, fun _ h => h⟩

/-- An attempt to resolve a call with an outcome has no effect. -/
theorem becomes_resolve (c : Call) (o : Outcome) : Becomes c { c with promise := (c.promise.resolve o).1 } := by
  refine ⟨rfl, fun o' ho => ?_⟩
  simp only [outcome?] at ho ⊢
  rw [Promise.resolve, ho]
  exact ho

end Call

namespace Device

/-- What holds of an element still holds of something in its place if the change of this element keeps it. -/
theorem exists_modify {α : Type} {l : List α} {i k : Nat} {a : α} {f : α → α} (h : l[k]? = some a) (P : α → Prop)
    (hold : P a) (hnew : k = i → P (f a)) : ∃ b, (l.modify i f)[k]? = some b ∧ P b := by
  by_cases hk : k = i
  · subst hk
    exact ⟨f a, getElem?_modify_self h f, hnew rfl⟩
  · exact ⟨a, (List.getElem?_modify_ne f l (Ne.symm hk)).trans h, hold⟩

/-- A call goes forward, whatever happens. -/
theorem becomes_step {d : Device} (hd : d.Coherent) (e : Event) {k : CallId} {c : Call} (hc : d.calls[k]? = some c) :
    ∃ c', (d.step e).calls[k]? = some c' ∧ c.Becomes c' := by
  have hmodify : ∀ {id : CallId} {f : Call → Call}, c.Becomes (f c) →
      ∃ c', (d.calls.modify id f)[k]? = some c' ∧ c.Becomes c' :=
    fun hf => exists_modify hc c.Becomes (.refl c) fun _ => hf
  have hmove := step_move hd e
  generalize d.step e = d' at hmove
  cases hmove with
  | submit request timeout => exact ⟨c, getElem?_submit request timeout hc, .refl c⟩
  | refuse => exact hmodify ((c.becomes_resolve _).trans (Call.becomes_sending _ _))
  | register => exact hmodify (c.becomes_sending _)
  | written => exact hmodify (c.becomes_sending _)
  | unwritten => exact hmodify (c.becomes_sending _)
  | giveUp => exact hmodify (c.becomes_sending _)
  | deliver => exact hmodify (c.becomes_resolve _)
  | _ => exact ⟨c, hc, .refl c⟩

theorem becomes_run {d : Device} (hd : d.Coherent) (events : List Event) {k : CallId} {c : Call}
    (hc : d.calls[k]? = some c) : ∃ c', (d.run events).calls[k]? = some c' ∧ c.Becomes c' := by
  induction events generalizing d c with
  | nil => exact ⟨c, hc, .refl c⟩
  | cons e events ih =>
    obtain ⟨c', hc', h⟩ := becomes_step hd e hc
    obtain ⟨c'', hc'', h'⟩ := ih (hd.step e) hc'
    exact ⟨c'', hc'', h.trans h'⟩

/-! ## Transaction IDs -/

def Event.isSubmit : Event → Bool
  | .submit _ _ => true
  | _ => false

/-- How many requests are submitted. -/
def submissions (events : List Event) : Nat := events.countP Event.isSubmit

/-- The calls have the transaction IDs 1, 2, 3 and so on. -/
structure Numbered (d : Device) : Prop where
  last : d.lastTransaction.toNat = d.calls.length
  call : ∀ (id : CallId) (c : Call), d.calls[id]? = some c → c.transaction.toNat = id + 1

theorem numbered_new (name : Text) (maxTransfer : Int) (journal : Journal) :
    (new name maxTransfer journal).Numbered := ⟨rfl, fun _ _ h => by cases h⟩

theorem Numbered.id_eq {d : Device} (h : d.Numbered) {i k : CallId} {c c' : Call} (hc : d.calls[i]? = some c)
    (hc' : d.calls[k]? = some c') (ht : c.transaction = c'.transaction) : i = k := by
  have hi := h.call i c hc
  have hk := h.call k c' hc'
  rw [ht] at hi
  exact Nat.succ.inj (hi.symm.trans hk)

theorem step_of_not_submit {d : Device} (hd : d.Coherent) {e : Event} (he : e.isSubmit = false) :
    (d.step e).calls.length = d.calls.length ∧ (d.step e).lastTransaction = d.lastTransaction := by
  have hmove := step_move hd e
  generalize d.step e = d' at hmove
  cases hmove with
  | submit request timeout => cases he
  | refuse => exact ⟨List.length_modify _ _ _, rfl⟩
  | register => exact ⟨List.length_modify _ _ _, rfl⟩
  | written => exact ⟨List.length_modify _ _ _, rfl⟩
  | unwritten => exact ⟨List.length_modify _ _ _, rfl⟩
  | giveUp => exact ⟨List.length_modify _ _ _, rfl⟩
  | deliver => exact ⟨List.length_modify _ _ _, rfl⟩
  | _ => exact ⟨rfl, rfl⟩

theorem toNat_nextTransaction {last : UInt32} (h : last.toNat + 1 < 2 ^ 32) :
    (nextTransaction last).toNat = last.toNat + 1 := by
  have hnext : (last + 1).toNat = last.toNat + 1 := by
    rw [UInt32.toNat_add]
    exact Nat.mod_eq_of_lt h
  rw [nextTransaction, if_neg, hnext]
  intro h0
  rw [h0] at hnext
  cases hnext

theorem Numbered.submit {d : Device} (h : d.Numbered) (request : Message) (timeout : Duration)
    (hroom : d.calls.length + 1 < 2 ^ 32) : (d.submit request timeout).Numbered := by
  have hnext := toNat_nextTransaction (h.last ▸ hroom)
  refine ⟨?_, ?_⟩
  · simp only [Device.submit, List.length_append, List.length_singleton]
    rw [hnext, h.last]
  · intro id c hc
    rcases submit_cases hc with hc | ⟨rfl, rfl⟩
    · exact h.call id c hc
    · rw [← h.last]
      exact hnext

theorem Numbered.step {d : Device} (h : d.Numbered) (hd : d.Coherent) (e : Event)
    (hroom : d.calls.length + submissions [e] < 2 ^ 32) :
    (d.step e).Numbered ∧ (d.step e).calls.length = d.calls.length + submissions [e] := by
  rcases Bool.eq_false_or_eq_true e.isSubmit with he | he
  · cases e with
    | submit request timeout =>
      exact ⟨h.submit request timeout hroom, by simp [Device.step, Device.submit, submissions, he]⟩
    | _ => cases he
  · obtain ⟨hlength, hlast⟩ := step_of_not_submit hd he
    have hnone : submissions [e] = 0 := by simp [submissions, he]
    refine ⟨⟨by rw [hlast, hlength, h.last], ?_⟩, by rw [hlength, hnone]; rfl⟩
    intro id c' hc'
    -- the call was there before, under the same ID
    obtain ⟨hid, -⟩ := List.getElem?_eq_some_iff.1 hc'
    rw [hlength] at hid
    obtain ⟨c'', hc'', hbecomes⟩ := becomes_step hd e (List.getElem?_eq_getElem hid)
    obtain rfl : c' = c'' := Option.some.inj (hc'.symm.trans hc'')
    rw [Call.transaction, hbecomes.request]
    exact h.call id _ (List.getElem?_eq_getElem hid)

theorem Numbered.run {d : Device} (h : d.Numbered) (hd : d.Coherent) (events : List Event)
    (hroom : d.calls.length + submissions events < 2 ^ 32) : (d.run events).Numbered := by
  induction events generalizing d with
  | nil => exact h
  | cons e events ih =>
    have hsplit : submissions (e :: events) = submissions [e] + submissions events := by
      simp only [submissions, List.countP_cons, List.countP_nil]
      omega
    obtain ⟨hstep, hlength⟩ := h.step hd e (by omega)
    exact ih hstep (hd.step e) (by omega)

/-! ## Reachable devices -/

def IsNew (d : Device) : Prop := ∃ name maxTransfer journal, d = new name maxTransfer journal

/-- The device can come about by some course of events. -/
def Reachable (d : Device) : Prop := ∃ start events, IsNew start ∧ d = start.run events

theorem IsNew.coherent {d : Device} (h : d.IsNew) : d.Coherent := by
  obtain ⟨name, maxTransfer, journal, rfl⟩ := h
  exact coherent_new name maxTransfer journal

theorem Reachable.coherent {d : Device} (h : d.Reachable) : d.Coherent := by
  obtain ⟨start, events, hstart, rfl⟩ := h
  exact hstart.coherent.run events

theorem IsNew.numbered_run {d : Device} (h : d.IsNew) {events : List Event} (few : submissions events < 2 ^ 32 - 1) :
    (d.run events).Numbered := by
  obtain ⟨name, maxTransfer, journal, rfl⟩ := h
  refine (numbered_new name maxTransfer journal).run (coherent_new name maxTransfer journal) events ?_
  simp only [new, List.length_nil]
  omega

theorem run_append (d : Device) (events events' : List Event) : d.run (events ++ events') = (d.run events).run events' :=
  List.foldl_append

end Device

end SimPhonebook
