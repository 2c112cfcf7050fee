import SimPhonebook.Device.Channel
import SimPhonebook.Proofs.Settling

/-!
# What a channel has been through

The user of a channel sees of its past what was asked and what came of it, call by call, what was printed, and who holds the
device (`View`). Each operation on a channel is described by what it does to the view. A request that is submitted and
waited for adds one exchange, with an outcome, whatever the modem does (`Shows.submit`, `Shows.await`): where the modem
brings none, the call is given up.
-/

namespace SimPhonebook

namespace Device

/-- What was asked and what came of it, call by call. -/
def exchanges (d : Device) : List (Body × Option Outcome) := d.calls.map fun c => (c.request.body, c.outcome?)

section
variable {d d' : Device}

theorem getElem?_exchanges {k : CallId} {c : Call} (hc : d.calls[k]? = some c) :
    d.exchanges[k]? = some (c.request.body, c.outcome?) := by
  rw [exchanges, List.getElem?_map, hc]
  rfl

theorem length_exchanges (d : Device) : d.exchanges.length = d.calls.length := List.length_map _

theorem Keeps.getElem?_exchanges (h : Keeps d d') {k : CallId} {x : Body × Option Outcome}
    (hx : d.exchanges[k]? = some x) :
    ∃ o, d'.exchanges[k]? = some (x.1, o) ∧ (x.2 ≠ none → o = x.2) := by
  rw [exchanges, List.getElem?_map] at hx
  obtain ⟨c, hc, rfl⟩ := Option.map_eq_some_iff.1 hx
  obtain ⟨c', hc', hbecomes⟩ := h.becomes k c hc
  refine ⟨c'.outcome?, ?_, fun ho => ?_⟩
  · rw [Device.getElem?_exchanges hc', hbecomes.request]
  · obtain ⟨o, ho⟩ := Option.ne_none_iff_exists'.1 ho
    rw [ho]
    exact hbecomes.outcome o ho

/-- Exchanges that have ended stay as they are. -/
theorem Keeps.exchanges_append (h : Keeps d d') {past rest : List (Body × Option Outcome)}
    (hd : d.exchanges = past ++ rest) (hpast : ∀ x ∈ past, x.2 ≠ none) :
    d'.exchanges = past ++ d'.exchanges.drop past.length := by
  refine List.ext_getElem? fun k => ?_
  by_cases hk : k < past.length
  · have hx : d.exchanges[k]? = some past[k] := by
      rw [hd, List.getElem?_append_left hk, List.getElem?_eq_getElem hk]
    obtain ⟨o, ho, hsame⟩ := h.getElem?_exchanges hx
    rw [ho, hsame (hpast _ (List.getElem_mem hk)), List.getElem?_append_left hk, List.getElem?_eq_getElem hk]
  · rw [List.getElem?_append_right (Nat.not_lt.1 hk), List.getElem?_drop, Nat.add_sub_cancel' (Nat.not_lt.1 hk)]

theorem Keeps.exchanges_eq (h : Keeps d d') (hd : ∀ x ∈ d.exchanges, x.2 ≠ none) : d'.exchanges = d.exchanges := by
  rw [h.exchanges_append (List.append_nil d.exchanges).symm hd, length_exchanges, ← h.length, ← length_exchanges,
    List.drop_length, List.append_nil]

/-- Only the last exchange was open. -/
theorem Keeps.exchanges_concat (h : Keeps d d') {past : List (Body × Option Outcome)} {x : Body × Option Outcome}
    (hd : d.exchanges = past ++ [x]) (hpast : ∀ x ∈ past, x.2 ≠ none) {c : Call}
    (hc : d'.calls[past.length]? = some c) : c.request.body = x.1 ∧ d'.exchanges = past ++ [(x.1, c.outcome?)] := by
  have hx : d.exchanges[past.length]? = some x := by rw [hd, List.getElem?_concat_length]
  obtain ⟨o, ho, -⟩ := h.getElem?_exchanges hx
  rw [Device.getElem?_exchanges hc] at ho
  have hbody : c.request.body = x.1 := congrArg Prod.fst (Option.some.inj ho)
  have hlength : d'.exchanges.length = past.length + 1 := by
    rw [length_exchanges, h.length, ← length_exchanges, hd, List.length_append]
    rfl
  refine ⟨hbody, ?_⟩
  rw [h.exchanges_append hd hpast, ← hbody]
  congr 1
  rw [List.drop_eq_getElem_cons (by omega), List.drop_eq_nil_of_le (by omega)]
  have hlast := Device.getElem?_exchanges hc
  rw [List.getElem?_eq_getElem (by omega)] at hlast
  rw [Option.some.inj hlast]

end

/-! ## How far the sending of a call has come -/

section
variable {d : Device} {id : CallId} {c : Call}

theorem sending_register (hc : d.calls[id]? = some c) (hs : c.sending = .unregistered) :
    ∃ c', (d.step (.register id)).calls[id]? = some c' ∧ (c'.sending = .due ∨ c'.sending = .over) := by
  simp only [step, register, hc, hs, ne_eq, not_true, if_false]
  split
  · exact ⟨_, getElem?_modify_self hc _, Or.inr rfl⟩
  split
  · exact ⟨_, getElem?_modify_self hc _, Or.inr rfl⟩
  · exact ⟨_, getElem?_modify_self hc _, Or.inl rfl⟩

theorem sending_transmit (hc : d.calls[id]? = some c) (hs : c.sending = .due ∨ c.sending = .over)
    (fault : Option WriteFault) :
    ∃ c', (d.step (.transmit id fault)).calls[id]? = some c' ∧ (c'.sending = .complete ∨ c'.sending = .over) := by
  simp only [step, transmit, hc]
  split
  · rename_i hdue
    exact ⟨c, hc, Or.inr (hs.resolve_left hdue)⟩
  have hover := getElem?_modify_self hc fun c => { c with sending := Sending.over }
  split
  · exact ⟨_, hover, Or.inr rfl⟩
  unfold transmitFrames
  split
  · obtain ⟨j, hj⟩ := foldl_send _ (d.modifyCall id fun c => { c with sending := .over })
    rw [hj]
    exact ⟨_, getElem?_modify_self hover _, Or.inl rfl⟩
  · obtain ⟨j, hj⟩ := foldl_send _ (d.modifyCall id fun c => { c with sending := .over })
    rw [hj]
    exact ⟨_, hover, Or.inr rfl⟩

theorem sending_giveUp (hc : d.calls[id]? = some c) (hs : c.sending = .complete) (reason : Call → CallError) :
    ∃ c', (d.giveUp id reason).calls[id]? = some c' ∧ c'.sending = .over := by
  simp only [giveUp, hc, hs, ne_eq, not_true, if_false]
  exact ⟨_, getElem?_modify_self hc _, rfl⟩

/-- The completions that an event starts leave the sending of a call as the event has left it. -/
theorem exists_sending_perform (hd : d.Sound) {e : Event} (he : e.isSubmit = false) {P : Sending → Prop}
    (h : ∃ c, (d.step e).calls[id]? = some c ∧ P c.sending) : ∃ c, (d.perform e).calls[id]? = some c ∧ P c.sending := by
  obtain ⟨c, hc, hs⟩ := h
  obtain ⟨hsettle, -⟩ := settle_waits (hd.step_of_not_submit he)
  obtain ⟨c', hc', -⟩ := hsettle.becomes id c hc
  refine ⟨c', hc', ?_⟩
  rw [hsettle.sending id c c' hc hc']
  exact hs

end

end Device

namespace Channel

open Device

/-! ## Waiting -/

variable {c : Channel}

theorem arrivals_wait (frames : List Octets) {d : Device} (hd : d.Quiet) :
    Waits d (frames.foldl (fun d f => d.perform (.arrive f)) d) ∧
      (frames.foldl (fun d f => d.perform (.arrive f)) d).Quiet := by
  induction frames generalizing d with
  | nil => exact ⟨.refl hd.sound, hd⟩
  | cons f frames ih =>
    obtain ⟨hwaits, hquiet⟩ := ih (hd.perform (e := .arrive f) rfl nofun)
    exact ⟨(waits_perform hd.sound rfl).trans hwaits, hquiet⟩

theorem receive_waits (hq : c.device.Quiet) (r : Reaction) :
    Waits c.device (c.receive r).device ∧ (c.receive r).device.Quiet := by
  unfold receive
  split
  · exact ⟨.refl hq.sound, hq⟩
  simp only
  obtain ⟨hwaits, hquiet⟩ := arrivals_wait (Stream.frames (c.unread ++ r.chunks.flatten) r.ending).1 hq
  split
  · exact ⟨hwaits, hquiet⟩
  · rename_i e rest _
    have hlose := waits_perform hquiet.sound (e := .lose e) rfl
    have habandon := waits_perform hlose.sound (e := .abandon) rfl
    exact ⟨hwaits.trans (hlose.trans habandon), hquiet.lose_abandon e⟩

theorem exchange_waits (hq : c.device.Quiet) (id : CallId) :
    Waits c.device (c.exchange id).device ∧ (c.exchange id).device.Quiet := by
  unfold exchange
  split
  · exact ⟨.refl hq.sound, hq⟩
  · rename_i call _
    obtain ⟨reaction, modem⟩ := c.modem.react ((call.request.fragments c.device.maxTransfer).toOption.getD [])
    exact receive_waits (c := { c with modem := modem, asked := c.asked ++ [id] }) hq reaction

/-- The call has its outcome, or its request is written, so that waiting for it will end. -/
def Attends (c : Channel) (id : CallId) : Prop :=
  ∃ call, c.call? id = some call ∧ (call.sending = .complete ∨ call.outcome? ≠ none)

theorem awaits_iff {id : CallId} {call : Call} (hcall : c.call? id = some call) :
    c.awaits id = true ↔ call.sending = .complete ∧ call.outcome? = none := by
  simp [awaits, hcall, Promise.isResolved, Call.outcome?]

theorem Attends.waits {c' : Channel} {id : CallId} (h : c.Attends id) (hwaits : Waits c.device c'.device) :
    c'.Attends id := by
  obtain ⟨call, hcall, hdone⟩ := h
  obtain ⟨call', hcall', hbecomes⟩ := hwaits.becomes id call hcall
  refine ⟨call', hcall', ?_⟩
  rcases hdone with hs | ho
  · exact Or.inl ((hwaits.sending id call call' hcall hcall').trans hs)
  · obtain ⟨o, ho⟩ := Option.ne_none_iff_exists'.1 ho
    exact Or.inr (by rw [hbecomes.outcome o ho]; nofun)

/-- What one operation of the user leaves, where it ends with the outcome of a call. -/
structure Ends (c c' : Channel) (id : CallId) : Prop where
  quiet : c'.device.Quiet
  keeps : Keeps c.device c'.device
  closing : c'.device.closing = c.device.closing
  outcome : ∃ call, c'.call? id = some call ∧ call.outcome? ≠ none

/-- A call whose waiting is ended is over, and so has its outcome once the device is quiet. -/
theorem ends_of_over (hq : c.device.Quiet) {id : CallId} {e : Event} (hsubmit : e.isSubmit = false)
    (hlose : ∀ reason, e ≠ .lose reason) (hclosing : e.isClosing = false)
    (hover : ∃ call, (c.device.step e).calls[id]? = some call ∧ call.sending = .over) : Ends c (c.perform e) id := by
  have hquiet := hq.perform hsubmit hlose
  obtain ⟨call, hcall, hs⟩ := exists_sending_perform (P := (· = .over)) hq.sound hsubmit hover
  exact ⟨hquiet, keeps_perform hq.sound hsubmit, closing_perform hq.sound hsubmit hclosing,
    call, hcall, hquiet.outcome?_of_over hcall hs⟩

theorem giveUp_ends (hq : c.device.Quiet) {id : CallId} {call : Call} (hcall : c.call? id = some call)
    (hs : call.sending = .complete) (cancelled : Bool) : Ends c (c.giveUp id cancelled) id := by
  cases cancelled with
  | true => exact ends_of_over hq rfl nofun rfl (sending_giveUp hcall hs _)
  | false => exact ends_of_over hq rfl nofun rfl (sending_giveUp hcall hs _)

/-- Waiting for a call ends with its outcome: if the reaction of the modem does not bring it, the call is given up. -/
theorem await_ends (hq : c.device.Quiet) {id : CallId} (hattends : c.Attends id) (cancelled : Bool) :
    Ends c (c.await id cancelled).1 id ∧
      ((c.await id cancelled).1.call? id).bind Call.outcome? = some (c.await id cancelled).2 := by
  obtain ⟨c₁, hc₁, hwaits, hq₁, call, hcall, hdone⟩ : ∃ c₁, (if c.awaits id then c.exchange id else c) = c₁ ∧
      Waits c.device c₁.device ∧ c₁.device.Quiet ∧ c₁.Attends id := by
    split
    · obtain ⟨hwaits, hq₁⟩ := exchange_waits hq id
      exact ⟨_, rfl, hwaits, hq₁, hattends.waits hwaits⟩
    · exact ⟨c, rfl, .refl hq.sound, hq, hattends⟩
  -- What still waits now is given up, and what does not has its outcome.
  obtain ⟨c₂, hc₂, hends⟩ : ∃ c₂, (if c₁.awaits id then c₁.giveUp id cancelled else c₁) = c₂ ∧ Ends c₁ c₂ id := by
    by_cases hopen : c₁.awaits id = true
    · exact ⟨_, if_pos hopen, giveUp_ends hq₁ hcall ((awaits_iff hcall).1 hopen).1 cancelled⟩
    · refine ⟨c₁, if_neg hopen, hq₁, .refl _, rfl, call, hcall, ?_⟩
      rcases hdone with hs | ho
      · exact fun ho => hopen ((awaits_iff hcall).2 ⟨hs, ho⟩)
      · exact ho
  obtain ⟨call, hcall, ho⟩ := hends.outcome
  obtain ⟨o, ho⟩ := Option.ne_none_iff_exists'.1 ho
  have hresult : (c₂.call? id).bind Call.outcome? = some o := by rw [hcall, Option.bind_some, ho]
  have hawait : c.await id cancelled = (c₂, o) := by simp only [await, hc₁, hc₂, hresult]
  rw [hawait]
  exact ⟨⟨hends.quiet, hwaits.toKeeps.trans hends.keeps, hends.closing.trans hwaits.closing, hends.outcome⟩, hresult⟩

/-! ## Submitting -/

/-- A new call is refused, or written, or could not be written. -/
theorem register_transmit {d : Device} (hq : d.Quiet) (id : CallId) {call : Call} (hcall : d.calls[id]? = some call)
    (hs : call.sending = .unregistered) (fault : Option WriteFault) :
    ((d.perform (.register id)).perform (.transmit id fault)).Quiet ∧
    Keeps d ((d.perform (.register id)).perform (.transmit id fault)) ∧
    ((d.perform (.register id)).perform (.transmit id fault)).closing = d.closing ∧
    ∃ call', ((d.perform (.register id)).perform (.transmit id fault)).calls[id]? = some call' ∧
      (call'.sending = .complete ∨ call'.outcome? ≠ none) := by
  have hq₁ := hq.perform (e := .register id) rfl nofun
  have hq₂ := hq₁.perform (e := .transmit id fault) rfl nofun
  refine ⟨hq₂, (keeps_perform hq.sound rfl).trans (keeps_perform hq₁.sound rfl), ?_, ?_⟩
  · rw [closing_perform hq₁.sound rfl rfl, closing_perform hq.sound rfl rfl]
  · obtain ⟨call₁, hcall₁, hs₁⟩ := exists_sending_perform (P := fun s => s = .due ∨ s = .over) hq.sound rfl
      (sending_register hcall hs)
    obtain ⟨call₂, hcall₂, hs₂⟩ := exists_sending_perform (P := fun s => s = .complete ∨ s = .over) hq₁.sound rfl
      (sending_transmit hcall₁ hs₁ fault)
    refine ⟨call₂, hcall₂, ?_⟩
    rcases hs₂ with hs₂ | hs₂
    · exact Or.inl hs₂
    · exact Or.inr (hq₂.outcome?_of_over hcall₂ hs₂)

/-- A request that is submitted becomes the last call. -/
theorem submit_attends (hq : c.device.Quiet) (hroom : c.device.calls.length + 1 < 2 ^ 32) (request : Message)
    (timeout : Duration) :
    (c.submit request timeout).2 = c.device.calls.length ∧
    (c.submit request timeout).1.device.Quiet ∧
    Keeps (c.device.submit request timeout) (c.submit request timeout).1.device ∧
    (c.submit request timeout).1.device.closing = c.device.closing ∧
    (c.submit request timeout).1.Attends c.device.calls.length := by
  have hsubmit : c.device.perform (.submit request timeout) = c.device.submit request timeout :=
    settle_of_finishing_eq_nil hq.settled
  have hq₁ : (c.device.submit request timeout).Quiet :=
    ⟨hq.sound.step (.submit request timeout) hroom, hq.settled, hq.reader⟩
  obtain ⟨hq₂, hkeeps, hclosing, hcall⟩ :=
    register_transmit hq₁ c.device.calls.length List.getElem?_concat_length rfl c.writeFault
  simp only [submit, hsubmit]
  exact ⟨trivial, hq₂, hkeeps, hclosing, hcall⟩

/-! ## Views -/

/-- What the user of a channel sees of its past. -/
structure View where
  exchanges : List (Body × Option Outcome)
  prints : List Text
  holds : Holds

/-- Everything that was asked has an outcome. -/
def View.Resolved (v : View) : Prop := ∀ x ∈ v.exchanges, x.2 ≠ none

/-- The view of a channel that is open and between two operations. -/
structure Shows (c : Channel) (v : View) : Prop where
  quiet : c.device.Quiet
  isOpen : c.device.closing = .notBegun
  maxTransfer : c.device.maxTransfer = Device.defaultMaxTransfer
  exchanges : c.device.exchanges = v.exchanges
  prints : c.device.journal.prints = v.prints
  holds : c.device.holds = v.holds

variable {v : View}

theorem Shows.write (h : c.Shows v) (n : Note) :
    (c.write n).Shows { v with prints := v.prints ++ n.text?.toList } where
  quiet := h.quiet.congr rfl rfl rfl rfl rfl rfl
  isOpen := h.isOpen
  maxTransfer := h.maxTransfer
  exchanges := h.exchanges
  prints := by
    rw [← h.prints]
    cases n <;> simp [Channel.write, Journal.prints, Note.text?]
  holds := h.holds

theorem Shows.note (h : c.Shows v) (text : Text) (attributes : List (Text × Log.Value)) :
    (c.note text attributes).Shows v where
  quiet := h.quiet.congr rfl rfl rfl rfl rfl rfl
  isOpen := h.isOpen
  maxTransfer := h.maxTransfer
  exchanges := h.exchanges
  prints := (prints_note ..).trans h.prints
  holds := h.holds

theorem Shows.hold (h : c.Shows v) : c.hold.1.Shows { v with holds := v.holds.take.1 } ∧ c.hold.2 = v.holds.take.2 := by
  rw [← h.holds]
  exact ⟨⟨h.quiet.congr rfl rfl rfl rfl rfl rfl, h.isOpen, h.maxTransfer, h.exchanges, h.prints, rfl⟩, rfl⟩

theorem Shows.release (h : c.Shows v) (id : HoldId) : (c.release id).Shows { v with holds := v.holds.release id } := by
  rw [← h.holds]
  exact ⟨h.quiet.congr rfl rfl rfl rfl rfl rfl, h.isOpen, h.maxTransfer, h.exchanges, h.prints, rfl⟩

/-- Submitting a request adds an exchange. -/
theorem Shows.submit (h : c.Shows v) (hres : v.Resolved) (hroom : v.exchanges.length + 1 < 2 ^ 32) (request : Message)
    (timeout : Duration) :
    (c.submit request timeout).2 = v.exchanges.length ∧ (c.submit request timeout).1.Attends v.exchanges.length ∧
    ∃ o, (c.submit request timeout).1.Shows { v with exchanges := v.exchanges ++ [(request.body, o)] } := by
  have hlength : c.device.calls.length = v.exchanges.length := by rw [← length_exchanges, h.exchanges]
  obtain ⟨hid, hquiet, hkeeps, hclosing, hattends⟩ := submit_attends h.quiet (by rw [hlength]; exact hroom) request timeout
  rw [hlength] at hid hattends
  have hsubmitted : (c.device.submit request timeout).exchanges = v.exchanges ++ [(request.body, none)] := by
    rw [← h.exchanges]
    simp [Device.exchanges, Device.submit, Call.outcome?, Promise.unresolved]
  refine ⟨hid, hattends, ?_⟩
  obtain ⟨call, hcall, -⟩ := hattends
  refine ⟨call.outcome?, hquiet, hclosing.trans h.isOpen, hkeeps.maxTransfer.trans h.maxTransfer, ?_,
    hkeeps.prints.trans h.prints, hkeeps.holds.trans h.holds⟩
  exact (hkeeps.exchanges_concat hsubmitted hres hcall).2

/-- Waiting for the last exchange ends it. An answer is of the type that the request asks for. -/
theorem Shows.await {past : List (Body × Option Outcome)} {b : Body} {o : Option Outcome}
    (h : c.Shows { v with exchanges := past ++ [(b, o)] }) (hpast : ∀ x ∈ past, x.2 ≠ none)
    (hattends : c.Attends past.length) (cancelled : Bool) :
    (c.await past.length cancelled).1.Shows
      { v with exchanges := past ++ [(b, some (c.await past.length cancelled).2)] } ∧
    ∀ m, (c.await past.length cancelled).2 = .ok m → m.type = b.type.answer := by
  obtain ⟨hends, hresult⟩ := await_ends h.quiet hattends cancelled
  obtain ⟨call, hcall, ho⟩ := Option.bind_eq_some_iff.1 hresult
  obtain ⟨hbody, hexchanges⟩ := hends.keeps.exchanges_concat h.exchanges hpast hcall
  refine ⟨⟨hends.quiet, hends.closing.trans h.isOpen, hends.keeps.maxTransfer.trans h.maxTransfer, ?_,
    hends.keeps.prints.trans h.prints, hends.keeps.holds.trans h.holds⟩, fun m hm => ?_⟩
  · rw [hexchanges, ho]
  · have hbody : call.request.body = b := hbody
    rw [hm] at ho
    rw [← hbody]
    exact hends.quiet.sound.answered _ _ m hcall ho

theorem Shows.command (h : c.Shows v) (hres : v.Resolved) (hroom : v.exchanges.length + 1 < 2 ^ 32) (request : Message)
    (timeout : Duration) (cancelled : Bool) :
    (c.command request timeout cancelled).1.Shows
      { v with exchanges := v.exchanges ++ [(request.body, some (c.command request timeout cancelled).2)] } ∧
    ∀ m, (c.command request timeout cancelled).2 = .ok m → m.type = request.type.answer := by
  obtain ⟨hid, hattends, o, hshows⟩ := h.submit hres hroom request timeout
  have hcommand : c.command request timeout cancelled =
      (c.submit request timeout).1.await v.exchanges.length cancelled := by rw [← hid]; rfl
  rw [hcommand]
  exact hshows.await hres hattends cancelled

/-! ## From the first moment to the last -/

theorem shows_connected (name : Text) (journal : Journal) (modem : Modem) :
    (connected (Device.new name Device.defaultMaxTransfer journal) modem).Shows ⟨[], journal.prints, .none⟩ := by
  have hquiet : (new (Device.new name Device.defaultMaxTransfer journal) modem).device.Quiet :=
    ⟨sound_new name _ journal, rfl, nofun⟩
  have hempty : (new (Device.new name Device.defaultMaxTransfer journal) modem).device.exchanges = [] := rfl
  obtain ⟨hwaits, hquiet'⟩ := receive_waits hquiet modem.greeting
  rw [connected]
  refine ⟨hquiet', hwaits.closing, hwaits.maxTransfer, ?_, hwaits.prints, hwaits.holds⟩
  rw [hwaits.exchanges_eq (by simp [hempty]), hempty]

section
variable {d : Device}

theorem closing_announceClose (hd : d.Sound) (h : d.closing = .notBegun) :
    (d.perform .announceClose).closing = .announced := by
  rw [(stage_perform hd rfl).1]
  simp only [step, announceClose, h, ne_eq, not_true, if_false]
  split
  · rfl
  · rfl

theorem closing_closeStream (hd : d.Sound) (h : d.closing = .announced) :
    (d.perform .closeStream).closing = .streamClosed := by
  rw [(stage_perform hd rfl).1]
  simp only [step, closeStream, h, if_true]

/-- The reader of a device that is being closed stops when it loses its stream. -/
theorem reader_lose (hd : d.Quiet) (h : d.isClosed = true) (e : Stream.Error) : (d.perform (.lose e)).reader = .stopped := by
  rw [(stage_perform hd.sound rfl).2.1]
  simp only [step, lose, h]
  cases hr : d.reader with
  | running => rfl
  | failing => exact absurd hr hd.reader
  | stopped => simp [hr]

theorem closing_completeClose (hd : d.Sound) (h : d.closing = .streamClosed) (hr : d.reader = .stopped) :
    (d.perform .completeClose).closing = .complete := by
  rw [(stage_perform hd rfl).1]
  simp only [step, completeClose, h, hr, and_self, if_true]
  rfl

/-- Closing comes to its end, since the reader stops as soon as the stream is closed. -/
theorem close_complete (hq : d.Quiet) (hopen : d.closing = .notBegun) :
    let d' := (((d.perform .announceClose).perform .closeStream).perform (.lose (.stopped .ended))).perform .completeClose
    Keeps d d' ∧ d'.Sound ∧ d'.closing = .complete := by
  have hq₁ := hq.perform (e := .announceClose) rfl (by simp)
  have hclosing₁ := closing_announceClose hq.sound hopen
  have hkeeps₁ := keeps_perform hq.sound (e := .announceClose) rfl
  generalize d.perform .announceClose = d₁ at *
  have hq₂ := hq₁.perform (e := .closeStream) rfl (by simp)
  have hclosing₂ := closing_closeStream hq₁.sound hclosing₁
  have hkeeps₂ := keeps_perform hq₁.sound (e := .closeStream) rfl
  generalize d₁.perform .closeStream = d₂ at *
  have hsound₃ := hq₂.sound.perform (e := .lose (.stopped .ended)) rfl
  have hclosing₃ := (closing_perform hq₂.sound (e := .lose (.stopped .ended)) rfl rfl).trans hclosing₂
  have hreader₃ := reader_lose hq₂ (by simp [isClosed, hclosing₂]) (.stopped .ended)
  have hkeeps₃ := keeps_perform hq₂.sound (e := .lose (.stopped .ended)) rfl
  generalize d₂.perform (.lose (.stopped .ended)) = d₃ at *
  exact ⟨hkeeps₁.trans (hkeeps₂.trans (hkeeps₃.trans (keeps_perform hsound₃ rfl))), hsound₃.perform rfl,
    closing_completeClose hsound₃ hclosing₃ hreader₃⟩

end

/-- What is left when the device has been closed. -/
theorem Shows.close (h : c.Shows v) (hres : v.Resolved) :
    c.close.1.device.closing = .complete ∧ c.close.1.device.Numbered ∧ c.close.1.device.exchanges = v.exchanges ∧
    c.close.1.device.journal.prints = v.prints ∧ c.close.1.device.holds = v.holds := by
  have hopen : c.device.isClosed = false := by simp [isClosed, h.isOpen]
  obtain ⟨hkeeps, hsound, hcomplete⟩ := close_complete h.quiet h.isOpen
  have hclose : c.close.1.device = (((c.device.perform .announceClose).perform .closeStream).perform
      (.lose (.stopped .ended))).perform .completeClose := by
    simp only [Channel.close, hopen, Bool.false_eq_true, if_false, Channel.perform]
  rw [hclose]
  refine ⟨hcomplete, hsound.numbered, ?_, hkeeps.prints.trans h.prints, hkeeps.holds.trans h.holds⟩
  rw [hkeeps.exchanges_eq (by rw [h.exchanges]; exact hres), h.exchanges]

end Channel

end SimPhonebook
