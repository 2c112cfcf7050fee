import SimPhonebook.Proofs.Selection
import SimPhonebook.Proofs.ServedAction

/-!
# The course of a run

A run follows a plan (`FollowsPlan`): the command line and the settings under it (`CommandLine.Configures`) say whether a
device is opened. On an open device they and the answer to the request to open a session fix which requests are submitted,
and in which order. The run succeeds exactly if the command has an answer that its action is done with.
-/

namespace SimPhonebook

open Device Channel

/-! ## The plan -/

/-- The messages are numbered from one on. -/
def numbered (bodies : List Body) : List Message := bodies.mapIdx fun i b => ⟨UInt32.ofNat (i + 1), b⟩

namespace Device

theorem Numbered.requests_eq {d : Device} (h : d.Numbered) :
    d.calls.map (·.request) = numbered (d.exchanges.map Prod.fst) := by
  refine List.ext_getElem? fun i => ?_
  simp only [numbered, exchanges, List.getElem?_map, List.getElem?_mapIdx]
  cases hc : d.calls[i]? with
  | none => rfl
  | some c =>
    have htransaction : c.request.transaction = UInt32.ofNat (i + 1) := by
      rw [← h.call i c hc, UInt32.ofNat_toNat]
      rfl
    simp only [Option.map_some, ← htransaction]

theorem any_calls (d : Device) :
    (d.calls.any fun c => opensSession c.request.body c.outcome?) = d.exchanges.any fun x => opensSession x.1 x.2 := by
  rw [exchanges, List.any_map]
  rfl

theorem exists_call_iff (d : Device) (P : Body → Option Outcome → Prop) :
    (∃ c ∈ d.calls, P c.request.body c.outcome?) ↔ ∃ x ∈ d.exchanges, P x.1 x.2 := by
  simp [exchanges]

end Device

namespace RunResult

/-- The calls made in the run, in order. -/
def calls (r : RunResult) : List Call := r.channel.elim [] fun c => c.device.calls

/-- A session was opened. -/
def opened (r : RunResult) : Bool := r.calls.any fun c => opensSession c.request.body c.outcome?

theorem status_eq_zero (r : RunResult) : r.status = 0 ↔ r.success = true := by
  unfold status
  cases r.success <;> simp

theorem status_eq_one (r : RunResult) : r.status = 1 ↔ r.success = false := by
  unfold status
  cases r.success <;> simp

end RunResult

section
open Phonebook (Action)

/-- What is asked in a run on an open device. The command is asked if its input fits. -/
def plannedBodies (s : Settings) (a : Action) (command : Body) (opened : Bool) : List Body :=
  (if s.noOpen then [] else [.openRequest 4096]) ++
  if s.noOpen || opened then (if a.inputFits then [command] else []) ++ if s.noClose then [] else [.closeRequest]
  else []

/-- What a run does and leaves. -/
structure FollowsPlan (line : CommandLine) (w : Surroundings) (r : RunResult) : Prop where
  /-- A device is opened exactly if one action is asked for and the settings load. -/
  device : ∀ path, r.device = some path ↔
    line.options.wished = 1 ∧ ∃ s, line.Configures w.environment w.read s ∧ s.device = path
  channel : r.channel.isSome = true ↔ ∃ path modem, r.device = some path ∧ w.connect path = .ok modem
  requests : ∀ a s, line.options.AsksOnly a → line.Configures w.environment w.read s → r.channel.isSome = true →
    ∃ m, (a.inputFits = true → Phonebook.Asks a m) ∧
      r.calls.map (·.request) = numbered (plannedBodies s a m.body r.opened)
  zero_or_one : r.status = 0 ∨ r.status = 1
  /-- The run succeeds exactly if the command was asked and has an answer that its action is done with. -/
  status : r.status = 0 ↔ ∃ a, line.options.AsksOnly a ∧ ∃ c ∈ r.calls, c.request.type = .command ∧
    ∃ m, c.outcome? = some (.ok m) ∧ a.accepts m = true
  stdout : r.stdout ≠ Text.empty ↔ r.status = 0
  stderr : r.status = 1 → ∀ shown, HasErrorLine w.color (r.journal.errorStream shown)
  closed : ∀ c, r.channel = some c → c.device.closing = .complete ∧ c.device.holds.holders = 0

variable {s : Settings} {a : Action} {command : Body} {o₁ o₂ o₃ : Outcome}

-- Where the session is not opened nothing else is asked, so no other exchange can pass for one that opens it.
theorem opens_course (hno : s.noOpen = false) :
    (course s a command o₁ o₂ o₃).any (fun x => opensSession x.1 x.2) = opensSession (.openRequest 4096) (some o₁) := by
  cases hopens : opensSession (.openRequest 4096) (some o₁) with
  | false => simp [course, ready, hno, hopens]
  | true => simp [course, ready, hno, hopens]

theorem bodies_course :
    (course s a command o₁ o₂ o₃).map Prod.fst =
      plannedBodies s a command ((course s a command o₁ o₂ o₃).any fun x => opensSession x.1 x.2) := by
  cases hno : s.noOpen with
  | false =>
    rw [opens_course hno]
    unfold course ready plannedBodies
    simp only [List.map_append, apply_ite (List.map Prod.fst)]
    rfl
  | true =>
    -- The plan does not look at whether a session was opened.
    have hready : ready s o₁ = true := by rw [ready, hno, Bool.true_or]
    simp only [course, plannedBodies, hready, hno, Bool.true_or, if_true, List.map_append, apply_ite (List.map Prod.fst)]
    rfl

theorem exists_command_mem_course (h : a.inputFits = true → command.type = .command) :
    (∃ x ∈ course s a command o₁ o₂ o₃, x.1.type = .command ∧ ∃ m, x.2 = some (.ok m) ∧ a.accepts m = true) ↔
      Succeeds s a o₁ o₂ := by
  constructor
  · rintro ⟨⟨b, _⟩, hmem, htype, m, rfl, hm⟩
    simp only [course, List.mem_append, List.mem_ite_nil_left, List.mem_ite_nil_right, List.mem_singleton] at hmem
    rcases hmem with ⟨-, ⟨⟩⟩ | ⟨hready, ⟨hfits, ⟨⟩⟩ | ⟨-, ⟨⟩⟩⟩
    · cases htype
    · exact ⟨hready, hfits, m, rfl, hm⟩
    · cases htype
  · rintro ⟨hready, hfits, m, rfl, hm⟩
    refine ⟨(command, some (.ok m)), ?_, h hfits, m, rfl, hm⟩
    simp [course, hready, hfits]

variable {line : CommandLine} {w : Surroundings}

theorem Phonebook.Asks.type {m : Message} (h : Asks a m) : m.body.type = .command := by
  obtain ⟨_, _, _, _, _, rfl, _⟩ := h
  rfl

/-- A run that fails before it has a channel. -/
theorem followsPlan_of_channel_eq_none {r : RunResult} (hfailed : r.success = false) (hchannel : r.channel = none)
    (hstdout : r.stdout = Text.empty) (hlines : ErrorLines w.color r.journal.prints) (hprints : r.journal.prints ≠ [])
    (hdevice : ∀ path, r.device = some path ↔
      line.options.wished = 1 ∧ ∃ s, line.Configures w.environment w.read s ∧ s.device = path)
    (hconnect : ∀ path modem, r.device = some path → w.connect path ≠ .ok modem) : FollowsPlan line w r := by
  have hcalls : r.calls = [] := by rw [RunResult.calls, hchannel, Option.elim_none]
  refine ⟨hdevice, ?_, ?_, Or.inr (r.status_eq_one.2 hfailed), ?_, ?_, ?_, ?_⟩
  · rw [hchannel]
    constructor
    · nofun
    · rintro ⟨path, modem, hpath, hmodem⟩
      exact absurd hmodem (hconnect path modem hpath)
  · intro a s _ _ hsome
    rw [hchannel] at hsome
    cases hsome
  · rw [r.status_eq_zero, hfailed, hcalls]
    simp
  · rw [r.status_eq_zero, hfailed, hstdout]
    simp
  · intro _
    exact hasErrorLine_errorStream hlines hprints
  · intro c hc
    cases hchannel.symm.trans hc

theorem followsPlan_early {t : Text} (ht : IsErrorLine w.color t)
    (h : ∀ s, line.options.wished = 1 → ¬line.Configures w.environment w.read s) :
    FollowsPlan line w (.early (.printed t)) := by
  refine followsPlan_of_channel_eq_none rfl rfl rfl (errorLines_singleton ht) nofun (fun path => ?_) nofun
  constructor
  · nofun
  · rintro ⟨hone, s, hs, -⟩
    exact absurd hs (h s hone)

/-- What a run leaves that had a channel. The requests end as `o₁`, `o₂` and `o₃` say. -/
structure Completes (s : Settings) (a : Action) (color : Bool) (command : Body) (o₁ o₂ o₃ : Outcome) (r : RunResult)
    (c : Channel) : Prop where
  device : r.device = some s.device
  channel : r.channel = some c
  closing : c.device.closing = .complete
  holders : c.device.holds.holders = 0
  numbered : c.device.Numbered
  exchanges : c.device.exchanges = course s a command o₁ o₂ o₃
  errors : ErrorLines color r.journal.prints
  failed : r.success = false → r.journal.prints ≠ []
  stdout : r.stdout ≠ Text.empty ↔ r.success = true
  success : r.success = true ↔ Succeeds s a o₁ o₂

theorem Completes.calls {color : Bool} {r : RunResult} {c : Channel} (h : Completes s a color command o₁ o₂ o₃ r c) :
    r.calls = c.device.calls := by
  rw [RunResult.calls, h.channel, Option.elim_some]

theorem Completes.success_iff {color : Bool} {r : RunResult} {c : Channel}
    (h : Completes s a color command o₁ o₂ o₃ r c) (hcommand : a.inputFits = true → command.type = .command) :
    r.success = true ↔ ∃ call ∈ r.calls, call.request.type = .command ∧
      ∃ m, call.outcome? = some (.ok m) ∧ a.accepts m = true := by
  rw [h.success, h.calls, ← exists_command_mem_course hcommand, ← h.exchanges]
  exact (exists_call_iff c.device fun b o => b.type = .command ∧ ∃ m, o = some (.ok m) ∧ a.accepts m = true).symm

/-- Once it is connected, a run serves its action and then closes the device. -/
theorem run_completes {op : Phonebook.Operation} (hop : a.operation? = some op) {modem : Modem}
    (hmodem : w.connect s.device = .ok modem) :
    ∃ (request : Message) (o₁ o₂ o₃ : Outcome) (c : Channel), (a.inputFits = true → Phonebook.Asks a request) ∧
      Completes s a w.color request.body o₁ o₂ o₃ (s.run w a) c := by
  have hfresh := shows_connected s.device [settingsNote s] modem
  generalize hstart : connected (Device.new s.device defaultMaxTransfer [settingsNote s]) modem = start at hfresh
  have hshows : Shows { start with writeFault := w.writeFault } ⟨[], [], .none⟩ :=
    ⟨hfresh.quiet, hfresh.isOpen, hfresh.maxTransfer, hfresh.exchanges, hfresh.prints, hfresh.holds⟩
  obtain ⟨request, o₁, o₂, o₃, lines, hasks, hserves⟩ := serve_serves (w := w) hshows s hop
  generalize hserve : serve { start with writeFault := w.writeFault } w s a = served at hserves
  obtain ⟨c, success, stdout⟩ := served
  have hrun : s.run w a = ⟨success, stdout, c.close.1.device.journal, s.verbose, some s.device, some c.close.1⟩ := by
    simp only [Settings.run, hmodem, hstart, hserve]
  obtain ⟨holds, hholds, hserved⟩ := hserves.shows
  obtain ⟨hclosing, hnumbered, hexchanges, hprints, hheld⟩ := hserved.close course_resolved
  rw [hrun]
  refine ⟨request, o₁, o₂, o₃, c.close.1, hasks, rfl, rfl, hclosing, ?_, hnumbered, hexchanges, ?_, ?_, hserves.stdout,
    hserves.success⟩
  · rw [hheld]
    exact hholds
  · rw [hprints]
    exact hserves.errors
  · rw [hprints]
    exact hserves.failed

section
variable (hline : line.options.AsksOnly a) (hs : line.Configures w.environment w.read s)
include hline hs

theorem device_iff (path : Text) : some s.device = some path ↔
    line.options.wished = 1 ∧ ∃ s, line.Configures w.environment w.read s ∧ s.device = path := by
  constructor
  · rintro ⟨⟩
    exact ⟨hline.1, s, hs, rfl⟩
  · rintro ⟨-, s', hs', rfl⟩
    rw [hs.unique hs']

theorem followsPlan_of_connect_error {e : ConnectError} (he : w.connect s.device = .error e) :
    FollowsPlan line w (s.run w a) := by
  have hrun : s.run w a = ⟨false, Text.empty,
      [settingsNote s, errorNote ("couldn't open the MBIM device: " ++ message e)], s.verbose, some s.device, none⟩ := by
    simp only [Settings.run, he]
  rw [hrun]
  refine followsPlan_of_channel_eq_none rfl rfl rfl (errorLines_singleton (isErrorLine_errorNote _ _)) nofun
    (device_iff hline hs) ?_
  rintro _ modem ⟨⟩ hmodem
  cases he.symm.trans hmodem

theorem followsPlan_of_completes {r : RunResult} {c : Channel} {request : Message} {modem : Modem}
    (hmodem : w.connect s.device = .ok modem) (hasks : a.inputFits = true → Phonebook.Asks a request)
    (h : Completes s a w.color request.body o₁ o₂ o₃ r c) : FollowsPlan line w r := by
  refine ⟨?_, ?_, ?_, ?_, ?_, ?_, ?_, ?_⟩
  · rw [h.device]
    exact device_iff hline hs
  · simp [h.channel, h.device, hmodem]
  · intro a' s' hline' hs' _
    cases hline.unique hline'
    cases hs.unique hs'
    refine ⟨request, hasks, ?_⟩
    rw [RunResult.opened, h.calls, h.numbered.requests_eq, any_calls, h.exchanges, bodies_course]
  · rw [r.status_eq_zero, r.status_eq_one]
    exact (Bool.eq_false_or_eq_true r.success)
  · rw [r.status_eq_zero, h.success_iff fun hfits => (hasks hfits).type]
    constructor
    · intro hcall
      exact ⟨a, hline, hcall⟩
    · rintro ⟨a', hline', hcall⟩
      cases hline.unique hline'
      exact hcall
  · rw [r.status_eq_zero]
    exact h.stdout
  · rw [r.status_eq_one]
    intro hfailed
    exact hasErrorLine_errorStream h.errors (h.failed hfailed)
  · intro c' hc'
    cases h.channel.symm.trans hc'
    exact ⟨h.closing, h.holders⟩

end

theorem Phonebook.Options.AsksOnly.exists_operation {o : Phonebook.Options} (h : o.AsksOnly a) :
    ∃ op, a.operation? = some op := by
  obtain ⟨-, w, hw, -, rfl⟩ := h
  simp only [wishes, List.mem_cons, List.not_mem_nil, or_false] at hw
  rcases hw with rfl | rfl | rfl | rfl | rfl | rfl | rfl <;> exact ⟨_, rfl⟩

theorem isErrorLine_tooManyLine (color : Bool) : IsErrorLine color Phonebook.tooManyLine :=
  ⟨Text.empty, "too many phonebook actions requested", Or.inl rfl, by decide⟩

/-- **Every run follows its plan**, whatever is on the command line and in the settings, and however the modem behaves. -/
theorem CommandLine.run_followsPlan (line : CommandLine) (w : Surroundings) : FollowsPlan line w (line.run w) := by
  unfold run
  by_cases hseveral : 1 < line.options.wished
  · rw [Phonebook.Selector.enabled_of_several hseveral]
    exact followsPlan_early (isErrorLine_tooManyLine _) fun s hone => by omega
  by_cases hnothing : line.options.wished = 0
  · rw [Phonebook.Selector.enabled_of_nothing hnothing]
    exact followsPlan_early (isErrorLine_errorNote _ _) fun s hone => by omega
  have hone : line.options.wished = 1 := by omega
  have hline := Phonebook.Options.asksOnly_action hone
  rw [Phonebook.Selector.enabled_of_one hone]
  cases hs : line.settings w.environment w.read with
  | error e =>
    refine followsPlan_early (isErrorLine_errorNote _ _) fun s _ hconfigures => ?_
    cases hs.symm.trans (settings_eq_ok_iff.2 hconfigures)
  | ok s =>
    have hconfigures := settings_eq_ok_iff.1 hs
    obtain ⟨op, hop⟩ := hline.exists_operation
    simp only [Phonebook.Selector.action_settled hone]
    cases hmodem : w.connect s.device with
    | error e => exact followsPlan_of_connect_error hline hconfigures hmodem
    | ok modem =>
      obtain ⟨request, o₁, o₂, o₃, c, hasks, hcompletes⟩ := run_completes hop hmodem
      exact followsPlan_of_completes hline hconfigures hmodem hasks hcompletes

-- All entries are deleted, on a modem that speaks first and refuses to close the session.
example :
    let modem : Modem := .scripted [⟨[Message.encode ⟨1, .openDone ⟨0⟩⟩], none⟩,
      ⟨[Message.encode ⟨2, .commandDone .phonebookDelete ⟨0⟩ []⟩], none⟩, ⟨[Message.encode ⟨3, .closeDone ⟨1⟩⟩], none⟩]
      ⟨[Message.encode ⟨0, .indication ⟨.sms, 2⟩ []⟩], none⟩
    let line : CommandLine := ⟨"/dev/cdc-wdm0", Text.empty, false, false, false, true, { deleteAll := true }⟩
    let r := line.run ⟨⟨[], "/", none⟩, fun path => .error ⟨"open", path, .notFound⟩, fun _ => .ok modem, none, false,
      false, ⟨0⟩⟩
    let reason : Text := "failed to close MBIM session: device returned status busy"
    r.status = 0 ∧ r.calls.map (·.transaction) = [1, 2, 3] ∧
      r.journal.prints = ["error: couldn't close the MBIM session: " ++ reason ++ "\n"] := by
  decide +kernel

end

end SimPhonebook
