import SimPhonebook.Proofs.TransportUses
import SimPhonebook.Run

/-!
# Who holds a device

Users hold a device while they work, and a session holds it from its start until it is finalized. Any of them may release its
hold, and any session may be finalized, as often as it likes and in any order, while calls are made on the device and while
it is being closed (`Borrowing`). The device has one counter for all of them. It is the number of the holds whose release has
not been called yet (`Borrowing.holds_accounted`).

There are two steps from the calls to the counter. The device marks each hold once it is released, and the counter follows the
marks (`Holds.Counted`); the marks follow the calls, of which `Transport.recorded` keeps a record (`Borrowing.Accounts`). So
two guards meet: a session calls the release of its hold when it is finalized first, and of the calls of one release, whoever
makes them, the first one counts.
-/

namespace SimPhonebook

open Phonebook (Session Use)

/-! ## The counter and the marks -/

namespace Holds

/-- The counter is the number of the holds not marked as released, as far as 32 bits can tell. -/
def Counted (h : Holds) : Prop := h.holders = Int32.ofNat (h.released.count false)

theorem counted_none : none.Counted := rfl

theorem Counted.take {h : Holds} (hcounted : h.Counted) : h.take.1.Counted := by
  rw [Counted] at hcounted
  simp only [Counted, Holds.take, List.count_append, List.count_singleton_self, Int32.ofNat_add, hcounted]
  rfl

/-- The counter is lowered only where a mark is set that was not set before. -/
theorem Counted.release {h : Holds} (hcounted : h.Counted) (id : HoldId) : (h.release id).Counted := by
  rw [Counted] at hcounted
  unfold Holds.release
  by_cases hid : h.released[id]? = some false
  · obtain ⟨hlt, hmark⟩ := List.getElem?_eq_some_iff.1 hid
    have hmem : 0 < h.released.count false := List.count_pos_iff.2 (List.mem_of_getElem? hid)
    have hcount : h.released.count false = (h.released.set id true).count false + 1 := by
      rw [List.count_set hlt, hmark]
      simp
      omega
    rw [if_pos hid, Counted, hcounted, hcount, Int32.ofNat_add]
    exact Int32.add_sub_cancel _ _
  · rw [if_neg hid]
    exact hcounted

theorem getElem?_released_take (h : Holds) (j : Nat) :
    h.take.1.released[j]? = if j = h.released.length then some false else h.released[j]? := by
  by_cases hj : j = h.released.length
  · simp [Holds.take, hj]
  · rw [if_neg hj, Holds.take, List.getElem?_append]
    by_cases hlt : j < h.released.length
    · rw [if_pos hlt]
    · have hbeyond : 1 ≤ j - h.released.length := by omega
      rw [if_neg hlt, List.getElem?_eq_none (Nat.le_of_not_lt hlt), List.getElem?_eq_none hbeyond]

theorem getElem?_released_release (h : Holds) (id j : HoldId) :
    (h.release id).released[j]? = if j = id then h.released[j]?.map fun _ => true else h.released[j]? := by
  unfold Holds.release
  by_cases hid : h.released[id]? = some false
  · rw [if_pos hid]
    by_cases hj : j = id
    · subst hj
      simp [List.getElem?_set_self', hid]
    · simp [hj, List.getElem?_set_ne (Ne.symm hj)]
  · rw [if_neg hid]
    by_cases hj : j = id
    · subst hj
      rcases hmark : h.released[j]? with _ | mark
      · simp
      · cases mark with
        | false => exact absurd hmark hid
        | true => simp
    · simp [hj]

end Holds

/-! ## A device and its borrowers -/

namespace Phonebook.Use

variable {κ ε : Type}

/-- The hold that was taken. -/
def taken? : Use κ ε → Option HoldId
  | .hold id => some id
  | _ => none

/-- The hold whose release was called. -/
def called? : Use κ ε → Option HoldId
  | .release id => some id
  | _ => none

end Phonebook.Use

/-- What a finalization did. -/
structure Finalization where
  /-- The place of the session among those started. -/
  session : Nat
  /-- Whether it said that it was what ended the session. -/
  reported : Bool
  /-- The holds whose release it called. -/
  released : List HoldId
  /-- Whether the context of the session was cancelled by it. -/
  cancelled : Bool
deriving DecidableEq, Repr

/-- What `n` finalizations of a session do: the first ends it, and the others do nothing. -/
def Finalization.series (session : Nat) (hold : HoldId) (cancelled : Bool) : Nat → List Finalization
  | 0 => []
  | n + 1 => ⟨session, true, [hold], !cancelled⟩ :: List.replicate n ⟨session, false, [], false⟩

/-- A channel and what was done with it by those who hold it. -/
structure Borrowing where
  /-- The channel, with the uses made of it as a transport. -/
  state : Channel × List (Use Channel.Ticket CallError)
  /-- The sessions started, in order. -/
  sessions : List Session
  /-- The finalizations, in order. -/
  finalizations : List Finalization

namespace Borrowing

/-- What a borrower can do, or what can happen on the device meanwhile. -/
inductive Act where
  | hold
  /-- Calls the release of a hold. -/
  | release (id : HoldId)
  /-- Starts a session, inside a context that may be cancelled already. -/
  | start (cancelled : Bool)
  | finalize (session : Nat)
  | happen (event : Device.Event)

namespace Act

/-- Whether a hold is taken. -/
def takes : Act → Bool
  | hold | start _ => true
  | _ => false

def releases (hold : HoldId) : Act → Bool
  | release id => id == hold
  | _ => false

def finalizes (session : Nat) : Act → Bool
  | finalize k => k == session
  | _ => false

end Act

def device (b : Borrowing) : Device := b.state.1.device

/-- The holds taken, in order. -/
def taken (b : Borrowing) : List HoldId := b.state.2.filterMap Use.taken?

/-- The holds whose release was called, once for each call. -/
def called (b : Borrowing) : List HoldId := b.state.2.filterMap Use.called?

/-- The holds whose release has not been called yet. -/
def unreleased (b : Borrowing) : List HoldId := b.taken.filter (· ∉ b.called)

/-- The number of holders that the device tells. -/
def holders (b : Borrowing) : Int := b.device.holds.holders.toInt

def transport : Phonebook.Transport (Channel × List (Use Channel.Ticket CallError)) Channel.Ticket CallError :=
  Channel.transport.recorded

/-- Only a hold that was taken has a release to call, and only a session that was started can be finalized. -/
def step (b : Borrowing) : Act → Borrowing
  | .hold => { b with state := (transport.hold b.state).1 }
  | .release id => if id ∈ b.taken then { b with state := transport.release b.state id } else b
  | .start cancelled =>
    let (state, session) := Session.start transport b.state cancelled
    { b with state := state, sessions := b.sessions ++ [session] }
  | .finalize k =>
    match b.sessions[k]? with
    | none => b
    | some session =>
      let (state, session', reported) := session.finalize transport b.state
      { state := state
        sessions := b.sessions.set k session'
        finalizations := b.finalizations ++ [⟨k, reported, (state.2.drop b.state.2.length).filterMap Use.called?,
          !session.cancelled && session'.cancelled⟩] }
  | .happen e => { b with state := ({ b.state.1 with device := b.device.step e }, b.state.2) }

def run (c : Channel) (acts : List Act) : Borrowing := acts.foldl step ⟨(c, []), [], []⟩

theorem run_append (c : Channel) (acts acts' : List Act) : run c (acts ++ acts') = acts'.foldl step (run c acts) :=
  List.foldl_append

/-- What an act can come to. -/
inductive Does (b : Borrowing) : Act → Borrowing → Prop where
  | hold : Does b .hold ⟨(transport.hold b.state).1, b.sessions, b.finalizations⟩
  | start (cancelled : Bool) :
    Does b (.start cancelled)
      ⟨(transport.hold b.state).1, b.sessions ++ [⟨b.device.holds.take.2, cancelled, false⟩], b.finalizations⟩
  | release {id : HoldId} (hid : id ∈ b.taken) :
    Does b (.release id) ⟨transport.release b.state id, b.sessions, b.finalizations⟩
  | noHold {id : HoldId} (hid : id ∉ b.taken) : Does b (.release id) b
  /-- The first finalization ends the session. -/
  | ends {k : Nat} {session : Session} (hk : b.sessions[k]? = some session) (hopen : session.finalized = false) :
    Does b (.finalize k)
      ⟨transport.release b.state session.hold, b.sessions.set k ⟨session.hold, true, true⟩,
        b.finalizations ++ [⟨k, true, [session.hold], !session.cancelled⟩]⟩
  /-- A further one finds it ended. -/
  | ended {k : Nat} {session : Session} (hk : b.sessions[k]? = some session) (hended : session.finalized = true) :
    Does b (.finalize k) ⟨b.state, b.sessions, b.finalizations ++ [⟨k, false, [], false⟩]⟩
  | noSession {k : Nat} (hk : b.sessions[k]? = none) : Does b (.finalize k) b
  | happen (e : Device.Event) :
    Does b (.happen e)
      ⟨({ b.state.1 with device := b.device.step e }, b.state.2), b.sessions, b.finalizations⟩

theorem step_finalize {b : Borrowing} {k : Nat} {session : Session} (hk : b.sessions[k]? = some session) :
    Does b (.finalize k) (b.step (.finalize k)) := by
  cases hfinalized : session.finalized with
  | false =>
    have hcalled : ((transport.release b.state session.hold).2.drop b.state.2.length).filterMap Use.called? =
        [session.hold] := by
      have hdrop : (transport.release b.state session.hold).2.drop b.state.2.length = [.release session.hold] :=
        List.drop_left
      rw [hdrop]
      rfl
    simp only [step, hk, Session.finalize, hfinalized, Bool.false_eq_true, if_false, hcalled, Bool.and_true]
    exact .ends hk hfinalized
  | true =>
    have hset : b.sessions.set k session = b.sessions := by
      obtain ⟨hlt, rfl⟩ := List.getElem?_eq_some_iff.1 hk
      exact List.set_getElem_self hlt
    simp only [step, hk, Session.finalize, hfinalized, if_true, hset, List.drop_length, List.filterMap_nil,
      Bool.not_and_self]
    exact .ended hk hfinalized

theorem step_does (b : Borrowing) (a : Act) : Does b a (b.step a) := by
  cases a with
  | hold => exact .hold
  | release id =>
    rw [step]
    by_cases hid : id ∈ b.taken
    · rw [if_pos hid]
      exact .release hid
    · rw [if_neg hid]
      exact .noHold hid
  | start cancelled => exact .start cancelled
  | finalize k =>
    cases hk : b.sessions[k]? with
    | none =>
      simp only [step, hk]
      exact .noSession hk
    | some session => exact step_finalize hk
  | happen e => exact .happen e

section
variable (b : Borrowing) (sessions : List Session) (finalizations : List Finalization)

/-! What holding and releasing leave in the record. -/

theorem taken_hold : taken ⟨(transport.hold b.state).1, sessions, finalizations⟩ = b.taken ++ [b.device.holds.take.2] :=
  List.filterMap_append

theorem called_hold : called ⟨(transport.hold b.state).1, sessions, finalizations⟩ = b.called :=
  List.filterMap_append.trans (List.append_nil _)

theorem taken_release (id : HoldId) : taken ⟨transport.release b.state id, sessions, finalizations⟩ = b.taken :=
  List.filterMap_append.trans (List.append_nil _)

theorem called_release (id : HoldId) : called ⟨transport.release b.state id, sessions, finalizations⟩ = b.called ++ [id] :=
  List.filterMap_append

end

/-! ## The marks and the calls -/

/-- What holds of the holds and the record of them at any time. -/
structure Accounts (b : Borrowing) : Prop where
  coherent : b.device.Coherent
  counted : b.device.holds.Counted
  /-- Holds are numbered in the order in which they were taken. -/
  taken : b.taken = List.range b.taken.length
  /-- The marks say for each hold taken whether its release was called. -/
  marks : ∀ id, b.device.holds.released[id]? = if id ∈ b.taken then some (decide (id ∈ b.called)) else none
  called : ∀ id ∈ b.called, id ∈ b.taken
  holding : ∀ session ∈ b.sessions, session.hold ∈ b.taken
  /-- No two sessions share a hold. -/
  own : (b.sessions.map Session.hold).Nodup
  /-- Only sessions that were started have been finalized. -/
  started : ∀ f ∈ b.finalizations, f.session < b.sessions.length

theorem accounts_start {c : Channel} (hc : c.device.IsNew) : Accounts ⟨(c, []), [], []⟩ := by
  have hcoherent := hc.coherent
  obtain ⟨name, maxTransfer, journal, hnew⟩ := hc
  have hholds : c.device.holds = .none := by rw [hnew, Device.new]
  constructor
  · exact hcoherent
  · rw [device, hholds]
    exact Holds.counted_none
  · rfl
  · intro id
    rw [device, hholds]
    rfl
  · intro id hid
    cases hid
  · intro session hsession
    cases hsession
  · exact List.nodup_nil
  · intro f hf
    cases hf

section
variable {b : Borrowing} {sessions : List Session} {finalizations : List Finalization}

theorem Accounts.mem_taken_iff (h : b.Accounts) {id : HoldId} : id ∈ b.taken ↔ id < b.taken.length := by
  rw [h.taken]
  simp

theorem Accounts.length_released (h : b.Accounts) : b.device.holds.released.length = b.taken.length := by
  have hmark : ∀ id : Nat, b.device.holds.released.length ≤ id ↔ b.taken.length ≤ id := by
    intro id
    rw [← List.getElem?_eq_none_iff, h.marks, ← Nat.not_lt, ← h.mem_taken_iff]
    by_cases hid : id ∈ b.taken <;> simp [hid]
  have hbelow := hmark b.taken.length
  have habove := hmark b.device.holds.released.length
  omega

/-- A new hold has the next number. -/
theorem Accounts.take_eq (h : b.Accounts) : b.device.holds.take.2 = b.taken.length := h.length_released

theorem Accounts.length_taken_not_mem_taken (h : b.Accounts) : b.taken.length ∉ b.taken := fun hmem =>
  Nat.lt_irrefl _ (h.mem_taken_iff.1 hmem)

/-- The accounts are right after a hold is taken, by a session that starts or by anyone else. -/
theorem Accounts.hold (h : b.Accounts) (hholding : ∀ session ∈ sessions, session.hold ∈ b.taken ++ [b.taken.length])
    (hown : (sessions.map Session.hold).Nodup) (hstarted : ∀ f ∈ finalizations, f.session < sessions.length) :
    Accounts ⟨(transport.hold b.state).1, sessions, finalizations⟩ := by
  -- The release of the new hold cannot have been called before.
  have hfresh : b.taken.length ∉ b.called := fun hmem => h.length_taken_not_mem_taken (h.called _ hmem)
  have hholds : (device ⟨(transport.hold b.state).1, sessions, finalizations⟩).holds = b.device.holds.take.1 := rfl
  have htaken := taken_hold b sessions finalizations
  rw [h.take_eq] at htaken
  refine ⟨h.coherent.congr h.coherent.kept rfl rfl rfl, h.counted.take, ?_, fun id => ?_, fun id hmem => ?_, ?_, hown, hstarted⟩
  · rw [htaken, List.length_append, List.length_singleton, List.range_succ, ← h.taken]
  · rw [hholds, htaken, called_hold, Holds.getElem?_released_take, h.marks, h.length_released]
    by_cases hnew : id = b.taken.length
    · simp [hnew, hfresh]
    · simp [hnew]
  · rw [called_hold] at hmem
    rw [htaken]
    exact List.mem_append_left _ (h.called id hmem)
  · rw [htaken]
    exact hholding

/-- They are right after the release of a hold is called, for the first time or again. -/
theorem Accounts.release (h : b.Accounts) {id : HoldId} (hid : id ∈ b.taken)
    (hholds : sessions.map Session.hold = b.sessions.map Session.hold)
    (hstarted : ∀ f ∈ finalizations, f.session < sessions.length) :
    Accounts ⟨transport.release b.state id, sessions, finalizations⟩ := by
  have hreleased : (device ⟨transport.release b.state id, sessions, finalizations⟩).holds = b.device.holds.release id := rfl
  have htaken := taken_release b sessions finalizations id
  refine ⟨h.coherent.congr h.coherent.kept rfl rfl rfl, h.counted.release id, ?_, fun j => ?_, fun j hj => ?_, ?_, ?_, hstarted⟩
  · rw [htaken]
    exact h.taken
  · rw [hreleased, htaken, called_release, Holds.getElem?_released_release, h.marks]
    by_cases hj : j = id
    · subst hj
      simp [hid]
    · simp [hj]
  · rw [called_release, List.mem_append, List.mem_singleton] at hj
    rw [htaken]
    rcases hj with hj | rfl
    · exact h.called j hj
    · exact hid
  · intro session hs
    have hmem : session.hold ∈ b.sessions.map Session.hold := hholds ▸ List.mem_map_of_mem hs
    obtain ⟨session', hs', heq⟩ := List.mem_map.1 hmem
    rw [htaken, ← heq]
    exact h.holding session' hs'
  · exact hholds ▸ h.own

theorem Accounts.started_append (h : b.Accounts) {k : Nat} {session : Session} (hk : b.sessions[k]? = some session)
    {f : Finalization} (hf : f.session = k) : ∀ g ∈ b.finalizations ++ [f], g.session < b.sessions.length := by
  intro g hg
  rcases List.mem_append.1 hg with hg | hg
  · exact h.started g hg
  · rw [List.mem_singleton.1 hg, hf]
    exact (List.getElem?_eq_some_iff.1 hk).1

theorem Accounts.step (h : b.Accounts) (a : Act) : (b.step a).Accounts := by
  have hdoes := step_does b a
  generalize b.step a = b' at hdoes
  cases hdoes with
  | hold => exact h.hold (fun session hs => List.mem_append_left _ (h.holding session hs)) h.own h.started
  | start cancelled =>
    rw [h.take_eq]
    refine h.hold (fun session hs => ?_) ?_ fun f hf => ?_
    · rcases List.mem_append.1 hs with hs | hs
      · exact List.mem_append_left _ (h.holding session hs)
      · rw [List.mem_singleton.1 hs]
        exact List.mem_append_right _ List.mem_cons_self
    · rw [List.map_append, List.map_singleton]
      refine List.nodup_append.2 ⟨h.own, List.pairwise_singleton _ _, fun id hid new hnew heq => ?_⟩
      obtain ⟨session, hs, rfl⟩ := List.mem_map.1 hid
      have hhold : session.hold = b.taken.length := heq.trans (List.mem_singleton.1 hnew)
      exact h.length_taken_not_mem_taken (hhold ▸ h.holding session hs)
    · rw [List.length_append]
      exact Nat.lt_succ_of_lt (h.started f hf)
  | release hid => exact h.release hid rfl h.started
  | noHold => exact h
  | ends hk =>
    refine h.release (h.holding _ (List.mem_of_getElem? hk)) ?_ fun f hf => ?_
    · obtain ⟨hlt, rfl⟩ := List.getElem?_eq_some_iff.1 hk
      rw [List.map_set, ← List.getElem_map Session.hold (h := by simpa using hlt)]
      exact List.set_getElem_self _
    · rw [List.length_set]
      exact h.started_append hk rfl f hf
  | ended hk => exact { h with started := h.started_append hk rfl }
  | noSession => exact h
  | happen e =>
    have hholds := (Device.frame_step h.coherent e).1
    exact { h with
      coherent := h.coherent.step e
      counted := hholds ▸ h.counted
      marks := hholds ▸ h.marks }

/-- The counter as a number: the holds whose release was not called, if they are fewer than `2 ^ 31`. -/
theorem Accounts.holders_eq (h : b.Accounts) (few : b.unreleased.length < 2 ^ 31) : b.holders = b.unreleased.length := by
  have hmarks : b.device.holds.released = b.taken.map fun id => decide (id ∈ b.called) := by
    refine List.ext_getElem? fun id => ?_
    rw [h.marks, List.getElem?_map, h.taken]
    by_cases hid : id < b.taken.length
    · simp [hid]
    · simp [hid]
  have hcount : b.device.holds.released.count false = b.unreleased.length := by
    rw [hmarks, unreleased, List.count, List.countP_map, List.countP_eq_length_filter]
    congr 2
    funext id
    simp
  rw [holders, h.counted, hcount]
  exact Int32.toInt_ofNat_of_lt few

end

theorem accounts_run {c : Channel} (hc : c.device.IsNew) (acts : List Act) : (run c acts).Accounts := by
  induction acts using List.reverseRecOn with
  | nil => exact accounts_start hc
  | append_singleton acts a ih =>
    rw [run_append]
    exact ih.step a

theorem length_taken_run (c : Channel) (acts : List Act) : (run c acts).taken.length = acts.countP Act.takes := by
  induction acts using List.reverseRecOn with
  | nil => rfl
  | append_singleton acts a ih =>
    rw [run_append, List.foldl_cons, List.foldl_nil, List.countP_append, List.countP_singleton, ← ih]
    have hdoes := step_does (run c acts) a
    generalize (run c acts).step a = b' at hdoes
    cases hdoes with
    | hold => simp [taken_hold, Act.takes]
    | start => simp [taken_hold, Act.takes]
    | release => simp [taken_release, Act.takes]
    | ends => simp [taken_release, Act.takes]
    | _ => rfl

/-! ## The finalizations of a session -/

/-- What has become of the session in place `k` after `n` finalizations of it, and after `m` calls of the release of its hold
by others. -/
structure Stands (b : Borrowing) (k : Nat) (hold : HoldId) (cancelled : Bool) (n m : Nat) : Prop where
  session : b.sessions[k]? = some ⟨hold, cancelled || decide (0 < n), decide (0 < n)⟩
  finalizations : b.finalizations.filter (·.session = k) = Finalization.series k hold cancelled n
  calls : b.called.count hold = m + min n 1

section
variable {b : Borrowing} {k : Nat} {hold : HoldId} {cancelled : Bool} {n m : Nat}

theorem Stands.finalize (h : b.Stands k hold cancelled n m) {b' : Borrowing} (hdoes : Does b (.finalize k) b') :
    b'.Stands k hold cancelled (n + 1) m := by
  obtain ⟨hsession, hfinalizations, hcalls⟩ := h
  cases hdoes with
  | ends hk hopen =>
    -- The session was open, so none of the finalizations before was one of it.
    obtain rfl := Option.some.inj (hk.symm.trans hsession)
    obtain rfl : n = 0 := by simpa using hopen
    refine ⟨?_, ?_, ?_⟩
    · simp [List.getElem?_set_self', hsession]
    · simp [hfinalizations, Finalization.series]
    · rw [called_release, List.count_append, hcalls, List.count_singleton_self]
      rfl
  | ended hk hended =>
    obtain rfl := Option.some.inj (hk.symm.trans hsession)
    obtain ⟨n, rfl⟩ : ∃ n', n = n' + 1 := Nat.exists_eq_add_one.2 (by simpa using hended)
    refine ⟨?_, ?_, ?_⟩
    · simpa using hsession
    · simp [hfinalizations, Finalization.series, List.replicate_succ']
    · exact hcalls.trans (by omega)
  | noSession hk =>
    rw [hk] at hsession
    cases hsession

theorem Accounts.hold_ne (h : b.Accounts) {j : Nat} (hj : j ≠ k) {s s' : Session} (hs : b.sessions[k]? = some s)
    (hs' : b.sessions[j]? = some s') : s'.hold ≠ s.hold := by
  intro heq
  have hlt : j < (b.sessions.map Session.hold).length := by
    rw [List.length_map]
    exact (List.getElem?_eq_some_iff.1 hs').1
  refine hj ((List.getElem?_inj hlt h.own).1 ?_)
  rw [List.getElem?_map, List.getElem?_map, hs, hs', Option.map_some, Option.map_some, heq]

theorem Stands.finalize_other (h : b.Stands k hold cancelled n m) (hb : b.Accounts) {j : Nat} (hj : j ≠ k) {b' : Borrowing}
    (hdoes : Does b (.finalize j) b') : b'.Stands k hold cancelled n m := by
  cases hdoes with
  | ends hk =>
    refine ⟨?_, by simpa [hj] using h.finalizations, ?_⟩
    · rw [List.getElem?_set_ne hj]
      exact h.session
    · rw [called_release, List.count_append, List.count_singleton, h.calls]
      simp [hb.hold_ne hj h.session hk]
  | ended => exact ⟨h.session, by simpa [hj] using h.finalizations, h.calls⟩
  | noSession => exact h

theorem Stands.release (h : b.Stands k hold cancelled n m) (hb : b.Accounts) {id : HoldId} {b' : Borrowing}
    (hdoes : Does b (.release id) b') : b'.Stands k hold cancelled n (m + if id = hold then 1 else 0) := by
  cases hdoes with
  | release hid =>
    refine ⟨h.session, h.finalizations, ?_⟩
    rw [called_release, List.count_append, List.count_singleton, h.calls]
    simp only [beq_iff_eq]
    omega
  | noHold hid =>
    have hhold : hold ∈ b.taken := hb.holding _ (List.mem_of_getElem? h.session)
    have hne : id ≠ hold := fun heq => hid (heq ▸ hhold)
    rw [if_neg hne]
    exact h

theorem Stands.step (h : b.Stands k hold cancelled n m) (hb : b.Accounts) (a : Act) :
    (b.step a).Stands k hold cancelled (n + if a.finalizes k then 1 else 0) (m + if a.releases hold then 1 else 0) := by
  have hdoes := step_does b a
  generalize b.step a = b' at hdoes
  cases a with
  | hold =>
    cases hdoes
    exact ⟨h.session, h.finalizations, (congrArg _ (called_hold b _ _)).trans h.calls⟩
  | release id => simpa [Act.finalizes, Act.releases] using h.release hb hdoes
  | start cancelled' =>
    cases hdoes
    refine ⟨?_, h.finalizations, (congrArg _ (called_hold b _ _)).trans h.calls⟩
    rw [List.getElem?_append_left (List.getElem?_eq_some_iff.1 h.session).1]
    exact h.session
  | finalize j =>
    by_cases hj : j = k
    · subst hj
      simpa [Act.finalizes, Act.releases] using h.finalize hdoes
    · simpa [Act.finalizes, Act.releases, hj] using h.finalize_other hb hj hdoes
  | happen e =>
    cases hdoes
    exact ⟨h.session, h.finalizations, h.calls⟩

theorem Stands.foldl (h : b.Stands k hold cancelled n m) (hb : b.Accounts) (acts : List Act) :
    (acts.foldl Borrowing.step b).Stands k hold cancelled (n + acts.countP (Act.finalizes k))
      (m + acts.countP (Act.releases hold)) := by
  induction acts generalizing b n m with
  | nil => exact h
  | cons a acts ih =>
    rw [List.foldl_cons, List.countP_cons, List.countP_cons, Nat.add_comm (acts.countP _), ← Nat.add_assoc,
      Nat.add_comm (acts.countP _), ← Nat.add_assoc]
    exact ih (h.step hb a) (hb.step a)

/-- A session that has just been started. -/
theorem Accounts.stands_start (h : b.Accounts) (cancelled : Bool) :
    (b.step (.start cancelled)).Stands b.sessions.length b.taken.length cancelled 0 0 := by
  have hdoes := step_does b (.start cancelled)
  generalize b.step (.start cancelled) = b' at hdoes
  cases hdoes
  refine ⟨?_, ?_, ?_⟩
  · simp [h.take_eq]
  · refine List.filter_eq_nil_iff.2 fun f hf => ?_
    have hlt := h.started f hf
    simp only [decide_eq_true_eq]
    omega
  · rw [called_hold]
    exact List.count_eq_zero_of_not_mem fun hmem => h.length_taken_not_mem_taken (h.called _ hmem)

end

/-- **The device knows how many hold it.** Whatever is done with holds and sessions, in any order, and whatever happens on the
device meanwhile, the number of holders is the number of the holds whose release has not been called, as long as these are
fewer than `2 ^ 31`; so it is never negative. Of the finalizations of a session the first one calls the release of its hold,
cancels its context, if it was not cancelled before, and reports so; the others do nothing and report so. So the release of
its hold is called once by the session, apart from what others call. -/
theorem holds_accounted {c : Channel} (hc : c.device.IsNew) :
    (∀ acts : List Act,
      let b := run c acts
      b.taken = List.range (acts.countP Act.takes) ∧
      (b.unreleased.length < 2 ^ 31 → b.holders = b.unreleased.length ∧ 0 ≤ b.holders)) ∧
    ∀ (before after : List Act) (cancelled : Bool),
      let k := (run c before).sessions.length
      let hold := (run c before).taken.length
      let n := after.countP (Act.finalizes k)
      let b := run c (before ++ .start cancelled :: after)
      b.sessions[k]? = some ⟨hold, cancelled || decide (0 < n), decide (0 < n)⟩ ∧
      b.finalizations.filter (·.session = k) = Finalization.series k hold cancelled n ∧
      b.called.count hold = after.countP (Act.releases hold) + min n 1 := by
  constructor
  · intro acts b
    have h : b.Accounts := accounts_run hc acts
    refine ⟨?_, fun few => ?_⟩
    · rw [h.taken, length_taken_run]
    · rw [h.holders_eq few]
      exact ⟨rfl, Int.natCast_nonneg _⟩
  · intro before after cancelled k hold n b
    have hbefore := accounts_run hc before
    have hstands := (hbefore.stands_start cancelled).foldl (hbefore.step _) after
    rw [Nat.zero_add, Nat.zero_add] at hstands
    have hrun : b = after.foldl step ((run c before).step (.start cancelled)) := run_append c before _
    rw [hrun]
    exact ⟨hstands.session, hstands.finalizations, hstands.calls⟩

/-- A channel to a device just opened. -/
def unusedChannel : Channel := .new (.new "" Device.defaultMaxTransfer []) .silent

/-- A session behind a hold that someone else has taken. Its own hold is released behind its back before it is finalized, and
it is finalized twice. The other hold is released twice. -/
def crossedReleases : List Act :=
  [.hold, .start false, .release 1, .finalize 0, .release 0, .hold, .finalize 0, .release 0, .happen .announceClose,
    .start true, .release 9]

theorem crossedReleases_accounted :
    unusedChannel.device.IsNew ∧ (run unusedChannel crossedReleases).called = [1, 1, 0, 0] ∧
    (run unusedChannel crossedReleases).unreleased = [2, 3] ∧ (run unusedChannel crossedReleases).holders = 2 ∧
    (run unusedChannel crossedReleases).finalizations.filter (·.session = 0) =
      [⟨0, true, [1], true⟩, ⟨0, false, [], false⟩] ∧
    (run unusedChannel crossedReleases).called.count 1 = 2 := by
  have hnew : unusedChannel.device.IsNew := ⟨"", Device.defaultMaxTransfer, [], rfl⟩
  obtain ⟨hcount, hsession⟩ := holds_accounted hnew
  have hunreleased : (run unusedChannel crossedReleases).unreleased = [2, 3] := by decide +kernel
  have hholders := ((hcount crossedReleases).2 (by rw [hunreleased]; decide)).1
  rw [hunreleased] at hholders
  obtain ⟨-, hfinalizations, hcalls⟩ := hsession [.hold] (crossedReleases.drop 2) false
  exact ⟨hnew, by decide +kernel, hunreleased, hholders, hfinalizations, hcalls⟩

end Borrowing

end SimPhonebook
