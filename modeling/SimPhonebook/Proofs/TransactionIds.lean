import Mathlib.Data.Fintype.Card
import SimPhonebook.Proofs.Coherence

/-!
# Transaction IDs

IDs are taken from a counter of 32 bits that skips zero. So they go round in a cycle of all words but zero, and the IDs of less
than a full cycle are different (`issued_injective`), also where the counter wraps.

Several allocations may be under way at once. Each increments the counter until it finds it other than zero, and increments of
different allocations may come in any order (`Allocations`). Such allocations return the IDs that one allocation after the other
would return, and in the same order (`Allocations.Tally.ids`), so a device may be taken to allocate in one step. The invariant
behind this counts increments: each of them either ends an allocation or finds the counter at zero.
-/

namespace SimPhonebook

/-! ## The cycle -/

/-- The counter wraps from its greatest value only. -/
theorem add_one_eq_zero_iff (w : UInt32) : w + 1 = 0 ↔ w.toNat + 1 = 2 ^ 32 := by
  have hlt := w.toNat_lt
  rw [← UInt32.toNat_inj, UInt32.toNat_add]
  simp
  omega

theorem toNat_add_one {w : UInt32} (h : w + 1 ≠ 0) : w.toNat + 1 < 2 ^ 32 ∧ (w + 1).toNat = w.toNat + 1 := by
  have hlt := w.toNat_lt
  have hroom : w.toNat + 1 < 2 ^ 32 := by
    rw [ne_eq, add_one_eq_zero_iff] at h
    omega
  refine ⟨hroom, ?_⟩
  rw [UInt32.toNat_add]
  exact Nat.mod_eq_of_lt hroom

theorem toNat_nextTransaction_eq (last : UInt32) : (nextTransaction last).toNat = last.toNat % (2 ^ 32 - 1) + 1 := by
  by_cases h : last + 1 = 0
  · have hwrap := (add_one_eq_zero_iff last).1 h
    rw [nextTransaction, if_pos h, UInt32.toNat_add, show last.toNat = 2 ^ 32 - 1 by omega]
    rfl
  · obtain ⟨hroom, hnext⟩ := toNat_add_one h
    rw [nextTransaction, if_neg h, hnext, Nat.mod_eq_of_lt (by omega)]

/-- The ID given out in place `k` after `last`. -/
def issued (last : UInt32) : Nat → UInt32
  | 0 => nextTransaction last
  | k + 1 => nextTransaction (issued last k)

theorem issued_succ (last : UInt32) (k : Nat) : issued last (k + 1) = issued (nextTransaction last) k := by
  induction k with
  | zero => rfl
  | succ k ih => rw [issued, ih, issued]

theorem issued_ne_zero (last : UInt32) (k : Nat) : issued last k ≠ 0 := by
  cases k with
  | zero => exact Device.nextTransaction_ne_zero last
  | succ k => exact Device.nextTransaction_ne_zero (issued last k)

theorem toNat_issued (last : UInt32) (k : Nat) : (issued last k).toNat = (last.toNat + k) % (2 ^ 32 - 1) + 1 := by
  induction k with
  | zero => exact toNat_nextTransaction_eq last
  | succ k ih =>
    rw [issued, toNat_nextTransaction_eq, ih]
    omega

/-- **No ID comes again within a cycle.** -/
theorem issued_injective {last : UInt32} {i j : Nat} (hi : i < 2 ^ 32 - 1) (hj : j < 2 ^ 32 - 1)
    (h : issued last i = issued last j) : i = j := by
  have hvalue := congrArg UInt32.toNat h
  rw [toNat_issued, toNat_issued] at hvalue
  omega

theorem nodup_issued (last : UInt32) {n : Nat} (h : n ≤ 2 ^ 32 - 1) : ((List.range n).map (issued last)).Nodup := by
  refine List.Nodup.map_on (fun i hi j hj heq => ?_) List.nodup_range
  rw [List.mem_range] at hi hj
  exact issued_injective (by omega) (by omega) heq

/-! ## Allocations at the same time -/

/-- `n` allocations on one counter. -/
structure Allocations (n : Nat) where
  counter : UInt32
  /-- Whose increments were made, in order. -/
  increments : List (Fin n)
  /-- The allocations that have ended and the IDs they returned, in order. -/
  returned : List (Fin n × UInt32)

namespace Allocations

variable {n : Nat}

def ended (s : Allocations n) : List (Fin n) := s.returned.map Prod.fst

def ids (s : Allocations n) : List UInt32 := s.returned.map Prod.snd

/-- Allocation `a` increments the counter, unless it has ended, and ends with the ID it finds unless this is zero. -/
def step (s : Allocations n) (a : Fin n) : Allocations n :=
  if a ∈ s.ended then s
  else
    { counter := s.counter + 1
      increments := s.increments ++ [a]
      returned := if s.counter + 1 = 0 then s.returned else s.returned ++ [(a, s.counter + 1)] }

/-- The allocations take their steps in the order of the schedule. -/
def run (start : UInt32) (schedule : List (Fin n)) : Allocations n := schedule.foldl step ⟨start, [], []⟩

theorem step_cases (s : Allocations n) (a : Fin n) :
    (a ∈ s.ended ∧ s.step a = s) ∨
    (a ∉ s.ended ∧ s.counter + 1 = 0 ∧ s.step a = ⟨s.counter + 1, s.increments ++ [a], s.returned⟩) ∨
    (a ∉ s.ended ∧ s.counter + 1 ≠ 0 ∧
      s.step a = ⟨s.counter + 1, s.increments ++ [a], s.returned ++ [(a, s.counter + 1)]⟩) := by
  unfold step
  by_cases ha : a ∈ s.ended
  · simp [ha]
  · by_cases hzero : s.counter + 1 = 0
    · simp [ha, hzero]
    · simp [ha, hzero]

/-- What has come about when the allocations have taken the steps of a schedule. -/
structure Tally (start : UInt32) (schedule : List (Fin n)) (s : Allocations n) : Prop where
  counter : s.counter.toNat = (start.toNat + s.increments.length) % 2 ^ 32
  once : s.ended.Nodup
  /-- An increment ends an allocation, unless it takes the counter round to zero. -/
  total : s.returned.length + (start.toNat + s.increments.length) / 2 ^ 32 = s.increments.length
  ids : s.ids = (List.range s.returned.length).map (issued start)
  /-- The increments of an allocation are other than those that ended the others. -/
  own : ∀ a, s.increments.count a + s.ended.countP (· ≠ a) ≤ s.increments.length
  /-- An allocation that has not ended has made an increment at each of its steps. -/
  waiting : ∀ a, a ∉ s.ended → s.increments.count a = schedule.count a
  /-- The counter comes to zero at most once. -/
  lessThanTwice : start.toNat + s.increments.length < 2 * 2 ^ 32

theorem tally_start (start : UInt32) : Tally start [] (⟨start, [], []⟩ : Allocations n) where
  counter := (Nat.mod_eq_of_lt start.toNat_lt).symm
  once := List.nodup_nil
  total := by
    have := start.toNat_lt
    simp only [List.length_nil]
    omega
  ids := rfl
  own a := Nat.le_refl 0
  waiting a _ := rfl
  lessThanTwice := by
    have := start.toNat_lt
    simp only [List.length_nil]
    omega

section
variable {start : UInt32} {schedule : List (Fin n)} {s : Allocations n} {a : Fin n}

/-- While an allocation has not ended, not all `n` IDs have been returned. -/
theorem Tally.length_returned_lt (h : Tally start schedule s) (ha : a ∉ s.ended) : s.returned.length < n := by
  have hcard : (a :: s.ended).length ≤ Fintype.card (Fin n) := (List.nodup_cons.2 ⟨ha, h.once⟩).length_le_card
  simp only [ended, List.length_cons, List.length_map, Fintype.card_fin] at hcard
  omega

/-- So the counter does not come to zero a second time. -/
theorem Tally.room (h : Tally start schedule s) (few : n ≤ 2 ^ 32 - 1) (ha : a ∉ s.ended) :
    start.toNat + (s.increments.length + 1) < 2 * 2 ^ 32 := by
  have hstart := start.toNat_lt
  have hreturned := h.length_returned_lt ha
  have htotal := h.total
  have hless := h.lessThanTwice
  omega

theorem Tally.idle (h : Tally start schedule s) (ha : a ∈ s.ended) : Tally start (schedule ++ [a]) s :=
  { h with
    waiting := by
      intro b hb
      have hne : a ≠ b := fun hab => hb (hab ▸ ha)
      rw [List.count_append, List.count_singleton, h.waiting b hb]
      simp [hne] }

/-- The increments of `b` after one more, of `a`. -/
theorem count_increment (increments : List (Fin n)) (a b : Fin n) :
    (increments ++ [a]).count b = increments.count b + if a = b then 1 else 0 := by
  rw [List.count_append, List.count_singleton]
  simp

theorem Tally.passesZero (h : Tally start schedule s) (few : n ≤ 2 ^ 32 - 1) (ha : a ∉ s.ended) (hzero : s.counter + 1 = 0) :
    Tally start (schedule ++ [a]) ⟨s.counter + 1, s.increments ++ [a], s.returned⟩ := by
  have hcounter := h.counter
  have htotal := h.total
  have hwrap := (add_one_eq_zero_iff s.counter).1 hzero
  constructor
  · simp only [hzero, List.length_append, List.length_singleton, UInt32.toNat_zero]
    omega
  · exact h.once
  · simp only [List.length_append, List.length_singleton]
    omega
  · exact h.ids
  · intro b
    have hown := h.own b
    simp only [count_increment, List.length_append, List.length_singleton]
    simp only [ended] at hown ⊢
    split <;> omega
  · intro b hb
    rw [count_increment, count_increment, h.waiting b hb]
  · simpa only [List.length_append, List.length_singleton] using h.room few ha

theorem Tally.returns (h : Tally start schedule s) (few : n ≤ 2 ^ 32 - 1) (ha : a ∉ s.ended) (hne : s.counter + 1 ≠ 0) :
    Tally start (schedule ++ [a]) ⟨s.counter + 1, s.increments ++ [a], s.returned ++ [(a, s.counter + 1)]⟩ := by
  have hcounter := h.counter
  have htotal := h.total
  obtain ⟨hlt, hnext⟩ := toNat_add_one hne
  have hended : ended ⟨s.counter + 1, s.increments ++ [a], s.returned ++ [(a, s.counter + 1)]⟩ = s.ended ++ [a] := by
    simp [ended]
  constructor
  · simp only [hnext, List.length_append, List.length_singleton]
    omega
  · rw [hended, ← List.concat_eq_append]
    exact h.once.concat ha
  · simp only [List.length_append, List.length_singleton]
    omega
  · have hid : s.counter + 1 = issued start s.returned.length := by
      apply UInt32.toNat_inj.1
      rw [hnext, toNat_issued]
      omega
    have hids := h.ids
    simp only [Allocations.ids] at hids ⊢
    simp only [List.map_append, List.map_singleton, List.length_append, List.length_singleton, List.range_succ, hids, ← hid]
  · intro b
    have hown := h.own b
    simp only [ne_eq] at hown
    rw [hended, List.countP_append, List.countP_singleton, count_increment, List.length_append, List.length_singleton]
    by_cases hb : a = b
    · simp only [hb, ne_eq, not_true_eq_false, decide_false, Bool.false_eq_true, if_true, if_false]
      omega
    · simp only [hb, ne_eq, not_false_eq_true, decide_true, if_true, if_false]
      omega
  · intro b hb
    rw [hended, List.mem_append, not_or] at hb
    rw [count_increment, count_increment, h.waiting b hb.1]
  · simpa only [List.length_append, List.length_singleton] using h.room few ha

theorem Tally.step (h : Tally start schedule s) (few : n ≤ 2 ^ 32 - 1) (a : Fin n) :
    Tally start (schedule ++ [a]) (s.step a) := by
  rcases s.step_cases a with ⟨ha, hstep⟩ | ⟨ha, hzero, hstep⟩ | ⟨ha, hne, hstep⟩
  · rw [hstep]
    exact h.idle ha
  · rw [hstep]
    exact h.passesZero few ha hzero
  · rw [hstep]
    exact h.returns few ha hne

theorem Tally.foldl (h : Tally start schedule s) (few : n ≤ 2 ^ 32 - 1) (rest : List (Fin n)) :
    Tally start (schedule ++ rest) (rest.foldl Allocations.step s) := by
  induction rest generalizing schedule s with
  | nil => simpa using h
  | cons a rest ih => simpa using ih (h.step few a)

end

theorem tally_run (few : n ≤ 2 ^ 32 - 1) (start : UInt32) (schedule : List (Fin n)) :
    Tally start schedule (run start schedule) := by
  simpa [run] using (tally_start start).foldl few schedule

section
variable {start : UInt32} {schedule : List (Fin n)} {s : Allocations n}

theorem Tally.length_returned_le (h : Tally start schedule s) : s.returned.length ≤ n := by
  have hcard : s.ended.length ≤ Fintype.card (Fin n) := h.once.length_le_card
  simpa [ended] using hcard

/-- **An allocation makes two increments at most**, and has ended once it has taken two steps. -/
theorem Tally.two_increments (h : Tally start schedule s) (a : Fin n) :
    s.increments.count a ≤ 2 ∧ (2 ≤ schedule.count a → a ∈ s.ended) := by
  have htotal := h.total
  have hless := h.lessThanTwice
  have hown := h.own a
  have hlength : s.ended.length = s.returned.length := List.length_map _
  have hsplit : s.ended.length = s.ended.count a + s.ended.countP (· ≠ a) := by
    rw [List.length_eq_countP_add_countP (· == a), List.count]
    simp
  have honce := List.nodup_iff_count_le_one.1 h.once a
  refine ⟨by omega, fun hsteps => ?_⟩
  by_contra ha
  have hwaiting := h.waiting a ha
  rw [List.count_eq_zero_of_not_mem ha] at hsplit
  omega

end

end Allocations

/-! ## Calls on a device -/

namespace Device

def transactions (d : Device) : List UInt32 := d.calls.map Call.transaction

theorem transactions_of_not_submit {d : Device} (hd : d.Coherent) {e : Event} (he : e.isSubmit = false) :
    (d.step e).transactions = d.transactions := by
  obtain ⟨hlength, -⟩ := step_of_not_submit hd he
  refine List.ext_getElem? fun i => ?_
  simp only [transactions, List.getElem?_map]
  cases hc : d.calls[i]? with
  | none =>
    rw [List.getElem?_eq_none_iff, ← hlength] at hc
    rw [List.getElem?_eq_none hc]
  | some c =>
    obtain ⟨c', hc', hbecomes⟩ := becomes_step hd e hc
    rw [hc', Option.map_some, Option.map_some, Call.transaction, Call.transaction, hbecomes.request]

/-- **Every request submitted gets the next ID**, whatever else happens on the device. -/
theorem transactions_run {d : Device} (hd : d.Coherent) (events : List Event) :
    (d.run events).transactions = d.transactions ++ (List.range (submissions events)).map (issued d.lastTransaction) := by
  induction events generalizing d with
  | nil => simp [run, submissions]
  | cons e events ih =>
    have hrun : d.run (e :: events) = (d.step e).run events := rfl
    rw [hrun, ih (hd.step e)]
    rcases Bool.eq_false_or_eq_true e.isSubmit with he | he
    · cases e with
      | submit request timeout =>
        have hcount : submissions (.submit request timeout :: events) = submissions events + 1 := by
          simp [submissions, he]
        have hissued : issued d.lastTransaction ∘ Nat.succ = issued (nextTransaction d.lastTransaction) :=
          funext (issued_succ d.lastTransaction)
        rw [hcount, List.range_succ_eq_map, List.map_cons, List.map_map, hissued]
        simp [step, submit, transactions, Call.transaction, issued]
      | _ => cases he
    · have hcount : submissions (e :: events) = submissions events := by simp [submissions, he]
      rw [hcount, transactions_of_not_submit hd he, (step_of_not_submit hd he).2]

end Device

/-! ## All together -/

/-- **IDs are not given out again before all others have been.** From any value of the counter and in any order of the
increments, up to `2 ^ 32 - 1` allocations return IDs that are not zero and all different; they are the IDs that one allocation
after the other returns. Each allocation ends after two increments at most. So the requests submitted on a device get IDs that
are not zero and all different, whatever else happens meanwhile. -/
theorem transaction_ids_distinct {n : Nat} (few : n ≤ 2 ^ 32 - 1) (start : UInt32) :
    (∀ schedule : List (Fin n),
      let s := Allocations.run start schedule
      s.ids.Nodup ∧ (∀ t ∈ s.ids, t ≠ 0) ∧ s.ids = (List.range s.ids.length).map (issued start) ∧
        ∀ a, s.increments.count a ≤ 2 ∧ (2 ≤ schedule.count a → a ∈ s.ended)) ∧
    ∀ (d : Device) (events : List Device.Event), d.Coherent → d.lastTransaction = start → Device.submissions events = n →
      ∃ fresh : List UInt32, (d.run events).transactions = d.transactions ++ fresh ∧ fresh.length = n ∧ fresh.Nodup ∧
        ∀ t ∈ fresh, t ≠ 0 := by
  constructor
  · intro schedule s
    have h : Allocations.Tally start schedule s := Allocations.tally_run few start schedule
    have hlength : s.ids.length = s.returned.length := List.length_map _
    refine ⟨?_, ?_, hlength ▸ h.ids, h.two_increments⟩
    · rw [h.ids]
      exact nodup_issued start (h.length_returned_le.trans few)
    · intro t ht
      rw [h.ids, List.mem_map] at ht
      obtain ⟨k, -, rfl⟩ := ht
      exact issued_ne_zero start k
  · rintro d events hd rfl rfl
    refine ⟨_, Device.transactions_run hd events, by simp, nodup_issued _ few, fun t ht => ?_⟩
    obtain ⟨k, -, rfl⟩ := List.mem_map.1 ht
    exact issued_ne_zero _ k

/-- Two allocations where the counter wraps: the first finds zero, and the second overtakes it. -/
def wrappingAllocations : Allocations 2 := .run 0xFFFFFFFF [0, 1, 0]

/-- A device that has given out all IDs but one. -/
def wornDevice : Device := { Device.new "" Device.defaultMaxTransfer [] with lastTransaction := 0xFFFFFFFE }

/-- Two requests on it, the first registered before the second is submitted. -/
def lateRequests : List Device.Event := [.submit .closeSession ⟨0⟩, .register 0, .submit .closeSession ⟨0⟩]

theorem wrapping_ids_distinct :
    wrappingAllocations.returned = [(1, 1), (0, 2)] ∧ wrappingAllocations.ids.Nodup ∧ 0 ∈ wrappingAllocations.ended ∧
    (wornDevice.run lateRequests).transactions = [0xFFFFFFFF, 1] ∧
    ∃ fresh : List UInt32, (wornDevice.run lateRequests).transactions = wornDevice.transactions ++ fresh ∧ fresh.Nodup := by
  obtain ⟨hconcurrent, -⟩ := transaction_ids_distinct (n := 2) (by decide) 0xFFFFFFFF
  obtain ⟨-, hdevice⟩ := transaction_ids_distinct (n := 2) (by decide) 0xFFFFFFFE
  obtain ⟨hnodup, -, -, hends⟩ := hconcurrent [0, 1, 0]
  have hcoherent : wornDevice.Coherent :=
    (Device.coherent_new "" Device.defaultMaxTransfer []).congr Reassembler.wellKept_empty rfl rfl rfl
  obtain ⟨fresh, hfresh, -, hdistinct, -⟩ := hdevice wornDevice lateRequests hcoherent rfl rfl
  exact ⟨by decide +kernel, hnodup, (hends 0).2 (by decide), by decide +kernel, fresh, hfresh, hdistinct⟩

end SimPhonebook
