import Mathlib.Data.List.Dedup
import Mathlib.Data.List.FinRange
import Mathlib.Data.List.ReduceOption
import SimPhonebook.Proofs.Fragmentation
import SimPhonebook.Proofs.Framing

/-!
# Several messages over one stream

Messages that are cut into frames and sent over one stream, their frames mixed in any way that keeps the frames of each
message in order, arrive as they were sent. Each comes out where its last frame stands, and nothing is left behind.

The invariant is `Outstanding`: at any place, each message has some last frames still to come, and those, fed to what is
collected for it, would deliver it. A frame moves one message on (`Outstanding.step`) and does not touch what the others
have collected, since the messages that use the table have different transaction IDs.
-/

namespace SimPhonebook

open Octets Reassembler

/-- The frames one after the other through a reassembler, with the answer to each: an error, nothing yet, or what reading
the completed message gives. -/
def Reassembler.read (r : Reassembler) :
    List Octets → Reassembler × List (Except ReassemblyError (Option (Except DecodeError Message)))
  | [] => (r, [])
  | f :: fs =>
    (((r.add f).1.read fs).1, (r.add f).2.map (·.map Message.decode) :: ((r.add f).1.read fs).2)

section Places
variable {ι : Type} [DecidableEq ι]

/-- At each place of a list, what stands there if it does not come again later. -/
def lastPlaces : List ι → List (Option ι)
  | [] => []
  | i :: rest => (if i ∈ rest then none else some i) :: lastPlaces rest

theorem reduceOption_lastPlaces : ∀ l : List ι, (lastPlaces l).reduceOption = l.dedup
  | [] => rfl
  | i :: rest => by
    by_cases h : i ∈ rest
    · rw [lastPlaces, if_pos h, List.reduceOption_cons_of_none, List.dedup_cons_of_mem h, reduceOption_lastPlaces rest]
    · rw [lastPlaces, if_neg h, List.reduceOption_cons_of_some, List.dedup_cons_of_notMem h,
        reduceOption_lastPlaces rest]

/-- The frames of one message among those that arrive. -/
def framesFrom (i : ι) (arrivals : List (ι × Octets)) : List Octets := (arrivals.filter (·.1 = i)).map (·.2)

theorem framesFrom_cons_self (i : ι) (f : Octets) (arrivals : List (ι × Octets)) :
    framesFrom i ((i, f) :: arrivals) = f :: framesFrom i arrivals := by
  simp [framesFrom]

theorem framesFrom_cons_of_ne {i j : ι} (h : j ≠ i) (f : Octets) (arrivals : List (ι × Octets)) :
    framesFrom i ((j, f) :: arrivals) = framesFrom i arrivals := by
  simp [framesFrom, h]

theorem framesFrom_eq_nil_iff {i : ι} {arrivals : List (ι × Octets)} :
    framesFrom i arrivals = [] ↔ i ∉ arrivals.map (·.1) := by
  rw [framesFrom, List.map_eq_nil_iff, List.filter_eq_nil_iff]
  constructor
  · intro h hi
    obtain ⟨a, ha, rfl⟩ := List.mem_map.1 hi
    exact h a ha (by simp)
  · intro h a ha hi
    exact h (List.mem_map.2 ⟨a, ha, by simpa using hi⟩)

theorem mem_framesFrom {i : ι} {f : Octets} {arrivals : List (ι × Octets)} (h : (i, f) ∈ arrivals) :
    f ∈ framesFrom i arrivals :=
  List.mem_map.2 ⟨(i, f), List.mem_filter.2 ⟨h, by simp⟩, rfl⟩

end Places

/-! ## One message on its way -/

/-- The frames `rest` of a message are still to come, and `slot` is what is collected under its transaction ID. -/
structure Outstanding (m : Message) (slot : Option Collected) (rest : List Octets) : Prop where
  carried : ∀ f ∈ rest, carries m.transaction f = true
  fragmented : m.type.isFragmented = true → rest = [] ∧ slot = none ∨ Delivers m.encode slot rest
  unfragmented : m.type.isFragmented = false → rest = [] ∨ rest = [m.encode]

/-- Before the first frame. -/
theorem outstanding_fragments {m : Message} (h : m.Canonical) {limit : Int} {frames : List Octets}
    (hframes : m.fragments limit = .ok frames) : Outstanding m none frames where
  carried _ hf := (Message.carries_of_mem_fragments hframes hf).1
  fragmented hfrag := Or.inr (fragments_deliver h hfrag hframes)
  unfragmented hfrag := by
    rcases Message.fragments_cases hframes with h | ⟨hfrag', -⟩
    · exact Or.inr h
    · rw [hfrag] at hfrag'
      cases hfrag'

/-- A message without a fragment header does not use the table. -/
theorem Outstanding.anySlot {m : Message} {slot : Option Collected} {rest : List Octets} (h : Outstanding m slot rest)
    (hfrag : m.type.isFragmented = false) (slot' : Option Collected) : Outstanding m slot' rest where
  carried := h.carried
  fragmented hfrag' := by rw [hfrag] at hfrag'; cases hfrag'
  unfragmented := h.unfragmented

/-- One frame: there is an answer exactly when it was the last. -/
theorem Outstanding.step {m : Message} (hm : m.Canonical) {slot : Option Collected} {f : Octets} {rest : List Octets}
    (h : Outstanding m slot (f :: rest)) :
    ∃ slot', advance slot f = (slot', .ok (if rest = [] then some m.encode else none)) ∧ Outstanding m slot' rest ∧
      (m.type.isFragmented = false → slot' = slot) := by
  have hcarried : ∀ g ∈ rest, carries m.transaction g = true := fun g hg => h.carried g (List.mem_cons_of_mem _ hg)
  rcases Bool.eq_false_or_eq_true m.type.isFragmented with hfrag | hfrag
  · have hnot : m.type.isFragmented ≠ false := by rw [hfrag]; decide
    rcases h.fragmented hfrag with ⟨hnil, -⟩ | hdelivers
    · cases hnil
    cases rest with
    | nil =>
      exact ⟨none, hdelivers, ⟨hcarried, fun _ => Or.inl ⟨rfl, rfl⟩, fun h' => absurd h' hnot⟩,
        fun h' => absurd h' hnot⟩
    | cons g rest =>
      rw [Delivers] at hdelivers
      obtain ⟨slot', hadvance, hrest⟩ := hdelivers
      exact ⟨slot', hadvance, ⟨hcarried, fun _ => Or.inr hrest, fun h' => absurd h' hnot⟩, fun h' => absurd h' hnot⟩
  · have hnot : m.type.isFragmented ≠ true := by rw [hfrag]; decide
    rcases h.unfragmented hfrag with hnil | hone
    · cases hnil
    · cases hone
      have htype : MessageType.ofCode (m.encode.wordAt 0) = m.type := by
        rw [m.encode_eq, wordAt_headerOctets_type, MessageType.ofCode_code_of_isKnown hm.known]
      refine ⟨slot, ?_, ⟨hcarried, fun h' => absurd h' hnot, fun _ => Or.inl rfl⟩, fun _ => rfl⟩
      exact advance_of_not_isFragmented m.headerSize_le_length_encode (by rw [htype, hfrag]) slot

/-! ## All messages -/

section Many
variable {ι : Type} [DecidableEq ι] {m : ι → Message}

/-- Every message is on its way, and the table holds nothing else. -/
structure AllOutstanding (m : ι → Message) (r : Reassembler) (arrivals : List (ι × Octets)) : Prop where
  each : ∀ i, Outstanding (m i) (r.slot (m i).transaction) (framesFrom i arrivals)
  only : ∀ t c, r.slot t = some c → ∃ i, (m i).type.isFragmented = true ∧ (m i).transaction = t

theorem AllOutstanding.slot_eq_none {r : Reassembler} (h : AllOutstanding m r []) (t : UInt32) : r.slot t = none := by
  cases hslot : r.slot t with
  | none => rfl
  | some c =>
    obtain ⟨i, hfrag, rfl⟩ := h.only t c hslot
    rcases (h.each i).fragmented hfrag with ⟨-, hnone⟩ | hdelivers
    · rw [hslot] at hnone
      cases hnone
    · cases hdelivers

/-- A frame answers for its own message and leaves the others where they are. -/
theorem AllOutstanding.step (hm : ∀ i, (m i).Canonical)
    (distinct : ∀ i j, (m i).type.isFragmented = true → (m j).type.isFragmented = true →
      (m i).transaction = (m j).transaction → i = j)
    {r : Reassembler} {i : ι} {f : Octets} {arrivals : List (ι × Octets)} (h : AllOutstanding m r ((i, f) :: arrivals)) :
    (r.add f).2 = .ok (if i ∈ arrivals.map (·.1) then none else some (m i).encode) ∧
    AllOutstanding m (r.add f).1 arrivals := by
  have hi := h.each i
  rw [framesFrom_cons_self] at hi
  have htransaction : f.wordAt 8 = (m i).transaction := (carries_iff.1 (hi.carried f (List.mem_cons_self ..))).2
  obtain ⟨slot', hadvance, hrest, hsame⟩ := hi.step (hm i)
  have hslot : ∀ t, (r.add f).1.slot t = if t = (m i).transaction then slot' else r.slot t := by
    intro t
    rw [slot_add, htransaction, hadvance]
  refine ⟨?_, fun j => ?_, fun t c hc => ?_⟩
  · rw [answer_add, htransaction, hadvance]
    simp only [framesFrom_eq_nil_iff, ite_not]
  · rw [hslot]
    by_cases hij : j = i
    · subst hij
      rwa [if_pos rfl]
    · have hj := h.each j
      rw [framesFrom_cons_of_ne (Ne.symm hij)] at hj
      cases hfragj : (m j).type.isFragmented with
      | false => exact hj.anySlot hfragj _
      | true =>
        split
        · rename_i heq
          -- both in the table under one ID: then `i` does not use the table, and the slot stays
          cases hfragi : (m i).type.isFragmented with
          | true => exact absurd (distinct j i hfragj hfragi heq) hij
          | false => rwa [hsame hfragi, ← heq]
        · exact hj
  · rw [hslot] at hc
    split at hc
    · rename_i heq
      cases hfragi : (m i).type.isFragmented with
      | true => exact ⟨i, hfragi, heq.symm⟩
      | false =>
        rw [hsame hfragi, ← heq] at hc
        exact h.only t c hc
    · exact h.only t c hc

/-- All the frames: the messages come out at their last frames, and the table is empty in the end. -/
theorem AllOutstanding.run (hm : ∀ i, (m i).Canonical)
    (distinct : ∀ i j, (m i).type.isFragmented = true → (m j).type.isFragmented = true →
      (m i).transaction = (m j).transaction → i = j) :
    ∀ (arrivals : List (ι × Octets)) {r : Reassembler}, AllOutstanding m r arrivals →
      (r.read (arrivals.map (·.2))).2 =
        (lastPlaces (arrivals.map (·.1))).map (fun place => .ok (place.map fun i => .ok (m i))) ∧
      AllOutstanding m (r.read (arrivals.map (·.2))).1 []
  | [], _, h => ⟨rfl, h⟩
  | (i, f) :: arrivals, r, h => by
    obtain ⟨hanswer, hrest⟩ := h.step hm distinct
    obtain ⟨hanswers, hlast⟩ := AllOutstanding.run hm distinct arrivals hrest
    refine ⟨?_, hlast⟩
    have hhead : (r.add f).2.map (·.map Message.decode) =
        .ok ((if i ∈ arrivals.map (·.1) then none else some i).map fun i => .ok (m i)) := by
      rw [hanswer]
      split
      · rfl
      · simp only [Except.map, Option.map_some, Message.decode_encode (hm i)]
    simp only [List.map_cons, Reassembler.read, lastPlaces, hhead, hanswers]

end Many

/-! ## The whole way -/

theorem isFrame_of_mem_fragments {m : Message} {limit : Int} {frames : List Octets}
    (h : m.fragments limit = .ok frames) {f : Octets} (hf : f ∈ frames) (hsize : f.length ≤ Stream.maxFrameSize) :
    Stream.IsFrame f := by
  obtain ⟨hcarries, hlength⟩ := Message.carries_of_mem_fragments h hf
  refine ⟨(carries_iff.1 hcarries).1, hsize, ?_⟩
  rw [hlength, toNat_ofNat_of_lt (Nat.lt_of_le_of_lt hsize (by decide))]

theorem fragments_ne_nil {m : Message} {limit : Int} {frames : List Octets} (h : m.fragments limit = .ok frames) :
    frames ≠ [] := by
  rcases Message.fragments_cases h with rfl | ⟨-, contents, hparts, rfl⟩
  · exact List.cons_ne_nil _ _
  · have := hparts.several
    rw [← List.length_pos_iff, Message.framesOf, List.length_mapIdx]
    omega

/-- **Any mixture of the frames of several messages arrives as those messages.** The stream is read frame by frame to its
end; the reassembler gives no error; the messages that come out are the ones sent, each once and at its last frame; and
nothing is left that waits for fragments. -/
theorem interleaved_frames_deliver {k : Nat} (m : Fin k → Message) (limit : Fin k → Int) (frames : Fin k → List Octets)
    (canonical : ∀ i, (m i).Canonical) (cut : ∀ i, (m i).fragments (limit i) = .ok (frames i))
    (fit : ∀ i, ∀ f ∈ frames i, f.length ≤ Stream.maxFrameSize)
    (distinct : ∀ i j, (m i).type.isFragmented = true → (m j).type.isFragmented = true →
      (m i).transaction = (m j).transaction → i = j)
    (arrivals : List (Fin k × Octets)) (order : ∀ i, framesFrom i arrivals = frames i) :
    Stream.frames (arrivals.map (·.2)).flatten (some .closed) = (arrivals.map (·.2), .failed (.stopped .ended) []) ∧
    (empty.read (arrivals.map (·.2))).2 =
      (lastPlaces (arrivals.map (·.1))).map (fun place => .ok (place.map fun i => .ok (m i))) ∧
    (lastPlaces (arrivals.map (·.1))).reduceOption.Perm (List.finRange k) ∧
    (empty.read (arrivals.map (·.2))).1.pending = 0 := by
  have hstart : AllOutstanding m empty arrivals :=
    ⟨fun i => by rw [order]; exact outstanding_fragments (canonical i) (cut i), fun _ _ h => by cases h⟩
  obtain ⟨hanswers, hlast⟩ := AllOutstanding.run canonical distinct arrivals hstart
  refine ⟨Stream.frames_flatten fun f hf => ?_, hanswers, ?_, ?_⟩
  · obtain ⟨⟨i, g⟩, hg, rfl⟩ := List.mem_map.1 hf
    have hmem : g ∈ frames i := order i ▸ mem_framesFrom hg
    exact isFrame_of_mem_fragments (cut i) hmem (fit i g hmem)
  · rw [reduceOption_lastPlaces, List.perm_ext_iff_of_nodup (List.nodup_dedup _) (List.nodup_finRange k)]
    intro i
    have hi : i ∈ arrivals.map (·.1) := by
      by_contra hnot
      exact fragments_ne_nil (cut i) ((order i).symm.trans (framesFrom_eq_nil_iff.2 hnot))
    simp [hi, List.mem_dedup, List.mem_finRange]
  · rw [pending, TransactionTable.size, TransactionTable.entries_eq_nil hlast.slot_eq_none]
    rfl

/-- A command and an indication that are sent in two pieces each, and under the ID of the command a message that has no
fragment header. -/
def mixedMessages : Fin 3 → Message
  | 0 => ⟨7, .command .phonebookRead .query [1, 2, 3, 4, 5, 6, 7, 8, 9, 10]⟩
  | 1 => ⟨0, .indication .phonebookWrite [1, 2, 3, 4, 5, 6]⟩
  | 2 => ⟨7, .closeRequest⟩

def mixedLimits : Fin 3 → Int
  | 0 => 50
  | 1 => 45
  | 2 => 1

/-- Their frames, the pieces of the command around all others. -/
def mixedArrivals : List (Fin 3 × Octets) :=
  [(0, (mixedMessages 0).fragment 2 0 (((mixedMessages 0).encode.take 50).drop 20)),
    (1, (mixedMessages 1).fragment 2 0 (((mixedMessages 1).encode.take 45).drop 20)),
    (2, (mixedMessages 2).encode),
    (1, (mixedMessages 1).fragment 2 1 ((mixedMessages 1).encode.drop 45)),
    (0, (mixedMessages 0).fragment 2 1 ((mixedMessages 0).encode.drop 50))]

theorem mixedArrivals_deliver :
    Stream.frames (mixedArrivals.map (·.2)).flatten (some .closed) =
      (mixedArrivals.map (·.2), .failed (.stopped .ended) []) ∧
    (empty.read (mixedArrivals.map (·.2))).2 =
      [.ok none, .ok none, .ok (some (.ok (mixedMessages 2))), .ok (some (.ok (mixedMessages 1))),
        .ok (some (.ok (mixedMessages 0)))] ∧
    (empty.read (mixedArrivals.map (·.2))).1.pending = 0 := by
  have h := interleaved_frames_deliver mixedMessages mixedLimits (fun i => framesFrom i mixedArrivals)
    (fun | 0 => ⟨rfl, by decide⟩ | 1 => ⟨rfl, by decide⟩ | 2 => ⟨rfl, by decide⟩)
    (fun | 0 => by decide +kernel | 1 => by decide +kernel | 2 => rfl) (by decide +kernel) (by decide) mixedArrivals
    (fun _ => rfl)
  exact ⟨h.1, h.2.1, h.2.2.2⟩

end SimPhonebook
