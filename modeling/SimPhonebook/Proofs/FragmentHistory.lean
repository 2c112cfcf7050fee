import Mathlib.Data.List.Induction
import SimPhonebook.Proofs.Reassembly

/-!
# What a reassembler has seen

Whatever frames a reassembler is fed, what it has collected for a transaction is explained by them: a fragment that found
nothing collected and was the first of its message, and all fragments of the transaction since then, which follow it in
sequence (`slot_eq_some_iff`). So is every message it completes from several fragments (`completed_of_add`).

`Takes` lists what a fragment can do to the slot of its transaction. Both results follow the history from its end with one
case for each of its constructors.
-/

namespace SimPhonebook.Reassembler

open Octets

/-! ## Fragments of a transaction -/

/-- Whether a frame is a fragment of the transaction: both headers are there, the type has fragments, and the ID is right. -/
def isFragmentOf (t : UInt32) (frame : Octets) : Bool :=
  headerSize + fragmentHeaderSize ≤ frame.length && (MessageType.ofCode (frame.wordAt 0)).isFragmented &&
    frame.wordAt 8 == t

theorem isFragmentOf_iff {t : UInt32} {frame : Octets} :
    isFragmentOf t frame = true ↔ headerSize + fragmentHeaderSize ≤ frame.length ∧
      (MessageType.ofCode (frame.wordAt 0)).isFragmented = true ∧ frame.wordAt 8 = t := by
  simp [isFragmentOf, and_assoc]

/-- The fragments of a transaction among some frames. -/
def fragmentsOf (t : UInt32) (frames : List Octets) : List Octets := frames.filter (isFragmentOf t)

/-- What a fragment does to what is collected for its transaction, and the answer to it. -/
inductive Takes (frame : Octets) :
    Option Collected → Option Collected → Except ReassemblyError (Option Octets) → Prop
  | single (slot : Option Collected) (htotal : ¬1 < frame.wordAt 12) : Takes frame slot none (.ok (some frame))
  | late (htotal : 1 < frame.wordAt 12) (hnumber : frame.wordAt 16 ≠ 0) :
    Takes frame none none (.error (.startsLate (frame.wordAt 8) (frame.wordAt 16)))
  | opens (htotal : 1 < frame.wordAt 12) (hnumber : frame.wordAt 16 = 0) :
    Takes frame none (some ⟨frame.wordAt 12, 1, frame⟩) (.ok none)
  | breaks (c : Collected) (htotal : 1 < frame.wordAt 12)
      (hdiffers : frame.wordAt 16 ≠ c.next ∨ frame.wordAt 12 ≠ c.total) :
    Takes frame (some c) none
      (.error (.outOfSequence (frame.wordAt 8) (frame.wordAt 16) (frame.wordAt 12) c.next c.total))
  | grows (c : Collected) (htotal : 1 < frame.wordAt 12) (hnumber : frame.wordAt 16 = c.next)
      (hsame : frame.wordAt 12 = c.total) (hmore : c.next + 1 < c.total) :
    Takes frame (some c) (some ⟨c.total, c.next + 1, c.data ++ frame.drop (headerSize + fragmentHeaderSize)⟩) (.ok none)
  | completes (c : Collected) (htotal : 1 < frame.wordAt 12) (hnumber : frame.wordAt 16 = c.next)
      (hsame : frame.wordAt 12 = c.total) (hlast : ¬c.next + 1 < c.total) :
    Takes frame (some c) none (.ok (some (whole (c.data ++ frame.drop (headerSize + fragmentHeaderSize)))))

theorem takes_advance {t : UInt32} {frame : Octets} (h : isFragmentOf t frame = true) (slot : Option Collected) :
    Takes frame slot (advance slot frame).1 (advance slot frame).2 := by
  obtain ⟨hlength, htype, -⟩ := isFragmentOf_iff.1 h
  have hheader : ¬frame.length < headerSize := Nat.not_lt.2 (Nat.le_trans (Nat.le_add_right _ _) hlength)
  unfold advance
  rw [if_neg hheader, if_neg (by simp [htype]), if_neg (by omega)]
  by_cases htotal : frame.wordAt 12 ≤ 1
  · rw [if_pos htotal]
    exact .single slot (UInt32.not_lt.2 htotal)
  rw [if_neg htotal]
  rw [UInt32.not_le] at htotal
  cases slot with
  | none =>
    by_cases hnumber : frame.wordAt 16 = 0
    · simp only [hnumber, ne_eq, not_true_eq_false, if_false]
      exact .opens htotal hnumber
    · simp only [ne_eq, hnumber, not_false_eq_true, if_true]
      exact .late htotal hnumber
  | some c =>
    by_cases hdiffers : frame.wordAt 16 ≠ c.next ∨ frame.wordAt 12 ≠ c.total
    · simp only [hdiffers, if_true]
      exact .breaks c htotal hdiffers
    · simp only [hdiffers, if_false]
      rw [not_or, not_not, not_not] at hdiffers
      by_cases hmore : c.next + 1 < c.total
      · simp only [hmore, if_true]
        exact .grows c htotal hdiffers.1 hdiffers.2 hmore
      · simp only [hmore, if_false]
        exact .completes c htotal hdiffers.1 hdiffers.2 hmore

theorem Takes.of_first {frame : Octets} {slot : Option Collected} {answer : Except ReassemblyError (Option Octets)}
    (h : Takes frame none slot answer) (htotal : 1 < frame.wordAt 12) (hnumber : frame.wordAt 16 = 0) :
    slot = some ⟨frame.wordAt 12, 1, frame⟩ := by
  cases h with
  | single _ hsingle => exact absurd htotal hsingle
  | late _ hlate => exact absurd hnumber hlate
  | opens => rfl

/-- Other frames leave the slot of their transaction. -/
theorem advance_of_not_isFragmentOf {frame : Octets} (h : isFragmentOf (frame.wordAt 8) frame = false)
    (slot : Option Collected) : (advance slot frame).1 = slot := by
  unfold advance
  split
  · rfl
  split
  · rfl
  split
  · rfl
  · rename_i _ htype hlength
    have htrue : isFragmentOf (frame.wordAt 8) frame = true :=
      isFragmentOf_iff.2 ⟨Nat.le_of_not_lt hlength, by simpa using htype, rfl⟩
    rw [htrue] at h
    cases h

theorem slot_add_of_not_isFragmentOf (r : Reassembler) {t : UInt32} {frame : Octets} (h : isFragmentOf t frame = false) :
    (r.add frame).1.slot t = r.slot t := by
  rw [slot_add]
  split
  · rename_i ht
    subst ht
    exact advance_of_not_isFragmentOf h _
  · rfl

theorem takes_add (r : Reassembler) {t : UInt32} {frame : Octets} (h : isFragmentOf t frame = true) :
    Takes frame (r.slot t) ((r.add frame).1.slot t) (r.add frame).2 := by
  have ht := (isFragmentOf_iff.1 h).2.2
  rw [slot_add, answer_add, ht, if_pos rfl]
  exact takes_advance h _

/-! ## Sequences of fragments -/

/-- The fragments are numbered from zero, and all give the same total. -/
def InSequence (total : UInt32) (run : List Octets) : Prop :=
  ∀ (i : Nat) (f : Octets), run[i]? = some f → (f.wordAt 16).toNat = i ∧ f.wordAt 12 = total

theorem inSequence_concat {total : UInt32} {run : List Octets} {f : Octets} :
    InSequence total (run ++ [f]) ↔ InSequence total run ∧ (f.wordAt 16).toNat = run.length ∧ f.wordAt 12 = total := by
  constructor
  · intro h
    refine ⟨fun i g hg => h i g ?_, h run.length f (by simp)⟩
    rw [List.getElem?_append_left (List.getElem?_eq_some_iff.1 hg).1, hg]
  · rintro ⟨h, hnumber, htotal⟩ i g hg
    by_cases hi : i < run.length
    · rw [List.getElem?_append_left hi] at hg
      exact h i g hg
    · rw [List.getElem?_append_right (by omega), List.getElem?_singleton] at hg
      split at hg
      · cases hg
        exact ⟨by omega, htotal⟩
      · cases hg

theorem inSequence_singleton {total : UInt32} {f : Octets} :
    InSequence total [f] ↔ (f.wordAt 16).toNat = 0 ∧ f.wordAt 12 = total := by
  have hnil : InSequence total [] := fun i g hg => by cases hg
  rw [← List.nil_append [f], inSequence_concat]
  exact and_iff_right hnil

/-- The first fragment, and behind it what the others hold behind their two headers. -/
def joined : List Octets → Octets
  | [] => []
  | first :: rest => first ++ rest.flatMap (·.drop (headerSize + fragmentHeaderSize))

theorem joined_concat {run : List Octets} (hrun : run ≠ []) (f : Octets) :
    joined (run ++ [f]) = joined run ++ f.drop (headerSize + fragmentHeaderSize) := by
  cases run with
  | nil => exact absurd rfl hrun
  | cons first rest => simp [joined]

/-- The run of fragments of a transaction that began when nothing was collected for it, and goes on to the end of the
history. -/
def Since (t : UInt32) (history run : List Octets) : Prop :=
  ∃ before first after, history = before ++ first :: after ∧ (empty.feed before).slot t = none ∧
    isFragmentOf t first = true ∧ run = first :: fragmentsOf t after

section Since
variable {t : UInt32} {history run : List Octets}

/-- The fragments of such a run are the latest of their transaction. -/
theorem Since.isSuffix (h : Since t history run) : run <:+ fragmentsOf t history := by
  obtain ⟨before, first, after, rfl, -, hfirst, rfl⟩ := h
  refine ⟨fragmentsOf t before, ?_⟩
  rw [fragmentsOf, fragmentsOf, fragmentsOf, List.filter_append, List.filter_cons_of_pos hfirst]

theorem Since.ne_nil (h : Since t history run) : run ≠ [] := by
  obtain ⟨before, first, after, -, -, -, rfl⟩ := h
  exact List.cons_ne_nil _ _

theorem since_concat {frame : Octets} (hslot : (empty.feed history).slot t = none) (h : isFragmentOf t frame = true) :
    Since t (history ++ [frame]) [frame] :=
  ⟨history, frame, [], rfl, hslot, h, rfl⟩

theorem Since.concat (h : Since t history run) (frame : Octets) :
    Since t (history ++ [frame]) (run ++ fragmentsOf t [frame]) := by
  obtain ⟨before, first, after, rfl, hslot, hfirst, rfl⟩ := h
  refine ⟨before, first, after ++ [frame], by simp, hslot, hfirst, ?_⟩
  simp [fragmentsOf, List.filter_append]

theorem fragmentsOf_singleton {frame : Octets} (h : isFragmentOf t frame = true) : fragmentsOf t [frame] = [frame] :=
  List.filter_cons_of_pos h

theorem fragmentsOf_singleton_of_not {frame : Octets} (h : isFragmentOf t frame = false) : fragmentsOf t [frame] = [] :=
  List.filter_cons_of_neg (by simp [h])

end Since

theorem feed_concat (r : Reassembler) (history : List Octets) (frame : Octets) :
    r.feed (history ++ [frame]) = ((r.feed history).add frame).1 := feed_append r history [frame]

/-! ## What is collected -/

/-- What has been collected from the fragments of a run. -/
structure MadeOf (run : List Octets) (c : Collected) : Prop where
  count : run.length = c.next.toNat
  unfinished : c.next.toNat < c.total.toNat
  sequence : InSequence c.total run
  data : c.data = joined run

/-- A fragment that is due prolongs the run. -/
theorem MadeOf.concat {run : List Octets} {c : Collected} (h : MadeOf run c) (hrun : run ≠ []) {frame : Octets}
    (hnumber : frame.wordAt 16 = c.next) (hsame : frame.wordAt 12 = c.total) :
    (run ++ [frame]).length = c.next.toNat + 1 ∧ InSequence c.total (run ++ [frame]) ∧
      joined (run ++ [frame]) = c.data ++ frame.drop (headerSize + fragmentHeaderSize) := by
  refine ⟨by rw [List.length_append, h.count, List.length_singleton], ?_, by rw [joined_concat hrun, h.data]⟩
  exact inSequence_concat.2 ⟨h.sequence, by rw [hnumber, h.count], hsame⟩

theorem toNat_succ_of_lt {next total : UInt32} (h : next.toNat < total.toNat) : (next + 1).toNat = next.toNat + 1 := by
  have := total.toNat_lt
  rw [UInt32.toNat_add, Nat.mod_eq_of_lt (by simp; omega)]
  rfl

/-- The fragment that continues a run adds to what is collected from it, or completes the message. -/
theorem Takes.of_sequence {frame : Octets} {slot : Option Collected} {answer : Except ReassemblyError (Option Octets)}
    {total : UInt32} {run : List Octets}
    (h : Takes frame (some ⟨total, UInt32.ofNat run.length, joined run⟩) slot answer) (hrun : run ≠ [])
    (hcount : run.length < total.toNat) (hsequence : InSequence total (run ++ [frame])) :
    (run.length + 1 < total.toNat ∧ slot = some ⟨total, UInt32.ofNat (run.length + 1), joined (run ++ [frame])⟩) ∨
    (run.length + 1 = total.toNat ∧ answer = .ok (some (whole (joined (run ++ [frame]))))) := by
  obtain ⟨-, hnumber, rfl⟩ := inSequence_concat.1 hsequence
  have hpos := List.length_pos_iff.2 hrun
  have hlt := (frame.wordAt 12).toNat_lt
  have hnext : (UInt32.ofNat run.length).toNat = run.length := toNat_ofNat_of_lt (by omega)
  have hmore : UInt32.ofNat run.length + 1 < frame.wordAt 12 ↔ run.length + 1 < (frame.wordAt 12).toNat := by
    have hlt : (UInt32.ofNat run.length).toNat < (frame.wordAt 12).toNat := by omega
    rw [UInt32.lt_iff_toNat_lt, toNat_succ_of_lt hlt, hnext]
  rw [joined_concat hrun]
  cases h with
  | single _ hsingle => exact absurd (UInt32.lt_iff_toNat_lt.2 (Nat.lt_of_le_of_lt hpos hcount)) hsingle
  | breaks _ _ hdiffers =>
    rcases hdiffers with hdiffers | hdiffers
    · exact absurd (UInt32.toNat_inj.1 (hnumber.trans hnext.symm)) hdiffers
    · exact absurd rfl hdiffers
  | grows _ _ _ _ hgrows =>
    refine Or.inl ⟨hmore.1 hgrows, ?_⟩
    rw [UInt32.ofNat_add]
    rfl
  | completes _ _ _ _ hlast =>
    rw [hmore] at hlast
    exact Or.inr ⟨by omega, rfl⟩

theorem exists_since_of_slot {t : UInt32} {history : List Octets} {c : Collected}
    (h : (empty.feed history).slot t = some c) : ∃ run, Since t history run ∧ MadeOf run c := by
  -- The last frame has left something collected: it has begun a run or prolonged one, or it is not of the transaction.
  induction history using List.reverseRecOn generalizing c with
  | nil => cases h
  | append_singleton history frame ih =>
    rw [feed_concat] at h
    by_cases hframe : isFragmentOf t frame = true
    · have htakes := takes_add (empty.feed history) hframe
      generalize hslot : (empty.feed history).slot t = slot at htakes
      generalize ((empty.feed history).add frame).2 = answer at htakes
      rw [h] at htakes
      cases htakes with
      | opens htotal hnumber =>
        refine ⟨[frame], since_concat hslot hframe, rfl, UInt32.lt_iff_toNat_lt.1 htotal, ?_, by simp [joined]⟩
        exact inSequence_singleton.2 ⟨by rw [hnumber]; rfl, rfl⟩
      | grows c htotal hnumber hsame hmore =>
        obtain ⟨run, hsince, hmade⟩ := ih hslot
        obtain ⟨hcount, hsequence, hdata⟩ := hmade.concat hsince.ne_nil hnumber hsame
        have hsince' := hsince.concat frame
        rw [fragmentsOf_singleton hframe] at hsince'
        refine ⟨_, hsince', ?_, UInt32.lt_iff_toNat_lt.1 hmore, hsequence, hdata.symm⟩
        rw [hcount, toNat_succ_of_lt hmade.unfinished]
    · have hother : isFragmentOf t frame = false := by simpa using hframe
      rw [slot_add_of_not_isFragmentOf _ hother] at h
      obtain ⟨run, hsince, hmade⟩ := ih h
      have hsince' := hsince.concat frame
      rw [fragmentsOf_singleton_of_not hother, List.append_nil] at hsince'
      exact ⟨run, hsince', hmade⟩

theorem slot_of_since {t : UInt32} {history run : List Octets} {total : UInt32} (h : Since t history run)
    (hsequence : InSequence total run) (hcount : run.length < total.toNat) :
    (empty.feed history).slot t = some ⟨total, UInt32.ofNat run.length, joined run⟩ := by
  obtain ⟨before, first, after, rfl, hslot, hfirst, rfl⟩ := h
  have hseveral : 1 < total := by
    rw [List.length_cons] at hcount
    exact UInt32.lt_iff_toNat_lt.2 (Nat.lt_of_le_of_lt (Nat.le_add_left 1 _) hcount)
  -- As long as the fragments are in sequence and some are missing, each of them is the one that is due.
  induction after using List.reverseRecOn with
  | nil =>
    obtain ⟨hnumber, rfl⟩ := inSequence_singleton.1 hsequence
    have htakes := takes_add (empty.feed before) hfirst
    rw [hslot] at htakes
    rw [feed_concat, htakes.of_first hseveral (UInt32.toNat_inj.1 hnumber)]
    simp [joined, fragmentsOf]
  | append_singleton after frame ih =>
    rw [← List.cons_append, ← List.append_assoc, feed_concat]
    by_cases hframe : isFragmentOf t frame = true
    · have hrun : first :: fragmentsOf t (after ++ [frame]) = first :: fragmentsOf t after ++ [frame] := by
        simp [fragmentsOf, hframe]
      rw [hrun] at hsequence hcount ⊢
      rw [List.length_append, List.length_singleton] at hcount ⊢
      have htakes := takes_add (empty.feed (before ++ first :: after)) hframe
      rw [ih (inSequence_concat.1 hsequence).1 (by omega)] at htakes
      rcases htakes.of_sequence (List.cons_ne_nil _ _) (by omega) hsequence with ⟨-, hgrown⟩ | ⟨hlast, -⟩
      · exact hgrown
      · omega
    · have hother : isFragmentOf t frame = false := by simpa using hframe
      have hrun : fragmentsOf t (after ++ [frame]) = fragmentsOf t after := by simp [fragmentsOf, hother]
      rw [hrun] at hsequence hcount ⊢
      rw [slot_add_of_not_isFragmentOf _ hother]
      exact ih hsequence hcount

/-- What has been collected for a transaction is accounted for by the history. -/
structure Collects (t : UInt32) (history : List Octets) (c : Collected) : Prop where
  several : 2 ≤ c.total.toNat
  started : 1 ≤ c.next.toNat
  unfinished : c.next.toNat < c.total.toNat
  long : headerSize + fragmentHeaderSize ≤ c.data.length
  origin : ∃ run, Since t history run ∧ run <:+ fragmentsOf t history ∧ run.length = c.next.toNat ∧
    InSequence c.total run ∧ c.data = joined run

theorem Since.long {t : UInt32} {history run : List Octets} (h : Since t history run) :
    1 ≤ run.length ∧ headerSize + fragmentHeaderSize ≤ (joined run).length := by
  obtain ⟨before, first, after, -, -, hfirst, rfl⟩ := h
  have hlength := (isFragmentOf_iff.1 hfirst).1
  constructor
  · simp
  · rw [joined, List.length_append]
    omega

/-- **What is collected for a transaction** are its latest fragments, the first of which found nothing collected. -/
theorem slot_eq_some_iff {t : UInt32} {history : List Octets} {c : Collected} :
    (empty.feed history).slot t = some c ↔ Collects t history c := by
  constructor
  · intro h
    obtain ⟨run, hsince, hmade⟩ := exists_since_of_slot h
    obtain ⟨hcount, hlong⟩ := hsince.long
    rw [hmade.count] at hcount
    have hunfinished := hmade.unfinished
    refine ⟨by omega, hcount, hunfinished, hmade.data ▸ hlong, ?_⟩
    exact ⟨run, hsince, hsince.isSuffix, hmade.count, hmade.sequence, hmade.data⟩
  · rintro ⟨-, -, hunfinished, -, run, hsince, -, hcount, hsequence, hdata⟩
    rw [slot_of_since hsince hsequence (by omega), hcount, UInt32.ofNat_toNat, ← hdata]

/-! ## What is completed -/

/-- A message put together from collected data: it gives its own length and is a single fragment, and all else is as in the
data. -/
structure Restored (data out : Octets) : Prop where
  length : out.length = data.length
  lengthWord : (out.wordAt 4).toNat = out.length % 2 ^ 32
  totalWord : out.wordAt 12 = 1
  numberWord : out.wordAt 16 = 0
  same : ∀ i, i < 4 ∨ 8 ≤ i ∧ i < 12 ∨ 20 ≤ i → out[i]? = data[i]?

theorem restored_whole {data : Octets} (h : headerSize + fragmentHeaderSize ≤ data.length) : Restored data (whole data) := by
  simp only [headerSize, fragmentHeaderSize] at h
  have h4 := length_setWord data 4 (UInt32.ofNat data.length) (by omega)
  have h12 := length_setWord (data.setWord 4 (UInt32.ofNat data.length)) 12 1 (by omega)
  have h16 := length_setWord ((data.setWord 4 (UInt32.ofNat data.length)).setWord 12 1) 16 0 (by omega)
  have hlength : (whole data).length = data.length := by rw [whole, h16, h12, h4]
  refine ⟨hlength, ?_, ?_, ?_, fun i hi => ?_⟩
  · rw [hlength, whole, wordAt_setWord_of_disjoint _ (by omega) (by omega),
      wordAt_setWord_of_disjoint _ (by omega) (by omega), wordAt_setWord_self _ (by omega), UInt32.toNat_ofNat']
  · rw [whole, wordAt_setWord_of_disjoint _ (by omega) (by omega), wordAt_setWord_self _ (by omega)]
  · rw [whole, wordAt_setWord_self _ (by omega)]
  · rw [whole, getElem?_setWord_of_disjoint _ (by omega) (by omega),
      getElem?_setWord_of_disjoint _ (by omega) (by omega), getElem?_setWord_of_disjoint _ (by omega) (by omega)]

/-- The message has been put together from the latest fragments of the transaction, as many as they all say. -/
def Completed (t : UInt32) (history : List Octets) (total : UInt32) (out : Octets) : Prop :=
  ∃ run, Since t history run ∧ run <:+ fragmentsOf t history ∧ run.length = total.toNat ∧ InSequence total run ∧
    Restored (joined run) out

section Complete
variable {t : UInt32} {history : List Octets} {frame : Octets} (hframe : isFragmentOf t frame = true)
  (htotal : 1 < frame.wordAt 12)
include hframe htotal

theorem completed_of_add {out : Octets} (h : ((empty.feed history).add frame).2 = .ok (some out)) :
    Completed t (history ++ [frame]) (frame.wordAt 12) out := by
  have htakes := takes_add (empty.feed history) hframe
  rw [h] at htakes
  generalize hslot : (empty.feed history).slot t = slot at htakes
  generalize ((empty.feed history).add frame).1.slot t = slot' at htakes
  cases htakes with
  | single _ hsingle => exact absurd htotal hsingle
  | completes c _ hnumber hsame hlast =>
    obtain ⟨run, hsince, hmade⟩ := exists_since_of_slot hslot
    obtain ⟨hcount, hsequence, hdata⟩ := hmade.concat hsince.ne_nil hnumber hsame
    have hsince' := hsince.concat frame
    rw [fragmentsOf_singleton hframe] at hsince'
    have hunfinished := hmade.unfinished
    rw [UInt32.lt_iff_toNat_lt, toNat_succ_of_lt hunfinished] at hlast
    refine ⟨_, hsince', hsince'.isSuffix, ?_, hsame ▸ hsequence, ?_⟩
    · rw [hcount, hsame]
      omega
    · rw [← hdata]
      exact restored_whole hsince'.long.2

/-- The last fragment of such a run completes a message. -/
theorem add_completes {run : List Octets} (h : Since t (history ++ [frame]) run)
    (hcount : run.length = (frame.wordAt 12).toNat) (hsequence : InSequence (frame.wordAt 12) run) :
    ∃ out, ((empty.feed history).add frame).2 = .ok (some out) := by
  have hseveral : 1 < (frame.wordAt 12).toNat := UInt32.lt_iff_toNat_lt.1 htotal
  obtain ⟨before, first, after, hhistory, hslot, hfirst, rfl⟩ := h
  rcases List.eq_nil_or_concat after with rfl | ⟨after, last, rfl⟩
  · simp [fragmentsOf] at hcount
    omega
  · rw [List.concat_eq_append] at hhistory hcount hsequence
    rw [← List.cons_append, ← List.append_assoc] at hhistory
    obtain ⟨rfl, hlast⟩ := List.append_inj' hhistory rfl
    cases hlast
    have hrun : first :: fragmentsOf t (after ++ [frame]) = first :: fragmentsOf t after ++ [frame] := by
      simp [fragmentsOf, hframe]
    rw [hrun] at hsequence hcount
    rw [List.length_append, List.length_singleton] at hcount
    have hcollected := slot_of_since ⟨before, first, after, rfl, hslot, hfirst, rfl⟩ (inSequence_concat.1 hsequence).1
      (by omega)
    have htakes := takes_add (empty.feed (before ++ first :: after)) hframe
    rw [hcollected] at htakes
    rcases htakes.of_sequence (List.cons_ne_nil _ _) (by omega) hsequence with ⟨hmore, -⟩ | ⟨-, hanswer⟩
    · omega
    · exact ⟨_, hanswer⟩

end Complete

/-! ## What is refused -/

theorem add_of_short (r : Reassembler) {frame : Octets} (h : frame.length < headerSize + fragmentHeaderSize) :
    (r.add frame).1 = r := by
  unfold add
  rw [if_pos h]
  split
  · rfl
  · split <;> rfl

section Refuse
variable (r : Reassembler) {t : UInt32} {frame : Octets} (hframe : isFragmentOf t frame = true)
  (htotal : 1 < frame.wordAt 12)
include hframe htotal

theorem add_of_late (hslot : r.slot t = none) (hnumber : frame.wordAt 16 ≠ 0) :
    r.add frame = (r, .error (.startsLate t (frame.wordAt 16))) := by
  obtain ⟨hlength, htype, ht⟩ := isFragmentOf_iff.1 hframe
  have hheader : ¬frame.length < headerSize := Nat.not_lt.2 (Nat.le_trans (Nat.le_add_right _ _) hlength)
  have hfind : r.collected.find? t = none := hslot
  unfold add
  rw [if_neg hheader, if_neg (by simp [htype]), if_neg (by omega)]
  simp only [if_neg (UInt32.not_le.2 htotal), join, ht, hfind]
  rw [if_pos hnumber]

theorem add_of_break {c : Collected} (hslot : r.slot t = some c)
    (hdiffers : frame.wordAt 16 ≠ c.next ∨ frame.wordAt 12 ≠ c.total) :
    (r.add frame).2 = .error (.outOfSequence t (frame.wordAt 16) (frame.wordAt 12) c.next c.total) ∧
    ∀ t', (r.add frame).1.slot t' = if t' = t then none else r.slot t' := by
  have ht := (isFragmentOf_iff.1 hframe).2.2
  have htakes := takes_add r hframe
  have hothers (t' : UInt32) (hne : t' ≠ t) : (r.add frame).1.slot t' = r.slot t' := by
    rw [slot_add, if_neg (ht ▸ hne)]
  rw [hslot] at htakes
  generalize hgone : (r.add frame).1.slot t = slot at htakes
  generalize (r.add frame).2 = answer at htakes ⊢
  cases htakes with
  | single _ hsingle => exact absurd htotal hsingle
  | breaks =>
    refine ⟨by rw [ht], fun t' => ?_⟩
    by_cases hsame : t' = t
    · rw [if_pos hsame, hsame, hgone]
    · rw [if_neg hsame, hothers t' hsame]
  | grows _ _ hnumber hsame => exact absurd hdiffers (by simp [hnumber, hsame])
  | completes _ _ hnumber hsame => exact absurd hdiffers (by simp [hnumber, hsame])

end Refuse

/-! ## Every history -/

/-- What holds of a reassembler that has been fed `history`, and of what it does with any frame that comes next. -/
structure Accounts (history : List Octets) (r : Reassembler) : Prop where
  collected : ∀ t c, r.slot t = some c ↔ Collects t history c
  /-- A message is completed from the fragments it says it has. -/
  completed : ∀ t frame out, isFragmentOf t frame = true → 1 < frame.wordAt 12 → (r.add frame).2 = .ok (some out) →
    Completed t (history ++ [frame]) (frame.wordAt 12) out
  /-- Where those have arrived, it is completed. -/
  completes : ∀ t frame run, isFragmentOf t frame = true → 1 < frame.wordAt 12 → Since t (history ++ [frame]) run →
    run.length = (frame.wordAt 12).toNat → InSequence (frame.wordAt 12) run → ∃ out, (r.add frame).2 = .ok (some out)
  others : ∀ (frame : Octets) (t : UInt32), t ≠ frame.wordAt 8 → (r.add frame).1.slot t = r.slot t
  short : ∀ frame : Octets, frame.length < headerSize + fragmentHeaderSize → (r.add frame).1 = r
  late : ∀ t frame, isFragmentOf t frame = true → 1 < frame.wordAt 12 → r.slot t = none → frame.wordAt 16 ≠ 0 →
    r.add frame = (r, .error (.startsLate t (frame.wordAt 16)))
  broken : ∀ t frame c, isFragmentOf t frame = true → 1 < frame.wordAt 12 → r.slot t = some c →
    frame.wordAt 16 ≠ c.next ∨ frame.wordAt 12 ≠ c.total →
    (r.add frame).2 = .error (.outOfSequence t (frame.wordAt 16) (frame.wordAt 12) c.next c.total) ∧
    ∀ t', (r.add frame).1.slot t' = if t' = t then none else r.slot t'

/-- **Whatever frames arrive, a reassembler collects and completes only what they account for**, each transaction on its
own, and a frame that it refuses costs no other transaction anything. -/
theorem accounts_feed (history : List Octets) : Accounts history (empty.feed history) where
  collected _ _ := slot_eq_some_iff
  completed _ _ _ hframe htotal h := completed_of_add hframe htotal h
  completes _ _ _ hframe htotal h hcount hsequence := add_completes hframe htotal h hcount hsequence
  others frame t hne := by rw [slot_add, if_neg hne]
  short _ h := add_of_short _ h
  late _ _ hframe htotal hslot hnumber := add_of_late _ hframe htotal hslot hnumber
  broken _ _ _ hframe htotal hslot hdiffers := add_of_break _ hframe htotal hslot hdiffers

/-- A fragment of a command with one octet in it. -/
def smallFragment (t : UInt32) (total number : Nat) (content : UInt8) : Octets :=
  (⟨t, .command .phonebookRead .query []⟩ : Message).fragment total number [content]

/-- Two transactions mixed, with a frame that starts late and one that is too short. -/
def mixedHistory : List Octets :=
  [smallFragment 7 3 1 0xEE, smallFragment 7 3 0 0xA0, smallFragment 9 2 0 0xB0, [1, 2, 3], smallFragment 7 3 1 0xA1]

/-- Two of the three fragments of transaction 7 are collected, and the third completes them; one of transaction 9 that says
something else about its message loses what was collected for 9. -/
theorem mixedHistory_accounted :
    Collects 7 mixedHistory ⟨3, 2, smallFragment 7 3 0 0xA0 ++ [0xA1]⟩ ∧
    (∃ out, ((empty.feed mixedHistory).add (smallFragment 7 3 2 0xA2)).2 = .ok (some out) ∧
      Completed 7 (mixedHistory ++ [smallFragment 7 3 2 0xA2]) 3 out ∧ out.drop 20 = [0xA0, 0xA1, 0xA2]) ∧
    ((empty.feed mixedHistory).add (smallFragment 9 4 1 0xB1)).1.slot 9 = none ∧
    ((empty.feed mixedHistory).add (smallFragment 9 4 1 0xB1)).1.slot 7 = (empty.feed mixedHistory).slot 7 := by
  have h := accounts_feed mixedHistory
  have hseven : (empty.feed mixedHistory).slot 7 = some ⟨3, 2, smallFragment 7 3 0 0xA0 ++ [0xA1]⟩ := by decide +kernel
  have hnine : (empty.feed mixedHistory).slot 9 = some ⟨2, 1, smallFragment 9 2 0 0xB0⟩ := by decide +kernel
  have hout : ((empty.feed mixedHistory).add (smallFragment 7 3 2 0xA2)).2 =
      .ok (some (whole (smallFragment 7 3 0 0xA0 ++ [0xA1] ++ [0xA2]))) := by decide +kernel
  have hbroken := (h.broken 9 (smallFragment 9 4 1 0xB1) _ (by decide) (by decide) hnine (by decide)).2
  refine ⟨(h.collected 7 _).1 hseven, ⟨_, hout, ?_, by decide⟩, hbroken 9, hbroken 7⟩
  exact h.completed 7 (smallFragment 7 3 2 0xA2) _ (by decide) (by decide) hout

end SimPhonebook.Reassembler
