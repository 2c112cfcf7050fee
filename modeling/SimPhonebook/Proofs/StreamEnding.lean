import SimPhonebook.Proofs.Framing

/-!
# Where the reading of a stream ends

Taking frames off a stream that has ended comes to an end itself: every frame is at least a header long. The frames and
what follows the last of them are the whole stream, and from what follows alone it can be told why the reading ended
(`EndsAt`): nothing, part of a header, a header that no frame has, or part of a frame. So a stream of whole frames, and only
such a stream, is read to its very end (`stream_read_out`).
-/

namespace SimPhonebook.Stream

open Octets

/-- Frames taken off a stream that has ended, one after the other, until there is no further one. -/
inductive Reads : Octets → List Octets → Error → Octets → Prop
  | stop {data unread : Octets} {error : Error} (h : next data (some .closed) = .failed error unread) :
    Reads data [] error unread
  | frame {data frame rest unread : Octets} {frames : List Octets} {error : Error}
    (h : next data (some .closed) = .frame frame rest) (reads : Reads rest frames error unread) :
    Reads data (frame :: frames) error unread

/-- The length that the header at the front declares. -/
def declaredLength (data : Octets) : Nat := (data.wordAt 4).toNat

/-- Why no frame can be taken off `rest`, and what is left unread of it. -/
structure EndsAt (rest : Octets) (error : Error) (unread : Octets) : Prop where
  ended : error = .stopped .ended ↔ rest = []
  insideHeader : error = .stopped .endedEarly ↔ 1 ≤ rest.length ∧ rest.length ≤ 11
  noLength : (∃ n, error = .invalidLength n) ↔ 12 ≤ rest.length ∧ (declaredLength rest < 12 ∨ 65536 < declaredLength rest)
  behindHeader : error = .truncated .ended ↔ rest.length = 12 ∧ 12 < declaredLength rest ∧ declaredLength rest ≤ 65536
  insideBody : error = .truncated .endedEarly ↔
    12 < rest.length ∧ rest.length < declaredLength rest ∧ declaredLength rest ≤ 65536
  refused : ∀ n, error = .invalidLength n → n.toNat = declaredLength rest ∧ unread = rest.drop 12
  consumed : (∀ n, error ≠ .invalidLength n) → unread = []

/-! ## One frame -/

theorem isFrameLength_iff (data : Octets) :
    isFrameLength (data.wordAt 4) = true ↔ 12 ≤ declaredLength data ∧ declaredLength data ≤ 65536 := by
  rw [isFrameLength, Bool.and_eq_true, decide_eq_true_eq, decide_eq_true_eq]
  rfl

section
variable {data : Octets}

theorem next_of_short (h : data.length < headerSize) :
    next data (some .closed) = .failed (.stopped (.after data.length .closed)) [] := by
  unfold next
  rw [if_pos h]
  rfl

theorem next_of_noLength (h : ¬data.length < headerSize) (hlength : isFrameLength (data.wordAt 4) = false) :
    next data (some .closed) = .failed (.invalidLength (data.wordAt 4)) (data.drop 12) := by
  unfold next
  rw [if_neg h, hlength]
  rfl

theorem next_of_cut (h : ¬data.length < headerSize) (hlength : isFrameLength (data.wordAt 4) = true)
    (hcut : data.length < (data.wordAt 4).toNat) :
    next data (some .closed) = .failed (.truncated (.after (data.length - 12) .closed)) [] := by
  unfold next
  rw [if_neg h, hlength, if_neg (by simp), if_pos hcut]
  rfl

theorem next_of_whole (h : ¬data.length < headerSize) (hlength : isFrameLength (data.wordAt 4) = true)
    (hwhole : ¬data.length < (data.wordAt 4).toNat) :
    next data (some .closed) = .frame (data.take (declaredLength data)) (data.drop (declaredLength data)) := by
  unfold next
  rw [if_neg h, hlength, if_neg (by simp), if_neg hwhole]
  rfl

theorem isFrame_take (h : 12 ≤ declaredLength data) (hwhole : declaredLength data ≤ data.length)
    (hsize : declaredLength data ≤ 65536) : IsFrame (data.take (declaredLength data)) := by
  have hlength : (data.take (declaredLength data)).length = declaredLength data := by
    rw [List.length_take]
    omega
  refine ⟨by rw [hlength]; exact h, by rw [hlength]; exact hsize, ?_⟩
  rw [hlength, wordAt_take (by omega) (by omega)]
  rfl

theorem endsAt_short (h : data.length < 12) : EndsAt data (.stopped (.after data.length .closed)) [] := by
  by_cases hnil : data.length = 0
  · have hdata : data = [] := List.eq_nil_of_length_eq_zero hnil
    subst hdata
    constructor <;> simp [Cut.after]
  · have hdata : data ≠ [] := fun heq => hnil (by rw [heq]; rfl)
    constructor <;> simp [Cut.after, hnil, hdata] <;> omega

theorem endsAt_noLength (h : 12 ≤ data.length) (hlength : declaredLength data < 12 ∨ 65536 < declaredLength data) :
    EndsAt data (.invalidLength (data.wordAt 4)) (data.drop 12) := by
  have hdata : data ≠ [] := fun heq => by simp [heq] at h
  constructor <;> simp [declaredLength, hdata] <;> unfold declaredLength at hlength <;> omega

theorem endsAt_cut (h : 12 ≤ data.length) (hcut : data.length < declaredLength data) (hsize : declaredLength data ≤ 65536) :
    EndsAt data (.truncated (.after (data.length - 12) .closed)) [] := by
  have hdata : data ≠ [] := fun heq => by simp [heq] at h
  by_cases hbody : data.length - 12 = 0
  · constructor <;> simp [Cut.after, hbody, hdata] <;> omega
  · constructor <;> simp [Cut.after, hbody, hdata] <;> omega

end

/-- A stream that has ended starts with a whole frame, or the reading ends there. -/
theorem next_closed (data : Octets) :
    (∃ frame rest, next data (some .closed) = .frame frame rest ∧ IsFrame frame ∧ data = frame ++ rest) ∨
    ∃ error unread, next data (some .closed) = .failed error unread ∧ EndsAt data error unread := by
  by_cases hshort : data.length < headerSize
  · exact Or.inr ⟨_, _, next_of_short hshort, endsAt_short hshort⟩
  have hlong : 12 ≤ data.length := Nat.le_of_not_lt hshort
  cases hlength : isFrameLength (data.wordAt 4) with
  | false =>
    have hrange := mt (isFrameLength_iff data).2 (by simp [hlength])
    exact Or.inr ⟨_, _, next_of_noLength hshort hlength, endsAt_noLength hlong (by omega)⟩
  | true =>
    obtain ⟨hlow, hhigh⟩ := (isFrameLength_iff data).1 hlength
    by_cases hcut : data.length < (data.wordAt 4).toNat
    · exact Or.inr ⟨_, _, next_of_cut hshort hlength hcut, endsAt_cut hlong hcut hhigh⟩
    · refine Or.inl ⟨_, _, next_of_whole hshort hlength hcut, ?_, (List.take_append_drop _ data).symm⟩
      exact isFrame_take hlow (Nat.le_of_not_lt hcut) hhigh

/-! ## The whole stream -/

theorem frames_of_next_eq_failed {data unread : Octets} {error : Error} {ending : Option Ending}
    (h : next data ending = .failed error unread) : frames data ending = ([], .failed error unread) := by
  rw [frames]
  split
  · rename_i h'
    rw [h] at h'
    cases h'
  · rename_i h'
    rw [h] at h'
    cases h'
    rfl
  · rename_i h'
    rw [h] at h'
    cases h'

/-- The frames are those of one call after the other. -/
theorem Reads.frames_eq {data unread : Octets} {fs : List Octets} {error : Error} (h : Reads data fs error unread) :
    frames data (some .closed) = (fs, .failed error unread) := by
  induction h with
  | stop h => exact frames_of_next_eq_failed h
  | frame h _ ih => rw [frames_of_next_eq_frame h, ih]

/-- What is read of a stream that has ended: whole frames, and at the rest the reading ends. -/
theorem exists_reads (data : Octets) :
    ∃ fs rest error unread, Reads data fs error unread ∧ (∀ f ∈ fs, IsFrame f) ∧ data = fs.flatten ++ rest ∧
      EndsAt rest error unread := by
  -- every frame has octets, so that what is left gets shorter
  induction hn : data.length using Nat.strongRecOn generalizing data with
  | ind n ih =>
    rcases next_closed data with ⟨frame, rest, hnext, hframe, rfl⟩ | ⟨error, unread, hnext, hends⟩
    · have hshorter : rest.length < n := hn ▸ length_lt_of_next_eq_frame hnext
      obtain ⟨fs, last, error, unread, hreads, hfs, rfl, hends⟩ := ih rest.length hshorter rest rfl
      refine ⟨frame :: fs, last, error, unread, .frame hnext hreads, ?_, by simp, hends⟩
      intro f hf
      rcases List.mem_cons.1 hf with rfl | hf
      · exact hframe
      · exact hfs f hf
    · exact ⟨[], data, error, unread, .stop hnext, by simp, rfl, hends⟩

/-- **A stream is read out.** Frame after frame is taken off a stream that has ended until that fails, after finitely many.
What was taken off are whole frames, they and the rest are the stream, and the rest alone says how the reading ended. If the
stream is a sequence of whole frames, those are the frames, and the end is the end of the stream. -/
theorem stream_read_out (data : Octets) :
    ∃ fs rest error unread,
      Reads data fs error unread ∧ frames data (some .closed) = (fs, .failed error unread) ∧
      (∀ f ∈ fs, IsFrame f) ∧ data = fs.flatten ++ rest ∧ EndsAt rest error unread ∧
      ∀ gs : List Octets, (∀ g ∈ gs, IsFrame g) → data = gs.flatten → fs = gs ∧ error = .stopped .ended := by
  obtain ⟨fs, rest, error, unread, hreads, hfs, hdata, hends⟩ := exists_reads data
  refine ⟨fs, rest, error, unread, hreads, hreads.frames_eq, hfs, hdata, hends, fun gs hgs hflat => ?_⟩
  have hboth := hreads.frames_eq
  rw [hflat, frames_flatten hgs] at hboth
  cases hboth
  exact ⟨rfl, rfl⟩

/-- Two frames that are only a header. -/
def bareFrames : List Octets := [ofWord 2 ++ ofWord 12 ++ ofWord 7, ofWord 0x80000002 ++ ofWord 12 ++ ofWord 8]

theorem bareFrames_read :
    (∀ f ∈ bareFrames, IsFrame f) ∧ ∃ unread, Reads bareFrames.flatten bareFrames (.stopped .ended) unread := by
  have hframes : ∀ f ∈ bareFrames, IsFrame f := by
    intro f hf
    simp only [bareFrames, List.mem_cons, List.not_mem_nil, or_false] at hf
    rcases hf with rfl | rfl
    · exact ⟨by decide, by decide, by decide +kernel⟩
    · exact ⟨by decide, by decide, by decide +kernel⟩
  obtain ⟨fs, rest, error, unread, hreads, -, -, -, -, hwhole⟩ := stream_read_out bareFrames.flatten
  obtain ⟨rfl, rfl⟩ := hwhole bareFrames hframes rfl
  exact ⟨hframes, unread, hreads⟩

end SimPhonebook.Stream
