import SimPhonebook.Stream
import SimPhonebook.Proofs.Words

/-!
# Frames in a stream

What `Stream.frames` takes off a stream of whole frames is exactly those frames, whatever follows them
(`frames_append`). When nothing follows and the stream has ended, the reading ends right at the end
(`frames_flatten`).
-/

namespace SimPhonebook.Stream

open Octets

/-- What a stream can give as a frame: a length that is allowed and that its header gives. -/
structure IsFrame (f : Octets) : Prop where
  header : headerSize ≤ f.length
  size : f.length ≤ maxFrameSize
  length : (f.wordAt 4).toNat = f.length

theorem next_append {f : Octets} (h : IsFrame f) (rest : Octets) (ending : Option Ending) :
    next (f ++ rest) ending = .frame f rest := by
  have hheader : 12 ≤ f.length := h.header
  have hword : (f ++ rest).wordAt 4 = f.wordAt 4 := wordAt_append_left rest (by omega)
  have hvalid : isFrameLength (f.wordAt 4) = true := by
    simp [isFrameLength, h.length, h.header, h.size]
  have hlen : (f ++ rest).length = f.length + rest.length := List.length_append
  unfold next
  rw [hword, h.length, if_neg (by rw [hlen, headerSize]; omega), hvalid, if_neg (by simp),
    if_neg (by rw [hlen]; omega), List.take_left, List.drop_left]

theorem frames_of_next_eq_frame {data frame rest : Octets} {ending : Option Ending}
    (h : next data ending = .frame frame rest) :
    frames data ending = (frame :: (frames rest ending).1, (frames rest ending).2) := by
  rw [frames]
  split
  · rename_i h'
    rw [h] at h'
    cases h'
  · rename_i h'
    rw [h] at h'
    cases h'
  · rename_i h'
    rw [h] at h'
    cases h'
    rfl

/-- Whole frames are taken off one by one. -/
theorem frames_append : ∀ {fs : List Octets}, (∀ f ∈ fs, IsFrame f) → ∀ (rest : Octets) (ending : Option Ending),
    frames (fs.flatten ++ rest) ending = (fs ++ (frames rest ending).1, (frames rest ending).2)
  | [], _, _, _ => rfl
  | f :: fs, h, rest, ending => by
    have hnext := next_append (h f (List.mem_cons_self ..)) (fs.flatten ++ rest) ending
    rw [List.flatten_cons, List.append_assoc, frames_of_next_eq_frame hnext,
      frames_append (fun g hg => h g (List.mem_cons_of_mem _ hg))]
    rfl

theorem frames_nil_closed : frames [] (some .closed) = ([], .failed (.stopped .ended) []) := by
  rw [frames]
  rfl

/-- A stream of whole frames is read to its end, and ends there. -/
theorem frames_flatten {fs : List Octets} (h : ∀ f ∈ fs, IsFrame f) :
    frames fs.flatten (some .closed) = (fs, .failed (.stopped .ended) []) := by
  have := frames_append h [] (some .closed)
  rwa [List.append_nil, frames_nil_closed, List.append_nil] at this

end SimPhonebook.Stream
