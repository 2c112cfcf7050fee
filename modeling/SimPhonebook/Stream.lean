import SimPhonebook.Message.Codec

/-!
# The incoming stream

The device sends one frame after another without anything between them. A frame is a message or a fragment: its header
gives its length. `Stream.next` takes the first frame off what has arrived, and `Stream.frames` takes off all of them.

A length that no frame can have ends the reading, and so does the end of the stream. What is then reported depends only
on the octets that follow the last whole frame and on how the stream ended.
-/

namespace SimPhonebook

/-- How a stream ends: by itself, or with an error that has a text. -/
inductive Ending where
  | closed
  | broken (reason : Text)
deriving DecidableEq, Repr

namespace Stream

/-- The longest frame that is accepted. -/
def maxFrameSize : Nat := 65536

/-- What a reader that asked for more octets met instead. -/
inductive Cut where
  /-- The end, before any of them. -/
  | ended
  /-- The end, after some of them. -/
  | endedEarly
  | broken (reason : Text)
deriving DecidableEq, Repr

instance : Described Cut where
  message
    | .ended => "EOF"
    | .endedEarly => "unexpected EOF"
    | .broken reason => reason

/-- What a reader meets that has received `count` of the octets it asked for. -/
def Cut.after (count : Nat) : Ending → Cut
  | .closed => if count = 0 then .ended else .endedEarly
  | .broken reason => .broken reason

/-- Why no further frame can be read. -/
inductive Error where
  /-- The stream ends in front of a header or inside one. -/
  | stopped (cut : Cut)
  | invalidLength (length : UInt32)
  /-- The stream ends after a header, before the frame is complete. -/
  | truncated (cut : Cut)
deriving DecidableEq, Repr

instance : Described Error where
  message
    | .stopped cut => message cut
    | .invalidLength n => s!"invalid frame length {n.toNat}"
    | .truncated cut => "truncated frame: " ++ message cut

/-- What can be said about the next frame. -/
inductive Reading where
  | frame (data rest : Octets)
  /-- More octets have to arrive first. -/
  | waiting
  | failed (error : Error) (rest : Octets)
deriving DecidableEq, Repr

/-- Whether a frame may have this length. -/
def isFrameLength (length : UInt32) : Bool := headerSize ≤ length.toNat && length.toNat ≤ maxFrameSize

/-- Waiting for more, unless the stream has ended: then the error of its ending. -/
def Reading.orEnd (error : Ending → Error) : Option Ending → Reading
  | none => .waiting
  | some e => .failed (error e) []

/-- The first frame of the octets `data`, after which the stream has ended or goes on. -/
def next (data : Octets) (ending : Option Ending) : Reading :=
  if data.length < headerSize then .orEnd (fun e => .stopped (.after data.length e)) ending
  else if !isFrameLength (data.wordAt 4) then .failed (.invalidLength (data.wordAt 4)) (data.drop headerSize)
  else if data.length < (data.wordAt 4).toNat then
    .orEnd (fun e => .truncated (.after (data.length - headerSize) e)) ending
  else .frame (data.take (data.wordAt 4).toNat) (data.drop (data.wordAt 4).toNat)

/-- What is left after the last whole frame. -/
inductive Remainder where
  | waiting (rest : Octets)
  | failed (error : Error) (rest : Octets)
deriving DecidableEq, Repr

theorem Reading.orEnd_ne_frame (error : Ending → Error) (ending : Option Ending) (frame rest : Octets) :
    Reading.orEnd error ending ≠ .frame frame rest := by
  cases ending <;> simp [Reading.orEnd]

theorem length_lt_of_next_eq_frame {data frame rest : Octets} {ending : Option Ending}
    (h : next data ending = .frame frame rest) : rest.length < data.length := by
  unfold next at h
  split at h
  · exact absurd h (Reading.orEnd_ne_frame _ _ _ _)
  · split at h
    · cases h
    · split at h
      · exact absurd h (Reading.orEnd_ne_frame _ _ _ _)
      · rename_i hlen hvalid hfull
        have hsize : headerSize ≤ (data.wordAt 4).toNat := by simp_all [isFrameLength]
        cases h
        simp only [headerSize] at hsize
        simp only [List.length_drop]
        omega

/-- All whole frames of the octets `data`, and what is left. -/
def frames (data : Octets) (ending : Option Ending) : List Octets × Remainder :=
  match _h : next data ending with
  | .waiting => ([], .waiting data)
  | .failed e rest => ([], .failed e rest)
  | .frame frame rest => (frame :: (frames rest ending).1, (frames rest ending).2)
termination_by data.length
decreasing_by all_goals exact length_lt_of_next_eq_frame ‹_›

end Stream

end SimPhonebook
