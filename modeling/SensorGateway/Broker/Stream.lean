import SensorGateway.Broker.Frame

/-!
A broker connection is a stream of bytes. The remaining length of each frame
says where the next one begins, so that a frame which cannot be read as a
message costs none of those after it. A stream is read from its front and not
looked at twice: the remaining length is added up byte by byte until a byte
says that it is the last one, and then as many bytes are taken as it tells.
Reading ends when the bytes do, or at a remaining length that goes on for too
long.
-/

namespace SensorGateway.Broker.Stream

/-- What the beginning of a stream holds. -/
inductive Reading where
  /-- One frame, and the stream after it. -/
  | frame (frame rest : Bytes)
  /-- The stream ends before the frame does. -/
  | cut
  /-- No frame can begin like this; the stream after the remaining length. -/
  | malformed (rest : Bytes)
deriving DecidableEq

/-- Reads a body of this length; `frame` is what has been read of its frame. -/
def readBody (length : Nat) (frame stream : Bytes) : Reading :=
  let body := stream.take length
  if body.length < length then .cut else .frame (frame ++ body) (stream.drop length)

/-- Reads at most `room` bytes of remaining length and then the body. The bytes
of it that are in `frame` already tell `length`, and the next one counts
`weight` times. -/
def readLength : (room length weight : Nat) → (frame stream : Bytes) → Reading
  | 0, _, _, _, stream => .malformed stream
  | _ + 1, _, _, _, [] => .cut
  | room + 1, length, weight, frame, byte :: stream =>
      let length := length + RemainingLength.digit byte * weight
      if RemainingLength.continues byte then
        readLength room length (weight * 128) (frame ++ [byte]) stream
      else readBody length (frame ++ [byte]) stream

/-- Reads the first byte, the remaining length and the body of a frame. -/
def read : Bytes → Reading
  | [] => .cut
  | header :: stream => readLength 4 0 1 [header] stream

theorem readBody_eq_frame {length : Nat} {begun stream frame rest : Bytes} :
    readBody length begun stream = .frame frame rest ↔
      length ≤ stream.length ∧ frame = begun ++ stream.take length ∧
        rest = stream.drop length := by
  simp only [readBody, List.length_take]
  split
  next hshort =>
    simp only [reduceCtorEq, false_iff]
    omega
  next hlong =>
    have hfits : length ≤ stream.length := by omega
    simp [hfits, eq_comm]

theorem length_readLength {room length weight : Nat} {begun stream frame rest : Bytes}
    (h : readLength room length weight begun stream = .frame frame rest) :
    rest.length ≤ stream.length := by
  induction room generalizing length weight begun stream with
  | zero => simp [readLength] at h
  | succ room ih =>
    cases stream with
    | nil => simp [readLength] at h
    | cons byte stream =>
      rw [readLength] at h
      split at h
      · have := ih h
        simp only [List.length_cons]
        omega
      · obtain ⟨-, -, rfl⟩ := readBody_eq_frame.mp h
        simp only [List.length_drop, List.length_cons]
        omega

theorem length_read {stream frame rest : Bytes} (h : read stream = .frame frame rest) :
    rest.length < stream.length := by
  cases stream with
  | nil => contradiction
  | cons header stream => exact Nat.lt_succ_of_le (length_readLength h)

/-- Why reading ended. -/
inductive End where
  | endOfStream
  | malformed
deriving DecidableEq

/-- The frames of a stream, the reason why there are no more, and the bytes
that were not looked at. -/
structure Run where
  frames : List Bytes
  ending : End
  rest : Bytes
deriving DecidableEq

/-- Reads frames until that fails. A stream that ends within a frame has been
looked at to its end. -/
def readAll (stream : Bytes) : Run :=
  match h : read stream with
  | .cut => ⟨[], .endOfStream, []⟩
  | .malformed rest => ⟨[], .malformed, rest⟩
  | .frame frame rest =>
      have : rest.length < stream.length := length_read h
      let run := readAll rest
      { run with frames := frame :: run.frames }
termination_by stream.length

end SensorGateway.Broker.Stream
