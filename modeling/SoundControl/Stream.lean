import SoundControl.Codec

/-! # Stream framing

Packets on a byte stream, each as a frame: its size as a 32-bit big-endian word, then its wire
form. -/

namespace SoundControl

/-- How reading a frame ended without a packet. -/
inductive StreamEnd where
  /-- No byte was left. -/
  | finished
  /-- The frame could not be read. -/
  | failed (e : Error)

/-- A stream failure. -/
def streamError (stage : Stage) (fault : Fault) (detail : String) : Error :=
  { stage := stage, fault := fault, detail := detail }

namespace Codec

/-- The frame of a packet. -/
def frame (c : Codec) (p : Packet) : Except Error Bytes := do
  let body ← c.encode p
  Wire.Encode.checkSize body.length "packet"
  if body.length > c.maxPacketSize then
    .error (streamError .encode .tooLarge ("packet of " ++ toString body.length ++ " bytes"))
  else pure (Bytes.ofWord32 body.length.toUInt32 ++ body)

/-- Reads one frame from the front of a stream: the packet and the bytes after the frame, or how
reading ended and the bytes left unread. -/
def readFrame (c : Codec) : Bytes → (Except StreamEnd Packet) × Bytes
  | [] => (.error .finished, [])
  | a :: b :: d :: e :: rest =>
    let size := (Bytes.word32 a b d e).toNat
    if size > Wire.Encode.maxSize ∨ size > c.maxPacketSize then
      (.error (.failed (streamError .read .tooLarge ("packet size " ++ toString size))), rest)
    else if rest.length < size then
      (.error (.failed (streamError .read .unexpectedEnd "packet body")), [])
    else
      match c.decode (rest.take size) with
      | .ok p => (.ok p, rest.drop size)
      | .error err => (.error (.failed err), rest.drop size)
  | _ => (.error (.failed (streamError .read .unexpectedEnd "size prefix")), [])

theorem readFrame_ok_length {c : Codec} {s rest : Bytes} {p : Packet}
    (h : c.readFrame s = (.ok p, rest)) : rest.length < s.length := by
  unfold readFrame at h
  split at h
  · simp at h
  · rename_i a b d e tail
    dsimp only at h
    split at h
    · simp at h
    · split at h
      · simp at h
      · split at h
        · obtain ⟨-, rfl⟩ := Prod.mk.inj h
          simp; omega
        · simp at h
  · simp at h

/-- Reads frames until one fails or the stream ends: the packets read, how reading ended, and
the bytes left unread. -/
def readAll (c : Codec) (s : Bytes) : List Packet × StreamEnd × Bytes :=
  match _h : c.readFrame s with
  | (.ok p, rest) =>
    let (ps, fin, left) := c.readAll rest
    (p :: ps, fin, left)
  | (.error fin, rest) => ([], fin, rest)
termination_by s.length
decreasing_by exact readFrame_ok_length _h

end Codec

end SoundControl
