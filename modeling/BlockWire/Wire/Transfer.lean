import BlockWire.Failure
import BlockWire.Stream.Sink
import BlockWire.Stream.Source

/-!
# Frames on streams

A frame is read in two stages, five bytes of header and then exactly the
payload that the header announces, so that no byte of a later frame is ever
taken.  A stage that is cut short is a framing fault with the number of bytes
received; nothing is padded.  A frame is written in one piece.
-/

namespace BlockWire.Frame

variable {κ : Type} [Coded κ]

/-- Read the next frame of a stream. -/
def read (limit : Nat) (source : Source) :
    Except Failure (Frame κ) × Source :=
  match source.fill headerSize with
  | (.error fault, source) => (.error (.transport fault), source)
  | (.ok start, source) =>
      match Header.decode limit start with
      | .error fault => (.error (.framing fault), source)
      | .ok header =>
          match source.fill header.length with
          | (.error fault, source) => (.error (.transport fault), source)
          | (.ok payload, source) =>
              if payload.length < header.length then
                (.error (.framing
                  (.incompletePayload header.length payload.length)), source)
              else (.ok ⟨header.tag, payload⟩, source)

/-- A frame that was read has left the data of the stream. -/
theorem data_length_lt_of_read {limit : Nat} {source rest : Source}
    {frame : Frame κ} (found : read limit source = (.ok frame, rest)) :
    rest.data.length < source.data.length := by
  unfold read at found
  split at found
  · simp at found
  · rename_i start between header?
    split at found
    · simp at found
    · rename_i header decoded
      have long := Header.headerSize_le_of_decode decoded
      have first := Source.append_data_of_fill header?
      split at found
      · simp at found
      · rename_i payload after payload?
        have second := Source.append_data_of_fill payload?
        split at found
        · simp at found
        · simp only [Prod.mk.injEq] at found
          obtain ⟨-, rfl⟩ := found
          rw [← first, ← second]
          simp only [List.length_append, headerSize] at *
          omega

/-- Write a frame to a stream. -/
def write (frame : Frame κ) (sink : Sink) : Except Failure Unit × Sink :=
  match frame.encode with
  | .error fault => (.error (.framing fault), sink)
  | .ok bytes =>
      match sink.put bytes with
      | (.error fault, sink) => (.error (.transport fault), sink)
      | (.ok (), sink) => (.ok (), sink)

end BlockWire.Frame
