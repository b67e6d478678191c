import BlockWire.Wire.Code

/-!
# Frames

Requests and replies travel in frames of one layout: a byte that names the
operation or the status, four bytes with the length of the payload, and the
payload itself.  A frame never looks inside its payload.

`Frame.encode` writes a frame and `Frame.decode` reads the frame at the start
of a byte sequence.  What a header says is decided in one place,
`Header.decode`, which the reading of frames from a stream uses as well.
-/

namespace BlockWire

/-- The number of bytes in front of a payload. -/
def headerSize : Nat := 5

/-- The greatest payload length that a header can announce. -/
def largestPayload : Nat := 4294967295

/-- A code with its payload. -/
structure Frame (κ : Type) where
  /-- The operation of a request, or the status of a reply. -/
  tag : κ
  /-- What goes with it, possibly nothing. -/
  payload : Bytes
  deriving DecidableEq, Repr

/-- What the first five bytes of a frame say. -/
structure Header (κ : Type) where
  /-- The operation of a request, or the status of a reply. -/
  tag : κ
  length : Nat
  deriving DecidableEq, Repr

/-- Read a header.  A header that is too short is refused first, then an
unknown code, then a payload beyond the limit. -/
def Header.decode {κ : Type} [Coded κ] (limit : Nat) :
    Bytes → Except FrameFault (Header κ)
  | code :: first :: second :: third :: fourth :: _ =>
      match Coded.ofCode code with
      | .error fault => .error fault
      | .ok tag =>
          let length := ofBigEndian first second third fourth
          if limit < length then .error (.oversized length limit)
          else .ok ⟨tag, length⟩
  | short => .error (.incompleteHeader short.length)

/-- A header is only found in as many bytes as it has. -/
theorem Header.headerSize_le_of_decode {κ : Type} [Coded κ] {limit : Nat}
    {bytes : Bytes} {header : Header κ}
    (decoded : Header.decode limit bytes = .ok header) :
    headerSize ≤ bytes.length := by
  unfold Header.decode at decoded
  split at decoded
  · simp [headerSize]
  · simp at decoded

namespace Frame

variable {κ : Type} [Coded κ]

/-- The bytes of a frame whose payload is not too long for its header. -/
def bytes (frame : Frame κ) : Bytes :=
  Coded.code frame.tag ::
    (bigEndian frame.payload.length ++ frame.payload)

/-- The bytes of a frame.  A payload that no header can announce is
refused. -/
def encode (frame : Frame κ) : Except FrameFault Bytes :=
  if frame.payload.length ≤ largestPayload then .ok frame.bytes
  else .error (.oversized frame.payload.length largestPayload)

/-- The frame at the start of a byte sequence; what follows it is not looked
at. -/
def decode (limit : Nat) (bytes : Bytes) : Except FrameFault (Frame κ) :=
  match Header.decode limit bytes with
  | .error fault => .error fault
  | .ok header =>
      let available := bytes.drop headerSize
      if available.length < header.length then
        .error (.incompletePayload header.length available.length)
      else
        .ok ⟨header.tag, available.take header.length⟩

@[simp]
theorem length_bytes (frame : Frame κ) :
    frame.bytes.length = headerSize + frame.payload.length := by
  simp [bytes, headerSize]
  omega

/-- A frame is only found in as many bytes as it has. -/
theorem length_bytes_le_of_decode {limit : Nat} {bytes : Bytes}
    {frame : Frame κ} (decoded : decode limit bytes = .ok frame) :
    frame.bytes.length ≤ bytes.length := by
  unfold decode at decoded
  split at decoded
  · simp at decoded
  · rename_i header decodedHeader
    have long := Header.headerSize_le_of_decode decodedHeader
    simp only at decoded
    split at decoded
    · simp at decoded
    · rename_i notShort
      simp only [Except.ok.injEq] at decoded
      subst decoded
      simp only [length_bytes, List.length_take, List.length_drop] at *
      omega

end Frame

end BlockWire
