import BlockWire.Wire.Message

/-!
# The bytes of a frame

A frame that has bytes is found again at their start, whatever follows them,
and only there.  Decoding therefore accepts exactly the byte sequences that
begin with the bytes of a frame within the limit.  Since a frame says how long
it is, the bytes of one frame never begin those of another.

Both directions rest on one fact about headers: the five bytes that a header
is read from are the code of its tag and its length.
-/

namespace BlockWire

variable {κ : Type} [Coded κ]

/-! ## Headers -/

def Header.bytes (header : Header κ) : Bytes :=
  Coded.code header.tag :: bigEndian header.length

namespace Header

@[simp]
theorem length_bytes (header : Header κ) :
    header.bytes.length = headerSize := rfl

/-- A header within the limit is read from its bytes. -/
theorem decode_bytes_append
    (header : Header κ) (rest : Bytes) {limit : Nat}
    (fits : header.length ≤ largestPayload)
    (within : header.length ≤ limit) :
    decode limit (header.bytes ++ rest) = .ok header := by
  have lengthFound :=
    ofBigEndian_bigEndian header.length
      (Nat.lt_succ_of_le fits)
  have notOver : ¬ limit < header.length := Nat.not_lt.mpr within
  simp only [bytes, bigEndian, List.cons_append, decode, Coded.ofCode,
    Coded.ofCode?_code]
  rw [lengthFound, if_neg notOver]

/-- A header is only read from its own bytes, and only within the limit. -/
theorem eq_bytes_append_of_decode
    {limit : Nat} {bytes : Bytes} {header : Header κ}
    (decoded : decode limit bytes = .ok header) :
    bytes = header.bytes ++ bytes.drop headerSize ∧
      header.length ≤ largestPayload ∧ header.length ≤ limit := by
  unfold decode at decoded
  split at decoded
  case h_1 code first second third fourth rest =>
    cases known : Coded.ofCode? (κ := κ) code with
    | none => simp [Coded.ofCode, known] at decoded
    | some tag =>
        simp only [Coded.ofCode, known] at decoded
        split at decoded
        · cases decoded
        · rename_i notOver
          cases decoded
          refine ⟨?_, ?_, Nat.not_lt.mp notOver⟩
          · simp [Header.bytes, bigEndian_ofBigEndian, headerSize,
              Coded.code_of_ofCode? code tag known]
          · exact Nat.le_of_lt_succ
              (ofBigEndian_lt first second third fourth)
  case h_2 => cases decoded

end Header

namespace Frame

/-! ## Decoding what was encoded -/

def header (frame : Frame κ) : Header κ :=
  ⟨frame.tag, frame.payload.length⟩

theorem bytes_eq (frame : Frame κ) :
    frame.bytes = frame.header.bytes ++ frame.payload := rfl

theorem encode_eq_ok_iff {frame : Frame κ} {encoded : Bytes} :
    frame.encode = .ok encoded ↔
      frame.payload.length ≤ largestPayload ∧ encoded = frame.bytes := by
  unfold encode
  split
  · rename_i fits
    simp [fits, eq_comm]
  · rename_i tooLong
    simp [tooLong]

/-- A header within both limits leaves only the question whether its payload
is there. -/
theorem decode_header_append
    {limit : Nat} {header : Header κ}
    (fits : header.length ≤ largestPayload)
    (within : header.length ≤ limit) (rest : Bytes) :
    decode limit (header.bytes ++ rest) =
      if rest.length < header.length then
        .error (.incompletePayload header.length rest.length)
      else .ok ⟨header.tag, rest.take header.length⟩ := by
  have headerFound := Header.decode_bytes_append header rest fits within
  have ahead : (header.bytes ++ rest).drop headerSize = rest :=
    List.drop_left' header.length_bytes
  simp only [decode, headerFound, ahead]

/-- A frame is found at the start of its bytes, whatever follows them. -/
theorem decode_bytes_append
    (frame : Frame κ) (rest : Bytes) {limit : Nat}
    (fits : frame.payload.length ≤ largestPayload)
    (within : frame.payload.length ≤ limit) :
    decode limit (frame.bytes ++ rest) = .ok frame := by
  have whole :
      ¬ (frame.payload ++ rest).length < frame.header.length := by
    simp [header]
  rw [bytes_eq, List.append_assoc, decode_header_append fits within,
    if_neg whole]
  simp [header]

/-! ## Decoding nothing else -/

/-- Only the bytes of a frame, with anything behind them, are decoded to
it. -/
theorem eq_bytes_append_of_decode
    {limit : Nat} {bytes : Bytes} {frame : Frame κ}
    (decoded : decode limit bytes = .ok frame) :
    bytes = frame.bytes ++
        bytes.drop (headerSize + frame.payload.length) ∧
      frame.payload.length ≤ largestPayload ∧
      frame.payload.length ≤ limit := by
  unfold decode at decoded
  split at decoded
  · cases decoded
  · rename_i header headerFound
    rcases Header.eq_bytes_append_of_decode headerFound with
        ⟨split, fits, within⟩
    simp only at decoded
    split at decoded
    · cases decoded
    · rename_i notShort
      cases decoded
      have length :
          ((bytes.drop headerSize).take header.length).length =
            header.length :=
        List.length_take_of_le (Nat.not_lt.mp notShort)
      refine ⟨?_, length.symm ▸ fits, length.symm ▸ within⟩
      rw [bytes_eq, Frame.header, length, List.append_assoc,
        ← List.drop_drop, List.take_append_drop]
      exact split

/-- Decoding accepts exactly what begins with the bytes of a frame that is
within both limits. -/
theorem decode_eq_ok_iff
    {limit : Nat} {bytes : Bytes} {frame : Frame κ} :
    decode limit bytes = .ok frame ↔
      frame.payload.length ≤ largestPayload ∧
        frame.payload.length ≤ limit ∧ frame.bytes <+: bytes := by
  constructor
  · intro decoded
    rcases eq_bytes_append_of_decode decoded with ⟨split, fits, within⟩
    exact ⟨fits, within, _, split.symm⟩
  · rintro ⟨fits, within, rest, rfl⟩
    exact decode_bytes_append frame rest fits within

theorem decode_append_of_decode
    {limit : Nat} {bytes : Bytes} {frame : Frame κ}
    (decoded : decode limit bytes = .ok frame) (more : Bytes) :
    decode limit (bytes ++ more) = .ok frame := by
  rw [decode_eq_ok_iff] at decoded ⊢
  rcases decoded with ⟨fits, within, found⟩
  exact ⟨fits, within, found.trans (List.prefix_append bytes more)⟩

/-- Of two frames neither begins the other unless they are the same. -/
theorem eq_of_bytes_initial
    {frame other : Frame κ}
    (fits : frame.payload.length ≤ largestPayload)
    (otherFits : other.payload.length ≤ largestPayload)
    (found : frame.bytes <+: other.bytes) :
    frame = other := by
  have asFrame :
      decode largestPayload other.bytes = .ok frame :=
    decode_eq_ok_iff.mpr ⟨fits, fits, found⟩
  have asOther :
      decode largestPayload other.bytes = .ok other :=
    decode_eq_ok_iff.mpr ⟨otherFits, otherFits, List.prefix_rfl⟩
  rw [asFrame] at asOther
  exact Except.ok.inj asOther

/-! ## The image of encoding -/

/--
Decoding accepts exactly what encoding produces, for requests and replies
alike.

A byte sequence is decoded to a frame if and only if the payload is within
the limit and the encoded frame begins the sequence; a frame is encoded
exactly when its header can announce its payload.  Hence decoding undoes
encoding whatever follows, encoding what was decoded gives the decoded bytes
back, and an encoded frame that begins another one is that one.
-/
theorem decode_accepts_image_of_encode
    (limit : Nat) (bytes : Bytes) (frame : Frame κ) :
    ((∃ encoded, frame.encode = .ok encoded) ↔
        frame.payload.length ≤ largestPayload) ∧
      (decode limit bytes = .ok frame ↔
        frame.payload.length ≤ limit ∧
          ∃ encoded, frame.encode = .ok encoded ∧ encoded <+: bytes) ∧
      (∀ encoded rest, frame.encode = .ok encoded →
        frame.payload.length ≤ limit →
          decode limit (encoded ++ rest) = .ok frame) ∧
      (decode limit bytes = .ok frame →
        frame.encode =
          .ok (bytes.take (headerSize + frame.payload.length))) ∧
      (∀ (other : Frame κ) (encoded otherEncoded : Bytes),
        frame.encode = .ok encoded → other.encode = .ok otherEncoded →
          encoded <+: otherEncoded → frame = other) := by
  refine ⟨?_, ?_, ?_, ?_, ?_⟩
  · simp [encode_eq_ok_iff]
  · rw [decode_eq_ok_iff]
    constructor
    · rintro ⟨fits, within, found⟩
      exact ⟨within, _, encode_eq_ok_iff.mpr ⟨fits, rfl⟩, found⟩
    · rintro ⟨within, encoded, isEncoded, found⟩
      rcases encode_eq_ok_iff.mp isEncoded with ⟨fits, rfl⟩
      exact ⟨fits, within, found⟩
  · intro encoded rest isEncoded within
    rcases encode_eq_ok_iff.mp isEncoded with ⟨fits, rfl⟩
    exact decode_bytes_append frame rest fits within
  · intro decoded
    rcases decode_eq_ok_iff.mp decoded with ⟨fits, -, found⟩
    refine encode_eq_ok_iff.mpr ⟨fits, ?_⟩
    rw [← length_bytes frame]
    exact (List.prefix_iff_eq_take.mp found).symm
  · intro other encoded otherEncoded isEncoded isOther found
    rcases encode_eq_ok_iff.mp isEncoded with ⟨fits, rfl⟩
    rcases encode_eq_ok_iff.mp isOther with ⟨otherFits, rfl⟩
    exact eq_of_bytes_initial fits otherFits found

/-- A request at the limit and an empty reply, each with the start of
another frame behind it, are decoded, and the request is encoded back. -/
theorem decode_read_and_missing :
    decode 2 [4, 0, 0, 0, 2, 109, 49, 6] =
        .ok (⟨.read, [109, 49]⟩ : Request) ∧
      (⟨.read, [109, 49]⟩ : Request).encode =
        .ok [4, 0, 0, 0, 2, 109, 49] ∧
      decode 0 ([4, 0, 0, 0, 0] ++ [9]) = .ok (⟨.notFound, []⟩ : Reply) := by
  obtain ⟨-, found, -, encodedBack, -⟩ :=
    decode_accepts_image_of_encode 2 [4, 0, 0, 0, 2, 109, 49, 6]
      (⟨.read, [109, 49]⟩ : Request)
  rcases decode_accepts_image_of_encode 0 [] (⟨.notFound, []⟩ : Reply) with
      ⟨-, -, undone, -, -⟩
  have decoded := found.mpr ⟨by decide, _, rfl, [6], rfl⟩
  exact ⟨decoded, encodedBack decoded, undone _ [9] rfl (by decide)⟩

end Frame

end BlockWire
