import BlockWire.Proofs.FrameBytes

/-!
# Frames that are cut short

Decoding looks at bytes that may be the start of more.  What it finds in them
is final, with two exceptions: bytes that end inside a header, and bytes that
end inside a payload.  In either case the fault counts what is there, and more
bytes can only complete the frame.

A header comes first.  Once its five bytes are there nothing behind them
changes what it says, and one that is within the limit leaves only the
question whether the payload is there.
-/

namespace BlockWire

variable {κ : Type} [Coded κ] {limit : Nat} {bytes : Bytes}
  {fault : FrameFault}

/-! ## What a header needs -/

namespace Header

theorem decode_take
    (limit : Nat) {bytes : Bytes} (long : headerSize ≤ bytes.length) :
    decode limit (bytes.take headerSize) = decode (κ := κ) limit bytes := by
  match bytes, long with
  | code :: first :: second :: third :: fourth :: rest, _ => rfl

theorem decode_append
    (limit : Nat) {bytes : Bytes} (long : headerSize ≤ bytes.length)
    (more : Bytes) :
    decode limit (bytes ++ more) = decode (κ := κ) limit bytes := by
  match bytes, long with
  | code :: first :: second :: third :: fourth :: rest, _ => rfl

theorem decode_of_short
    (limit : Nat) {bytes : Bytes} (short : bytes.length < headerSize) :
    decode (κ := κ) limit bytes =
      .error (.incompleteHeader bytes.length) := by
  match bytes, short with
  | [], _ => rfl
  | [_], _ => rfl
  | [_, _], _ => rfl
  | [_, _, _], _ => rfl
  | [_, _, _, _], _ => rfl

/-- A header that is there is not refused for want of bytes. -/
theorem received?_of_decode
    {limit : Nat} {bytes : Bytes} {fault : FrameFault}
    (long : headerSize ≤ bytes.length)
    (refused : decode (κ := κ) limit bytes = .error fault) :
    fault.received? = none := by
  match bytes, long with
  | code :: first :: second :: third :: fourth :: rest, _ =>
      cases known : Coded.ofCode? (κ := κ) code with
      | none =>
          simp only [decode, Coded.ofCode, known, Except.error.injEq]
            at refused
          subst fault
          exact Coded.received?_unknown code
      | some tag =>
          simp only [decode, Coded.ofCode, known] at refused
          split at refused
          · cases refused
            rfl
          · cases refused

end Header

namespace Frame

/-! ## Why decoding fails -/

/-- Bytes without a frame lack a part of the header, or are refused for their
header, or lack a part of the payload. -/
theorem decode_eq_error_iff :
    decode (κ := κ) limit bytes = .error fault ↔
      (bytes.length < headerSize ∧
        fault = .incompleteHeader bytes.length) ∨
      (headerSize ≤ bytes.length ∧
        Header.decode (κ := κ) limit bytes = .error fault) ∨
      ∃ header : Header κ,
        Header.decode limit bytes = .ok header ∧
          (bytes.drop headerSize).length < header.length ∧
            fault = .incompletePayload header.length
              (bytes.drop headerSize).length := by
  constructor
  · intro refused
    unfold decode at refused
    split at refused
    · rename_i headerFault headerRefused
      cases refused
      rcases Nat.lt_or_ge bytes.length headerSize with short | long
      · rw [Header.decode_of_short limit short] at headerRefused
        cases headerRefused
        exact .inl ⟨short, rfl⟩
      · exact .inr (.inl ⟨long, headerRefused⟩)
    · rename_i header found
      simp only at refused
      split at refused
      · rename_i short
        cases refused
        exact .inr (.inr ⟨header, found, short, rfl⟩)
      · cases refused
  · rintro (⟨short, rfl⟩ | ⟨-, headerRefused⟩ | ⟨header, found, short, rfl⟩)
    · simp only [decode, Header.decode_of_short limit short]
    · simp only [decode, headerRefused]
    · simp only [decode, found, if_pos short]

theorem decode_eq_incompleteHeader_iff {received : Nat} :
    decode (κ := κ) limit bytes = .error (.incompleteHeader received) ↔
      received = bytes.length ∧ received < headerSize := by
  rw [decode_eq_error_iff]
  constructor
  · rintro (⟨short, isFault⟩ | ⟨long, refused⟩ | ⟨header, -, -, isFault⟩)
    · cases isFault
      exact ⟨rfl, short⟩
    · cases Header.received?_of_decode long refused
    · cases isFault
  · rintro ⟨rfl, short⟩
    exact .inl ⟨short, rfl⟩

/-- A payload is only missed behind a header that announces it, within the
limit. -/
theorem exists_header_of_incompletePayload
    {expected received : Nat}
    (refused : decode (κ := κ) limit bytes =
      .error (.incompletePayload expected received)) :
    ∃ (header : Header κ) (rest : Bytes), bytes = header.bytes ++ rest ∧
      header.length ≤ largestPayload ∧ header.length ≤ limit ∧
        header.length = expected ∧ rest.length = received ∧
          received < expected := by
  rcases decode_eq_error_iff.mp refused with
    ⟨-, isFault⟩ | ⟨long, refused⟩ | ⟨header, found, short, isFault⟩
  · cases isFault
  · cases Header.received?_of_decode long refused
  · cases isFault
    rcases Header.eq_bytes_append_of_decode found with ⟨split, fits, within⟩
    exact ⟨header, _, split, fits, within, rfl, rfl, short⟩

/-! ## More bytes -/

/-- Bytes that are refused are refused whatever follows them. -/
theorem decode_append_of_refused
    (refused : decode (κ := κ) limit bytes = .error fault)
    (complete : fault.received? = none) (more : Bytes) :
    decode (κ := κ) limit (bytes ++ more) = .error fault := by
  rcases decode_eq_error_iff.mp refused with
    ⟨-, rfl⟩ | ⟨long, headerRefused⟩ | ⟨header, -, -, rfl⟩
  · cases complete
  · simp only [decode, Header.decode_append limit long, headerRefused]
  · cases complete

/-- A beginning of a frame that is not all of it lacks a part of the header or
of the payload. -/
theorem decode_of_beginning
    {frame : Frame κ}
    (fits : frame.payload.length ≤ largestPayload)
    (within : frame.payload.length ≤ limit)
    (begins : bytes <+: frame.bytes) (cut : bytes ≠ frame.bytes) :
    decode (κ := κ) limit bytes =
      .error (if bytes.length < headerSize then
          .incompleteHeader bytes.length
        else .incompletePayload frame.payload.length
          (bytes.length - headerSize)) := by
  split
  · rename_i short
    exact decode_eq_incompleteHeader_iff.mpr ⟨rfl, short⟩
  · rename_i notShort
    -- Both begin the frame, and the header is no longer than `bytes`.
    have hasHeader : frame.header.bytes <+: bytes :=
      List.prefix_of_prefix_length_le ⟨frame.payload, rfl⟩ begins
        (Nat.not_lt.mp notShort)
    rcases hasHeader with ⟨rest, rfl⟩
    rw [bytes_eq] at begins cut
    have restBegins := (List.prefix_append_right_inj _).mp begins
    have missing : rest.length < frame.header.length :=
      Nat.lt_of_le_of_ne restBegins.length_le fun all =>
        cut (congrArg _ (restBegins.eq_of_length all))
    rw [decode_header_append fits within, if_pos missing,
      List.length_append, Header.length_bytes, Nat.add_sub_cancel_left]
    rfl

/--
Decoding is stable under more bytes, for requests and replies alike.

A frame that is found, and a fault that is no matter of missing bytes (an
unknown code or a payload beyond the limit), stay what they are whatever
follows.  Bytes that are too few for a header are counted, and are fewer than
five.  Bytes that are too few for a payload begin with a known code and the
length that is missed, which is within the limit; the fault counts those behind
the header, and more bytes are added to that count until the payload is there.
Conversely, every beginning of an encoded frame within the limit that is not
all of it has one of these two faults, with just these counts.
-/
theorem decode_stable_under_more (limit : Nat) (bytes : Bytes) :
    (∀ (frame : Frame κ) (more : Bytes),
      decode limit bytes = .ok frame →
        decode limit (bytes ++ more) = .ok frame) ∧
      (∀ (fault : FrameFault) (more : Bytes),
        decode (κ := κ) limit bytes = .error fault →
          fault.received? = none →
            decode (κ := κ) limit (bytes ++ more) = .error fault) ∧
      (∀ received,
        decode (κ := κ) limit bytes =
            .error (.incompleteHeader received) →
          received = bytes.length ∧ received < headerSize) ∧
      (∀ expected received,
        decode (κ := κ) limit bytes =
            .error (.incompletePayload expected received) →
          ∃ (tag : κ) (rest : Bytes),
            bytes = Coded.code tag :: (bigEndian expected ++ rest) ∧
              expected ≤ largestPayload ∧
              received = bytes.length - headerSize ∧
              received < expected ∧ expected ≤ limit ∧
              ∀ more : Bytes,
                (expected - received ≤ more.length →
                  ∃ payload : Bytes, payload.length = expected ∧
                    payload <+: rest ++ more ∧
                      decode limit (bytes ++ more) = .ok ⟨tag, payload⟩) ∧
                (more.length < expected - received →
                  decode (κ := κ) limit (bytes ++ more) =
                    .error (.incompletePayload expected
                      (received + more.length)))) ∧
      (∀ (frame : Frame κ) (encoded : Bytes),
        frame.encode = .ok encoded → frame.payload.length ≤ limit →
          bytes <+: encoded → bytes ≠ encoded →
            decode (κ := κ) limit bytes =
              .error (if bytes.length < headerSize then
                  .incompleteHeader bytes.length
                else .incompletePayload frame.payload.length
                  (bytes.length - headerSize))) := by
  refine ⟨?_, ?_, ?_, ?_, ?_⟩
  · intro frame more decoded
    exact decode_append_of_decode decoded more
  · intro fault more refused complete
    exact decode_append_of_refused refused complete more
  · intro received refused
    exact decode_eq_incompleteHeader_iff.mp refused
  · intro expected received refused
    rcases exists_header_of_incompletePayload refused with
      ⟨header, rest, rfl, fits, within, rfl, rfl, short⟩
    refine ⟨header.tag, rest, rfl, fits, ?_, short, within, ?_⟩
    · rw [List.length_append, Header.length_bytes, Nat.add_sub_cancel_left]
    intro more
    rw [List.append_assoc, decode_header_append fits within,
      List.length_append]
    constructor
    · intro enough
      have whole : header.length ≤ rest.length + more.length := by omega
      refine ⟨(rest ++ more).take header.length, ?_,
        List.take_prefix _ _, if_neg (Nat.not_lt.mpr whole)⟩
      rw [List.length_take_of_le]
      rwa [List.length_append]
    · intro few
      exact if_pos (by omega)
  · intro frame encoded isEncoded within begins cut
    rcases encode_eq_ok_iff.mp isEncoded with ⟨fits, rfl⟩
    exact decode_of_beginning fits within begins cut

/-- A request that is cut inside its payload, completed by what is missing
with something behind it or by less, and one that is cut inside its header. -/
theorem decode_cut_and_completed :
    decode (κ := Operation) 4 [4, 0, 0, 0, 3, 109] =
        .error (.incompletePayload 3 1) ∧
      (∃ (tag : Operation) (payload : Bytes), payload.length = 3 ∧
        decode 4 ([4, 0, 0, 0, 3, 109] ++ [49, 50, 6]) =
          .ok ⟨tag, payload⟩) ∧
      decode (κ := Operation) 4 ([4, 0, 0, 0, 3, 109] ++ [49]) =
        .error (.incompletePayload 3 2) ∧
      decode (κ := Operation) 4 [4, 0, 0] =
        .error (.incompleteHeader 3) := by
  have cut : decode (κ := Operation) 4 [4, 0, 0, 0, 3, 109] =
      .error (.incompletePayload 3 1) := by
    simp [decode, Header.decode, Coded.ofCode, Coded.ofCode?,
      Operation.ofCode?, ofBigEndian, headerSize]
  rcases decode_stable_under_more (κ := Operation) 4
      [4, 0, 0, 0, 3, 109] with
    ⟨-, -, -, completed, -⟩
  rcases decode_stable_under_more (κ := Operation) 4 [4, 0, 0] with
    ⟨-, -, -, -, beginning⟩
  rcases completed 3 1 cut with ⟨tag, rest, -, -, -, -, -, grows⟩
  rcases (grows [49, 50, 6]).1 (by decide) with
    ⟨payload, length, -, decoded⟩
  exact ⟨cut, ⟨tag, payload, length, decoded⟩,
    (grows [49]).2 (by decide),
    beginning ⟨.read, [109, 49, 50]⟩ [4, 0, 0, 0, 3, 109, 49, 50] rfl
      (by decide) ⟨_, rfl⟩ (by decide)⟩

end Frame

end BlockWire
