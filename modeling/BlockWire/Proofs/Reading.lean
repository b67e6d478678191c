import BlockWire.Proofs.Stop
import BlockWire.Proofs.Truncation
import BlockWire.Wire.Transfer

/-!
# Reading frames from a stream

A reader takes a frame from a stream in two stages, while decoding looks at
bytes that are all there.  The two agree on every schedule: what counts is the
data in front of the stop of the stream.  If the decoder comes to a decision
about them, the reader comes to the same one and has taken just the bytes that
the decision needs.  If the decoder misses bytes, the reader meets the stop.

Each way in which decoding can go is one of `Frame.decode_eq_error_iff` or a
frame, and there is a lemma about reading for each.
-/

namespace BlockWire

variable {κ : Type} [Coded κ]

/-! ## Reading stage by stage -/

/-- The failure of reading that meets the stop of a stream when a stage has
received some bytes: the framing fault if the stop is an end of data, or a
timeout behind at least one byte of the stage, and else the fault of the
stop. -/
def Source.shortfall (source : Source) (received : Nat)
    (fault : FrameFault) : Failure :=
  match source.stopFault? with
  | none => .framing fault
  | some stop =>
      if 0 < received ∧ stop.kind.isTimeout then .framing fault
      else .transport stop

theorem Source.Takes.shortfall
    {count : Nat} {source rest : Source}
    (taken : Takes count source rest) :
    rest.shortfall = source.shortfall := by
  funext received fault
  simp only [Source.shortfall, taken.stopFault?]

theorem Source.shortfall_eq
    (source : Source) (bytes : Bytes) (fault : FrameFault) :
    source.shortfall bytes.length fault =
      match reported (!bytes.isEmpty) source.stopFault? with
      | some stop => .transport stop
      | none => .framing fault := by
  unfold Source.shortfall
  cases source.stopFault? with
  | none => rfl
  | some stop =>
      cases bytes <;> cases timeout : stop.kind.isTimeout <;>
        simp [reported, Option.filter, timeout]

namespace Frame

variable {limit : Nat} {source : Source}

theorem read_of_short_header
    (short : source.ready.length < headerSize) :
    read (κ := κ) limit source =
      (.error (source.shortfall source.ready.length
        (.incompleteHeader source.ready.length)), source.pastStop) := by
  rw [Source.shortfall_eq, read, Source.fill_of_ready_lt short]
  cases reported (!source.ready.isEmpty) source.stopFault? with
  | some fault => rfl
  | none => simp only [Header.decode_of_short limit short]

theorem read_of_refused_header
    {fault : FrameFault}
    (long : headerSize ≤ source.ready.length)
    (refused : Header.decode (κ := κ) limit source.ready = .error fault) :
    ∃ rest, read (κ := κ) limit source = (.error (.framing fault), rest) ∧
      source.Takes headerSize rest := by
  rcases Source.fill_of_le_ready long with ⟨rest, filled, taken⟩
  refine ⟨rest, ?_, taken⟩
  simp only [read, filled, Header.decode_take limit long, refused]

theorem read_of_short_payload
    {header : Header κ}
    (found : Header.decode limit source.ready = .ok header)
    (short : (source.ready.drop headerSize).length < header.length) :
    read (κ := κ) limit source =
      (.error (source.shortfall (source.ready.drop headerSize).length
        (.incompletePayload header.length
          (source.ready.drop headerSize).length)), source.pastStop) := by
  have long := Header.headerSize_le_of_decode found
  rcases Source.fill_of_le_ready long with ⟨rest, filled, taken⟩
  rw [← taken.ready] at short ⊢
  rw [← taken.shortfall, ← taken.pastStop, Source.shortfall_eq, read, filled]
  simp only [Header.decode_take limit long, found,
    Source.fill_of_ready_lt short]
  cases reported (!rest.ready.isEmpty) rest.stopFault? with
  | some fault => rfl
  | none => simp only [if_pos short]

theorem read_of_whole_payload
    {header : Header κ}
    (found : Header.decode limit source.ready = .ok header)
    (enough : header.length ≤ (source.ready.drop headerSize).length) :
    ∃ rest,
      read limit source =
          (.ok ⟨header.tag,
            (source.ready.drop headerSize).take header.length⟩, rest) ∧
        source.Takes (headerSize + header.length) rest := by
  have long := Header.headerSize_le_of_decode found
  rcases Source.fill_of_le_ready long with ⟨between, filled, taken⟩
  rw [← taken.ready] at enough ⊢
  rcases Source.fill_of_le_ready enough with ⟨rest, filledPayload, takenPayload⟩
  have whole : ¬ (between.ready.take header.length).length < header.length :=
    Nat.not_lt.mpr (Nat.le_of_eq (List.length_take_of_le enough).symm)
  refine ⟨rest, ?_, taken.trans takenPayload⟩
  simp only [read, filled, Header.decode_take limit long, found,
    filledPayload, if_neg whole]

/-! ## Reading by what decoding says -/

/-- A frame that is decoded is read. -/
theorem read_of_decode_ok
    {frame : Frame κ}
    (decoded : decode limit source.ready = .ok frame) :
    ∃ rest, read limit source = (.ok frame, rest) ∧
      source.Takes (headerSize + frame.payload.length) rest := by
  unfold decode at decoded
  split at decoded
  · cases decoded
  · rename_i header found
    simp only at decoded
    split at decoded
    · cases decoded
    · rename_i notShort
      have enough := Nat.not_lt.mp notShort
      cases decoded
      rw [List.length_take_of_le enough]
      exact read_of_whole_payload found enough

/-- A fault that is no matter of missing bytes is found by reading too. -/
theorem read_of_decode_refused
    {fault : FrameFault}
    (refused : decode (κ := κ) limit source.ready = .error fault)
    (complete : fault.received? = none) :
    ∃ rest, read (κ := κ) limit source = (.error (.framing fault), rest) ∧
      source.Takes headerSize rest := by
  rcases decode_eq_error_iff.mp refused with
    ⟨-, rfl⟩ | ⟨long, headerRefused⟩ | ⟨header, -, -, rfl⟩
  · cases complete
  · exact read_of_refused_header long headerRefused
  · cases complete

/-- Where decoding misses bytes reading meets the stop. -/
theorem read_of_decode_short
    {fault : FrameFault} {received : Nat}
    (refused : decode (κ := κ) limit source.ready = .error fault)
    (cut : fault.received? = some received) :
    read (κ := κ) limit source =
      (.error (source.shortfall received fault), source.pastStop) := by
  rcases decode_eq_error_iff.mp refused with
    ⟨short, rfl⟩ | ⟨long, headerRefused⟩ | ⟨header, found, short, rfl⟩
  · cases cut
    exact read_of_short_header short
  · rw [Header.received?_of_decode long headerRefused] at cut
    cases cut
  · cases cut
    exact read_of_short_payload found short

/--
Reading a frame from a stream agrees with decoding the data in front of its
stop, for requests and replies alike and on every schedule.

A frame that is decoded is read, with exactly its bytes taken.  A fault that
is no matter of missing bytes, an unknown code or a payload beyond the limit,
is reported with exactly the header taken.  Where decoding misses bytes,
everything up to and including the stop is used up, and the failure is the one
of decoding, or the fault of the stop, as `Source.shortfall` says.
-/
theorem read_agrees_with_decode (limit : Nat) (source : Source) :
    match decode (κ := κ) limit source.ready with
    | .ok frame =>
        ∃ rest, read limit source = (.ok frame, rest) ∧
          source.Takes (headerSize + frame.payload.length) rest
    | .error fault =>
        match fault.received? with
        | none =>
            ∃ rest,
              read (κ := κ) limit source = (.error (.framing fault), rest) ∧
                source.Takes headerSize rest
        | some received =>
            read (κ := κ) limit source =
              (.error (source.shortfall received fault), source.pastStop) := by
  split
  · rename_i frame decoded
    exact read_of_decode_ok decoded
  · rename_i fault refused
    split
    · rename_i complete
      exact read_of_decode_refused refused complete
    · rename_i received cut
      exact read_of_decode_short refused cut

end Frame

end BlockWire
