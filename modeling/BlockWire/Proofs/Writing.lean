import BlockWire.Wire.Transfer

/-!
# Writing pieces to a stream

A piece that is written without a fault has arrived whole behind everything
that arrived before.  A stream accepts several pieces if each of them is
written without a fault after the ones before it.
-/

namespace BlockWire

/-- A piece whose writing no fault stopped was taken whole. -/
theorem arrived_of_offer
    (bytes : Bytes) (answers : List Acceptance)
    (unstopped : (offer bytes answers).fault? = none) :
    (offer bytes answers).arrived = bytes := by
  fun_induction offer bytes answers with
  | case1 bytes => rfl
  | case2 bytes count rest empty =>
      exact (List.isEmpty_iff.mp empty).symm
  | case3 bytes rest nonempty => cases unstopped
  | case4 bytes count rest nonempty positive ih =>
      simp only [Offered.after] at unstopped ⊢
      rw [ih unstopped, List.take_append_drop]
  | case5 bytes fault rest empty =>
      exact (List.isEmpty_iff.mp empty).symm
  | case6 bytes fault rest nonempty interrupted ih => exact ih unstopped
  | case7 bytes fault rest nonempty notInterrupted => cases unstopped

/-- What arrives of a piece is an initial part of it. -/
theorem arrived_isPrefix_of_offer
    (bytes : Bytes) (answers : List Acceptance) :
    (offer bytes answers).arrived <+: bytes := by
  fun_induction offer bytes answers with
  | case1 bytes => exact List.prefix_rfl
  | case2 bytes count rest empty => exact List.nil_prefix
  | case3 bytes rest nonempty => exact List.nil_prefix
  | case4 bytes count rest nonempty positive ih =>
      rcases ih with ⟨behind, whole⟩
      refine ⟨behind, ?_⟩
      simp only [Offered.after, List.append_assoc, whole,
        List.take_append_drop]
  | case5 bytes fault rest empty => exact List.nil_prefix
  | case6 bytes fault rest nonempty interrupted ih => exact ih
  | case7 bytes fault rest nonempty notInterrupted => exact List.nil_prefix

/-- Nothing stops the writing of a piece if every write call takes some of it or
is interrupted. -/
theorem offer_of_willing
    (bytes : Bytes) (answers : List Acceptance)
    (willing : ∀ answer ∈ answers,
      (∃ count, answer = .takes (count + 1)) ∨
        ∃ fault, answer = .fails fault ∧ fault.kind = .interrupted) :
    (offer bytes answers).fault? = none ∧
      ∀ answer ∈ (offer bytes answers).rest, answer ∈ answers := by
  fun_induction offer bytes answers with
  | case1 bytes => exact ⟨rfl, fun _ member => member⟩
  | case2 bytes count rest empty => exact ⟨rfl, fun _ member => member⟩
  | case3 bytes rest nonempty =>
      rcases willing _ List.mem_cons_self with ⟨_, same⟩ | ⟨_, same, -⟩ <;>
        cases same
  | case4 bytes count rest nonempty positive ih =>
      rcases ih fun later member =>
        willing later (List.mem_cons_of_mem _ member) with ⟨done, within⟩
      exact ⟨done, fun later member =>
        List.mem_cons_of_mem _ (within later member)⟩
  | case5 bytes fault rest empty => exact ⟨rfl, fun _ member => member⟩
  | case6 bytes fault rest nonempty interrupted ih =>
      rcases ih fun later member =>
        willing later (List.mem_cons_of_mem _ member) with ⟨done, within⟩
      exact ⟨done, fun later member =>
        List.mem_cons_of_mem _ (within later member)⟩
  | case7 bytes fault rest nonempty notInterrupted =>
      rcases willing _ List.mem_cons_self with ⟨_, same⟩ | ⟨_, same, kind⟩
      · cases same
      · cases same
        exact absurd kind notInterrupted

namespace Sink

variable {bytes : Bytes} {sink : Sink}

theorem flush_eq (sink : Sink) :
    sink.flush =
      (match sink.flushes.head? with
        | some (some fault) => .error fault
        | _ => .ok (),
        { sink with
          flushes := sink.flushes.tail
          flushed := sink.flushed + 1 }) := by
  unfold flush
  rcases sink.flushes.head? with _ | _ | fault <;> rfl

@[simp]
theorem written_flush (sink : Sink) :
    sink.flush.2.written = sink.written := by
  rw [flush_eq]

@[simp]
theorem flushed_flush (sink : Sink) :
    sink.flush.2.flushed = sink.flushed + 1 := by
  rw [flush_eq]

theorem flush_eq_error_iff {fault : TransportFault} :
    sink.flush.1 = .error fault ↔
      sink.flushes.head? = some (some fault) := by
  rw [flush_eq]
  rcases sink.flushes.head? with _ | _ | fault <;> simp

theorem flush_eq_ok_iff :
    sink.flush.1 = .ok () ↔
      ∀ fault, sink.flushes.head? ≠ some (some fault) := by
  rw [flush_eq]
  rcases sink.flushes.head? with _ | _ | fault <;> simp

/-- A piece that is taken whole is followed by a flush. -/
theorem put_of_unstopped
    (unstopped : (offer bytes sink.answers).fault? = none) :
    sink.put bytes =
      ({ sink with
        answers := (offer bytes sink.answers).rest
        written := sink.written ++ bytes }).flush := by
  simp only [put, unstopped, arrived_of_offer bytes sink.answers unstopped]

theorem written_put (bytes : Bytes) (sink : Sink) :
    (sink.put bytes).2.written =
      sink.written ++ (offer bytes sink.answers).arrived := by
  unfold put
  simp only
  split
  · rfl
  · rw [written_flush]

/-- A piece that was written has arrived behind everything before it. -/
theorem written_of_put
    {bytes : Bytes} {sink : Sink}
    (done : (sink.put bytes).1 = .ok ()) :
    (sink.put bytes).2.written = sink.written ++ bytes := by
  rw [written_put]
  unfold put at done
  simp only at done
  split at done
  · cases done
  · rename_i unstopped
    rw [arrived_of_offer bytes sink.answers unstopped]

/-- Every one of some pieces is written when they are written one after the
other. -/
def Accepts : List Bytes → Sink → Prop
  | [], _ => True
  | piece :: pieces, sink =>
      (sink.put piece).1 = .ok () ∧ Accepts pieces (sink.put piece).2

def putAll (pieces : List Bytes) (sink : Sink) : Sink :=
  pieces.foldl (fun sink piece => (sink.put piece).2) sink

@[simp]
theorem putAll_append
    (pieces : List Bytes) (last : Bytes) (sink : Sink) :
    sink.putAll (pieces ++ [last]) = ((sink.putAll pieces).put last).2 := by
  simp [putAll]

/-- Of several pieces that are accepted the last one is written to the stream
as the others leave it. -/
theorem put_of_accepts_append
    {pieces : List Bytes} {last : Bytes} {sink : Sink}
    (accepts : sink.Accepts (pieces ++ [last])) :
    ((sink.putAll pieces).put last).1 = .ok () := by
  induction pieces generalizing sink with
  | nil => exact accepts.1
  | cons piece rest induction => exact induction accepts.2

end Sink

/-! ## Frames -/

section

variable {α ε δ : Type}

@[simp]
theorem mapError_ok (value : α) (rename : ε → δ) :
    (Except.ok value).mapError rename = .ok value := rfl

@[simp]
theorem mapError_error (fault : ε) (rename : ε → δ) :
    (Except.error fault : Except ε α).mapError rename =
      .error (rename fault) := rfl

theorem mapError_eq_ok_iff
    {answer : Except ε α} {value : α} {rename : ε → δ} :
    answer.mapError rename = .ok value ↔ answer = .ok value := by
  cases answer with
  | ok given => rw [mapError_ok, Except.ok.injEq, Except.ok.injEq]
  | error fault =>
      constructor
      · intro equal
        cases equal
      · intro equal
        cases equal

theorem mapError_eq_error_iff
    {answer : Except ε α} {fault : ε} {rename : ε → δ}
    (injective : Function.Injective rename) :
    answer.mapError rename = .error (rename fault) ↔
      answer = .error fault := by
  cases answer with
  | ok given =>
      constructor
      · intro equal
        cases equal
      · intro equal
        cases equal
  | error given =>
      rw [mapError_error, Except.error.injEq, Except.error.injEq]
      exact injective.eq_iff

end

namespace Frame

variable {κ : Type} [Coded κ]

theorem write_eq_put
    {frame : Frame κ} (fits : frame.payload.length ≤ largestPayload)
    (sink : Sink) :
    frame.write sink =
      ((sink.put frame.bytes).1.mapError .transport,
        (sink.put frame.bytes).2) := by
  simp only [write, encode, if_pos fits]
  rcases sink.put frame.bytes with ⟨_ | _, _⟩ <;> rfl

theorem write_of_oversized
    {frame : Frame κ} (tooLong : ¬ frame.payload.length ≤ largestPayload)
    (sink : Sink) :
    frame.write sink =
      (.error (.framing
        (.oversized frame.payload.length largestPayload)), sink) := by
  rw [write, encode, if_neg tooLong]

/-- A frame is written exactly if it has an encoding and the stream takes it
in full. -/
theorem write_eq_ok_iff {frame : Frame κ} {sink : Sink} :
    (frame.write sink).1 = .ok () ↔
      frame.payload.length ≤ largestPayload ∧
        (sink.put frame.bytes).1 = .ok () := by
  by_cases fits : frame.payload.length ≤ largestPayload
  · rw [write_eq_put fits, mapError_eq_ok_iff]
    exact (and_iff_right fits).symm
  · rw [write_of_oversized fits]
    constructor
    · intro done
      cases done
    · rintro ⟨fits', -⟩
      exact absurd fits' fits

/-- A frame that was written has arrived behind everything before it. -/
theorem written_of_write
    {frame : Frame κ} {sink : Sink}
    (done : (frame.write sink).1 = .ok ()) :
    (frame.write sink).2.written = sink.written ++ frame.bytes := by
  rcases write_eq_ok_iff.mp done with ⟨fits, put⟩
  rw [write_eq_put fits, Sink.written_of_put put]

/-- What a stream takes of a frame. -/
def taken (frame : Frame κ) (sink : Sink) : Bytes :=
  (frame.write sink).2.written.drop sink.written.length

theorem taken_of_write
    {frame : Frame κ} {sink : Sink}
    (done : (frame.write sink).1 = .ok ()) :
    frame.taken sink = frame.bytes := by
  rw [taken, written_of_write done, List.drop_left]

/-- Nothing is taken of a frame without an encoding, and an initial part of
any other one. -/
theorem taken_eq_nil_or_isPrefix (frame : Frame κ) (sink : Sink) :
    frame.taken sink = [] ∨
      frame.payload.length ≤ largestPayload ∧
        frame.taken sink <+: frame.bytes := by
  by_cases fits : frame.payload.length ≤ largestPayload
  · right
    refine ⟨fits, ?_⟩
    rw [taken, write_eq_put fits, Sink.written_put, List.drop_left]
    exact arrived_isPrefix_of_offer _ _
  · left
    rw [taken, write_of_oversized fits, List.drop_length]

end Frame

end BlockWire
