import BlockWire.Proofs.FrameBytes
import BlockWire.Proofs.Writing

/-!
# Faults while a frame is written

The calls that write a frame are answered one after the other, and some of the
answers are faults.  The first fault that comes before the frame has been taken
whole stops the writing; what has arrived then is what the answers in front of
it took, from the start of the frame on.  A fault that comes later is not met.

The induction is on the answers in front of the fault, with the part of the
frame that is still to be written as its state.
-/

namespace BlockWire

namespace Acceptance

/-- The fault of a write call that something is offered to: it fails and is not
made again, or it takes nothing. -/
def fault? : Acceptance → Option TransportFault
  | .takes count => if count = 0 then some .nothingTaken else none
  | .fails fault => if fault.kind = .interrupted then none else some fault

/-- How many bytes a write call takes if it is offered so many. -/
def room : Acceptance → Nat
  | .takes count => count
  | .fails _ => 0

/-- How many bytes several write calls take if they are offered so many. -/
def totalRoom : List Acceptance → Nat
  | [] => 0
  | answer :: answers => answer.room + totalRoom answers

end Acceptance

open Acceptance

/-- A fault comes before a piece of some length has been taken whole, and it is
the first one. -/
structure StopsAt (length : Nat) (answers earlier : List Acceptance)
    (fault : TransportFault) (later : List Acceptance) : Prop where
  split : ∃ answer, answers = earlier ++ answer :: later ∧
    answer.fault? = some fault
  first : ∀ answer ∈ earlier, answer.fault? = none
  short : totalRoom earlier < length

variable {bytes : Bytes} {answers earlier later : List Acceptance}
  {fault : TransportFault}

/-! ## The answers to one piece -/

theorem offer_cons_of_fault
    (nonempty : bytes ≠ []) {answer : Acceptance}
    (isFault : answer.fault? = some fault) (later : List Acceptance) :
    offer bytes (answer :: later) = ⟨[], some fault, later⟩ := by
  have notEmpty : ¬ bytes.isEmpty = true := mt List.isEmpty_iff.mp nonempty
  cases answer with
  | takes count =>
      simp only [Acceptance.fault?] at isFault
      split at isFault
      · rename_i nothing
        cases isFault
        rw [offer, if_neg notEmpty, if_pos nothing]
      · cases isFault
  | fails given =>
      simp only [Acceptance.fault?] at isFault
      split at isFault
      · cases isFault
      · rename_i notInterrupted
        cases isFault
        rw [offer, if_neg notEmpty, if_neg notInterrupted]

theorem offer_cons_of_no_fault
    (nonempty : bytes ≠ []) {answer : Acceptance}
    (harmless : answer.fault? = none) (later : List Acceptance) :
    offer bytes (answer :: later) =
      (offer (bytes.drop answer.room) later).after
        (bytes.take answer.room) := by
  have notEmpty : ¬ bytes.isEmpty = true := mt List.isEmpty_iff.mp nonempty
  cases answer with
  | takes count =>
      simp only [Acceptance.fault?] at harmless
      split at harmless
      · cases harmless
      · rename_i something
        rw [offer, if_neg notEmpty, if_neg something]
        rfl
  | fails given =>
      simp only [Acceptance.fault?] at harmless
      split at harmless
      · rename_i interrupted
        rw [offer, if_neg notEmpty, if_pos interrupted]
        rfl
      · cases harmless

/-- The fault that a piece meets ends its writing, and what the answers in
front of the fault take of the piece has arrived. -/
theorem offer_of_stopsAt
    (stops : StopsAt bytes.length answers earlier fault later) :
    offer bytes answers =
      ⟨bytes.take (totalRoom earlier), some fault, later⟩ := by
  rcases stops with ⟨⟨answer, rfl, isFault⟩, first, short⟩
  induction earlier generalizing bytes with
  | nil =>
      exact offer_cons_of_fault (List.ne_nil_of_length_pos short) isFault later
  | cons passed earlier induction =>
      rcases List.forall_mem_cons.mp first with ⟨harmless, others⟩
      rw [totalRoom] at short ⊢
      -- Since the fault comes before all is taken, something is left here.
      have shorter :
          totalRoom earlier < (bytes.drop passed.room).length := by
        rw [List.length_drop]
        omega
      have nonempty : bytes ≠ [] :=
        List.ne_nil_of_length_pos (Nat.zero_lt_of_lt short)
      rw [List.cons_append, offer_cons_of_no_fault nonempty harmless,
        induction others shorter, List.take_add]
      rfl

/-- A fault that ends the writing of a piece is one that the piece meets. -/
theorem exists_stopsAt_of_offer
    (stopped : (offer bytes answers).fault? = some fault) :
    ∃ earlier later, StopsAt bytes.length answers earlier fault later := by
  induction answers generalizing bytes with
  | nil => cases stopped
  | cons answer answers induction =>
      rcases Decidable.em (bytes = []) with rfl | nonempty
      · cases answer <;> cases stopped
      · cases met : answer.fault? with
        | some given =>
            rw [offer_cons_of_fault nonempty met] at stopped
            cases stopped
            exact ⟨[], answers, ⟨answer, rfl, met⟩, nofun,
              List.length_pos_iff.mpr nonempty⟩
        | none =>
            rw [offer_cons_of_no_fault nonempty met] at stopped
            rcases induction stopped with
              ⟨earlier, later, ⟨next, rfl, isFault⟩, first, short⟩
            refine ⟨answer :: earlier, later, ⟨next, rfl, isFault⟩,
              List.forall_mem_cons.mpr ⟨met, first⟩, ?_⟩
            rw [List.length_drop] at short
            rw [totalRoom]
            omega

/-- A fault that comes before a piece has been taken whole keeps it from
arriving whole, and nothing else does. -/
theorem exists_stopsAt_iff :
    (∃ earlier fault later, StopsAt bytes.length answers earlier fault later) ↔
      (offer bytes answers).arrived ≠ bytes := by
  constructor
  · rintro ⟨earlier, fault, later, stops⟩ whole
    rw [offer_of_stopsAt stops] at whole
    have length := congrArg List.length whole
    rw [List.length_take_of_le (Nat.le_of_lt stops.short)] at length
    exact absurd length (Nat.ne_of_lt stops.short)
  · intro notWhole
    cases stopped : (offer bytes answers).fault? with
    | none => exact absurd (arrived_of_offer bytes answers stopped) notWhole
    | some fault =>
        rcases exists_stopsAt_of_offer stopped with ⟨earlier, later, stops⟩
        exact ⟨earlier, fault, later, stops⟩

/-! ## Pieces and their flush -/

namespace Sink

variable {sink : Sink}

theorem put_of_stopsAt
    (stops : StopsAt bytes.length sink.answers earlier fault later) :
    sink.put bytes =
      (.error fault,
        { sink with
          answers := later
          written := sink.written ++ bytes.take (totalRoom earlier) }) := by
  simp only [put, offer_of_stopsAt stops]

/-- A piece that arrives whole is flushed once, and any other piece is not. -/
theorem flushed_put (bytes : Bytes) (sink : Sink) :
    (sink.put bytes).2.flushed =
      sink.flushed +
        if (offer bytes sink.answers).arrived = bytes then 1 else 0 := by
  cases stopped : (offer bytes sink.answers).fault? with
  | none =>
      rw [put_of_unstopped stopped, flushed_flush,
        if_pos (arrived_of_offer bytes sink.answers stopped)]
  | some fault =>
      rcases exists_stopsAt_of_offer stopped with ⟨earlier, later, stops⟩
      rw [put_of_stopsAt stops,
        if_neg (exists_stopsAt_iff.mp ⟨earlier, fault, later, stops⟩)]
      rfl

/-- Of a piece that arrives whole the flush alone decides what is
reported. -/
theorem fst_put_of_whole
    (whole : (offer bytes sink.answers).arrived = bytes) :
    (sink.put bytes).1 = sink.flush.1 := by
  cases stopped : (offer bytes sink.answers).fault? with
  | none =>
      rw [put_of_unstopped stopped, flush_eq, flush_eq]
  | some fault =>
      rcases exists_stopsAt_of_offer stopped with ⟨earlier, later, stops⟩
      exact absurd whole
        (exists_stopsAt_iff.mp ⟨earlier, fault, later, stops⟩)

theorem put_eq_ok_iff :
    (sink.put bytes).1 = .ok () ↔
      (offer bytes sink.answers).arrived = bytes ∧
        ∀ fault, sink.flushes.head? ≠ some (some fault) := by
  rw [← flush_eq_ok_iff]
  by_cases whole : (offer bytes sink.answers).arrived = bytes
  · rw [fst_put_of_whole whole]
    exact (and_iff_right whole).symm
  · rcases exists_stopsAt_iff.mpr whole with ⟨earlier, fault, later, stops⟩
    rw [put_of_stopsAt stops]
    constructor
    · intro done
      cases done
    · rintro ⟨whole', -⟩
      exact absurd whole' whole

end Sink

/-! ## Frames -/

namespace Frame

variable {κ : Type} [Coded κ]

/--
Whatever becomes of the calls that write a frame, the stream is not corrupted.

What arrives is an initial part of the encoded frame.  If it is the whole frame
then there is one flush, and the writing succeeds if and only if the flush
does.  If not, there is no flush: a fault came before the frame had been taken
whole, the answers in front of the fault settle how much has arrived, and the
first such fault is reported.
-/
theorem write_never_corrupts
    (frame : Frame κ) (fits : frame.payload.length ≤ largestPayload)
    (sink : Sink) :
    ∃ encoded arrived, frame.encode = .ok encoded ∧
      (frame.write sink).2.written = sink.written ++ arrived ∧
      arrived <+: encoded ∧
      (frame.write sink).2.flushed =
        sink.flushed + (if arrived = encoded then 1 else 0) ∧
      ((frame.write sink).1 = .ok () ↔
        arrived = encoded ∧
          ∀ fault, sink.flushes.head? ≠ some (some fault)) ∧
      (arrived = encoded →
        ∀ fault, (frame.write sink).1 = .error (.transport fault) ↔
          sink.flushes.head? = some (some fault)) ∧
      (arrived ≠ encoded ↔ ∃ earlier fault later,
        StopsAt encoded.length sink.answers earlier fault later) ∧
      ∀ earlier fault later,
        StopsAt encoded.length sink.answers earlier fault later →
          arrived = encoded.take (totalRoom earlier) ∧
            (frame.write sink).1 = .error (.transport fault) := by
  refine ⟨frame.bytes, (offer frame.bytes sink.answers).arrived,
    encode_eq_ok_iff.mpr ⟨fits, rfl⟩, ?_, ?_, ?_, ?_, ?_,
    exists_stopsAt_iff.symm, ?_⟩
  · rw [write_eq_put fits, Sink.written_put]
  · exact arrived_isPrefix_of_offer frame.bytes sink.answers
  · rw [write_eq_put fits, Sink.flushed_put]
  · rw [write_eq_put fits]
    exact mapError_eq_ok_iff.trans Sink.put_eq_ok_iff
  · intro whole fault
    rw [write_eq_put fits, ← Sink.flush_eq_error_iff,
      ← Sink.fst_put_of_whole whole]
    exact mapError_eq_error_iff fun _ _ => Failure.transport.inj
  · intro earlier fault later stops
    rw [offer_of_stopsAt stops, write_eq_put fits, Sink.put_of_stopsAt stops]
    exact ⟨rfl, rfl⟩

/-- A request is stopped by a call that takes nothing.  A reply is taken whole
in front of such a call, which is not made. -/
theorem write_stopped_and_whole :
    let interrupted : TransportFault := ⟨.interrupted, "", false⟩
    let request : Request := ⟨.ping, []⟩
    let reply : Reply := ⟨.success, [7]⟩
    let stopping : Sink :=
      { answers := [.takes 2, .fails interrupted, .takes 0] }
    let taking : Sink := { answers := [.takes 4, .takes 9, .takes 0] }
    (request.write stopping).2.written = [6, 0] ∧
      (request.write stopping).1 = .error (.transport .nothingTaken) ∧
      (request.write stopping).2.flushed = 0 ∧
      (reply.write taking).1 = .ok () ∧ (reply.write taking).2.flushed = 1 := by
  intro interrupted request reply stopping taking
  have stops : StopsAt 5 stopping.answers [.takes 2, .fails interrupted]
      .nothingTaken [] :=
    ⟨⟨.takes 0, rfl, rfl⟩, by decide, by decide⟩
  rcases write_never_corrupts request (by decide) stopping with
    ⟨_, arrived, isEncoded, written, -, flushed, -, -, cut, stopped⟩
  cases isEncoded
  rcases stopped _ _ _ stops with ⟨rfl, isFault⟩
  rcases write_never_corrupts reply (by decide) taking with
    ⟨_, arrived, isEncoded, -, -, flushedReply, isDone, -, -, -⟩
  cases isEncoded
  have done : (reply.write taking).1 = .ok () := rfl
  rcases isDone.mp done with ⟨rfl, -⟩
  exact ⟨written.trans (by decide), isFault, flushed.trans (by decide), done,
    flushedReply.trans (by decide)⟩

end Frame

end BlockWire
