import BlockWire.Network.Scripted
import BlockWire.Proofs.Exchange
import BlockWire.Proofs.WriteFaults

/-!
# How an exchange reports a fault

A fault of the transport can hit an exchange in a write call, in the flush, or
in one of the two stages of reading the reply.  What the exchange reports
depends on where that is, on the kind of the fault, and, while reading, on
whether the stage has received a byte.

Only the first fault counts.  One that hits the writing keeps the reply from
being read, and one behind the last byte of the reply is left where it is.
-/

namespace BlockWire

/-! ## Faults while a piece is written -/

/-- The fault that ends the writing of a piece: one of a write call that comes
before the piece has been taken whole, or else the one of the flush. -/
inductive Sink.Meets (bytes : Bytes) (sink : Sink)
    (fault : TransportFault) : Prop where
  | call (earlier later : List Acceptance)
      (stops : StopsAt bytes.length sink.answers earlier fault later)
  | flush
      (whole : ∀ earlier other later,
        ¬ StopsAt bytes.length sink.answers earlier other later)
      (failed : sink.flushes.head? = some (some fault))

theorem Sink.put_eq_error_iff
    {bytes : Bytes} {sink : Sink} {fault : TransportFault} :
    (sink.put bytes).1 = .error fault ↔ sink.Meets bytes fault := by
  cases stopped : (offer bytes sink.answers).fault? with
  | some given =>
      rcases exists_stopsAt_of_offer stopped with ⟨earlier, later, stops⟩
      rw [put_of_stopsAt stops, Except.error.injEq]
      constructor
      · rintro rfl
        exact .call earlier later stops
      · rintro (⟨before, behind, first⟩ | ⟨whole, -⟩)
        · rw [offer_of_stopsAt first] at stopped
          exact (Option.some.inj stopped).symm
        · exact absurd stops (whole earlier given later)
  | none =>
      have arrived := arrived_of_offer bytes sink.answers stopped
      have whole : ∀ earlier other later,
          ¬ StopsAt bytes.length sink.answers earlier other later :=
        fun earlier other later stops =>
          exists_stopsAt_iff.mp ⟨earlier, other, later, stops⟩ arrived
      rw [fst_put_of_whole arrived, flush_eq_error_iff]
      constructor
      · intro failed
        exact .flush whole failed
      · rintro (⟨earlier, later, stops⟩ | ⟨-, failed⟩)
        · exact absurd stops (whole earlier fault later)
        · exact failed

theorem Sink.put_eq_ok_iff_not_meets {bytes : Bytes} {sink : Sink} :
    (sink.put bytes).1 = .ok () ↔ ∀ fault, ¬ sink.Meets bytes fault := by
  simp only [← put_eq_error_iff]
  cases (sink.put bytes).1 with
  | ok done => simp
  | error fault => simp

/-! ## Replies that are cut short -/

/-- The data in front of the stop of a stream end inside a stage of reading a
reply: there are fewer bytes than a header has, or the header is there and
fewer bytes than the payload it announces.  The number is that of the bytes
which the stage has received, and the fault is the one that reports them. -/
inductive EndsInside (limit : Nat) (ready : Bytes) :
    FrameFault → Nat → Prop where
  | header (short : ready.length < headerSize) :
      EndsInside limit ready (.incompleteHeader ready.length) ready.length
  | payload (header : Header Status)
      (found : Header.decode limit ready = .ok header)
      (short : (ready.drop headerSize).length < header.length) :
      EndsInside limit ready
        (.incompletePayload header.length (ready.drop headerSize).length)
        (ready.drop headerSize).length

theorem endsInside_iff
    {limit : Nat} {ready : Bytes} {cut : FrameFault} {received : Nat} :
    EndsInside limit ready cut received ↔
      Frame.decode (κ := Status) limit ready = .error cut ∧
        cut.received? = some received := by
  constructor
  · rintro (short | ⟨header, found, short⟩)
    · exact ⟨Frame.decode_eq_error_iff.mpr (.inl ⟨short, rfl⟩), rfl⟩
    · exact ⟨Frame.decode_eq_error_iff.mpr
        (.inr (.inr ⟨header, found, short, rfl⟩)), rfl⟩
  · rintro ⟨refused, counted⟩
    rcases Frame.decode_eq_error_iff.mp refused with
      ⟨short, rfl⟩ | ⟨long, headerRefused⟩ | ⟨header, found, short, rfl⟩
    · cases counted
      exact .header short
    · rw [Header.received?_of_decode long headerRefused] at counted
      cases counted
    · cases counted
      exact .payload header found short

/-- To a stage that has received some bytes the stop of a stream is an end of
data: it is one, or a timeout behind at least one byte of the stage. -/
def Source.CutsOff (received : Nat) (source : Source) : Prop :=
  source.stopFault? = none ∨
    0 < received ∧
      ∃ fault, source.stopFault? = some fault ∧ fault.kind.isTimeout

/-! ## Replies that are whole -/

/-- A stage that wants no more than what is ready does not come to what is
behind it. -/
theorem gather_append
    {wanted : Nat} (started : Bool) {arrivals : List Arrival}
    (enough : wanted ≤ (Arrival.ready arrivals).length) :
    ∃ left, Arrival.ready left = (Arrival.ready arrivals).drop wanted ∧
      ∀ thereafter later,
        gather thereafter wanted started (arrivals ++ later) =
          ⟨(Arrival.ready arrivals).take wanted, none, left ++ later⟩ := by
  fun_induction gather .ended wanted started arrivals with
  | case1 started arrivals =>
      exact ⟨arrivals, rfl, fun thereafter later => by simp [gather]⟩
  | case2 wanted started => simp at enough
  | case3 wanted started chunk rest fits ih =>
      simp only [Arrival.ready_data, List.length_append] at enough
      rcases ih (by omega) with ⟨left, ready, gathered⟩
      refine ⟨left, ?_, fun thereafter later => ?_⟩
      · simp [ready, List.drop_append, List.drop_of_length_le fits]
      · rw [List.cons_append, gather, if_pos fits, gathered]
        simp [Gathered.after, List.take_append,
          List.take_of_length_le fits]
  | case4 wanted started chunk rest tooLong =>
      have inside : wanted + 1 ≤ chunk.length := Nat.le_of_not_le tooLong
      refine ⟨.data (chunk.drop (wanted + 1)) :: rest, ?_,
        fun thereafter later => ?_⟩
      · simp [List.drop_append_of_le_length inside]
      · rw [List.cons_append, gather, if_neg tooLong, Arrival.ready_data,
          List.take_append_of_le_length inside]
        rfl
  | case5 wanted started fault rest interrupted ih =>
      rw [Arrival.ready_interrupted interrupted] at enough ⊢
      rcases ih enough with ⟨left, ready, gathered⟩
      refine ⟨left, ready, fun thereafter later => ?_⟩
      rw [List.cons_append, gather, if_pos interrupted, gathered]
  | case6 wanted started fault rest notInterrupted late =>
      rw [Arrival.ready_stop (by simp [Arrival.passes, notInterrupted])]
        at enough
      simp at enough
  | case7 wanted started fault rest notInterrupted notLate =>
      rw [Arrival.ready_stop (by simp [Arrival.passes, notInterrupted])]
        at enough
      simp at enough
  | case8 wanted started rest =>
      rw [Arrival.ready_stop rfl] at enough
      simp at enough

theorem Source.fill_append
    {wanted : Nat} {arrivals : List Arrival}
    (enough : wanted ≤ (Arrival.ready arrivals).length) :
    ∃ left, Arrival.ready left = (Arrival.ready arrivals).drop wanted ∧
      ∀ later thereafter,
        Source.fill wanted ⟨arrivals ++ later, thereafter⟩ =
          (.ok ((Arrival.ready arrivals).take wanted),
            ⟨left ++ later, thereafter⟩) := by
  rcases gather_append false enough with ⟨left, ready, gathered⟩
  refine ⟨left, ready, fun later thereafter => ?_⟩
  simp only [Source.fill, gathered]

namespace Frame

variable {κ : Type} [Coded κ] {limit : Nat}

/-- A frame that some arrivals bring is read from them alone: nothing that
comes later changes it or is touched. -/
theorem read_append
    {arrivals : List Arrival} {frame : Frame κ}
    (decoded : decode limit (Arrival.ready arrivals) = .ok frame) :
    ∃ left, ∀ later thereafter,
      read limit ⟨arrivals ++ later, thereafter⟩ =
        (.ok frame, ⟨left ++ later, thereafter⟩) := by
  unfold decode at decoded
  split at decoded
  · cases decoded
  · rename_i header found
    have long := Header.headerSize_le_of_decode found
    simp only at decoded
    split at decoded
    · cases decoded
    · rename_i notShort
      cases decoded
      rcases Source.fill_append long with ⟨between, behind, filledHeader⟩
      have enough := Nat.not_lt.mp notShort
      have whole : ¬ (((Arrival.ready arrivals).drop headerSize).take
          header.length).length < header.length :=
        Nat.not_lt.mpr (Nat.le_of_eq (List.length_take_of_le enough).symm)
      rw [← behind] at enough
      rcases Source.fill_append enough with ⟨left, -, filledPayload⟩
      refine ⟨left, fun later thereafter => ?_⟩
      simp only [read, filledHeader, Header.decode_take limit long, found,
        filledPayload, behind, if_neg whole]

/-- What is read as a frame is decoded as the same one. -/
theorem decode_of_read
    {source rest : Source} {frame : Frame κ}
    (isRead : read limit source = (.ok frame, rest)) :
    decode limit source.ready = .ok frame := by
  cases decoded : decode (κ := κ) limit source.ready with
  | ok other =>
      rcases read_of_decode_ok decoded with ⟨left, otherRead, -⟩
      rw [isRead, Prod.mk.injEq, Except.ok.injEq] at otherRead
      rw [otherRead.1]
  | error fault =>
      rcases read_of_decode_error decoded with ⟨failure, left, failed, -⟩
      rw [isRead] at failed
      cases failed

/-- Reading fails with the shortfall of a stage that is cut short, or because
the data are no frame. -/
theorem read_eq_error_iff {source : Source} {failure : Failure} :
    (read (κ := κ) limit source).1 = .error failure ↔
      ∃ cut, decode (κ := κ) limit source.ready = .error cut ∧
        failure =
          match cut.received? with
          | some received => source.shortfall received cut
          | none => .framing cut := by
  constructor
  · intro failed
    cases decoded : decode (κ := κ) limit source.ready with
    | ok frame =>
        rcases read_of_decode_ok decoded with ⟨rest, isRead, -⟩
        rw [isRead] at failed
        cases failed
    | error cut =>
        refine ⟨cut, rfl, ?_⟩
        cases counted : cut.received? with
        | some received =>
            rw [read_of_decode_short decoded counted] at failed
            exact (Except.error.inj failed).symm
        | none =>
            rcases read_of_decode_refused decoded counted with
              ⟨rest, isRead, -⟩
            rw [isRead] at failed
            exact (Except.error.inj failed).symm
  · rintro ⟨cut, decoded, rfl⟩
    cases counted : cut.received? with
    | some received => rw [read_of_decode_short decoded counted]
    | none =>
        rcases read_of_decode_refused decoded counted with ⟨rest, isRead, -⟩
        rw [isRead]

end Frame

namespace Link

/-! ## What is made of a fault -/

variable {link : Link} {source : Source} {fault other : TransportFault}
  {cut : FrameFault} {received : Nat} {address : String}

theorem timeout_eq_classify_transport_iff :
    .timeout address = link.classify (.transport fault) ↔
      address = link.connection.peer ∧ fault.kind.isTimeout := by
  unfold classify
  by_cases timeout : fault.kind.isTimeout
  · simp only [timeout, if_true, Failure.timeout.injEq, and_true]
  · simp only [timeout, Bool.false_eq_true, if_false, reduceCtorEq,
      and_false]

theorem transport_eq_classify_transport_iff :
    .transport other = link.classify (.transport fault) ↔
      fault = other ∧ ¬ other.kind.isTimeout := by
  unfold classify
  by_cases timeout : fault.kind.isTimeout
  · simp only [timeout, if_true, reduceCtorEq, false_iff]
    rintro ⟨rfl, notTimeout⟩
    exact notTimeout timeout
  · simp only [timeout, Bool.false_eq_true, if_false,
      Failure.transport.injEq]
    constructor
    · rintro rfl
      exact ⟨rfl, timeout⟩
    · rintro ⟨rfl, -⟩
      rfl

theorem framing_ne_classify_transport :
    .framing cut ≠ link.classify (.transport fault) := by
  unfold classify
  by_cases timeout : fault.kind.isTimeout <;> simp [timeout]

theorem timeout_eq_classify_shortfall_iff :
    .timeout address = link.classify (source.shortfall received cut) ↔
      address = link.connection.peer ∧ received = 0 ∧
        ∃ fault, source.stopFault? = some fault ∧ fault.kind.isTimeout := by
  unfold Source.shortfall
  cases source.stopFault? with
  | none => simp [classify]
  | some stop =>
      by_cases late : 0 < received ∧ stop.kind.isTimeout
      · simp only [if_pos late, classify, reduceCtorEq, false_iff]
        rintro ⟨-, rfl, -⟩
        exact absurd late.1 (Nat.lt_irrefl 0)
      · simp only [if_neg late, timeout_eq_classify_transport_iff,
          Option.some.injEq, exists_eq_left']
        constructor
        · rintro ⟨isPeer, timeout⟩
          exact ⟨isPeer,
            Nat.eq_zero_of_not_pos fun started => late ⟨started, timeout⟩,
            timeout⟩
        · rintro ⟨isPeer, -, timeout⟩
          exact ⟨isPeer, timeout⟩

theorem transport_eq_classify_shortfall_iff :
    .transport fault = link.classify (source.shortfall received cut) ↔
      source.stopFault? = some fault ∧ ¬ fault.kind.isTimeout := by
  unfold Source.shortfall
  cases source.stopFault? with
  | none => simp [classify]
  | some stop =>
      by_cases late : 0 < received ∧ stop.kind.isTimeout
      · simp only [if_pos late, classify, reduceCtorEq, Option.some.injEq,
          false_iff]
        rintro ⟨rfl, notTimeout⟩
        exact notTimeout late.2
      · simp only [if_neg late, transport_eq_classify_transport_iff,
          Option.some.injEq]

theorem framing_eq_classify_shortfall_iff {other : FrameFault} :
    .framing other = link.classify (source.shortfall received cut) ↔
      other = cut ∧ source.CutsOff received := by
  unfold Source.shortfall Source.CutsOff
  cases source.stopFault? with
  | none => simp [classify]
  | some stop =>
      by_cases late : 0 < received ∧ stop.kind.isTimeout
      · simp [classify, late]
      · simp only [if_neg late, reduceCtorEq, false_or, Option.some.injEq,
          exists_eq_left', framing_ne_classify_transport, false_iff]
        rintro ⟨-, late'⟩
        exact late late'

/-! ## The failures of an exchange -/

variable {ν : Type} [Network ν] {request : Request} {network : ν}

theorem submit_eq_put
    (link : Link) (network : ν)
    (fits : request.payload.length ≤ largestPayload) :
    (link.submit request network).1 =
      (link.connection.outgoing.put request.bytes).1.mapError
        fun fault => link.classify (.transport fault) := by
  show (request.write link.connection.outgoing).1.mapError link.classify = _
  rw [Frame.write_eq_put fits]
  cases (link.connection.outgoing.put request.bytes).1 <;> rfl

/-- A reply is not read because its data end inside a stage or are no
frame. -/
theorem collect_eq_error_iff {failure : Failure} :
    link.collect.1 = .error failure ↔
      (∃ cut received,
        EndsInside link.payloadLimit link.connection.incoming.ready cut
            received ∧
          failure = link.classify
            (link.connection.incoming.shortfall received cut)) ∨
      ∃ cut,
        Frame.decode (κ := Status) link.payloadLimit
            link.connection.incoming.ready = .error cut ∧
          cut.received? = none ∧ failure = .framing cut := by
  have given : link.collect.1 =
      (Frame.read link.payloadLimit link.connection.incoming).1.mapError
        link.classify := rfl
  constructor
  · intro failed
    rw [given] at failed
    cases isRead :
        (Frame.read (κ := Status) link.payloadLimit
          link.connection.incoming).1 with
    | ok reply =>
        rw [isRead] at failed
        cases failed
    | error cause =>
        rw [isRead] at failed
        cases failed
        rcases Frame.read_eq_error_iff.mp isRead with ⟨cut, decoded, rfl⟩
        cases counted : cut.received? with
        | some received =>
            exact .inl ⟨cut, received,
              endsInside_iff.mpr ⟨decoded, counted⟩, rfl⟩
        | none => exact .inr ⟨cut, decoded, counted, rfl⟩
  · rintro (⟨cut, received, inside, rfl⟩ | ⟨cut, decoded, counted, rfl⟩)
    · rcases endsInside_iff.mp inside with ⟨decoded, counted⟩
      rw [given, Frame.read_eq_error_iff.mpr ⟨cut, decoded, rfl⟩, counted,
        mapError_error]
    · rw [given, Frame.read_eq_error_iff.mpr ⟨cut, decoded, rfl⟩, counted,
        mapError_error]
      rfl

/-- An exchange fails with the fault that ends the writing of the request, or,
if the request is written, because no reply is read. -/
theorem roundTrip_eq_error_iff
    (fits : request.payload.length ≤ largestPayload) {failure : Failure} :
    (link.roundTrip request network).1 = .error failure ↔
      (∃ fault, link.connection.outgoing.Meets request.bytes fault ∧
        failure = link.classify (.transport fault)) ∨
      (∀ fault, ¬ link.connection.outgoing.Meets request.bytes fault) ∧
        (link.submitted request network).collect.1 = .error failure := by
  have given := submit_eq_put link network fits
  cases written : (link.connection.outgoing.put request.bytes).1 with
  | error fault =>
      have meets := Sink.put_eq_error_iff.mp written
      rw [written, mapError_error] at given
      rw [roundTrip_of_submit_error given, Except.error.injEq]
      constructor
      · rintro rfl
        exact .inl ⟨fault, meets, rfl⟩
      · rintro (⟨other, otherMeets, rfl⟩ | ⟨none, -⟩)
        · have same := Sink.put_eq_error_iff.mpr otherMeets
          rw [written] at same
          rw [Except.error.inj same]
        · exact absurd meets (none fault)
  | ok done =>
      have none := Sink.put_eq_ok_iff_not_meets.mp written
      rw [written, mapError_ok] at given
      rw [roundTrip_of_submit_ok given]
      constructor
      · intro failed
        exact .inr ⟨none, failed⟩
      · rintro (⟨fault, meets, -⟩ | ⟨-, failed⟩)
        · exact absurd meets (none fault)
        · exact failed

theorem isSessionFatal_of_roundTrip
    {failure : Failure}
    (failed : (link.roundTrip request network).1 = .error failure) :
    failure.isSessionFatal = true := by
  by_cases answered : ∃ reply, link.Answers request reply network
  · rcases answered with ⟨reply, answers⟩
    rcases roundTrip_of_answers answers with ⟨rest, exchanged, -⟩
    rw [exchanged] at failed
    cases failed
  · rcases roundTrip_of_not_answers (not_exists.mp answered) with
      ⟨given, after, exchanged, fatal, -⟩
    rw [exchanged] at failed
    cases failed
    exact fatal

/-- A timeout is reported of a write or a flush, or of a stage of reading that
has received nothing. -/
theorem roundTrip_eq_timeout_iff
    (fits : request.payload.length ≤ largestPayload) :
    (link.roundTrip request network).1 = .error (.timeout address) ↔
      address = link.connection.peer ∧
        ∃ fault, fault.kind.isTimeout ∧
          (link.connection.outgoing.Meets request.bytes fault ∨
            (∀ other,
              ¬ link.connection.outgoing.Meets request.bytes other) ∧
              ∃ cut,
                EndsInside link.payloadLimit
                    (link.submitted request network).connection.incoming.ready
                    cut 0 ∧
                  (link.submitted request
                    network).connection.incoming.stopFault? =
                      some fault) := by
  rw [roundTrip_eq_error_iff fits, collect_eq_error_iff]
  simp only [timeout_eq_classify_transport_iff,
    timeout_eq_classify_shortfall_iff, reduceCtorEq, and_false,
    exists_false, or_false]
  constructor
  · rintro (⟨fault, meets, isPeer, timeout⟩ |
      ⟨none, cut, received, inside, isPeer, rfl, fault, stop, timeout⟩)
    · exact ⟨isPeer, fault, timeout, .inl meets⟩
    · exact ⟨isPeer, fault, timeout, .inr ⟨none, cut, inside, stop⟩⟩
  · rintro ⟨isPeer, fault, timeout, meets | ⟨none, cut, inside, stop⟩⟩
    · exact .inl ⟨fault, meets, isPeer, timeout⟩
    · exact .inr ⟨none, cut, 0, inside, isPeer, rfl, fault, stop, timeout⟩

/-- A part that is cut short is reported if the data end inside it, or a
timeout comes after some of it. -/
theorem roundTrip_eq_cut_iff
    (fits : request.payload.length ≤ largestPayload)
    (counted : cut.received? = some received) :
    (link.roundTrip request network).1 = .error (.framing cut) ↔
      (∀ other, ¬ link.connection.outgoing.Meets request.bytes other) ∧
        EndsInside link.payloadLimit
            (link.submitted request network).connection.incoming.ready
            cut received ∧
          (link.submitted request network).connection.incoming.CutsOff
            received := by
  rw [roundTrip_eq_error_iff fits, collect_eq_error_iff]
  simp only [framing_ne_classify_transport, and_false, exists_false,
    false_or, framing_eq_classify_shortfall_iff, Failure.framing.injEq]
  constructor
  · rintro ⟨none, ⟨given, number, inside, rfl, ends⟩ |
      ⟨given, -, uncounted, rfl⟩⟩
    · rw [(endsInside_iff.mp inside).2] at counted
      cases counted
      exact ⟨none, inside, ends⟩
    · rw [uncounted] at counted
      cases counted
  · rintro ⟨none, inside, ends⟩
    exact ⟨none, .inl ⟨cut, received, inside, rfl, ends⟩⟩

/-- Any other fault is reported as it is. -/
theorem roundTrip_eq_transport_iff
    (fits : request.payload.length ≤ largestPayload) :
    (link.roundTrip request network).1 = .error (.transport fault) ↔
      ¬ fault.kind.isTimeout ∧
        (link.connection.outgoing.Meets request.bytes fault ∨
          (∀ other, ¬ link.connection.outgoing.Meets request.bytes other) ∧
            ∃ cut received,
              EndsInside link.payloadLimit
                  (link.submitted request network).connection.incoming.ready
                  cut received ∧
                (link.submitted request
                  network).connection.incoming.stopFault? =
                    some fault) := by
  rw [roundTrip_eq_error_iff fits, collect_eq_error_iff]
  simp only [transport_eq_classify_transport_iff,
    transport_eq_classify_shortfall_iff, reduceCtorEq, and_false,
    exists_false, or_false]
  constructor
  · rintro (⟨given, meets, rfl, notTimeout⟩ |
      ⟨none, cut, received, inside, stop, notTimeout⟩)
    · exact ⟨notTimeout, .inl meets⟩
    · exact ⟨notTimeout, .inr ⟨none, cut, received, inside, stop⟩⟩
  · rintro ⟨notTimeout, meets | ⟨none, cut, received, inside, stop⟩⟩
    · exact .inl ⟨fault, meets, rfl, notTimeout⟩
    · exact .inr ⟨none, cut, received, inside, stop, notTimeout⟩

/-! ## What is read of the reply -/

/-- Bytes of the reply are only taken when the request has been written as a
whole and flushed. -/
theorem written_of_incoming_ne
    (isRead :
      (link.roundTrip request network).2.1.connection.incoming ≠
        (link.submitted request network).connection.incoming) :
    (link.roundTrip request network).2.1.connection.outgoing.written =
        link.connection.outgoing.written ++ request.bytes ∧
      (link.roundTrip request network).2.1.connection.outgoing.flushed =
          link.connection.outgoing.flushed + 1 ∧
      ∀ fault,
        link.connection.outgoing.flushes.head? ≠ some (some fault) := by
  cases done : (link.submit request network).1 with
  | error failure =>
      rw [roundTrip_of_submit_error done] at isRead
      exact absurd rfl isRead
  | ok nothing =>
      have put := (submit_eq_ok_iff.mp done).2
      rcases Sink.put_eq_ok_iff.mp put with ⟨whole, unfailed⟩
      have outgoing :
          (link.submitted request network).collect.2.connection.outgoing =
            (link.connection.outgoing.put request.bytes).2 :=
        outgoing_submitted done
      rw [roundTrip_of_submit_ok done, outgoing]
      refine ⟨Sink.written_of_put put, ?_, unfailed⟩
      rw [Sink.flushed_put, if_pos whole]

/-- What arrives behind a whole reply has no part in the exchange. -/
theorem roundTrip_of_read_alone
    (fits : request.payload.length ≤ largestPayload)
    (unmet : ∀ fault,
      ¬ link.connection.outgoing.Meets request.bytes fault)
    {earlier later : List Arrival}
    (split :
      (link.submitted request network).connection.incoming.arrivals =
        earlier ++ later)
    {reply : Reply} {rest : Source}
    (alone :
      Frame.read link.payloadLimit ⟨earlier, .ended⟩ = (.ok reply, rest)) :
    (link.roundTrip request network).1 = .ok reply ∧
      (link.roundTrip request network).2.1.connection.incoming =
        ⟨rest.arrivals ++ later,
          (link.submitted request
            network).connection.incoming.thereafter⟩ := by
  have done : (link.submit request network).1 = .ok () :=
    submit_eq_ok_iff.mpr ⟨fits, Sink.put_eq_ok_iff_not_meets.mpr unmet⟩
  rcases Frame.read_append (Frame.decode_of_read alone) with ⟨left, isRead⟩
  have readAlone := isRead [] .ended
  rw [List.append_nil, List.append_nil, alone, Prod.mk.injEq] at readAlone
  have here := isRead later
    (link.submitted request network).connection.incoming.thereafter
  rw [← split] at here
  have limit : (link.submitted request network).payloadLimit =
      link.payloadLimit :=
    (continues_submitted request link network).payloadLimit
  rw [roundTrip_of_submit_ok done, collect, limit, here, readAlone.2]
  exact ⟨rfl, rfl⟩

/-! ## Exchanges with faults -/

/--
An exchange reports every fault of the transport for what it is.

A timeout of the peer is reported exactly if a write call or the flush timed
out, or a read timed out when its stage had received nothing.  A header or a
payload that is cut short is reported, with the number of bytes received,
exactly if the data ended inside it or a read timed out after some of it.  Every
other fault that a write call, the flush or a read meets is reported as it is,
and none of these is a timeout.  There is no other kind of failure of the
transport, and none that would not end the session.

Bytes of the reply are only read when the request has been written as a whole
and flushed.  What arrives behind the last byte of the reply changes neither
the result nor what is left in front of it.
-/
theorem roundTrip_reports_fault
    (request : Request) (fits : request.payload.length ≤ largestPayload)
    (link : Link) (network : ν) :
    let sink := link.connection.outgoing
    let source := (link.submitted request network).connection.incoming
    let result := (link.roundTrip request network).1
    let after := (link.roundTrip request network).2.1.connection
    (∀ address, result = .error (.timeout address) ↔
      address = link.connection.peer ∧
        ∃ fault, fault.kind.isTimeout ∧
          (sink.Meets request.bytes fault ∨
            (∀ other, ¬ sink.Meets request.bytes other) ∧
              ∃ cut, EndsInside link.payloadLimit source.ready cut 0 ∧
                source.stopFault? = some fault)) ∧
    (∀ received,
      result = .error (.framing (.incompleteHeader received)) ↔
        (∀ other, ¬ sink.Meets request.bytes other) ∧
          EndsInside link.payloadLimit source.ready
              (.incompleteHeader received) received ∧
            source.CutsOff received) ∧
    (∀ expected received,
      result = .error (.framing (.incompletePayload expected received)) ↔
        (∀ other, ¬ sink.Meets request.bytes other) ∧
          EndsInside link.payloadLimit source.ready
              (.incompletePayload expected received) received ∧
            source.CutsOff received) ∧
    (∀ fault, result = .error (.transport fault) ↔
      ¬ fault.kind.isTimeout ∧
        (sink.Meets request.bytes fault ∨
          (∀ other, ¬ sink.Meets request.bytes other) ∧
            ∃ cut received,
              EndsInside link.payloadLimit source.ready cut received ∧
                source.stopFault? = some fault)) ∧
    ((∀ address cause, result ≠ .error (.connection address cause)) ∧
      result ≠ .error .notConnected ∧
      (∀ refusal, result ≠ .error (.refused refusal)) ∧
      ∀ text, result ≠ .error (.usage text)) ∧
    (after.incoming ≠ source →
      after.outgoing.written = sink.written ++ request.bytes ∧
        after.outgoing.flushed = sink.flushed + 1 ∧
        ∀ fault, sink.flushes.head? ≠ some (some fault)) ∧
    (∀ earlier later reply rest,
      source.arrivals = earlier ++ later →
        Frame.read link.payloadLimit ⟨earlier, .ended⟩ = (.ok reply, rest) →
          (∀ other, ¬ sink.Meets request.bytes other) →
            result = .ok reply ∧
              after.incoming =
                ⟨rest.arrivals ++ later, source.thereafter⟩) := by
  intro sink source result after
  refine ⟨?_, ?_, ?_, ?_, ⟨?_, ?_, ?_, ?_⟩, ?_, ?_⟩
  · exact fun address => roundTrip_eq_timeout_iff fits
  · exact fun received => roundTrip_eq_cut_iff fits rfl
  · exact fun expected received => roundTrip_eq_cut_iff fits rfl
  · exact fun fault => roundTrip_eq_transport_iff fits
  · intro address cause failed
    cases isSessionFatal_of_roundTrip failed
  · intro failed
    cases isSessionFatal_of_roundTrip failed
  · intro refusal failed
    cases isSessionFatal_of_roundTrip failed
  · intro text failed
    cases isSessionFatal_of_roundTrip failed
  · exact written_of_incoming_ne
  · intro earlier later reply rest split alone unmet
    exact roundTrip_of_read_alone fits unmet split alone

/-- A reply of which the header arrives and no byte of the payload, one with a
byte of the payload, one that is there when the flush fails, and one with a
reset behind it. -/
theorem roundTrip_stalled_broken_and_whole :
    let header : Arrival := .data [0, 0, 0, 0, 3]
    let payload : Arrival := .data [7, 7, 7]
    let linked (arrivals : List Arrival) (sink : Sink) : Link :=
      ⟨⟨0, "peer", ⟨arrivals, .stalled⟩, sink⟩, 10⟩
    let stalled := linked [header] {}
    let started := linked [header, .data [7]] {}
    let broken := linked [header, payload] { flushes := [some .nothingTaken] }
    let whole := linked [header, payload, .fault .reset] {}
    let network : Scripted := {}
    (stalled.roundTrip .ping network).1 = .error (.timeout "peer") ∧
      (started.roundTrip .ping network).1 =
        .error (.framing (.incompletePayload 3 1)) ∧
      (broken.roundTrip .ping network).1 =
        .error (.transport .nothingTaken) ∧
      (whole.roundTrip .ping network).1 = .ok ⟨.success, [7, 7, 7]⟩ ∧
      (whole.roundTrip .ping network).2.1.connection.incoming.arrivals =
        [.fault .reset] := by
  intro header payload linked stalled started broken whole network
  have fits : Request.ping.payload.length ≤ largestPayload := by decide
  have taken : ∀ fault, ¬ Sink.Meets Request.ping.bytes {} fault :=
    Sink.put_eq_ok_iff_not_meets.mp rfl
  have announced (rest : Bytes) : Header.decode (κ := Status) 10
      (0 :: 0 :: 0 :: 0 :: 3 :: rest) = .ok ⟨.success, 3⟩ :=
    Header.decode_bytes_append (κ := Status) ⟨.success, 3⟩ rest
      (by decide) (by decide)
  have nothing : EndsInside 10 [0, 0, 0, 0, 3] (.incompletePayload 3 0) 0 :=
    .payload _ (announced []) (by decide)
  have one : EndsInside 10 [0, 0, 0, 0, 3, 7] (.incompletePayload 3 1) 1 :=
    .payload _ (announced [7]) (by decide)
  have alone : Frame.read 10 ⟨[header, payload], .ended⟩ =
      (.ok (⟨.success, [7, 7, 7]⟩ : Reply), ⟨[], .ended⟩) := by
    have filled : Source.fill headerSize ⟨[header, payload], .ended⟩ =
        (.ok [0, 0, 0, 0, 3], ⟨[payload], .ended⟩) := rfl
    simp only [Frame.read, filled, announced]
    rfl
  rcases roundTrip_reports_fault .ping fits stalled network with
    ⟨timeout, -⟩
  rcases roundTrip_reports_fault .ping fits started network with
    ⟨-, -, cut, -⟩
  rcases roundTrip_reports_fault .ping fits broken network with
    ⟨-, -, -, other, -⟩
  rcases roundTrip_reports_fault .ping fits whole network with
    ⟨-, -, -, -, -, -, unchanged⟩
  rcases unchanged [header, payload] [.fault .reset] _ _ rfl alone taken with
    ⟨answered, left⟩
  refine ⟨?_, ?_, ?_, answered, congrArg Source.arrivals left⟩
  · exact (timeout "peer").mpr
      ⟨rfl, .stalled, rfl, .inr ⟨taken, _, nothing, rfl⟩⟩
  · exact (cut 3 1).mpr
      ⟨taken, one, .inr ⟨by decide, .stalled, rfl, rfl⟩⟩
  · exact (other .nothingTaken).mpr ⟨by decide,
      .inl (Sink.put_eq_error_iff.mp rfl)⟩

end Link

end BlockWire
