import BlockWire.Proofs.Lane
import BlockWire.Server.Serve
import Mathlib.Logic.ExistsUnique

/-!
# Serving a stream of requests

What a server makes of a stream is decided by the requests that its bytes begin
with.  These are the frames in front of the first bytes that are none, and
there is exactly one longest sequence of them, however the bytes arrive.

The server answers the requests of this sequence, one after the other, and
stops.  What lies behind them is read once, refused, and never answered.
-/

namespace BlockWire

/-! ## The frames at the start of some bytes -/

namespace Frame

variable {κ : Type} [Coded κ] {limit : Nat}

/-- Each of some frames has an encoding and a payload within a limit. -/
def AllWithin (limit : Nat) (frames : List (Frame κ)) : Prop :=
  ∀ frame ∈ frames,
    frame.payload.length ≤ largestPayload ∧ frame.payload.length ≤ limit

/-- The longest sequence of frames within a limit whose bytes begin some
bytes. -/
structure Leading (limit : Nat) (bytes : Bytes) (frames : List (Frame κ)) :
    Prop where
  within : AllWithin limit frames
  initial : allBytes frames <+: bytes
  longest : ∀ other : List (Frame κ), AllWithin limit other →
    allBytes other <+: bytes → other <+: frames

/-- A sequence of frames starts with the frame that is decoded. -/
theorem decode_of_allBytes_cons
    {frame : Frame κ} {frames : List (Frame κ)} {bytes : Bytes}
    (within : AllWithin limit (frame :: frames))
    (initial : allBytes (frame :: frames) <+: bytes) :
    decode limit bytes = .ok frame ∧
      allBytes frames <+:
        bytes.drop (headerSize + frame.payload.length) := by
  rcases initial with ⟨behind, rfl⟩
  rcases within frame List.mem_cons_self with ⟨fits, inLimit⟩
  have split : allBytes (frame :: frames) ++ behind =
      frame.bytes ++ (allBytes frames ++ behind) := by
    simp only [allBytes, List.flatMap_cons, List.append_assoc]
  rw [split, ← length_bytes frame, List.drop_left]
  exact ⟨decode_bytes_append frame _ fits inLimit,
    List.prefix_append _ behind⟩

/-- Bytes that are refused begin with no frame. -/
theorem leading_nil
    {bytes : Bytes} {fault : FrameFault}
    (refused : decode (κ := κ) limit bytes = .error fault) :
    Leading (κ := κ) limit bytes [] where
  within frame member := by cases member
  initial := List.nil_prefix
  longest other within initial := by
    cases other with
    | nil => exact List.nil_prefix
    | cons frame frames =>
        have decoded := (decode_of_allBytes_cons within initial).1
        rw [refused] at decoded
        cases decoded

/-- A frame that is decoded comes before those of the bytes behind it. -/
theorem leading_cons
    {bytes : Bytes} {frame : Frame κ} {frames : List (Frame κ)}
    (decoded : decode limit bytes = .ok frame)
    (leading :
      Leading limit (bytes.drop (headerSize + frame.payload.length))
        frames) :
    Leading limit bytes (frame :: frames) where
  within := by
    rcases eq_bytes_append_of_decode decoded with ⟨-, fits, inLimit⟩
    exact List.forall_mem_cons.mpr ⟨⟨fits, inLimit⟩, leading.within⟩
  initial := by
    rcases leading.initial with ⟨behind, isRest⟩
    refine ⟨behind, ?_⟩
    rw [allBytes, List.flatMap_cons, List.append_assoc]
    exact isRest ▸ (eq_bytes_append_of_decode decoded).1.symm
  longest other within initial := by
    cases other with
    | nil => exact List.nil_prefix
    | cons first later =>
        rcases decode_of_allBytes_cons within initial with
          ⟨isFirst, behind⟩
        cases isFirst.symm.trans decoded
        rw [List.prefix_cons_inj]
        exact leading.longest later
          (fun other member => within other (List.mem_cons_of_mem _ member))
          behind

/-- What is behind the first of the leading frames is led by the others. -/
theorem Leading.tail
    {bytes : Bytes} {frame : Frame κ} {frames : List (Frame κ)}
    (leading : Leading limit bytes (frame :: frames)) :
    decode limit bytes = .ok frame ∧
      Leading limit (bytes.drop (headerSize + frame.payload.length))
        frames := by
  rcases decode_of_allBytes_cons leading.within leading.initial with
    ⟨decoded, behind⟩
  have split := (eq_bytes_append_of_decode decoded).1
  refine ⟨decoded,
    fun other member => leading.within other (List.mem_cons_of_mem _ member),
    behind, ?_⟩
  intro other within initial
  have longer : allBytes (frame :: other) <+: bytes := by
    rw [split, allBytes, List.flatMap_cons, List.prefix_append_right_inj]
    exact initial
  have found := leading.longest (frame :: other)
    (List.forall_mem_cons.mpr
      ⟨leading.within frame List.mem_cons_self, within⟩) longer
  exact (List.prefix_cons_inj frame).mp found

/-- Bytes that no frame leads are refused. -/
theorem Leading.refused
    {bytes : Bytes} (leading : Leading (κ := κ) limit bytes []) :
    ∃ fault, decode (κ := κ) limit bytes = .error fault := by
  cases decoded : decode (κ := κ) limit bytes with
  | error fault => exact ⟨fault, rfl⟩
  | ok frame =>
      rcases decode_eq_ok_iff.mp decoded with ⟨fits, inLimit, initial⟩
      have found := leading.longest [frame]
        (List.forall_mem_singleton.mpr ⟨fits, inLimit⟩)
        (by rwa [allBytes_singleton])
      cases List.prefix_nil.mp found

theorem exists_leading (limit : Nat) (bytes : Bytes) :
    ∃ frames : List (Frame κ), Leading limit bytes frames := by
  induction length : bytes.length using Nat.strongRecOn
    generalizing bytes with
  | ind _ shorter =>
      subst length
      cases decoded : decode (κ := κ) limit bytes with
      | error fault => exact ⟨[], leading_nil decoded⟩
      | ok frame =>
          have long := length_bytes_le_of_decode decoded
          rw [length_bytes] at long
          rcases shorter
              (bytes.drop (headerSize + frame.payload.length)).length
              (by simp only [List.length_drop, headerSize] at long ⊢; omega)
              _ rfl with
            ⟨frames, leading⟩
          exact ⟨frame :: frames, leading_cons decoded leading⟩

theorem existsUnique_leading (limit : Nat) (bytes : Bytes) :
    ∃! frames : List (Frame κ), Leading limit bytes frames := by
  rcases exists_leading (κ := κ) limit bytes with ⟨frames, leading⟩
  refine ⟨frames, leading, fun other leadingToo => ?_⟩
  have forth := leading.longest other leadingToo.within leadingToo.initial
  have back := leadingToo.longest frames leading.within leading.initial
  exact forth.eq_of_length_le back.length_le

end Frame

/-! ## Writing the replies -/

namespace Sink

/-- Every one of some replies is written when they are written one after the
other. -/
def Delivers : List Reply → Sink → Prop
  | [], _ => True
  | reply :: replies, sink =>
      (reply.write sink).1 = .ok () ∧
        Delivers replies (reply.write sink).2

theorem Delivers.encode_eq
    {replies : List Reply} {sink : Sink} (delivers : sink.Delivers replies) :
    ∀ reply ∈ replies, reply.encode = .ok reply.bytes := by
  induction replies generalizing sink with
  | nil =>
      intro reply member
      cases member
  | cons first replies induction =>
      intro reply member
      rcases List.mem_cons.mp member with rfl | memberLater
      · have fits := (Frame.write_eq_ok_iff.mp delivers.1).1
        exact Frame.encode_eq_ok_iff.mpr ⟨fits, rfl⟩
      · exact induction delivers.2 reply memberLater

end Sink

/-! ## One round of serving -/

variable {store : Store} {source rest : Source} {sink : Sink}

theorem serve_of_unread
    {failure : Failure}
    (unread : (Frame.read requestLimit source :
      Except Failure Request × Source) = (.error failure, rest)) :
    serve store source sink = ⟨store, [], rest, sink⟩ := by
  unfold serve
  split
  · rename_i found isUnread
    cases isUnread.symm.trans unread
    rfl
  · rename_i found isRead
    cases isRead.symm.trans unread

theorem serve_of_read
    {request : Request}
    (isRead : Frame.read requestLimit source = (.ok request, rest))
    (written : ((store.handle request).1.write sink).1 = .ok ()) :
    serve store source sink =
      (serve (store.handle request).2 rest
        ((store.handle request).1.write sink).2).after request := by
  rw [serve]
  split
  · rename_i found isUnread
    cases isUnread.symm.trans isRead
  · rename_i found left isReadToo
    cases isReadToo.symm.trans isRead
    rcases wrote : (store.handle request).1.write sink with
      ⟨failure | done, after⟩
    · rw [wrote] at written
      cases written
    · simp only [wrote]

/-! ## Serving to the end -/

/-- The requests that lead a stream are answered in turn, and then one more
read is made, which finds none. -/
theorem serve_of_leading
    {frames : List Request}
    (leading : Frame.Leading requestLimit source.ready frames)
    (delivers : sink.Delivers (store.handleAll frames).1) :
    (serve store source sink).handled = frames ∧
      (serve store source sink).store = (store.handleAll frames).2 ∧
      (serve store source sink).sink.written =
        sink.written ++ Frame.allBytes (store.handleAll frames).1 ∧
      ∃ between fault,
        source.Takes (Frame.allBytes frames).length between ∧
          Frame.decode (κ := Operation) requestLimit between.ready =
            .error fault ∧
          (serve store source sink).source =
            (Frame.read (κ := Operation) requestLimit between).2 := by
  induction frames generalizing store source sink with
  | nil =>
      rcases leading.refused with ⟨fault, refused⟩
      rcases Frame.read_of_decode_error refused with
        ⟨failure, rest, unread, -⟩
      rw [serve_of_unread unread]
      refine ⟨rfl, rfl, (List.append_nil _).symm, source, fault, .refl _,
        refused, ?_⟩
      rw [unread]
  | cons request frames induction =>
      rcases leading.tail with ⟨decoded, leadingRest⟩
      rcases Frame.read_of_decode_ok decoded with ⟨rest, isRead, taken⟩
      rw [← taken.ready] at leadingRest
      rcases induction leadingRest delivers.2 with
        ⟨handled, stores, written, between, fault, takenRest, refused,
          left⟩
      rw [serve_of_read isRead delivers.1]
      refine ⟨congrArg (request :: ·) handled, stores, ?_, between, fault,
        ?_, refused, left⟩
      · refine written.trans ?_
        rw [Frame.written_of_write delivers.1, List.append_assoc]
        rfl
      · have length : (Frame.allBytes (request :: frames)).length =
            headerSize + request.payload.length +
              (Frame.allBytes frames).length := by
          simp only [Frame.allBytes, List.flatMap_cons, List.length_append,
            Frame.length_bytes]
        rw [length]
        exact taken.trans takenRest

/--
A served connection is a fold over the requests that lead it.

Whatever bytes arrive, in whatever chunks, there is exactly one longest
sequence of whole requests within the limit that they begin with.  If the
replies to these can be written, then serving from any store answers exactly
these requests, each once and in order.  The store afterwards is the one that
handling them makes of the store before, and what is written are the encoded
replies, one behind the other.  The bytes behind these requests are refused by
the one further read that is made; they get no answer and do not change the
store.
-/
theorem serve_folds_leading_requests
    (store : Store) (source : Source) (sink : Sink) :
    (∃! frames : List Request,
      Frame.Leading requestLimit source.ready frames) ∧
    ∀ frames : List Request,
      Frame.Leading requestLimit source.ready frames →
      sink.Delivers (store.handleAll frames).1 →
        (serve store source sink).handled = frames ∧
        (serve store source sink).store = (store.handleAll frames).2 ∧
        (∀ reply ∈ (store.handleAll frames).1,
          reply.encode = .ok reply.bytes) ∧
        (serve store source sink).sink.written =
          sink.written ++ Frame.allBytes (store.handleAll frames).1 ∧
        ∃ between fault,
          source.Takes (Frame.allBytes frames).length between ∧
            Frame.decode (κ := Operation) requestLimit between.ready =
              .error fault ∧
            (serve store source sink).source =
              (Frame.read (κ := Operation) requestLimit between).2 := by
  refine ⟨Frame.existsUnique_leading requestLimit source.ready, ?_⟩
  intro frames leading delivers
  rcases serve_of_leading leading delivers with
    ⟨handled, stores, written, left⟩
  exact ⟨handled, stores, delivers.encode_eq, written, left⟩

/-- Two requests that arrive in pieces are answered; the code behind them is
the one of no operation, and the request behind it gets no answer. -/
theorem serve_stops_at_unknown_code :
    let source : Source :=
      ⟨[.data [6, 0, 0, 0, 0, 1, 0, 0], .fault ⟨.interrupted, "", false⟩,
        .data [0, 2, 0, 120, 9, 0, 0, 0, 0, 6, 0, 0, 0, 0]], .ended⟩
    (serve .empty source {}).handled = [.ping, ⟨.alloc, [0, 120]⟩] ∧
      (serve .empty source {}).store.issued = 1 ∧
      (serve .empty source {}).sink.written =
        [0, 0, 0, 0, 4, 80, 79, 78, 71, 0, 0, 0, 0, 2, 109, 49] := by
  intro source
  rcases serve_folds_leading_requests .empty source {} with ⟨-, folds⟩
  have leading :
      Frame.Leading requestLimit source.ready
        [Request.ping, ⟨.alloc, [0, 120]⟩] :=
    Frame.leading_cons
      (Frame.decode_eq_ok_iff.mpr ⟨by decide, by decide, _, rfl⟩)
      (Frame.leading_cons
        (Frame.decode_eq_ok_iff.mpr ⟨by decide, by decide, _, rfl⟩)
        (Frame.leading_nil rfl))
  rcases folds _ leading ⟨rfl, rfl, trivial⟩ with
    ⟨handled, stores, -, written, -⟩
  refine ⟨handled, ?_, ?_⟩
  · rw [stores]
    rfl
  · rw [written]
    rfl

end BlockWire
