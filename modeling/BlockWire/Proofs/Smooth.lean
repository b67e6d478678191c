import BlockWire.Proofs.Sound

/-!
# Connections on which nothing goes wrong

As long as nothing goes wrong every write succeeds, every read that is made
finds the frame that is due, and every command that has ended got its reply.
The server closes no connection before its client has left it, and a client
that leaves has had replies to all of its commands.
-/

namespace BlockWire

/-! ## Writers -/

namespace Sink.IsWilling

variable {sink : Sink}

theorem flush (willing : sink.IsWilling) :
    sink.flush.1 = .ok () ∧ sink.flush.2.IsWilling := by
  constructor
  · rw [Sink.flush_eq_ok_iff]
    intro fault next
    have none := willing.flushes _ (List.mem_of_head? next)
    cases none
  · rw [Sink.flush_eq]
    exact ⟨willing.takes, fun fault? member =>
      willing.flushes fault? (List.mem_of_mem_tail member)⟩

/-- A stream that is willing takes a piece and stays willing. -/
theorem put (willing : sink.IsWilling) (bytes : Bytes) :
    (sink.put bytes).1 = .ok () ∧ (sink.put bytes).2.IsWilling := by
  rcases offer_of_willing bytes sink.answers willing.takes with
    ⟨unstopped, within⟩
  rw [Sink.put_of_unstopped unstopped]
  exact flush
    ⟨fun answer member => willing.takes answer (within answer member),
      willing.flushes⟩

theorem write
    (willing : sink.IsWilling) {κ : Type} [Coded κ] {frame : Frame κ}
    (fits : frame.payload.length ≤ largestPayload) :
    (frame.write sink).1 = .ok () ∧ (frame.write sink).2.IsWilling := by
  rcases willing.put frame.bytes with ⟨done, still⟩
  refine ⟨Frame.write_eq_ok_iff.mpr ⟨fits, done⟩, ?_⟩
  rw [Frame.write_eq_put fits]
  exact still

end Sink.IsWilling

/-! ## Readers -/

namespace Source

variable {source : Source}

/-- Nothing but data and interrupted calls is on a stream. -/
def Flows (source : Source) : Prop :=
  source.fromStop = []

theorem Flows.ready (flows : source.Flows) : source.ready = source.data := by
  rw [← ready_append_fromStop source, flows, List.flatMap_nil,
    List.append_nil]

theorem Flows.meet
    (flows : source.Flows) {arrival : Arrival}
    (passing : arrival.passes = true) : (source.meet arrival).Flows := by
  have before : Arrival.fromStop source.arrivals = [] := flows
  show Arrival.fromStop (source.arrivals ++ [arrival]) = []
  rw [Arrival.fromStop_append, before]
  exact Arrival.fromStop_cons passing []

end Source

variable {κ : Type} [Coded κ]

theorem Frame.flows_of_read
    {limit : Nat} {source rest : Source} {frame : Frame κ}
    (flows : source.Flows)
    (isRead : read limit source = (.ok frame, rest)) : rest.Flows := by
  cases decoded : decode (κ := κ) limit source.ready with
  | error fault =>
      rcases read_of_decode_error decoded with ⟨failure, left, failed, -⟩
      rw [failed] at isRead
      cases isRead
  | ok found =>
      rcases read_of_decode_ok decoded with ⟨left, given, taken⟩
      rw [given] at isRead
      cases isRead
      exact taken.fromStop.trans flows

/-- A reader that need not wait any longer reads the frame that is due. -/
theorem Lane.read
    {whole : Prop} {sent got : List (Frame κ)} {source : Source}
    {behind : Bytes} {limit : Nat}
    (lane : Lane whole sent got (source.data ++ behind)) (isWhole : whole)
    (atMostOne : sent.length ≤ got.length + 1)
    (within : ∀ frame ∈ sent, frame.payload.length ≤ limit)
    (flows : source.Flows) (settled : source.Settled κ limit) :
    ∃ (frame : Frame κ) (rest : Source),
      Frame.read limit source = (.ok frame, rest) ∧ rest.Flows := by
  have decided := settled.resolve_left (not_not_intro flows)
  rw [flows.ready] at decided
  cases decoded : Frame.decode (κ := κ) limit source.data with
  | ok frame =>
      rw [← flows.ready] at decoded
      rcases Frame.read_of_decode_ok decoded with ⟨rest, isRead, taken⟩
      exact ⟨frame, rest, isRead, taken.fromStop.trans flows⟩
  | error fault =>
      exfalso
      have complete := decided fault decoded
      have refused := Frame.decode_append_of_refused decoded complete behind
      rcases lane.got_isPrefix with ⟨due, rfl⟩
      match due with
      | [] =>
          rw [List.append_nil] at lane
          rw [lane.ahead_eq_nil isWhole (Nat.le_refl _)] at refused
          cases refused
          cases complete
      | [frame] =>
          have fits : frame.payload.length ≤ largestPayload :=
            (lane.entire isWhole).1 frame (by simp)
          have isAhead := lane.ahead_eq_bytes isWhole
          have found := Frame.decode_bytes_append frame [] fits
            (within frame (by simp))
          rw [List.append_nil, ← isAhead, refused] at found
          cases found
      | _ :: _ :: _ =>
          simp at atMostOne

/-! ## One connection -/

namespace Passage

/-- What holds of a connection on which nothing went wrong. -/
structure Smooth (passage : Passage) : Prop where
  sound : passage.Sound
  answered : ∀ attempt ∈ passage.attempts, attempt.IsAnswered
  requests : ∀ request ∈ passage.asked,
    request.payload.length ≤ requestLimit
  replies : ∀ handling ∈ passage.handled,
    handling.reply.IsWithin passage.limit
  /-- The client's end takes writes and has nothing that stops a reader. -/
  client : ∀ link, passage.link? = some link →
    link.connection.outgoing.IsWilling ∧ link.connection.incoming.Flows
  willing : passage.line.sink.IsWilling
  /-- Nothing stops the server's reader before the client has left. -/
  flows : passage.line.left = false → passage.line.source.Flows
  /-- The server closes only what its client has left. -/
  closed : passage.line.stage = .closed → passage.line.left = true
  left : passage.line.left = true ↔ passage.link? = none

variable {passage after : Passage}

theorem smooth_of_begins (begins : Begins True passage) :
    passage.Smooth := by
  have sound := sound_of_begins begins
  cases begins with
  | opens client peer wire calmly =>
      exact
        { sound := sound
          answered := fun _ member => by cases member
          requests := fun _ member => by cases member
          replies := fun _ member => by cases member
          client := fun link isLink => by
            cases isLink
            exact ⟨(calmly trivial).1, rfl⟩
          willing := (calmly trivial).2
          flows := fun _ => rfl
          closed := fun isClosed => by cases isClosed
          left := by
            constructor <;> intro impossible <;> cases impossible }

namespace Smooth

/-! ## How many -/

theorem length_received (smooth : passage.Smooth) :
    passage.received.length = passage.attempts.length := by
  have answered := smooth.answered
  simp only [received, Attempt.replies]
  generalize passage.attempts = attempts at answered
  induction attempts with
  | nil => rfl
  | cons attempt rest induction =>
      rcases answered attempt List.mem_cons_self with ⟨reply, isAnswer⟩
      rw [List.filterMap_cons_some (by rw [isAnswer]; rfl),
        List.length_cons, List.length_cons,
        induction fun later member =>
          answered later (List.mem_cons_of_mem _ member)]

theorem length_asked (passage : Passage) :
    passage.asked.length =
      passage.attempts.length + passage.awaited?.toList.length := by
  simp [asked, Attempt.requests]

/-- A request is handled before its reply is received, and asked before it is
handled. -/
theorem counts (smooth : passage.Smooth) :
    passage.attempts.length + passage.line.stage.owed.length ≤
        passage.handled.length ∧
      passage.handled.length + passage.line.stage.held.length ≤
        passage.attempts.length + passage.awaited?.toList.length := by
  constructor
  · rcases smooth.sound.replies with ⟨answered, handled, first, -⟩
    have enough := first.length_le
    have all := congrArg List.length handled
    rw [List.length_map, List.length_append] at all
    rw [smooth.length_received] at enough
    omega
  · have within := smooth.sound.taken.length_le
    rw [length_asked] at within
    simpa [taken] using within

/-- The server has neither a request nor a reply of a client that waits for
none. -/
theorem of_idle
    (smooth : passage.Smooth) (idle : passage.awaited? = none) :
    passage.line.stage.held = [] ∧ passage.line.stage.owed = [] := by
  rcases smooth.counts with ⟨answered, asked⟩
  rw [idle, Option.toList_none, List.length_nil] at asked
  constructor
  · exact List.length_eq_zero_iff.mp (by omega)
  · exact List.length_eq_zero_iff.mp (by omega)

/-! ## Reads -/

theorem isOpen
    (smooth : passage.Smooth) {link : Link}
    (linked : passage.link? = some link) :
    passage.line.left = false ∧ passage.line.stage ≠ .closed := by
  have still : passage.line.left = false := by
    by_contra isLeft
    rw [smooth.left.mp (by simpa using isLeft)] at linked
    cases linked
  refine ⟨still, fun isClosed => ?_⟩
  rw [smooth.closed isClosed] at still
  cases still

/-- A client that need not wait any longer reads its reply. -/
theorem read_reply
    (smooth : passage.Smooth) {link : Link}
    (linked : passage.link? = some link)
    (settled :
      link.connection.incoming.Settled Status link.payloadLimit) :
    ∃ (reply : Reply) (rest : Source),
      Frame.read link.payloadLimit link.connection.incoming =
          (.ok reply, rest) ∧
        rest.Flows := by
  rcases smooth.sound.replies with ⟨answered, handled, first, lane⟩
  have atMostOne : answered.length ≤ passage.received.length + 1 := by
    have all := congrArg List.length handled
    have asked := smooth.counts.2
    have waiting := Option.length_toList_le (o := passage.awaited?)
    rw [List.length_map, List.length_append] at all
    rw [smooth.length_received]
    omega
  refine (lane link linked).read (smooth.isOpen linked).2 atMostOne ?_
    (smooth.client link linked).2 settled
  intro reply member
  have isReply : reply ∈ passage.handled.map (·.reply) := by
    rw [handled]
    exact List.mem_append_left _ member
  rcases List.mem_map.mp isReply with ⟨handling, isHandled, rfl⟩
  rw [smooth.sound.limit link linked]
  exact (smooth.replies handling isHandled).1

/-- A server that need not wait any longer reads a request. -/
theorem read_request
    (smooth : passage.Smooth) {link : Link}
    (linked : passage.link? = some link)
    (reading : passage.line.stage = .reading)
    (settled : passage.line.source.Settled Operation requestLimit) :
    ∃ (request : Request) (rest : Source),
      Frame.read requestLimit passage.line.source = (.ok request, rest) ∧
        rest.Flows := by
  rcases smooth.isOpen linked with ⟨still, isOpen⟩
  have atMostOne : passage.asked.length ≤ passage.taken.length + 1 := by
    have answered := smooth.counts.1
    have waiting := Option.length_toList_le (o := passage.awaited?)
    rw [length_asked]
    simp only [reading, Stage.owed, List.length_nil] at answered
    simp only [taken, List.length_append, List.length_map]
    omega
  exact (smooth.sound.lane linked isOpen).read trivial atMostOne
    smooth.requests (smooth.flows still) settled

/-! ## What the client does -/

theorem submit
    (smooth : passage.Smooth) {link : Link} {command : Command}
    (linked : passage.link? = some link)
    (idle : passage.awaited? = none)
    (written :
      (command.request.write link.connection.outgoing).1 = .ok ())
    (within : command.request.payload.length ≤ requestLimit) :
    Smooth
      { passage with
        line :=
          { passage.line with
            toServer :=
              passage.line.toServer ++
                command.request.taken link.connection.outgoing }
        link? := some
          { link with
            connection :=
              { link.connection with
                outgoing :=
                  (command.request.write link.connection.outgoing).2 } }
        awaited? := some command } := by
  have fits := (Frame.write_eq_ok_iff.mp written).1
  rcases smooth.client link linked with ⟨willing, flows⟩
  refine
    { sound := smooth.sound.submit linked idle written
      answered := smooth.answered, requests := ?_
      replies := smooth.replies, client := ?_, willing := smooth.willing
      flows := smooth.flows, closed := smooth.closed, left := ?_ }
  · have before := smooth.requests
    rw [asked_of_idle idle] at before
    intro request member
    rcases List.mem_append.mp member with earlier | new
    · exact before request earlier
    · rw [List.mem_singleton.mp new]
      exact within
  · intro other isLink
    cases isLink
    exact ⟨(willing.write fits).2, flows⟩
  · have still := (smooth.isOpen linked).1
    simp [still]

theorem collect
    (smooth : passage.Smooth) {link : Link} {command : Command}
    {reply : Reply} {rest : Source}
    (linked : passage.link? = some link)
    (awaiting : passage.awaited? = some command)
    (isRead :
      Frame.read link.payloadLimit link.connection.incoming =
        (.ok reply, rest)) :
    Smooth
      { passage with
        link? := some
          { link with
            connection := { link.connection with incoming := rest } }
        awaited? := none
        attempts :=
          passage.attempts ++
            [⟨command, some passage.id, .ok reply⟩] } := by
  rcases smooth.client link linked with ⟨willing, flows⟩
  refine
    { sound := smooth.sound.collect linked awaiting isRead
      answered := ?_, requests := ?_
      replies := smooth.replies, client := ?_, willing := smooth.willing
      flows := smooth.flows, closed := smooth.closed, left := ?_ }
  · intro attempt member
    rcases List.mem_append.mp member with earlier | new
    · exact smooth.answered attempt earlier
    · rw [List.mem_singleton.mp new]
      exact ⟨reply, rfl⟩
  · have before := smooth.requests
    rw [asked_of_awaiting awaiting] at before
    simpa [asked] using before
  · intro other isLink
    cases isLink
    exact ⟨willing, Frame.flows_of_read flows isRead⟩
  · have still := (smooth.isOpen linked).1
    simp [still]

/-- Bytes that are only passed on leave everything as it is. -/
theorem of_same_bytes
    (smooth : passage.Smooth) {line : Line} {link? : Option Link}
    (sound : Sound { passage with line := line, link? := link? })
    (client : ∀ link, link? = some link →
      link.connection.outgoing.IsWilling ∧ link.connection.incoming.Flows)
    (sink : line.sink = passage.line.sink)
    (flows : line.left = false → line.source.Flows)
    (stage : line.stage = passage.line.stage)
    (left : line.left = true ↔ link? = none)
    (stays : passage.line.left = true → line.left = true) :
    Smooth { passage with line := line, link? := link? } where
  sound := sound
  answered := smooth.answered
  requests := smooth.requests
  replies := smooth.replies
  client := client
  willing := sink ▸ smooth.willing
  flows := flows
  closed isClosed := stays (smooth.closed (stage ▸ isClosed))
  left := left

/-! ## What the server does -/

theorem take
    (smooth : passage.Smooth)
    (settled : passage.line.stage = .reading →
      passage.line.source.Settled Operation requestLimit) :
    Smooth { passage with line := passage.line.take } := by
  have sound := smooth.sound.take
  rcases passage.line.sink_left_take with ⟨sink, left⟩
  cases still : passage.line.left with
  | true =>
      exact
        { smooth with
          sound := sound
          willing := by
            show passage.line.take.sink.IsWilling
            rw [sink]
            exact smooth.willing
          flows := fun notLeft => by
            rw [show passage.line.take.left = false from notLeft, still]
              at left
            cases left
          closed := fun _ => left.trans still
          left := by
            show passage.line.take.left = true ↔ _
            rw [left]
            exact smooth.left }
  | false =>
      by_cases reading : passage.line.stage = .reading
      · have present : passage.link? ≠ none := fun isNone => by
          rw [smooth.left.mpr isNone] at still
          cases still
        rcases Option.ne_none_iff_exists'.mp present with ⟨link, linked⟩
        rcases smooth.read_request linked reading (settled reading) with
          ⟨request, rest, isRead, flows⟩
        rw [Line.take_of_read reading isRead] at sound ⊢
        exact
          { smooth with
            sound := sound
            flows := fun _ => flows
            closed := fun isClosed => by cases isClosed }
      · rw [Line.take_of_not_reading reading]
        exact smooth

theorem handle
    (smooth : passage.Smooth) {request : Request} {reply : Reply}
    (holding : passage.line.stage = .holding request)
    (within : reply.IsWithin passage.limit) :
    Smooth
      { passage with
        line := passage.line.respond reply
        handled := passage.handled ++ [⟨passage.id, request, reply⟩] } where
  sound := smooth.sound.handle holding
  answered := smooth.answered
  requests := smooth.requests
  replies handling member := by
    rcases List.mem_append.mp member with earlier | new
    · exact smooth.replies handling earlier
    · rw [List.mem_singleton.mp new]
      exact within
  client := smooth.client
  willing := smooth.willing
  flows := smooth.flows
  closed isClosed := by cases isClosed
  left := smooth.left

/-- What the server has to write is within the limit. -/
theorem within_of_answering
    (smooth : passage.Smooth) {reply : Reply}
    (answering : passage.line.stage = .answering reply) :
    reply.IsWithin passage.limit := by
  rcases smooth.sound.replies with ⟨answered, handled, -, -⟩
  have isReply : reply ∈ passage.handled.map (·.reply) := by
    rw [handled, answering]
    exact List.mem_append_right _ List.mem_cons_self
  rcases List.mem_map.mp isReply with ⟨handling, isHandled, rfl⟩
  exact smooth.replies handling isHandled

theorem answer (smooth : passage.Smooth) :
    Smooth { passage with line := passage.line.answer } := by
  by_cases isReply : ∃ reply, passage.line.stage = .answering reply
  · rcases isReply with ⟨reply, answering⟩
    have sound := smooth.sound.answer
    rcases smooth.willing.write (smooth.within_of_answering answering).2 with
      ⟨written, willing⟩
    rw [Line.answer_of_write answering written] at sound ⊢
    exact
      { smooth with
        sound := sound
        willing := willing
        closed := fun isClosed => by cases isClosed }
  · rw [Line.answer_of_not_answering (not_exists.mp isReply)]
    exact smooth

end Smooth

theorem smooth_of_moves
    (move : Moves True passage after) (smooth : passage.Smooth) :
    after.Smooth := by
  have sound := sound_of_moves move smooth.sound
  cases move with
  | submit link command linked idle written calmly =>
      exact smooth.submit linked idle written (calmly trivial)
  | cut link command failure linked idle unwritten fatal calmly =>
      have fits : command.request.payload.length ≤ largestPayload :=
        Nat.le_trans (calmly trivial) (by decide)
      exact absurd ((smooth.client link linked).1.write fits).1 unwritten
  | collect link command reply rest linked awaiting isRead =>
      exact smooth.collect linked awaiting isRead
  | lose link command failure cause rest linked awaiting unread fatal
      calmly =>
      rcases smooth.read_reply linked (calmly trivial) with
        ⟨reply, left, isRead, -⟩
      rw [isRead] at unread
      cases unread
  | hangUp link linked idle =>
      exact smooth.of_same_bytes sound (fun _ isLink => by cases isLink) rfl
        (fun isLeft => by cases isLeft) rfl (by simp) (fun _ => rfl)
  | deliver link count linked =>
      rcases smooth.client link linked with ⟨willing, flows⟩
      refine smooth.of_same_bytes sound ?_ rfl smooth.flows rfl ?_
        fun isLeft => isLeft
      · intro other isLink
        cases isLink
        exact ⟨willing, flows.meet rfl⟩
      · simp [(smooth.isOpen linked).1]
  | disturb link hindrance linked calmly =>
      rcases smooth.client link linked with ⟨willing, flows⟩
      refine smooth.of_same_bytes sound ?_ rfl smooth.flows rfl ?_
        fun isLeft => isLeft
      · intro other isLink
        cases isLink
        exact ⟨willing, flows.meet (calmly trivial)⟩
      · simp [(smooth.isOpen linked).1]
  | forward count =>
      exact smooth.of_same_bytes sound smooth.client rfl
        (fun still => (smooth.flows still).meet rfl) rfl smooth.left
        fun isLeft => isLeft
  | hinder hindrance calmly =>
      refine smooth.of_same_bytes sound smooth.client rfl ?_ rfl smooth.left
        fun isLeft => isLeft
      intro still
      rcases calmly trivial with passing | ⟨-, isLeft, -⟩
      · exact (smooth.flows still).meet passing
      · rw [show passage.line.left = false from still] at isLeft
        cases isLeft
  | take calmly => exact smooth.take (calmly trivial)
  | handle request reply holding calmly =>
      exact smooth.handle holding (calmly trivial)
  | answer => exact smooth.answer

end Passage

end BlockWire
