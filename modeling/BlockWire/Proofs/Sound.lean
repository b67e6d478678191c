import BlockWire.Proofs.Books

/-!
# What the two ends of a connection agree on

On every connection the server reads the requests that were put on it, whole
and in their order, and the client reads the replies of the server, whole and
in theirs.  At most the last command of a connection is without a reply.

These facts are kept by each way in which a passage changes, whatever goes
wrong.  Both directions are lanes: a fault may end one at any byte, and then
nothing is read on it beyond the frames that were written whole.
-/

namespace BlockWire

/-! ## What is on a connection -/

namespace Stage

/-- The request that was read and not handled yet. -/
def held : Stage → List Request
  | .reading => []
  | .holding request => [request]
  | .answering _ => []
  | .closed => []

/-- The reply that was made and not written yet. -/
def owed : Stage → List Reply
  | .reading => []
  | .holding _ => []
  | .answering reply => [reply]
  | .closed => []

end Stage

namespace Attempt

/-- The command got a reply. -/
def IsAnswered (attempt : Attempt) : Prop :=
  ∃ reply, attempt.answer = .ok reply

/-- The command got no reply and ended its session. -/
def IsBroken (attempt : Attempt) : Prop :=
  ∃ failure, attempt.answer = .error failure ∧
    failure.isSessionFatal = true

/-- The requests of some commands. -/
def requests (attempts : List Attempt) : List Request :=
  attempts.map (·.command.request)

/-- The replies that some commands got. -/
def replies (attempts : List Attempt) : List Reply :=
  attempts.filterMap (·.answer.toOption)

@[simp]
theorem requests_concat (attempts : List Attempt) (last : Attempt) :
    requests (attempts ++ [last]) =
      requests attempts ++ [last.command.request] := by
  simp [requests]

@[simp]
theorem replies_concat_ok
    (attempts : List Attempt) (command : Command)
    (via? : Option ConnectionId) (reply : Reply) :
    replies (attempts ++ [⟨command, via?, .ok reply⟩]) =
      replies attempts ++ [reply] := by
  simp [replies, Except.toOption]

@[simp]
theorem replies_concat_error
    (attempts : List Attempt) (command : Command)
    (via? : Option ConnectionId) (failure : Failure) :
    replies (attempts ++ [⟨command, via?, .error failure⟩]) =
      replies attempts := by
  simp [replies, Except.toOption]

end Attempt

namespace Passage

/-- The requests that the client set out to write. -/
def asked (passage : Passage) : List Request :=
  Attempt.requests passage.attempts ++
    passage.awaited?.toList.map (·.request)

/-- The requests that the server has read. -/
def taken (passage : Passage) : List Request :=
  passage.handled.map (·.request) ++ passage.line.stage.held

/-- The replies that the client has read. -/
def received (passage : Passage) : List Reply :=
  Attempt.replies passage.attempts

/-- What the two ends of a connection agree on. -/
structure Sound (passage : Passage) : Prop where
  limit : ∀ link, passage.link? = some link →
    link.payloadLimit = passage.limit
  /-- Without a link no reply is awaited. -/
  awaiting : passage.link? = none → passage.awaited? = none
  /-- The requests that were read are the first that were asked. -/
  taken : passage.taken <+: passage.asked
  requests : passage.line.stage ≠ .closed →
    Lane (passage.link?.isSome = true) passage.asked passage.taken
      (passage.line.source.data ++ passage.line.toServer)
  /-- The replies that were received are the first that were written. -/
  replies : ∃ answered,
    passage.handled.map (·.reply) = answered ++ passage.line.stage.owed ∧
      passage.received <+: answered ∧
      ∀ link, passage.link? = some link →
        Lane (passage.line.stage ≠ .closed) answered passage.received
          (link.connection.incoming.data ++ passage.line.toClient)
  /-- Every command got a reply or ended its session. -/
  ended : ∀ attempt ∈ passage.attempts,
    attempt.IsAnswered ∨ attempt.IsBroken
  /-- Only the last command may have ended the session. -/
  early : ∀ attempt ∈ passage.attempts.dropLast, attempt.IsAnswered
  /-- As long as there is a link every command got a reply. -/
  linked : passage.link?.isSome = true →
    ∀ attempt ∈ passage.attempts, attempt.IsAnswered

/-! ## Streams on which something arrives -/

end Passage

@[simp]
theorem Source.data_meet (arrival : Arrival) (source : Source) :
    (source.meet arrival).data = source.data ++ arrival.bytes := by
  simp [meet, extend, data]

@[simp]
theorem Hindrance.bytes_arrival (hindrance : Hindrance) :
    hindrance.arrival.bytes = [] := by
  cases hindrance <;> rfl

@[simp]
theorem Arrival.bytes_data (chunk : Bytes) :
    (Arrival.data chunk).bytes = chunk := rfl

namespace Passage

variable {calm : Prop} {passage after : Passage}

theorem sound_of_begins (begins : Begins calm passage) : passage.Sound := by
  cases begins with
  | opens client peer wire calmly =>
      exact
        { limit := fun link isLink => by cases isLink; rfl
          awaiting := fun isNone => by cases isNone
          taken := List.prefix_rfl
          requests := fun _ => .start
          replies := ⟨[], rfl, List.prefix_rfl, fun link isLink => by
            cases isLink
            exact .start⟩
          ended := fun _ member => by cases member
          early := fun _ member => by cases member
          linked := fun _ _ member => by cases member }

/-! ## What was asked and what was received -/

theorem asked_of_idle (idle : passage.awaited? = none) :
    passage.asked = Attempt.requests passage.attempts := by
  simp [asked, idle]

theorem asked_of_awaiting
    {command : Command} (awaiting : passage.awaited? = some command) :
    passage.asked =
      Attempt.requests passage.attempts ++ [command.request] := by
  simp [asked, awaiting]

/-- One more command has ended, the ones before it with replies. -/
theorem ended_concat
    {attempts : List Attempt} (last : Attempt)
    (answered : ∀ attempt ∈ attempts, attempt.IsAnswered)
    (ended : last.IsAnswered ∨ last.IsBroken) :
    (∀ attempt ∈ attempts ++ [last],
        attempt.IsAnswered ∨ attempt.IsBroken) ∧
      ∀ attempt ∈ (attempts ++ [last]).dropLast, attempt.IsAnswered := by
  constructor
  · intro attempt member
    rcases List.mem_append.mp member with before | new
    · exact .inl (answered attempt before)
    · rw [List.mem_singleton.mp new]
      exact ended
  · rw [List.dropLast_concat]
    exact answered

/-! ## What the client does -/

namespace Sound

theorem answered
    (sound : passage.Sound) {link : Link}
    (linked : passage.link? = some link) :
    ∀ attempt ∈ passage.attempts, attempt.IsAnswered :=
  sound.linked (by rw [linked]; rfl)

theorem lane
    (sound : passage.Sound) {link : Link}
    (linked : passage.link? = some link)
    (isOpen : passage.line.stage ≠ .closed) :
    Lane True passage.asked passage.taken
      (passage.line.source.data ++ passage.line.toServer) :=
  (sound.requests isOpen).weaken fun _ => by rw [linked]; rfl

theorem submit
    (sound : passage.Sound) {link : Link} {command : Command}
    (linked : passage.link? = some link)
    (idle : passage.awaited? = none)
    (written :
      (command.request.write link.connection.outgoing).1 = .ok ()) :
    Sound
      { passage with
        line :=
          { passage.line with
            toServer :=
              passage.line.toServer ++
                command.request.taken link.connection.outgoing }
        link? := some
          { link with
            connection :=
              { link.connection with
                outgoing :=
                  (command.request.write link.connection.outgoing).2 } }
        awaited? := some command } := by
  have fits := (Frame.write_eq_ok_iff.mp written).1
  have askedMore := asked_of_idle idle
  refine
    { limit := ?_, awaiting := ?_, taken := ?_, requests := ?_
      replies := ?_, ended := sound.ended, early := sound.early
      linked := ?_ }
  · intro other isLink
    cases isLink
    exact sound.limit link linked
  · intro isNone
    cases isNone
  · have before := sound.taken
    rw [askedMore] at before
    exact before.trans (List.prefix_append _ _)
  · intro isOpen
    have lane := (sound.lane linked isOpen).send trivial fits
    rw [askedMore, List.append_assoc] at lane
    rw [Frame.taken_of_write written]
    exact lane.weaken fun _ => trivial
  · rcases sound.replies with ⟨answered, handled, first, lane⟩
    refine ⟨answered, handled, first, ?_⟩
    intro other isLink
    cases isLink
    exact lane link linked
  · intro
    exact sound.answered linked

theorem cut
    (sound : passage.Sound) {link : Link} {command : Command}
    {failure : Failure}
    (linked : passage.link? = some link)
    (idle : passage.awaited? = none)
    (fatal : failure.isSessionFatal = true) :
    Sound
      { passage with
        line :=
          { passage.line with
            toServer :=
              passage.line.toServer ++
                command.request.taken link.connection.outgoing
            left := true }
        link? := none
        attempts :=
          passage.attempts ++
            [⟨command, some passage.id, .error failure⟩] } := by
  have askedMore := asked_of_idle idle
  rcases ended_concat ⟨command, some passage.id, .error failure⟩
    (sound.answered linked) (.inr ⟨failure, rfl, fatal⟩) with
      ⟨ended, early⟩
  refine
    { limit := ?_, awaiting := fun _ => idle, taken := ?_, requests := ?_
      replies := ?_, ended := ended, early := early, linked := ?_ }
  · intro other isLink
    cases isLink
  · have before := sound.taken
    rw [askedMore] at before
    simp only [asked, Attempt.requests_concat, idle, Option.toList_none,
      List.map_nil, List.append_nil]
    exact before.trans (List.prefix_append _ _)
  · intro isOpen
    have lane := (sound.lane linked isOpen).cut trivial
      (command.request.taken_eq_nil_or_isPrefix link.connection.outgoing)
    rw [askedMore, List.append_assoc] at lane
    simp only [asked, Attempt.requests_concat, idle, Option.toList_none,
      List.map_nil, List.append_nil]
    exact lane.weaken fun isSome => by cases isSome
  · rcases sound.replies with ⟨answered, handled, first, -⟩
    refine ⟨answered, handled, ?_, fun other isLink => by cases isLink⟩
    simp only [received, Attempt.replies_concat_error]
    exact first
  · intro isSome
    cases isSome

theorem collect
    (sound : passage.Sound) {link : Link} {command : Command}
    {reply : Reply} {rest : Source}
    (linked : passage.link? = some link)
    (awaiting : passage.awaited? = some command)
    (isRead :
      Frame.read link.payloadLimit link.connection.incoming =
        (.ok reply, rest)) :
    Sound
      { passage with
        link? := some
          { link with
            connection := { link.connection with incoming := rest } }
        awaited? := none
        attempts :=
          passage.attempts ++
            [⟨command, some passage.id, .ok reply⟩] } := by
  have askedMore := asked_of_awaiting awaiting
  rcases ended_concat ⟨command, some passage.id, .ok reply⟩
    (sound.answered linked) (.inl ⟨reply, rfl⟩) with ⟨ended, early⟩
  rcases Frame.data_of_read isRead with ⟨data, fits⟩
  refine
    { limit := ?_, awaiting := ?_, taken := ?_, requests := ?_
      replies := ?_, ended := ended, early := early, linked := ?_ }
  · intro other isLink
    cases isLink
    exact sound.limit link linked
  · intro isNone
    cases isNone
  · have before := sound.taken
    rw [askedMore] at before
    show passage.taken <+: _
    simpa [asked] using before
  · intro isOpen
    have lane := sound.lane linked isOpen
    rw [askedMore] at lane
    show Lane _ _ passage.taken _
    simpa [asked] using lane
  · rcases sound.replies with ⟨answered, handled, first, lane⟩
    have before := lane link linked
    rw [data, List.append_assoc] at before
    have taken := before.take fits
    refine ⟨answered, handled, ?_, ?_⟩
    · simpa [received] using taken.got_isPrefix
    · intro other isLink
      cases isLink
      simpa [received] using taken
  · intro isSome attempt member
    rcases List.mem_append.mp member with before | new
    · exact sound.answered linked attempt before
    · rw [List.mem_singleton.mp new]
      exact ⟨reply, rfl⟩

theorem lose
    (sound : passage.Sound) {link : Link} {command : Command}
    {failure : Failure}
    (linked : passage.link? = some link)
    (awaiting : passage.awaited? = some command)
    (fatal : failure.isSessionFatal = true) :
    Sound
      { passage with
        line := { passage.line with left := true }
        link? := none
        awaited? := none
        attempts :=
          passage.attempts ++
            [⟨command, some passage.id, .error failure⟩] } := by
  have askedMore := asked_of_awaiting awaiting
  rcases ended_concat ⟨command, some passage.id, .error failure⟩
    (sound.answered linked) (.inr ⟨failure, rfl, fatal⟩) with
      ⟨ended, early⟩
  refine
    { limit := ?_, awaiting := fun _ => rfl, taken := ?_, requests := ?_
      replies := ?_, ended := ended, early := early, linked := ?_ }
  · intro other isLink
    cases isLink
  · have before := sound.taken
    rw [askedMore] at before
    show passage.taken <+: _
    simpa [asked] using before
  · intro isOpen
    have lane := sound.lane linked isOpen
    rw [askedMore] at lane
    show Lane _ _ passage.taken _
    have given : Lane False _ _ _ := lane.weaken False.elim
    simpa [asked] using given
  · rcases sound.replies with ⟨answered, handled, first, -⟩
    refine ⟨answered, handled, ?_, fun other isLink => by cases isLink⟩
    simpa [received] using first
  · intro isSome
    cases isSome

/-- Bytes that are only passed on, and a client that hangs up, leave all books
as they are. -/
theorem of_same_bytes
    (sound : passage.Sound) {line : Line} {link? : Option Link}
    (stage : line.stage = passage.line.stage)
    (toServer :
      line.source.data ++ line.toServer =
        passage.line.source.data ++ passage.line.toServer)
    (still : ∀ link, link? = some link →
      ∃ before, passage.link? = some before ∧
        link.payloadLimit = before.payloadLimit ∧
        link.connection.incoming.data ++ line.toClient =
          before.connection.incoming.data ++ passage.line.toClient)
    (awaiting : link? = none → passage.awaited? = none) :
    Sound { passage with line := line, link? := link? } := by
  have stillLinked : link?.isSome = true → passage.link?.isSome = true := by
    intro isSome
    rcases Option.isSome_iff_exists.mp isSome with ⟨link, isLink⟩
    rcases still link isLink with ⟨before, linked, -, -⟩
    rw [linked]
    rfl
  have takenSame : passage.handled.map (·.request) ++ line.stage.held =
      passage.taken := by
    rw [stage]
    rfl
  refine
    { limit := ?_, awaiting := awaiting, taken := ?_, requests := ?_
      replies := ?_, ended := sound.ended, early := sound.early
      linked := fun isSome => sound.linked (stillLinked isSome) }
  · intro link isLink
    rcases still link isLink with ⟨before, linked, limit, -⟩
    rw [limit]
    exact sound.limit before linked
  · show _ ++ _ <+: passage.asked
    rw [takenSame]
    exact sound.taken
  · intro isOpen
    show Lane _ passage.asked (_ ++ _) _
    rw [takenSame, toServer]
    exact (sound.requests (stage ▸ isOpen)).weaken stillLinked
  · rcases sound.replies with ⟨answered, handled, first, lane⟩
    refine ⟨answered, ?_, first, ?_⟩
    · rw [stage]
      exact handled
    · intro link isLink
      rcases still link isLink with ⟨before, linked, -, toClient⟩
      simp only [stage, toClient]
      exact lane before linked

/-! ## What the server does -/

/-- The server does not touch what the client has and knows. -/
theorem of_server
    (sound : passage.Sound) {line : Line} {handled : List Handling}
    (taken :
      handled.map (·.request) ++ line.stage.held <+: passage.asked)
    (requests : line.stage ≠ .closed →
      Lane (passage.link?.isSome = true) passage.asked
        (handled.map (·.request) ++ line.stage.held)
        (line.source.data ++ line.toServer))
    (replies : ∃ answered,
      handled.map (·.reply) = answered ++ line.stage.owed ∧
        passage.received <+: answered ∧
        ∀ link, passage.link? = some link →
          Lane (line.stage ≠ .closed) answered passage.received
            (link.connection.incoming.data ++ line.toClient)) :
    Sound { passage with line := line, handled := handled } :=
  { sound with taken := taken, requests := requests, replies := replies }

theorem take (sound : passage.Sound) :
    Sound { passage with line := passage.line.take } := by
  unfold Line.take
  split
  · rename_i reading
    have isOpen : passage.line.stage ≠ .closed := by simp [reading]
    have takenBefore : passage.taken = passage.handled.map (·.request) := by
      simp [Passage.taken, reading, Stage.held]
    rcases sound.replies with ⟨answered, handled, first, lane⟩
    have handledAll : passage.handled.map (·.reply) = answered := by
      simpa [reading, Stage.owed] using handled
    split
    · rename_i request rest isRead
      rcases Frame.data_of_read isRead with ⟨data, fits⟩
      have before := sound.requests isOpen
      rw [takenBefore, data, List.append_assoc] at before
      have taken := before.take fits
      refine sound.of_server taken.got_isPrefix (fun _ => taken)
        ⟨answered, ?_, first, ?_⟩
      · simp [Stage.owed, handledAll]
      · intro link linked
        exact (lane link linked).weaken fun _ => isOpen
    · rename_i failure rest unread
      refine sound.of_server ?_ (fun isOpen => absurd rfl isOpen)
        ⟨answered, ?_, first, ?_⟩
      · simpa [takenBefore, Stage.held] using sound.taken
      · simp [Stage.owed, handledAll]
      · intro link linked
        exact (lane link linked).weaken fun isOpen => absurd rfl isOpen
  · exact sound

theorem handle
    (sound : passage.Sound) {request : Request} {reply : Reply}
    (holding : passage.line.stage = .holding request) :
    Sound
      { passage with
        line := passage.line.respond reply
        handled := passage.handled ++ [⟨passage.id, request, reply⟩] } := by
  have isOpen : passage.line.stage ≠ .closed := by simp [holding]
  have takenBefore : passage.taken =
      passage.handled.map (·.request) ++ [request] := by
    simp [Passage.taken, holding, Stage.held]
  rcases sound.replies with ⟨answered, handled, first, lane⟩
  have handledAll : passage.handled.map (·.reply) = answered := by
    simpa [holding, Stage.owed] using handled
  refine sound.of_server ?_ ?_ ⟨answered, ?_, first, ?_⟩
  · simpa [takenBefore, Line.respond, Stage.held] using sound.taken
  · intro
    simpa [takenBefore, Line.respond, Stage.held] using
      sound.requests isOpen
  · simp [Line.respond, Stage.owed, handledAll]
  · intro link linked
    exact (lane link linked).weaken fun _ => isOpen

theorem answer (sound : passage.Sound) :
    Sound { passage with line := passage.line.answer } := by
  unfold Line.answer
  split
  · rename_i reply answering
    have isOpen : passage.line.stage ≠ .closed := by simp [answering]
    have takenBefore : passage.taken = passage.handled.map (·.request) := by
      simp [Passage.taken, answering, Stage.held]
    rcases sound.replies with ⟨answered, handled, first, lane⟩
    have handledAll :
        passage.handled.map (·.reply) = answered ++ [reply] := by
      simpa [answering, Stage.owed] using handled
    have stillFirst := first.trans (List.prefix_append answered [reply])
    cases written : (reply.write passage.line.sink).1 with
    | ok done =>
        have fits := (Frame.write_eq_ok_iff.mp written).1
        refine sound.of_server ?_ ?_ ⟨answered ++ [reply], ?_, stillFirst, ?_⟩
        · simpa [takenBefore, Stage.held] using sound.taken
        · intro
          simpa [takenBefore, Stage.held] using sound.requests isOpen
        · simp [Stage.owed, handledAll]
        · intro link linked
          have sent := (lane link linked).send isOpen fits
          rw [List.append_assoc] at sent
          rw [Frame.taken_of_write written]
          exact sent.weaken fun _ => isOpen
    | error failure =>
        refine sound.of_server ?_ (fun isOpen => absurd rfl isOpen)
          ⟨answered ++ [reply], ?_, stillFirst, ?_⟩
        · simpa [takenBefore, Stage.held] using sound.taken
        · simp [Stage.owed, handledAll]
        · intro link linked
          have cut := (lane link linked).cut isOpen
            (reply.taken_eq_nil_or_isPrefix passage.line.sink)
          rw [List.append_assoc] at cut
          exact cut.weaken fun isOpen => absurd rfl isOpen
  · exact sound

end Sound

theorem sound_of_moves
    (move : Moves calm passage after) (sound : passage.Sound) :
    after.Sound := by
  cases move with
  | submit link command linked idle written calmly =>
      exact sound.submit linked idle written
  | cut link command failure linked idle unwritten fatal calmly =>
      exact sound.cut linked idle fatal
  | collect link command reply rest linked awaiting isRead =>
      exact sound.collect linked awaiting isRead
  | lose link command failure cause rest linked awaiting unread fatal
      calmly =>
      exact sound.lose linked awaiting fatal
  | hangUp link linked idle =>
      exact sound.of_same_bytes rfl rfl (fun _ isLink => by cases isLink)
        (fun _ => idle)
  | deliver link count linked =>
      refine sound.of_same_bytes rfl rfl ?_ (fun isNone => by cases isNone)
      intro other isLink
      cases isLink
      refine ⟨link, linked, rfl, ?_⟩
      simp only [Source.data_meet, Arrival.bytes_data, List.append_assoc,
        List.take_append_drop]
  | disturb link hindrance linked calmly =>
      refine sound.of_same_bytes rfl rfl ?_ (fun isNone => by cases isNone)
      intro other isLink
      cases isLink
      refine ⟨link, linked, rfl, ?_⟩
      simp only [Source.data_meet, Hindrance.bytes_arrival,
        List.append_nil]
  | forward count =>
      refine sound.of_same_bytes rfl ?_ (fun link linked =>
        ⟨link, linked, rfl, rfl⟩) sound.awaiting
      simp only [Line.forward, Source.data_meet, Arrival.bytes_data,
        List.append_assoc, List.take_append_drop]
  | hinder hindrance calmly =>
      refine sound.of_same_bytes rfl ?_ (fun link linked =>
        ⟨link, linked, rfl, rfl⟩) sound.awaiting
      simp only [Line.hinder, Source.data_meet, Hindrance.bytes_arrival,
        List.append_nil]
  | take calmly => exact sound.take
  | handle request reply holding calmly => exact sound.handle holding
  | answer => exact sound.answer

end Passage

end BlockWire
