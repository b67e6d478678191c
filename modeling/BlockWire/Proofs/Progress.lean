import BlockWire.Proofs.Orderly

/-!
# Replies come

As long as nothing has gone wrong, a client that waits for a reply need not
wait in vain.  Wherever its request or the reply is, what is missing can happen
next: the bytes under way arrive, the server reads the request, handles it and
writes the reply, and the client reads it.  Nobody else is needed for it.

What the reply is depends on the store when the request is handled.  As long as
it was not handled, the client can have the reply only if it is one that the
client takes.
-/

namespace BlockWire

variable {κ : Type} [Coded κ]

/-! ## A frame that has arrived -/

namespace Source

variable {source : Source} {frame : Frame κ} {limit : Nat}

theorem decode_of_arrived
    (flows : source.Flows) (arrived : source.data = frame.bytes)
    (fits : frame.payload.length ≤ largestPayload)
    (within : frame.payload.length ≤ limit) :
    Frame.decode limit source.ready = .ok frame := by
  rw [flows.ready, arrived, ← List.append_nil frame.bytes]
  exact Frame.decode_bytes_append frame [] fits within

/-- The reader of a frame that has arrived need not wait. -/
theorem settled_of_arrived
    (flows : source.Flows) (arrived : source.data = frame.bytes)
    (fits : frame.payload.length ≤ largestPayload)
    (within : frame.payload.length ≤ limit) :
    source.Settled κ limit := by
  right
  intro fault refused
  rw [decode_of_arrived flows arrived fits within] at refused
  cases refused

theorem read_of_arrived
    (flows : source.Flows) (arrived : source.data = frame.bytes)
    (fits : frame.payload.length ≤ largestPayload)
    (within : frame.payload.length ≤ limit) :
    ∃ rest, Frame.read limit source = (.ok frame, rest) := by
  rcases Frame.read_of_decode_ok
      (decode_of_arrived flows arrived fits within) with ⟨rest, isRead, -⟩
  exact ⟨rest, isRead⟩

end Source

/-! ## What is on its way -/

namespace Passage.Smooth

variable {passage : Passage} {link : Link} {command : Command}

/-- All commands but the one that waits have had their requests handled. -/
theorem counts_of_awaiting
    (smooth : passage.Smooth) (awaiting : passage.awaited? = some command) :
    passage.attempts.length + passage.line.stage.owed.length ≤
        passage.handled.length ∧
      passage.handled.length + passage.line.stage.held.length ≤
        passage.attempts.length + 1 := by
  have counts := smooth.counts
  rwa [awaiting] at counts

/-- A request that was not read yet is on its way. -/
theorem request_ahead
    (smooth : passage.Smooth) (linked : passage.link? = some link)
    (awaiting : passage.awaited? = some command)
    (reading : passage.line.stage = .reading)
    (due : passage.handled.length = passage.attempts.length) :
    passage.line.source.data ++ passage.line.toServer =
      command.request.bytes := by
  have lane := smooth.sound.lane linked (smooth.isOpen linked).2
  have initial := smooth.sound.taken
  rw [asked_of_awaiting awaiting] at lane initial
  -- The server has read the requests of all commands that have ended.
  have taken : passage.taken = Attempt.requests passage.attempts := by
    have shorter : passage.taken.length =
        (Attempt.requests passage.attempts).length := by
      simp [Passage.taken, reading, Stage.held, Attempt.requests, due]
    have isStart := List.prefix_iff_eq_take.mp initial
    rwa [shorter, List.take_left] at isStart
  rw [taken] at lane
  exact lane.ahead_eq_bytes trivial

/-- The request that the server holds is the one whose reply is awaited. -/
theorem eq_of_holding
    (smooth : passage.Smooth) (awaiting : passage.awaited? = some command)
    {request : Request} (holding : passage.line.stage = .holding request) :
    request = command.request := by
  rcases smooth.counts_of_awaiting awaiting with ⟨answered, asked⟩
  have initial := smooth.sound.taken
  rw [asked_of_awaiting awaiting, Passage.taken] at initial
  simp only [holding, Stage.held, Stage.owed, List.length_singleton,
    List.length_nil] at answered asked initial
  have same := initial.eq_of_length (by
    simp only [List.length_append, List.length_map, List.length_singleton,
      Attempt.requests]
    omega)
  exact List.singleton_inj.mp (List.append_inj' same rfl).2

/-- A reply that was written and not read yet is on its way. -/
theorem reply_ahead
    (smooth : passage.Smooth) (linked : passage.link? = some link)
    (reading : passage.line.stage = .reading)
    (made : passage.handled.length = passage.attempts.length + 1) :
    ∃ reply : Reply,
      link.connection.incoming.data ++ passage.line.toClient =
          reply.bytes ∧
        reply.IsWithin passage.limit := by
  rcases smooth.sound.replies with ⟨answered, handled, first, lane⟩
  simp only [reading, Stage.owed, List.append_nil] at handled
  rcases first with ⟨due, rfl⟩
  have one : due.length = 1 := by
    have all := congrArg List.length handled
    rw [List.length_map, List.length_append, smooth.length_received] at all
    omega
  rcases List.length_eq_one_iff.mp one with ⟨reply, rfl⟩
  have isReply : reply ∈ passage.handled.map (·.reply) := by
    rw [handled]
    exact List.mem_append_right _ List.mem_cons_self
  rcases List.mem_map.mp isReply with ⟨handling, isHandled, rfl⟩
  exact ⟨handling.reply,
    (lane link linked).ahead_eq_bytes (smooth.isOpen linked).2,
    smooth.replies handling isHandled⟩

end Passage.Smooth

namespace System

variable {system : System}

/-! ## What can come about -/

theorem calmThroughout_append {events more : List Event} :
    system.CalmThroughout (events ++ more) ↔
      system.CalmThroughout events ∧
        (system.run events).CalmThroughout more := by
  induction events generalizing system with
  | nil => exact (and_iff_right trivial).symm
  | cons event events induction =>
      exact (and_congr_right fun _ => induction).trans and_assoc.symm

/-- Without anything going wrong it can come to a state of a kind. -/
def Reaches (goal : System → Prop) (system : System) : Prop :=
  ∃ more, system.CalmThroughout more ∧ goal (system.run more)

namespace Reaches

variable {goal next : System → Prop}

theorem here (isThere : goal system) : system.Reaches goal :=
  ⟨[], trivial, isThere⟩

theorem step
    {event : Event} (calm : system.Calm event)
    (reaches : (system.step event).Reaches goal) : system.Reaches goal := by
  rcases reaches with ⟨more, calmly, isThere⟩
  exact ⟨event :: more, ⟨calm, calmly⟩, isThere⟩

theorem trans
    (reaches : system.Reaches next)
    (onward : ∀ later, next later → later.Reaches goal) :
    system.Reaches goal := by
  rcases reaches with ⟨more, calm, isThere⟩
  rcases onward _ isThere with ⟨further, calmly, isGoal⟩
  refine ⟨more ++ further, ?_, ?_⟩
  · exact calmThroughout_append.mpr ⟨calm, calmly⟩
  · rw [run_append]
    exact isGoal

end Reaches

/-! ## A client that waits -/

/-- A client waits for the reply to a command, and nothing has gone wrong. -/
structure Waits (client : ClientId) (command : Command) (link : Link)
    (system : System) : Prop where
  orderly : system.Orderly
  linked : (system.party client).client.link? = some link
  awaiting : (system.party client).awaited? = some command

/-- A client as it was waits, and the server is at a stage of its
connection. -/
structure WaitsAt (stage : Stage) (client : ClientId) (command : Command)
    (link : Link) (before : Party) (system : System) : Prop where
  waits : system.Waits client command link
  same : system.party client = before
  stage : (system.wire.line link.connection.id).stage = stage

/-- A client as it was got the reply to the command that it waited for. -/
def HasEnded (client : ClientId) (command : Command) (before : Party)
    (system : System) : Prop :=
  (system.party client).awaited? = none ∧
    ∃ reply, (system.party client).history =
      before.history ++ [⟨command, before.via?, .ok reply⟩]

/-- The request of a client that waits was not handled yet: on its connection
no more requests were handled than commands have ended. -/
def IsUnhandled (client : ClientId) (system : System) : Prop :=
  ∃ id, (system.party client).via? = some id ∧
    (system.handledOn id).length =
      ((system.party client).history.filter (·.via? = some id)).length

namespace Waits

variable {client : ClientId} {command : Command} {link : Link}

theorem caller (waits : system.Waits client command link) :
    (system.wire.line link.connection.id).caller = client :=
  ((waits.orderly.books.clients client).linked link waits.linked).2

theorem via (waits : system.Waits client command link) :
    (system.party client).via? = some link.connection.id := by
  rw [Party.via?, waits.linked, Option.map_some]

theorem isUnhandled
    (waits : system.Waits client command link)
    (due :
      (system.passage link.connection.id).handled.length =
        (system.passage link.connection.id).attempts.length) :
    system.IsUnhandled client := by
  refine ⟨link.connection.id, waits.via, ?_⟩
  simpa only [System.passage, waits.caller, handledOn] using due

/-- The passage of the connection on which the client waits. -/
theorem passage (waits : system.Waits client command link) :
    (system.passage link.connection.id).Smooth ∧
      (system.passage link.connection.id).link? = some link ∧
      (system.passage link.connection.id).awaited? = some command := by
  have isOpen :=
    ((waits.orderly.books.clients client).linked link waits.linked).1
  refine ⟨waits.orderly.smooth _ isOpen, ?_, ?_⟩
  · simp only [System.passage, waits.caller, waits.via, if_true, waits.linked]
  · simp only [System.passage, waits.caller, waits.via, if_true,
      waits.awaiting]

/-- A client goes on waiting while the server and the network work. -/
theorem step
    (waits : system.Waits client command link) {event : Event}
    (calm : system.Calm event)
    (still : (system.step event).party = system.party) :
    (system.step event).Waits client command link where
  orderly := waits.orderly.step calm
  linked := by rw [still, waits.linked]
  awaiting := by rw [still, waits.awaiting]

/-! ## Stage by stage -/

/-- The server can read the request. -/
theorem reaches_holding
    (waits : system.Waits client command link)
    (reading : (system.wire.line link.connection.id).stage = .reading)
    (due :
      (system.passage link.connection.id).handled.length =
        (system.passage link.connection.id).attempts.length) :
    system.Reaches fun later =>
      WaitsAt (.holding command.request) client command link
          (system.party client) later ∧
        later.store = system.store := by
  rcases waits.passage with ⟨smooth, linked, awaiting⟩
  have ahead := smooth.request_ahead linked awaiting reading due
  have within : command.request.payload.length ≤ requestLimit :=
    smooth.requests _ (by rw [Passage.asked_of_awaiting awaiting]; simp)
  have fits : command.request.payload.length ≤ largestPayload :=
    Nat.le_trans within (by decide)
  let id := link.connection.id
  let count := (system.wire.line id).toServer.length
  let arrived := system.step (.forward id count)
  have arrivedWaits : arrived.Waits client command link :=
    waits.step trivial rfl
  have line : arrived.wire.line id = (system.wire.line id).forward count :=
    Wire.line_change_self ..
  have isData : (arrived.wire.line id).source.data =
      command.request.bytes := by
    rw [line, Line.forward, Source.data_meet, Arrival.bytes_data,
      List.take_length]
    exact ahead
  have flows : (arrived.wire.line id).source.Flows := by
    rw [line]
    exact (smooth.flows (smooth.isOpen linked).1).meet rfl
  have settled := Source.settled_of_arrived flows isData fits within
  rcases Source.read_of_arrived flows isData fits within with ⟨rest, isRead⟩
  have taken : ((arrived.step (.take id)).wire.line id) =
      (arrived.wire.line id).take := Wire.line_change_self ..
  have stillReading : (arrived.wire.line id).stage = .reading := by
    rw [line]
    exact reading
  have calm : arrived.Calm (.take id) := fun _ => settled
  refine .step (show system.Calm (.forward id count) from trivial)
    (.step calm (.here ⟨⟨arrivedWaits.step calm rfl, rfl, ?_⟩, rfl⟩))
  show ((arrived.step (.take id)).wire.line id).stage = _
  rw [taken, Line.take_of_read stillReading isRead]

/-- The server can handle the request, unless its client would not take the
reply. -/
theorem reaches_answering
    (waits : system.Waits client command link)
    (holding : (system.wire.line link.connection.id).stage =
      .holding command.request)
    (within : (system.store.handle command.request).1.IsWithin
      (system.party client).client.endpoint.payloadLimit) :
    system.Reaches
      (WaitsAt (.answering (system.store.handle command.request).1) client command
        link (system.party client)) := by
  have calm : system.Calm (.handle link.connection.id) := by
    intro request isHeld
    rw [holding] at isHeld
    cases isHeld
    rw [waits.caller]
    exact within
  have isStep : system.step (.handle link.connection.id) = _ :=
    handle_of_holding holding
  refine .step calm (.here ⟨waits.step calm ?_, ?_, ?_⟩)
  · rw [isStep]
  · rw [isStep]
  · rw [isStep]
    simp only [Wire.line_change_self, Line.respond]

/-- The server can write the reply. -/
theorem reaches_written
    (waits : system.Waits client command link) {reply : Reply}
    (answering : (system.wire.line link.connection.id).stage =
      .answering reply) :
    system.Reaches fun later =>
      WaitsAt .reading client command link (system.party client) later ∧
        (later.passage link.connection.id).handled.length =
          (later.passage link.connection.id).attempts.length + 1 := by
  rcases waits.passage with ⟨smooth, linked, awaiting⟩
  rcases smooth.counts_of_awaiting awaiting with ⟨answered, asked⟩
  have written :=
    (smooth.willing.write (smooth.within_of_answering answering).2).1
  let id := link.connection.id
  have line : (system.step (.answer id)).wire.line id =
      (system.wire.line id).answer := Wire.line_change_self ..
  have passage : (system.step (.answer id)).passage id =
      { system.passage id with
        line := (system.wire.line id).answer
        handled := (system.passage id).handled ++ [] } :=
    passage_of_change rfl rfl (List.append_nil _).symm
      (fun _ member => by cases member) Line.caller_answer
  have calm : system.Calm (.answer id) := trivial
  refine .step calm (.here ⟨⟨waits.step calm rfl, rfl, ?_⟩, ?_⟩)
  · show ((system.step (.answer id)).wire.line id).stage = _
    rw [line, Line.answer_of_write answering written]
  · show ((system.step (.answer id)).passage id).handled.length =
      ((system.step (.answer id)).passage id).attempts.length + 1
    rw [passage]
    simp only [List.append_nil]
    rw [show (system.passage link.connection.id).line.stage = _ from
      answering] at answered asked
    simp only [Stage.owed, Stage.held, List.length_singleton,
      List.length_nil] at answered asked
    exact Nat.le_antisymm asked answered

/-- The client can read the reply. -/
theorem reaches_end
    (waits : system.Waits client command link)
    (reading : (system.wire.line link.connection.id).stage = .reading)
    (made :
      (system.passage link.connection.id).handled.length =
        (system.passage link.connection.id).attempts.length + 1) :
    system.Reaches (HasEnded client command (system.party client)) := by
  rcases waits.passage with ⟨smooth, linked, -⟩
  rcases smooth.reply_ahead linked reading made with ⟨reply, ahead, within⟩
  rw [← smooth.sound.limit link linked] at within
  let id := link.connection.id
  let toClient := (system.wire.line id).toClient
  let count := toClient.length
  let arrived := system.step (.deliver client count)
  let fuller : Link :=
    { link with
      connection :=
        { link.connection with
          incoming := link.connection.incoming.meet (.data toClient) } }
  have party : arrived.party client =
      (system.party client).meet (.data toClient) := by
    refine (party_engage client (Party.deliver count) system).trans ?_
    simp only [Party.deliver, waits.via]
    rw [List.take_length]
  have arrivedWaits : arrived.Waits client command fuller :=
    { orderly := waits.orderly.step trivial
      linked := by
        rw [party, Party.meet, waits.linked]
        rfl
      awaiting := by
        rw [party]
        exact waits.awaiting }
  have isData : fuller.connection.incoming.data = reply.bytes := by
    rw [← ahead, Source.data_meet]
    rfl
  have flows : fuller.connection.incoming.Flows :=
    (smooth.client link linked).2.meet rfl
  have settled := Source.settled_of_arrived flows isData within.2 within.1
  rcases Source.read_of_arrived flows isData within.2 within.1 with
    ⟨rest, isRead⟩
  have calm : arrived.Calm (.conclude client) := by
    intro _ other isLink
    rw [arrivedWaits.linked] at isLink
    cases isLink
    exact settled
  refine .step (show system.Calm (.deliver client count) from trivial)
    (.step calm (.here ?_))
  have ended : (arrived.step (.conclude client)).party client = _ :=
    (party_engage client Party.conclude arrived).trans (congrArg Prod.fst
      (Party.conclude_of_read arrivedWaits.awaiting arrivedWaits.linked isRead
        _))
  refine ⟨?_, reply, ?_⟩
  · show ((arrived.step (.conclude client)).party client).awaited? = none
    rw [ended]
  · show ((arrived.step (.conclude client)).party client).history = _
    rw [ended, party, waits.via]
    rfl

end Waits

/-! ## From any stage on -/

namespace WaitsAt

variable {client : ClientId} {command : Command} {link : Link}
variable {before : Party}

theorem reaches_of_written
    (there : WaitsAt .reading client command link before system)
    (made :
      (system.passage link.connection.id).handled.length =
        (system.passage link.connection.id).attempts.length + 1) :
    system.Reaches (HasEnded client command before) := by
  have ended := there.waits.reaches_end there.stage made
  rwa [there.same] at ended

theorem reaches_of_answering
    {reply : Reply}
    (there : WaitsAt (.answering reply) client command link before system) :
    system.Reaches (HasEnded client command before) := by
  have written := there.waits.reaches_written there.stage
  rw [there.same] at written
  exact written.trans fun later ⟨thereLater, made⟩ =>
    thereLater.reaches_of_written made

theorem reaches_of_holding
    (there :
      WaitsAt (.holding command.request) client command link before
        system)
    (within : (system.store.handle command.request).1.IsWithin
      before.client.endpoint.payloadLimit) :
    system.Reaches (HasEnded client command before) := by
  rw [← there.same] at within ⊢
  exact (there.waits.reaches_answering there.stage within).trans
    fun later thereLater => thereLater.reaches_of_answering

end WaitsAt

/-- A client that waits for a reply can have it.  Only if its request was not
handled yet it matters what the reply would be. -/
theorem Orderly.progress
    (orderly : system.Orderly) {client : ClientId} {command : Command}
    (awaiting : (system.party client).awaited? = some command)
    (within : system.IsUnhandled client →
      (system.store.handle command.request).1.IsWithin
        (system.party client).client.endpoint.payloadLimit) :
    system.Reaches (HasEnded client command (system.party client)) := by
  have present : (system.party client).client.link? ≠ none := by
    intro isNone
    rw [(orderly.books.clients client).awaiting isNone] at awaiting
    cases awaiting
  rcases Option.ne_none_iff_exists'.mp present with ⟨link, linked⟩
  have waits : system.Waits client command link :=
    ⟨orderly, linked, awaiting⟩
  rcases waits.passage with ⟨smooth, linkedOn, awaitingOn⟩
  rcases smooth.counts_of_awaiting awaitingOn with ⟨answered, asked⟩
  have lower := Nat.le_trans (Nat.le_add_right _ _) answered
  cases stage : (system.wire.line link.connection.id).stage with
  | reading =>
      by_cases due :
          (system.passage link.connection.id).handled.length =
            (system.passage link.connection.id).attempts.length
      · refine (waits.reaches_holding stage due).trans ?_
        rintro later ⟨there, store⟩
        refine there.reaches_of_holding ?_
        rw [store]
        exact within (waits.isUnhandled due)
      · have made := Nat.lt_of_le_of_ne lower (Ne.symm due)
        have there : WaitsAt .reading client command link
            (system.party client) system := ⟨waits, rfl, stage⟩
        exact there.reaches_of_written (Nat.le_antisymm
          (Nat.le_trans (Nat.le_add_right _ _) asked) made)
  | holding request =>
      have same := smooth.eq_of_holding awaitingOn stage
      rw [show (system.passage link.connection.id).line.stage = _ from stage]
        at asked
      have due := Nat.le_antisymm (Nat.le_of_succ_le_succ asked) lower
      exact WaitsAt.reaches_of_holding ⟨waits, rfl, same ▸ stage⟩
        (within (waits.isUnhandled due))
  | answering reply =>
      exact WaitsAt.reaches_of_answering ⟨waits, rfl, stage⟩
  | closed => exact absurd stage (smooth.isOpen linkedOn).2

end System

end BlockWire
