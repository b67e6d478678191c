import BlockWire.Network.Scripted
import BlockWire.Proofs.Conversation
import BlockWire.Proofs.Teardown

/-!
# Requests and replies in step

The replies of a session never get out of step with its requests, whatever
the peer delivers and whatever steps a client makes.

The invariant relates the link that a client holds, the entry of its session,
and the offset of the conversation: what is left on the link is what the peer
delivered, less the replies so far.  Each step keeps this, so a run does.
-/

namespace BlockWire

/-! ## Streams with more to come -/

namespace Source

theorem ready_isPrefix_extend (delivery : Delivery) (source : Source) :
    source.ready <+: (source.extend delivery).ready :=
  Arrival.ready_isPrefix_append _ _

/-- More to come is behind what is left as it is behind the whole. -/
theorem Takes.extend
    {count : Nat} {source rest : Source}
    (taken : Takes count source rest) (delivery : Delivery) :
    Takes count (source.extend delivery) (rest.extend delivery) := by
  have enough : count ≤ (Arrival.ready source.arrivals).length :=
    taken.enough
  have ready : Arrival.ready rest.arrivals =
      (Arrival.ready source.arrivals).drop count := taken.ready
  have fromStop : Arrival.fromStop rest.arrivals =
      Arrival.fromStop source.arrivals := taken.fromStop
  constructor
  · exact Nat.le_trans taken.enough
      (ready_isPrefix_extend delivery source).length_le
  · show Arrival.ready (rest.arrivals ++ delivery.arrivals) =
      (Arrival.ready (source.arrivals ++ delivery.arrivals)).drop count
    rw [Arrival.ready_append, Arrival.ready_append, ready, fromStop,
      List.drop_append_of_le_length enough]
  · show Arrival.fromStop (rest.arrivals ++ delivery.arrivals) =
      Arrival.fromStop (source.arrivals ++ delivery.arrivals)
    rw [Arrival.fromStop_append, Arrival.fromStop_append, fromStop]
  · simp only [Source.extend, taken.thereafter]

end Source

/-! ## Open and settled sessions -/

namespace Session

/-- The writes on a session succeed, and each request has an encoding. -/
structure Unhindered (session : Session) : Prop where
  fits : ∀ request ∈ SessionEvent.requests session.log,
    request.payload.length ≤ largestPayload
  accepts : session.outgoing.Accepts
    ((SessionEvent.requests session.log).map Frame.bytes)

/-- The session is one that a client holds by a link. -/
structure IsOpen (limit : Nat) (link : Link) (session : Session) :
    Prop where
  id : session.id = link.connection.id
  payloadLimit : link.payloadLimit = limit
  /-- Every command so far has its reply, and what is left on the link is
  what the peer delivered, less the replies. -/
  conversation : ∃ offset,
    Conversation limit session.incoming.ready session.log offset ∧
      session.incoming.Takes offset link.connection.incoming
  /-- The requests so far were written to the stream of the link. -/
  outgoing : link.connection.outgoing =
    session.outgoing.putAll
      ((SessionEvent.requests session.log).map Frame.bytes)

/-- The session is in step unless its writes were hindered. -/
def IsSettled (limit : Nat) (session : Session) : Prop :=
  session.Unhindered →
    InStep limit session.incoming.ready session.log

variable {limit : Nat} {link : Link} {session : Session}

theorem IsOpen.isSettled (isOpen : session.IsOpen limit link) :
    session.IsSettled limit := by
  intro unhindered
  rcases isOpen.conversation with ⟨offset, before, -⟩
  exact .lasting before

/-- A session is open from the moment on that its connection comes about. -/
theorem isOpen_ofConnection (connection : Connection) (limit : Nat) :
    (ofConnection connection).IsOpen limit ⟨connection, limit⟩ where
  id := rfl
  payloadLimit := rfl
  conversation := ⟨0, .start, .refl _⟩
  outgoing := rfl

theorem IsOpen.isSettled_hungUp (isOpen : session.IsOpen limit link) :
    (session.note .hungUp).IsSettled limit := by
  intro unhindered
  rcases isOpen.conversation with ⟨offset, before, -⟩
  exact .left before

/-! ## A command on an open session -/

variable {ν : Type} [Network ν] {network : ν}
variable {step : Client.Step} {request : Request}

/-- What is on the link after a request is what the peer delivered up to
then, less the replies before. -/
theorem takes_submitted
    (request : Request) (network : ν) {offset : Nat}
    (left : session.incoming.Takes offset link.connection.incoming) :
    (session.incoming.extend
        (Network.hear link.connection.id (link.taken request)
          network).1).Takes offset
      (link.submitted request network).connection.incoming := by
  rw [Link.incoming_submitted]
  exact left.extend _

/-- A command with a reply leaves the session open, behind the reply. -/
theorem IsOpen.answered
    (isOpen : session.IsOpen limit link)
    (isCommand : step.request? = some request)
    {reply : Reply} (answers : link.Answers request reply network)
    {rest : Source}
    (read : (link.submitted request network).connection.incoming.Takes
      (headerSize + reply.payload.length) rest) :
    ((session.hear (link.taken request)
          (Network.hear link.connection.id (link.taken request)
            network).1).note
        (.ended step (.returned (step.outcome reply)))).IsOpen limit
      { link.submitted request network with
        connection :=
          { (link.submitted request network).connection with
            incoming := rest } } := by
  rcases Link.answers_iff_submitted.mp answers with ⟨done, decoded⟩
  rcases isOpen.conversation with ⟨offset, before, left⟩
  have leftNow := takes_submitted request network left
  constructor
  · exact isOpen.id
  · exact isOpen.payloadLimit
  · refine ⟨offset + (headerSize + reply.payload.length), ?_,
      leftNow.trans read⟩
    rw [isOpen.payloadLimit, leftNow.ready] at decoded
    have conversation :=
      Conversation.answered
        (before.mono (Source.ready_isPrefix_extend _ _)) isCommand decoded
    simpa [note, hear, Link.taken_of_submit done] using conversation
  · show (link.submitted request network).connection.outgoing = _
    rw [Link.outgoing_submitted done, isOpen.outgoing]
    simp [note, hear, SessionEvent.requests_ended isCommand]

/-- A command without a reply leaves the session settled. -/
theorem IsOpen.isSettled_broken
    (isOpen : session.IsOpen limit link)
    (isCommand : step.request? = some request)
    (unanswered : ∀ reply, ¬ link.Answers request reply network)
    {failure : Failure} (fatal : failure.isSessionFatal = true) :
    (((session.hear (link.taken request)
            (Network.hear link.connection.id (link.taken request)
              network).1).note .hungUp).note
        (.ended step (.returned (.error failure)))).IsSettled limit := by
  intro unhindered
  rcases isOpen.conversation with ⟨offset, before, left⟩
  have leftNow := takes_submitted request network left
  rcases unhindered with ⟨fits, accepts⟩
  simp only [note, hear, SessionEvent.requests_append,
    SessionEvent.requests_heard, SessionEvent.requests_hungUp,
    SessionEvent.requests_ended isCommand, SessionEvent.requests_nil,
    List.append_nil, List.map_append, List.map_cons, List.map_nil]
    at fits accepts
  have done : (link.submit request network).1 = .ok () := by
    rw [Link.submit_eq_ok_iff, isOpen.outgoing]
    constructor
    · apply fits
      simp
    · exact Sink.put_of_accepts_append accepts
  cases decoded : Frame.decode (κ := Status) link.payloadLimit
      (link.submitted request network).connection.incoming.ready with
  | ok reply =>
      exact absurd (Link.answers_iff_submitted.mpr ⟨done, decoded⟩)
        (unanswered reply)
  | error fault =>
      rw [isOpen.payloadLimit, leftNow.ready] at decoded
      have broken :=
        InStep.broken (before.mono (Source.ready_isPrefix_extend _ _))
          isCommand decoded fatal
      simpa [note, hear, Link.taken_of_submit done] using broken

end Session

/-! ## The invariant -/

/-- What is known of the sessions fits the link that a client holds: all of
them are settled but the newest one, which is the link's if there is one. -/
def Session.Accounted (limit : Nat) :
    Option Link → List Session → Prop
  | none, sessions => ∀ session ∈ sessions, session.IsSettled limit
  | some link, sessions =>
      ∃ session earlier, sessions = session :: earlier ∧
        session.IsOpen limit link ∧
        ∀ session ∈ earlier, session.IsSettled limit

theorem Session.Accounted.isSettled
    {limit : Nat} {link? : Option Link} {sessions : List Session}
    (accounted : Accounted limit link? sessions) :
    ∀ session ∈ sessions, session.IsSettled limit := by
  cases link? with
  | none => exact accounted
  | some link =>
      rcases accounted with ⟨session, earlier, rfl, isOpen, settled⟩
      rintro other (_ | ⟨_, member⟩)
      · exact isOpen.isSettled
      · exact settled other member

namespace Client

variable {ν : Type} [Network ν] {client : Client} {watched : Watched ν}

def Accounts (client : Client) (watched : Watched ν) : Prop :=
  Session.Accounted client.endpoint.payloadLimit client.link?
    watched.sessions

/-! ## One step -/

theorem accounts_connect
    (accounts : client.Accounts watched) :
    (client.connect watched).2.1.endpoint = client.endpoint ∧
      (client.connect watched).2.1.Accounts
        (client.connect watched).2.2 := by
  cases linked : client.link? with
  | some link =>
      rw [connect_of_connected linked]
      exact ⟨rfl, accounts⟩
  | none =>
      by_cases beyond :
          Deadline.IsBeyond client.endpoint.timeout
            (Network.clock watched).1
      · rw [connect_of_isBeyond linked beyond]
        exact ⟨rfl, accounts⟩
      · rcases Link.establish_of_not_isBeyond beyond with
            ⟨deadline, established⟩
        have sessions :=
          Watched.sessions_linkDial client.endpoint deadline
            (Network.clock watched).2
        simp only [connect, linked, established]
        rcases dialled :
            Link.dial client.endpoint deadline (Network.clock watched).2 with
          ⟨fault | connection, later⟩
        · rw [dialled] at sessions
          refine ⟨rfl, ?_⟩
          show Session.Accounted _ client.link? later.sessions
          rw [sessions]
          exact accounts
        · rw [dialled] at sessions
          rw [Accounts, linked] at accounts
          exact ⟨rfl, _, _, sessions,
            Session.isOpen_ofConnection connection _, accounts⟩

theorem accounts_disconnect
    (accounts : client.Accounts watched) :
    (client.disconnect watched).1.endpoint = client.endpoint ∧
      (client.disconnect watched).1.Accounts
        (client.disconnect watched).2 := by
  cases linked : client.link? with
  | none =>
      simp only [disconnect, linked]
      exact ⟨trivial, accounts⟩
  | some link =>
      rw [Accounts, linked] at accounts
      rcases accounts with ⟨session, earlier, sessions, isOpen, settled⟩
      simp only [disconnect, linked]
      refine ⟨trivial, ?_⟩
      show ∀ other ∈ (Network.hangUp link.connection.id watched).sessions, _
      rw [Watched.sessions_hangUp, sessions,
        Session.onNewest_cons isOpen.id]
      rintro other (_ | ⟨_, member⟩)
      · exact isOpen.isSettled_hungUp
      · exact settled other member

/-- A command keeps the session of the link open, behind its reply, or
settles it. -/
theorem accounts_command
    (accounts : client.Accounts watched)
    {step : Step} {request : Request}
    (isCommand : step.request? = some request) :
    (step.watch client watched).2.1.endpoint = client.endpoint ∧
      (step.watch client watched).2.1.Accounts
        (step.watch client watched).2.2 := by
  cases linked : client.link? with
  | none =>
      simp only [Step.watch, Step.run_of_not_connected linked isCommand,
        Watched.noteEnd, isCommand, linked]
      exact ⟨trivial, accounts⟩
  | some link =>
      rw [Accounts, linked] at accounts
      rcases accounts with ⟨session, earlier, sessions, isOpen, settled⟩
      by_cases answered : ∃ reply, link.Answers request reply watched
      · rcases answered with ⟨reply, answers⟩
        rcases send_of_answers linked answers with ⟨rest, sent, read⟩
        simp only [Step.watch, Step.run_of_request isCommand, sent,
          Watched.noteEnd, isCommand, linked]
        refine ⟨trivial, _, earlier, ?_,
          isOpen.answered isCommand answers read, settled⟩
        simp only [Watched.sessions_change, Link.network_submit,
          Watched.sessions_hear, sessions, Session.onNewest_cons,
          Session.id_hear, isOpen.id]
        rfl
      · have unanswered : ∀ reply, ¬ link.Answers request reply watched :=
          fun reply answers => answered ⟨reply, answers⟩
        rcases send_of_not_answers linked unanswered with ⟨failure, sent, fatal⟩
        simp only [Step.watch, Step.run_of_request isCommand, sent,
          Watched.noteEnd, isCommand, linked]
        refine ⟨trivial, ?_⟩
        show ∀ other ∈ Watched.sessions _, _
        simp only [Watched.sessions_change, Watched.sessions_hangUp,
          Link.network_submit, Watched.sessions_hear, sessions,
          Session.onNewest_cons, Session.id_note, Session.id_hear, isOpen.id]
        rintro other (_ | ⟨_, member⟩)
        · exact isOpen.isSettled_broken isCommand unanswered fatal
        · exact settled other member

theorem accounts_watch
    (accounts : client.Accounts watched) (step : Step) :
    (step.watch client watched).2.1.endpoint = client.endpoint ∧
      (step.watch client watched).2.1.Accounts
        (step.watch client watched).2.2 := by
  cases step with
  | connect => exact accounts_connect accounts
  | disconnect => exact accounts_disconnect accounts
  | call asked => exact accounts_command accounts rfl
  | send request => exact accounts_command accounts rfl
  | abort => exact ⟨rfl, accounts⟩

/-! ## Whole runs -/

theorem accounts_watchAll
    (accounts : client.Accounts watched) (steps : List Step) :
    (watchAll steps client watched).2.1.endpoint = client.endpoint ∧
      (watchAll steps client watched).2.1.Accounts
        (watchAll steps client watched).2.2 := by
  induction steps generalizing client watched with
  | nil => exact ⟨rfl, accounts⟩
  | cons step steps induction =>
      rcases accounts_watch accounts step with ⟨same, accountsNow⟩
      rcases induction accountsNow with ⟨sameAfter, accountsAfter⟩
      exact ⟨sameAfter.trans same, accountsAfter⟩

/--
Replies never get out of step with requests.

Watch a run of any steps of a client on any network, which changes nothing of
the run.  Then every session that came about and whose writes succeeded is in
step with the data that its peer delivered in front of the stop: each command
that was answered got the frame at the offset where the reply before it ended,
from offset zero on, and after the first one without a frame the client hung
up and nothing more happened on the session.  The peer heard the requests of
the commands, each in full, and nothing else.
-/
theorem sessions_inStep
    (endpoint : Endpoint) (steps : List Step) (network : ν) :
    runAll steps (ofEndpoint endpoint) network =
        (watchAll steps (ofEndpoint endpoint)
          (⟨network, []⟩ : Watched ν)).map id
          (Prod.map id Watched.network) ∧
      ∀ session ∈ (watchAll steps (ofEndpoint endpoint)
          (⟨network, []⟩ : Watched ν)).2.2.sessions,
        session.Unhindered →
          InStep endpoint.payloadLimit session.incoming.ready session.log ∧
            SessionEvent.allHeard session.log =
              (SessionEvent.requests session.log).flatMap Frame.bytes := by
  constructor
  · exact runAll_network steps (ofEndpoint endpoint) ⟨network, []⟩
  · intro session member unhindered
    have initially :
        (ofEndpoint endpoint).Accounts (⟨network, []⟩ : Watched ν) := by
      intro session member
      cases member
    rcases accounts_watchAll initially steps with ⟨same, accounts⟩
    rw [Accounts, same] at accounts
    have inStep := accounts.isSettled session member unhindered
    exact ⟨inStep, inStep.allHeard_eq⟩

/-- The first of two replies is there in full and the second is not; the
session after it is another one. -/
theorem sessions_inStep_two_sessions :
    InStep 64 [0, 0, 0, 0, 1, 112, 0, 0]
      [.heard [6, 0, 0, 0, 0], .ended .ping (.returned (.ok .done)),
        .heard [4, 0, 0, 0, 2, 109, 49], .hungUp,
        .ended (.send ⟨.read, [109, 49]⟩)
          (.returned (.error (.framing (.incompleteHeader 2))))] := by
  obtain ⟨-, inStep⟩ :=
    sessions_inStep { payloadLimit := 64 }
      [.connect, .ping, .send ⟨.read, [109, 49]⟩, .connect]
      ({ pending :=
          { arrivals := [.data [0, 0, 0], .data [0, 1, 112, 0, 0]]
            thereafter? := some .ended } } : Scripted)
  have found := inStep
    { id := 0
      incoming := ⟨[.data [0, 0, 0], .data [0, 1, 112, 0, 0]], .ended⟩
      outgoing := {}
      log :=
        [.heard [6, 0, 0, 0, 0], .ended .ping (.returned (.ok .done)),
          .heard [4, 0, 0, 0, 2, 109, 49], .hungUp,
          .ended (.send ⟨.read, [109, 49]⟩)
            (.returned (.error (.framing (.incompleteHeader 2))))] }
    (.tail _ (.head _)) ⟨by decide, rfl, rfl, trivial⟩
  exact found.1

end Client

end BlockWire
