import BlockWire.Network.Scripted
import BlockWire.Proofs.Exchange

/-!
# The end of a session

A client loses its link exactly when a command ends with a failure that is
fatal to the session, and it keeps the link exactly when a whole reply was
read.  That no other failure comes from an exchange, and no fatal one from a
reply, holds whatever the peer does.

Connecting is the only other step that can fail.  A failure to connect names
the endpoint.  There is one more way for it to end: a time limit whose
deadline the clock cannot show cuts the program short.
-/

namespace BlockWire

/-! ## Deadlines that cannot be shown -/

/-- The deadline that a time limit sets lies beyond the clock. -/
def Deadline.IsBeyond (timeout : Nanoseconds) (now : Instant) : Prop :=
  timeout ≠ 0 ∧ lastSecond < (now + timeout) / seconds 1

theorem Deadline.start_eq_none_iff
    {timeout : Nanoseconds} {now : Instant} :
    Deadline.start timeout now = none ↔ Deadline.IsBeyond timeout now := by
  by_cases unlimited : timeout = 0
  · simp [Deadline.start, IsBeyond, unlimited]
  · by_cases shown : (now + timeout) / seconds 1 ≤ lastSecond
    · simp [Deadline.start, IsBeyond, unlimited, shown]
    · simp [Deadline.start, IsBeyond, unlimited, shown,
        Nat.lt_of_not_le shown]

/-- Every other time limit sets a deadline. -/
theorem Deadline.exists_start
    {timeout : Nanoseconds} {now : Instant}
    (within : ¬ IsBeyond timeout now) :
    ∃ deadline, start timeout now = some deadline := by
  rw [← start_eq_none_iff] at within
  exact Option.ne_none_iff_exists'.mp within

/-! ## Opening a link -/

variable {ν : Type} [Network ν]

theorem Link.establish_of_isBeyond
    {endpoint : Endpoint} {network : ν}
    (beyond :
      Deadline.IsBeyond endpoint.timeout (Network.clock network).1) :
    Link.establish endpoint network =
      (.aborted, (Network.clock network).2) := by
  simp only [establish, Deadline.start_eq_none_iff.mpr beyond]

/-- Once its deadline is set, a link is opened as dialling goes. -/
theorem Link.establish_of_start
    {endpoint : Endpoint} {network after : ν} {started : Instant}
    (begins : Network.clock network = (started, after))
    {deadline : Deadline}
    (isStart : Deadline.start endpoint.timeout started = some deadline)
    {answer : Except TransportFault Connection} {later : ν}
    (dialled : dial endpoint deadline after = (answer, later)) :
    establish endpoint network =
      (.returned
          ((answer.mapError (Failure.connection endpoint.address)).map
            fun connection => ⟨connection, endpoint.payloadLimit⟩),
        later) := by
  simp only [establish, begins, isStart, dialled]
  cases answer <;> rfl

/-- With any other deadline the endpoint is dialled, and a link comes about
or a failure to connect. -/
theorem Link.establish_of_not_isBeyond
    {endpoint : Endpoint} {network : ν}
    (within :
      ¬ Deadline.IsBeyond endpoint.timeout (Network.clock network).1) :
    ∃ deadline,
      Link.establish endpoint network =
        (.returned
            (((Link.dial endpoint deadline
                (Network.clock network).2).1.mapError
              (Failure.connection endpoint.address)).map
              fun connection => ⟨connection, endpoint.payloadLimit⟩),
          (Link.dial endpoint deadline (Network.clock network).2).2) := by
  rcases Deadline.exists_start within with ⟨deadline, isStart⟩
  exact ⟨deadline, establish_of_start rfl isStart rfl⟩

namespace Client

/-! ## Connecting -/

theorem connect_of_connected
    {client : Client} {link : Link} (linked : client.link? = some link)
    (network : ν) :
    client.connect network = (.returned (.ok ()), client, network) := by
  simp only [connect, linked]

theorem connect_of_isBeyond
    {client : Client} (unlinked : client.link? = none) {network : ν}
    (beyond :
      Deadline.IsBeyond client.endpoint.timeout
        (Network.clock network).1) :
    client.connect network =
      (.aborted, client, (Network.clock network).2) := by
  simp only [connect, unlinked, Link.establish_of_isBeyond beyond]

/-- A client that is not connected gets a link, or it stays as it is with a
failure that names the endpoint. -/
theorem connect_of_not_isBeyond
    {client : Client} (unlinked : client.link? = none) {network : ν}
    (within :
      ¬ Deadline.IsBeyond client.endpoint.timeout
        (Network.clock network).1) :
    (∃ link later,
        client.connect network =
          (.returned (.ok ()), { client with link? := some link }, later)) ∨
      ∃ cause later,
        client.connect network =
          (.returned (.error (.connection client.endpoint.address cause)),
            client, later) := by
  rcases Link.establish_of_not_isBeyond within with ⟨deadline, established⟩
  simp only [connect, unlinked, established]
  cases Link.dial client.endpoint deadline (Network.clock network).2 with
  | mk answer later =>
      cases answer with
      | ok connection => exact .inl ⟨_, _, rfl⟩
      | error cause => exact .inr ⟨_, _, rfl⟩

/-! ## Commands -/

/-- A reply never ends a session, whatever its status. -/
theorem Step.not_isSessionFatal_outcome
    {step : Step} {reply : Reply} {failure : Failure}
    (ended : step.outcome reply = .error failure) :
    failure.isSessionFatal = false := by
  cases step with
  | call asked =>
      simp only [outcome] at ended
      split at ended
      · cases ended
      · cases ended
        rfl
  | connect => cases ended
  | disconnect => cases ended
  | send request => cases ended
  | abort => cases ended

theorem Step.run_of_not_connected
    {client : Client} (unlinked : client.link? = none)
    {step : Step} {request : Request}
    (isCommand : step.request? = some request) (network : ν) :
    step.run client network =
      (.returned (.error .notConnected), client, network) := by
  rw [run_of_request isCommand, send_of_not_connected unlinked]
  rfl

/-- An answered command keeps the link and ends as the reply says. -/
theorem Step.run_of_answers
    {client : Client} {link : Link} (linked : client.link? = some link)
    {step : Step} {request : Request}
    (isCommand : step.request? = some request)
    {reply : Reply} {network : ν}
    (answers : link.Answers request reply network) :
    ∃ kept later,
      step.run client network =
          (.returned (step.outcome reply),
            { client with link? := some kept }, later) ∧
        link.Continues kept := by
  rcases send_of_answers linked answers with ⟨rest, sent, -⟩
  rw [run_of_request isCommand, sent]
  exact ⟨_, _, rfl, rfl, rfl, rfl⟩

/-- A command without an answer gives the link up, with a fatal failure. -/
theorem Step.run_of_not_answers
    {client : Client} {link : Link} (linked : client.link? = some link)
    {step : Step} {request : Request}
    (isCommand : step.request? = some request)
    {network : ν}
    (unanswered : ∀ reply, ¬ link.Answers request reply network) :
    ∃ failure later,
      step.run client network =
          (.returned (.error failure), { client with link? := none },
            later) ∧
        failure.isSessionFatal = true := by
  rcases send_of_not_answers linked unanswered with ⟨failure, sent, fatal⟩
  rw [run_of_request isCommand, sent]
  exact ⟨failure, _, rfl, fatal⟩

/-- How a command on a connected client ends, and what it leaves behind. -/
theorem Step.run_of_connected
    {client : Client} {link : Link} (linked : client.link? = some link)
    {step : Step} {request : Request}
    (isCommand : step.request? = some request) (network : ν) :
    ∃ result after later,
      step.run client network = (.returned result, after, later) ∧
      (after.link? = none ↔
        ∃ failure, result = .error failure ∧
          failure.isSessionFatal = true) ∧
      ((∃ kept, after.link? = some kept ∧ link.Continues kept) ↔
        ∃ reply, link.Answers request reply network) ∧
      ∀ reply, link.Answers request reply network →
        result = step.outcome reply := by
  by_cases answered : ∃ reply, link.Answers request reply network
  · rcases answered with ⟨reply, answers⟩
    rcases run_of_answers linked isCommand answers with
      ⟨kept, later, ran, continues⟩
    refine ⟨_, _, later, ran, ?_, ?_, ?_⟩
    · constructor
      · intro gone
        cases gone
      · rintro ⟨failure, ended, fatal⟩
        rw [not_isSessionFatal_outcome ended] at fatal
        cases fatal
    · exact ⟨fun _ => ⟨reply, answers⟩, fun _ => ⟨kept, rfl, continues⟩⟩
    · intro other otherAnswers
      rw [answers.unique otherAnswers]
  · have unanswered : ∀ reply, ¬ link.Answers request reply network :=
      fun reply answers => answered ⟨reply, answers⟩
    rcases run_of_not_answers linked isCommand unanswered with
      ⟨failure, later, ran, fatal⟩
    refine ⟨_, _, later, ran, ?_, ?_, ?_⟩
    · exact ⟨fun _ => ⟨failure, rfl, fatal⟩, fun _ => rfl⟩
    · constructor
      · rintro ⟨kept, keeps, -⟩
        cases keeps
      · intro hasReply
        exact absurd hasReply answered
    · intro reply answers
      exact absurd answers (unanswered reply)

/--
A session ends exactly with a fatal failure.

A command on a client that is not connected does nothing but say so.  On a
connected client it leaves the client disconnected if and only if it ends with
a fatal failure, and on the same session if and only if a whole reply was
there for it, and then the reply decides what it ends with.  Connecting does
nothing on a connected client; otherwise it gives a link or a failure to
connect, except that a deadline beyond the clock cuts it short.
-/
theorem disconnected_iff_isSessionFatal (client : Client) (network : ν) :
    (∀ (step : Step) (request : Request), step.request? = some request →
      client.link? = none →
        step.run client network =
          (.returned (.error .notConnected), client, network)) ∧
    (∀ (step : Step) (request : Request), step.request? = some request →
      ∀ link, client.link? = some link →
        ∃ result after later,
          step.run client network = (.returned result, after, later) ∧
          (after.link? = none ↔
            ∃ failure, result = .error failure ∧
              failure.isSessionFatal = true) ∧
          ((∃ kept, after.link? = some kept ∧ link.Continues kept) ↔
            ∃ reply, link.Answers request reply network) ∧
          ∀ reply, link.Answers request reply network →
            result = step.outcome reply) ∧
    (∀ link, client.link? = some link →
      Step.connect.run client network =
        (.returned (.ok .done), client, network)) ∧
    (client.link? = none →
      Deadline.IsBeyond client.endpoint.timeout (Network.clock network).1 →
        ∃ later, Step.connect.run client network =
          (.aborted, client, later)) ∧
    (client.link? = none →
      ¬ Deadline.IsBeyond client.endpoint.timeout
          (Network.clock network).1 →
        (∃ link later, Step.connect.run client network =
          (.returned (.ok .done), { client with link? := some link },
            later)) ∨
        ∃ cause later, Step.connect.run client network =
          (.returned
              (.error (.connection client.endpoint.address cause)),
            client, later)) := by
  refine ⟨?_, ?_, ?_, ?_, ?_⟩
  · intro step request isCommand unlinked
    exact Step.run_of_not_connected unlinked isCommand network
  · intro step request isCommand link linked
    exact Step.run_of_connected linked isCommand network
  · intro link linked
    simp only [Step.run, connect_of_connected linked]
    rfl
  · intro unlinked beyond
    simp only [Step.run, connect_of_isBeyond unlinked beyond]
    exact ⟨_, rfl⟩
  · intro unlinked within
    rcases connect_of_not_isBeyond unlinked within with
      ⟨link, later, connected⟩ | ⟨cause, later, failed⟩
    · left
      simp only [Step.run, connected]
      exact ⟨link, later, rfl⟩
    · right
      simp only [Step.run, failed]
      exact ⟨cause, later, rfl⟩

/-- A client on whose link some bytes have arrived, and then the end of
data. -/
def receiving (bytes : Bytes) : Client where
  endpoint := {}
  link? := some ⟨⟨0, "127.0.0.1:8888", .ofBytes bytes, {}⟩, 16⟩

/-- A refusal that is there in full keeps the session. -/
theorem ping_refused_keeps_session :
    ∃ after later,
      Step.ping.run (receiving [4, 0, 0, 0, 0]) ({} : Scripted) =
          (.returned (.error (.refused ⟨.notFound, ""⟩)), after, later) ∧
        after.link? ≠ none := by
  obtain ⟨-, linked, -⟩ :=
    disconnected_iff_isSessionFatal (receiving [4, 0, 0, 0, 0])
      ({} : Scripted)
  rcases linked Step.ping .ping rfl _ rfl with
      ⟨result, after, later, ran, -, kept, ended⟩
  have answers :
      Link.Answers .ping ⟨.notFound, []⟩
        ⟨⟨0, "127.0.0.1:8888", .ofBytes [4, 0, 0, 0, 0], {}⟩, 16⟩
        ({} : Scripted) :=
    ⟨by decide, rfl,
      Frame.decode_eq_ok_iff.mpr ⟨by decide, by decide, [], rfl⟩⟩
  rcases kept.mpr ⟨_, answers⟩ with ⟨link, isLink, -⟩
  refine ⟨after, later, ?_, ?_⟩
  · rw [ran, ended _ answers]
    rfl
  · rw [isLink]
    exact Option.some_ne_none link

/-- The greatest number of seconds that a time limit can be given as has a
deadline beyond the clock, and connecting under it ends neither with a link
nor with a failure. -/
theorem connect_aborted_beyond_clock :
    (Step.connect.run
        (ofEndpoint { timeout := seconds 18446744073709551615 })
        ({} : Scripted)).1 = .aborted := by
  rfl

end Client

end BlockWire
