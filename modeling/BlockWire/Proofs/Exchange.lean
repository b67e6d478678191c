import BlockWire.Client.Step
import BlockWire.Proofs.Reading
import BlockWire.Proofs.Writing

/-!
# Exchanges

An exchange over a link goes one of two ways.  Either the request is written
in full and a whole reply is there for it; then the reply is handed over with
exactly its bytes read, and the link stays.  Or one of the two is missing; then
the failure is one that ends a session.

Every command of a client is such an exchange, and what it ends with is the
reading of the reply that fits the command.
-/

namespace BlockWire

/-! ## Failures of an exchange -/

namespace Frame

variable {κ : Type} [Coded κ]

theorem isSessionFatal_of_write
    {frame : Frame κ} {sink : Sink} {failure : Failure}
    (failed : (frame.write sink).1 = .error failure) :
    failure.isSessionFatal = true := by
  by_cases fits : frame.payload.length ≤ largestPayload
  · rw [write_eq_put fits] at failed
    cases written : (sink.put frame.bytes).1 with
    | ok done =>
        rw [written] at failed
        cases failed
    | error fault =>
        rw [written] at failed
        cases failed
        rfl
  · rw [write_of_oversized fits] at failed
    cases failed
    rfl

theorem isSessionFatal_shortfall
    (source : Source) (received : Nat) (fault : FrameFault) :
    (source.shortfall received fault).isSessionFatal = true := by
  unfold Source.shortfall
  split
  · rfl
  · split <;> rfl

/-- What is not decoded is not read, and the failure ends a session. -/
theorem read_of_decode_error
    {limit : Nat} {source : Source} {fault : FrameFault}
    (refused : decode (κ := κ) limit source.ready = .error fault) :
    ∃ failure rest,
      read (κ := κ) limit source = (.error failure, rest) ∧
        failure.isSessionFatal = true := by
  cases cut : fault.received? with
  | none =>
      rcases read_of_decode_refused refused cut with ⟨rest, isRead, -⟩
      exact ⟨_, rest, isRead, rfl⟩
  | some received =>
      exact ⟨_, _, read_of_decode_short refused cut,
        isSessionFatal_shortfall source received fault⟩

end Frame

namespace Link

theorem isSessionFatal_classify
    (link : Link) {failure : Failure}
    (fatal : failure.isSessionFatal = true) :
    (link.classify failure).isSessionFatal = true := by
  unfold classify
  split
  · split <;> rfl
  · exact fatal

/-! ## Writing the request -/

variable {ν : Type} [Network ν]

/-- A link on which a request was written. -/
def submitted (request : Request) (link : Link) (network : ν) : Link :=
  (link.submit request network).2.1

/-- A link that is a later state of another one: the same connection to the
same peer, under the same limit. -/
structure Continues (link later : Link) : Prop where
  id : later.connection.id = link.connection.id
  peer : later.connection.peer = link.connection.peer
  payloadLimit : later.payloadLimit = link.payloadLimit

theorem continues_submitted
    (request : Request) (link : Link) (network : ν) :
    link.Continues (link.submitted request network) :=
  ⟨rfl, rfl, rfl⟩

/-- A request is submitted exactly if it fits its header and the stream takes
it in full. -/
theorem submit_eq_ok_iff
    {request : Request} {link : Link} {network : ν} :
    (link.submit request network).1 = .ok () ↔
      request.payload.length ≤ largestPayload ∧
        (link.connection.outgoing.put request.bytes).1 = .ok () := by
  show (request.write link.connection.outgoing).1.mapError link.classify =
      .ok () ↔ _
  rw [mapError_eq_ok_iff]
  exact Frame.write_eq_ok_iff

/-- What the peer hears of a request. -/
def taken (request : Request) (link : Link) : Bytes :=
  (request.write link.connection.outgoing).2.written.drop
    link.connection.outgoing.written.length

theorem network_submit
    (request : Request) (link : Link) (network : ν) :
    (link.submit request network).2.2 =
      (Network.hear link.connection.id (link.taken request) network).2 :=
  rfl

theorem incoming_submitted
    (request : Request) (link : Link) (network : ν) :
    (link.submitted request network).connection.incoming =
      link.connection.incoming.extend
        (Network.hear link.connection.id (link.taken request) network).1 :=
  rfl

theorem taken_of_submit
    {request : Request} {link : Link} {network : ν}
    (done : (link.submit request network).1 = .ok ()) :
    link.taken request = request.bytes :=
  Frame.taken_of_write
    (Frame.write_eq_ok_iff.mpr (submit_eq_ok_iff.mp done))

theorem outgoing_submitted
    {request : Request} {link : Link} {network : ν}
    (done : (link.submit request network).1 = .ok ()) :
    (link.submitted request network).connection.outgoing =
      (link.connection.outgoing.put request.bytes).2 := by
  rcases submit_eq_ok_iff.mp done with ⟨fits, -⟩
  show (request.write link.connection.outgoing).2 = _
  rw [Frame.write_eq_put fits]

theorem isSessionFatal_of_submit
    {request : Request} {link : Link} {network : ν} {failure : Failure}
    (failed : (link.submit request network).1 = .error failure) :
    failure.isSessionFatal = true := by
  change (request.write link.connection.outgoing).1.mapError link.classify =
    .error failure at failed
  cases written : (request.write link.connection.outgoing).1 with
  | ok done =>
      rw [written] at failed
      cases failed
  | error cause =>
      rw [written] at failed
      cases failed
      exact isSessionFatal_classify link
        (Frame.isSessionFatal_of_write written)

/-! ## The two ways of an exchange -/

/--
A whole reply is there for a request: the request fits its header, the stream
takes it in full, and the data in front of the stop, with what the peer sends
when it hears the request, begin with the frame of the reply.
-/
structure Answers (request : Request) (reply : Reply) (link : Link)
    (network : ν) : Prop where
  fits : request.payload.length ≤ largestPayload
  written : (link.connection.outgoing.put request.bytes).1 = .ok ()
  found :
    Frame.decode link.payloadLimit
      (link.connection.incoming.extend
        (Network.hear link.connection.id request.bytes
          network).1).ready = .ok reply

theorem Answers.unique
    {request : Request} {reply other : Reply} {link : Link} {network : ν}
    (first : link.Answers request reply network)
    (second : link.Answers request other network) :
    reply = other :=
  Except.ok.inj (first.found.symm.trans second.found)

/-- A reply is there exactly if the request is submitted and the link then
has the frame of the reply. -/
theorem answers_iff_submitted
    {request : Request} {reply : Reply} {link : Link} {network : ν} :
    link.Answers request reply network ↔
      (link.submit request network).1 = .ok () ∧
        Frame.decode link.payloadLimit
          (link.submitted request network).connection.incoming.ready =
            .ok reply := by
  constructor
  · rintro ⟨fits, written, found⟩
    have done : (link.submit request network).1 = .ok () :=
      submit_eq_ok_iff.mpr ⟨fits, written⟩
    rw [incoming_submitted, taken_of_submit done]
    exact ⟨done, found⟩
  · rintro ⟨done, found⟩
    rw [incoming_submitted, taken_of_submit done] at found
    rcases submit_eq_ok_iff.mp done with ⟨fits, written⟩
    exact ⟨fits, written, found⟩

theorem roundTrip_of_submit_error
    {request : Request} {link : Link} {network : ν} {failure : Failure}
    (failed : (link.submit request network).1 = .error failure) :
    link.roundTrip request network =
      (.error failure, link.submitted request network,
        (link.submit request network).2.2) := by
  rw [roundTrip, submitted]
  match given : link.submit request network, failed with
  | (.error _, after, later), rfl => rfl

theorem roundTrip_of_submit_ok
    {request : Request} {link : Link} {network : ν}
    (done : (link.submit request network).1 = .ok ()) :
    link.roundTrip request network =
      ((link.submitted request network).collect.1,
        (link.submitted request network).collect.2,
        (link.submit request network).2.2) := by
  rw [roundTrip, submitted]
  match given : link.submit request network, done with
  | (.ok (), after, later), _ => rfl

/-- A whole reply is handed over, and exactly its bytes are read. -/
theorem roundTrip_of_answers
    {request : Request} {reply : Reply} {link : Link} {network : ν}
    (answers : link.Answers request reply network) :
    ∃ rest,
      link.roundTrip request network =
          (.ok reply,
            { link.submitted request network with
              connection :=
                { (link.submitted request network).connection with
                  incoming := rest } },
            (link.submit request network).2.2) ∧
        (link.submitted request network).connection.incoming.Takes
          (headerSize + reply.payload.length) rest := by
  rcases answers_iff_submitted.mp answers with ⟨done, decoded⟩
  rw [← (continues_submitted request link network).payloadLimit] at decoded
  rcases Frame.read_of_decode_ok decoded with ⟨rest, isRead, taken⟩
  refine ⟨rest, ?_, taken⟩
  rw [roundTrip_of_submit_ok done, collect, isRead]
  rfl

/-- Without a whole reply the exchange fails in a way that ends the
session. -/
theorem roundTrip_of_not_answers
    {request : Request} {link : Link} {network : ν}
    (unanswered : ∀ reply, ¬ link.Answers request reply network) :
    ∃ failure after,
      link.roundTrip request network =
          (.error failure, after, (link.submit request network).2.2) ∧
        failure.isSessionFatal = true ∧ link.Continues after := by
  have continues := continues_submitted request link network
  cases done : (link.submit request network).1 with
  | error failure =>
      exact ⟨failure, _, roundTrip_of_submit_error done,
        isSessionFatal_of_submit done, continues⟩
  | ok nothing =>
      cases decoded : Frame.decode (κ := Status) link.payloadLimit
          (link.submitted request network).connection.incoming.ready with
      | ok reply =>
          exact absurd (answers_iff_submitted.mpr ⟨done, decoded⟩)
            (unanswered reply)
      | error fault =>
          rw [← continues.payloadLimit] at decoded
          rcases Frame.read_of_decode_error decoded with
              ⟨failure, rest, isRead, fatal⟩
          rw [roundTrip_of_submit_ok done, collect, isRead]
          exact ⟨_, _, rfl, isSessionFatal_classify _ fatal,
            continues.id, continues.peer, continues.payloadLimit⟩

end Link

/-! ## Commands -/

namespace Client

/-- The request that a step sends.  A step that sends one is a command. -/
def Step.request? : Step → Option Request
  | .connect => none
  | .disconnect => none
  | .call asked => some asked.request
  | .send request => some request
  | .abort => none

/-- What a command ends with when it gets a reply.  A call takes the text of a
success and ends with a refusal, with the status and the text of the reply,
otherwise; a request of the program's own making takes any reply as it is. -/
def Step.outcome (reply : Reply) : Step → Except Failure Finding
  | .call asked =>
      if reply.tag = .success then
        .ok (asked.value (Text.lossy reply.payload))
      else .error (.refused ⟨reply.tag, Text.lossy reply.payload⟩)
  | .send _ => .ok (.reply reply)
  | .connect => .ok .done
  | .disconnect => .ok .done
  | .abort => .ok .done

variable {ν : Type} [Network ν]

theorem Call.outcome_eq
    {α : Type} (call : Call α) (reply : Reply) :
    call.outcome reply =
      if reply.tag = .success then
        .ok (call.value (Text.lossy reply.payload))
      else .error (.refused ⟨reply.tag, Text.lossy reply.payload⟩) := by
  by_cases success : reply.tag = .success <;>
    simp [Call.outcome, Reply.result, Status.isSuccess, Reply.text, success]

/-- A command sends its request and reads the reply in its own way. -/
theorem Step.run_of_request
    {step : Step} {request : Request}
    (isCommand : step.request? = some request)
    (client : Client) (network : ν) :
    step.run client network =
      (.returned ((client.send request network).1.bind
          fun reply => step.outcome reply),
        (client.send request network).2) := by
  cases step with
  | connect => cases isCommand
  | disconnect => cases isCommand
  | abort => cases isCommand
  | call asked =>
      cases isCommand
      simp only [run, perform]
      rcases client.send asked.request network with ⟨_ | reply, after, later⟩
      · rfl
      · simp only [Call.outcome_eq, outcome, Except.bind]
  | send given =>
      cases isCommand
      simp only [run]
      rcases client.send request network with
        ⟨_ | reply, after, later⟩ <;> rfl

theorem send_of_not_connected
    {client : Client} (unlinked : client.link? = none)
    (request : Request) (network : ν) :
    client.send request network = (.error .notConnected, client, network) := by
  simp only [send, unlinked]

/-- A client whose request is answered hands the reply over and keeps its
link. -/
theorem send_of_answers
    {client : Client} {link : Link} (linked : client.link? = some link)
    {request : Request} {reply : Reply} {network : ν}
    (answers : link.Answers request reply network) :
    ∃ rest,
      client.send request network =
          (.ok reply,
            { client with
              link? := some
                { link.submitted request network with
                  connection :=
                    { (link.submitted request network).connection with
                      incoming := rest } } },
            (link.submit request network).2.2) ∧
        (link.submitted request network).connection.incoming.Takes
          (headerSize + reply.payload.length) rest := by
  rcases Link.roundTrip_of_answers answers with ⟨rest, exchanged, taken⟩
  refine ⟨rest, ?_, taken⟩
  simp only [send, linked, exchanged]

/-- A client whose request is not answered ends its link. -/
theorem send_of_not_answers
    {client : Client} {link : Link} (linked : client.link? = some link)
    {request : Request} {network : ν}
    (unanswered : ∀ reply, ¬ link.Answers request reply network) :
    ∃ failure,
      client.send request network =
          (.error failure, { client with link? := none },
            Network.hangUp link.connection.id
              (link.submit request network).2.2) ∧
        failure.isSessionFatal = true := by
  rcases Link.roundTrip_of_not_answers unanswered with
      ⟨failure, after, exchanged, fatal, continues⟩
  refine ⟨failure, ?_, fatal⟩
  simp only [send, linked, exchanged, disconnect, continues.id]

end Client

end BlockWire
