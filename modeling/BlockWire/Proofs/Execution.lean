import BlockWire.Proofs.Lifecycle
import BlockWire.Shell.Run

/-!
# What carrying out an instruction does

An instruction sends at most one request.  Help and leaving send none and
touch neither the client nor the network.  Any other instruction of a
connected client has its frame heard by the peer, on the connection that the
client has, and ends in one of two ways: by the reply, which keeps the
connection, or with a failure that ends it.
-/

namespace BlockWire

/-- What the peer hears of a request begins its frame. -/
theorem Link.taken_isPrefix (request : Request) (link : Link) :
    link.taken request <+: request.bytes := by
  have part := request.taken_eq_nil_or_isPrefix link.connection.outgoing
  rcases part with nothing | ⟨-, begins⟩
  · have empty : link.taken request = [] := nothing
    rw [empty]
    exact List.nil_prefix
  · exact begins

/-- A new client that connects has a link, and its connection is the only thing
on the record. -/
theorem Client.of_connected
    {ν : Type} [Network ν] {endpoint : Endpoint} {network : ν}
    {client : Client} {opened : Recorded ν}
    (connected :
      (ofEndpoint endpoint).connect (Recorded.blank network) =
        (.returned (.ok ()), client, opened)) :
    ∃ link, client.link? = some link ∧
      opened.record = [.opened link.connection.id] := by
  by_cases beyond :
      Deadline.IsBeyond endpoint.timeout
        (Network.clock (Recorded.blank network)).1
  · have unlinked : (ofEndpoint endpoint).link? = none := rfl
    cases connected.symm.trans (connect_of_isBeyond unlinked beyond)
  · have unlinked : (ofEndpoint endpoint).link? = none := rfl
    rcases record_connect unlinked (Recorded.blank network) beyond with
      ⟨link, later, same, noted⟩ | ⟨cause, later, same, -⟩
    · cases connected.symm.trans same
      exact ⟨link, rfl, noted⟩
    · cases connected.symm.trans same

namespace Instruction

/-- The request that an instruction sends, if it needs the server. -/
def request? (instruction : Instruction) : Option Request :=
  match instruction.plan with
  | .say _ => none
  | .leave => none
  | .ask call => some call.request

/-- What an instruction ends with when its request gets a reply. -/
def outcome (reply : Reply) (instruction : Instruction) :
    Except Failure Shown :=
  match instruction.plan with
  | .say text => .ok (.text text)
  | .leave => .ok .farewell
  | .ask call => (call.outcome reply).map .text

variable {instruction : Instruction} {request : Request} {reply : Reply}

theorem exists_call_of_request?
    (asks : instruction.request? = some request) :
    ∃ call, instruction.plan = .ask call ∧ call.request = request := by
  rw [request?] at asks
  match planned : instruction.plan, asks with
  | .ask call, isRequest => exact ⟨call, rfl, Option.some.inj isRequest⟩

/-- Only the help text and leaving need no server. -/
theorem request?_eq_none_iff :
    instruction.request? = none ↔
      instruction = .help ∨ instruction = .quit := by
  cases instruction <;> simp [request?, plan]

/-- A success shows a text, which may depend on the reply. -/
theorem outcome_of_success
    (asks : instruction.request? = some request)
    (success : reply.tag = .success) :
    ∃ text, instruction.outcome reply = .ok (.text text) := by
  rcases exists_call_of_request? asks with ⟨call, planned, -⟩
  rw [outcome, planned]
  simp only [Client.Call.outcome_eq, if_pos success]
  exact ⟨_, rfl⟩

/-- A refusal is passed on with the status and the text of the reply. -/
theorem outcome_of_refusal
    (asks : instruction.request? = some request)
    (refused : reply.tag ≠ .success) :
    instruction.outcome reply =
      .error (.refused ⟨reply.tag, Text.lossy reply.payload⟩) := by
  rcases exists_call_of_request? asks with ⟨call, planned, -⟩
  rw [outcome, planned]
  simp only [Client.Call.outcome_eq, if_neg refused]
  rfl

/-! ## The ways to end -/

variable {ν : Type} [Network ν]

theorem execute_help (client : Client) (network : ν) :
    Instruction.help.execute client network =
      (.ok (.text helpText), client, network) :=
  rfl

theorem execute_quit (client : Client) (network : ν) :
    Instruction.quit.execute client network =
      (.ok .farewell, client, network) :=
  rfl

/-- Any other instruction sends its request and ends by the reply. -/
theorem execute_of_request
    (asks : instruction.request? = some request)
    (client : Client) (network : ν) :
    instruction.execute client network =
      ((client.send request network).1.bind fun reply =>
          instruction.outcome reply,
        (client.send request network).2) := by
  rcases exists_call_of_request? asks with ⟨call, planned, rfl⟩
  simp only [execute, outcome, planned, Client.perform]
  rcases client.send call.request network with ⟨_ | reply, after, later⟩ <;>
    rfl

/--
An instruction of a connected client has its request heard on the client's
connection.  If there is a reply the request was heard in full, the reply
decides how the instruction ends, and the client keeps the connection.
Without one the connection is ended with a fatal failure.
-/
theorem execute_of_connected
    (asks : instruction.request? = some request)
    {client : Client} {link : Link} (linked : client.link? = some link)
    (recorded : Recorded ν) :
    (∃ reply kept later,
        link.Answers request reply recorded ∧
        instruction.execute client recorded =
          (instruction.outcome reply, { client with link? := some kept },
            later) ∧
        kept.connection.id = link.connection.id ∧
        later.record = recorded.record ++
          [.heard link.connection.id request.bytes]) ∨
      ∃ failure later,
        (∀ reply, ¬ link.Answers request reply recorded) ∧
        instruction.execute client recorded =
          (.error failure, { client with link? := none }, later) ∧
        failure.isSessionFatal = true ∧
        later.record = recorded.record ++
          [.heard link.connection.id (link.taken request),
            .closed link.connection.id] := by
  have noted : (link.submit request recorded).2.2.record =
      recorded.record ++
        [.heard link.connection.id (link.taken request)] := rfl
  rw [execute_of_request asks]
  by_cases answered : ∃ reply, link.Answers request reply recorded
  · rcases answered with ⟨reply, answers⟩
    rcases Client.send_of_answers linked answers with ⟨rest, sent, -⟩
    have whole : link.taken request = request.bytes :=
      Link.taken_of_submit (Link.answers_iff_submitted.mp answers).1
    left
    rw [sent]
    refine ⟨reply, _, _, answers, rfl, rfl, ?_⟩
    rw [noted, whole]
  · have unanswered : ∀ reply, ¬ link.Answers request reply recorded :=
      fun reply answers => answered ⟨reply, answers⟩
    rcases Client.send_of_not_answers linked unanswered with
      ⟨failure, sent, fatal⟩
    right
    rw [sent]
    refine ⟨failure, _, unanswered, rfl, fatal, ?_⟩
    show (link.submit request recorded).2.2.record ++ _ = _
    rw [noted, List.append_assoc]
    rfl

end Instruction

end BlockWire
