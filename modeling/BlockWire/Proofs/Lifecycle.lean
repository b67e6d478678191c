import BlockWire.Network.Record
import BlockWire.Proofs.Teardown

/-!
# The life of a connection

A client has at most one connection.  It opens one only when it has none, what
it writes goes to the one that it has, and it ends that one when it gives it
up.  A record of what a single client did therefore tells of one connection
after the other, each opened, heard and ended in turn, and at most the last
one is still open.

Every step of a client keeps its record like this, however the step ends and
whatever numbers the network gives to its connections.
-/

namespace BlockWire

/-! ## Records of one connection after the other -/

namespace Happening

/-- A record that tells of one connection after the other, with the one that
is open at its end. -/
inductive Lifecycle : List Happening → Option ConnectionId → Prop where
  | nothing : Lifecycle [] none
  | opened (id : ConnectionId) {record : List Happening}
      (earlier : Lifecycle record none) :
      Lifecycle (record ++ [.opened id]) (some id)
  | heard (bytes : Bytes) {id : ConnectionId} {record : List Happening}
      (earlier : Lifecycle record (some id)) :
      Lifecycle (record ++ [.heard id bytes]) (some id)
  | closed {id : ConnectionId} {record : List Happening}
      (earlier : Lifecycle record (some id)) :
      Lifecycle (record ++ [.closed id]) none

/-- The connections that were opened, in order. -/
def openings (record : List Happening) : List ConnectionId :=
  record.filterMap fun
    | .opened id => some id
    | _ => none

/-- The connections that were ended, in order. -/
def closings (record : List Happening) : List ConnectionId :=
  record.filterMap fun
    | .closed id => some id
    | _ => none

variable {record : List Happening} {held? : Option ConnectionId}

/-- What was opened and is not held any more was ended, once and in the order
of opening. -/
theorem Lifecycle.openings_eq
    (lifecycle : Lifecycle record held?) :
    openings record = closings record ++ held?.toList := by
  induction lifecycle with
  | nothing => rfl
  | opened id earlier induction =>
      simpa [openings, closings] using induction
  | heard bytes earlier induction =>
      simpa [openings, closings] using induction
  | closed earlier induction =>
      simpa [openings, closings] using induction

/-- The first part of such a record is such a record too. -/
theorem Lifecycle.of_isPrefix
    (lifecycle : Lifecycle record held?) {part : List Happening}
    (isPart : part <+: record) :
    ∃ heldThen?, Lifecycle part heldThen? := by
  induction lifecycle with
  | nothing =>
      rw [List.prefix_nil.mp isPart]
      exact ⟨none, .nothing⟩
  | opened id earlier induction =>
      rcases List.prefix_concat_iff.mp isPart with rfl | within
      · exact ⟨some id, .opened id earlier⟩
      · exact induction within
  | heard bytes earlier induction =>
      rcases List.prefix_concat_iff.mp isPart with rfl | within
      · exact ⟨_, .heard bytes earlier⟩
      · exact induction within
  | closed earlier induction =>
      rcases List.prefix_concat_iff.mp isPart with rfl | within
      · exact ⟨none, .closed earlier⟩
      · exact induction within

/-- At no point was a connection ended that had not been opened. -/
theorem Lifecycle.closings_isPrefix
    (lifecycle : Lifecycle record held?) {part : List Happening}
    (isPart : part <+: record) :
    closings part <+: openings part := by
  rcases lifecycle.of_isPrefix isPart with ⟨heldThen?, partly⟩
  exact ⟨heldThen?.toList, partly.openings_eq.symm⟩

end Happening

/-- A network on which nothing has been recorded yet. -/
def Recorded.blank {ν : Type} (network : ν) : Recorded ν :=
  { network := network }

/-! ## The record of a client -/

namespace Client

variable {ν : Type} {client : Client} {recorded : Recorded ν}

/-- The connection that a client has. -/
def held? (client : Client) : Option ConnectionId :=
  client.link?.map (·.connection.id)

/-- The record of a network tells of the connections of a client, up to the
one that it has. -/
def Accounted (client : Client) (recorded : Recorded ν) : Prop :=
  Happening.Lifecycle recorded.record client.held?

/-- As many connections were opened as were ended, and one more if the client
is connected. -/
theorem Accounted.length_openings
    (accounted : client.Accounted recorded) :
    (Happening.openings recorded.record).length =
      (Happening.closings recorded.record).length +
        if client.isConnected then 1 else 0 := by
  rw [Happening.Lifecycle.openings_eq accounted, List.length_append, held?,
    isConnected]
  cases client.link? <;> rfl

/-! ## Connecting -/

variable [Network ν]

/-- Dialling records the connection that comes about, and nothing else. -/
theorem record_dial
    (endpoint : Endpoint) (deadline : Deadline) (recorded : Recorded ν) :
    (∃ connection later,
        Link.dial endpoint deadline recorded = (.ok connection, later) ∧
          later.record = recorded.record ++ [.opened connection.id]) ∨
      ∃ cause later,
        Link.dial endpoint deadline recorded = (.error cause, later) ∧
          later.record = recorded.record := by
  simp only [Link.dial]
  split
  · exact .inr ⟨.malformedHost, recorded, rfl, rfl⟩
  · cases deadline.patience (Network.clock recorded).1 with
    | error fault =>
        exact .inr ⟨fault, (Network.clock recorded).2, rfl, rfl⟩
    | ok patience =>
        simp only [Network.dial]
        rcases Network.dial endpoint.host endpoint.port patience
            (Network.clock recorded).2.network with
          ⟨cause | connection, later⟩
        · exact .inr ⟨cause, ⟨later, recorded.record⟩, rfl, rfl⟩
        · exact .inl ⟨connection,
            ⟨later, recorded.record ++ [.opened connection.id]⟩, rfl, rfl⟩

/-- A client that is not connected gets a link whose connection is recorded,
or it stays as it is and nothing is recorded. -/
theorem record_connect
    (unlinked : client.link? = none) (recorded : Recorded ν)
    (within :
      ¬ Deadline.IsBeyond client.endpoint.timeout
        (Network.clock recorded).1) :
    (∃ link later,
        client.connect recorded =
            (.returned (.ok ()), { client with link? := some link }, later) ∧
          later.record =
            recorded.record ++ [.opened link.connection.id]) ∨
      ∃ cause later,
        client.connect recorded =
            (.returned (.error (.connection client.endpoint.address cause)),
              client, later) ∧
          later.record = recorded.record := by
  rcases Link.establish_of_not_isBeyond within with ⟨deadline, established⟩
  simp only [connect, unlinked, established]
  rcases record_dial client.endpoint deadline (Network.clock recorded).2 with
    ⟨connection, later, dialled, noted⟩ | ⟨cause, later, dialled, noted⟩
  · rw [dialled]
    exact .inl ⟨_, _, rfl, noted⟩
  · rw [dialled]
    exact .inr ⟨_, _, rfl, noted⟩

theorem Accounted.connect (accounted : client.Accounted recorded) :
    (client.connect recorded).2.1.Accounted
      (client.connect recorded).2.2 := by
  cases linked : client.link? with
  | some link =>
      rw [connect_of_connected linked]
      exact accounted
  | none =>
      by_cases beyond :
          Deadline.IsBeyond client.endpoint.timeout
            (Network.clock recorded).1
      · rw [connect_of_isBeyond linked beyond]
        exact accounted
      · rw [Accounted, held?, linked] at accounted
        rcases record_connect linked recorded beyond with
          ⟨link, later, connected, noted⟩ | ⟨cause, later, failed, noted⟩
        · rw [connected, Accounted, noted]
          exact .opened link.connection.id accounted
        · rw [failed, Accounted, noted, held?, linked]
          exact accounted

/-! ## Giving a connection up -/

theorem Accounted.disconnect (accounted : client.Accounted recorded) :
    (client.disconnect recorded).1.Accounted
      (client.disconnect recorded).2 := by
  rw [Client.disconnect]
  cases linked : client.link? with
  | none => exact accounted
  | some link =>
      rw [Accounted, held?, linked] at accounted
      exact .closed accounted

/-- A client that has disconnected has no link. -/
@[simp]
theorem link?_disconnect (client : Client) (network : ν) :
    (client.disconnect network).1.link? = none := by
  rw [disconnect]
  cases linked : client.link? with
  | none => exact linked
  | some link => rfl

/-! ## Steps -/

/-- A request goes to the connection that the client has, and one that is not
answered ends it. -/
theorem Accounted.send
    (accounted : client.Accounted recorded) (request : Request) :
    (client.send request recorded).2.1.Accounted
      (client.send request recorded).2.2 := by
  cases linked : client.link? with
  | none =>
      rw [send_of_not_connected linked]
      exact accounted
  | some link =>
      rw [Accounted, held?, linked] at accounted
      have submitted :
          Happening.Lifecycle (link.submit request recorded).2.2.record
            (some link.connection.id) :=
        .heard (link.taken request) accounted
      by_cases answered : ∃ reply, link.Answers request reply recorded
      · rcases answered with ⟨reply, answers⟩
        rcases send_of_answers linked answers with ⟨rest, sent, -⟩
        rw [sent]
        exact submitted
      · rcases send_of_not_answers linked
            (fun reply answers => answered ⟨reply, answers⟩) with
          ⟨failure, sent, -⟩
        rw [sent]
        exact .closed submitted

/-- Every step keeps the record of a client, however it ends. -/
theorem Accounted.run
    (accounted : client.Accounted recorded) (step : Step) :
    (step.run client recorded).2.1.Accounted
      (step.run client recorded).2.2 := by
  cases step with
  | connect => exact accounted.connect
  | disconnect => exact accounted.disconnect
  | call asked =>
      rw [Step.run_of_request rfl]
      exact accounted.send asked.request
  | send request =>
      rw [Step.run_of_request rfl]
      exact accounted.send request
  | abort => exact accounted

end Client

end BlockWire
