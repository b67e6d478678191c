import BlockWire.Proofs.Acting

/-!
# Without pauses

What happens in a system without a pause is what the parties do on their own.
A client that issues a command and at once reads the reply makes the step of
the command.  A server that reads, handles and writes as long as it can serves
the stream of the connection.
-/

namespace BlockWire

/-! ## Clients -/

/-- A request that was written leaves the client on the same connection. -/
theorem Client.link_of_submit
    {request : Request} {client after : Client} {wire later : Wire}
    (submitted : client.submit request wire = (.ok (), after, later)) :
    after.link?.map (·.connection.id) =
      client.link?.map (·.connection.id) := by
  unfold submit at submitted
  cases linked : client.link? with
  | none =>
      rw [linked] at submitted
      cases submitted
  | some link =>
      simp only [linked, Link.submit_wire] at submitted
      cases written : (request.write link.connection.outgoing).1 with
      | ok done =>
          simp only [written, mapError_ok] at submitted
          cases submitted
          rfl
      | error failure =>
          simp only [written, mapError_error] at submitted
          cases submitted

/-- A command that is issued and concluded at once ends as its step does, and
leaves the client and the network as the step does. -/
theorem Party.conclude_issue
    {party : Party} (idle : party.awaited? = none) (command : Command)
    (wire : Wire) :
    ∃ attempt client later,
      command.step.run party.client wire =
          (.returned attempt.ending, client, later) ∧
        attempt.command = command ∧ attempt.via? = party.via? ∧
        (party.issue command wire).1.conclude (party.issue command wire).2 =
          ({ client := client
             awaited? := none
             history := party.history ++ [attempt] }, later) := by
  rw [Client.Step.run_of_request command.isCommand,
    Client.send_eq_submit_collect]
  have notAwaiting : ¬ party.awaited?.isSome = true := by simp [idle]
  match submitted : party.client.submit command.request wire with
  | (.error failure, client, later) =>
      refine ⟨⟨command, party.via?, .error failure⟩, client, later, rfl, rfl,
        rfl, ?_⟩
      have issued : party.issue command wire =
          ({ party with
              client := client
              history :=
                party.history ++ [⟨command, party.via?, .error failure⟩] },
            later) := by
        rw [issue, if_neg notAwaiting, submitted]
      rw [issued]
      simp only [conclude, idle]
  | (.ok (), client, later) =>
      refine ⟨⟨command, party.via?, (client.collect later).1⟩,
        (client.collect later).2.1, (client.collect later).2.2, rfl, rfl, rfl,
        ?_⟩
      have same := Client.link_of_submit submitted
      have issued : party.issue command wire =
          ({ party with client := client, awaited? := some command },
            later) := by
        rw [issue, if_neg notAwaiting, submitted]
      rw [issued]
      simp only [conclude, via?, same]

/-! ## The server -/

namespace System

/-- The server reads a request, handles it, and writes the reply. -/
def serving (id : ConnectionId) : List Event :=
  [.take id, .handle id, .answer id]

variable {system : System} {id : ConnectionId}

/-- If no request can be read the connection is closed. -/
theorem run_serving_of_unread
    {failure : Failure} {rest : Source}
    (reading : (system.wire.line id).stage = .reading)
    (unread : (Frame.read requestLimit (system.wire.line id).source :
      Except Failure Request × Source) = (.error failure, rest)) :
    let later := system.run (serving id)
    later.wire.line id =
        { system.wire.line id with source := rest, stage := .closed } ∧
      later.store = system.store ∧ later.log = system.log := by
  intro later
  let taken := system.step (.take id)
  have takenLine : taken.wire.line id =
      { system.wire.line id with source := rest, stage := .closed } := by
    refine (Wire.line_change_self ..).trans ?_
    simp only [Line.take, reading, unread]
  have closed : (taken.wire.line id).stage = .closed := by rw [takenLine]
  have unhandled : taken.handle id = taken := by
    simp only [handle, closed]
  have isTaken : later = (taken.handle id).step (.answer id) := rfl
  rw [unhandled] at isTaken
  refine ⟨?_, by rw [isTaken]; rfl, by rw [isTaken]; rfl⟩
  rw [isTaken, ← takenLine]
  exact (Wire.line_change_self ..).trans (Line.answer_of_closed closed)

/-- A request that is read is handled, and the server goes on if its reply is
written. -/
theorem run_serving_of_read
    {request : Request} {rest : Source}
    (reading : (system.wire.line id).stage = .reading)
    (isRead : Frame.read requestLimit (system.wire.line id).source =
      (.ok request, rest)) :
    let reply := (system.store.handle request).1
    let written := reply.write (system.wire.line id).sink
    let later := system.run (serving id)
    later.wire.line id =
        { system.wire.line id with
          toClient :=
            (system.wire.line id).toClient ++
              reply.taken (system.wire.line id).sink
          source := rest
          sink := written.2
          stage :=
            match written.1 with
            | .ok () => .reading
            | .error _ => .closed } ∧
      later.store = (system.store.handle request).2 ∧
      later.log = system.log ++ [⟨id, request, reply⟩] := by
  intro reply written later
  let taken := system.step (.take id)
  have takenLine : taken.wire.line id =
      { system.wire.line id with
        source := rest
        stage := .holding request } := by
    rw [← Line.take_of_read reading isRead]
    exact Wire.line_change_self ..
  have holding : (taken.wire.line id).stage = .holding request := by
    rw [takenLine]
  have isHandled : later = (taken.handle id).step (.answer id) := rfl
  rw [handle_of_holding holding] at isHandled
  refine ⟨?_, by rw [isHandled]; rfl, by rw [isHandled]; rfl⟩
  rw [isHandled]
  refine (Wire.line_change_self ..).trans ?_
  simp only [Wire.line_change_self, takenLine]
  rfl

/-- A server that goes on as long as it can serves the stream of the
connection. -/
theorem run_serving_eq_serve
    (reading : (system.wire.line id).stage = .reading) :
    ∃ rounds,
      let later := system.run (List.replicate rounds (serving id)).flatten
      let served := serve system.store (system.wire.line id).source
        (system.wire.line id).sink
      (later.wire.line id).stage = .closed ∧
        (later.wire.line id).source = served.source ∧
        (later.wire.line id).sink = served.sink ∧
        later.store = served.store ∧
        later.log.map (·.request) =
          system.log.map (·.request) ++ served.handled := by
  generalize isStore : system.store = store
  generalize isSource : (system.wire.line id).source = source
  generalize isSink : (system.wire.line id).sink = sink
  fun_induction serve store source sink generalizing system with
  | case1 store source sink failure rest unread =>
      subst isStore isSource isSink
      rcases run_serving_of_unread reading unread with ⟨line, store, log⟩
      refine ⟨1, ?_⟩
      simp only [List.replicate_one, List.flatten_singleton, line, store, log,
        List.append_nil, and_self]
  | case2 store source sink request rest isRead reply next handled failure
      after unwritten =>
      subst isStore isSource isSink
      rcases run_serving_of_read reading isRead with ⟨line, store, log⟩
      simp only [handled, unwritten] at line store log
      refine ⟨1, ?_⟩
      simp only [List.replicate_one, List.flatten_singleton, line, store, log,
        List.map_append, List.map_cons, List.map_nil, and_self]
  | case3 store source sink request rest isRead reply next handled after
      written induction =>
      subst isStore isSource isSink
      rcases run_serving_of_read reading isRead with ⟨line, store, log⟩
      simp only [handled, written] at line store log
      rcases @induction (system.run (serving id)) (by rw [line]) store
          (by rw [line]) (by rw [line]) with
        ⟨rounds, closed, sources, sinks, stores, logs⟩
      refine ⟨rounds + 1, ?_⟩
      rw [List.replicate_succ, List.flatten_cons, run_append]
      refine ⟨closed, sources, sinks, stores, ?_⟩
      rw [logs, log, List.map_append, List.append_assoc]
      rfl

end System

end BlockWire
