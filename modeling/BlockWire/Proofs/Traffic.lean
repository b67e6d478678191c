import BlockWire.Network.Scripted
import BlockWire.Proofs.Exchange
import BlockWire.Server.Serve
import Mathlib.Logic.Function.Basic

/-!
# Clients and a server side by side

Any number of clients use one memory server at once, each over the connections
that it opens.  Every connection is served on its own, and all of them work on
one store.

A system is the state of all of this, and events are what can happen next to
it: a client connects, disconnects, issues a command or reads the reply to the
one that it waits for; the network brings some of the bytes under way to one
of the two ends, or has a reader meet a fault or an end of data; the server
reads a request from a connection, handles it, or writes its reply.  The
events come in any order.  How much of a write is taken is settled when a
connection comes about.  A reader that reads while its bytes are missing runs
out of time, so that every stall and every cut at every byte is some sequence
of events.

Clients act here as they do on any network, and the server reads, handles and
writes as it does when it serves a stream.  Only the pauses between their
actions are new.
-/

namespace BlockWire

/-! ## Exchanges in two halves -/

namespace Client

variable {ν : Type} [Network ν]

/-- Write a request.  Without a link nothing is written; a request that cannot
be written in full ends the link. -/
def submit (request : Request) (client : Client) (network : ν) :
    Except Failure Unit × Client × ν :=
  match client.link? with
  | none => (.error .notConnected, client, network)
  | some link =>
      match link.submit request network with
      | (.ok (), link, network) =>
          (.ok (), { client with link? := some link }, network)
      | (.error failure, link, network) =>
          let (client, network) :=
            disconnect { client with link? := some link } network
          (.error failure, client, network)

/-- Read the reply to a request that was written.  Without a whole reply the
link ends. -/
def collect (client : Client) (network : ν) :
    Except Failure Reply × Client × ν :=
  match client.link? with
  | none => (.error .notConnected, client, network)
  | some link =>
      match link.collect with
      | (.ok reply, link) =>
          (.ok reply, { client with link? := some link }, network)
      | (.error failure, link) =>
          let (client, network) :=
            disconnect { client with link? := some link } network
          (.error failure, client, network)

/-- Sending a request is writing it and reading its reply at once. -/
theorem send_eq_submit_collect
    (request : Request) (client : Client) (network : ν) :
    client.send request network =
      match client.submit request network with
      | (.ok (), client, network) => client.collect network
      | (.error failure, client, network) =>
          (.error failure, client, network) := by
  cases linked : client.link? with
  | none => simp only [send, submit, linked]
  | some link =>
      simp only [send, submit, linked, Link.roundTrip]
      rcases link.submit request network with ⟨_ | _, after, later⟩
      · rfl
      · simp only [collect]
        rcases after.collect with ⟨_ | _, last⟩ <;> rfl

end Client

/-! ## Lines -/

/-- The number of a client among those that use a server. -/
abbrev ClientId := Nat

/-- How far the server has come on a connection. -/
inductive Stage where
  | reading
  /-- A request was read and is to be handled. -/
  | holding (request : Request)
  /-- A request was handled and its reply is to be written. -/
  | answering (reply : Reply)
  | closed
  deriving DecidableEq, Repr

/-- Something other than bytes that a reader meets. -/
inductive Hindrance where
  | fault (fault : TransportFault)
  | endOfData
  deriving DecidableEq, Repr

/-- A hindrance as its reader meets it. -/
def Hindrance.arrival : Hindrance → Arrival
  | .fault met => .fault met
  | .endOfData => .endOfData

/-- A connection with the server's end of it.  The client's end is the link
that the client holds. -/
structure Line where
  /-- Who opened the connection. -/
  caller : ClientId := 0
  /-- What the client wrote and the server's end did not receive yet. -/
  toServer : Bytes := []
  /-- What the server wrote and the client's end did not receive yet. -/
  toClient : Bytes := []
  source : Source := ⟨[], .stalled⟩
  sink : Sink := {}
  stage : Stage := .closed
  /-- Whether the client has hung up. -/
  left : Bool := false
  deriving DecidableEq, Repr

/-- A stream on which one thing more arrives. -/
def Source.meet (arrival : Arrival) (source : Source) : Source :=
  source.extend { arrivals := [arrival] }

namespace Line

/-- Some of the bytes under way reach the server. -/
def forward (count : Nat) (line : Line) : Line :=
  { line with
    toServer := line.toServer.drop count
    source := line.source.meet (.data (line.toServer.take count)) }

/-- The server's reader is to meet a hindrance. -/
def hinder (hindrance : Hindrance) (line : Line) : Line :=
  { line with source := line.source.meet hindrance.arrival }

/-- The server reads a request, or closes its end. -/
def take (line : Line) : Line :=
  match line.stage with
  | .reading =>
      match Frame.read requestLimit line.source with
      | (.ok request, rest) =>
          { line with source := rest, stage := .holding request }
      | (.error _, rest) => { line with source := rest, stage := .closed }
  | _ => line

/-- The server has handled a request and has its reply. -/
def respond (reply : Reply) (line : Line) : Line :=
  { line with stage := .answering reply }

/-- The server writes a reply, and closes its end if that fails. -/
def answer (line : Line) : Line :=
  match line.stage with
  | .answering reply =>
      { line with
        toClient := line.toClient ++ reply.taken line.sink
        sink := (reply.write line.sink).2
        stage :=
          match (reply.write line.sink).1 with
          | .ok () => .reading
          | .error _ => .closed }
  | _ => line

theorem caller_take (line : Line) : line.take.caller = line.caller := by
  unfold take
  split
  · split <;> rfl
  · rfl

/-- Reading changes neither what the server writes nor what the client
does. -/
theorem sink_left_take (line : Line) :
    line.take.sink = line.sink ∧ line.take.left = line.left := by
  unfold take
  split
  · split <;> exact ⟨rfl, rfl⟩
  · exact ⟨rfl, rfl⟩

theorem take_of_read
    {line : Line} {request : Request} {rest : Source}
    (reading : line.stage = .reading)
    (isRead : Frame.read requestLimit line.source = (.ok request, rest)) :
    line.take =
      { line with source := rest, stage := .holding request } := by
  simp only [take, reading, isRead]

theorem take_of_not_reading
    {line : Line} (notReading : line.stage ≠ .reading) :
    line.take = line := by
  unfold take
  split
  · contradiction
  · rfl

theorem caller_respond (reply : Reply) (line : Line) :
    (line.respond reply).caller = line.caller := rfl

theorem take_of_closed {line : Line} (closed : line.stage = .closed) :
    line.take = line :=
  take_of_not_reading (by simp [closed])

theorem answer_of_write
    {line : Line} {reply : Reply}
    (answering : line.stage = .answering reply)
    (written : (reply.write line.sink).1 = .ok ()) :
    line.answer =
      { line with
        toClient := line.toClient ++ reply.bytes
        sink := (reply.write line.sink).2
        stage := .reading } := by
  simp only [answer, answering, written, Frame.taken_of_write written]

theorem answer_of_not_answering
    {line : Line} (notAnswering : ∀ reply, line.stage ≠ .answering reply) :
    line.answer = line := by
  unfold answer
  split
  · rename_i reply answering
    exact absurd answering (notAnswering reply)
  · rfl

theorem answer_of_closed {line : Line} (closed : line.stage = .closed) :
    line.answer = line :=
  answer_of_not_answering (by simp [closed])

theorem caller_answer (line : Line) :
    line.answer.caller = line.caller := by
  unfold answer
  split <;> rfl

end Line

/-! ## The network between them -/

/-- What a client meets that dials: what the clock shows, what stands in the
way, and how the writes of both ends are taken. -/
structure Conditions where
  clock : Clock := {}
  obstacle? : Option TransportFault := none
  clientSink : Sink := {}
  serverSink : Sink := {}
  deriving DecidableEq, Repr

/-- The network that all clients share. -/
structure Wire where
  conditions : Conditions := {}
  /-- Who acts on the network. -/
  caller : ClientId := 0
  opened : Nat := 0
  line : ConnectionId → Line := fun _ => {}

namespace Wire

/-- Change a line. -/
def change (id : ConnectionId) (change : Line → Line) (wire : Wire) :
    Wire :=
  { wire with line := Function.update wire.line id (change (wire.line id)) }

@[simp]
theorem opened_change
    (id : ConnectionId) (change : Line → Line) (wire : Wire) :
    (wire.change id change).opened = wire.opened := rfl

@[simp]
theorem line_change_self
    (id : ConnectionId) (change : Line → Line) (wire : Wire) :
    (wire.change id change).line id = change (wire.line id) :=
  Function.update_self ..

theorem line_change_of_ne
    {id other : ConnectionId} (different : other ≠ id)
    (change : Line → Line) (wire : Wire) :
    (wire.change id change).line other = wire.line other :=
  Function.update_of_ne different ..

@[simp]
theorem change_change
    (id : ConnectionId) (first second : Line → Line) (wire : Wire) :
    (wire.change id first).change id second =
      wire.change id (second ∘ first) := by
  simp only [change, Function.update_self, Function.update_idem,
    Function.comp_apply]

/-- The line of a connection that comes about. -/
def newLine (wire : Wire) : Line where
  caller := wire.caller
  sink := wire.conditions.serverSink
  stage := .reading

instance : Network Wire where
  clock wire :=
    (wire.conditions.clock.reading,
      { wire with
        conditions :=
          { wire.conditions with clock := wire.conditions.clock.next } })
  dial host port _ wire :=
    match wire.conditions.obstacle? with
    | some fault => (.error fault, wire)
    | none =>
        (.ok
          { id := wire.opened
            peer := s!"{host}:{port}"
            incoming := ⟨[], .stalled⟩
            outgoing := wire.conditions.clientSink },
          { wire.change wire.opened fun _ => wire.newLine with
            opened := wire.opened + 1 })
  hear id bytes wire :=
    ({}, wire.change id fun line =>
      { line with toServer := line.toServer ++ bytes })
  hangUp id wire := wire.change id ({ · with left := true })

end Wire

/-! ## The clients -/

/-- A step that sends a request. -/
structure Command where
  step : Client.Step
  request : Request
  isCommand : step.request? = some request

/-- A command that has ended. -/
structure Attempt where
  command : Command
  /-- The connection that the client had when it issued the command. -/
  via? : Option ConnectionId
  /-- The reply to the request, or why there is none. -/
  answer : Except Failure Reply

/-- What a command ended with. -/
def Attempt.ending (attempt : Attempt) : Except Failure Client.Finding :=
  attempt.answer.bind fun reply => attempt.command.step.outcome reply

/-- A client with what it has done so far. -/
structure Party where
  client : Client
  /-- The command whose reply the client waits for. -/
  awaited? : Option Command := none
  /-- The commands that have ended, oldest first. -/
  history : List Attempt := []

namespace Party

/-- The connection of the client. -/
def via? (party : Party) : Option ConnectionId :=
  party.client.link?.map (·.connection.id)

/-- Connect, unless a reply is awaited. -/
def connect (party : Party) (wire : Wire) : Party × Wire :=
  if party.awaited?.isSome then (party, wire)
  else
    let (_, client, wire) := party.client.connect wire
    ({ party with client := client }, wire)

/-- Disconnect, unless a reply is awaited. -/
def disconnect (party : Party) (wire : Wire) : Party × Wire :=
  if party.awaited?.isSome then (party, wire)
  else
    let (client, wire) := party.client.disconnect wire
    ({ party with client := client }, wire)

/-- Write the request of a command, unless a reply is awaited. -/
def issue (command : Command) (party : Party) (wire : Wire) :
    Party × Wire :=
  if party.awaited?.isSome then (party, wire)
  else
    match party.client.submit command.request wire with
    | (.ok (), client, wire) =>
        ({ party with client := client, awaited? := some command }, wire)
    | (.error failure, client, wire) =>
        ({ party with
            client := client
            history :=
              party.history ++ [⟨command, party.via?, .error failure⟩] },
          wire)

/-- Read the reply that is awaited. -/
def conclude (party : Party) (wire : Wire) : Party × Wire :=
  match party.awaited? with
  | none => (party, wire)
  | some command =>
      let (answer, client, wire) := party.client.collect wire
      ({ client := client
         awaited? := none
         history := party.history ++ [⟨command, party.via?, answer⟩] },
        wire)

/-- A reply that is read ends the command that awaits it. -/
theorem conclude_of_read
    {party : Party} {command : Command} {link : Link} {reply : Reply}
    {rest : Source}
    (awaiting : party.awaited? = some command)
    (linked : party.client.link? = some link)
    (isRead :
      Frame.read link.payloadLimit link.connection.incoming =
        (.ok reply, rest))
    (wire : Wire) :
    party.conclude wire =
      ({ client :=
          { party.client with
            link? := some
              { link with
                connection := { link.connection with incoming := rest } } }
         awaited? := none
         history :=
           party.history ++ [⟨command, some link.connection.id, .ok reply⟩] },
        wire) := by
  simp only [conclude, awaiting, Client.collect, linked, Link.collect, isRead,
    mapError_ok, via?, Option.map_some]

/-- The client's reader is to meet an arrival. -/
def meet (arrival : Arrival) (party : Party) : Party :=
  { party with
    client :=
      { party.client with
        link? := party.client.link?.map fun link =>
          { link with
            connection :=
              { link.connection with
                incoming := link.connection.incoming.meet arrival } } } }

/-- Some of the bytes under way reach the client. -/
def deliver (count : Nat) (party : Party) (wire : Wire) : Party × Wire :=
  match party.via? with
  | none => (party, wire)
  | some id =>
      (party.meet (.data ((wire.line id).toClient.take count)),
        wire.change id fun line =>
          { line with toClient := line.toClient.drop count })

end Party

/-! ## The whole -/

/-- A request that the server handled, and its reply. -/
structure Handling where
  /-- The connection that the request came on. -/
  line : ConnectionId
  request : Request
  reply : Reply
  deriving DecidableEq, Repr

/-- All clients, the connections, and the store of the server. -/
structure System where
  wire : Wire := {}
  party : ClientId → Party
  store : Store := .empty
  /-- What the server handled, oldest first. -/
  log : List Handling := []

/-- What can happen next. -/
inductive Event where
  | connect (client : ClientId) (conditions : Conditions)
  | disconnect (client : ClientId)
  | issue (client : ClientId) (command : Command)
  | conclude (client : ClientId)
  | deliver (client : ClientId) (count : Nat)
  | disturb (client : ClientId) (hindrance : Hindrance)
  | forward (line : ConnectionId) (count : Nat)
  | hinder (line : ConnectionId) (hindrance : Hindrance)
  | take (line : ConnectionId)
  | handle (line : ConnectionId)
  | answer (line : ConnectionId)

namespace System

/-- Clients of some endpoints, none of them connected, and an empty store. -/
def start (endpoint : ClientId → Endpoint) : System where
  party client := { client := .ofEndpoint (endpoint client) }

/-- Let a client act on the network. -/
def engage (client : ClientId) (act : Party → Wire → Party × Wire)
    (system : System) : System :=
  let (party, wire) :=
    act (system.party client) { system.wire with caller := client }
  { system with
    wire := wire
    party := Function.update system.party client party }

theorem party_engage
    (client : ClientId) (act : Party → Wire → Party × Wire)
    (system : System) :
    (system.engage client act).party client =
      (act (system.party client) { system.wire with caller := client }).1 :=
  Function.update_self ..

/-- The server handles the request that it holds on a connection. -/
def handle (id : ConnectionId) (system : System) : System :=
  match (system.wire.line id).stage with
  | .holding request =>
      { system with
        wire :=
          system.wire.change id (.respond (system.store.handle request).1)
        store := (system.store.handle request).2
        log :=
          system.log ++ [⟨id, request, (system.store.handle request).1⟩] }
  | _ => system

theorem handle_of_holding
    {id : ConnectionId} {system : System} {request : Request}
    (holding : (system.wire.line id).stage = .holding request) :
    system.handle id =
      { system with
        wire :=
          system.wire.change id (.respond (system.store.handle request).1)
        store := (system.store.handle request).2
        log :=
          system.log ++
            [⟨id, request, (system.store.handle request).1⟩] } := by
  simp only [handle, holding]

/-- Let something happen.  What is not possible at present changes nothing. -/
def step (system : System) : Event → System
  | .connect client conditions =>
      { system with
        wire := { system.wire with conditions := conditions } }.engage
          client Party.connect
  | .disconnect client => system.engage client Party.disconnect
  | .issue client command => system.engage client (Party.issue command)
  | .conclude client => system.engage client Party.conclude
  | .deliver client count => system.engage client (Party.deliver count)
  | .disturb client hindrance =>
      system.engage client fun party wire =>
        (party.meet hindrance.arrival, wire)
  | .forward id count =>
      { system with wire := system.wire.change id (.forward count) }
  | .hinder id hindrance =>
      { system with wire := system.wire.change id (.hinder hindrance) }
  | .take id => { system with wire := system.wire.change id .take }
  | .handle id => system.handle id
  | .answer id => { system with wire := system.wire.change id .answer }

/-- Let some things happen, one after the other. -/
def run (system : System) (events : List Event) : System :=
  events.foldl step system

@[simp]
theorem run_append (system : System) (events later : List Event) :
    system.run (events ++ later) = (system.run events).run later :=
  List.foldl_append

end System

end BlockWire
