import BlockWire.Proofs.Lane
import BlockWire.Proofs.Traffic

/-!
# Passages

A passage is everything that there is to know about one connection: its line,
the link of its client as long as the client holds it, the commands that were
issued over it, and what the server handled on it.

An event changes at most one passage, and in one of few ways.  They are listed
here once, with what each of them takes for granted if nothing goes wrong.
What holds on every connection then only has to be shown of one passage and
each of these ways.
-/

namespace BlockWire

/-! ## Nothing goes wrong -/

/-- A reader need not wait any longer: there is a frame, or something that is
none, or a stop. -/
def Source.Settled (κ : Type) [Coded κ] (limit : Nat) (source : Source) :
    Prop :=
  source.fromStop ≠ [] ∨
    ∀ fault, Frame.decode (κ := κ) limit source.ready = .error fault →
      fault.received? = none

/-- All writes to a stream succeed. -/
structure Sink.IsWilling (sink : Sink) : Prop where
  takes : ∀ answer ∈ sink.answers,
    (∃ count, answer = .takes (count + 1)) ∨
      ∃ fault, answer = .fails fault ∧ fault.kind = .interrupted
  flushes : ∀ fault? ∈ sink.flushes, fault? = none

/-- A reply that its client takes and that has an encoding. -/
def Reply.IsWithin (limit : Nat) (reply : Reply) : Prop :=
  reply.payload.length ≤ limit ∧ reply.payload.length ≤ largestPayload

/--
Nothing goes wrong when an event happens: streams take what is written to
them, readers wait until they need not wait any longer, the end of the data
comes only behind all data of a client that has hung up, and requests and
replies are within the limits of those who read them.
-/
def System.Calm (system : System) : Event → Prop
  | .connect _ conditions =>
      conditions.clientSink.IsWilling ∧ conditions.serverSink.IsWilling
  | .disconnect _ => True
  | .issue _ command => command.request.payload.length ≤ requestLimit
  | .conclude client =>
      (system.party client).awaited?.isSome = true →
        ∀ link, (system.party client).client.link? = some link →
          link.connection.incoming.Settled Status link.payloadLimit
  | .deliver _ _ => True
  | .disturb _ hindrance => hindrance.arrival.passes = true
  | .forward _ _ => True
  | .hinder id hindrance =>
      hindrance.arrival.passes = true ∨
        hindrance = .endOfData ∧ (system.wire.line id).left = true ∧
          (system.wire.line id).toServer = []
  | .take id =>
      (system.wire.line id).stage = .reading →
        (system.wire.line id).source.Settled Operation requestLimit
  | .handle id =>
      ∀ request, (system.wire.line id).stage = .holding request →
        (system.store.handle request).1.IsWithin
          (system.party (system.wire.line id).caller).client.endpoint.payloadLimit
  | .answer _ => True

/-- Nothing goes wrong in a run. -/
def System.CalmThroughout (system : System) : List Event → Prop
  | [] => True
  | event :: events =>
      system.Calm event ∧ (system.step event).CalmThroughout events

/-! ## One connection -/

/-- What there is to know about a connection. -/
structure Passage where
  id : ConnectionId
  line : Line
  /-- The greatest payload of a reply that the client takes. -/
  limit : Nat
  /-- The client's end, unless the client has hung up. -/
  link? : Option Link
  /-- The command whose reply is awaited on the connection. -/
  awaited? : Option Command
  /-- The commands issued over the connection that have ended. -/
  attempts : List Attempt
  /-- What was handled on the connection. -/
  handled : List Handling

namespace Passage

/-- The ways in which a passage changes, and what is taken for granted of
them if nothing goes wrong. -/
inductive Moves (calm : Prop) (passage : Passage) : Passage → Prop where
  /-- The request of a command is written in full. -/
  | submit
      (link : Link) (command : Command)
      (linked : passage.link? = some link)
      (idle : passage.awaited? = none)
      (written :
        (command.request.write link.connection.outgoing).1 = .ok ())
      (calmly : calm →
        command.request.payload.length ≤ requestLimit) :
      Moves calm passage
        { passage with
          line :=
            { passage.line with
              toServer :=
                passage.line.toServer ++
                  command.request.taken link.connection.outgoing }
          link? := some
            { link with
              connection :=
                { link.connection with
                  outgoing :=
                    (command.request.write link.connection.outgoing).2 } }
          awaited? := some command }
  /-- The request of a command is not written in full. -/
  | cut
      (link : Link) (command : Command) (failure : Failure)
      (linked : passage.link? = some link)
      (idle : passage.awaited? = none)
      (unwritten :
        (command.request.write link.connection.outgoing).1 ≠ .ok ())
      (fatal : failure.isSessionFatal = true)
      (calmly : calm →
        command.request.payload.length ≤ requestLimit) :
      Moves calm passage
        { passage with
          line :=
            { passage.line with
              toServer :=
                passage.line.toServer ++
                  command.request.taken link.connection.outgoing
              left := true }
          link? := none
          attempts :=
            passage.attempts ++
              [⟨command, some passage.id, .error failure⟩] }
  /-- The reply that is awaited is read. -/
  | collect
      (link : Link) (command : Command) (reply : Reply) (rest : Source)
      (linked : passage.link? = some link)
      (awaiting : passage.awaited? = some command)
      (isRead :
        Frame.read link.payloadLimit link.connection.incoming =
          (.ok reply, rest)) :
      Moves calm passage
        { passage with
          link? := some
            { link with
              connection := { link.connection with incoming := rest } }
          awaited? := none
          attempts :=
            passage.attempts ++
              [⟨command, some passage.id, .ok reply⟩] }
  /-- The reply that is awaited cannot be read. -/
  | lose
      (link : Link) (command : Command) (failure : Failure)
      (cause : Failure) (rest : Source)
      (linked : passage.link? = some link)
      (awaiting : passage.awaited? = some command)
      (unread :
        Frame.read (κ := Status) link.payloadLimit
          link.connection.incoming = (.error cause, rest))
      (fatal : failure.isSessionFatal = true)
      (calmly : calm →
        link.connection.incoming.Settled Status link.payloadLimit) :
      Moves calm passage
        { passage with
          line := { passage.line with left := true }
          link? := none
          awaited? := none
          attempts :=
            passage.attempts ++
              [⟨command, some passage.id, .error failure⟩] }
  /-- The client hangs up. -/
  | hangUp
      (link : Link)
      (linked : passage.link? = some link)
      (idle : passage.awaited? = none) :
      Moves calm passage
        { passage with
          line := { passage.line with left := true }
          link? := none }
  /-- Some bytes reach the client. -/
  | deliver
      (link : Link) (count : Nat)
      (linked : passage.link? = some link) :
      Moves calm passage
        { passage with
          line :=
            { passage.line with
              toClient := passage.line.toClient.drop count }
          link? := some
            { link with
              connection :=
                { link.connection with
                  incoming :=
                    link.connection.incoming.meet
                      (.data (passage.line.toClient.take count)) } } }
  /-- The client's reader is to meet a hindrance. -/
  | disturb
      (link : Link) (hindrance : Hindrance)
      (linked : passage.link? = some link)
      (calmly : calm → hindrance.arrival.passes = true) :
      Moves calm passage
        { passage with
          link? := some
            { link with
              connection :=
                { link.connection with
                  incoming :=
                    link.connection.incoming.meet hindrance.arrival } } }
  /-- Some bytes reach the server. -/
  | forward (count : Nat) :
      Moves calm passage { passage with line := passage.line.forward count }
  /-- The server's reader is to meet a hindrance. -/
  | hinder
      (hindrance : Hindrance)
      (calmly : calm →
        hindrance.arrival.passes = true ∨
          hindrance = .endOfData ∧ passage.line.left = true ∧
            passage.line.toServer = []) :
      Moves calm passage
        { passage with line := passage.line.hinder hindrance }
  /-- The server reads. -/
  | take
      (calmly : calm → passage.line.stage = .reading →
        passage.line.source.Settled Operation requestLimit) :
      Moves calm passage { passage with line := passage.line.take }
  /-- The server handles a request. -/
  | handle
      (request : Request) (reply : Reply)
      (holding : passage.line.stage = .holding request)
      (calmly : calm → reply.IsWithin passage.limit) :
      Moves calm passage
        { passage with
          line := passage.line.respond reply
          handled := passage.handled ++ [⟨passage.id, request, reply⟩] }
  /-- The server writes. -/
  | answer :
      Moves calm passage { passage with line := passage.line.answer }

end Passage

end BlockWire
