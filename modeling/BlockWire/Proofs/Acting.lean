import BlockWire.Proofs.Passage

/-!
# What clients do on the network

A client that acts on the network gets a connection, has a command turned down
for want of one, or changes the passage of the connection that it has.  No
other connection is touched, and no other client.
-/

namespace BlockWire

theorem Frame.isSessionFatal_of_read
    {κ : Type} [Coded κ] {limit : Nat} {source rest : Source}
    {failure : Failure}
    (unread : read (κ := κ) limit source = (.error failure, rest)) :
    failure.isSessionFatal = true := by
  cases decoded : decode (κ := κ) limit source.ready with
  | ok frame =>
      rcases read_of_decode_ok decoded with ⟨left, isRead, -⟩
      rw [isRead] at unread
      cases unread
  | error fault =>
      rcases read_of_decode_error decoded with ⟨given, left, failed, fatal⟩
      rw [failed] at unread
      cases unread
      exact fatal

@[simp]
theorem Source.extend_nothing (source : Source) :
    source.extend {} = source := by
  simp [Source.extend]

namespace Client

/-- The link of a connection that comes about. -/
def newLink (client : Client) (peer : String) (wire : Wire) : Link where
  connection :=
    { id := wire.opened
      peer := peer
      incoming := ⟨[], .stalled⟩
      outgoing := wire.conditions.clientSink }
  payloadLimit := client.endpoint.payloadLimit

/-- A client without a link stays as it is, or a connection comes about. -/
theorem connect_wire
    {client : Client} (unlinked : client.link? = none) (wire : Wire) :
    (∃ ending later, client.connect wire = (ending, client, later) ∧
        later.line = wire.line ∧ later.opened = wire.opened) ∨
      ∃ peer later,
        client.connect wire =
            (.returned (.ok ()),
              { client with link? := some (client.newLink peer wire) },
              later) ∧
          later.line =
            Function.update wire.line wire.opened wire.newLine ∧
          later.opened = wire.opened + 1 := by
  simp only [connect, unlinked, Link.establish]
  cases Deadline.start client.endpoint.timeout (Network.clock wire).1 with
  | none => exact .inl ⟨_, _, rfl, rfl, rfl⟩
  | some deadline =>
      simp only [Link.dial]
      cases isMalformedHost client.endpoint.host with
      | true => exact .inl ⟨_, _, rfl, rfl, rfl⟩
      | false =>
          simp only [Bool.false_eq_true, if_false]
          cases deadline.patience
              (Network.clock (Network.clock wire).2).1 with
          | error fault => exact .inl ⟨_, _, rfl, rfl, rfl⟩
          | ok patience =>
              simp only [Network.dial, Network.clock]
              cases wire.conditions.obstacle? with
              | some fault => exact .inl ⟨_, _, rfl, rfl, rfl⟩
              | none => exact .inr ⟨_, _, rfl, rfl, rfl⟩

end Client

namespace Link

theorem submit_wire (request : Request) (link : Link) (wire : Wire) :
    link.submit request wire =
      ((request.write link.connection.outgoing).1.mapError link.classify,
        { link with
          connection :=
            { link.connection with
              outgoing := (request.write link.connection.outgoing).2 } },
        wire.change link.connection.id fun line =>
          { line with
            toServer :=
              line.toServer ++ request.taken link.connection.outgoing }) := by
  simp only [submit, Network.hear, Source.extend_nothing]
  rfl

end Link

namespace Party

/-- The passage of the connection that a client has. -/
def passage (id : ConnectionId) (line : Line) (handled : List Handling)
    (party : Party) : Passage where
  id := id
  line := line
  limit := party.client.endpoint.payloadLimit
  link? := party.client.link?
  awaited? := party.awaited?
  attempts := party.history.filter (·.via? = some id)
  handled := handled

/-- The ways in which a client acts on the network. -/
inductive Acts (calm : Prop) (party : Party) (wire : Wire) :
    Party → Wire → Prop where
  /-- Nothing comes of it. -/
  | rest
      (later : Wire) (line : later.line = wire.line)
      (opened : later.opened = wire.opened) :
      Acts calm party wire party later
  /-- A connection comes about. -/
  | opens
      (peer : String) (later : Wire)
      (unlinked : party.client.link? = none)
      (idle : party.awaited? = none)
      (calmly : calm →
        wire.conditions.clientSink.IsWilling ∧
          wire.conditions.serverSink.IsWilling)
      (line :
        later.line = Function.update wire.line wire.opened wire.newLine)
      (opened : later.opened = wire.opened + 1) :
      Acts calm party wire
        { party with
          client :=
            { party.client with
              link? := some (party.client.newLink peer wire) } }
        later
  /-- A command is not sent for want of a connection. -/
  | unsent
      (command : Command)
      (unlinked : party.client.link? = none) :
      Acts calm party wire
        { party with
          history :=
            party.history ++
              [⟨command, none, .error .notConnected⟩] } wire
  /-- Something happens on the connection of the client. -/
  | moves
      (link : Link) (later : Party) (new? : Option Attempt)
      (change : Line → Line)
      (linked : party.client.link? = some link)
      (endpoint : later.client.endpoint = party.client.endpoint)
      (same : ∀ other, later.client.link? = some other →
        other.connection.id = link.connection.id)
      (awaiting : later.client.link? = none → later.awaited? = none)
      (history : later.history = party.history ++ new?.toList)
      (via : ∀ attempt ∈ new?,
        attempt.via? = some link.connection.id)
      (caller : ∀ line, (change line).caller = line.caller)
      (move : ∀ handled,
        Passage.Moves calm
          (passage link.connection.id
            (wire.line link.connection.id) handled party)
          (passage link.connection.id
            (change (wire.line link.connection.id)) handled later)) :
      Acts calm party wire later (wire.change link.connection.id change)

variable {calm : Prop} {party : Party} {wire : Wire}

section

variable {link after : Link} {later : Party}
variable {change : Line → Line}

/-- Something happens on the connection of a client that keeps it. -/
theorem Acts.staying
    (new? : Option Attempt)
    (linked : party.client.link? = some link)
    (stays : later.client.link? = some after)
    (same : after.connection.id = link.connection.id)
    (endpoint : later.client.endpoint = party.client.endpoint)
    (history : later.history = party.history ++ new?.toList)
    (via : ∀ attempt ∈ new?, attempt.via? = some link.connection.id)
    (caller : ∀ line, (change line).caller = line.caller)
    (move : ∀ handled,
      Passage.Moves calm
        (passage link.connection.id
          (wire.line link.connection.id) handled party)
        (passage link.connection.id
          (change (wire.line link.connection.id)) handled later)) :
    Acts calm party wire later (wire.change link.connection.id change) := by
  refine .moves link later new? change linked endpoint ?_ ?_ history via
    caller move
  · intro other isLink
    rw [stays] at isLink
    cases isLink
    exact same
  · intro isNone
    rw [stays] at isNone
    cases isNone

/-- Something happens on the connection of a client that gives it up. -/
theorem Acts.leaving
    (new? : Option Attempt)
    (linked : party.client.link? = some link)
    (gone : later.client.link? = none)
    (idle : later.awaited? = none)
    (endpoint : later.client.endpoint = party.client.endpoint)
    (history : later.history = party.history ++ new?.toList)
    (via : ∀ attempt ∈ new?, attempt.via? = some link.connection.id)
    (caller : ∀ line, (change line).caller = line.caller)
    (move : ∀ handled,
      Passage.Moves calm
        (passage link.connection.id
          (wire.line link.connection.id) handled party)
        (passage link.connection.id
          (change (wire.line link.connection.id)) handled later)) :
    Acts calm party wire later (wire.change link.connection.id change) := by
  refine .moves link later new? change linked endpoint ?_ (fun _ => idle)
    history via caller move
  intro other isLink
  rw [gone] at isLink
  cases isLink

end

/-- A change that leaves the line as it is need not be spoken of. -/
theorem Acts.of_change_line
    {later : Party} {connection : ConnectionId}
    (acts : Acts calm party wire later
      (wire.change connection fun line => line)) :
    Acts calm party wire later wire := by
  have still : (wire.change connection fun line => line) = wire := by
    simp [Wire.change]
  rwa [still] at acts

theorem acts_connect
    (calmly : calm →
      wire.conditions.clientSink.IsWilling ∧
        wire.conditions.serverSink.IsWilling) :
    Acts calm party wire (party.connect wire).1 (party.connect wire).2 := by
  unfold connect
  split
  · exact .rest wire rfl rfl
  · rename_i notAwaiting
    have idle := Option.not_isSome_iff_eq_none.mp notAwaiting
    cases unlinked : party.client.link? with
    | some link =>
        simp only [Client.connect, unlinked]
        exact .rest wire rfl rfl
    | none =>
        rcases Client.connect_wire unlinked wire with
          ⟨ending, later, connected, line, opened⟩ |
            ⟨peer, later, connected, line, opened⟩
        · simp only [connected]
          exact .rest later line opened
        · simp only [connected]
          exact .opens peer later unlinked idle calmly line opened

theorem acts_disconnect :
    Acts calm party wire (party.disconnect wire).1
      (party.disconnect wire).2 := by
  unfold disconnect
  split
  · exact .rest wire rfl rfl
  · rename_i notAwaiting
    have idle := Option.not_isSome_iff_eq_none.mp notAwaiting
    cases linked : party.client.link? with
    | none =>
        simp only [Client.disconnect, linked]
        exact .rest wire rfl rfl
    | some link =>
        simp only [Client.disconnect, linked]
        exact .leaving none linked rfl idle rfl (List.append_nil _).symm
          (fun _ member => by cases member) (fun _ => rfl)
          (fun handled => .hangUp link linked idle)

/-- The request of a command is written, in full or not. -/
theorem acts_submit
    {command : Command} {link : Link}
    (linked : party.client.link? = some link)
    (idle : party.awaited? = none)
    (calmly : calm →
      command.request.payload.length ≤ requestLimit) :
    Acts calm party wire (party.issue command wire).1
      (party.issue command wire).2 := by
  have notAwaiting : ¬ party.awaited?.isSome = true := by simp [idle]
  simp only [issue, if_neg notAwaiting, Client.submit, linked,
    Link.submit_wire]
  cases written : (command.request.write link.connection.outgoing).1 with
  | ok done =>
      simp only [mapError_ok]
      exact .staying none linked rfl rfl rfl (List.append_nil _).symm
        (fun _ member => by cases member) (fun _ => rfl)
        (fun handled => .submit link command linked idle written calmly)
  | error failure =>
      simp only [mapError_error, Client.disconnect, via?, linked,
        Option.map_some, Network.hangUp, Wire.change_change]
      refine .leaving (some _) linked rfl idle rfl rfl ?_
        (fun _ => rfl) fun handled => ?_
      · rintro attempt ⟨rfl⟩
        rfl
      · have unwritten :
            (command.request.write link.connection.outgoing).1 ≠
              .ok () := by
          simp [written]
        have fatal := Link.isSessionFatal_classify link
          (Frame.isSessionFatal_of_write written)
        have move :
            Passage.Moves calm
              (passage link.connection.id (wire.line link.connection.id)
                handled party) _ :=
          .cut link command _ linked idle unwritten fatal calmly
        simpa [passage] using move

theorem acts_issue
    {command : Command}
    (calmly : calm →
      command.request.payload.length ≤ requestLimit) :
    Acts calm party wire (party.issue command wire).1
      (party.issue command wire).2 := by
  by_cases isAwaiting : party.awaited?.isSome = true
  · rw [issue, if_pos isAwaiting]
    exact .rest wire rfl rfl
  · have idle := Option.not_isSome_iff_eq_none.mp isAwaiting
    cases linked : party.client.link? with
    | none =>
        simp only [issue, if_neg isAwaiting, Client.submit, linked, via?]
        exact .unsent command linked
    | some link => exact acts_submit linked idle calmly

/-- The reply that is awaited is read, or cannot be read. -/
theorem acts_collect
    {command : Command} {link : Link}
    (linked : party.client.link? = some link)
    (awaiting : party.awaited? = some command)
    (calmly : calm →
      link.connection.incoming.Settled Status link.payloadLimit) :
    Acts calm party wire (party.conclude wire).1
      (party.conclude wire).2 := by
  rcases isRead : (Frame.read link.payloadLimit link.connection.incoming :
    Except Failure Reply × Source) with ⟨answer, rest⟩
  cases answer with
  | ok reply =>
      rw [conclude_of_read awaiting linked isRead]
      refine .of_change_line (.staying (some _) linked rfl rfl rfl
        rfl ?_ (fun _ => rfl) fun handled => ?_)
      · rintro attempt ⟨rfl⟩
        rfl
      · have move :
            Passage.Moves calm
              (passage link.connection.id (wire.line link.connection.id)
                handled party) _ :=
          .collect link command reply rest linked awaiting isRead
        simpa [passage] using move
  | error cause =>
      simp only [conclude, awaiting, Client.collect, linked, Link.collect,
        isRead, mapError_error, via?, Option.map_some, Client.disconnect,
        Network.hangUp]
      refine .leaving (some _) linked rfl rfl rfl rfl ?_
        (fun _ => rfl) fun handled => ?_
      · rintro attempt ⟨rfl⟩
        rfl
      · have fatal := Link.isSessionFatal_classify link
          (Frame.isSessionFatal_of_read isRead)
        have move :
            Passage.Moves calm
              (passage link.connection.id (wire.line link.connection.id)
                handled party) _ :=
          .lose link command _ cause rest linked awaiting isRead fatal calmly
        simpa [passage] using move

theorem acts_conclude
    (awaiting : party.client.link? = none → party.awaited? = none)
    (calmly : calm → party.awaited?.isSome = true →
      ∀ link, party.client.link? = some link →
        link.connection.incoming.Settled Status link.payloadLimit) :
    Acts calm party wire (party.conclude wire).1
      (party.conclude wire).2 := by
  cases awaited : party.awaited? with
  | none =>
      simp only [conclude, awaited]
      exact .rest wire rfl rfl
  | some command =>
      cases linked : party.client.link? with
      | none =>
          rw [awaiting linked] at awaited
          cases awaited
      | some link =>
          exact acts_collect linked awaited fun isCalm =>
            calmly isCalm (by rw [awaited]; rfl) link linked

theorem link_meet
    {link : Link} (linked : party.client.link? = some link)
    (arrival : Arrival) :
    (party.meet arrival).client.link? = some
      { link with
        connection :=
          { link.connection with
            incoming := link.connection.incoming.meet arrival } } := by
  rw [meet, linked, Option.map_some]

theorem acts_meet
    {hindrance : Hindrance}
    (calmly : calm → hindrance.arrival.passes = true) :
    Acts calm party wire (party.meet hindrance.arrival) wire := by
  cases linked : party.client.link? with
  | none =>
      have same : party.meet hindrance.arrival = party := by
        simp only [meet, linked]
        rw [Option.map_none, ← linked]
      rw [same]
      exact .rest wire rfl rfl
  | some link =>
      refine .of_change_line (.staying none linked (link_meet linked _) rfl rfl
        (List.append_nil _).symm (fun _ member => by cases member)
        (fun _ => rfl) fun handled => ?_)
      have move :
          Passage.Moves calm
            (passage link.connection.id (wire.line link.connection.id)
              handled party) _ :=
        .disturb link hindrance linked calmly
      simpa [passage, meet, linked] using move

theorem acts_deliver
    {count : Nat} :
    Acts calm party wire (party.deliver count wire).1
      (party.deliver count wire).2 := by
  cases linked : party.client.link? with
  | none =>
      simp only [deliver, via?, linked, Option.map_none]
      exact .rest wire rfl rfl
  | some link =>
      simp only [deliver, via?, linked, Option.map_some]
      refine .staying none linked (link_meet linked _) rfl rfl
        (List.append_nil _).symm (fun _ member => by cases member)
        (fun _ => rfl) fun handled => ?_
      have move :
          Passage.Moves calm
            (passage link.connection.id (wire.line link.connection.id)
              handled party) _ :=
        .deliver link count linked
      simpa [passage, meet, linked] using move

end Party

end BlockWire
