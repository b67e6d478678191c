import BlockWire.Proofs.Progress

/-!
# The wire is transparent

Clients that use one server over the wire do to its store what they would do
to it without a wire, one request after the other in the order in which the
requests are handled.  Each command ends with what the reply to its own request
means to it, and a client that waits for a reply need not wait in vain.
-/

namespace BlockWire

namespace System

/--
As long as nothing goes wrong, the wire cannot be told from handling the
requests directly.

The log lists the requests that the server handled, of all clients.  Handled
one after the other on an empty store they give the replies in the log and the
store that there is.  For each client the log has the requests of its commands
in their order: none for a command that had no connection, which is turned
down; one for a command that has ended, which ended with what the reply to it
means to the command; and none or one for a command that waits.  A client that
waits can have its reply; as long as its request was not handled, provided that
the reply is one that the client takes and that has an encoding.  Connecting
and disconnecting do not change the store.
-/
theorem transparent
    (endpoint : ClientId → Endpoint) (events : List Event)
    (calm : (start endpoint).CalmThroughout events) :
    let system := (start endpoint).run events
    Store.empty.handleAll (system.log.map (·.request)) =
        (system.log.map (·.reply), system.store) ∧
      (∀ client, ∃ shares,
        List.Forall₂ Issued.Carried (system.party client).issued shares ∧
          shares.flatten = system.handledFor client) ∧
      (∀ client command,
        (system.party client).awaited? = some command →
          (system.IsUnhandled client →
            (system.store.handle command.request).1.IsWithin
              (system.party client).client.endpoint.payloadLimit) →
          system.Reaches (HasEnded client command (system.party client))) ∧
      (∀ client conditions,
        (system.step (.connect client conditions)).store = system.store ∧
          (system.step (.disconnect client)).store = system.store) := by
  intro system
  have orderly : system.Orderly := (orderly_start endpoint).run calm
  refine ⟨?_, orderly.exists_shares, fun client command => orderly.progress,
    fun client conditions => ⟨rfl, rfl⟩⟩
  have accounts : (start endpoint).Accounts := rfl
  exact accounts_run accounts events

/-- Two clients whose requests cross: the server reads the one that was issued
first last, and the client that has left connects again. -/
def crossing : List Event :=
  let ping : Command := ⟨.ping, .ping, rfl⟩
  let alloc : Command := ⟨.send ⟨.alloc, [0]⟩, ⟨.alloc, [0]⟩, rfl⟩
  [.connect 0 {}, .connect 1 {}, .issue 0 ping, .issue 1 alloc,
    .forward 0 3, .forward 1 6, .take 1, .handle 1, .forward 0 2, .take 0,
    .handle 0, .answer 0, .answer 1, .deliver 1 4, .deliver 1 3,
    .deliver 0 9, .conclude 0, .conclude 1, .disconnect 1, .connect 1 {}]

theorem calmThroughout_crossing :
    (start fun _ => {}).CalmThroughout crossing := by
  have willing : ({} : Sink).IsWilling :=
    ⟨fun _ member => (List.not_mem_nil member).elim,
      fun _ member => (List.not_mem_nil member).elim⟩
  refine ⟨⟨willing, willing⟩, ⟨willing, willing⟩, ?_, ?_, trivial, trivial,
    ?_, ?_, trivial, ?_, ?_, trivial, trivial, trivial, trivial, trivial, ?_,
    ?_, trivial, ⟨willing, willing⟩, trivial⟩
  · exact Nat.zero_le _
  · show (1 : Nat) ≤ requestLimit
    decide
  · exact fun _ => Source.settled_of_arrived rfl
      (rfl : _ = (⟨.alloc, [0]⟩ : Request).bytes) (by decide) (by decide)
  · intro request holding
    cases holding
    exact ⟨by decide, by decide⟩
  · exact fun _ => Source.settled_of_arrived rfl
      (rfl : _ = Request.ping.bytes) (by decide) (by decide)
  · intro request holding
    cases holding
    exact ⟨by decide, by decide⟩
  · intro _ link linked
    cases linked
    exact Source.settled_of_arrived rfl
      (rfl : _ = (Reply.success (Text.encode "PONG")).bytes) (by decide)
      (by decide)
  · intro _ link linked
    cases linked
    exact Source.settled_of_arrived rfl
      (rfl : _ = (Reply.success (Text.encode "m1")).bytes) (by decide)
      (by decide)

/-- The client whose request was handled first got the name of a new block, and
the store is what both requests make of an empty one. -/
theorem transparent_crossing :
    let system := (start fun _ => {}).run crossing
    (start fun _ => {}).CalmThroughout crossing ∧
      Store.empty.handleAll [⟨.alloc, [0]⟩, .ping] =
        ([.success (Text.encode "m1"), .success (Text.encode "PONG")],
          system.store) ∧
      ∃ shares,
        List.Forall₂ Issued.Carried (system.party 1).issued shares ∧
          shares.flatten =
            [⟨1, ⟨.alloc, [0]⟩, .success (Text.encode "m1")⟩] := by
  rcases transparent (fun _ => {}) crossing calmThroughout_crossing with
    ⟨handled, shared, -, -⟩
  exact ⟨calmThroughout_crossing, handled, shared 1⟩

end System

end BlockWire
