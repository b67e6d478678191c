import BlockWire.Client.Scope
import BlockWire.Proofs.Lifecycle
import BlockWire.Proofs.NetworkView

/-!
# Scoped sessions release what they open

The body of a scoped session is any program that makes steps with the client,
one after the other, and chooses each by what the steps before came back
with.  It may disconnect and connect again, may run into any failure, may end
early with a value or a failure, and may be cut short at any step.

Whatever it does, a scoped session runs it once, as soon as there is a
connection, and comes back with what it came back with.  Every connection that
was opened on the way has then been ended, no matter whether the body gave it
up, a failure did, or the session.  Without a connection the body is not run.

A time limit whose deadline the clock cannot show is the one exception: then
connecting is cut short, and the session with it, without any failure to come
back with.
-/

namespace BlockWire.Client

variable {α ν : Type} [Network ν]

/-! ## Routines -/

/-- A program that makes steps with its client. -/
inductive Routine (α : Type) where
  /-- Come back with a value or a failure. -/
  | finish (result : Except Failure α)
  /-- Make a step, and go on by what it came back with and by what has become
  of the client. -/
  | make (step : Step)
      (next : Except Failure Finding → Client → Routine α)

namespace Routine

/-- A routine as the body of a scoped session.  A step that is cut short cuts
the routine short. -/
def body : Routine α → Body ν α
  | .finish result, client, network => (.returned result, client, network)
  | .make step next, client, network =>
      match step.run client network with
      | (.returned found, client, network) =>
          (next found client).body client network
      | (.aborted, client, network) => (.aborted, client, network)

/-- The client and the network before the first step of a routine and after
each step. -/
def moments : Routine α → Client → ν → List (Client × ν)
  | .finish _, client, network => [(client, network)]
  | .make step next, client, network =>
      (client, network) ::
        match step.run client network with
        | (.returned found, client, network) =>
            (next found client).moments client network
        | (.aborted, client, network) => [(client, network)]

/-- What every step keeps holds at every moment. -/
theorem forall_moments
    {kept : Client → ν → Prop}
    (keeps : ∀ (step : Step) (client : Client) (network : ν),
      kept client network →
        kept (step.run client network).2.1 (step.run client network).2.2)
    (routine : Routine α) {client : Client} {network : ν}
    (first : kept client network) :
    ∀ moment ∈ routine.moments client network, kept moment.1 moment.2 := by
  induction routine generalizing client network with
  | finish result => simpa [moments] using first
  | make step next induction =>
      have after := keeps step client network first
      rw [moments, List.forall_mem_cons]
      refine ⟨first, ?_⟩
      rcases ran : step.run client network with ⟨found | _, later, left⟩
      · rw [ran] at after
        exact induction found later after
      · rw [ran] at after
        simpa using after

/-- The last moment is what the routine leaves. -/
theorem getLast?_moments
    (routine : Routine α) (client : Client) (network : ν) :
    (routine.moments client network).getLast? =
      some (routine.body client network).2 := by
  induction routine generalizing client network with
  | finish result => rfl
  | make step next induction =>
      rw [moments, body]
      rcases step.run client network with ⟨found | _, later, left⟩
      · simp [List.getLast?_cons, induction]
      · rfl

/-- A routine does the same on a network and on what is seen of it. -/
theorem body_view
    {μ : Type} [Network μ] {view : μ → ν} (isView : Network.IsView view)
    (routine : Routine α) (client : Client) (network : μ) :
    routine.body client (view network) =
      (routine.body client network).map id (Prod.map id view) := by
  induction routine generalizing client network with
  | finish result => rfl
  | make step next induction =>
      rw [body, body, isView.run]
      rcases step.run client network with ⟨found | _, later, left⟩
      · exact induction found later later left
      · rfl

end Routine

/-- A routine keeps the record of its client at every moment, also at the
last one, however it ends. -/
theorem Accounted.body
    {client : Client} {recorded : Recorded ν}
    (accounted : client.Accounted recorded) (routine : Routine α) :
    (∀ moment ∈ routine.moments client recorded,
        moment.1.Accounted moment.2) ∧
      (routine.body client recorded).2.1.Accounted
        (routine.body client recorded).2.2 := by
  have throughout :
      ∀ moment ∈ routine.moments client recorded,
        moment.1.Accounted moment.2 :=
    routine.forall_moments (fun step _ _ held => held.run step) accounted
  exact ⟨throughout, throughout _
    (List.mem_of_getLast? (routine.getLast?_moments client recorded))⟩

/-! ## The three ways of a scoped session -/

section Ways

variable {endpoint : Endpoint} {client : Client} {network later : ν}

theorem withSession_of_aborted
    (cut :
      (ofEndpoint endpoint).connect network = (.aborted, client, later))
    (body : Body ν α) :
    withSession endpoint body network = (.aborted, later) := by
  simp only [withSession, cut]

theorem withSession_of_failed
    {failure : Failure}
    (failed :
      (ofEndpoint endpoint).connect network =
        (.returned (.error failure), client, later))
    (body : Body ν α) :
    withSession endpoint body network =
      (.returned (.error failure), later) := by
  simp only [withSession, failed]

theorem withSession_of_connected
    (connected :
      (ofEndpoint endpoint).connect network =
        (.returned (.ok ()), client, later))
    (body : Body ν α) :
    withSession endpoint body network =
      ((body client later).1,
        ((body client later).2.1.disconnect (body client later).2.2).2) := by
  simp only [withSession, connected]

end Ways

/-- A scoped session does the same on a network and on what is seen of it. -/
theorem withSession_view
    {μ : Type} [Network μ] {view : μ → ν} (isView : Network.IsView view)
    (endpoint : Endpoint) (routine : Routine α) (network : μ) :
    withSession endpoint routine.body (view network) =
      (withSession endpoint routine.body network).map id view := by
  simp only [withSession, isView.connect]
  rcases (ofEndpoint endpoint).connect network with
    ⟨(failure | _) | _, client, later⟩
  · rfl
  · simp only [Prod.map, id_eq, routine.body_view isView, isView.disconnect]
  · rfl

/-! ## Letting go of a client -/

theorem not_connected_ofEndpoint (endpoint : Endpoint) :
    (ofEndpoint endpoint).link? = none :=
  rfl

theorem disconnect_of_not_connected
    {client : Client} (unlinked : client.link? = none) (network : ν) :
    client.disconnect network = (client, network) := by
  simp only [disconnect, unlinked]

/-- A scoped session with every place written out at which it lets go of its
client: at the end of a body that comes back, and whenever the client goes out
of scope, be it that connecting did not succeed, that the body was cut short,
or that the session is over. -/
def sessionLettingGo (endpoint : Endpoint) (body : Body ν α) (network : ν) :
    Ending α × ν :=
  match (ofEndpoint endpoint).connect network with
  | (.aborted, client, network) =>
      (.aborted, (client.disconnect network).2)
  | (.returned (.error failure), client, network) =>
      (.returned (.error failure), (client.disconnect network).2)
  | (.returned (.ok ()), client, network) =>
      match body client network with
      | (.aborted, client, network) =>
          (.aborted, (client.disconnect network).2)
      | (.returned result, client, network) =>
          let (client, network) := client.disconnect network
          (.returned result, (client.disconnect network).2)

/-- Letting go twice is the same as letting go once, and letting go of a client
that did not connect does nothing. -/
theorem sessionLettingGo_eq_withSession
    (endpoint : Endpoint) (body : Body ν α) (network : ν) :
    sessionLettingGo endpoint body network =
      withSession endpoint body network := by
  by_cases beyond :
      Deadline.IsBeyond endpoint.timeout (Network.clock network).1
  · have cut := connect_of_isBeyond (not_connected_ofEndpoint endpoint) beyond
    simp only [sessionLettingGo, withSession, cut]
    rfl
  · rcases connect_of_not_isBeyond (not_connected_ofEndpoint endpoint) beyond
      with ⟨link, later, connected⟩ | ⟨cause, later, failed⟩
    · simp only [sessionLettingGo, withSession, connected]
      rcases body { ofEndpoint endpoint with link? := some link } later with
        ⟨result | _, client, left⟩
      · simp only [disconnect_of_not_connected (link?_disconnect client left)]
      · rfl
    · simp only [sessionLettingGo, withSession, failed]
      rfl

/-! ## Counting the calls of a body -/

/-- A body that counts its calls in the note that a network carries along. -/
def Body.counted (body : Body ν α) : Body (ν × Nat) α :=
  fun client (network, calls) =>
    let (ending, client, network) := body client network
    (ending, client, network, calls + 1)

theorem connect_with_note
    {client after : Client} {network later : ν} {ending : Ending Unit}
    (connected : client.connect network = (ending, after, later))
    (calls : Nat) :
    client.connect (network, calls) = (ending, after, later, calls) := by
  have seen := (Network.isView_note calls).connect client network
  rwa [connected] at seen

theorem disconnect_with_note
    (client : Client) (network : ν) (calls : Nat) :
    client.disconnect (network, calls) =
      ((client.disconnect network).1, (client.disconnect network).2, calls) :=
  (Network.isView_note calls).disconnect client network

/-- A body does the same when it is counted, and a scoped session that
connects counts one call of it. -/
theorem withSession_counted
    {endpoint : Endpoint} {client : Client} {network later : ν}
    (connected :
      (ofEndpoint endpoint).connect network =
        (.returned (.ok ()), client, later))
    (body : Body ν α) (calls : Nat) :
    withSession endpoint (Body.counted body) (network, calls) =
      ((withSession endpoint body network).1,
        (withSession endpoint body network).2, calls + 1) := by
  rw [withSession_of_connected (connect_with_note connected calls),
    withSession_of_connected connected, Body.counted, disconnect_with_note]

/-! ## Whole sessions -/

namespace Routine

/-- A scoped session on a network that is recorded from the start, with a
body that counts its calls. -/
def watched (routine : Routine α) (endpoint : Endpoint) (network : ν) :
    Ending α × Recorded ν × Nat :=
  withSession endpoint (Body.counted routine.body) (Recorded.blank network, 0)

/-- Counting the calls of its body does not change a recorded session. -/
theorem watched_map_fst
    (routine : Routine α) (endpoint : Endpoint) (network : ν) :
    (routine.watched endpoint network).map id Prod.fst =
      withSession endpoint routine.body (Recorded.blank network) := by
  rcases opening :
      (ofEndpoint endpoint).connect (Recorded.blank network) with
    ⟨(failure | ⟨⟩) | _, client, later⟩
  · rw [watched, withSession_of_failed (connect_with_note opening 0),
      withSession_of_failed opening]
    rfl
  · rw [watched, withSession_counted opening]
    rfl
  · rw [watched, withSession_of_aborted (connect_with_note opening 0),
      withSession_of_aborted opening]
    rfl

/-- A scoped session does the same whether or not it is watched. -/
theorem watched_eq
    (routine : Routine α) (endpoint : Endpoint) (network : ν) :
    (routine.watched endpoint network).map id (Recorded.network ∘ Prod.fst) =
      withSession endpoint routine.body network := by
  have unrecorded :=
    withSession_view Recorded.isView_network endpoint routine
      (Recorded.blank network)
  rw [← watched_map_fst, Prod.map_map] at unrecorded
  exact unrecorded.symm

/-- The client and the network at every moment of a scoped session: before
connecting, throughout the routine if it is run, and at the end. -/
def sessionMoments (routine : Routine α) (endpoint : Endpoint)
    (network : ν) : List (Client × ν) :=
  (ofEndpoint endpoint, network) ::
    match (ofEndpoint endpoint).connect network with
    | (.returned (.ok ()), client, network) =>
        let (_, last, left) := routine.body client network
        routine.moments client network ++ [last.disconnect left]
    | (_, client, network) => [(client, network)]

/-- The last moment of a scoped session is what it leaves. -/
theorem getLast?_sessionMoments
    (routine : Routine α) (endpoint : Endpoint) (network : ν) :
    (routine.sessionMoments endpoint network).getLast?.map Prod.snd =
      some (withSession endpoint routine.body network).2 := by
  rw [sessionMoments, withSession]
  rcases (ofEndpoint endpoint).connect network with
    ⟨(failure | ⟨⟩) | _, client, later⟩
  · rfl
  · simp [List.getLast?_cons]
  · rfl

theorem getLast?_sessionMoments_blank
    (routine : Routine α) (endpoint : Endpoint) (network : ν) :
    (routine.sessionMoments endpoint (Recorded.blank network)).getLast?.map
        Prod.snd =
      some (routine.watched endpoint network).2.1 := by
  rw [getLast?_sessionMoments, ← watched_map_fst]
  rfl

/-- The record of a scoped session is the one of its client at every
moment. -/
theorem accounted_sessionMoments
    (routine : Routine α) (endpoint : Endpoint) (network : ν) :
    ∀ moment ∈ routine.sessionMoments endpoint (Recorded.blank network),
      moment.1.Accounted moment.2 := by
  have atFirst : (ofEndpoint endpoint).Accounted (Recorded.blank network) :=
    .nothing
  have connected := atFirst.connect
  rw [sessionMoments, List.forall_mem_cons]
  refine ⟨atFirst, ?_⟩
  rcases opening :
      (ofEndpoint endpoint).connect (Recorded.blank network) with
    ⟨(failure | ⟨⟩) | _, client, later⟩
  all_goals rw [opening] at connected
  · simpa using connected
  · rcases connected.body routine with ⟨throughout, atLast⟩
    rw [List.forall_mem_append, List.forall_mem_singleton]
    exact ⟨throughout, atLast.disconnect⟩
  · simpa using connected

end Routine

/--
A scoped session releases what it opens.

It does the same whether or not it is watched, and what it leaves is the last
of its moments.  At every moment as many connections have been opened as have
been ended, and one more while the client is connected.

If the first connect fails its failure, which names the endpoint, is what the
session comes back with; nothing was opened then and the body was not called.
Otherwise the session opens a connection and calls the body once, with the
client that has this connection.  It ends as the body does, be that with a
value, with a failure or cut short.  When it has ended, the connections that
were ended are those that were opened, in the same order, and none of them was
ended before it was opened.

A deadline beyond the clock cuts the first connect short, and the session ends
so as well, with nothing opened and the body not called.
-/
theorem withSession_releases
    (endpoint : Endpoint) (routine : Routine α) (network : ν) :
    (routine.watched endpoint network).map id (Recorded.network ∘ Prod.fst) =
      withSession endpoint routine.body network ∧
    (routine.sessionMoments endpoint (Recorded.blank network)).getLast?.map
        Prod.snd =
      some (routine.watched endpoint network).2.1 ∧
    (∀ moment ∈ routine.sessionMoments endpoint (Recorded.blank network),
      (Happening.openings moment.2.record).length =
        (Happening.closings moment.2.record).length +
          if moment.1.isConnected then 1 else 0) ∧
    (Deadline.IsBeyond endpoint.timeout (Network.clock network).1 →
      ∃ later,
        (ofEndpoint endpoint).connect (Recorded.blank network) =
            (.aborted, ofEndpoint endpoint, later) ∧
          routine.watched endpoint network = (.aborted, later, 0) ∧
          later.record = []) ∧
    (¬ Deadline.IsBeyond endpoint.timeout (Network.clock network).1 →
      (∃ cause later,
        (ofEndpoint endpoint).connect (Recorded.blank network) =
            (.returned (.error (.connection endpoint.address cause)),
              ofEndpoint endpoint, later) ∧
          routine.watched endpoint network =
            (.returned (.error (.connection endpoint.address cause)),
              later, 0) ∧
          later.record = []) ∨
      ∃ link opened left,
        (ofEndpoint endpoint).connect (Recorded.blank network) =
            (.returned (.ok ()),
              { ofEndpoint endpoint with link? := some link }, opened) ∧
          routine.watched endpoint network =
            ((routine.body { ofEndpoint endpoint with link? := some link }
                opened).1, left, 1) ∧
          opened.record = [.opened link.connection.id] ∧
          Happening.openings left.record = Happening.closings left.record ∧
          ∀ part, part <+: left.record →
            Happening.closings part <+: Happening.openings part) := by
  have accounted := routine.accounted_sessionMoments endpoint network
  refine ⟨routine.watched_eq endpoint network,
    routine.getLast?_sessionMoments_blank endpoint network,
    fun moment isMoment => (accounted moment isMoment).length_openings,
    ?_, ?_⟩
  · intro beyond
    have cut : (ofEndpoint endpoint).connect (Recorded.blank network) = _ :=
      connect_of_isBeyond (not_connected_ofEndpoint endpoint) beyond
    refine ⟨_, cut, ?_, rfl⟩
    rw [Routine.watched, withSession_of_aborted (connect_with_note cut 0)]
  · intro within
    rcases record_connect (not_connected_ofEndpoint endpoint)
        (Recorded.blank network) within with
      ⟨link, opened, connected, noted⟩ | ⟨cause, later, failed, noted⟩
    · right
      have held :
          Client.Accounted { ofEndpoint endpoint with link? := some link }
            opened := by
        rw [Client.Accounted, noted]
        exact .opened _ .nothing
      have released := (held.body routine).2.disconnect
      rw [Client.Accounted, held?, link?_disconnect] at released
      refine ⟨link, opened, _, connected, ?_, noted,
        released.openings_eq.trans (List.append_nil _),
        fun part => released.closings_isPrefix⟩
      rw [Routine.watched, withSession_counted connected,
        withSession_of_connected connected]
    · left
      refine ⟨cause, later, failed, ?_, noted⟩
      rw [Routine.watched,
        withSession_of_failed (connect_with_note failed 0)]
      rfl

/-- Ask whether the server is alive, connect again whatever comes of it, and
give up. -/
def reopening : Routine Unit :=
  .make .ping fun _ _ =>
    .make .connect fun _ _ => .make .abort fun _ _ => .finish (.ok ())

/-- With a silent peer the first connection is given up when no reply comes,
and the second one when the session is cut short with its body. -/
theorem released_of_reopening :
    ∃ left,
      reopening.watched {} ({} : Scripted) = (.aborted, left, 1) ∧
        Happening.openings left.record = [0, 1] ∧
        Happening.closings left.record = [0, 1] := by
  obtain ⟨-, -, -, -, ways⟩ := withSession_releases {} reopening ({} : Scripted)
  rcases ways (by unfold Deadline.IsBeyond; decide) with
    ⟨cause, later, failed, -⟩ |
      ⟨link, opened, left, connected, watched, -, released, -⟩
  · cases failed
  · have ended :
        (reopening.watched {} ({} : Scripted)).1 = .aborted := rfl
    have isLeft :
        (reopening.watched {} ({} : Scripted)).2.1 = left := by
      rw [watched]
    rw [watched] at ended ⊢
    refine ⟨left, congrArg (·, left, 1) ended, ?_, ?_⟩
    · rw [← isLeft]
      rfl
    · rw [← released, ← isLeft]
      rfl

/-- Under a time limit whose deadline lies beyond the clock a scoped session
comes back with no failure, and yet its body was never called. -/
theorem withSession_aborted_beyond_clock :
    (Routine.finish (.ok ())).watched
        { timeout := seconds 18446744073709551615 } ({} : Scripted) =
      (.aborted, Recorded.blank { clock := Clock.next {} }, 0) := by
  rfl

end BlockWire.Client
