import BlockWire.Proofs.Exchange
import BlockWire.Proofs.NetworkView

/-!
# Watched networks

A watched network does what the network inside it does and keeps one entry for
each session that came about on it: everything that the peer delivered, how
writes were taken from the start, and a log of what happened.  The log holds
what the peer heard, the end of the session, and how each command ended that
was run while the client held the session's link.

The entries are only written, never read.  Runs of steps are therefore the
same with and without them.
-/

namespace BlockWire

/-- Something that happened on a session. -/
inductive SessionEvent where
  | heard (bytes : Bytes)
  | hungUp
  | ended (step : Client.Step) (ending : Ending Client.Finding)

/-- What is known of a session. -/
structure Session where
  id : ConnectionId
  /-- Everything that the peer delivered, from the start. -/
  incoming : Source
  /-- How writes are taken, from the start. -/
  outgoing : Sink
  /-- What happened so far, oldest first. -/
  log : List SessionEvent := []

namespace Session

/-- The session of a connection that just came about. -/
def ofConnection (connection : Connection) : Session where
  id := connection.id
  incoming := connection.incoming
  outgoing := connection.outgoing

def note (event : SessionEvent) (session : Session) : Session :=
  { session with log := session.log ++ [event] }

/-- Let the peer hear some bytes and deliver something in turn. -/
def hear (bytes : Bytes) (delivery : Delivery) (session : Session) :
    Session :=
  { session with incoming := session.incoming.extend delivery }.note
    (.heard bytes)

@[simp]
theorem id_note (event : SessionEvent) (session : Session) :
    (session.note event).id = session.id := rfl

@[simp]
theorem id_hear
    (bytes : Bytes) (delivery : Delivery) (session : Session) :
    (session.hear bytes delivery).id = session.id := rfl

/-- Change the newest session of a connection. -/
def onNewest (connection : ConnectionId) (change : Session → Session) :
    List Session → List Session
  | [] => []
  | session :: earlier =>
      if session.id = connection then change session :: earlier
      else session :: onNewest connection change earlier

theorem onNewest_cons
    {connection : ConnectionId} {session : Session}
    (isIts : session.id = connection)
    (change : Session → Session) (earlier : List Session) :
    onNewest connection change (session :: earlier) =
      change session :: earlier := by
  simp only [onNewest, isIts, if_true]

end Session

/-- A network with what is known of its sessions, newest first. -/
structure Watched (ν : Type) where
  network : ν
  sessions : List Session := []

namespace Watched

variable {ν : Type}

/-- Change the newest session of a connection. -/
def change (connection : ConnectionId) (change : Session → Session)
    (watched : Watched ν) : Watched ν :=
  { watched with
    sessions := Session.onNewest connection change watched.sessions }

theorem sessions_change
    (connection : ConnectionId) (change : Session → Session)
    (watched : Watched ν) :
    (watched.change connection change).sessions =
      Session.onNewest connection change watched.sessions := rfl

/-- Note how a command ended that a client with a link ran. -/
def noteEnd (client : Client) (step : Client.Step)
    (ending : Ending Client.Finding) (watched : Watched ν) : Watched ν :=
  match step.request?, client.link? with
  | some _, some link =>
      watched.change link.connection.id (.note (.ended step ending))
  | _, _ => watched

@[simp]
theorem network_noteEnd
    (client : Client) (step : Client.Step)
    (ending : Ending Client.Finding) (watched : Watched ν) :
    (watched.noteEnd client step ending).network = watched.network := by
  simp only [noteEnd]
  split <;> rfl

variable [Network ν]

instance : Network (Watched ν) where
  clock watched :=
    let (reading, network) := Network.clock watched.network
    (reading, { watched with network := network })
  dial host port patience watched :=
    match Network.dial host port patience watched.network with
    | (.error fault, network) =>
        (.error fault, { watched with network := network })
    | (.ok connection, network) =>
        (.ok connection,
          { network := network
            sessions := .ofConnection connection :: watched.sessions })
  hear connection bytes watched :=
    let (delivery, network) :=
      Network.hear connection bytes watched.network
    (delivery,
      { watched with network := network }.change connection
        (.hear bytes delivery))
  hangUp connection watched :=
    { watched with
        network := Network.hangUp connection watched.network }.change
      connection (.note .hungUp)

theorem isView_network :
    Network.IsView (Watched.network : Watched ν → ν) where
  clock _ := rfl
  dial host port patience watched := by
    show Network.dial host port patience watched.network =
      Prod.map id Watched.network (Network.dial host port patience watched)
    simp only [Network.dial]
    rcases Network.dial host port patience watched.network with
      ⟨_ | _, _⟩ <;> rfl
  hear _ _ _ := rfl
  hangUp _ _ := rfl

/-! ## The sessions after each action -/

@[simp]
theorem sessions_hear
    (connection : ConnectionId) (bytes : Bytes) (watched : Watched ν) :
    (Network.hear connection bytes watched).2.sessions =
      Session.onNewest connection
        (.hear bytes (Network.hear connection bytes watched).1)
        watched.sessions := rfl

@[simp]
theorem sessions_hangUp
    (connection : ConnectionId) (watched : Watched ν) :
    (Network.hangUp connection watched).sessions =
      Session.onNewest connection (.note .hungUp) watched.sessions := rfl

/-- Dialling adds the session of the connection that comes about, if one
does. -/
theorem sessions_dial
    (host : String) (port : UInt16) (patience : Patience)
    (watched : Watched ν) :
    (Network.dial host port patience watched).2.sessions =
      match (Network.dial host port patience watched).1 with
      | .error _ => watched.sessions
      | .ok connection => .ofConnection connection :: watched.sessions := by
  simp only [Network.dial]
  rcases Network.dial host port patience watched.network with
    ⟨_ | _, _⟩ <;> rfl

theorem sessions_linkDial
    (endpoint : Endpoint) (deadline : Deadline) (watched : Watched ν) :
    (Link.dial endpoint deadline watched).2.sessions =
      match (Link.dial endpoint deadline watched).1 with
      | .error _ => watched.sessions
      | .ok connection => .ofConnection connection :: watched.sessions := by
  simp only [Link.dial]
  split
  · rfl
  · cases deadline.patience (Network.clock watched).1 with
    | error fault => rfl
    | ok patience => exact sessions_dial _ _ _ _

end Watched

/-! ## Runs -/

namespace Client

variable {ν : Type} [Network ν]

/-- Make steps one after the other. -/
def runAll : List Step → Client → ν →
    List (Ending Finding) × Client × ν
  | [], client, network => ([], client, network)
  | step :: steps, client, network =>
      let (ending, client, network) := step.run client network
      let (endings, client, network) := runAll steps client network
      (ending :: endings, client, network)

/-- Make a step on a watched network and note how it ended. -/
def Step.watch (step : Step) (client : Client) (watched : Watched ν) :
    Ending Finding × Client × Watched ν :=
  let (ending, after, later) := step.run client watched
  (ending, after, later.noteEnd client step ending)

/-- Make steps one after the other and note how they ended. -/
def watchAll : List Step → Client → Watched ν →
    List (Ending Finding) × Client × Watched ν
  | [], client, watched => ([], client, watched)
  | step :: steps, client, watched =>
      let (ending, client, watched) := step.watch client watched
      let (endings, client, watched) := watchAll steps client watched
      (ending :: endings, client, watched)

theorem Step.run_network
    (step : Step) (client : Client) (watched : Watched ν) :
    step.run client watched.network =
      (step.watch client watched).map id (Prod.map id Watched.network) := by
  rw [Watched.isView_network.run]
  simp only [watch, Prod.map, id_eq, Watched.network_noteEnd]

/-- A run does the same whether or not it is watched. -/
theorem runAll_network
    (steps : List Step) (client : Client) (watched : Watched ν) :
    runAll steps client watched.network =
      (watchAll steps client watched).map id
        (Prod.map id Watched.network) := by
  induction steps generalizing client watched with
  | nil => rfl
  | cons step steps induction =>
      simp only [runAll, watchAll, Step.run_network, Prod.map_fst,
        Prod.map_snd, id_eq, induction]
      rfl

end Client

end BlockWire
