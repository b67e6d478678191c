import BlockWire.Network.Scripted
import BlockWire.Server.Serve

/-!
# A memory server on a network

A hosted server answers what its clients write as soon as it hears it.  All
connections work on one store, which outlives them.  The server keeps a list
of what it saw on each connection.
-/

namespace BlockWire

/-- Something that a server saw on a connection. -/
inductive Sighting where
  | accepted
  /-- A request arrived whole. -/
  | request (request : Request)
  | closed
  deriving DecidableEq, Repr

/-- A network with one memory server. -/
structure Hosted where
  clock : Clock := {}
  store : Store := .empty
  opened : Nat := 0
  /-- The open connections, each with the beginning of a request whose end is
  missing. -/
  served : List (ConnectionId × Bytes) := []
  /-- What was seen on which connection, oldest first. -/
  sightings : List (ConnectionId × Sighting) := []

namespace Hosted

/-- Add to what was seen on a connection. -/
def see (connection : ConnectionId) (sightings : List Sighting)
    (server : Hosted) : Hosted :=
  { server with
    sightings := server.sightings ++ sightings.map (connection, ·) }

/-- Close a connection. -/
def close (connection : ConnectionId) (server : Hosted) : Hosted :=
  { server with served := server.served.filter (·.1 ≠ connection) }.see
    connection [.closed]

/-- Hear bytes on an open connection on which the beginning of a request is
kept. -/
def receive (connection : ConnectionId) (arrived : Bytes)
    (server : Hosted) : Delivery × Hosted :=
  let absorbed := absorb server.store arrived
  let server :=
    { server with store := absorbed.store }.see connection
      (absorbed.handled.map .request)
  let arrivals :=
    if absorbed.answer.isEmpty then [] else [Arrival.data absorbed.answer]
  match absorbed.kept? with
  | some kept =>
      ({ arrivals := arrivals },
        { server with
          served := server.served.map fun (id, before) =>
            if id = connection then (id, kept) else (id, before) })
  | none =>
      ({ arrivals := arrivals, thereafter? := some .ended },
        server.close connection)

instance : Network Hosted where
  clock server :=
    (server.clock.reading, { server with clock := server.clock.next })
  dial host port _ server :=
    let id := server.opened
    (.ok
      { id := id
        peer := s!"{host}:{port}"
        incoming := { arrivals := [], thereafter := .stalled }
        outgoing := {} },
      { server with
          opened := id + 1
          served := server.served ++ [(id, [])] }.see id [.accepted])
  hear connection bytes server :=
    match server.served.lookup connection with
    | none => ({}, server)
    | some kept => server.receive connection (kept ++ bytes)
  hangUp connection server :=
    match server.served.lookup connection with
    | none => server
    | some _ => server.close connection

end Hosted

end BlockWire
