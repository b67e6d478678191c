import BlockWire.Link

/-!
# Clients

A client knows its endpoint and holds at most one link.  A failure that leaves
the position in the reply stream unknown ends the link before it is reported,
so a link that is held is always at the start of a reply.
-/

namespace BlockWire

/-- A client of a memory server. -/
structure Client where
  endpoint : Endpoint
  link? : Option Link := none
  deriving DecidableEq, Repr

namespace Client

/-- A client of an endpoint, not connected. -/
def ofEndpoint (endpoint : Endpoint) : Client :=
  { endpoint := endpoint }

/-- A client of a port of a host, not connected and with the usual limits. -/
def ofAddress (host : String) (port : UInt16) : Client :=
  ofEndpoint { host := host, port := port }

/-- Whether the client holds a link. -/
def isConnected (client : Client) : Bool :=
  client.link?.isSome

variable {ν : Type} [Network ν]

/-- Open a link unless one is open. -/
def connect (client : Client) (network : ν) : Ending Unit × Client × ν :=
  match client.link? with
  | some _ => (.returned (.ok ()), client, network)
  | none =>
      match Link.establish client.endpoint network with
      | (.returned (.ok link), network) =>
          (.returned (.ok ()), { client with link? := some link }, network)
      | (.returned (.error failure), network) =>
          (.returned (.error failure), client, network)
      | (.aborted, network) => (.aborted, client, network)

/-- End the link if one is open. -/
def disconnect (client : Client) (network : ν) : Client × ν :=
  match client.link? with
  | none => (client, network)
  | some link =>
      ({ client with link? := none },
        Network.hangUp link.connection.id network)

/-- Send a request and hand back the reply, whatever its status.  Without a
link nothing is sent; a failed exchange ends the link. -/
def send (request : Request) (client : Client) (network : ν) :
    Except Failure Reply × Client × ν :=
  match client.link? with
  | none => (.error .notConnected, client, network)
  | some link =>
      match link.roundTrip request network with
      | (.ok reply, link, network) =>
          (.ok reply, { client with link? := some link }, network)
      | (.error failure, link, network) =>
          let (client, network) :=
            disconnect { client with link? := some link } network
          (.error failure, client, network)

end Client

end BlockWire
