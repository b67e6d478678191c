import BlockWire.Deadline
import BlockWire.Stream.Sink
import BlockWire.Stream.Source

/-!
# Networks

A client reaches a server through a network.  What a client can do there is
small: read the clock, dial an address, let the peer hear what it has written,
and hang up.  A network is a state with these four actions, each a function
from the state before to the state after.

Dialling gives a connection, which belongs to the client from then on: the
schedule by which its writes are taken and the schedule of what arrives.  When
the peer hears something it may send more, which is added to what is still to
arrive.
-/

namespace BlockWire

/-- The number by which a network knows a connection. -/
abbrev ConnectionId := Nat

/-- One end of an open connection. -/
structure Connection where
  /-- The number by which the network knows it. -/
  id : ConnectionId
  peer : String
  incoming : Source
  /-- How writes are taken. -/
  outgoing : Sink
  deriving DecidableEq, Repr

/-- What a peer sends when it hears something. -/
structure Delivery where
  /-- What is added to the arrivals. -/
  arrivals : List Arrival := []
  /-- What comes after all arrivals from now on, if that changes. -/
  thereafter? : Option Silence := none
  deriving DecidableEq, Repr

/-- A stream with more to come. -/
def Source.extend (delivery : Delivery) (source : Source) : Source :=
  { arrivals := source.arrivals ++ delivery.arrivals
    thereafter := delivery.thereafter?.getD source.thereafter }

/-- The actions of a network, on its state. -/
class Network (ν : Type) where
  clock : ν → Instant × ν
  dial : (host : String) → (port : UInt16) → Patience → ν →
    Except TransportFault Connection × ν
  hear : ConnectionId → Bytes → ν → Delivery × ν
  hangUp : ConnectionId → ν → ν

/-- A network carried along with a note that it does not look at. -/
instance {ν μ : Type} [Network ν] : Network (ν × μ) where
  clock := fun (network, note) =>
    let (reading, network) := Network.clock network
    (reading, network, note)
  dial := fun host port patience (network, note) =>
    let (answer, network) := Network.dial host port patience network
    (answer, network, note)
  hear := fun connection bytes (network, note) =>
    let (delivery, network) := Network.hear connection bytes network
    (delivery, network, note)
  hangUp := fun connection (network, note) =>
    (Network.hangUp connection network, note)

end BlockWire
