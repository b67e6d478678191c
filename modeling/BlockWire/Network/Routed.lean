import BlockWire.Network.Basic

/-!
# Networks without a route

A network may have a fault that every dialling meets: nothing listens, or no
route leads to the peer.  All else is as in the network inside.
-/

namespace BlockWire

/-- A network with the fault, if any, that every dialling meets. -/
structure Routed (ν : Type) where
  network : ν
  /-- What stands between the client and every peer. -/
  obstacle? : Option TransportFault := none

instance {ν : Type} [Network ν] : Network (Routed ν) where
  clock routed :=
    let (reading, network) := Network.clock routed.network
    (reading, { routed with network := network })
  dial host port patience routed :=
    match routed.obstacle? with
    | some fault => (.error fault, routed)
    | none =>
        let (answer, network) :=
          Network.dial host port patience routed.network
        (answer, { routed with network := network })
  hear connection bytes routed :=
    let (delivery, network) := Network.hear connection bytes routed.network
    (delivery, { routed with network := network })
  hangUp connection routed :=
    { routed with network := Network.hangUp connection routed.network }

end BlockWire
