import BlockWire.Network.Basic

/-!
# Recorded networks

A recorded network does what the network inside it does and keeps a record of
what its clients did: which connections they opened, what each peer heard, and
which connections they ended.  It makes visible from outside what a client
puts on the wire and that it leaves nothing open.
-/

namespace BlockWire

/-- Something that a client did on a network. -/
inductive Happening where
  | opened (connection : ConnectionId)
  | heard (connection : ConnectionId) (bytes : Bytes)
  | closed (connection : ConnectionId)
  deriving DecidableEq, Repr

/-- A network with the record of what happened on it, oldest first. -/
structure Recorded (ν : Type) where
  network : ν
  record : List Happening := []

namespace Recorded

variable {ν : Type}

/-- Add to the record. -/
def note (happening : Happening) (recorded : Recorded ν) : Recorded ν :=
  { recorded with record := recorded.record ++ [happening] }

instance [Network ν] : Network (Recorded ν) where
  clock recorded :=
    let (reading, network) := Network.clock recorded.network
    (reading, { recorded with network := network })
  dial host port patience recorded :=
    match Network.dial host port patience recorded.network with
    | (.error fault, network) =>
        (.error fault, { recorded with network := network })
    | (.ok connection, network) =>
        (.ok connection,
          { recorded with network := network }.note (.opened connection.id))
  hear connection bytes recorded :=
    let (delivery, network) :=
      Network.hear connection bytes recorded.network
    (delivery,
      { recorded with network := network }.note (.heard connection bytes))
  hangUp connection recorded :=
    { recorded with
        network := Network.hangUp connection recorded.network }.note
      (.closed connection)

end Recorded

/-! ## Views of a record -/

namespace Happening

/-- The bytes that the peers heard, in order. -/
def heardBytes (record : List Happening) : Bytes :=
  record.flatMap fun
    | .heard _ bytes => bytes
    | _ => []

/-- Whether a connection was opened. -/
def anyOpened (record : List Happening) : Bool :=
  record.any fun
    | .opened _ => true
    | _ => false

/-- Whether a connection was ended. -/
def anyClosed (record : List Happening) : Bool :=
  record.any fun
    | .closed _ => true
    | _ => false

end Happening

end BlockWire
