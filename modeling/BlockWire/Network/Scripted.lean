import BlockWire.Network.Basic

/-!
# Scripted peers

A scripted peer sends what it is told to, whatever it hears.  It is told
between the actions of the client; what it was told before a connection comes
about it sends right away, and anything else when the client next writes, so
that the client finds it when it reads.  Once told to end its sending side
it has nothing more to say on that connection.
-/

namespace BlockWire

/-- A clock that moves on by the same span with each reading. -/
structure Clock where
  reading : Instant := seconds 86400
  tick : Nanoseconds := 1000
  deriving DecidableEq, Repr

/-- The clock after a reading. -/
def Clock.next (clock : Clock) : Clock :=
  { clock with reading := clock.reading + clock.tick }

/-- A network with one peer that follows a script. -/
structure Scripted where
  clock : Clock := {}
  opened : Nat := 0
  /-- What the peer sends at the next occasion. -/
  pending : Delivery := {}
  /-- Whether the peer has ended its sending side. -/
  ended : Bool := false
  deriving DecidableEq, Repr

namespace Scripted

/-- Tell the peer to send some bytes and, with `silence?`, what it does
after them. -/
def tell (bytes : Bytes) (silence? : Option Silence) (peer : Scripted) :
    Scripted :=
  if peer.ended then peer
  else
    let data := if bytes.isEmpty then [] else [Arrival.data bytes]
    { peer with
      pending :=
        { arrivals := peer.pending.arrivals ++ data
          thereafter? := silence? <|> peer.pending.thereafter? }
      ended := silence?.isSome }

/-- Let the peer forget what it was told. -/
def forget (peer : Scripted) : Scripted :=
  { peer with pending := {}, ended := false }

instance : Network Scripted where
  clock peer := (peer.clock.reading, { peer with clock := peer.clock.next })
  dial host port _ peer :=
    let incoming : Source :=
      Source.extend peer.pending { arrivals := [], thereafter := .stalled }
    (.ok
      { id := peer.opened
        peer := s!"{host}:{port}"
        incoming := incoming
        outgoing := {} },
      { peer with opened := peer.opened + 1, pending := {} })
  hear _ _ peer := (peer.pending, { peer with pending := {} })
  hangUp _ peer := peer.forget

end Scripted

end BlockWire
