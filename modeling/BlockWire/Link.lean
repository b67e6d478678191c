import BlockWire.Network.Basic
import BlockWire.Wire.Transfer

/-!
# Links

A link is an open connection with the limit on what may arrive over it.  Over
a link exactly one kind of exchange takes place: a request is written as a
whole, and only then one reply is read.  Nothing is read ahead, so what the
reply leaves on the stream is there for the next exchange.

Opening a link can be cut short: a deadline that the clock cannot show ends
the program that asked for it.  This third way to end is part of the type
`Ending`, which every call that opens a link passes on.
-/

namespace BlockWire

/-- How a call ends that may be cut short. -/
inductive Ending (α : Type) where
  /-- The call comes back with a value or a failure. -/
  | returned (result : Except Failure α)
  /-- The call does not come back, nor do its callers. -/
  | aborted
  deriving Repr

/-- The same ending with its value seen through a function. -/
def Ending.map {α β : Type} (view : α → β) : Ending α → Ending β
  | .returned result => .returned (result.map view)
  | .aborted => .aborted

/-- An open connection with the limit on its replies. -/
structure Link where
  connection : Connection
  payloadLimit : Nat
  deriving DecidableEq, Repr

/-- Whether a host name cannot be looked up. -/
def isMalformedHost (host : String) : Bool :=
  host.toList.contains '\x00'

namespace Link

variable {ν : Type} [Network ν]

/-! ## Opening -/

/-- Dial an endpoint within its time limit.  The deadline is set first, then
the host is looked up, and what is left of the time is for dialling. -/
def dial (endpoint : Endpoint) (deadline : Deadline) (network : ν) :
    Except TransportFault Connection × ν :=
  if isMalformedHost endpoint.host then (.error .malformedHost, network)
  else
    let (now, network) := Network.clock network
    match deadline.patience now with
    | .error fault => (.error fault, network)
    | .ok patience =>
        Network.dial endpoint.host endpoint.port patience network

/-- Open a link to an endpoint. -/
def establish (endpoint : Endpoint) (network : ν) : Ending Link × ν :=
  let (now, network) := Network.clock network
  match Deadline.start endpoint.timeout now with
  | none => (.aborted, network)
  | some deadline =>
      match dial endpoint deadline network with
      | (.error fault, network) =>
          (.returned (.error (.connection endpoint.address fault)), network)
      | (.ok connection, network) =>
          (.returned (.ok ⟨connection, endpoint.payloadLimit⟩), network)

/-! ## Exchanging -/

/-- The failure that an exchange reports: a transport that let the time go by
is a timeout of the peer. -/
def classify (link : Link) : Failure → Failure
  | .transport fault =>
      if fault.kind.isTimeout then .timeout link.connection.peer
      else .transport fault
  | failure => failure

/-- Write a request.  The peer hears what was taken, whether or not that is
the whole request, and may send something in turn. -/
def submit (request : Request) (link : Link) (network : ν) :
    Except Failure Unit × Link × ν :=
  let before := link.connection.outgoing
  let (result, outgoing) := request.write before
  let heard := outgoing.written.drop before.written.length
  let (delivery, network) :=
    Network.hear link.connection.id heard network
  let connection :=
    { link.connection with
      outgoing := outgoing
      incoming := link.connection.incoming.extend delivery }
  (result.mapError link.classify, { link with connection := connection },
    network)

/-- Read one reply. -/
def collect (link : Link) : Except Failure Reply × Link :=
  let (result, incoming) :=
    Frame.read link.payloadLimit link.connection.incoming
  (result.mapError link.classify,
    { link with
      connection := { link.connection with incoming := incoming } })

/-- Write a request and read its reply.  Without the request written in full
nothing is read. -/
def roundTrip (request : Request) (link : Link) (network : ν) :
    Except Failure Reply × Link × ν :=
  match link.submit request network with
  | (.error failure, link, network) => (.error failure, link, network)
  | (.ok (), link, network) =>
      let (result, link) := link.collect
      (result, link, network)

end Link

end BlockWire
