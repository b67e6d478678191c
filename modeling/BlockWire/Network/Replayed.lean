import BlockWire.Network.Basic

/-!
# Replayed networks

What the clock shows and what a peer sends is not known before it is asked
for.  A replayed network gives the answers that are known so far, in order,
and keeps the first question that has none.

To run a program in earnest is to run it on a replayed network, to put the
question that is left to the system, and to begin again with its answer, until
no question is left.  Up to that question a run is the same each time, so
nothing is asked twice, and the last run is a run on a network like any
other.
-/

namespace BlockWire

/-- Something that is asked of a network. -/
inductive Question where
  | clock
  | dial (host : String) (port : UInt16) (patience : Patience)
  | hear (connection : ConnectionId) (bytes : Bytes)
  | hangUp (connection : ConnectionId)
  deriving DecidableEq, Repr

/-- What a network does or says in turn. -/
inductive Answer where
  | reading (instant : Instant)
  | dialled (answer : Except TransportFault Connection)
  | delivered (delivery : Delivery)
  | hungUp

/-- A network whose answers are known up to a question. -/
structure Replayed where
  /-- The answers that are still to be given. -/
  answers : List Answer
  /-- The first question that had no answer. -/
  unanswered? : Option Question := none

namespace Replayed

/-- Leave a question without an answer, and all that come after it. -/
def leave (question : Question) (replayed : Replayed) : Replayed where
  answers := []
  unanswered? := replayed.unanswered? <|> some question

/-- The network after an answer. -/
def next (replayed : Replayed) : Replayed :=
  { replayed with answers := replayed.answers.tail }

-- What is said in place of an answer does not matter: the run is made again.
instance : Network Replayed where
  clock replayed :=
    match replayed.answers.head? with
    | some (.reading instant) => (instant, replayed.next)
    | _ => (0, replayed.leave .clock)
  dial host port patience replayed :=
    match replayed.answers.head? with
    | some (.dialled answer) => (answer, replayed.next)
    | _ => (.error .refused, replayed.leave (.dial host port patience))
  hear connection bytes replayed :=
    match replayed.answers.head? with
    | some (.delivered delivery) => (delivery, replayed.next)
    | _ => ({}, replayed.leave (.hear connection bytes))
  hangUp connection replayed :=
    match replayed.answers.head? with
    | some .hungUp => replayed.next
    | _ => replayed.leave (.hangUp connection)

end Replayed

end BlockWire
