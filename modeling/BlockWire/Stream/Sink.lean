import BlockWire.Bytes
import BlockWire.Stream.Fault

/-!
# Writing to a stream

A writer meets a schedule as well: each write call is answered by the next
item, which takes some of the offered bytes or fails.  After the last item
everything offered is taken.

`offer` is the repeated writing of one piece.  What a call did not take is
offered again, interrupted calls are made again, and a call that takes
nothing is a fault, since going on could last for ever.
-/

namespace BlockWire

/-- The answer to one write call. -/
inductive Acceptance where
  /-- At most so many of the offered bytes are taken. -/
  | takes (count : Nat)
  | fails (fault : TransportFault)
  deriving DecidableEq, Repr

/-- What became of a piece that was offered for writing. -/
structure Offered where
  arrived : Bytes
  /-- The fault that stopped the writing, if one did. -/
  fault? : Option TransportFault
  rest : List Acceptance
  deriving DecidableEq, Repr

/-- The same with some bytes taken before. -/
def Offered.after (earlier : Bytes) (offered : Offered) : Offered :=
  { offered with arrived := earlier ++ offered.arrived }

/-- Offer a piece until it is taken whole or a fault stops the writing. -/
def offer : Bytes → List Acceptance → Offered
  | bytes, [] => ⟨bytes, none, []⟩
  | bytes, .takes count :: rest =>
      if bytes.isEmpty then ⟨[], none, .takes count :: rest⟩
      else if count = 0 then ⟨[], some .nothingTaken, rest⟩
      else (offer (bytes.drop count) rest).after (bytes.take count)
  | bytes, .fails fault :: rest =>
      if bytes.isEmpty then ⟨[], none, .fails fault :: rest⟩
      else if fault.kind = .interrupted then offer bytes rest
      else ⟨[], some fault, rest⟩

/-- A stream as its writer meets it. -/
structure Sink where
  /-- The answers to the write calls to come. -/
  answers : List Acceptance := []
  /-- The faults of the flushes to come; further flushes succeed. -/
  flushes : List (Option TransportFault) := []
  written : Bytes := []
  flushed : Nat := 0
  deriving DecidableEq, Repr

namespace Sink

/-- Flush once. -/
def flush (sink : Sink) : Except TransportFault Unit × Sink :=
  let rest :=
    { sink with
      flushes := sink.flushes.tail
      flushed := sink.flushed + 1 }
  match sink.flushes.head? with
  | some (some fault) => (.error fault, rest)
  | _ => (.ok (), rest)

/-- Write a piece as a whole and flush.  There is no flush after a fault. -/
def put (bytes : Bytes) (sink : Sink) : Except TransportFault Unit × Sink :=
  let offered := offer bytes sink.answers
  let rest :=
    { sink with
      answers := offered.rest
      written := sink.written ++ offered.arrived }
  match offered.fault? with
  | some fault => (.error fault, rest)
  | none => rest.flush

end Sink

end BlockWire
