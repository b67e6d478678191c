import BlockWire.Server.Handle
import BlockWire.Wire.Transfer

/-!
# Serving a connection

The server reads a request, answers it, and goes on to the next one, until no
request can be read or an answer cannot be written; then it closes the
connection.  Whatever is on the connection after a request that cannot be
read gets no answer.

`serve` does this on a stream.  `absorb` does it on bytes that have arrived
so far and keeps the beginning of a request whose end is missing, which is how
a connection looks between two arrivals.
-/

namespace BlockWire

/-- The greatest payload of a request that the server reads. -/
def requestLimit : Nat := 16 * 1024 * 1024

/-! ## On a stream -/

/-- What became of a connection that was served to its end. -/
structure Served where
  store : Store
  /-- The requests that were answered, in order. -/
  handled : List Request
  source : Source
  sink : Sink

/-- The same with a request answered before. -/
def Served.after (request : Request) (served : Served) : Served :=
  { served with handled := request :: served.handled }

/-- Serve a connection to its end. -/
def serve (store : Store) (source : Source) (sink : Sink) : Served :=
  match _ : (Frame.read requestLimit source :
      Except Failure Request × Source) with
  | (.error _, rest) => ⟨store, [], rest, sink⟩
  | (.ok request, rest) =>
      let (reply, store) := store.handle request
      match reply.write sink with
      | (.error _, sink) => ⟨store, [request], rest, sink⟩
      | (.ok (), sink) => (serve store rest sink).after request
termination_by source.data.length
decreasing_by exact Frame.data_length_lt_of_read ‹_›

/-! ## On the bytes that have arrived -/

/-- What became of the bytes that have arrived on a connection. -/
structure Absorbed where
  store : Store
  /-- The requests that were answered, in order. -/
  handled : List Request
  /-- The bytes of the answers. -/
  answer : Bytes
  /-- The bytes kept for a request whose end is missing, or `none` if the
  connection is closed. -/
  kept? : Option Bytes

/-- The same with a request answered before. -/
def Absorbed.after (request : Request) (answer : Bytes)
    (absorbed : Absorbed) : Absorbed :=
  { absorbed with
    handled := request :: absorbed.handled
    answer := answer ++ absorbed.answer }

/-- Answer the requests in the bytes that have arrived. -/
def absorb (store : Store) (arrived : Bytes) : Absorbed :=
  match _ : (Frame.decode requestLimit arrived :
      Except FrameFault Request) with
  | .error (.incompleteHeader _) => ⟨store, [], [], some arrived⟩
  | .error (.incompletePayload _ _) => ⟨store, [], [], some arrived⟩
  | .error _ => ⟨store, [], [], none⟩
  | .ok request =>
      let (reply, store) := store.handle request
      match reply.encode with
      | .error _ => ⟨store, [request], [], none⟩
      | .ok answer =>
          (absorb store (arrived.drop request.bytes.length)).after
            request answer
termination_by arrived.length
decreasing_by
  have long := Frame.length_bytes_le_of_decode ‹_›
  simp only [Frame.length_bytes, headerSize, List.length_drop] at long ⊢
  omega

end BlockWire
