import BlockWire.Proofs.Reading
import BlockWire.Proofs.Writing

/-!
# Streams of messages

Requests and replies may follow each other on one stream in any order, as long
as the reader knows which kind comes next.  Both ends of the stream cut it up as
they like: a writer is offered a message until it has taken it, and a reader
meets chunks that have nothing to do with the borders of messages.

A list of messages is read as it was written, because writing a message adds
exactly its bytes and reading one takes exactly its bytes.
-/

namespace BlockWire

/-! ## Messages -/

/-- The kind of a message, which its reader has to know. -/
inductive Side where
  | request
  | reply
  deriving DecidableEq, Repr

/-- A request or a reply. -/
inductive Message where
  | request (request : Request)
  | reply (reply : Reply)
  deriving DecidableEq, Repr

namespace Message

def side : Message → Side
  | .request _ => .request
  | .reply _ => .reply

def payload : Message → Bytes
  | .request asked => asked.payload
  | .reply given => given.payload

/-- The bytes of the frame of a message. -/
def bytes : Message → Bytes
  | .request asked => asked.bytes
  | .reply given => given.bytes

def write (sink : Sink) : Message → Except Failure Unit × Sink
  | .request asked => asked.write sink
  | .reply given => given.write sink

/-- Write messages one after the other, whatever becomes of each. -/
def writeAll : List Message → Sink → List (Except Failure Unit) × Sink
  | [], sink => ([], sink)
  | message :: messages, sink =>
      let (result, sink) := message.write sink
      let (results, sink) := writeAll messages sink
      (result :: results, sink)

end Message

namespace Side

variable (limit : Nat)

/-- Read a message of a kind. -/
def read (source : Source) : Side → Except Failure Message × Source
  | .request =>
      let (result, rest) := Frame.read limit source
      (result.map .request, rest)
  | .reply =>
      let (result, rest) := Frame.read limit source
      (result.map .reply, rest)

/-- Read messages of some kinds one after the other, each with the stream that
it leaves. -/
def readAll : List Side → Source → List (Except Failure Message × Source)
  | [], _ => []
  | side :: sides, source =>
      let (result, rest) := side.read limit source
      (result, rest) :: readAll sides rest

end Side

/-! ## Writers that make progress -/

namespace Sink

/-- Every write call takes some of what it is offered or is interrupted. -/
def Proceeds (sink : Sink) : Prop :=
  ∀ answer ∈ sink.answers,
    (∃ count, answer = .takes (count + 1)) ∨
      ∃ fault, answer = .fails fault ∧ fault.kind = .interrupted

variable {sink : Sink}

/-- A stream that proceeds takes a piece as a whole, and only the flush can
fail. -/
theorem Proceeds.put (proceeds : sink.Proceeds) (bytes : Bytes) :
    ∃ answers, (∀ answer ∈ answers, answer ∈ sink.answers) ∧
      sink.put bytes =
        ({ sink with
          answers := answers
          written := sink.written ++ bytes }).flush := by
  rcases offer_of_willing bytes sink.answers proceeds with
    ⟨unstopped, within⟩
  exact ⟨(offer bytes sink.answers).rest, within, put_of_unstopped unstopped⟩

end Sink

namespace Message

variable {message : Message} {sink : Sink}

theorem write_eq_put (fits : message.payload.length ≤ largestPayload) :
    message.write sink =
      ((sink.put message.bytes).1.mapError .transport,
        (sink.put message.bytes).2) := by
  cases message with
  | request asked => exact Frame.write_eq_put fits sink
  | reply given => exact Frame.write_eq_put fits sink

/-- Writing a message adds its bytes, and it succeeds if the flush does. -/
theorem write_of_proceeds
    (proceeds : sink.Proceeds)
    (fits : message.payload.length ≤ largestPayload) :
    (message.write sink).2.written = sink.written ++ message.bytes ∧
      (message.write sink).2.Proceeds ∧
      (message.write sink).2.flushes = sink.flushes.tail ∧
      ((message.write sink).1 = .ok () ↔
        ∀ fault, sink.flushes.head? ≠ some (some fault)) := by
  rcases proceeds.put message.bytes with ⟨answers, within, isPut⟩
  rw [write_eq_put fits, isPut]
  refine ⟨Sink.written_flush _, ?_, ?_,
    mapError_eq_ok_iff.trans Sink.flush_eq_ok_iff⟩
  · rw [Sink.flush_eq]
    exact fun answer member => proceeds answer (within answer member)
  · rw [Sink.flush_eq]

/-- Writing several messages adds their bytes, one behind the other. -/
theorem writeAll_of_proceeds
    {messages : List Message}
    (proceeds : sink.Proceeds)
    (fits : ∀ message ∈ messages,
      message.payload.length ≤ largestPayload) :
    (writeAll messages sink).2.written =
        sink.written ++ messages.flatMap bytes ∧
      (writeAll messages sink).1.length = messages.length ∧
      ∀ index < messages.length,
        (writeAll messages sink).1[index]? = some (.ok ()) ↔
          ∀ fault, sink.flushes[index]? ≠ some (some fault) := by
  induction messages generalizing sink with
  | nil =>
      refine ⟨(List.append_nil _).symm, rfl, ?_⟩
      intro index inside
      exact absurd inside (Nat.not_lt_zero index)
  | cons message messages induction =>
      rcases List.forall_mem_cons.mp fits with ⟨first, later⟩
      rcases write_of_proceeds proceeds first with
        ⟨written, still, flushes, done⟩
      rcases induction still later with ⟨writtenAll, length, doneAll⟩
      refine ⟨?_, congrArg (· + 1) length, ?_⟩
      · refine writtenAll.trans ?_
        rw [written, List.flatMap_cons, List.append_assoc]
      · intro index inside
        cases index with
        | zero =>
            simp only [List.head?_eq_getElem?] at done
            rw [← done]
            exact Option.some_inj
        | succ index =>
            have tail : sink.flushes.tail[index]? =
                sink.flushes[index + 1]? := List.getElem?_tail
            rw [← tail, ← flushes]
            exact doneAll index (Nat.lt_of_succ_lt_succ inside)

end Message

/-! ## Readers -/

/-- A frame that comes first is read with exactly its bytes. -/
theorem Frame.read_of_ready
    {κ : Type} [Coded κ] {limit : Nat} {source : Source}
    {frame : Frame κ} {behind : Bytes}
    (fits : frame.payload.length ≤ largestPayload)
    (within : frame.payload.length ≤ limit)
    (ready : source.ready = frame.bytes ++ behind) :
    ∃ rest, Frame.read limit source = (.ok frame, rest) ∧
      rest.ready = behind ∧ rest.fromStop = source.fromStop := by
  have decoded : Frame.decode limit source.ready = .ok frame :=
    ready ▸ Frame.decode_bytes_append frame behind fits within
  rcases Frame.read_of_decode_ok decoded with ⟨rest, isRead, taken⟩
  refine ⟨rest, isRead, ?_, taken.fromStop⟩
  rw [taken.ready, ready, ← Frame.length_bytes]
  exact List.drop_left

namespace Side

variable {limit : Nat} {source : Source}

theorem read_of_ready
    {message : Message} {behind : Bytes}
    (fits : message.payload.length ≤ largestPayload)
    (within : message.payload.length ≤ limit)
    (ready : source.ready = message.bytes ++ behind) :
    ∃ rest, message.side.read limit source = (.ok message, rest) ∧
      rest.ready = behind ∧ rest.fromStop = source.fromStop := by
  cases message with
  | request asked =>
      rcases Frame.read_of_ready fits within ready with ⟨rest, isRead, left⟩
      refine ⟨rest, ?_, left⟩
      simp only [Message.side, Side.read, isRead]
      rfl
  | reply given =>
      rcases Frame.read_of_ready fits within ready with ⟨rest, isRead, left⟩
      refine ⟨rest, ?_, left⟩
      simp only [Message.side, Side.read, isRead]
      rfl

theorem readAll_of_ready
    {messages : List Message} {behind : Bytes}
    (within : ∀ message ∈ messages,
      message.payload.length ≤ largestPayload ∧
        message.payload.length ≤ limit)
    (ready : source.ready = messages.flatMap Message.bytes ++ behind) :
    (readAll limit (messages.map Message.side) source).length =
        messages.length ∧
      ∀ index message, messages[index]? = some message →
        ∃ rest,
          (readAll limit (messages.map Message.side) source)[index]? =
              some (.ok message, rest) ∧
            rest.ready =
              (messages.drop (index + 1)).flatMap Message.bytes ++ behind ∧
            rest.fromStop = source.fromStop := by
  induction messages generalizing source with
  | nil =>
      refine ⟨rfl, ?_⟩
      intro index message isIt
      cases isIt
  | cons first messages induction =>
      rcases List.forall_mem_cons.mp within with ⟨⟨fits, inLimit⟩, later⟩
      rw [List.flatMap_cons, List.append_assoc] at ready
      rcases read_of_ready fits inLimit ready with
        ⟨left, isRead, leftReady, leftStop⟩
      rcases induction later leftReady with ⟨length, isReadLater⟩
      simp only [List.map_cons, readAll, isRead]
      refine ⟨congrArg (· + 1) length, ?_⟩
      intro index message isIt
      cases index with
      | zero =>
          cases isIt
          exact ⟨left, rfl, leftReady, leftStop⟩
      | succ index =>
          rcases isReadLater index message isIt with
            ⟨rest, found, restReady, restStop⟩
          exact ⟨rest, found, restReady, restStop.trans leftStop⟩

end Side

/--
A stream of messages reads back as it was written.

Write requests and replies, in any order, to a stream that takes some of each
offer or is interrupted.  What arrives are the bytes of the messages, one behind
the other, and each write succeeds whose flush does.  Now read these bytes
again, the kinds in the same order, from any stream on which they are ready:
cut into chunks at any place, with interrupted calls anywhere.  As many messages
are read as were written, each read gives the message that was written, and it
leaves exactly the bytes of the messages after it and does not touch the stop of
the stream.  After the last message nothing is left in front of the stop.
-/
theorem Side.readAll_writeAll
    (limit : Nat) (messages : List Message)
    (within : ∀ message ∈ messages,
      message.payload.length ≤ largestPayload ∧
        message.payload.length ≤ limit)
    (sink : Sink) (proceeds : sink.Proceeds) (source : Source)
    (ready : sink.written ++ source.ready =
      (Message.writeAll messages sink).2.written) :
    source.ready = messages.flatMap Message.bytes ∧
      (∀ index < messages.length,
        (Message.writeAll messages sink).1[index]? = some (.ok ()) ↔
          ∀ fault, sink.flushes[index]? ≠ some (some fault)) ∧
      (readAll limit (messages.map Message.side) source).length =
        messages.length ∧
      ∀ index message, messages[index]? = some message →
        ∃ rest,
          (readAll limit (messages.map Message.side) source)[index]? =
              some (.ok message, rest) ∧
            rest.ready =
              (messages.drop (index + 1)).flatMap Message.bytes ∧
            rest.fromStop = source.fromStop := by
  have fits : ∀ message ∈ messages,
      message.payload.length ≤ largestPayload :=
    fun message member => (within message member).1
  rcases Message.writeAll_of_proceeds proceeds fits with ⟨written, -, done⟩
  rw [written, List.append_cancel_left_eq] at ready
  have readyAll : source.ready = messages.flatMap Message.bytes ++ [] := by
    rw [ready, List.append_nil]
  rcases readAll_of_ready within readyAll with ⟨length, isRead⟩
  refine ⟨ready, done, length, ?_⟩
  intro index message isIt
  rcases isRead index message isIt with ⟨rest, found, left, stop⟩
  rw [List.append_nil] at left
  exact ⟨rest, found, left, stop⟩

/-- A request and a reply are written in pieces and read in other pieces, with
interrupted calls on both ends. -/
theorem Side.readAll_of_pieces :
    let interrupted : TransportFault := ⟨.interrupted, "", false⟩
    let messages : List Message :=
      [.request ⟨.read, [109, 49]⟩, .reply ⟨.notFound, []⟩]
    let sink : Sink :=
      { answers := [.takes 3, .fails interrupted, .takes 1] }
    let source : Source :=
      ⟨[.data [4], .fault interrupted, .data [0, 0, 0, 2, 109, 49, 4, 0],
        .data [0, 0, 0]], .ended⟩
    source.ready = (Message.writeAll messages sink).2.written ∧ ∃ rest,
      (readAll 2 (messages.map Message.side) source)[1]? =
          some (.ok (.reply ⟨.notFound, []⟩), rest) ∧
        rest.ready = [] := by
  intro interrupted messages sink source
  have within : ∀ message ∈ messages,
      message.payload.length ≤ largestPayload ∧
        message.payload.length ≤ 2 := by
    decide
  have proceeds : sink.Proceeds := by
    rintro answer (_ | ⟨_, _ | ⟨_, _ | ⟨_, member⟩⟩⟩)
    · exact .inl ⟨2, rfl⟩
    · exact .inr ⟨interrupted, rfl, rfl⟩
    · exact .inl ⟨0, rfl⟩
    · cases member
  have ready : source.ready = (Message.writeAll messages sink).2.written := by
    decide
  rcases readAll_writeAll 2 messages within sink proceeds source ready with
    ⟨-, -, -, isRead⟩
  rcases isRead 1 _ rfl with ⟨rest, found, left, -⟩
  exact ⟨ready, rest, found, left⟩

end BlockWire
