import BlockWire.CommandLine.Run
import BlockWire.Log.Escape
import BlockWire.Network.Replayed
import Std.Async.DNS
import Std.Async.TCP
import Std.Async.Timer

/-!
# The program

The outermost layer: sockets, the clock, and the standard streams.  What the
program does is `CommandLine.run`, here on a replayed network: its questions
are put to the system one by one, and its input is what was typed so far.
Nothing is decided here beyond how a question is put.
-/

namespace BlockWire.Program

open Std.Async
open Std.Net

/-! ## Waiting -/

/-- A fault with the operating system's text. -/
def faultOfError (error : IO.Error) : TransportFault :=
  let kind :=
    match error with
    | .timeExpired .. => FaultKind.timedOut
    | .interrupted .. => FaultKind.interrupted
    | .resourceVanished .. => FaultKind.connectionReset
    | .permissionDenied .. => FaultKind.permissionDenied
    | .noFileOrDirectory .. => FaultKind.notFound
    | .invalidArgument .. => FaultKind.invalidInput
    | _ => FaultKind.other
  { kind := kind, text := toString error, fromSystem := true }

/-- Wait for something at most as long as patience lasts; `late` is the fault
if it takes longer. -/
def within {α : Type} (patience : Patience) (late : TransportFault)
    (action : Async α) : IO (Except TransportFault α) := do
  try
    match patience with
    | none => return .ok (← action.block)
    | some span =>
        let limit := Std.Time.Millisecond.Offset.ofNat
          ((span + milliseconds 1 - 1) / milliseconds 1)
        let timer : Async (Option α) := do
          sleep limit
          return none
        let first ← (Async.race (some <$> action) timer).block
        match first with
        | some value => return .ok value
        | none => return .error late
  catch error => return .error (faultOfError error)

/-! ## Dialling -/

/-- The addresses of a host. -/
def addressesOf (host : String) : IO (List IPAddr) := do
  match IPv4Addr.ofString host, IPv6Addr.ofString host with
  | some address, _ => return [.v4 address]
  | none, some address => return [.v6 address]
  | none, none => return (← (DNS.getAddrInfo host "").block).toList

/-- An address with a port. -/
def socketAddress (port : UInt16) : IPAddr → SocketAddress
  | .v4 address => .v4 { addr := address, port := port }
  | .v6 address => .v6 { addr := address, port := port }

/-- A connection to an address took too long. -/
def unreached : TransportFault :=
  { kind := .timedOut, text := "connection timed out" }

/-- A host has no address. -/
def nowhere : TransportFault :=
  { kind := .notFound, text := "host resolved to no addresses" }

/-- Try addresses one after the other until a deadline; `last` is the fault
of the one before. -/
def dialEach (port : UInt16) (deadline : Deadline)
    (last : TransportFault) :
    List IPAddr → IO (Except TransportFault (TCP.Socket.Client × String))
  | [] => return .error last
  | address :: others => do
      match deadline.patience (← IO.monoNanosNow) with
      | .error fault => return .error fault
      | .ok patience =>
          let socket ← TCP.Socket.Client.mk
          let peer := socketAddress port address
          match ← within patience unreached (socket.connect peer) with
          | .ok () =>
              socket.noDelay
              return .ok (socket, toString peer)
          | .error fault => dialEach port deadline fault others

/-- Dial a host, which may have several addresses, as long as patience
lasts. -/
def dial (host : String) (port : UInt16) (patience : Patience) :
    IO (Except TransportFault (TCP.Socket.Client × String)) := do
  let now ← IO.monoNanosNow
  let deadline :=
    match patience with
    | none => Deadline.unlimited
    | some span => Deadline.before (now + span)
  try
    dialEach port deadline nowhere (← addressesOf host)
  catch error => return .error (faultOfError error)

/-! ## Hearing -/

/-- How many bytes are missing from a reply of which some have arrived.  From
a reply that is refused for its header nothing is. -/
def missing (limit : Nat) (arrived : ByteArray) : Nat :=
  let start := (arrived.extract 0 headerSize).toList
  let header : Except FrameFault (Header Status) := Header.decode limit start
  match header with
  | .ok header => headerSize + header.length - arrived.size
  | .error (.incompleteHeader received) => headerSize - received
  | .error _ => 0

/-- Receive until a whole reply has arrived or something else happens. -/
partial def receive (socket : TCP.Socket.Client) (patience : Patience)
    (limit : Nat) (arrived : ByteArray) : IO (List Arrival) := do
  let wanted := missing limit arrived
  let data := Arrival.data arrived.toList
  if wanted = 0 then return [data]
  let size := UInt64.ofNat (min wanted 65536)
  match ← within patience .stalled (socket.recv? size) with
  | .ok (some more) => receive socket patience limit (arrived ++ more)
  | .ok none => return [data, .endOfData]
  | .error fault => return [data, .fault fault]

/-! ## Scenes -/

/-- A run of the program up to a question. -/
structure Scene where
  /-- What the system has answered so far. -/
  answers : List Answer := []
  socket? : Option TCP.Socket.Client := none
  /-- What was typed so far. -/
  typed : Bytes := []
  /-- Whether nothing more can be typed. -/
  typedAll : Bool := false
  /-- How much of the output was shown. -/
  shown : Nat := 0
  /-- How much of what is reported as failed was shown. -/
  complained : Nat := 0

namespace Scene

def add (answer : Answer) (scene : Scene) : Scene :=
  { scene with answers := scene.answers ++ [answer] }

/-- The scene with a fault in the way of the write that comes next.  What a
connection takes belongs to the answer to its dialling, so this answer is
revised. -/
def refuse (fault : TransportFault) (scene : Scene) : Scene :=
  let whole := Acceptance.takes (headerSize + largestPayload)
  let earlier := scene.answers.countP fun
    | .delivered _ => true
    | _ => false
  let outgoing : Sink :=
    { answers := List.replicate earlier whole ++ [.fails fault] }
  { scene with
    answers := scene.answers.map fun
      | .dialled (.ok connection) =>
          .dialled (.ok { connection with outgoing := outgoing })
      | answer => answer }

/-- Put a question to the system. -/
def ask (endpoint : Endpoint) (scene : Scene) : Question → IO Scene
  | .clock => return scene.add (.reading (← IO.monoNanosNow))
  | .dial host port patience => do
      match ← dial host port patience with
      | .error fault => return scene.add (.dialled (.error fault))
      | .ok (socket, peer) =>
          let connection : Connection :=
            { id := 0
              peer := peer
              incoming := { arrivals := [] }
              outgoing := {} }
          return { scene with socket? := some socket }.add
            (.dialled (.ok connection))
  | .hear _ bytes => do
      let patience :=
        if endpoint.timeout = 0 then none else some endpoint.timeout
      match scene.socket?, bytes with
      | some socket, _ :: _ =>
          let sending := socket.send (ByteArray.mk bytes.toArray)
          match ← within patience .stalled sending with
          | .error fault => return scene.refuse fault
          | .ok () =>
              let arrivals ←
                receive socket patience endpoint.payloadLimit .empty
              return scene.add (.delivered { arrivals := arrivals })
      | _, _ => return scene.add (.delivered {})
  | .hangUp _ => do
      if let some socket := scene.socket? then
        let _ ← within (some (milliseconds 100)) .stalled socket.shutdown
      return scene.add .hungUp

/-- Show what of a report was not shown yet. -/
def present (report : CommandLine.Report) (scene : Scene) : IO Scene := do
  let output ← IO.getStdout
  output.putStr (report.output.drop scene.shown).toString
  output.flush
  IO.eprint (report.complaints.drop scene.complained).toString
  return { scene with
    shown := report.output.length
    complained := report.complaints.length }

/-- The bytes of the next line of an input with its end, after `earlier`. -/
partial def lineBytes (input : IO.FS.Stream) (earlier : ByteArray) :
    IO ByteArray := do
  let next ← input.read 1
  if next.isEmpty then return earlier
  let line := earlier ++ next
  if next.toList = [Text.lineFeed] then return line
  lineBytes input line

/-- Have one more line typed. -/
def type (scene : Scene) : IO Scene := do
  let line ← lineBytes (← IO.getStdin) .empty
  return { scene with
    typed := scene.typed ++ line.toList
    typedAll := line.isEmpty }

/-- Run the program with the answers so far, and go on from the question that
is left.  A dialogue that would hang up at a prompt waits for a line first. -/
partial def play (arguments : List String) (endpoint : Endpoint)
    (scene : Scene) : IO CommandLine.Report := do
  let (report, left) :=
    CommandLine.run arguments scene.typed
      ({ answers := scene.answers } : Replayed)
  match left.unanswered? with
  | none =>
      let _ ← scene.present report
      return report
  | some question =>
      if report.isAtPrompt && !scene.typedAll then
        play arguments endpoint (← (← scene.present report).type)
      else play arguments endpoint (← scene.ask endpoint question)

end Scene

/-! ## Ends of runs -/

/-- Say why a run ended as it did, and hand back its exit code. -/
def conclude (report : CommandLine.Report) : IO UInt32 := do
  if report.exitCode = 2 then IO.eprint CommandLine.usageText
  let filter := CommandLine.filterOf (← IO.getEnv "RUST_LOG")
  if let some failure := report.logged? filter then
    IO.eprintln s!"ERROR smm_cli: {Log.escape failure.message}"
  if let some panic := report.panic? then
    let asked? ← IO.getEnv "RUST_BACKTRACE"
    IO.eprint (panic.text
      { thread := (← IO.getTID).toNat, traced := asked?.any (· ≠ "0") })
  return report.exitCode.toUInt32

end BlockWire.Program

/-- Run the program with its arguments. -/
def main (arguments : List String) : IO UInt32 := do
  let endpoint : BlockWire.Endpoint :=
    match BlockWire.CommandLine.parse arguments with
    | .ok order => order.endpoint
    | .error _ => {}
  BlockWire.Program.conclude
    (← BlockWire.Program.Scene.play arguments endpoint {})
