import BlockWire.Stream.Fault
import BlockWire.Wire.Message

/-!
# Failures

Everything that a client can be told instead of a result, by cause.  Three of
the causes mean that the position in the reply stream is no longer known;
they end the session that they occur on.  A refusal leaves it usable.
-/

namespace BlockWire

/-- Why a call on a client has no result. -/
inductive Failure where
  | connection (address : String) (cause : TransportFault)
  | notConnected
  /-- The peer at the address let the time allowed go by. -/
  | timeout (address : String)
  /-- The transport failed in another way. -/
  | transport (fault : TransportFault)
  /-- What arrived is no frame, or what should be sent is none. -/
  | framing (fault : FrameFault)
  /-- The server answered and did not carry out the request. -/
  | refused (refusal : Refusal)
  | usage (text : String)
  deriving DecidableEq, Repr

namespace Failure

/-- The wording of a failure. -/
def message : Failure → String
  | .connection address cause =>
      s!"Failed to connect to {address}: {cause.text}"
  | .notConnected => "Not connected to server"
  | .timeout address => s!"Timed out waiting for {address}"
  | .transport fault => s!"IO error: {fault.text}"
  | .framing fault => s!"Framing error: {fault.message}"
  | .refused refusal => refusal.wording
  | .usage text => s!"Invalid command: {text}"

/-- Whether the failure ends the session that it occurs on. -/
def isSessionFatal : Failure → Bool
  | .timeout _ => true
  | .transport _ => true
  | .framing _ => true
  | .connection _ _ => false
  | .notConnected => false
  | .refused _ => false
  | .usage _ => false

/-- The status that a refusal carries. -/
def status? : Failure → Option Status
  | .refused refusal => some refusal.status
  | _ => none

end Failure

end BlockWire
