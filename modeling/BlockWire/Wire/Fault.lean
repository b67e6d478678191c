import BlockWire.Bytes

/-!
# What can be wrong with a frame

A frame is refused for one of five reasons, each with the numbers that a
diagnosis needs.
-/

namespace BlockWire

/-- Why bytes are no frame, or why a frame has no bytes. -/
inductive FrameFault where
  | incompleteHeader (received : Nat)
  /-- The bytes end before the payload that the header announces does. -/
  | incompletePayload (expected received : Nat)
  | unknownStatus (code : UInt8)
  | unknownOperation (code : UInt8)
  | oversized (length limit : Nat)
  deriving DecidableEq, Repr

/-- How many bytes there were of the part that was cut short.  Only the two
faults of bytes that end too early have such a number. -/
def FrameFault.received? : FrameFault → Option Nat
  | .incompleteHeader received => some received
  | .incompletePayload _ received => some received
  | .unknownStatus _ => none
  | .unknownOperation _ => none
  | .oversized _ _ => none

/-- The wording of a frame fault. -/
def FrameFault.message : FrameFault → String
  | .incompleteHeader received =>
      s!"Incomplete header: expected 5 bytes, got {received}"
  | .incompletePayload expected received =>
      s!"Incomplete payload: expected {expected} bytes, got {received}"
  | .unknownStatus code => s!"Unknown status code: 0x{hexPair code}"
  | .unknownOperation code => s!"Unknown command code: 0x{hexPair code}"
  | .oversized length limit =>
      s!"Payload too large: {length} bytes (max {limit})"

end BlockWire
