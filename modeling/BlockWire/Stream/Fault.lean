/-!
# Faults of a transport

A byte stream can fail for reasons that have nothing to do with what is sent
over it.  A fault has a kind, by which programs decide, and a text for
people.  The text is either this library's or the operating system's.
-/

namespace BlockWire

/-- The kinds of fault that a transport reports. -/
inductive FaultKind where
  | interrupted
  | wouldBlock
  | timedOut
  | connectionReset
  | connectionAborted
  | connectionRefused
  | networkUnreachable
  | brokenPipe
  | unexpectedEnd
  | notFound
  | permissionDenied
  | invalidData
  | invalidInput
  | writeZero
  | other
  deriving DecidableEq, Repr

/-- Whether the fault says that the time allowed for a call is over. -/
def FaultKind.isTimeout (kind : FaultKind) : Bool :=
  kind = .wouldBlock || kind = .timedOut

/-- Something that went wrong with a transport. -/
structure TransportFault where
  kind : FaultKind
  text : String
  /-- Whether the text is the operating system's own. -/
  fromSystem : Bool := false
  deriving DecidableEq, Repr

namespace TransportFault

/-- A read for which no byte arrived in time. -/
def stalled : TransportFault :=
  ⟨.wouldBlock, "Resource temporarily unavailable (os error 11)", true⟩

/-- The peer dropped the connection with bytes unread. -/
def reset : TransportFault :=
  ⟨.connectionReset, "Connection reset by peer (os error 104)", true⟩

/-- Nothing listens at the address. -/
def refused : TransportFault :=
  ⟨.connectionRefused, "Connection refused (os error 111)", true⟩

/-- No route leads to the address. -/
def unreachable : TransportFault :=
  ⟨.networkUnreachable, "Network is unreachable (os error 101)", true⟩

/-- A write call took no byte of a non-empty offer. -/
def nothingTaken : TransportFault :=
  ⟨.writeZero, "failed to write whole buffer", false⟩

/-- A text was expected and the bytes are not well-formed. -/
def malformedText : TransportFault :=
  ⟨.invalidData, "stream did not contain valid UTF-8", false⟩

/-- The time for connecting was over before an attempt could be made. -/
def connectTimeout : TransportFault :=
  ⟨.timedOut, "connect timeout elapsed", false⟩

/-- A host name with a NUL character names nothing. -/
def malformedHost : TransportFault :=
  ⟨.invalidInput, "file name contained an unexpected NUL byte", false⟩

end TransportFault

end BlockWire
