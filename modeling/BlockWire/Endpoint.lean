/-!
# Endpoints

Where a client connects to and within which limits: the host and the port of
the server, the time that connecting and each wait on the stream may take,
and the greatest payload that a reply may carry.  A time of zero stands for
no limit.
-/

namespace BlockWire

/-- A span of time in nanoseconds. -/
abbrev Nanoseconds := Nat

/-- A number of milliseconds as a span of time. -/
def milliseconds (count : Nat) : Nanoseconds :=
  count * 1000000

/-- A number of seconds as a span of time. -/
def seconds (count : Nat) : Nanoseconds :=
  count * 1000000000

/-- A server and the limits on dealing with it. -/
structure Endpoint where
  /-- The name or the address of the server. -/
  host : String := "127.0.0.1"
  port : UInt16 := 8888
  /-- The time allowed for connecting and for each wait, zero for any. -/
  timeout : Nanoseconds := seconds 10
  payloadLimit : Nat := 16 * 1024 * 1024
  deriving DecidableEq, Repr, Inhabited

/-- The host and the port as one text. -/
def Endpoint.address (endpoint : Endpoint) : String :=
  s!"{endpoint.host}:{endpoint.port}"

end BlockWire
