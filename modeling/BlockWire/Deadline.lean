import BlockWire.Endpoint
import BlockWire.Stream.Fault

/-!
# Deadlines

A time limit on connecting is turned into a deadline when connecting begins,
so that everything that happens on the way draws on one budget.  The clock
counts whole seconds in 63 bits; a deadline that it cannot show has no
reading, and computing it is cut short.
-/

namespace BlockWire

/-- A reading of the clock, in nanoseconds since it was started. -/
abbrev Instant := Nat

/-- How long an attempt may take, `none` for as long as it needs. -/
abbrev Patience := Option Nanoseconds

/-- The last second that the clock can show. -/
def lastSecond : Nat := 9223372036854775807

/-- Up to when something may take place. -/
inductive Deadline where
  | unlimited
  | before (instant : Instant)
  deriving DecidableEq, Repr

namespace Deadline

/-- The deadline that a time limit sets when the clock shows `now`, if the
clock can show it. -/
def start (timeout : Nanoseconds) (now : Instant) : Option Deadline :=
  if timeout = 0 then some .unlimited
  else if (now + timeout) / seconds 1 ≤ lastSecond then
    some (.before (now + timeout))
  else none

/-- How long an attempt may take that is made when the clock shows `now`:
what is left until the deadline.  With nothing left there is no attempt. -/
def patience (now : Instant) : Deadline → Except TransportFault Patience
  | .unlimited => .ok none
  | .before instant =>
      if now < instant then .ok (some (instant - now))
      else .error .connectTimeout

end Deadline

end BlockWire
