import BlockWire.Text.Decimal

/-!
# Levels of a log

How grave a message is, and up to which gravity messages are logged.  The two
are the same scale; its lowest point lets no message through.
-/

namespace BlockWire.Log

/-- How much is logged, from nothing to everything. -/
inductive Level where
  | off
  | error
  | warn
  | info
  | debug
  | trace
  deriving DecidableEq, Repr

namespace Level

/-- The place of a level on the scale. -/
def rank : Level → Nat
  | .off => 0
  | .error => 1
  | .warn => 2
  | .info => 3
  | .debug => 4
  | .trace => 5

/-- Whether messages of a gravity are logged at a level. -/
def admits (level gravity : Level) : Bool :=
  gravity.rank ≤ level.rank

/-- The level of a place on the scale. -/
def ofRank? : Nat → Option Level
  | 0 => some .off
  | 1 => some .error
  | 2 => some .warn
  | 3 => some .info
  | 4 => some .debug
  | 5 => some .trace
  | _ => none

/-- The level of a name in lower case. -/
def ofName? : String → Option Level
  | "off" => some .off
  | "error" => some .error
  | "warn" => some .warn
  | "info" => some .info
  | "debug" => some .debug
  | "trace" => some .trace
  | _ => none

/-- The level that a text names by its place or, in any letter case, by its
name. -/
def ofText? (text : String) : Option Level :=
  match Text.numberBelow? Text.limit64 text with
  | some place => ofRank? place
  | none => ofName? (text.map Char.toLower)

end Level

end BlockWire.Log
