import BlockWire.Bytes

/-!
# Lines of an input

An input is cut into lines at each line feed.  A carriage return right before
the line feed belongs to the line's end.  What follows the last line feed is
a line of its own unless it is empty, and keeps its carriage return.
-/

namespace BlockWire.Text

/-- The byte that ends a line. -/
def lineFeed : UInt8 := 10

/-- The byte that may stand before the line feed. -/
def carriageReturn : UInt8 := 13

/-- A line without the carriage return at its end, given its bytes from the
last to the first. -/
def closeLine : (reversed : Bytes) → Bytes
  | [] => []
  | byte :: earlier =>
      if byte = carriageReturn then earlier.reverse
      else (byte :: earlier).reverse

/-- The lines of an input; `reversed` holds the bytes of the current line
from the last to the first. -/
def linesFrom (reversed : Bytes) : Bytes → List Bytes
  | [] => if reversed.isEmpty then [] else [reversed.reverse]
  | byte :: rest =>
      if byte = lineFeed then closeLine reversed :: linesFrom [] rest
      else linesFrom (byte :: reversed) rest

/-- The lines of an input, without their ends. -/
def lines (input : Bytes) : List Bytes :=
  linesFrom [] input

end BlockWire.Text
