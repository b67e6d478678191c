import BlockWire.Log.Level
import BlockWire.Pattern.WellFormed
import BlockWire.Text.Alphanumeric
import BlockWire.Text.Blank
import BlockWire.Text.Numeral
import BlockWire.Text.Utf8

/-!
# Directives

A directive sets the level for some of the messages.  Its text is a level, or
the beginning of the origins that it is about, or both with an equals sign
between them.  Brackets after the origin narrow it to a scope, and braces
inside them to messages with a field:

`origin[scope{field=value}]=level`

A value is a number, or else a pattern for the values that are meant.  An
origin without a level stands for everything from there.  A directive is read
from left to right, and each mark (bracket, brace, equals sign) closes the
piece before it.
-/

namespace BlockWire.Log

/-- A field that a directive asks for. -/
structure Field where
  name : String
  /-- The value that it has to have. -/
  value? : Option String := none
  deriving DecidableEq, Repr

namespace Field

/-- Whether a text may be asked for as a value. -/
def isValue (text : String) : Bool :=
  Text.isNumeral text || Pattern.isWellFormed text

/-- The field of a text: a name, with a value if there is an equals sign.
Another equals sign ends the value. -/
def ofText? (text : String) : Option Field :=
  let name := String.ofList (text.toList.takeWhile (· ≠ '='))
  match text.toList.dropWhile (· ≠ '=') with
  | [] => some { name }
  | _ :: rest =>
      let value := String.ofList (rest.takeWhile (· ≠ '='))
      if isValue value then some { name, value? := some value } else none

end Field

/-- A level for some of the messages. -/
structure Directive where
  /-- How much of them is logged. -/
  level : Level
  /-- What their origins begin with. -/
  origin? : Option String := none
  /-- The scope that they have to be in. -/
  scope? : Option String := none
  /-- The field that they have to have. -/
  field? : Option Field := none
  deriving DecidableEq, Repr

namespace Directive

/-! ## Reading -/

/-- Where the reading of a directive stands.  A number is the place at which
the current piece begins, counted in bytes. -/
inductive Place where
  | start
  | head (start : Nat)
  | scope (start : Nat)
  | field (start : Nat)
  /-- After the brace that closes a field. -/
  | closing
  | narrowed
  /-- In the level after an equals sign. -/
  | level (start : Nat)
  deriving DecidableEq, Repr

/-- The piece of a text from one place to another. -/
def cut (whole : Bytes) (start stop : Nat) : String :=
  Text.lossy ((whole.take stop).drop start)

/-- Whether a directive may begin with a character other than a bracket. -/
def mayBegin (character : Char) : Bool :=
  character = '-' || character = ':' || character = '_' ||
    Text.isAlphanumeric character

/-- Read one character at a place.  The directive so far has no level yet. -/
def step (whole : Bytes) (place : Place) (sofar : Directive)
    (position : Nat) (character : Char) : Option (Place × Directive) :=
  match place with
  | .start =>
      if character = '[' then some (.scope (position + 1), sofar)
      else if mayBegin character then some (.head position, sofar)
      else none
  | .head start =>
      let named :=
        { sofar with origin? := some (cut whole start position) }
      if character = '=' then some (.level (position + 1), named)
      else if character = '[' then some (.scope (position + 1), named)
      else some (place, sofar)
  | .scope start =>
      let name := cut whole start position
      if character = ']' then
        some (.narrowed, { sofar with scope? := some name })
      else if character = '\x7b' then
        some (.field (position + 1),
          { sofar with scope? := if name.isEmpty then none else some name })
      else some (place, sofar)
  | .field start =>
      let text := cut whole start position
      if character = '\x7d' then
        if text.isEmpty then none
        else
          (Field.ofText? text).map fun field =>
            (.closing, { sofar with field? := some field })
      else some (place, sofar)
  | .closing => if character = ']' then some (.narrowed, sofar) else none
  | .narrowed =>
      if character = '=' then some (.level (position + 1), sofar) else none
  | .level _ => some (place, sofar)

/-- What a directive comes to that ends at a place.  A text that is no level
is an origin; an equals sign with nothing after it asks for everything. -/
def finish (whole : Bytes) (sofar : Directive) :
    Place → Option Directive
  | .head start =>
      let text := cut whole start whole.length
      match Level.ofText? text with
      | some level => some { level := level }
      | none => some { level := .trace, origin? := some text }
  | .level start =>
      let text := cut whole start whole.length
      if text.isEmpty then some { sofar with level := .trace }
      else (Level.ofText? text).map fun level => { sofar with level := level }
  | .narrowed => some { sofar with level := .trace }
  | _ => none

/-- Read the characters of a directive from a position on. -/
def readFrom (whole : Bytes) (place : Place) (sofar : Directive)
    (position : Nat) : List Char → Option Directive
  | [] => finish whole sofar place
  | character :: rest =>
      match step whole place sofar position character with
      | none => none
      | some (place, sofar) =>
          readFrom whole place sofar (position + character.utf8Size) rest

/-- The characters of a text without the blanks at both ends. -/
def trimmed (text : String) : List Char :=
  ((text.toList.dropWhile Text.isBlank).reverse.dropWhile
    Text.isBlank).reverse

/-- Read a directive.  Blanks at its ends are not looked at, yet places are
places in the text with its blanks: what stands at the end of the text is part
of the last piece, and blanks at its beginning move the pieces by as much. -/
def parse (text : String) : Option Directive :=
  readFrom (Text.encode text) .start { level := .trace } 0 (trimmed text)

end Directive

end BlockWire.Log
