import BlockWire.Bytes

/-!
# Text as bytes

Texts travel as UTF-8.  Writing is total.  Reading walks over the bytes with
at most one unfinished character open: the lead byte of a character says how
many bytes are missing and, since overlong forms and surrogates are excluded,
in which range the next one has to lie.  A byte outside the range closes the
unfinished character as malformed and is then looked at afresh.

`parts` gives one item for each well-formed character and one for each
maximal malformed part.  The lossy reading puts U+FFFD for the latter, the
strict reading refuses them.
-/

namespace BlockWire.Text

/-- The bytes of a text. -/
def encode (text : String) : Bytes :=
  text.toList.flatMap String.utf8EncodeChar

/-- A character whose lead byte was read and whose end was not. -/
structure Unfinished where
  /-- How many bytes are still to come after the next one. -/
  after : Nat
  low : Nat
  high : Nat
  /-- The bits of the character read so far. -/
  bits : Nat
  deriving DecidableEq, Repr

/-- What a byte means where a character may begin. -/
inductive Lead where
  | whole (character : Char)
  | opens (unfinished : Unfinished)
  | malformed
  deriving DecidableEq, Repr

/-- Classify a byte that stands where a character may begin.  Bytes that
continue a character, that could only begin an overlong form (`C0`, `C1`) or
that lie beyond the code space (`F5` and up) begin nothing. -/
def Lead.ofByte (byte : UInt8) : Lead :=
  let value := byte.toNat
  if value < 0x80 then .whole (Char.ofNat value)
  else if value < 0xC2 then .malformed
  else if value < 0xE0 then .opens ⟨0, 0x80, 0xBF, value - 0xC0⟩
  else if value = 0xE0 then .opens ⟨1, 0xA0, 0xBF, 0⟩
  else if value = 0xED then .opens ⟨1, 0x80, 0x9F, 0xD⟩
  else if value < 0xF0 then .opens ⟨1, 0x80, 0xBF, value - 0xE0⟩
  else if value = 0xF0 then .opens ⟨2, 0x90, 0xBF, 0⟩
  else if value < 0xF4 then .opens ⟨2, 0x80, 0xBF, value - 0xF0⟩
  else if value = 0xF4 then .opens ⟨2, 0x80, 0x8F, 4⟩
  else .malformed

/-- The characters and malformed parts of a byte sequence, in order; `none`
stands for one maximal malformed part.  `unfinished?` is the character that
the bytes before left open. -/
def partsFrom : (unfinished? : Option Unfinished) → Bytes → List (Option Char)
  | none, [] => []
  | some _, [] => [none]
  | none, byte :: rest =>
      match Lead.ofByte byte with
      | .whole character => some character :: partsFrom none rest
      | .opens unfinished => partsFrom (some unfinished) rest
      | .malformed => none :: partsFrom none rest
  | some unfinished, byte :: rest =>
      if unfinished.low ≤ byte.toNat ∧ byte.toNat ≤ unfinished.high then
        let bits := unfinished.bits * 64 + (byte.toNat - 0x80)
        match unfinished.after with
        | 0 => some (Char.ofNat bits) :: partsFrom none rest
        | after + 1 => partsFrom (some ⟨after, 0x80, 0xBF, bits⟩) rest
      else
        match Lead.ofByte byte with
        | .whole character => none :: some character :: partsFrom none rest
        | .opens next => none :: partsFrom (some next) rest
        | .malformed => none :: none :: partsFrom none rest

/-- The characters and malformed parts of a byte sequence. -/
def parts (bytes : Bytes) : List (Option Char) :=
  partsFrom none bytes

/-- The character that stands for a malformed part. -/
def replacement : Char := '\uFFFD'

/-- Read bytes as text, with U+FFFD for each maximal malformed part. -/
def lossy (bytes : Bytes) : String :=
  String.ofList ((parts bytes).map (·.getD replacement))

/-- Read bytes as text if they are well-formed throughout. -/
def decode? (bytes : Bytes) : Option String :=
  ((parts bytes).mapM id).map String.ofList

end BlockWire.Text
