import BlockWire.Text.Decimal

/-!
# Arguments

How single arguments of a command line are read: what kind of piece an
argument is by its first characters, which options there are, and how the
numbers among their values are written.
-/

namespace BlockWire.CommandLine

/-! ## Pieces -/

/-- What an argument is by its form. -/
inductive Piece where
  /-- Two dashes: everything after them is a word. -/
  | endOfOptions
  /-- The full name of an option, with a value if there is an equals sign. -/
  | named (name : String) (value? : Option String)
  /-- One dash and the letters after it. -/
  | letters (letters : List Char)
  /-- Anything else, a lone dash included. -/
  | word (text : String)
  deriving DecidableEq, Repr

/-- What an argument is by its form. -/
def Piece.ofArgument (argument : String) : Piece :=
  match argument.toList with
  | ['-', '-'] => .endOfOptions
  | '-' :: '-' :: rest =>
      let name := rest.takeWhile (· ≠ '=')
      match rest.dropWhile (· ≠ '=') with
      | [] => .named (String.ofList name) none
      | _ :: value =>
          .named (String.ofList name) (some (String.ofList value))
  | '-' :: letter :: rest => .letters (letter :: rest)
  | _ => .word argument

/-! ## Options -/

/-- The options of the program and its commands. -/
inductive Setting where
  | host
  | port
  | timeout
  | verbose
  | version
  | help
  | memory
  | block
  deriving DecidableEq, Repr

/-- Whether an option is followed by a value. -/
def Setting.takesValue : Setting → Bool
  | .host => true
  | .port => true
  | .timeout => true
  | _ => false

/-! ## Numbers -/

/-- A number of seconds: at most 64 bits. -/
def seconds? (text : String) : Option Nat :=
  Text.numberBelow? Text.limit64 text

/-- A port: at most 16 bits.  Zero may carry a minus sign. -/
def port? (text : String) : Option UInt16 :=
  match text.toList with
  | '-' :: digits => if Text.number? digits = some 0 then some 0 else none
  | _ => (Text.numberBelow? 65536 text).map UInt16.ofNat

end BlockWire.CommandLine
