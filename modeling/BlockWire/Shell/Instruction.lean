import BlockWire.Shell.Words
import BlockWire.Text.Lowercase
import BlockWire.Wire.Message

/-!
# Instructions

An instruction is what one line of the shell asks for: one of the six
operations with its operands, the help text, or leaving.  The first word of a
line, in any letter case, says which one, and the words after it are its
operands.  Words beyond the operands are ignored.
-/

namespace BlockWire

/-- What a line of the shell asks for. -/
inductive Instruction where
  | alloc (description content : String)
  | read (identifier : String)
  | update (identifier content : String)
  | delete (identifier : String)
  | status (detail : Detail)
  | ping
  | help
  | quit
  deriving DecidableEq, Repr

namespace Instruction

/-- The failure of a line whose operands do not fit its first word. -/
def misuse (form : String) : Except Failure Instruction :=
  .error (.usage s!"Usage: {form}")

/-- The instruction of an operation word in lower case and the words after
it. -/
def ofWord (word : String) (operands : List String) :
    Except Failure Instruction :=
  match word with
  | "alloc" =>
      match operands with
      | description :: content :: _ => .ok (.alloc description content)
      | _ => misuse "alloc \"<description>\" \"<content>\""
  | "read" =>
      match operands with
      | identifier :: _ => .ok (.read identifier)
      | _ => misuse "read <memory_id>"
  | "update" =>
      match operands with
      | identifier :: content :: _ => .ok (.update identifier content)
      | _ => misuse "update <memory_id> \"<new_content>\""
  | "free" | "delete" =>
      match operands with
      | identifier :: _ => .ok (.delete identifier)
      | _ => misuse "free <memory_id>"
  | "status" =>
      match operands with
      | [] => .ok (.status .summary)
      | "--memory" :: _ => .ok (.status .memory)
      | "--block" :: _ => .ok (.status .block)
      | _ => misuse "status [--memory|--block]"
  | "ping" => .ok .ping
  | "help" => .ok .help
  | "quit" | "exit" => .ok .quit
  | other =>
      .error (.usage
        s!"Unknown command: {other}. Type 'help' for help.")

/-- The instruction that a line gives. -/
def parse (line : String) : Except Failure Instruction :=
  match Shell.words line with
  | .error failure => .error failure
  | .ok [] => .error (.usage "empty command")
  | .ok (word :: operands) => ofWord (Text.lowercase word) operands

end Instruction

end BlockWire
