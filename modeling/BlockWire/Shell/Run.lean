import BlockWire.Client.Call
import BlockWire.Shell.Instruction

/-!
# Carrying out instructions

An instruction either shows a text that needs no server, leaves the shell, or
makes one call and shows what came of it.  Which of the three, and how a
success reads, is settled before anything is sent.
-/

namespace BlockWire

/-- The text that the help instruction shows. -/
def helpText : String :=
  "\n".intercalate
    ["Available commands:",
      "  alloc \"<description>\" \"<content>\"  - Allocate memory",
      "  read <memory_id>                     - Read memory content",
      "  update <memory_id> \"<content>\"       - Update memory content",
      "  free <memory_id>                     - Free memory",
      "  delete <memory_id>                   - Delete memory (alias for free)",
      "  status [--memory|--block]            - Show status",
      "  ping                                 - Check the server is alive",
      "  help                                 - Show this help",
      "  quit/exit                            - Exit client"]

/-- What an instruction comes to. -/
inductive Plan where
  | say (text : String)
  | leave
  | ask (call : Call String)

/-- What the user gets to see of an instruction that succeeded. -/
inductive Shown where
  | text (text : String)
  | farewell
  deriving DecidableEq, Repr

namespace Instruction

/-- What an instruction comes to. -/
def plan : Instruction → Plan
  | .alloc description content =>
      .ask ((Call.alloc description content).map fun identifier =>
        s!"Allocation successful. Memory ID: {identifier.text}")
  | .read identifier => .ask (Call.read identifier)
  | .update identifier content =>
      .ask ((Call.update identifier content).map fun _ =>
        s!"Memory '{identifier}' updated")
  | .delete identifier =>
      .ask ((Call.delete identifier).map fun _ =>
        s!"Memory freed successfully for '{identifier}'")
  | .status detail => .ask (Call.status detail)
  | .ping => .ask (Call.ping.map fun _ => "PONG")
  | .help => .say helpText
  | .quit => .leave

/-- Carry out an instruction with a client. -/
def execute {ν : Type} [Network ν] (instruction : Instruction)
    (client : Client) (network : ν) : Except Failure Shown × Client × ν :=
  match instruction.plan with
  | .say text => (.ok (.text text), client, network)
  | .leave => (.ok .farewell, client, network)
  | .ask call =>
      let (result, client, network) := client.perform call network
      (result.map .text, client, network)

end Instruction

end BlockWire
