import BlockWire.Client.Scope
import BlockWire.CommandLine.Grammar
import BlockWire.CommandLine.Panic
import BlockWire.Log.Filter
import BlockWire.Shell.Dialogue

/-!
# Runs of the program

A run of the program either answers from its arguments alone, carries out one
instruction over a connection of its own, or holds a dialogue.  What it leaves
behind is what it wrote, the failure that ended it, and an exit code: zero for
success, one for a failure, two for arguments that mean nothing.  A run that
was cut short leaves its panic behind, and an exit code of its own.
-/

namespace BlockWire.CommandLine

/-- What a run leaves behind. -/
structure Report where
  exitCode : UInt8
  output : String := ""
  /-- What was reported as failed on the way. -/
  complaints : String := ""
  /-- The failure that ended the run, if one did. -/
  failure? : Option Failure := none
  /-- What cut the run short, if something did. -/
  panic? : Option Panic := none
  deriving DecidableEq, Repr

/-- The version of the program and of the library. -/
def version : String := "0.1.0"

/-- What the program says about its version. -/
def versionText : String := s!"smm-cli {version}\n"

/-- What the program says about its use. -/
def usageText : String :=
  "Usage: smm-cli [--host HOST] [-p PORT] [-t SECONDS] [-v] COMMAND\n\n" ++
  "Commands:\n" ++
  "  alloc DESCRIPTION CONTENT\n" ++
  "  update ID CONTENT\n" ++
  "  delete ID\n" ++
  "  read ID\n" ++
  "  status [--memory | --block]\n" ++
  "  ping\n" ++
  "  shell\n"

namespace Report

/-- The report of arguments that ask for no task. -/
def ofInterruption : Interruption → Report
  | .version => { exitCode := 0, output := versionText }
  | .help => { exitCode := 0, output := usageText }
  | .misuse => { exitCode := 2 }

/-- The report of a run that was cut short. -/
def ofPanic (panic : Panic) : Report :=
  { exitCode := 101, panic? := some panic }

/-- The report of one instruction. -/
def ofShown : Ending Shown → Report
  | .returned (.ok (.text text)) => { exitCode := 0, output := text ++ "\n" }
  | .returned (.ok .farewell) => { exitCode := 0 }
  | .returned (.error failure) => { exitCode := 1, failure? := some failure }
  | .aborted => .ofPanic .ofCommand

/-- The report of a dialogue. -/
def ofTranscript : Ending Transcript → Report
  | .returned (.ok transcript) =>
      { exitCode := if transcript.failure?.isSome then 1 else 0
        output := transcript.output
        complaints := transcript.complaints
        failure? := transcript.failure? }
  | .returned (.error failure) => { exitCode := 1, failure? := some failure }
  | .aborted => .ofPanic .ofDialogue

/-- Whether a dialogue has come to the end of its input, at a prompt. -/
def isAtPrompt (report : Report) : Bool :=
  report.failure?.isNone && report.output.endsWith Dialogue.prompt

end Report

/-! ## The log -/

/-- The failure that ends a run, as the log sees it. -/
def logEntry : Log.Entry :=
  { gravity := .error, origin := "smm_cli", fields := ["message"] }

/-- What is logged unless something else is asked for: warnings from
everywhere, and more from the program itself. -/
def usualFilter : Log.Filter :=
  [{ level := .warn }, { level := .info, origin? := some logEntry.origin }]

/-- The filter that the environment asks for.  A text that is no filter asks
for nothing. -/
def filterOf (text? : Option String) : Log.Filter :=
  (text?.bind Log.Filter.parse).getD usualFilter

/-- The failure of a run, if a filter lets it into the log. -/
def Report.logged? (filter : Log.Filter) (report : Report) :
    Option Failure :=
  if filter.admits logEntry then report.failure? else none

/-! ## Running -/

variable {ν : Type} [Network ν]

/-- An instruction as the body of a scoped session. -/
def bodyOf (instruction : Instruction) : Client.Body ν Shown :=
  fun client network =>
    let (result, client, network) := instruction.execute client network
    (.returned result, client, network)

/-- Carry out an order. -/
def Order.run (order : Order) (input : Bytes) (network : ν) : Report × ν :=
  match order.task with
  | .single instruction =>
      let (ending, network) :=
        Client.withSession order.endpoint (bodyOf instruction) network
      (.ofShown ending, network)
  | .dialogue =>
      let (ending, network) := Dialogue.hold order.endpoint input network
      (.ofTranscript ending, network)

/-- Run the program with its arguments and its standard input. -/
def run (arguments : List String) (input : Bytes) (network : ν) :
    Report × ν :=
  match parse arguments with
  | .error interruption => (.ofInterruption interruption, network)
  | .ok order => order.run input network

end BlockWire.CommandLine
