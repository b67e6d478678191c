import BlockWire.Shell.Run
import BlockWire.Text.Lines

/-!
# Dialogues

The interactive shell prompts, reads a line, carries it out, and shows what
came of it, over one connection.  Failures that leave the connection usable
are reported and the dialogue goes on.  It ends with the end of the input,
with the instruction to leave, with a line that is no text, or with the first
failure that ends the connection; the connection is closed each time.
-/

namespace BlockWire

/-- What a dialogue left behind. -/
structure Transcript where
  output : String
  /-- What was reported as failed on the way. -/
  complaints : String
  /-- The failure that ended the dialogue, if one did. -/
  failure? : Option Failure
  deriving DecidableEq, Repr

/-- The same with something shown and reported before. -/
def Transcript.after (output complaints : String)
    (transcript : Transcript) : Transcript :=
  { transcript with
    output := output ++ transcript.output
    complaints := complaints ++ transcript.complaints }

namespace Dialogue

/-- What is shown in front of each line. -/
def prompt : String := "client> "

/-- What is shown at the beginning of a dialogue with an address. -/
def greeting (address : String) : String :=
  s!"Connected to server at {address}\n" ++
    "Type 'help' for help, 'quit' or 'exit' to exit.\n\n"

/-- What is shown when the shell is left. -/
def farewell : String := "Bye!\n"

/-- How a text or a failure is set off from what comes next. -/
def paragraph (text : String) : String :=
  text ++ "\n\n"

/-- What a line leads to. -/
inductive Turn where
  | goesOn (output complaints : String)
  | ends (output : String) (failure? : Option Failure)
  deriving DecidableEq, Repr

/-- What the result of a line leads to. -/
def Turn.ofResult : Except Failure Shown → Turn
  | .ok (.text text) => .goesOn (paragraph text) ""
  | .ok .farewell => .ends farewell none
  | .error failure =>
      if failure.isSessionFatal then .ends "" (some failure)
      else .goesOn "" (paragraph failure.message)

variable {ν : Type} [Network ν]

/-- Carry out a line. -/
def answer (line : String) (client : Client) (network : ν) :
    Except Failure Shown × Client × ν :=
  match Instruction.parse line with
  | .error failure => (.error failure, client, network)
  | .ok instruction => instruction.execute client network

/-- Go through the lines of an input, `none` standing for a line that is no
text. -/
def converse : List (Option String) → Client → ν → Transcript × ν
  | [], client, network =>
      let (_, network) := client.disconnect network
      (⟨prompt, "", none⟩, network)
  | none :: _, client, network =>
      let (_, network) := client.disconnect network
      (⟨prompt, "", some (.transport .malformedText)⟩, network)
  | some line :: rest, client, network =>
      if Text.isBlankLine line then
        let (transcript, network) := converse rest client network
        (transcript.after prompt "", network)
      else
        let (result, client, network) := answer line client network
        match Turn.ofResult result with
        | .goesOn output complaints =>
            let (transcript, network) := converse rest client network
            (transcript.after (prompt ++ output) complaints, network)
        | .ends output failure? =>
            let (_, network) := client.disconnect network
            (⟨prompt ++ output, "", failure?⟩, network)

/-- The lines of an input as texts. -/
def linesOf (input : Bytes) : List (Option String) :=
  (Text.lines input).map Text.decode?

/-- Hold a dialogue with the server at an endpoint. -/
def hold (endpoint : Endpoint) (input : Bytes) (network : ν) :
    Ending Transcript × ν :=
  match (Client.ofEndpoint endpoint).connect network with
  | (.aborted, _, network) => (.aborted, network)
  | (.returned (.error failure), _, network) =>
      (.returned (.error failure), network)
  | (.returned (.ok ()), client, network) =>
      let (transcript, network) := converse (linesOf input) client network
      (.returned (.ok (transcript.after (greeting endpoint.address) "")),
        network)

end Dialogue

end BlockWire
