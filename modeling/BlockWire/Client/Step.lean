import BlockWire.Client.Call

/-!
# Steps

What a program does with its client falls into steps: it connects,
disconnects, makes a call, or sends a request of its own making.  A step ends
with a finding or a failure, and one kind of step gives the program up.

Steps follow each other freely.  What one of them finds depends on the client
and the network alone, as the steps before left them.
-/

namespace BlockWire.Client

/-- What a step that succeeded hands back. -/
inductive Finding where
  | done
  | block (identifier : BlockId)
  | text (text : String)
  /-- A reply as it came, whatever its status. -/
  | reply (reply : Reply)
  deriving DecidableEq, Repr

/-- One thing that a program does with its client. -/
inductive Step where
  | connect
  | disconnect
  | call (call : Call Finding)
  /-- Send a request and take any reply. -/
  | send (request : Request)
  /-- Give the program up. -/
  | abort

namespace Step

/-- Ask for a new block. -/
def alloc (description content : String) : Step :=
  .call ((Call.alloc description content).map .block)

/-- Replace the content of a block. -/
def update (identifier content : String) : Step :=
  .call ((Call.update identifier content).map fun _ => .done)

/-- Free a block. -/
def delete (identifier : String) : Step :=
  .call ((Call.delete identifier).map fun _ => .done)

/-- Ask for the content of a block. -/
def read (identifier : String) : Step :=
  .call ((Call.read identifier).map .text)

/-- Ask for a status report. -/
def status (detail : Detail) : Step :=
  .call ((Call.status detail).map .text)

/-- Ask whether the server is alive. -/
def ping : Step :=
  .call (Call.ping.map fun _ => .done)

/-- Make a step. -/
def run {ν : Type} [Network ν] (step : Step) (client : Client)
    (network : ν) : Ending Finding × Client × ν :=
  match step with
  | .connect =>
      let (ending, client, network) := client.connect network
      (ending.map fun _ => .done, client, network)
  | .disconnect =>
      let (client, network) := client.disconnect network
      (.returned (.ok .done), client, network)
  | .call asked =>
      let (result, client, network) := client.perform asked network
      (.returned result, client, network)
  | .send request =>
      let (result, client, network) := client.send request network
      (.returned (result.map .reply), client, network)
  | .abort => (.aborted, client, network)

end Step

end BlockWire.Client
