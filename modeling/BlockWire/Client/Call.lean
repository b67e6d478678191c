import BlockWire.Client.Basic

/-!
# Calls

A call is a request together with what its success means to the caller.  All
calls are made in the same way: the request is sent, a refusal becomes a
failure, and the text of a success is handed to the call.
-/

namespace BlockWire

/-- The name of a block, issued by the server and never looked into. -/
structure BlockId where
  text : String
  deriving DecidableEq, Repr

/-- A request and the meaning of its success. -/
structure Call (α : Type) where
  request : Request
  /-- What the text of a success stands for. -/
  value : String → α

namespace Call

/-- The same call with its value seen through a function. -/
def map {α β : Type} (view : α → β) (call : Call α) : Call β :=
  ⟨call.request, fun text => view (call.value text)⟩

/-- Ask for a new block; its name is the value. -/
def alloc (description content : String) : Call BlockId :=
  ⟨.alloc description content, BlockId.mk⟩

/-- Replace the content of a block. -/
def update (identifier content : String) : Call Unit :=
  ⟨.update identifier content, fun _ => ()⟩

/-- Free a block. -/
def delete (identifier : String) : Call Unit :=
  ⟨.delete identifier, fun _ => ()⟩

/-- Ask for the content of a block. -/
def read (identifier : String) : Call String :=
  ⟨.read identifier, id⟩

/-- Ask for a status report. -/
def status (detail : Detail) : Call String :=
  ⟨.status detail, id⟩

/-- Ask whether the server is alive. -/
def ping : Call Unit :=
  ⟨.ping, fun _ => ()⟩

/-- What a reply means to the caller. -/
def outcome {α : Type} (call : Call α) (reply : Reply) : Except Failure α :=
  match reply.result with
  | .ok text => .ok (call.value text)
  | .error refusal => .error (.refused refusal)

end Call

/-- Make a call. -/
def Client.perform {ν α : Type} [Network ν] (call : Call α)
    (client : Client) (network : ν) : Except Failure α × Client × ν :=
  match client.send call.request network with
  | (.ok reply, client, network) => (call.outcome reply, client, network)
  | (.error failure, client, network) => (.error failure, client, network)

end BlockWire
