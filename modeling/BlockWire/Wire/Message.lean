import BlockWire.Wire.Frame
import BlockWire.Wire.Payload

/-!
# Requests and replies

A request is a frame that carries an operation, a reply one that carries a
status.  The constructors fix how the operands of each operation are packed
into the payload.  A reply is read as a text on success and as a refusal with
its wording otherwise.
-/

namespace BlockWire

/-! ## Requests -/

/-- How much detail a status report shows. -/
inductive Detail where
  | summary
  | memory
  | block
  deriving DecidableEq, Repr, Inhabited

/-- The word that asks for a detail level; a summary is asked for by
nothing. -/
def Detail.word : Detail → String
  | .summary => ""
  | .memory => "--memory"
  | .block => "--block"

/-- What a client sends. -/
abbrev Request := Frame Operation

namespace Request

/-- Ask for a new block with a description and a content. -/
def alloc (description content : String) : Request :=
  ⟨.alloc, Payload.ofTexts [description, content]⟩

/-- Ask to replace the content of a block. -/
def update (identifier content : String) : Request :=
  ⟨.update, Payload.ofTexts [identifier, content]⟩

/-- Ask to free a block. -/
def delete (identifier : String) : Request :=
  ⟨.delete, Text.encode identifier⟩

/-- Ask for the content of a block. -/
def read (identifier : String) : Request :=
  ⟨.read, Text.encode identifier⟩

/-- Ask for a status report. -/
def status (detail : Detail) : Request :=
  ⟨.status, Text.encode detail.word⟩

/-- Ask whether the server is alive. -/
def ping : Request :=
  ⟨.ping, []⟩

/-- The fields of the payload. -/
def fields (request : Request) : List Bytes :=
  Payload.fields request.payload

end Request

/-! ## Replies -/

/-- A request that the server understood and did not carry out. -/
structure Refusal where
  status : Status
  /-- What the server says about it, possibly nothing. -/
  message : String
  deriving DecidableEq, Repr

/-- The wording of a refusal. -/
def Refusal.wording (refusal : Refusal) : String :=
  let name := refusal.status.name
  if refusal.message.isEmpty then s!"Operation failed [{name}]"
  else s!"Operation failed [{name}]: {refusal.message}"

/-- What a server sends. -/
abbrev Reply := Frame Status

namespace Reply

/-- A request was carried out. -/
def success (payload : Bytes) : Reply :=
  ⟨.success, payload⟩

/-- A request was not carried out. -/
def failure (status : Status) (message : String) : Reply :=
  ⟨status, Text.encode message⟩

/-- The payload as text. -/
def text (reply : Reply) : String :=
  Text.lossy reply.payload

/-- The text of a success, or the refusal. -/
def result (reply : Reply) : Except Refusal String :=
  if reply.tag.isSuccess then .ok reply.text
  else .error ⟨reply.tag, reply.text⟩

end Reply

end BlockWire
