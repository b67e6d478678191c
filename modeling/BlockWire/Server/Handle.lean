import BlockWire.Server.Store
import BlockWire.Wire.Message

/-!
# Answering requests

The memory server answers each request from its store alone.  A payload that
names a block and carries a content is cut at its first NUL byte, so that a
content may hold NUL bytes; names are read as text.
-/

namespace BlockWire.Store

/-- A name and a content, cut at the first NUL byte of a payload. -/
def operands (payload : Bytes) : Option (String × Bytes) :=
  (Payload.splitFirst payload).map fun (first, rest) =>
    (Text.lossy first, rest)

/-- The refusal for a name without a block. -/
def missing (name : String) : Reply :=
  .failure .notFound s!"Memory ID '{name}' not found."

/-- The names of the blocks in ascending order. -/
def sortedNames (store : Store) : List String :=
  store.names.mergeSort fun first second => decide (first ≤ second)

/-- The status report that a word asks for, if the word is known. -/
def report (word : String) (store : Store) : Option String :=
  if word = Detail.summary.word then
    some s!"Allocated entries: {store.blocks.length}"
  else if word = Detail.memory.word then
    let names := ",".intercalate store.sortedNames
    some s!"Memory IDs: {names}"
  else if word = Detail.block.word then some "Block listing"
  else none

/-- Answer a request. -/
def handle (request : Request) (store : Store) : Reply × Store :=
  match request.tag with
  | .alloc =>
      match operands request.payload with
      | none =>
          (.failure .invalidParameter "expected description and content",
            store)
      | some (description, content) =>
          let (name, store) := store.alloc ⟨description, content⟩
          (.success (Text.encode name), store)
  | .update =>
      match operands request.payload with
      | none => (.failure .invalidParameter "expected id and content", store)
      | some (name, content) =>
          if store.contains name then
            (.success (Text.encode s!"Memory '{name}' updated"),
              store.write name content)
          else (missing name, store)
  | .delete =>
      let name := Text.lossy request.payload
      if store.contains name then
        (.success (Text.encode s!"Memory freed for '{name}'"),
          store.remove name)
      else (missing name, store)
  | .read =>
      let name := Text.lossy request.payload
      match store.find? name with
      | some block => (.success block.content, store)
      | none => (missing name, store)
  | .status =>
      let word := Text.lossy request.payload
      match store.report word with
      | some report => (.success (Text.encode report), store)
      | none =>
          (.failure .invalidParameter s!"Unknown status mode: {word}", store)
  | .ping => (.success (Text.encode "PONG"), store)

/-- Answer several requests one after the other. -/
def handleAll : List Request → Store → List Reply × Store
  | [], store => ([], store)
  | request :: requests, store =>
      let (reply, store) := store.handle request
      let (replies, store) := handleAll requests store
      (reply :: replies, store)

end BlockWire.Store
