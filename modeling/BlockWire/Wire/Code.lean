import BlockWire.Wire.Fault

/-!
# One-byte codes

A frame begins with one byte that names an operation or a status.  Both are
closed enumerations: every member has one code, and a byte that is the code
of no member is a fault of its own.
-/

namespace BlockWire

/-- A closed enumeration whose members travel as one byte. -/
class Coded (κ : Type) where
  code : κ → UInt8
  ofCode? : UInt8 → Option κ
  /-- The fault of a byte that stands for no member. -/
  unknown : UInt8 → FrameFault
  /-- An unknown code is not a matter of missing bytes. -/
  received?_unknown : ∀ byte, (unknown byte).received? = none
  ofCode?_code : ∀ member, ofCode? (code member) = some member
  code_of_ofCode? : ∀ byte member, ofCode? byte = some member →
    code member = byte

/-- The member that a code stands for, or the fault of an unknown code. -/
def Coded.ofCode {κ : Type} [Coded κ] (byte : UInt8) : Except FrameFault κ :=
  match Coded.ofCode? byte with
  | some member => .ok member
  | none => .error (Coded.unknown κ byte)

/-! ## Operations -/

/-- What a request asks the memory server to do. -/
inductive Operation where
  | alloc
  | update
  | delete
  | read
  | status
  | ping
  deriving DecidableEq, Repr

namespace Operation

/-- The name of an operation. -/
def name : Operation → String
  | .alloc => "ALLOC"
  | .update => "UPDATE"
  | .delete => "DELETE"
  | .read => "READ"
  | .status => "STATUS"
  | .ping => "PING"

/-- The code of an operation. -/
def code : Operation → UInt8
  | .alloc => 1
  | .update => 2
  | .delete => 3
  | .read => 4
  | .status => 5
  | .ping => 6

/-- The operation that a code stands for. -/
def ofCode? : UInt8 → Option Operation
  | 1 => some .alloc
  | 2 => some .update
  | 3 => some .delete
  | 4 => some .read
  | 5 => some .status
  | 6 => some .ping
  | _ => none

instance : Coded Operation where
  code := code
  ofCode? := ofCode?
  unknown := .unknownOperation
  received?_unknown _ := rfl
  ofCode?_code member := by cases member <;> rfl
  code_of_ofCode? byte member found := by
    unfold ofCode? at found
    split at found <;> simp_all [code]
    all_goals subst found; rfl

end Operation

/-! ## Statuses -/

/-- How the memory server answers a request. -/
inductive Status where
  | success
  | invalidOperation
  | invalidParameter
  | outOfMemory
  | notFound
  | alreadyExists
  | internalError
  deriving DecidableEq, Repr

namespace Status

/-- The name of a status. -/
def name : Status → String
  | .success => "SUCCESS"
  | .invalidOperation => "INVALID_CMD"
  | .invalidParameter => "INVALID_PARAM"
  | .outOfMemory => "NO_MEMORY"
  | .notFound => "NOT_FOUND"
  | .alreadyExists => "ALREADY_EXISTS"
  | .internalError => "INTERNAL_ERROR"

/-- Whether the request was carried out. -/
def isSuccess (status : Status) : Bool :=
  status = .success

/-- The code of a status. -/
def code : Status → UInt8
  | .success => 0
  | .invalidOperation => 1
  | .invalidParameter => 2
  | .outOfMemory => 3
  | .notFound => 4
  | .alreadyExists => 5
  | .internalError => 255

/-- The status that a code stands for. -/
def ofCode? : UInt8 → Option Status
  | 0 => some .success
  | 1 => some .invalidOperation
  | 2 => some .invalidParameter
  | 3 => some .outOfMemory
  | 4 => some .notFound
  | 5 => some .alreadyExists
  | 255 => some .internalError
  | _ => none

instance : Coded Status where
  code := code
  ofCode? := ofCode?
  unknown := .unknownStatus
  received?_unknown _ := rfl
  ofCode?_code member := by cases member <;> rfl
  code_of_ofCode? byte member found := by
    unfold ofCode? at found
    split at found <;> simp_all [code]
    all_goals subst found; rfl

end Status

end BlockWire
