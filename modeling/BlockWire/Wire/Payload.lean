import BlockWire.Text.Utf8

/-!
# Fields of a payload

A payload that carries several texts has one NUL byte between each text and
the next.  The sender only joins texts.  A receiver either takes a payload
apart at every separator, or at the first one alone, when the last field is
free to hold NUL bytes of its own.
-/

namespace BlockWire.Payload

/-- The byte between two fields. -/
def separator : UInt8 := 0

/-- Byte sequences with one separator between each and the next. -/
def join : List Bytes → Bytes
  | [] => []
  | [field] => field
  | field :: next :: rest => field ++ separator :: join (next :: rest)

/-- The payload that carries some texts. -/
def ofTexts (texts : List String) : Bytes :=
  join (texts.map Text.encode)

/-- The fields of a payload: what lies before, between and after its
separators.  A payload without separators is one field. -/
def fields : Bytes → List Bytes
  | [] => [[]]
  | byte :: rest =>
      if byte = separator then [] :: fields rest
      else
        match fields rest with
        | [] => [[byte]]
        | field :: others => (byte :: field) :: others

/-- A payload has at least one field, be it an empty one. -/
theorem fields_ne_nil (payload : Bytes) : fields payload ≠ [] := by
  cases payload with
  | nil => simp [fields]
  | cons byte rest =>
      simp only [fields]
      split
      · simp
      · split <;> simp

/-- Joining the fields of a payload gives the payload back. -/
@[simp]
theorem join_fields (payload : Bytes) : join (fields payload) = payload := by
  induction payload with
  | nil => rfl
  | cons byte rest ih =>
      simp only [fields]
      split
      · rename_i isSeparator
        obtain ⟨field, others, found⟩ :=
          List.exists_cons_of_ne_nil (fields_ne_nil rest)
        rw [found] at ih ⊢
        simp [join, isSeparator, ih]
      · split
        · rename_i none
          exact absurd none (fields_ne_nil rest)
        · rename_i field others found
          rw [found] at ih
          rw [← ih]
          cases others <;> simp [join]

/-- What lies before the first separator and what after it, if there is
one. -/
def splitFirst : Bytes → Option (Bytes × Bytes)
  | [] => none
  | byte :: rest =>
      if byte = separator then some ([], rest)
      else (splitFirst rest).map fun (before, after) => (byte :: before, after)

/-- A part without separators is all that lies before the first one. -/
theorem splitFirst_append (before after : Bytes)
    (free : separator ∉ before) :
    splitFirst (before ++ separator :: after) = some (before, after) := by
  induction before with
  | nil => simp [splitFirst]
  | cons byte rest ih =>
      simp only [List.mem_cons, not_or] at free
      have different : byte ≠ separator := fun same => free.1 same.symm
      simp [splitFirst, different, ih free.2]

/-- Cutting gives the part without separators in front of the first one, and
all that is behind it. -/
theorem splitFirst_eq_some_iff {payload before after : Bytes} :
    splitFirst payload = some (before, after) ↔
      payload = before ++ separator :: after ∧ separator ∉ before := by
  constructor
  · intro cut
    induction payload generalizing before with
    | nil => simp [splitFirst] at cut
    | cons byte rest ih =>
        by_cases same : byte = separator
        · simp only [splitFirst, same, if_true, Option.some.injEq,
            Prod.mk.injEq] at cut
          obtain ⟨rfl, rfl⟩ := cut
          simp [same]
        · simp only [splitFirst, same, if_false, Option.map_eq_some_iff,
            Prod.mk.injEq] at cut
          obtain ⟨⟨front, back⟩, cutRest, rfl, rfl⟩ := cut
          obtain ⟨rfl, free⟩ := ih cutRest
          refine ⟨rfl, ?_⟩
          simp [free, Ne.symm same]
  · rintro ⟨rfl, free⟩
    exact splitFirst_append before after free

end BlockWire.Payload
