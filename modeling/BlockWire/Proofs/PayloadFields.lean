import BlockWire.Proofs.BlockEffects

/-!
# Fields on both sides

A sender joins texts into a payload.  A receiver takes a payload apart in one
of two ways: into its fields, at every separator, or into two operands, at the
first separator alone.

What was joined comes back as it was exactly if it has no separators of its
own, since a separator that stands in a text is taken for one between two
texts.  Nothing is lost in any case: joining the fields of a payload gives the
payload back, and joining all but the first gives the second operand.
-/

namespace BlockWire

/-- No part of a list that is cut at an element has the element. -/
theorem notMem_of_mem_splitOn
    {α : Type} [BEq α] [LawfulBEq α] {separator : α} {whole part : List α}
    (member : part ∈ whole.splitOn separator) :
    separator ∉ part := by
  induction whole generalizing part with
  | nil =>
      rw [List.splitOn_nil, List.mem_singleton] at member
      rw [member]
      exact List.not_mem_nil
  | cons element rest induction =>
      rw [List.splitOn_cons_eq_if_modifyHead] at member
      rcases List.exists_cons_of_ne_nil
          (List.splitOn_ne_nil separator rest) with
        ⟨first, others, found⟩
      rw [found] at member induction
      split at member
      · rcases List.mem_cons.mp member with rfl | isLater
        · exact List.not_mem_nil
        · exact induction isLater
      · rename_i isOther
        rw [List.modifyHead_cons] at member
        rcases List.mem_cons.mp member with rfl | isLater
        · have free := induction List.mem_cons_self
          rw [beq_iff_eq] at isOther
          simp [Ne.symm isOther, free]
        · exact induction (List.mem_cons_of_mem first isLater)

namespace Payload

/-! ## Fields of any bytes -/

/-- The fields are what lies between the separators. -/
theorem fields_eq_splitOn (payload : Bytes) :
    fields payload = payload.splitOn separator := by
  induction payload with
  | nil => rfl
  | cons byte rest induction =>
      rw [List.splitOn_cons_eq_if_modifyHead, ← induction]
      by_cases isSeparator : byte = separator
      · simp [fields, isSeparator]
      · rcases List.exists_cons_of_ne_nil (fields_ne_nil rest) with
          ⟨field, others, found⟩
        simp [fields, isSeparator, found]

theorem separator_notMem_of_mem_fields
    {payload field : Bytes} (member : field ∈ fields payload) :
    separator ∉ field := by
  rw [fields_eq_splitOn] at member
  exact notMem_of_mem_splitOn member

theorem join_cons
    (part : Bytes) {others : List Bytes} (more : others ≠ []) :
    join (part :: others) = part ++ separator :: join others := by
  rcases List.exists_cons_of_ne_nil more with ⟨next, rest, rfl⟩
  rfl

theorem join_eq_intercalate (parts : List Bytes) :
    join parts = [separator].intercalate parts := by
  induction parts with
  | nil => rfl
  | cons part others induction =>
      cases others with
      | nil => simp [join]
      | cons next rest =>
          rw [join_cons part (List.cons_ne_nil next rest), induction,
            List.intercalate_cons_cons, List.append_assoc,
            List.singleton_append]

/-- The fields of what was joined are the fields of each part in turn. -/
theorem fields_join {parts : List Bytes} (nonempty : parts ≠ []) :
    fields (join parts) = parts.flatMap fields := by
  induction parts with
  | nil => exact absurd rfl nonempty
  | cons part others induction =>
      by_cases more : others = []
      · simp [more, join]
      · rw [join_cons part more, fields_eq_splitOn,
          List.splitOn_append_cons_self, ← fields_eq_splitOn,
          ← fields_eq_splitOn, induction more, List.flatMap_cons]

/-- What was joined comes back exactly if there was something to join and no
part of it has separators of its own. -/
theorem fields_join_eq_self_iff {parts : List Bytes} :
    fields (join parts) = parts ↔
      parts ≠ [] ∧ ∀ part ∈ parts, separator ∉ part := by
  constructor
  · intro same
    refine ⟨fun none => fields_ne_nil _ (same.trans none), ?_⟩
    intro part member
    rw [← same] at member
    exact separator_notMem_of_mem_fields member
  · rintro ⟨nonempty, free⟩
    rw [fields_eq_splitOn, join_eq_intercalate,
      List.splitOn_intercalate separator free nonempty]

/-- Cutting a payload at its first separator gives its first field and its
other fields joined, if it has other ones. -/
theorem splitFirst_eq_some_iff_fields {payload before after : Bytes} :
    splitFirst payload = some (before, after) ↔
      ∃ others, fields payload = before :: others ∧ others ≠ [] ∧
        join others = after := by
  rw [splitFirst_eq_some_iff]
  constructor
  · rintro ⟨rfl, free⟩
    refine ⟨fields after, ?_, fields_ne_nil after, join_fields after⟩
    rw [fields_eq_splitOn, fields_eq_splitOn,
      List.splitOn_append_cons_self_of_not_mem free]
  · rintro ⟨others, found, more, rfl⟩
    constructor
    · rw [← join_cons before more, ← found, join_fields]
    · exact separator_notMem_of_mem_fields (found ▸ List.mem_cons_self)

/-! ## Fields of texts -/

/-- The pieces of a text between its NUL characters. -/
def pieces (text : String) : List String :=
  (text.toList.splitOn '\x00').map String.ofList

/-- A separator between the bytes of texts is a NUL between the texts. -/
theorem join_map_flatMap_encodeChar (parts : List (List Char)) :
    join (parts.map fun part => part.flatMap String.utf8EncodeChar) =
      (['\x00'].intercalate parts).flatMap String.utf8EncodeChar := by
  have nul : String.utf8EncodeChar '\x00' = [separator] := by decide
  induction parts with
  | nil => rfl
  | cons part others induction =>
      cases others with
      | nil => simp [join]
      | cons next rest =>
          rw [List.map_cons, join_cons _ (by simp), induction,
            List.intercalate_cons_cons]
          simp [nul]

theorem nul_notMem_of_mem_pieces
    {text piece : String} (member : piece ∈ pieces text) :
    '\x00' ∉ piece.toList := by
  rcases List.mem_map.mp member with ⟨characters, isPart, rfl⟩
  rw [String.toList_ofList]
  exact notMem_of_mem_splitOn isPart

theorem ofTexts_pieces (text : String) :
    ofTexts (pieces text) = Text.encode text := by
  have parts : (pieces text).map Text.encode =
      (text.toList.splitOn '\x00').map fun part =>
        part.flatMap String.utf8EncodeChar := by
    simp [pieces, Text.encode]
  rw [ofTexts, parts, join_map_flatMap_encodeChar, List.intercalate_splitOn]
  rfl

/-- The fields of a text are its pieces. -/
theorem fields_encode (text : String) :
    fields (Text.encode text) = (pieces text).map Text.encode := by
  rw [← ofTexts_pieces text, ofTexts, fields_join_eq_self_iff]
  constructor
  · simp [pieces]
  · intro part member
    rcases List.mem_map.mp member with ⟨piece, isPiece, rfl⟩
    rw [Text.separator_mem_encode_iff]
    exact nul_notMem_of_mem_pieces isPiece

theorem fields_ofTexts {texts : List String} (nonempty : texts ≠ []) :
    fields (ofTexts texts) = (texts.flatMap pieces).map Text.encode := by
  rw [ofTexts, fields_join (by simpa using nonempty), List.flatMap_map,
    List.map_flatMap]
  exact List.flatMap_congr fun text _ => fields_encode text

theorem fields_ofTexts_eq_iff
    {texts : List String} (nonempty : texts ≠ []) :
    fields (ofTexts texts) = texts.map Text.encode ↔
      ∀ text ∈ texts, '\x00' ∉ text.toList := by
  rw [ofTexts, fields_join_eq_self_iff]
  simp [nonempty, Text.separator_mem_encode_iff]

end Payload

/-! ## Operands -/

namespace Store

/-- A payload with more than one field has operands: the text of the first
field, and the other fields joined again. -/
theorem operands_eq_some_iff_fields
    {payload : Bytes} {name : String} {content : Bytes} :
    operands payload = some (name, content) ↔
      ∃ first others, Payload.fields payload = first :: others ∧
        others ≠ [] ∧ Text.lossy first = name ∧
        Payload.join others = content := by
  simp only [operands, Option.map_eq_some_iff, Prod.mk.injEq, Prod.exists,
    Payload.splitFirst_eq_some_iff_fields]
  constructor
  · rintro ⟨first, -, ⟨others, found, more, rfl⟩, isName, rfl⟩
    exact ⟨first, others, found, more, isName, rfl⟩
  · rintro ⟨first, others, found, more, isName, rfl⟩
    exact ⟨first, _, ⟨others, found, more, rfl⟩, isName, rfl⟩

theorem isSome_operands_iff (payload : Bytes) :
    (operands payload).isSome ↔ 2 ≤ (Payload.fields payload).length := by
  rw [Option.isSome_iff_exists]
  constructor
  · rintro ⟨⟨name, content⟩, isSome⟩
    rcases operands_eq_some_iff_fields.mp isSome with
      ⟨first, others, found, more, -, -⟩
    have positive := List.length_pos_iff.mpr more
    rw [found, List.length_cons]
    omega
  · intro two
    rcases List.exists_cons_of_ne_nil (Payload.fields_ne_nil payload) with
      ⟨first, others, found⟩
    have more : others ≠ [] := by
      rintro rfl
      simp [found] at two
    exact ⟨_, operands_eq_some_iff_fields.mpr
      ⟨first, others, found, more, rfl, rfl⟩⟩

end Store

/-! ## Both sides -/

/--
Joining and taking apart agree.

The fields of a request whose payload was joined from texts are the pieces of
each text between its NUL characters, one text after the other; they are the
texts themselves if and only if no text has a NUL.  Joining the fields of any
payload gives the payload back.  A payload has operands if and only if it has
at least two fields: the first operand is the lossy text of the first field,
and the second one is made of all other fields, joined again.  Two texts, of
which the first one has no NUL, are therefore the operands of the payload that
they are joined into.
-/
theorem joining_and_taking_apart_agree
    (operation : Operation) (texts : List String) (nonempty : texts ≠ [])
    (payload : Bytes) :
    Request.fields ⟨operation, Payload.ofTexts texts⟩ =
      (texts.flatMap Payload.pieces).map Text.encode ∧
    (Request.fields ⟨operation, Payload.ofTexts texts⟩ =
        texts.map Text.encode ↔
      ∀ text ∈ texts, '\x00' ∉ text.toList) ∧
    Payload.join (Request.fields ⟨operation, payload⟩) = payload ∧
    ((Store.operands payload).isSome ↔
      2 ≤ (Request.fields ⟨operation, payload⟩).length) ∧
    (∀ first others,
      Request.fields ⟨operation, payload⟩ = first :: others → others ≠ [] →
        Store.operands payload =
          some (Text.lossy first, Payload.join others)) ∧
    ∀ first second : String, '\x00' ∉ first.toList →
      Store.operands (Payload.ofTexts [first, second]) =
        some (first, Text.encode second) := by
  refine ⟨Payload.fields_ofTexts nonempty,
    Payload.fields_ofTexts_eq_iff nonempty, Payload.join_fields payload,
    Store.isSome_operands_iff payload, ?_, ?_⟩
  · intro first others found more
    exact Store.operands_eq_some_iff_fields.mpr
      ⟨first, others, found, more, rfl, rfl⟩
  · intro first second free
    exact Store.operands_ofTexts free second

/-- A text between two NULs has two empty fields around it, an empty text is
an empty field, and a payload that begins with a NUL has an empty first
operand. -/
theorem fields_of_text_between_nuls :
    Request.fields ⟨.alloc, Payload.ofTexts ["\x00é\x00", ""]⟩ =
      [[], [195, 169], [], []] ∧
    Request.fields ⟨.alloc, Payload.ofTexts ["\x00é\x00", ""]⟩ ≠
      ["\x00é\x00", ""].map Text.encode ∧
    Store.operands [0, 255, 0, 0] = some ("", [255, 0, 0]) ∧
    Store.operands (Payload.ofTexts ["m1", "\x00x"]) =
      some ("m1", [0, 120]) := by
  rcases joining_and_taking_apart_agree .alloc ["\x00é\x00", ""] (by simp)
    [0, 255, 0, 0] with ⟨found, same, -, -, cut, plain⟩
  refine ⟨?_, ?_, ?_, ?_⟩
  · rw [found]
    decide
  · rw [Ne, same]
    decide
  · rw [cut [] [[255], [], []] (by decide) (by decide)]
    rfl
  · rw [plain "m1" "\x00x" (by decide)]
    decide

end BlockWire
