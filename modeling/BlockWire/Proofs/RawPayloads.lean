import BlockWire.Proofs.BlockEffects
import BlockWire.Proofs.WellFormedText

/-!
# Payloads that name a block

Names are looked up as text, and the lossy reading makes the same text of many
byte sequences.  No two of them name the same block: every name in a store is
an issued one, which has neither a replacement character nor a NUL in it, so
only its own bytes are read as it.

A payload of any bytes therefore names a block only if it is, or up to its first
separator is, byte for byte the name of the block.
-/

namespace BlockWire

/-! ## The characters of names -/

theorem eq_or_isDigit_of_mem_blockName
    {number : Nat} {character : Char}
    (member : character ∈ (blockName number).toList) :
    character = 'm' ∨ character.isDigit = true := by
  have characters :
      (blockName number).toList = 'm' :: Nat.toDigits 10 number := by
    simp [blockName]
    rfl
  rw [characters] at member
  rcases List.mem_cons.mp member with isFirst | isDigit
  · exact .inl isFirst
  · exact .inr (Nat.isDigit_of_mem_toDigits (by decide) (by decide) isDigit)

theorem replacement_notMem_blockName (number : Nat) :
    Text.replacement ∉ (blockName number).toList := by
  intro member
  rcases eq_or_isDigit_of_mem_blockName member with isFirst | isDigit
  · exact absurd isFirst (by decide)
  · exact absurd isDigit (by decide)

theorem separator_notMem_encode_blockName (number : Nat) :
    Payload.separator ∉ Text.encode (blockName number) := by
  rw [Text.separator_mem_encode_iff]
  intro member
  rcases eq_or_isDigit_of_mem_blockName member with isFirst | isDigit
  · exact absurd isFirst (by decide)
  · exact absurd isDigit (by decide)

namespace Store

/-! ## Bytes that are read as a name in a store -/

/-- Only its own bytes are read as the name of a block. -/
theorem Numbered.eq_encode
    {store : Store} (numbered : store.Numbered) {bytes : Bytes}
    (held : (store.find? (Text.lossy bytes)).isSome) :
    bytes = Text.encode (Text.lossy bytes) := by
  rcases numbered _ held with ⟨number, -, isName⟩
  have unreplaced := replacement_notMem_blockName number
  rw [← isName] at unreplaced
  exact (Text.encode_lossy unreplaced).symm

theorem Numbered.separator_notMem
    {store : Store} (numbered : store.Numbered) {name : String}
    (held : (store.find? name).isSome) :
    Payload.separator ∉ Text.encode name := by
  rcases numbered name held with ⟨number, -, rfl⟩
  exact separator_notMem_encode_blockName number

theorem mem_names_iff {name : String} {store : Store} :
    name ∈ store.names ↔ (store.find? name).isSome := by
  constructor
  · exact isSome_find?_of_mem_names
  · intro held
    rcases List.lookup_isSome_iff.mp held with ⟨entry, member, same⟩
    rw [beq_iff_eq] at same
    exact List.mem_map.mpr ⟨entry, member, same.symm⟩

/-- The lossy reading of some bytes is a name in a store exactly if the bytes
are those of a name in it. -/
theorem Numbered.isSome_find?_lossy_iff
    {store : Store} (numbered : store.Numbered) {bytes : Bytes} :
    (store.find? (Text.lossy bytes)).isSome ↔
      ∃ name ∈ store.names, bytes = Text.encode name := by
  constructor
  · intro held
    exact ⟨_, mem_names_iff.mpr held, numbered.eq_encode held⟩
  · rintro ⟨name, member, rfl⟩
    rw [Text.lossy_encode]
    exact mem_names_iff.mp member

/-! ## Requests with such payloads -/

/-- A request about a block is carried out exactly if the block is there. -/
theorem Effect.tag_eq_success_iff
    {store later : Store} {request : Request} {reply : Reply}
    (effect : Effect store request reply later)
    {name : String} (isTarget : target? request = some name) :
    reply.tag = .success ↔ (store.find? name).isSome := by
  cases effect with
  | made => cases isTarget
  | written before content free block held =>
      rw [target?_update_of_split free] at isTarget
      cases isTarget
      simp [held, Reply.success]
  | freed payload block held =>
      cases isTarget
      simp [held, Reply.success]
  | shown payload block held =>
      cases isTarget
      simp [held, Reply.success]
  | told _ _ asking =>
      rw [target?_of_asking asking] at isTarget
      cases isTarget
  | refused _ _ isRefusal absent => simp [isRefusal, absent name isTarget]

/-- An update names a block in front of its first separator. -/
theorem Numbered.tag_handle_update_iff
    {store : Store} (numbered : store.Numbered) {payload : Bytes} :
    (store.handle ⟨.update, payload⟩).1.tag = .success ↔
      ∃ before content,
        payload = before ++ Payload.separator :: content ∧
          Payload.separator ∉ before ∧
          ∃ name ∈ store.names, before = Text.encode name := by
  constructor
  · intro success
    rcases (effect_handle ⟨.update, payload⟩ store).written_of_success rfl
        success with
      ⟨before, content, block, isPayload, free, found, -⟩
    refine ⟨before, content, isPayload, free, ?_⟩
    rw [← numbered.isSome_find?_lossy_iff, found]
    rfl
  · rintro ⟨before, content, rfl, free, named⟩
    rw [(effect_handle _ store).tag_eq_success_iff
        (target?_update_of_split free),
      numbered.isSome_find?_lossy_iff]
    exact named

/-! ## What becomes of the block -/

theorem handle_read_of_held
    {store : Store} {name : String} {block : Block}
    (held : store.find? name = some block) :
    store.handle ⟨.read, Text.encode name⟩ =
      (.success block.content, store) := by
  simp only [handle, Text.lossy_encode, held]

theorem find?_handle_delete_of_held
    {store : Store} {name : String} {block : Block}
    (held : store.find? name = some block) (other : String) :
    (store.handle ⟨.delete, Text.encode name⟩).2.find? other =
      if other = name then none else store.find? other := by
  simp only [handle, Text.lossy_encode, contains, held, Option.isSome_some,
    if_true, find?_remove]

theorem find?_handle_update_of_held
    {store : Store} (numbered : store.Numbered)
    {name : String} {block : Block} (held : store.find? name = some block)
    (content : Bytes) (other : String) :
    (store.handle ⟨.update,
        Text.encode name ++ Payload.separator :: content⟩).2.find? other =
      if other = name then some { block with content := content }
      else store.find? other := by
  have free : Payload.separator ∉ Text.encode name :=
    numbered.separator_notMem (by rw [held]; rfl)
  have cut :
      operands (Text.encode name ++ Payload.separator :: content) =
        some (name, content) :=
    operands_eq_some_iff.mpr ⟨_, rfl, free, Text.lossy_encode name⟩
  simp only [handle, cut, contains, held, Option.isSome_some, if_true,
    find?_write, Option.map_some]

/-! ## Requests of any bytes -/

/--
No payload is an alias of a block.

Take the store after any run and any payload, be it well-formed text or not.  A
request to read or to free a block is carried out if and only if its payload is
byte for byte the name of a block.  An update is carried out if and only if its
payload has a NUL and the bytes in front of the first one are byte for byte the
name of a block.  It is then this block whose content is read, that is removed,
or whose content is replaced by the bytes behind the first NUL, and every other
name has the block that it had before.
-/
theorem raw_payload_is_no_alias
    (requests : List Request) (payload : Bytes) :
    let store := after requests
    ((store.handle ⟨.read, payload⟩).1.tag = .success ↔
      ∃ name ∈ store.names, payload = Text.encode name) ∧
    ((store.handle ⟨.delete, payload⟩).1.tag = .success ↔
      ∃ name ∈ store.names, payload = Text.encode name) ∧
    ((store.handle ⟨.update, payload⟩).1.tag = .success ↔
      ∃ before content,
        payload = before ++ Payload.separator :: content ∧
          Payload.separator ∉ before ∧
          ∃ name ∈ store.names, before = Text.encode name) ∧
    (∀ name block, store.find? name = some block →
      (payload = Text.encode name →
        store.handle ⟨.read, payload⟩ = (.success block.content, store) ∧
        ∀ other, (store.handle ⟨.delete, payload⟩).2.find? other =
          if other = name then none else store.find? other) ∧
      ∀ content,
        payload = Text.encode name ++ Payload.separator :: content →
          ∀ other, (store.handle ⟨.update, payload⟩).2.find? other =
            if other = name then some { block with content := content }
            else store.find? other) := by
  intro store
  have numbered : store.Numbered := numbered_after requests
  refine ⟨?_, ?_, numbered.tag_handle_update_iff, ?_⟩
  · have isTarget : target? ⟨.read, payload⟩ =
        some (Text.lossy payload) := rfl
    rw [(effect_handle _ store).tag_eq_success_iff isTarget,
      numbered.isSome_find?_lossy_iff]
  · have isTarget : target? ⟨.delete, payload⟩ =
        some (Text.lossy payload) := rfl
    rw [(effect_handle _ store).tag_eq_success_iff isTarget,
      numbered.isSome_find?_lossy_iff]
  · intro name block held
    refine ⟨?_, ?_⟩
    · rintro rfl
      exact ⟨handle_read_of_held held, find?_handle_delete_of_held held⟩
    · rintro content rfl
      exact find?_handle_update_of_held numbered held content

/-- A malformed byte behind the name of a block makes it another name, and an
update with two NULs keeps the second one in the content. -/
theorem read_malformed_and_update_with_two_nuls :
    let one := [Request.alloc "" "old"]
    ((after one).handle ⟨.read, [109, 49, 255]⟩).1.tag ≠ .success ∧
      ((after one).handle ⟨.update, [109, 49, 0, 120, 0]⟩).2.find? "m1" =
        some ⟨"", [120, 0]⟩ := by
  intro one
  rcases raw_payload_is_no_alias one [109, 49, 255] with ⟨read, -⟩
  rcases raw_payload_is_no_alias one [109, 49, 0, 120, 0] with
    ⟨-, -, -, effects⟩
  have held : (after one).find? "m1" = some ⟨"", Text.encode "old"⟩ := by
    decide
  refine ⟨?_, ?_⟩
  · rw [Ne, read]
    decide
  · rw [(effects "m1" _ held).2 [120, 0] (by decide) "m1", if_pos rfl]

end Store

end BlockWire
