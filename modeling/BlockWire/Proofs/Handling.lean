import BlockWire.Proofs.LossyText
import BlockWire.Server.Handle

/-!
# What handling a request does

Each request of a client is answered in one of at most two ways, and the store
afterwards differs from the one before in at most one block.  A text that a
client packs into a payload comes out of it unchanged, except that an
identifier or a description with a NUL is cut there, since the first separator
of a payload ends its first field.

The names in a store are names that it has issued, and names are numbered.  A
new name is therefore always a fresh one.
-/

namespace BlockWire

theorem blockName_inj {number other : Nat} :
    blockName number = blockName other ↔ number = other := by
  constructor
  · intro equal
    have digits : Nat.toDigits 10 number = Nat.toDigits 10 other := by
      have lists := congrArg String.toList equal
      simpa [blockName] using lists
    rw [← Nat.ofDigitChars_ten_toDigits (n := number), digits,
      Nat.ofDigitChars_ten_toDigits]
  · rintro rfl
    rfl

@[simp]
theorem Reply.result_success (payload : Bytes) :
    (Reply.success payload).result = .ok (Text.lossy payload) := rfl

theorem Reply.result_failure
    {status : Status} (refused : status ≠ .success) (message : String) :
    (Reply.failure status message).result = .error ⟨status, message⟩ := by
  simp [Reply.failure, Reply.result, Reply.text, Status.isSuccess, refused]

namespace Store

/-! ## What is found after a change -/

theorem find?_alloc (block : Block) (name : String) (store : Store) :
    (store.alloc block).2.find? name =
      if name = blockName (store.issued + 1) then some block
      else store.find? name := by
  show (store.put (blockName (store.issued + 1)) block).find? name = _
  split
  · rename_i isNew
    rw [isNew, find?_put_self]
  · rename_i notNew
    exact find?_put_of_ne notNew block store

theorem find?_remove (name other : String) (store : Store) :
    (store.remove name).find? other =
      if other = name then none else store.find? other := by
  split
  · rename_i isName
    rw [isName, find?_remove_self]
  · rename_i notName
    exact find?_remove_of_ne notName store

theorem find?_write
    (name other : String) (content : Bytes) (store : Store) :
    (store.write name content).find? other =
      if other = name then
        (store.find? name).map ({ · with content := content })
      else store.find? other := by
  simp only [find?, write]
  induction store.blocks with
  | nil => simp
  | cons entry rest induction =>
      obtain ⟨key, block⟩ := entry
      by_cases isKey : key = name
      · subst key
        by_cases isName : other = name
        · subst other
          simp
        · have passed : (other == name) = false := by simp [isName]
          simp only [List.map_cons, if_true, List.lookup_cons, passed]
          rw [induction, if_neg isName, if_neg isName]
      · simp only [List.map_cons, if_neg isKey, List.lookup_cons]
        by_cases found : other = key
        · subst other
          simp [isKey]
        · have passed : (other == key) = false := by simp [found]
          have notKey : (name == key) = false := by
            simp [Ne.symm isKey]
          simp only [passed, notKey]
          exact induction

/-! ## The requests of a client -/

/-- The payload of two texts is cut into them, unless the first one has a
NUL. -/
theorem operands_ofTexts
    {first : String} (free : '\x00' ∉ first.toList) (second : String) :
    operands (Payload.ofTexts [first, second]) =
      some (first, Text.encode second) := by
  have cut :
      Payload.splitFirst (Payload.ofTexts [first, second]) =
        some (Text.encode first, Text.encode second) := by
    apply Payload.splitFirst_append
    rwa [Text.separator_mem_encode_iff]
  rw [operands, cut]
  simp

/-- A first text with a NUL ends there, and the rest of it begins the second
one. -/
theorem ofTexts_of_nul (before rest second : String) :
    Payload.ofTexts [before ++ "\x00" ++ rest, second] =
      Payload.ofTexts [before, rest ++ "\x00" ++ second] := by
  have nul : Text.encode "\x00" = [Payload.separator] := by decide
  simp [Payload.ofTexts, Payload.join, Text.encode_append, nul]

theorem handle_alloc
    {description : String} (free : '\x00' ∉ description.toList)
    (content : String) (store : Store) :
    store.handle (.alloc description content) =
      (.success (Text.encode (blockName (store.issued + 1))),
        (store.alloc ⟨description, Text.encode content⟩).2) := by
  simp only [handle, Request.alloc, operands_ofTexts free]
  rfl

theorem handle_update
    {identifier : String} (free : '\x00' ∉ identifier.toList)
    (content : String) (store : Store) :
    store.handle (.update identifier content) =
      if store.contains identifier then
        (.success (Text.encode s!"Memory '{identifier}' updated"),
          store.write identifier (Text.encode content))
      else (missing identifier, store) := by
  simp only [handle, Request.update, operands_ofTexts free]

/-- An identifier with a NUL is not looked for: the update is the one of the
identifier in front of the NUL, with a longer content. -/
theorem handle_update_of_nul
    (before rest content : String) (store : Store) :
    store.handle (.update (before ++ "\x00" ++ rest) content) =
      store.handle (.update before (rest ++ "\x00" ++ content)) := by
  simp only [Request.update, ofTexts_of_nul]

theorem handle_delete (identifier : String) (store : Store) :
    store.handle (.delete identifier) =
      if store.contains identifier then
        (.success (Text.encode s!"Memory freed for '{identifier}'"),
          store.remove identifier)
      else (missing identifier, store) := by
  simp only [handle, Request.delete, Text.lossy_encode]

theorem handle_read (identifier : String) (store : Store) :
    store.handle (.read identifier) =
      match store.find? identifier with
      | some block => (.success block.content, store)
      | none => (missing identifier, store) := by
  cases found : store.find? identifier <;>
    simp only [handle, Request.read, Text.lossy_encode, found]

theorem store_handle_status (detail : Detail) (store : Store) :
    (store.handle (.status detail)).2 = store := by
  simp only [handle, Request.status]
  split <;> rfl

/-! ## Any request -/

/-- What a request does to a store, whatever the reply to a request that changes
nothing.  What a run keeps of the names is derived from it. -/
inductive Changes (request : Request) (store : Store) :
    Reply → Store → Prop where
  | made (isAlloc : request.tag = .alloc) (block : Block) :
      Changes request store
        (.success (Text.encode (blockName (store.issued + 1))))
        (store.alloc block).2
  | written (isUpdate : request.tag = .update)
      (name : String) (content : Bytes) (reply : Reply)
      (held : store.contains name = true) :
      Changes request store reply (store.write name content)
  | freed (isDelete : request.tag = .delete)
      (reply : Reply) (held : store.contains (Text.lossy request.payload)) :
      Changes request store reply
        (store.remove (Text.lossy request.payload))
  | kept (reply : Reply)
      (notMade : request.tag = .alloc → reply.tag ≠ .success) :
      Changes request store reply store

theorem changes_handle (request : Request) (store : Store) :
    Changes request store (store.handle request).1
      (store.handle request).2 := by
  unfold handle
  split
  case h_1 isAlloc =>
    split
    · exact .kept _ (fun _ refused => by cases refused)
    · exact .made isAlloc _
  case h_2 isUpdate =>
    have notAlloc : request.tag ≠ .alloc := by simp [isUpdate]
    split
    · exact .kept _ (fun isAlloc => absurd isAlloc notAlloc)
    · split
      · exact .written isUpdate _ _ _ ‹_›
      · exact .kept _ (fun isAlloc => absurd isAlloc notAlloc)
  case h_3 isDelete =>
    have notAlloc : request.tag ≠ .alloc := by simp [isDelete]
    simp only
    split
    · exact .freed isDelete _ ‹_›
    · exact .kept _ (fun isAlloc => absurd isAlloc notAlloc)
  case h_4 isRead =>
    have notAlloc : request.tag ≠ .alloc := by simp [isRead]
    simp only
    split
    · exact .kept _ (fun isAlloc => absurd isAlloc notAlloc)
    · exact .kept _ (fun isAlloc => absurd isAlloc notAlloc)
  case h_5 isStatus =>
    have notAlloc : request.tag ≠ .alloc := by simp [isStatus]
    simp only
    split
    · exact .kept _ (fun isAlloc => absurd isAlloc notAlloc)
    · exact .kept _ (fun isAlloc => absurd isAlloc notAlloc)
  case h_6 isPing =>
    exact .kept _ (fun isAlloc => absurd isAlloc (by simp [isPing]))

theorem issued_le_handle (request : Request) (store : Store) :
    store.issued ≤ (store.handle request).2.issued := by
  have changes := changes_handle request store
  generalize (store.handle request).1 = reply,
    (store.handle request).2 = later at changes ⊢
  cases changes with
  | made isAlloc block => exact Nat.le_succ _
  | written isUpdate name content reply held => exact Nat.le_refl _
  | freed isDelete reply held => exact Nat.le_refl _
  | kept reply notMade => exact Nat.le_refl _

/-- A name that has a block after a request had one before, or the request
issued it. -/
theorem isSome_find?_handle
    {request : Request} {name : String} {store : Store}
    (found : ((store.handle request).2.find? name).isSome) :
    (store.find? name).isSome ∨
      request.tag = .alloc ∧ name = blockName (store.issued + 1) ∧
        (store.handle request).1 = .success (Text.encode name) ∧
        (store.handle request).2.issued = store.issued + 1 := by
  have changes := changes_handle request store
  generalize (store.handle request).1 = reply,
    (store.handle request).2 = later at changes found ⊢
  cases changes with
  | made isAlloc block =>
      rw [find?_alloc] at found
      split at found
      · rename_i isNew
        exact .inr ⟨isAlloc, isNew, by rw [isNew], rfl⟩
      · exact .inl found
  | written isUpdate changed content reply held =>
      left
      rw [find?_write] at found
      split at found
      · rename_i isChanged
        simpa [isChanged] using found
      · exact found
  | freed isDelete reply held =>
      left
      rw [find?_remove] at found
      split at found
      · cases found
      · exact found
  | kept reply notMade => exact .inl found

end Store

end BlockWire
