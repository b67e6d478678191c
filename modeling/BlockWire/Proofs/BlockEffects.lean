import BlockWire.Proofs.Freshness

/-!
# What a request may change

A request that is not carried out changes nothing, and neither does one that
only asks.  The others change the store at one name: a new block is added under
a name that had none, an update replaces the content of a block and keeps its
description, and a block that is freed is gone.  Every other name has the block
that it had before.

`Effect` lists the ways in which a request can end, with the reply and the store
behind it.  What holds of every request is read off this list.
-/

namespace BlockWire.Store

/-! ## Operands in a payload -/

/-- A payload has operands if it has a separator: the text in front of the
first one, and all bytes behind it. -/
theorem operands_eq_some_iff
    {payload : Bytes} {name : String} {content : Bytes} :
    operands payload = some (name, content) ↔
      ∃ before, payload = before ++ Payload.separator :: content ∧
        Payload.separator ∉ before ∧ Text.lossy before = name := by
  simp only [operands, Option.map_eq_some_iff, Prod.mk.injEq, Prod.exists,
    Payload.splitFirst_eq_some_iff]
  constructor
  · rintro ⟨before, behind, ⟨isPayload, free⟩, isName, rfl⟩
    exact ⟨before, isPayload, free, isName⟩
  · rintro ⟨before, isPayload, free, isName⟩
    exact ⟨before, content, ⟨isPayload, free⟩, isName, rfl⟩

theorem target?_update_of_split
    {before content : Bytes} (free : Payload.separator ∉ before) :
    target? ⟨.update, before ++ Payload.separator :: content⟩ =
      some (Text.lossy before) := by
  simp only [target?, operands_eq_some_iff.mpr ⟨before, rfl, free, rfl⟩,
    Option.map_some]

/-- A status report and a sign of life are about no block. -/
theorem target?_of_asking
    {request : Request}
    (asking : request.tag = .status ∨ request.tag = .ping) :
    target? request = none := by
  rcases asking with isStatus | isPing
  · simp only [target?, isStatus]
  · simp only [target?, isPing]

/-! ## All that a request can do -/

/-- The reply to a request and the store behind it, in each way in which a
request can end. -/
inductive Effect (store : Store) : Request → Reply → Store → Prop where
  | made (before content : Bytes) (free : Payload.separator ∉ before) :
      Effect store ⟨.alloc, before ++ Payload.separator :: content⟩
        (.success (Text.encode (blockName (store.issued + 1))))
        (store.alloc ⟨Text.lossy before, content⟩).2
  | written (before content : Bytes) (free : Payload.separator ∉ before)
      (block : Block) (held : store.find? (Text.lossy before) = some block) :
      Effect store ⟨.update, before ++ Payload.separator :: content⟩
        (.success (Text.encode s!"Memory '{Text.lossy before}' updated"))
        (store.write (Text.lossy before) content)
  | freed (payload : Bytes) (block : Block)
      (held : store.find? (Text.lossy payload) = some block) :
      Effect store ⟨.delete, payload⟩
        (.success (Text.encode s!"Memory freed for '{Text.lossy payload}'"))
        (store.remove (Text.lossy payload))
  | shown (payload : Bytes) (block : Block)
      (held : store.find? (Text.lossy payload) = some block) :
      Effect store ⟨.read, payload⟩ (.success block.content) store
  | told (request : Request) (reply : Reply)
      (asking : request.tag = .status ∨ request.tag = .ping) :
      Effect store request reply store
  | refused (request : Request) (reply : Reply)
      (isRefusal : reply.tag ≠ .success)
      (absent : ∀ name, target? request = some name →
        store.find? name = none) :
      Effect store request reply store

theorem effect_handle_of_absent
    {request : Request} {name : String} {store : Store}
    (isTarget : target? request = some name)
    (absent : store.find? name = none) :
    Effect store request (store.handle request).1
      (store.handle request).2 := by
  rw [handle_of_absent isTarget absent]
  refine .refused request (missing name) (by simp [missing, Reply.failure]) ?_
  intro other isOther
  rw [isTarget] at isOther
  cases isOther
  exact absent

/-- Every request ends in one of these ways. -/
theorem effect_handle (request : Request) (store : Store) :
    Effect store request (store.handle request).1
      (store.handle request).2 := by
  obtain ⟨tag, payload⟩ := request
  cases tag with
  | alloc =>
      cases cut : operands payload with
      | none =>
          simp only [handle, cut]
          exact .refused _ _ (by simp [Reply.failure])
            (fun name isTarget => by cases isTarget)
      | some given =>
          obtain ⟨description, content⟩ := given
          simp only [handle, cut]
          rcases operands_eq_some_iff.mp cut with ⟨before, rfl, free, rfl⟩
          exact .made before content free
  | update =>
      cases cut : operands payload with
      | none =>
          simp only [handle, cut]
          exact .refused _ _ (by simp [Reply.failure])
            (by simp [target?, cut])
      | some given =>
          obtain ⟨name, content⟩ := given
          have isTarget : target? ⟨.update, payload⟩ = some name := by
            simp only [target?, cut, Option.map_some]
          cases held : store.find? name with
          | none => exact effect_handle_of_absent isTarget held
          | some block =>
              simp only [handle, cut, contains, held, Option.isSome_some,
                if_true]
              rcases operands_eq_some_iff.mp cut with ⟨before, rfl, free, rfl⟩
              exact .written before content free block held
  | delete =>
      have isTarget : target? ⟨.delete, payload⟩ =
          some (Text.lossy payload) := rfl
      cases held : store.find? (Text.lossy payload) with
      | none => exact effect_handle_of_absent isTarget held
      | some block =>
          simp only [handle, contains, held, Option.isSome_some, if_true]
          exact .freed payload block held
  | read =>
      have isTarget : target? ⟨.read, payload⟩ =
          some (Text.lossy payload) := rfl
      cases held : store.find? (Text.lossy payload) with
      | none => exact effect_handle_of_absent isTarget held
      | some block =>
          simp only [handle, held]
          exact .shown payload block held
  | status =>
      cases known : store.report (Text.lossy payload) <;>
        simp only [handle, known] <;>
        exact .told _ _ (.inl rfl)
  | ping => exact .told _ _ (.inr rfl)

/-! ## What follows for one request -/

section Effects

variable {store later : Store} {request : Request} {reply : Reply}

/-- A request that is not carried out leaves the store as it is. -/
theorem Effect.eq_of_refused
    (effect : Effect store request reply later)
    (refused : reply.tag ≠ .success) :
    later = store := by
  cases effect with
  | made => exact absurd rfl refused
  | written => exact absurd rfl refused
  | freed => exact absurd rfl refused
  | shown => rfl
  | told => rfl
  | refused => rfl

/-- Reading a block, a status report and a sign of life are only answers. -/
theorem Effect.eq_of_asking
    (effect : Effect store request reply later)
    (asking : request.tag = .read ∨ request.tag = .status ∨
      request.tag = .ping) :
    later = store := by
  cases effect with
  | made => simp at asking
  | written => simp at asking
  | freed => simp at asking
  | shown => rfl
  | told => rfl
  | refused => rfl

theorem Effect.made_of_success
    (effect : Effect store request reply later)
    (isAlloc : request.tag = .alloc) (granted : reply.tag = .success) :
    ∃ before content,
      request.payload = before ++ Payload.separator :: content ∧
        Payload.separator ∉ before ∧
        reply = .success (Text.encode (blockName (store.issued + 1))) ∧
        later = (store.alloc ⟨Text.lossy before, content⟩).2 := by
  cases effect with
  | made before content free => exact ⟨before, content, rfl, free, rfl, rfl⟩
  | written => cases isAlloc
  | freed => cases isAlloc
  | shown => cases isAlloc
  | told _ _ asking => simp [isAlloc] at asking
  | refused _ _ isRefusal => exact absurd granted isRefusal

theorem Effect.written_of_success
    (effect : Effect store request reply later)
    (isUpdate : request.tag = .update) (updated : reply.tag = .success) :
    ∃ before content block,
      request.payload = before ++ Payload.separator :: content ∧
        Payload.separator ∉ before ∧
        store.find? (Text.lossy before) = some block ∧
        later = store.write (Text.lossy before) content := by
  cases effect with
  | made => cases isUpdate
  | written before content free block held =>
      exact ⟨before, content, block, rfl, free, held, rfl⟩
  | freed => cases isUpdate
  | shown => cases isUpdate
  | told _ _ asking => simp [isUpdate] at asking
  | refused _ _ isRefusal => exact absurd updated isRefusal

theorem Effect.freed_of_success
    (effect : Effect store request reply later)
    (isDelete : request.tag = .delete) (deleted : reply.tag = .success) :
    ∃ block, store.find? (Text.lossy request.payload) = some block ∧
      later = store.remove (Text.lossy request.payload) := by
  cases effect with
  | made => cases isDelete
  | written => cases isDelete
  | freed payload block held => exact ⟨block, held, rfl⟩
  | shown => cases isDelete
  | told _ _ asking => simp [isDelete] at asking
  | refused _ _ isRefusal => exact absurd deleted isRefusal

end Effects

/-! ## One request after a run -/

/--
A request changes only what it names.

Take the store after any run and any further request.  If the answer is not a
success then the store is as it was, and it always is after a request to read,
for a status report, or for a sign of life.  A new block is the only one added,
under a name that had none, with the description and the content that the
payload gives, and the store has counted one more name.  An update replaces the
content of the block it names by what the payload gives, and keeps the
description.  A block that is freed is the only one removed.  No other name has
another block than before, and only a new block is counted.
-/
theorem handle_changes_only_named
    (requests : List Request) (request : Request) :
    let store := after requests
    let reply := (store.handle request).1
    let later := (store.handle request).2
    (reply.tag ≠ .success → later = store) ∧
    (request.tag = .read ∨ request.tag = .status ∨ request.tag = .ping →
      later = store) ∧
    (request.tag = .alloc → reply.tag = .success →
      ∃ before content name,
        request.payload = before ++ Payload.separator :: content ∧
          Payload.separator ∉ before ∧
          reply = .success (Text.encode name) ∧
          store.find? name = none ∧
          later.issued = store.issued + 1 ∧
          ∀ other, later.find? other =
            if other = name then some ⟨Text.lossy before, content⟩
            else store.find? other) ∧
    (request.tag = .update → reply.tag = .success →
      ∃ before content block,
        request.payload = before ++ Payload.separator :: content ∧
          Payload.separator ∉ before ∧
          store.find? (Text.lossy before) = some block ∧
          later.issued = store.issued ∧
          ∀ other, later.find? other =
            if other = Text.lossy before then
              some { block with content := content }
            else store.find? other) ∧
    (request.tag = .delete → reply.tag = .success →
      ∃ block,
        store.find? (Text.lossy request.payload) = some block ∧
          later.issued = store.issued ∧
          ∀ other, later.find? other =
            if other = Text.lossy request.payload then none
            else store.find? other) := by
  intro store reply later
  have effect : Effect store request reply later :=
    effect_handle request store
  refine ⟨effect.eq_of_refused, effect.eq_of_asking, ?_, ?_, ?_⟩
  · intro isAlloc granted
    rcases effect.made_of_success isAlloc granted with
      ⟨before, content, isPayload, free, isReply, made⟩
    rw [made]
    exact ⟨before, content, blockName (store.issued + 1), isPayload, free,
      isReply, (numbered_after requests).find?_next, rfl,
      fun other => find?_alloc _ other store⟩
  · intro isUpdate updated
    rcases effect.written_of_success isUpdate updated with
      ⟨before, content, block, isPayload, free, held, written⟩
    rw [written]
    refine ⟨before, content, block, isPayload, free, held, rfl, ?_⟩
    intro other
    rw [find?_write, held, Option.map_some]
  · intro isDelete deleted
    rcases effect.freed_of_success isDelete deleted with
      ⟨block, held, removed⟩
    rw [removed]
    exact ⟨block, held, rfl, fun other => find?_remove _ other store⟩

/-- Freeing the first of two blocks leaves the second one, and freeing it again
changes nothing. -/
theorem freeing_one_of_two :
    let two := [Request.alloc "" "first", Request.alloc "" "second"]
    let freeing := Request.delete "m1"
    ((after two).handle freeing).2.find? "m1" = none ∧
      ((after two).handle freeing).2.find? "m2" =
        (after two).find? "m2" ∧
      ((after (two ++ [freeing])).handle freeing).2 =
        after (two ++ [freeing]) := by
  intro two freeing
  rcases handle_changes_only_named two freeing with ⟨-, -, -, -, removed⟩
  rcases handle_changes_only_named (two ++ [freeing]) freeing with
    ⟨unchanged, -⟩
  rcases removed rfl (by decide) with ⟨block, -, -, found⟩
  have named : Text.lossy freeing.payload = "m1" := Text.lossy_encode "m1"
  rw [named] at found
  refine ⟨?_, ?_, unchanged (by decide)⟩
  · rw [found, if_pos rfl]
  · rw [found, if_neg (by decide)]

end BlockWire.Store
