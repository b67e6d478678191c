import BlockWire.Proofs.Unissued
import Mathlib.Data.List.Nodup

/-!
# Names are fresh for ever

The requests for a new block that succeed are numbered in the order in which
they are answered, and each is answered with the name of its number.  A store
counts them, so that no name is issued twice, whatever is freed in between.

A name is spent once its block is freed: it was issued before and has no block.
No request makes a block under a spent name, since a new block gets the next
name.  Whatever else is asked for later, the name is not found.
-/

namespace BlockWire.Store

/-! ## Requests about a block -/

/-- The name that a request is about, if it reads, changes or frees a block.
An update without a separator names no block. -/
def target? (request : Request) : Option String :=
  match request.tag with
  | .alloc => none
  | .update => (operands request.payload).map Prod.fst
  | .delete => some (Text.lossy request.payload)
  | .read => some (Text.lossy request.payload)
  | .status => none
  | .ping => none

/-- A request about a name without a block is refused and changes nothing. -/
theorem handle_of_absent
    {request : Request} {name : String} {store : Store}
    (isTarget : target? request = some name)
    (absent : store.find? name = none) :
    store.handle request = (missing name, store) := by
  obtain ⟨tag, payload⟩ := request
  have notHeld : store.contains name = false := by
    rw [contains, absent]
    rfl
  cases tag with
  | alloc => cases isTarget
  | update =>
      simp only [target?, Option.map_eq_some_iff] at isTarget
      rcases isTarget with ⟨⟨named, content⟩, cut, rfl⟩
      simp only [handle, cut, notHeld, Bool.false_eq_true, if_false]
  | delete =>
      cases isTarget
      simp only [handle, notHeld, Bool.false_eq_true, if_false]
  | read =>
      cases isTarget
      simp only [handle, absent]
  | status => cases isTarget
  | ping => cases isTarget

/-- Freeing the block of a name leaves none under it. -/
theorem find?_of_freed
    {request : Request} {name : String} {store : Store}
    (isDelete : request.tag = .delete)
    (isTarget : target? request = some name)
    (freed : (store.handle request).1.tag = .success) :
    (store.find? name).isSome ∧
      (store.handle request).2.find? name = none := by
  obtain ⟨tag, payload⟩ := request
  cases isDelete
  cases isTarget
  cases held : store.contains (Text.lossy payload) with
  | false =>
      simp only [handle, held, Bool.false_eq_true, if_false] at freed
      cases freed
  | true =>
      refine ⟨held, ?_⟩
      simp only [handle, held, if_true, find?_remove_self]

/-! ## The numbers of new blocks -/

/-- Whether a request for a new block was answered with success. -/
def isGrant (exchange : Request × Reply) : Bool :=
  exchange.1.tag = .alloc ∧ exchange.2.tag = .success

theorem isGrant_iff {exchange : Request × Reply} :
    isGrant exchange = true ↔
      exchange.1.tag = .alloc ∧ exchange.2.tag = .success :=
  decide_eq_true_iff

theorem Issues.isGrant
    {name : String} {exchange : Request × Reply}
    (issues : Issues name exchange) : isGrant exchange = true := by
  rcases issues with ⟨isAlloc, given⟩
  refine isGrant_iff.mpr ⟨isAlloc, ?_⟩
  by_contra refused
  simp only [Reply.result, Status.isSuccess, decide_eq_true_eq, refused,
    if_false] at given
  cases given

/-- The replies to the successful requests for a new block in a run, in
order. -/
def grants (requests : List Request) : List Reply :=
  ((exchanges requests).filter isGrant).map Prod.snd

theorem exchanges_concat (requests : List Request) (request : Request) :
    exchanges (requests ++ [request]) =
      exchanges requests ++
        [(request, ((after requests).handle request).1)] := by
  rw [exchanges, handleAll_concat,
    List.zip_append (length_handleAll requests empty).symm]
  rfl

/-- A new block gets the next name and is counted; any other request leaves
the count as it is. -/
theorem issued_handle (request : Request) (store : Store) :
    if isGrant (request, (store.handle request).1) then
      (store.handle request).1 =
          .success (Text.encode (blockName (store.issued + 1))) ∧
        (store.handle request).2.issued = store.issued + 1
    else (store.handle request).2.issued = store.issued := by
  have changes := changes_handle request store
  generalize (store.handle request).1 = reply,
    (store.handle request).2 = later at changes ⊢
  cases changes with
  | made isAlloc block =>
      rw [if_pos (isGrant_iff.mpr ⟨isAlloc, rfl⟩)]
      exact ⟨rfl, rfl⟩
  | written isUpdate name content reply held =>
      rw [if_neg fun grant =>
        absurd (isGrant_iff.mp grant).1 (by simp [isUpdate])]
      rfl
  | freed isDelete reply held =>
      rw [if_neg fun grant =>
        absurd (isGrant_iff.mp grant).1 (by simp [isDelete])]
      rfl
  | kept reply notMade =>
      rw [if_neg fun grant =>
        notMade (isGrant_iff.mp grant).1 (isGrant_iff.mp grant).2]

/-- The successful requests for a new block are answered with the names in
turn, and the store has counted them. -/
theorem grants_eq (requests : List Request) :
    grants requests =
      (List.range (after requests).issued).map fun number =>
        .success (Text.encode (blockName (number + 1))) := by
  induction requests using List.reverseRecOn with
  | nil => rfl
  | append_singleton requests request induction =>
      have counted := issued_handle request (after requests)
      rw [grants, exchanges_concat, List.filter_append, List.map_append,
        ← grants, induction, after_concat]
      split at counted
      · rename_i granted
        rcases counted with ⟨answer, issued⟩
        rw [List.filter_cons_of_pos granted, issued,
          List.range_succ, List.map_append, answer]
        rfl
      · rename_i notGranted
        rw [List.filter_cons_of_neg notGranted, counted]
        exact List.append_nil _

theorem length_grants (requests : List Request) :
    (grants requests).length = (after requests).issued := by
  rw [grants_eq, List.length_map, List.length_range]

theorem grants_getElem?
    {requests : List Request} {number : Nat} {reply : Reply}
    (isReply : (grants requests)[number]? = some reply) :
    reply = .success (Text.encode (blockName (number + 1))) := by
  rw [grants_eq, List.getElem?_map, Option.map_eq_some_iff] at isReply
  rcases isReply with ⟨index, isIndex, rfl⟩
  rw [(List.getElem?_eq_some_iff.mp isIndex).2.symm, List.getElem_range]

theorem nodup_result_grants (requests : List Request) :
    ((grants requests).map Reply.result).Nodup := by
  rw [grants_eq, List.map_map]
  refine List.Nodup.map (fun number other same => ?_) List.nodup_range
  simp only [Function.comp_apply, Reply.result_success, Text.lossy_encode,
    Except.ok.injEq, blockName_inj] at same
  omega

/-! ## The names in a store -/

theorem isSome_find?_of_mem_names
    {name : String} {store : Store} (member : name ∈ store.names) :
    (store.find? name).isSome := by
  rcases List.mem_map.mp member with ⟨entry, isEntry, rfl⟩
  exact List.lookup_isSome_iff.mpr ⟨entry, isEntry, beq_self_eq_true _⟩

/-- A name that was issued in a run has one of the numbers of the run. -/
theorem exists_number_of_issues
    {requests : List Request} {name : String} {exchange : Request × Reply}
    (member : exchange ∈ exchanges requests)
    (issues : Issues name exchange) :
    ∃ number, 1 ≤ number ∧ number ≤ (after requests).issued ∧
      name = blockName number := by
  have granted : exchange.2 ∈ grants requests :=
    List.mem_map.mpr ⟨exchange,
      List.mem_filter.mpr ⟨member, issues.isGrant⟩, rfl⟩
  rw [grants_eq] at granted
  rcases List.mem_map.mp granted with ⟨number, within, isReply⟩
  have given := issues.2
  rw [← isReply, Reply.result_success, Text.lossy_encode] at given
  exact ⟨number + 1, Nat.le_add_left 1 number,
    Nat.succ_le_of_lt (List.mem_range.mp within),
    (Except.ok.inj given).symm⟩

theorem exists_number_of_mem_names
    {requests : List Request} {name : String}
    (member : name ∈ (after requests).names) :
    ∃ number, 1 ≤ number ∧ number ≤ (after requests).issued ∧
      name = blockName number := by
  have found : ((empty.handleAll requests).2.find? name).isSome :=
    isSome_find?_of_mem_names member
  rcases isSome_find?_handleAll found with
    initially | ⟨exchange, isExchange, issues⟩
  · cases initially
  · exact exists_number_of_issues isExchange issues

/-- A request for a new block leaves every other block as it is. -/
theorem find?_handle_of_alloc
    {store : Store} (numbered : store.Numbered)
    {request : Request} (isAlloc : request.tag = .alloc)
    {name : String} {block : Block}
    (held : store.find? name = some block) :
    (store.handle request).2.find? name = some block := by
  have changes := changes_handle request store
  generalize (store.handle request).1 = reply,
    (store.handle request).2 = later at changes ⊢
  cases changes with
  | made _ made =>
      have notNew : name ≠ blockName (store.issued + 1) := by
        rintro rfl
        rw [numbered.find?_next] at held
        cases held
      rw [find?_alloc, if_neg notNew]
      exact held
  | written isUpdate changed content reply changedHeld =>
      exact absurd isAlloc (by simp [isUpdate])
  | freed isDelete reply freedHeld =>
      exact absurd isAlloc (by simp [isDelete])
  | kept reply notMade => exact held

/-! ## Spent names -/

/-- The name was issued and has no block any more. -/
structure IsSpent (name : String) (store : Store) : Prop where
  issued : ∃ number, number ≤ store.issued ∧ name = blockName number
  absent : store.find? name = none

/-- No request makes a block under a spent name. -/
theorem IsSpent.handle
    {name : String} {store : Store} (spent : IsSpent name store)
    (request : Request) :
    IsSpent name (store.handle request).2 := by
  rcases spent with ⟨⟨number, within, isName⟩, absent⟩
  have still : number ≤ (store.handle request).2.issued :=
    Nat.le_trans within (issued_le_handle request store)
  refine ⟨⟨number, still, isName⟩, ?_⟩
  cases found : (store.handle request).2.find? name with
  | none => rfl
  | some block =>
      rcases isSome_find?_handle (by rw [found]; rfl) with
        before | ⟨-, isNext, -, -⟩
      · rw [absent] at before
        cases before
      · have same := blockName_inj.mp (isName.symm.trans isNext)
        omega

theorem IsSpent.handleAll
    {name : String} {store : Store} (spent : IsSpent name store)
    (requests : List Request) :
    IsSpent name (store.handleAll requests).2 := by
  induction requests generalizing store with
  | nil => exact spent
  | cons request requests induction => exact induction (spent.handle request)

theorem isSpent_of_freed
    {store : Store} (numbered : store.Numbered)
    {request : Request} {name : String}
    (isDelete : request.tag = .delete)
    (isTarget : target? request = some name)
    (freed : (store.handle request).1.tag = .success) :
    IsSpent name (store.handle request).2 := by
  rcases find?_of_freed isDelete isTarget freed with ⟨held, absent⟩
  rcases numbered name held with ⟨number, within, isName⟩
  exact ⟨⟨number, Nat.le_trans within (issued_le_handle request store),
    isName⟩, absent⟩

theorem after_append (requests later : List Request) :
    after (requests ++ later) = ((after requests).handleAll later).2 := by
  induction later using List.reverseRecOn with
  | nil =>
      rw [List.append_nil]
      rfl
  | append_singleton later request induction =>
      rw [← List.append_assoc, after_concat, induction, handleAll_concat]

/-! ## Whole runs -/

/--
Names are fresh for ever.

Take any run of requests, of any kind and with any payloads, that starts with
the empty store.  Its successful requests for a new block are answered with the
names of the numbers from one on, in turn, so that no two of them get the same
name, and the store has counted them.  A further request for a new block leaves
every block as it is, and the names in the store are among those that it has
issued.  Once a request has freed the block of a name, every later request about
that name is refused as one that is not found and changes nothing, whatever
requests lie between the two.
-/
theorem names_fresh_forever (requests : List Request) :
    (∀ (number : Nat) (reply : Reply),
      (grants requests)[number]? = some reply →
        reply = .success (Text.encode (blockName (number + 1)))) ∧
    ((grants requests).map Reply.result).Nodup ∧
    (grants requests).length = (after requests).issued ∧
    (∀ request : Request, request.tag = .alloc →
      ∀ name block, (after requests).find? name = some block →
        ((after requests).handle request).2.find? name = some block) ∧
    (∀ name ∈ (after requests).names,
      ∃ number, 1 ≤ number ∧ number ≤ (after requests).issued ∧
        name = blockName number) ∧
    (∀ (freeing : Request) (name : String), freeing.tag = .delete →
      target? freeing = some name →
      ((after requests).handle freeing).1.tag = .success →
        ∀ (between : List Request) (request : Request),
          target? request = some name →
            (after (requests ++ freeing :: between)).handle request =
              (.failure .notFound s!"Memory ID '{name}' not found.",
                after (requests ++ freeing :: between))) := by
  refine ⟨?_, ?_, ?_, ?_, ?_, ?_⟩
  · intro number reply isReply
    exact grants_getElem? isReply
  · exact nodup_result_grants requests
  · exact length_grants requests
  · intro request isAlloc name block held
    exact find?_handle_of_alloc (numbered_after requests) isAlloc held
  · intro name member
    exact exists_number_of_mem_names member
  · intro freeing name isDelete isFreed freed between request isTarget
    have spent := isSpent_of_freed (numbered_after requests) isDelete isFreed
      freed
    have later : IsSpent name (after (requests ++ freeing :: between)) := by
      rw [after_append]
      exact spent.handleAll between
    exact handle_of_absent isTarget later.absent

/-- The first of two blocks is freed and a third one is made; the name of the
first is not given out again. -/
theorem read_of_freed_name :
    let freeing := Request.delete "m1"
    let between := [Request.alloc "" "third"]
    ((after ([.alloc "" "first", .alloc "" "second"] ++
        freeing :: between)).handle (.read "m1")).1 =
      .failure .notFound "Memory ID 'm1' not found." ∧
    (grants ([.alloc "" "first", .alloc "" "second"] ++
        freeing :: between)) =
      [.success (Text.encode "m1"), .success (Text.encode "m2"),
        .success (Text.encode "m3")] := by
  intro freeing between
  rcases names_fresh_forever [.alloc "" "first", .alloc "" "second"] with
    ⟨-, -, -, -, -, refused⟩
  refine ⟨?_, by decide⟩
  rw [refused freeing "m1" rfl (by decide) (by decide) between (.read "m1")
    (by decide)]
  rfl

end BlockWire.Store
