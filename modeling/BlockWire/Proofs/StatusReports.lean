import BlockWire.Proofs.RawPayloads
import BlockWire.Proofs.TextOrder

/-!
# What status reports tell

The reports about a store are decided by the history of requests and replies.
A name is listed if a request for a new block was answered with it and no
request has freed it since, and the number of blocks is the number of blocks
made less the number of blocks freed.

Each request changes the names in a store in one of three ways: it adds the next
name at the end, it takes one name away, or it leaves them.  Both facts follow
from this, entry by entry of the history.  In which order a store keeps its
names is seen by no report, since two ascending listings of the same names are
the same listing.
-/

namespace BlockWire

/-- Different names are freed by different requests. -/
theorem Request.delete_inj {name other : String} :
    Request.delete name = .delete other ↔ name = other := by
  constructor
  · intro same
    rw [← Text.lossy_encode name, ← Text.lossy_encode other]
    exact congrArg (fun request => Text.lossy request.payload) same
  · rintro rfl
    rfl

namespace Store

/-! ## The history of a name -/

/-- The block of a name was freed. -/
def Frees (name : String) (exchange : Request × Reply) : Prop :=
  exchange.1 = .delete name ∧ exchange.2.tag = .success

/-- Whether a request to free a block was answered with success. -/
def isRelease (exchange : Request × Reply) : Bool :=
  exchange.1.tag = .delete ∧ exchange.2.tag = .success

theorem isRelease_iff {exchange : Request × Reply} :
    isRelease exchange = true ↔
      exchange.1.tag = .delete ∧ exchange.2.tag = .success :=
  decide_eq_true_iff

/-- A name was issued in some exchanges and not freed since. -/
def Outstanding (name : String) (run : List (Request × Reply)) : Prop :=
  ∃ before made since, run = before ++ made :: since ∧ Issues name made ∧
    ∀ later ∈ since, ¬ Frees name later

theorem not_outstanding_nil (name : String) : ¬ Outstanding name [] := by
  rintro ⟨before, made, since, split, -⟩
  simp at split

/-- The account of a name after one more exchange. -/
theorem outstanding_concat_iff
    {name : String} {run : List (Request × Reply)}
    {exchange : Request × Reply} :
    Outstanding name (run ++ [exchange]) ↔
      Issues name exchange ∨
        Outstanding name run ∧ ¬ Frees name exchange := by
  constructor
  · rintro ⟨before, made, since, split, issues, kept⟩
    rcases List.eq_nil_or_concat since with rfl | ⟨earlier, newest, rfl⟩
    · cases (List.append_inj' split rfl).2
      exact .inl issues
    · rw [List.concat_eq_append] at kept split
      rw [← List.cons_append, ← List.append_assoc] at split
      rcases List.append_inj' split rfl with ⟨earlierSplit, same⟩
      cases same
      refine .inr ⟨⟨before, made, earlier, earlierSplit, issues, ?_⟩, ?_⟩
      · exact fun later member => kept later (List.mem_append_left _ member)
      · exact kept exchange (List.mem_append_right _ List.mem_cons_self)
  · rintro (issues | ⟨⟨before, made, since, rfl, issues, kept⟩, notFreed⟩)
    · exact ⟨run, exchange, [], rfl, issues, by simp⟩
    · refine ⟨before, made, since ++ [exchange], by simp, issues, ?_⟩
      intro later member
      rcases List.mem_append.mp member with isOld | isNew
      · exact kept later isOld
      · rw [List.mem_singleton.mp isNew]
        exact notFreed

theorem Frees.isRelease
    {name : String} {exchange : Request × Reply}
    (frees : Frees name exchange) : isRelease exchange = true := by
  rcases frees with ⟨isDelete, freed⟩
  exact isRelease_iff.mpr ⟨by rw [isDelete]; rfl, freed⟩

/-! ## The names in a store -/

theorem names_remove (name : String) (store : Store) :
    (store.remove name).names = store.names.erase name := by
  have unique : store.names.Nodup := store.unique
  rw [unique.erase_eq_filter]
  simp only [names, remove, without, List.filter_map]
  congr 1
  refine List.filter_congr fun entry _ => ?_
  simp [bne, Bool.beq_eq_decide_eq]

theorem Numbered.next_notMem_names
    {store : Store} (numbered : store.Numbered) :
    blockName (store.issued + 1) ∉ store.names := by
  rw [mem_names_iff, numbered.find?_next]
  exact Bool.false_ne_true

/-- A new block gets the next name, which stands behind all others. -/
theorem Numbered.names_alloc
    {store : Store} (numbered : store.Numbered) (block : Block) :
    (store.alloc block).2.names =
      store.names ++ [blockName (store.issued + 1)] := by
  have none : without (blockName (store.issued + 1)) store.blocks =
      store.blocks := by
    refine List.filter_eq_self.mpr fun entry member => ?_
    rw [decide_eq_true_iff]
    rintro isNext
    exact numbered.next_notMem_names
      (List.mem_map.mpr ⟨entry, member, isNext⟩)
  show (without _ store.blocks ++ [_]).map Prod.fst = _
  rw [none, List.map_append]
  rfl

/-- What a request, with the reply that it gets, makes of the names in a
store. -/
inductive NamesChange (store : Store) (exchange : Request × Reply) :
    List String → Prop where
  | added (granted : isGrant exchange = true)
      (answer : exchange.2 =
        .success (Text.encode (blockName (store.issued + 1)))) :
      NamesChange store exchange
        (store.names ++ [blockName (store.issued + 1)])
  | taken (name : String) (member : name ∈ store.names)
      (freed : Frees name exchange) :
      NamesChange store exchange (store.names.erase name)
  | kept (notGranted : isGrant exchange = false)
      (notReleased : isRelease exchange = false) :
      NamesChange store exchange store.names

theorem namesChange_handle
    {store : Store} (numbered : store.Numbered) (request : Request) :
    NamesChange store (request, (store.handle request).1)
      (store.handle request).2.names := by
  have effect := effect_handle request store
  generalize (store.handle request).1 = reply,
    (store.handle request).2 = later at effect ⊢
  cases effect with
  | made before content free =>
      rw [numbered.names_alloc]
      exact .added rfl rfl
  | written before content free block held =>
      rw [names_write]
      exact .kept rfl rfl
  | freed payload block held =>
      have isHeld : (store.find? (Text.lossy payload)).isSome := by
        rw [held]
        rfl
      rw [names_remove]
      refine .taken _ (mem_names_iff.mpr isHeld) ⟨?_, rfl⟩
      rw [Request.delete, ← numbered.eq_encode isHeld]
  | shown payload block held => exact .kept rfl rfl
  | told _ _ asking =>
      rcases asking with isStatus | isPing
      · exact .kept (by simp [isGrant, isStatus])
          (by simp [isRelease, isStatus])
      · exact .kept (by simp [isGrant, isPing]) (by simp [isRelease, isPing])
  | refused _ _ isRefusal =>
      exact .kept (by simp [isGrant, isRefusal])
        (by simp [isRelease, isRefusal])

/-! ## What a request adds to the accounts -/

section Accounts

variable {store : Store} {exchange : Request × Reply} {later : List String}

/-- A name is there after a request if the request issued it, or if it was there
before and the request did not free it. -/
theorem NamesChange.mem_iff
    (change : NamesChange store exchange later) (name : String) :
    name ∈ later ↔
      Issues name exchange ∨ name ∈ store.names ∧ ¬ Frees name exchange := by
  cases change with
  | added granted answer =>
      have isAlloc := (isGrant_iff.mp granted).1
      have issues : Issues name exchange ↔
          name = blockName (store.issued + 1) := by
        rw [Issues, answer, Reply.result_success, Text.lossy_encode,
          Except.ok.injEq]
        exact ⟨fun given => given.2.symm, fun same => ⟨isAlloc, same.symm⟩⟩
      have notFreed : ¬ Frees name exchange := by
        rintro ⟨isDelete, -⟩
        rw [isDelete] at isAlloc
        cases isAlloc
      simp [issues, notFreed, or_comm]
  | taken freed member frees =>
      have notIssued : ¬ Issues name exchange := by
        rintro ⟨isAlloc, -⟩
        rw [frees.1] at isAlloc
        cases isAlloc
      have same : Frees name exchange ↔ name = freed := by
        rw [Frees, frees.1, Request.delete_inj]
        exact ⟨fun frees => frees.1.symm, fun same => ⟨same.symm, frees.2⟩⟩
      have unique : store.names.Nodup := store.unique
      simp [notIssued, same, unique.mem_erase_iff, and_comm]
  | kept notGranted notReleased =>
      have notIssued : ¬ Issues name exchange := fun issues => by
        rw [issues.isGrant] at notGranted
        cases notGranted
      have notFreed : ¬ Frees name exchange := fun frees => by
        rw [frees.isRelease] at notReleased
        cases notReleased
      simp [notIssued, notFreed]

/-- One name more for a block that was made, and one less for a block that was
freed. -/
theorem NamesChange.length_eq
    (change : NamesChange store exchange later) :
    later.length + [exchange].countP isRelease =
      store.names.length + [exchange].countP isGrant := by
  cases change with
  | added granted answer =>
      have notReleased : isRelease exchange = false := by
        simp [isRelease, (isGrant_iff.mp granted).1]
      simp [granted, notReleased]
  | taken freed member frees =>
      have notGranted : isGrant exchange = false := by
        simp [isGrant, (isRelease_iff.mp frees.isRelease).1]
      have positive := List.length_pos_of_mem member
      simp [frees.isRelease, notGranted, List.length_erase_of_mem member]
      omega
  | kept notGranted notReleased =>
      simp [notGranted, notReleased]

end Accounts

/-! ## The names after a run -/

theorem mem_names_after_iff (requests : List Request) (name : String) :
    name ∈ (after requests).names ↔ Outstanding name (exchanges requests) := by
  induction requests using List.reverseRecOn with
  | nil =>
      constructor
      · intro member
        cases member
      · intro outstanding
        exact absurd outstanding (not_outstanding_nil name)
  | append_singleton requests request induction =>
      have change := namesChange_handle (numbered_after requests) request
      rw [after_concat, exchanges_concat, outstanding_concat_iff,
        change.mem_iff, induction]

theorem length_names_after (requests : List Request) :
    (after requests).names.length + (exchanges requests).countP isRelease =
      (exchanges requests).countP isGrant := by
  induction requests using List.reverseRecOn with
  | nil => rfl
  | append_singleton requests request induction =>
      have change := namesChange_handle (numbered_after requests) request
      rw [after_concat, exchanges_concat, List.countP_append,
        List.countP_append]
      have one := change.length_eq
      omega

/-! ## Listings -/

/-- The names in a store, each once. -/
theorem sortedNames_perm (store : Store) :
    store.sortedNames.Perm store.names :=
  List.mergeSort_perm _ _

theorem pairwise_le_sortedNames (store : Store) :
    store.sortedNames.Pairwise (· ≤ ·) := by
  rw [sortedNames]
  have sorted := @List.pairwise_mergeSort String
    (fun first second => decide (first ≤ second))
    (fun first second third => by
      simpa using String.le_trans)
    (fun first second => by
      simpa using String.le_total first second)
    store.names
  simpa using sorted

/-- The listing ascends. -/
theorem pairwise_lt_sortedNames (store : Store) :
    store.sortedNames.Pairwise (· < ·) := by
  have unique : store.sortedNames.Nodup :=
    (sortedNames_perm store).nodup_iff.mpr store.unique
  exact ((pairwise_le_sortedNames store).and unique).imp
    fun both => Std.lt_of_le_of_ne both.1 both.2

/-- There is only one ascending listing of the names. -/
theorem sortedNames_eq
    {store : Store} {listing : List String}
    (ascending : listing.Pairwise (· ≤ ·))
    (complete : listing.Perm store.names) :
    store.sortedNames = listing :=
  List.Perm.eq_of_pairwise (fun _ _ _ _ => String.le_antisymm)
    (pairwise_le_sortedNames store) ascending
    ((sortedNames_perm store).trans complete.symm)

/-- Two stores with the same names keep them in orders of their own. -/
theorem names_perm
    {store other : Store}
    (same : ∀ name, name ∈ other.names ↔ name ∈ store.names) :
    other.names.Perm store.names :=
  (List.perm_ext_iff_of_nodup other.unique store.unique).mpr same

/-- Every report depends on the names alone. -/
theorem report_congr
    {store other : Store}
    (same : ∀ name, name ∈ other.names ↔ name ∈ store.names)
    (word : String) :
    other.report word = store.report word := by
  have permuted := names_perm same
  have length : other.blocks.length = store.blocks.length := by
    simpa [names] using permuted.length_eq
  have listing : other.sortedNames = store.sortedNames :=
    sortedNames_eq (pairwise_le_sortedNames store)
      ((sortedNames_perm store).trans permuted.symm)
  simp only [report, length, listing]

/-! ## Asking for a report -/

theorem handle_status_congr
    {store other : Store}
    (same : ∀ name, name ∈ other.names ↔ name ∈ store.names)
    (payload : Bytes) :
    (other.handle ⟨.status, payload⟩).1 =
      (store.handle ⟨.status, payload⟩).1 := by
  simp only [handle, report_congr same]
  split <;> rfl

/-- A word is known only if it asks for one of the levels of detail. -/
theorem report_eq_none
    {word : String} (unknown : ∀ detail : Detail, word ≠ detail.word)
    (store : Store) :
    store.report word = none := by
  simp only [report, unknown, if_false]

/-- Bytes that are read as the word for a level of detail are its bytes. -/
theorem eq_encode_of_lossy_eq_word
    {payload : Bytes} {detail : Detail}
    (isWord : Text.lossy payload = detail.word) :
    payload = Text.encode detail.word := by
  have unreplaced : Text.replacement ∉ (Text.lossy payload).toList := by
    rw [isWord]
    cases detail <;> decide
  rw [← isWord, Text.encode_lossy unreplaced]

theorem handle_status_of_unknown
    {payload : Bytes}
    (unknown : ∀ detail : Detail, payload ≠ Text.encode detail.word)
    (store : Store) :
    store.handle ⟨.status, payload⟩ =
      (.failure .invalidParameter
        s!"Unknown status mode: {Text.lossy payload}", store) := by
  have noReport : store.report (Text.lossy payload) = none :=
    report_eq_none
      (fun detail isWord => unknown detail (eq_encode_of_lossy_eq_word isWord))
      store
  simp only [handle, noReport]

theorem handle_status_summary (store : Store) :
    store.handle (.status .summary) =
      (.success (Text.encode s!"Allocated entries: {store.blocks.length}"),
        store) := by
  simp only [handle, Request.status, Text.lossy_encode, report, if_true]

theorem handle_status_memory (store : Store) :
    store.handle (.status .memory) =
      (.success (Text.encode
        ("Memory IDs: " ++ ",".intercalate store.sortedNames)), store) := by
  have notSummary : Detail.memory.word ≠ Detail.summary.word := by decide
  simp only [handle, Request.status, Text.lossy_encode, report, notSummary,
    if_true, if_false]
  rfl

/--
Status reports tell the truth about every history.

Take any run of requests, of any kind and with any payloads, that starts with
the empty store.  The summary gives the number of blocks that were made less the
number of blocks that were freed.  The listing of names has exactly the names
that were issued and not freed since.  It has as many names as the summary
says, and their bytes are in strictly ascending order, so that each name is
there once.  Any store with these names gives the same reports, in whatever order
it keeps them and whatever its blocks hold.  A payload that is byte for byte none
of the words for a level of detail is refused.  No report changes the store.
-/
theorem reports_tell_history (requests : List Request) :
    let store := after requests
    let made := (exchanges requests).countP isGrant
    let freed := (exchanges requests).countP isRelease
    let listed := store.sortedNames
    freed ≤ made ∧
    store.handle (.status .summary) =
      (.success (Text.encode s!"Allocated entries: {made - freed}"), store) ∧
    store.handle (.status .memory) =
      (.success (Text.encode ("Memory IDs: " ++ ",".intercalate listed)),
        store) ∧
    (∀ name, name ∈ listed ↔ Outstanding name (exchanges requests)) ∧
    listed.length = made - freed ∧
    (listed.map Text.encode).Pairwise (· < ·) ∧
    (∀ other : Store,
      (∀ name, name ∈ other.names ↔
        Outstanding name (exchanges requests)) →
        ∀ payload, (other.handle ⟨.status, payload⟩).1 =
          (store.handle ⟨.status, payload⟩).1) ∧
    (∀ payload, (∀ detail : Detail, payload ≠ Text.encode detail.word) →
      store.handle ⟨.status, payload⟩ =
        (.failure .invalidParameter
          s!"Unknown status mode: {Text.lossy payload}", store)) := by
  intro store made freed listed
  have members := mem_names_after_iff requests
  have count : store.names.length + freed = made :=
    length_names_after requests
  have blocks : store.blocks.length = made - freed := by
    have same : store.names.length = store.blocks.length :=
      List.length_map Prod.fst
    omega
  refine ⟨by omega, ?_, handle_status_memory store, ?_, ?_, ?_, ?_, ?_⟩
  · rw [handle_status_summary, blocks]
  · intro name
    rw [← members, (sortedNames_perm store).mem_iff]
  · rw [(sortedNames_perm store).length_eq]
    omega
  · exact (pairwise_lt_sortedNames store).map Text.encode
      fun _ _ => Text.encode_lt_encode
  · intro other same payload
    refine handle_status_congr (fun name => ?_) payload
    rw [same, members]
  · intro payload unknown
    exact handle_status_of_unknown unknown store

/-- Ten blocks are made and the third one is freed: the tenth name stands right
behind the first one, also for a server that keeps its blocks in another
order. -/
theorem reports_of_ten_blocks :
    let requests := List.replicate 10 (Request.alloc "" "") ++ [.delete "m3"]
    let other : Store :=
      { issued := 0
        blocks := (after requests).blocks.reverse
        unique := by
          rw [List.map_reverse, List.nodup_reverse]
          exact (after requests).unique }
    (other.handle (.status .summary)).1 =
        .success (Text.encode "Allocated entries: 9") ∧
      (other.handle (.status .memory)).1 =
        .success (Text.encode "Memory IDs: m1,m10,m2,m4,m5,m6,m7,m8,m9") ∧
      ((after requests).handle ⟨.status, [255]⟩).1 =
        .failure .invalidParameter "Unknown status mode: \uFFFD" := by
  intro requests other
  rcases reports_tell_history requests with
    ⟨-, summary, memory, members, -, -, congruent, refused⟩
  have same : ∀ name, name ∈ other.names ↔
      Outstanding name (exchanges requests) := by
    intro name
    rw [← members, (sortedNames_perm _).mem_iff]
    simp only [names, other, List.map_reverse, List.mem_reverse]
  have listed : (after requests).sortedNames =
      ["m1", "m10", "m2", "m4", "m5", "m6", "m7", "m8", "m9"] :=
    sortedNames_eq (by decide +kernel) (by decide +kernel)
  have made : (exchanges requests).countP isGrant = 10 := by decide +kernel
  have freed : (exchanges requests).countP isRelease = 1 := by decide +kernel
  refine ⟨?_, ?_, ?_⟩
  · rw [Request.status, congruent other same, ← Request.status, summary,
      made, freed]
    rfl
  · rw [Request.status, congruent other same, ← Request.status, memory,
      listed]
    rfl
  · rw [refused [255] (by intro detail; cases detail <;> decide)]
    rfl

end Store

end BlockWire
