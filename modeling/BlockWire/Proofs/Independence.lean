import BlockWire.Proofs.BlockEffects

/-!
# Working on different blocks

Parties that never name the same block do not notice each other.  A request
changes only the block that it names, and its answer depends on that block
alone.  Hence requests about different blocks can be answered in either order
with the same store in the end, and what a party gets is what it would get if it
were the only one.

The order in which a server answers the requests of several parties is a
schedule.  The replies of one party are compared with those of a server that
gets only the requests of this party: the two stores agree on the names that
the party still asks for, which is kept by every request of the schedule.
-/

namespace BlockWire.Store

/-! ## What a request does to one block -/

/-- What a request leaves of the block of a name. -/
def remainder (request : Request) (name : String) (block : Block) :
    Option Block :=
  match request.tag with
  | .update =>
      match operands request.payload with
      | some (target, content) =>
          if name = target then some { block with content := content }
          else some block
      | none => some block
  | .delete => if name = Text.lossy request.payload then none else some block
  | .alloc => some block
  | .read => some block
  | .status => some block
  | .ping => some block

/-- A block that a request does not name is left as it is. -/
theorem remainder_of_not_target
    {request : Request} {name : String}
    (notTarget : target? request ≠ some name) (block : Block) :
    remainder request name block = some block := by
  obtain ⟨tag, payload⟩ := request
  cases tag with
  | update =>
      cases cut : operands payload with
      | none => simp only [remainder, cut]
      | some given =>
          have other : name ≠ given.1 := by
            rintro rfl
            simp [target?, cut] at notTarget
          simp only [remainder, cut, if_neg other]
  | delete =>
      have other : name ≠ Text.lossy payload := by
        rintro rfl
        exact notTarget rfl
      simp only [remainder, if_neg other]
  | alloc => rfl
  | read => rfl
  | status => rfl
  | ping => rfl

/-- The blocks of a store, each as a request leaves it. -/
def remaining (request : Request) (blocks : List (String × Block)) :
    List (String × Block) :=
  blocks.filterMap fun entry =>
    (remainder request entry.1 entry.2).map (entry.1, ·)

theorem remaining_of_kept
    {request : Request} {blocks : List (String × Block)}
    (kept : ∀ entry ∈ blocks,
      remainder request entry.1 entry.2 = some entry.2) :
    remaining request blocks = blocks := by
  have same : remaining request blocks = blocks.filterMap some :=
    List.filterMap_congr fun entry member => by rw [kept entry member]; rfl
  rw [same, List.filterMap_some]

/-- A request that names no block of the store leaves each of them. -/
theorem remaining_of_absent
    {request : Request} {store : Store}
    (absent : ∀ name, target? request = some name → store.find? name = none) :
    remaining request store.blocks = store.blocks := by
  refine remaining_of_kept fun entry member => ?_
  refine remainder_of_not_target (fun isTarget => ?_) entry.2
  have other := List.lookup_eq_none_iff.mp (absent _ isTarget) entry member
  simp at other

/-- A request other than for a new block does to each block what it does to the
block of its name, and keeps the count. -/
theorem Effect.blocks_eq
    {store later : Store} {request : Request} {reply : Reply}
    (effect : Effect store request reply later)
    (notAlloc : request.tag ≠ .alloc) :
    later.issued = store.issued ∧
      later.blocks = remaining request store.blocks := by
  cases effect with
  | made => exact absurd rfl notAlloc
  | written before content free block held =>
      refine ⟨rfl, ?_⟩
      have cut : operands (before ++ Payload.separator :: content) =
          some (Text.lossy before, content) :=
        operands_eq_some_iff.mpr ⟨before, rfl, free, rfl⟩
      show store.blocks.map _ = _
      rw [remaining, ← List.filterMap_eq_map]
      refine List.filterMap_congr fun entry _ => ?_
      simp only [remainder, cut, Function.comp_apply]
      split <;> rfl
  | freed payload block held =>
      refine ⟨rfl, ?_⟩
      show store.blocks.filter _ = _
      rw [remaining, ← List.filterMap_eq_filter]
      refine List.filterMap_congr fun entry _ => ?_
      by_cases isName : entry.1 = Text.lossy payload <;>
        simp [remainder, Option.guard, isName]
  | shown => exact ⟨rfl, (remaining_of_kept fun _ _ => rfl).symm⟩
  | told _ _ asking =>
      refine ⟨rfl, (remaining_of_absent ?_).symm⟩
      simp [target?_of_asking asking]
  | refused _ _ isRefusal absent =>
      exact ⟨rfl, (remaining_of_absent absent).symm⟩

theorem lookup_remaining
    (request : Request) (name : String) {blocks : List (String × Block)}
    (unique : (blocks.map Prod.fst).Nodup) :
    (remaining request blocks).lookup name =
      (blocks.lookup name).bind (remainder request name) := by
  induction blocks with
  | nil => rfl
  | cons entry rest induction =>
      obtain ⟨key, block⟩ := entry
      rw [List.map_cons, List.nodup_cons] at unique
      rcases unique with ⟨notLater, uniqueLater⟩
      have isRest := induction uniqueLater
      rw [remaining] at isRest ⊢
      rw [List.filterMap_cons, List.lookup_cons]
      by_cases isKey : name = key
      · subst key
        have noOther : rest.lookup name = none := by
          rw [List.lookup_eq_none_iff]
          rintro ⟨other, held⟩ member
          have isOther : name ≠ other := by
            rintro rfl
            exact notLater (List.mem_map.mpr ⟨_, member, rfl⟩)
          simpa using isOther
        rw [beq_self_eq_true]
        cases left : remainder request name block with
        | none => simp [isRest, noOther, left]
        | some later => simp [left]
      · have passed : (name == key) = false := by simp [isKey]
        cases left : remainder request key block with
        | none => simp [isRest, passed]
        | some later => simp [isRest, passed, List.lookup_cons]

/-- The block of a name after a request is what the request leaves of it. -/
theorem find?_handle
    {request : Request} (notAlloc : request.tag ≠ .alloc)
    (name : String) (store : Store) :
    (store.handle request).2.find? name =
      (store.find? name).bind (remainder request name) := by
  rw [find?, ((effect_handle request store).blocks_eq notAlloc).2,
    lookup_remaining request name store.unique]
  rfl

theorem find?_handle_of_not_target
    {request : Request} (notAlloc : request.tag ≠ .alloc)
    {name : String} (notTarget : target? request ≠ some name)
    (store : Store) :
    (store.handle request).2.find? name = store.find? name := by
  rw [find?_handle notAlloc,
    show remainder request name = some from
      funext (remainder_of_not_target notTarget),
    Option.bind_fun_some]

/-! ## Requests about different blocks -/

/-- No block is named by both of two requests. -/
def Apart (request other : Request) : Prop :=
  ∀ name, target? request = some name → target? other ≠ some name

theorem Apart.symm {request other : Request} (apart : Apart request other) :
    Apart other request :=
  fun name isOther isRequest => apart name isRequest isOther

/-- Of two requests about different blocks at most one changes a block. -/
theorem Apart.remainder_bind_comm
    {request other : Request} (apart : Apart request other)
    (name : String) (block : Block) :
    (remainder request name block).bind (remainder other name) =
      (remainder other name block).bind (remainder request name) := by
  by_cases isTarget : target? request = some name
  · have keeps : remainder other name = some :=
      funext (remainder_of_not_target (apart name isTarget))
    rw [keeps, Option.bind_fun_some, Option.bind_some]
  · have keeps : remainder request name = some :=
      funext (remainder_of_not_target isTarget)
    rw [keeps, Option.bind_some, Option.bind_fun_some]

theorem remaining_remaining
    (request other : Request) (blocks : List (String × Block)) :
    remaining other (remaining request blocks) =
      blocks.filterMap fun entry =>
        ((remainder request entry.1 entry.2).bind
          (remainder other entry.1)).map (entry.1, ·) := by
  rw [remaining, remaining, List.filterMap_filterMap]
  refine List.filterMap_congr fun entry _ => ?_
  cases remainder request entry.1 entry.2 <;> rfl

/-- Two requests about different blocks can be answered in either order. -/
theorem Apart.handle_comm
    {request other : Request} (apart : Apart request other)
    (notAlloc : request.tag ≠ .alloc) (otherNotAlloc : other.tag ≠ .alloc)
    (store : Store) :
    ((store.handle request).2.handle other).2 =
      ((store.handle other).2.handle request).2 := by
  have here := (effect_handle request store).blocks_eq notAlloc
  have thence :=
    (effect_handle other (store.handle request).2).blocks_eq otherNotAlloc
  have there := (effect_handle other store).blocks_eq otherNotAlloc
  have hence :=
    (effect_handle request (store.handle other).2).blocks_eq notAlloc
  apply Store.ext
  · rw [thence.1, here.1, hence.1, there.1]
  · rw [thence.2, here.2, hence.2, there.2, remaining_remaining,
      remaining_remaining]
    simp only [apart.remainder_bind_comm]

/-- A request can be answered before or after several others about different
blocks. -/
theorem handleAll_handle_comm
    {request : Request} (notAlloc : request.tag ≠ .alloc)
    {others : List Request} (noAlloc : ∀ other ∈ others, other.tag ≠ .alloc)
    (apart : ∀ other ∈ others, Apart request other) (store : Store) :
    ((store.handle request).2.handleAll others).2 =
      ((store.handleAll others).2.handle request).2 := by
  induction others generalizing store with
  | nil => rfl
  | cons other others induction =>
      rw [List.forall_mem_cons] at noAlloc apart
      show ((((store.handle request).2.handle other).2).handleAll others).2 =
        (((store.handle other).2.handleAll others).2.handle request).2
      rw [apart.1.handle_comm notAlloc noAlloc.1,
        induction noAlloc.2 apart.2]

/-- A request about a block gets the same answer from two stores in which its
name has the same block. -/
theorem fst_handle_congr
    {request : Request}
    (isAbout : request.tag ∈ [Operation.read, .update, .delete, .ping])
    {store other : Store}
    (agree : ∀ name, target? request = some name →
      store.find? name = other.find? name) :
    (store.handle request).1 = (other.handle request).1 := by
  obtain ⟨tag, payload⟩ := request
  cases tag with
  | alloc => simp at isAbout
  | status => simp at isAbout
  | ping => rfl
  | read =>
      have same := agree _ rfl
      cases found : other.find? (Text.lossy payload) <;>
        simp only [handle, same, found]
  | delete =>
      have same := agree _ rfl
      cases found : other.find? (Text.lossy payload) <;>
        simp [handle, contains, same, found]
  | update =>
      cases cut : operands payload with
      | none => simp only [handle, cut]
      | some given =>
          have same : store.find? given.1 = other.find? given.1 :=
            agree _ (by simp only [target?, cut, Option.map_some])
          cases found : other.find? given.1 <;>
            simp [handle, cut, contains, same, found]

/-! ## Schedules -/

section Schedules

variable {ι α : Type}

/-- The items of one party, in order. -/
def ofParty [DecidableEq ι] (party : ι) (items : List (ι × α)) : List α :=
  (items.filter (·.1 = party)).map Prod.snd

theorem mem_ofParty_iff
    [DecidableEq ι] {party : ι} {item : α} {items : List (ι × α)} :
    item ∈ ofParty party items ↔ (party, item) ∈ items := by
  simp [ofParty]

theorem ofParty_cons_self
    [DecidableEq ι] (party : ι) (item : α) (items : List (ι × α)) :
    ofParty party ((party, item) :: items) = item :: ofParty party items := by
  simp [ofParty]

theorem ofParty_cons_of_ne
    [DecidableEq ι] {party other : ι} (different : other ≠ party)
    (item : α) (items : List (ι × α)) :
    ofParty party ((other, item) :: items) = ofParty party items := by
  simp [ofParty, different]

/-- The replies that a store gives in the order of a schedule, each for the
party whose request it answers. -/
def answered (schedule : List (ι × Request)) (store : Store) :
    List (ι × Reply) :=
  (schedule.map Prod.fst).zip (store.handleAll (schedule.map Prod.snd)).1

theorem answered_cons
    (party : ι) (request : Request) (schedule : List (ι × Request))
    (store : Store) :
    answered ((party, request) :: schedule) store =
      (party, (store.handle request).1) ::
        answered schedule (store.handle request).2 := rfl

/--
The replies of a party, if no other request of the schedule names one of its
blocks, are those that it gets from a server for itself.  That server may start
with another store, as long as the names of the party have the same blocks
there.
-/
theorem ofParty_answered
    [DecidableEq ι] {party : ι} {schedule : List (ι × Request)}
    {store own : Store}
    (isAbout : ∀ request ∈ ofParty party schedule,
      request.tag ∈ [Operation.read, .update, .delete, .ping])
    (noAlloc : ∀ entry ∈ schedule, entry.2.tag ≠ .alloc)
    (apart : ∀ request ∈ ofParty party schedule, ∀ entry ∈ schedule,
      entry.1 ≠ party → Apart request entry.2)
    (agree : ∀ request ∈ ofParty party schedule, ∀ name,
      target? request = some name → store.find? name = own.find? name) :
    ofParty party (answered schedule store) =
      (own.handleAll (ofParty party schedule)).1 := by
  induction schedule generalizing store own with
  | nil => rfl
  | cons entry schedule induction =>
      obtain ⟨who, request⟩ := entry
      have notAlloc : request.tag ≠ .alloc := noAlloc _ List.mem_cons_self
      have noAllocLater : ∀ entry ∈ schedule, entry.2.tag ≠ .alloc :=
        fun entry scheduled =>
          noAlloc entry (List.mem_cons_of_mem _ scheduled)
      rw [answered_cons]
      by_cases isParty : who = party
      · -- The two servers answer an own request alike, and still agree.
        subst who
        rw [ofParty_cons_self] at isAbout apart agree ⊢
        rw [ofParty_cons_self]
        rw [List.forall_mem_cons] at isAbout agree
        have agreeLater : ∀ later ∈ ofParty party schedule, ∀ name,
            target? later = some name →
              (store.handle request).2.find? name =
                (own.handle request).2.find? name := by
          intro later member name isTarget
          rw [find?_handle notAlloc, find?_handle notAlloc,
            agree.2 later member name isTarget]
        have sameReply := fst_handle_congr isAbout.1 agree.1
        have sameLater := induction isAbout.2 noAllocLater
          (fun later member entry scheduled =>
            apart later (List.mem_cons_of_mem _ member) entry
              (List.mem_cons_of_mem _ scheduled))
          agreeLater
        exact congrArg₂ List.cons sameReply sameLater
      · -- The server for the party does not see the request of another one.
        rw [ofParty_cons_of_ne isParty] at isAbout apart agree ⊢
        rw [ofParty_cons_of_ne isParty]
        have agreeLater : ∀ later ∈ ofParty party schedule, ∀ name,
            target? later = some name →
              (store.handle request).2.find? name = own.find? name := by
          intro later member name isTarget
          have notNamed : target? request ≠ some name :=
            apart later member _ List.mem_cons_self isParty name isTarget
          rw [find?_handle_of_not_target notAlloc notNamed,
            agree later member name isTarget]
        exact induction isAbout noAllocLater
          (fun later member entry scheduled =>
            apart later member entry (List.mem_cons_of_mem _ scheduled))
          agreeLater

end Schedules

/-! ## Two parties and observers -/

/-- Those who send requests: two parties that work on blocks, and all who only
ask for status reports. -/
inductive Party where
  | first
  | second
  | observer
  deriving DecidableEq, Repr

/-- A schedule with the requests of two parties, those of each in its order, and
status requests anywhere between them. -/
structure Interleaves
    (first second : List Request) (schedule : List (Party × Request)) :
    Prop where
  first : ofParty .first schedule = first
  second : ofParty .second schedule = second
  observing : ∀ request ∈ ofParty .observer schedule, request.tag = .status

/-- A status request names no block. -/
theorem apart_of_status
    {request other : Request} (isStatus : other.tag = .status) :
    Apart request other := by
  intro name _
  simp [target?_of_asking (.inl isStatus)]

/-- What a schedule leaves is what the second party leaves of what the first
party leaves. -/
theorem Interleaves.snd_handleAll
    {first second : List Request} {schedule : List (Party × Request)}
    (interleaves : Interleaves first second schedule)
    (noAlloc : ∀ request ∈ first ++ second, request.tag ≠ .alloc)
    (apart : ∀ request ∈ first, ∀ other ∈ second, Apart request other)
    (store : Store) :
    (store.handleAll (schedule.map Prod.snd)).2 =
      ((store.handleAll first).2.handleAll second).2 := by
  induction schedule generalizing first second store with
  | nil =>
      cases interleaves.first
      cases interleaves.second
      rfl
  | cons entry schedule induction =>
      obtain ⟨who, request⟩ := entry
      rcases interleaves with ⟨isFirst, isSecond, observing⟩
      rw [List.map_cons]
      show ((store.handle request).2.handleAll (schedule.map Prod.snd)).2 = _
      cases who with
      | first =>
          rw [ofParty_cons_self] at isFirst
          rw [ofParty_cons_of_ne (by decide)] at isSecond observing
          subst isFirst
          rw [List.cons_append, List.forall_mem_cons] at noAlloc
          rw [List.forall_mem_cons] at apart
          exact induction ⟨rfl, isSecond, observing⟩ noAlloc.2 apart.2 _
      | second =>
          rw [ofParty_cons_self] at isSecond
          rw [ofParty_cons_of_ne (by decide)] at isFirst observing
          subst isSecond
          simp only [List.forall_mem_append, List.forall_mem_cons]
            at noAlloc apart
          rcases noAlloc with ⟨noAllocFirst, notAlloc, noAllocLater⟩
          have passes : ∀ other ∈ first, Apart request other :=
            fun other member => (apart other member).1.symm
          rw [induction ⟨isFirst, rfl, observing⟩
              (List.forall_mem_append.mpr ⟨noAllocFirst, noAllocLater⟩)
              (fun other member => (apart other member).2),
            handleAll_handle_comm notAlloc noAllocFirst passes]
          rfl
      | observer =>
          rw [ofParty_cons_of_ne (by decide)] at isFirst isSecond
          rw [ofParty_cons_self, List.forall_mem_cons] at observing
          rw [(effect_handle request store).eq_of_asking
            (.inr (.inl observing.1))]
          exact induction ⟨isFirst, isSecond, observing.2⟩ noAlloc apart _

/-- With requests that make no block, a schedule makes none. -/
theorem Interleaves.noAlloc
    {first second : List Request} {schedule : List (Party × Request)}
    (interleaves : Interleaves first second schedule)
    (noAlloc : ∀ request ∈ first ++ second, request.tag ≠ .alloc) :
    ∀ entry ∈ schedule, entry.2.tag ≠ .alloc := by
  rintro ⟨who, request⟩ scheduled
  rcases interleaves with ⟨rfl, rfl, observing⟩
  rw [← mem_ofParty_iff] at scheduled
  cases who with
  | first => exact noAlloc _ (List.mem_append_left _ scheduled)
  | second => exact noAlloc _ (List.mem_append_right _ scheduled)
  | observer =>
      rw [observing _ scheduled]
      decide

/-- With two lists about different blocks, requests of different parties are
about different blocks. -/
theorem Interleaves.apart_of_ne
    {first second : List Request} {schedule : List (Party × Request)}
    (interleaves : Interleaves first second schedule)
    (apart : ∀ request ∈ first, ∀ other ∈ second, Apart request other)
    {one other : Party} (different : one ≠ other) {request later : Request}
    (isOne : (one, request) ∈ schedule)
    (isOther : (other, later) ∈ schedule) :
    Apart request later := by
  rcases interleaves with ⟨rfl, rfl, observing⟩
  rw [← mem_ofParty_iff] at isOne isOther
  cases other with
  | observer => exact apart_of_status (observing _ isOther)
  | first =>
      cases one with
      | first => exact absurd rfl different
      | second => exact Apart.symm (apart _ isOther _ isOne)
      | observer => exact Apart.symm (apart_of_status (observing _ isOne))
  | second =>
      cases one with
      | first => exact apart _ isOne _ isOther
      | second => exact absurd rfl different
      | observer => exact Apart.symm (apart_of_status (observing _ isOne))

/--
Parties on different blocks do not affect each other.

Take any store and two lists of requests that read, update and free blocks or
ask for a sign of life, with any payloads, such that no name that a request of
one list is about is the name of a request of the other one.  However a server
interleaves the two lists, and whatever status requests it answers in between,
each party gets the replies that it gets when its list is answered alone from
that store, and the store in the end is always the one that the two lists leave
when they are answered one after the other.
-/
theorem interleavings_agree
    (store : Store) (first second : List Request)
    (schedule : List (Party × Request))
    (interleaves : Interleaves first second schedule)
    (isAbout : ∀ request ∈ first ++ second,
      request.tag ∈ [Operation.read, .update, .delete, .ping])
    (apart : ∀ request ∈ first, ∀ other ∈ second, ∀ name,
      target? request = some name → target? other ≠ some name) :
    ofParty .first (answered schedule store) = (store.handleAll first).1 ∧
      ofParty .second (answered schedule store) =
        (store.handleAll second).1 ∧
      (store.handleAll (schedule.map Prod.snd)).2 =
        ((store.handleAll first).2.handleAll second).2 := by
  have noAlloc : ∀ request ∈ first ++ second, request.tag ≠ .alloc := by
    intro request member isAlloc
    have kinds := isAbout request member
    rw [isAlloc] at kinds
    revert kinds
    decide
  have asAlone : ∀ party,
      (∀ request ∈ ofParty party schedule,
        request.tag ∈ [Operation.read, .update, .delete, .ping]) →
      ofParty party (answered schedule store) =
        (store.handleAll (ofParty party schedule)).1 := by
    intro party isAboutOwn
    refine ofParty_answered isAboutOwn (interleaves.noAlloc noAlloc) ?_
      fun _ _ _ _ => rfl
    intro request isOwn entry scheduled different
    exact interleaves.apart_of_ne apart different.symm
      (mem_ofParty_iff.mp isOwn) scheduled
  rw [List.forall_mem_append] at isAbout
  refine ⟨?_, ?_, interleaves.snd_handleAll noAlloc apart store⟩
  · rw [asAlone .first (interleaves.first ▸ isAbout.1), interleaves.first]
  · rw [asAlone .second (interleaves.second ▸ isAbout.2), interleaves.second]

/-- One party updates and reads a block while another one frees a block and
sends an update without a separator, with status requests in between. -/
theorem updating_while_another_frees :
    let store := after [Request.alloc "" "one", Request.alloc "" "two"]
    let first := [Request.update "m1" "new", Request.read "m1"]
    let second := [Request.delete "m2", ⟨.update, Text.encode "m1"⟩]
    let schedule :=
      [(Party.second, Request.delete "m2"),
        (.observer, Request.status .memory),
        (.first, Request.update "m1" "new"),
        (.second, ⟨.update, Text.encode "m1"⟩),
        (.observer, ⟨.status, Text.encode "m1"⟩),
        (.first, Request.read "m1")]
    Interleaves first second schedule ∧
      ofParty .first (answered schedule store) =
        (store.handleAll first).1 ∧
      ofParty .second (answered schedule store) =
        (store.handleAll second).1 ∧
      (store.handleAll (schedule.map Prod.snd)).2 =
        ((store.handleAll first).2.handleAll second).2 := by
  intro store first second schedule
  have interleaves : Interleaves first second schedule :=
    ⟨rfl, rfl, by decide⟩
  have firstNames : ∀ request ∈ first, target? request = some "m1" := by
    decide
  have secondNames : ∀ request ∈ second, target? request ≠ some "m1" := by
    decide
  refine ⟨interleaves, interleavings_agree store first second schedule
    interleaves (by decide) ?_⟩
  intro request isFirst other isSecond name isName
  rw [← isName, firstNames request isFirst]
  exact secondNames other isSecond

end BlockWire.Store
