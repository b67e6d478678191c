import BlockWire.Proofs.StoreRuns

/-!
# The last write wins

What a block holds is decided by the history of requests and replies alone.
A name has a block from the reply on that issues it until a reply that frees
it, and the content of the block is the one of the last successful update since
then, or the first one.

The history is a list, and each request adds one entry at its end.  The store
follows the history entry by entry: what an entry adds to the account of a name
is what its request changes in the block of the name.
-/

namespace BlockWire

/-! ## Histories -/

/-- A request of one of the kinds that clients make, by its operands. -/
inductive Action where
  | alloc (description content : String)
  | update (identifier content : String)
  | delete (identifier : String)
  | read (identifier : String)
  | status (detail : Detail)
  | ping
  deriving DecidableEq, Repr

namespace Action

def request : Action → Request
  | .alloc description content => .alloc description content
  | .update identifier content => .update identifier content
  | .delete identifier => .delete identifier
  | .read identifier => .read identifier
  | .status detail => .status detail
  | .ping => .ping

/-- The operand that the first separator of a payload ends has no NUL. -/
def IsPlain : Action → Prop
  | .alloc description _ => '\x00' ∉ description.toList
  | .update identifier _ => '\x00' ∉ identifier.toList
  | .delete _ => True
  | .read _ => True
  | .status _ => True
  | .ping => True

end Action

/-- An action with the reply that it got. -/
abbrev Deed := Action × Reply

/-- Some actions, from the empty store on, with the replies that they get. -/
def history (actions : List Action) : List Deed :=
  actions.zip (Store.empty.handleAll (actions.map Action.request)).1

namespace Deed

/-- A block with some content was made under a name. -/
def Issues (name content : String) (deed : Deed) : Prop :=
  (∃ description, deed.1 = .alloc description content) ∧
    deed.2.result = .ok name

/-- The block of a name was freed. -/
def Frees (name : String) (deed : Deed) : Prop :=
  deed.1 = .delete name ∧ deed.2.tag = .success

/-- The content that the block of a name got by a successful update. -/
def updated? (name : String) (deed : Deed) : Option String :=
  match deed.1 with
  | .update identifier content =>
      if identifier = name ∧ deed.2.tag = .success then some content
      else none
  | _ => none

end Deed

/--
A history says that a name has a block with some content: the name was issued,
it was not freed since, and the content is the one of the last successful
update since, or the one that the block was made with.
-/
def LastWritten (name content : String) (deeds : List Deed) : Prop :=
  ∃ before made since first,
    deeds = before ++ made :: since ∧ made.Issues name first ∧
      (∀ deed ∈ since, ¬ deed.Frees name) ∧
      content =
        (since.filterMap (Deed.updated? name)).getLast?.getD first

theorem not_lastWritten_nil (name content : String) :
    ¬ LastWritten name content [] := by
  rintro ⟨before, made, since, first, split, -⟩
  simp at split

/-- The account of a name after one more deed. -/
theorem lastWritten_concat_iff
    {name content : String} {deeds : List Deed} {deed : Deed} :
    LastWritten name content (deeds ++ [deed]) ↔
      deed.Issues name content ∨
        ¬ deed.Frees name ∧
          ∃ old, LastWritten name old deeds ∧
            content = (deed.updated? name).getD old := by
  constructor
  · rintro ⟨before, made, since, first, split, issues, kept, last⟩
    rcases List.eq_nil_or_concat since with rfl | ⟨earlier, newest, rfl⟩
    · have same := (List.append_inj' split rfl).2
      cases same
      left
      rw [last]
      exact issues
    · right
      rw [List.concat_eq_append, ← List.cons_append, ← List.append_assoc]
        at split
      rcases List.append_inj' split rfl with ⟨earlierSplit, same⟩
      cases same
      simp only [List.concat_eq_append, List.mem_append,
        List.mem_singleton] at kept
      refine ⟨kept deed (.inr rfl), _,
        ⟨before, made, earlier, first, earlierSplit, issues,
          fun old member => kept old (.inl member), rfl⟩, ?_⟩
      rw [last, List.concat_eq_append, List.filterMap_append]
      cases updated : deed.updated? name <;> simp [updated]
  · rintro (issues | ⟨notFreed, old, written, last⟩)
    · exact ⟨deeds, deed, [], content, rfl, issues, by simp, rfl⟩
    · rcases written with
        ⟨before, made, since, first, rfl, issues, kept, rfl⟩
      refine ⟨before, made, since ++ [deed], first, by simp, issues, ?_, ?_⟩
      · intro other member
        rcases List.mem_append.mp member with isOld | isNew
        · exact kept other isOld
        · rw [List.mem_singleton.mp isNew]
          exact notFreed
      · rw [last, List.filterMap_append]
        cases updated : deed.updated? name <;> simp [updated]

namespace Store

/-! ## The store behind a history -/

theorem history_concat (actions : List Action) (action : Action) :
    history (actions ++ [action]) =
      history actions ++
        [(action,
          ((after (actions.map Action.request)).handle
            action.request).1)] := by
  rw [history, List.map_append, List.map_singleton, handleAll_concat,
    List.zip_append (by simp [length_handleAll])]
  rfl

/-- The content of the block of a name, as text. -/
def textOf? (name : String) (store : Store) : Option String :=
  (store.find? name).map fun block => Text.lossy block.content

/-- Reading gives the text of the block, or the refusal of a name without
one. -/
theorem result_handle_read (name : String) (store : Store) :
    (store.handle (.read name)).1.result =
      match store.textOf? name with
      | some content => .ok content
      | none => .error ⟨.notFound, s!"Memory ID '{name}' not found."⟩ := by
  rw [handle_read, textOf?]
  cases store.find? name with
  | some block => rfl
  | none => exact Reply.result_failure (by decide) _

/-! ## The text of a block after each action -/

theorem textOf?_handle_alloc
    {description : String} (free : '\x00' ∉ description.toList)
    (content name : String) (store : Store) :
    (store.handle (.alloc description content)).2.textOf? name =
      if name = blockName (store.issued + 1) then some content
      else store.textOf? name := by
  rw [handle_alloc free, textOf?, find?_alloc]
  split
  · simp
  · rfl

theorem textOf?_handle_update
    {identifier : String} (free : '\x00' ∉ identifier.toList)
    (content name : String) (store : Store) :
    (store.handle (.update identifier content)).2.textOf? name =
      if identifier = name then
        (store.textOf? name).map fun _ => content
      else store.textOf? name := by
  rw [handle_update free, contains, textOf?, textOf?]
  cases held : store.find? identifier with
  | none =>
      simp only [Option.isSome_none, Bool.false_eq_true, if_false]
      split
      · rename_i isName
        rw [← isName, held]
        rfl
      · rfl
  | some block =>
      simp only [Option.isSome_some, if_true, find?_write, held]
      by_cases isName : identifier = name
      · subst name
        simp [held]
      · rw [if_neg isName, if_neg (Ne.symm isName)]

theorem textOf?_handle_delete
    (identifier name : String) (store : Store) :
    (store.handle (.delete identifier)).2.textOf? name =
      if identifier = name then none else store.textOf? name := by
  rw [handle_delete, contains, textOf?, textOf?]
  cases held : store.find? identifier with
  | none =>
      simp only [Option.isSome_none, Bool.false_eq_true, if_false]
      split
      · rename_i isName
        rw [← isName, held]
        rfl
      · rfl
  | some block =>
      simp only [Option.isSome_some, if_true, find?_remove]
      by_cases isName : identifier = name
      · simp [isName]
      · rw [if_neg isName, if_neg (Ne.symm isName)]

/-- What an action with its reply adds to the account of a name is what it
changes in the text of the name's block. -/
theorem textOf?_handle_iff
    {store : Store} (numbered : store.Numbered)
    {action : Action} (plain : action.IsPlain) (name content : String) :
    (store.handle action.request).2.textOf? name = some content ↔
      Deed.Issues name content
          (action, (store.handle action.request).1) ∨
        ¬ Deed.Frees name (action, (store.handle action.request).1) ∧
          ∃ old, store.textOf? name = some old ∧
            content =
              (Deed.updated? name
                (action, (store.handle action.request).1)).getD old := by
  cases action with
  | alloc description first =>
      have text := textOf?_handle_alloc plain first name store
      have fresh : store.textOf? (blockName (store.issued + 1)) = none := by
        rw [textOf?, numbered.find?_next]
        rfl
      simp only [Action.request, text]
      rw [handle_alloc plain]
      simp only [Deed.Issues, Deed.Frees, Deed.updated?]
      by_cases isNew : name = blockName (store.issued + 1)
      · subst name
        simp [fresh]
      · simp [isNew, Ne.symm isNew]
  | update identifier given =>
      have text := textOf?_handle_update plain given name store
      simp only [Action.request, text]
      rw [handle_update plain, contains]
      simp only [Deed.Issues, Deed.Frees, Deed.updated?, textOf?]
      by_cases isName : identifier = name
      · subst name
        cases held : store.find? identifier with
        | none => simp
        | some block => simp [Reply.success, eq_comm]
      · simp [isName]
  | delete identifier =>
      have text := textOf?_handle_delete identifier name store
      simp only [Action.request, text]
      rw [handle_delete, contains]
      simp only [Deed.Issues, Deed.Frees, Deed.updated?, textOf?]
      by_cases isName : identifier = name
      · subst name
        cases held : store.find? identifier with
        | none => simp
        | some block => simp [Reply.success]
      · simp [isName]
  | read identifier =>
      have same : (store.handle (.read identifier)).2 = store := by
        rw [handle_read]
        split <;> rfl
      simp [Action.request, same, Deed.Issues, Deed.Frees, Deed.updated?]
  | status detail =>
      simp [Action.request, store_handle_status, Deed.Issues, Deed.Frees,
        Deed.updated?]
  | ping =>
      have same : (store.handle .ping).2 = store := rfl
      simp [Action.request, same, Deed.Issues, Deed.Frees, Deed.updated?]

theorem textOf?_after_iff
    {actions : List Action} (plain : ∀ action ∈ actions, action.IsPlain)
    (name content : String) :
    (after (actions.map Action.request)).textOf? name = some content ↔
      LastWritten name content (history actions) := by
  induction actions using List.reverseRecOn generalizing content with
  | nil =>
      constructor
      · intro held
        cases held
      · intro written
        exact absurd written (not_lastWritten_nil name content)
  | append_singleton actions action induction =>
      have plainBefore : ∀ earlier ∈ actions, earlier.IsPlain :=
        fun earlier member => plain earlier (List.mem_append_left _ member)
      have plainNow : action.IsPlain := plain action (by simp)
      rw [history_concat, lastWritten_concat_iff, List.map_append,
        List.map_singleton, after_concat,
        textOf?_handle_iff (numbered_after _) plainNow]
      simp only [induction plainBefore]

end Store

/-! ## Other names -/

/-- Whether something was done to a name: it was issued, or its block was to
be updated or freed. -/
def Deed.concerns (name : String) (deed : Deed) : Bool :=
  match deed.1 with
  | .alloc _ _ =>
      match deed.2.result with
      | .ok issued => issued = name
      | .error _ => false
  | .update identifier _ => identifier = name
  | .delete identifier => identifier = name
  | .read _ => false
  | .status _ => false
  | .ping => false

/-- Other deeds have no part in the account of the name. -/
theorem Deed.account_of_not_concerns
    {name : String} {deed : Deed} (other : deed.concerns name = false) :
    (∀ content, ¬ deed.Issues name content) ∧ ¬ deed.Frees name ∧
      deed.updated? name = none := by
  obtain ⟨action, reply⟩ := deed
  cases action with
  | alloc description first =>
      have notIssued : ∀ content,
          ¬ Issues name content (.alloc description first, reply) := by
        rintro content ⟨-, issued⟩
        rw [concerns, issued] at other
        simp at other
      exact ⟨notIssued, by simp [Frees], rfl⟩
  | update identifier given =>
      simp only [concerns, decide_eq_false_iff_not] at other
      simp [Issues, Frees, updated?, other]
  | delete identifier =>
      simp only [concerns, decide_eq_false_iff_not] at other
      simp [Issues, Frees, updated?, other]
  | read identifier => simp [Issues, Frees, updated?]
  | status detail => simp [Issues, Frees, updated?]
  | ping => simp [Issues, Frees, updated?]

theorem lastWritten_filter_iff
    {name content : String} {deeds : List Deed} :
    LastWritten name content (deeds.filter (Deed.concerns name)) ↔
      LastWritten name content deeds := by
  induction deeds using List.reverseRecOn generalizing content with
  | nil => exact Iff.rfl
  | append_singleton deeds deed induction =>
      rw [List.filter_append, lastWritten_concat_iff]
      cases concerned : deed.concerns name with
      | true =>
          simp only [List.filter_cons, concerned, if_true,
            List.filter_nil, lastWritten_concat_iff, induction]
      | false =>
          rcases Deed.account_of_not_concerns concerned with
            ⟨notIssued, notFreed, notUpdated⟩
          simp only [List.filter_cons, concerned, Bool.false_eq_true,
            if_false, List.filter_nil, List.append_nil, induction]
          simp [notIssued, notFreed, notUpdated]

/-! ## Reading -/

/--
The last write wins.

After every run of actions that starts with the empty store, reading a name
gives exactly the content that the history says was last written to its block,
and the refusal of a name that is not found if the history says that there is
none.  What was done to other names does not matter: two runs in which the same
was done to a name, with the same replies, give the same to its reader.
-/
theorem read_after_history
    (actions : List Action) (plain : ∀ action ∈ actions, action.IsPlain)
    (name : String) :
    (∀ content,
      ((Store.after (actions.map Action.request)).handle
          (.read name)).1.result = .ok content ↔
        LastWritten name content (history actions)) ∧
    ((∀ content, ¬ LastWritten name content (history actions)) →
      ((Store.after (actions.map Action.request)).handle
          (.read name)).1.result =
        .error ⟨.notFound, s!"Memory ID '{name}' not found."⟩) ∧
    (∀ other : List Action, (∀ action ∈ other, action.IsPlain) →
      (history other).filter (Deed.concerns name) =
          (history actions).filter (Deed.concerns name) →
        ((Store.after (other.map Action.request)).handle
            (.read name)).1.result =
          ((Store.after (actions.map Action.request)).handle
            (.read name)).1.result) := by
  simp only [Store.result_handle_read]
  refine ⟨?_, ?_, ?_⟩
  · intro content
    rw [← Store.textOf?_after_iff plain]
    cases Store.textOf? name (Store.after (actions.map Action.request)) with
    | none => simp
    | some held => simp
  · intro unwritten
    cases held :
        Store.textOf? name (Store.after (actions.map Action.request)) with
    | none => rfl
    | some content =>
        exact absurd ((Store.textOf?_after_iff plain name content).mp held)
          (unwritten content)
  · intro other otherPlain same
    have texts :
        Store.textOf? name (Store.after (other.map Action.request)) =
          Store.textOf? name
            (Store.after (actions.map Action.request)) := by
      apply Option.ext
      intro content
      rw [Store.textOf?_after_iff otherPlain, Store.textOf?_after_iff plain,
        ← lastWritten_filter_iff, same, lastWritten_filter_iff]
    rw [texts]

/-- A block whose content was replaced by one with a NUL, and a name that was
freed without having been issued. -/
theorem read_after_update_with_nul :
    ((Store.after
        ([.alloc "first" "old", .update "m1" "new\x00é",
          .delete "m2"].map Action.request)).handle (.read "m1")).1.result =
      .ok "new\x00é" := by
  have plain : ∀ action ∈ [Action.alloc "first" "old",
      .update "m1" "new\x00é", .delete "m2"], action.IsPlain := by
    simp [Action.IsPlain]
  refine ((read_after_history _ plain "m1").1 _).mpr
    ⟨[], (.alloc "first" "old", .success (Text.encode "m1")),
      [(.update "m1" "new\x00é",
          .success (Text.encode "Memory 'm1' updated")),
        (.delete "m2", Store.missing "m2")],
      "old", rfl, ⟨⟨_, rfl⟩, rfl⟩, ?_, rfl⟩
  simp [Deed.Frees]

end BlockWire
