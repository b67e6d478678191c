import BlockWire.Proofs.StoreRuns

/-!
# Names that were never issued

A name has a block only if some request for a new block was answered with it.
Whatever requests came before, a name that no answer gave out is therefore not
found.

An update is the one exception, and only because of how its operands travel:
an identifier with a NUL is cut at it, so that the update is one of another
name, which may well have been issued.
-/

namespace BlockWire.Store

/-! ## Who gets a block -/

/-- A request for a new block was answered with a name. -/
def Issues (name : String) (exchange : Request × Reply) : Prop :=
  exchange.1.tag = .alloc ∧ exchange.2.result = .ok name

/-- After a run a name has a block only if it had one before or was issued on
the way. -/
theorem isSome_find?_handleAll
    {requests : List Request} {name : String} {store : Store}
    (found : ((store.handleAll requests).2.find? name).isSome) :
    (store.find? name).isSome ∨
      ∃ exchange ∈ requests.zip (store.handleAll requests).1,
        Issues name exchange := by
  induction requests generalizing store with
  | nil => exact .inl found
  | cons request requests induction =>
      have foundLater :
          ((handleAll requests (store.handle request).2).2.find?
            name).isSome := found
      rcases induction foundLater with
        foundNow | ⟨exchange, member, issues⟩
      · rcases isSome_find?_handle foundNow with
          before | ⟨isAlloc, -, answer, -⟩
        · exact .inl before
        · have issues : Issues name (request, (store.handle request).1) := by
            refine ⟨isAlloc, ?_⟩
            rw [answer, Reply.result_success, Text.lossy_encode]
          exact .inr ⟨_, List.mem_cons_self, issues⟩
      · exact .inr ⟨exchange, List.mem_cons_of_mem _ member, issues⟩

theorem find?_after_of_not_issued
    {requests : List Request} {name : String}
    (unissued : ∀ exchange ∈ exchanges requests, ¬ Issues name exchange) :
    (after requests).find? name = none := by
  cases found : (after requests).find? name with
  | none => rfl
  | some block =>
      have isSome : ((empty.handleAll requests).2.find? name).isSome := by
        show ((after requests).find? name).isSome
        rw [found]
        rfl
      rcases isSome_find?_handleAll isSome with
        initially | ⟨exchange, member, issues⟩
      · cases initially
      · exact absurd issues (unissued exchange member)

/-! ## Requests for such names -/

/--
A name that was never issued is not found, and asking for it changes nothing.

This holds after every run of requests of any kind, for reading and freeing a
block of any name, and for updating one of a name without a NUL.  The update of
a name with a NUL is the update of the name in front of the first NUL, with
the rest of the name and the NUL in front of the content.
-/
theorem not_found_of_not_issued
    (requests : List Request) (name : String)
    (unissued : ∀ exchange ∈ exchanges requests, ¬ Issues name exchange) :
    (after requests).handle (.read name) =
        (.failure .notFound s!"Memory ID '{name}' not found.",
          after requests) ∧
      (after requests).handle (.delete name) =
        (.failure .notFound s!"Memory ID '{name}' not found.",
          after requests) ∧
      ('\x00' ∉ name.toList →
        ∀ content, (after requests).handle (.update name content) =
          (.failure .notFound s!"Memory ID '{name}' not found.",
            after requests)) ∧
      (∀ before rest, name = before ++ "\x00" ++ rest →
        '\x00' ∉ before.toList →
          ∀ content, (after requests).handle (.update name content) =
            if (after requests).contains before then
              (.success (Text.encode s!"Memory '{before}' updated"),
                (after requests).write before
                  (Text.encode (rest ++ "\x00" ++ content)))
            else
              (.failure .notFound s!"Memory ID '{before}' not found.",
                after requests)) := by
  have none := find?_after_of_not_issued unissued
  have absent : (after requests).contains name = false := by
    rw [contains, none]
    rfl
  refine ⟨?_, ?_, ?_, ?_⟩
  · rw [handle_read, none]
    rfl
  · rw [handle_delete, absent]
    rfl
  · intro free content
    rw [handle_update free, absent]
    rfl
  · intro before rest isName free content
    rw [isName, handle_update_of_nul, handle_update free]
    rfl

/-- The only name that one request for a block issues. -/
theorem not_issues_name_with_nul :
    ∀ exchange ∈ exchanges [.alloc "" "old"],
      ¬ Issues "m1\x00new" exchange := by
  have answered :
      exchanges [.alloc "" "old"] =
        [(.alloc "" "old", .success (Text.encode "m1"))] := rfl
  rw [answered]
  intro exchange member issues
  rw [List.mem_singleton.mp member] at issues
  have given : Except.ok (ε := Refusal) "m1" = .ok "m1\x00new" := issues.2
  exact absurd (Except.ok.inj given) (by decide)

/-- Reading under a name with a NUL finds nothing, and updating goes to the
block in front of the NUL. -/
theorem not_found_of_name_with_nul :
    ((after [.alloc "" "old"]).handle (.read "m1\x00new")).1.tag =
        .notFound ∧
      ((after [.alloc "" "old"]).handle (.update "m1\x00new" "x")).1 =
        .success (Text.encode "Memory 'm1' updated") := by
  rcases not_found_of_not_issued [.alloc "" "old"] "m1\x00new"
    not_issues_name_with_nul with ⟨read, -, -, update⟩
  rw [read, update "m1" "new" (by decide) (by decide) "x"]
  exact ⟨rfl, rfl⟩

/-- A name that was not issued can be updated: it is not the case that every
update of such a name is refused and changes nothing. -/
theorem updated_though_not_issued :
    ¬ ∀ (requests : List Request) (name content : String),
      (∀ exchange ∈ exchanges requests, ¬ Issues name exchange) →
        ((after requests).handle (.update name content)).1.tag =
            .notFound ∧
          ((after requests).handle (.update name content)).2 =
            after requests := by
  intro refused
  have answer :=
    (refused [.alloc "" "old"] "m1\x00new" "x"
      not_issues_name_with_nul).1
  exact absurd answer (by decide)

end BlockWire.Store
