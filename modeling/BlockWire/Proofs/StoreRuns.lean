import BlockWire.Proofs.Handling
import Mathlib.Data.List.Induction

/-!
# Runs of requests

A server that starts with no block answers requests one after the other, from
whichever client they come.  The store after a run is the one that the request
at its end makes of the store before, so what every request keeps is kept by
every run.

Names are numbered in the order in which they are issued.  Each name in a store
is one of those it has issued, and the next one is fresh.
-/

namespace BlockWire.Store

/-! ## One more request -/

/-- The store after some requests. -/
def after (requests : List Request) : Store :=
  (empty.handleAll requests).2

/-- Some requests with the replies that they get, one after the other. -/
def exchanges (requests : List Request) : List (Request × Reply) :=
  requests.zip (empty.handleAll requests).1

theorem handleAll_concat
    (requests : List Request) (request : Request) (store : Store) :
    store.handleAll (requests ++ [request]) =
      ((store.handleAll requests).1 ++
          [((store.handleAll requests).2.handle request).1],
        ((store.handleAll requests).2.handle request).2) := by
  induction requests generalizing store with
  | nil => rfl
  | cons earlier requests induction =>
      simp only [List.cons_append, handleAll, induction]

theorem length_handleAll (requests : List Request) (store : Store) :
    (store.handleAll requests).1.length = requests.length := by
  induction requests generalizing store with
  | nil => rfl
  | cons request requests induction =>
      simp only [handleAll, List.length_cons, induction]

theorem after_concat (requests : List Request) (request : Request) :
    after (requests ++ [request]) =
      ((after requests).handle request).2 := by
  rw [after, handleAll_concat]
  rfl

/-! ## Numbered names -/

/-- Every name in a store is one of those that it has issued. -/
def Numbered (store : Store) : Prop :=
  ∀ name, (store.find? name).isSome →
    ∃ number, number ≤ store.issued ∧ name = blockName number

theorem numbered_handle
    {store : Store} (numbered : store.Numbered) (request : Request) :
    (store.handle request).2.Numbered := by
  intro name found
  rcases isSome_find?_handle found with before | ⟨-, isNew, -, issued⟩
  · rcases numbered name before with ⟨number, within, isName⟩
    exact ⟨number, Nat.le_trans within (issued_le_handle request store),
      isName⟩
  · exact ⟨store.issued + 1, Nat.le_of_eq issued.symm, isNew⟩

theorem numbered_after (requests : List Request) :
    (after requests).Numbered := by
  induction requests using List.reverseRecOn with
  | nil =>
      intro name found
      cases found
  | append_singleton requests request induction =>
      rw [after_concat]
      exact numbered_handle induction request

/-- The next name to be issued is fresh. -/
theorem Numbered.find?_next
    {store : Store} (numbered : store.Numbered) :
    store.find? (blockName (store.issued + 1)) = none := by
  cases found : store.find? (blockName (store.issued + 1)) with
  | none => rfl
  | some block =>
      rcases numbered _ (by rw [found]; rfl) with ⟨number, issued, isNext⟩
      have same := blockName_inj.mp isNext
      omega

end BlockWire.Store
