import Mathlib.Data.List.Forall2
import Mathlib.Data.List.Perm.Basic

/-!
# Giving out shares

Things are given out to takers in groups: the members of a group have a common
key, and each taker of the group gets a share of what the group is given.  From
the shares of the groups come shares for all takers, in the order of the
takers.
-/

namespace BlockWire

/-! ## Groups -/

variable {α β : Type}

/-- In a list with ascending keys the items with the least key come first. -/
theorem eq_filter_append_filter
    {key : α → Nat} {items : List α} {least : Nat}
    (ascending : (items.map key).Pairwise (· ≤ ·))
    (isLeast : ∀ item ∈ items, least ≤ key item) :
    items =
      items.filter (key · = least) ++ items.filter (key · ≠ least) := by
  induction items with
  | nil => rfl
  | cons item items induction =>
      rw [List.map_cons, List.pairwise_cons] at ascending
      rcases ascending with ⟨first, ascendingLater⟩
      by_cases isItem : key item = least
      · have isLater := induction ascendingLater fun later member =>
          isLeast later (List.mem_cons_of_mem _ member)
        simp only [List.filter_cons, isItem, decide_true, if_true, ne_eq,
          not_true_eq_false, decide_false, Bool.false_eq_true, if_false,
          List.cons_append]
        exact congrArg (item :: ·) isLater
      · have above : ∀ later ∈ item :: items, key later ≠ least := by
          intro later member
          rcases List.mem_cons.mp member with rfl | memberLater
          · exact isItem
          · have atLeast := isLeast item List.mem_cons_self
            have after := first _ (List.mem_map_of_mem memberLater)
            omega
        rw [List.filter_eq_nil_iff.mpr (by simpa using above),
          List.filter_eq_self.mpr (by simpa using above), List.nil_append]

/-- Leaving out the items of one key leaves those of another key. -/
theorem filter_of_filter_ne
    {key : α → Nat} {value other : Nat} (different : other ≠ value)
    (items : List α) :
    (items.filter (key · ≠ value)).filter (key · = other) =
      items.filter (key · = other) := by
  rw [List.filter_filter]
  refine List.filter_congr fun item _ => ?_
  by_cases isIt : key item = other
  · simp [isIt, different]
  · simp [isIt]

/-- The items that are left have the keys that are left. -/
theorem mem_keys_of_filter_ne
    {key : α → Nat} {items : List α} {value : Nat} {keys : List Nat}
    (covered : ∀ item ∈ items, key item ∈ value :: keys) :
    ∀ item ∈ items.filter (key · ≠ value), key item ∈ keys := by
  intro item member
  rcases List.mem_filter.mp member with ⟨isItem, notValue⟩
  exact List.mem_of_ne_of_mem (of_decide_eq_true notValue)
    (covered item isItem)

/-- A list with ascending keys is made up of its groups, key after key. -/
theorem eq_flatMap_filter_of_ascending
    {key : α → Nat} {items : List α} {keys : List Nat}
    (ascending : (items.map key).Pairwise (· ≤ ·))
    (distinct : keys.Pairwise (· < ·))
    (covered : ∀ item ∈ items, key item ∈ keys) :
    items = keys.flatMap fun value => items.filter (key · = value) := by
  induction keys generalizing items with
  | nil =>
      rw [List.flatMap_nil, List.eq_nil_iff_forall_not_mem]
      intro item member
      cases covered item member
  | cons value keys induction =>
      rw [List.pairwise_cons] at distinct
      rcases distinct with ⟨first, distinctLater⟩
      have isLeast : ∀ item ∈ items, value ≤ key item := by
        intro item member
        rcases List.mem_cons.mp (covered item member) with isValue | later
        · exact Nat.le_of_eq isValue.symm
        · exact Nat.le_of_lt (first _ later)
      have rest :=
        induction (ascending.sublist (List.filter_sublist.map key))
          distinctLater (mem_keys_of_filter_ne covered)
      rw [List.flatMap_cons]
      nth_rewrite 1 [eq_filter_append_filter ascending isLeast]
      rw [rest]
      congr 1
      exact List.flatMap_congr fun other member =>
        filter_of_filter_ne (Nat.ne_of_gt (first other member)) items

/-- In any order a list is its groups, one after the other, rearranged. -/
theorem perm_flatMap_filter
    {key : α → Nat} {items : List α} {keys : List Nat}
    (distinct : keys.Nodup) (covered : ∀ item ∈ items, key item ∈ keys) :
    items.Perm (keys.flatMap fun value => items.filter (key · = value)) := by
  induction keys generalizing items with
  | nil =>
      have none : items = [] := by
        rw [List.eq_nil_iff_forall_not_mem]
        intro item member
        cases covered item member
      rw [none, List.flatMap_nil]
  | cons value keys induction =>
      rw [List.nodup_cons] at distinct
      rcases distinct with ⟨notLater, distinctLater⟩
      have rest := induction distinctLater (mem_keys_of_filter_ne covered)
      rw [List.flatMap_congr fun other member => filter_of_filter_ne
        (ne_of_mem_of_not_mem member notLater) items] at rest
      have parted := List.filter_append_perm (key · = value) items
      simp only [← decide_not] at parted
      rw [List.flatMap_cons]
      exact parted.symm.trans (rest.append_left _)

/-! ## Shares -/

/-- What can be given out group by group can be given out as a whole. -/
theorem exists_shares_flatMap
    {Takes : α → List β → Prop} {keys : List Nat}
    {takers : Nat → List α} {given : Nat → List β}
    (shared : ∀ value ∈ keys, ∃ shares,
      List.Forall₂ Takes (takers value) shares ∧
        shares.flatten = given value) :
    ∃ shares, List.Forall₂ Takes (keys.flatMap takers) shares ∧
      shares.flatten = keys.flatMap given := by
  induction keys with
  | nil => exact ⟨[], .nil, rfl⟩
  | cons value keys induction =>
      rcases shared value List.mem_cons_self with ⟨first, takes, isFirst⟩
      rcases induction fun other member =>
        shared other (List.mem_cons_of_mem _ member) with
          ⟨rest, takesRest, isRest⟩
      refine ⟨first ++ rest, ?_, ?_⟩
      · exact List.rel_append takes takesRest
      · rw [List.flatten_append, isFirst, isRest, List.flatMap_cons]

/-- Takers of nothing may be left out. -/
theorem exists_shares_of_filter
    {Takes : α → List β → Prop} {counts : α → Bool} {takers : List α}
    {given : List β}
    (nothing : ∀ taker ∈ takers, counts taker = false → Takes taker [])
    (shared : ∃ shares,
      List.Forall₂ Takes (takers.filter counts) shares ∧
        shares.flatten = given) :
    ∃ shares, List.Forall₂ Takes takers shares ∧
      shares.flatten = given := by
  induction takers generalizing given with
  | nil => exact shared
  | cons taker takers induction =>
      have nothingLater : ∀ later ∈ takers, counts later = false →
          Takes later [] := fun later member =>
        nothing later (List.mem_cons_of_mem _ member)
      rcases shared with ⟨shares, takes, rfl⟩
      cases counted : counts taker with
      | true =>
          rw [List.filter_cons_of_pos counted] at takes
          cases takes with
          | @cons _ share _ rest first takesRest =>
              rcases induction nothingLater ⟨rest, takesRest, rfl⟩ with
                ⟨others, takesAll, same⟩
              refine ⟨share :: others, .cons first takesAll, ?_⟩
              simp [same]
      | false =>
          rw [List.filter_cons_of_neg (by simp [counted])] at takes
          rcases induction nothingLater ⟨shares, takes, rfl⟩ with
            ⟨others, takesAll, same⟩
          refine ⟨[] :: others, .cons ?_ takesAll, ?_⟩
          · exact nothing taker List.mem_cons_self counted
          · simp [same]

/-- The keys of the items that have one. -/
theorem map_getD_filter_isSome (key? : α → Option Nat) (items : List α) :
    (items.filter fun item => (key? item).isSome).map
        (fun item => (key? item).getD 0) =
      items.filterMap key? := by
  induction items with
  | nil => rfl
  | cons item items induction =>
      cases isKey : key? item <;> simp [isKey, induction]

/-- Takers with ascending keys, some of them without a key, are given what
there is for their keys, key after key. -/
theorem exists_shares_of_ascending
    {Takes : α → List β → Prop} {key? : α → Option Nat} {takers : List α}
    {keys : List Nat} {given : Nat → List β}
    (ascending : (takers.filterMap key?).Pairwise (· ≤ ·))
    (distinct : keys.Pairwise (· < ·))
    (covered : ∀ value ∈ takers.filterMap key?, value ∈ keys)
    (nothing : ∀ taker ∈ takers, key? taker = none → Takes taker [])
    (shared : ∀ value ∈ keys, ∃ shares,
      List.Forall₂ Takes (takers.filter (key? · = some value)) shares ∧
        shares.flatten = given value) :
    ∃ shares, List.Forall₂ Takes takers shares ∧
      shares.flatten = keys.flatMap given := by
  let keyed := takers.filter fun taker => (key? taker).isSome
  let key := fun taker => (key? taker).getD 0
  have keysOfKeyed : keyed.map key = takers.filterMap key? :=
    map_getD_filter_isSome key? takers
  have ofKey : ∀ value,
      keyed.filter (key · = value) =
        takers.filter (key? · = some value) := by
    intro value
    rw [List.filter_filter]
    refine List.filter_congr fun taker _ => ?_
    cases isKey : key? taker <;> simp [key, isKey]
  have grouped : keyed =
      keys.flatMap fun value => takers.filter (key? · = some value) := by
    rw [← funext ofKey]
    refine eq_flatMap_filter_of_ascending (keysOfKeyed ▸ ascending) distinct ?_
    intro taker member
    exact covered _ (keysOfKeyed ▸ List.mem_map_of_mem member)
  have nothingUnkeyed : ∀ taker ∈ takers, (key? taker).isSome = false →
      Takes taker [] := fun taker member unkeyed =>
    nothing taker member (by simpa using unkeyed)
  refine exists_shares_of_filter nothingUnkeyed ?_
  rw [show takers.filter _ = _ from grouped]
  exact exists_shares_flatMap shared

end BlockWire
