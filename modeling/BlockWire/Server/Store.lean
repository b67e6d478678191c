import BlockWire.Bytes

/-!
# The block store

The memory server keeps named blocks.  A block has a description and a
content; its name is issued when the block is made and never again.  Blocks
are kept in the order in which they were made, and no name occurs twice.
-/

namespace BlockWire

/-- A block of memory. -/
structure Block where
  /-- What its maker says about it. -/
  description : String
  content : Bytes
  deriving DecidableEq, Repr

/-- The blocks of a memory server. -/
@[ext]
structure Store where
  /-- How many names were issued.  A server counts them in 64 bits, so a store
  stands for one that has issued fewer than `2 ^ 64` names. -/
  issued : Nat
  /-- The blocks by name, oldest first. -/
  blocks : List (String × Block)
  unique : (blocks.map Prod.fst).Nodup
  deriving DecidableEq, Repr

/-- The name of the block that is made as the `number`th. -/
def blockName (number : Nat) : String :=
  s!"m{number}"

namespace Store

/-- A store without blocks that has issued no name. -/
def empty : Store :=
  ⟨0, [], List.nodup_nil⟩

instance : Inhabited Store :=
  ⟨empty⟩

/-- The names of the blocks. -/
def names (store : Store) : List String :=
  store.blocks.map Prod.fst

/-- The block of a name. -/
def find? (name : String) (store : Store) : Option Block :=
  store.blocks.lookup name

/-- Whether a name has a block. -/
def contains (name : String) (store : Store) : Bool :=
  (store.find? name).isSome

/-! ## Changes -/

/-- The list without the entries of a name. -/
def without (name : String) (blocks : List (String × Block)) :
    List (String × Block) :=
  blocks.filter (·.1 ≠ name)

theorem nodup_without (name : String) {blocks : List (String × Block)}
    (unique : (blocks.map Prod.fst).Nodup) :
    ((without name blocks).map Prod.fst).Nodup :=
  unique.sublist (List.filter_sublist.map Prod.fst)

theorem not_mem_without (name : String) (blocks : List (String × Block)) :
    name ∉ (without name blocks).map Prod.fst := by
  simp [without]

/-- Put a block under a name, in the place of any block of that name. -/
def put (name : String) (block : Block) (store : Store) : Store where
  issued := store.issued
  blocks := without name store.blocks ++ [(name, block)]
  unique := by
    rw [List.map_append, List.nodup_append]
    refine ⟨nodup_without name store.unique, by simp, ?_⟩
    intro earlier member other newest same
    simp only [List.map_cons, List.map_nil, List.mem_singleton] at newest
    subst newest
    subst same
    exact not_mem_without _ _ member

/-- Make a new block; its name is the next one to be issued. -/
def alloc (block : Block) (store : Store) : String × Store :=
  let name := blockName (store.issued + 1)
  (name, { store.put name block with issued := store.issued + 1 })

/-- Change the content of the block of a name, if there is one. -/
def write (name : String) (content : Bytes) (store : Store) : Store where
  issued := store.issued
  blocks := store.blocks.map fun (key, block) =>
    if key = name then (key, { block with content := content })
    else (key, block)
  unique := by
    have keysKept :
        (store.blocks.map fun (key, block) =>
          if key = name then (key, { block with content := content })
          else (key, block)).map Prod.fst = store.blocks.map Prod.fst := by
      rw [List.map_map]
      refine List.map_congr_left fun entry _ => ?_
      simp only [Function.comp_apply]
      split <;> rfl
    exact keysKept ▸ store.unique

/-- Remove the block of a name, if there is one. -/
def remove (name : String) (store : Store) : Store where
  issued := store.issued
  blocks := without name store.blocks
  unique := nodup_without name store.unique

/-! ## What is found after a change -/

@[simp]
theorem names_write (name : String) (content : Bytes) (store : Store) :
    (store.write name content).names = store.names := by
  simp only [names, write, List.map_map]
  refine List.map_congr_left fun entry _ => ?_
  simp only [Function.comp_apply]
  split <;> rfl

theorem lookup_without_self (name : String)
    (blocks : List (String × Block)) :
    (without name blocks).lookup name = none := by
  rw [List.lookup_eq_none_iff]
  intro entry member
  have different : entry.1 ≠ name := by
    simpa [without] using (List.mem_filter.mp member).2
  simpa using fun same => different same.symm

theorem lookup_without_of_ne {name other : String} (different : other ≠ name)
    (blocks : List (String × Block)) :
    (without name blocks).lookup other = blocks.lookup other := by
  induction blocks with
  | nil => rfl
  | cons entry rest ih =>
      obtain ⟨key, block⟩ := entry
      by_cases removed : key = name
      · subst removed
        have passed : (other == key) = false := by simp [different]
        have drops : without key ((key, block) :: rest) = without key rest := by
          simp [without]
        rw [drops, ih, List.lookup_cons, passed]
      · have keeps : without name ((key, block) :: rest) =
            (key, block) :: without name rest := by
          simp [without, removed]
        rw [keeps, List.lookup_cons, List.lookup_cons, ih]

@[simp]
theorem find?_remove_self (name : String) (store : Store) :
    (store.remove name).find? name = none :=
  lookup_without_self name store.blocks

theorem find?_remove_of_ne {name other : String} (different : other ≠ name)
    (store : Store) :
    (store.remove name).find? other = store.find? other :=
  lookup_without_of_ne different store.blocks

@[simp]
theorem find?_put_self (name : String) (block : Block) (store : Store) :
    (store.put name block).find? name = some block := by
  simp [find?, put, List.lookup_append, lookup_without_self]

theorem find?_put_of_ne {name other : String} (different : other ≠ name)
    (block : Block) (store : Store) :
    (store.put name block).find? other = store.find? other := by
  have notNew : (other == name) = false := by simp [different]
  simp [find?, put, List.lookup_append, lookup_without_of_ne different,
    List.lookup_cons, notNew]

end Store

end BlockWire
