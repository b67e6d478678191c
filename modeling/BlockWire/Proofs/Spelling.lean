import BlockWire.Text.Blank
import BlockWire.Text.Lowercase

/-!
# Spellings

The rules for the lower case of a text look far around each character.  For
the characters of ASCII nothing of this matters: each has a lower-case form
of its own.  A word in small letters from a to z is therefore the lower-case
form of each of its spellings in capital and small letters, and none of these
spellings has white space or a quote in it.

The way back has one obstacle.  Outside ASCII the sign for kelvins is the only
character that becomes a letter from a to z, and the letter is a k.  A word
without a k is the lower-case form of its spellings alone.
-/

namespace BlockWire.Text

theorem lowerByTable_of_ascii :
    ∀ code < 128,
      lowerByTable (Char.ofNat code) = (Char.ofNat code).toLower := by
  decide +kernel

/-- Of a short character the table has the usual lower-case form. -/
theorem lowerWithin_of_ascii
    {character : Char} (ascii : character.toNat < 128)
    (earlier later : List Char) :
    lowerWithin earlier character later = [character.toLower] := by
  have notDotted : character ≠ '\u0130' := by
    rintro rfl
    exact absurd ascii (by decide)
  have notSigma : character ≠ 'Σ' := by
    rintro rfl
    exact absurd ascii (by decide)
  have byTable := lowerByTable_of_ascii character.toNat ascii
  rw [Char.ofNat_toNat] at byTable
  rw [lowerWithin, if_neg notDotted, if_neg notSigma, byTable]

theorem lowerFrom_of_ascii
    {characters : List Char}
    (ascii : ∀ character ∈ characters, character.toNat < 128)
    (earlier : List Char) :
    lowerFrom earlier characters = characters.map Char.toLower := by
  induction characters generalizing earlier with
  | nil => rfl
  | cons character characters induction =>
      rcases List.forall_mem_cons.mp ascii with ⟨first, others⟩
      rw [lowerFrom, lowerWithin_of_ascii first, induction others]
      rfl

/-- Only the capital letters from A to Z have another lower-case form within
ASCII. -/
theorem toLower_of_not_capital
    {character : Char}
    (notCapital : ¬ (character.val ≥ 'A'.val ∧ character.val ≤ 'Z'.val)) :
    character.toLower = character :=
  dif_neg notCapital

/-- A character with a short lower-case form is short itself. -/
theorem toNat_lt_of_toLower
    {character : Char} (ascii : character.toLower.toNat < 128) :
    character.toNat < 128 := by
  by_cases capital : character.val ≥ 'A'.val ∧ character.val ≤ 'Z'.val
  · have code : character.toNat ≤ 90 := capital.2
    omega
  · rwa [toLower_of_not_capital capital] at ascii

theorem bounds_of_isLower
    {character : Char} (lower : character.isLower = true) :
    'a'.val ≤ character.val ∧ character.val ≤ 'z'.val := by
  have both : (decide (character.val ≥ 'a'.val) &&
      decide (character.val ≤ 'z'.val)) = true := lower
  simpa using both

/-- A word of the lower-case letters from a to z. -/
def IsPlain (word : String) : Prop :=
  word.toList.all Char.isLower = true

instance (word : String) : Decidable (IsPlain word) :=
  inferInstanceAs (Decidable (_ = _))

/-- The spelling of a word in any mix of capital and small letters. -/
def Spells (word spelling : String) : Prop :=
  spelling.toList.map Char.toLower = word.toList

variable {word spelling : String}

theorem spells_self (plain : IsPlain word) : Spells word word := by
  have unchanged :
      ∀ character ∈ word.toList, character.toLower = character := by
    intro character member
    have lower := bounds_of_isLower (List.all_eq_true.mp plain _ member)
    apply toLower_of_not_capital
    rintro ⟨-, capital⟩
    exact absurd (UInt32.le_trans lower.1 capital) (by decide)
  rw [Spells, List.map_congr_left unchanged, List.map_id']

/-- The characters of a spelling are short, since their lower-case forms
are. -/
theorem Spells.ascii
    (spells : Spells word spelling) (plain : IsPlain word) :
    ∀ character ∈ spelling.toList,
      character.toNat < 128 ∧ character.toLower.isLower = true := by
  intro character member
  have lower : character.toLower.isLower = true := by
    apply List.all_eq_true.mp plain
    rw [← spells]
    exact List.mem_map_of_mem member
  have short : character.toLower.toNat ≤ 122 := (bounds_of_isLower lower).2
  exact ⟨toNat_lt_of_toLower (by omega), lower⟩

theorem lowercase_of_spells
    (spells : Spells word spelling) (plain : IsPlain word) :
    lowercase spelling = word := by
  have ascii := fun character member =>
    (spells.ascii plain character member).1
  rw [lowercase, lowerFrom_of_ascii ascii, spells, String.ofList_toList]

theorem solid_of_letter :
    ∀ code < 128, (Char.ofNat code).toLower.isLower = true →
      isBlank (Char.ofNat code) = false ∧ Char.ofNat code ≠ '"' := by
  decide +kernel

/-- A spelling has neither white space nor quotes in it. -/
theorem Spells.solid
    (spells : Spells word spelling) (plain : IsPlain word) :
    ∀ character ∈ spelling.toList,
      isBlank character = false ∧ character ≠ '"' := by
  intro character member
  rcases spells.ascii plain character member with ⟨short, lower⟩
  have solid := solid_of_letter character.toNat short
  rw [Char.ofNat_toNat] at solid
  exact solid lower

/-! ## From the lower case back -/

/-- The table has one character outside ASCII with a lower-case form within:
the sign for kelvins, which becomes a k. -/
theorem runs_leave_ascii :
    ∀ run ∈ lowerCaseRuns,
      run.last < 128 ∨ 128 ≤ run.target ∨
        run.first = run.last ∧ Char.ofNat run.target = 'k' := by
  decide +kernel

theorem not_isLower_of_far
    {character : Char} (far : 128 ≤ character.toNat) :
    ¬ character.isLower = true := by
  intro lower
  have near : character.toNat ≤ 122 := (bounds_of_isLower lower).2
  omega

/-- A number beyond ASCII is the code of no letter from a to z, even if it is
no code at all. -/
theorem not_isLower_ofNat
    {code : Nat} (far : 128 ≤ code) :
    ¬ (Char.ofNat code).isLower = true := by
  by_cases valid : code.isValidChar
  · have isCode : Char.ofNat code = Char.ofNatAux code valid := dif_pos valid
    apply not_isLower_of_far
    rw [isCode]
    exact far
  · have isNul : Char.ofNat code = '\x00' := dif_neg valid
    rw [isNul]
    decide

theorem eq_k_of_isLower_lowerByTable
    {character : Char} (far : 128 ≤ character.toNat)
    (lower : (lowerByTable character).isLower = true) :
    lowerByTable character = 'k' := by
  unfold lowerByTable at lower ⊢
  split at lower
  case h_1 code found =>
    rcases List.exists_of_findSome?_eq_some found with
      ⟨run, isRun, isLower⟩
    simp only [CaseRun.lower?] at isLower
    split at isLower
    case isTrue inside =>
      cases isLower
      rcases runs_leave_ascii run isRun with near | farAgain | ⟨single, isK⟩
      · omega
      · exact absurd lower (not_isLower_ofNat (by omega))
      · have same : character.toNat - run.first = 0 := by omega
        rw [same]
        exact isK
    case isFalse => cases isLower
  case h_2 => exact absurd lower (not_isLower_of_far far)

/-- The lower-case form of a character outside ASCII has a character in it that
is no letter from a to z, or is a k. -/
theorem exists_mem_lowerWithin_of_far
    {character : Char} (far : 128 ≤ character.toNat)
    (earlier later : List Char) :
    ∃ lower ∈ lowerWithin earlier character later,
      lower.isLower = true → lower = 'k' := by
  unfold lowerWithin
  split
  case isTrue => exact ⟨'\u0307', by decide, by decide⟩
  case isFalse =>
    split
    case isTrue =>
      refine ⟨_, List.mem_singleton_self _, ?_⟩
      split <;> decide
    case isFalse =>
      exact ⟨_, List.mem_singleton_self _, eq_k_of_isLower_lowerByTable far⟩

/-- What a character becomes is part of what its text becomes. -/
theorem exists_lowerWithin_subset
    {character : Char} {characters : List Char}
    (member : character ∈ characters) (passed : List Char) :
    ∃ earlier later,
      lowerWithin earlier character later ⊆ lowerFrom passed characters := by
  induction characters generalizing passed with
  | nil => cases member
  | cons first others induction =>
      rcases List.mem_cons.mp member with rfl | isLater
      · exact ⟨passed, others, List.subset_append_left _ _⟩
      · rcases induction isLater (first :: passed) with
          ⟨earlier, later, within⟩
        exact ⟨earlier, later,
          List.subset_append_of_subset_right _ within⟩

/-- A plain word without a k is the lower-case form of nothing but its
spellings in letters of ASCII. -/
theorem lowercase_eq_iff
    (plain : IsPlain word) (withoutK : 'k' ∉ word.toList) :
    lowercase spelling = word ↔ Spells word spelling := by
  constructor
  · intro lower
    have isLower : lowerFrom [] spelling.toList = word.toList := by
      rw [← lower, lowercase, String.toList_ofList]
    have ascii : ∀ character ∈ spelling.toList, character.toNat < 128 := by
      intro character member
      apply Nat.lt_of_not_le
      intro far
      rcases exists_lowerWithin_subset member [] with
        ⟨earlier, later, within⟩
      rcases exists_mem_lowerWithin_of_far far earlier later with
        ⟨found, isFound, onlyK⟩
      have inWord : found ∈ word.toList := isLower ▸ within isFound
      have letter := List.all_eq_true.mp plain found inWord
      exact withoutK (onlyK letter ▸ inWord)
    rw [Spells, ← isLower, lowerFrom_of_ascii ascii]
  · intro spells
    exact lowercase_of_spells spells plain

/-- With a k in it a word is the lower-case form of other texts as well. -/
example : lowercase "\u212Aey" = "key" ∧ ¬ Spells "key" "\u212Aey" := by
  constructor
  · decide +kernel
  · unfold Spells
    decide

end BlockWire.Text
