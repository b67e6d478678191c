import BlockWire.Shell.Words
import Mathlib.Algebra.Ring.Parity

/-!
# Words are runs between separators

A blank character of a line separates words exactly if an even number of
quotes stand in front of it.  The characters that do not separate form maximal
runs, and a line has one word for each run: the run without its quotes.  A
line has no words at all exactly if it has an odd number of quotes.

The words of a line are found in one pass that remembers no more than whether
a quoted piece is open and which word is begun.  What carries the argument is
what these two say about the characters already passed.
-/

namespace BlockWire.Shell

/-! ## Separators and runs -/

/-- The character at a position separates words: it is blank, and an even
number of quotes stand in front of it. -/
def Separates (characters : List Char) (position : Nat) : Prop :=
  characters[position]?.any Text.isBlank = true ∧
    Even ((characters.take position).count quote)

instance (characters : List Char) (position : Nat) :
    Decidable (Separates characters position) :=
  inferInstanceAs (Decidable (_ ∧ _))

/-- The characters from one position up to, but not including, another one
form a maximal non-empty run of which none separates. -/
structure IsRun (characters : List Char) (start stop : Nat) : Prop where
  nonempty : start < stop
  within : stop ≤ characters.length
  joined :
    ∀ position < stop, start ≤ position → ¬ Separates characters position
  begins : start = 0 ∨ Separates characters (start - 1)
  ends : stop = characters.length ∨ Separates characters stop

instance (characters : List Char) (start stop : Nat) :
    Decidable (IsRun characters start stop) :=
  decidable_of_iff
    (start < stop ∧ stop ≤ characters.length ∧
      (∀ position < stop, start ≤ position →
        ¬ Separates characters position) ∧
      (start = 0 ∨ Separates characters (start - 1)) ∧
      (stop = characters.length ∨ Separates characters stop))
    ⟨fun ⟨nonempty, within, joined, begins, ends⟩ =>
        ⟨nonempty, within, joined, begins, ends⟩,
      fun ⟨nonempty, within, joined, begins, ends⟩ =>
        ⟨nonempty, within, joined, begins, ends⟩⟩

/-- The runs of a line, in order. -/
def runs (characters : List Char) : List (Nat × Nat) :=
  (List.range characters.length).flatMap fun start =>
    ((List.range (characters.length + 1)).filter fun stop =>
      IsRun characters start stop).map fun stop => (start, stop)

/-- The characters from one position up to another one, without quotes. -/
def unquoted (characters : List Char) (start stop : Nat) : List Char :=
  ((characters.take stop).drop start).filter (· ≠ quote)

variable {characters : List Char} {position start stop : Nat}

/-- Where a run begins it is settled where it ends. -/
theorem IsRun.stop_unique
    {other : Nat} (run : IsRun characters start stop)
    (otherRun : IsRun characters start other) :
    stop = other := by
  have notBefore : ∀ {first second : Nat}, IsRun characters start first →
      IsRun characters start second → second ≤ first := by
    intro first second one two
    by_contra beyond
    rcases one.ends with atEnd | separates
    · have within := two.within
      omega
    · exact two.joined first (by omega) (Nat.le_of_lt one.nonempty) separates
  exact Nat.le_antisymm (notBefore otherRun run) (notBefore run otherRun)

/-- Where a run ends it is settled where it begins. -/
theorem IsRun.start_unique
    {other : Nat} (run : IsRun characters start stop)
    (otherRun : IsRun characters other stop) :
    start = other := by
  have notAfter : ∀ {first second : Nat}, IsRun characters first stop →
      IsRun characters second stop → first ≤ second := by
    intro first second one two
    by_contra beyond
    rcases one.begins with atStart | separates
    · omega
    · have nonempty := one.nonempty
      exact two.joined (first - 1) (by omega) (by omega) separates
  exact Nat.le_antisymm (notAfter run otherRun) (notAfter otherRun run)

theorem mem_runs_iff {run : Nat × Nat} :
    run ∈ runs characters ↔ IsRun characters run.1 run.2 := by
  rcases run with ⟨start, stop⟩
  simp only [runs, List.mem_flatMap, List.mem_range, List.mem_map,
    List.mem_filter, decide_eq_true_eq, Prod.mk.injEq]
  constructor
  · rintro ⟨_, -, _, ⟨-, isRun⟩, rfl, rfl⟩
    exact isRun
  · intro isRun
    have nonempty := isRun.nonempty
    have within := isRun.within
    exact ⟨start, by omega, stop, ⟨by omega, isRun⟩, rfl, rfl⟩

theorem pairwise_runs (characters : List Char) :
    (runs characters).Pairwise (·.1 < ·.1) := by
  rw [runs, List.pairwise_flatMap]
  constructor
  · intro start _
    rw [List.pairwise_map]
    refine (List.Pairwise.filter _ List.pairwise_lt_range).imp_of_mem ?_
    intro stop other isStop isOther before
    have run := of_decide_eq_true (List.mem_filter.mp isStop).2
    have otherRun := of_decide_eq_true (List.mem_filter.mp isOther).2
    exact absurd (run.stop_unique otherRun) (Nat.ne_of_lt before)
  · refine List.pairwise_lt_range.imp ?_
    intro start later before run isRun otherRun isOther
    rcases List.mem_map.mp isRun with ⟨_, -, rfl⟩
    rcases List.mem_map.mp isOther with ⟨_, -, rfl⟩
    exact before

/-! ## What has been passed -/

/-- The word that is begun at a position, from its last character to its
first, if the characters right before the position belong to a run. -/
inductive Begun (characters : List Char) (position : Nat) :
    Option (List Char) → Prop where
  | between (apart : position = 0 ∨ Separates characters (position - 1)) :
      Begun characters position none
  | within (start : Nat) (nonempty : start < position)
      (joined :
        ∀ passed < position, start ≤ passed →
          ¬ Separates characters passed)
      (begins : start = 0 ∨ Separates characters (start - 1)) :
      Begun characters position
        (some (unquoted characters start position).reverse)

/-- The runs that end at a position or behind it, in order. -/
structure RunsFrom (characters : List Char) (position : Nat)
    (found : List (Nat × Nat)) : Prop where
  ordered : found.Pairwise (·.1 < ·.1)
  complete : ∀ run : Nat × Nat,
    run ∈ found ↔ IsRun characters run.1 run.2 ∧ position ≤ run.2

/-- All runs of a line are those that its list has. -/
theorem RunsFrom.eq_runs
    {found : List (Nat × Nat)} (isFrom : RunsFrom characters 0 found) :
    found = runs characters := by
  have distinct : ∀ list : List (Nat × Nat),
      list.Pairwise (·.1 < ·.1) → list.Nodup := by
    intro list ordered
    refine ordered.imp fun {first second} before same => ?_
    rw [same] at before
    exact Nat.lt_irrefl _ before
  have same : found.Perm (runs characters) := by
    refine (List.perm_ext_iff_of_nodup (distinct _ isFrom.ordered)
      (distinct _ (pairwise_runs characters))).mpr fun run => ?_
    rw [isFrom.complete, mem_runs_iff]
    exact and_iff_left (Nat.zero_le _)
  refine same.eq_of_pairwise ?_ isFrom.ordered (pairwise_runs characters)
  intro first second _ _ before after
  exact absurd before (Nat.lt_asymm after)

/-- No run ends behind the line. -/
theorem runsFrom_nil (characters : List Char) :
    RunsFrom characters (characters.length + 1) [] where
  ordered := .nil
  complete := by
    intro run
    constructor
    · intro member
      cases member
    · rintro ⟨isRun, behind⟩
      have within := isRun.within
      omega

/-- Where no run ends there is none to add. -/
theorem RunsFrom.of_no_run
    {found : List (Nat × Nat)}
    (later : RunsFrom characters (position + 1) found)
    (none : ∀ start, ¬ IsRun characters start position) :
    RunsFrom characters position found where
  ordered := later.ordered
  complete := by
    intro run
    rw [later.complete]
    refine and_congr_right fun isRun => ?_
    have notHere : run.2 ≠ position := fun here =>
      none run.1 (here ▸ isRun)
    omega

/-- A run that ends at a position comes before those that end behind it. -/
theorem RunsFrom.cons
    {found : List (Nat × Nat)}
    (later : RunsFrom characters (position + 1) found)
    (isRun : IsRun characters start position) :
    RunsFrom characters position ((start, position) :: found) where
  ordered := by
    refine List.pairwise_cons.mpr ⟨?_, later.ordered⟩
    intro run member
    rcases (later.complete run).mp member with ⟨isLater, behind⟩
    have within := isLater.within
    by_contra notBefore
    rcases isRun.ends with atEnd | separates
    · omega
    · have nonempty := isRun.nonempty
      simp only at notBefore
      exact isLater.joined position behind (by omega) separates
  complete := by
    intro run
    rw [List.mem_cons, later.complete]
    constructor
    · rintro (rfl | ⟨isLater, behind⟩)
      · exact ⟨isRun, Nat.le_refl _⟩
      · exact ⟨isLater, Nat.le_of_succ_le behind⟩
    · rintro ⟨other, notBefore⟩
      rcases Nat.eq_or_lt_of_le notBefore with here | behind
      · left
        rcases run with ⟨first, last⟩
        cases here
        rw [isRun.start_unique other]
      · exact .inr ⟨other, behind⟩

/-! ## One pass over the line -/

theorem take_succ_of_getElem?
    {character : Char} (here : characters[position]? = some character) :
    characters.take (position + 1) =
      characters.take position ++ [character] := by
  rw [List.take_add_one, here]
  rfl

@[simp]
theorem unquoted_self (characters : List Char) (position : Nat) :
    unquoted characters position position = [] := by
  rw [unquoted, List.drop_eq_nil_of_le (List.length_take_le _ _),
    List.filter_nil]

theorem unquoted_succ
    {character : Char} (here : characters[position]? = some character)
    (started : start ≤ position) :
    unquoted characters start (position + 1) =
      unquoted characters start position ++
        [character].filter (· ≠ quote) := by
  have inside := (List.getElem?_eq_some_iff.mp here).1
  have startsWithin : start ≤ (characters.take position).length := by
    rw [List.length_take]
    omega
  rw [unquoted, take_succ_of_getElem? here,
    List.drop_append_of_le_length startsWithin, List.filter_append]
  rfl

/-- A character that does not separate goes to the word begun, or begins one.
A quote is in neither case part of it. -/
theorem Begun.extend
    {word? : Option (List Char)} {character : Char}
    (begun : Begun characters position word?)
    (here : characters[position]? = some character)
    (joined : ¬ Separates characters position) :
    Begun characters (position + 1)
      (some ([character].filter (· ≠ quote) ++ word?.getD [])) := by
  have oneReversed : ([character].filter (· ≠ quote)).reverse =
      [character].filter (· ≠ quote) := by
    by_cases isQuote : character = quote <;> simp [isQuote]
  have longer : ∀ start ≤ position,
      (unquoted characters start (position + 1)).reverse =
        [character].filter (· ≠ quote) ++
          (unquoted characters start position).reverse := by
    intro start started
    rw [unquoted_succ here started, List.reverse_append, oneReversed]
  cases begun with
  | between apart =>
      have whole : ∀ passed < position + 1, position ≤ passed →
          ¬ Separates characters passed := by
        intro passed below above
        rwa [Nat.le_antisymm (Nat.le_of_lt_succ below) above]
      have word := Begun.within position (Nat.lt_succ_self position) whole apart
      rwa [longer position (Nat.le_refl position), unquoted_self] at word
  | within start nonempty joinedSoFar begins =>
      have whole : ∀ passed < position + 1, start ≤ passed →
          ¬ Separates characters passed := by
        intro passed below above
        rcases Nat.lt_succ_iff_lt_or_eq.mp below with before | rfl
        · exact joinedSoFar passed before above
        · exact joined
      have word := Begun.within start (Nat.lt_succ_of_lt nonempty) whole begins
      rwa [longer start (Nat.le_of_lt nonempty)] at word

theorem Begun.not_isRun
    (begun : Begun characters position none) (start : Nat) :
    ¬ IsRun characters start position := by
  intro isRun
  cases begun with
  | between apart =>
      have nonempty := isRun.nonempty
      rcases apart with atStart | separates
      · omega
      · exact isRun.joined (position - 1) (by omega) (by omega) separates

/-- Whether a quoted piece is open at a position: an odd number of quotes
stand in front of it. -/
def isOpenAt (characters : List Char) (position : Nat) : Bool :=
  decide (Odd ((characters.take position).count quote))

theorem isOpenAt_succ
    {character : Char} (here : characters[position]? = some character) :
    isOpenAt characters (position + 1) =
      if character = quote then !isOpenAt characters position
      else isOpenAt characters position := by
  rw [isOpenAt, isOpenAt, take_succ_of_getElem? here, List.count_append]
  by_cases isQuote : character = quote
  · simp [isQuote, Nat.odd_add_one, ← decide_not]
  · simp [isQuote]

theorem separates_iff
    {character : Char} (here : characters[position]? = some character) :
    Separates characters position ↔
      isOpenAt characters position = false ∧
        Text.isBlank character = true := by
  simp [Separates, here, isOpenAt, and_comm]

/-- A character that does not separate is passed with the word begun
extended. -/
theorem wordsFrom_of_joined
    {character : Char} (here : characters[position]? = some character)
    (joined : ¬ Separates characters position)
    (word? : Option (List Char)) (rest : List Char) :
    wordsFrom (isOpenAt characters position) word? (character :: rest) =
      wordsFrom (isOpenAt characters (position + 1))
        (some ([character].filter (· ≠ quote) ++ word?.getD [])) rest := by
  rw [separates_iff here] at joined
  rw [isOpenAt_succ here]
  rcases quote_or_ends_or_part (isOpenAt characters position) character with
    rfl | ends | ⟨notQuote, part⟩
  · rw [wordsFrom_quote, if_pos rfl]
    rfl
  · exact absurd ends joined
  · rw [wordsFrom_of_part notQuote part, if_neg notQuote]
    simp [notQuote]

/-- A separator is passed with the word begun, if there is one, put aside. -/
theorem wordsFrom_of_separates
    {character : Char} (here : characters[position]? = some character)
    (separates : Separates characters position)
    (word? : Option (List Char)) (rest : List Char) :
    wordsFrom (isOpenAt characters position) word? (character :: rest) =
      (wordsFrom (isOpenAt characters (position + 1)) none rest).map
        (word?.toList.map List.reverse ++ ·) := by
  rcases (separates_iff here).mp separates with ⟨closed, blank⟩
  rw [isOpenAt_succ here, if_neg (ne_quote_of_isBlank blank), closed,
    wordsFrom_of_ends blank]

/-- The words of what is left of a line are those of the runs that end in it,
unless a quoted piece stays open. -/
theorem wordsFrom_drop
    {word? : Option (List Char)} (begun : Begun characters position word?)
    (within : position ≤ characters.length) :
    ∃ found, RunsFrom characters position found ∧
      wordsFrom (isOpenAt characters position) word?
          (characters.drop position) =
        if Odd (characters.count quote) then none
        else some (found.map fun run => unquoted characters run.1 run.2) := by
  generalize left : characters.drop position = rest
  induction rest generalizing position word? with
  | nil =>
      have atEnd : position = characters.length :=
        Nat.le_antisymm within (List.drop_eq_nil_iff.mp left)
      subst atEnd
      have open? : isOpenAt characters characters.length =
          decide (Odd (characters.count quote)) := by
        rw [isOpenAt, List.take_length]
      have behind := runsFrom_nil characters
      cases begun with
      | between apart =>
          refine ⟨[], behind.of_no_run
            (Begun.not_isRun (.between apart)), ?_⟩
          simp [wordsFrom, open?]
      | within start nonempty joined begins =>
          have isRun : IsRun characters start characters.length :=
            ⟨nonempty, Nat.le_refl _, joined, begins, .inl rfl⟩
          refine ⟨[(start, characters.length)], behind.cons isRun, ?_⟩
          simp [wordsFrom, open?]
  | cons character rest induction =>
      have here : characters[position]? = some character := by
        rw [← List.head?_drop, left]
        rfl
      have inside := (List.getElem?_eq_some_iff.mp here).1
      have leftNext : characters.drop (position + 1) = rest := by
        rw [← List.tail_drop, left]
        rfl
      by_cases separates : Separates characters position
      · have apart : Begun characters (position + 1) none :=
          .between (.inr separates)
        rcases induction apart inside leftNext with ⟨found, later, scanned⟩
        rw [wordsFrom_of_separates here separates, scanned]
        cases begun with
        | between apartBefore =>
            refine ⟨found, later.of_no_run
              (Begun.not_isRun (.between apartBefore)), ?_⟩
            split <;> simp
        | within start nonempty joined begins =>
            have isRun : IsRun characters start position :=
              ⟨nonempty, within, joined, begins, .inr separates⟩
            refine ⟨(start, position) :: found,
              later.cons isRun, ?_⟩
            split <;> simp
      · rcases induction (begun.extend here separates) inside leftNext with
          ⟨found, later, scanned⟩
        rw [wordsFrom_of_joined here separates, scanned]
        refine ⟨found, later.of_no_run fun start isRun => ?_, rfl⟩
        rcases isRun.ends with atEnd | separatesHere
        · exact Nat.ne_of_lt inside atEnd
        · exact separates separatesHere

/-- The scan of a whole line finds the words of its runs. -/
theorem wordsFrom_eq_runs (characters : List Char) :
    wordsFrom false none characters =
      if Odd (characters.count quote) then none
      else some ((runs characters).map fun run =>
        unquoted characters run.1 run.2) := by
  have atStart : Begun characters 0 none := .between (.inl rfl)
  rcases wordsFrom_drop atStart (Nat.zero_le _) with
    ⟨found, isFrom, scanned⟩
  rw [isFrom.eq_runs] at scanned
  exact scanned

/--
The words of a line are its runs without their quotes.

Finding the words fails exactly if the line has an odd number of quotes, and
then for the quote that is never closed.  Otherwise there is one word for each
maximal run of characters that do not separate, in the order of the runs.
-/
theorem words_are_runs (line : String) :
    (∀ failure, words line = .error failure ↔
      Odd (line.toList.count quote) ∧
        failure = .usage "unterminated quote") ∧
    ∀ found, words line = .ok found ↔
      Even (line.toList.count quote) ∧
        found = (runs line.toList).map fun run =>
          String.ofList (unquoted line.toList run.1 run.2) := by
  have scanned := wordsFrom_eq_runs line.toList
  by_cases odd : Odd (line.toList.count quote)
  · rw [if_pos odd] at scanned
    simp [words, scanned, odd, Nat.not_even_iff_odd.mpr odd, eq_comm]
  · rw [if_neg odd] at scanned
    simp [words, scanned, odd, Nat.not_odd_iff_even.mp odd, eq_comm]

/-- Quoted and unquoted pieces that touch form one word, and a blank between
quotes separates nothing. -/
example :
    runs " a\"b c\"  \"\" ".toList = [(1, 7), (9, 11)] ∧
      words " a\"b c\"  \"\" " = .ok ["ab c", ""] := by
  decide +kernel

/-! ## Lines without words -/

/-- A word that is begun becomes a word of the line. -/
theorem wordsFrom_ne_nil
    (quoted : Bool) (word characters : List Char) :
    wordsFrom quoted (some word) characters ≠ some [] := by
  induction characters generalizing quoted word with
  | nil => cases quoted <;> simp [wordsFrom]
  | cons character characters induction =>
      rcases quote_or_ends_or_part quoted character with
        rfl | ⟨rfl, blank⟩ | ⟨notQuote, part⟩
      · rw [wordsFrom_quote]
        exact induction _ _
      · rw [wordsFrom_of_ends blank]
        simp
      · rw [wordsFrom_of_part notQuote part]
        exact induction _ _

theorem wordsFrom_eq_nil_iff (characters : List Char) :
    wordsFrom false none characters = some [] ↔
      characters.all Text.isBlank = true := by
  induction characters with
  | nil => simp [wordsFrom]
  | cons character characters induction =>
      rw [List.all_cons, Bool.and_eq_true, ← induction]
      rcases quote_or_ends_or_part false character with
        rfl | ⟨-, blank⟩ | ⟨notQuote, part⟩
      · have notBlank : Text.isBlank quote = false := by decide
        simp [wordsFrom_quote, wordsFrom_ne_nil, notBlank]
      · simp [wordsFrom_of_ends blank, blank]
      · have notBlank := part.resolve_left Bool.false_ne_true
        simp [wordsFrom_of_part notQuote part, wordsFrom_ne_nil, notBlank]

theorem eq_usage_of_words
    {line : String} {failure : Failure} (failed : words line = .error failure) :
    failure = .usage "unterminated quote" :=
  (words_eq_error_iff.mp failed).2

/-- A line has no words exactly if it has nothing but white space: a pair of
quotes is enough for a word. -/
theorem words_eq_nil_iff (line : String) :
    words line = .ok [] ↔ Text.isBlankLine line = true := by
  rw [Text.isBlankLine, ← wordsFrom_eq_nil_iff, words_eq_ok_iff,
    List.map_nil]

end BlockWire.Shell
