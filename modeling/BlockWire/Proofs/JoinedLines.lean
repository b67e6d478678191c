import BlockWire.Proofs.InstructionGrammar

/-!
# Lines that are joined at white space

Two lines with white space between them have the words of the one and then
those of the other, unless a quoted piece is open where they meet.  If one is,
the white space is part of a word that begins in the first line and ends in the
second, and it is there as it was typed.

What carries this is that a scan of words knows nothing of what it has passed
but whether a quoted piece is open and which word is begun.  The rest of a line
ends the word begun in the same way whatever it is.
-/

namespace BlockWire

namespace Shell

variable {part gap later : List Char}

/-! ## A line in two parts -/

/-- A part of a line leads the scan from one state to another, with some words
found on the way, whatever comes next.  A word is begun as long as a quoted
piece is open. -/
theorem wordsFrom_append
    (part : List Char) (quoted : Bool) (word? : Option (List Char))
    (begun : quoted = true → word?.isSome = true) :
    ∃ found quoted' word?', (quoted' = true → word?'.isSome = true) ∧
      ∀ rest, wordsFrom quoted word? (part ++ rest) =
        (wordsFrom quoted' word?' rest).map (found ++ ·) := by
  induction part generalizing quoted word? with
  | nil => exact ⟨[], quoted, word?, begun, fun rest => by simp⟩
  | cons character part induction =>
      rcases quote_or_ends_or_part quoted character with
        rfl | ⟨rfl, blank⟩ | ⟨notQuote, isPart⟩
      · rcases induction (!quoted) (some (word?.getD [])) (fun _ => rfl) with
          ⟨found, quoted', word?', begun', passed⟩
        refine ⟨found, quoted', word?', begun', fun rest => ?_⟩
        rw [List.cons_append, wordsFrom_quote, passed]
      -- Only here is a word found, the one that was begun.
      · rcases induction false none nofun with
          ⟨found, quoted', word?', begun', passed⟩
        refine ⟨word?.toList.map List.reverse ++ found, quoted', word?',
          begun', fun rest => ?_⟩
        rw [List.cons_append, wordsFrom_of_ends blank, passed, Option.map_map]
        simp [Function.comp_def]
      · rcases induction quoted (some (character :: word?.getD []))
            (fun _ => rfl) with
          ⟨found, quoted', word?', begun', passed⟩
        refine ⟨found, quoted', word?', begun', fun rest => ?_⟩
        rw [List.cons_append, wordsFrom_of_part notQuote isPart, passed]

theorem wordsFrom_eq_none_iff (characters : List Char) :
    wordsFrom false none characters = none ↔
      Odd (characters.count quote) := by
  rw [wordsFrom_eq_runs]
  split
  case isTrue odd => simp [odd]
  case isFalse notOdd => simp [notOdd]

/-- Behind an even number of quotes no quoted piece is open. -/
theorem wordsFrom_append_of_even (even : Even (part.count quote)) :
    ∃ found word?, ∀ rest, wordsFrom false none (part ++ rest) =
      (wordsFrom false word? rest).map (found ++ ·) := by
  rcases wordsFrom_append part false none nofun with
    ⟨found, quoted, word?, -, passed⟩
  cases quoted with
  | false => exact ⟨found, word?, passed⟩
  | true =>
      have unfinished : wordsFrom false none part = none := by
        have whole := passed []
        rwa [List.append_nil] at whole
      have odd := (wordsFrom_eq_none_iff part).mp unfinished
      exact absurd even (Nat.not_even_iff_odd.mpr odd)

/-- Behind an odd number of quotes a quoted piece is open, and with it a
word. -/
theorem wordsFrom_append_of_odd (odd : Odd (part.count quote)) :
    ∃ found word, ∀ rest, wordsFrom false none (part ++ rest) =
      (wordsFrom true (some word) rest).map (found ++ ·) := by
  rcases wordsFrom_append part false none nofun with
    ⟨found, quoted, word?, begun, passed⟩
  cases quoted with
  | true =>
      rcases Option.isSome_iff_exists.mp (begun rfl) with ⟨word, rfl⟩
      exact ⟨found, word, passed⟩
  | false =>
      have unfinished := (wordsFrom_eq_none_iff part).mpr odd
      have whole := passed []
      rw [List.append_nil, unfinished] at whole
      cases whole

/-- The rest of a line ends the word begun in the same way whatever this
is. -/
theorem wordsFrom_some (quoted : Bool) (rest : List Char) :
    (∀ word, wordsFrom quoted (some word) rest = none) ∨
      ∃ ending others, ∀ word, wordsFrom quoted (some word) rest =
        some ((word.reverse ++ ending) :: others) := by
  induction rest generalizing quoted with
  | nil =>
      cases quoted with
      | true => exact .inl fun word => rfl
      | false =>
          refine .inr ⟨[], [], fun word => ?_⟩
          rw [List.append_nil]
          rfl
  | cons character rest induction =>
      rcases quote_or_ends_or_part quoted character with
        rfl | ⟨rfl, blank⟩ | ⟨notQuote, isPart⟩
      · rcases induction (!quoted) with unfinished | ⟨ending, others, ended⟩
        · refine .inl fun word => ?_
          rw [wordsFrom_quote]
          exact unfinished word
        · refine .inr ⟨ending, others, fun word => ?_⟩
          rw [wordsFrom_quote]
          exact ended word
      -- The word begun ends here, and the rest is scanned without it.
      · cases behind : wordsFrom false none rest with
        | none =>
            refine .inl fun word => ?_
            rw [wordsFrom_of_ends blank, behind]
            rfl
        | some others =>
            refine .inr ⟨[], others, fun word => ?_⟩
            rw [wordsFrom_of_ends blank, behind, List.append_nil]
            rfl
      · rcases induction quoted with unfinished | ⟨ending, others, ended⟩
        · refine .inl fun word => ?_
          rw [wordsFrom_of_part notQuote isPart]
          exact unfinished _
        · refine .inr ⟨character :: ending, others, fun word => ?_⟩
          rw [wordsFrom_of_part notQuote isPart, ended, Option.getD_some,
            List.reverse_cons, List.append_assoc, List.singleton_append]

/-! ## White space where two lines meet -/

theorem quote_not_mem_gap (isGap : IsGap gap) : quote ∉ gap := by
  intro member
  exact ne_quote_of_isBlank (List.all_eq_true.mp isGap _ member) rfl

/-- Words do not go beyond white space outside quotes. -/
theorem wordsFrom_join_of_even
    (even : Even (part.count quote))
    (isGap : IsGap gap) (nonempty : gap ≠ []) :
    ∃ first, wordsFrom false none part = some first ∧
      ∀ later, wordsFrom false none (part ++ (gap ++ later)) =
        (wordsFrom false none later).map (first ++ ·) := by
  rcases wordsFrom_append_of_even even with ⟨found, word?, passed⟩
  refine ⟨found ++ word?.toList.map List.reverse, ?_, fun later => ?_⟩
  · have whole := passed []
    rw [List.append_nil] at whole
    rw [whole]
    rfl
  · rw [passed, wordsFrom_gap_of_closed isGap nonempty, Option.map_map]
    simp [Function.comp_def]

/-- White space between quotes is part of one word. -/
theorem wordsFrom_join_of_odd
    (odd : Odd (part.count quote)) (isGap : IsGap gap)
    (oddLater : Odd (later.count quote)) :
    ∃ earlier beginning ending others,
      wordsFrom false none (part ++ [quote]) =
          some (earlier ++ [beginning]) ∧
        wordsFrom false none (quote :: later) = some (ending :: others) ∧
        wordsFrom false none (part ++ (gap ++ later)) =
          some (earlier ++ (beginning ++ gap ++ ending) :: others) := by
  rcases wordsFrom_append_of_odd odd with ⟨earlier, word, passed⟩
  have opened : wordsFrom false none (quote :: later) =
      wordsFrom true (some []) later := rfl
  rcases wordsFrom_some true later with unfinished | ⟨ending, others, ended⟩
  · rw [unfinished, wordsFrom_eq_none_iff, List.count_cons_self,
      Nat.odd_add_one] at opened
    exact absurd oddLater opened
  · refine ⟨earlier, word.reverse, ending, others, ?_, ?_, ?_⟩
    · rw [passed]
      rfl
    · rw [opened, ended]
      rfl
    · have inside := wordsFrom_piece true (quote_not_mem_gap isGap)
        (fun _ _ => .inl rfl) word later
      rw [passed, inside, ended, List.reverse_append, List.reverse_reverse]
      rfl

/-! ## Joined lines -/

/-- A line has words exactly if it has an even number of quotes. -/
theorem exists_words_iff (line : String) :
    (∃ found, words line = .ok found) ↔
      Even (line.toList.count quote) := by
  rw [← Nat.not_odd_iff_even, ← wordsFrom_eq_none_iff, words]
  cases wordsFrom false none line.toList <;> simp

variable {line gap later : String}

theorem words_join_of_even
    (even : Even (line.toList.count quote))
    (isGap : IsGap gap.toList) (nonempty : gap.toList ≠ []) :
    ∃ first, words line = .ok first ∧
      (∀ others, words later = .ok others →
        words (line ++ gap ++ later) = .ok (first ++ others)) ∧
      ∀ failure, words (line ++ gap ++ later) = .error failure ↔
        words later = .error failure := by
  rcases wordsFrom_join_of_even even isGap nonempty with
    ⟨first, isFirst, joined⟩
  have split : (line ++ gap ++ later).toList =
      line.toList ++ (gap.toList ++ later.toList) := by
    simp only [String.toList_append, List.append_assoc]
  refine ⟨first.map String.ofList, ?_, ?_, ?_⟩
  · rw [words_eq_ok_iff, isFirst]
    simp [Function.comp_def]
  · intro others isOthers
    rw [words_eq_ok_iff] at isOthers
    rw [words_eq_ok_iff, split, joined, isOthers]
    simp [Function.comp_def]
  · intro failure
    rw [words_eq_error_iff, words_eq_error_iff, split, joined,
      Option.map_eq_none_iff]

theorem words_join_of_odd
    (odd : Odd (line.toList.count quote)) (isGap : IsGap gap.toList)
    (oddLater : Odd (later.toList.count quote)) :
    ∃ earlier beginning ending others,
      words (line ++ "\"") = .ok (earlier ++ [beginning]) ∧
        words ("\"" ++ later) = .ok (ending :: others) ∧
        words (line ++ gap ++ later) =
          .ok (earlier ++ (beginning ++ gap ++ ending) :: others) := by
  rcases wordsFrom_join_of_odd odd isGap oddLater with
    ⟨earlier, beginning, ending, others, first, second, joined⟩
  refine ⟨earlier.map String.ofList, String.ofList beginning,
    String.ofList ending, others.map String.ofList, ?_, ?_, ?_⟩
  · rw [words_eq_ok_iff, String.toList_append]
    exact first.trans (by simp [Function.comp_def])
  · rw [words_eq_ok_iff, String.toList_append]
    exact second.trans (by simp [Function.comp_def])
  · rw [words_eq_ok_iff, String.toList_append, String.toList_append,
      List.append_assoc, joined]
    simp [Function.comp_def]

end Shell

/-- More words do not matter to what is asked for, unless it is a report in
summary. -/
theorem Instruction.IsReadFrom.append
    {instruction : Instruction} {name : String} {operands : List String}
    (isReadFrom : instruction.IsReadFrom name operands)
    (notSummary : instruction ≠ .status .summary) (more : List String) :
    instruction.IsReadFrom name (operands ++ more) where
  named := isReadFrom.named
  begins := isReadFrom.begins.trans (List.prefix_append operands more)
  alone summary := absurd summary notSummary

namespace Shell

/--
Words and instructions of lines that are joined at white space.

If no quoted piece is open in front of the white space, the words of the joined
line are those of both lines, one after the other, and only the second line can
lack them.  If one is open, the joined line has words exactly if the second
line closes it.  The word that is begun where the first line is closed then
goes on with the white space, as it is, and with what the second line has up to
its end.

An instruction is therefore not changed by anything with closed quotes that
follows it behind white space, with the one exception of a report in summary,
for which the next word is an operand.
-/
theorem joined_at_gap
    (line gap later : String)
    (isGap : IsGap gap.toList) (nonempty : gap ≠ "") :
    (Even (line.toList.count quote) →
      ∃ first, words line = .ok first ∧
        (∀ others, words later = .ok others →
          words (line ++ gap ++ later) = .ok (first ++ others)) ∧
        ∀ failure, words (line ++ gap ++ later) = .error failure ↔
          words later = .error failure) ∧
    (Odd (line.toList.count quote) →
      ((∃ found, words (line ++ gap ++ later) = .ok found) ↔
        Odd (later.toList.count quote)) ∧
      (Odd (later.toList.count quote) →
        ∃ earlier beginning ending others,
          words (line ++ "\"") = .ok (earlier ++ [beginning]) ∧
            words ("\"" ++ later) = .ok (ending :: others) ∧
            words (line ++ gap ++ later) =
              .ok (earlier ++ (beginning ++ gap ++ ending) :: others))) ∧
    ∀ instruction, Instruction.parse line = .ok instruction →
      instruction ≠ .status .summary → Even (later.toList.count quote) →
        Instruction.parse (line ++ gap ++ later) = .ok instruction := by
  have nonempty' : gap.toList ≠ [] := mt String.toList_eq_nil_iff.mp nonempty
  refine ⟨fun even => words_join_of_even even isGap nonempty', ?_, ?_⟩
  · intro odd
    refine ⟨?_, words_join_of_odd odd isGap⟩
    have noQuote : gap.toList.count quote = 0 :=
      List.count_eq_zero.mpr (quote_not_mem_gap isGap)
    rw [exists_words_iff, String.toList_append, String.toList_append,
      List.count_append, List.count_append, noQuote, Nat.add_zero,
      Nat.even_add, ← Nat.not_odd_iff_even, ← Nat.not_odd_iff_even]
    simp [odd]
  · intro instruction parsed notSummary evenLater
    rcases Instruction.parse_eq_ok_iff.mp parsed with
      ⟨head, operands, isWords, name, spells, isReadFrom⟩
    -- A line that is parsed has words, so no quoted piece is open at its end.
    have even := (exists_words_iff line).mp ⟨_, isWords⟩
    rcases words_join_of_even even isGap nonempty' with
      ⟨first, isFirst, joined, -⟩
    cases isWords.symm.trans isFirst
    rcases (exists_words_iff later).mpr evenLater with ⟨others, isOthers⟩
    exact Instruction.parse_eq_ok_iff.mpr
      ⟨head, operands ++ others, joined others isOthers, name, spells,
        isReadFrom.append notSummary others⟩

/-- White space goes into a word between quotes, and more words behind an
instruction do not change it. -/
theorem joined_inside_and_behind :
    words ("alloc d \"a" ++ " \t" ++ "b\" c") =
        .ok ["alloc", "d", "a \tb", "c"] ∧
      Instruction.parse ("free m1" ++ " \t" ++ "\"x y\"z") =
        .ok (.delete "m1") := by
  have isGap : IsGap " \t".toList := rfl
  constructor
  · rcases (joined_at_gap "alloc d \"a" " \t" "b\" c" isGap (by decide)).2.1
        (by decide) with ⟨-, inside⟩
    rcases inside (by decide) with
      ⟨earlier, beginning, ending, others, first, second, joined⟩
    have isFirst : words ("alloc d \"a" ++ "\"") =
        .ok (["alloc", "d"] ++ ["a"]) := by
      decide +kernel
    have isSecond : words ("\"" ++ "b\" c") = .ok ("b" :: ["c"]) := by
      decide +kernel
    rw [joined]
    have sameFirst := Except.ok.inj (first.symm.trans isFirst)
    rcases List.append_inj' sameFirst rfl with ⟨rfl, same⟩
    cases same
    cases second.symm.trans isSecond
    rfl
  · have behind := (joined_at_gap "free m1" " \t" "\"x y\"z" isGap
      (by decide)).2.2
    exact behind (.delete "m1") (by decide +kernel) nofun (by decide)

/-- The next word is an operand of a report in summary. -/
example :
    Instruction.parse "status" = .ok (.status .summary) ∧
      Instruction.parse ("status" ++ " " ++ "m1") =
        .error (.usage "Usage: status [--memory|--block]") := by
  decide +kernel

end Shell

end BlockWire
