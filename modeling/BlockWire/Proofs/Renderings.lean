import BlockWire.Proofs.Spelling
import BlockWire.Proofs.WordRuns
import BlockWire.Shell.Instruction

/-!
# Instructions and their renderings

There are many lines for one instruction.  Its first word may be spelled in
any letter case, and some instructions have two; each field may stand between
quotes, or without them unless it would then not be seen as one word; and the
white space in between is free.  Every line of this kind gives the
instruction back.

Only a field with a quote in it has no rendering, since quotes never become
part of a word.  The instructions without one are therefore all that a line
can ask for.
-/

namespace BlockWire

/-! ## Words as they are written down -/

namespace Shell

/-- How a word can be written down: between quotes, or as it is if it is not
empty and has no white space. -/
inductive Writes (word : List Char) : List Char → Prop where
  | quoted : Writes word (quote :: (word ++ [quote]))
  | bare (nonempty : word ≠ [])
      (solid : ∀ character ∈ word, Text.isBlank character = false) :
      Writes word word

/-- Characters that are all white space. -/
def IsGap (gap : List Char) : Prop :=
  gap.all Text.isBlank = true

theorem isGap_cons
    {character : Char} {gap : List Char} :
    IsGap (character :: gap) ↔
      Text.isBlank character = true ∧ IsGap gap := by
  rw [IsGap, List.all_cons, Bool.and_eq_true, IsGap]

/-- How words can be written down one after the other, each with some white
space in front of it. -/
inductive WritesAll : List (List Char) → List Char → Prop where
  | nothing : WritesAll [] []
  | word {word text later gap : List Char} {words : List (List Char)}
      (isGap : IsGap gap) (nonempty : gap ≠ [])
      (written : Writes word text) (others : WritesAll words later) :
      WritesAll (word :: words) (gap ++ text ++ later)

/-- White space between words is passed without any effect. -/
theorem wordsFrom_gap
    {gap : List Char} (isGap : IsGap gap) (rest : List Char) :
    wordsFrom false none (gap ++ rest) = wordsFrom false none rest := by
  induction gap with
  | nil => rfl
  | cons character gap induction =>
      rcases isGap_cons.mp isGap with ⟨blank, others⟩
      rw [List.cons_append, wordsFrom_of_ends blank, induction others]
      simp

/-- White space outside quotes ends the word begun, if there is one. -/
theorem wordsFrom_gap_of_closed
    {gap : List Char} (isGap : IsGap gap) (nonempty : gap ≠ [])
    (word? : Option (List Char)) (rest : List Char) :
    wordsFrom false word? (gap ++ rest) =
      (wordsFrom false none rest).map
        (word?.toList.map List.reverse ++ ·) := by
  cases gap with
  | nil => exact absurd rfl nonempty
  | cons character gap =>
      rcases isGap_cons.mp isGap with ⟨blank, others⟩
      rw [List.cons_append, wordsFrom_of_ends blank, wordsFrom_gap others]

/-- Characters that neither are quotes nor separate go to the word begun. -/
theorem wordsFrom_piece
    (quoted : Bool) {piece : List Char}
    (unquoted : quote ∉ piece)
    (joined :
      ∀ character ∈ piece, quoted = true ∨ Text.isBlank character = false)
    (word rest : List Char) :
    wordsFrom quoted (some word) (piece ++ rest) =
      wordsFrom quoted (some (piece.reverse ++ word)) rest := by
  induction piece generalizing word with
  | nil => rfl
  | cons character piece induction =>
      rcases List.forall_mem_cons.mp joined with ⟨first, others⟩
      rw [List.mem_cons, not_or] at unquoted
      rcases unquoted with ⟨notQuote, unquotedLater⟩
      rw [List.cons_append, wordsFrom_of_part (Ne.symm notQuote) first,
        Option.getD_some, induction unquotedLater others, List.reverse_cons,
        List.append_assoc]
      rfl

/-- However a word is written down, it is begun when this has been passed. -/
theorem Writes.wordsFrom
    {word text : List Char} (written : Writes word text)
    (unquoted : quote ∉ word) (rest : List Char) :
    wordsFrom false none (text ++ rest) =
      wordsFrom false (some word.reverse) rest := by
  cases written with
  | quoted =>
      have inside :=
        wordsFrom_piece true unquoted (fun _ _ => .inl rfl) []
          (quote :: rest)
      rw [List.append_nil, wordsFrom_quote] at inside
      rw [List.cons_append, List.append_assoc, List.singleton_append,
        wordsFrom_quote]
      exact inside
  | bare nonempty solid =>
      rcases List.exists_cons_of_ne_nil nonempty with ⟨first, others, rfl⟩
      rw [List.mem_cons, not_or] at unquoted
      rcases List.forall_mem_cons.mp solid with ⟨solidFirst, solidOthers⟩
      rw [List.cons_append,
        wordsFrom_of_part (Ne.symm unquoted.1) (.inr solidFirst),
        wordsFrom_piece false unquoted.2
          (fun _ member => .inr (solidOthers _ member)),
        List.reverse_cons]
      rfl

/-- Words that are written down one after the other are found in this order,
behind the word begun. -/
theorem WritesAll.wordsFrom
    {words : List (List Char)} {text : List Char}
    (written : WritesAll words text)
    (unquoted : ∀ word ∈ words, quote ∉ word)
    {gap : List Char} (isGap : IsGap gap) (first : List Char) :
    wordsFrom false (some first) (text ++ gap) =
      some (first.reverse :: words) := by
  induction written generalizing first with
  | nothing =>
      cases gap with
      | nil => rfl
      | cons character gap =>
          have ended := wordsFrom_gap_of_closed isGap
            (List.cons_ne_nil character gap) (some first) []
          rw [List.append_nil] at ended
          rw [List.nil_append, ended]
          rfl
  | word isGapBefore nonempty writtenWord others induction =>
      rcases List.forall_mem_cons.mp unquoted with
        ⟨unquotedWord, unquotedOthers⟩
      rw [List.append_assoc, List.append_assoc,
        wordsFrom_gap_of_closed isGapBefore nonempty,
        writtenWord.wordsFrom unquotedWord, induction unquotedOthers,
        List.reverse_reverse]
      rfl

/-- Quotes never become part of a word. -/
theorem quote_not_mem_of_words
    {line : String} {found : List String} (isWords : words line = .ok found) :
    ∀ word ∈ found, quote ∉ word.toList := by
  rw [words_eq_ok_iff, wordsFrom_eq_runs] at isWords
  split at isWords
  case isTrue => cases isWords
  case isFalse =>
    have fromRuns := Option.some.inj isWords
    intro word member
    have isRead : word.toList ∈ found.map String.toList :=
      List.mem_map_of_mem member
    rw [← fromRuns] at isRead
    rcases List.mem_map.mp isRead with ⟨run, -, isUnquoted⟩
    rw [← isUnquoted]
    simp [unquoted]

/-- Words between quotes, each with a space in front of it. -/
def quotedWords (words : List String) : List Char :=
  words.flatMap fun word => ' ' :: quote :: (word.toList ++ [quote])

theorem writesAll_quotedWords (words : List String) :
    WritesAll (words.map String.toList) (quotedWords words) := by
  induction words with
  | nil => exact .nothing
  | cons word words induction =>
      have isGap : IsGap [' '] := rfl
      exact .word isGap (List.cons_ne_nil _ _) .quoted induction

end Shell

/-! ## Instructions as words -/

namespace Instruction

/-- The words that a line for an instruction may begin with. -/
def names : Instruction → List String
  | .alloc _ _ => ["alloc"]
  | .read _ => ["read"]
  | .update _ _ => ["update"]
  | .delete _ => ["free", "delete"]
  | .status _ => ["status"]
  | .ping => ["ping"]
  | .help => ["help"]
  | .quit => ["quit", "exit"]

/-- The texts that an instruction is about. -/
def fields : Instruction → List String
  | .alloc description content => [description, content]
  | .read identifier => [identifier]
  | .update identifier content => [identifier, content]
  | .delete identifier => [identifier]
  | .status _ => []
  | .ping => []
  | .help => []
  | .quit => []

/-- The words that follow the first one: the fields, or the word for a level
of detail. -/
def operands : Instruction → List String
  | .status .summary => []
  | .status detail => [detail.word]
  | instruction => instruction.fields

/-! ## What the words of a line ask for -/

/-- An instruction is what a first word and the words after it ask for: its
operands come next, and nothing comes next if it is a report in summary. -/
structure IsReadFrom (instruction : Instruction) (name : String)
    (operands : List String) : Prop where
  named : name ∈ instruction.names
  begins : instruction.operands <+: operands
  alone : instruction = .status .summary → operands = []

section

variable {instruction : Instruction} {name : String} {operands : List String}

theorem isReadFrom_operands (named : name ∈ instruction.names) :
    instruction.IsReadFrom name instruction.operands where
  named := named
  begins := List.prefix_rfl
  alone := by
    rintro rfl
    rfl

theorem ofWord_of_isReadFrom
    (isReadFrom : instruction.IsReadFrom name operands) :
    ofWord name operands = .ok instruction := by
  rcases isReadFrom with ⟨named, ⟨others, rfl⟩, alone⟩
  cases instruction with
  | status detail =>
      cases List.mem_singleton.mp named
      cases detail with
      | summary =>
          rw [alone rfl]
          rfl
      | memory => rfl
      | block => rfl
  | delete identifier =>
      simp only [names, List.mem_cons, List.not_mem_nil, or_false] at named
      rcases named with rfl | rfl <;> rfl
  | quit =>
      simp only [names, List.mem_cons, List.not_mem_nil, or_false] at named
      rcases named with rfl | rfl <;> rfl
  | _ =>
      cases List.mem_singleton.mp named
      rfl

theorem isReadFrom_of_ofWord
    (read : ofWord name operands = .ok instruction) :
    instruction.IsReadFrom name operands := by
  unfold ofWord misuse at read
  split at read
  case h_7 | h_8 | h_9 | h_10 =>
    cases read
    exact ⟨by decide, List.nil_prefix, nofun⟩
  case h_11 => cases read
  all_goals
    split at read <;> cases read
    all_goals exact ⟨by simp [names], ⟨_, rfl⟩, by simp⟩

/-- The words of a line ask for an instruction exactly if they are one of its
first words and its operands, with or without more words behind them. -/
theorem ofWord_eq_ok_iff :
    ofWord name operands = .ok instruction ↔
      instruction.IsReadFrom name operands :=
  ⟨isReadFrom_of_ofWord, ofWord_of_isReadFrom⟩

end

/-! ## Renderings -/

/-- No field of the instruction has a quote in it. -/
def IsQuoteFree (instruction : Instruction) : Prop :=
  ∀ field ∈ instruction.fields, Shell.quote ∉ field.toList

/-- A line is a rendering of an instruction: one of its first words in any
letter case, and then its operands, with any white space around it. -/
def Renders (instruction : Instruction) (line : String) : Prop :=
  ∃ name ∈ instruction.names, ∃ spelling before operands after,
    Text.Spells name spelling ∧
      Shell.WritesAll (instruction.operands.map String.toList) operands ∧
      Shell.IsGap before ∧ Shell.IsGap after ∧
      line.toList = before ++ spelling.toList ++ operands ++ after

variable {instruction : Instruction} {line : String}

theorem isPlain_of_mem_names :
    ∀ name ∈ instruction.names, name ≠ "" ∧ Text.IsPlain name := by
  cases instruction <;>
    · simp only [names]
      decide

/-- The operands of an instruction have no quotes if its fields have none. -/
theorem IsQuoteFree.operands
    (quoteFree : instruction.IsQuoteFree) :
    ∀ operand ∈ instruction.operands, Shell.quote ∉ operand.toList := by
  cases instruction with
  | status detail => cases detail <;> decide
  | _ => exact quoteFree

/-- A rendering has the spelling of the first word and the operands as its
words. -/
theorem words_of_renders
    (quoteFree : instruction.IsQuoteFree)
    (renders : instruction.Renders line) :
    ∃ name ∈ instruction.names, ∃ spelling, Text.Spells name spelling ∧
      Shell.words line = .ok (spelling :: instruction.operands) := by
  rcases renders with ⟨name, named, spelling, before, operands, after,
    spells, written, isGapBefore, isGapAfter, isLine⟩
  refine ⟨name, named, spelling, spells, ?_⟩
  rcases isPlain_of_mem_names name named with ⟨notEmpty, plain⟩
  have solid := spells.solid plain
  have begun : Shell.Writes spelling.toList spelling.toList := by
    refine .bare ?_ fun character member => (solid character member).1
    intro empty
    rw [Text.Spells, empty] at spells
    exact notEmpty (String.toList_inj.mp spells.symm)
  have unquotedSpelling : Shell.quote ∉ spelling.toList :=
    fun member => (solid _ member).2 rfl
  have unquotedOperands :
      ∀ word ∈ instruction.operands.map String.toList,
        Shell.quote ∉ word := by
    intro word member
    rcases List.mem_map.mp member with ⟨operand, isOperand, rfl⟩
    exact quoteFree.operands operand isOperand
  rw [Shell.words_eq_ok_iff, isLine, List.append_assoc, List.append_assoc,
    Shell.wordsFrom_gap isGapBefore, begun.wordsFrom unquotedSpelling,
    written.wordsFrom unquotedOperands isGapAfter, List.reverse_reverse,
    List.map_cons]

/-- Every rendering of an instruction gives it back. -/
theorem parse_of_renders
    (quoteFree : instruction.IsQuoteFree)
    (renders : instruction.Renders line) :
    parse line = .ok instruction := by
  rcases words_of_renders quoteFree renders with
    ⟨name, named, spelling, spells, isWords⟩
  have lower : Text.lowercase spelling = name :=
    Text.lowercase_of_spells spells (isPlain_of_mem_names name named).2
  simp only [parse, isWords, lower]
  exact ofWord_eq_ok_iff.mpr (isReadFrom_operands named)

/-! ## What a line can ask for -/

theorem fields_subset_operands (instruction : Instruction) :
    instruction.fields ⊆ instruction.operands := by
  cases instruction with
  | status detail => exact List.nil_subset _
  | _ => exact List.Subset.refl _

/-- No line gives an instruction with a quote in a field. -/
theorem isQuoteFree_of_parse
    (parsed : parse line = .ok instruction) : instruction.IsQuoteFree := by
  intro field isField
  unfold parse at parsed
  split at parsed
  case h_1 => cases parsed
  case h_2 => cases parsed
  case h_3 word operands isWords =>
    apply Shell.quote_not_mem_of_words isWords
    apply List.mem_cons_of_mem
    apply (ofWord_eq_ok_iff.mp parsed).begins.subset
    exact instruction.fields_subset_operands isField

/-- The line with a first word and operands between quotes. -/
def lineOf (name : String) (operands : List String) : String :=
  String.ofList (name.toList ++ Shell.quotedWords operands)

theorem renders_lineOf
    {name : String} (named : name ∈ instruction.names) :
    instruction.Renders (lineOf name instruction.operands) := by
  have spells : Text.Spells name name :=
    Text.spells_self (isPlain_of_mem_names name named).2
  have noGap : Shell.IsGap [] := rfl
  refine ⟨name, named, name, [], _, [], spells,
    Shell.writesAll_quotedWords instruction.operands, noGap, noGap, ?_⟩
  simp [lineOf]

/--
Reading a line undoes writing it down, and the instructions that have no quote
in a field are exactly those that a line can ask for.

Every rendering of such an instruction gives it back, with either first word in
any letter case, with each operand between quotes or bare, and with any white
space.  No line gives an instruction that has a quote in a field.
-/
theorem parse_inverts_rendering (instruction : Instruction) :
    (instruction.IsQuoteFree → ∀ line, instruction.Renders line →
      parse line = .ok instruction) ∧
    (∀ line, parse line = .ok instruction → instruction.IsQuoteFree) ∧
    ((∃ line, parse line = .ok instruction) ↔ instruction.IsQuoteFree) := by
  have inverse : instruction.IsQuoteFree → ∀ line,
      instruction.Renders line → parse line = .ok instruction :=
    fun quoteFree line renders => parse_of_renders quoteFree renders
  have only : ∀ line, parse line = .ok instruction →
      instruction.IsQuoteFree := fun line => isQuoteFree_of_parse
  refine ⟨inverse, only, ?_, ?_⟩
  · rintro ⟨line, parsed⟩
    exact only line parsed
  · intro quoteFree
    have someName : instruction.names ≠ [] := by
      cases instruction <;> exact List.cons_ne_nil _ _
    rcases List.exists_mem_of_ne_nil _ someName with ⟨name, named⟩
    exact ⟨_, inverse quoteFree _ (renders_lineOf named)⟩

/-- The other first word of an instruction to free a block, in mixed letter
case, and an identifier that is made of white space. -/
theorem parse_free_blank_identifier :
    (Instruction.delete " \t").IsQuoteFree ∧
      parse "\tFrEE   \" \t\" " = .ok (.delete " \t") := by
  have quoteFree : (Instruction.delete " \t").IsQuoteFree :=
    List.forall_mem_singleton.mpr (by decide)
  refine ⟨quoteFree, (parse_inverts_rendering _).1 quoteFree _ ?_⟩
  have between : Shell.IsGap "   ".toList := rfl
  have spells : Text.Spells "free" "FrEE" := by
    unfold Text.Spells
    decide
  exact ⟨"free", by decide, "FrEE", ['\t'], _, [' '], spells,
    .word between (by decide) .quoted .nothing, rfl, rfl, by decide⟩

end Instruction

end BlockWire
