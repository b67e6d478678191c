import BlockWire.Proofs.Renderings

/-!
# The grammar of instructions

A line gives an instruction exactly if its first word is one of ten words, in
any letter case, and the words behind it fit that word.  Every other line is
used in a wrong way, whatever it holds.

The first word is looked up by its lower-case form, and the rules for lower
case reach beyond ASCII.  None of the ten words has a k in it, so no character
from outside ASCII can stand in for one of their letters.
-/

namespace BlockWire.Instruction

variable {instruction : Instruction} {name line : String}
  {operands : List String} {failure : Failure}

/-! ## First words and what fits them -/

/-- The words that may follow a first word. -/
inductive Fits : String → List String → Prop where
  | two {name : String} {operands : List String}
      (named : name ∈ ["alloc", "update"]) (enough : 2 ≤ operands.length) :
      Fits name operands
  | one {name : String} {operands : List String}
      (named : name ∈ ["read", "free", "delete"])
      (enough : 1 ≤ operands.length) :
      Fits name operands
  | summary : Fits "status" []
  | detail {first : String} (named : first ∈ ["--memory", "--block"])
      (others : List String) :
      Fits "status" (first :: others)
  | any {name : String} (named : name ∈ ["ping", "help", "quit", "exit"])
      (operands : List String) :
      Fits name operands

theorem IsReadFrom.fits
    (isReadFrom : instruction.IsReadFrom name operands) :
    Fits name operands := by
  rcases isReadFrom with ⟨named, begins, alone⟩
  have enough := begins.length_le
  cases instruction with
  | alloc description content =>
      cases List.mem_singleton.mp named
      exact .two (by decide) enough
  | read identifier =>
      cases List.mem_singleton.mp named
      exact .one (by decide) enough
  | update identifier content =>
      cases List.mem_singleton.mp named
      exact .two (by decide) enough
  | delete identifier =>
      exact .one (List.mem_cons_of_mem _ named) enough
  | status detail =>
      cases List.mem_singleton.mp named
      rcases begins with ⟨others, rfl⟩
      cases detail with
      | summary =>
          rw [alone rfl]
          exact .summary
      | memory => exact .detail (by decide) others
      | block => exact .detail (by decide) others
  | ping =>
      cases List.mem_singleton.mp named
      exact .any (by decide) operands
  | help =>
      cases List.mem_singleton.mp named
      exact .any (by decide) operands
  | quit =>
      exact .any (List.mem_append_right ["ping", "help"] named) operands

/-- Words that fit a first word ask for an instruction. -/
theorem Fits.exists_isReadFrom (fits : Fits name operands) :
    ∃ instruction : Instruction, instruction.IsReadFrom name operands := by
  cases fits with
  | two named enough =>
      match operands, enough with
      | first :: second :: others, _ =>
          simp only [List.mem_cons, List.not_mem_nil, or_false] at named
          rcases named with rfl | rfl
          · exact ⟨.alloc first second, List.mem_singleton_self _,
              ⟨others, rfl⟩, nofun⟩
          · exact ⟨.update first second, List.mem_singleton_self _,
              ⟨others, rfl⟩, nofun⟩
  | one named enough =>
      match operands, enough with
      | first :: others, _ =>
          rcases List.mem_cons.mp named with rfl | named
          · exact ⟨.read first, List.mem_singleton_self _,
              ⟨others, rfl⟩, nofun⟩
          · exact ⟨.delete first, named, ⟨others, rfl⟩, nofun⟩
  | summary =>
      exact ⟨.status .summary,
        isReadFrom_operands (List.mem_singleton_self _)⟩
  | detail named others =>
      simp only [List.mem_cons, List.not_mem_nil, or_false] at named
      rcases named with rfl | rfl
      · exact ⟨.status .memory, by decide, ⟨others, rfl⟩, nofun⟩
      · exact ⟨.status .block, by decide, ⟨others, rfl⟩, nofun⟩
  | any named operands =>
      rcases List.mem_cons.mp named with rfl | named
      · exact ⟨.ping, by decide, List.nil_prefix, nofun⟩
      · rcases List.mem_cons.mp named with rfl | named
        · exact ⟨.help, by decide, List.nil_prefix, nofun⟩
        · exact ⟨.quit, named, List.nil_prefix, nofun⟩

/-! ## Lines -/

theorem k_not_mem_of_mem_names :
    ∀ name ∈ instruction.names, 'k' ∉ name.toList := by
  cases instruction <;>
    · simp only [names]
      decide

/-- A line gives an instruction if its words ask for it, in whatever letter
case the first one is written. -/
theorem parse_eq_ok_iff :
    parse line = .ok instruction ↔
      ∃ head operands, Shell.words line = .ok (head :: operands) ∧
        ∃ name, Text.Spells name head ∧
          instruction.IsReadFrom name operands := by
  constructor
  · intro parsed
    unfold parse at parsed
    split at parsed
    case h_1 => cases parsed
    case h_2 => cases parsed
    case h_3 head operands isWords =>
      have isReadFrom := ofWord_eq_ok_iff.mp parsed
      have plain := (isPlain_of_mem_names _ isReadFrom.named).2
      have withoutK := k_not_mem_of_mem_names _ isReadFrom.named
      have spells := (Text.lowercase_eq_iff plain withoutK).mp rfl
      exact ⟨head, operands, isWords, _, spells, isReadFrom⟩
  · rintro ⟨head, operands, isWords, name, spells, isReadFrom⟩
    have plain := (isPlain_of_mem_names _ isReadFrom.named).2
    have lower := Text.lowercase_of_spells spells plain
    simp only [parse, isWords, lower]
    exact ofWord_eq_ok_iff.mpr isReadFrom

/-- A line with nothing but white space would be called empty. -/
theorem parse_of_isBlankLine (blank : Text.isBlankLine line = true) :
    parse line = .error (.usage "empty command") := by
  rw [parse, (Shell.words_eq_nil_iff line).mpr blank]

/-- Words that make no instruction are used in a wrong way, and the text about
it is not the one about a line without words. -/
theorem usage_of_ofWord
    {word : String} {operands : List String}
    (refused : ofWord word operands = .error failure) :
    ∃ text, failure = .usage text ∧ text ≠ "empty command" := by
  unfold ofWord misuse at refused
  split at refused
  case h_7 | h_8 | h_9 | h_10 => cases refused
  case h_11 =>
    cases refused
    refine ⟨_, rfl, fun same => ?_⟩
    change "Unknown command: " ++ word ++ ". Type 'help' for help." = _ at same
    have first := congrArg (fun text => text.toList.head?) same
    simp at first
  all_goals
    split at refused <;> cases refused
    exact ⟨_, rfl, by decide⟩

/-- A line that gives no instruction is used in a wrong way.  It is called
empty exactly if it has nothing but white space. -/
theorem usage_of_parse (refused : parse line = .error failure) :
    ∃ text, failure = .usage text ∧
      (text = "empty command" ↔ Text.isBlankLine line = true) := by
  rw [← Shell.words_eq_nil_iff]
  rw [parse] at refused
  split at refused
  case h_1 cause unfinished =>
    cases refused
    refine ⟨_, Shell.eq_usage_of_words unfinished, ?_⟩
    refine ⟨fun same => absurd same (by decide), fun nothing => ?_⟩
    rw [unfinished] at nothing
    cases nothing
  case h_2 nothing =>
    cases refused
    exact ⟨_, rfl, fun _ => nothing, fun _ => rfl⟩
  case h_3 word operands isWords =>
    rcases usage_of_ofWord refused with ⟨text, isUsage, notEmpty⟩
    refine ⟨text, isUsage, fun same => absurd same notEmpty, fun nothing => ?_⟩
    rw [isWords] at nothing
    cases nothing

/--
A line gives an instruction exactly if it belongs to the grammar.

It has to have a first word, which is one of ten words up to the letter case of
ASCII, and the words behind it have to fit.  The instruction is then the one
that they ask for, with its fields as they stand.  Every other line is used in
a wrong way, in particular every line whose first word has a character from
outside ASCII in it.
-/
theorem parse_accepts_grammar (line : String) :
    (∀ instruction, parse line = .ok instruction ↔
      ∃ head operands, Shell.words line = .ok (head :: operands) ∧
        ∃ name, Text.Spells name head ∧
          instruction.IsReadFrom name operands) ∧
    ((∃ instruction, parse line = .ok instruction) ↔
      ∃ head operands, Shell.words line = .ok (head :: operands) ∧
        ∃ name, Text.Spells name head ∧ Fits name operands) ∧
    (∀ failure, parse line = .error failure →
      ∃ text, failure = .usage text) ∧
    (∀ head operands, Shell.words line = .ok (head :: operands) →
      (∃ character ∈ head.toList, 128 ≤ character.toNat) →
        ∃ text, parse line = .error (.usage text)) := by
  have isUsage : ∀ failure, parse line = .error failure →
      ∃ text, failure = .usage text := by
    intro failure refused
    rcases usage_of_parse refused with ⟨text, rfl, -⟩
    exact ⟨text, rfl⟩
  refine ⟨fun instruction => parse_eq_ok_iff, ?_, isUsage, ?_⟩
  · constructor
    · rintro ⟨instruction, parsed⟩
      rcases parse_eq_ok_iff.mp parsed with
        ⟨head, operands, isWords, name, spells, isReadFrom⟩
      exact ⟨head, operands, isWords, name, spells, isReadFrom.fits⟩
    · rintro ⟨head, operands, isWords, name, spells, fits⟩
      rcases fits.exists_isReadFrom with ⟨instruction, isReadFrom⟩
      exact ⟨instruction, parse_eq_ok_iff.mpr
        ⟨head, operands, isWords, name, spells, isReadFrom⟩⟩
  · rintro head operands isWords ⟨character, member, far⟩
    cases parsed : parse line with
    | ok instruction =>
        rcases parse_eq_ok_iff.mp parsed with
          ⟨head', operands', isWords', name, spells, isReadFrom⟩
        cases isWords.symm.trans isWords'
        have plain := (isPlain_of_mem_names _ isReadFrom.named).2
        have ascii := (spells.ascii plain character member).1
        exact absurd ascii (Nat.not_lt.mpr far)
    | error failure =>
        rcases isUsage failure parsed with ⟨text, rfl⟩
        exact ⟨text, rfl⟩

/-- A first word in mixed letter case, with more behind its operand than is
needed, and one with a dotted capital I, whose lower case begins with an i. -/
theorem parse_mixed_case_and_dotted :
    parse "StAtUs --memory more" = .ok (.status .memory) ∧
      ∃ text, parse "p\u0130ng" = .error (.usage text) := by
  have mixed := parse_accepts_grammar "StAtUs --memory more"
  have dotted := parse_accepts_grammar "p\u0130ng"
  have spells : Text.Spells "status" "StAtUs" := by
    unfold Text.Spells
    decide
  constructor
  · have isWords : Shell.words "StAtUs --memory more" =
        .ok ["StAtUs", "--memory", "more"] := by
      decide +kernel
    have isReadFrom :
        (status .memory).IsReadFrom "status" ["--memory", "more"] :=
      ⟨by decide, ⟨["more"], rfl⟩, nofun⟩
    exact (mixed.1 _).mpr ⟨_, _, isWords, _, spells, isReadFrom⟩
  · have isWords : Shell.words "p\u0130ng" = .ok ["p\u0130ng"] := by
      decide +kernel
    exact dotted.2.2.2 _ _ isWords ⟨'\u0130', by decide, by decide⟩

end BlockWire.Instruction
