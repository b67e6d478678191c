import BlockWire.CommandLine.Grammar

/-!
# The time limits of a command line

A command line can ask for any time limit of a whole number of seconds below
two to the power of 64, and for no other one.

What every single option keeps of what was said before it is kept by the
reading of all arguments.  That the time limit is below the bound is kept in
this way, since the number in an option is read with this bound.
-/

namespace BlockWire

/-! ## Numbers -/

namespace Text

theorem lt_of_numberBelow?
    {limit value : Nat} {text : String}
    (isNumber : numberBelow? limit text = some value) :
    value < limit := by
  revert isNumber
  fun_cases numberBelow? limit text with
  | case1 found isFound small =>
      intro isNumber
      cases isNumber
      exact small
  | case2 found isFound large =>
      intro isNumber
      cases isNumber
  | case3 notFound =>
      intro isNumber
      cases isNumber

theorem foldl_digits_eq_ofDigitChars (digits : List Char) (value : Nat) :
    digits.foldl
        (fun value digit => value * 10 + (digit.toNat - '0'.toNat)) value =
      Nat.ofDigitChars 10 digits value := by
  simp only [Nat.ofDigitChars, Nat.mul_comm]

/-- A number is read back from its decimal digits. -/
theorem number?_toDigits (value : Nat) :
    number? (Nat.toDigits 10 value) = some value := by
  have allDigits : (Nat.toDigits 10 value).all Char.isDigit = true :=
    List.all_eq_true.mpr fun digit member =>
      Nat.isDigit_of_mem_toDigits (by decide) (by decide) member
  have nonempty : (Nat.toDigits 10 value).isEmpty = false := by
    simp
  simp only [number?, nonempty, allDigits, Bool.not_true, Bool.or_self,
    Bool.false_eq_true, if_false]
  rw [foldl_digits_eq_ofDigitChars, Nat.ofDigitChars_ten_toDigits]

/-- The digits of a number begin with neither a plus nor a minus sign. -/
theorem exists_digit_of_toString (value : Nat) :
    ∃ digit rest, (toString value).toList = digit :: rest ∧
      digit.isDigit = true := by
  have digits : (toString value).toList = Nat.toDigits 10 value := by simp
  rcases List.exists_cons_of_ne_nil
      (show Nat.toDigits 10 value ≠ [] by simp) with
    ⟨digit, rest, isCons⟩
  refine ⟨digit, rest, digits.trans isCons, ?_⟩
  have member : digit ∈ Nat.toDigits 10 value := by simp [isCons]
  exact Nat.isDigit_of_mem_toDigits (by decide) (by decide) member

theorem afterPlus_cons {digit : Char} (isDigit : digit.isDigit = true)
    (rest : List Char) :
    afterPlus (digit :: rest) = digit :: rest := by
  unfold afterPlus
  split
  next digits isCons =>
    rw [(List.cons.inj isCons).1] at isDigit
    cases isDigit
  next => rfl

/-- A number below a limit is read back from the text for it. -/
theorem numberBelow?_toString {limit value : Nat} (small : value < limit) :
    numberBelow? limit (toString value) = some value := by
  rcases exists_digit_of_toString value with ⟨digit, rest, isCons, isDigit⟩
  have unsigned : afterPlus (toString value).toList =
      Nat.toDigits 10 value := by
    rw [isCons, afterPlus_cons isDigit, ← isCons]
    simp
  simp only [numberBelow?, unsigned, number?_toDigits, small, if_true]

end Text

namespace CommandLine

/-! ## What the reading of arguments keeps -/

/-- A property of what was said that each option and each word keeps. -/
structure Said.Keeps (property : Said → Prop) : Prop where
  value {setting : Setting} {value : String} {said later : Said}
    (holds : property said)
    (taken : said.withValue setting value = .ok later) : property later
  flag {setting : Setting} {said later : Said}
    (holds : property said)
    (taken : said.withFlag setting = .ok later) : property later
  words {said : Said}
    (holds : property said)
    (words : List String) : property { said with words := words }

theorem exists_of_map_eq_ok
    {ε α β : Type} {result : Except ε α} {view : α → β} {value : β}
    (mapped : result.map view = .ok value) :
    ∃ given, result = .ok given ∧ view given = value := by
  cases result with
  | error failure => cases mapped
  | ok given => exact ⟨given, rfl, Except.ok.inj mapped⟩

section Reading

variable {property : Said → Prop} {said later : Said} {awaiting : Awaiting}

theorem Said.Keeps.readLetters
    (keeps : Said.Keeps property)
    {side : Side} {letters : List Char} (holds : property said)
    (read : readLetters side letters said = .ok (later, awaiting)) :
    property later := by
  -- An option with a value is the last letter; only a flag leads on to more.
  fun_induction CommandLine.readLetters side letters said with
  | case1 said | case3 _ said =>
      cases read
      exact holds
  | case2 | case6 => cases read
  | case4 said setting isLetter takesValue value
  | case5 said setting isLetter takesValue value =>
      rcases exists_of_map_eq_ok read with ⟨given, taken, isLater⟩
      cases isLater
      exact keeps.value holds taken
  | case7 letter rest said setting isLetter isFlag given taken ih =>
      exact ih (keeps.flag holds taken) read

theorem Said.Keeps.readNamed
    (keeps : Said.Keeps property)
    {side : Side} {name : String} {value? : Option String}
    (holds : property said)
    (read :
      readNamed side name value? said = .ok (later, awaiting)) :
    property later := by
  revert read
  fun_cases CommandLine.readNamed side name value? said with
  | case1 | case3 =>
      intro read
      cases read
  | case2 setting value =>
      intro read
      rcases exists_of_map_eq_ok read with ⟨given, taken, isLater⟩
      cases isLater
      exact keeps.value holds taken
  | case4 =>
      intro read
      cases read
      exact holds
  | case5 setting =>
      intro read
      rcases exists_of_map_eq_ok read with ⟨given, taken, isLater⟩
      cases isLater
      exact keeps.flag holds taken

theorem Said.Keeps.readAfter
    (keeps : Said.Keeps property)
    {command : Command} {arguments : List String} (holds : property said)
    (read : readAfter command awaiting arguments said = .ok later) :
    property later := by
  fun_induction CommandLine.readAfter command awaiting arguments said with
  | case1 =>
      cases read
      exact holds
  | case2 | case3 | case5 | case8 | case9 | case11 => cases read
  | case4 setting argument rest said value isWord given taken ih =>
      exact ih (keeps.value holds taken) read
  | case6 =>
      cases read
      exact keeps.words holds _
  | case7 argument rest said text isWord room ih =>
      exact ih (keeps.words holds _) read
  | case10 argument rest said name value? isNamed given awaiting taken ih =>
      exact ih (keeps.readNamed holds taken) read
  | case12 argument rest said letters areLetters given awaiting taken ih =>
      exact ih (keeps.readLetters holds taken) read

/-- A property that is kept and holds to begin with holds of what is said on
either side of the name of a command. -/
theorem Said.Keeps.readBefore
    (keeps : Said.Keeps property) (initial : property {})
    {arguments : List String} {command : Command} {after : Said}
    (holds : property said)
    (read :
      readBefore awaiting arguments said = .ok (later, command, after)) :
    property later ∧ property after := by
  fun_induction CommandLine.readBefore awaiting arguments said with
  | case1 | case2 | case4 | case5 | case6 | case7 | case8 | case10
  | case12 => cases read
  | case3 setting argument rest said value isWord given taken ih =>
      exact ih (keeps.value holds taken) read
  | case9 argument rest said name isNoHelp isWord found isName given taken =>
      cases read
      exact ⟨holds, keeps.readAfter initial taken⟩
  | case11 argument rest said name value? isNamed given awaiting taken ih =>
      exact ih (keeps.readNamed holds taken) read
  | case13 argument rest said letters areLetters given awaiting taken ih =>
      exact ih (keeps.readLetters holds taken) read

end Reading

/-! ## Time limits -/

/-- A time limit was said at most as a number of seconds in 64 bits. -/
def Said.IsAdmitted (said : Said) : Prop :=
  ∀ count, said.timeout? = some count → count < Text.limit64

theorem Said.isAdmitted_initial : IsAdmitted {} := by
  intro count isCount
  cases isCount

theorem Said.keeps_isAdmitted : Keeps IsAdmitted where
  value {setting value said later} admitted taken := by
    revert taken
    fun_cases Said.withValue setting value said with
    | case1 | case3 | case4 | case6 | case7 | case9 =>
        intro taken
        cases taken
    | case2 | case5 =>
        intro taken
        cases taken
        exact admitted
    | case8 count isCount =>
        intro taken
        cases taken
        intro other isOther
        rw [← Option.some.inj isOther]
        exact Text.lt_of_numberBelow? isCount
  flag {setting said later} admitted taken := by
    revert taken
    fun_cases Said.withFlag setting said <;>
      intro taken <;> cases taken <;> exact admitted
  words admitted _ := admitted

/-- The time limit of two sides is a number of seconds in 64 bits if theirs
are; what is usual is one as well. -/
theorem exists_seconds_endpointOf
    {before after : Said}
    (beforeAdmitted : before.IsAdmitted) (afterAdmitted : after.IsAdmitted) :
    ∃ count < Text.limit64,
      (endpointOf before after).timeout = seconds count := by
  cases isAfter : after.timeout? with
  | some count =>
      exact ⟨count, afterAdmitted count isAfter, by
        simp [endpointOf, isAfter]⟩
  | none =>
      cases isBefore : before.timeout? with
      | some count =>
          exact ⟨count, beforeAdmitted count isBefore, by
            simp [endpointOf, isAfter, isBefore]⟩
      | none =>
          exact ⟨10, by decide, by simp [endpointOf, isAfter, isBefore]⟩

/-- The time limit of an order is a whole number of seconds in 64 bits. -/
theorem exists_seconds_of_parse
    {arguments : List String} {order : Order}
    (parsed : parse arguments = .ok order) :
    ∃ count < Text.limit64, order.endpoint.timeout = seconds count := by
  revert parsed
  fun_cases parse arguments with
  | case1 | case2 =>
      intro parsed
      cases parsed
  | case3 before command after read task isTask =>
      intro parsed
      cases parsed
      rcases Said.keeps_isAdmitted.readBefore Said.isAdmitted_initial
          Said.isAdmitted_initial read with ⟨beforeAdmitted, afterAdmitted⟩
      exact exists_seconds_endpointOf beforeAdmitted afterAdmitted

theorem Piece.ofArgument_of_head
    {argument : String} (noDash : argument.toList.head? ≠ some '-') :
    ofArgument argument = .word argument := by
  fun_cases ofArgument argument with
  | case1 isCons
  | case2 rest isMore isCons
  | case3 rest isMore isCons
  | case4 letter rest isMore isLetter isCons =>
      exact absurd (by rw [isCons, List.head?_cons]) noDash
  | case5 => rfl

/-- A number is a word among the arguments. -/
theorem Piece.ofArgument_toString (value : Nat) :
    ofArgument (toString value) = .word (toString value) := by
  rcases Text.exists_digit_of_toString value with
    ⟨digit, rest, isCons, isDigit⟩
  refine ofArgument_of_head ?_
  rw [isCons]
  rintro ⟨⟩
  cases isDigit

section Steps

variable {argument : String} {rest : List String} {said later : Said}

theorem readBefore_of_letters
    {letters : List Char} {awaiting : Awaiting}
    (areLetters : Piece.ofArgument argument = .letters letters)
    (read : readLetters .before letters said = .ok (later, awaiting)) :
    readBefore none (argument :: rest) said =
      readBefore awaiting rest later := by
  rw [readBefore]
  simp only [areLetters, read]

theorem readBefore_of_value
    {setting : Setting} {value : String}
    (isWord : Piece.ofArgument argument = .word value)
    (taken : said.withValue setting value = .ok later) :
    readBefore (some setting) (argument :: rest) said =
      readBefore none rest later := by
  rw [readBefore]
  simp only [isWord, taken]

end Steps

/-- Each number of seconds in 64 bits can be asked for. -/
theorem parse_timeout {count : Nat} (small : count < Text.limit64) :
    parse ["-t", toString count, "ping"] =
      .ok ⟨{ timeout := seconds count }, false, .single .ping⟩ := by
  have isCount : seconds? (toString count) = some count :=
    Text.numberBelow?_toString small
  have taken : Said.withValue .timeout (toString count) {} =
      .ok { timeout? := some count } := by
    simp only [Said.withValue, isCount]
    rfl
  have read :
      readBefore none ["-t", toString count, "ping"] {} =
        .ok ({ timeout? := some count }, .ping, {}) :=
    calc
      _ = readBefore (some .timeout) [toString count, "ping"] {} :=
        readBefore_of_letters rfl rfl
      _ = readBefore none ["ping"] { timeout? := some count } :=
        readBefore_of_value (Piece.ofArgument_toString count) taken
      _ = .ok ({ timeout? := some count }, .ping, {}) := rfl
  simp only [parse, read]
  rfl

end CommandLine

end BlockWire
