import BlockWire.Failure
import BlockWire.Text.Blank

/-!
# Words of a command line

White space separates the words of a line unless it stands between double
quotes.  Quotes are not part of a word, yet a pair of quotes with nothing
between them is an empty word.  Quoted and unquoted pieces that touch form one
word, and a quote that is never closed makes the line meaningless.
-/

namespace BlockWire.Shell

/-- The character that opens and closes a quoted piece. -/
def quote : Char := '"'

/-- The words of what is left of a line.  `quoted` says whether a quoted piece
is open, and `word?` holds the word begun, from its last character to its
first.  There are none if a quoted piece stays open. -/
def wordsFrom (quoted : Bool) (word? : Option (List Char)) :
    List Char → Option (List (List Char))
  | [] =>
      if quoted then none else some (word?.toList.map List.reverse)
  | character :: rest =>
      if character = quote then
        wordsFrom (!quoted) (some (word?.getD [])) rest
      else if Text.isBlank character && !quoted then
        match word? with
        | none => wordsFrom quoted none rest
        | some word =>
            (wordsFrom quoted none rest).map (word.reverse :: ·)
      else
        wordsFrom quoted (some (character :: word?.getD [])) rest

theorem ne_quote_of_isBlank
    {character : Char} (blank : Text.isBlank character = true) :
    character ≠ quote := by
  rintro rfl
  exact absurd blank (by decide)

/-- A character is a quote, or it ends a word, or it is part of one. -/
theorem quote_or_ends_or_part (quoted : Bool) (character : Char) :
    character = quote ∨
      quoted = false ∧ Text.isBlank character = true ∨
      character ≠ quote ∧
        (quoted = true ∨ Text.isBlank character = false) := by
  by_cases isQuote : character = quote
  · exact .inl isQuote
  · cases quoted <;> cases Text.isBlank character <;> simp [isQuote]

/-- A quote opens or closes a piece of the word begun, or of a new one. -/
theorem wordsFrom_quote
    (quoted : Bool) (word? : Option (List Char)) (rest : List Char) :
    wordsFrom quoted word? (quote :: rest) =
      wordsFrom (!quoted) (some (word?.getD [])) rest := by
  rw [wordsFrom.eq_def]
  exact if_pos rfl

/-- White space outside quotes ends the word begun, if there is one. -/
theorem wordsFrom_of_ends
    {character : Char} (blank : Text.isBlank character = true)
    (word? : Option (List Char)) (rest : List Char) :
    wordsFrom false word? (character :: rest) =
      (wordsFrom false none rest).map
        (word?.toList.map List.reverse ++ ·) := by
  rw [wordsFrom.eq_def]
  simp only [ne_quote_of_isBlank blank, if_false, blank, Bool.not_false,
    Bool.and_self, if_true]
  cases word? <;> simp

/-- Any other character goes to the word begun, or begins one. -/
theorem wordsFrom_of_part
    {quoted : Bool} {character : Char} (notQuote : character ≠ quote)
    (part : quoted = true ∨ Text.isBlank character = false)
    (word? : Option (List Char)) (rest : List Char) :
    wordsFrom quoted word? (character :: rest) =
      wordsFrom quoted (some (character :: word?.getD [])) rest := by
  have goesOn : ¬ (Text.isBlank character && !quoted) = true := by
    rcases part with rfl | notBlank <;> simp [*]
  rw [wordsFrom.eq_def]
  simp only [notQuote, if_false, goesOn, Bool.false_eq_true]

/-- The words of a line. -/
def words (line : String) : Except Failure (List String) :=
  match wordsFrom false none line.toList with
  | some words => .ok (words.map String.ofList)
  | none => .error (.usage "unterminated quote")

theorem words_eq_ok_iff {line : String} {found : List String} :
    words line = .ok found ↔
      wordsFrom false none line.toList = some (found.map String.toList) := by
  unfold words
  cases wordsFrom false none line.toList with
  | none => simp
  | some list =>
      constructor
      · intro same
        cases same
        simp [Function.comp_def]
      · intro same
        cases same
        simp [Function.comp_def]

theorem words_eq_error_iff {line : String} {failure : Failure} :
    words line = .error failure ↔
      wordsFrom false none line.toList = none ∧
        failure = .usage "unterminated quote" := by
  unfold words
  cases wordsFrom false none line.toList <;> simp [eq_comm]

end BlockWire.Shell
