import BlockWire.Text.Blank

/-!
# Modes of a pattern

A pattern is a regular expression.  Flags at the beginning of a group, or
between parentheses of their own, change how the pattern is read from there:
whether the case of letters counts, whether texts are looked at by character
or by byte, and whether blanks and comments in the pattern mean anything.
-/

namespace BlockWire.Pattern

/-- How a stretch of a pattern is read. -/
structure Mode where
  /-- The case of letters makes no difference. -/
  caseless : Bool := false
  /-- Texts are looked at by byte and not by character. -/
  bytewise : Bool := false
  /-- Blanks and comments in the pattern are passed over. -/
  loose : Bool := false
  deriving DecidableEq, Repr

/-- The text after blanks and comments.  A comment begins with a number sign
and ends with its line. -/
def afterBlanks : (inComment : Bool) → List Char → List Char
  | _, [] => []
  | true, character :: rest => afterBlanks (character ≠ '\n') rest
  | false, character :: rest =>
      if Text.isBlank character then afterBlanks false rest
      else if character = '#' then afterBlanks true rest
      else character :: rest

/-- Passing over blanks lengthens nothing. -/
theorem length_afterBlanks_le (inComment : Bool) (text : List Char) :
    (afterBlanks inComment text).length ≤ text.length := by
  induction text generalizing inComment with
  | nil => cases inComment <;> simp [afterBlanks]
  | cons character rest ih =>
      cases inComment with
      | true =>
          simpa [afterBlanks] using Nat.le_succ_of_le (ih _)
      | false =>
          unfold afterBlanks
          split
          · simpa using Nat.le_succ_of_le (ih _)
          · split
            · simpa using Nat.le_succ_of_le (ih _)
            · simp

namespace Mode

/-- The text after what a mode passes over. -/
def pass (mode : Mode) (text : List Char) : List Char :=
  if mode.loose then afterBlanks false text else text

/-- Passing over blanks lengthens nothing, whatever the mode. -/
theorem length_pass_le (mode : Mode) (text : List Char) :
    (mode.pass text).length ≤ text.length := by
  unfold pass
  split
  · exact length_afterBlanks_le false text
  · exact Nat.le_refl _

/-- The character that comes next, as far as a hyphen is concerned: a loose
mode looks past blanks, and past the sign that begins a comment, yet not past
the comment. -/
def glimpse (mode : Mode) (text : List Char) : Option Char :=
  if mode.loose then
    match text.dropWhile Text.isBlank with
    | '#' :: comment => (comment.dropWhile Text.isBlank).head?
    | rest => rest.head?
  else text.head?

/-! ## Flags -/

/-- The flags that there are, and the hyphen before flags to take away. -/
def flagMarks : List Char :=
  ['i', 'm', 's', 'U', 'u', 'R', 'x', '-']

/-- Read flags up to the mark that ends them, a colon or a parenthesis.  None
may come twice, and a hyphen has to have a flag after it.  The flags seen so
far are given from the last to the first. -/
def readFlags (seen : List Char) :
    List Char → Option (List Char × Char × List Char)
  | [] => none
  | mark :: rest =>
      if mark = ':' || mark = ')' then
        if seen.head? = some '-' then none
        else some (seen.reverse, mark, rest)
      else if flagMarks.contains mark && !seen.contains mark then
        readFlags (mark :: seen) rest
      else none

/-- What follows the flags is shorter than the text with them. -/
theorem length_lt_of_readFlags
    {seen text flags rest : List Char} {mark : Char}
    (read : readFlags seen text = some (flags, mark, rest)) :
    rest.length < text.length := by
  induction text generalizing seen with
  | nil => simp [readFlags] at read
  | cons first others ih =>
      unfold readFlags at read
      split at read
      · split at read
        · cases read
        · cases read
          simp
      · split at read
        · exact Nat.lt_succ_of_lt (ih read)
        · cases read

/-- Whether a property holds after flags: one of them grants it, one after
the hyphen takes it away. -/
def flagged (flags : List Char) (flag : Char) (before : Bool) : Bool :=
  if (flags.takeWhile (· ≠ '-')).contains flag then true
  else if flags.contains flag then false
  else before

/-- The mode after flags.  The other flags change what a pattern matches, and
not whether it is well formed. -/
def withFlags (mode : Mode) (flags : List Char) : Mode :=
  { caseless := flagged flags 'i' mode.caseless
    bytewise := !flagged flags 'u' (!mode.bytewise)
    loose := flagged flags 'x' mode.loose }

end Mode

end BlockWire.Pattern
