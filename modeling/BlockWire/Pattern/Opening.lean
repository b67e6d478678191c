import BlockWire.Pattern.Mode
import BlockWire.Text.Alphanumeric

/-!
# Openings of groups

What stands after an opening parenthesis: a name for the group, or flags for
it, or nothing of the kind.  Flags that are followed by a closing parenthesis
are no group; they change the mode for the rest of the group around them.
-/

namespace BlockWire.Pattern

/-- What an opening parenthesis begins. -/
inductive Opening where
  | group (mode : Mode) (name? : Option (List Char))
  | change (mode : Mode)
  deriving DecidableEq, Repr

namespace Opening

/-- Whether a text may be the name of a group. -/
def isName : List Char → Bool
  | [] => false
  | first :: others =>
      (first = '_' || Text.isLetter first) &&
        others.all fun character =>
          ['_', '.', '[', ']'].contains character ||
            Text.isAlphanumeric character

/-- Read the name of a group and the angle after it. -/
def readName (text : List Char) : Option (List Char × List Char) :=
  match text.dropWhile (· ≠ '>') with
  | [] => none
  | _ :: rest =>
      let name := text.takeWhile (· ≠ '>')
      if isName name then some (name, rest) else none

/-- The text after the marks, behind a question mark, that a name comes
next. -/
def afterNameMarks : List Char → Option (List Char)
  | 'P' :: '<' :: rest => some rest
  | '<' :: rest => some rest
  | _ => none

/-- Read what flags after a question mark come to.  A change of the mode has
to have flags. -/
def readChange (mode : Mode) (text : List Char) :
    Option (Opening × List Char) :=
  match Mode.readFlags [] text with
  | none => none
  | some (flags, mark, rest) =>
      if mark = ':' then some (.group (mode.withFlags flags) none, rest)
      else if flags.isEmpty then none
      else some (.change (mode.withFlags flags), rest)

/-- Read what an opening parenthesis begins. -/
def read (mode : Mode) (text : List Char) : Option (Opening × List Char) :=
  match mode.pass text with
  | '?' :: rest =>
      match afterNameMarks rest with
      | some rest =>
          (readName rest).map fun (name, rest) =>
            (.group mode (some name), rest)
      | none => readChange mode rest
  | rest => some (.group mode none, rest)

/-- What follows a name is no longer than the text with it. -/
theorem length_le_of_readName
    {text name rest : List Char}
    (found : readName text = some (name, rest)) :
    rest.length ≤ text.length := by
  have shorter :=
    (List.dropWhile_suffix (l := text) (· ≠ '>')).length_le
  unfold readName at found
  split at found
  · cases found
  · rename_i mark others angle
    rw [angle, List.length_cons] at shorter
    dsimp only at found
    split at found
    · cases found
      omega
    · cases found

/-- What follows the marks of a name is no longer than the text with them. -/
theorem length_le_of_afterNameMarks
    {text rest : List Char} (found : afterNameMarks text = some rest) :
    rest.length ≤ text.length := by
  unfold afterNameMarks at found
  split at found
  all_goals
    first
      | (cases found
         simp only [List.length_cons]
         omega)
      | cases found

/-- What follows flags is no longer than the text with them. -/
theorem length_le_of_readChange
    {mode : Mode} {text rest : List Char} {opening : Opening}
    (found : readChange mode text = some (opening, rest)) :
    rest.length ≤ text.length := by
  unfold readChange at found
  split at found
  · cases found
  · rename_i flags mark others flagged
    have shorter := Mode.length_lt_of_readFlags flagged
    split at found
    · cases found
      exact Nat.le_of_lt shorter
    · split at found
      · cases found
      · cases found
        exact Nat.le_of_lt shorter

/-- What follows an opening is no longer than what follows its
parenthesis. -/
theorem length_le_of_read
    {mode : Mode} {text rest : List Char} {opening : Opening}
    (found : read mode text = some (opening, rest)) :
    rest.length ≤ text.length := by
  have passed := mode.length_pass_le text
  unfold read at found
  split at found
  · rename_i others question
    rw [question, List.length_cons] at passed
    split at found
    · rename_i beyond marks
      have shorter := length_le_of_afterNameMarks marks
      simp only [Option.map_eq_some_iff, Prod.mk.injEq] at found
      obtain ⟨⟨name, left⟩, named, _, rfl⟩ := found
      have ended := length_le_of_readName named
      dsimp only
      omega
    · have ended := length_le_of_readChange found
      omega
  · cases found
    exact passed

end Opening

end BlockWire.Pattern
