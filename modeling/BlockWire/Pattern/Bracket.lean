import BlockWire.Pattern.Atom
import BlockWire.Pattern.Nesting

/-!
# Classes of characters

A class of characters stands between brackets.  Its members are characters,
ranges of them, sets with a name and further classes; doubled marks between
members join two classes to one.  A caret at the beginning turns a class into
its opposite, and hyphens at the beginning, or a closing bracket that would
leave the class empty, are members.
-/

namespace BlockWire.Pattern

/-- A class in the course of being read. -/
structure Bracket where
  /-- Whether there was nothing yet that is not a hyphen. -/
  isFresh : Bool := true
  /-- The depth of what stands before the last operator. -/
  left? : Option Nat := none
  /-- The members since then. -/
  members : Tally := {}
  deriving DecidableEq, Repr

namespace Bracket

/-- One more member. -/
def add (bracket : Bracket) (depth : Nat) : Bracket :=
  { bracket with isFresh := false, members := bracket.members.add depth }

/-- The depth of what is between the brackets. -/
def depth (bracket : Bracket) : Nat :=
  match bracket.left? with
  | none => bracket.members.depth
  | some left => max left bracket.members.depth + 1

/-- What stands before an operator is its left side. -/
def operate (bracket : Bracket) : Bracket :=
  { isFresh := false, left? := some bracket.depth }

/-! ## Members -/

/-- The sets that have a name. -/
def setNames : List (List Char) :=
  ["alnum".toList, "alpha".toList, "ascii".toList, "blank".toList,
    "cntrl".toList, "digit".toList, "graph".toList, "lower".toList,
    "print".toList, "punct".toList, "space".toList, "upper".toList,
    "word".toList, "xdigit".toList]

/-- Read the name of a set and the colon and bracket after it. -/
def readSetName (text : List Char) : Option (List Char) :=
  match text.dropWhile (· ≠ ':') with
  | ':' :: ']' :: rest =>
      if setNames.contains (text.takeWhile (· ≠ ':')) then some rest
      else none
  | _ => none

/-- Read a set with a name after its opening bracket, or, after a caret, all
but that set. -/
def readSet : List Char → Option (Bool × List Char)
  | ':' :: '^' :: rest => (readSetName rest).map fun rest => (true, rest)
  | ':' :: rest => (readSetName rest).map fun rest => (false, rest)
  | _ => none

/-- Whether a set with a name, or all but that set, means anything. -/
def isMeaningfulSet (mode : Mode) (negated : Bool) : Bool :=
  if mode.bytewise then !negated else !mode.caseless

/-- Read the end of a range after the hyphen.  It may not come before the
beginning. -/
def readRangeEnd (mode : Mode) (first : Atom) :
    List Char → Option (List Char)
  | [] => none
  | mark :: rest =>
      match Atom.read mode true mark rest with
      | none => none
      | some (last, rest) =>
          match first.member? mode, last.member? mode with
          | some low, some high => if low ≤ high then some rest else none
          | _, _ => none

/-- Read a character or a range.  A hyphen makes a range unless a bracket or a
hyphen comes after it. -/
def readMember (mode : Mode) (mark : Char) (rest : List Char) :
    Option (List Char) :=
  match Atom.read mode true mark rest with
  | none => none
  | some (first, rest) =>
      match mode.pass rest with
      | '-' :: others =>
          if mode.glimpse others = some ']' ∨
              mode.glimpse others = some '-' then
            if first.mayJoin mode then some ('-' :: others) else none
          else readRangeEnd mode first (mode.pass others)
      | others => if first.mayJoin mode then some others else none

/-- What follows the name of a set is shorter than the text with it. -/
theorem length_le_of_readSetName
    {text rest : List Char} (read : readSetName text = some rest) :
    rest.length ≤ text.length := by
  have shorter :=
    (List.dropWhile_suffix (l := text) (· ≠ ':')).length_le
  unfold readSetName at read
  split at read
  · rename_i others found
    rw [found] at shorter
    split at read
    · cases read
      simp only [List.length_cons] at shorter
      omega
    · cases read
  · cases read

/-- What follows a set with a name is no longer than the text with it. -/
theorem length_le_of_readSet
    {text rest : List Char} {negated : Bool}
    (read : readSet text = some (negated, rest)) :
    rest.length ≤ text.length := by
  unfold readSet at read
  split at read
  all_goals
    first
      | (simp only [Option.map_eq_some_iff, Prod.mk.injEq] at read
         obtain ⟨others, name, _, rfl⟩ := read
         have shorter := length_le_of_readSetName name
         simp only [List.length_cons]
         omega)
      | cases read

/-- What follows the end of a range is no longer than the text with it. -/
theorem length_le_of_readRangeEnd
    {mode : Mode} {first : Atom} {text rest : List Char}
    (read : readRangeEnd mode first text = some rest) :
    rest.length ≤ text.length := by
  cases text with
  | nil => cases read
  | cons mark others =>
      simp only [readRangeEnd] at read
      split at read
      · cases read
      · rename_i last after atom
        have shorter := Atom.length_le_of_read atom
        split at read
        · split at read
          · cases read
            simp only [List.length_cons]
            omega
          · cases read
        · cases read

/-- What follows a member is no longer than what follows its first
character. -/
theorem length_le_of_readMember
    {mode : Mode} {mark : Char} {rest after : List Char}
    (read : readMember mode mark rest = some after) :
    after.length ≤ rest.length := by
  unfold readMember at read
  split at read
  · cases read
  · rename_i first others atom
    have shorter := Atom.length_le_of_read atom
    have passed := mode.length_pass_le others
    split at read
    · rename_i beyond hyphen
      rw [hyphen, List.length_cons] at passed
      split at read
      · split at read
        · cases read
          simp only [List.length_cons]
          omega
        · cases read
      · have ended := length_le_of_readRangeEnd read
        have further := mode.length_pass_le beyond
        omega
    · split at read
      · cases read
        omega
      · cases read

/-! ## Classes -/

/-- Read the beginning of a class after its bracket.  By byte, a class has no
opposite. -/
def readStart (mode : Mode) (text : List Char) : Option (List Char) :=
  match mode.pass text with
  | '^' :: rest => if mode.bytewise then none else some rest
  | rest => some rest

/-- What follows the beginning of a class is no longer than the text. -/
theorem length_le_of_readStart
    {mode : Mode} {text rest : List Char}
    (read : readStart mode text = some rest) :
    rest.length ≤ text.length := by
  have passed := mode.length_pass_le text
  unfold readStart at read
  split at read
  · rename_i others caret
    rw [caret, List.length_cons] at passed
    split at read
    · cases read
    · cases read
      omega
  · cases read
    exact passed

/-- Where the reading of a class stands. -/
inductive Progress where
  /-- In a class, and in those around it. -/
  | inside (inner : Bracket) (outer : List Bracket)
  /-- After the last bracket, with the depth of the class. -/
  | closed (depth : Nat)
  deriving DecidableEq, Repr

/-- Close the innermost class. -/
def close (inner : Bracket) : (outer : List Bracket) → Progress
  | [] => .closed (inner.depth + 1)
  | enclosing :: outer => .inside (enclosing.add (inner.depth + 1)) outer

/-- The marks that are operators between classes when they are doubled. -/
def operatorMarks : List Char := ['&', '-', '~']

/-- Read one piece of a class, of which there is the first character. -/
def step (mode : Mode) (inner : Bracket) (outer : List Bracket)
    (mark : Char) (rest : List Char) : Option (Progress × List Char) :=
  if inner.isFresh ∧ mark = '-' then
    if (Atom.letter mark).mayJoin mode then
      some (.inside { inner.add 0 with isFresh := true } outer, rest)
    else none
  else if inner.isFresh ∧ inner.members.count = 0 ∧ mark = ']' then
    if (Atom.letter mark).mayJoin mode then
      some (.inside (inner.add 0) outer, rest)
    else none
  else if mark = ']' then some (close inner outer, rest)
  else if mark = '[' then
    match readSet rest with
    | some (negated, rest) =>
        if isMeaningfulSet mode negated then
          some (.inside (inner.add 0) outer, rest)
        else none
    | none =>
        (readStart mode rest).map fun rest =>
          (.inside {} (inner :: outer), rest)
  else if operatorMarks.contains mark ∧ rest.head? = some mark then
    some (.inside inner.operate outer, rest.drop 1)
  else
    (readMember mode mark rest).map fun rest =>
      (.inside (inner.add 0) outer, rest)

/-- What follows a piece of a class is no longer than what follows its first
character. -/
theorem length_le_of_step
    {mode : Mode} {inner : Bracket} {outer : List Bracket} {mark : Char}
    {rest after : List Char} {progress : Progress}
    (stepped : step mode inner outer mark rest = some (progress, after)) :
    after.length ≤ rest.length := by
  unfold step at stepped
  split at stepped
  · split at stepped
    · cases stepped
      exact Nat.le_refl _
    · cases stepped
  · split at stepped
    · split at stepped
      · cases stepped
        exact Nat.le_refl _
      · cases stepped
    · split at stepped
      · cases stepped
        exact Nat.le_refl _
      · split at stepped
        · split at stepped
          · rename_i negated others found
            split at stepped
            · cases stepped
              exact length_le_of_readSet found
            · cases stepped
          · simp only [Option.map_eq_some_iff, Prod.mk.injEq] at stepped
            obtain ⟨others, started, _, rfl⟩ := stepped
            exact length_le_of_readStart started
        · split at stepped
          · cases stepped
            simp
          · simp only [Option.map_eq_some_iff, Prod.mk.injEq] at stepped
            obtain ⟨others, member, _, rfl⟩ := stepped
            exact length_le_of_readMember member

/-- Read what is left of a class, and give its depth. -/
def readRest (mode : Mode) (inner : Bracket) (outer : List Bracket)
    (text : List Char) : Option (Nat × List Char) :=
  match passed : mode.pass text with
  | [] => none
  | mark :: rest =>
      have shortened : rest.length < text.length := by
        have shorter := mode.length_pass_le text
        rw [passed, List.length_cons] at shorter
        exact shorter
      match stepped : step mode inner outer mark rest with
      | none => none
      | some (.closed depth, after) => some (depth, after)
      | some (.inside inner outer, after) =>
          have shorter := length_le_of_step stepped
          readRest mode inner outer after
termination_by text.length
decreasing_by exact Nat.lt_of_le_of_lt shorter shortened

/-- What follows a class is shorter than the text with it. -/
theorem length_lt_of_readRest
    {mode : Mode} {inner : Bracket} {outer : List Bracket}
    {text after : List Char} {depth : Nat}
    (read : readRest mode inner outer text = some (depth, after)) :
    after.length < text.length := by
  fun_induction readRest mode inner outer text with
  | case1 => cases read
  | case2 => cases read
  | case3 inner outer text mark rest passed shortened depth left stepped =>
      cases read
      exact Nat.lt_of_le_of_lt (length_le_of_step stepped) shortened
  | case4 inner outer text mark rest passed shortened inner' outer' left
      stepped shorter ih =>
      have ended := ih read
      omega

/-- Read a class after its bracket, and give its depth. -/
def read (mode : Mode) (text : List Char) : Option (Nat × List Char) :=
  match readStart mode text with
  | none => none
  | some rest => readRest mode {} [] rest

/-- What follows a class is shorter than the text after its bracket. -/
theorem length_lt_of_read
    {mode : Mode} {text after : List Char} {depth : Nat}
    (found : read mode text = some (depth, after)) :
    after.length < text.length := by
  unfold read at found
  split at found
  · cases found
  · rename_i rest started
    have shorter := length_le_of_readStart started
    have ended := length_lt_of_readRest found
    omega

end Bracket

end BlockWire.Pattern
