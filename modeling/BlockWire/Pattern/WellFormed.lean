import BlockWire.Pattern.Bracket
import BlockWire.Pattern.Opening

/-!
# Well-formed patterns

A pattern is read once from left to right.  What is open at a place, and how
deep the finished parts are, is all that the rest depends on, so no tree is
built.  A pattern is well formed if it can be read to its end, everything that
was opened was closed, and it is not too deep.

A brace would begin a repetition with numbers.  Where patterns stand in this
library a closing brace ends them, so no such repetition can be finished, and
the opening brace alone makes a pattern malformed.
-/

namespace BlockWire.Pattern

/-- A group in the course of being read, or the pattern itself. -/
structure Scope where
  mode : Mode := {}
  /-- The parts since the last bar. -/
  parts : Tally := {}
  /-- The depth of the last part, if there is one that may be repeated. -/
  last? : Option Nat := none
  /-- The alternatives before the last bar. -/
  alternatives : Tally := {}
  deriving DecidableEq, Repr

namespace Scope

/-- One more part. -/
def add (scope : Scope) (depth : Nat) : Scope :=
  { scope with parts := scope.parts.add depth, last? := some depth }

/-- A change of the mode is a part, but there is nothing to repeat. -/
def change (scope : Scope) (mode : Mode) : Scope :=
  { scope with mode, parts := scope.parts.add 0, last? := none }

/-- A bar ends an alternative. -/
def bar (scope : Scope) : Scope :=
  { scope with
    parts := {}
    last? := none
    alternatives := scope.alternatives.add scope.parts.depth }

/-- Repeat the last part, of which the depth is given. -/
def repeatLast (scope : Scope) (depth : Nat) : Scope :=
  { scope with
    parts :=
      { scope.parts with deepest := max scope.parts.deepest (depth + 1) }
    last? := some (depth + 1) }

/-- The depth of what was read. -/
def depth (scope : Scope) : Nat :=
  (scope.alternatives.add scope.parts.depth).depth

end Scope

/-- What is known of a pattern at a place. -/
structure Reading where
  scope : Scope := {}
  /-- The groups around it, from the inside to the outside. -/
  outer : List Scope := []
  names : List (List Char) := []
  deriving DecidableEq, Repr

namespace Reading

/-- One more part of the innermost group. -/
def add (reading : Reading) (depth : Nat) : Reading :=
  { reading with scope := reading.scope.add depth }

/-- Open a group, or change the mode.  No two groups have the same name. -/
def open? (reading : Reading) : Opening → Option Reading
  | .change mode =>
      some { reading with scope := reading.scope.change mode }
  | .group mode name? =>
      if name?.any reading.names.contains then none
      else
        some
          { scope := { mode }
            outer := reading.scope :: reading.outer
            names := name?.toList ++ reading.names }

/-- Close the innermost group. -/
def close? (reading : Reading) : Option Reading :=
  match reading.outer with
  | [] => none
  | enclosing :: outer =>
      some
        { reading with
          scope := enclosing.add (reading.scope.depth + 1)
          outer }

/-- The marks that repeat what is before them. -/
def repetitionMarks : List Char := ['?', '*', '+']

/-- Read one piece of a pattern, of which there is the first character.  A
question mark right after a repetition belongs to it. -/
def step (reading : Reading) (mark : Char) (rest : List Char) :
    Option (Reading × List Char) :=
  if mark = '(' then
    match Opening.read reading.scope.mode rest with
    | none => none
    | some (opening, rest) => (reading.open? opening).map (·, rest)
  else if mark = ')' then reading.close?.map (·, rest)
  else if mark = '|' then
    some ({ reading with scope := reading.scope.bar }, rest)
  else if mark = '[' then
    (Bracket.read reading.scope.mode rest).map fun (depth, rest) =>
      (reading.add depth, rest)
  else if repetitionMarks.contains mark then
    reading.scope.last?.map fun depth =>
      ({ reading with scope := reading.scope.repeatLast depth },
        if rest.head? = some '?' then rest.drop 1 else rest)
  else if mark = '\x7b' then none
  else
    match Atom.read reading.scope.mode false mark rest with
    | none => none
    | some (atom, rest) =>
        if atom.isMeaningful reading.scope.mode then
          some (reading.add 0, rest)
        else none

/-- What follows a piece of a pattern is no longer than what follows its first
character. -/
theorem length_le_of_step
    {reading next : Reading} {mark : Char} {rest after : List Char}
    (stepped : reading.step mark rest = some (next, after)) :
    after.length ≤ rest.length := by
  unfold step at stepped
  split at stepped
  · split at stepped
    · cases stepped
    · rename_i opening others opened
      simp only [Option.map_eq_some_iff, Prod.mk.injEq] at stepped
      obtain ⟨_, _, _, rfl⟩ := stepped
      exact Opening.length_le_of_read opened
  · split at stepped
    · simp only [Option.map_eq_some_iff, Prod.mk.injEq] at stepped
      obtain ⟨_, _, _, rfl⟩ := stepped
      exact Nat.le_refl _
    · split at stepped
      · cases stepped
        exact Nat.le_refl _
      · split at stepped
        · simp only [Option.map_eq_some_iff, Prod.mk.injEq] at stepped
          obtain ⟨⟨depth, others⟩, read, _, rfl⟩ := stepped
          exact Nat.le_of_lt (Bracket.length_lt_of_read read)
        · split at stepped
          · simp only [Option.map_eq_some_iff, Prod.mk.injEq] at stepped
            obtain ⟨_, _, _, rfl⟩ := stepped
            split <;> simp
          · split at stepped
            · cases stepped
            · split at stepped
              · cases stepped
              · rename_i atom others read
                split at stepped
                · cases stepped
                  exact Atom.length_le_of_read read
                · cases stepped

/-- Read what is left of a pattern, and give the depth of all of it. -/
def readRest (reading : Reading) (text : List Char) : Option Nat :=
  match passed : reading.scope.mode.pass text with
  | [] => if reading.outer.isEmpty then some reading.scope.depth else none
  | mark :: rest =>
      have shortened : rest.length < text.length := by
        have shorter := reading.scope.mode.length_pass_le text
        rw [passed, List.length_cons] at shorter
        exact shorter
      match stepped : reading.step mark rest with
      | none => none
      | some (next, after) =>
          have shorter := length_le_of_step stepped
          readRest next after
termination_by text.length
decreasing_by exact Nat.lt_of_le_of_lt shorter shortened

end Reading

/-- The depth of a pattern, if it can be read to its end. -/
def depth? (text : String) : Option Nat :=
  Reading.readRest {} text.toList

/-- The greatest depth that a pattern may have. -/
def depthLimit : Nat := 250

/-- Whether a text is a well-formed pattern. -/
def isWellFormed (text : String) : Bool :=
  (depth? text).any (· ≤ depthLimit)

end BlockWire.Pattern
