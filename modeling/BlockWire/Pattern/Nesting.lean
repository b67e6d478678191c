/-!
# Nesting of a pattern

How deep the parts of a pattern stand in each other.  An atom has no depth; a
group, a repetition or a class of characters is one deeper than what it holds,
and so are parts in a row, or alternatives, if there are several of them.
-/

namespace BlockWire.Pattern

/-- Parts that stand in a row. -/
structure Tally where
  count : Nat := 0
  deepest : Nat := 0
  deriving DecidableEq, Repr

namespace Tally

/-- One more part. -/
def add (tally : Tally) (depth : Nat) : Tally :=
  { count := tally.count + 1, deepest := max tally.deepest depth }

/-- The depth of all parts together: a single part stands for itself. -/
def depth (tally : Tally) : Nat :=
  if tally.count ≤ 1 then tally.deepest else tally.deepest + 1

end Tally

end BlockWire.Pattern
