/-!
# Ranges of characters

Properties of characters are given as ranges of code points, both ends
included.
-/

namespace BlockWire.Text

/-- Whether a character lies in one of the ranges. -/
def inRanges (ranges : List (Nat × Nat)) (character : Char) : Bool :=
  ranges.any fun (first, last) =>
    first ≤ character.toNat && character.toNat ≤ last

end BlockWire.Text
