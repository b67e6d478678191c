import BlockWire.Text.Range

/-!
# Blank characters

The characters with the Unicode property White_Space.  They separate the
words of a command line, and a line that holds nothing else counts as empty.
-/

namespace BlockWire.Text

/-- The ranges of code points with the property White_Space. -/
def blankRanges : List (Nat × Nat) :=
  [(0x09, 0x0D), (0x20, 0x20), (0x85, 0x85), (0xA0, 0xA0),
    (0x1680, 0x1680), (0x2000, 0x200A), (0x2028, 0x2029),
    (0x202F, 0x202F), (0x205F, 0x205F), (0x3000, 0x3000)]

/-- Whether a character is white space. -/
def isBlank (character : Char) : Bool :=
  inRanges blankRanges character

/-- Whether a text consists of white space only. -/
def isBlankLine (text : String) : Bool :=
  text.toList.all isBlank

end BlockWire.Text
