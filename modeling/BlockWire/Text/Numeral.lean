/-!
# Numerals

How a number is written when it may have a sign, a fraction and a power of
ten: `-1.5e3`, `+7`, `.5`, `2.`.  Infinity and what is not a number have names
in place of digits.
-/

namespace BlockWire.Text

/-- The rest of a text after a sign, which may be left out. -/
def afterSign : List Char → List Char
  | '+' :: rest => rest
  | '-' :: rest => rest
  | text => text

/-- The names that stand in place of digits, in lower case. -/
def numeralNames : List (List Char) :=
  ["inf".toList, "infinity".toList, "nan".toList]

/-- Whether a text is nothing, or a power of ten after the letter for it. -/
def isPower : List Char → Bool
  | [] => true
  | letter :: rest =>
      letter.toLower = 'e' && !(afterSign rest).isEmpty &&
        (afterSign rest).all Char.isDigit

/-- Whether a text is digits with a point among them, or at one end of them,
or no point at all; a power may follow. -/
def isPlainNumeral (text : List Char) : Bool :=
  match text.dropWhile Char.isDigit with
  | '.' :: rest =>
      ((text.head?.any Char.isDigit) || (rest.head?.any Char.isDigit)) &&
        isPower (rest.dropWhile Char.isDigit)
  | rest => (text.head?.any Char.isDigit) && isPower rest

/-- Whether a text is a numeral. -/
def isNumeral (text : String) : Bool :=
  let size := afterSign text.toList
  numeralNames.contains (size.map Char.toLower) || isPlainNumeral size

end BlockWire.Text
