/-!
# Decimal numbers

Numbers without a sign as people write them: decimal digits, as many zeros in
front as they like, and a plus sign that may be left out.
-/

namespace BlockWire.Text

/-- The number that a non-empty sequence of decimal digits stands for. -/
def number? (digits : List Char) : Option Nat :=
  if digits.isEmpty || !digits.all Char.isDigit then none
  else some (digits.foldl (fun value digit =>
    value * 10 + (digit.toNat - '0'.toNat)) 0)

/-- The digits of a number after a plus sign that may be left out. -/
def afterPlus : List Char → List Char
  | '+' :: digits => digits
  | digits => digits

/-- The number below a limit that a text stands for. -/
def numberBelow? (limit : Nat) (text : String) : Option Nat :=
  match number? (afterPlus text.toList) with
  | some value => if value < limit then some value else none
  | none => none

/-- How many numbers 64 bits can tell apart. -/
def limit64 : Nat := 18446744073709551616

end BlockWire.Text
