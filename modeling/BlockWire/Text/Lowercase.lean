import BlockWire.Text.LetterCase
import BlockWire.Text.Range

/-!
# Lower case

The lower-case form of a text by the full rules of Unicode.  Two characters
do not simply follow the table: a dotted capital I becomes two characters,
and a capital sigma becomes a final sigma where it ends a word, that is where
a cased letter stands before it and none after it, case-ignorable characters
left out of account.
-/

namespace BlockWire.Text

/-- Whether the first character that is not case-ignorable is a cased one. -/
def startsCased (characters : List Char) : Bool :=
  match characters.dropWhile (inRanges caseIgnorableRanges) with
  | [] => false
  | character :: _ => inRanges casedRanges character

/-- The lower-case form of a character by the table. -/
def lowerByTable (character : Char) : Char :=
  match lowerCaseRuns.findSome? (·.lower? character.toNat) with
  | some code => Char.ofNat code
  | none => character

/-- The lower-case form of a character between `earlier`, the characters
before it from the nearest to the farthest, and `later`, those after it. -/
def lowerWithin (earlier : List Char) (character : Char)
    (later : List Char) : List Char :=
  if character = '\u0130' then ['i', '\u0307']
  else if character = 'Σ' then
    [if startsCased earlier && !startsCased later then 'ς' else 'σ']
  else [lowerByTable character]

/-- The lower-case form of the characters after `earlier`. -/
def lowerFrom (earlier : List Char) : List Char → List Char
  | [] => []
  | character :: later =>
      lowerWithin earlier character later ++
        lowerFrom (character :: earlier) later

/-- The lower-case form of a text. -/
def lowercase (text : String) : String :=
  String.ofList (lowerFrom [] text.toList)

end BlockWire.Text
