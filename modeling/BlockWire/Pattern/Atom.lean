import BlockWire.Pattern.Mode

/-!
# Atoms of a pattern

An atom is the smallest piece of a pattern: a character that stands for
itself, a place in the text, or one of a set of characters.  Escapes begin
with a backslash.  Which atoms mean anything depends on the mode, because
there are no tables here of the letters, digits and cases of all scripts:

* by character, the case of letters has to count, and neither the short names
  of sets nor the edges of words exist;
* by byte, no atom may match a part of a character.
-/

namespace BlockWire.Pattern

/-- The smallest piece of a pattern. -/
inductive Atom where
  /-- A character that stands for itself. -/
  | letter (character : Char)
  /-- A character given by the two digits of its code, by byte a byte. -/
  | code (character : Char)
  /-- Any character but the end of a line. -/
  | anything
  /-- A set with a short name, digits for instance, or all but that set. -/
  | shorthand (negated : Bool)
  /-- The beginning or the end of a line or of the text. -/
  | edge
  /-- The beginning or the end of a word, or no such place. -/
  | wordEdge
  deriving DecidableEq, Repr

namespace Atom

/-- Whether a character is one byte long. -/
def isSingleByte (character : Char) : Bool := character.toNat < 0x80

/-- Whether a character with a code may be asked for in a mode. -/
def isAvailable (mode : Mode) (character : Char) : Bool :=
  if mode.bytewise then isSingleByte character else !mode.caseless

/-- Whether an atom means anything in a mode. -/
def isMeaningful (mode : Mode) : Atom → Bool
  | .letter _ => mode.bytewise || !mode.caseless
  | .code character => isAvailable mode character
  | .anything => !mode.bytewise
  | .shorthand negated => mode.bytewise && !negated
  | .edge => true
  | .wordEdge => mode.bytewise

/-- The character that an atom puts into a class of characters.  By byte, all
of them are one byte long. -/
def member? (mode : Mode) : Atom → Option Char
  | .letter character | .code character =>
      if isAvailable mode character then some character else none
  | _ => none

/-- Whether an atom may stand in a class of characters. -/
def mayJoin (mode : Mode) : Atom → Bool
  | .shorthand negated => isMeaningful mode (.shorthand negated)
  | atom => (atom.member? mode).isSome

/-! ## Escapes -/

/-- The value of a hexadecimal digit. -/
def digit? (character : Char) : Option Nat :=
  if '0' ≤ character ∧ character ≤ '9' then
    some (character.toNat - '0'.toNat)
  else if 'a' ≤ character ∧ character ≤ 'f' then
    some (character.toNat - 'a'.toNat + 10)
  else if 'A' ≤ character ∧ character ≤ 'F' then
    some (character.toNat - 'A'.toNat + 10)
  else none

/-- Read as many hexadecimal digits as are missing from a number. -/
def readDigits (mode : Mode) (value : Nat) :
    (missing : Nat) → List Char → Option (Nat × List Char)
  | 0, text => some (value, text)
  | _ + 1, [] => none
  | missing + 1, character :: rest =>
      match digit? character with
      | none => none
      | some digit =>
          readDigits mode (value * 16 + digit) missing (mode.pass rest)

/-- Reading digits lengthens nothing. -/
theorem length_le_of_readDigits
    {mode : Mode} {value missing result : Nat} {text rest : List Char}
    (read : readDigits mode value missing text = some (result, rest)) :
    rest.length ≤ text.length := by
  induction missing generalizing value text with
  | zero =>
      simp only [readDigits, Option.some.injEq, Prod.mk.injEq] at read
      exact Nat.le_of_eq (congrArg List.length read.2.symm)
  | succ missing ih =>
      cases text with
      | nil => simp [readDigits] at read
      | cons character others =>
          unfold readDigits at read
          split at read
          · cases read
          · have shorter := ih read
            have passed := mode.length_pass_le others
            simp only [List.length_cons]
            omega

/-- Read the code of a character. -/
def readCode (mode : Mode) (count : Nat) (text : List Char) :
    Option (Char × List Char) :=
  match readDigits mode 0 count (mode.pass text) with
  | none => none
  | some (value, rest) =>
      if value.isValidChar then some (Char.ofNat value, rest) else none

/-- Reading a code lengthens nothing. -/
theorem length_le_of_readCode
    {mode : Mode} {count : Nat} {text rest : List Char} {character : Char}
    (read : readCode mode count text = some (character, rest)) :
    rest.length ≤ text.length := by
  have passed := mode.length_pass_le text
  unfold readCode at read
  split at read
  · cases read
  · rename_i value others digits
    have shorter := length_le_of_readDigits digits
    split at read
    · cases read
      omega
    · cases read

/-- The atoms whose escapes are a single letter, or an angle. -/
def named? : Char → Option Atom
  | 'd' | 's' | 'w' => some (.shorthand false)
  | 'D' | 'S' | 'W' => some (.shorthand true)
  | 'A' | 'z' => some .edge
  | 'b' | 'B' | '<' | '>' => some .wordEdge
  | 'a' => some (.letter '\x07')
  | 't' => some (.letter '\t')
  | 'n' => some (.letter '\n')
  | 'v' => some (.letter '\x0b')
  | 'f' => some (.letter '\x0c')
  | 'r' => some (.letter '\r')
  | _ => none

/-- How many digits follow the letters that begin the code of a character. -/
def codeLength? : Char → Option Nat
  | 'x' => some 2
  | 'u' => some 4
  | 'U' => some 8
  | _ => none

/-- Read an escape after its backslash.  Any character that is neither a
letter nor a digit may be escaped, if it is one byte long. -/
def readEscape (mode : Mode) : List Char → Option (Atom × List Char)
  | [] => none
  | mark :: rest =>
      match codeLength? mark with
      | some count =>
          (readCode mode count rest).map fun (character, rest) =>
            (if mark = 'x' then .code character else .letter character, rest)
      | none =>
          match named? mark with
          | some atom => some (atom, rest)
          | none =>
              if isSingleByte mark && !mark.isAlphanum then
                some (.letter mark, rest)
              else none

/-- What follows an escape is shorter than the text with it. -/
theorem length_lt_of_readEscape
    {mode : Mode} {text rest : List Char} {atom : Atom}
    (read : readEscape mode text = some (atom, rest)) :
    rest.length < text.length := by
  cases text with
  | nil => cases read
  | cons mark others =>
      simp only [List.length_cons, Nat.lt_succ_iff]
      simp only [readEscape] at read
      split at read
      · simp only [Option.map_eq_some_iff, Prod.mk.injEq] at read
        obtain ⟨⟨character, left⟩, code, _, rfl⟩ := read
        exact length_le_of_readCode code
      · split at read
        · cases read
          exact Nat.le_refl _
        · split at read
          · cases read
            exact Nat.le_refl _
          · cases read

/-- Read an atom, of which there is the first character.  In a class only the
backslash is special. -/
def read (mode : Mode) (inClass : Bool) (mark : Char) (rest : List Char) :
    Option (Atom × List Char) :=
  if mark = '\\' then readEscape mode rest
  else if !inClass && mark = '.' then some (.anything, rest)
  else if !inClass && (mark = '^' || mark = '$') then some (.edge, rest)
  else some (.letter mark, rest)

/-- What follows an atom is no longer than what follows its first
character. -/
theorem length_le_of_read
    {mode : Mode} {inClass : Bool} {mark : Char} {rest after : List Char}
    {atom : Atom}
    (found : read mode inClass mark rest = some (atom, after)) :
    after.length ≤ rest.length := by
  unfold read at found
  split at found
  · exact Nat.le_of_lt (length_lt_of_readEscape found)
  · split at found
    · cases found
      exact Nat.le_refl _
    · split at found
      · cases found
        exact Nat.le_refl _
      · cases found
        exact Nat.le_refl _

end Atom

end BlockWire.Pattern
