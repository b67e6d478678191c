/-!
# Bytes

What travels between a client and the memory server is a finite sequence of
bytes.  This module fixes the type and the two notations that the rest of the
library needs: a byte as two hexadecimal digits, and the text of a whole
number of at most four bytes with its most significant byte first.
-/

namespace BlockWire

/-- A finite sequence of bytes. -/
abbrev Bytes := List UInt8

/-- The hexadecimal digit, in lower case, of a number below sixteen. -/
def hexDigit (value : Nat) : Char :=
  if value < 10 then Char.ofNat (48 + value) else Char.ofNat (87 + value)

/-- A byte as exactly two lower-case hexadecimal digits. -/
def hexPair (byte : UInt8) : String :=
  String.ofList [hexDigit (byte.toNat / 16), hexDigit (byte.toNat % 16)]

/-! ## Four-byte numbers -/

/-- A number below `2 ^ 32` as four bytes, the most significant one first. -/
def bigEndian (value : Nat) : Bytes :=
  [UInt8.ofNat (value / 16777216), UInt8.ofNat (value / 65536),
    UInt8.ofNat (value / 256), UInt8.ofNat value]

/-- The number that four bytes stand for, the most significant one first. -/
def ofBigEndian (first second third fourth : UInt8) : Nat :=
  ((first.toNat * 256 + second.toNat) * 256 + third.toNat) * 256 +
    fourth.toNat

@[simp]
theorem length_bigEndian (value : Nat) : (bigEndian value).length = 4 := rfl

/-- Four bytes hold every number below `2 ^ 32` without loss. -/
theorem ofBigEndian_bigEndian
    (value : Nat) (fits : value < 4294967296) :
    ofBigEndian (UInt8.ofNat (value / 16777216))
      (UInt8.ofNat (value / 65536)) (UInt8.ofNat (value / 256))
      (UInt8.ofNat value) = value := by
  simp only [ofBigEndian, UInt8.toNat_ofNat']
  omega

/-- Four bytes stand for a number below `2 ^ 32`. -/
theorem ofBigEndian_lt (first second third fourth : UInt8) :
    ofBigEndian first second third fourth < 4294967296 := by
  have firstSmall := first.toNat_lt
  have secondSmall := second.toNat_lt
  have thirdSmall := third.toNat_lt
  have fourthSmall := fourth.toNat_lt
  simp only [ofBigEndian]
  omega

/-- Different bytes stand for different numbers: writing the number again
gives the same four bytes. -/
theorem bigEndian_ofBigEndian (first second third fourth : UInt8) :
    bigEndian (ofBigEndian first second third fourth) =
      [first, second, third, fourth] := by
  have firstSmall := first.toNat_lt
  have secondSmall := second.toNat_lt
  have thirdSmall := third.toNat_lt
  have fourthSmall := fourth.toNat_lt
  simp only [bigEndian, ofBigEndian, List.cons.injEq, and_true]
  refine ⟨?_, ?_, ?_, ?_⟩ <;>
    · apply UInt8.toNat_inj.mp
      simp only [UInt8.toNat_ofNat']
      omega

end BlockWire
