import BlockWire.Text.Utf8
import BlockWire.Wire.Payload

/-!
# Reading back what was written

The lossy reading of bytes gives back every text that was written as bytes.
The replacement of malformed parts therefore never touches a text that a
client packs into a payload, whatever characters it has.

The byte of a short character is part of no other one.  The separator of fields
is the byte of the character NUL, so a payload has a separator exactly where a
text in it has a NUL.
-/

namespace BlockWire.Text

/-! ## Lead bytes -/

theorem toNat_ofNat_of_lt {value : Nat} (small : value < 256) :
    (UInt8.ofNat value).toNat = value := by
  rw [UInt8.toNat_ofNat']
  exact Nat.mod_eq_of_lt small

theorem ofByte_one :
    ∀ bits : Fin 0x80, Lead.ofByte (UInt8.ofNat bits) =
      .whole (Char.ofNat bits) := by
  decide

/-- The bits 0 and 1 would begin an overlong form. -/
theorem ofByte_two :
    ∀ bits : Fin 0x20, 2 ≤ bits.val →
      Lead.ofByte (UInt8.ofNat (bits + 0xC0)) =
        .opens ⟨0, 0x80, 0xBF, bits⟩ := by
  decide

theorem ofByte_three :
    ∀ bits : Fin 0x10,
      Lead.ofByte (UInt8.ofNat (bits + 0xE0)) =
        .opens ⟨1, if bits.val = 0 then 0xA0 else 0x80,
          if bits.val = 0xD then 0x9F else 0xBF, bits⟩ := by
  decide

theorem ofByte_four :
    ∀ bits : Fin 5,
      Lead.ofByte (UInt8.ofNat (bits + 0xF0)) =
        .opens ⟨2, if bits.val = 0 then 0x90 else 0x80,
          if bits.val = 4 then 0x8F else 0xBF, bits⟩ := by
  decide

/-! ## The bytes of one character -/

theorem partsFrom_whole
    {byte : UInt8} {character : Char}
    (whole : Lead.ofByte byte = .whole character) (rest : Bytes) :
    partsFrom none (byte :: rest) =
      some character :: partsFrom none rest := by
  simp only [partsFrom, whole]

theorem partsFrom_opens
    {byte : UInt8} {unfinished : Unfinished}
    (opens : Lead.ofByte byte = .opens unfinished) (rest : Bytes) :
    partsFrom none (byte :: rest) = partsFrom (some unfinished) rest := by
  simp only [partsFrom, opens]

/-- A byte in the range that an unfinished character asks for brings it one
byte further. -/
theorem partsFrom_further
    {after low high bits value : Nat} (small : value < 256)
    (inside : low ≤ value ∧ value ≤ high) (rest : Bytes) :
    partsFrom (some ⟨after + 1, low, high, bits⟩)
        (UInt8.ofNat value :: rest) =
      partsFrom (some ⟨after, 0x80, 0xBF, bits * 64 + (value - 0x80)⟩)
        rest := by
  simp only [partsFrom, toNat_ofNat_of_lt small, if_pos inside]

/-- The last byte of an unfinished character completes it. -/
theorem partsFrom_last
    {low high bits value : Nat} (small : value < 256)
    (inside : low ≤ value ∧ value ≤ high) (rest : Bytes) :
    partsFrom (some ⟨0, low, high, bits⟩) (UInt8.ofNat value :: rest) =
      some (Char.ofNat (bits * 64 + (value - 0x80))) ::
        partsFrom none rest := by
  simp only [partsFrom, toNat_ofNat_of_lt small, if_pos inside]

/-- A character is read from its bytes, whatever follows them.  The cases are
the four lengths that its bytes can have. -/
theorem partsFrom_encodeChar (character : Char) (rest : Bytes) :
    partsFrom none (String.utf8EncodeChar character ++ rest) =
      some character :: partsFrom none rest := by
  have valid : character.val.toNat < 0xD800 ∨
      0xDFFF < character.val.toNat ∧ character.val.toNat < 0x110000 :=
    character.valid
  have back : Char.ofNat character.val.toNat = character :=
    Char.ofNat_toNat character
  unfold String.utf8EncodeChar
  generalize character.val.toNat = value at valid back
  simp only
  split
  case isTrue one =>
    have lead := ofByte_one ⟨value, by omega⟩
    rw [List.singleton_append, partsFrom_whole lead, back]
  case isFalse notOne =>
    split
    case isTrue two =>
      have lead := ofByte_two ⟨value / 64 % 0x20, by omega⟩
        (show 2 ≤ value / 64 % 0x20 by omega)
      have joined :
          value / 64 % 0x20 * 64 + (value % 0x40 + 0x80 - 0x80) =
            value := by
        omega
      rw [List.cons_append, partsFrom_opens lead, List.singleton_append,
        partsFrom_last (by omega) (by omega), joined, back]
    case isFalse notTwo =>
      split
      case isTrue three =>
        have lead := ofByte_three ⟨value / 4096 % 0x10, by omega⟩
        have joined :
            (value / 4096 % 0x10 * 64 +
                (value / 64 % 0x40 + 0x80 - 0x80)) * 64 +
              (value % 0x40 + 0x80 - 0x80) = value := by
          omega
        -- An overlong form or a surrogate is outside of the second range.
        have second :
            (if value / 4096 % 0x10 = 0 then 0xA0 else 0x80) ≤
                value / 64 % 0x40 + 0x80 ∧
              value / 64 % 0x40 + 0x80 ≤
                if value / 4096 % 0x10 = 0xD then 0x9F else 0xBF := by
          constructor
          · split <;> omega
          · split <;> omega
        rw [List.cons_append, partsFrom_opens lead, List.cons_append,
          partsFrom_further (by omega) second, List.singleton_append,
          partsFrom_last (by omega) (by omega), joined, back]
      case isFalse notThree =>
        have lead := ofByte_four ⟨value / 262144 % 0x8, by omega⟩
        have joined :
            ((value / 262144 % 0x8 * 64 +
                  (value / 4096 % 0x40 + 0x80 - 0x80)) * 64 +
                (value / 64 % 0x40 + 0x80 - 0x80)) * 64 +
              (value % 0x40 + 0x80 - 0x80) = value := by
          omega
        have second :
            (if value / 262144 % 0x8 = 0 then 0x90 else 0x80) ≤
                value / 4096 % 0x40 + 0x80 ∧
              value / 4096 % 0x40 + 0x80 ≤
                if value / 262144 % 0x8 = 4 then 0x8F else 0xBF := by
          constructor
          · split <;> omega
          · split <;> omega
        rw [List.cons_append, partsFrom_opens lead, List.cons_append,
          partsFrom_further (by omega) second, List.cons_append,
          partsFrom_further (by omega) (by omega), List.singleton_append,
          partsFrom_last (by omega) (by omega), joined, back]

/-! ## Whole texts -/

theorem parts_flatMap_encodeChar (characters : List Char) :
    parts (characters.flatMap String.utf8EncodeChar) =
      characters.map some := by
  induction characters with
  | nil => rfl
  | cons character characters induction =>
      rw [parts, List.flatMap_cons, partsFrom_encodeChar]
      exact congrArg (some character :: ·) induction

/-- The lossy reading loses nothing of a text that was written. -/
@[simp]
theorem lossy_encode (text : String) : lossy (encode text) = text := by
  rw [lossy, encode, parts_flatMap_encodeChar, List.map_map]
  have same : ((·.getD replacement) ∘ some : Char → Char) = id := rfl
  rw [same, List.map_id, String.ofList_toList]

/-- The strict reading refuses no text that was written. -/
@[simp]
theorem decode?_encode (text : String) : decode? (encode text) = some text := by
  have wellFormed : ∀ characters : List Char,
      (characters.map some).mapM id = some characters := by
    intro characters
    induction characters with
    | nil => rfl
    | cons character characters induction =>
        rw [List.map_cons, List.mapM_cons, induction]
        rfl
  rw [decode?, encode, parts_flatMap_encodeChar, wellFormed, Option.map_some,
    String.ofList_toList]

theorem encode_append (text later : String) :
    encode (text ++ later) = encode text ++ encode later := by
  simp only [encode, String.toList_append, List.flatMap_append]

/-! ## Short characters -/

/-- Of the bytes of a character only the single byte of a short one is below
`80`. -/
theorem toNat_of_mem_encodeChar
    {character : Char} {byte : UInt8}
    (member : byte ∈ String.utf8EncodeChar character) :
    byte.toNat = character.val.toNat ∨ 0x80 ≤ byte.toNat := by
  unfold String.utf8EncodeChar at member
  generalize character.val.toNat = value at member ⊢
  simp only at member
  split at member
  case isTrue one =>
    left
    rw [List.mem_singleton.mp member, toNat_ofNat_of_lt (by omega)]
  case isFalse notOne =>
    right
    split at member
    case isTrue two =>
      simp only [List.mem_cons, List.not_mem_nil, or_false] at member
      rcases member with rfl | rfl <;>
        · rw [toNat_ofNat_of_lt (by omega)]
          omega
    case isFalse notTwo =>
      split at member
      case isTrue three =>
        simp only [List.mem_cons, List.not_mem_nil, or_false] at member
        rcases member with rfl | rfl | rfl <;>
          · rw [toNat_ofNat_of_lt (by omega)]
            omega
      case isFalse notThree =>
        simp only [List.mem_cons, List.not_mem_nil, or_false] at member
        rcases member with rfl | rfl | rfl | rfl <;>
          · rw [toNat_ofNat_of_lt (by omega)]
            omega

/-- The byte of a short character belongs to no other one. -/
theorem short_mem_encodeChar_iff
    {short : Char} (isShort : short.val.toNat < 0x80) (character : Char) :
    UInt8.ofNat short.val.toNat ∈ String.utf8EncodeChar character ↔
      short = character := by
  have value :
      (UInt8.ofNat short.val.toNat).toNat = short.val.toNat :=
    toNat_ofNat_of_lt (by omega)
  constructor
  · intro member
    rcases toNat_of_mem_encodeChar member with equal | large
    · exact Char.toNat_inj.mp (value.symm.trans equal)
    · omega
  · rintro rfl
    unfold String.utf8EncodeChar
    simp only
    rw [if_pos (by omega)]
    exact List.mem_singleton.mpr rfl

/-- A text has the byte of a short character among its bytes exactly if it has
the character. -/
theorem short_mem_encode_iff
    {short : Char} (isShort : short.val.toNat < 0x80) (text : String) :
    UInt8.ofNat short.val.toNat ∈ encode text ↔ short ∈ text.toList := by
  simp only [encode, List.mem_flatMap, short_mem_encodeChar_iff isShort,
    exists_eq_right']

/-- A text has a separator among its bytes exactly if it has a NUL. -/
theorem separator_mem_encode_iff (text : String) :
    Payload.separator ∈ encode text ↔ '\x00' ∈ text.toList := by
  have isShort : '\x00'.val.toNat < 0x80 := by decide
  exact short_mem_encode_iff isShort text

end BlockWire.Text
