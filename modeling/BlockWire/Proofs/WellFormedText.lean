import BlockWire.Proofs.LossyText

/-!
# Bytes that are a text

Bytes in which the lossy reading replaces nothing are the bytes of the text
that it gives.  Two different byte sequences can therefore only be read as the
same text if that text has a replacement character in it.

A character is recognised by its lead byte, which fixes how many bytes follow
and in which range the first of them lies.  The ranges leave out exactly the
overlong forms and the surrogates, so what was recognised is written back with
the same bytes.
-/

namespace BlockWire.Text

/-! ## Lead bytes of unfinished characters -/

/-- What an unfinished character still needs, by the value of its lead byte.
The first byte of the rest lies in a narrower range behind four of the lead
bytes. -/
inductive Opens (value : Nat) : Unfinished → Prop where
  | two (above : 0xC2 ≤ value) (below : value < 0xE0) :
      Opens value ⟨0, 0x80, 0xBF, value - 0xC0⟩
  | three (low high : Nat) (above : 0xE0 ≤ value) (below : value < 0xF0)
      (inside : 0x80 ≤ low ∧ high ≤ 0xBF)
      (notOverlong : value = 0xE0 → 0xA0 ≤ low)
      (notSurrogate : value = 0xED → high ≤ 0x9F) :
      Opens value ⟨1, low, high, value - 0xE0⟩
  | four (low high : Nat) (above : 0xF0 ≤ value) (below : value < 0xF5)
      (inside : 0x80 ≤ low ∧ high ≤ 0xBF)
      (notOverlong : value = 0xF0 → 0x90 ≤ low)
      (notBeyond : value = 0xF4 → high ≤ 0x8F) :
      Opens value ⟨2, low, high, value - 0xF0⟩

theorem opens_of_ofByte
    {byte : UInt8} {unfinished : Unfinished}
    (opens : Lead.ofByte byte = .opens unfinished) :
    Opens byte.toNat unfinished := by
  unfold Lead.ofByte at opens
  generalize byte.toNat = value at opens ⊢
  simp only at opens
  split at opens
  · cases opens
  split at opens
  · cases opens
  split at opens
  · cases opens
    exact .two (by omega) (by omega)
  split at opens
  · cases opens
    have isValue : value = 0xE0 := by assumption
    subst value
    exact .three 0xA0 0xBF (by omega) (by omega) (by omega) (by omega)
      (by omega)
  split at opens
  · cases opens
    have isValue : value = 0xED := by assumption
    subst value
    exact .three 0x80 0x9F (by omega) (by omega) (by omega) (by omega)
      (by omega)
  split at opens
  · cases opens
    exact .three 0x80 0xBF (by omega) (by omega) (by omega) (by omega)
      (by omega)
  split at opens
  · cases opens
    have isValue : value = 0xF0 := by assumption
    subst value
    exact .four 0x90 0xBF (by omega) (by omega) (by omega) (by omega)
      (by omega)
  split at opens
  · cases opens
    exact .four 0x80 0xBF (by omega) (by omega) (by omega) (by omega)
      (by omega)
  split at opens
  · cases opens
    have isValue : value = 0xF4 := by assumption
    subst value
    exact .four 0x80 0x8F (by omega) (by omega) (by omega) (by omega)
      (by omega)
  · cases opens

/-- Without a malformed part the next byte of an unfinished character lies in
the range it asks for, and the bytes behind it go on well. -/
theorem exists_inside_of_partsFrom
    {unfinished : Unfinished} {bytes : Bytes}
    (sound : none ∉ partsFrom (some unfinished) bytes) :
    ∃ byte rest, bytes = byte :: rest ∧
      unfinished.low ≤ byte.toNat ∧ byte.toNat ≤ unfinished.high ∧
      ∀ after, unfinished.after = after + 1 →
        none ∉ partsFrom
          (some ⟨after, 0x80, 0xBF,
            unfinished.bits * 64 + (byte.toNat - 0x80)⟩) rest := by
  cases bytes with
  | nil => simp [partsFrom] at sound
  | cons byte rest =>
      by_cases inside :
          unfinished.low ≤ byte.toNat ∧ byte.toNat ≤ unfinished.high
      · refine ⟨byte, rest, rfl, inside.1, inside.2, ?_⟩
        intro after more
        simpa only [partsFrom, if_pos inside, more] using sound
      · simp only [partsFrom, if_neg inside] at sound
        split at sound <;> simp at sound

/-! ## The bytes of a character that is recognised -/

theorem toNat_ofNat_of_valid
    {value : Nat} (valid : value.isValidChar) :
    (Char.ofNat value).val.toNat = value := by
  rw [Char.ofNat, dif_pos valid]
  rfl

theorem eq_ofNat
    {byte : UInt8} {value : Nat} (isValue : byte.toNat = value) :
    byte = UInt8.ofNat value := by
  rw [← isValue, UInt8.ofNat_toNat]

theorem encodeChar_two
    {first second : UInt8}
    (lead : 0xC2 ≤ first.toNat ∧ first.toNat < 0xE0)
    (last : 0x80 ≤ second.toNat ∧ second.toNat ≤ 0xBF) :
    String.utf8EncodeChar
        (Char.ofNat
          ((first.toNat - 0xC0) * 64 + (second.toNat - 0x80))) =
      [first, second] := by
  have valid : ((first.toNat - 0xC0) * 64 +
      (second.toNat - 0x80)).isValidChar := .inl (by omega)
  unfold String.utf8EncodeChar
  rw [toNat_ofNat_of_valid valid]
  simp only
  rw [if_neg (by omega), if_pos (by omega),
    ← eq_ofNat (show first.toNat = _ by omega),
    ← eq_ofNat (show second.toNat = _ by omega)]

theorem encodeChar_three
    {first second third : UInt8}
    (lead : 0xE0 ≤ first.toNat ∧ first.toNat < 0xF0)
    (next : 0x80 ≤ second.toNat ∧ second.toNat ≤ 0xBF)
    (last : 0x80 ≤ third.toNat ∧ third.toNat ≤ 0xBF)
    (notOverlong : first.toNat = 0xE0 → 0xA0 ≤ second.toNat)
    (notSurrogate : first.toNat = 0xED → second.toNat ≤ 0x9F) :
    String.utf8EncodeChar
        (Char.ofNat
          (((first.toNat - 0xE0) * 64 + (second.toNat - 0x80)) * 64 +
            (third.toNat - 0x80))) =
      [first, second, third] := by
  have valid : (((first.toNat - 0xE0) * 64 + (second.toNat - 0x80)) * 64 +
      (third.toNat - 0x80)).isValidChar := by
    unfold Nat.isValidChar
    omega
  unfold String.utf8EncodeChar
  rw [toNat_ofNat_of_valid valid]
  simp only
  rw [if_neg (by omega), if_neg (by omega), if_pos (by omega),
    ← eq_ofNat (show first.toNat = _ by omega),
    ← eq_ofNat (show second.toNat = _ by omega),
    ← eq_ofNat (show third.toNat = _ by omega)]

theorem encodeChar_four
    {first second third fourth : UInt8}
    (lead : 0xF0 ≤ first.toNat ∧ first.toNat < 0xF5)
    (next : 0x80 ≤ second.toNat ∧ second.toNat ≤ 0xBF)
    (further : 0x80 ≤ third.toNat ∧ third.toNat ≤ 0xBF)
    (last : 0x80 ≤ fourth.toNat ∧ fourth.toNat ≤ 0xBF)
    (notOverlong : first.toNat = 0xF0 → 0x90 ≤ second.toNat)
    (notBeyond : first.toNat = 0xF4 → second.toNat ≤ 0x8F) :
    String.utf8EncodeChar
        (Char.ofNat
          ((((first.toNat - 0xF0) * 64 + (second.toNat - 0x80)) * 64 +
              (third.toNat - 0x80)) * 64 + (fourth.toNat - 0x80))) =
      [first, second, third, fourth] := by
  have valid : ((((first.toNat - 0xF0) * 64 + (second.toNat - 0x80)) * 64 +
      (third.toNat - 0x80)) * 64 + (fourth.toNat - 0x80)).isValidChar :=
    .inr (by omega)
  unfold String.utf8EncodeChar
  rw [toNat_ofNat_of_valid valid]
  simp only
  rw [if_neg (by omega), if_neg (by omega), if_neg (by omega),
    ← eq_ofNat (show first.toNat = _ by omega),
    ← eq_ofNat (show second.toNat = _ by omega),
    ← eq_ofNat (show third.toNat = _ by omega),
    ← eq_ofNat (show fourth.toNat = _ by omega)]

theorem encodeChar_one
    {byte : UInt8} {character : Char}
    (whole : Lead.ofByte byte = .whole character) :
    String.utf8EncodeChar character = [byte] := by
  by_cases short : byte.toNat < 0x80
  · have valid : byte.toNat.isValidChar := .inl (by omega)
    simp only [Lead.ofByte, if_pos short, Lead.whole.injEq] at whole
    subst character
    unfold String.utf8EncodeChar
    rw [toNat_ofNat_of_valid valid]
    simp only
    rw [if_pos (by omega), UInt8.ofNat_toNat]
  · simp only [Lead.ofByte, if_neg short] at whole
    repeat' split at whole
    all_goals cases whole

/-! ## Whole byte sequences -/

/-- Bytes without a malformed part begin with the bytes of a character. -/
theorem exists_encodeChar_of_partsFrom
    {byte : UInt8} {rest : Bytes}
    (sound : none ∉ partsFrom none (byte :: rest)) :
    ∃ character behind,
      byte :: rest = String.utf8EncodeChar character ++ behind := by
  cases lead : Lead.ofByte byte with
  | whole character =>
      exact ⟨character, rest,
        (congrArg (· ++ rest) (encodeChar_one lead)).symm⟩
  | malformed => simp [partsFrom, lead] at sound
  | opens unfinished =>
      rw [partsFrom_opens lead] at sound
      rcases exists_inside_of_partsFrom sound with
        ⟨second, rest, rfl, low, high, further⟩
      rcases opens_of_ofByte lead with
        ⟨above, below⟩ |
        ⟨lowest, highest, above, below, inside, notOverlong, notSurrogate⟩ |
        ⟨lowest, highest, above, below, inside, notOverlong, notBeyond⟩
      · have bytes := encodeChar_two ⟨above, below⟩ ⟨low, high⟩
        exact ⟨_, rest, (congrArg (· ++ rest) bytes).symm⟩
      · rcases exists_inside_of_partsFrom (further 0 rfl) with
          ⟨third, rest, rfl, lowThird, highThird, -⟩
        simp only at low high lowThird highThird
        have next : 0x80 ≤ second.toNat ∧ second.toNat ≤ 0xBF := by omega
        have bytes := encodeChar_three ⟨above, below⟩ next
          ⟨lowThird, highThird⟩ (by omega) (by omega)
        exact ⟨_, rest, (congrArg (· ++ rest) bytes).symm⟩
      · rcases exists_inside_of_partsFrom (further 1 rfl) with
          ⟨third, rest, rfl, lowThird, highThird, furtherThird⟩
        rcases exists_inside_of_partsFrom (furtherThird 0 rfl) with
          ⟨fourth, rest, rfl, lowFourth, highFourth, -⟩
        simp only at low high lowThird highThird lowFourth highFourth
        have next : 0x80 ≤ second.toNat ∧ second.toNat ≤ 0xBF := by omega
        have bytes := encodeChar_four ⟨above, below⟩ next
          ⟨lowThird, highThird⟩ ⟨lowFourth, highFourth⟩ (by omega) (by omega)
        exact ⟨_, rest, (congrArg (· ++ rest) bytes).symm⟩

/-- Bytes without a malformed part are the bytes of a text. -/
theorem exists_flatMap_encodeChar_of_parts
    {bytes : Bytes} (sound : none ∉ parts bytes) :
    ∃ characters : List Char,
      bytes = characters.flatMap String.utf8EncodeChar := by
  cases bytes with
  | nil => exact ⟨[], rfl⟩
  | cons byte rest =>
      rcases exists_encodeChar_of_partsFrom sound with
        ⟨character, behind, isFront⟩
      have soundBehind : none ∉ parts behind := by
        rw [parts, isFront, partsFrom_encodeChar] at sound
        exact fun member => sound (List.mem_cons_of_mem _ member)
      have shorter : behind.length < (byte :: rest).length := by
        have positive := String.length_utf8EncodeChar character
        have size := Char.utf8Size_pos character
        rw [isFront, List.length_append]
        omega
      rcases exists_flatMap_encodeChar_of_parts soundBehind with
        ⟨characters, rfl⟩
      exact ⟨character :: characters, isFront⟩
termination_by bytes.length

/-- The lossy reading shows each malformed part as a replacement character;
without one in the text, the bytes are those of the text. -/
theorem encode_lossy
    {bytes : Bytes} (unreplaced : replacement ∉ (lossy bytes).toList) :
    encode (lossy bytes) = bytes := by
  have sound : none ∉ parts bytes := by
    intro malformed
    refine unreplaced ?_
    rw [lossy, String.toList_ofList]
    exact List.mem_map.mpr ⟨none, malformed, rfl⟩
  rcases exists_flatMap_encodeChar_of_parts sound with ⟨characters, rfl⟩
  have isText : characters.flatMap String.utf8EncodeChar =
      encode (String.ofList characters) := by
    rw [encode, String.toList_ofList]
  rw [isText, lossy_encode]

end BlockWire.Text
