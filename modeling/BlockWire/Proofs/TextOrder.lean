import BlockWire.Proofs.LossyText

/-!
# The order of texts

Texts are compared character by character, and characters by their numbers.
The bytes of texts are in the same order: of two characters the one with the
smaller number has the smaller bytes, whatever follows either of them.
-/

namespace BlockWire.Text

/-- A number in the code space is made of four groups, the lower three of them
of six bits. -/
theorem eq_of_groups (value : Nat) (bounded : value < 0x110000) :
    value =
      ((value / 262144 % 0x8 * 64 + value / 4096 % 0x40) * 64 +
          value / 64 % 0x40) * 64 + value % 0x40 := by
  omega

/-- The bytes of a smaller character come first.  With fewer bytes its first
byte is smaller; with as many, the first byte in which the two differ is. -/
theorem encodeChar_append_lt
    {first second : Char} (smaller : first < second) (rest other : Bytes) :
    String.utf8EncodeChar first ++ rest <
      String.utf8EncodeChar second ++ other := by
  have below : first.val.toNat < second.val.toNat := smaller
  have valid : second.val.toNat < 0xD800 ∨
      0xDFFF < second.val.toNat ∧ second.val.toNat < 0x110000 :=
    second.valid
  unfold String.utf8EncodeChar
  generalize first.val.toNat = low, second.val.toNat = high
    at below valid ⊢
  have lowGroups := eq_of_groups low (by omega)
  have highGroups := eq_of_groups high (by omega)
  simp only
  -- One case for each pair of lengths; a smaller character is not longer.
  repeat' split
  all_goals
    simp (disch := omega) only [List.cons_append, List.nil_append,
      List.cons_lt_cons_iff, UInt8.lt_iff_toNat_lt, ← UInt8.toNat_inj,
      toNat_ofNat_of_lt]
    omega

theorem flatMap_encodeChar_lt
    {characters others : List Char} (smaller : characters < others) :
    characters.flatMap String.utf8EncodeChar <
      others.flatMap String.utf8EncodeChar := by
  induction smaller with
  | @nil character rest =>
      have nonempty : (character :: rest).flatMap String.utf8EncodeChar ≠ [] := by
        simp [String.utf8EncodeChar_ne_nil]
      rcases List.exists_cons_of_ne_nil nonempty with ⟨byte, bytes, isCons⟩
      rw [List.flatMap_nil, isCons]
      exact List.nil_lt_cons byte bytes
  | rel below =>
      rw [List.flatMap_cons, List.flatMap_cons]
      exact encodeChar_append_lt below _ _
  | cons _ induction =>
      rw [List.flatMap_cons, List.flatMap_cons]
      exact List.append_left_lt induction

/-- Writing texts as bytes keeps their order. -/
theorem encode_lt_encode {text other : String} (smaller : text < other) :
    encode text < encode other :=
  flatMap_encodeChar_lt (String.lt_iff.mp smaller)

end BlockWire.Text
