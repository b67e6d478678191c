import BlockWire.Proofs.LossyText
import BlockWire.Shell.Dialogue

/-!
# Lines that are typed in

A text has a line feed among its bytes exactly where it has the character, and
the same holds for the carriage return.  A line without line feeds that does
not end with a carriage return therefore comes back as it was typed in, and so
do several lines, each ended by a line feed.
-/

namespace BlockWire

namespace Text

/-- Bytes without a line feed belong to the current line. -/
theorem linesFrom_append
    {piece : Bytes} (unbroken : lineFeed ∉ piece) (reversed rest : Bytes) :
    linesFrom reversed (piece ++ rest) =
      linesFrom (piece.reverse ++ reversed) rest := by
  induction piece generalizing reversed with
  | nil => rfl
  | cons byte piece induction =>
      rw [List.mem_cons, not_or] at unbroken
      rcases unbroken with ⟨notBreak, others⟩
      rw [List.cons_append, linesFrom, if_neg (Ne.symm notBreak),
        induction others, List.reverse_cons, List.append_assoc]
      rfl

/-- Bytes that do not end with a carriage return are kept as they are when
their line is closed. -/
theorem closeLine_reverse
    {piece : Bytes} (stays : piece.getLast? ≠ some carriageReturn) :
    closeLine piece.reverse = piece := by
  rw [← List.head?_reverse] at stays
  match ending : piece.reverse with
  | [] => rw [← List.reverse_reverse piece, ending]; rfl
  | byte :: earlier =>
      rw [ending] at stays
      have other : byte ≠ carriageReturn := fun same =>
        stays (congrArg some same)
      rw [closeLine, if_neg other, ← ending, List.reverse_reverse]

/-- A line that is ended by a line feed comes before the other lines. -/
theorem lines_append
    {piece : Bytes} (unbroken : lineFeed ∉ piece)
    (stays : piece.getLast? ≠ some carriageReturn) (rest : Bytes) :
    lines (piece ++ lineFeed :: rest) = piece :: lines rest := by
  rw [lines, linesFrom_append unbroken, List.append_nil, linesFrom,
    if_pos rfl, closeLine_reverse stays, lines]

theorem lineFeed_mem_encode_iff (text : String) :
    lineFeed ∈ encode text ↔ '\n' ∈ text.toList := by
  have isShort : '\n'.val.toNat < 0x80 := by decide
  exact short_mem_encode_iff isShort text

/-- The last byte of a text is that of a carriage return only if the last
character is one. -/
theorem getLast?_encode_ne
    {text : String} (stays : text.toList.getLast? ≠ some '\r') :
    (encode text).getLast? ≠ some carriageReturn := by
  intro ends
  have isShort : '\r'.val.toNat < 0x80 := by decide
  rcases List.eq_nil_or_concat text.toList with empty | ⟨early, last, parted⟩
  · rw [encode, empty] at ends
    cases ends
  · have nonempty : String.utf8EncodeChar last ≠ [] :=
      String.utf8EncodeChar_ne_nil
    rw [List.concat_eq_append] at parted
    rw [encode, parted, List.flatMap_append, List.flatMap_singleton,
      List.getLast?_append, List.getLast?_eq_some_getLast nonempty,
      Option.some_or] at ends
    have isByte : carriageReturn ∈ String.utf8EncodeChar last :=
      Option.some.inj ends ▸ List.getLast_mem nonempty
    have isLast : '\r' = last :=
      (short_mem_encodeChar_iff isShort last).mp isByte
    rw [parted, isLast, List.getLast?_concat] at stays
    exact stays rfl

end Text

/-- Lines that are typed in are read as they are, if none has a line feed or
ends with a carriage return. -/
theorem Dialogue.linesOf_encode
    {typed : List String}
    (unbroken : ∀ line ∈ typed, '\n' ∉ line.toList)
    (stay : ∀ line ∈ typed, line.toList.getLast? ≠ some '\r') :
    linesOf (typed.flatMap fun line => Text.encode (line ++ "\n")) =
      typed.map some := by
  induction typed with
  | nil => rfl
  | cons line typed induction =>
      rw [List.forall_mem_cons] at unbroken stay
      have ended : Text.encode "\n" = [Text.lineFeed] := rfl
      have first : Text.lineFeed ∉ Text.encode line :=
        mt (Text.lineFeed_mem_encode_iff line).mp unbroken.1
      have others := induction unbroken.2 stay.2
      rw [linesOf] at others
      rw [List.flatMap_cons, Text.encode_append, ended, List.append_assoc,
        List.singleton_append, linesOf,
        Text.lines_append first (Text.getLast?_encode_ne stay.1),
        List.map_cons, Text.decode?_encode, others, List.map_cons]

end BlockWire
