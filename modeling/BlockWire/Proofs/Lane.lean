import BlockWire.Proofs.Exchange

/-!
# Frames on their way

Between a writer and a reader there are bytes: those that were written and are
not read yet.  A lane keeps the books of one direction of a connection.  What
was read, followed by what is on its way, is what was written; and what was
written begins the frames that the writer set out to write.

The reader can therefore only come to frames that were written whole, in their
order and without a byte of another frame.  This holds at whatever byte the
writing stops, because no frame begins another one.
-/

namespace BlockWire

variable {κ : Type} [Coded κ]

/-! ## One frame read -/

namespace Frame

/-- A frame that was read is the first one of the data. -/
theorem data_of_read
    {limit : Nat} {source rest : Source} {frame : Frame κ}
    (isRead : read limit source = (.ok frame, rest)) :
    source.data = frame.bytes ++ rest.data ∧
      frame.payload.length ≤ largestPayload := by
  cases decoded : decode (κ := κ) limit source.ready with
  | error fault =>
      rcases read_of_decode_error decoded with ⟨failure, left, failed, -⟩
      rw [failed] at isRead
      cases isRead
  | ok found =>
      rcases read_of_decode_ok decoded with ⟨left, given, taken⟩
      rw [given] at isRead
      cases isRead
      rcases decode_eq_ok_iff.mp decoded with ⟨fits, -, initial⟩
      have begins : frame.bytes <+: source.data := by
        rw [← Source.ready_append_fromStop]
        exact initial.trans (List.prefix_append _ _)
      have isStart := List.prefix_iff_eq_take.mp begins
      rw [length_bytes] at isStart
      refine ⟨?_, fits⟩
      rw [taken.data, isStart, List.take_append_drop]

/-! ## Several frames -/

/-- The bytes of some frames, one behind the other. -/
def allBytes (frames : List (Frame κ)) : Bytes :=
  frames.flatMap bytes

/-- Each of some frames has an encoding. -/
def Sendable (frames : List (Frame κ)) : Prop :=
  ∀ frame ∈ frames, frame.payload.length ≤ largestPayload

@[simp]
theorem allBytes_append (frames later : List (Frame κ)) :
    allBytes (frames ++ later) = allBytes frames ++ allBytes later :=
  List.flatMap_append

@[simp]
theorem allBytes_singleton (frame : Frame κ) :
    allBytes [frame] = frame.bytes := by
  simp [allBytes]

omit [Coded κ] in
@[simp]
theorem sendable_append {frames later : List (Frame κ)} :
    Sendable (frames ++ later) ↔ Sendable frames ∧ Sendable later :=
  List.forall_mem_append

omit [Coded κ] in
@[simp]
theorem sendable_singleton {frame : Frame κ} :
    Sendable [frame] ↔ frame.payload.length ≤ largestPayload := by
  simp [Sendable]

omit [Coded κ] in
theorem Sendable.of_isPrefix
    {frames others : List (Frame κ)}
    (sendable : Sendable others) (initial : frames <+: others) :
    Sendable frames :=
  fun frame member => sendable frame (initial.mem member)

theorem bytes_ne_nil (frame : Frame κ) : frame.bytes ≠ [] := by
  simp [bytes]

/-- Bytes of frames begin bytes of frames only if the frames do. -/
theorem isPrefix_of_allBytes_isPrefix
    {frames others : List (Frame κ)}
    (sendable : Sendable frames) (othersSendable : Sendable others)
    (initial : allBytes frames <+: allBytes others) :
    frames <+: others := by
  induction frames generalizing others with
  | nil => exact List.nil_prefix
  | cons frame rest induction =>
      cases others with
      | nil =>
          have nothing := List.prefix_nil.mp initial
          simp [allBytes, bytes_ne_nil] at nothing
      | cons other more =>
          simp only [allBytes, List.flatMap_cons] at initial
          have first := (List.prefix_append _ _).trans initial
          have fits := sendable frame List.mem_cons_self
          have otherFits := othersSendable other List.mem_cons_self
          have same : frame = other := by
            rcases List.prefix_or_prefix_of_prefix first
                (List.prefix_append other.bytes _) with begins | begins
            · exact eq_of_bytes_initial fits otherFits begins
            · exact (eq_of_bytes_initial otherFits fits begins).symm
          subst other
          rw [List.prefix_append_right_inj] at initial
          rw [List.prefix_cons_inj]
          exact induction
            (fun later member =>
              sendable later (List.mem_cons_of_mem _ member))
            (fun later member =>
              othersSendable later (List.mem_cons_of_mem _ member))
            initial

end Frame

/-! ## Lanes -/

/--
The books of one direction of a connection: of the frames that the writer set
out to write, some were read, and some bytes are on their way.  The lane is
whole if the writer wrote every frame to its end.
-/
structure Lane (whole : Prop) (sent got : List (Frame κ))
    (ahead : Bytes) : Prop where
  /-- What was written does not go beyond frames that have an encoding. -/
  written : ∃ complete,
    got <+: complete ∧ complete <+: sent ∧ Frame.Sendable complete ∧
      Frame.allBytes got ++ ahead <+: Frame.allBytes complete
  /-- On a whole lane all that was to be written was written. -/
  entire : whole →
    Frame.Sendable sent ∧
      Frame.allBytes got ++ ahead = Frame.allBytes sent

namespace Lane

variable {whole : Prop} {sent got : List (Frame κ)} {ahead : Bytes}
variable {frame : Frame κ}

theorem start : Lane whole ([] : List (Frame κ)) [] [] where
  written := ⟨[], List.prefix_rfl, List.prefix_rfl, by simp [Frame.Sendable],
    List.prefix_rfl⟩
  entire _ := ⟨by simp [Frame.Sendable], rfl⟩

theorem got_isPrefix (lane : Lane whole sent got ahead) : got <+: sent := by
  rcases lane.written with ⟨complete, gotFirst, within, -, -⟩
  exact gotFirst.trans within

theorem of_entire
    (gotFirst : got <+: sent) (sendable : Frame.Sendable sent)
    (all : Frame.allBytes got ++ ahead = Frame.allBytes sent) :
    Lane whole sent got ahead where
  written := ⟨sent, gotFirst, List.prefix_rfl, sendable,
    all ▸ List.prefix_rfl⟩
  entire _ := ⟨sendable, all⟩

/-- A lane may be given up at any time. -/
theorem weaken {less : Prop} (lane : Lane whole sent got ahead)
    (fewer : less → whole) : Lane less sent got ahead :=
  ⟨lane.written, fun isLess => lane.entire (fewer isLess)⟩

/-- The writer writes another frame to its end. -/
theorem send
    (lane : Lane whole sent got ahead) (isWhole : whole)
    (fits : frame.payload.length ≤ largestPayload) :
    Lane whole (sent ++ [frame]) got (ahead ++ frame.bytes) := by
  rcases lane.entire isWhole with ⟨sendable, all⟩
  apply of_entire
  · exact lane.got_isPrefix.trans (List.prefix_append _ _)
  · simp [sendable, fits]
  · rw [← List.append_assoc, all, Frame.allBytes_append,
      Frame.allBytes_singleton]

/-- The writer writes some of another frame and no more after it. -/
theorem cut
    (lane : Lane whole sent got ahead) (isWhole : whole) {part : Bytes}
    (initial : part = [] ∨
      frame.payload.length ≤ largestPayload ∧ part <+: frame.bytes) :
    Lane False (sent ++ [frame]) got (ahead ++ part) where
  entire := False.elim
  written := by
    rcases lane.entire isWhole with ⟨sendable, all⟩
    rcases initial with rfl | ⟨fits, initial⟩
    · refine ⟨sent, lane.got_isPrefix, List.prefix_append _ _, sendable, ?_⟩
      rw [List.append_nil]
      exact all ▸ List.prefix_rfl
    · refine ⟨sent ++ [frame],
        lane.got_isPrefix.trans (List.prefix_append _ _), List.prefix_rfl,
        by simp [sendable, fits], ?_⟩
      rw [← List.append_assoc, all, Frame.allBytes_append,
        Frame.allBytes_singleton, List.prefix_append_right_inj]
      exact initial

/-- The reader comes to a frame. -/
theorem take
    (lane : Lane whole sent got (frame.bytes ++ ahead))
    (fits : frame.payload.length ≤ largestPayload) :
    Lane whole sent (got ++ [frame]) ahead := by
  have regroup :
      Frame.allBytes (got ++ [frame]) ++ ahead =
        Frame.allBytes got ++ (frame.bytes ++ ahead) := by
    rw [Frame.allBytes_append, Frame.allBytes_singleton, List.append_assoc]
  rcases lane.written with ⟨complete, gotFirst, within, sendable, initial⟩
  rw [← regroup] at initial
  have gotSendable : Frame.Sendable (got ++ [frame]) := by
    simp [sendable.of_isPrefix gotFirst, fits]
  constructor
  · refine ⟨complete, ?_, within, sendable, initial⟩
    exact Frame.isPrefix_of_allBytes_isPrefix gotSendable sendable
      ((List.prefix_append _ _).trans initial)
  · intro isWhole
    rw [regroup]
    exact lane.entire isWhole

/-! ## Nothing or one frame on its way -/

/-- On a whole lane all of whose frames were read nothing is on its way. -/
theorem ahead_eq_nil
    (lane : Lane whole sent got ahead) (isWhole : whole)
    (allRead : sent.length ≤ got.length) :
    ahead = [] := by
  have same := lane.got_isPrefix.eq_of_length_le allRead
  subst same
  simpa using (lane.entire isWhole).2

/-- On a whole lane with one frame not read that frame is on its way. -/
theorem ahead_eq_bytes
    (lane : Lane whole (got ++ [frame]) got ahead) (isWhole : whole) :
    ahead = frame.bytes := by
  simpa using (lane.entire isWhole).2

end Lane

end BlockWire
