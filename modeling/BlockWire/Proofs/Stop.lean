import BlockWire.Stream.Source

/-!
# Streams up to their stop

A reader goes on past data and past interrupted calls.  The first arrival of
another kind is the stop of a stream: a fault or an end of data, and without
one of these in the schedule whatever comes after all arrivals.  The data in
front of the stop are ready to be read, in chunks whose borders do not matter.

A stage that wants no more than what is ready obtains exactly that and leaves
the stop where it is.  A stage that wants more obtains everything that is
ready, takes the stop, and reports its fault, unless that is a timeout which
follows bytes of the same stage.
-/

namespace BlockWire

/-! ## The stop of a schedule -/

namespace Arrival

/-- Whether reading goes on after an arrival as if it were not there. -/
def passes : Arrival → Bool
  | .data _ => true
  | .fault met => met.kind = .interrupted
  | .endOfData => false

def fault? : Arrival → Option TransportFault
  | .data _ => none
  | .fault met => some met
  | .endOfData => none

/-- The data in front of the stop. -/
def ready (arrivals : List Arrival) : Bytes :=
  (arrivals.takeWhile passes).flatMap bytes

/-- The stop and everything behind it. -/
def fromStop (arrivals : List Arrival) : List Arrival :=
  arrivals.dropWhile passes

/-- The fault of the stop; an end of data has none. -/
def stopFault? (thereafter : Silence) (arrivals : List Arrival) :
    Option TransportFault :=
  match fromStop arrivals with
  | [] => thereafter.fault? false
  | stop :: _ => stop.fault?

@[simp]
theorem ready_nil : ready [] = [] := rfl

@[simp]
theorem ready_data (chunk : Bytes) (rest : List Arrival) :
    ready (.data chunk :: rest) = chunk ++ ready rest := rfl

@[simp]
theorem fromStop_data (chunk : Bytes) (rest : List Arrival) :
    fromStop (.data chunk :: rest) = fromStop rest := rfl

theorem ready_cons
    {arrival : Arrival} (passing : arrival.passes = true)
    (rest : List Arrival) :
    ready (arrival :: rest) = arrival.bytes ++ ready rest := by
  simp [ready, passing]

theorem fromStop_cons
    {arrival : Arrival} (passing : arrival.passes = true)
    (rest : List Arrival) :
    fromStop (arrival :: rest) = fromStop rest := by
  simp [fromStop, passing]

theorem passes_interrupted
    {met : TransportFault} (interrupted : met.kind = .interrupted) :
    (Arrival.fault met).passes = true :=
  decide_eq_true interrupted

theorem ready_interrupted
    {met : TransportFault} (interrupted : met.kind = .interrupted)
    (rest : List Arrival) :
    ready (.fault met :: rest) = ready rest :=
  ready_cons (passes_interrupted interrupted) rest

theorem fromStop_interrupted
    {met : TransportFault} (interrupted : met.kind = .interrupted)
    (rest : List Arrival) :
    fromStop (.fault met :: rest) = fromStop rest :=
  fromStop_cons (passes_interrupted interrupted) rest

theorem ready_stop
    {stop : Arrival} (stops : stop.passes = false)
    (rest : List Arrival) :
    ready (stop :: rest) = [] := by
  simp [ready, stops]

theorem fromStop_stop
    {stop : Arrival} (stops : stop.passes = false)
    (rest : List Arrival) :
    fromStop (stop :: rest) = stop :: rest := by
  simp [fromStop, stops]

/-- Of the data that arrive in all, those in front of the stop come first. -/
theorem ready_append_fromStop (arrivals : List Arrival) :
    ready arrivals ++ (fromStop arrivals).flatMap bytes =
      arrivals.flatMap bytes := by
  rw [ready, fromStop, ← List.flatMap_append,
    List.takeWhile_append_dropWhile]

/-- More arrivals are ready as long as no stop comes before them. -/
theorem ready_append (arrivals more : List Arrival) :
    ready (arrivals ++ more) =
      ready arrivals ++
        if (fromStop arrivals).isEmpty then ready more else [] := by
  induction arrivals with
  | nil => rfl
  | cons arrival rest induction =>
      cases passing : arrival.passes with
      | false =>
          rw [List.cons_append, ready_stop passing, ready_stop passing,
            fromStop_stop passing]
          rfl
      | true =>
          rw [List.cons_append, ready_cons passing, ready_cons passing,
            fromStop_cons passing, induction, List.append_assoc]

theorem ready_isPrefix_append (arrivals more : List Arrival) :
    ready arrivals <+: ready (arrivals ++ more) :=
  ⟨_, (ready_append arrivals more).symm⟩

theorem fromStop_append (arrivals more : List Arrival) :
    fromStop (arrivals ++ more) =
      if (fromStop arrivals).isEmpty then fromStop more
      else fromStop arrivals ++ more :=
  List.dropWhile_append

end Arrival

/-! ## One stage of reading -/

/-- What a stage reports of a fault: nothing of a timeout once the stage has
received a byte. -/
def reported (started : Bool) (fault? : Option TransportFault) :
    Option TransportFault :=
  fault?.filter fun fault => !(started && fault.kind.isTimeout)

theorem Silence.fault?_eq_reported
    (started : Bool) (silence : Silence) :
    silence.fault? started = reported started (silence.fault? false) := by
  cases silence <;> cases started <;> rfl

/-- A stage that wants no more than what is ready obtains just that and
leaves the stop and everything behind it. -/
theorem gather_of_le_ready
    (thereafter : Silence) (wanted : Nat) (started : Bool)
    (arrivals : List Arrival)
    (enough : wanted ≤ (Arrival.ready arrivals).length) :
    ∃ rest,
      gather thereafter wanted started arrivals =
          ⟨(Arrival.ready arrivals).take wanted, none, rest⟩ ∧
        Arrival.ready rest = (Arrival.ready arrivals).drop wanted ∧
        Arrival.fromStop rest = Arrival.fromStop arrivals := by
  fun_induction gather thereafter wanted started arrivals with
  | case1 started arrivals => exact ⟨arrivals, rfl, rfl, rfl⟩
  | case2 wanted started => simp at enough
  | case3 wanted started chunk rest fits ih =>
      simp only [Arrival.ready_data, List.length_append] at enough
      rcases ih (by omega) with ⟨left, gathered, ready, stop⟩
      refine ⟨left, ?_, ?_, ?_⟩
      · simp [gathered, Gathered.after, List.take_append,
          List.take_of_length_le fits]
      · simp [ready, List.drop_append, List.drop_of_length_le fits]
      · simp [stop]
  | case4 wanted started chunk rest tooLong =>
      have inside : wanted + 1 ≤ chunk.length :=
        Nat.le_of_not_le tooLong
      refine ⟨.data (chunk.drop (wanted + 1)) :: rest, ?_, ?_, ?_⟩
      · rw [Arrival.ready_data, List.take_append_of_le_length inside]
      · simp [List.drop_append_of_le_length inside]
      · simp
  | case5 wanted started fault rest interrupted ih =>
      rw [Arrival.ready_interrupted interrupted] at enough ⊢
      rw [Arrival.fromStop_interrupted interrupted]
      exact ih enough
  | case6 wanted started fault rest notInterrupted late =>
      rw [Arrival.ready_stop (by simp [Arrival.passes, notInterrupted])]
        at enough
      simp at enough
  | case7 wanted started fault rest notInterrupted notLate =>
      rw [Arrival.ready_stop (by simp [Arrival.passes, notInterrupted])]
        at enough
      simp at enough
  | case8 wanted started rest =>
      rw [Arrival.ready_stop rfl] at enough
      simp at enough

/-- A stage that wants more than what is ready obtains all of it, takes the
stop, and reports the fault of the stop. -/
theorem gather_of_ready_lt
    (thereafter : Silence) (wanted : Nat) (started : Bool)
    (arrivals : List Arrival)
    (short : (Arrival.ready arrivals).length < wanted) :
    gather thereafter wanted started arrivals =
      ⟨Arrival.ready arrivals,
        reported (started || !(Arrival.ready arrivals).isEmpty)
          (Arrival.stopFault? thereafter arrivals),
        (Arrival.fromStop arrivals).tail⟩ := by
  fun_induction gather thereafter wanted started arrivals with
  | case1 started arrivals => simp at short
  | case2 wanted started =>
      rw [Silence.fault?_eq_reported]
      simp [Arrival.stopFault?, Arrival.fromStop]
  | case3 wanted started chunk rest fits ih =>
      simp only [Arrival.ready_data, List.length_append] at short
      have startedBy :
          (started || !chunk.isEmpty || !(Arrival.ready rest).isEmpty) =
            (started || !(chunk ++ Arrival.ready rest).isEmpty) := by
        cases chunk <;> simp
      rw [ih (by omega), startedBy]
      simp [Gathered.after, Arrival.stopFault?]
  | case4 wanted started chunk rest tooLong =>
      simp only [Arrival.ready_data, List.length_append] at short
      exact absurd (show chunk.length ≤ wanted + 1 by omega) tooLong
  | case5 wanted started fault rest interrupted ih =>
      rw [Arrival.ready_interrupted interrupted] at short ⊢
      rw [ih short]
      simp [Arrival.stopFault?, Arrival.fromStop_interrupted interrupted]
  | case6 wanted started fault rest notInterrupted late =>
      have stops : (Arrival.fault fault).passes = false := by
        simp [Arrival.passes, notInterrupted]
      simp [Arrival.ready_stop stops, Arrival.fromStop_stop stops,
        Arrival.stopFault?, Arrival.fault?, reported, Option.filter, late]
  | case7 wanted started fault rest notInterrupted notLate =>
      have stops : (Arrival.fault fault).passes = false := by
        simp [Arrival.passes, notInterrupted]
      simp [Arrival.ready_stop stops, Arrival.fromStop_stop stops,
        Arrival.stopFault?, Arrival.fault?, reported, Option.filter, notLate]
  | case8 wanted started rest =>
      have stops : Arrival.endOfData.passes = false := rfl
      simp [Arrival.ready_stop stops, Arrival.fromStop_stop stops,
        Arrival.stopFault?, Arrival.fault?, reported]

/-! ## Streams -/

namespace Source

/-- The data in front of the stop. -/
def ready (source : Source) : Bytes :=
  Arrival.ready source.arrivals

/-- The stop and everything behind it. -/
def fromStop (source : Source) : List Arrival :=
  Arrival.fromStop source.arrivals

/-- The fault of the stop; an end of data has none. -/
def stopFault? (source : Source) : Option TransportFault :=
  Arrival.stopFault? source.thereafter source.arrivals

/-- A stream of which everything up to and including the stop is used up. -/
def pastStop (source : Source) : Source :=
  { source with arrivals := source.fromStop.tail }

theorem ready_append_fromStop (source : Source) :
    source.ready ++ source.fromStop.flatMap Arrival.bytes = source.data :=
  Arrival.ready_append_fromStop source.arrivals

/--
`rest` is a stream after exactly `count` of its ready bytes were read: the
bytes behind them are as before, and neither the stop nor anything behind it
was touched.
-/
structure Takes (count : Nat) (source rest : Source) : Prop where
  enough : count ≤ source.ready.length
  ready : rest.ready = source.ready.drop count
  fromStop : rest.fromStop = source.fromStop
  thereafter : rest.thereafter = source.thereafter

namespace Takes

variable {count further : Nat} {source rest last : Source}

theorem refl (source : Source) : Takes 0 source source :=
  ⟨Nat.zero_le _, rfl, rfl, rfl⟩

theorem trans
    (first : Takes count source rest)
    (second : Takes further rest last) :
    Takes (count + further) source last where
  enough := by
    have firstEnough := first.enough
    have secondEnough := second.enough
    rw [first.ready, List.length_drop] at secondEnough
    omega
  ready := by rw [second.ready, first.ready, List.drop_drop]
  fromStop := second.fromStop.trans first.fromStop
  thereafter := second.thereafter.trans first.thereafter

/-- The bytes read are the first ones of all data. -/
theorem data (taken : Takes count source rest) :
    rest.data = source.data.drop count := by
  rw [← ready_append_fromStop rest, ← ready_append_fromStop source,
    taken.ready, taken.fromStop, List.drop_append_of_le_length taken.enough]

theorem stopFault? (taken : Takes count source rest) :
    rest.stopFault? = source.stopFault? := by
  have stop : Arrival.fromStop rest.arrivals =
      Arrival.fromStop source.arrivals := taken.fromStop
  simp only [Source.stopFault?, Arrival.stopFault?, stop, taken.thereafter]

theorem pastStop (taken : Takes count source rest) :
    rest.pastStop = source.pastStop := by
  simp only [Source.pastStop, taken.fromStop, taken.thereafter]

end Takes

theorem fill_of_le_ready
    {wanted : Nat} {source : Source}
    (enough : wanted ≤ source.ready.length) :
    ∃ rest,
      source.fill wanted = (.ok (source.ready.take wanted), rest) ∧
        Takes wanted source rest := by
  obtain ⟨left, gathered, ready, stop⟩ :=
    gather_of_le_ready source.thereafter wanted false source.arrivals enough
  refine ⟨{ source with arrivals := left }, ?_, enough, ready, stop, rfl⟩
  simp only [fill, gathered, Source.ready]

theorem fill_of_ready_lt
    {wanted : Nat} {source : Source}
    (short : source.ready.length < wanted) :
    source.fill wanted =
      (match reported (!source.ready.isEmpty) source.stopFault? with
        | some fault => .error fault
        | none => .ok source.ready,
        source.pastStop) := by
  have gathered :=
    gather_of_ready_lt source.thereafter wanted false source.arrivals short
  simp only [fill, gathered, Bool.false_or]
  cases fault? : reported (!source.ready.isEmpty) source.stopFault? with
  | none =>
      simp only [Source.ready, Source.stopFault?] at fault?
      simp only [fault?]
      rfl
  | some fault =>
      simp only [Source.ready, Source.stopFault?] at fault?
      simp only [fault?]
      rfl

end Source

end BlockWire
