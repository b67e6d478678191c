import BlockWire.Bytes
import BlockWire.Stream.Fault

/-!
# Reading from a stream

What a reader meets is a schedule: chunks of bytes, faults and ends of data
in some order, and one behaviour for every call after them.  A read call
takes at most the rest of one chunk, at most as much as it asks for, and
leaves the rest of the chunk for the next call.

`gather` is the repeated reading of one stage.  It goes on until it has what
it wants, data end, or a fault occurs.  Interrupted calls are made again.  A
timeout counts as an end of data as soon as the stage has received a byte,
so that a stage that is cut short always ends with the bytes it has.
-/

namespace BlockWire

/-- What one or several read calls meet. -/
inductive Arrival where
  /-- Bytes; each call takes from those that are left. -/
  | data (bytes : Bytes)
  | fault (fault : TransportFault)
  | endOfData
  deriving DecidableEq, Repr

/-- The bytes that an arrival brings. -/
def Arrival.bytes : Arrival → Bytes
  | .data bytes => bytes
  | .fault _ => []
  | .endOfData => []

/-- What every call meets once nothing more arrives. -/
inductive Silence where
  | ended
  /-- The sending side is open and sends nothing. -/
  | stalled
  | reset
  deriving DecidableEq, Repr

/-- The fault, if any, of a call that meets silence.  A stage that has
received a byte takes a stall for an end of data. -/
def Silence.fault? (started : Bool) : Silence → Option TransportFault
  | .ended => none
  | .stalled => if started then none else some .stalled
  | .reset => some .reset

/-- A stream as its reader meets it. -/
structure Source where
  arrivals : List Arrival
  thereafter : Silence := .ended
  deriving DecidableEq, Repr

/-- What a stage of reading obtained. -/
structure Gathered where
  bytes : Bytes
  /-- The fault that ended the stage, if one did. -/
  fault? : Option TransportFault
  rest : List Arrival
  deriving DecidableEq, Repr

/-- The same with some bytes received before. -/
def Gathered.after (earlier : Bytes) (gathered : Gathered) : Gathered :=
  { gathered with bytes := earlier ++ gathered.bytes }

/-- Read until `wanted` bytes are there or the stage ends.  `started` says
whether the stage has received a byte already.  When nothing is wanted no
call is made. -/
def gather (thereafter : Silence) :
    (wanted : Nat) → (started : Bool) → List Arrival → Gathered
  | 0, _, arrivals => ⟨[], none, arrivals⟩
  | _ + 1, started, [] => ⟨[], thereafter.fault? started, []⟩
  | wanted + 1, started, .data chunk :: rest =>
      if chunk.length ≤ wanted + 1 then
        (gather thereafter (wanted + 1 - chunk.length)
          (started || !chunk.isEmpty) rest).after chunk
      else
        ⟨chunk.take (wanted + 1), none,
          .data (chunk.drop (wanted + 1)) :: rest⟩
  | wanted + 1, started, .fault fault :: rest =>
      if fault.kind = .interrupted then
        gather thereafter (wanted + 1) started rest
      else if started && fault.kind.isTimeout then ⟨[], none, rest⟩
      else ⟨[], some fault, rest⟩
  | _ + 1, _, .endOfData :: rest => ⟨[], none, rest⟩

/-- Nothing is lost between the bytes received and what is left. -/
theorem gather_bytes_rest (thereafter : Silence) (wanted : Nat)
    (started : Bool) (arrivals : List Arrival) :
    (gather thereafter wanted started arrivals).bytes ++
        (gather thereafter wanted started arrivals).rest.flatMap
          Arrival.bytes =
      arrivals.flatMap Arrival.bytes := by
  fun_induction gather thereafter wanted started arrivals with
  | case1 => simp
  | case2 => simp
  | case3 wanted started chunk rest fits ih =>
      simp [Gathered.after, Arrival.bytes, ih]
  | case4 wanted started chunk rest tooLong =>
      simp [Arrival.bytes, ← List.append_assoc]
  | case5 wanted started fault rest interrupted ih =>
      simpa [Arrival.bytes] using ih
  | case6 wanted started fault rest notInterrupted late =>
      simp [Arrival.bytes]
  | case7 wanted started fault rest notInterrupted notLate =>
      simp [Arrival.bytes]
  | case8 => simp [Arrival.bytes]

namespace Source

/-- Bytes that are all there, and nothing after them. -/
def ofBytes (bytes : Bytes) : Source :=
  ⟨[.data bytes], .ended⟩

/-- The data still to come, faults and ends of data left out. -/
def data (source : Source) : Bytes :=
  source.arrivals.flatMap Arrival.bytes

/-- Read one stage of `wanted` bytes.  Without a fault fewer bytes than
wanted say that the stage was cut short. -/
def fill (wanted : Nat) (source : Source) :
    Except TransportFault Bytes × Source :=
  let gathered := gather source.thereafter wanted false source.arrivals
  let rest := { source with arrivals := gathered.rest }
  match gathered.fault? with
  | some fault => (.error fault, rest)
  | none => (.ok gathered.bytes, rest)

/-- A stage takes its bytes from the front of the data. -/
theorem append_data_of_fill {wanted : Nat} {source rest : Source}
    {bytes : Bytes} (filled : source.fill wanted = (.ok bytes, rest)) :
    bytes ++ rest.data = source.data := by
  unfold fill at filled
  simp only at filled
  split at filled
  · simp at filled
  · simp only [Prod.mk.injEq, Except.ok.injEq] at filled
    obtain ⟨rfl, rfl⟩ := filled
    exact gather_bytes_rest ..

end Source

end BlockWire
