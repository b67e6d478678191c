import BlockWire.Proofs.AdmittedTimeouts
import BlockWire.Proofs.SingleInstructions

/-!
# The deadline of connecting

A time limit becomes a deadline as soon as connecting begins.  When the
address is tried, what is left until then is the budget of the one attempt
that is made; with nothing left no attempt is made.

All of this is right to the nanosecond as long as the clock can show the
deadline.  A command line can ask for deadlines that it cannot show, and such
a run of the program is cut short before anything is tried.
-/

namespace BlockWire

/-! ## Attempts -/

/-- An attempt to reach a server. -/
structure Dialling where
  host : String
  port : UInt16
  /-- How long it may take. -/
  patience : Patience
  deriving DecidableEq, Repr

/-- A network with the attempts that were made on it, oldest first. -/
structure Attempted (ν : Type) where
  network : ν
  attempts : List Dialling := []

namespace Attempted

variable {ν : Type}

/-- A network before any attempt. -/
def blank (network : ν) : Attempted ν :=
  { network := network }

variable [Network ν]

instance : Network (Attempted ν) where
  clock attempted :=
    let (reading, network) := Network.clock attempted.network
    (reading, { attempted with network := network })
  dial host port patience attempted :=
    let (answer, network) :=
      Network.dial host port patience attempted.network
    (answer,
      { network := network
        attempts := attempted.attempts ++ [⟨host, port, patience⟩] })
  hear connection bytes attempted :=
    let (delivery, network) :=
      Network.hear connection bytes attempted.network
    (delivery, { attempted with network := network })
  hangUp connection attempted :=
    { attempted with
      network := Network.hangUp connection attempted.network }

theorem isView_network :
    Network.IsView (Attempted.network : Attempted ν → ν) where
  clock _ := rfl
  dial _ _ _ _ := rfl
  hear _ _ _ := rfl
  hangUp _ _ := rfl

/-- The opening of a link that makes one attempt and ends as the attempt
does. -/
def once (endpoint : Endpoint) (patience : Patience) (network : ν) :
    Ending Link × Attempted ν :=
  let (answer, network) :=
    Network.dial endpoint.host endpoint.port patience network
  (.returned
      ((answer.mapError (Failure.connection endpoint.address)).map
        fun connection => ⟨connection, endpoint.payloadLimit⟩),
    ⟨network, [⟨endpoint.host, endpoint.port, patience⟩]⟩)

end Attempted

/-! ## Deadlines -/

theorem Deadline.start_of_zero
    {timeout : Nanoseconds} (unlimited : timeout = 0) (now : Instant) :
    start timeout now = some .unlimited := by
  simp only [start, unlimited, if_true]

theorem Deadline.start_of_not_isBeyond
    {timeout : Nanoseconds} {now : Instant}
    (limited : timeout ≠ 0) (within : ¬ IsBeyond timeout now) :
    start timeout now = some (.before (now + timeout)) := by
  have shown : (now + timeout) / seconds 1 ≤ lastSecond :=
    Nat.le_of_not_lt fun later => within ⟨limited, later⟩
  simp only [start, limited, shown, if_false, if_true]

theorem Deadline.patience_of_lt
    {now instant : Instant} (early : now < instant) :
    patience now (.before instant) = .ok (some (instant - now)) := by
  simp only [patience, early, if_true]

theorem Deadline.patience_of_not_lt
    {now instant : Instant} (late : ¬ now < instant) :
    patience now (.before instant) = .error .connectTimeout := by
  simp only [patience, late, if_false]

/-- The second of a deadline in whole seconds is that of the beginning, moved
on by their number. -/
theorem Deadline.isBeyond_seconds_iff {count : Nat} {now : Instant} :
    IsBeyond (seconds count) now ↔
      count ≠ 0 ∧ lastSecond < now / seconds 1 + count := by
  have second : (now + seconds count) / seconds 1 =
      now / seconds 1 + count := by
    simp only [seconds, Nat.one_mul]
    exact Nat.add_mul_div_right now count (by decide)
  have nonzero : seconds count ≠ 0 ↔ count ≠ 0 := by
    show count * 1000000000 ≠ 0 ↔ count ≠ 0
    omega
  rw [IsBeyond, second, nonzero]

/-! ## Opening a link -/

section Opening

variable {ν : Type} [Network ν] {endpoint : Endpoint} {deadline : Deadline}
variable {network after ready : ν} {started tried : Instant}

theorem Attempted.clock_blank
    (begins : Network.clock network = (started, after)) :
    Network.clock (blank network) = (started, blank after) := by
  show ((Network.clock network).1, blank (Network.clock network).2) = _
  rw [begins]

theorem Link.establish_of_isMalformedHost
    (malformed : isMalformedHost endpoint.host = true)
    (begins : Network.clock network = (started, after))
    (isStart : Deadline.start endpoint.timeout started = some deadline) :
    establish endpoint network =
      (.returned (.error (.connection endpoint.address .malformedHost)),
        after) := by
  have dialled : dial endpoint deadline after =
      (.error .malformedHost, after) := by
    simp only [dial, malformed, if_true]
  exact establish_of_start begins isStart dialled

/-- Patience that is left is spent on one attempt. -/
theorem Link.establish_of_patience
    (wellFormed : isMalformedHost endpoint.host = false)
    (begins : Network.clock network = (started, after))
    (isStart : Deadline.start endpoint.timeout started = some deadline)
    (tries : Network.clock after = (tried, ready))
    {patience : Patience} (left : deadline.patience tried = .ok patience) :
    establish endpoint (Attempted.blank network) =
      Attempted.once endpoint patience ready := by
  have dialled : dial endpoint deadline (Attempted.blank after) =
      Network.dial endpoint.host endpoint.port patience
        (Attempted.blank ready) := by
    simp only [dial, wellFormed, Attempted.clock_blank tries, left,
      Bool.false_eq_true, if_false]
  exact establish_of_start (Attempted.clock_blank begins) isStart dialled

/-- With no patience left there is no attempt. -/
theorem Link.establish_of_no_patience
    (wellFormed : isMalformedHost endpoint.host = false)
    (begins : Network.clock network = (started, after))
    (isStart : Deadline.start endpoint.timeout started = some deadline)
    (tries : Network.clock after = (tried, ready))
    {fault : TransportFault} (spent : deadline.patience tried = .error fault) :
    establish endpoint network =
      (.returned (.error (.connection endpoint.address fault)), ready) := by
  have dialled : dial endpoint deadline after = (.error fault, ready) := by
    simp only [dial, wellFormed, tries, spent, Bool.false_eq_true, if_false]
  exact establish_of_start begins isStart dialled

theorem Link.establish_eq_aborted_iff :
    (establish endpoint network).1 = .aborted ↔
      Deadline.IsBeyond endpoint.timeout (Network.clock network).1 := by
  by_cases beyond :
      Deadline.IsBeyond endpoint.timeout (Network.clock network).1
  · rw [establish_of_isBeyond beyond]
    exact ⟨fun _ => beyond, fun _ => rfl⟩
  · rcases establish_of_not_isBeyond beyond with ⟨deadline, established⟩
    rw [established]
    constructor
    · intro cut
      cases cut
    · intro isBeyond
      exact absurd isBeyond beyond

end Opening

/-! ## Runs of the program -/

namespace CommandLine

section Runs

variable {ν : Type} [Network ν]

theorem Report.exitCode_ofShown (result : Except Failure Shown) :
    (ofShown (.returned result)).exitCode ≠ 101 := by
  rcases result with failure | text | _ <;> simp [ofShown]

theorem Report.exitCode_ofTranscript (transcript : Transcript) :
    (ofTranscript (.returned (.ok transcript))).exitCode ≠ 101 := by
  simp only [ofTranscript]
  split <;> decide

/-- An order is cut short exactly by a deadline that the clock cannot show. -/
theorem Order.exitCode_run_eq_iff
    (order : Order) (input : Bytes) (network : ν) :
    (order.run input network).1.exitCode = 101 ↔
      Deadline.IsBeyond order.endpoint.timeout
        (Network.clock network).1 := by
  rcases order with ⟨endpoint, verbose, task⟩
  have unlinked := Client.not_connected_ofEndpoint endpoint
  by_cases beyond :
      Deadline.IsBeyond endpoint.timeout (Network.clock network).1
  · have cut := Client.connect_of_isBeyond unlinked beyond
    rw [run_of_aborted cut]
    exact ⟨fun _ => beyond, fun _ => rfl⟩
  · suffices finished :
        (Order.run ⟨endpoint, verbose, task⟩ input network).1.exitCode ≠
          101 from
      ⟨fun ended => absurd ended finished,
        fun isBeyond => absurd isBeyond beyond⟩
    rcases Client.connect_of_not_isBeyond unlinked beyond with
      ⟨link, later, connected⟩ | ⟨cause, later, failed⟩
    · cases task with
      | single instruction =>
          rw [run_single_of_connected connected]
          exact Report.exitCode_ofShown _
      | dialogue =>
          rw [Dialogue.run_dialogue connected]
          exact Report.exitCode_ofTranscript _
    · rw [run_of_failed failed]
      exact Report.exitCode_ofShown (.error _)

/-- An order that is cut short ends with the panic of its task. -/
theorem Order.run_of_exitCode
    (order : Order) (input : Bytes) (network : ν)
    (ended : (order.run input network).1.exitCode = 101) :
    (order.run input network).1 = .ofPanic order.task.panic := by
  rcases order with ⟨endpoint, verbose, task⟩
  have beyond := (exitCode_run_eq_iff _ input network).mp ended
  rw [run_of_aborted (Client.connect_of_isBeyond
    (Client.not_connected_ofEndpoint endpoint) beyond)]

/--
Connecting keeps to its deadline.

The clock is read when connecting begins and again when the address is tried.
A deadline that the clock cannot show cuts connecting short, and nothing else
does.  With any other one a host that cannot be looked up is a failure.

Without a time limit one attempt is made that may take as long as it needs.
With one it is made if and only if the deadline has not been reached, and may
take exactly as long as is left.  Otherwise the failure says that the time is
over, and nothing is tried.

A command line can ask for every number of seconds in 64 bits and for nothing
else.  Its run is cut short exactly if the number is not zero and leads from the
second in which connecting begins beyond the last second of the clock, and then
it ends with a panic.
-/
theorem connecting_keeps_deadline
    {network after ready : ν} {started tried : Instant}
    (begins : Network.clock network = (started, after))
    (tries : Network.clock after = (tried, ready)) :
    (∀ endpoint : Endpoint,
      let deadline := started + endpoint.timeout
      let opening := Link.establish endpoint (Attempted.blank network)
      Link.establish endpoint network =
        opening.map id Attempted.network ∧
      (opening.1 = .aborted ↔
        Deadline.IsBeyond endpoint.timeout started) ∧
      (¬ Deadline.IsBeyond endpoint.timeout started →
        (isMalformedHost endpoint.host = true →
          opening =
            (.returned
                (.error (.connection endpoint.address .malformedHost)),
              .blank after)) ∧
        (isMalformedHost endpoint.host = false → endpoint.timeout = 0 →
          opening = Attempted.once endpoint none ready) ∧
        (isMalformedHost endpoint.host = false → endpoint.timeout ≠ 0 →
          tried < deadline →
            opening =
              Attempted.once endpoint (some (deadline - tried)) ready) ∧
        (isMalformedHost endpoint.host = false → endpoint.timeout ≠ 0 →
          ¬ tried < deadline →
            opening =
              (.returned
                  (.error (.connection endpoint.address .connectTimeout)),
                .blank ready)))) ∧
    (∀ count < Text.limit64,
      parse ["-t", toString count, "ping"] =
        .ok ⟨{ timeout := seconds count }, false, .single .ping⟩) ∧
    (∀ (arguments : List String) (order : Order) (input : Bytes),
      parse arguments = .ok order →
        ∃ count < Text.limit64,
          order.endpoint.timeout = seconds count ∧
          ((run arguments input network).1.exitCode = 101 ↔
            count ≠ 0 ∧ lastSecond < started / seconds 1 + count) ∧
          ((run arguments input network).1.exitCode = 101 →
            (run arguments input network).1 =
              .ofPanic order.task.panic)) := by
  have beginsBlank := Attempted.clock_blank begins
  refine ⟨?_, fun _ small => parse_timeout small, ?_⟩
  · intro endpoint deadline opening
    refine ⟨Attempted.isView_network.establish endpoint (.blank network),
      ?_, ?_⟩
    · have aborted : opening.1 = .aborted ↔ _ := Link.establish_eq_aborted_iff
      rwa [beginsBlank] at aborted
    · intro within
      refine ⟨?_, ?_, ?_, ?_⟩
      · intro malformed
        rcases Deadline.exists_start within with ⟨set, isStart⟩
        exact Link.establish_of_isMalformedHost malformed beginsBlank isStart
      · intro wellFormed unlimited
        exact Link.establish_of_patience wellFormed begins
          (Deadline.start_of_zero unlimited started) tries rfl
      · intro wellFormed limited early
        exact Link.establish_of_patience wellFormed begins
          (Deadline.start_of_not_isBeyond limited within) tries
          (Deadline.patience_of_lt early)
      · intro wellFormed limited late
        exact Link.establish_of_no_patience wellFormed beginsBlank
          (Deadline.start_of_not_isBeyond limited within)
          (Attempted.clock_blank tries) (Deadline.patience_of_not_lt late)
  · intro arguments order input parsed
    rcases exists_seconds_of_parse parsed with ⟨count, small, isSeconds⟩
    have ran : run arguments input network = order.run input network := by
      simp only [run, parsed]
    rw [ran]
    refine ⟨count, small, isSeconds, ?_, order.run_of_exitCode input network⟩
    rw [Order.exitCode_run_eq_iff, isSeconds, begins]
    exact Deadline.isBeyond_seconds_iff

/-- A clock that moves on by a thousand nanoseconds reaches a deadline of as
many exactly, and nothing is tried; with one nanosecond more, this one is left
for the attempt. -/
theorem attempts_around_deadline :
    (∃ fault : TransportFault,
      fault.kind = .timedOut ∧
      Link.establish { timeout := 1000 }
          (Attempted.blank ({} : Scripted)) =
        (.returned (.error (.connection "127.0.0.1:8888" fault)),
          .blank ⟨⟨seconds 86400 + 2000, 1000⟩, 0, {}, false⟩)) ∧
    (Link.establish { timeout := 1001 }
        (Attempted.blank ({} : Scripted))).2.attempts =
      [⟨"127.0.0.1", 8888, some 1⟩] ∧
    (Link.establish { timeout := 0 }
        (Attempted.blank ({} : Scripted))).2.attempts =
      [⟨"127.0.0.1", 8888, none⟩] ∧
    (run ["-t", "9223372036854689407", "ping"] []
        ({} : Scripted)).1.exitCode ≠ 101 := by
  have begins : Network.clock ({} : Scripted) =
      (seconds 86400, ⟨⟨seconds 86400 + 1000, 1000⟩, 0, {}, false⟩) := rfl
  have tries :
      Network.clock
          (⟨⟨seconds 86400 + 1000, 1000⟩, 0, {}, false⟩ : Scripted) =
        (seconds 86400 + 1000,
          ⟨⟨seconds 86400 + 2000, 1000⟩, 0, {}, false⟩) := rfl
  obtain ⟨opens, asks, runs⟩ := connecting_keeps_deadline begins tries
  have within (timeout : Nat) (small : timeout ≤ 1001) :
      ¬ Deadline.IsBeyond timeout (seconds 86400) := by
    rintro ⟨-, beyond⟩
    simp only [lastSecond, seconds] at beyond
    omega
  have wellFormed : isMalformedHost "127.0.0.1" = false := by decide
  refine ⟨?_, ?_, ?_, ?_⟩
  · rcases (opens { timeout := 1000 }).2.2 (within 1000 (by decide)) with
      ⟨-, -, -, late⟩
    exact ⟨.connectTimeout, rfl,
      late wellFormed (by decide) (by decide)⟩
  · rcases (opens { timeout := 1001 }).2.2 (within 1001 (by decide)) with
      ⟨-, -, early, -⟩
    rw [early wellFormed (by decide) (by decide)]
    rfl
  · rcases (opens { timeout := 0 }).2.2 (within 0 (by decide)) with
      ⟨-, unlimited, -, -⟩
    rw [unlimited wellFormed rfl]
    rfl
  · have parsed := asks 9223372036854689407 (by decide)
    rcases runs _ _ [] parsed with ⟨count, small, isSeconds, ended, -⟩
    intro cut
    rcases ended.mp cut with ⟨-, beyond⟩
    have same : 9223372036854689407 * 1000000000 = count * 1000000000 :=
      isSeconds
    simp only [seconds, lastSecond] at beyond
    omega

end Runs

/-- The smallest number of seconds whose deadline lies beyond every clock can be
asked for, and connecting under it comes back neither with a link nor with a
failure. -/
theorem establish_aborted_beyond_clock :
    parse ["-t", "9223372036854775808", "ping"] =
      .ok ⟨{ timeout := seconds 9223372036854775808 }, false,
        .single .ping⟩ ∧
    (Link.establish { timeout := seconds 9223372036854775808 }
        ({} : Scripted)).1 = .aborted ∧
    (run ["-t", "9223372036854775808", "ping"] [] ({} : Scripted)).1 =
      .ofPanic .ofCommand := by
  have parsed :
      parse ["-t", "9223372036854775808", "ping"] =
        .ok ⟨{ timeout := seconds 9223372036854775808 }, false,
          .single .ping⟩ := by rfl
  refine ⟨parsed, rfl, ?_⟩
  simp only [run, parsed]
  rfl

end CommandLine

end BlockWire
