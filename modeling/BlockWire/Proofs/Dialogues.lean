import BlockWire.CommandLine.Run
import BlockWire.Proofs.Execution
import BlockWire.Proofs.InstructionGrammar
import BlockWire.Proofs.ScopedSession

/-!
# Dialogues keep their session

A dialogue goes from prompt to prompt, one line at a time, until a line or the
end of the input ends it.  `Passes` says what leads from one prompt to the
next, `Leads` does so for several lines, and `Ends` says how a dialogue ends
at a prompt.  Every input is passed up to such an end, and nothing behind it
matters.

What every line that is passed keeps is the connection.  A line sends at most
one request, and one that is followed by another prompt had its reply, so the
peer heard whole frames, one for each line that needs the server.  The failures
that do not end the connection are exactly those that a prompt follows.
-/

namespace BlockWire

namespace Dialogue

/-! ## From prompt to prompt -/

/-- What comes of a line that is followed by another prompt. -/
inductive Round where
  | skipped
  | shown (text : String)
  | reported (failure : Failure)
  deriving DecidableEq, Repr

namespace Round

/-- What is shown. -/
def output : Round → String
  | .skipped => ""
  | .shown text => paragraph text
  | .reported _ => ""

/-- What is reported as failed. -/
def complaints : Round → String
  | .skipped => ""
  | .shown _ => ""
  | .reported failure => paragraph failure.message

end Round

section Semantics

variable {ν : Type} [Network ν]

/-- A line leads from one prompt to the next one. -/
inductive Passes (line : String) (client : Client) (network : ν) :
    Round → Client → ν → Prop where
  | skipped (blank : Text.isBlankLine line = true) :
      Passes line client network .skipped client network
  | shown (solid : Text.isBlankLine line = false)
      {text : String} {after : Client} {later : ν}
      (answered :
        answer line client network = (.ok (.text text), after, later)) :
      Passes line client network (.shown text) after later
  | reported (solid : Text.isBlankLine line = false)
      {failure : Failure} {after : Client} {later : ν}
      (answered :
        answer line client network = (.error failure, after, later))
      (mild : failure.isSessionFatal = false) :
      Passes line client network (.reported failure) after later

/-- Lines lead from a prompt to a later one, each to the next. -/
inductive Leads :
    List String → Client → ν → List Round → Client → ν → Prop where
  | nowhere (client : Client) (network : ν) :
      Leads [] client network [] client network
  | first {line : String} {lines : List String}
      {client between after : Client} {network meanwhile later : ν}
      {round : Round} {rounds : List Round}
      (passes : Passes line client network round between meanwhile)
      (leads : Leads lines between meanwhile rounds after later) :
      Leads (line :: lines) client network (round :: rounds) after later

/-- A dialogue ends at a prompt, by what is next in the input: with something
shown, perhaps with a failure, and in each case disconnected. -/
inductive Ends (client : Client) (network : ν) :
    List (Option String) → String → Option Failure → ν → Prop where
  | input :
      Ends client network [] "" none (client.disconnect network).2
  | malformed (others : List (Option String)) :
      Ends client network (none :: others) ""
        (some (.transport .malformedText)) (client.disconnect network).2
  | leaves {line : String} (others : List (Option String))
      (solid : Text.isBlankLine line = false)
      (asked : Instruction.parse line = .ok .quit) :
      Ends client network (some line :: others) farewell none
        (client.disconnect network).2
  | breaks {line : String} (others : List (Option String))
      (solid : Text.isBlankLine line = false)
      {failure : Failure} {after : Client} {later : ν}
      (answered :
        answer line client network = (.error failure, after, later))
      (fatal : failure.isSessionFatal = true) :
      Ends client network (some line :: others) "" (some failure)
        (after.disconnect later).2

/-- What a dialogue leaves behind, by what came of its lines and how it
ended. -/
def transcriptOf (shown : String) (failure? : Option Failure) :
    List Round → Transcript
  | [] => ⟨prompt ++ shown, "", failure?⟩
  | round :: rounds =>
      (transcriptOf shown failure? rounds).after (prompt ++ round.output)
        round.complaints

@[simp]
theorem failure?_transcriptOf
    (shown : String) (failure? : Option Failure) (rounds : List Round) :
    (transcriptOf shown failure? rounds).failure? = failure? := by
  induction rounds with
  | nil => rfl
  | cons round rounds induction => exact induction

variable {client after : Client} {network later final : ν}
variable {line : String} {rest : List (Option String)}
variable {shown : String} {failure? : Option Failure}

/-- Only the instruction to leave is answered with a farewell. -/
theorem parse_of_farewell
    (answered : answer line client network = (.ok .farewell, after, later)) :
    Instruction.parse line = .ok .quit := by
  rw [answer] at answered
  split at answered
  case h_1 => cases answered
  case h_2 instruction isInstruction =>
    rw [isInstruction]
    cases asks : instruction.request? with
    | none =>
        rcases Instruction.request?_eq_none_iff.mp asks with rfl | rfl
        · cases answered
        · rfl
    | some request =>
        exfalso
        rcases Instruction.exists_call_of_request? asks with
          ⟨call, planned, -⟩
        have result := congrArg Prod.fst answered
        simp only [Instruction.execute, planned] at result
        cases made : (client.perform call network).1 with
        | error failure =>
            rw [made] at result
            cases result
        | ok text =>
            rw [made] at result
            cases result

/-- At a prompt, some of the lines of an input are passed, and then the
dialogue ends. -/
def ReachesEnd (lines : List (Option String)) (client : Client)
    (network : ν) : Prop :=
  ∃ passed rest rounds after later shown failure? final,
    lines = passed.map some ++ rest ∧
      Leads passed client network rounds after later ∧
      Ends after later rest shown failure? final

/-- A line that passes leaves the other lines to the next prompt. -/
theorem Passes.reachesEnd
    {round : Round} {others : List (Option String)}
    (passes : Passes line client network round after later)
    (onward : ReachesEnd others after later) :
    ReachesEnd (some line :: others) client network := by
  rcases onward with ⟨passed, rest, rounds, last, left, shown, failure?,
    final, isInput, leads, ends⟩
  exact ⟨line :: passed, rest, round :: rounds, last, left, shown, failure?,
    final, congrArg (some line :: ·) isInput, .first passes leads, ends⟩

theorem Ends.reachesEnd
    (ends : Ends client network rest shown failure? final) :
    ReachesEnd rest client network :=
  ⟨[], rest, [], client, network, shown, failure?, final, rfl,
    .nowhere client network, ends⟩

/-- There is an end to every input. -/
theorem reachesEnd
    (lines : List (Option String)) (client : Client) (network : ν) :
    ReachesEnd lines client network := by
  induction lines generalizing client network with
  | nil => exact Ends.input.reachesEnd
  | cons line? others induction =>
      cases line? with
      | none => exact (Ends.malformed others).reachesEnd
      | some line =>
          cases blank : Text.isBlankLine line with
          | true =>
              exact (Passes.skipped blank).reachesEnd (induction client network)
          | false =>
              rcases answered : answer line client network with
                ⟨failure | (text | _), after, later⟩
              · cases fatal : failure.isSessionFatal with
                | true =>
                    exact (Ends.breaks others blank answered fatal).reachesEnd
                | false =>
                    exact (Passes.reported blank answered fatal).reachesEnd
                      (induction after later)
              · exact (Passes.shown blank answered).reachesEnd
                  (induction after later)
              · exact (Ends.leaves others blank
                  (parse_of_farewell answered)).reachesEnd

/-! ## The dialogue is what its lines lead to -/

section Answered

variable {result : Except Failure Shown} {output complaints : String}
variable (solid : Text.isBlankLine line = false)
variable (answered : answer line client network = (result, after, later))

include solid answered

/-- A line that is not blank is answered.  If the dialogue goes on after that,
the other lines come next. -/
theorem converse_of_goesOn
    (turn : Turn.ofResult result = .goesOn output complaints)
    (others : List (Option String)) :
    converse (some line :: others) client network =
      ((converse others after later).1.after (prompt ++ output) complaints,
        (converse others after later).2) := by
  have notBlank : ¬ Text.isBlankLine line = true := by
    rw [solid]
    decide
  simp only [converse, if_neg notBlank, answered, turn]

/-- If the dialogue does not go on, it ends disconnected. -/
theorem converse_of_ended
    (turn : Turn.ofResult result = .ends output failure?)
    (others : List (Option String)) :
    converse (some line :: others) client network =
      (⟨prompt ++ output, "", failure?⟩, (after.disconnect later).2) := by
  have notBlank : ¬ Text.isBlankLine line = true := by
    rw [solid]
    decide
  simp only [converse, if_neg notBlank, answered, turn]

end Answered

/-- What a failure leads to depends on whether it is fatal. -/
theorem Turn.ofResult_error_of_mild
    {failure : Failure} (mild : failure.isSessionFatal = false) :
    ofResult (.error failure) = .goesOn "" (paragraph failure.message) := by
  simp only [ofResult, mild, Bool.false_eq_true, if_false]

theorem Turn.ofResult_error_of_fatal
    {failure : Failure} (fatal : failure.isSessionFatal = true) :
    ofResult (.error failure) = .ends "" (some failure) := by
  simp only [ofResult, fatal, if_true]

theorem converse_of_passes
    {round : Round} {others : List (Option String)}
    (passes : Passes line client network round after later) :
    converse (some line :: others) client network =
      (((converse others after later).1.after (prompt ++ round.output)
          round.complaints),
        (converse others after later).2) := by
  cases passes with
  | skipped blank =>
      rw [converse, if_pos blank]
      simp only [Round.output, Round.complaints, String.append_empty]
  | shown solid answered => exact converse_of_goesOn solid answered rfl others
  | reported solid answered mild =>
      exact converse_of_goesOn solid answered
        (Turn.ofResult_error_of_mild mild) others

theorem converse_of_ends
    (ends : Ends client network rest shown failure? final) :
    converse rest client network =
      (transcriptOf shown failure? [], final) := by
  cases ends with
  | input => rfl
  | malformed others => rfl
  | @leaves line others solid asked =>
      have answered :
          answer line client network = (.ok .farewell, client, network) := by
        rw [answer, asked]
        rfl
      exact converse_of_ended solid answered rfl others
  | breaks others solid answered fatal =>
      exact converse_of_ended solid answered
        (Turn.ofResult_error_of_fatal fatal) others

/-- A dialogue leaves behind what came of the lines that passed, and how it
ended. -/
theorem converse_of_leads
    {passed : List String} {rounds : List Round}
    (leads : Leads passed client network rounds after later)
    (ends : Ends after later rest shown failure? final) :
    converse (passed.map some ++ rest) client network =
      (transcriptOf shown failure? rounds, final) := by
  induction leads with
  | nowhere client network => exact converse_of_ends ends
  | first passes leads induction =>
      rw [List.map_cons, List.cons_append, converse_of_passes passes,
        induction ends]
      rfl

end Semantics

/-! ## What the lines do to the session -/

/-- The request that a line makes the client send. -/
def request? (line : String) : Option Request :=
  match Instruction.parse line with
  | .ok instruction => instruction.request?
  | .error _ => none

/-- What is heard of lines that had their replies: a whole frame for each one
that sends a request. -/
def heardOf (id : ConnectionId) (lines : List String) : List Happening :=
  (lines.filterMap request?).map fun request => .heard id request.bytes

theorem heardOf_cons
    (id : ConnectionId) (line : String) (lines : List String) :
    heardOf id (line :: lines) = heardOf id [line] ++ heardOf id lines := by
  cases asks : request? line <;> simp [heardOf, asks]

theorem request?_of_isBlankLine
    {line : String} (blank : Text.isBlankLine line = true) :
    request? line = none := by
  rw [request?, Instruction.parse_of_isBlankLine blank]

section Session

variable {ν : Type} [Network ν]
variable {line : String} {client after : Client} {link : Link}
variable {recorded later final : Recorded ν} {id : ConnectionId}

/--
What a line does at a prompt with a connection.  One without a request leaves
everything as it is, and fails only if it gives no instruction.  One with a
request keeps the connection if it had a reply, and fails then only with a
refusal; it loses the connection with a fatal failure otherwise.
-/
theorem answer_cases
    (linked : client.link? = some link) (line : String)
    (recorded : Recorded ν) :
    (∃ result,
        request? line = none ∧
        answer line client recorded = (result, client, recorded) ∧
        ∀ failure, result = .error failure →
          Instruction.parse line = .error failure) ∨
      (∃ request result kept later,
        request? line = some request ∧
        answer line client recorded =
          (result, { client with link? := some kept }, later) ∧
        kept.connection.id = link.connection.id ∧
        later.record = recorded.record ++
          [.heard link.connection.id request.bytes] ∧
        ∀ failure, result = .error failure →
          ∃ refusal, failure = .refused refusal) ∨
      ∃ request failure bytes later,
        request? line = some request ∧
        answer line client recorded =
          (.error failure, { client with link? := none }, later) ∧
        failure.isSessionFatal = true ∧
        bytes <+: request.bytes ∧
        later.record = recorded.record ++
          [.heard link.connection.id bytes, .closed link.connection.id] := by
  simp only [request?, answer]
  cases parsed : Instruction.parse line with
  | error failure =>
      left
      refine ⟨.error failure, rfl, rfl, fun other same => ?_⟩
      rw [Except.error.inj same]
  | ok instruction =>
      cases asks : instruction.request? with
      | none =>
          left
          rcases Instruction.request?_eq_none_iff.mp asks with rfl | rfl
          · exact ⟨_, asks, Instruction.execute_help client recorded,
              fun failure failed => nomatch failed⟩
          · exact ⟨_, asks, Instruction.execute_quit client recorded,
              fun failure failed => nomatch failed⟩
      | some request =>
          right
          rcases Instruction.execute_of_connected asks linked recorded with
            ⟨reply, kept, later, -, executed, sameId, noted⟩ |
              ⟨failure, later, -, executed, fatal, noted⟩
          · left
            refine ⟨request, _, kept, later, asks, executed, sameId, noted,
              fun failure failed => ?_⟩
            by_cases success : reply.tag = .success
            · rcases Instruction.outcome_of_success asks success with
                ⟨text, shown⟩
              rw [shown] at failed
              cases failed
            · rw [Instruction.outcome_of_refusal asks success] at failed
              cases failed
              exact ⟨_, rfl⟩
          · right
            exact ⟨request, failure, _, later, asks, executed, fatal,
              Link.taken_isPrefix request link, noted⟩

/-- A failure after which a dialogue goes on: the server did not carry a
request out, or a line that is not empty gave no instruction. -/
def IsReportable (failure : Failure) : Prop :=
  (∃ refusal, failure = .refused refusal) ∨
    ∃ text, failure = .usage text ∧ text ≠ "empty command"

/-- A line that is followed by another prompt keeps the connection. -/
theorem Passes.keeps
    {round : Round} (passes : Passes line client recorded round after later)
    (held : client.held? = some id) :
    after.held? = some id ∧
      later.record = recorded.record ++ heardOf id [line] ∧
      ∀ failure, round = .reported failure → IsReportable failure := by
  rcases Option.map_eq_some_iff.mp held with ⟨link, linked, rfl⟩
  have silent : request? line = none → heardOf link.connection.id [line] = [] :=
    fun asks => by simp [heardOf, asks]
  have asked : ∀ request, request? line = some request →
      heardOf link.connection.id [line] =
        [.heard link.connection.id request.bytes] :=
    fun request asks => by simp [heardOf, asks]
  cases passes with
  | skipped blank =>
      rw [silent (request?_of_isBlankLine blank), List.append_nil]
      exact ⟨held, rfl, fun _ isReported => nomatch isReported⟩
  | shown solid answered =>
      rcases answer_cases linked line recorded with
        ⟨result, asks, same, -⟩ |
          ⟨request, result, kept, left, asks, same, sameId, noted, -⟩ |
          ⟨request, failure, bytes, left, asks, same, -⟩
      · cases answered.symm.trans same
        rw [silent asks, List.append_nil]
        exact ⟨held, rfl, fun _ isReported => nomatch isReported⟩
      · cases answered.symm.trans same
        rw [asked request asks]
        exact ⟨congrArg some sameId, noted,
          fun _ isReported => nomatch isReported⟩
      · cases answered.symm.trans same
  | reported solid answered mild =>
      rcases answer_cases linked line recorded with
        ⟨result, asks, same, refused⟩ |
          ⟨request, result, kept, left, asks, same, sameId, noted, refused⟩ |
          ⟨request, failure, bytes, left, asks, same, fatal, -⟩
      · cases answered.symm.trans same
        rw [silent asks, List.append_nil]
        refine ⟨held, rfl, ?_⟩
        rintro failure ⟨⟩
        rcases Instruction.usage_of_parse (refused _ rfl) with
          ⟨text, isUsage, empty⟩
        refine .inr ⟨text, isUsage, fun isEmpty => ?_⟩
        rw [empty.mp isEmpty] at solid
        cases solid
      · cases answered.symm.trans same
        rw [asked request asks]
        refine ⟨congrArg some sameId, noted, ?_⟩
        rintro failure ⟨⟩
        exact .inl (refused _ rfl)
      · cases answered.symm.trans same
        rw [fatal] at mild
        cases mild

/-- The connection is the same at every prompt, and the peer has heard one
whole frame for each line so far that sends a request. -/
theorem Leads.keeps
    {lines : List String} {rounds : List Round}
    (leads : Leads lines client recorded rounds after later)
    (held : client.held? = some id) :
    after.held? = some id ∧
      later.record = recorded.record ++ heardOf id lines ∧
      ∀ failure, .reported failure ∈ rounds → IsReportable failure := by
  induction leads with
  | nowhere client recorded =>
      exact ⟨held, (List.append_nil _).symm,
        fun _ isReported => nomatch isReported⟩
  | first passes leads induction =>
      rcases passes.keeps held with ⟨heldBetween, noted, reportable⟩
      rcases induction heldBetween with ⟨heldAfter, notedLater, others⟩
      refine ⟨heldAfter, ?_, ?_⟩
      · rw [notedLater, noted, List.append_assoc, ← heardOf_cons]
      · intro failure isReported
        rcases List.mem_cons.mp isReported with first | later
        · exact reportable failure first.symm
        · exact others failure later

/-- The first lines of those that lead somewhere lead to a prompt in
between. -/
theorem Leads.split
    {early others : List String} {rounds : List Round}
    (leads : Leads (early ++ others) client recorded rounds after later) :
    ∃ earlyRounds otherRounds between meanwhile,
      rounds = earlyRounds ++ otherRounds ∧
        Leads early client recorded earlyRounds between meanwhile ∧
        Leads others between meanwhile otherRounds after later := by
  induction early generalizing client recorded rounds with
  | nil => exact ⟨[], rounds, client, recorded, rfl, .nowhere _ _, leads⟩
  | cons line early induction =>
      cases leads with
      | first passes leads =>
          rcases induction leads with
            ⟨earlyRounds, otherRounds, between, meanwhile, rfl, before, on⟩
          exact ⟨_ :: earlyRounds, otherRounds, between, meanwhile, rfl,
            .first passes before, on⟩

/-- The request of the line at which a dialogue ends. -/
def lastRequest? (rest : List (Option String)) : Option Request :=
  rest.head?.join.bind request?

/-- When a dialogue ends, the connection is closed.  Only a failure that ends
it has the peer hear something more, and that begins the frame of the line. -/
theorem Ends.record_eq
    {rest : List (Option String)} {shown : String}
    {failure? : Option Failure}
    (ends : Ends client recorded rest shown failure? final)
    (held : client.held? = some id) :
    ∃ bytes,
      (∀ request, lastRequest? rest = some request →
        bytes <+: request.bytes) ∧
      final.record = recorded.record ++
        ((lastRequest? rest).toList.map (fun _ => .heard id bytes) ++
          [.closed id]) := by
  rcases Option.map_eq_some_iff.mp held with ⟨link, linked, rfl⟩
  have hungUp : (client.disconnect recorded).2.record =
      recorded.record ++ [.closed link.connection.id] := by
    simp only [Client.disconnect, linked]
    rfl
  -- Without a request nothing more is heard.
  have quietly : ∀ asked : Option Request, asked = none → ∃ bytes,
      (∀ request, asked = some request → bytes <+: request.bytes) ∧
      (client.disconnect recorded).2.record = recorded.record ++
        (asked.toList.map (fun _ => .heard link.connection.id bytes) ++
          [.closed link.connection.id]) := by
    rintro _ rfl
    refine ⟨[], ?_, hungUp⟩
    rintro request ⟨⟩
  cases ends with
  | input => exact quietly _ rfl
  | malformed others => exact quietly _ rfl
  | @leaves line others solid asked =>
      apply quietly
      show request? line = none
      rw [request?, asked]
      rfl
  | @breaks line others solid failure after later answered fatal =>
      rcases answer_cases linked line recorded with
        ⟨result, -, same, refused⟩ |
          ⟨request, result, kept, left, -, same, -, -, refused⟩ |
          ⟨request, failure, bytes, left, asks, same, -, begins, noted⟩
      · cases answered.symm.trans same
        rcases Instruction.usage_of_parse (refused _ rfl) with ⟨text, rfl, -⟩
        cases fatal
      · cases answered.symm.trans same
        rcases refused _ rfl with ⟨refusal, rfl⟩
        cases fatal
      · cases answered.symm.trans same
        have isLast : lastRequest? (some line :: others) = some request := asks
        rw [isLast, Client.disconnect_of_not_connected rfl]
        exact ⟨bytes, fun _ same => Option.some.inj same ▸ begins, noted⟩

/-! ## Whole dialogues -/

/-- The report of the program on a dialogue that connects. -/
theorem run_dialogue
    {endpoint : Endpoint} {network : ν} {client : Client} {opened : ν}
    (connected :
      (Client.ofEndpoint endpoint).connect network =
        (.returned (.ok ()), client, opened))
    (verbose : Bool) (input : Bytes) :
    CommandLine.Order.run ⟨endpoint, verbose, .dialogue⟩ input network =
      (.ofTranscript (.returned (.ok
          ((converse (linesOf input) client opened).1.after
            (greeting endpoint.address) ""))),
        (converse (linesOf input) client opened).2) := by
  simp only [CommandLine.Order.run, hold, connected]

/--
A dialogue keeps its session exactly until it ends.

Once it has connected, the lines of its input are passed one after the other
up to the end.  At every prompt the client has the connection that was opened
first, and the peer has heard the requests of the lines so far, one whole frame
for each line that sends one.  What is reported on the way are refusals and
lines that are misused, and none of these is called empty.

The dialogue ends with the end of the input, with a line that is no text, with
the instruction to leave, or with a failure that is fatal to the session.  The
line that ends it is the last one that is looked at, and of its request, if it
sends one, the peer hears at least the beginning.  In each case the connection
is closed, and the program reports the failure, if there is one, by its exit
code.
-/
theorem keeps_session_until_end
    {endpoint : Endpoint} {network : ν} {client : Client}
    {opened : Recorded ν}
    (connected :
      (Client.ofEndpoint endpoint).connect (Recorded.blank network) =
        (.returned (.ok ()), client, opened))
    (lines : List (Option String)) :
    ∃ id passed rest rounds atLast before shown failure? final,
      lines = passed.map some ++ rest ∧
      Leads passed client opened rounds atLast before ∧
      Ends atLast before rest shown failure? final ∧
      (∀ early others, passed = early ++ others →
        ∃ earlyRounds atPrompt meanwhile,
          Leads early client opened earlyRounds atPrompt meanwhile ∧
          atPrompt.held? = some id ∧
          meanwhile.record = .opened id :: heardOf id early) ∧
      (∀ failure, .reported failure ∈ rounds → IsReportable failure) ∧
      (∀ failure, failure? = some failure →
        failure.isSessionFatal = true) ∧
      (∃ bytes,
        (∀ request, lastRequest? rest = some request →
          bytes <+: request.bytes) ∧
        final.record = .opened id :: heardOf id passed ++
          ((lastRequest? rest).toList.map (fun _ => .heard id bytes) ++
            [.closed id])) ∧
      (∀ first others instead, rest = first :: others →
        converse (passed.map some ++ first :: instead) client opened =
          converse lines client opened) ∧
      ∀ verbose input, linesOf input = lines →
        CommandLine.Order.run ⟨endpoint, verbose, .dialogue⟩ input
            (Recorded.blank network) =
          ({ exitCode := if failure?.isSome then 1 else 0
             output := greeting endpoint.address ++
               (transcriptOf shown failure? rounds).output
             complaints := (transcriptOf shown failure? rounds).complaints
             failure? := failure? }, final) := by
  rcases Client.of_connected connected with ⟨link, linked, noted⟩
  have held : client.held? = some link.connection.id := by
    rw [Client.held?, linked]
    rfl
  rcases reachesEnd lines client opened with
    ⟨passed, rest, rounds, atLast, before, shown, failure?, final, isInput,
      leads, ends⟩
  have conversed := converse_of_leads leads ends
  rw [← isInput] at conversed
  have kept := leads.keeps held
  refine ⟨link.connection.id, passed, rest, rounds, atLast, before, shown,
    failure?, final, isInput, leads, ends, ?_, kept.2.2, ?_, ?_, ?_, ?_⟩
  · rintro early others rfl
    rcases leads.split with
      ⟨earlyRounds, -, atPrompt, meanwhile, -, leadsThere, -⟩
    rcases leadsThere.keeps held with ⟨heldThere, heard, -⟩
    rw [noted] at heard
    exact ⟨earlyRounds, atPrompt, meanwhile, leadsThere, heldThere, heard⟩
  · rintro failure rfl
    cases ends with
    | malformed others => rfl
    | breaks others solid answered fatal => exact fatal
  · rcases ends.record_eq kept.1 with ⟨bytes, begins, closed⟩
    rw [kept.2.1, noted] at closed
    exact ⟨bytes, begins, closed⟩
  · rintro first others instead rfl
    have sameEnd : Ends atLast before (first :: instead) shown failure?
        final := by
      cases ends with
      | malformed others => exact .malformed instead
      | leaves others solid asked => exact .leaves instead solid asked
      | breaks others solid answered fatal =>
          exact .breaks instead solid answered fatal
    rw [converse_of_leads leads sameEnd, conversed]
  · rintro verbose input rfl
    rw [run_dialogue connected, conversed]
    simp [CommandLine.Report.ofTranscript, Transcript.after]

/-- A silent peer ends a dialogue at the first line that needs it: what stands
behind that line is not looked at, and the connection is closed. -/
theorem ends_at_first_line_without_reply :
    ∃ report, ∃ final : Recorded Scripted,
      CommandLine.Order.run ⟨{}, false, .dialogue⟩
          (Text.encode " \nbogus\nping\nquit\n") (Recorded.blank {}) =
        (report, final) ∧
      report =
        { exitCode := 1
          output := greeting "127.0.0.1:8888" ++ prompt ++ prompt ++ prompt
          complaints := "Invalid command: Unknown command: bogus. " ++
            "Type 'help' for help.\n\n"
          failure? := some (.timeout "127.0.0.1:8888") } ∧
      final.record =
        [.opened 0, .heard 0 (Frame.bytes Request.ping), .closed 0] := by
  have connected :
      (Client.ofEndpoint {}).connect (Recorded.blank ({} : Scripted)) =
        (.returned (.ok ()), _, _) := rfl
  rcases keeps_session_until_end connected
      (linesOf (Text.encode " \nbogus\nping\nquit\n")) with
    ⟨id, passed, rest, rounds, atLast, before, shown, failure?, final,
      -, -, -, -, -, -, -, -, reported⟩
  have ran := reported false _ rfl
  refine ⟨_, final, ran, (congrArg Prod.fst ran).symm.trans ?_,
    (congrArg (·.2.record) ran).symm.trans ?_⟩
  · decide +kernel
  · decide +kernel

end Session

end Dialogue

end BlockWire
