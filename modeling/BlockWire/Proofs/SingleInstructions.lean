import BlockWire.Network.Hosted
import BlockWire.Proofs.Dialogues
import BlockWire.Proofs.InputLines
import BlockWire.Proofs.Renderings

/-!
# One instruction, from the arguments or from a line

The program gets an instruction from the name of a command and its arguments,
and the shell gets one from a line.  If the line is made of the same name and
of the same arguments between quotes, it is the same instruction.

The rest is then about a single instruction and the connection it is given.
On its own it ends with a report for the caller, in a dialogue with what the
shell shows; in both cases the peer hears the same, and the connection is
closed.
-/

namespace BlockWire

/-! ## Lines with quoted operands -/

namespace Instruction

variable {instruction : Instruction} {name line : String}

theorem solid_of_mem_names (named : name ∈ instruction.names) :
    ∀ character ∈ name.toList, Text.isBlank character = false := by
  intro character member
  have plain := (isPlain_of_mem_names name named).2
  exact ((Text.spells_self plain).solid plain character member).1

/-- A line that gives an instruction is not blank. -/
theorem isBlankLine_of_parse (parsed : parse line = .ok instruction) :
    Text.isBlankLine line = false := by
  cases blank : Text.isBlankLine line with
  | false => rfl
  | true =>
      cases parsed.symm.trans (parse_of_isBlankLine blank)

/-- A line has no line feed if its operands have none. -/
theorem unbroken_lineOf
    (named : name ∈ instruction.names) {operands : List String}
    (unbroken : ∀ operand ∈ operands, '\n' ∉ operand.toList) :
    '\n' ∉ (lineOf name operands).toList := by
  have notInName : '\n' ∉ name.toList := fun member =>
    absurd (solid_of_mem_names named _ member) (by decide)
  have notQuote : '\n' ≠ Shell.quote := by decide
  simpa [lineOf, Shell.quotedWords, notInName, notQuote] using unbroken

/-- A line ends with a quote or with its name, so nothing at its end is taken
for a part of the line's end. -/
theorem getLast?_lineOf
    (named : name ∈ instruction.names) (operands : List String) :
    (lineOf name operands).toList.getLast? ≠ some '\r' := by
  intro ends
  rw [lineOf, String.toList_ofList] at ends
  rcases List.eq_nil_or_concat operands with rfl | ⟨early, last, rfl⟩
  · have member : '\r' ∈ name.toList := by
      apply List.mem_of_getLast?
      simpa [Shell.quotedWords] using ends
    exact absurd (solid_of_mem_names named _ member) (by decide)
  · have ending :
        name.toList ++ Shell.quotedWords (early.concat last) =
          name.toList ++ Shell.quotedWords early ++
            ' ' :: Shell.quote :: last.toList ++ [Shell.quote] := by
      simp [Shell.quotedWords]
    rw [ending, List.getLast?_concat] at ends
    exact absurd (Option.some.inj ends) (by decide)

end Instruction

/-! ## A dialogue about one line -/

namespace Dialogue

variable {instruction : Instruction} {name line : String}

/-- The line of an instruction is typed in as one line. -/
theorem linesOf_lineOf
    (named : name ∈ instruction.names) {operands : List String}
    (unbroken : ∀ operand ∈ operands, '\n' ∉ operand.toList) :
    linesOf
        (Text.encode (Instruction.lineOf name operands ++ "\n")) =
      [some (Instruction.lineOf name operands)] := by
  have single := linesOf_encode
    (List.forall_mem_singleton.mpr
      (Instruction.unbroken_lineOf named unbroken))
    (List.forall_mem_singleton.mpr
      (Instruction.getLast?_lineOf named operands))
  rwa [List.flatMap_singleton] at single

variable {ν : Type} [Network ν]

/-- However a line that is not blank is answered, a dialogue about it alone
ends disconnected right after it. -/
theorem converse_line
    (solid : Text.isBlankLine line = false)
    (client : Client) (network : ν) :
    (converse [some line] client network).2 =
      ((answer line client network).2.1.disconnect
        (answer line client network).2.2).2 := by
  rcases answered : answer line client network with ⟨result, after, later⟩
  cases turn : Turn.ofResult result with
  | goesOn output complaints =>
      rw [converse_of_goesOn solid answered turn]
      rfl
  | ends output failure? => rw [converse_of_ended solid answered turn]

/-- A line is carried out by carrying out its instruction. -/
theorem answer_of_parse
    (parsed : Instruction.parse line = .ok instruction)
    (client : Client) (network : ν) :
    answer line client network =
      instruction.execute client network := by
  rw [answer, parsed]

end Dialogue

/-! ## The line of a command -/

namespace CommandLine

variable {name : String} {command : Command} {said : Said}
variable {instruction : Instruction}

/-- What stands behind the name of a command when it is put on a line: its
words, or the option that gives the level of detail. -/
def Command.operands (command : Command) (said : Said) : List String :=
  match command with
  | .status =>
      (if said.memory then ["--memory"] else []) ++
        if said.block then ["--block"] else []
  | _ => said.words

/-- The instruction of a command may have the name of the command as its first
word on a line, and what is said after the name as its operands. -/
theorem names_and_operands_of_task?
    (named : Command.ofName? name = some command)
    (asked : command.task? said = some (.single instruction)) :
    name ∈ instruction.names ∧
      instruction.operands = command.operands said := by
  unfold Command.task? at asked
  split at asked
  case h_7 | h_8 => cases asked
  case h_5 isWords =>
    split at asked
    case h_4 => cases asked
    all_goals
      cases asked
      unfold Command.ofName? at named
      split at named <;> cases named
      refine ⟨List.mem_cons_self, ?_⟩
      simp only [Command.operands, *]
      rfl
  all_goals
    cases asked
    unfold Command.ofName? at named
    split at named <;> cases named
    all_goals
      refine ⟨by simp [Instruction.names], ?_⟩
      simp only [Command.operands, *]
      rfl

/-- An instruction with the name of a command needs the server. -/
theorem exists_request_of_ofName?
    (named : Command.ofName? name = some command)
    (isName : name ∈ instruction.names) :
    ∃ request, instruction.request? = some request := by
  cases asks : instruction.request? with
  | some request => exact ⟨request, rfl⟩
  | none =>
      rcases Instruction.request?_eq_none_iff.mp asks with rfl | rfl
      · cases List.mem_singleton.mp isName
        cases named
      · simp only [Instruction.names, List.mem_cons, List.not_mem_nil,
          or_false] at isName
        rcases isName with rfl | rfl <;> cases named

/-- The line of a command gives the instruction of the command, if there are
no quotes in what is said after its name. -/
theorem parse_lineOf
    (named : Command.ofName? name = some command)
    (asked : command.task? said = some (.single instruction))
    (quoteFree : ∀ operand ∈ command.operands said,
      Shell.quote ∉ operand.toList) :
    Instruction.parse
        (Instruction.lineOf name (command.operands said)) =
      .ok instruction := by
  rcases names_and_operands_of_task? named asked with ⟨isName, same⟩
  rw [← same] at quoteFree ⊢
  have noQuote : instruction.IsQuoteFree := fun field isField =>
    quoteFree field (instruction.fields_subset_operands isField)
  exact Instruction.parse_of_renders noQuote
    (Instruction.renders_lineOf isName)

/-! ## Runs of the program -/

section Runs

variable {ν : Type} [Network ν]
variable {endpoint : Endpoint} {client : Client} {network later : ν}

/-- What a task says that is cut short. -/
def Task.panic : Task → Panic
  | .single _ => .ofCommand
  | .dialogue => .ofDialogue

theorem run_of_aborted
    (cut :
      (Client.ofEndpoint endpoint).connect network =
        (.aborted, client, later))
    (verbose : Bool) (task : Task) (input : Bytes) :
    Order.run ⟨endpoint, verbose, task⟩ input network =
      (.ofPanic task.panic, later) := by
  cases task with
  | single instruction =>
      simp only [Order.run, Client.withSession_of_aborted cut,
        Report.ofShown, Task.panic]
  | dialogue =>
      simp only [Order.run, Dialogue.hold, cut, Report.ofTranscript,
        Task.panic]

/-- Both kinds of orders report why there is no connection. -/
theorem run_of_failed
    {failure : Failure}
    (failed :
      (Client.ofEndpoint endpoint).connect network =
        (.returned (.error failure), client, later))
    (verbose : Bool) (task : Task) (input : Bytes) :
    Order.run ⟨endpoint, verbose, task⟩ input network =
      ({ exitCode := 1, failure? := some failure }, later) := by
  cases task with
  | single instruction =>
      simp only [Order.run, Client.withSession_of_failed failed,
        Report.ofShown]
  | dialogue =>
      simp only [Order.run, Dialogue.hold, failed, Report.ofTranscript]

theorem run_single_of_connected
    (connected :
      (Client.ofEndpoint endpoint).connect network =
        (.returned (.ok ()), client, later))
    (verbose : Bool) (instruction : Instruction) (input : Bytes) :
    Order.run ⟨endpoint, verbose, .single instruction⟩ input network =
      (.ofShown (.returned (instruction.execute client later).1),
        ((instruction.execute client later).2.1.disconnect
          (instruction.execute client later).2.2).2) := by
  simp only [Order.run, Client.withSession_of_connected connected, bodyOf]

/-- A single instruction and a dialogue about its line do the same to the
network. -/
theorem network_of_connected
    (connected :
      (Client.ofEndpoint endpoint).connect network =
        (.returned (.ok ()), client, later))
    {line : String} (parsed : Instruction.parse line = .ok instruction)
    {typed : Bytes} (isTyped : Dialogue.linesOf typed = [some line])
    (verbose : Bool) (input : Bytes) :
    (Order.run ⟨endpoint, verbose, .single instruction⟩ input network).2 =
      (Order.run ⟨endpoint, verbose, .dialogue⟩ typed network).2 := by
  rw [run_single_of_connected connected, Dialogue.run_dialogue connected,
    isTyped, Dialogue.converse_line (Instruction.isBlankLine_of_parse parsed),
    Dialogue.answer_of_parse parsed]

end Runs

/-! ## One connection for one instruction -/

section Sessions

variable {ν : Type} [Network ν]

/--
A single instruction that needs the server is given a connection.  The peer
hears the request on it, and it is closed.  With a reply that says so this is a
success, and the text that is shown is what the program writes.  In every other
case the program writes nothing and fails like the instruction.
-/
theorem report_of_connected
    {request : Request} (asks : instruction.request? = some request)
    {endpoint : Endpoint} {network opened : Recorded ν} {client : Client}
    {link : Link} (linked : client.link? = some link)
    (connected :
      (Client.ofEndpoint endpoint).connect network =
        (.returned (.ok ()), client, opened))
    (verbose : Bool) (input : Bytes) :
    let single :=
      Order.run ⟨endpoint, verbose, .single instruction⟩ input network
    single.2.record = opened.record ++
        [.heard link.connection.id (link.taken request),
          .closed link.connection.id] ∧
      ((∃ reply text,
          link.Answers request reply opened ∧ reply.tag = .success ∧
          (instruction.execute client opened).1 = .ok (.text text) ∧
          single.1 = { exitCode := 0, output := text ++ "\n" }) ∨
        ∃ failure,
          (∀ reply, link.Answers request reply opened →
            reply.tag ≠ .success) ∧
          (instruction.execute client opened).1 = .error failure ∧
          single.1 = { exitCode := 1, failure? := some failure }) := by
  rw [run_single_of_connected connected]
  rcases Instruction.execute_of_connected asks linked opened with
    ⟨reply, kept, later, answers, executed, sameId, noted⟩ |
      ⟨failure, later, unanswered, executed, -, noted⟩
  · rw [executed]
    constructor
    · have whole : link.taken request = request.bytes :=
        Link.taken_of_submit (Link.answers_iff_submitted.mp answers).1
      show later.record ++ [.closed kept.connection.id] = _
      rw [noted, sameId, whole, List.append_assoc]
      rfl
    · by_cases success : reply.tag = .success
      · rcases Instruction.outcome_of_success asks success with
          ⟨text, shown⟩
        simp only [shown]
        exact .inl ⟨reply, text, answers, success, rfl, rfl⟩
      · simp only [Instruction.outcome_of_refusal asks success]
        refine .inr ⟨_, fun other otherAnswers => ?_, rfl, rfl⟩
        rwa [otherAnswers.unique answers]
  · rw [executed, Client.disconnect_of_not_connected rfl]
    exact ⟨noted, .inr ⟨failure,
      fun reply answers => absurd answers (unanswered reply), rfl, rfl⟩⟩

/--
The program does for one command what a dialogue does for one line.

The line has the name of the command and, between quotes, what is said after
it; there are no quotes and no line feeds in that.  Carrying out the command
has the same effect on the network, and is heard and recorded in the same way,
as a dialogue whose input is this line.

If there is no connection both report the same failure.  Otherwise one
connection is opened, the request of the line is heard on it, in full if it is
submitted, and the connection is closed.  If the server answers with a success,
the program writes the text that the line is answered with and ends with exit
code zero.  In every other case it writes nothing, and fails with what the line
fails with.

The exception is a deadline beyond the clock, which cuts both short with a panic
instead of a failure, and before anything is opened.
-/
theorem single_agrees_with_line
    (named : Command.ofName? name = some command)
    (asked : command.task? said = some (.single instruction))
    (enclosed : ∀ operand ∈ command.operands said,
      Shell.quote ∉ operand.toList ∧ '\n' ∉ operand.toList)
    (endpoint : Endpoint) (verbose : Bool) (input : Bytes) (network : ν) :
    let line := Instruction.lineOf name (command.operands said)
    let single :=
      Order.run ⟨endpoint, verbose, .single instruction⟩ input
        (Recorded.blank network)
    let dialogue :=
      Order.run ⟨endpoint, verbose, .dialogue⟩
        (Text.encode (line ++ "\n")) (Recorded.blank network)
    single.2 = dialogue.2 ∧
    (Deadline.IsBeyond endpoint.timeout (Network.clock network).1 →
      single.1 = .ofPanic .ofCommand ∧ dialogue.1 = .ofPanic .ofDialogue ∧
        single.2.record = []) ∧
    (¬ Deadline.IsBeyond endpoint.timeout (Network.clock network).1 →
      (∃ cause later,
        (Client.ofEndpoint endpoint).connect (Recorded.blank network) =
          (.returned (.error (.connection endpoint.address cause)),
            Client.ofEndpoint endpoint, later) ∧
        single.1 =
          { exitCode := 1
            failure? := some (.connection endpoint.address cause) } ∧
        dialogue.1 = single.1 ∧
        single.2.record = []) ∨
      ∃ client link opened request,
        (Client.ofEndpoint endpoint).connect (Recorded.blank network) =
          (.returned (.ok ()), client, opened) ∧
        client.link? = some link ∧
        Dialogue.request? line = some request ∧
        single.2.record =
          [.opened link.connection.id,
            .heard link.connection.id (link.taken request),
            .closed link.connection.id] ∧
        link.taken request <+: request.bytes ∧
        ((link.submit request opened).1 = .ok () →
          link.taken request = request.bytes) ∧
        ((∃ reply text,
            link.Answers request reply opened ∧ reply.tag = .success ∧
            (Dialogue.answer line client opened).1 = .ok (.text text) ∧
            single.1 = { exitCode := 0, output := text ++ "\n" }) ∨
          ∃ failure,
            (∀ reply, link.Answers request reply opened →
              reply.tag ≠ .success) ∧
            (Dialogue.answer line client opened).1 = .error failure ∧
            single.1 = { exitCode := 1, failure? := some failure })) := by
  intro line single dialogue
  have parsed : Instruction.parse line = .ok instruction :=
    parse_lineOf named asked fun operand member => (enclosed operand member).1
  rcases names_and_operands_of_task? named asked with ⟨isName, -⟩
  rcases exists_request_of_ofName? named isName with ⟨request, asks⟩
  by_cases beyond :
      Deadline.IsBeyond endpoint.timeout (Network.clock network).1
  · have cut : (Client.ofEndpoint endpoint).connect (Recorded.blank network) =
        _ :=
      Client.connect_of_isBeyond
        (Client.not_connected_ofEndpoint endpoint) beyond
    have singleCut : single = _ := run_of_aborted cut verbose _ input
    have dialogueCut : dialogue = _ := run_of_aborted cut verbose _ _
    rw [singleCut, dialogueCut]
    exact ⟨rfl, fun _ => ⟨rfl, rfl, rfl⟩, fun within => absurd beyond within⟩
  rcases Client.record_connect (Client.not_connected_ofEndpoint endpoint)
      (Recorded.blank network) beyond with
    ⟨link, opened, connected, noted⟩ | ⟨cause, later, failed, noted⟩
  · have typed := Dialogue.linesOf_lineOf isName fun operand member =>
      (enclosed operand member).2
    have requested : Dialogue.request? line = some request := by
      rw [Dialogue.request?, parsed]
      exact asks
    have reported := report_of_connected asks rfl connected verbose input
    rw [noted, ← Dialogue.answer_of_parse parsed] at reported
    exact ⟨network_of_connected connected parsed typed verbose input,
      fun isBeyond => absurd isBeyond beyond,
      fun _ => .inr ⟨_, link, opened, request, connected, rfl, requested,
        reported.1, Link.taken_isPrefix request link, Link.taken_of_submit,
        reported.2⟩⟩
  · have singleFailed : single = _ := run_of_failed failed verbose _ input
    have dialogueFailed : dialogue = _ := run_of_failed failed verbose _ _
    rw [singleFailed, dialogueFailed]
    exact ⟨rfl, fun isBeyond => absurd isBeyond beyond,
      fun _ => .inl ⟨cause, later, failed, rfl, rfl, noted⟩⟩

/-- A description with white space around it and a content that is empty: a
server gets the same from the arguments and from the line. -/
theorem single_alloc_of_spaced_description :
    ∃ report, ∃ final : Recorded Hosted,
      Order.run ⟨{}, false, .single (.alloc " a\tb " "")⟩ []
          (Recorded.blank {}) = (report, final) ∧
      (Order.run ⟨{}, false, .dialogue⟩
          (Text.encode "alloc \" a\tb \" \"\"\n")
          (Recorded.blank {})).2 = final ∧
      report =
        { exitCode := 0
          output := "Allocation successful. Memory ID: m1\n" } ∧
      final.record =
        [.opened 0,
          .heard 0 (Frame.bytes (Request.alloc " a\tb " "")),
          .closed 0] := by
  have named : Command.ofName? "alloc" = some .alloc := rfl
  have asked : Command.alloc.task? { words := [" a\tb ", ""] } =
      some (.single (.alloc " a\tb " "")) := rfl
  have enclosed :
      ∀ operand ∈ Command.alloc.operands { words := [" a\tb ", ""] },
        Shell.quote ∉ operand.toList ∧ '\n' ∉ operand.toList := by
    decide
  have agrees := single_agrees_with_line named asked enclosed {} false []
    ({} : Hosted)
  refine ⟨_, _, rfl, agrees.1.symm, ?_, ?_⟩
  · decide +kernel
  · decide +kernel

/-- Under a time limit whose deadline lies beyond the clock a command comes back
with neither a success nor a failure. -/
theorem single_aborted_beyond_clock :
    (Order.run
        ⟨{ timeout := seconds 18446744073709551615 }, false,
          .single (.delete "m1")⟩ []
        (Recorded.blank ({} : Scripted))).1 =
      .ofPanic .ofCommand := by
  rfl

end Sessions

end CommandLine

end BlockWire
