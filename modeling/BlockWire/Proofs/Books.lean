import BlockWire.Proofs.Acting

/-!
# The books of a system

Each client keeps to the connection that it opened last, and its commands refer
to connections of its own, in the order in which they were opened.  These books
are in order whatever happens.  With them, what an event does to a system comes
down to what it does to the passages of its connections: it begins one, changes
one, or leaves all of them as they are.

The last theorem is the one by which everything else is shown: what holds of a
passage that begins, and is kept by every way in which passages change, holds
of all passages after every run.
-/

namespace BlockWire

/-! ## One client -/

/-- The books of a client on a network. -/
structure Party.Books (client : ClientId) (wire : Wire) (party : Party) :
    Prop where
  /-- The connection of a client is one that it opened. -/
  linked : ∀ link, party.client.link? = some link →
    link.connection.id < wire.opened ∧
      (wire.line link.connection.id).caller = client
  /-- It is the one that the client opened last. -/
  newest : ∀ link, party.client.link? = some link →
    ∀ id < wire.opened, (wire.line id).caller = client →
      id ≤ link.connection.id
  /-- Without a connection no reply is awaited. -/
  awaiting : party.client.link? = none → party.awaited? = none
  /-- Commands were issued over connections that the client opened. -/
  via : ∀ attempt ∈ party.history, ∀ id, attempt.via? = some id →
    id < wire.opened ∧ (wire.line id).caller = client
  /-- A command without a connection was turned down. -/
  unsent : ∀ attempt ∈ party.history, attempt.via? = none →
    attempt.answer = .error .notConnected
  /-- Later commands were issued over later connections. -/
  ascending : (party.history.filterMap (·.via?)).Pairwise (· ≤ ·)

theorem Wire.caller_change
    (id : ConnectionId) {change : Line → Line}
    (caller : ∀ line, (change line).caller = line.caller)
    (wire : Wire) (other : ConnectionId) :
    ((wire.change id change).line other).caller =
      (wire.line other).caller := by
  by_cases isIt : other = id
  · rw [isIt, line_change_self, caller]
  · rw [line_change_of_ne isIt]

namespace Party.Books

variable {calm : Prop} {client : ClientId} {wire later : Wire}
variable {party after : Party}

/-- The books do not depend on what is on the lines. -/
theorem of_wire
    (books : party.Books client wire) (opened : later.opened = wire.opened)
    (callers : ∀ id, (later.line id).caller = (wire.line id).caller) :
    party.Books client later where
  linked link isLink := by
    rw [opened, callers]
    exact books.linked link isLink
  newest link isLink id isOpen isCaller := by
    rw [opened] at isOpen
    rw [callers] at isCaller
    exact books.newest link isLink id isOpen isCaller
  awaiting := books.awaiting
  via attempt member id isVia := by
    rw [opened, callers]
    exact books.via attempt member id isVia
  unsent := books.unsent
  ascending := books.ascending

theorem line_of_opened
    (line : later.line = Function.update wire.line wire.opened wire.newLine)
    {id : ConnectionId} (isOpen : id < wire.opened) :
    later.line id = wire.line id := by
  rw [line, Function.update_of_ne (Nat.ne_of_lt isOpen)]

theorem via_of_opened
    (books : party.Books client wire)
    (line : later.line = Function.update wire.line wire.opened wire.newLine)
    (opened : later.opened = wire.opened + 1) :
    ∀ attempt ∈ party.history, ∀ id, attempt.via? = some id →
      id < later.opened ∧ (later.line id).caller = client := by
  intro attempt member id isVia
  rcases books.via attempt member id isVia with ⟨isOpen, isCaller⟩
  rw [line_of_opened line isOpen, opened]
  exact ⟨Nat.lt_succ_of_lt isOpen, isCaller⟩

/-- Another client may open a connection. -/
theorem of_opened
    (books : party.Books client wire) (other : wire.caller ≠ client)
    (line : later.line = Function.update wire.line wire.opened wire.newLine)
    (opened : later.opened = wire.opened + 1) :
    party.Books client later := by
  refine { books with
    linked := ?_, newest := ?_, via := books.via_of_opened line opened }
  · intro link isLink
    rcases books.linked link isLink with ⟨isOpen, isCaller⟩
    rw [line_of_opened line isOpen, opened]
    exact ⟨Nat.lt_succ_of_lt isOpen, isCaller⟩
  · intro link isLink id isOpen isCaller
    rw [opened] at isOpen
    rcases Nat.lt_succ_iff_lt_or_eq.mp isOpen with before | rfl
    · rw [line_of_opened line before] at isCaller
      exact books.newest link isLink id before isCaller
    · rw [line, Function.update_self] at isCaller
      exact absurd isCaller other

/-- The connection of an earlier command is not a later one than the
present. -/
theorem via_le_link
    (books : party.Books client wire) {link : Link}
    (linked : party.client.link? = some link) {id : ConnectionId}
    (member : id ∈ party.history.filterMap (·.via?)) :
    id ≤ link.connection.id := by
  rcases List.mem_filterMap.mp member with ⟨attempt, isAttempt, isVia⟩
  rcases books.via attempt isAttempt id isVia with ⟨isOpen, isCaller⟩
  exact books.newest link linked id isOpen isCaller

/-- A client that keeps or gives up its connection may have one more command
that was issued over it. -/
theorem of_moved
    (books : party.Books client wire) {link : Link} {new? : Option Attempt}
    {change : Line → Line}
    (linked : party.client.link? = some link)
    (same : ∀ other, after.client.link? = some other →
      other.connection.id = link.connection.id)
    (awaiting : after.client.link? = none → after.awaited? = none)
    (history : after.history = party.history ++ new?.toList)
    (via : ∀ attempt ∈ new?, attempt.via? = some link.connection.id)
    (caller : ∀ line, (change line).caller = line.caller) :
    after.Books client (wire.change link.connection.id change) := by
  have callers := Wire.caller_change link.connection.id caller wire
  have present := books.linked link linked
  have viaNew : ∀ attempt ∈ new?.toList,
      attempt.via? = some link.connection.id :=
    fun attempt new => via attempt (Option.mem_toList.mp new)
  refine
    { linked := ?_, newest := ?_, awaiting := awaiting
      via := ?_, unsent := ?_, ascending := ?_ }
  · intro other isLink
    rw [same other isLink, callers]
    exact present
  · intro other isLink id isOpen isCaller
    rw [same other isLink]
    rw [callers] at isCaller
    exact books.newest link linked id isOpen isCaller
  · intro attempt member id isVia
    rw [callers]
    rw [history] at member
    rcases List.mem_append.mp member with before | new
    · exact books.via attempt before id isVia
    · rw [viaNew attempt new] at isVia
      cases isVia
      exact present
  · intro attempt member isVia
    rw [history] at member
    rcases List.mem_append.mp member with before | new
    · exact books.unsent attempt before isVia
    · rw [viaNew attempt new] at isVia
      cases isVia
  · rw [history, List.filterMap_append, List.pairwise_append]
    refine ⟨books.ascending, ?_, ?_⟩
    · cases new? with
      | none => exact List.Pairwise.nil
      | some attempt => simp [via attempt rfl]
    · intro id before other new
      rcases List.mem_filterMap.mp new with ⟨attempt, isNew, isVia⟩
      rw [viaNew attempt isNew] at isVia
      cases isVia
      exact books.via_le_link linked before

/-- The client itself acts on the network. -/
theorem of_acts
    (books : party.Books client wire) (isClient : wire.caller = client)
    (acts : party.Acts calm wire after later) :
    after.Books client later := by
  cases acts with
  | rest later line opened =>
      exact books.of_wire opened (fun id => by rw [line])
  | opens peer later unlinked idle calmly line opened =>
      refine { books with
        linked := ?_, newest := ?_, awaiting := ?_
        via := books.via_of_opened line opened }
      · intro link isLink
        cases isLink
        rw [opened, line]
        exact ⟨Nat.lt_succ_self _, by
          rw [Client.newLink, Function.update_self]
          exact isClient⟩
      · intro link isLink id isOpen isCaller
        cases isLink
        rw [opened] at isOpen
        exact Nat.le_of_lt_succ isOpen
      · intro isNone
        cases isNone
  | unsent command unlinked =>
      refine { books with via := ?_, unsent := ?_, ascending := ?_ }
      · intro attempt member id isVia
        rcases List.mem_append.mp member with before | new
        · exact books.via attempt before id isVia
        · rw [List.mem_singleton.mp new] at isVia
          cases isVia
      · intro attempt member isVia
        rcases List.mem_append.mp member with before | new
        · exact books.unsent attempt before isVia
        · rw [List.mem_singleton.mp new]
      · simpa using books.ascending
  | moves link after new? change linked endpoint same awaiting history via
      caller move =>
      exact books.of_moved linked same awaiting history via caller

/-- Nothing is done on connections that have not come about. -/
theorem line_of_acts
    (books : party.Books client wire)
    (acts : party.Acts calm wire after later)
    {id : ConnectionId} (unopened : later.opened ≤ id) :
    later.line id = wire.line id := by
  cases acts with
  | rest later line opened => rw [line]
  | opens peer later unlinked idle calmly line opened =>
      rw [opened] at unopened
      rw [line, Function.update_of_ne (Nat.ne_of_gt unopened)]
  | unsent command unlinked => rfl
  | moves link after new? change linked endpoint same awaiting history via
      caller move =>
      have isOpen := (books.linked link linked).1
      exact Wire.line_change_of_ne
        (Nat.ne_of_gt (Nat.lt_of_lt_of_le isOpen unopened)) _ _

/-- Another client acts on the network. -/
theorem of_other
    (books : party.Books client wire) (other : wire.caller ≠ client)
    {actor : Party} (acts : actor.Acts calm wire after later) :
    party.Books client later := by
  cases acts with
  | rest later line opened =>
      exact books.of_wire opened (fun id => by rw [line])
  | opens peer later unlinked idle calmly line opened =>
      exact books.of_opened other line opened
  | unsent command unlinked => exact books
  | moves link after new? change linked endpoint same awaiting history via
      caller move =>
      exact books.of_wire rfl (Wire.caller_change _ caller wire)

end Party.Books

theorem Party.Acts.opened_le
    {calm : Prop} {party after : Party} {wire later : Wire}
    (acts : party.Acts calm wire after later) :
    wire.opened ≤ later.opened := by
  cases acts with
  | rest later line opened => exact Nat.le_of_eq opened.symm
  | opens peer later unlinked idle calmly line opened =>
      rw [opened]
      exact Nat.le_succ _
  | unsent command unlinked => exact Nat.le_refl _
  | moves => exact Nat.le_refl _

/-! ## All clients -/

/-- The books of a system. -/
structure System.Books (system : System) : Prop where
  clients : ∀ client, (system.party client).Books client system.wire
  /-- Requests were handled on connections that came about. -/
  log : ∀ handling ∈ system.log, handling.line < system.wire.opened
  /-- Nothing is done on a connection before it comes about. -/
  closed : ∀ id, system.wire.opened ≤ id →
    (system.wire.line id).stage = .closed

/-- The passage of a connection. -/
def System.passage (id : ConnectionId) (system : System) : Passage :=
  let line := system.wire.line id
  let party := system.party line.caller
  { id := id
    line := line
    limit := party.client.endpoint.payloadLimit
    link? := if party.via? = some id then party.client.link? else none
    awaited? := if party.via? = some id then party.awaited? else none
    attempts := party.history.filter (·.via? = some id)
    handled := system.log.filter (·.line = id) }

/-- A passage that begins. -/
inductive Passage.Begins (calm : Prop) : Passage → Prop where
  | opens
      (client : Client) (peer : String) (wire : Wire)
      (calmly : calm →
        wire.conditions.clientSink.IsWilling ∧
          wire.conditions.serverSink.IsWilling) :
      Begins calm
        { id := wire.opened
          line := wire.newLine
          limit := client.endpoint.payloadLimit
          link? := some (client.newLink peer wire)
          awaited? := none
          attempts := []
          handled := [] }

namespace System

variable {calm : Prop} {system : System}

/-- What becomes of the passages of a system: each one stays as it is or
changes in one of the ways in which passages change, and new ones begin. -/
structure Follows (calm : Prop) (system later : System) : Prop where
  opened : system.wire.opened ≤ later.wire.opened
  kept : ∀ id < system.wire.opened,
    later.passage id = system.passage id ∨
      Passage.Moves calm (system.passage id) (later.passage id)
  begun : ∀ id < later.wire.opened, system.wire.opened ≤ id →
    Passage.Begins calm (later.passage id)

/-- No passage begins. -/
theorem Follows.of_kept
    {later : System} (opened : later.wire.opened = system.wire.opened)
    (kept : ∀ id < system.wire.opened,
      later.passage id = system.passage id ∨
        Passage.Moves calm (system.passage id) (later.passage id)) :
    Follows calm system later where
  opened := Nat.le_of_eq opened.symm
  kept := kept
  begun _ isOpen unopened :=
    absurd (opened ▸ isOpen) (Nat.not_lt.mpr unopened)

/-- Nothing happens to the passages. -/
theorem Follows.refl (system : System) : Follows calm system system :=
  .of_kept rfl fun _ _ => .inl rfl

theorem filter_line_eq_nil
    {new : List Handling} {id other : ConnectionId}
    (news : ∀ handling ∈ new, handling.line = id) (different : other ≠ id) :
    new.filter (·.line = other) = [] := by
  rw [List.filter_eq_nil_iff]
  intro handling member
  rw [news handling member, decide_eq_true_eq]
  exact Ne.symm different

/-- The passage of a connection whose line changes. -/
theorem passage_of_change
    {later : System} {id : ConnectionId} {change : Line → Line}
    {new : List Handling}
    (wire : later.wire = system.wire.change id change)
    (party : later.party = system.party)
    (log : later.log = system.log ++ new)
    (news : ∀ handling ∈ new, handling.line = id)
    (caller : ∀ line, (change line).caller = line.caller) :
    later.passage id =
      { system.passage id with
        line := change (system.wire.line id)
        handled := (system.passage id).handled ++ new } := by
  have kept : new.filter (·.line = id) = new :=
    List.filter_eq_self.mpr fun handling member => by
      rw [news handling member, decide_eq_true_eq]
  simp only [passage, wire, party, log, Wire.line_change_self, caller,
    List.filter_append, kept]

/-- An event on the line of a connection changes its passage alone. -/
theorem follows_of_change
    {later : System} {id : ConnectionId} {change : Line → Line}
    {new : List Handling}
    (wire : later.wire = system.wire.change id change)
    (party : later.party = system.party)
    (log : later.log = system.log ++ new)
    (news : ∀ handling ∈ new, handling.line = id)
    (caller : ∀ line, (change line).caller = line.caller)
    (move :
      Passage.Moves calm (system.passage id)
        { system.passage id with
          line := change (system.wire.line id)
          handled := (system.passage id).handled ++ new }) :
    Follows calm system later := by
  refine .of_kept (by rw [wire, Wire.opened_change]) fun other isOpen => ?_
  by_cases isIt : other = id
  · subst isIt
    right
    rw [passage_of_change wire party log news caller]
    exact move
  · left
    simp only [passage, wire, party, log, Wire.line_change_of_ne isIt,
      List.filter_append, filter_line_eq_nil news isIt, List.append_nil]

/-- A passage is as it was if its line is, and if its client shows the same of
it. -/
theorem passage_update_of_same
    {wire : Wire} {client : ClientId} {after : Party} {id : ConnectionId}
    (line : wire.line id = system.wire.line id)
    (same : (system.wire.line id).caller = client →
      after.client.endpoint = (system.party client).client.endpoint ∧
        (system.party client).via? ≠ some id ∧ after.via? ≠ some id ∧
        after.history.filter (·.via? = some id) =
          (system.party client).history.filter (·.via? = some id)) :
    passage id
        { system with
          wire := wire
          party := Function.update system.party client after } =
      system.passage id := by
  by_cases isCaller : (system.wire.line id).caller = client
  · rcases same isCaller with ⟨endpoint, before, behind, history⟩
    simp only [passage, line, isCaller, Function.update_self, endpoint,
      if_neg before, if_neg behind, history]
  · simp only [passage, line, Function.update_of_ne isCaller]

/-- The passage of the connection that a client has. -/
theorem passage_of_via?
    {client : ClientId} {id : ConnectionId}
    (isCaller : (system.wire.line id).caller = client)
    (isVia : (system.party client).via? = some id ∨
      (system.party client).client.link? = none ∧
        (system.party client).awaited? = none) :
    system.passage id =
      Party.passage id (system.wire.line id)
        (system.log.filter (·.line = id)) (system.party client) := by
  rcases isVia with isVia | ⟨unlinked, idle⟩
  · simp only [passage, isCaller, isVia, if_true, Party.passage]
  · simp only [passage, isCaller, unlinked, idle, ite_self, Party.passage]

section

variable {client : ClientId} {wire later : Wire} {after : Party}

/-- A connection that comes about has a passage that begins. -/
theorem begins_of_opens
    (books : system.Books) (isClient : wire.caller = client)
    (sameOpened : wire.opened = system.wire.opened) (peer : String)
    (idle : (system.party client).awaited? = none)
    (calmly : calm →
      wire.conditions.clientSink.IsWilling ∧
        wire.conditions.serverSink.IsWilling)
    (line : later.line = Function.update wire.line wire.opened wire.newLine) :
    Passage.Begins calm
      (passage wire.opened
        { system with
          wire := later
          party := Function.update system.party client
            { system.party client with
              client :=
                { (system.party client).client with
                  link? := some
                    ((system.party client).client.newLink peer wire) } } }) := by
  have unopened : ¬ wire.opened < system.wire.opened :=
    Nat.not_lt.mpr (Nat.le_of_eq sameOpened.symm)
  have noAttempts : (system.party client).history.filter
      (·.via? = some wire.opened) = [] := by
    rw [List.filter_eq_nil_iff]
    intro attempt member isVia
    exact unopened ((books.clients client).via attempt member _
      (decide_eq_true_eq.mp isVia)).1
  have noneHandled : system.log.filter (·.line = wire.opened) = [] := by
    rw [List.filter_eq_nil_iff]
    intro handling member isIt
    have isOpen := books.log handling member
    rw [decide_eq_true_eq.mp isIt] at isOpen
    exact unopened isOpen
  have begins :=
    Passage.Begins.opens (system.party client).client peer wire calmly
  simpa [passage, line, isClient, Wire.newLine, Party.via?, Client.newLink,
    noAttempts, noneHandled, idle] using begins

/-- What happens on the connection of a client changes its passage. -/
theorem moves_of_moves
    (books : system.Books) (sameLine : wire.line = system.wire.line)
    {link : Link} {change : Line → Line}
    (linked : (system.party client).client.link? = some link)
    (same : ∀ other, after.client.link? = some other →
      other.connection.id = link.connection.id)
    (awaiting : after.client.link? = none → after.awaited? = none)
    (caller : ∀ line, (change line).caller = line.caller)
    (move : ∀ handled,
      Passage.Moves calm
        ((system.party client).passage link.connection.id
          (wire.line link.connection.id) handled)
        (after.passage link.connection.id
          (change (wire.line link.connection.id)) handled)) :
    Passage.Moves calm (system.passage link.connection.id)
      (passage link.connection.id
        { system with
          wire := wire.change link.connection.id change
          party := Function.update system.party client after }) := by
  have isCaller := ((books.clients client).linked link linked).2
  have isVia : (system.party client).via? = some link.connection.id := by
    rw [Party.via?, linked, Option.map_some]
  have stillCaller :
      ((wire.change link.connection.id change).line
        link.connection.id).caller = client := by
    rw [Wire.line_change_self, caller, sameLine]
    exact isCaller
  rw [passage_of_via? isCaller (.inl isVia), passage_of_via? stillCaller]
  · simp only [Function.update_self, Wire.line_change_self, sameLine]
    rw [← sameLine]
    exact move _
  · simp only [Function.update_self]
    cases stillLinked : after.client.link? with
    | none => exact .inr ⟨rfl, awaiting stillLinked⟩
    | some other =>
        left
        rw [Party.via?, stillLinked, Option.map_some, same other stillLinked]

/-- What a client does on the network changes the passage of its connection
alone, or begins one. -/
theorem follows_of_acts
    (books : system.Books) (isClient : wire.caller = client)
    (sameLine : wire.line = system.wire.line)
    (sameOpened : wire.opened = system.wire.opened)
    (acts : (system.party client).Acts calm wire after later) :
    Follows calm system
      { system with
        wire := later
        party := Function.update system.party client after } := by
  cases acts with
  | rest later line opened =>
      refine .of_kept (opened.trans sameOpened) fun id _ => .inl ?_
      simp only [passage, line, sameLine, Function.update_eq_self]
  | opens peer later unlinked idle calmly line opened =>
      refine ⟨?_, fun id before => .inl ?_, fun id isOpen unopened => ?_⟩
      · rw [opened, sameOpened]
        exact Nat.le_succ _
      · rw [← sameOpened] at before
        refine passage_update_of_same ?_ fun _ => ⟨rfl, ?_, ?_, rfl⟩
        · rw [Party.Books.line_of_opened line before, sameLine]
        · simp [Party.via?, unlinked]
        · simpa [Party.via?, Client.newLink] using Nat.ne_of_gt before
      · rw [opened] at isOpen
        have isNew : id = wire.opened :=
          Nat.le_antisymm (Nat.le_of_lt_succ isOpen) (sameOpened ▸ unopened)
        rw [isNew]
        exact begins_of_opens books isClient sameOpened peer idle calmly line
  | unsent command unlinked =>
      refine .of_kept sameOpened fun id _ => .inl ?_
      refine passage_update_of_same (by rw [sameLine])
        fun _ => ⟨rfl, ?_, ?_, ?_⟩
      · simp [Party.via?, unlinked]
      · simp [Party.via?, unlinked]
      · simp
  | moves link after new? change linked endpoint same awaiting history via
      caller move =>
      refine .of_kept sameOpened fun id _ => ?_
      by_cases isIt : id = link.connection.id
      · right
        rw [isIt]
        exact moves_of_moves books sameLine linked same awaiting caller move
      · left
        refine passage_update_of_same ?_ fun _ => ⟨endpoint, ?_, ?_, ?_⟩
        · rw [Wire.line_change_of_ne isIt, sameLine]
        · simpa [Party.via?, linked] using Ne.symm isIt
        · intro isVia
          rcases Option.map_eq_some_iff.mp isVia with ⟨other, isLink, isId⟩
          exact isIt (isId.symm.trans (same other isLink))
        · rw [history, List.filter_append]
          cases new? with
          | none => simp
          | some attempt =>
              simpa [via attempt rfl] using Ne.symm isIt

end

/-! ## Every event -/

theorem books_start (endpoint : ClientId → Endpoint) :
    (start endpoint).Books where
  clients client :=
    { linked := fun _ isLink => by cases isLink
      newest := fun _ isLink => by cases isLink
      awaiting := fun _ => rfl
      via := fun _ member => by cases member
      unsent := fun _ member => by cases member
      ascending := List.Pairwise.nil }
  log _ member := by cases member
  closed _ _ := rfl

/-- The books stay in order when only something on the lines changes. -/
theorem Books.of_lines
    {later : System} (books : system.Books)
    (party : later.party = system.party)
    (opened : later.wire.opened = system.wire.opened)
    (callers : ∀ id,
      (later.wire.line id).caller = (system.wire.line id).caller)
    (log : ∀ handling ∈ later.log, handling.line < system.wire.opened)
    (closed : ∀ id, system.wire.opened ≤ id →
      (later.wire.line id).stage = .closed) :
    later.Books where
  clients client := by
    rw [party]
    exact (books.clients client).of_wire opened callers
  log handling member := opened ▸ log handling member
  closed id unopened := closed id (opened ▸ unopened)

/-- The books stay in order when a client acts on the network. -/
theorem Books.of_acts
    (books : system.Books) {client : ClientId} {wire : Wire} {after : Party}
    {later : Wire}
    (isClient : wire.caller = client)
    (sameLine : wire.line = system.wire.line)
    (sameOpened : wire.opened = system.wire.opened)
    (acts : (system.party client).Acts calm wire after later) :
    System.Books
      { system with
        wire := later
        party := Function.update system.party client after } := by
  have before : ∀ other, (system.party other).Books other wire :=
    fun other => (books.clients other).of_wire sameOpened
      (fun id => by rw [sameLine])
  constructor
  · intro other
    by_cases isIt : other = client
    · subst isIt
      simp only [Function.update_self]
      exact (before other).of_acts isClient acts
    · simp only [Function.update_of_ne isIt]
      exact (before other).of_other (isClient ▸ Ne.symm isIt) acts
  · intro handling member
    have isOpen := books.log handling member
    rw [← sameOpened] at isOpen
    exact Nat.lt_of_lt_of_le isOpen acts.opened_le
  · intro id unopened
    have unopenedBefore : wire.opened ≤ id :=
      Nat.le_trans acts.opened_le unopened
    have closed := books.closed id (sameOpened ▸ unopenedBefore)
    rw [← sameLine] at closed
    rw [(before client).line_of_acts acts unopened]
    exact closed

theorem keeps_of_engage
    (books : system.Books) {client : ClientId}
    {act : Party → Wire → Party × Wire}
    (acts : ∀ wire : Wire, wire = { system.wire with caller := client } →
      (system.party client).Acts calm wire
        (act (system.party client) wire).1
        (act (system.party client) wire).2) :
    (system.engage client act).Books ∧
      Follows calm system (system.engage client act) := by
  have acted := acts { system.wire with caller := client } rfl
  constructor
  · refine books.of_acts ?_ ?_ ?_ acted
    all_goals rfl
  · refine follows_of_acts books ?_ ?_ ?_ acted
    all_goals rfl

theorem keeps_of_change
    (books : system.Books) {id : ConnectionId} {change : Line → Line}
    (caller : ∀ line, (change line).caller = line.caller)
    (closed : ∀ line : Line, line.stage = .closed →
      (change line).stage = .closed)
    (move :
      Passage.Moves calm (system.passage id)
        { system.passage id with line := change (system.wire.line id) }) :
    System.Books { system with wire := system.wire.change id change } ∧
      Follows calm system
        { system with wire := system.wire.change id change } := by
  constructor
  · refine books.of_lines rfl rfl (Wire.caller_change id caller system.wire)
      books.log fun other unopened => ?_
    have before := books.closed other unopened
    by_cases isIt : other = id
    · subst isIt
      rw [Wire.line_change_self]
      exact closed _ before
    · rw [Wire.line_change_of_ne isIt]
      exact before
  · refine follows_of_change rfl rfl (List.append_nil _).symm ?_ caller ?_
    · intro handling member
      cases member
    · rw [List.append_nil]
      exact move

theorem keeps_of_handle
    (books : system.Books) (id : ConnectionId)
    (calmly : calm → system.Calm (.handle id)) :
    (system.handle id).Books ∧ Follows calm system (system.handle id) := by
  unfold handle
  split
  · rename_i request holding
    have isOpen : id < system.wire.opened := by
      by_contra unopened
      rw [books.closed id (Nat.le_of_not_lt unopened)] at holding
      cases holding
    constructor
    · refine books.of_lines rfl rfl
        (Wire.caller_change id (Line.caller_respond _) system.wire) ?_ ?_
      · intro handling member
        rcases List.mem_append.mp member with before | new
        · exact books.log handling before
        · rw [List.mem_singleton.mp new]
          exact isOpen
      · intro other unopened
        have different : other ≠ id := Nat.ne_of_gt
          (Nat.lt_of_lt_of_le isOpen unopened)
        rw [Wire.line_change_of_ne different]
        exact books.closed other unopened
    · refine follows_of_change rfl rfl rfl ?_ (Line.caller_respond _) ?_
      · intro handling member
        rw [List.mem_singleton.mp member]
      · exact .handle request _ holding
          (fun isCalm => calmly isCalm request holding)
  · exact ⟨books, .refl system⟩

/-- Every event keeps the books, and changes passages only in the ways in
which passages change. -/
theorem keeps_step
    (books : system.Books) (event : Event)
    (calmly : calm → system.Calm event) :
    (system.step event).Books ∧ Follows calm system (system.step event) := by
  cases event with
  | connect client conditions =>
      let ready : System :=
        { system with
          wire := { system.wire with conditions := conditions } }
      have readyBooks : ready.Books :=
        books.of_lines rfl rfl (fun _ => rfl) books.log books.closed
      have kept :
          (ready.engage client Party.connect).Books ∧
            Follows calm ready (ready.engage client Party.connect) := by
        refine keeps_of_engage readyBooks fun wire isWire => ?_
        subst isWire
        exact Party.acts_connect calmly
      rcases kept with ⟨booksAfter, follows⟩
      exact ⟨booksAfter, follows.opened, follows.kept, follows.begun⟩
  | disconnect client =>
      exact keeps_of_engage books fun _ _ => Party.acts_disconnect
  | issue client command =>
      exact keeps_of_engage books fun _ _ => Party.acts_issue calmly
  | conclude client =>
      exact keeps_of_engage books fun _ _ =>
        Party.acts_conclude (books.clients client).awaiting calmly
  | deliver client count =>
      exact keeps_of_engage books fun _ _ => Party.acts_deliver
  | disturb client hindrance =>
      have kept :
          (system.engage client fun party wire =>
              (party.meet hindrance.arrival, wire)).Books ∧
            Follows calm system
              (system.engage client fun party wire =>
                (party.meet hindrance.arrival, wire)) :=
        keeps_of_engage books fun _ _ => Party.acts_meet calmly
      exact kept
  | forward id count =>
      exact keeps_of_change books (fun _ => rfl) (fun _ closed => closed)
        (.forward count)
  | hinder id hindrance =>
      exact keeps_of_change books (fun _ => rfl) (fun _ closed => closed)
        (.hinder hindrance calmly)
  | take id =>
      refine keeps_of_change books Line.caller_take ?_ (.take calmly)
      intro line closed
      rw [Line.take_of_closed closed, closed]
  | handle id => exact keeps_of_handle books id calmly
  | answer id =>
      refine keeps_of_change books Line.caller_answer ?_ .answer
      intro line closed
      rw [Line.answer_of_closed closed, closed]

/-! ## Every run -/

/-- What holds of passages that begin, and is kept by every way in which they
change, holds of the passages after an event. -/
theorem Follows.holds
    {later : System} {Holds : Passage → Prop}
    (follows : Follows calm system later)
    (begins : ∀ passage, Passage.Begins calm passage → Holds passage)
    (moves : ∀ passage after, Passage.Moves calm passage after →
      Holds passage → Holds after)
    (holds : ∀ id < system.wire.opened, Holds (system.passage id)) :
    ∀ id < later.wire.opened, Holds (later.passage id) := by
  intro id isOpen
  rcases Nat.lt_or_ge id system.wire.opened with before | unopened
  · rcases follows.kept id before with same | move
    · rw [same]
      exact holds id before
    · exact moves _ _ move (holds id before)
  · exact begins _ (follows.begun id isOpen unopened)

/-- It holds of the passages after every run, and the books are in order. -/
theorem holds_of_run
    {Holds : Passage → Prop}
    (begins : ∀ passage, Passage.Begins calm passage → Holds passage)
    (moves : ∀ passage after, Passage.Moves calm passage after →
      Holds passage → Holds after)
    {events : List Event}
    (books : system.Books)
    (calmly : calm → system.CalmThroughout events)
    (holds : ∀ id < system.wire.opened, Holds (system.passage id)) :
    (system.run events).Books ∧
      ∀ id < (system.run events).wire.opened,
        Holds ((system.run events).passage id) := by
  induction events generalizing system with
  | nil => exact ⟨books, holds⟩
  | cons event events induction =>
      rcases keeps_step books event (fun isCalm => (calmly isCalm).1) with
        ⟨booksAfter, follows⟩
      exact induction booksAfter (fun isCalm => (calmly isCalm).2)
        (follows.holds begins moves holds)

end System

end BlockWire
