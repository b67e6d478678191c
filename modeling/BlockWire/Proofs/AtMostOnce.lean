import BlockWire.Proofs.Shares
import BlockWire.Proofs.Sound
import Mathlib.Data.List.Flatten

/-!
# Requests take effect at most once

Whatever the network does to the bytes and whatever the clients do next, each
command has its share of what the server handled: nothing, or its own request,
once.  A command that got a response has exactly one request handled, and the
response is the reply that the server made to it.

On one connection this is a matter of counting.  The server handles requests
in the order in which they were asked, and replies are received in the order
in which they were made, so the request that is handled next belongs to the
first command without a reply, and only the last command may be one.

A client has one connection after the other, and each connection is served on
its own.  The server may therefore come late to a request of a connection that
its client has left, and handle one of a later connection before.  The shares
are in the order of the commands; what was handled for a client is in that
order connection by connection, and as a whole unless the server came late.
-/

namespace BlockWire

/-! ## What a command is given -/

/-- A command that a client issued. -/
structure Issued where
  command : Command
  /-- The connection that the client had when it issued the command. -/
  via? : Option ConnectionId
  /-- What the command ended with, unless its reply is still awaited. -/
  ending? : Option (Except Failure Client.Finding)

/-- A command that has ended. -/
def Attempt.issued (attempt : Attempt) : Issued :=
  ⟨attempt.command, attempt.via?, some attempt.ending⟩

/-- The commands that a client issued, oldest first. -/
def Party.issued (party : Party) : List Issued :=
  party.history.map Attempt.issued ++
    party.awaited?.toList.map fun command => ⟨command, party.via?, none⟩

/-- A command ended with what the server answered: its success or its
refusal. -/
def IsResponse (ending : Except Failure Client.Finding) : Prop :=
  (∃ finding, ending = .ok finding) ∨
    ∃ refusal, ending = .error (.refused refusal)

/-- What may have been handled for a command. -/
structure Issued.Allows (issued : Issued) (share : List Handling) :
    Prop where
  /-- Nothing, or the request of the command itself, once. -/
  atMostOnce : share = [] ∨
    ∃ handling, share = [handling] ∧
      handling.request = issued.command.request ∧
      issued.via? = some handling.line
  /-- Once, if there is a response, which then is the reply to it. -/
  answered : ∀ ending, issued.ending? = some ending → IsResponse ending →
    ∃ handling, share = [handling] ∧
      ending = issued.command.step.outcome handling.reply
  /-- Nothing, if there was no connection. -/
  unsent : issued.ending? = some (.error .notConnected) → share = []
  /-- There is no other failure than one that ended the session. -/
  failed : ∀ failure, issued.ending? = some (.error failure) →
    failure = .notConnected ∨ failure.isSessionFatal = true ∨
      ∃ refusal, failure = .refused refusal

theorem Client.Step.isResponse_outcome
    (step : Client.Step) (reply : Reply) :
    IsResponse (step.outcome reply) := by
  cases step with
  | call asked =>
      simp only [outcome]
      split
      · exact .inl ⟨_, rfl⟩
      · exact .inr ⟨_, rfl⟩
  | send => exact .inl ⟨_, rfl⟩
  | connect => exact .inl ⟨_, rfl⟩
  | disconnect => exact .inl ⟨_, rfl⟩
  | abort => exact .inl ⟨_, rfl⟩

namespace Issued

variable {command : Command} {id : ConnectionId}

theorem allows_of_answered
    {handling : Handling}
    (request : handling.request = command.request)
    (line : handling.line = id) :
    Allows
      (Attempt.issued ⟨command, some id, .ok handling.reply⟩)
      [handling] where
  atMostOnce := .inr ⟨handling, rfl, request, by rw [line]; rfl⟩
  answered ending isEnding _ := by
    cases isEnding
    exact ⟨handling, rfl, rfl⟩
  unsent isUnsent := by
    have response := command.step.isResponse_outcome handling.reply
    rw [show command.step.outcome handling.reply = .error .notConnected from
      Option.some.inj isUnsent] at response
    rcases response with ⟨_, same⟩ | ⟨_, same⟩ <;> cases same
  failed failure isFailure := by
    have response := command.step.isResponse_outcome handling.reply
    rw [show command.step.outcome handling.reply = .error failure from
      Option.some.inj isFailure] at response
    rcases response with ⟨_, same⟩ | ⟨refusal, same⟩
    · cases same
    · cases same
      exact .inr (.inr ⟨refusal, rfl⟩)

theorem allows_of_broken
    {failure : Failure} {share : List Handling}
    (fatal : failure.isSessionFatal = true)
    (atMostOnce : share = [] ∨
      ∃ handling, share = [handling] ∧
        handling.request = command.request ∧ handling.line = id) :
    Allows (Attempt.issued ⟨command, some id, .error failure⟩) share where
  atMostOnce := atMostOnce.imp_right fun ⟨handling, once, request, line⟩ =>
    ⟨handling, once, request, by rw [line]; rfl⟩
  answered ending isEnding response := by
    cases isEnding
    rcases response with ⟨_, same⟩ | ⟨_, same⟩
    · cases same
    · cases same
      cases fatal
  unsent isUnsent := by
    cases isUnsent
    cases fatal
  failed other isFailure := by
    cases isFailure
    exact .inr (.inl fatal)

theorem allows_of_awaited
    {share : List Handling}
    (atMostOnce : share = [] ∨
      ∃ handling, share = [handling] ∧
        handling.request = command.request ∧ handling.line = id) :
    Allows ⟨command, some id, none⟩ share where
  atMostOnce := atMostOnce.imp_right fun ⟨handling, once, request, line⟩ =>
    ⟨handling, once, request, by rw [line]⟩
  answered _ isEnding := by cases isEnding
  unsent isUnsent := by cases isUnsent
  failed _ isFailure := by cases isFailure

theorem allows_of_unsent
    {issued : Issued}
    (unsent : issued.ending? = some (.error .notConnected)) :
    issued.Allows [] where
  atMostOnce := .inl rfl
  answered ending isEnding response := by
    rw [unsent] at isEnding
    cases isEnding
    rcases response with ⟨_, same⟩ | ⟨_, same⟩ <;> cases same
  unsent _ := rfl
  failed failure isFailure := by
    rw [unsent] at isFailure
    cases isFailure
    exact .inl rfl

/-- The requests of the shares are requests of the commands, in their
order. -/
theorem sublist_of_allows
    {commands : List Issued} {shares : List (List Handling)}
    (allowed : List.Forall₂ Allows commands shares) :
    (shares.flatten.map (·.request)).Sublist
      (commands.map (·.command.request)) := by
  induction allowed with
  | nil => exact List.Sublist.slnil
  | @cons issued share commands shares first rest induction =>
      rw [List.flatten_cons, List.map_append, List.map_cons,
        ← List.singleton_append]
      refine List.Sublist.append ?_ induction
      rcases first.atMostOnce with rfl | ⟨handling, rfl, request, -⟩
      · exact List.nil_sublist _
      · rw [List.map_singleton, request]

end Issued

/-! ## One connection -/

/-- Of one request at most one is handled. -/
theorem atMostOnce_of_isPrefix
    {handled : List Handling} {request : Request} {id : ConnectionId}
    (initial : handled.map (·.request) <+: [request])
    (lines : ∀ handling ∈ handled, handling.line = id) :
    handled = [] ∨
      ∃ handling, handled = [handling] ∧ handling.request = request ∧
        handling.line = id := by
  cases handled with
  | nil => exact .inl rfl
  | cons handling rest =>
      rw [List.map_cons, List.cons_prefix_cons, List.prefix_nil,
        List.map_eq_nil_iff] at initial
      rcases initial with ⟨same, rfl⟩
      exact .inr
        ⟨handling, rfl, same, lines handling List.mem_cons_self⟩

/-- What the two ends of a connection say of the commands on it, and what was
handled there. -/
structure Tally (id : ConnectionId) (attempts : List Attempt)
    (awaited? : Option Command) (handled : List Handling) : Prop where
  requests :
    handled.map (·.request) <+:
      Attempt.requests attempts ++ awaited?.toList.map (·.request)
  replies : Attempt.replies attempts <+: handled.map (·.reply)
  ended : ∀ attempt ∈ attempts, attempt.IsAnswered ∨ attempt.IsBroken
  early : ∀ attempt ∈ attempts.dropLast, attempt.IsAnswered
  awaiting : awaited?.isSome = true →
    ∀ attempt ∈ attempts, attempt.IsAnswered
  via : ∀ attempt ∈ attempts, attempt.via? = some id
  lines : ∀ handling ∈ handled, handling.line = id

namespace Tally

variable {id : ConnectionId} {attempt : Attempt} {attempts : List Attempt}
variable {awaited? : Option Command} {handled : List Handling}

/-- The request of a command with a reply was handled first. -/
theorem handling_of_answered
    (tally : Tally id (attempt :: attempts) awaited? handled)
    {reply : Reply} (answered : attempt.answer = .ok reply) :
    ∃ handling rest, handled = handling :: rest ∧
      handling.request = attempt.command.request ∧
      handling.reply = reply ∧ Tally id attempts awaited? rest := by
  have requests := tally.requests
  have replies := tally.replies
  rw [Attempt.replies, List.filterMap_cons_some (by rw [answered]; rfl)]
    at replies
  cases handled with
  | nil => cases List.prefix_nil.mp replies
  | cons handling rest =>
      rw [Attempt.requests, List.map_cons, List.map_cons, List.cons_append,
        List.cons_prefix_cons] at requests
      rw [List.map_cons, List.cons_prefix_cons] at replies
      refine ⟨handling, rest, rfl, requests.1, replies.1.symm, ?_⟩
      exact
        { requests := requests.2
          replies := replies.2
          ended := fun later member =>
            tally.ended later (List.mem_cons_of_mem _ member)
          early := fun later member => tally.early later (by
            cases attempts with
            | nil => cases member
            | cons => exact List.mem_cons_of_mem _ member)
          awaiting := fun isSome later member =>
            tally.awaiting isSome later (List.mem_cons_of_mem _ member)
          via := fun later member =>
            tally.via later (List.mem_cons_of_mem _ member)
          lines := fun later member =>
            tally.lines later (List.mem_cons_of_mem _ member) }

/-- A command without a reply is the last one of its connection. -/
theorem last_of_unanswered
    (tally : Tally id (attempt :: attempts) awaited? handled)
    (unanswered : ¬ attempt.IsAnswered) :
    attempts = [] ∧ awaited? = none := by
  constructor
  · cases attempts with
    | nil => rfl
    | cons =>
        exact absurd (tally.early attempt List.mem_cons_self) unanswered
  · cases awaited? with
    | none => rfl
    | some other =>
        exact absurd (tally.awaiting rfl attempt List.mem_cons_self)
          unanswered

/-- The commands of a connection share what was handled on it.  Each command
with a reply has one share in front, and the last command has what is left. -/
theorem exists_shares (tally : Tally id attempts awaited? handled) :
    ∃ shares,
      List.Forall₂ Issued.Allows
          (attempts.map Attempt.issued ++
            awaited?.toList.map fun command => ⟨command, some id, none⟩)
          shares ∧
        shares.flatten = handled := by
  induction attempts generalizing handled with
  | nil =>
      have requests := tally.requests
      cases awaited? with
      | none =>
          rw [List.map_eq_nil_iff.mp (List.prefix_nil.mp requests)]
          exact ⟨[], .nil, rfl⟩
      | some command =>
          have share := atMostOnce_of_isPrefix requests tally.lines
          exact ⟨[handled], .cons (Issued.allows_of_awaited share) .nil,
            List.flatten_singleton⟩
  | cons attempt rest induction =>
      have isVia := tally.via attempt List.mem_cons_self
      by_cases isAnswered : attempt.IsAnswered
      · rcases isAnswered with ⟨reply, answered⟩
        rcases tally.handling_of_answered answered with
          ⟨handling, others, rfl, request, rfl, further⟩
        rcases induction further with ⟨shares, allowed, all⟩
        refine ⟨[handling] :: shares, .cons ?_ allowed, ?_⟩
        · rcases attempt with ⟨command, via?, answer⟩
          cases isVia
          cases answered
          exact Issued.allows_of_answered request
            (tally.lines handling List.mem_cons_self)
        · rw [List.flatten_cons, all, List.singleton_append]
      · rcases (tally.ended attempt List.mem_cons_self).resolve_left
          isAnswered with ⟨failure, failed, fatal⟩
        rcases tally.last_of_unanswered isAnswered with ⟨rfl, rfl⟩
        have share := atMostOnce_of_isPrefix tally.requests tally.lines
        rcases attempt with ⟨command, via?, answer⟩
        cases isVia
        cases failed
        exact ⟨[handled], .cons (Issued.allows_of_broken fatal share) .nil,
          List.flatten_singleton⟩

end Tally

/-- The commands that were issued over a connection. -/
def Passage.issued (passage : Passage) : List Issued :=
  passage.attempts.map Attempt.issued ++
    passage.awaited?.toList.map fun command =>
      ⟨command, some passage.id, none⟩

theorem Passage.requests_issued (passage : Passage) :
    passage.issued.map (·.command.request) = passage.asked := by
  simp only [issued, asked, Attempt.requests, List.map_append, List.map_map]
  rfl

/-- The requests that were handled are the first that were asked. -/
theorem Passage.Sound.requests_handled
    {passage : Passage} (sound : passage.Sound) :
    passage.handled.map (·.request) <+: passage.asked :=
  (List.prefix_append _ _).trans sound.taken

theorem Passage.Sound.tally
    {passage : Passage} (sound : passage.Sound)
    (via : ∀ attempt ∈ passage.attempts, attempt.via? = some passage.id)
    (lines : ∀ handling ∈ passage.handled, handling.line = passage.id) :
    Tally passage.id passage.attempts passage.awaited? passage.handled where
  requests := sound.requests_handled
  replies := by
    rcases sound.replies with ⟨answered, handled, received, -⟩
    rw [handled]
    exact received.trans (List.prefix_append _ _)
  ended := sound.ended
  early := sound.early
  awaiting isSome := by
    refine sound.linked ?_
    by_contra unlinked
    rw [sound.awaiting (Option.not_isSome_iff_eq_none.mp unlinked)] at isSome
    cases isSome
  via := via
  lines := lines

/-! ## One client -/

namespace System

/-- The connections of a client, in the order in which it opened them. -/
def sessions (client : ClientId) (system : System) : List ConnectionId :=
  (List.range system.wire.opened).filter fun id =>
    (system.wire.line id).caller = client

/-- What was handled on a connection, oldest first. -/
def handledOn (id : ConnectionId) (system : System) : List Handling :=
  system.log.filter (·.line = id)

/-- What was handled for a client, oldest first. -/
def handledFor (client : ClientId) (system : System) : List Handling :=
  system.log.filter fun handling =>
    (system.wire.line handling.line).caller = client

variable {system : System} {client : ClientId} {id : ConnectionId}

theorem mem_sessions :
    id ∈ system.sessions client ↔
      id < system.wire.opened ∧ (system.wire.line id).caller = client := by
  simp [sessions]

theorem pairwise_sessions : (system.sessions client).Pairwise (· < ·) :=
  List.pairwise_lt_range.sublist List.filter_sublist

/-- What was handled on a connection was handled for its client. -/
theorem handledOn_eq_filter_handledFor
    (isCaller : (system.wire.line id).caller = client) :
    system.handledOn id = (system.handledFor client).filter (·.line = id) := by
  rw [handledOn, handledFor, List.filter_filter]
  refine List.filter_congr fun handling _ => ?_
  by_cases isIt : handling.line = id
  · simp [isIt, isCaller]
  · simp [isIt]

theorem mem_sessions_of_handledFor
    (books : system.Books) :
    ∀ handling ∈ system.handledFor client,
      handling.line ∈ system.sessions client := by
  intro handling member
  rcases List.mem_filter.mp member with ⟨isHandled, isCaller⟩
  exact mem_sessions.mpr
    ⟨books.log handling isHandled, of_decide_eq_true isCaller⟩

/-- Connection by connection it is the same that was handled, in an order of
its own. -/
theorem handledFor_perm (books : system.Books) :
    (system.handledFor client).Perm
      ((system.sessions client).flatMap system.handledOn) := by
  rw [List.flatMap_congr fun id member =>
    handledOn_eq_filter_handledFor (mem_sessions.mp member).2]
  exact perm_flatMap_filter
    (pairwise_sessions.imp Nat.ne_of_lt) (mem_sessions_of_handledFor books)

/-- Whatever was handled in the order of the connections is part of this
list. -/
theorem sublist_of_ascending
    (books : system.Books) {handled : List Handling}
    (isPart : handled.Sublist (system.handledFor client))
    (ascending : (handled.map (·.line)).Pairwise (· ≤ ·)) :
    handled.Sublist ((system.sessions client).flatMap system.handledOn) := by
  have grouped := eq_flatMap_filter_of_ascending ascending pairwise_sessions
    fun handling member =>
      mem_sessions_of_handledFor books handling (isPart.subset member)
  rw [grouped]
  refine List.Sublist.flatMap_right _ fun id _ => ?_
  exact (isPart.trans List.filter_sublist).filter _

/-- If nothing was handled late, all that was handled is this list. -/
theorem handledFor_eq_of_ascending
    (books : system.Books)
    (ascending :
      ((system.handledFor client).map (·.line)).Pairwise (· ≤ ·)) :
    system.handledFor client =
      (system.sessions client).flatMap system.handledOn :=
  (sublist_of_ascending books (List.Sublist.refl _) ascending).eq_of_length
    (handledFor_perm books).length_eq

end System

namespace Party

variable {party : Party}

/-- The connections of the commands that were issued over one. -/
theorem via_issued (party : Party) :
    party.issued.filterMap (·.via?) =
      party.history.filterMap (·.via?) ++
        party.awaited?.toList.filterMap fun _ => party.via? := by
  simp only [issued, List.filterMap_append, List.filterMap_map]
  rfl

theorem link_of_mem_awaited
    {id : ConnectionId}
    (member : id ∈ party.awaited?.toList.filterMap fun _ => party.via?) :
    ∃ link, party.client.link? = some link ∧ link.connection.id = id := by
  rcases List.mem_filterMap.mp member with ⟨command, -, isVia⟩
  exact Option.map_eq_some_iff.mp isVia

end Party

namespace Party.Books

variable {client : ClientId} {wire : Wire} {party : Party}

theorem ascending_issued (books : party.Books client wire) :
    (party.issued.filterMap (·.via?)).Pairwise (· ≤ ·) := by
  rw [via_issued, List.pairwise_append]
  refine ⟨books.ascending, ?_, ?_⟩
  · cases party.awaited? <;> cases party.via? <;> simp
  · intro before member id isPresent
    rcases link_of_mem_awaited isPresent with ⟨link, linked, rfl⟩
    exact books.via_le_link linked member

/-- Commands are issued over connections of the client. -/
theorem via_of_issued (books : party.Books client wire) :
    ∀ id ∈ party.issued.filterMap (·.via?),
      id < wire.opened ∧ (wire.line id).caller = client := by
  intro id member
  rw [via_issued] at member
  rcases List.mem_append.mp member with before | isPresent
  · rcases List.mem_filterMap.mp before with ⟨attempt, isAttempt, isVia⟩
    exact books.via attempt isAttempt id isVia
  · rcases link_of_mem_awaited isPresent with ⟨link, linked, rfl⟩
    exact books.linked link linked

/-- A command without a connection was turned down. -/
theorem unsent_of_issued (books : party.Books client wire) :
    ∀ issued ∈ party.issued, issued.via? = none →
      issued.ending? = some (.error .notConnected) := by
  intro issued member unlinked
  rcases List.mem_append.mp member with ended | awaited
  · rcases List.mem_map.mp ended with ⟨attempt, isAttempt, rfl⟩
    have turnedDown := books.unsent attempt isAttempt unlinked
    simp only [Attempt.issued, Attempt.ending, turnedDown]
    rfl
  · rcases List.mem_map.mp awaited with ⟨command, isAwaited, rfl⟩
    have isNone : party.client.link? = none := Option.map_eq_none_iff.mp unlinked
    rw [books.awaiting isNone] at isAwaited
    cases isAwaited

end Party.Books

namespace System

variable {system : System} {client : ClientId} {id : ConnectionId}

/-- The commands of a connection are those of its client that were issued over
it. -/
theorem issued_passage
    (isCaller : (system.wire.line id).caller = client) :
    (system.passage id).issued =
      (system.party client).issued.filter (·.via? = some id) := by
  simp only [Passage.issued, passage, isCaller, Party.issued,
    List.filter_append, List.filter_map]
  congr 1
  by_cases isVia : (system.party client).via? = some id
  · cases (system.party client).awaited? <;> simp [isVia]
  · cases (system.party client).awaited? <;> simp [isVia]

/-- On a connection the first of the commands that were issued over it have
their requests handled, in their order. -/
theorem requests_handledOn
    (sound : (system.passage id).Sound)
    (isCaller : (system.wire.line id).caller = client) :
    (system.handledOn id).map (·.request) <+:
      ((system.party client).issued.filter (·.via? = some id)).map
        (·.command.request) := by
  rw [← issued_passage isCaller, Passage.requests_issued]
  exact sound.requests_handled

/-- The commands of a client share what was handled on its connections. -/
theorem exists_shares
    (books : system.Books)
    (sound : ∀ id < system.wire.opened, (system.passage id).Sound)
    (client : ClientId) :
    ∃ shares,
      List.Forall₂ Issued.Allows (system.party client).issued shares ∧
        shares.flatten =
          (system.sessions client).flatMap system.handledOn := by
  have present := books.clients client
  refine exists_shares_of_ascending present.ascending_issued
    pairwise_sessions ?_ ?_ ?_
  · intro id member
    exact mem_sessions.mpr (present.via_of_issued id member)
  · intro issued member unlinked
    exact Issued.allows_of_unsent
      (present.unsent_of_issued issued member unlinked)
  · intro id member
    rcases mem_sessions.mp member with ⟨isOpen, isCaller⟩
    rw [← issued_passage isCaller]
    refine ((sound id isOpen).tally ?_ ?_).exists_shares
    · intro attempt isAttempt
      exact of_decide_eq_true (List.mem_filter.mp isAttempt).2
    · intro handling isHandled
      exact of_decide_eq_true (List.mem_filter.mp isHandled).2

/--
Whatever happens, the commands that a client issued share what the server
handled for it.  The share of a command is empty or its own request, handled
once.  A command with a response has a request handled, and its response is the
reply to it; a command that was issued without a connection has none handled.

Taken connection by connection, the requests that were handled are in the order
of the commands, and on each connection they are those of the first commands
that were issued over it.  In time they are in that order too, except that a
request of an earlier connection may be handled after one of a later
connection: whatever was handled in the order of the connections is in the
order of the commands.
-/
theorem handled_at_most_once
    (endpoint : ClientId → Endpoint) (events : List Event)
    (client : ClientId) :
    let system := (start endpoint).run events
    ∃ shares : List (List Handling),
      List.Forall₂ Issued.Allows (system.party client).issued shares ∧
        shares.flatten =
          (system.sessions client).flatMap system.handledOn ∧
        (shares.flatten.map (·.request)).Sublist
          ((system.party client).issued.map (·.command.request)) ∧
        (∀ id ∈ system.sessions client,
          (system.handledOn id).map (·.request) <+:
            ((system.party client).issued.filter (·.via? = some id)).map
              (·.command.request)) ∧
        (system.handledFor client).Perm shares.flatten ∧
        ∀ handled : List Handling,
          handled.Sublist (system.handledFor client) →
            (handled.map (·.line)).Pairwise (· ≤ ·) →
              handled.Sublist shares.flatten := by
  intro system
  have kept : system.Books ∧
      ∀ id < system.wire.opened, (system.passage id).Sound :=
    holds_of_run (fun _ => Passage.sound_of_begins)
      (fun _ _ => Passage.sound_of_moves) (books_start endpoint) False.elim
      (fun _ isOpen => absurd isOpen (Nat.not_lt_zero _))
  rcases kept with ⟨books, sound⟩
  rcases exists_shares books sound client with ⟨shares, allowed, all⟩
  refine ⟨shares, allowed, all, Issued.sublist_of_allows allowed, ?_, ?_, ?_⟩
  · intro id member
    rcases mem_sessions.mp member with ⟨isOpen, isCaller⟩
    exact requests_handledOn (sound id isOpen) isCaller
  · rw [all]
    exact handledFor_perm books
  · intro handled isPart ascending
    rw [all]
    exact sublist_of_ascending books isPart ascending

/--
The order of the commands is not always the order in time.  A client gives up
on the reply to a change of its block, connects again, and changes the block
again; the server comes to the first change only then.  The requests that it
handled are no part of those of the commands in their order, and the block is
left with the older content.
-/
theorem handled_out_of_order :
    let make : Command := ⟨.alloc "" "", .alloc "" "", rfl⟩
    let older : Command := ⟨.update "m1" "o", .update "m1" "o", rfl⟩
    let newer : Command := ⟨.update "m1" "n", .update "m1" "n", rfl⟩
    let system := (start fun _ => {}).run
      [.connect 0 {}, .issue 0 make, .forward 0 6, .take 0, .handle 0,
        .answer 0, .deliver 0 7, .conclude 0,
        -- The reply does not arrive in time.
        .issue 0 older, .conclude 0,
        .connect 0 {}, .issue 0 newer, .forward 1 9, .take 1, .handle 1,
        .answer 1, .deliver 0 24, .conclude 0,
        -- The server comes to the connection that the client has left.
        .forward 0 9, .take 0, .handle 0]
    (system.party 0).issued.map (·.command.request) =
        [make.request, older.request, newer.request] ∧
      (system.party 0).issued.map (·.ending?) =
        [some (.ok (.block ⟨"m1"⟩)),
          some (.error (.timeout "127.0.0.1:8888")), some (.ok .done)] ∧
      (system.handledFor 0).map (·.request) =
        [make.request, newer.request, older.request] ∧
      ¬ ((system.handledFor 0).map (·.request)).Sublist
        ((system.party 0).issued.map (·.command.request)) ∧
      system.store.find? "m1" = some ⟨"", [111]⟩ := by
  decide +kernel

end System

end BlockWire
