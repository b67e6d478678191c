import BlockWire.Proofs.AtMostOnce
import BlockWire.Proofs.Smooth
import BlockWire.Proofs.StoreRuns

/-!
# The order in which a server works

Whatever happens, the store is what the requests in the log make of an empty
store, and the replies in the log are those that they get there.  Nothing but
the handling of a request changes either of them.

If nothing goes wrong the server holds a request only as long as its client
waits for the reply.  The requests of a client are therefore handled in the
order in which they were issued, also from one connection to the next, and
each command that had a connection and has ended got the reply to its own.
-/

namespace BlockWire

variable {calm : Prop}

theorem Passage.Moves.caller
    {passage after : Passage} (move : Passage.Moves calm passage after) :
    after.line.caller = passage.line.caller := by
  cases move with
  | take => exact Line.caller_take _
  | answer => exact Line.caller_answer _
  | _ => rfl

/-! ## Store and log -/

namespace System

variable {system later : System}

/-- An event leaves store and log as they are, or a request is handled. -/
theorem store_log_step (system : System) (event : Event) :
    ((system.step event).store = system.store ∧
        (system.step event).log = system.log) ∨
      ∃ id request, event = .handle id ∧
        (system.wire.line id).stage = .holding request ∧
        (system.step event).store = (system.store.handle request).2 ∧
        (system.step event).log =
          system.log ++
            [⟨id, request, (system.store.handle request).1⟩] := by
  cases event with
  | handle id =>
      simp only [step, handle]
      split
      · rename_i request holding
        exact .inr ⟨id, request, rfl, holding, rfl, rfl⟩
      · exact .inl ⟨rfl, rfl⟩
  | connect => exact .inl ⟨rfl, rfl⟩
  | disconnect => exact .inl ⟨rfl, rfl⟩
  | issue => exact .inl ⟨rfl, rfl⟩
  | conclude => exact .inl ⟨rfl, rfl⟩
  | deliver => exact .inl ⟨rfl, rfl⟩
  | disturb => exact .inl ⟨rfl, rfl⟩
  | forward => exact .inl ⟨rfl, rfl⟩
  | hinder => exact .inl ⟨rfl, rfl⟩
  | take => exact .inl ⟨rfl, rfl⟩
  | answer => exact .inl ⟨rfl, rfl⟩

/-- The log is an account of what the store went through. -/
def Accounts (system : System) : Prop :=
  Store.empty.handleAll (system.log.map (·.request)) =
    (system.log.map (·.reply), system.store)

theorem accounts_step (accounts : system.Accounts) (event : Event) :
    (system.step event).Accounts := by
  rcases system.store_log_step event with
    ⟨store, log⟩ | ⟨id, request, -, -, store, log⟩
  · rw [Accounts, store, log]
    exact accounts
  · rw [Accounts, store, log, List.map_append, List.map_append]
    simp only [List.map_cons, List.map_nil, Store.handleAll_concat]
    rw [show Store.empty.handleAll (system.log.map (·.request)) = _ from
      accounts]

theorem accounts_run (accounts : system.Accounts) (events : List Event) :
    (system.run events).Accounts := by
  induction events generalizing system with
  | nil => exact accounts
  | cons event events induction =>
      exact induction (accounts_step accounts event)

/-! ## Clients in turn -/

/-- The server handled the requests of each client connection by
connection. -/
def InTurn (system : System) : Prop :=
  system.log.Pairwise fun earlier later =>
    (system.wire.line earlier.line).caller =
        (system.wire.line later.line).caller →
      earlier.line ≤ later.line

/-- Connections stay with the client that opened them. -/
theorem Follows.caller
    (follows : Follows calm system later) {id : ConnectionId}
    (isOpen : id < system.wire.opened) :
    (later.wire.line id).caller = (system.wire.line id).caller := by
  rcases follows.kept id isOpen with same | move
  · exact congrArg (·.line.caller) same
  · exact move.caller

/-- What the books of a system say as long as nothing goes wrong. -/
structure Orderly (system : System) : Prop where
  books : system.Books
  smooth : ∀ id < system.wire.opened, (system.passage id).Smooth
  inTurn : system.InTurn

/-- A connection on which a request is held is the one that its client
has. -/
theorem Orderly.via_of_holding
    (orderly : system.Orderly) {id : ConnectionId} {request : Request}
    (holding : (system.wire.line id).stage = .holding request) :
    ∃ link,
      (system.party (system.wire.line id).caller).client.link? = some link ∧
        link.connection.id = id := by
  have isOpen : id < system.wire.opened := by
    by_contra unopened
    rw [orderly.books.closed id (Nat.le_of_not_lt unopened)] at holding
    cases holding
  have smooth := orderly.smooth id isOpen
  have linked : (system.passage id).link? ≠ none := by
    intro isNone
    have idle := smooth.sound.awaiting isNone
    have held := (smooth.of_idle idle).1
    rw [show (system.passage id).line.stage = .holding request from holding]
      at held
    cases held
  have isVia :
      (system.party (system.wire.line id).caller).via? = some id := by
    by_contra other
    exact linked (if_neg other)
  exact Option.map_eq_some_iff.mp isVia

theorem Orderly.inTurn_step
    (orderly : system.Orderly) {event : Event}
    (follows : Follows calm system (system.step event)) :
    (system.step event).InTurn := by
  have callers : ∀ handling ∈ system.log,
      ((system.step event).wire.line handling.line).caller =
        (system.wire.line handling.line).caller :=
    fun handling member =>
      follows.caller (orderly.books.log handling member)
  have before : system.log.Pairwise fun earlier later =>
      ((system.step event).wire.line earlier.line).caller =
          ((system.step event).wire.line later.line).caller →
        earlier.line ≤ later.line := by
    refine orderly.inTurn.imp_of_mem ?_
    intro earlier later isEarlier isLater inTurn same
    rw [callers earlier isEarlier, callers later isLater] at same
    exact inTurn same
  rcases system.store_log_step event with
    ⟨-, log⟩ | ⟨id, request, -, holding, -, log⟩
  · rw [InTurn, log]
    exact before
  · rw [InTurn, log, List.pairwise_append]
    refine ⟨before, List.pairwise_singleton _ _, ?_⟩
    intro earlier isEarlier later isLater same
    rw [List.mem_singleton.mp isLater] at same ⊢
    rcases orderly.via_of_holding holding with ⟨link, linked, isId⟩
    have present := (orderly.books.clients _).linked link linked
    rw [callers earlier isEarlier, follows.caller (isId ▸ present.1)] at same
    have newest := (orderly.books.clients _).newest link linked earlier.line
      (orderly.books.log earlier isEarlier) same
    rw [isId] at newest
    exact newest

theorem orderly_start (endpoint : ClientId → Endpoint) :
    (start endpoint).Orderly where
  books := books_start endpoint
  smooth _ isOpen := absurd isOpen (Nat.not_lt_zero _)
  inTurn := List.Pairwise.nil

theorem Orderly.step
    (orderly : system.Orderly) {event : Event} (calm : system.Calm event) :
    (system.step event).Orderly := by
  rcases keeps_step orderly.books event (fun _ : True => calm) with
    ⟨books, follows⟩
  exact
    { books := books
      smooth := follows.holds (fun _ => Passage.smooth_of_begins)
        (fun _ _ => Passage.smooth_of_moves) orderly.smooth
      inTurn := orderly.inTurn_step follows }

theorem Orderly.run
    (orderly : system.Orderly) {events : List Event}
    (calm : system.CalmThroughout events) :
    (system.run events).Orderly := by
  induction events generalizing system with
  | nil => exact orderly
  | cons event events induction =>
      exact induction (orderly.step calm.1) calm.2

end System

/-! ## What the commands come to -/

/-- What was handled for a command if nothing went wrong. -/
inductive Issued.Carried : Issued → List Handling → Prop where
  /-- A command without a connection is turned down and not handled. -/
  | turnedDown (command : Command) :
      Carried ⟨command, none, some (.error .notConnected)⟩ []
  /-- A command whose reply is awaited may have been handled. -/
  | awaited
      (command : Command) (id : ConnectionId) (share : List Handling)
      (atMostOnce : share = [] ∨
        ∃ handling, share = [handling] ∧
          handling.request = command.request ∧ handling.line = id) :
      Carried ⟨command, some id, none⟩ share
  /-- A command that has ended was handled once and ended with what the reply
  means to it. -/
  | answered
      (command : Command) (handling : Handling)
      (request : handling.request = command.request) :
      Carried
        ⟨command, some handling.line,
          some (command.step.outcome handling.reply)⟩
        [handling]

/-- A command that was turned down for want of a connection, got a response, or
still waits for one was carried to the server. -/
theorem Issued.Allows.carried
    {issued : Issued} {share : List Handling} (allows : issued.Allows share)
    (unsent : issued.via? = none →
      issued.ending? = some (.error .notConnected))
    (responds : ∀ id ending, issued.via? = some id →
      issued.ending? = some ending → IsResponse ending) :
    issued.Carried share := by
  rcases issued with ⟨command, _ | id, ending?⟩
  · cases unsent rfl
    rw [allows.unsent rfl]
    exact .turnedDown command
  · cases ending? with
    | none =>
        refine .awaited command id share ?_
        refine allows.atMostOnce.imp_right fun ⟨handling, once, request, via⟩ =>
          ⟨handling, once, request, (Option.some.inj via).symm⟩
    | some ending =>
        rcases allows.answered ending rfl (responds id ending rfl rfl) with
          ⟨handling, rfl, isOutcome⟩
        rcases allows.atMostOnce with nothing | ⟨other, same, request, via⟩
        · cases nothing
        · cases same
          cases via
          rw [isOutcome]
          exact .answered command handling request

namespace System

variable {system : System}

theorem Orderly.responds
    (orderly : system.Orderly) (client : ClientId) :
    ∀ issued ∈ (system.party client).issued, ∀ id ending,
      issued.via? = some id → issued.ending? = some ending →
        IsResponse ending := by
  intro issued member id ending isVia isEnding
  rcases List.mem_append.mp member with ended | awaited
  · rcases List.mem_map.mp ended with ⟨attempt, isAttempt, rfl⟩
    rcases (orderly.books.clients client).via attempt isAttempt id isVia with
      ⟨isOpen, isCaller⟩
    have isOn : attempt ∈ (system.passage id).attempts := by
      simp only [passage, isCaller]
      exact List.mem_filter.mpr ⟨isAttempt, decide_eq_true isVia⟩
    rcases (orderly.smooth id isOpen).answered attempt isOn with
      ⟨reply, isReply⟩
    have isOutcome : ending = attempt.command.step.outcome reply := by
      rw [Attempt.issued, Attempt.ending, isReply] at isEnding
      exact (Option.some.inj isEnding).symm
    rw [isOutcome]
    exact attempt.command.step.isResponse_outcome reply
  · rcases List.mem_map.mp awaited with ⟨command, -, rfl⟩
    cases isEnding

/-- The commands of a client share what was handled for it, in the order in
which it was handled. -/
theorem Orderly.exists_shares
    (orderly : system.Orderly) (client : ClientId) :
    ∃ shares,
      List.Forall₂ Issued.Carried (system.party client).issued shares ∧
        shares.flatten = system.handledFor client := by
  have books := orderly.books
  rcases System.exists_shares books
      (fun id isOpen => (orderly.smooth id isOpen).sound) client with
    ⟨shares, allowed, all⟩
  refine ⟨shares, ?_, ?_⟩
  · have carried : ∀ issued ∈ (system.party client).issued, ∀ share,
        issued.Allows share → issued.Carried share :=
      fun issued member share allows => allows.carried
        ((books.clients client).unsent_of_issued issued member)
        (orderly.responds client issued member)
    refine ((List.forall₂_and_left _ _).mpr ⟨carried, allowed⟩).imp ?_
    exact fun issued share ⟨carries, allows⟩ => carries share allows
  · rw [all, handledFor_eq_of_ascending books]
    have inTurn : (system.handledFor client).Pairwise fun earlier later =>
        earlier.line ≤ later.line := by
      refine (orderly.inTurn.sublist List.filter_sublist).imp_of_mem ?_
      intro earlier later isEarlier isLater inTurn
      refine inTurn ?_
      rw [of_decide_eq_true (List.mem_filter.mp isEarlier).2,
        of_decide_eq_true (List.mem_filter.mp isLater).2]
    exact List.pairwise_map.mpr inTurn

end System

end BlockWire
