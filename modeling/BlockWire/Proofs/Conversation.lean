import BlockWire.Proofs.Watched

/-!
# Conversations

What the log of a session looks like whose replies are in step with its
requests.  The log is a conversation: each command's request is heard in full,
and its reply is the frame that the bytes of the peer hold at the offset where
the reply before it ended.  A conversation that comes to a command without a
reply ends there, and the session with it.
-/

namespace BlockWire

/-! ## What a log says -/

namespace SessionEvent

/-- The request of a command that ended. -/
def request? : SessionEvent → Option Request
  | .heard _ => none
  | .hungUp => none
  | .ended step _ => step.request?

def heardBytes : SessionEvent → Bytes
  | .heard bytes => bytes
  | .hungUp => []
  | .ended _ _ => []

/-- The requests of the commands of a log. -/
def requests (log : List SessionEvent) : List Request :=
  log.filterMap request?

def allHeard (log : List SessionEvent) : Bytes :=
  log.flatMap heardBytes

@[simp]
theorem requests_nil : requests [] = [] := rfl

@[simp]
theorem requests_append (log later : List SessionEvent) :
    requests (log ++ later) = requests log ++ requests later :=
  List.filterMap_append

@[simp]
theorem allHeard_append (log later : List SessionEvent) :
    allHeard (log ++ later) = allHeard log ++ allHeard later :=
  List.flatMap_append

@[simp]
theorem requests_heard (bytes : Bytes) (later : List SessionEvent) :
    requests (.heard bytes :: later) = requests later := rfl

@[simp]
theorem requests_hungUp (later : List SessionEvent) :
    requests (.hungUp :: later) = requests later := rfl

theorem requests_ended
    {step : Client.Step} {request : Request}
    (isCommand : step.request? = some request)
    (ending : Ending Client.Finding) :
    requests [.ended step ending] = [request] := by
  simp [requests, request?, isCommand]

end SessionEvent

/--
A log in which every command has its reply.  The index is the offset behind
the last reply in the bytes of the peer.
-/
inductive Conversation (limit : Nat) (bytes : Bytes) :
    List SessionEvent → Nat → Prop where
  /-- Nothing was said and nothing is read. -/
  | start : Conversation limit bytes [] 0
  /-- The request of a command is heard in full, and the command ends as the
  frame at the offset says. -/
  | answered
      {log : List SessionEvent} {offset : Nat}
      {step : Client.Step} {request : Request} {reply : Reply}
      (before : Conversation limit bytes log offset)
      (isCommand : step.request? = some request)
      (found : Frame.decode limit (bytes.drop offset) = .ok reply) :
      Conversation limit bytes
        (log ++ [.heard request.bytes,
          .ended step (.returned (step.outcome reply))])
        (offset + (headerSize + reply.payload.length))

/--
The log of a session that never got out of step: a conversation, then possibly
its end.  Nothing happens on the session after that.
-/
inductive InStep (limit : Nat) (bytes : Bytes) :
    List SessionEvent → Prop where
  /-- The session is still open. -/
  | lasting
      {log : List SessionEvent} {offset : Nat}
      (before : Conversation limit bytes log offset) :
      InStep limit bytes log
  /-- The client hung up between two commands. -/
  | left
      {log : List SessionEvent} {offset : Nat}
      (before : Conversation limit bytes log offset) :
      InStep limit bytes (log ++ [.hungUp])
  /-- The request of a command was heard in full, there is no frame at the
  offset, and the client hung up. -/
  | broken
      {log : List SessionEvent} {offset : Nat}
      {step : Client.Step} {request : Request}
      {fault : FrameFault} {failure : Failure}
      (before : Conversation limit bytes log offset)
      (isCommand : step.request? = some request)
      (missing :
        Frame.decode (κ := Status) limit (bytes.drop offset) = .error fault)
      (fatal : failure.isSessionFatal = true) :
      InStep limit bytes
        (log ++ [.heard request.bytes, .hungUp,
          .ended step (.returned (.error failure))])

/-- What is found in the bytes of a peer is found in more of them. -/
theorem Conversation.mono
    {limit : Nat} {bytes more : Bytes}
    {log : List SessionEvent} {offset : Nat}
    (conversation : Conversation limit bytes log offset)
    (initial : bytes <+: more) :
    Conversation limit more log offset := by
  rcases initial with ⟨behind, rfl⟩
  induction conversation with
  | start => exact .start
  | answered before isCommand found induction =>
      refine .answered induction isCommand ?_
      rw [List.drop_append]
      exact Frame.decode_append_of_decode found _

/-- The peer of a conversation heard the requests, one behind the other. -/
theorem Conversation.allHeard_eq
    {limit : Nat} {bytes : Bytes}
    {log : List SessionEvent} {offset : Nat}
    (conversation : Conversation limit bytes log offset) :
    SessionEvent.allHeard log =
      (SessionEvent.requests log).flatMap Frame.bytes := by
  induction conversation with
  | start => rfl
  | answered before isCommand found induction =>
      simp only [SessionEvent.allHeard_append, SessionEvent.requests_append,
        SessionEvent.requests_heard, SessionEvent.requests_ended isCommand,
        List.flatMap_append, induction]
      simp [SessionEvent.allHeard, SessionEvent.heardBytes]

theorem InStep.allHeard_eq
    {limit : Nat} {bytes : Bytes} {log : List SessionEvent}
    (inStep : InStep limit bytes log) :
    SessionEvent.allHeard log =
      (SessionEvent.requests log).flatMap Frame.bytes := by
  cases inStep with
  | lasting before => exact before.allHeard_eq
  | left before =>
      rw [SessionEvent.allHeard_append, SessionEvent.requests_append,
        before.allHeard_eq, List.flatMap_append]
      rfl
  | broken before isCommand missing fatal =>
      simp only [SessionEvent.allHeard_append, SessionEvent.requests_append,
        SessionEvent.requests_heard, SessionEvent.requests_hungUp,
        SessionEvent.requests_ended isCommand, List.flatMap_append,
        before.allHeard_eq]
      simp [SessionEvent.allHeard, SessionEvent.heardBytes]

end BlockWire
