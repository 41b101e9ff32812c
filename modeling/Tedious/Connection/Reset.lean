import Tedious.Connection.Step
import Tedious.OutgoingMessageStream

/-!
# Tedious.Connection.Reset

When a request message asks the server to reset the connection. `reset()` sets a flag
before its request is admitted, every request message takes the flag over, and the
`'finish'` of any request message clears it. Of a run, only these three kinds of events
matter (`wire`), and every message has the flag that they leave (`Consistent`).

The main theorem, `reset_written_iff`, says in which runs the reset bit is on the
messages of `reset()` and no others: in those in which no other request is admitted
between a call of `reset()` and the next `'finish'`.
-/

namespace Tedious

open Chunked Reentrant

/-! ### The events that matter -/

inductive WireEvent
  | resetCalled
  | finished
  /-- A request message; `byReset` tells whether it is one of `reset()`. -/
  | written (resetConnection : Bool) (byReset : Bool)
  deriving DecidableEq, Repr

def Trace.wire : Trace → Option WireEvent
  | .resetCalled => some .resetCalled
  | .finished _ => some .finished
  | .sent message => message.request.map fun r => .written message.resetConnection r.isReset
  | _ => none

/-- `reset()` has been called, and no message has finished since. The latest event comes
first. -/
def resetPending : List WireEvent → Bool
  | [] => false
  | .resetCalled :: _ => true
  | .finished :: _ => false
  | .written .. :: events => resetPending events

/-- Every message carries the flag that the events before it have left, and those of
`reset()` carry a set one. -/
def Written : List WireEvent → Prop
  | [] => True
  | .written resetConnection byReset :: events =>
      resetConnection = resetPending events ∧ (byReset = true → resetConnection = true) ∧
        Written events
  | _ :: events => Written events

namespace Connection

/-- The flag, and the events that matter. -/
def wire (s : Connection) : Bool × List WireEvent :=
  (s.resetConnectionOnNextRequest, s.trace.filterMap Trace.wire)

/-- The flag is the one that the events have left, now and for every message. -/
structure Consistent (w : Bool × List WireEvent) : Prop where
  flag : w.1 = resetPending w.2
  written : Written w.2

/-! ### What leaves the wire alone -/

section

variable {c : ConnectionConfig} {s : Connection}

@[grind =] theorem wire_await (p : Pending) : (s.await p).wire = s.wire := rfl

@[grind =] theorem wire_nextTick (t : Tick) : (s.nextTick t).wire = s.wire := rfl

@[grind =] theorem wire_updateRequest (r : RequestId) (f : Request → Request) :
    (s.updateRequest r f).wire = s.wire := rfl

@[grind =] theorem wire_updateCurrentRequest (f : Request → Request) :
    (s.updateCurrentRequest f).wire = s.wire := by
  unfold updateCurrentRequest
  split <;> rfl

@[grind =] theorem wire_sendMessage (type : MessageType) : (s.sendMessage type).wire = s.wire := rfl

@[grind =] theorem wire_closeRequest : s.closeRequest.1.wire = s.wire := by
  unfold closeRequest
  split <;> rfl

@[grind =] theorem wire_cleanupConnection (t : CleanupType) :
    (s.cleanupConnection t).1.wire = s.wire := by
  unfold cleanupConnection
  split
  · rfl
  · cases t with
    | REDIRECT => rfl
    | NORMAL => exact wire_closeRequest
    | RETRY => exact wire_closeRequest

@[grind =] theorem wire_transitionTo (st : ConnectionState) :
    (s.transitionTo c st).1.wire = s.wire := by
  unfold transitionTo
  split
  · rfl
  · have hchange : (s.changeState st).wire = s.wire := rfl
    rw [← hchange]
    generalize s.changeState st = s
    cases st with
    | CONNECTING =>
      show (s.initialiseConnection c).wire = s.wire
      unfold initialiseConnection
      dsimp only
      split <;> rfl
    | REROUTING => exact wire_cleanupConnection .REDIRECT
    | TRANSIENT_FAILURE_RETRY => exact wire_cleanupConnection .RETRY
    | FINAL => exact wire_cleanupConnection .NORMAL
    | _ => rfl

@[grind =] theorem wire_dispatchEvent (event : Dispatched) :
    (s.dispatchEvent c event).1.wire = s.wire := by
  cases event <;> grind [dispatchEvent, eventHandler, failRequest, wire]

@[grind =] theorem wire_loginToken (kind : LoginKind) (handler : Login7TokenHandler)
    (token : Token) : (s.loginToken c kind handler token).1.wire = s.wire := by
  unfold loginToken
  split
  · rfl
  · split <;> rfl

@[grind =] theorem wire_sendLogin7Packet : (s.sendLogin7Packet c).1.wire = s.wire := by
  unfold sendLogin7Packet
  cases c.authentication <;> exact wire_transitionTo _

@[grind =] theorem wire_loginFailed : (s.loginFailed c).1.wire = s.wire := by
  grind [loginFailed]

@[grind =] theorem wire_loginAcknowledged (handler : Login7TokenHandler) :
    (s.loginAcknowledged c handler).1.wire = s.wire := by
  grind [loginAcknowledged, wire]

@[grind =] theorem wire_afterLogin (kind : LoginKind) (handler : Login7TokenHandler) :
    (s.afterLogin c kind handler).1.wire = s.wire := by
  cases kind <;>
    grind [afterLogin, afterStandardLogin, afterNtlmLogin, afterFedauthLogin, sendMessage, send,
      record, wire, Trace.wire]

@[grind =] theorem wire_requestToken (call : Nat) (request : Option RequestId)
    (errors : List RequestError) (token : Token) :
    (s.requestToken c call request errors token).1.wire = s.wire := by
  unfold requestToken
  split
  · split <;> rfl
  · dsimp only
    split <;> rfl

@[grind =] theorem wire_afterInitialSql : (s.afterInitialSql c).1.wire = s.wire :=
  wire_transitionTo .LOGGED_IN

@[grind =] theorem wire_onEndOfMessage (call : Nat) :
    (s.onEndOfMessage c call).1.wire = s.wire :=
  (wire_transitionTo .LOGGED_IN).trans (wire_updateCurrentRequest _)

theorem wire_resume (p : Pending) (outcome : Outcome) :
    (s.resume c p outcome).1.wire = s.wire := by
  unfold resume
  split
  all_goals
    grind [instanceLookupFailed, socketHandlingForSendPreLogin, connectFailed, afterPrelogin,
      afterStartTls, sendFedAuthTokenMessage, credentialsFailed, initialSqlToken,
      afterRequestMessage, afterAttentionMessage, attentionToken, afterAttention, socketError,
      wire]

theorem wire_cancelRequest (r : RequestId) : (s.cancelRequest r).1.wire = s.wire := by
  grind [cancelRequest]

theorem wire_exec (i : Instr) : (exec c i s).1.wire = s.wire := by
  cases i with
  | enterFinal => exact wire_transitionTo .FINAL
  | enterConnecting => exact wire_transitionTo .CONNECTING
  | dispatchSocketError err => exact wire_dispatchEvent (.socketError err)
  | afterConnectTimeout => exact wire_dispatchEvent .connectTimeout
  | closeRequest => exact wire_closeRequest
  | cancelListener r listener =>
    cases listener with
    | response call => exact wire_transitionTo _
    | unsent call => rfl
    | afterRequestSent => rfl
  | _ => rfl

/-! ### What does not -/

/-- An admitted request is written with the flag as it is; another one is not written. -/
theorem wire_makeRequest (r : RequestId) (type : RequestType) :
    (s.makeRequest c r type).1.wire = s.wire ∨
      (s.makeRequest c r type).1.wire =
        (s.wire.1, .written s.wire.1 r.isReset :: s.wire.2) := by
  unfold makeRequest
  dsimp only
  split
  · exact .inl rfl
  · split
    · exact .inl rfl
    · right
      exact wire_transitionTo .SENT_CLIENT_REQUEST

end

/-- A request of the user keeps the flag consistent. -/
theorem Consistent.makeRequest {c : ConnectionConfig} {s : Connection} (h : Consistent s.wire)
    {r : RequestId} (hr : r.isReset = true → s.wire.1 = true) (type : RequestType) :
    Consistent (s.makeRequest c r type).1.wire := by
  rcases wire_makeRequest (c := c) (s := s) r type with hwire | hwire
  · rwa [hwire]
  · rw [hwire]
    exact ⟨h.flag, h.flag, hr, h.written⟩

theorem Consistent.handle {c : ConnectionConfig} {s : Connection} (h : Consistent s.wire)
    {event : Event} (henabled : s.enabled event = true) : Consistent (s.handle c event).1.wire := by
  have hquiet : ∀ {s' : Connection}, s'.wire = s.wire → Consistent s'.wire := fun heq => heq ▸ h
  cases event with
  | makeRequest r type =>
    simp only [enabled, Bool.not_eq_true'] at henabled
    exact h.makeRequest (by simp [henabled]) type
  | prepare r =>
    simp only [enabled, Bool.not_eq_true'] at henabled
    exact Consistent.makeRequest (s := s.updateRequest r _) h (by simp [henabled]) _
  | reset =>
    have hset : Consistent (wire { s with
        resetConnectionOnNextRequest := true, trace := .resetCalled :: s.trace }) :=
      ⟨rfl, h.written⟩
    exact hset.makeRequest (fun _ => rfl) _
  | finish call => exact ⟨rfl, h.written⟩
  | resume p outcome => exact hquiet ((wire_resume p outcome).trans rfl)
  | tick t => exact hquiet (by cases t <;> rfl)
  | cancelRequest r => exact hquiet (wire_cancelRequest r)
  | cancel => exact hquiet (by grind [Connection.handle, Connection.cancel, wire_cancelRequest])
  | requestTimer =>
    exact hquiet (by grind [Connection.handle, requestTimeout, wire_cancelRequest, wire])
  | connectTimer => exact hquiet rfl
  | cancelTimer => exact hquiet (wire_dispatchEvent _)
  | retryTimer => exact hquiet rfl
  | socketError err => exact hquiet rfl
  | socketEnd =>
    exact hquiet (by grind [Connection.handle, Connection.socketEnd, Connection.socketError])
  | socketClose => exact hquiet (by grind [Connection.handle, Connection.socketClose])
  | payloadEnd call => exact hquiet rfl
  | payloadError call err => exact hquiet rfl
  | connect => exact hquiet (by grind [Connection.handle, Connection.connect])
  | close => exact hquiet (wire_transitionTo .FINAL)
  | setTimeout r timeout => exact hquiet rfl

/-! ### The reset bit of messages -/

/-- Every run keeps the flag consistent. -/
theorem consistent_of_runsTo {c : ConnectionConfig} {moves : List (Move Event)}
    {k : Config Connection Instr} (h : RunsTo c (fun _ _ _ => True) moves k) :
    Consistent k.state.wire :=
  Component.invariant (I := fun s _ => Consistent s.wire)
    (fun i _ _ hs => (wire_exec i).symm ▸ hs)
    (fun _ _ _ _ _ hs _ _ hstart => by
      obtain ⟨henabled, hhandle⟩ := start_eq_some hstart
      obtain ⟨rfl, rfl⟩ := Prod.mk.inj hhandle
      exact hs.handle henabled) h
    (show Consistent (false, []) from ⟨rfl, trivial⟩)

end Connection

/-- The bit of a message that is written is right where nothing is pending, or where it
is the one of `reset()`. -/
theorem Written.of_suffix {resetConnection byReset : Bool} {rest events : List WireEvent}
    (h : Written events) (hsuffix : WireEvent.written resetConnection byReset :: rest <:+ events) :
    resetConnection = resetPending rest ∧ (byReset = true → resetConnection = true) := by
  induction events with
  | nil => simp at hsuffix
  | cons event events ih =>
    rcases List.suffix_cons_iff.1 hsuffix with heq | hsuffix
    · cases heq
      exact ⟨h.1, h.2.1⟩
    · refine ih ?_ hsuffix
      cases event with
      | written _ _ => exact h.2.2
      | resetCalled => exact h
      | finished => exact h

open Connection in
/-- The reset bit of every packet of every request message tells whether the message is
the one of a call of `reset()`. -/
def ResetBitsMatch (s : Connection) : Prop :=
  ∀ message r, .sent message ∈ s.trace → message.request = some r →
    ∀ (size : PacketSize) (events : List MessageEvent), ∀ p ∈ OutgoingMessageStream.write size
      { type := message.type.toByte, resetConnection := message.resetConnection, events },
    p.resetsConnection = r.isReset

open Connection in
/-- **Only reset() resets.** In a run, every packet of every request message has the
`RESETCONNECTION` bit if and only if the message is the one of a call of `reset()`, exactly
when no other request is admitted between a call of `reset()` and the next `'finish'`. -/
theorem reset_written_iff {c : ConnectionConfig} {moves : List (Move Event)}
    {k : Config Connection Instr} (h : RunsTo c (fun _ _ _ => True) moves k) :
    ResetBitsMatch k.state ↔
      ∀ message r rest, .sent message :: rest <:+ k.state.trace → message.request = some r →
        r.isReset = false → resetPending (rest.filterMap Trace.wire) = false := by
  have hwritten := (consistent_of_runsTo h).written
  have hmessage : ∀ {message r rest}, .sent message :: rest <:+ k.state.trace →
      message.request = some r →
        message.resetConnection = resetPending (rest.filterMap Trace.wire) ∧
          (r.isReset = true → message.resetConnection = true) := by
    intro message r rest hsuffix hr
    obtain ⟨new, hnew⟩ := hsuffix
    refine hwritten.of_suffix ⟨new.filterMap Trace.wire, ?_⟩
    show _ = k.state.trace.filterMap Trace.wire
    rw [← hnew, List.filterMap_append, List.filterMap_cons]
    simp [Trace.wire, hr]
  constructor
  · intro hbits message r rest hsuffix hr hreset
    let size : PacketSize := { val := 4096, room := by decide, fits := by decide }
    obtain ⟨p, hp⟩ := List.exists_mem_of_ne_nil _ (OutgoingMessageStream.write_ne_nil size
      { type := message.type.toByte, resetConnection := message.resetConnection, events := [] })
    have hbit := hbits message r (hsuffix.mem (List.mem_cons_self ..)) hr size [] p hp
    rw [OutgoingMessageStream.resetsConnection_of_mem_write hp] at hbit
    rw [← (hmessage hsuffix hr).1, ← hreset]
    exact hbit
  · intro hadmitted message r hmem hr size events p hp
    rw [OutgoingMessageStream.resetsConnection_of_mem_write hp]
    obtain ⟨new, rest, hnew⟩ := List.append_of_mem hmem
    have hsuffix : .sent message :: rest <:+ k.state.trace := ⟨new, hnew.symm⟩
    obtain ⟨hflag, hset⟩ := hmessage hsuffix hr
    cases hreset : r.isReset with
    | true => exact hset hreset
    | false => exact hflag.trans (hadmitted message r rest hsuffix hr hreset)

open Connection in
/-- A new connection is reset. -/
theorem reset_written_iff_reset : ∃ k, RunsTo exampleConfig (fun _ _ _ => True)
    (loggedInMoves ++ [.event .reset]) k ∧
      (ResetBitsMatch k.state ↔
        ∀ message r rest, .sent message :: rest <:+ k.state.trace → message.request = some r →
          r.isReset = false → resetPending (rest.filterMap Trace.wire) = false) := by
  let message : SentMessage :=
    { type := .SQL_BATCH, resetConnection := true, secure := true, request := some (.reset 0) }
  obtain ⟨k, hk, -⟩ := @exists_runsTo exampleConfig (fun _ _ _ => True) _
    (loggedInMoves ++ [.event .reset]) (fun k => k.state.trace.any (· = .sent message)) (by decide)
  exact ⟨k, hk, reset_written_iff hk⟩

open Connection in
/-- A call of `reset()` is rejected because the response to a request is still being read;
the next request of the user is then written with the reset bit. -/
theorem reset_written_rejected : ¬∀ (c : ConnectionConfig) (moves : List (Move Event))
    (k : Config Connection Instr), RunsTo c (fun _ _ _ => True) moves k →
      ResetBitsMatch k.state := by
  intro h
  let message : SentMessage :=
    { type := .SQL_BATCH, resetConnection := true, secure := true, request := some (.request 0) }
  obtain ⟨k, hk, hsent⟩ := @exists_runsTo exampleConfig (fun _ _ _ => True) _
    (loggedInMoves ++ [.event (.makeRequest (.request 0) .SQL_BATCH),
      .event (.payloadEnd 0), .event (.finish 0), .event (.resume (.requestMessage 0) .done),
      .event .reset, .next, .next,
      .event (.resume (.requestTokens 0 (some (.request 0)) [] (some (.response 0))) .done),
      .next, .next, .event (.makeRequest (.request 0) .SQL_BATCH)])
    (fun k => k.state.trace.any (· = .sent message)) (by decide)
  have hmem : .sent message ∈ k.state.trace := by simpa using hsent
  let size : PacketSize := { val := 4096, room := by decide, fits := by decide }
  obtain ⟨p, hp⟩ := List.exists_mem_of_ne_nil _ (OutgoingMessageStream.write_ne_nil size
    { type := message.type.toByte, resetConnection := message.resetConnection, events := [] })
  have hbit := h exampleConfig _ k hk message _ hmem rfl size [] p hp
  rw [OutgoingMessageStream.resetsConnection_of_mem_write hp] at hbit
  cases hbit

end Tedious
