import Tedious.Connection.Step

/-!
# Tedious.Connection.Transition

What `transitionTo` does to each component of a connection. Every handler changes the
state through it, so these are the lemmas that the invariants of the following modules
are built from. Entering a state begins to wait for something (`ConnectionState.waits`),
may send a message (`ConnectionState.sends`), and may clean up, which leaves only the
callback of the request to do.
-/

namespace Tedious

open Chunked Reentrant

/-- What the `enter` of a state begins to wait for. -/
def ConnectionState.waits (c : ConnectionConfig) (calls : Nat) : ConnectionState → List Pending
  | .CONNECTING =>
    match c.port with
    | some (_ + 1) => [.connect false]
    | _ => [.instanceLookup false]
  | .SENT_PRELOGIN => [.prelogin]
  | .SENT_LOGIN7_WITH_STANDARD_LOGIN => [.loginMessage .standard]
  | .SENT_LOGIN7_WITH_NTLM => [.loginMessage .ntlm]
  | .SENT_LOGIN7_WITH_FEDAUTH => [.loginMessage .fedauth]
  | .LOGGED_IN_SENDING_INITIAL_SQL => [.initialSqlMessage]
  | .SENT_CLIENT_REQUEST => [.requestMessage (calls - 1)]
  | .SENT_ATTENTION => [.attentionMessage]
  | _ => []

/-- The message that the `enter` of a state sends. -/
def ConnectionState.sends (secure : Bool) : ConnectionState → List Trace
  | .LOGGED_IN_SENDING_INITIAL_SQL =>
      [.sent { type := .SQL_BATCH, resetConnection := false, secure, request := none }]
  | _ => []

/-- The `enter` of a state cleans up. -/
def ConnectionState.cleansUp : ConnectionState → Bool
  | REROUTING | TRANSIENT_FAILURE_RETRY | FINAL => true
  | _ => false

/-- The instructions that cleaning up leaves. -/
def Instr.isCleanup : Instr → Bool
  | .emit .rerouting | .closeRequest | .answer .. | .finishCleanup => true
  | _ => false

namespace Connection

variable {c : ConnectionConfig} {s : Connection}

/-- The components that cleaning up leaves alone; the request is one of them, as it is only
dropped after its callback. -/
structure CleansUp (s : Connection) (r : Connection × List Instr) : Prop where
  state : r.1.state = s.state
  pending : r.1.pending = s.pending
  request : r.1.request = s.request
  requests : r.1.requests = s.requests
  messages : r.1.messages = s.messages
  calls : r.1.calls = s.calls
  trace : r.1.trace = s.trace
  owed : r.1.owed = s.owed
  cancelTimer : r.1.cancelTimer = s.cancelTimer
  flag : r.1.resetConnectionOnNextRequest = s.resetConnectionOnNextRequest
  io : r.1.messageIo.id = s.messageIo.id
  secure : r.1.messageIo.secure = s.messageIo.secure
  retryTimer : r.1.retryTimer = true → s.retryTimer = true
  stack : ∀ i ∈ r.2, i.isCleanup = true

theorem cleansUp_closeRequest : CleansUp s s.closeRequest := by
  unfold closeRequest
  split
  · constructor <;> simp [Instr.isCleanup]
  · next h => constructor <;> simp [finishCleanup, h]

theorem CleansUp.of_closeConnection {r : Connection × List Instr}
    (h : CleansUp s.closeConnection r) : CleansUp s r :=
  { h with retryTimer := fun ht => absurd (h.retryTimer ht) (by simp [closeConnection]) }

theorem cleansUp_cleanupConnection (t : CleanupType) : CleansUp s (s.cleanupConnection t) := by
  unfold cleanupConnection
  split
  · constructor <;> simp
  · refine .of_closeConnection ?_
    cases t with
    | REDIRECT => constructor <;> simp [Instr.isCleanup]
    | NORMAL => exact { cleansUp_closeRequest (s := s.closeConnection.nextTick .emitEnd) with }
    | RETRY => exact cleansUp_closeRequest

/-- What `transitionTo newState` may do. -/
structure Enters (c : ConnectionConfig) (s : Connection) (newState : ConnectionState)
    (r : Connection × List Instr) : Prop where
  state : r.1.state = newState
  pending : r.1.pending = s.pending ++
    if s.state = newState then [] else newState.waits c s.calls
  request : r.1.request = s.request
  requests : r.1.requests = s.requests
  messages : r.1.messages = s.messages
  calls : r.1.calls = s.calls
  trace : r.1.trace = if s.state = newState then s.trace
    else newState.sends s.messageIo.secure ++ .entered newState :: s.trace
  owed : r.1.owed = s.owed
  cancelTimer : r.1.cancelTimer = s.cancelTimer
  flag : r.1.resetConnectionOnNextRequest = s.resetConnectionOnNextRequest
  io : r.1.messageIo.id = s.messageIo.id
  secure : r.1.messageIo.secure = s.messageIo.secure
  retryTimer : r.1.retryTimer = true → s.retryTimer = true
  stack : ∀ i ∈ r.2, i.isCleanup = true

/-- Entering a state that cleans up. -/
theorem CleansUp.enters {newState : ConnectionState} {s' : Connection}
    {r : Connection × List Instr} (h : CleansUp s' r) (hs : s.state ≠ newState)
    (hs' : s' = s.changeState newState ∨ s' = { s.changeState newState with
      curTransientRetryCount := s.curTransientRetryCount + 1 })
    (hwaits : newState.waits c s.calls = []) (hsends : newState.sends s.messageIo.secure = []) :
    Enters c s newState r := by
  rcases hs' with rfl | rfl
  all_goals
    exact { h with
      pending := h.pending.trans (by simp [hs, hwaits, changeState])
      trace := h.trace.trans (by simp [hs, hsends, changeState]) }

theorem enters_transitionTo (newState : ConnectionState) :
    Enters c s newState (s.transitionTo c newState) := by
  unfold transitionTo
  split
  · next h => constructor <;> simp [h]
  · next h =>
    cases newState with
    | FINAL => exact (cleansUp_cleanupConnection .NORMAL).enters h (.inl rfl) rfl rfl
    | REROUTING => exact (cleansUp_cleanupConnection .REDIRECT).enters h (.inl rfl) rfl rfl
    | TRANSIENT_FAILURE_RETRY =>
      exact (cleansUp_cleanupConnection .RETRY).enters h (.inr rfl) rfl rfl
    | CONNECTING =>
      rcases hport : c.port with _ | _ | port <;> constructor <;>
        simp [h, enter, initialiseConnection, hport, changeState, await, ConnectionState.waits,
          ConnectionState.sends]
    | _ =>
      constructor <;> simp [h, enter, changeState, await, sendMessage, send, record,
        ConnectionState.waits, ConnectionState.sends]

section

variable (st : ConnectionState)

@[simp] theorem state_transitionTo : (s.transitionTo c st).1.state = st :=
  (enters_transitionTo st).state

theorem pending_transitionTo : (s.transitionTo c st).1.pending =
    s.pending ++ if s.state = st then [] else st.waits c s.calls :=
  (enters_transitionTo st).pending

@[simp] theorem request_transitionTo : (s.transitionTo c st).1.request = s.request :=
  (enters_transitionTo st).request

@[simp] theorem requests_transitionTo : (s.transitionTo c st).1.requests = s.requests :=
  (enters_transitionTo st).requests

@[simp] theorem messages_transitionTo : (s.transitionTo c st).1.messages = s.messages :=
  (enters_transitionTo st).messages

@[simp] theorem calls_transitionTo : (s.transitionTo c st).1.calls = s.calls :=
  (enters_transitionTo st).calls

@[simp] theorem owed_transitionTo : (s.transitionTo c st).1.owed = s.owed :=
  (enters_transitionTo st).owed

@[simp] theorem cancelTimer_transitionTo :
    (s.transitionTo c st).1.cancelTimer = s.cancelTimer :=
  (enters_transitionTo st).cancelTimer

@[simp] theorem io_transitionTo : (s.transitionTo c st).1.messageIo.id = s.messageIo.id :=
  (enters_transitionTo st).io

theorem retryTimer_transitionTo (h : s.retryTimer = false) :
    (s.transitionTo c st).1.retryTimer = false := by
  cases ht : (s.transitionTo c st).1.retryTimer with
  | false => rfl
  | true => rw [(enters_transitionTo st).retryTimer ht] at h; cases h

/-- Other states are entered without leaving anything to do. -/
theorem stack_enters {st : ConnectionState} (hst : st.cleansUp = false) :
    (s.transitionTo c st).2 = [] := by
  unfold transitionTo
  split
  · rfl
  · cases st <;> first | rfl | cases hst

end

/-- What writing a request changes: the request and its listener, its message, and what is on the
wire and to be answered. -/
theorem writeRequest_eq (c : ConnectionConfig) (s : Connection) (execution : Execution)
    (type : RequestType) :
    ∃ requests requestTimer messages, s.writeRequest c execution type =
      { s with
        request := some execution
        requests := requests
        requestTimer := requestTimer
        messages := messages
        trace := .sent
          { type := type.toMessageType
            resetConnection := s.resetConnectionOnNextRequest
            secure := s.messageIo.secure
            request := some execution.request } :: s.trace
        owed := s.owed ++ [.response execution.call] } :=
  ⟨_, _, _, rfl⟩

/-- The instructions of `cancelRequest`: listeners run, of the user and of the connection. -/
theorem mem_cancelRequest {r : RequestId} {i : Instr} (h : i ∈ (s.cancelRequest r).2) :
    i = .callback ∨ (s.requests r).canceled = false ∧
      ∃ l ∈ (s.requests r).cancelListeners, i = .cancelListener r l := by
  unfold cancelRequest at h
  split at h
  · cases h
  · next hcanceled =>
    rcases List.mem_append.1 h with h | h
    · obtain ⟨l, hl, h⟩ := List.mem_flatMap.1 h
      rcases List.mem_cons.1 h with h | h
      · exact .inl h
      · exact .inr ⟨Bool.eq_false_iff.2 hcanceled, l, hl, List.mem_singleton.1 h⟩
    · exact .inl (List.mem_singleton.1 h)

end Connection

end Tedious
