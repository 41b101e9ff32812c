import Tedious.Connection.Emissions
import Tedious.Connection.Requests
import Tedious.Connection.Serving

/-!
# Tedious.Connection.Executions

What a step means for executions. Most steps spare them (`Spares`): they touch neither the
messages and the errors of requests nor who listens to them, and if they drop the request
they answer it. Of the others, too, is known whom they answer, and with what (`Accounts`).

While a connection is logged in, a step that spares the executions closes the connection,
or leaves alone what it is doing (`Remains`).
-/

namespace Tedious

open Chunked Reentrant

namespace Instr

def isAnswer : Instr → Bool
  | .answer .. => true
  | _ => false

/-- Neither an answer nor something that happens to a canceled request. -/
def isIdle : Instr → Bool
  | .answer .. | .cancelListener .. | .requestTimeoutError _ => false
  | _ => true

/-- The errors that an instruction may answer with. -/
def errors : Instr → List (Option Err)
  | .dispatchSocketError err => [some Connection.closeError, some err]
  | _ => [some Connection.closeError]

theorem isAnswer_of_isIdle {i : Instr} (h : i.isIdle = true) : i.isAnswer = false := by
  cases i <;> first | rfl | cases h

theorem isIdle_of_isReport {i : Instr} (h : i.isReport = true) : i.isIdle = true := by
  cases i <;> first | rfl | cases h

end Instr

/-- What is under way, without what its token handler has noted. -/
def Pending.subject : Pending → Pending
  | requestTokens call request _ answers => requestTokens call request [] answers
  | attentionTokens _ answers => attentionTokens false answers
  | p => p

theorem Pending.subject_setErrors (call : Nat) (errors : List RequestError) (p : Pending) :
    (p.setErrors call errors).subject = p.subject := by
  cases p <;> rfl

namespace Connection

namespace Event

/-- The events that call a request's callback, or will, without a response. -/
def isCalling : Event → Bool
  | .makeRequest .. | .prepare _ | .reset | .tick (.callback ..) => true
  | _ => false

/-- The events that concern an execution: it is made, written, canceled or answered, or a
message has begun or ended. -/
def concerns : Event → Bool
  | .cancel | .cancelRequest _ | .requestTimer | .payloadEnd _ | .payloadError .. | .finish _
  | .makeRequest .. | .prepare _ | .reset | .tick (.callback ..)
  | .resume (.requestMessage _) .done | .resume (.requestTokens ..) .done
  | .resume .attentionMessage .done | .resume (.attentionTokens ..) .done => true
  | _ => false

end Event

/-- A cause that spares the executions. -/
def Cause.spares : Cause → Bool
  | event e => !e.concerns
  | instr (.cancelListener ..) | instr (.requestTimeoutError _) => false
  | instr _ => true

/-- Who answers a request, or lets one go, concerns an execution. -/
theorem Event.concerns_resume {p : Pending} (hp : p.isLogin = false) :
    (Event.resume p .done).concerns = true := by
  cases p <;> first | rfl | cases hp

/-- `Failed to cancel request`. -/
def cancelTimeoutError (c : ConnectionConfig) : Err :=
  .connection (.new (JsString.ofString "Failed to cancel request in " ++
    c.printNumber c.cancelTimeout ++ JsString.ofString "ms") (some "ETIMEOUT"))

/-- The errors that an event may answer with. -/
def errors (c : ConnectionConfig) (s : Connection) : Event → List (Option Err)
  | .cancelTimer => [some closeError, some (cancelTimeoutError c)]
  | .resume (.requestTokens ..) .done => [s.requestError]
  | .resume (.attentionTokens ..) .done => [some s.attentionError]
  | event => if event.concerns then [] else [some closeError]

end Connection

/-- What a step that spares executions keeps of a request. -/
structure Spared (request request' : Request) : Prop extends
    RequestTokenHandler.SameListeners request request' where
  error : request.canceled = true → request'.error = request.error

theorem Spared.refl (request : Request) : Spared request request := ⟨⟨rfl, rfl⟩, fun _ => rfl⟩

theorem Spared.trans {r r' r'' : Request} (h : Spared r r') (h' : Spared r' r'') :
    Spared r r'' where
  canceled := h'.canceled.trans h.canceled
  cancelListeners := h'.cancelListeners.trans h.cancelListeners
  error := fun hcanceled => (h'.error (h.canceled.trans hcanceled)).trans (h.error hcanceled)

namespace RequestTokenHandler

/-- A token leaves a canceled request as it is. -/
theorem spared_announce {options : HandlerOptions} {token : Token} {s s' : RequestState}
    {event : Option RequestEvent} (h : announce options token s = some (s', event)) :
    Spared s.request s'.request := by
  refine ⟨sameListeners_announce options h, fun hcanceled => ?_⟩
  rw [(announce_canceled options hcanceled h).1]

theorem spared_complete (options : HandlerOptions) (id : RequestId) (token : Token)
    (s : RequestState) : Spared s.request (complete options id token s).request := by
  refine ⟨sameListeners_complete options id token s, fun hcanceled => ?_⟩
  cases token <;> first | rfl | simp [complete, onErrorMessage, hcanceled]

end RequestTokenHandler

namespace Connection

/-- Who is answered, and with one of which errors: the current request, and nobody before it. -/
structure Accounts (errs : List (Option Err)) (s : Connection) (r : Connection × List Instr) :
    Prop where
  calls : r.1.calls = s.calls
  callbacks : ∀ execution err, r.1.ticks.count (.callback execution err) =
    s.ticks.count (.callback execution err)
  request : r.1.request = s.request ∨ r.1.request = none
  answers : ∀ execution err, .answer execution err ∈ r.2 →
    s.request = some execution ∧ err ∈ errs
  tail : ∀ i ∈ r.2.tail, i.isAnswer = false

/-- A step that spares the executions. -/
structure Spares (errs : List (Option Err)) (s : Connection) (r : Connection × List Instr) :
    Prop extends Accounts errs s r where
  messages : r.1.messages = s.messages
  owed : r.1.owed = s.owed
  cancelTimer : r.1.cancelTimer = s.cancelTimer
  requests : ∀ r', Spared (s.requests r') (r.1.requests r')
  stack : ∀ i ∈ r.2, i.isIdle = true ∨ i.isAnswer = true

variable {c : ConnectionConfig} {s : Connection} {rest : List Instr} {errs : List (Option Err)}

theorem spared_updateRequest {r : RequestId} {f : Request → Request}
    (hf : Spared (s.requests r) (f (s.requests r))) (r' : RequestId) :
    Spared (s.requests r') ((s.updateRequest r f).requests r') := by
  dsimp only [updateRequest]
  split
  · next hr =>
    rw [hr]
    exact hf
  · exact .refl _

/-- A change of one request. -/
theorem Spares.updateRequest {r : RequestId} {f : Request → Request}
    (hf : Spared (s.requests r) (f (s.requests r))) : Spares errs s (s.updateRequest r f, []) where
  calls := rfl
  callbacks := fun _ _ => rfl
  request := .inl rfl
  answers := by simp
  tail := by simp
  messages := rfl
  owed := rfl
  cancelTimer := rfl
  requests := spared_updateRequest hf
  stack := by simp

/-- How a request is changed where the executions are spared. -/
theorem spared_requestChange {cause : Cause} {r : RequestId} {request : Request}
    (hspares : cause.spares = true) (h : RequestChange c s r cause request) :
    Spared (s.requests r) request := by
  cases h with
  | canceled hcancels =>
    unfold Cause.cancels at hcancels
    split at hcancels <;> cases hcancels <;> cases hspares
  | timeout => exact ⟨⟨rfl, rfl⟩, fun _ => rfl⟩
  | announced hannounced => exact RequestTokenHandler.spared_announce hannounced
  | answered => exact ⟨⟨rfl, rfl⟩, fun _ => rfl⟩
  | completed =>
    exact RequestTokenHandler.spared_complete _ r _ ⟨_, s.requests r, s.procReturnStatusValue⟩
  | _ => cases hspares

namespace Spares

/-- Nothing changes that executions depend on, and nobody is answered. -/
theorem still {s' : Connection} {is : List Instr} (hcalls : s'.calls = s.calls)
    (hticks : s'.ticks = s.ticks) (hrequest : s'.request = s.request)
    (hmessages : s'.messages = s.messages) (howed : s'.owed = s.owed)
    (htimer : s'.cancelTimer = s.cancelTimer) (hrequests : s'.requests = s.requests)
    (his : ∀ i ∈ is, i.isIdle = true) : Spares errs s (s', is) where
  calls := hcalls
  callbacks := fun _ _ => by rw [hticks]
  request := .inl hrequest
  answers := fun _ _ hmem => by cases his _ hmem
  tail := fun i hi => Instr.isAnswer_of_isIdle (his i (List.mem_of_mem_tail hi))
  messages := hmessages
  owed := howed
  cancelTimer := htimer
  requests := fun r => by rw [hrequests]; exact .refl _
  stack := fun i hi => .inl (his i hi)

/-- It does not matter what else has changed before. -/
theorem of_eq {s₀ : Connection} {r : Connection × List Instr} (h : Spares errs s₀ r)
    (hcalls : s₀.calls = s.calls) (hticks : s₀.ticks = s.ticks)
    (hrequest : s₀.request = s.request) (hmessages : s₀.messages = s.messages)
    (howed : s₀.owed = s.owed) (htimer : s₀.cancelTimer = s.cancelTimer)
    (hrequests : s₀.requests = s.requests) : Spares errs s r where
  calls := h.calls.trans hcalls
  callbacks := fun execution err => (h.callbacks execution err).trans (by rw [hticks])
  request := hrequest ▸ h.request
  answers := hrequest ▸ h.answers
  tail := h.tail
  messages := h.messages.trans hmessages
  owed := h.owed.trans howed
  cancelTimer := h.cancelTimer.trans htimer
  requests := hrequests ▸ h.requests
  stack := h.stack

/-- Neither does anything that is left to do, if it answers nobody. -/
theorem leaving {s' : Connection} {is : List Instr} (h : Spares errs s (s', []))
    (his : ∀ i ∈ is, i.isIdle = true) : Spares errs s (s', is) :=
  { h with
    answers := fun _ _ hmem => by cases his _ hmem
    tail := fun i hi => Instr.isAnswer_of_isIdle (his i (List.mem_of_mem_tail hi))
    stack := fun i hi => .inl (his i hi) }

theorem enter {s' : Connection} {st : ConnectionState} (h : Spares errs s (s', [])) :
    Spares errs s ((s'.transitionTo c st).1, []) :=
  { h with
    calls := (calls_transitionTo st).trans h.calls
    callbacks := fun execution err => by
      rw [ticks_transitionTo, List.count_append, h.callbacks]
      split <;> simp
    request := request_transitionTo (c := c) (s := s') st ▸ h.request
    messages := (messages_transitionTo st).trans h.messages
    owed := (owed_transitionTo st).trans h.owed
    cancelTimer := (cancelTimer_transitionTo st).trans h.cancelTimer
    requests := requests_transitionTo (c := c) (s := s') st ▸ h.requests }

theorem changeRequest {s' : Connection} {r : RequestId} {request : Request}
    (h : Spares errs s (s', [])) (hrequest : Spared (s'.requests r) request) :
    Spares errs s (s'.updateRequest r fun _ => request, []) :=
  { h with
    requests := fun r' =>
      (h.requests r').trans (spared_updateRequest (f := fun _ => request) hrequest r') }

/-- **One change.** -/
theorem change {cause : Cause} {s₁ s₂ : Connection} (hspares : cause.spares = true)
    (hchange : Change c cause s₁ s₂) (h : Spares errs s (s₁, [])) : Spares errs s (s₂, []) := by
  have hmakes : cause.makes = true → False := fun hmakes => by
    unfold Cause.makes at hmakes
    split at hmakes <;> cases hmakes <;> cases hspares
  have hpipes : cause.pipes = true → False := fun hpipes => by
    unfold Cause.pipes at hpipes
    split at hpipes <;> cases hpipes <;> cases hspares
  cases hchange with
  | due hcause =>
    subst hcause
    rename_i t
    refine { h with callbacks := fun execution err => ?_ }
    cases t with
    | callback => cases hspares
    | _ => exact (List.count_erase_of_ne (by simp)).trans (h.callbacks execution err)
  | enter => exact h.enter
  | report _ ht =>
    refine { h with callbacks := fun execution err => ?_ }
    rcases ht with ⟨-, err', rfl⟩ | ⟨-, err', rfl⟩ <;>
      simpa [nextTick] using h.callbacks execution err
  | unlisten hcause => subst hcause; cases hspares
  | attended hcause => subst hcause; cases hspares
  | close => exact { h with request := .inr rfl }
  | drop => exact { h with request := .inr rfl }
  | retry => exact h.enter
  | count hcause => cases hmakes hcause
  | defer hcause => cases hmakes hcause
  | serve hcause => cases hmakes hcause
  | finished hcause => subst hcause; cases hspares
  | attend hcause => subst hcause; cases hspares
  | read hcause hp =>
    subst hcause
    rw [Cause.spares, Event.concerns_resume hp] at hspares
    cases hspares
  | request _ hrequest => exact h.changeRequest (spared_requestChange hspares hrequest)
  | message hcause => cases hpipes hcause
  | _ => exact { h with }

/-- **What spares the executions.** -/
theorem of_changes {cause : Cause} {s' : Connection} (hchanges : Changes c cause s s')
    (hspares : cause.spares = true) : Spares errs s (s', []) :=
  hchanges.keeps (P := fun s' => Spares errs s (s', [])) (change hspares)
    (.still rfl rfl rfl rfl rfl rfl rfl (by simp))

end Spares

/-! ### States -/

/-- Closing answers the current request. -/
theorem stack_closeRequest : s.closeRequest.2 = [] ∨ ∃ execution, s.request = some execution ∧
    s.closeRequest.2 = [.answer execution (some closeError), .finishCleanup] := by
  unfold closeRequest
  split
  · next execution hrequest => exact .inr ⟨execution, hrequest, rfl⟩
  · exact .inl rfl

/-- What is left to do when a state is entered: nothing, or to close the current request. -/
theorem stack_transitionTo (st : ConnectionState) :
    (s.transitionTo c st).2 = [] ∨ (s.transitionTo c st).2 = [.emit .rerouting, .closeRequest] ∨
      ∃ execution, s.request = some execution ∧
        (s.transitionTo c st).2 = [.answer execution (some closeError), .finishCleanup] := by
  -- only `cleanupConnection` leaves something to do, and only if `closed` is not set
  have hclean : ∀ (s' : Connection) (t : CleanupType), s'.request = s.request →
      (s'.cleanupConnection t).2 = [] ∨
        (s'.cleanupConnection t).2 = [.emit .rerouting, .closeRequest] ∨
          ∃ execution, s.request = some execution ∧
            (s'.cleanupConnection t).2 = [.answer execution (some closeError), .finishCleanup] := by
    intro s' t hs'
    unfold cleanupConnection
    split
    · exact .inl rfl
    · cases t with
      | NORMAL =>
        have hclosed := stack_closeRequest (s := s'.closeConnection.nextTick .emitEnd)
        rw [← hs']
        exact hclosed.imp_right .inr
      | REDIRECT => exact .inr (.inl rfl)
      | RETRY =>
        have hclosed := stack_closeRequest (s := s'.closeConnection)
        rw [← hs']
        exact hclosed.imp_right .inr
  unfold transitionTo
  split
  · exact .inl rfl
  · cases st with
    | FINAL => exact hclean (s.changeState .FINAL) .NORMAL rfl
    | REROUTING => exact hclean (s.changeState .REROUTING) .REDIRECT rfl
    | TRANSIENT_FAILURE_RETRY => exact hclean { s.changeState .TRANSIENT_FAILURE_RETRY with
        curTransientRetryCount := s.curTransientRetryCount + 1 } .RETRY rfl
    | _ => exact .inl rfl

theorem spares_transitionTo (herrs : some closeError ∈ errs) (st : ConnectionState) :
    Spares errs s (s.transitionTo c st) := by
  have henters := enters_transitionTo (c := c) (s := s) st
  have hstack := stack_transitionTo (c := c) (s := s) st
  exact {
    calls := henters.calls
    callbacks := fun execution err => by
      rw [ticks_transitionTo, List.count_append]
      split <;> simp
    request := .inl henters.request
    answers := fun execution err hmem => by
      rcases hstack with h | h | ⟨execution', hrequest, h⟩ <;> rw [h] at hmem <;> simp at hmem
      obtain ⟨rfl, rfl⟩ := hmem
      exact ⟨hrequest, herrs⟩
    tail := fun i hi => by
      rcases hstack with h | h | ⟨execution', -, h⟩ <;> rw [h] at hi <;> simp at hi <;>
        rw [hi] <;> rfl
    messages := henters.messages
    owed := henters.owed
    cancelTimer := henters.cancelTimer
    requests := fun r => by rw [henters.requests]; exact .refl _
    stack := fun i hi => by
      have hcleanup := henters.stack i hi
      cases i <;> first | exact .inl rfl | exact .inr rfl | cases hcleanup }

/-- A connection that serves nobody has nothing to do when it is closed. -/
theorem stack_transitionTo_final (h : s.request = none) : (s.transitionTo c .FINAL).2 = [] := by
  unfold transitionTo
  split
  · rfl
  · show ((s.changeState .FINAL).cleanupConnection .NORMAL).2 = []
    unfold cleanupConnection
    split
    · rfl
    · simp [closeRequest, nextTick, closeConnection, changeState, h]

/-- The errors that a dispatched event may answer with. -/
def dispatchedErrors : Dispatched → List (Option Err)
  | .socketError err => [some closeError, some err]
  | _ => [some closeError]

theorem spares_closeRequest (herrs : some closeError ∈ errs) : Spares errs s s.closeRequest := by
  have hclean := cleansUp_closeRequest (s := s)
  have hstack := stack_closeRequest (s := s)
  exact {
    calls := hclean.calls
    callbacks := fun execution err => by rw [ticks_closeRequest]
    request := .inl hclean.request
    answers := fun execution err hmem => by
      rcases hstack with h | ⟨execution', hrequest, h⟩ <;> rw [h] at hmem <;> simp at hmem
      obtain ⟨rfl, rfl⟩ := hmem
      exact ⟨hrequest, herrs⟩
    tail := fun i hi => by
      rcases hstack with h | ⟨execution', -, h⟩ <;> rw [h] at hi <;> simp at hi
      rw [hi]
      rfl
    messages := hclean.messages
    owed := hclean.owed
    cancelTimer := hclean.cancelTimer
    requests := fun r => by rw [hclean.requests]; exact .refl _
    stack := fun i hi => by
      have hcleanup := hclean.stack i hi
      cases i <;> first | exact .inl rfl | exact .inr rfl | cases hcleanup }

theorem spares_failRequest (err : Err) :
    Spares [some closeError, some err] s (s.failRequest c err) := by
  -- the request is dropped before `FINAL` is entered, so that closing has nobody to answer
  have hfinal : Spares [some closeError, some err] { s with request := none }
      ({ s with request := none }.transitionTo c .FINAL) := spares_transitionTo (by simp) .FINAL
  have hnone := stack_transitionTo_final (c := c) (s := { s with request := none }) rfl
  have hanswer : ∀ i ∈ answerOrThrow s.request (some err), i = .throw ∨
      ∃ execution, s.request = some execution ∧ i = .answer execution (some err) := by
    cases s.request <;> simp [answerOrThrow]
  unfold failRequest
  dsimp only
  rw [hnone, List.nil_append]
  exact { hfinal with
    request := .inr (by simp)
    answers := fun execution err' hmem => by
      rcases hanswer _ hmem with h | ⟨execution', hrequest, h⟩
      · cases h
      · cases h
        exact ⟨hrequest, by simp⟩
    tail := by cases s.request <;> simp [answerOrThrow]
    stack := fun i hi => by
      rcases hanswer i hi with rfl | ⟨execution, -, rfl⟩
      · exact .inl rfl
      · exact .inr rfl }

theorem spares_dispatchEvent (event : Dispatched) :
    Spares (dispatchedErrors event) s (s.dispatchEvent c event) := by
  unfold dispatchEvent
  split
  · next r hr =>
    cases event <;> unfold eventHandler at hr <;> dsimp only at hr <;> split at hr <;> cases hr
    all_goals
      first
      | exact spares_transitionTo (by simp [dispatchedErrors]) _
      | exact .still rfl rfl rfl rfl rfl rfl rfl (by simp)
      | skip
    -- a request fails, and is answered
    all_goals exact spares_failRequest _
  · exact .still rfl rfl rfl rfl rfl rfl rfl (by simp [Instr.isIdle])

/-! ### Instructions -/

theorem spares_exec {i : Instr} (hlistener : ∀ r l, i ≠ .cancelListener r l)
    (htimeout : ∀ r, i ≠ .requestTimeoutError r) : Spares i.errors s (exec c i s) := by
  have hchanged : Spares i.errors s ((exec c i s).1, []) := by
    refine .of_changes (changes_exec i) ?_
    cases i with
    | cancelListener r l => exact absurd rfl (hlistener r l)
    | requestTimeoutError r => exact absurd rfl (htimeout r)
    | _ => rfl
  cases i with
  | enterFinal => exact spares_transitionTo (List.mem_singleton_self _) _
  | dispatchSocketError err => exact spares_dispatchEvent (.socketError err)
  | afterConnectTimeout =>
    have hdispatched := spares_dispatchEvent (c := c) (s := { s with connectTimer := false })
      .connectTimeout
    exact hdispatched.of_eq rfl rfl rfl rfl rfl rfl rfl
  | closeRequest => exact spares_closeRequest (List.mem_singleton_self _)
  | enterConnecting => exact hchanged.leaving (forall_mem_enters rfl)
  | cancelListener r l => exact absurd rfl (hlistener r l)
  | _ => exact hchanged.leaving (by simp [Instr.isIdle])

theorem accounts_exec (i : Instr) : Accounts i.errors s (exec c i s) := by
  cases i with
  | cancelListener r l =>
    cases l with
    | response call =>
      have hentered := spares_transitionTo (c := c) (List.mem_singleton.2 rfl)
        (s := { s with pending := s.pending.filter fun p => ¬p.isResponseOf call }) .SENT_ATTENTION
      exact { hentered with }
    | unsent call => constructor <;> simp [Connection.exec, onCancel, updateMessage]
    | afterRequestSent =>
      constructor <;> simp [Connection.exec, onCancel, sendMessage, send, record]
  | requestTimeoutError r => constructor <;> simp [Connection.exec, updateRequest]
  | _ => exact (spares_exec (by simp) (by simp)).toAccounts

/-! ### What is under way -/

theorem spares_resume {p : Pending} {outcome : Outcome}
    (hconcerns : (Event.resume p outcome).concerns = false) :
    Spares [some closeError] s (s.handle c (.resume p outcome)) := by
  have hchanged : Spares [some closeError] s ((s.handle c (.resume p outcome)).1, []) :=
    .of_changes (changes_handle _) (by rw [Cause.spares, hconcerns, Bool.not_false])
  have hleft := remainder_resume (c := c) (s := { s with pending := s.pending.erase p }) p outcome
  change Remainder c _ p outcome (s.handle c (.resume p outcome)) at hleft
  generalize s.handle c (.resume p outcome) = r at hchanged hleft ⊢
  cases hleft with
  | reports _ his => exact hchanged.leaving fun i hi => Instr.isIdle_of_isReport (his i hi)
  | connects _ his =>
    refine hchanged.leaving ?_
    rcases his with rfl | ⟨err, rfl⟩ | ⟨rfl, -⟩ <;> simp [Instr.isIdle]
  | cleans =>
    -- the login is rerouted or tried again: a request, if there is one, is answered
    exact (spares_transitionTo (List.mem_singleton_self _) _).of_eq rfl rfl rfl rfl rfl rfl rfl
  | answers hp houtcome =>
    subst houtcome
    rw [Event.concerns_resume hp] at hconcerns
    cases hconcerns

/-! ### Events -/

theorem spares_handle {event : Event} (henabled : s.enabled event = true)
    (hconcerns : event.concerns = false) :
    Spares (s.errors c event) s (s.handle c event) := by
  have hchanged : Spares (s.errors c event) s ((s.handle c event).1, []) :=
    .of_changes (changes_handle event) (by rw [Cause.spares, hconcerns, Bool.not_false])
  have hleaves := leaves_handle (c := c) (s := s) event
  cases event with
  | close => exact spares_transitionTo (List.mem_singleton_self _) _
  | cancelTimer =>
    have hdispatched := spares_dispatchEvent (c := c) (s := { s with cancelTimerArmed := false })
      (.socketError (cancelTimeoutError c))
    exact hdispatched.of_eq rfl rfl rfl rfl rfl rfl rfl
  | socketClose =>
    show Spares [some closeError] s (s.socketClose c)
    unfold socketClose
    split
    · exact spares_dispatchEvent .reconnect
    · split
      · exact spares_dispatchEvent .retry
      · exact spares_transitionTo (List.mem_singleton_self _) _
  | resume p outcome =>
    have herrors : s.errors c (.resume p outcome) = [some closeError] := by
      unfold errors
      split <;> simp_all [Event.concerns]
    rw [herrors]
    exact spares_resume hconcerns
  | connect => exact hchanged.leaving fun i hi => by cases hleaves i hi
  | setTimeout r timeout => exact hchanged.leaving fun i hi => by cases hleaves i hi
  | tick t =>
    refine hchanged.leaving fun i hi => ?_
    have hleft := hleaves i hi
    cases t <;> cases i <;> first | rfl | (cases hconcerns; done) | cases hleft
  | connectTimer | retryTimer | socketError err | socketEnd =>
    refine hchanged.leaving fun i hi => ?_
    have hleft := hleaves i hi
    cases i <;> first | rfl | cases hleft
  | _ => cases hconcerns

namespace Accounts

/-- Nobody is answered. -/
theorem still {s' : Connection} {is : List Instr} (hcalls : s'.calls = s.calls)
    (hticks : s'.ticks = s.ticks) (hrequest : s'.request = s.request)
    (his : ∀ i ∈ is, i.isAnswer = false) : Accounts errs s (s', is) where
  calls := hcalls
  callbacks := fun _ _ => by rw [hticks]
  request := .inl hrequest
  answers := fun _ _ hmem => by cases his _ hmem
  tail := fun i hi => his i (List.mem_of_mem_tail hi)

/-- The current request is answered. -/
theorem answered {s' : Connection} {err : Option Err} (hcalls : s'.calls = s.calls)
    (hticks : s'.ticks = s.ticks) (hrequest : s'.request = none) :
    Accounts [err] s (s', answerOrThrow s.request err) where
  calls := hcalls
  callbacks := fun _ _ => by rw [hticks]
  request := .inr hrequest
  answers := fun execution err' hmem => by
    cases hcurrent : s.request <;> simp_all [answerOrThrow]
  tail := by cases s.request <;> simp [answerOrThrow]

theorem cancelRequest (r : RequestId) : Accounts errs s (s.cancelRequest r) := by
  have his : ∀ i ∈ (s.cancelRequest r).2, i.isAnswer = false := by
    intro i hi
    rcases mem_cancelRequest hi with rfl | ⟨-, l, -, rfl⟩ <;> rfl
  unfold Connection.cancelRequest at his ⊢
  split at his
  · next hcanceled =>
    rw [if_pos hcanceled]
    exact still rfl rfl rfl (by simp)
  · next hcanceled =>
    rw [if_neg hcanceled]
    exact still rfl rfl rfl his

end Accounts

theorem ticks_loggedIn {st : ConnectionState} (hst : st.isLoggedIn = true) :
    (s.transitionTo c st).1.ticks = s.ticks := by
  have hne : st ≠ .FINAL := fun h => by rw [h] at hst; cases hst
  rw [ticks_transitionTo, if_neg fun h => hne h.1, List.append_nil]

theorem updateCurrentRequest_same (f : Request → Request) :
    (s.updateCurrentRequest f).calls = s.calls ∧ (s.updateCurrentRequest f).ticks = s.ticks ∧
      (s.updateCurrentRequest f).request = s.request := by
  unfold updateCurrentRequest
  split <;> exact ⟨rfl, rfl, rfl⟩

/-- A message has begun: the response, or one to be ignored. -/
theorem stack_afterRequestMessage (call : Nat) : (s.afterRequestMessage c call).2 = [] := by
  rw [afterRequestMessage]
  dsimp only
  split
  · exact transitionTo_loggedIn rfl
  · rfl

theorem accounts_afterRequestMessage (call : Nat) :
    Accounts errs s (s.afterRequestMessage c call) := by
  have hstack := stack_afterRequestMessage (c := c) (s := s) call
  have hsame : (s.afterRequestMessage c call).1.calls = s.calls ∧
      (s.afterRequestMessage c call).1.ticks = s.ticks ∧
        (s.afterRequestMessage c call).1.request = s.request := by
    rw [afterRequestMessage]
    dsimp only
    split
    · exact ⟨calls_transitionTo _, ticks_loggedIn rfl, request_transitionTo _⟩
    · exact updateCurrentRequest_same _
  obtain ⟨hcalls, hticks, hrequest⟩ := hsame
  exact {
    calls := hcalls
    callbacks := fun _ _ => by rw [hticks]
    request := .inl hrequest
    answers := by simp [hstack]
    tail := by simp [hstack] }

/-- A response has ended. -/
theorem stack_onEndOfMessage (call : Nat) :
    (s.onEndOfMessage c call).2 = answerOrThrow s.request s.requestError := by
  have hrequest := (updateCurrentRequest_same (s := s) fun request =>
    (request.removeListener .afterRequestSent).removeListener (.response call)).2.2
  have herror : (s.updateCurrentRequest fun request =>
      (request.removeListener .afterRequestSent).removeListener (.response call)).requestError =
        s.requestError := by
    rw [requestError, requestError, hrequest, updateCurrentRequest]
    cases hcurrent : s.request with
    | none => rfl
    | some execution => simp [updateRequest, Request.removeListener]
  rw [onEndOfMessage]
  dsimp only
  rw [transitionTo_loggedIn rfl, herror, hrequest, List.nil_append]

theorem accounts_onEndOfMessage (call : Nat) :
    Accounts [s.requestError] s (s.onEndOfMessage c call) := by
  obtain ⟨hcalls, hticks, -⟩ := updateCurrentRequest_same (s := s) fun request =>
    (request.removeListener .afterRequestSent).removeListener (.response call)
  have hanswered : Accounts [s.requestError] s ((s.onEndOfMessage c call).1,
      answerOrThrow s.request s.requestError) :=
    .answered ((calls_transitionTo _).trans hcalls) ((ticks_loggedIn rfl).trans hticks) rfl
  rwa [← stack_onEndOfMessage (c := c) call] at hanswered

/-- The response to an attention message has ended. -/
theorem stack_afterAttention (attentionReceived : Bool) :
    (s.afterAttention c attentionReceived).2 =
      if attentionReceived then answerOrThrow s.request (some s.attentionError) else [] := by
  rw [afterAttention]
  split
  · dsimp only
    rw [transitionTo_loggedIn rfl, List.nil_append]
  · rfl

theorem accounts_afterAttention (attentionReceived : Bool) :
    Accounts [some s.attentionError] s (s.afterAttention c attentionReceived) := by
  rw [afterAttention]
  split
  · dsimp only
    rw [transitionTo_loggedIn rfl, List.nil_append]
    exact .answered (calls_transitionTo _) (ticks_loggedIn rfl) (request_transitionTo _)
  · exact .still rfl rfl rfl (by simp)

theorem accounts_handle {event : Event} (henabled : s.enabled event = true)
    (hcalling : event.isCalling = false) :
    Accounts (s.errors c event) s (s.handle c event) := by
  cases hconcerns : event.concerns with
  | false => exact (spares_handle henabled hconcerns).toAccounts
  | true =>
    cases event with
    | cancel =>
      show Accounts _ s s.cancel
      unfold Connection.cancel
      split
      · exact .cancelRequest _
      · exact .still rfl rfl rfl (by simp)
    | cancelRequest r => exact .cancelRequest r
    | requestTimer =>
      show Accounts _ s s.requestTimeout
      unfold requestTimeout
      dsimp only
      split
      · next execution _ =>
        -- the listeners run before the error of the timeout is set, and none of them answers
        have hcanceled : Accounts (s.errors c .requestTimer) { s with requestTimer := false }
            (cancelRequest { s with requestTimer := false } execution.request) :=
          .cancelRequest execution.request
        have his : ∀ i ∈ (cancelRequest { s with requestTimer := false } execution.request).2,
            i.isAnswer = false := by
          intro i hi
          rcases mem_cancelRequest hi with rfl | ⟨-, l, -, rfl⟩ <;> rfl
        have hall := List.forall_mem_append.2 ⟨his, show ∀ i ∈ [Instr.requestTimeoutError
          execution.request], i.isAnswer = false by simp [Instr.isAnswer]⟩
        exact { hcanceled with
          answers := fun _ _ hmem => by cases hall _ hmem
          tail := fun i hi => hall i (List.mem_of_mem_tail hi) }
      · exact .still rfl rfl rfl (by simp [Instr.isAnswer])
    | payloadEnd call => exact .still rfl rfl rfl (by simp)
    | payloadError call err => exact .still rfl rfl rfl (by simp)
    | finish call => exact .still rfl rfl rfl (by simp)
    | tick t => cases t <;> first | (cases hcalling; done) | cases hconcerns
    | resume p outcome =>
      -- a message has begun, a response has ended, an attention is acknowledged
      cases p <;> cases outcome <;> first | (cases hconcerns; done) | skip
      · exact { accounts_afterRequestMessage (s := { s with pending := _ }) _ with }
      · exact { accounts_onEndOfMessage (s := { s with pending := _ }) _ with }
      · exact .still rfl rfl rfl (by simp)
      · exact { accounts_afterAttention (s := { s with pending := _ }) _ with }
    | _ => first | (cases hcalling; done) | cases hconcerns

/-! ### Canceled requests -/

/-- A request that is canceled stays canceled. -/
theorem steady_canceled : Request.Steady fun request => request.canceled = true where
  canceled := fun _ _ => rfl
  listeners := fun _ _ h => h
  started := fun _ h => h
  prepared := fun _ h => h
  answered := fun _ h => h
  timeout := fun _ _ h => h
  timedOut := fun _ _ h => h
  completed := fun options id token s h =>
    (RequestTokenHandler.sameListeners_complete options id token s).canceled.trans h

theorem canceled_exec (i : Instr) {r : RequestId} (h : (s.requests r).canceled = true) :
    ((exec c i s).1.requests r).canceled = true :=
  keeps_exec steady_canceled i h

theorem canceled_cancelRequest (r' : RequestId) {r : RequestId}
    (h : (s.requests r).canceled = true) :
    ((s.cancelRequest r').1.requests r).canceled = true :=
  keeps_cancelRequest steady_canceled r' h

theorem canceled_handle {event : Event} {r : RequestId} (h : (s.requests r).canceled = true) :
    ((s.handle c event).1.requests r).canceled = true := by
  refine keeps_handle steady_canceled h ?_ ?_
  · intro call errors answers token s' emitted _ hannounce
    exact (RequestTokenHandler.sameListeners_announce _ hannounce).canceled.trans h
  · intro call err _ _
    exact h

/-- Only `requestTimeout` writes its error. -/
theorem requestTimeoutError_notMem_exec (i : Instr) (r : RequestId) :
    .requestTimeoutError r ∉ (exec c i s).2 := by
  intro hmem
  have hleft := leaves_exec i _ hmem
  cases i <;> cases hleft

theorem requestTimeoutError_mem_handle {event : Event} {r : RequestId}
    (hmem : .requestTimeoutError r ∈ (s.handle c event).2) :
    event = .requestTimer ∧ ∃ execution, s.request = some execution ∧ execution.request = r := by
  have hleft := leaves_handle event _ hmem
  cases event with
  | requestTimer =>
    rw [show s.handle c .requestTimer = s.requestTimeout from rfl, requestTimeout] at hmem
    dsimp only at hmem
    split at hmem
    · next execution hrequest =>
      rcases List.mem_append.1 hmem with h | h
      · cases isCanceling_cancelRequest _ h
      · cases List.mem_singleton.1 h
        exact ⟨rfl, execution, hrequest, rfl⟩
    · simp at hmem
  | tick t => cases t <;> cases hleft
  | _ => cases hleft

/-- The end of a response does not cancel a request. -/
theorem canceled_onEndOfMessage (call : Nat) (r : RequestId) :
    ((s.onEndOfMessage c call).1.requests r).canceled = (s.requests r).canceled := by
  rw [onEndOfMessage]
  dsimp only
  rw [requests_transitionTo, updateCurrentRequest]
  split
  · rw [updateRequest]
    dsimp only
    split
    · next hr =>
      rw [hr]
      rfl
    · rfl
  · rfl

/-! ### While a connection is logged in -/

/-- What a connection is doing stays the same, or is given up where it cannot go on. -/
structure Remains (s s' : Connection) : Prop where
  state : s'.state = s.state
  request : s'.request = s.request
  pending : s'.pending = [] ∨ s'.pending.map Pending.subject = s.pending.map Pending.subject

theorem Remains.of_reading {s' : Connection} {x : Execution} (h : Remains s s')
    (hreading : Reading s' x) : Reading s x := by
  obtain ⟨hstate, hrequest, errors, answers, hpending⟩ := hreading
  refine ⟨h.state ▸ hstate, h.request ▸ hrequest, ?_⟩
  rcases h.pending with hnone | hsame
  · cases hnone.symm.trans hpending
  · rw [hpending] at hsame
    obtain ⟨p, hp, hsubject⟩ := List.map_eq_singleton_iff.1 hsame.symm
    cases p <;> cases hsubject
    exact ⟨_, _, hp⟩

/-- Nobody is answered by a step that keeps the connection open. -/
def Undisturbed (s : Connection) (r : Connection × List Instr) : Prop :=
  r.1.state = .FINAL ∨ Remains s r.1 ∧ ∀ i ∈ r.2, i.isAnswer = false

/-- Where neither the state nor what is under way is concerned. -/
theorem undisturbed_quiet {cause : Cause} {r : Connection × List Instr} (h : Changes c cause s r.1)
    (hquiet : cause.isQuiet = true) (his : ∀ i ∈ r.2, i.isAnswer = false) : Undisturbed s r :=
  have ⟨hstate, hrequest, hpending⟩ := h.quiet hquiet
  .inr ⟨⟨hstate, hrequest, .inr (by rw [hpending])⟩, his⟩

theorem undisturbed_exec {i : Instr} (h : Serving s (i :: rest))
    (hphase : RequestPhase s (i :: rest)) (hopen : s.state ≠ .FINAL)
    (hlistener : ∀ r l, i ≠ .cancelListener r l) :
    Undisturbed s (exec c i s) := by
  have hloggedIn := hphase.isLoggedIn hopen
  cases i with
  | enterFinal => exact .inl (state_transitionTo _)
  | enterConnecting => exact absurd (List.mem_cons_self ..) hphase.notConnecting
  | dispatchSocketError err => exact .inl (dispatchEvent_socketError hloggedIn err)
  | afterConnectTimeout =>
    show Undisturbed s
      (({ s with connectTimer := false } : Connection).dispatchEvent c .connectTimeout)
    rw [dispatchEvent_connectTimeout (s := { s with connectTimer := false }) hloggedIn]
    exact .inr ⟨⟨rfl, rfl, .inr rfl⟩, by simp [Instr.isAnswer]⟩
  | closeRequest => cases h.cleaning hloggedIn _ (List.mem_cons_self ..)
  | finishCleanup => cases h.cleaning hloggedIn _ (List.mem_cons_self ..)
  | cancelListener r l => exact absurd rfl (hlistener r l)
  | completeToken call r errors token =>
    refine .inr ⟨⟨rfl, rfl, .inr ?_⟩, by simp [exec]⟩
    simp [exec, completeToken, updateRequest, Function.comp_def, Pending.subject_setErrors]
  | _ => exact undisturbed_quiet (changes_exec _) rfl (by simp [exec, Instr.isAnswer])

/-- What is under way goes on, or is given up with its connection. -/
theorem undisturbed_resume {p : Pending} {outcome : Outcome} (h : Serving s [])
    (hopen : s.state ≠ .FINAL) (hphase : RequestPhase s [])
    (henabled : s.enabled (.resume p outcome) = true)
    (hconcerns : (Event.resume p outcome).concerns = false) :
    Undisturbed s (s.handle c (.resume p outcome)) := by
  obtain ⟨hmem, haccepts⟩ := (Bool.and_eq_true _ _).mp henabled
  have hp : p ∈ s.pending := of_decide_eq_true hmem
  have hgiven : ∀ err, s.pending.erase p = [] →
      Undisturbed s (socketError c { s with pending := s.pending.erase p } err) :=
    fun err hnone => .inr ⟨⟨rfl, rfl, .inl hnone⟩, by simp [socketError, Instr.isAnswer]⟩
  cases h.stage with
  | outside hout => cases (hphase.isLoggedIn hopen).symm.trans hout
  | idle _ _ hpending =>
    rw [hpending] at hp
    cases hp
  | waiting x _ _ hpending =>
    rcases hpending with hpending | hpending
    · rw [hpending] at hp
      cases hp
    · obtain rfl : p = .requestMessage x.call := by simpa [hpending] using hp
      cases outcome <;> cases haccepts
      · cases hconcerns
      · exact hgiven _ (by simp [hpending])
  | reading x hreading =>
    obtain ⟨_, _, errors, answers, hpending⟩ := hreading
    obtain rfl : p = .requestTokens x.call (some x.request) errors answers := by
      simpa [hpending] using hp
    cases outcome <;> cases haccepts
    · cases hconcerns
    · next token =>
      obtain ⟨hstate, hrequest, hsame, -, -⟩ := requestToken_same (c := c)
        (s := await { s with pending := s.pending.erase (.requestTokens x.call (some x.request)
          errors answers) } (.requestTokens x.call (some x.request) errors answers))
        x.call (some x.request) errors token
      refine .inr ⟨⟨hstate, hrequest, .inr (congrArg _ (hsame.trans ?_))⟩, fun i hi => ?_⟩
      · simp [await, hpending]
      · exact Instr.isAnswer_of_isIdle (Instr.isIdle_of_isReport (isReport_requestToken i hi))
  | attending x _ _ hpending =>
    rcases hpending with hpending | ⟨q, hpending, hq⟩
    · rw [hpending] at hp
      cases hp
    · obtain rfl : p = q := by simpa [hpending] using hp
      have herased : s.pending.erase p = [] := by simp [hpending]
      cases p <;> cases hq <;> cases outcome <;> cases haccepts
      · cases hconcerns
      · exact hgiven _ herased
      · cases hconcerns
      · next attentionReceived answers token =>
        show Undisturbed s (attentionToken { s with pending := s.pending.erase _ } attentionReceived
          answers token)
        unfold attentionToken
        rw [herased]
        split <;> exact .inr ⟨⟨rfl, rfl, .inr (by simp [await, hpending, Pending.subject])⟩,
          by simp [Instr.isAnswer]⟩

theorem undisturbed_handle {event : Event} (h : Serving s rest) (hphase : RequestPhase s rest)
    (hopen : s.state ≠ .FINAL) (henabled : s.enabled event = true)
    (hrest : event.isCall = true ∨ rest = []) (hconcerns : event.concerns = false) :
    Undisturbed s (s.handle c event) := by
  have hloggedIn := hphase.isLoggedIn hopen
  have hnot : ∀ {st : ConnectionState}, st.isLoggedIn = false → s.state ≠ st := by
    rintro st hst rfl
    rw [hloggedIn] at hst
    cases hst
  have hquiet : (Cause.event event).isQuiet = true → Undisturbed s (s.handle c event) :=
    fun hquiet => undisturbed_quiet (changes_handle event) hquiet fun i hi => by
      have hleft := leaves_handle event i hi
      cases i with
      | answer execution err =>
        cases event <;> first | (cases hquiet; done) | cases hleft | skip
        next t => cases t <;> first | (cases hleft; done) | cases hconcerns
      | _ => rfl
  cases event with
  | connect =>
    show Undisturbed s (s.connect c)
    unfold connect
    rw [if_neg (hnot rfl)]
    exact .inr ⟨⟨rfl, rfl, .inr rfl⟩, by simp⟩
  | close => exact .inl (state_transitionTo _)
  | connectTimer =>
    have hpending : s.pending.map Pending.abort = s.pending := by
      refine (List.map_congr_left fun p hp => ?_).trans (List.map_id _)
      have hlogin := hphase.pending p hp
      cases p <;> first | rfl | cases hlogin
    exact .inr ⟨⟨rfl, rfl, .inr (congrArg _ hpending)⟩,
      by simp [handle, connectTimeout, Instr.isAnswer]⟩
  | cancelTimer =>
    exact .inl (dispatchEvent_socketError (s := { s with cancelTimerArmed := false }) hloggedIn _)
  | retryTimer => cases hphase.retryTimer.symm.trans henabled
  | socketClose =>
    refine .inl ?_
    show (s.socketClose c).1.state = .FINAL
    unfold socketClose
    rw [if_neg (hnot rfl), if_neg (hnot rfl)]
    exact state_transitionTo _
  | resume p outcome =>
    obtain rfl := hrest.resolve_left (by simp [Event.isCall])
    exact undisturbed_resume h hopen hphase henabled hconcerns
  | setTimeout | socketError | socketEnd | tick => exact hquiet rfl
  | _ => cases hconcerns

end Connection

end Tedious
