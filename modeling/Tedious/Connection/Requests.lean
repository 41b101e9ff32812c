import Tedious.Connection.Transition

/-!
# Tedious.Connection.Requests

What a step does to one request. A property that is kept when the connection starts the request,
listens to it, answers it and the like (`Request.Steady`) is kept by every step, unless a token of
a response or the error of a payload says otherwise (`keeps_exec`, `keeps_handle`).
-/

namespace Tedious

open Chunked Reentrant

/-- A property that is kept by whatever the connection does to a request of its own accord. -/
structure Request.Steady (P : Request → Prop) : Prop where
  canceled : ∀ request, P request → P { request with canceled := true }
  listeners : ∀ request listeners, P request → P { request with cancelListeners := listeners }
  started : ∀ request, P request → P { request with rowCount := 0, rows := [], rst := [] }
  prepared : ∀ request, P request →
    P { request with preparing := true, prepared := request.prepared + 1 }
  answered : ∀ request, P request → P { request with preparing := false }
  timeout : ∀ request timeout, P request → P { request with timeout }
  timedOut : ∀ request message, P request →
    P { request with error := some (.request (.new message (some "ETIMEOUT"))) }
  completed : ∀ options id token (s : RequestState), P s.request →
    P (RequestTokenHandler.complete options id token s).request

namespace Connection

variable {c : ConnectionConfig} {s : Connection}

/-! ### Steps that leave requests alone -/

@[simp] theorem requests_closeRequest : s.closeRequest.1.requests = s.requests :=
  cleansUp_closeRequest.requests

theorem requests_dispatchEvent (event : Dispatched) :
    (s.dispatchEvent c event).1.requests = s.requests := by
  rw [dispatchEvent]
  split
  · next r hr =>
    unfold eventHandler at hr
    cases event <;> dsimp only at hr <;> split at hr <;> cases hr <;>
      first
      | rfl
      | exact requests_transitionTo ..
  · rfl

theorem requests_sendLogin7Packet : (s.sendLogin7Packet c).1.requests = s.requests := by
  rw [sendLogin7Packet]
  cases c.authentication <;> exact requests_transitionTo ..

theorem requests_instanceLookupFailed (aborted : Bool) (err : Err) :
    (s.instanceLookupFailed aborted err).1.requests = s.requests := by
  cases aborted <;> rfl

theorem requests_connectFailed (aborted : Bool) (err : Err) :
    (s.connectFailed aborted err).1.requests = s.requests := by
  cases aborted <;> rfl

theorem requests_afterPrelogin (data : Bytes) :
    (s.afterPrelogin c data).1.requests = s.requests := by
  rw [afterPrelogin]
  split
  · rfl
  · dsimp only
    split_ifs <;>
      first
      | rfl
      | exact requests_transitionTo ..
      | exact requests_sendLogin7Packet

theorem requests_afterLogin (kind : LoginKind) (handler : Login7TokenHandler) :
    (s.afterLogin c kind handler).1.requests = s.requests := by
  have hacknowledged : (s.loginAcknowledged c handler).1.requests = s.requests := by
    rw [loginAcknowledged]
    split <;> exact requests_transitionTo ..
  have hfailed : (s.loginFailed c).1.requests = s.requests := by
    rw [loginFailed]
    split
    · split
      · exact requests_transitionTo ..
      · rfl
    · rfl
  cases kind with
  | standard =>
    rw [afterLogin, afterStandardLogin]
    split
    · exact hacknowledged
    · exact hfailed
  | ntlm =>
    rw [afterLogin, afterNtlmLogin]
    split_ifs
    · exact hacknowledged
    · rfl
    · exact hfailed
  | fedauth =>
    rw [afterLogin, afterFedauthLogin]
    split_ifs
    · exact hacknowledged
    · rfl
    · exact hfailed

theorem requests_loginToken (kind : LoginKind) (handler : Login7TokenHandler) (token : Token) :
    (s.loginToken c kind handler token).1.requests = s.requests := by
  unfold loginToken
  split
  · rfl
  · split <;> rfl

theorem requests_attentionToken (attentionReceived : Bool) (answers : Option Answer)
    (token : Token) : (s.attentionToken attentionReceived answers token).1.requests = s.requests := by
  rw [attentionToken]
  split <;> rfl

theorem requests_initialSqlToken (token : Token) :
    (s.initialSqlToken token).1.requests = s.requests := by
  rw [initialSqlToken]
  split <;> rfl

theorem requests_afterAttention (attentionReceived : Bool) :
    (s.afterAttention c attentionReceived).1.requests = s.requests := by
  rw [afterAttention]
  split
  · exact requests_transitionTo ..
  · rfl

/-! ### Steps that change a request -/

variable {P : Request → Prop} {r : RequestId}

/-- A request after one of them has been changed. -/
theorem keeps_ite {r' : RequestId} {request : Request} (h : P (s.requests r))
    (hchanged : r = r' → P request) : P (if r = r' then request else s.requests r) := by
  split
  · next heq => exact hchanged heq
  · exact h

theorem keeps_updateCurrentRequest {f : Request → Request} (h : P (s.requests r))
    (hf : P (f (s.requests r))) : P ((s.updateCurrentRequest f).requests r) := by
  rw [updateCurrentRequest]
  split
  · refine keeps_ite h ?_
    rintro rfl
    exact hf
  · exact h

theorem keeps_exec (hP : Request.Steady P) (i : Instr) (h : P (s.requests r)) :
    P ((exec c i s).1.requests r) := by
  cases i with
  | enterFinal | enterConnecting => rwa [exec, requests_transitionTo]
  | dispatchSocketError err => rwa [exec, requests_dispatchEvent]
  | afterConnectTimeout => rwa [exec, requests_dispatchEvent]
  | closeRequest => rwa [exec, requests_closeRequest]
  | answer execution err =>
    refine keeps_ite h ?_
    rintro rfl
    exact hP.answered _ h
  | cancelListener r' listener =>
    cases listener with
    | response call =>
      rw [exec, onCancel, requests_transitionTo]
      exact h
    | _ => exact h
  | requestTimeoutError r' =>
    refine keeps_ite h ?_
    rintro rfl
    exact hP.timedOut _ _ h
  | completeToken call r' errors token =>
    refine keeps_ite h ?_
    rintro rfl
    exact hP.completed _ _ _ _ h
  | _ => exact h

theorem keeps_cancelRequest (hP : Request.Steady P) (r' : RequestId) (h : P (s.requests r)) :
    P ((s.cancelRequest r').1.requests r) := by
  rw [cancelRequest]
  split
  · exact h
  · refine keeps_ite h ?_
    rintro rfl
    exact hP.listeners _ _ (hP.canceled _ h)

theorem keeps_makeRequest (hP : Request.Steady P) (r' : RequestId) (type : RequestType)
    (h : P (s.requests r)) : P ((s.makeRequest c r' type).1.requests r) := by
  rw [makeRequest]
  split_ifs
  · exact h
  · exact h
  · rw [requests_transitionTo]
    refine keeps_ite h ?_
    rintro rfl
    exact hP.listeners _ _ (hP.started _ h)

theorem keeps_afterRequestMessage (hP : Request.Steady P) (call : Nat) (h : P (s.requests r)) :
    P ((s.afterRequestMessage c call).1.requests r) := by
  rw [afterRequestMessage]
  split
  · rwa [requests_transitionTo]
  · exact keeps_updateCurrentRequest h (hP.listeners _ _ h)

theorem keeps_onEndOfMessage (hP : Request.Steady P) (call : Nat) (h : P (s.requests r)) :
    P ((s.onEndOfMessage c call).1.requests r) := by
  rw [onEndOfMessage]
  dsimp only
  rw [requests_transitionTo]
  exact keeps_updateCurrentRequest h (hP.listeners _ _ (hP.listeners _ _ h))

theorem keeps_onFinish (hP : Request.Steady P) (call : Nat) (h : P (s.requests r)) :
    P ((s.onFinish call).requests r) := by
  refine keeps_ite (s := s) h ?_
  rintro rfl
  exact hP.listeners _ _ (hP.listeners _ _ h)

theorem keeps_onPayloadError {call : Nat} {err : Err} (h : P (s.requests r))
    (hpayload : (s.messages call).request = r →
      P { s.requests r with error := (s.requests r).error <|> some err }) :
    P ((s.onPayloadError call err).requests r) := by
  refine keeps_ite (s := s) h ?_
  rintro rfl
  exact hpayload rfl

/-- What a token of a response does is another matter. -/
theorem keeps_requestToken {call : Nat} {request : Option RequestId} {errors : List RequestError}
    {token : Token} (h : P (s.requests r))
    (htoken : ∀ s' event, request = some r →
      RequestTokenHandler.announce c.toHandlerOptions token
        ⟨errors, s.requests r, s.procReturnStatusValue⟩ = some (s', event) → P s'.request) :
    P ((s.requestToken c call request errors token).1.requests r) := by
  unfold requestToken
  split
  · split <;> exact h
  · next r' =>
    dsimp only
    split
    · exact h
    · next s' event hannounce =>
      refine keeps_ite h ?_
      rintro rfl
      exact htoken s' event rfl hannounce

theorem keeps_resume (hP : Request.Steady P) {p : Pending} {outcome : Outcome}
    (h : P (s.requests r))
    (htoken : ∀ call errors answers token s' event,
      p = .requestTokens call (some r) errors answers → outcome = .token token →
      RequestTokenHandler.announce c.toHandlerOptions token
        ⟨errors, s.requests r, s.procReturnStatusValue⟩ = some (s', event) → P s'.request) :
    P ((s.resume c p outcome).1.requests r) := by
  unfold resume
  split
  all_goals first | exact h | skip
  -- before a login
  · rwa [requests_instanceLookupFailed]
  · rw [socketHandlingForSendPreLogin, requests_transitionTo]
    exact h
  · rwa [requests_connectFailed]
  · rwa [requests_afterPrelogin]
  · rw [afterStartTls, requests_sendLogin7Packet]
    exact h
  -- login responses
  · rwa [requests_loginToken]
  · rwa [requests_afterLogin]
  · rw [sendFedAuthTokenMessage, requests_transitionTo]
    exact h
  -- the response to the initial SQL
  · rw [requests_initialSqlToken]
    exact h
  · rw [afterInitialSql]
    dsimp only
    rwa [requests_transitionTo]
  -- requests
  · exact keeps_afterRequestMessage hP _ h
  · refine keeps_requestToken (s := s.await _) h ?_
    rintro s' event rfl hannounce
    exact htoken _ _ _ _ s' event rfl rfl hannounce
  · exact keeps_onEndOfMessage hP _ h
  · rwa [requests_attentionToken]
  · rwa [requests_afterAttention]

/-- What the error of a payload does is another matter, too. -/
theorem keeps_handle (hP : Request.Steady P) {event : Event} (h : P (s.requests r))
    (htoken : ∀ call errors answers token s' emitted,
      event = .resume (.requestTokens call (some r) errors answers) (.token token) →
      RequestTokenHandler.announce c.toHandlerOptions token
        ⟨errors, s.requests r, s.procReturnStatusValue⟩ = some (s', emitted) → P s'.request)
    (hpayload : ∀ call err, event = .payloadError call err → (s.messages call).request = r →
      P { s.requests r with error := (s.requests r).error <|> some err }) :
    P ((s.handle c event).1.requests r) := by
  cases event with
  | connect =>
    rw [handle, Connection.connect]
    split
    · rwa [requests_transitionTo]
    · exact h
  | close => rwa [handle, close, requests_transitionTo]
  | cancel =>
    rw [handle, cancel]
    split
    · exact keeps_cancelRequest hP _ h
    · exact h
  | cancelRequest r' => exact keeps_cancelRequest hP r' h
  | setTimeout r' timeout =>
    refine keeps_ite h ?_
    rintro rfl
    exact hP.timeout _ _ h
  | makeRequest r' type => exact keeps_makeRequest hP r' type h
  | prepare r' =>
    refine keeps_makeRequest (s := s.updateRequest r' _) hP r' _ (keeps_ite h ?_)
    rintro rfl
    exact hP.prepared _ h
  | reset =>
    exact keeps_makeRequest hP _ _ (s := { s with
      resetConnectionOnNextRequest := true, trace := .resetCalled :: s.trace }) h
  | requestTimer =>
    rw [handle, requestTimeout]
    dsimp only
    split
    · exact keeps_cancelRequest (s := { s with requestTimer := false }) hP _ h
    · exact h
  | cancelTimer =>
    rw [handle, cancelTimeout, requests_dispatchEvent]
    exact h
  | socketEnd =>
    rw [handle, socketEnd]
    split <;> exact h
  | socketClose =>
    rw [handle, socketClose]
    split_ifs
    · rwa [requests_dispatchEvent]
    · rwa [requests_dispatchEvent]
    · rwa [requests_transitionTo]
  | payloadError call err => exact keeps_onPayloadError h (hpayload call err rfl)
  | finish call => exact keeps_onFinish hP call h
  | tick t => cases t <;> exact h
  | resume p outcome =>
    refine keeps_resume (s := { s with pending := _ }) hP h ?_
    rintro call errors answers token s' emitted rfl rfl hannounce
    exact htoken _ _ _ _ s' emitted rfl hannounce
  | _ => exact h

end Connection

end Tedious
