import Mathlib.Logic.Relation
import Tedious.Connection.Transition

/-!
# Tedious.Connection.Changes

What a step can change. Whatever an event or an instruction does is made of a few changes: each
of them concerns one component, or is a transition to one of the states that the cause of the
change can enter (`Change`). `changes_handle` and `changes_exec` go through the handlers once;
what every change keeps, every step keeps (`Changes.keeps`). What a login leaves to do is one of
four things (`Remainder`).
-/

namespace Tedious

open Chunked Reentrant

/-- What is waited for where something under way goes on without a transition. -/
def Pending.leadsTo : Pending → Pending → Bool
  | instanceLookup aborted, connect aborted' => aborted = aborted'
  | prelogin, startTls _ | initialSqlMessage, initialSqlTokens
  | initialSqlTokens, initialSqlTokens | attentionMessage, attentionTokens ..
  | attentionTokens .., attentionTokens .. => true
  | loginMessage kind, loginTokens kind' _ | loginTokens kind _, loginTokens kind' _ =>
      kind = kind'
  | loginTokens .ntlm _, loginMessage .ntlm | loginTokens .fedauth _, credentials => true
  | requestMessage call, requestTokens call' .. => call = call'
  | requestTokens call request .., requestTokens call' request' .. =>
      call = call' && request = request'
  | _, _ => false

theorem Pending.isLogin_of_leadsTo {p q : Pending} (h : p.leadsTo q = true) :
    q.isLogin = p.isLogin := by
  unfold leadsTo at h
  split at h <;> first | rfl | cases h

namespace Instr

/-- Closing the connection, or failing to. -/
def isClosing : Instr → Bool
  | .emit _ | .enterFinal | .closeRequest | .finishCleanup | .answer .. | .throw => true
  | _ => false

/-- Canceling a request. -/
def isCanceling : Instr → Bool
  | .callback | .cancelListener .. => true
  | _ => false

/-- What something under way may leave to do at any time; a `'connect'` is for itself. -/
def isReport : Instr → Bool
  | .emit (.connect _) | .emit .end => false
  | .emit _ | .enterFinal | .dispatchSocketError _ | .loginErrorMessage _ | .completeToken ..
  | .throw => true
  | _ => false

theorem isClosing_of_isCleanup {i : Instr} (h : i.isCleanup = true) : i.isClosing = true := by
  cases i <;> first | rfl | cases h

end Instr

namespace Connection

/-- What changes a connection. -/
inductive Cause
  | event (e : Event)
  | instr (i : Instr)

namespace Cause

/-- The states that can be entered; a request that is made has a state of its own, and so has
a login that is tried again. -/
def enters : Cause → List ConnectionState
  | event .connect | instr .enterConnecting => [.CONNECTING]
  | event .close | event .cancelTimer | instr .enterFinal | instr (.dispatchSocketError _)
  | instr .afterConnectTimeout => [.FINAL]
  | event .socketClose => [.CONNECTING, .FINAL]
  | event (.resume (.connect _) .done) => [.SENT_PRELOGIN]
  | event (.resume .prelogin (.data _)) =>
      [.SENT_TLSSSLNEGOTIATION, .SENT_LOGIN7_WITH_FEDAUTH, .SENT_LOGIN7_WITH_NTLM,
        .SENT_LOGIN7_WITH_STANDARD_LOGIN]
  | event (.resume (.startTls _) .done) =>
      [.SENT_LOGIN7_WITH_FEDAUTH, .SENT_LOGIN7_WITH_NTLM, .SENT_LOGIN7_WITH_STANDARD_LOGIN]
  | event (.resume (.loginTokens ..) .done) => [.REROUTING, .LOGGED_IN_SENDING_INITIAL_SQL]
  | event (.resume .credentials .done) => [.SENT_LOGIN7_WITH_STANDARD_LOGIN]
  | event (.resume .initialSqlTokens .done) | event (.resume (.requestTokens ..) .done)
  | event (.resume (.attentionTokens ..) .done) => [.LOGGED_IN]
  | event (.resume (.requestMessage _) .done) | instr (.cancelListener _ (.response _)) =>
      [.SENT_ATTENTION]
  | _ => []

/-- What can be left to do. -/
def leaves : Cause → Instr → Bool
  | event .close, i | event .cancelTimer, i | event .socketClose, i | instr .enterFinal, i
  | instr (.dispatchSocketError _), i | instr .afterConnectTimeout, i
  | instr .closeRequest, i => i.isClosing
  | event .cancel, i | event (.cancelRequest _), i => i.isCanceling
  | event .requestTimer, .requestTimeoutError _ | event .requestTimer, .throw => true
  | event .requestTimer, i => i.isCanceling
  | event (.makeRequest ..), .answer .. | event (.prepare _), .answer ..
  | event .reset, .answer .. => true
  | event .connectTimer, .emit _ | event .connectTimer, .afterConnectTimeout
  | event .retryTimer, .emit _ | event .retryTimer, .enterConnecting => true
  | event (.socketError _), .emit _ | event (.socketError _), .dispatchSocketError _
  | event .socketEnd, .emit _ | event .socketEnd, .dispatchSocketError _
  | event (.tick _), .emit _ | event (.tick _), .dispatchSocketError _
  | event (.tick (.callback ..)), .answer .. => true
  | event (.resume ..), .emit _ => true
  | event (.resume ..), i => i.isReport || i.isCleanup
  | instr (.emit _), .callback | instr (.answer ..), .callback => true
  | _, _ => false

theorem final_notMem_enters (p : Pending) (outcome : Outcome) :
    .FINAL ∉ enters (.event (.resume p outcome)) := by
  cases p <;> cases outcome <;> simp [enters]

/-- Requests are made and answered in states of their own. -/
theorem mem_enters_resume {p : Pending} (hp : p.isLogin = false) {outcome : Outcome}
    {st : ConnectionState} (hst : st ∈ enters (.event (.resume p outcome))) :
    st = .LOGGED_IN ∨ st = .SENT_ATTENTION := by
  cases p <;> cases hp <;> cases outcome <;> simp [enters] at hst <;> simp [hst]

theorem retry_notMem_enters (cause : Cause) : .TRANSIENT_FAILURE_RETRY ∉ cause.enters := by
  unfold enters
  split <;> simp

/-- A part of a login. -/
def isLogin : Cause → Bool
  | event (.resume p _) => p.isLogin
  | _ => false

/-- The calls that make a request. -/
def makes : Cause → Bool
  | event (.makeRequest ..) | event (.prepare _) | event .reset => true
  | _ => false

/-- The events that cancel a request. -/
def cancels : Cause → Bool
  | event .cancel | event (.cancelRequest _) | event .requestTimer => true
  | _ => false

/-- A request is dropped when it is answered. -/
def drops : Cause → Bool
  | event .cancelTimer | instr (.dispatchSocketError _) | event (.resume (.requestTokens ..) .done)
  | event (.resume (.attentionTokens ..) .done) => true
  | _ => false

/-- The message of a call is written, or not. -/
def pipes : Cause → Bool
  | event (.payloadEnd _) | event (.payloadError ..) | event (.finish _)
  | instr (.cancelListener _ (.unsent _)) => true
  | _ => false

/-- Neither a state nor what is under way is concerned, and no request is made or canceled. -/
def isQuiet : Cause → Bool
  | event (.setTimeout ..) | event (.socketError _) | event .socketEnd | event (.payloadEnd _)
  | event (.payloadError ..) | event (.finish _) | event (.tick _) | instr .callback
  | instr (.emit _) | instr (.answer ..) | instr (.cancelListener _ (.unsent _))
  | instr (.cancelListener _ .afterRequestSent) | instr (.requestTimeoutError _)
  | instr (.loginErrorMessage _) | instr .throw => true
  | _ => false

theorem of_isQuiet {cause : Cause} (h : cause.isQuiet = true) : cause.enters = [] ∧
    cause.isLogin = false ∧ cause.makes = false ∧ cause.cancels = false ∧ cause.drops = false := by
  unfold isQuiet at h
  split at h <;> first | exact ⟨rfl, rfl, rfl, rfl, rfl⟩ | cases h

/-- What is noted when an instruction has run. -/
def notes : Cause → List Trace
  | instr (.emit emitted) => [.emitted emitted]
  | instr (.answer execution err) => [.answered execution err]
  | instr .throw => [.threw]
  | _ => []

theorem entered_notMem_notes {st : ConnectionState} (cause : Cause) :
    .entered st ∉ cause.notes := by
  unfold notes
  split <;> simp

end Cause

/-- `socketError` emits `'connect'`. -/
def refusesToConnect (s : Connection) : Bool :=
  s.state = .CONNECTING || s.state = .SENT_TLSSSLNEGOTIATION

/-- A login response that leaves nothing to try but to report an error. -/
def failsToLogin (s : Connection) (kind : LoginKind) (handler : Login7TokenHandler) : Bool :=
  !handler.loginAckReceived && !(kind = .ntlm && s.ntlmpacket.isSome) &&
    !(kind = .fedauth && handler.hasFedAuthInfo) && !s.loginError.any isTransientError

/-- The events that emit `'connect'`, at once or in the next tick. -/
def announces (c : ConnectionConfig) (s : Connection) : Event → Bool
  | .connectTimer => true
  | .socketError _ | .socketEnd | .tick (.socketError _) => s.refusesToConnect
  | .resume (.instanceLookup false) (.failed _) => true
  | .resume .prelogin (.data data) =>
    match PreloginPayload.ofBuffer data with
    | .error _ => false
    | .ok payload => c.encrypt = .no && encryptionRequired payload
  | .resume (.loginTokens kind handler) .done => s.failsToLogin kind handler
  | .resume .credentials (.failed _) => true
  | .resume .initialSqlTokens .done => true
  | .resume .prelogin (.failed _) | .resume (.startTls _) (.failed _)
  | .resume (.loginMessage _) (.failed _) | .resume .initialSqlMessage (.failed _)
  | .resume (.requestMessage _) (.failed _) | .resume .attentionMessage (.failed _) =>
      s.refusesToConnect
  | _ => false

/-- A login response that has not acknowledged the login leaves something to try. -/
def leavesToTry (s : Connection) (kind : LoginKind) (handler : Login7TokenHandler) : Bool :=
  kind = .ntlm && s.ntlmpacket.isSome || kind = .fedauth && handler.hasFedAuthInfo

variable (c : ConnectionConfig)

/-- How a login response ends. -/
inductive AfterLogin (s : Connection) (kind : LoginKind) (handler : Login7TokenHandler) :
    Connection × List Instr → Prop
  | rerouted (hack : handler.loginAckReceived = true) (routingData : RoutingData) :
      AfterLogin s kind handler
        ({ s with routingData := some routingData }.transitionTo c .REROUTING)
  | acknowledged (hack : handler.loginAckReceived = true) :
      AfterLogin s kind handler (s.transitionTo c .LOGGED_IN_SENDING_INITIAL_SQL)
  | challenged (hack : handler.loginAckReceived = false) (hkind : kind = .ntlm)
      (hpacket : s.ntlmpacket.isSome = true) :
      AfterLogin s kind handler
        ({ s.sendMessage .NTLMAUTH_PKT with ntlmpacket := none }.await (.loginMessage .ntlm), [])
  | informed (hack : handler.loginAckReceived = false) (hkind : kind = .fedauth)
      (hinfo : handler.hasFedAuthInfo = true) :
      AfterLogin s kind handler (s.await .credentials, [])
  | retried {err : Err} (hack : handler.loginAckReceived = false)
      (hleft : s.leavesToTry kind handler = false) (herror : s.loginError = some err)
      (htransient : isTransientError err = true) :
      AfterLogin s kind handler (s.transitionTo c .TRANSIENT_FAILURE_RETRY)
  | failed (err : Err) (hack : handler.loginAckReceived = false)
      (hleft : s.leavesToTry kind handler = false)
      (hpermanent : s.loginError.any isTransientError = false) :
      AfterLogin s kind handler (s, [.emit (.connect (some err)), .enterFinal])

/-- What something under way leaves to do: it reports, with a `'connect'` where it `announces`
one, it cleans up where the login is rerouted or tried again, or it answers the request. -/
inductive Remainder (s : Connection) (p : Pending) (outcome : Outcome) :
    Connection × List Instr → Prop
  /-- An instance that is not found is announced in the next tick. -/
  | reports {r : Connection × List Instr}
      (hquiet : announces c s (.resume p outcome) = true → p = .instanceLookup false)
      (his : ∀ i ∈ r.2, i.isReport = true) : Remainder s p outcome r
  | connects {s' : Connection} {err : Option Err} {is : List Instr}
      (h : announces c s (.resume p outcome) = true)
      (his : is = [.enterFinal] ∨ (∃ err, is = [.dispatchSocketError err]) ∨
        is = [] ∧ s'.state = .LOGGED_IN) :
      Remainder s p outcome (s', .emit (.connect err) :: is)
  | cleans {kind : LoginKind} {handler : Login7TokenHandler} {st : ConnectionState}
      (routingData : Option RoutingData) (hp : p = .loginTokens kind handler)
      (houtcome : outcome = .done)
      (hquiet : announces c s (.resume p outcome) = false)
      (hst : st = .REROUTING ∨ st = .TRANSIENT_FAILURE_RETRY) :
      Remainder s p outcome ({ s with routingData }.transitionTo c st)
  | answers {s' : Connection} (hp : p.isLogin = false) (houtcome : outcome = .done)
      (hquiet : announces c s (.resume p outcome) = false) (err : Option Err) :
      Remainder s p outcome (s', answerOrThrow s.request err)

/-- How what is known of a login is changed. -/
inductive LoginChange (s : Connection) : Cause → LoginState → Prop
  | token {kind : LoginKind} {handler handler' : Login7TokenHandler} {token : Token}
      {login : LoginState}
      (h : handler.onToken c.toHandlerOptions token s.toLoginState = some (handler', login)) :
      LoginChange s (.event (.resume (.loginTokens kind handler) (.token token))) login
  | errorMessage {token : MessageData} : LoginChange s (.instr (.loginErrorMessage token))
      (Login7TokenHandler.onErrorMessage c.toHandlerOptions token s.toLoginState)
  | challenged {handler : Login7TokenHandler} :
      LoginChange s (.event (.resume (.loginTokens .ntlm handler) .done))
        { s.toLoginState with ntlmpacket := none }
  | unauthorized {err : Err} (e : ConnectionError) (message : JsString)
      (h : e.isTransient = false) :
      LoginChange s (.event (.resume .credentials (.failed err)))
        { s.toLoginState with loginError := some (.connectionAggregate e message) }

/-- How a request is changed. -/
inductive RequestChange (s : Connection) (r : RequestId) : Cause → Request → Prop
  | canceled {cause : Cause} (h : cause.cancels = true) : RequestChange s r cause
      { s.requests r with canceled := true, cancelListeners := [] }
  | sent {call : Nat} : RequestChange s r (.event (.finish call))
      (((s.requests r).removeListener (.unsent call)).once .afterRequestSent)
  | begun {call : Nat} : RequestChange s r (.event (.resume (.requestMessage call) .done))
      ((s.requests r).once (.response call))
  | ended {call : Nat} {request : Option RequestId} {errors : List RequestError}
      {answers : Option Answer} :
      RequestChange s r (.event (.resume (.requestTokens call request errors answers) .done))
        (((s.requests r).removeListener .afterRequestSent).removeListener (.response call))
  | timeout (timeout : Option JsNumber) :
      RequestChange s r (.event (.setTimeout r timeout)) { s.requests r with timeout }
  | prepared : RequestChange s r (.event (.prepare r))
      { s.requests r with preparing := true, prepared := (s.requests r).prepared + 1 }
  | announced {call : Nat} {errors : List RequestError} {answers : Option Answer} {token : Token}
      {s' : RequestState} {event : Option RequestEvent}
      (h : RequestTokenHandler.announce c.toHandlerOptions token
        ⟨errors, s.requests r, s.procReturnStatusValue⟩ = some (s', event)) :
      RequestChange s r (.event (.resume (.requestTokens call (some r) errors answers)
        (.token token))) s'.request
  | failed {call : Nat} {err : Err} (h : (s.messages call).request = r) :
      RequestChange s r (.event (.payloadError call err))
        { s.requests r with error := (s.requests r).error <|> some err }
  | answered {execution : Execution} {err : Option Err} (h : execution.request = r) :
      RequestChange s r (.instr (.answer execution err)) { s.requests r with preparing := false }
  | timedOut : RequestChange s r (.instr (.requestTimeoutError r))
      { s.requests r with error := some (s.requestTimeoutError c r) }
  | completed {call : Nat} {errors : List RequestError} {token : Token} :
      RequestChange s r (.instr (.completeToken call r errors token))
        (RequestTokenHandler.complete c.toHandlerOptions r token
          ⟨errors, s.requests r, s.procReturnStatusValue⟩).request

/-- One change of a connection. -/
inductive Change (cause : Cause) : Connection → Connection → Prop
  /-- Something under way goes on. -/
  | take {p : Pending} {outcome : Outcome} (h : cause = .event (.resume p outcome))
      (s : Connection) : Change cause s { s with pending := s.pending.erase p }
  /-- A callback of `process.nextTick` runs. -/
  | due {t : Tick} (h : cause = .event (.tick t)) (s : Connection) :
      Change cause s { s with ticks := s.ticks.erase t }
  | enter {st : ConnectionState} (h : st ∈ cause.enters) (s : Connection) :
      Change cause s (s.transitionTo c st).1
  | await {p q : Pending} {outcome : Outcome} (h : cause = .event (.resume p outcome))
      (hq : p.leadsTo q = true) (s : Connection) : Change cause s (s.await q)
  /-- An instance that is not found, or a socket that cannot be connected, is reported in the
  next tick. -/
  | report {p : Pending} {err : Err} {t : Tick} (h : cause = .event (.resume p (.failed err)))
      (ht : (p = .instanceLookup false ∧ ∃ err, t = .emitConnect err) ∨
        p = .connect false ∧ ∃ err, t = .socketError err) (s : Connection) :
      Change cause s (s.nextTick t)
  /-- What is under way notices that the connect timer has fired, that its request is canceled, or
  the errors of its response. -/
  | abort (h : cause = .event .connectTimer) (s : Connection) :
      Change cause s { s with pending := s.pending.map Pending.abort }
  | unlisten {r : RequestId} {call : Nat} (h : cause = .instr (.cancelListener r (.response call)))
      (s : Connection) :
      Change cause s { s with pending := s.pending.filter fun p => ¬p.isResponseOf call }
  | setErrors {call : Nat} {r : RequestId} {errors : List RequestError} {token : Token}
      (h : cause = .instr (.completeToken call r errors token)) (errors' : List RequestError)
      (s : Connection) :
      Change cause s { s with pending := s.pending.map (Pending.setErrors call errors') }
  /-- Timers are cleared, or have fired. -/
  | disarm {connectTimer requestTimer cancelTimerArmed retryTimer : Bool} (s : Connection)
      (hconnect : connectTimer = true → s.connectTimer = true)
      (hrequest : requestTimer = true → s.requestTimer = true)
      (harmed : cancelTimerArmed = true → s.cancelTimerArmed = true)
      (hretry : retryTimer = true → s.retryTimer = true) :
      Change cause s { s with connectTimer, requestTimer, cancelTimerArmed, retryTimer }
  | attended {attentionReceived : Bool} {answers : Option Answer}
      (h : cause = .event (.resume (.attentionTokens attentionReceived answers) .done))
      (s : Connection) : Change cause s { s with cancelTimer := false, cancelTimerArmed := false }
  | armRetry (h : cause = .event .socketClose) (s : Connection)
      (hstate : s.state = .TRANSIENT_FAILURE_RETRY) : Change cause s { s with retryTimer := true }
  /-- `cleanupConnection` after the request's callback. -/
  | close (h : cause = .instr .closeRequest ∨ cause = .instr .finishCleanup) (s : Connection) :
      Change cause s s.finishCleanup
  | drop (h : cause.drops = true) (s : Connection) : Change cause s { s with request := none }
  /-- Another socket takes the place of the one that was used. -/
  | connected {aborted : Bool} (h : cause = .event (.resume (.connect aborted) .done))
      (messageIo : MessageIO) (s : Connection) :
      Change cause s { s with messageIo, closed := false }
  | secured {io : Nat} (h : cause = .event (.resume (.startTls io) .done)) (s : Connection) :
      Change cause s { s with
        messageIo :=
          if s.messageIo.id = io then { s.messageIo with tlsNegotiationComplete := true }
          else s.messageIo }
  | send (h : cause.isLogin = true) (type : MessageType) (s : Connection) :
      Change cause s (s.sendMessage type)
  | login {login : LoginState} (s : Connection) (h : LoginChange c s cause login) :
      Change cause s { s with toLoginState := login }
  | retry {kind : LoginKind} {handler : Login7TokenHandler} {err : Err}
      (h : cause = .event (.resume (.loginTokens kind handler) .done)) (s : Connection)
      (herror : s.loginError = some err) (htransient : isTransientError err = true) :
      Change cause s (s.transitionTo c .TRANSIENT_FAILURE_RETRY).1
  | requireFedAuth (h : cause.isLogin = true) (s : Connection) :
      Change cause s { s with fedAuthRequired := true }
  | route (h : cause.isLogin = true) (routingData : Option RoutingData) (s : Connection) :
      Change cause s { s with routingData }
  /-- A call of `makeRequest` is counted; its callback may wait for the next tick. -/
  | count (h : cause.makes = true) (r : RequestId) (s : Connection) :
      Change cause s (s.countCall { call := s.calls, request := r })
  | defer (h : cause.makes = true) (execution : Execution) (err : Err) (s : Connection) :
      Change cause s (s.nextTick (.callback execution err))
  | serve (h : cause.makes = true) (r : RequestId) (type : RequestType) (s : Connection)
      (hstate : s.state = .LOGGED_IN) :
      Change cause s (((s.countCall { call := s.calls, request := r }).writeRequest c
        { call := s.calls, request := r } type).transitionTo c .SENT_CLIENT_REQUEST).1
  | resetCalled (h : cause = .event .reset) (s : Connection) :
      Change cause s ({ s with resetConnectionOnNextRequest := true }.record .resetCalled)
  | finished {call : Nat} (h : cause = .event (.finish call)) (s : Connection) :
      Change cause s ({ s with resetConnectionOnNextRequest := false }.record (.finished call))
  /-- A listener sends an `ATTENTION` message. -/
  | attend {r : RequestId} (h : cause = .instr (.cancelListener r .afterRequestSent))
      (s : Connection) : Change cause s (s.onCancel c .afterRequestSent).1
  /-- A message of the server has begun. -/
  | read {p : Pending} (h : cause = .event (.resume p .done)) (hp : p.isLogin = false)
      (s : Connection) : Change cause s { s with owed := s.owed.tail }
  | request {r : RequestId} {request : Request} (s : Connection)
      (h : RequestChange c s r cause request) : Change cause s (s.updateRequest r fun _ => request)
  | message (h : cause.pipes = true) (call : Nat) (f : RequestMessage → RequestMessage)
      (s : Connection) : Change cause s (s.updateMessage call f)
  | returnStatus (procReturnStatusValue : Option Int) (s : Connection) :
      Change cause s { s with procReturnStatusValue }
  | note {t : Trace} (h : t ∈ cause.notes) (s : Connection) : Change cause s (s.record t)

/-- Changes with one cause. -/
abbrev Changes (cause : Cause) : Connection → Connection → Prop :=
  Relation.ReflTransGen (Change c cause)

variable {c} {cause : Cause} {s s' : Connection}

/-- **What every change keeps**, a step keeps. -/
theorem Changes.keeps {P : Connection → Prop} (h : Changes c cause s s')
    (hP : ∀ {s s'}, Change c cause s s' → P s → P s') (hs : P s) : P s' := by
  induction h with
  | refl => exact hs
  | tail _ hchange ih => exact hP hchange ih

/-- **A quiet step** concerns neither the state nor what is under way. -/
theorem Changes.quiet (h : Changes c cause s s') (hquiet : cause.isQuiet = true) :
    s'.state = s.state ∧ s'.request = s.request ∧ s'.pending = s.pending := by
  obtain ⟨henters, -, hmakes, -, hdrops⟩ := Cause.of_isQuiet hquiet
  refine h.keeps (P := fun s' => s'.state = s.state ∧ s'.request = s.request ∧
    s'.pending = s.pending) (fun hchange hsame => ?_) ⟨rfl, rfl, rfl⟩
  cases hchange with
  | take hcause => cases hcause; cases hquiet
  | enter hst =>
    rw [henters] at hst
    cases hst
  | await hcause => cases hcause; cases hquiet
  | abort hcause => cases hcause; cases hquiet
  | unlisten hcause => cases hcause; cases hquiet
  | setErrors hcause => cases hcause; cases hquiet
  | close hcause => rcases hcause with rfl | rfl <;> cases hquiet
  | drop hcause => cases hdrops.symm.trans hcause
  | retry hcause => cases hcause; cases hquiet
  | serve hcause => cases hmakes.symm.trans hcause
  | _ => exact hsame

/-! ### Instructions -/

theorem changes_dispatchEvent {event : Dispatched}
    (hevent : event = .connectTimeout ∨ ∃ err, event = .socketError err)
    (hfinal : .FINAL ∈ cause.enters)
    (hdrops : ∀ err, event = .socketError err → cause.drops = true) :
    Changes c cause s (s.dispatchEvent c event).1 := by
  unfold dispatchEvent
  split
  · next r hr =>
    rcases hevent with rfl | ⟨err, rfl⟩ <;> unfold eventHandler at hr <;> dsimp only at hr <;>
      split at hr <;> cases hr
    · exact .refl
    · exact .single (.enter hfinal s)
    · exact .tail (.single (.drop (hdrops _ rfl) s)) (.enter hfinal _)
    · exact .tail (.single (.drop (hdrops _ rfl) s)) (.enter hfinal _)
    · exact .refl
    · exact .single (.enter hfinal s)
  · exact .refl

/-- **An instruction.** -/
theorem changes_exec (i : Instr) : Changes c (.instr i) s (exec c i s).1 := by
  cases i with
  | callback => exact .refl
  | emit event => exact .single (.note (List.mem_singleton_self _) s)
  | enterFinal => exact .single (.enter (List.mem_singleton_self _) s)
  | enterConnecting => exact .single (.enter (List.mem_singleton_self _) s)
  | dispatchSocketError err =>
    exact changes_dispatchEvent (.inr ⟨err, rfl⟩) (List.mem_singleton_self _) fun _ _ => rfl
  | afterConnectTimeout =>
    have hfired : Change c (.instr .afterConnectTimeout) s { s with connectTimer := false } :=
      .disarm s nofun id id id
    exact .head hfired (changes_dispatchEvent (.inl rfl) (List.mem_singleton_self _) nofun)
  | closeRequest =>
    show Changes c _ s s.closeRequest.1
    unfold closeRequest
    split
    · exact .refl
    · exact .single (.close (.inl rfl) s)
  | finishCleanup => exact .single (.close (.inr rfl) s)
  | answer execution err =>
    exact .tail (.single (.request s (.answered rfl))) (.note (List.mem_singleton_self _) _)
  | cancelListener r l =>
    cases l with
    | unsent call =>
      exact .single (.message rfl call
        (fun message => { message with ignore := true, ended := true }) s)
    | afterRequestSent => exact .single (.attend rfl s)
    | response call =>
      exact .tail (.single (.unlisten rfl s)) (.enter (List.mem_singleton_self _) _)
  | requestTimeoutError r => exact .single (.request s .timedOut)
  | loginErrorMessage token => exact .single (.login s .errorMessage)
  | completeToken call r errors token =>
    exact .tail (.tail (.single (.request s .completed)) (.returnStatus _ _)) (.setErrors rfl _ _)
  | throw => exact .single (.note (List.mem_singleton_self _) s)

/-! ### Something under way -/

theorem changes_updateCurrentRequest {f : Request → Request}
    (hf : ∀ r, RequestChange c s r cause (f (s.requests r))) :
    Changes c cause s (s.updateCurrentRequest f) := by
  unfold updateCurrentRequest
  split
  · exact .single (.request s (hf _))
  · exact .refl

theorem changes_sendLogin7Packet (hlogin : cause.isLogin = true)
    (henters : [.SENT_LOGIN7_WITH_FEDAUTH, .SENT_LOGIN7_WITH_NTLM,
      .SENT_LOGIN7_WITH_STANDARD_LOGIN] ⊆ cause.enters) :
    Changes c cause s (s.sendLogin7Packet c).1 := by
  have hentered : ∀ st ∈ cause.enters, Changes c cause s
      (({ s with routingData := none }.sendMessage .LOGIN7).transitionTo c st).1 := fun st hst =>
    .tail (.tail (.single (.route hlogin none s)) (.send hlogin .LOGIN7 _)) (.enter hst _)
  unfold sendLogin7Packet
  cases c.authentication <;> exact hentered _ (henters (by simp))

theorem changes_afterPrelogin (data : Bytes) :
    Changes c (.event (.resume .prelogin (.data data))) s (s.afterPrelogin c data).1 := by
  unfold afterPrelogin
  split
  · exact .refl
  · next payload _ =>
    dsimp only
    generalize hs' : (if payload.fedAuthRequired = some 1 then
      { s with fedAuthRequired := true } else s) = s'
    have hset : Changes c (.event (.resume .prelogin (.data data))) s s' := by
      rw [← hs']
      split
      · exact .single (.requireFedAuth rfl s)
      · exact .refl
    refine hset.trans ?_
    split
    · split
      · exact .refl
      · exact .tail (.single (.enter (by simp [Cause.enters]) s')) (.await rfl rfl _)
    · exact changes_sendLogin7Packet rfl (by simp [Cause.enters])

theorem changes_loginToken (kind : LoginKind) (handler : Login7TokenHandler) (token : Token) :
    Changes c (.event (.resume (.loginTokens kind handler) (.token token))) s
      (s.loginToken c kind handler token).1 := by
  have hawaits : ∀ (handler' : Login7TokenHandler) (s : Connection),
      Change c (.event (.resume (.loginTokens kind handler) (.token token))) s
        (s.await (.loginTokens kind handler')) :=
    fun handler' s => .await rfl (by simp [Pending.leadsTo]) s
  unfold loginToken
  split
  · exact .single (hawaits _ s)
  · split
    · next htoken => exact .tail (.single (.login s (.token htoken))) (hawaits _ _)
    · exact .single (hawaits _ s)

theorem afterLogin_inv (kind : LoginKind) (handler : Login7TokenHandler) :
    AfterLogin c s kind handler (s.afterLogin c kind handler) := by
  have hacknowledged : handler.loginAckReceived = true →
      AfterLogin c s kind handler (s.loginAcknowledged c handler) := by
    intro hack
    unfold loginAcknowledged
    split
    · exact .rerouted hack _
    · exact .acknowledged hack
  have hfailed : handler.loginAckReceived = false → s.leavesToTry kind handler = false →
      AfterLogin c s kind handler (s.loginFailed c) := by
    intro hack hleft
    unfold loginFailed
    split
    · next herror =>
      split
      · next htransient => exact .retried hack hleft herror htransient
      · next hpermanent => exact .failed _ hack hleft (by simpa [herror] using hpermanent)
    · next herror => exact .failed _ hack hleft (by simp [herror])
  cases kind with
  | standard =>
    unfold afterLogin afterStandardLogin
    dsimp only
    split
    · next hack => exact hacknowledged hack
    · next hack => exact hfailed (Bool.eq_false_iff.2 hack) rfl
  | ntlm =>
    unfold afterLogin afterNtlmLogin
    dsimp only
    split
    · next hack => exact hacknowledged hack
    · next hack =>
      split
      · next hpacket => exact .challenged (Bool.eq_false_iff.2 hack) rfl hpacket
      · next hpacket =>
        exact hfailed (Bool.eq_false_iff.2 hack) (by simpa [leavesToTry] using hpacket)
  | fedauth =>
    unfold afterLogin afterFedauthLogin
    dsimp only
    split
    · next hack => exact hacknowledged hack
    · next hack =>
      split
      · next hinfo => exact .informed (Bool.eq_false_iff.2 hack) rfl hinfo
      · next hinfo =>
        exact hfailed (Bool.eq_false_iff.2 hack) (by simpa [leavesToTry] using hinfo)

theorem changes_afterLogin (kind : LoginKind) (handler : Login7TokenHandler) :
    Changes c (.event (.resume (.loginTokens kind handler) .done)) s
      (s.afterLogin c kind handler).1 := by
  have hend := afterLogin_inv (c := c) (s := s) kind handler
  generalize s.afterLogin c kind handler = r at hend ⊢
  cases hend with
  | rerouted _ routingData =>
    exact .tail (.single (.route rfl (some routingData) s)) (.enter (by simp [Cause.enters]) _)
  | acknowledged => exact .single (.enter (by simp [Cause.enters]) s)
  | challenged _ hkind =>
    subst hkind
    exact .tail (.tail (.single (.send rfl .NTLMAUTH_PKT s)) (.login _ .challenged))
      (.await rfl rfl _)
  | informed _ hkind =>
    subst hkind
    exact .single (.await rfl rfl s)
  | retried _ _ herror htransient => exact .single (.retry rfl s herror htransient)
  | failed => exact .refl

theorem changes_requestToken {call : Nat} {request : Option RequestId} {errors : List RequestError}
    {answers : Option Answer} {token : Token} :
    Changes c (.event (.resume (.requestTokens call request errors answers) (.token token))) s
      (s.requestToken c call request errors token).1 := by
  unfold requestToken
  split
  · split <;> exact .refl
  · dsimp only
    split
    · exact .refl
    · next hannounced =>
      exact .tail (.single (.request s (.announced hannounced))) (.returnStatus _ _)

/-- Something under way goes on. -/
theorem changes_resume (p : Pending) (outcome : Outcome) :
    Changes c (.event (.resume p outcome)) s (s.resume c p outcome).1 := by
  have hdisarm : ∀ s : Connection, Change c (.event (.resume p outcome)) s
      { s with connectTimer := false } := fun s => .disarm s nofun id id id
  unfold resume
  split
  -- the port has been found, or not
  · exact .single (.await rfl (by simp [Pending.leadsTo]) s)
  · unfold instanceLookupFailed
    split
    · exact .single (hdisarm s)
    · next haborted =>
      obtain rfl := Bool.eq_false_iff.2 haborted
      exact .tail (.single (hdisarm s)) (.report rfl (.inl ⟨rfl, _, rfl⟩) _)
  -- the socket is connected, or not
  · exact .tail (.tail (.single (.connected rfl _ s)) (.send rfl .PRELOGIN _))
      (.enter (by simp [Cause.enters]) _)
  · unfold connectFailed
    split
    · exact .single (hdisarm s)
    · next haborted =>
      obtain rfl := Bool.eq_false_iff.2 haborted
      exact .tail (.single (hdisarm s)) (.report rfl (.inr ⟨rfl, _, rfl⟩) _)
  · exact changes_afterPrelogin _
  · exact .head (.secured rfl s) (changes_sendLogin7Packet rfl (by simp [Cause.enters]))
  -- login responses
  · exact .single (.await rfl (by simp [Pending.leadsTo]) s)
  · exact changes_loginToken ..
  · exact changes_afterLogin ..
  · exact .tail (.single (.send rfl .FEDAUTH_TOKEN s)) (.enter (by simp [Cause.enters]) _)
  · exact .single (.login s (.unauthorized _ _ rfl))
  -- the response to the initial SQL
  · exact .single (.await rfl rfl s)
  · unfold initialSqlToken
    split <;> exact .single (.await rfl rfl s)
  -- clearing the timer and entering the state commute
  · have hsame : { (s.transitionTo c .LOGGED_IN).1 with connectTimer := false } =
        ({ s with connectTimer := false }.transitionTo c .LOGGED_IN).1 := by
      unfold transitionTo
      split <;> rfl
    show Changes c _ s { (s.transitionTo c .LOGGED_IN).1 with connectTimer := false }
    rw [hsame]
    exact .tail (.single (hdisarm s)) (.enter (by simp [Cause.enters]) _)
  -- the response to a request
  · next call =>
    have hread : Changes c (.event (.resume (.requestMessage call) .done)) s
        { s with requestTimer := false, owed := s.owed.tail } :=
      .tail (.single (.read rfl rfl s)) (.disarm _ id nofun id id)
    unfold afterRequestMessage
    dsimp only
    split
    · exact hread.tail (.enter (by simp [Cause.enters]) _)
    · have hawaits : Change c (.event (.resume (.requestMessage call) .done)) _
          ({ s with requestTimer := false, owed := s.owed.tail }.await
            (.requestTokens call (s.request.map Execution.request) [] s.owed.head?)) :=
        .await rfl (by simp [Pending.leadsTo]) _
      exact (hread.tail hawaits).trans (changes_updateCurrentRequest fun r => .begun)
  · exact .head (.await rfl (by simp [Pending.leadsTo]) s) changes_requestToken
  · next call request errors answers =>
    have hunlistened : Changes c (.event (.resume (.requestTokens call request errors answers)
        .done)) s (s.updateCurrentRequest fun request =>
          (request.removeListener .afterRequestSent).removeListener (.response call)) :=
      changes_updateCurrentRequest fun r => .ended
    exact (hunlistened.tail (.enter (by simp [Cause.enters]) _)).tail (.drop rfl _)
  -- the acknowledgement of an attention message
  · exact .tail (.single (.read rfl rfl s)) (.await rfl rfl _)
  · unfold attentionToken
    split <;> exact .single (.await rfl rfl s)
  · next attentionReceived answers =>
    have hcleared : Change c (.event (.resume (.attentionTokens attentionReceived answers) .done))
        s { s with cancelTimer := false, cancelTimerArmed := false } :=
      .attended rfl s
    unfold afterAttention
    split
    · exact .tail (.tail (.single hcleared) (.drop rfl _)) (.enter (by simp [Cause.enters]) _)
    · exact .refl
  all_goals exact .refl

/-! ### What is left to do -/

theorem isClosing_transitionTo {st : ConnectionState} :
    ∀ i ∈ (s.transitionTo c st).2, i.isClosing = true :=
  fun i hi => Instr.isClosing_of_isCleanup ((enters_transitionTo st).stack i hi)

theorem mem_answerOrThrow {execution : Option Execution} {err : Option Err} {i : Instr}
    (h : i ∈ answerOrThrow execution err) : i = .throw ∨ ∃ x, i = .answer x err := by
  cases execution with
  | none => exact .inl (List.mem_singleton.1 h)
  | some x => exact .inr ⟨x, List.mem_singleton.1 h⟩

theorem isClosing_answerOrThrow (execution : Option Execution) (err : Option Err) :
    ∀ i ∈ answerOrThrow execution err, i.isClosing = true := by
  intro i hi
  rcases mem_answerOrThrow hi with rfl | ⟨x, rfl⟩ <;> rfl

theorem isClosing_dispatchEvent (event : Dispatched) :
    ∀ i ∈ (s.dispatchEvent c event).2, i.isClosing = true := by
  unfold dispatchEvent
  split
  · next r hr =>
    cases event <;> unfold eventHandler at hr <;> dsimp only at hr <;> split at hr <;> cases hr
    all_goals
      first
      | exact isClosing_transitionTo
      | exact List.forall_mem_append.2 ⟨isClosing_transitionTo, isClosing_answerOrThrow _ _⟩
      | simp
  · simp [Instr.isClosing]

theorem forall_mem_enters {st : ConnectionState} (hst : st.cleansUp = false)
    {P : Instr → Prop} : ∀ i ∈ (s.transitionTo c st).2, P i := by
  rw [stack_enters hst]
  simp

/-- **What an instruction leaves to do.** -/
theorem leaves_exec (i : Instr) : ∀ j ∈ (exec c i s).2, (Cause.instr i).leaves j = true := by
  cases i with
  | enterFinal => exact isClosing_transitionTo
  | enterConnecting => exact forall_mem_enters rfl
  | dispatchSocketError err => exact isClosing_dispatchEvent _
  | afterConnectTimeout => exact isClosing_dispatchEvent _
  | closeRequest =>
    exact fun j hj => Instr.isClosing_of_isCleanup (cleansUp_closeRequest.stack j hj)
  | cancelListener r l =>
    cases l with
    | response call => exact forall_mem_enters rfl
    | _ => simp [exec, onCancel]
  | _ => simp [exec, Cause.leaves]

theorem enterConnecting_notMem_exec (i : Instr) : .enterConnecting ∉ (exec c i s).2 := by
  intro hmem
  have hleft := leaves_exec i _ hmem
  cases i <;> cases hleft

theorem isReport_tokenEvent (token : Token) : ∀ i ∈ tokenEvent token, i.isReport = true := by
  unfold tokenEvent
  split <;> simp [Instr.isReport]

theorem isReport_requestToken {call : Nat} {request : Option RequestId}
    {errors : List RequestError} {token : Token} :
    ∀ i ∈ (s.requestToken c call request errors token).2, i.isReport = true := by
  have htoken := isReport_tokenEvent token
  unfold requestToken
  split
  · split
    · exact htoken
    · exact htoken
    · exact List.forall_mem_append.2 ⟨htoken, by simp [Instr.isReport]⟩
    · simp [Instr.isReport]
  · dsimp only
    split
    · simp [Instr.isReport]
    · refine List.forall_mem_append.2 ⟨List.forall_mem_append.2 ⟨htoken, ?_⟩, ?_⟩
      · simp [Instr.isReport]
      · split <;> simp [Instr.isReport]

namespace Remainder

variable {p : Pending} {outcome : Outcome}

theorem quiet (hquiet : announces c s (.resume p outcome) = false) {r : Connection × List Instr}
    (his : ∀ i ∈ r.2, i.isReport = true) : Remainder c s p outcome r :=
  .reports (fun h => Bool.noConfusion (hquiet.symm.trans h)) his

theorem enters (hquiet : announces c s (.resume p outcome) = false) {st : ConnectionState}
    (hst : st.cleansUp = false) : Remainder c s p outcome (s'.transitionTo c st) :=
  .quiet hquiet (forall_mem_enters hst)

theorem entersAnd (hp : p.isLogin = false)
    (hquiet : announces c s (.resume p .done) = false) {st : ConnectionState}
    (hst : st.cleansUp = false) {s'' : Connection} {execution : Option Execution}
    (hexecution : execution = s.request) (err : Option Err) :
    Remainder c s p .done (s'', (s'.transitionTo c st).2 ++ answerOrThrow execution err) := by
  subst hexecution
  rw [stack_enters hst]
  exact .answers hp rfl hquiet err

theorem sendLogin7Packet (hquiet : announces c s (.resume p outcome) = false) :
    Remainder c s p outcome (s'.sendLogin7Packet c) := by
  unfold Connection.sendLogin7Packet
  cases c.authentication <;> exact .enters hquiet rfl

theorem socketError (h : announces c s (.resume p outcome) = s.refusesToConnect) (err : Err) :
    Remainder c s p outcome (s.socketError c err) := by
  unfold Connection.socketError
  by_cases hstate : s.state = .CONNECTING ∨ s.state = .SENT_TLSSSLNEGOTIATION
  · rw [if_pos hstate]
    exact .connects (h.trans (by simpa [refusesToConnect] using hstate)) (.inr (.inl ⟨_, rfl⟩))
  · rw [if_neg hstate]
    exact .quiet (h.trans (by simpa [refusesToConnect] using hstate)) (by simp [Instr.isReport])

theorem afterPrelogin (data : Bytes) :
    Remainder c s .prelogin (.data data) (s.afterPrelogin c data) := by
  cases hdata : PreloginPayload.ofBuffer data with
  | error e =>
    simp only [Connection.afterPrelogin, hdata]
    exact .quiet (by simp [announces, hdata]) (by simp [Instr.isReport])
  | ok payload =>
    simp only [Connection.afterPrelogin, hdata]
    split
    · next hasks =>
      split
      · next hno =>
        exact .connects (by simp [announces, hdata, hno, hasks.2]) (.inl rfl)
      · next hno =>
        exact .quiet (by simp [announces, hdata, hno]) (forall_mem_enters rfl)
    · next hasks =>
      refine .sendLogin7Packet ?_
      by_cases hno : c.encrypt = .no
      · simpa [announces, hdata, hno] using hasks
      · simp [announces, hdata, hno]

theorem loginToken (kind : LoginKind) (handler : Login7TokenHandler) (token : Token) :
    Remainder c s (.loginTokens kind handler) (.token token)
      (s.loginToken c kind handler token) := by
  have htoken := isReport_tokenEvent token
  unfold Connection.loginToken
  split
  · exact .quiet rfl (List.forall_mem_append.2 ⟨htoken, by simp [Instr.isReport]⟩)
  · split
    · exact .quiet rfl htoken
    · exact .quiet rfl (by simp [Instr.isReport])

theorem afterLogin (kind : LoginKind) (handler : Login7TokenHandler) :
    Remainder c s (.loginTokens kind handler) .done (s.afterLogin c kind handler) := by
  have hend := afterLogin_inv (c := c) (s := s) kind handler
  have hannounces : announces c s (.resume (.loginTokens kind handler) .done) =
      s.failsToLogin kind handler := rfl
  generalize s.afterLogin c kind handler = r at hend ⊢
  cases hend with
  | rerouted hack routingData =>
    exact .cleans (some routingData) rfl rfl (by simp [hannounces, failsToLogin, hack]) (.inl rfl)
  | acknowledged hack => exact .enters (by simp [hannounces, failsToLogin, hack]) rfl
  | challenged hack hkind hpacket =>
    exact .quiet (hannounces.trans (by simp [failsToLogin, hkind, hpacket])) (by simp)
  | informed hack hkind hinfo =>
    exact .quiet (hannounces.trans (by simp [failsToLogin, hkind, hinfo])) (by simp)
  | retried hack hleft herror htransient =>
    exact .cleans s.routingData rfl rfl
      (by simp [hannounces, failsToLogin, herror, htransient]) (.inr rfl)
  | failed err hack hleft hpermanent =>
    refine .connects (hannounces.trans ?_) (.inl rfl)
    obtain ⟨hntlm, hfedauth⟩ := Bool.or_eq_false_iff.1 hleft
    rw [failsToLogin, hack, hntlm, hfedauth, hpermanent]
    rfl

theorem initialSqlToken (token : Token) :
    Remainder c s .initialSqlTokens (.token token) (s'.initialSqlToken token) := by
  unfold Connection.initialSqlToken
  split
  · exact .quiet rfl (isReport_tokenEvent token)
  · exact .quiet rfl (by simp [Instr.isReport])
  · exact .quiet rfl (by simp [Instr.isReport])

end Remainder

/-- **What something under way leaves to do.** -/
theorem remainder_resume (p : Pending) (outcome : Outcome) :
    Remainder c s p outcome (s.resume c p outcome) := by
  have hrequest : ∀ f, (s.updateCurrentRequest f).request = s.request := fun f => by
    unfold updateCurrentRequest
    split <;> rfl
  unfold resume
  split
  -- the port, the socket
  · next aborted => exact .quiet (by cases aborted <;> rfl) (by simp)
  · next aborted err =>
    refine .reports (fun h => ?_) (by simp [instanceLookupFailed])
    cases aborted <;> first | rfl | cases h
  · exact .enters rfl rfl
  · exact .quiet rfl (by simp [connectFailed])
  -- the login
  · exact .afterPrelogin _
  · exact .sendLogin7Packet rfl
  · exact .quiet rfl (by simp)
  · exact .loginToken ..
  · exact .afterLogin _ _
  · exact .enters rfl rfl
  · exact .connects rfl (.inl rfl)
  -- the initial SQL
  · exact .quiet rfl (by simp)
  · exact .initialSqlToken _
  · unfold afterInitialSql
    dsimp only
    rw [stack_enters rfl]
    exact .connects rfl (.inr (.inr ⟨rfl, state_transitionTo _⟩))
  -- requests
  · unfold afterRequestMessage
    dsimp only
    split
    · exact .enters rfl rfl
    · exact .quiet rfl (by simp)
  · exact .quiet rfl isReport_requestToken
  · exact .entersAnd rfl rfl rfl (hrequest _) _
  · exact .quiet rfl (by simp [afterAttentionMessage])
  · unfold attentionToken
    split <;> exact .quiet rfl (by simp [Instr.isReport])
  · unfold afterAttention
    split
    · exact .entersAnd rfl rfl rfl rfl _
    · exact .quiet rfl (by simp)
  -- no message has come
  · exact .socketError rfl _
  · exact .socketError rfl _
  · exact .socketError rfl _
  · exact .socketError rfl _
  · exact .socketError rfl _
  · exact .socketError rfl _
  · refine .reports (fun h => ?_) (by simp)
    unfold announces at h
    split at h <;> grind

theorem isCanceling_cancelRequest {r : RequestId} :
    ∀ i ∈ (s.cancelRequest r).2, i.isCanceling = true := by
  intro i hi
  rcases mem_cancelRequest hi with rfl | ⟨-, l, -, rfl⟩ <;> rfl

theorem isAnswer_makeRequest {r : RequestId} {type : RequestType} :
    ∀ i ∈ (s.makeRequest c r type).2, ∃ execution err, i = .answer execution err := by
  unfold makeRequest
  dsimp only
  split
  · simp
  · split
    · simp
    · exact forall_mem_enters rfl

theorem mem_resume {p : Pending} {outcome : Outcome} {i : Instr}
    (hi : i ∈ (s.resume c p outcome).2) :
    i.isReport = true ∨ (∃ err, i = .emit (.connect err)) ∨ i.isCleanup = true ∧
      ((s.resume c p outcome).1.state = .REROUTING ∨
        (s.resume c p outcome).1.state = .TRANSIENT_FAILURE_RETRY) ∨
      ∃ x err, i = .answer x err := by
  have hr := remainder_resume (c := c) (s := s) p outcome
  generalize s.resume c p outcome = r at hr hi ⊢
  cases hr with
  | reports _ his => exact .inl (his i hi)
  | connects _ his =>
    rcases List.mem_cons.1 hi with rfl | hi
    · exact .inr (.inl ⟨_, rfl⟩)
    · rcases his with rfl | ⟨err, rfl⟩ | ⟨rfl, -⟩ <;> simp at hi <;> subst hi <;> exact .inl rfl
  | cleans _ _ _ _ hst =>
    rw [state_transitionTo]
    exact .inr (.inr (.inl ⟨(enters_transitionTo _).stack i hi, hst⟩))
  | answers _ _ _ err =>
    rcases mem_answerOrThrow hi with rfl | ⟨x, rfl⟩
    · exact .inl rfl
    · exact .inr (.inr (.inr ⟨x, err, rfl⟩))

/-- **What an event leaves to do.** -/
theorem leaves_handle (event : Event) :
    ∀ i ∈ (s.handle c event).2, (Cause.event event).leaves i = true := by
  have hmade : ∀ {s' : Connection} {r : RequestId} {type : RequestType} {cause : Cause},
      (∀ execution err, cause.leaves (.answer execution err) = true) →
        ∀ i ∈ (s'.makeRequest c r type).2, cause.leaves i = true := by
    intro s' r type cause hcause i hi
    obtain ⟨execution, err, rfl⟩ := isAnswer_makeRequest i hi
    exact hcause execution err
  cases event with
  | connect =>
    show ∀ i ∈ (s.connect c).2, _
    unfold connect
    split
    · exact forall_mem_enters rfl
    · simp
  | close => exact isClosing_transitionTo
  | cancel =>
    show ∀ i ∈ s.cancel.2, _
    unfold cancel
    split
    · exact isCanceling_cancelRequest
    · simp
  | cancelRequest r => exact isCanceling_cancelRequest
  | makeRequest r type => exact hmade fun _ _ => rfl
  | prepare r => exact hmade fun _ _ => rfl
  | reset => exact hmade fun _ _ => rfl
  | requestTimer =>
    show ∀ i ∈ s.requestTimeout.2, _
    unfold requestTimeout
    dsimp only
    split
    · refine List.forall_mem_append.2 ⟨fun i hi => ?_, by simp [Cause.leaves]⟩
      have hcanceling := isCanceling_cancelRequest i hi
      cases i <;> first | rfl | cases hcanceling
    · simp [Cause.leaves]
  | cancelTimer => exact isClosing_dispatchEvent _
  | socketEnd =>
    show ∀ i ∈ (s.socketEnd c).2, _
    unfold socketEnd
    split <;> simp [socketError, Cause.leaves]
  | socketClose =>
    show ∀ i ∈ (s.socketClose c).2, _
    unfold socketClose
    split
    · exact isClosing_dispatchEvent _
    · split
      · exact isClosing_dispatchEvent _
      · exact isClosing_transitionTo
  | tick t => cases t <;> simp [handle, onTick, socketError, Cause.leaves]
  | resume p outcome =>
    intro i hi
    rcases mem_resume hi with h | ⟨err, rfl⟩ | ⟨h, -⟩ | ⟨x, err, rfl⟩
    · cases i <;> first | rfl | cases h
    · rfl
    · cases i <;> first | rfl | cases h
    · rfl
  | _ => simp [handle, connectTimeout, retryTimeout, socketError, Cause.leaves]

/-- Only the retry timer leaves a new attempt to connect. -/
theorem enterConnecting_mem_handle {event : Event} (h : .enterConnecting ∈ (s.handle c event).2) :
    event = .retryTimer := by
  have hleft := leaves_handle event _ h
  cases event with
  | retryTimer => rfl
  | tick t => cases t <;> cases hleft
  | _ => cases hleft

/-! ### Events -/

theorem changes_cancelRequest (hcancels : cause.cancels = true) (r : RequestId) :
    Changes c cause s (s.cancelRequest r).1 := by
  unfold cancelRequest
  split
  · exact .refl
  · exact .single (.request s (.canceled hcancels))

theorem changes_makeRequest (hmakes : cause.makes = true) (r : RequestId) (type : RequestType) :
    Changes c cause s (s.makeRequest c r type).1 := by
  unfold makeRequest
  dsimp only
  split
  · exact .single (.count hmakes r s)
  · next hstate =>
    split
    · exact .tail (.single (.count hmakes r s)) (.defer hmakes _ _ _)
    · exact .single (.serve hmakes r type s (not_not.1 hstate))

theorem changes_socketClose : Changes c (.event .socketClose) s (s.socketClose c).1 := by
  unfold socketClose
  split
  · next hstate =>
    have hreconnect : s.eventHandler c .reconnect = some (s.transitionTo c .CONNECTING) := by
      simp [eventHandler, hstate]
    unfold dispatchEvent
    rw [hreconnect]
    exact .single (.enter (by simp [Cause.enters]) s)
  · split
    · next hstate =>
      have hretry : s.eventHandler c .retry = some ({ s with retryTimer := true }, []) := by
        simp [eventHandler, hstate]
      unfold dispatchEvent
      rw [hretry]
      exact .single (.armRetry rfl s hstate)
    · exact .single (.enter (by simp [Cause.enters]) s)

/-- **An event.** -/
theorem changes_handle (event : Event) : Changes c (.event event) s (s.handle c event).1 := by
  cases event with
  | connect =>
    show Changes c _ s (s.connect c).1
    unfold connect
    split
    · exact .single (.enter (List.mem_singleton_self _) s)
    · exact .refl
  | close => exact .single (.enter (List.mem_singleton_self _) s)
  | cancel =>
    show Changes c _ s s.cancel.1
    unfold cancel
    split
    · exact changes_cancelRequest rfl _
    · exact .refl
  | cancelRequest r => exact changes_cancelRequest rfl r
  | setTimeout r timeout => exact .single (.request s (.timeout timeout))
  | makeRequest r type => exact changes_makeRequest rfl r type
  | prepare r => exact .head (.request s .prepared) (changes_makeRequest rfl r _)
  | reset => exact .head (.resetCalled rfl s) (changes_makeRequest rfl _ _)
  | connectTimer =>
    have hfired : Change c (.event .connectTimer) s { s with connectTimer := false } :=
      .disarm s nofun id id id
    exact .tail (.single hfired) (.abort rfl _)
  | requestTimer =>
    have hfired : Change c (.event .requestTimer) s { s with requestTimer := false } :=
      .disarm s id nofun id id
    show Changes c _ s s.requestTimeout.1
    unfold requestTimeout
    dsimp only
    split
    · exact .head hfired (changes_cancelRequest rfl _)
    · exact .single hfired
  | cancelTimer =>
    have hfired : Change c (.event .cancelTimer) s { s with cancelTimerArmed := false } :=
      .disarm s id id nofun id
    exact .head hfired (changes_dispatchEvent (.inr ⟨_, rfl⟩) (List.mem_singleton_self _)
      fun _ _ => rfl)
  | retryTimer =>
    have hfired : Change c (.event .retryTimer) s { s with retryTimer := false } :=
      .disarm s id id id nofun
    exact .single hfired
  | socketError err => exact .refl
  | socketEnd =>
    show Changes c _ s (s.socketEnd c).1
    unfold socketEnd
    split <;> exact .refl
  | socketClose => exact changes_socketClose
  | payloadEnd call =>
    exact .single (.message rfl call (fun message =>
      { message with payloadDone := true, ended := true }) s)
  | payloadError call err =>
    exact .tail (.single (.message rfl call _ s)) (.request _ (.failed (by simp [updateMessage])))
  | finish call =>
    exact .tail (.tail (.single (.message rfl call _ s)) (.request _ .sent)) (.finished rfl _)
  | tick t => cases t <;> exact .single (.due rfl s)
  | resume p outcome => exact .head (.take rfl s) (changes_resume p outcome)

end Connection

end Tedious
