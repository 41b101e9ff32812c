import Tedious.Connection.State
import Tedious.Lib.Reentrant

/-!
# Tedious.Connection.Step

The functions of a `Connection` (`connection.ts`). A function that runs listeners, or a
callback of the user, on its way is cut there: it returns the new state and the
instructions (`Instr`) that are left to do, and `exec` says what an instruction does.
`Connection.component` is the connection as a component whose listeners may call it
again.

Some assumptions about the environment: callbacks and listeners return, `'error'` has a
listener, and the listeners of `'debug'` do not call the connection. Pausing a request
does not show: a token stream may take any time for the next token.
-/

namespace Tedious

open Chunked Reentrant

inductive Dispatched
  | socketError (err : Err)
  | connectTimeout
  | reconnect
  | retry
  deriving DecidableEq, Repr

inductive CleanupType
  | NORMAL | REDIRECT | RETRY
  deriving DecidableEq, Repr

/-- What is left to do after a callback, or before one. -/
inductive Instr
  /-- Listeners, or a callback of the user, run. -/
  | callback
  | emit (event : Emitted)
  /-- `this.transitionTo(this.STATE.FINAL)`. -/
  | enterFinal
  /-- `retryTimeout` after it has emitted `'retry'`. -/
  | enterConnecting
  /-- `socketError` after it has emitted its error. -/
  | dispatchSocketError (err : Err)
  /-- `connectTimeout` after it has emitted `'connect'`. -/
  | afterConnectTimeout
  /-- `cleanupConnection` from `const request = this.request` on. -/
  | closeRequest
  /-- `cleanupConnection` after it has called the request's callback. -/
  | finishCleanup
  /-- `request.callback(err, ...)`. -/
  | answer (execution : Execution) (err : Option Err)
  /-- A listener for the `'cancel'` event of a request runs. -/
  | cancelListener (request : RequestId) (listener : CancelListener)
  /-- `requestTimeout` after it has canceled the request. -/
  | requestTimeoutError (request : RequestId)
  /-- `Login7TokenHandler.onErrorMessage` after it has emitted `'errorMessage'`. -/
  | loginErrorMessage (token : MessageData)
  /-- The rest of `RequestTokenHandler` after the event of a token. -/
  | completeToken (call : Nat) (request : RequestId) (errors : List RequestError) (token : Token)
  /-- A `TypeError`, or an `UnexpectedTokenError`; nothing of the handler is left after it. -/
  | throw
  deriving DecidableEq, Repr

namespace Connection

/-! ### Fields -/

def record (s : Connection) (t : Trace) : Connection := { s with trace := t :: s.trace }

/-- Begin to wait for something. -/
def await (s : Connection) (p : Pending) : Connection := { s with pending := s.pending ++ [p] }

/-- `process.nextTick`. -/
def nextTick (s : Connection) (t : Tick) : Connection := { s with ticks := s.ticks ++ [t] }

def updateRequest (s : Connection) (r : RequestId) (f : Request → Request) : Connection :=
  { s with requests := fun r' => if r' = r then f (s.requests r) else s.requests r' }

def updateMessage (s : Connection) (call : Nat) (f : RequestMessage → RequestMessage) :
    Connection :=
  { s with messages := fun call' => if call' = call then f (s.messages call) else s.messages call' }

/-- Hand a message to the outgoing stream. -/
def send (s : Connection) (type : MessageType) (resetConnection : Bool)
    (request : Option RequestId) : Connection :=
  s.record (.sent { type, resetConnection, secure := s.messageIo.secure, request })

/-- `messageIo.sendMessage(type, data)`. -/
def sendMessage (s : Connection) (type : MessageType) : Connection := s.send type false none

variable (cfg : ConnectionConfig)

/-! ### States -/

/-- `cleanupConnection` after the request's callback. -/
def finishCleanup (s : Connection) : Connection :=
  { s with request := none, closed := true, loginError := none }

/-- `Connection closed before request completed.` -/
def closeError : Err :=
  .request (.new (JsString.ofString "Connection closed before request completed.")
    (some "ECLOSE"))

/-- `cleanupConnection` from `const request = this.request` on. -/
def closeRequest (s : Connection) : Connection × List Instr :=
  match s.request with
  | some execution => (s, [.answer execution (some closeError), .finishCleanup])
  | none => (s.finishCleanup, [])

/-- `cleanupConnection` as far as `closeConnection`. -/
def closeConnection (s : Connection) : Connection :=
  { s with
    connectTimer := false
    requestTimer := false
    retryTimer := false
    messageIo := { s.messageIo with destroyed := true } }

def cleanupConnection (s : Connection) (cleanupType : CleanupType) : Connection × List Instr :=
  if s.closed then (s, [])
  else
    match cleanupType with
    | .REDIRECT => (s.closeConnection, [.emit .rerouting, .closeRequest])
    | .NORMAL => (s.closeConnection.nextTick .emitEnd).closeRequest
    | .RETRY => s.closeConnection.closeRequest

/-- `initialiseConnection`: both ways begin with the connect timer. -/
def initialiseConnection (s : Connection) : Connection :=
  let s := { s with connectTimer := true }
  match cfg.port with
  | some (_ + 1) => s.await (.connect false)
  | _ => s.await (.instanceLookup false)

/-- `state.enter`. -/
def enter (s : Connection) : ConnectionState → Connection × List Instr
  | .CONNECTING => (s.initialiseConnection cfg, [])
  | .SENT_PRELOGIN => (s.await .prelogin, [])
  | .REROUTING => s.cleanupConnection .REDIRECT
  | .TRANSIENT_FAILURE_RETRY =>
      { s with curTransientRetryCount := s.curTransientRetryCount + 1 }.cleanupConnection .RETRY
  | .SENT_LOGIN7_WITH_STANDARD_LOGIN => (s.await (.loginMessage .standard), [])
  | .SENT_LOGIN7_WITH_NTLM => (s.await (.loginMessage .ntlm), [])
  | .SENT_LOGIN7_WITH_FEDAUTH => (s.await (.loginMessage .fedauth), [])
  | .LOGGED_IN_SENDING_INITIAL_SQL => ((s.sendMessage .SQL_BATCH).await .initialSqlMessage, [])
  -- entered from `makeRequest` only, which has just counted its call
  | .SENT_CLIENT_REQUEST => (s.await (.requestMessage (s.calls - 1)), [])
  | .SENT_ATTENTION => (s.await .attentionMessage, [])
  | .FINAL => s.cleanupConnection .NORMAL
  | .INITIALIZED | .SENT_TLSSSLNEGOTIATION | .LOGGED_IN => (s, [])

/-- `state.exit`, and the new state. -/
def changeState (s : Connection) (newState : ConnectionState) : Connection :=
  { s with
    requestTimer := if s.state = .SENT_CLIENT_REQUEST then false else s.requestTimer
    state := newState
    trace := .entered newState :: s.trace }

def transitionTo (s : Connection) (newState : ConnectionState) : Connection × List Instr :=
  if s.state = newState then (s, [])
  else (s.changeState newState).enter cfg newState

/-- `TypeError` for an undefined request. -/
def answerOrThrow (execution : Option Execution) (err : Option Err) : List Instr :=
  match execution with
  | some execution => [.answer execution err]
  | none => [.throw]

/-- The handler of `socketError` in `SENT_CLIENT_REQUEST` and `SENT_ATTENTION`. -/
def failRequest (s : Connection) (err : Err) : Connection × List Instr :=
  let r := { s with request := none }.transitionTo cfg .FINAL
  (r.1, r.2 ++ answerOrThrow s.request (some err))

/-- `state.events[eventName]`, and what it does. -/
def eventHandler (s : Connection) : Dispatched → Option (Connection × List Instr)
  | .socketError err =>
    match s.state with
    | .INITIALIZED => none
    | .SENT_CLIENT_REQUEST | .SENT_ATTENTION => some (s.failRequest cfg err)
    | .FINAL => some (s, [])
    | _ => some (s.transitionTo cfg .FINAL)
  | .connectTimeout =>
    match s.state with
    | .INITIALIZED | .LOGGED_IN | .SENT_CLIENT_REQUEST | .SENT_ATTENTION => none
    | .FINAL => some (s, [])
    | _ => some (s.transitionTo cfg .FINAL)
  | .reconnect =>
    match s.state with
    | .REROUTING => some (s.transitionTo cfg .CONNECTING)
    | _ => none
  | .retry =>
    match s.state with
    | .TRANSIENT_FAILURE_RETRY => some ({ s with retryTimer := true }, [])
    | _ => none

/-- The event's name, for the error of `dispatchEvent`. -/
def eventName : Dispatched → String
  | .socketError _ => "socketError"
  | .connectTimeout => "connectTimeout"
  | .reconnect => "reconnect"
  | .retry => "retry"

/-- `dispatchEvent`; an event that the state does not know closes the connection. -/
def dispatchEvent (s : Connection) (event : Dispatched) : Connection × List Instr :=
  match s.eventHandler cfg event with
  | some r => r
  | none =>
      (s, [.emit (.error (.error (JsString.ofString "No event '" ++
        JsString.ofString (eventName event) ++ JsString.ofString "' in state '" ++
        JsString.ofString s.state.name ++ JsString.ofString "'"))), .enterFinal])

/-! ### Sockets -/

/-- The server that is connected to, as the messages of errors name it. -/
def target (s : Connection) : JsString :=
  let hostPostfix :=
    match cfg.port with
    | some (port + 1) => JsString.ofString ":" ++ JsString.ofString (toString (port + 1))
    | _ => JsString.ofString "\\" ++ cfg.instanceName.getD (JsString.ofString "undefined")
  match s.routingData with
  | some routingData =>
      routingData.server ++ JsString.ofString ":" ++
        JsString.ofString (toString routingData.port) ++
        JsString.ofString " (redirected from " ++ cfg.server ++ hostPostfix ++
        JsString.ofString ")"
  | none => cfg.server ++ hostPostfix

def socketError (s : Connection) (err : Err) : Connection × List Instr :=
  let event : Emitted :=
    if s.state = .CONNECTING ∨ s.state = .SENT_TLSSSLNEGOTIATION then
      .connect (some (.connection (.new (JsString.ofString "Failed to connect to " ++
        s.target cfg ++ JsString.ofString " - " ++ err.message) (some "ESOCKET"))))
    else
      .error (.connection (.new (JsString.ofString "Connection lost - " ++ err.message)
        (some "ESOCKET")))
  (s, [.emit event, .dispatchSocketError err])

def socketEnd (s : Connection) : Connection × List Instr :=
  if s.state = .FINAL then (s, [])
  else s.socketError cfg (.error (JsString.ofString "socket hang up"))

def socketClose (s : Connection) : Connection × List Instr :=
  if s.state = .REROUTING then s.dispatchEvent cfg .reconnect
  else if s.state = .TRANSIENT_FAILURE_RETRY then s.dispatchEvent cfg .retry
  else s.transitionTo cfg .FINAL

/-- `socketHandlingForSendPreLogin`; a strictly encrypted socket is wrapped already. -/
def socketHandlingForSendPreLogin (s : Connection) : Connection × List Instr :=
  let s := { s with
    messageIo :=
      { id := s.messageIo.id + 1
        wrapped := cfg.encrypt == Encrypt.strict
        tlsNegotiationComplete := false
        destroyed := false }
    closed := false }
  (s.sendMessage .PRELOGIN).transitionTo cfg .SENT_PRELOGIN

/-- `connectOnPort` when `connect` or `wrapWithTls` has failed. -/
def connectFailed (s : Connection) (aborted : Bool) (err : Err) : Connection × List Instr :=
  let s := { s with connectTimer := false }
  (if aborted then s else s.nextTick (.socketError err), [])

/-- `initialiseConnection` when `instanceLookup` has failed. -/
def instanceLookupFailed (s : Connection) (aborted : Bool) (err : Err) :
    Connection × List Instr :=
  let s := { s with connectTimer := false }
  (if aborted then s
    else s.nextTick (.emitConnect (.connection (.new err.message (some "EINSTLOOKUP")))), [])

/-! ### Login -/

/-- `sendLogin7Packet`, and the state that follows it. -/
def sendLogin7Packet (s : Connection) : Connection × List Instr :=
  let s := { s with routingData := none }.sendMessage .LOGIN7
  match cfg.authentication with
  | .azureActiveDirectoryPassword | .azureActiveDirectoryMsiVm
  | .azureActiveDirectoryMsiAppService | .azureActiveDirectoryServicePrincipalSecret
  | .azureActiveDirectoryDefault => s.transitionTo cfg .SENT_LOGIN7_WITH_FEDAUTH
  | .ntlm => s.transitionTo cfg .SENT_LOGIN7_WITH_NTLM
  | .default | .azureActiveDirectoryAccessToken =>
      s.transitionTo cfg .SENT_LOGIN7_WITH_STANDARD_LOGIN

/-- The server asks for encryption. -/
def encryptionRequired (payload : PreloginPayload) : Bool :=
  payload.encryptionString = some .ON || payload.encryptionString = some .REQ

/-- `STATE.SENT_PRELOGIN` when the response has been read. -/
def afterPrelogin (s : Connection) (data : Bytes) : Connection × List Instr :=
  match PreloginPayload.ofBuffer data with
  | .error _ => (s, [.throw])
  | .ok payload =>
    let s := if payload.fedAuthRequired = some 1 then { s with fedAuthRequired := true } else s
    if cfg.encrypt ≠ .strict ∧ encryptionRequired payload = true then
      if cfg.encrypt = .no then
        (s, [.emit (.connect (some (.connection (.new (JsString.ofString
          "Server requires encryption, set 'encrypt' config option to true.")
          (some "EENCRYPT"))))), .enterFinal])
      else
        let r := s.transitionTo cfg .SENT_TLSSSLNEGOTIATION
        (r.1.await (.startTls s.messageIo.id), r.2)
    else s.sendLogin7Packet cfg

/-- `STATE.SENT_PRELOGIN` when `startTls` has completed on a socket. -/
def afterStartTls (s : Connection) (io : Nat) : Connection × List Instr :=
  let s := { s with
    messageIo :=
      if s.messageIo.id = io then { s.messageIo with tlsNegotiationComplete := true }
      else s.messageIo }
  s.sendLogin7Packet cfg

/-- The events that tokens cause on the connection. -/
def tokenEvent (token : Token) : List Instr :=
  match token with
  | .infoMessage _ | .errorMessage _ | .envChange (.database ..) | .envChange (.language ..)
  | .envChange (.charset ..) | .envChange (.rollbackTransaction ..)
  | .envChange (.resetConnection ..) => [.emit (.token token)]
  | _ => []

/-- A token of a login response. -/
def loginToken (s : Connection) (kind : LoginKind) (handler : Login7TokenHandler)
    (token : Token) : Connection × List Instr :=
  match token with
  | .errorMessage data =>
      (s.await (.loginTokens kind handler), tokenEvent token ++ [.loginErrorMessage data])
  | token =>
    match handler.onToken cfg.toHandlerOptions token s.toLoginState with
    | some (handler, login) =>
        ({ s with toLoginState := login }.await (.loginTokens kind handler), tokenEvent token)
    | none => (s.await (.loginTokens kind handler), [.throw])

/-- A login response that has acknowledged the login. -/
def loginAcknowledged (s : Connection) (handler : Login7TokenHandler) :
    Connection × List Instr :=
  match handler.routingData with
  | some routingData => { s with routingData := some routingData }.transitionTo cfg .REROUTING
  | none => s.transitionTo cfg .LOGGED_IN_SENDING_INITIAL_SQL

/-- `Login failed.` -/
def loginFailedError : Err :=
  .connection (.new (JsString.ofString "Login failed.") (some "ELOGIN"))

/-- A login response that has not, and leaves nothing to try. -/
def loginFailed (s : Connection) : Connection × List Instr :=
  match s.loginError with
  | some loginError =>
      if isTransientError loginError then s.transitionTo cfg .TRANSIENT_FAILURE_RETRY
      else (s, [.emit (.connect (some loginError)), .enterFinal])
  | none => (s, [.emit (.connect (some loginFailedError)), .enterFinal])

/-- `STATE.SENT_LOGIN7_WITH_STANDARD_LOGIN` at the end of the response. -/
def afterStandardLogin (s : Connection) (handler : Login7TokenHandler) :
    Connection × List Instr :=
  if handler.loginAckReceived then s.loginAcknowledged cfg handler else s.loginFailed cfg

/-- `STATE.SENT_LOGIN7_WITH_NTLM` at the end of a response. -/
def afterNtlmLogin (s : Connection) (handler : Login7TokenHandler) : Connection × List Instr :=
  if handler.loginAckReceived then s.loginAcknowledged cfg handler
  else if s.ntlmpacket.isSome then
    ({ s.sendMessage .NTLMAUTH_PKT with ntlmpacket := none }.await (.loginMessage .ntlm), [])
  else s.loginFailed cfg

/-- `STATE.SENT_LOGIN7_WITH_FEDAUTH` at the end of the response. Making the scope from the
server's `spn` may throw; the credentials then never arrive. -/
def afterFedauthLogin (s : Connection) (handler : Login7TokenHandler) :
    Connection × List Instr :=
  if handler.loginAckReceived then s.loginAcknowledged cfg handler
  else if handler.hasFedAuthInfo then (s.await .credentials, [])
  else s.loginFailed cfg

/-- The end of a login response. -/
def afterLogin (s : Connection) (kind : LoginKind) (handler : Login7TokenHandler) :
    Connection × List Instr :=
  match kind with
  | .standard => s.afterStandardLogin cfg handler
  | .ntlm => s.afterNtlmLogin cfg handler
  | .fedauth => s.afterFedauthLogin cfg handler

def sendFedAuthTokenMessage (s : Connection) : Connection × List Instr :=
  (s.sendMessage .FEDAUTH_TOKEN).transitionTo cfg .SENT_LOGIN7_WITH_STANDARD_LOGIN

/-- `credentials.getToken` has failed. -/
def credentialsFailed (s : Connection) (err : Err) : Connection × List Instr :=
  let loginError := Err.connectionAggregate (.new (JsString.ofString
    "Security token could not be authenticated or authorized.") (some "EFEDAUTH")) err.message
  ({ s with loginError := some loginError },
    [.emit (.connect (some loginError)), .enterFinal])

/-- A token of the response to the initial SQL. -/
def initialSqlToken (s : Connection) (token : Token) : Connection × List Instr :=
  match InitialSqlTokenHandler.onToken token with
  | .accepted => (s, tokenEvent token)
  | .rejected name =>
      (s, [.emit (.error (.error (JsString.ofString "Received '" ++ JsString.ofString name ++
        JsString.ofString "' when no sqlRequest is in progress"))), .enterFinal])
  | .unexpected => (s, [.throw])

/-- The end of the response to the initial SQL, with `processedInitialSql`. -/
def afterInitialSql (s : Connection) : Connection × List Instr :=
  let r := s.transitionTo cfg .LOGGED_IN
  ({ r.1 with connectTimer := false }, r.2 ++ [.emit (.connect none)])

/-! ### Requests -/

/-- `request.cancel()`. The listeners run in the order in which they were added, other
listeners of the user between them; each of them was added with `once`. -/
def cancelRequest (s : Connection) (r : RequestId) : Connection × List Instr :=
  if (s.requests r).canceled then (s, [])
  else
    (s.updateRequest r fun request => { request with canceled := true, cancelListeners := [] },
      (s.requests r).cancelListeners.flatMap (fun l => [.callback, .cancelListener r l]) ++
        [.callback])

/-- `connection.cancel()`. -/
def cancel (s : Connection) : Connection × List Instr :=
  match s.request with
  | some execution => s.cancelRequest execution.request
  | none => (s, [])

/-- A `'cancel'` listener. -/
def onCancel (s : Connection) : CancelListener → Connection × List Instr
  | .unsent call =>
      (s.updateMessage call fun message => { message with ignore := true, ended := true }, [])
  | .afterRequestSent =>
      ({ s.sendMessage .ATTENTION with
        owed := s.owed ++ [Answer.attention]
        cancelTimer := cfg.cancelTimeout.isPositive
        cancelTimerArmed := cfg.cancelTimeout.isPositive }, [])
  | .response call =>
      { s with pending := s.pending.filter fun p => ¬p.isResponseOf call }.transitionTo cfg
        .SENT_ATTENTION

/-- The error of a call in another state than `LOGGED_IN`. -/
def invalidStateError (s : Connection) : Err :=
  .request (.new (JsString.ofString "Requests can only be made in the " ++
    JsString.ofString ConnectionState.LOGGED_IN.name ++
    JsString.ofString " state, not the " ++ JsString.ofString s.state.name ++
    JsString.ofString " state") (some "EINVALIDSTATE"))

/-- `Canceled.` -/
def canceledError : Err :=
  .request (.new (JsString.ofString "Canceled.") (some "ECANCEL"))

/-- `makeRequest` with an admitted request, up to the message that is written. -/
def writeRequest (s : Connection) (execution : Execution) (type : RequestType) : Connection :=
  let s := { s with request := some execution }.updateRequest execution.request fun request =>
    { request with rowCount := 0, rows := [], rst := [] }.once (.unsent execution.call)
  let timeout := (s.requests execution.request).timeout.getD cfg.requestTimeout
  let s := { s with requestTimer := timeout.isTruthy }
  let s := (s.send type.toMessageType s.resetConnectionOnNextRequest
    (some execution.request)).updateMessage execution.call fun _ =>
      { request := execution.request
        payloadDone := false
        ignore := false
        ended := false
        finished := false }
  { s with owed := s.owed ++ [Answer.response execution.call] }

/-- A call of `makeRequest`. -/
def countCall (s : Connection) (execution : Execution) : Connection :=
  { s with calls := s.calls + 1 }.record (.called execution)

def makeRequest (s : Connection) (r : RequestId) (type : RequestType) :
    Connection × List Instr :=
  let execution : Execution := { call := s.calls, request := r }
  if s.state ≠ .LOGGED_IN then
    (s.countCall execution, [.answer execution (some s.invalidStateError)])
  else if (s.requests r).canceled then
    ((s.countCall execution).nextTick (.callback execution canceledError), [])
  else ((s.countCall execution).writeRequest cfg execution type).transitionTo cfg
    .SENT_CLIENT_REQUEST

/-- `prepare`, as far as it changes the request. -/
def prepare (s : Connection) (r : RequestId) : Connection × List Instr :=
  (s.updateRequest r fun request =>
    { request with preparing := true, prepared := request.prepared + 1 }).makeRequest cfg r
      .RPC_REQUEST

def reset (s : Connection) : Connection × List Instr :=
  { s with resetConnectionOnNextRequest := true, trace := .resetCalled :: s.trace }.makeRequest cfg
    (.reset s.calls) .SQL_BATCH

/-- `message.once('finish')` of `makeRequest`. -/
def onFinish (s : Connection) (call : Nat) : Connection :=
  let s := (s.updateMessage call fun message => { message with finished := true }).updateRequest
    (s.messages call).request fun request =>
      (request.removeListener (.unsent call)).once .afterRequestSent
  { s with resetConnectionOnNextRequest := false }.record (.finished call)

/-- The payload stream has ended, and with it the message it is piped into. -/
def onPayloadEnd (s : Connection) (call : Nat) : Connection :=
  s.updateMessage call fun message => { message with payloadDone := true, ended := true }

/-- `payloadStream.once('error')`. -/
def onPayloadError (s : Connection) (call : Nat) (err : Err) : Connection :=
  (s.updateMessage call fun message =>
    { message with payloadDone := true, ignore := true, ended := true }).updateRequest
      (s.messages call).request fun request => { request with error := request.error <|> some err }

/-- `this.request?.canceled`. -/
def requestCanceled (s : Connection) : Bool :=
  match s.request with
  | some execution => (s.requests execution.request).canceled
  | none => false

/-- Change the current request, if there is one. -/
def updateCurrentRequest (s : Connection) (f : Request → Request) : Connection :=
  match s.request with
  | some execution => s.updateRequest execution.request f
  | none => s

/-- `STATE.SENT_CLIENT_REQUEST` when a message has begun. Where it goes on to
`SENT_ATTENTION` nothing listens to the rest of the message. -/
def afterRequestMessage (s : Connection) (call : Nat) : Connection × List Instr :=
  let answers := s.owed.head?
  let s := { s with requestTimer := false, owed := s.owed.tail }
  if s.requestCanceled && s.cancelTimer then s.transitionTo cfg .SENT_ATTENTION
  else
    ((s.await (.requestTokens call (s.request.map Execution.request) [] answers)
      ).updateCurrentRequest fun request => request.once (.response call), [])

/-- A token of the response to a request. -/
def requestToken (s : Connection) (call : Nat) (request : Option RequestId)
    (errors : List RequestError) (token : Token) : Connection × List Instr :=
  match request with
  | none =>
    match token with
    | .infoMessage _ | .envChange _ => (s, tokenEvent token)
    | .errorMessage _ => (s, tokenEvent token ++ [.throw])
    | _ => (s, [.throw])
  | some r =>
    let state : RequestState :=
      { errors, request := s.requests r, procReturnStatusValue := s.procReturnStatusValue }
    match RequestTokenHandler.announce cfg.toHandlerOptions token state with
    | none => (s, [.throw])
    | some (announced, event) =>
        ({ s with procReturnStatusValue := announced.procReturnStatusValue }.updateRequest r
            fun _ => announced.request,
          tokenEvent token ++ (event.map (.emit <| .request ·)).toList ++
            if RequestTokenHandler.skipped state token then []
            else [.completeToken call r errors token])

/-- The rest of the handler of a token, after its listeners. -/
def completeToken (s : Connection) (call : Nat) (r : RequestId) (errors : List RequestError)
    (token : Token) : Connection :=
  let state := RequestTokenHandler.complete cfg.toHandlerOptions r token
    { errors, request := s.requests r, procReturnStatusValue := s.procReturnStatusValue }
  { s with
    procReturnStatusValue := state.procReturnStatusValue
    pending := s.pending.map (Pending.setErrors call state.errors) }.updateRequest r
      fun _ => state.request

/-- The error of the current request. -/
def requestError (s : Connection) : Option Err :=
  s.request.bind fun execution => (s.requests execution.request).error

/-- `onEndOfMessage`. -/
def onEndOfMessage (s : Connection) (call : Nat) : Connection × List Instr :=
  let s := s.updateCurrentRequest fun request =>
    (request.removeListener .afterRequestSent).removeListener (.response call)
  let r := s.transitionTo cfg .LOGGED_IN
  ({ r.1 with request := none }, r.2 ++ answerOrThrow s.request s.requestError)

/-- `STATE.SENT_ATTENTION` when a message has begun. -/
def afterAttentionMessage (s : Connection) : Connection × List Instr :=
  ({ s with owed := s.owed.tail }.await (.attentionTokens false s.owed.head?), [])

/-- The error that a canceled request is answered with. -/
def attentionError (s : Connection) : Err :=
  match s.requestError with
  | some err => if err.isRequestTimeout then err else canceledError
  | none => canceledError

/-- `STATE.SENT_ATTENTION` at the end of the response. -/
def afterAttention (s : Connection) (attentionReceived : Bool) : Connection × List Instr :=
  if attentionReceived then
    let r := { s with
      cancelTimer := false
      cancelTimerArmed := false
      request := none }.transitionTo cfg .LOGGED_IN
    (r.1, r.2 ++ answerOrThrow s.request (some s.attentionError))
  else (s, [])

/-! ### Timers -/

/-- `connectTimeout`, and the timer's callback around it. -/
def connectTimeout (s : Connection) : Connection × List Instr :=
  let s := { s with connectTimer := false, pending := s.pending.map Pending.abort }
  (s, [.emit (.connect (some (.connection (.new (JsString.ofString "Failed to connect to " ++
      s.target cfg ++ JsString.ofString " in " ++ cfg.printNumber cfg.connectTimeout ++
      JsString.ofString "ms") (some "ETIMEOUT"))))), .afterConnectTimeout])

/-- `cancelTimeout`; `this.cancelTimer` stays as it is. -/
def cancelTimeout (s : Connection) : Connection × List Instr :=
  { s with cancelTimerArmed := false }.dispatchEvent cfg (.socketError (.connection (.new
    (JsString.ofString "Failed to cancel request in " ++ cfg.printNumber cfg.cancelTimeout ++
      JsString.ofString "ms") (some "ETIMEOUT"))))

def requestTimeout (s : Connection) : Connection × List Instr :=
  let s := { s with requestTimer := false }
  match s.request with
  | some execution =>
      let r := s.cancelRequest execution.request
      (r.1, r.2 ++ [.requestTimeoutError execution.request])
  | none => (s, [.throw])

/-- The error that `requestTimeout` leaves on the request. -/
def requestTimeoutError (s : Connection) (r : RequestId) : Err :=
  .request (.new (JsString.ofString "Timeout: Request failed to complete in " ++
    cfg.printNumber ((s.requests r).timeout.getD cfg.requestTimeout) ++
    JsString.ofString "ms") (some "ETIMEOUT"))

def retryTimeout (s : Connection) : Connection × List Instr :=
  ({ s with retryTimer := false }, [.emit .retry, .enterConnecting])

/-- `connect`; in another state than `INITIALIZED` it throws to its caller. -/
def connect (s : Connection) : Connection × List Instr :=
  if s.state = .INITIALIZED then s.transitionTo cfg .CONNECTING else (s, [])

def close (s : Connection) : Connection × List Instr := s.transitionTo cfg .FINAL

/-! ### The component -/

/-- What an instruction does. -/
def exec : Instr → Connection → Connection × List Instr
  | .callback, s => (s, [])
  | .emit event, s => (s.record (.emitted event), [.callback])
  | .enterFinal, s => s.transitionTo cfg .FINAL
  | .enterConnecting, s => s.transitionTo cfg .CONNECTING
  | .dispatchSocketError err, s => s.dispatchEvent cfg (.socketError err)
  | .afterConnectTimeout, s => { s with connectTimer := false }.dispatchEvent cfg .connectTimeout
  | .closeRequest, s => s.closeRequest
  | .finishCleanup, s => (s.finishCleanup, [])
  | .answer execution err, s =>
      ((s.updateRequest execution.request fun request =>
        { request with preparing := false }).record (.answered execution err), [.callback])
  | .cancelListener _ listener, s => s.onCancel cfg listener
  | .requestTimeoutError r, s =>
      (s.updateRequest r fun request =>
        { request with error := some (s.requestTimeoutError cfg r) }, [])
  | .loginErrorMessage token, s =>
      ({ s with toLoginState :=
        Login7TokenHandler.onErrorMessage cfg.toHandlerOptions token s.toLoginState }, [])
  | .completeToken call r errors token, s => (s.completeToken cfg call r errors token, [])
  | .throw, s => (s.record .threw, [])

/-- How something under way goes on. -/
inductive Outcome
  /-- It is done: a port is found, a socket connected, a handshake completed, a message
  begun, a token stream at its end, a security token obtained. -/
  | done
  /-- The `PRELOGIN` response. -/
  | data (data : Bytes)
  | token (token : Token)
  | failed (err : Err)
  deriving DecidableEq, Repr

inductive Event
  | connect
  | close
  | cancel
  | cancelRequest (r : RequestId)
  | setTimeout (r : RequestId) (timeout : Option JsNumber)
  | makeRequest (r : RequestId) (type : RequestType)
  | prepare (r : RequestId)
  | reset
  | connectTimer
  | requestTimer
  | cancelTimer
  | retryTimer
  | socketError (err : Err)
  | socketEnd
  | socketClose
  | payloadEnd (call : Nat)
  | payloadError (call : Nat) (err : Err)
  | finish (call : Nat)
  | tick (t : Tick)
  | resume (p : Pending) (outcome : Outcome)
  deriving DecidableEq, Repr

/-- The functions of the connection and its requests that the user calls. -/
def Event.isCall : Event → Bool
  | .connect | .close | .cancel | .cancelRequest _ | .setTimeout .. | .makeRequest .. | .prepare _
  | .reset => true
  | _ => false

/-- The outcomes that something under way may have. -/
def accepts : Pending → Outcome → Bool
  | .instanceLookup _, .done | .instanceLookup _, .failed _ | .connect _, .done
  | .connect _, .failed _ | .prelogin, .data _ | .prelogin, .failed _ | .startTls _, .done
  | .startTls _, .failed _ | .loginMessage _, .done | .loginMessage _, .failed _
  | .loginTokens .., .token _ | .loginTokens .., .done | .credentials, .done
  | .credentials, .failed _ | .initialSqlMessage, .done | .initialSqlMessage, .failed _
  | .initialSqlTokens, .token _ | .initialSqlTokens, .done | .requestMessage _, .done
  | .requestMessage _, .failed _ | .requestTokens .., .token _ | .requestTokens .., .done
  | .attentionMessage, .done | .attentionMessage, .failed _ | .attentionTokens .., .token _
  | .attentionTokens .., .done => true
  | _, _ => false

/-- A token of the response to an attention message. -/
def attentionToken (s : Connection) (attentionReceived : Bool) (answers : Option Answer)
    (token : Token) : Connection × List Instr :=
  match AttentionTokenHandler.onToken attentionReceived token with
  | some attentionReceived => (s.await (.attentionTokens attentionReceived answers), [])
  | none => (s.await (.attentionTokens attentionReceived answers), [.throw])

/-- Something under way goes on; it is not in `s.pending` any more. -/
def resume (s : Connection) : Pending → Outcome → Connection × List Instr
  | .instanceLookup aborted, .done => (s.await (.connect aborted), [])
  | .instanceLookup aborted, .failed err => s.instanceLookupFailed aborted err
  | .connect _, .done => s.socketHandlingForSendPreLogin cfg
  | .connect aborted, .failed err => s.connectFailed aborted err
  | .prelogin, .data data => s.afterPrelogin cfg data
  | .startTls io, .done => s.afterStartTls cfg io
  | .loginMessage kind, .done => (s.await (.loginTokens kind .new), [])
  | .loginTokens kind handler, .token token => s.loginToken cfg kind handler token
  | .loginTokens kind handler, .done => s.afterLogin cfg kind handler
  | .credentials, .done => s.sendFedAuthTokenMessage cfg
  | .credentials, .failed err => s.credentialsFailed err
  | .initialSqlMessage, .done => (s.await .initialSqlTokens, [])
  | .initialSqlTokens, .token token => (s.await .initialSqlTokens).initialSqlToken token
  | .initialSqlTokens, .done => s.afterInitialSql cfg
  | .requestMessage call, .done => s.afterRequestMessage cfg call
  | .requestTokens call request errors answers, .token token =>
      (s.await (.requestTokens call request errors answers)).requestToken cfg call request errors
        token
  | .requestTokens call _ _ _, .done => s.onEndOfMessage cfg call
  | .attentionMessage, .done => s.afterAttentionMessage
  | .attentionTokens attentionReceived answers, .token token =>
      s.attentionToken attentionReceived answers token
  | .attentionTokens attentionReceived _, .done => s.afterAttention cfg attentionReceived
  -- `return this.socketError(err)`
  | .prelogin, .failed err | .startTls _, .failed err | .loginMessage _, .failed err
  | .initialSqlMessage, .failed err | .requestMessage _, .failed err
  | .attentionMessage, .failed err => s.socketError cfg err
  | _, _ => (s, [])

/-- A callback of `process.nextTick`. -/
def onTick (s : Connection) : Tick → Connection × List Instr
  | .emitEnd => (s, [.emit .end])
  | .emitConnect err => (s, [.emit (.connect (some err))])
  | .socketError err => s.socketError cfg err
  | .callback execution err => (s, [.answer execution (some err)])

/-- Whether an event can happen. The user does not have the requests of `reset()`; a timer
fires when it is set, and a message finishes once it has been ended. -/
def enabled (s : Connection) : Event → Bool
  | .connect | .close | .cancel | .setTimeout .. | .reset => true
  | .cancelRequest r | .makeRequest r _ | .prepare r => !r.isReset
  | .connectTimer => s.connectTimer
  | .requestTimer => s.requestTimer
  | .cancelTimer => s.cancelTimerArmed
  | .retryTimer => s.retryTimer
  | .socketError _ | .socketEnd | .socketClose => 0 < s.messageIo.id
  | .payloadEnd call | .payloadError call _ => !(s.messages call).payloadDone
  | .finish call => (s.messages call).ended && !(s.messages call).finished
  | .tick t => t ∈ s.ticks
  | .resume p outcome => p ∈ s.pending && accepts p outcome

/-- What an event does. -/
def handle (s : Connection) : Event → Connection × List Instr
  | .connect => s.connect cfg
  | .close => s.close cfg
  | .cancel => s.cancel
  | .cancelRequest r => s.cancelRequest r
  | .setTimeout r timeout => (s.updateRequest r fun request => { request with timeout }, [])
  | .makeRequest r type => s.makeRequest cfg r type
  | .prepare r => s.prepare cfg r
  | .reset => s.reset cfg
  | .connectTimer => s.connectTimeout cfg
  | .requestTimer => s.requestTimeout
  | .cancelTimer => s.cancelTimeout cfg
  | .retryTimer => s.retryTimeout
  | .socketError err => s.socketError cfg err
  | .socketEnd => s.socketEnd cfg
  | .socketClose => s.socketClose cfg
  | .payloadEnd call => (s.onPayloadEnd call, [])
  | .payloadError call err => (s.onPayloadError call err, [])
  | .finish call => (s.onFinish call, [])
  | .tick t => { s with ticks := s.ticks.erase t }.onTick cfg t
  | .resume p outcome => { s with pending := s.pending.erase p }.resume cfg p outcome

def start (event : Event) (s : Connection) : Option (Connection × List Instr) :=
  if s.enabled event then some (s.handle cfg event) else none

theorem start_eq_some {cfg : ConnectionConfig} {event : Event} {s : Connection}
    {r : Connection × List Instr} (h : start cfg event s = some r) :
    s.enabled event = true ∧ r = s.handle cfg event := by
  unfold start at h
  split at h
  · next henabled => exact ⟨henabled, (Option.some.inj h).symm⟩
  · cases h

/-- The connection as a component. -/
def component : Component Connection Instr Event where
  exec := exec cfg
  start := start cfg
  isCall := Event.isCall
  isCallback := fun i => i = .callback

/-- What does not find the stack empty is a call of the user. -/
theorem isCall_or_eq_nil {cfg : ConnectionConfig} {event : Event} {stack : List Instr}
    (h : (component cfg).admits event stack = true) : event.isCall = true ∨ stack = [] := by
  cases stack with
  | nil => exact .inr rfl
  | cons i rest =>
    simp only [Component.admits, Bool.and_eq_true] at h
    exact .inl h.1

/-- The runs of a new connection in which every event meets `guard`. -/
abbrev RunsTo (guard : Connection → List Instr → Event → Prop) (moves : List (Move Event))
    (k : Config Connection Instr) : Prop :=
  (component cfg).Runs guard ⟨.new, []⟩ moves k

/-- Compute a run of a new connection. -/
def evaluate (guard : Connection → List Instr → Event → Prop)
    [∀ s stack e, Decidable (guard s stack e)] (moves : List (Move Event)) :
    Option (Config Connection Instr) :=
  (component cfg).machine.run (Component.guarded guard) ⟨.new, []⟩ moves

theorem exists_runsTo {cfg : ConnectionConfig} {guard : Connection → List Instr → Event → Prop}
    [∀ s stack e, Decidable (guard s stack e)] {moves : List (Move Event)}
    {p : Config Connection Instr → Bool} (h : (evaluate cfg guard moves).any p = true) :
    ∃ k, RunsTo cfg guard moves k ∧ p k = true :=
  Component.exists_runs h

/-! ### A login -/

/-- The options of a connection to `db`; they print integers only. -/
def exampleConfig : ConnectionConfig :=
  .default (JsString.ofString "db") fun
    | .finite q => JsString.ofString (toString q.num)
    | _ => []

/-- A `PRELOGIN` response that asks for encryption. -/
def preloginOn : Bytes := [0x01, 0x00, 0x06, 0x00, 0x01, 0xFF, 0x01]

def exampleLoginAck : LoginAck where
  interface := some "SQL_TSQL"
  tdsVersion := some "7_4"
  progName := []
  major := 0
  minor := 0
  buildNumHi := 0
  buildNumLow := 0

/-- From `connect` to the response to the initial SQL. -/
def loginMoves (preloginResponse : Bytes) (tls : List (Move Event)) : List (Move Event) :=
  [.event .connect, .event (.resume (.connect false) .done),
    .event (.resume .prelogin (.data preloginResponse))] ++ tls ++
  [.event (.resume (.loginMessage .standard) .done),
    .event (.resume (.loginTokens .standard .new) (.token (.loginAck exampleLoginAck))),
    .event (.resume (.loginTokens .standard { Login7TokenHandler.new with
      loginAckReceived := true }) .done),
    .event (.resume .initialSqlMessage .done)]

/-- The end of the response to the initial SQL. -/
def loggedInMoves : List (Move Event) :=
  loginMoves preloginOn [.event (.resume (.startTls 1) .done)] ++
    [.event (.resume .initialSqlTokens .done), .next, .next]

example : (evaluate exampleConfig (fun _ _ _ => True) loggedInMoves).map
    (fun k => (k.state.state, k.stack.length)) = some (.LOGGED_IN, 0) := by decide

end Connection

end Tedious
