import Tedious.PreloginPayload
import Tedious.Token.Handler

/-!
# Tedious.Connection.State

The state of a `Connection` (`connection.ts`): its own fields, the objects it works
with, and what is under way. The asynchronous parts of the handlers are `Pending`: each
of them is one `await`, or one token stream whose `'end'` is listened to.

Four components of a state are bookkeeping that the code does not have: the number of
calls of `makeRequest`, the trace of what has happened, what the server has been asked
for and has not answered, and, in a pending token stream, what the stream answers.
-/

namespace Tedious

open Chunked

/-! ### Configuration -/

/-- `config.options.encrypt`. -/
inductive Encrypt
  | no | yes | strict
  deriving DecidableEq, Repr

structure ConnectionConfig extends HandlerOptions where
  encrypt : Encrypt
  server : JsString
  /-- `undefined` and `0` are the same here. -/
  port : Option Nat
  instanceName : Option JsString
  connectTimeout : JsNumber
  requestTimeout : JsNumber
  cancelTimeout : JsNumber
  /-- `String(n)`. -/
  printNumber : JsNumber → JsString

/-- The options of a connection that is configured with nothing but a server. -/
def ConnectionConfig.default (server : JsString) (printNumber : JsNumber → JsString) :
    ConnectionConfig where
  authentication := .default
  maxRetriesOnTransientErrors := .finite 3
  rowCollectionOnRequestCompletion := false
  rowCollectionOnDone := false
  encrypt := .yes
  server
  port := some 1433
  instanceName := none
  connectTimeout := .finite 15000
  requestTimeout := .finite 15000
  cancelTimeout := .finite 5000
  printNumber

/-! ### Messages -/

/-- `TYPE`. -/
inductive MessageType
  | SQL_BATCH | RPC_REQUEST | TABULAR_RESULT | ATTENTION | BULK_LOAD | TRANSACTION_MANAGER
  | LOGIN7 | NTLMAUTH_PKT | PRELOGIN | FEDAUTH_TOKEN
  deriving DecidableEq, Repr

def MessageType.toByte : MessageType → UInt8
  | SQL_BATCH => 0x01
  | RPC_REQUEST => 0x03
  | TABULAR_RESULT => 0x04
  | ATTENTION => 0x06
  | BULK_LOAD => 0x07
  | TRANSACTION_MANAGER => 0x0E
  | LOGIN7 => 0x10
  | NTLMAUTH_PKT => 0x11
  | PRELOGIN => 0x12
  | FEDAUTH_TOKEN => 0x08

/-- The types that `makeRequest` is called with. -/
inductive RequestType
  | SQL_BATCH | RPC_REQUEST | BULK_LOAD | TRANSACTION_MANAGER
  deriving DecidableEq, Repr

def RequestType.toMessageType : RequestType → MessageType
  | SQL_BATCH => .SQL_BATCH
  | RPC_REQUEST => .RPC_REQUEST
  | BULK_LOAD => .BULK_LOAD
  | TRANSACTION_MANAGER => .TRANSACTION_MANAGER

/-- The connection's view of a socket and its streams: whether the socket was wrapped
before anything was sent, whether `startTls` has completed, whether the socket has been
destroyed. Before the first socket there is the one numbered 0. -/
structure MessageIO where
  id : Nat
  wrapped : Bool
  tlsNegotiationComplete : Bool
  destroyed : Bool
  deriving DecidableEq, Repr

/-- A TLS handshake has completed on the socket. -/
def MessageIO.secure (io : MessageIO) : Bool := io.wrapped || io.tlsNegotiationComplete

/-- A message handed to the outgoing stream. -/
structure SentMessage where
  type : MessageType
  resetConnection : Bool
  /-- A TLS handshake had completed on the socket. -/
  secure : Bool
  /-- The object that the message executes, if it is a request message. -/
  request : Option RequestId
  deriving DecidableEq, Repr

/-- The message of an admitted call of `makeRequest`, while its payload is piped into it
and after. -/
structure RequestMessage where
  request : RequestId
  /-- The payload stream has ended or failed. -/
  payloadDone : Bool
  ignore : Bool
  /-- `message.end()` has been called. -/
  ended : Bool
  /-- `'finish'` has been emitted. -/
  finished : Bool
  deriving DecidableEq, Repr

/-- What a call number that has no message stands for. -/
def RequestMessage.none : RequestMessage where
  request := .request 0
  payloadDone := true
  ignore := false
  ended := false
  finished := false

/-- A message that the server owes: the response to the message of a call, or the
acknowledgement of an `ATTENTION` message. -/
inductive Answer
  | response (call : Nat)
  | attention
  deriving DecidableEq, Repr

/-! ### States and events -/

/-- `STATE`. -/
inductive ConnectionState
  | INITIALIZED | CONNECTING | SENT_PRELOGIN | REROUTING | TRANSIENT_FAILURE_RETRY
  | SENT_TLSSSLNEGOTIATION | SENT_LOGIN7_WITH_STANDARD_LOGIN | SENT_LOGIN7_WITH_NTLM
  | SENT_LOGIN7_WITH_FEDAUTH | LOGGED_IN_SENDING_INITIAL_SQL | LOGGED_IN
  | SENT_CLIENT_REQUEST | SENT_ATTENTION | FINAL
  deriving DecidableEq, Repr

/-- `state.name`. -/
def ConnectionState.name : ConnectionState → String
  | INITIALIZED => "Initialized"
  | CONNECTING => "Connecting"
  | SENT_PRELOGIN => "SentPrelogin"
  | REROUTING => "ReRouting"
  | TRANSIENT_FAILURE_RETRY => "TRANSIENT_FAILURE_RETRY"
  | SENT_TLSSSLNEGOTIATION => "SentTLSSSLNegotiation"
  | SENT_LOGIN7_WITH_STANDARD_LOGIN => "SentLogin7WithStandardLogin"
  | SENT_LOGIN7_WITH_NTLM => "SentLogin7WithNTLMLogin"
  | SENT_LOGIN7_WITH_FEDAUTH => "SentLogin7Withfedauth"
  | LOGGED_IN_SENDING_INITIAL_SQL => "LoggedInSendingInitialSql"
  | LOGGED_IN => "LoggedIn"
  | SENT_CLIENT_REQUEST => "SentClientRequest"
  | SENT_ATTENTION => "SentAttention"
  | FINAL => "Final"

/-- The events that are emitted to the user, on the connection and on requests. -/
inductive Emitted
  | connect (err : Option Err)
  | error (err : Err)
  | end
  | rerouting
  | retry
  /-- A connection event of a token. -/
  | token (token : Token)
  | request (event : RequestEvent)
  deriving DecidableEq, Repr

/-- An execution: a call of `makeRequest`, and the object that it executes. -/
structure Execution where
  call : Nat
  request : RequestId
  deriving DecidableEq, Repr

inductive Trace
  /-- `transitionTo` has changed the state. -/
  | entered (state : ConnectionState)
  | sent (message : SentMessage)
  | resetCalled
  /-- `'finish'` of the message of a call. -/
  | finished (call : Nat)
  /-- A call of `makeRequest`. -/
  | called (execution : Execution)
  /-- `request.callback(err, rowCount, rows)` for a call. -/
  | answered (execution : Execution) (err : Option Err)
  | emitted (event : Emitted)
  /-- An exception that no handler of the connection catches. -/
  | threw
  deriving DecidableEq, Repr

/-! ### What is under way -/

inductive LoginKind
  | standard | ntlm | fedauth
  deriving DecidableEq, Repr

inductive Pending
  /-- `instanceLookup`; `aborted` once the connect timer has fired. -/
  | instanceLookup (aborted : Bool)
  /-- `connect`, and `wrapWithTls` after it where encryption is strict. -/
  | connect (aborted : Bool)
  /-- The `PRELOGIN` response. -/
  | prelogin
  /-- `startTls` on a socket. -/
  | startTls (io : Nat)
  /-- The response to a login message. -/
  | loginMessage (kind : LoginKind)
  | loginTokens (kind : LoginKind) (handler : Login7TokenHandler)
  /-- `credentials.getToken`. -/
  | credentials
  /-- The response to the initial SQL. -/
  | initialSqlMessage
  | initialSqlTokens
  /-- `readMessage` in `SENT_CLIENT_REQUEST`, entered by a call of `makeRequest`. -/
  | requestMessage (call : Nat)
  /-- A response whose `'end'` is listened to by `onEndOfMessage`. -/
  | requestTokens (call : Nat) (request : Option RequestId) (errors : List RequestError)
      (answers : Option Answer)
  /-- `readMessage` in `SENT_ATTENTION`. -/
  | attentionMessage
  | attentionTokens (attentionReceived : Bool) (answers : Option Answer)
  deriving DecidableEq, Repr

namespace Pending

/-- A response stream of a call whose `'end'` is listened to. -/
def isResponseOf (call : Nat) : Pending → Bool
  | requestTokens call' .. => call' = call
  | _ => false

/-- The errors that the token handler of a call's response has collected. -/
def setErrors (call : Nat) (errors : List RequestError) : Pending → Pending
  | requestTokens call' request errors' answers =>
      requestTokens call' request (if call' = call then errors else errors') answers
  | p => p

/-- Whether it belongs to a login, up to the response to the initial SQL. -/
def isLogin : Pending → Bool
  | requestMessage _ | requestTokens .. | attentionMessage | attentionTokens .. => false
  | _ => true

/-- `controller.abort()` of the connect timer. -/
def abort : Pending → Pending
  | instanceLookup _ => instanceLookup true
  | connect _ => connect true
  | p => p

theorem isLogin_setErrors (call : Nat) (errors : List RequestError) (p : Pending) :
    (p.setErrors call errors).isLogin = p.isLogin := by
  cases p <;> rfl

theorem isLogin_abort (p : Pending) : p.abort.isLogin = p.isLogin := by cases p <;> rfl

end Pending

/-- Callbacks of `process.nextTick`. -/
inductive Tick
  | emitEnd
  | emitConnect (err : Err)
  | socketError (err : Err)
  /-- The callback of a request that was canceled before it was made. -/
  | callback (execution : Execution) (err : Err)
  deriving DecidableEq, Repr

/-- The timers are the ones that can still fire. `this.cancelTimer` stays set when its timer
has fired, so it is a field of its own. -/
structure Connection extends LoginState where
  state : ConnectionState
  closed : Bool
  connectTimer : Bool
  cancelTimer : Bool
  cancelTimerArmed : Bool
  requestTimer : Bool
  retryTimer : Bool
  fedAuthRequired : Bool
  routingData : Option RoutingData
  messageIo : MessageIO
  request : Option Execution
  resetConnectionOnNextRequest : Bool
  procReturnStatusValue : Option Int
  requests : RequestId → Request
  messages : Nat → RequestMessage
  pending : List Pending
  ticks : List Tick
  /-- How often `makeRequest` has been called. -/
  calls : Nat
  trace : List Trace
  owed : List Answer

/-- `new Connection(config)`. -/
def Connection.new : Connection where
  loginError := none
  ntlmpacket := none
  curTransientRetryCount := 0
  state := .INITIALIZED
  closed := false
  connectTimer := false
  cancelTimer := false
  cancelTimerArmed := false
  requestTimer := false
  retryTimer := false
  fedAuthRequired := false
  routingData := none
  messageIo := { id := 0, wrapped := false, tlsNegotiationComplete := false, destroyed := false }
  request := none
  resetConnectionOnNextRequest := false
  procReturnStatusValue := none
  requests := fun _ => .new
  messages := fun _ => .none
  pending := []
  ticks := []
  calls := 0
  trace := []
  owed := []

end Tedious
