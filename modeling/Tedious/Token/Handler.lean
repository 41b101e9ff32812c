import Tedious.Request

/-!
# Tedious.Token.Handler

What the connection does with the tokens of a response (`token/handler.ts`): a handler
for each kind of response, which writes to the connection, to the request that is being
executed, and to fields of its own. A token that a handler does not know is an
`UnexpectedTokenError`.

A handler that emits an event goes on after the listeners have run, so the handler of
request responses comes in two halves: `announce` ends with the event, and `complete`
is the rest.
-/

namespace Tedious

open Chunked

/-! ### Login responses -/

inductive AuthenticationType
  | default | ntlm | azureActiveDirectoryPassword | azureActiveDirectoryAccessToken
  | azureActiveDirectoryMsiVm | azureActiveDirectoryMsiAppService
  | azureActiveDirectoryDefault | azureActiveDirectoryServicePrincipalSecret
  deriving DecidableEq, Repr

namespace AuthenticationType

/-- `authentication.type`. -/
def name : AuthenticationType → String
  | default => "default"
  | ntlm => "ntlm"
  | azureActiveDirectoryPassword => "azure-active-directory-password"
  | azureActiveDirectoryAccessToken => "azure-active-directory-access-token"
  | azureActiveDirectoryMsiVm => "azure-active-directory-msi-vm"
  | azureActiveDirectoryMsiAppService => "azure-active-directory-msi-app-service"
  | azureActiveDirectoryDefault => "azure-active-directory-default"
  | azureActiveDirectoryServicePrincipalSecret =>
      "azure-active-directory-service-principal-secret"

/-- The types whose login asks for federated authentication. -/
def isFederated : AuthenticationType → Bool
  | default | ntlm => false
  | _ => true

end AuthenticationType

structure RoutingData where
  server : JsString
  port : Nat
  deriving DecidableEq, Repr

/-- What the handler of login responses reads from and writes to the connection. -/
structure LoginState where
  loginError : Option Err
  ntlmpacket : Option Challenge
  curTransientRetryCount : Nat
  deriving DecidableEq, Repr

/-- `transientErrorLookup.isTransientError`. -/
def isTransientErrorNumber (number : Nat) : Bool :=
  number ∈ [4060, 10928, 10929, 40197, 40501, 40613]

/-- The options that the handlers look at. -/
structure HandlerOptions where
  authentication : AuthenticationType
  maxRetriesOnTransientErrors : JsNumber
  rowCollectionOnRequestCompletion : Bool
  rowCollectionOnDone : Bool
  deriving DecidableEq, Repr

structure FedAuthInfo where
  spn : Option JsString
  stsurl : Option JsString
  deriving DecidableEq, Repr

structure Login7TokenHandler where
  loginAckReceived : Bool
  routingData : Option RoutingData
  fedAuthInfoToken : Option FedAuthInfo
  deriving DecidableEq, Repr

namespace Login7TokenHandler

/-- `new Login7TokenHandler(connection)`. -/
def new : Login7TokenHandler where
  loginAckReceived := false
  routingData := none
  fedAuthInfoToken := none

variable (options : HandlerOptions)

/-- The error that `onErrorMessage` records. -/
def errorOf (c : LoginState) (token : MessageData) : Err :=
  .connection
    { message := token.message
      code := some "ELOGIN"
      isTransient := isTransientErrorNumber token.number &&
        .finite c.curTransientRetryCount ≠ options.maxRetriesOnTransientErrors }

def onErrorMessage (token : MessageData) (c : LoginState) : LoginState :=
  { c with loginError := some (errorOf options c token) }

def onSSPI (ntlmpacket : Challenge) (c : LoginState) : LoginState :=
  { c with ntlmpacket := some ntlmpacket }

/-- What `onFeatureExtAck` finds wrong with an acknowledgement. -/
def rejection (fedAuth : Option Bytes) (utf8Support : Option Bool) : Option ConnectionError :=
  if options.authentication.isFederated then
    match fedAuth with
    | none =>
        some (.new (JsString.ofString
          "Did not receive Active Directory authentication acknowledgement") none)
    | some data =>
        if data.length ≠ 0 then
          some (.new (JsString.ofString "Active Directory authentication acknowledgment for " ++
            JsString.ofString options.authentication.name ++
            JsString.ofString " authentication method includes extra data") none)
        else none
  else
    match fedAuth, utf8Support with
    | none, none =>
        some (.new (JsString.ofString "Received acknowledgement for unknown feature") none)
    | none, some _ => none
    | some _, _ =>
        some (.new (JsString.ofString
          "Did not request Active Directory authentication, but received the acknowledgment")
          none)

def onFeatureExtAck (fedAuth : Option Bytes) (utf8Support : Option Bool) (c : LoginState) :
    LoginState :=
  match rejection options fedAuth utf8Support with
  | some e => { c with loginError := some (.connection e) }
  | none => c

def onLoginAck (token : LoginAck) (h : Login7TokenHandler) (c : LoginState) :
    Login7TokenHandler × LoginState :=
  match token.tdsVersion, token.interface with
  | none, _ =>
      (h, { c with
        loginError := some (.connection (.new
          (JsString.ofString "Server responded with unknown TDS version.") (some "ETDS"))) })
  | some _, none =>
      (h, { c with
        loginError := some (.connection (.new
          (JsString.ofString "Server responded with unsupported interface.")
          (some "EINTERFACENOTSUPP"))) })
  | some _, some _ => ({ h with loginAckReceived := true }, c)

/-- An instance name behind the server's is cut off. -/
def onRoutingChange (server : JsString) (port : Nat) (h : Login7TokenHandler) :
    Login7TokenHandler :=
  { h with routingData := some { server := server.takeWhile (· ≠ 0x5C), port } }

/-- `handler[token.handlerName](token)`. -/
def onToken (token : Token) (h : Login7TokenHandler) (c : LoginState) :
    Option (Login7TokenHandler × LoginState) :=
  match token with
  | .errorMessage data => some (h, onErrorMessage options data c)
  | .sspi ntlmpacket _ => some (h, onSSPI ntlmpacket c)
  | .fedAuthInfo spn stsurl => some ({ h with fedAuthInfoToken := some { spn, stsurl } }, c)
  | .featureExtAck fedAuth utf8Support => some (h, onFeatureExtAck options fedAuth utf8Support c)
  | .loginAck token => some (onLoginAck token h c)
  | .envChange (.routing _ port server _) => some (onRoutingChange server port h, c)
  | .infoMessage _ | .doneInProc _ | .done _ => some (h, c)
  | .envChange (.database ..) | .envChange (.language ..) | .envChange (.charset ..)
  | .envChange (.sqlCollation ..) | .envChange (.packetSize ..)
  | .envChange (.databaseMirroringPartner ..) => some (h, c)
  | _ => none

/-- `fedAuthInfoToken && fedAuthInfoToken.stsurl && fedAuthInfoToken.spn`. -/
def hasFedAuthInfo (h : Login7TokenHandler) : Bool :=
  match h.fedAuthInfoToken with
  | some { spn := some (_ :: _), stsurl := some (_ :: _) } => true
  | _ => false

end Login7TokenHandler

/-! ### Responses to the initial SQL -/

/-- How the handler of the response to the initial SQL takes a token. -/
inductive InitialSqlToken
  /-- There is nothing to do for the connection, or only its events to emit. -/
  | accepted
  /-- `"Received '...' when no sqlRequest is in progress"`: the connection is closed. -/
  | rejected (name : String)
  | unexpected
  deriving DecidableEq, Repr

/-- `InitialSqlTokenHandler`. -/
def InitialSqlTokenHandler.onToken : Token → InitialSqlToken
  | .colMetadata _ => .rejected "columnMetadata"
  | .order _ => .rejected "order"
  | .row _ | .nbcRow _ => .rejected "row"
  | .infoMessage _ | .errorMessage _ => .accepted
  | .envChange (.databaseMirroringPartner ..) | .envChange (.routing ..) => .unexpected
  | .envChange _ => .accepted
  | .returnStatus _ | .returnValue .. | .doneProc _ | .doneInProc _ | .done _ => .accepted
  | .sspi .. | .fedAuthInfo .. | .featureExtAck .. | .loginAck _ => .unexpected

/-! ### Responses to requests -/

/-- The events of a request that carry something the connection keeps. -/
inductive RequestEvent
  | columnMetadata (columns : List ColumnMetadata)
  | order (orderColumns : List Nat)
  | row (columns : RowColumns)
  | returnValue (paramName : JsString) (value : Value)
  | doneProc (rowCount : Option Nat) (more : Bool) (procReturnStatusValue : Option Int)
      (rst : List RowColumns)
  | doneInProc (rowCount : Option Nat) (more : Bool) (rst : List RowColumns)
  | done (rowCount : Option Nat) (more : Bool) (rst : List RowColumns)
  deriving DecidableEq, Repr

/-- What the handler of request responses reads and writes: its own errors, the request,
and one field of the connection. -/
structure RequestState where
  errors : List RequestError
  request : Request
  procReturnStatusValue : Option Int
  deriving Repr

namespace RequestTokenHandler

variable (options : HandlerOptions)

/-- Whether a token leaves a request alone: one that is canceled gets nothing any more. -/
def skipped (s : RequestState) : Token → Bool
  | .infoMessage _ | .errorMessage _ | .envChange _ => false
  | _ => s.request.canceled

/-- `if (token.sqlError && !this.request.error)`. -/
def noteSqlError (token : DoneData) (request : Request) : Request :=
  if token.sqlError && request.error.isNone then
    { request with
      error := some (.request (.new (JsString.ofString "An unknown error has occurred.")
        (some "UNKNOWN"))) }
  else request

/-- A row is kept as the options say. -/
def collect (columns : RowColumns) (request : Request) : Request :=
  { request with
    rows := if options.rowCollectionOnRequestCompletion then request.rows ++ [columns]
      else request.rows
    rst := if options.rowCollectionOnDone then request.rst ++ [columns] else request.rst }

/-- `if (token.rowCount !== undefined) this.request.rowCount += token.rowCount`. The sum of two
Numbers is rounded. -/
def addCount (rowCount : Nat) : Option Nat → Nat
  | some added => toNumber (rowCount + added)
  | none => rowCount

@[simp] theorem addCount_none (rowCount : Nat) : addCount rowCount none = rowCount := rfl

/-- The tail of `onDone`, `onDoneInProc` and `onDoneProc`. -/
def count (token : DoneData) (request : Request) : Request :=
  { request with
    rowCount := addCount request.rowCount token.rowCount
    rst := if options.rowCollectionOnDone then [] else request.rst }

/-- The error of an `ERROR` token; from the second of a response on, all of them. -/
def onErrorMessage (id : RequestId) (token : MessageData) (s : RequestState) : RequestState :=
  if s.request.canceled then s
  else
    let error : RequestError :=
      { message := token.message, code := some "EREQUEST", data := some token }
    let errors := s.errors ++ [error]
    { s with
      errors
      request := { s.request with
        error := some (if id.isRequest ∧ 1 < errors.length then .requestAggregate errors
          else .request error) } }

/-- Up to the event that a token causes on the request. -/
def announce (token : Token) (s : RequestState) : Option (RequestState × Option RequestEvent) :=
  if skipped s token then some (s, none)
  else
    match token with
    | .colMetadata columns => some (s, some (.columnMetadata columns))
    | .order orderColumns => some (s, some (.order orderColumns))
    | .row columns | .nbcRow columns =>
        some ({ s with request := collect options columns s.request }, some (.row columns))
    | .returnStatus value => some ({ s with procReturnStatusValue := some value }, none)
    | .returnValue _ paramName _ value =>
        some ({ s with request := s.request.onReturnValue paramName value },
          some (.returnValue paramName value))
    | .doneProc data =>
        let request := noteSqlError data s.request
        some ({ s with request },
          some (.doneProc data.rowCount data.more s.procReturnStatusValue request.rst))
    | .doneInProc data =>
        some (s, some (.doneInProc data.rowCount data.more s.request.rst))
    | .done data =>
        let request := noteSqlError data s.request
        some ({ s with request }, some (.done data.rowCount data.more request.rst))
    | .infoMessage _ | .errorMessage _ => some (s, none)
    | .envChange (.databaseMirroringPartner ..) | .envChange (.routing ..) => none
    | .envChange _ => some (s, none)
    | .sspi .. | .fedAuthInfo .. | .featureExtAck .. | .loginAck _ => none

/-- What is left to do when the listeners of a token's event have run; only for a token
that was not skipped. -/
def complete (id : RequestId) (token : Token) (s : RequestState) : RequestState :=
  match token with
  | .errorMessage data => onErrorMessage id data s
  | .doneProc data =>
      { s with procReturnStatusValue := none, request := count options data s.request }
  | .doneInProc data | .done data => { s with request := count options data s.request }
  | _ => s

/-- Tokens do not touch who listens to a request, nor whether it is canceled. -/
structure SameListeners (request request' : Request) : Prop where
  canceled : request'.canceled = request.canceled
  cancelListeners : request'.cancelListeners = request.cancelListeners

theorem sameListeners_complete (id : RequestId) (token : Token) (s : RequestState) :
    SameListeners s.request (complete options id token s).request := by
  cases token with
  | errorMessage data =>
    unfold complete onErrorMessage
    dsimp only
    split <;> exact ⟨rfl, rfl⟩
  | _ => exact ⟨rfl, rfl⟩

theorem sameListeners_noteSqlError (token : DoneData) (request : Request) :
    SameListeners request (noteSqlError token request) := by
  unfold noteSqlError
  split <;> exact ⟨rfl, rfl⟩

theorem sameListeners_onReturnValue (request : Request) (name : JsString) (value : Value) :
    SameListeners request (request.onReturnValue name value) := by
  unfold Request.onReturnValue
  split
  · exact ⟨rfl, rfl⟩
  · split <;> exact ⟨rfl, rfl⟩

theorem sameListeners_announce {token : Token} {s s' : RequestState} {event : Option RequestEvent}
    (h : announce options token s = some (s', event)) : SameListeners s.request s'.request := by
  unfold announce at h
  split at h
  · cases h
    exact ⟨rfl, rfl⟩
  · split at h <;> cases h <;>
      first
      | exact ⟨rfl, rfl⟩
      | exact sameListeners_noteSqlError ..
      | exact sameListeners_onReturnValue ..

/-- A request that is canceled does not notice a token. -/
theorem announce_canceled {token : Token} {s s' : RequestState} {event : Option RequestEvent}
    (hcanceled : s.request.canceled = true) (h : announce options token s = some (s', event)) :
    s' = s ∧ event = none := by
  unfold announce at h
  split at h
  · cases h
    exact ⟨rfl, rfl⟩
  · next hskipped =>
    cases token with
    | infoMessage data | errorMessage data =>
      cases h
      exact ⟨rfl, rfl⟩
    | envChange change => cases change <;> cases h <;> exact ⟨rfl, rfl⟩
    | _ => exact absurd hcanceled hskipped

end RequestTokenHandler

/-! ### Attention acknowledgements -/

/-- `AttentionTokenHandler`: whether the acknowledgement has been received. -/
def AttentionTokenHandler.onToken (attentionReceived : Bool) : Token → Option Bool
  | .done data => some (attentionReceived || data.attention)
  | _ => none

end Tedious
