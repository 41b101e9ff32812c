import Tedious.Connection.Transition

/-!
# Tedious.Connection.LoginResponse

A login response as a whole: its tokens are handled one after the other, and what they
leave decides how the login goes on (`readLoginResponse`). A rejected `FEATUREEXTACK`
only leaves an error, which other tokens can hide; `featureExtAck_gate_iff` says exactly
when it stops the login.
-/

namespace Tedious

open Chunked Reentrant

namespace Login7TokenHandler

variable (options : HandlerOptions)

/-- The error that a token records. -/
def recordedError (c : LoginState) : Token → Option Err
  | .errorMessage data => some (errorOf options c data)
  | .featureExtAck fedAuth utf8Support => (rejection options fedAuth utf8Support).map .connection
  | .loginAck { tdsVersion := none, .. } => some (.connection (.new
      (JsString.ofString "Server responded with unknown TDS version.") (some "ETDS")))
  | .loginAck { interface := none, .. } => some (.connection (.new
      (JsString.ofString "Server responded with unsupported interface.")
      (some "EINTERFACENOTSUPP")))
  | _ => none

/-- A `LOGINACK` with a known version and interface. -/
def acknowledges : Token → Bool
  | .loginAck { tdsVersion := some _, interface := some _, .. } => true
  | _ => false

/-- An NTLM challenge. -/
def challenges : Token → Bool
  | .sspi .. => true
  | _ => false

/-- The data of a `FEDAUTHINFO`. -/
def fedAuthInfoOf : Token → Option FedAuthInfo
  | .fedAuthInfo spn stsurl => some { spn, stsurl }
  | _ => none

/-- The tokens that the handler knows. -/
def expects : Token → Bool
  | .errorMessage _ | .sspi .. | .fedAuthInfo .. | .featureExtAck .. | .loginAck _
  | .envChange (.routing ..) | .infoMessage _ | .doneInProc _ | .done _
  | .envChange (.database ..) | .envChange (.language ..) | .envChange (.charset ..)
  | .envChange (.sqlCollation ..) | .envChange (.packetSize ..)
  | .envChange (.databaseMirroringPartner ..) => true
  | _ => false

/-- The tokens of a response, one after the other. -/
def read : List Token → Login7TokenHandler → LoginState → Option (Login7TokenHandler × LoginState)
  | [], h, c => some (h, c)
  | token :: tokens, h, c => (onToken options token h c).bind fun r => read tokens r.1 r.2

/-- What tokens leave: the acknowledgement, the last error, whether there is a challenge, and
the last `FEDAUTHINFO`. -/
structure Reads (tokens : List Token) (h : Login7TokenHandler) (c : LoginState)
    (h' : Login7TokenHandler) (c' : LoginState) : Prop where
  loginAckReceived : h'.loginAckReceived = (h.loginAckReceived || tokens.any acknowledges)
  loginError : c'.loginError =
    (tokens.reverse.findSome? (recordedError options c)).or c.loginError
  ntlmpacket : c'.ntlmpacket.isSome = (c.ntlmpacket.isSome || tokens.any challenges)
  fedAuthInfoToken : h'.fedAuthInfoToken =
    (tokens.reverse.findSome? fedAuthInfoOf).or h.fedAuthInfoToken
  curTransientRetryCount : c'.curTransientRetryCount = c.curTransientRetryCount

variable {options} {h h' : Login7TokenHandler} {c c' : LoginState}

variable (options) in
theorem isSome_onToken (token : Token) : (onToken options token h c).isSome = expects token := by
  cases token with
  | envChange change => cases change <;> rfl
  | _ => rfl

theorem reads_onToken {token : Token} (htoken : onToken options token h c = some (h', c')) :
    Reads options [token] h c h' c' := by
  cases token with
  | errorMessage data =>
    cases htoken
    constructor <;> simp [acknowledges, recordedError, challenges, fedAuthInfoOf, onErrorMessage]
  | featureExtAck fedAuth utf8Support =>
    cases htoken
    cases hrejection : rejection options fedAuth utf8Support <;> constructor <;>
      simp [acknowledges, recordedError, challenges, fedAuthInfoOf, onFeatureExtAck, hrejection]
  | loginAck ack =>
    obtain ⟨interface, tdsVersion, progName⟩ := ack
    cases tdsVersion <;> cases interface <;> cases htoken <;> constructor <;>
      simp [acknowledges, recordedError, challenges, fedAuthInfoOf]
  | envChange change =>
    cases change <;> cases htoken <;> constructor <;>
      simp [acknowledges, recordedError, challenges, fedAuthInfoOf, onRoutingChange]
  | _ =>
    cases htoken <;> constructor <;>
      simp [acknowledges, recordedError, challenges, fedAuthInfoOf, onSSPI]

variable (options) in
theorem isSome_read (tokens : List Token) (h : Login7TokenHandler) (c : LoginState) :
    (read options tokens h c).isSome = tokens.all expects := by
  induction tokens generalizing h c with
  | nil => rfl
  | cons token tokens ih =>
    have hhead := isSome_onToken options (h := h) (c := c) token
    rw [read, List.all_cons, ← hhead]
    cases onToken options token h c with
    | none => rfl
    | some r => simpa using ih r.1 r.2

variable (options) in
/-- The error of a token depends on the number of retries only. -/
theorem recordedError_congr (hcount : c'.curTransientRetryCount = c.curTransientRetryCount) :
    recordedError options c' = recordedError options c := by
  funext token
  cases token with
  | errorMessage data => simp only [recordedError, errorOf, hcount]
  | loginAck ack =>
    obtain ⟨interface, tdsVersion, -⟩ := ack
    cases tdsVersion <;> cases interface <;> rfl
  | _ => rfl

theorem reads_of_read {tokens : List Token} (hread : read options tokens h c = some (h', c')) :
    Reads options tokens h c h' c' := by
  induction tokens generalizing h c with
  | nil =>
    cases hread
    constructor <;> simp
  | cons token tokens ih =>
    obtain ⟨⟨h₁, c₁⟩, htoken, hrest⟩ := Option.bind_eq_some_iff.1 hread
    have hhead := reads_onToken htoken
    have htail := ih hrest
    have herror := recordedError_congr options hhead.curTransientRetryCount
    constructor
    · rw [htail.loginAckReceived, hhead.loginAckReceived]
      simp [Bool.or_assoc]
    · rw [htail.loginError, hhead.loginError, herror]
      simp [List.findSome?_append, Option.or_assoc]
    · rw [htail.ntlmpacket, hhead.ntlmpacket]
      simp [Bool.or_assoc]
    · rw [htail.fedAuthInfoToken, hhead.fedAuthInfoToken]
      simp [List.findSome?_append, Option.or_assoc]
    · rw [htail.curTransientRetryCount, hhead.curTransientRetryCount]

/-- A rejection is final. -/
theorem isTransient_of_rejection {fedAuth : Option Bytes} {utf8Support : Option Bool}
    {e : ConnectionError} (h : rejection options fedAuth utf8Support = some e) :
    e.isTransient = false := by
  unfold rejection at h
  split at h
  · split at h
    · cases h
      rfl
    · split at h <;> cases h
      rfl
  · split at h <;> cases h <;> rfl

end Login7TokenHandler

namespace Connection

open Login7TokenHandler

/-- The state in which a login response is read. -/
def loginStateOf : LoginKind → ConnectionState
  | .standard => .SENT_LOGIN7_WITH_STANDARD_LOGIN
  | .ntlm => .SENT_LOGIN7_WITH_NTLM
  | .fedauth => .SENT_LOGIN7_WITH_FEDAUTH

variable {c : ConnectionConfig} {s : Connection} {kind : LoginKind}

/-- A login response: the tokens, and the end. An unexpected token makes the token stream
fail, and it never ends. -/
def readLoginResponse (c : ConnectionConfig) (s : Connection) (kind : LoginKind)
    (tokens : List Token) : Connection × List Instr :=
  match read c.toHandlerOptions tokens .new s.toLoginState with
  | some (handler, login) => { s with toLoginState := login }.afterLogin c kind handler
  | none => (s, [.throw])

/-- A response stops the login, and reports an error. -/
structure StopsWith (err : Err) (r : Connection × List Instr) : Prop where
  state : r.1.state ≠ .LOGGED_IN_SENDING_INITIAL_SQL ∧ r.1.state ≠ .REROUTING
  connect : .emit (.connect (some err)) ∈ r.2

/-- What a login response must not contain, besides an acknowledgement of features that is
rejected, for the rejection to count; `after` are the tokens behind the acknowledgement. -/
structure GateKept (c : ConnectionConfig) (s : Connection) (kind : LoginKind) (err : Err)
    (tokens after : List Token) : Prop where
  expected : ∀ token ∈ tokens, expects token = true
  unacknowledged : ∀ token ∈ tokens, acknowledges token = false
  /-- The error is not replaced. -/
  kept : ∀ err', after.reverse.findSome? (recordedError c.toHandlerOptions s.toLoginState) =
    some err' → err' = err
  /-- There is no challenge to answer. -/
  ntlm : kind = .ntlm → s.ntlmpacket = none ∧ ∀ token ∈ tokens, challenges token = false
  /-- There is nobody to get a security token from. -/
  fedauth : kind = .fedauth →
    hasFedAuthInfo { Login7TokenHandler.new with
      fedAuthInfoToken := tokens.reverse.findSome? fedAuthInfoOf } = false

theorem not_stopsWith_transitionTo {err : Err} {st : ConnectionState} :
    ¬StopsWith err (s.transitionTo c st) := fun h => by
  simpa [Instr.isCleanup] using (enters_transitionTo st).stack _ h.connect

/-- An acknowledged login goes on. -/
theorem not_stopsWith_loginAcknowledged {err : Err} {handler : Login7TokenHandler} :
    ¬StopsWith err (s.loginAcknowledged c handler) := by
  unfold loginAcknowledged
  split <;> exact not_stopsWith_transitionTo

/-- The error that a login has left is reported, unless it is transient. -/
theorem stopsWith_loginFailed {err err' : Err} (herror : s.loginError = some err')
    (hstate : s.state = loginStateOf kind) (herr : isTransientError err = false) :
    StopsWith err (s.loginFailed c) ↔ err' = err := by
  unfold loginFailed
  rw [herror]
  dsimp only
  split
  · next htransient =>
    refine iff_of_false not_stopsWith_transitionTo ?_
    rintro rfl
    rw [herr] at htransient
    cases htransient
  · constructor
    · intro h
      simpa [eq_comm] using h.connect
    · rintro rfl
      refine ⟨?_, by simp⟩
      rw [hstate]
      cases kind <;> decide

/-- **The feature acknowledgement gate.** A response with a rejected acknowledgement stops
the login with the error of the rejection exactly when nothing else in it counts more. -/
theorem featureExtAck_gate_iff {before after : List Token} {fedAuth : Option Bytes}
    {utf8Support : Option Bool} {e : ConnectionError} (hstate : s.state = loginStateOf kind)
    (hrejected : rejection c.toHandlerOptions fedAuth utf8Support = some e) :
    StopsWith (.connection e)
        (s.readLoginResponse c kind (before ++ .featureExtAck fedAuth utf8Support :: after)) ↔
      GateKept c s kind (.connection e) (before ++ .featureExtAck fedAuth utf8Support :: after)
        after := by
  generalize htokens : before ++ .featureExtAck fedAuth utf8Support :: after = tokens
  have hisSome := isSome_read c.toHandlerOptions tokens .new s.toLoginState
  unfold readLoginResponse
  split
  · next handler login hread =>
    rw [hread] at hisSome
    have hreads := reads_of_read hread
    have hexpected : ∀ token ∈ tokens, expects token = true := List.all_eq_true.1 hisSome.symm
    -- the last error behind the acknowledgement, or the one of the rejection
    have herror : login.loginError = some ((after.reverse.findSome?
        (recordedError c.toHandlerOptions s.toLoginState)).getD (.connection e)) := by
      rw [hreads.loginError, ← htokens]
      cases hlast : after.reverse.findSome? (recordedError c.toHandlerOptions s.toLoginState) <;>
        simp [List.findSome?_append, hlast, recordedError, hrejected]
    have hkept : (after.reverse.findSome? (recordedError c.toHandlerOptions s.toLoginState)).getD
        (.connection e) = .connection e ↔ ∀ err', after.reverse.findSome?
          (recordedError c.toHandlerOptions s.toLoginState) = some err' → err' = .connection e := by
      cases after.reverse.findSome? (recordedError c.toHandlerOptions s.toLoginState) <;> simp
    have hfailed := stopsWith_loginFailed (c := c) (s := { s with toLoginState := login })
      herror hstate (show isTransientError (.connection e) = false from
        isTransient_of_rejection hrejected)
    cases hack : handler.loginAckReceived with
    | true =>
      refine iff_of_false ?_ fun hgate => ?_
      · cases kind <;> simp only [afterLogin, afterStandardLogin, afterNtlmLogin,
          afterFedauthLogin, hack, if_true] <;> exact not_stopsWith_loginAcknowledged
      · have hnone : tokens.any acknowledges = false := by simpa using hgate.unacknowledged
        rw [hreads.loginAckReceived, hnone] at hack
        cases hack
    | false =>
      have hunacknowledged : ∀ token ∈ tokens, acknowledges token = false := by
        rw [hreads.loginAckReceived] at hack
        simpa [Login7TokenHandler.new] using hack
      cases kind with
      | standard =>
        simp only [afterLogin, afterStandardLogin, hack, Bool.false_eq_true, if_false]
        rw [hfailed, hkept]
        exact ⟨fun h => ⟨hexpected, hunacknowledged, h, by simp, by simp⟩, fun h => h.kept⟩
      | ntlm =>
        simp only [afterLogin, afterNtlmLogin, hack, Bool.false_eq_true, if_false]
        have hpacket := hreads.ntlmpacket
        cases hsome : login.ntlmpacket.isSome with
        | true =>
          simp only [if_true]
          refine iff_of_false (fun h => by simpa using h.connect) fun hgate => ?_
          obtain ⟨hnone, htokens⟩ := hgate.ntlm rfl
          have hany : tokens.any challenges = false := by simpa using htokens
          rw [hsome, hnone, hany] at hpacket
          cases hpacket
        | false =>
          simp only [Bool.false_eq_true, if_false]
          rw [hfailed, hkept]
          refine ⟨fun h => ⟨hexpected, hunacknowledged, h, fun _ => ?_, by simp⟩, fun h => h.kept⟩
          rw [hsome] at hpacket
          simpa using hpacket.symm
      | fedauth =>
        simp only [afterLogin, afterFedauthLogin, hack, Bool.false_eq_true, if_false]
        have hinfo : handler.hasFedAuthInfo = hasFedAuthInfo { Login7TokenHandler.new with
            fedAuthInfoToken := tokens.reverse.findSome? fedAuthInfoOf } := by
          unfold hasFedAuthInfo
          rw [hreads.fedAuthInfoToken]
          simp [Login7TokenHandler.new]
        cases hsome : handler.hasFedAuthInfo with
        | true =>
          simp only [if_true]
          refine iff_of_false (fun h => by simpa using h.connect) fun hgate => ?_
          rw [hinfo, hgate.fedauth rfl] at hsome
          cases hsome
        | false =>
          simp only [Bool.false_eq_true, if_false]
          rw [hfailed, hkept]
          exact ⟨fun h => ⟨hexpected, hunacknowledged, h, by simp, fun _ => hinfo ▸ hsome⟩,
            fun h => h.kept⟩
  · next hread =>
    rw [hread] at hisSome
    refine iff_of_false (fun h => by simpa using h.connect) fun hgate => ?_
    rw [List.all_eq_true.2 hgate.expected] at hisSome
    cases hisSome

/-! ### The response in a run -/

/-- An event that can happen is handled. -/
theorem leads_handle (event : Event) (henabled : s.enabled event = true) :
    (component c).Leads ⟨s, []⟩ ⟨(s.handle c event).1, (s.handle c event).2⟩ :=
  Component.leads_event (c := component c) (e := event) (if_pos henabled)

/-- An event is emitted, and the listeners do not call. -/
theorem leads_emit (event : Emitted) (rest : List Instr) :
    (component c).Leads ⟨s, .emit event :: rest⟩ ⟨s.record (.emitted event), rest⟩ :=
  (Component.leads_next _ _ _).trans (Component.leads_next .callback _ rest)

theorem leads_tokenEvent (token : Token) :
    ∃ trace, (component c).Leads ⟨s, tokenEvent token⟩ ⟨{ s with trace }, []⟩ := by
  unfold tokenEvent
  split
  all_goals
    first
    | exact ⟨_, leads_emit _ _⟩
    | exact ⟨_, .refl _⟩

theorem loginToken_eq {h h' : Login7TokenHandler} {login : LoginState} {token : Token}
    (herror : ∀ data, token ≠ .errorMessage data)
    (htoken : onToken c.toHandlerOptions token h s.toLoginState = some (h', login)) :
    s.loginToken c kind h token =
      ({ s with toLoginState := login }.await (.loginTokens kind h'), tokenEvent token) := by
  unfold loginToken
  split
  · next data => exact absurd rfl (herror data)
  · rw [htoken]

/-- A token of a login response. -/
theorem leads_loginToken {h h' : Login7TokenHandler} {login : LoginState} {token : Token}
    (hpending : s.pending = [.loginTokens kind h])
    (htoken : onToken c.toHandlerOptions token h s.toLoginState = some (h', login)) :
    ∃ trace, (component c).Leads ⟨s, []⟩
      ⟨{ s with toLoginState := login, pending := [.loginTokens kind h'], trace }, []⟩ := by
  have hevent : (component c).Leads ⟨s, []⟩ ⟨(loginToken c { s with pending := [] } kind h token).1,
      (loginToken c { s with pending := [] } kind h token).2⟩ := by
    have hstarts := leads_handle (c := c) (s := s)
      (.resume (.loginTokens kind h) (.token token)) (by simp [enabled, hpending, accepts])
    simpa [handle, resume, hpending] using hstarts
  by_cases herror : ∃ data, token = .errorMessage data
  · obtain ⟨data, rfl⟩ := herror
    obtain ⟨rfl, rfl⟩ := Prod.mk.inj (Option.some.inj htoken)
    exact ⟨_, hevent.trans ((leads_emit _ _).trans (Component.leads_next (Instr.loginErrorMessage data) _ []))⟩
  · rw [loginToken_eq (s := { s with pending := [] }) (by simpa using herror) htoken] at hevent
    obtain ⟨trace, hemitted⟩ := leads_tokenEvent (c := c) (s := await
      { s with pending := [], toLoginState := login } (.loginTokens kind h')) token
    exact ⟨trace, hevent.trans hemitted⟩

/-- The tokens of a login response, one after the other. -/
theorem leads_loginTokens {tokens : List Token} {h h' : Login7TokenHandler} {login : LoginState}
    (hpending : s.pending = [.loginTokens kind h])
    (hread : read c.toHandlerOptions tokens h s.toLoginState = some (h', login)) :
    ∃ trace, (component c).Leads ⟨s, []⟩
      ⟨{ s with toLoginState := login, pending := [.loginTokens kind h'], trace }, []⟩ := by
  induction tokens generalizing s h with
  | nil =>
    obtain ⟨rfl, rfl⟩ := Prod.mk.inj (Option.some.inj hread)
    refine ⟨s.trace, ?_⟩
    rw [← hpending]
    exact .refl _
  | cons token tokens ih =>
    obtain ⟨⟨h₁, login₁⟩, htoken, hrest⟩ := Option.bind_eq_some_iff.1 hread
    obtain ⟨trace₁, hfirst⟩ := leads_loginToken hpending htoken
    obtain ⟨trace, hlast⟩ := ih (s := { s with
      toLoginState := login₁, pending := [.loginTokens kind h₁], trace := trace₁ }) rfl hrest
    exact ⟨trace, hfirst.trans hlast⟩

/-- The connection reads a login response of tokens that it knows as `readLoginResponse`
says. -/
theorem leads_readLoginResponse {tokens : List Token} (hpending : s.pending = [.loginMessage kind])
    (hexpected : ∀ token ∈ tokens, expects token = true) :
    ∃ trace, (component c).Leads ⟨s, []⟩
      ⟨(readLoginResponse c { s with pending := [], trace } kind tokens).1,
        (readLoginResponse c { s with pending := [], trace } kind tokens).2⟩ := by
  have hsome : (read c.toHandlerOptions tokens .new s.toLoginState).isSome = true := by
    rw [isSome_read]
    exact List.all_eq_true.2 hexpected
  obtain ⟨⟨handler, login⟩, hread⟩ := Option.isSome_iff_exists.1 hsome
  have hbegins : (component c).Leads ⟨s, []⟩ ⟨{ s with pending := [.loginTokens kind .new] }, []⟩ := by
    have hstarts := leads_handle (c := c) (s := s) (.resume (.loginMessage kind) .done)
      (by simp [enabled, hpending, accepts])
    simpa [handle, resume, hpending, await] using hstarts
  obtain ⟨trace, htokens⟩ := leads_loginTokens (c := c)
    (s := { s with pending := [.loginTokens kind .new] }) rfl hread
  have hends := leads_handle (c := c) (s := { s with
    toLoginState := login, pending := [.loginTokens kind handler], trace })
    (.resume (.loginTokens kind handler) .done) (by simp [enabled, accepts])
  refine ⟨trace, hbegins.trans (htokens.trans ?_)⟩
  have hresult : readLoginResponse c { s with pending := [], trace } kind tokens =
      afterLogin c { s with toLoginState := login, pending := [], trace } kind handler := by
    unfold readLoginResponse
    dsimp only
    rw [hread]
  rw [hresult]
  simpa [handle, resume] using hends

/-! ### Two responses -/

/-- From `connect` to the `LOGIN7` message. -/
def loginSentMoves : List (Move Event) :=
  [.event .connect, .event (.resume (.connect false) .done),
    .event (.resume .prelogin (.data preloginOn)), .event (.resume (.startTls 1) .done)]

/-- The acknowledgement of a feature that was not requested. -/
def unrequestedAck : Token := .featureExtAck (some []) none

def unrequestedAckError : ConnectionError :=
  .new (JsString.ofString
    "Did not request Active Directory authentication, but received the acknowledgment") none

/-- A response with nothing but an acknowledgement that was not requested. -/
theorem featureExtAck_gate_iff_alone : ∃ k, RunsTo exampleConfig (fun _ _ _ => True)
    loginSentMoves k ∧
      (StopsWith (.connection unrequestedAckError)
          (k.state.readLoginResponse exampleConfig .standard ([] ++ unrequestedAck :: [])) ↔
        GateKept exampleConfig k.state .standard (.connection unrequestedAckError)
          ([] ++ unrequestedAck :: []) []) := by
  obtain ⟨k, hk, hstate⟩ := @exists_runsTo exampleConfig (fun _ _ _ => True) _ loginSentMoves
    (fun k => k.state.state = loginStateOf .standard) (by decide)
  exact ⟨k, hk, featureExtAck_gate_iff (of_decide_eq_true hstate) rfl⟩

/-- A response that acknowledges the login behind a rejected acknowledgement of a feature
logs the connection in. -/
theorem featureExtAck_ignored : ¬∀ (c : ConnectionConfig) (moves : List (Move Event))
    (k : Config Connection Instr) (kind : LoginKind) (before after : List Token)
    (fedAuth : Option Bytes) (utf8Support : Option Bool) (e : ConnectionError),
    RunsTo c (fun _ _ _ => True) moves k → k.state.state = loginStateOf kind →
      rejection c.toHandlerOptions fedAuth utf8Support = some e →
      StopsWith (.connection e) (k.state.readLoginResponse c kind
        (before ++ .featureExtAck fedAuth utf8Support :: after)) := by
  intro h
  obtain ⟨k, hk, hp⟩ := @exists_runsTo exampleConfig (fun _ _ _ => True) _ loginSentMoves
    (fun k => k.state.state = loginStateOf .standard &&
      (k.state.readLoginResponse exampleConfig .standard
        [unrequestedAck, .loginAck exampleLoginAck]).1.state = .LOGGED_IN_SENDING_INITIAL_SQL)
    (by decide)
  obtain ⟨hstate, hloggedIn⟩ := (Bool.and_eq_true _ _).mp hp
  have hstops := h exampleConfig _ k .standard [] [.loginAck exampleLoginAck] (some []) none
    unrequestedAckError hk (of_decide_eq_true hstate) rfl
  exact hstops.state.1 (of_decide_eq_true hloggedIn)

end Connection

end Tedious
