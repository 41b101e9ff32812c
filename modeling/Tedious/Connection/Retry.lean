import Tedious.Connection.Changes
import Tedious.Connection.LoginResponse
import Tedious.Connection.Phase

/-!
# Tedious.Connection.Retry

How often a login is tried again. An `ERROR` token makes its error transient where the
count of retries is not the limit, and a transient error leads to
`TRANSIENT_FAILURE_RETRY`, which counts. The count stays within a limit that it can reach
(`retries_le_of_runsTo`); it passes by a limit that is no integer (`retries_unbounded`).
-/

namespace Tedious

open Chunked Reentrant

/-- The limits that a count can reach. -/
def JsNumber.isCount (limit : JsNumber) : Prop :=
  limit = .infinity ∨ ∃ m : Nat, limit = .finite m

namespace Connection

/-- How often `TRANSIENT_FAILURE_RETRY` has been entered. -/
def retries (s : Connection) : Nat := s.trace.count (.entered .TRANSIENT_FAILURE_RETRY)

/-- A connection that has been closed does not go on to log in with a transient error. -/
def RetriesOpen (s : Connection) (_ : List Instr) : Event → Prop
  | .resume (.loginTokens ..) .done =>
      s.closed = true → ∀ err ∈ s.loginError, isTransientError err = false
  | _ => True

instance (s : Connection) (stack : List Instr) (e : Event) : Decidable (RetriesOpen s stack e) := by
  unfold RetriesOpen
  split <;> infer_instance

/-- A limit `m` holds, and where the last error is transient there is room for one more. -/
structure Bounded (m : Nat) (s : Connection) : Prop where
  counted : s.retries = s.curTransientRetryCount
  le : s.curTransientRetryCount ≤ m
  transient : ∀ err ∈ s.loginError, isTransientError err = true → s.curTransientRetryCount < m

variable {c : ConnectionConfig} {m : Nat} {s : Connection} {rest : List Instr}

namespace Bounded

theorem record (h : Bounded m s) {t : Trace} (ht : t ≠ .entered .TRANSIENT_FAILURE_RETRY) :
    Bounded m (s.record t) :=
  { h with counted := (List.count_cons_of_ne ht).trans h.counted }

theorem finishCleanup (h : Bounded m s) : Bounded m s.finishCleanup :=
  { h with transient := by simp [Connection.finishCleanup] }

theorem closeRequest (h : Bounded m s) : Bounded m s.closeRequest.1 := by
  unfold Connection.closeRequest
  split
  · exact h
  · exact h.finishCleanup

theorem cleanupConnection (h : Bounded m s) (t : CleanupType) :
    Bounded m (s.cleanupConnection t).1 := by
  have hclosed : Bounded m s.closeConnection := { h with }
  unfold Connection.cleanupConnection
  split
  · exact h
  · cases t with
    | REDIRECT => exact hclosed
    | NORMAL => exact closeRequest (s := s.closeConnection.nextTick .emitEnd) { hclosed with }
    | RETRY => exact hclosed.closeRequest

/-- Entering another state does not count. -/
theorem transitionTo (h : Bounded m s) {st : ConnectionState}
    (hst : st ≠ .TRANSIENT_FAILURE_RETRY) : Bounded m (s.transitionTo c st).1 := by
  have hchanged : Bounded m (s.changeState st) :=
    { h with counted := (List.count_cons_of_ne (by simpa using hst)).trans h.counted }
  unfold Connection.transitionTo
  split
  · exact h
  · cases st with
    | CONNECTING =>
      show Bounded m ((s.changeState .CONNECTING).initialiseConnection c)
      unfold initialiseConnection
      dsimp only
      split <;> exact { hchanged with }
    | REROUTING => exact hchanged.cleanupConnection .REDIRECT
    | TRANSIENT_FAILURE_RETRY => exact absurd rfl hst
    | LOGGED_IN_SENDING_INITIAL_SQL => exact { hchanged.record (by simp) with }
    | FINAL => exact hchanged.cleanupConnection .NORMAL
    | _ => exact { hchanged with }

/-- A transient error is counted, and dropped. -/
theorem retry (h : Bounded m s) {err : Err} (herror : s.loginError = some err)
    (htransient : isTransientError err = true) (hclosed : s.closed = false)
    (hrequest : s.request = none) : Bounded m (s.transitionTo c .TRANSIENT_FAILURE_RETRY).1 := by
  have hlt := h.transient err herror htransient
  unfold Connection.transitionTo
  split
  · exact h
  · have henter : ((s.changeState .TRANSIENT_FAILURE_RETRY).enter c .TRANSIENT_FAILURE_RETRY).1 =
        ({ s.changeState .TRANSIENT_FAILURE_RETRY with
          curTransientRetryCount := s.curTransientRetryCount + 1 }.closeConnection).finishCleanup := by
      simp [Connection.enter, Connection.cleanupConnection, Connection.closeRequest, changeState,
        closeConnection, hclosed, hrequest]
    rw [henter]
    refine ⟨?_, hlt, by simp [Connection.finishCleanup]⟩
    exact List.count_cons_self.trans (congrArg (· + 1) h.counted)

theorem serve (h : Bounded m s) (r : RequestId) (type : RequestType) :
    Bounded m (((s.countCall { call := s.calls, request := r }).writeRequest c
      { call := s.calls, request := r } type).transitionTo c .SENT_CLIENT_REQUEST).1 := by
  have hcall : Bounded m (s.countCall { call := s.calls, request := r }) :=
    record (s := { s with calls := s.calls + 1 }) { h with } (by simp)
  have hsent := hcall.record (t := .sent
    { type := type.toMessageType, resetConnection := s.resetConnectionOnNextRequest,
      secure := s.messageIo.secure, request := some r }) (by simp)
  have hwritten : Bounded m ((s.countCall { call := s.calls, request := r }).writeRequest c
      { call := s.calls, request := r } type) := { hsent with }
  exact hwritten.transitionTo (by decide)

theorem onErrorMessage (h : Bounded m s) (hm : c.maxRetriesOnTransientErrors = .finite m)
    (token : MessageData) : Bounded m { s with
      toLoginState := Login7TokenHandler.onErrorMessage c.toHandlerOptions token s.toLoginState } := by
  refine { h with transient := ?_ }
  intro err herr htransient
  obtain rfl := Option.some.inj herr
  simp only [Login7TokenHandler.errorOf, isTransientError, Bool.and_eq_true, hm, ne_eq,
    decide_eq_true_eq, JsNumber.finite.injEq, Rat.natCast_inj] at htransient
  exact Nat.lt_of_le_of_ne h.le htransient.2

/-- No token but `ERROR` leaves a transient error. -/
theorem onToken (h : Bounded m s) (hm : c.maxRetriesOnTransientErrors = .finite m) {token : Token}
    {handler handler' : Login7TokenHandler} {login : LoginState}
    (htoken : handler.onToken c.toHandlerOptions token s.toLoginState = some (handler', login)) :
    Bounded m { s with toLoginState := login } := by
  have hpermanent : ∀ e : ConnectionError, e.isTransient = false →
      Bounded m { s with loginError := some (.connection e) } := by
    intro e he
    refine { h with transient := ?_ }
    rintro err ⟨⟩ htransient
    cases he.symm.trans htransient
  cases token with
  | errorMessage data =>
    cases htoken
    exact h.onErrorMessage hm data
  | featureExtAck fedAuth utf8Support =>
    cases htoken
    unfold Login7TokenHandler.onFeatureExtAck
    split
    · next e he => exact hpermanent e (Login7TokenHandler.isTransient_of_rejection he)
    · exact h
  | loginAck ack =>
    obtain ⟨interface, tdsVersion, _⟩ := ack
    cases tdsVersion <;> cases interface <;> cases htoken
    · exact hpermanent _ rfl
    · exact hpermanent _ rfl
    · exact hpermanent _ rfl
    · exact h
  | envChange change => cases change <;> cases htoken <;> exact h
  | _ => cases htoken <;> exact { h with }

theorem login {cause : Cause} {login : LoginState} (h : Bounded m s)
    (hm : c.maxRetriesOnTransientErrors = .finite m) (hlogin : LoginChange c s cause login) :
    Bounded m { s with toLoginState := login } := by
  cases hlogin with
  | token htoken => exact h.onToken hm htoken
  | errorMessage => exact h.onErrorMessage hm _
  | challenged => exact { h with }
  | unauthorized e message he =>
    refine { h with transient := ?_ }
    rintro err ⟨⟩ htransient
    cases he.symm.trans htransient

/-- A change that does not try the login again. -/
theorem change {cause : Cause} {s' : Connection} (hchange : Change c cause s s')
    (hm : c.maxRetriesOnTransientErrors = .finite m)
    (hcause : ∀ kind handler, cause ≠ .event (.resume (.loginTokens kind handler) .done))
    (h : Bounded m s) : Bounded m s' := by
  have hrecord : ∀ {s : Connection} {t : Trace}, Bounded m s → t ∈ cause.notes →
      Bounded m (s.record t) := by
    intro s t h ht
    refine h.record ?_
    rintro rfl
    exact cause.entered_notMem_notes ht
  cases hchange with
  -- only the end of a login response enters `TRANSIENT_FAILURE_RETRY`, with a change of its own
  | enter hst =>
    refine h.transitionTo ?_
    rintro rfl
    exact cause.retry_notMem_enters hst
  | retry hcause' => exact absurd hcause' (hcause _ _)
  | close => exact h.finishCleanup
  | send => exact h.record (by simp)
  | login _ hlogin => exact h.login hm hlogin
  | count => exact record (s := { s with calls := s.calls + 1 }) { h with } (by simp)
  | serve _ r type => exact h.serve r type
  | resetCalled =>
    exact record (s := { s with resetConnectionOnNextRequest := true }) { h with } (by simp)
  | finished =>
    exact record (s := { s with resetConnectionOnNextRequest := false }) { h with } (by simp)
  | attend => exact { h.record (t := .sent _) (by simp) with }
  | note ht => exact hrecord h ht
  | _ => exact { h with }

theorem exec (h : Bounded m s) (hm : c.maxRetriesOnTransientErrors = .finite m) (i : Instr) :
    Bounded m (exec c i s).1 :=
  (changes_exec i).keeps (fun hchange => change hchange hm (by simp)) h

/-- A login goes on while there is no request. -/
theorem afterLogin (h : Bounded m s) (hrequest : s.request = none)
    (hopen : s.closed = true → ∀ err ∈ s.loginError, isTransientError err = false)
    (kind : LoginKind) (handler : Login7TokenHandler) :
    Bounded m (s.afterLogin c kind handler).1 := by
  have hend := afterLogin_inv (c := c) (s := s) kind handler
  generalize s.afterLogin c kind handler = r at hend ⊢
  cases hend with
  | rerouted _ routingData =>
    have h' : Bounded m { s with routingData := some routingData } := { h with }
    exact h'.transitionTo (by decide)
  | acknowledged => exact h.transitionTo (by decide)
  | challenged =>
    have hsent : Bounded m (s.sendMessage .NTLMAUTH_PKT) := h.record (by simp)
    exact { hsent with }
  | informed => exact { h with }
  | retried _ _ herror htransient =>
    -- a connection that has been closed is not tried again, as the guard says
    refine h.retry herror htransient (Bool.eq_false_iff.2 fun hclosed => ?_) hrequest
    rw [hopen hclosed _ herror] at htransient
    cases htransient
  | failed => exact h

theorem handle (h : Bounded m s) (hm : c.maxRetriesOnTransientErrors = .finite m) {event : Event}
    (hrequest : ∀ p ∈ s.pending, p.isLogin = true → s.request = none)
    (henabled : s.enabled event = true) (hopen : RetriesOpen s rest event) :
    Bounded m (s.handle c event).1 := by
  by_cases hend : ∃ kind handler, event = .resume (.loginTokens kind handler) .done
  · obtain ⟨kind, handler, rfl⟩ := hend
    simp only [enabled, Bool.and_eq_true, decide_eq_true_eq] at henabled
    exact afterLogin (s := { s with pending := s.pending.erase (.loginTokens kind handler) })
      { h with } (hrequest _ henabled.1 rfl) hopen kind handler
  · refine (changes_handle event).keeps (fun hchange => change hchange hm ?_) h
    rintro kind handler ⟨⟩
    exact hend ⟨kind, handler, rfl⟩

end Bounded

/-- There is no request while a login is under way. -/
theorem request_of_isLogin (h : LoginPhase s rest ∨ RequestPhase s rest) :
    ∀ p ∈ s.pending, p.isLogin = true → s.request = none := by
  intro p hp hlogin
  rcases h with h | h
  · exact h.request
  · cases (h.pending p hp).symm.trans hlogin

/-- **Transient retries are bounded** by every limit that a count can reach. -/
theorem retries_le_of_runsTo (hlimit : c.maxRetriesOnTransientErrors.isCount)
    {moves : List (Move Event)} {k : Config Connection Instr} (h : RunsTo c RetriesOpen moves k) :
    c.maxRetriesOnTransientErrors.bounds k.state.retries := by
  rcases hlimit with hm | ⟨m, hm⟩
  · rw [hm]
    trivial
  · have hbounded : Bounded m k.state ∧ (LoginPhase k.state k.stack ∨
        RequestPhase k.state k.stack) := by
      refine Component.invariant (I := fun s stack =>
        Bounded m s ∧ (LoginPhase s stack ∨ RequestPhase s stack)) ?_ ?_ h ?_
      · intro i s rest ⟨hbounded, hphase⟩
        exact ⟨hbounded.exec hm i, hphase.imp LoginPhase.exec RequestPhase.exec⟩
      · intro event s stack s' is ⟨hbounded, hphase⟩ hadmits hopen hstart
        obtain ⟨henabled, hhandle⟩ := start_eq_some hstart
        obtain ⟨rfl, rfl⟩ := Prod.mk.inj hhandle
        exact ⟨hbounded.handle hm (request_of_isLogin hphase) henabled hopen,
          phase_handle hphase henabled (isCall_or_eq_nil hadmits)⟩
      · refine ⟨⟨rfl, Nat.zero_le m, ?_⟩, .inl loginPhase_new⟩
        simp [Connection.new]
    rw [hm, JsNumber.bounds, hbounded.1.counted]
    exact Rat.natCast_le_natCast.2 hbounded.1.le

/-- The error of a database that is not available at the moment. -/
def unavailable : MessageData where
  number := 4060
  state := 1
  class' := 11
  message := []
  serverName := []
  procName := []
  lineNumber := 0

/-- A login that is answered with a transient error. -/
def transientMoves : List (Move Event) :=
  loginSentMoves ++
    [.event (.resume (.loginMessage .standard) .done),
      .event (.resume (.loginTokens .standard .new) (.token (.errorMessage unavailable))),
      .next, .next, .next, .event (.resume (.loginTokens .standard .new) .done)]

/-- With the default limit, the login may be tried again. -/
theorem retries_le_of_runsTo_transient : ∃ k, RunsTo exampleConfig RetriesOpen transientMoves k ∧
    exampleConfig.maxRetriesOnTransientErrors.bounds k.state.retries := by
  obtain ⟨k, hk, -⟩ := @exists_runsTo exampleConfig RetriesOpen _ transientMoves
    (fun k => k.state.retries = 1) (by decide)
  exact ⟨k, hk, retries_le_of_runsTo (.inr ⟨3, rfl⟩) hk⟩

/-- 0.5 -/
def half : Rat := ⟨1, 2, by decide, by decide⟩

/-- The limit of half a retry is accepted, and not kept. -/
theorem retries_unbounded : ¬∀ (c : ConnectionConfig) (moves : List (Move Event))
    (k : Config Connection Instr), c.maxRetriesOnTransientErrors ≠ .negInfinity →
      (∀ q, c.maxRetriesOnTransientErrors = .finite q → 0 ≤ q) →
      RunsTo c (fun _ _ _ => True) moves k →
        c.maxRetriesOnTransientErrors.bounds k.state.retries := by
  intro h
  let c : ConnectionConfig :=
    { exampleConfig with maxRetriesOnTransientErrors := .finite half }
  obtain ⟨k, hk, hretries⟩ := @exists_runsTo c (fun _ _ _ => True) _ transientMoves
    (fun k => k.state.retries = 1) (by decide)
  have hbounds := h c _ k (by decide) (by rintro q ⟨⟩; decide) hk
  rw [of_decide_eq_true hretries] at hbounds
  exact absurd hbounds (by unfold JsNumber.bounds; decide)

end Connection

end Tedious
