import Tedious.Connection.Executions

/-!
# Tedious.Connection.Answering

Each execution is answered once. `cleanupConnection` calls the callback of the request
before it forgets the request and sets `closed`, and nothing that comes late is kept from a
connection that has been closed: a callback that cancels its request and closes the
connection again is called twice (`answered_twice`), and a request that is made after
`FINAL` has been left is forgotten when the connection is closed again. In the runs in which
neither happens each execution is answered at most once, and none is dropped without an
answer (`answered_once`).
-/

namespace Tedious

open Chunked Reentrant

/-- A call of `makeRequest`, or its answer. -/
def Trace.isCalling : Trace → Bool
  | called _ | answered .. => true
  | _ => false

def Trace.answers (x : Execution) : Trace → Bool
  | answered execution _ => execution = x
  | _ => false

def Tick.isCallback : Tick → Bool
  | callback .. => true
  | _ => false

def Tick.answers (x : Execution) : Tick → Bool
  | callback execution _ => execution = x
  | _ => false

namespace Instr

def answers (x : Execution) : Instr → Bool
  | answer execution _ => execution = x
  | _ => false

/-- What may be left to do above `finishCleanup`: callbacks run, and their calls. -/
def isInterlude : Instr → Bool
  | callback | answer .. | cancelListener _ (.unsent _) | cancelListener _ .afterRequestSent => true
  | _ => false

end Instr

namespace Connection

/-- A request is admitted. -/
def admitsRequest (s : Connection) : Event → Bool
  | .makeRequest r _ | .prepare r => s.state = .LOGGED_IN && !(s.requests r).canceled
  | .reset => s.state = .LOGGED_IN && !(s.requests (.reset s.calls)).canceled
  | _ => false

/-- A request whose response is listened to is canceled. -/
def attends (s : Connection) : Event → Bool
  | .cancelRequest r => s.responseListened r
  | .cancel => s.request.any fun execution => s.responseListened execution.request
  | _ => false

/-- No request is admitted once `closed` has been set, and while `cleanupConnection` runs
the callback of a request nothing that listens to a response is canceled. -/
def Answerable (s : Connection) (_ : List Instr) (e : Event) : Prop :=
  (s.closed = true → s.admitsRequest e = false) ∧
    (s.state = .FINAL → s.closed = false → s.attends e = false)

instance (s : Connection) (stack : List Instr) (e : Event) : Decidable (Answerable s stack e) :=
  inferInstanceAs (Decidable (_ ∧ _))

/-- How often the callback of an execution has been called. -/
def timesAnswered (s : Connection) (x : Execution) : Nat := s.trace.countP (Trace.answers x)

/-- How often an execution is answered: it has been, the handlers on the stack are about to,
or it waits for the next tick. -/
def settled (s : Connection) (stack : List Instr) (x : Execution) : Nat :=
  s.timesAnswered x + stack.countP (Instr.answers x) + s.ticks.countP (Tick.answers x)

/-- What the calls of `makeRequest` have come to. -/
def ledger (s : Connection) : Nat × List Trace × List Tick :=
  (s.calls, s.trace.filter Trace.isCalling, s.ticks.filter Tick.isCallback)

variable {c : ConnectionConfig} {s : Connection} {rest : List Instr}

/-! ### What leaves the ledger alone -/

section

@[grind =] theorem ledger_await (p : Pending) : (s.await p).ledger = s.ledger := rfl

@[grind =] theorem ledger_updateRequest (r : RequestId) (f : Request → Request) :
    (s.updateRequest r f).ledger = s.ledger := rfl

@[grind =] theorem ledger_updateCurrentRequest (f : Request → Request) :
    (s.updateCurrentRequest f).ledger = s.ledger := by
  unfold updateCurrentRequest
  split <;> rfl

@[grind =] theorem ledger_sendMessage (type : MessageType) :
    (s.sendMessage type).ledger = s.ledger := rfl

@[grind =] theorem ledger_nextTick {t : Tick} (ht : t.isCallback = false) :
    (s.nextTick t).ledger = s.ledger := by
  simp [ledger, nextTick, ht]

@[grind =] theorem ledger_transitionTo (st : ConnectionState) :
    (s.transitionTo c st).1.ledger = s.ledger := by
  have henters := enters_transitionTo (c := c) (s := s) st
  have htrace : (s.transitionTo c st).1.trace.filter Trace.isCalling =
      s.trace.filter Trace.isCalling := by
    rw [henters.trace]
    split
    · rfl
    · cases st <;> rfl
  have hticks : (s.transitionTo c st).1.ticks.filter Tick.isCallback =
      s.ticks.filter Tick.isCallback := by
    rw [ticks_transitionTo, List.filter_append]
    split
    · exact List.append_nil _
    · exact List.append_nil _
  rw [ledger, ledger, henters.calls, htrace, hticks]

@[grind =] theorem ledger_closeRequest : s.closeRequest.1.ledger = s.ledger := by
  unfold closeRequest
  split <;> rfl

@[grind =] theorem ledger_dispatchEvent (event : Dispatched) :
    (s.dispatchEvent c event).1.ledger = s.ledger := by
  unfold dispatchEvent
  split
  · next r hr =>
    cases event <;> unfold eventHandler at hr <;> dsimp only at hr <;> split at hr <;> cases hr
    all_goals
      first
      | rfl
      | exact ledger_transitionTo _
  · rfl

@[grind =] theorem ledger_loginToken (kind : LoginKind) (handler : Login7TokenHandler)
    (token : Token) : (s.loginToken c kind handler token).1.ledger = s.ledger := by
  unfold loginToken
  split
  · rfl
  · split <;> rfl

@[grind =] theorem ledger_sendLogin7Packet : (s.sendLogin7Packet c).1.ledger = s.ledger := by
  unfold sendLogin7Packet
  cases c.authentication <;> exact ledger_transitionTo _

@[grind =] theorem ledger_loginFailed : (s.loginFailed c).1.ledger = s.ledger := by
  grind [loginFailed]

@[grind =] theorem ledger_loginAcknowledged (handler : Login7TokenHandler) :
    (s.loginAcknowledged c handler).1.ledger = s.ledger := by
  grind [loginAcknowledged, ledger]

@[grind =] theorem ledger_afterLogin (kind : LoginKind) (handler : Login7TokenHandler) :
    (s.afterLogin c kind handler).1.ledger = s.ledger := by
  cases kind <;>
    grind [afterLogin, afterStandardLogin, afterNtlmLogin, afterFedauthLogin, sendMessage, send,
      record, ledger, Trace.isCalling]

@[grind =] theorem ledger_requestToken (call : Nat) (request : Option RequestId)
    (errors : List RequestError) (token : Token) :
    (s.requestToken c call request errors token).1.ledger = s.ledger := by
  unfold requestToken
  split
  · split <;> rfl
  · dsimp only
    split <;> rfl

@[grind =] theorem ledger_afterInitialSql : (s.afterInitialSql c).1.ledger = s.ledger :=
  ledger_transitionTo .LOGGED_IN

@[grind =] theorem ledger_onEndOfMessage (call : Nat) :
    (s.onEndOfMessage c call).1.ledger = s.ledger :=
  (ledger_transitionTo .LOGGED_IN).trans (ledger_updateCurrentRequest _)

theorem ledger_resume (p : Pending) (outcome : Outcome) :
    (s.resume c p outcome).1.ledger = s.ledger := by
  unfold resume
  split
  all_goals
    grind [instanceLookupFailed, socketHandlingForSendPreLogin, connectFailed, afterPrelogin,
      afterStartTls, sendFedAuthTokenMessage, credentialsFailed, initialSqlToken,
      afterRequestMessage, afterAttentionMessage, attentionToken, afterAttention, socketError,
      ledger, Tick.isCallback]

theorem ledger_cancelRequest (r : RequestId) : (s.cancelRequest r).1.ledger = s.ledger := by
  grind [cancelRequest]

/-- Only an answer is noted. -/
theorem ledger_exec {i : Instr} (hi : i.isAnswer = false) : (exec c i s).1.ledger = s.ledger := by
  cases i with
  | answer execution err => cases hi
  | enterFinal => exact ledger_transitionTo .FINAL
  | enterConnecting => exact ledger_transitionTo .CONNECTING
  | dispatchSocketError err => exact ledger_dispatchEvent (.socketError err)
  | afterConnectTimeout => exact ledger_dispatchEvent .connectTimeout
  | closeRequest => exact ledger_closeRequest
  | cancelListener r listener =>
    cases listener with
    | response call => exact ledger_transitionTo _
    | unsent call => rfl
    | afterRequestSent => rfl
  | _ => rfl

theorem ledger_tick {t : Tick} (ht : t.isCallback = false) :
    ({ s with ticks := s.ticks.erase t } : Connection).ledger = s.ledger := by
  have herase : (s.ticks.erase t).filter Tick.isCallback = s.ticks.filter Tick.isCallback := by
    rw [← List.erase_filter]
    exact List.erase_of_not_mem fun hmem => by simp [ht] at hmem
  rw [ledger, ledger, herase]

/-- Only a call is noted, and its callback where that had to wait. -/
theorem ledger_handle {event : Event} (hcalling : event.isCalling = false) :
    (s.handle c event).1.ledger = s.ledger := by
  cases event with
  | connect => grind [handle, Connection.connect]
  | close => exact ledger_transitionTo _
  | cancel => grind [handle, cancel, ledger_cancelRequest]
  | cancelRequest r => exact ledger_cancelRequest r
  | requestTimer =>
    show s.requestTimeout.1.ledger = s.ledger
    unfold requestTimeout
    dsimp only
    split
    · exact ledger_cancelRequest _
    · rfl
  | cancelTimer => exact ledger_dispatchEvent _
  | socketEnd => grind [handle, socketEnd, socketError]
  | socketClose => grind [handle, socketClose]
  | tick t =>
    have herased := ledger_tick (s := s) (t := t)
    cases t with
    | callback execution err => cases hcalling
    | _ => exact herased rfl
  | resume p outcome => exact ledger_resume p outcome
  | makeRequest r type => cases hcalling
  | prepare r => cases hcalling
  | reset => cases hcalling
  | _ => rfl

end

/-! ### `closed` -/

/-- `closed` stays as it is, or is set where the connection is closed. -/
def ClosesInFinal (s s' : Connection) : Prop :=
  s'.closed = s.closed ∨ s'.closed = true ∧ s'.state = .FINAL

theorem closed_closeRequest :
    s.closeRequest.1.closed = s.closed ∧ (∃ x, s.request = some x) ∨
      s.closeRequest.1.closed = true ∧ s.request = none := by
  unfold closeRequest
  split
  · next x hrequest => exact .inl ⟨rfl, x, hrequest⟩
  · next hrequest => exact .inr ⟨rfl, hrequest⟩

theorem closesInFinal_transitionTo (st : ConnectionState) (hst : st ≠ .TRANSIENT_FAILURE_RETRY) :
    ClosesInFinal s (s.transitionTo c st).1 := by
  by_cases hfinal : st = .FINAL
  · subst hfinal
    have hclosed : (s.transitionTo c .FINAL).1.closed = s.closed ∨
        (s.transitionTo c .FINAL).1.closed = true := by
      unfold transitionTo
      split
      · exact .inl rfl
      · show ((s.changeState .FINAL).cleanupConnection .NORMAL).1.closed = _ ∨
          ((s.changeState .FINAL).cleanupConnection .NORMAL).1.closed = _
        unfold cleanupConnection
        split
        · exact .inl rfl
        · exact closed_closeRequest.imp And.left And.left
    exact hclosed.imp_right fun h => ⟨h, state_transitionTo _⟩
  · refine .inl ?_
    unfold transitionTo
    split
    · rfl
    · cases st with
      | FINAL => exact absurd rfl hfinal
      | TRANSIENT_FAILURE_RETRY => exact absurd rfl hst
      | REROUTING =>
        show ((s.changeState .REROUTING).cleanupConnection .REDIRECT).1.closed = _
        unfold cleanupConnection
        split <;> rfl
      | CONNECTING =>
        show ((s.changeState .CONNECTING).initialiseConnection c).closed = _
        unfold initialiseConnection
        dsimp only
        split <;> rfl
      | _ => rfl

theorem closesInFinal_dispatchEvent (event : Dispatched) :
    ClosesInFinal s (s.dispatchEvent c event).1 := by
  unfold dispatchEvent
  split
  · next r hr =>
    cases event <;> unfold eventHandler at hr <;> dsimp only at hr <;> split at hr <;> cases hr
    all_goals
      first
      | exact .inl rfl
      | exact closesInFinal_transitionTo _ (by decide)
  · exact .inl rfl

theorem closesInFinal_exec {i : Instr} (hi : i.isCleaning = false) :
    ClosesInFinal s (exec c i s).1 := by
  cases i with
  | closeRequest => cases hi
  | finishCleanup => cases hi
  | enterFinal => exact closesInFinal_transitionTo _ (by decide)
  | enterConnecting => exact closesInFinal_transitionTo _ (by decide)
  | dispatchSocketError err => exact closesInFinal_dispatchEvent (.socketError err)
  | afterConnectTimeout =>
    exact closesInFinal_dispatchEvent (s := { s with connectTimer := false }) .connectTimeout
  | cancelListener r l =>
    cases l with
    | response call => exact closesInFinal_transitionTo .SENT_ATTENTION (by decide)
    | _ => exact .inl rfl
  | _ => exact .inl rfl

/-- A connection that is closed stays so. -/
theorem closed_exec {i : Instr} (h : s.closed = true) : (exec c i s).1.closed = true := by
  cases hi : i.isCleaning with
  | false => exact (closesInFinal_exec hi).elim (fun hsame => hsame.trans h) And.left
  | true =>
    cases i with
    | closeRequest => exact closed_closeRequest.elim (fun hc => hc.1.trans h) And.left
    | finishCleanup => rfl
    | _ => cases hi

theorem closed_updateCurrentRequest (f : Request → Request) :
    (s.updateCurrentRequest f).closed = s.closed := by
  unfold updateCurrentRequest
  split <;> rfl

theorem ClosesInFinal.of_eq {s₀ s' : Connection} (h : ClosesInFinal s₀ s')
    (hclosed : s₀.closed = s.closed) : ClosesInFinal s s' :=
  h.imp_left fun hsame => hsame.trans hclosed

theorem closesInFinal_cancelRequest (r : RequestId) : ClosesInFinal s (s.cancelRequest r).1 := by
  unfold cancelRequest
  split <;> exact .inl rfl

theorem closesInFinal_makeRequest (r : RequestId) (type : RequestType) :
    ClosesInFinal s (s.makeRequest c r type).1 := by
  unfold makeRequest
  dsimp only
  split
  · exact .inl rfl
  · split
    · exact .inl rfl
    · exact (closesInFinal_transitionTo _ (by decide)).of_eq rfl

/-- What is under way for a request goes on. -/
theorem closesInFinal_resume {p : Pending} (hp : p.isLogin = false) (outcome : Outcome) :
    ClosesInFinal s (s.resume c p outcome).1 := by
  unfold resume
  split <;> first | (cases hp; done) | exact .inl rfl | skip
  · rw [afterRequestMessage]
    dsimp only
    split
    · exact (closesInFinal_transitionTo _ (by decide)).of_eq rfl
    · exact .inl (closed_updateCurrentRequest _)
  · unfold requestToken
    split
    · split <;> exact .inl rfl
    · dsimp only
      split <;> exact .inl rfl
  · exact (closesInFinal_transitionTo .LOGGED_IN (by decide)).of_eq
      (closed_updateCurrentRequest _)
  · unfold attentionToken
    split <;> exact .inl rfl
  · unfold afterAttention
    split
    · exact (closesInFinal_transitionTo .LOGGED_IN (by decide)).of_eq rfl
    · exact .inl rfl

theorem closesInFinal_handle (hphase : RequestPhase s rest) {event : Event}
    (henabled : s.enabled event = true) : ClosesInFinal s (s.handle c event).1 := by
  cases event with
  | connect =>
    show ClosesInFinal s (s.connect c).1
    unfold Connection.connect
    split
    · exact closesInFinal_transitionTo _ (by decide)
    · exact .inl rfl
  | close => exact closesInFinal_transitionTo _ (by decide)
  | cancel =>
    show ClosesInFinal s s.cancel.1
    unfold Connection.cancel
    split
    · exact closesInFinal_cancelRequest _
    · exact .inl rfl
  | cancelRequest r => exact closesInFinal_cancelRequest r
  | makeRequest r type => exact closesInFinal_makeRequest r type
  | prepare r => exact (closesInFinal_makeRequest r _).of_eq rfl
  | reset => exact (closesInFinal_makeRequest _ _).of_eq rfl
  | requestTimer =>
    show ClosesInFinal s s.requestTimeout.1
    unfold requestTimeout
    dsimp only
    split
    · exact (closesInFinal_cancelRequest _).of_eq rfl
    · exact .inl rfl
  | cancelTimer =>
    exact (closesInFinal_dispatchEvent (s := { s with cancelTimerArmed := false }) _).of_eq rfl
  | socketEnd =>
    show ClosesInFinal s (s.socketEnd c).1
    unfold socketEnd
    split <;> exact .inl rfl
  | socketClose =>
    show ClosesInFinal s (s.socketClose c).1
    unfold socketClose
    split
    · exact closesInFinal_dispatchEvent _
    · split
      · exact closesInFinal_dispatchEvent _
      · exact closesInFinal_transitionTo _ (by decide)
  | tick t => cases t <;> exact .inl rfl
  | resume p outcome =>
    have hp : p ∈ s.pending := of_decide_eq_true ((Bool.and_eq_true _ _).mp henabled).1
    exact (closesInFinal_resume (hphase.pending p hp) outcome).of_eq rfl
  | _ => exact .inl rfl

theorem closed_handle (h : s.closed = true) (hphase : RequestPhase s rest) {event : Event}
    (henabled : s.enabled event = true) : (s.handle c event).1.closed = true :=
  (closesInFinal_handle hphase henabled).elim (fun hsame => hsame.trans h) And.left

/-! ### A connection that is open -/

/-- What a step means for the request of a connection that is open. -/
inductive Proceeds (s : Connection) (r : Connection × List Instr) : Prop
  | goesOn (hrequest : r.1.request = s.request) (his : ∀ i ∈ r.2, i.isAnswer = false)
      (hfinal : r.1.state = .FINAL → s.request = none ∧ r.1.closed = true)
  /-- The request is forgotten, and answered. -/
  | answered (x : Execution) (err : Option Err) (hcurrent : s.request = some x)
      (hrequest : r.1.request = none) (his : r.2 = [.answer x err])
      (hfinal : r.1.state = .FINAL → r.1.closed = true)
  /-- The request is answered, and forgotten after that. -/
  | closing (x : Execution) (err : Option Err) (hcurrent : s.request = some x)
      (hrequest : r.1.request = some x) (hstate : r.1.state = .FINAL)
      (hclosed : r.1.closed = false) (his : r.2 = [.answer x err, .finishCleanup])

namespace Proceeds

/-- It does not matter what else has changed before. -/
theorem of_eq {s₀ : Connection} {r : Connection × List Instr} (h : Proceeds s₀ r)
    (hrequest : s₀.request = s.request) : Proceeds s r := by
  cases h with
  | goesOn hr his hfinal => exact .goesOn (hr.trans hrequest) his (hrequest ▸ hfinal)
  | answered x err hcurrent hr his hfinal =>
    exact .answered x err (hrequest ▸ hcurrent) hr his hfinal
  | closing x err hcurrent hr hstate hclosed his =>
    exact .closing x err (hrequest ▸ hcurrent) hr hstate hclosed his

/-- The connection stays open. -/
theorem stays {s' : Connection} {is : List Instr} (hopen : s.state ≠ .FINAL)
    (hstate : s'.state = s.state) (hrequest : s'.request = s.request)
    (his : ∀ i ∈ is, i.isAnswer = false) : Proceeds s (s', is) :=
  .goesOn hrequest his fun hfinal => absurd (hstate.symm.trans hfinal) hopen

/-- The states after the login are entered without cleaning up. -/
theorem enters {s₀ : Connection} {st : ConnectionState} (hst : st.isLoggedIn = true)
    (hrequest : s₀.request = s.request) : Proceeds s (s₀.transitionTo c st) := by
  refine .goesOn ((request_transitionTo st).trans hrequest) ?_ fun hfinal => ?_
  · rw [transitionTo_loggedIn hst]
    simp
  · rw [state_transitionTo] at hfinal
    rw [hfinal] at hst
    cases hst

/-- A connection that is open is closed. -/
theorem final (hopen : s.state ≠ .FINAL) (hclosed : s.closed = false) :
    Proceeds s (s.transitionTo c .FINAL) := by
  have hentered : s.transitionTo c .FINAL =
      ((s.changeState .FINAL).closeConnection.nextTick .emitEnd).closeRequest := by
    rw [transitionTo, if_neg hopen]
    show (s.changeState .FINAL).cleanupConnection .NORMAL = _
    unfold cleanupConnection
    rw [if_neg (by simp [changeState, hclosed])]
  rw [hentered]
  unfold closeRequest
  split
  · next x hrequest => exact .closing x _ hrequest hrequest rfl hclosed rfl
  · next hrequest =>
    have hnone : s.request = none := hrequest
    exact .goesOn hnone.symm (by simp) fun _ => ⟨hnone, rfl⟩

theorem failRequest (hopen : s.state ≠ .FINAL) (hclosed : s.closed = false) (err : Err) :
    Proceeds s (s.failRequest c err) := by
  have hfinal : Proceeds { s with request := none }
      ({ s with request := none }.transitionTo c .FINAL) := final hopen hclosed
  have hstack := stack_transitionTo_final (c := c) (s := { s with request := none }) rfl
  unfold Connection.failRequest
  dsimp only
  rw [hstack, List.nil_append]
  cases hfinal with
  | goesOn hrequest _ hclosed =>
    cases hcurrent : s.request with
    | some x => exact .answered x _ hcurrent hrequest rfl fun hfinal => (hclosed hfinal).2
    | none =>
      exact .goesOn (hrequest.trans hcurrent.symm) (by simp [answerOrThrow, Instr.isAnswer])
        fun hfinal => ⟨hcurrent, (hclosed hfinal).2⟩
  | answered x _ hcurrent => cases hcurrent
  | closing x _ hcurrent => cases hcurrent

theorem dispatchEvent (hphase : RequestPhase s rest) (hopen : s.state ≠ .FINAL)
    (hclosed : s.closed = false) (err : Err) :
    Proceeds s (s.dispatchEvent c (.socketError err)) := by
  rcases hphase.state with hstate | hstate | hstate | hstate
  · simpa [Connection.dispatchEvent, eventHandler, hstate] using final hopen hclosed
  · simpa [Connection.dispatchEvent, eventHandler, hstate] using failRequest hopen hclosed err
  · simpa [Connection.dispatchEvent, eventHandler, hstate] using failRequest hopen hclosed err
  · exact absurd hstate hopen

end Proceeds

theorem proceeds_exec {i : Instr} (h : Serving s (i :: rest))
    (hphase : RequestPhase s (i :: rest)) (hopen : s.state ≠ .FINAL) (hclosed : s.closed = false) :
    Proceeds s (exec c i s) := by
  have hloggedIn := hphase.isLoggedIn hopen
  cases i with
  | enterFinal => exact .final hopen hclosed
  | enterConnecting => exact absurd (List.mem_cons_self ..) hphase.notConnecting
  | dispatchSocketError err => exact .dispatchEvent hphase hopen hclosed err
  | afterConnectTimeout =>
    have hdispatched := dispatchEvent_connectTimeout (c := c)
      (s := { s with connectTimer := false }) hloggedIn
    show Proceeds s (dispatchEvent c { s with connectTimer := false } .connectTimeout)
    rw [hdispatched]
    exact .stays hopen rfl rfl (by simp [Instr.isAnswer])
  | closeRequest => cases h.cleaning hloggedIn _ (List.mem_cons_self ..)
  | finishCleanup => cases h.cleaning hloggedIn _ (List.mem_cons_self ..)
  | cancelListener r l =>
    cases l with
    | response call => exact .enters rfl rfl
    | _ => exact .stays hopen rfl rfl (by simp)
  | _ => exact .stays hopen rfl rfl (by simp [Instr.isAnswer])

theorem request_cancelRequest (r : RequestId) : (s.cancelRequest r).1.request = s.request := by
  unfold cancelRequest
  split <;> rfl

theorem unanswered_cancelRequest (r : RequestId) :
    ∀ i ∈ (s.cancelRequest r).2, i.isAnswer = false := by
  intro i hi
  rcases mem_cancelRequest hi with rfl | ⟨-, l, -, rfl⟩ <;> rfl

theorem proceeds_cancelRequest (hopen : s.state ≠ .FINAL) (r : RequestId) :
    Proceeds s (s.cancelRequest r) :=
  .stays hopen (state_cancelRequest r) (request_cancelRequest r) (unanswered_cancelRequest r)

/-- What is under way for a request goes on, or is at its end. -/
theorem proceeds_resume (hopen : s.state ≠ .FINAL) {p : Pending} (hp : p.isLogin = false)
    (outcome : Outcome) : Proceeds s (s.resume c p outcome) := by
  -- what ends here drops the request and answers it, if there is one
  have hanswered : ∀ {s' : Connection} (err : Option Err), s'.request = none →
      s'.state = .LOGGED_IN → Proceeds s (s', answerOrThrow s.request err) := by
    intro s' err hnone hstate
    have hlive : s'.state ≠ .FINAL := by simp [hstate]
    cases hcurrent : s.request with
    | some x => exact .answered x err hcurrent hnone rfl fun hfinal => absurd hfinal hlive
    | none =>
      exact .goesOn (hnone.trans hcurrent.symm) (by simp [answerOrThrow, Instr.isAnswer])
        fun hfinal => absurd hfinal hlive
  unfold resume
  split <;> first | (cases hp; done) | skip
  · next call =>
    rw [afterRequestMessage]
    dsimp only
    split
    · exact .enters rfl rfl
    · refine .stays hopen (state_updateCurrentRequest _) ?_ (by simp)
      exact (updateCurrentRequest_same _).2.2
  · next call request errors answers token =>
    obtain ⟨hstate, hrequest, -⟩ := requestToken_same (c := c)
      (s := s.await (.requestTokens call request errors answers)) call request errors token
    exact .stays hopen hstate hrequest fun i hi =>
      Instr.isAnswer_of_isIdle (Instr.isIdle_of_isReport (isReport_requestToken i hi))
  · next call _ _ _ =>
    have hended : Proceeds s
        ((s.onEndOfMessage c call).1, answerOrThrow s.request s.requestError) :=
      hanswered _ rfl (state_transitionTo .LOGGED_IN)
    rwa [← stack_onEndOfMessage (c := c) call] at hended
  · exact .stays hopen rfl rfl (by simp)
  · unfold attentionToken
    split
    · exact .stays hopen rfl rfl (by simp)
    · exact .stays hopen rfl rfl (by simp [Instr.isAnswer])
  · next attentionReceived _ =>
    rw [afterAttention]
    split
    · dsimp only
      rw [transitionTo_loggedIn rfl, List.nil_append]
      exact hanswered _ (request_transitionTo _) (state_transitionTo _)
    · exact .stays hopen rfl rfl (by simp)
  all_goals exact .stays hopen rfl rfl (by simp [Instr.isAnswer])

theorem proceeds_handle (hphase : RequestPhase s rest) (hopen : s.state ≠ .FINAL)
    (hclosed : s.closed = false) {event : Event} (henabled : s.enabled event = true)
    (hcalling : event.isCalling = false) : Proceeds s (s.handle c event) := by
  have hloggedIn := hphase.isLoggedIn hopen
  have hnot : ∀ {st : ConnectionState}, st.isLoggedIn = false → s.state ≠ st := by
    rintro st hst rfl
    rw [hloggedIn] at hst
    cases hst
  cases event with
  | connect =>
    show Proceeds s (s.connect c)
    unfold Connection.connect
    rw [if_neg (hnot rfl)]
    exact .stays hopen rfl rfl (by simp)
  | close => exact .final hopen hclosed
  | cancel =>
    show Proceeds s s.cancel
    unfold Connection.cancel
    split
    · exact proceeds_cancelRequest hopen _
    · exact .stays hopen rfl rfl (by simp)
  | cancelRequest r => exact proceeds_cancelRequest hopen r
  | requestTimer =>
    show Proceeds s s.requestTimeout
    unfold requestTimeout
    dsimp only
    split
    · refine .stays hopen (state_cancelRequest _) (request_cancelRequest _) ?_
      exact List.forall_mem_append.2 ⟨unanswered_cancelRequest _, by simp [Instr.isAnswer]⟩
    · exact .stays hopen rfl rfl (by simp [Instr.isAnswer])
  | cancelTimer =>
    have hphase' : RequestPhase { s with cancelTimerArmed := false } rest := { hphase with }
    exact (Proceeds.dispatchEvent hphase' hopen hclosed _).of_eq rfl
  | socketEnd =>
    show Proceeds s (s.socketEnd c)
    unfold socketEnd
    rw [if_neg hopen]
    exact .stays hopen rfl rfl (by simp [Instr.isAnswer])
  | socketClose =>
    show Proceeds s (s.socketClose c)
    unfold socketClose
    rw [if_neg (hnot rfl), if_neg (hnot rfl)]
    exact .final hopen hclosed
  | tick t =>
    cases t with
    | callback execution err => cases hcalling
    | _ => exact .stays hopen rfl rfl (by simp [Instr.isAnswer])
  | resume p outcome =>
    have hp : p ∈ s.pending := of_decide_eq_true ((Bool.and_eq_true _ _).mp henabled).1
    exact (proceeds_resume (s := { s with pending := s.pending.erase p }) hopen
      (hphase.pending p hp) outcome).of_eq rfl
  | makeRequest r type => cases hcalling
  | prepare r => cases hcalling
  | reset => cases hcalling
  | _ => exact .stays hopen rfl rfl (by simp [Instr.isAnswer])

/-! ### Every execution -/

theorem timesAnswered_eq (x : Execution) :
    s.timesAnswered x = (s.trace.filter Trace.isCalling).countP (Trace.answers x) := by
  rw [timesAnswered, List.countP_filter]
  congr 1
  funext t
  cases t <;> simp [Trace.answers, Trace.isCalling]

theorem callbacks_eq (x : Execution) :
    s.ticks.countP (Tick.answers x) = (s.ticks.filter Tick.isCallback).countP (Tick.answers x) := by
  rw [List.countP_filter]
  congr 1
  funext t
  cases t <;> simp [Tick.answers, Tick.isCallback]

theorem settled_append (is : List Instr) (x : Execution) :
    s.settled (is ++ rest) x = s.settled rest x + is.countP (Instr.answers x) := by
  simp only [settled, List.countP_append]
  omega

theorem settled_cons {i : Instr} (hi : i.isAnswer = false) (x : Execution) :
    s.settled (i :: rest) x = s.settled rest x := by
  have hnone : i.answers x = false := by cases i <;> first | rfl | cases hi
  simp [settled, hnone]

theorem settled_ledger {s' : Connection} (h : s'.ledger = s.ledger) (stack : List Instr)
    (x : Execution) : s'.settled stack x = s.settled stack x := by
  obtain ⟨-, h⟩ := Prod.mk.inj h
  obtain ⟨htrace, hticks⟩ := Prod.mk.inj h
  rw [settled, settled, timesAnswered_eq, timesAnswered_eq, callbacks_eq, callbacks_eq, htrace,
    hticks]

theorem countP_answers {is : List Instr} (his : ∀ i ∈ is, i.isAnswer = false) (x : Execution) :
    is.countP (Instr.answers x) = 0 := by
  refine List.countP_eq_zero.2 fun i hi => ?_
  have hi' := his i hi
  cases i <;> first | (cases hi'; done) | simp [Instr.answers]

theorem called_ledger {s' : Connection} (h : s'.ledger = s.ledger) (x : Execution) :
    .called x ∈ s'.trace ↔ .called x ∈ s.trace := by
  obtain ⟨-, h⟩ := Prod.mk.inj h
  have hmem : .called x ∈ s'.trace.filter Trace.isCalling ↔
      .called x ∈ s.trace.filter Trace.isCalling := by rw [(Prod.mk.inj h).1]
  simpa [Trace.isCalling] using hmem

/-- Each execution is answered at most once, and none is dropped without an answer. -/
structure Accounted (s : Connection) (stack : List Instr) : Prop where
  fresh : ∀ x, s.calls ≤ x.call → s.settled stack x = 0
  current : ∀ x, s.request = some x → x.call < s.calls ∧
    s.settled stack x = if s.state = .FINAL then 1 else 0
  called : ∀ x, .called x ∈ s.trace → s.settled stack x = 1 ∨ s.request = some x
  once : ∀ x, s.settled stack x ≤ 1

namespace Accounted

/-- Nobody is answered, and the request is kept, or there is none. -/
theorem same {s' : Connection} {stack stack' : List Instr} (h : Accounted s stack)
    (hcalls : s'.calls = s.calls) (hcalled : ∀ x, .called x ∈ s'.trace ↔ .called x ∈ s.trace)
    (hsettled : ∀ x, s'.settled stack' x = s.settled stack x) (hrequest : s'.request = s.request)
    (hstate : ∀ x, s.request = some x → (s'.state = .FINAL ↔ s.state = .FINAL)) :
    Accounted s' stack' where
  fresh := fun x hx => (hsettled x).trans (h.fresh x (hcalls ▸ hx))
  current := fun x hx => by
    rw [hrequest] at hx
    simp only [hsettled, hcalls, hstate x hx]
    exact h.current x hx
  called := fun x hx => by
    rw [hsettled, hrequest]
    exact h.called x ((hcalled x).1 hx)
  once := fun x => (hsettled x).trans_le (h.once x)

theorem pop {i : Instr} (h : Accounted s (i :: rest)) (hi : i.isAnswer = false) :
    Accounted s rest :=
  h.same rfl (fun _ => .rfl) (fun x => (settled_cons hi x).symm) rfl fun _ _ => .rfl

/-- Instructions that answer nobody are put on the stack. -/
theorem push {s' : Connection} {is : List Instr} (h : Accounted s rest)
    (hledger : s'.ledger = s.ledger) (hrequest : s'.request = s.request)
    (his : ∀ i ∈ is, i.isAnswer = false)
    (hstate : ∀ x, s.request = some x → (s'.state = .FINAL ↔ s.state = .FINAL)) :
    Accounted s' (is ++ rest) := by
  refine h.same (Prod.mk.inj hledger).1 (called_ledger hledger) (fun x => ?_) hrequest hstate
  rw [settled_append, countP_answers his, settled_ledger hledger]
  rfl

/-- The current request is answered, and dropped or to be dropped. -/
theorem answered {s' : Connection} {is : List Instr} {x : Execution} {err : Option Err}
    (h : Accounted s rest) (hopen : s.state ≠ .FINAL) (hcurrent : s.request = some x)
    (hledger : s'.ledger = s.ledger) (his : ∀ i ∈ is, i.isAnswer = false)
    (hrequest : s'.request = none ∨ s'.request = some x ∧ s'.state = .FINAL) :
    Accounted s' (.answer x err :: is ++ rest) := by
  have hsettled : ∀ y, s'.settled (.answer x err :: is ++ rest) y =
      s.settled rest y + if x = y then 1 else 0 := by
    intro y
    rw [settled_append, settled_ledger hledger, List.countP_cons, countP_answers his]
    simp [Instr.answers]
  -- a current request has not been answered before `FINAL`
  obtain ⟨hold, hnone⟩ := h.current x hcurrent
  rw [if_neg hopen] at hnone
  have hcalls : s'.calls = s.calls := (Prod.mk.inj hledger).1
  have hx : s'.settled (.answer x err :: is ++ rest) x = 1 := by
    rw [hsettled, hnone, if_pos rfl]
  constructor
  · intro y hy
    have hne : x ≠ y := by
      rintro rfl
      omega
    rw [hsettled, if_neg hne]
    exact h.fresh y (hcalls ▸ hy)
  · intro y hy
    obtain hnot | ⟨hkept, hfinal⟩ := hrequest
    · rw [hnot] at hy
      cases hy
    · obtain rfl : x = y := Option.some.inj (hkept.symm.trans hy)
      rw [if_pos hfinal]
      exact ⟨hcalls ▸ hold, hx⟩
  · intro y hy
    refine .inl ?_
    by_cases hne : x = y
    · subst hne
      exact hx
    · rw [hsettled, if_neg hne]
      refine (h.called y ((called_ledger hledger y).1 hy)).resolve_right fun hy' => ?_
      exact hne (Option.some.inj (hcurrent.symm.trans hy'))
  · intro y
    by_cases hne : x = y
    · subst hne
      exact hx.le
    · rw [hsettled, if_neg hne]
      exact h.once y

/-- A step of a connection that is open. -/
theorem proceeds {r : Connection × List Instr} (h : Accounted s rest) (hopen : s.state ≠ .FINAL)
    (hledger : r.1.ledger = s.ledger) (hr : Proceeds s r) : Accounted r.1 (r.2 ++ rest) := by
  cases hr with
  | goesOn hrequest his hfinal =>
    refine h.push hledger hrequest his fun x hx => ⟨fun hf => ?_, fun hf => absurd hf hopen⟩
    rw [(hfinal hf).1] at hx
    cases hx
  | answered x err hcurrent hrequest his =>
    rw [his]
    exact h.answered hopen hcurrent hledger (by simp) (.inl hrequest)
  | closing x err hcurrent hrequest hstate _ his =>
    rw [his]
    exact h.answered hopen hcurrent hledger (by simp [Instr.isAnswer]) (.inr ⟨hrequest, hstate⟩)

/-- The callback of a request is called. -/
theorem callback {x : Execution} {err : Option Err} (h : Accounted s (.answer x err :: rest)) :
    Accounted (exec c (.answer x err) s).1 (.callback :: rest) := by
  refine h.same rfl (fun y => by simp [exec, record, updateRequest]) (fun y => ?_) rfl
    fun _ _ => .rfl
  simp [settled, timesAnswered, exec, record, updateRequest, List.countP_cons, Trace.answers,
    Instr.answers]
  omega

/-- A call that is answered by itself, or from the next tick. -/
theorem refused {s' : Connection} {stack' : List Instr} {x : Execution} (h : Accounted s rest)
    (hx : x.call = s.calls) (hcalls : s'.calls = s.calls + 1)
    (hcalled : ∀ y, .called y ∈ s'.trace → y = x ∨ .called y ∈ s.trace)
    (hsettled : ∀ y, s'.settled stack' y = s.settled rest y + if x = y then 1 else 0)
    (hrequest : s'.request = s.request) (hstate : s'.state = s.state) : Accounted s' stack' := by
  -- a call that is new has not been answered yet
  have hone : s'.settled stack' x = 1 := by rw [hsettled, h.fresh x hx.ge, if_pos rfl]
  have hold : ∀ {y}, x ≠ y → s'.settled stack' y = s.settled rest y := by
    intro y hne
    rw [hsettled, if_neg hne]
    rfl
  constructor
  · intro y hy
    have hne : x ≠ y := by
      rintro rfl
      omega
    exact (hold hne).trans (h.fresh y (by omega))
  · intro y hy
    obtain ⟨hlt, hcount⟩ := h.current y (hrequest ▸ hy)
    have hne : x ≠ y := by
      rintro rfl
      omega
    rw [hold hne, hstate]
    exact ⟨by omega, hcount⟩
  · intro y hy
    by_cases hne : x = y
    · subst hne
      exact .inl hone
    · rw [hold hne, hrequest]
      exact h.called y ((hcalled y hy).resolve_left fun heq => hne heq.symm)
  · intro y
    by_cases hne : x = y
    · subst hne
      exact hone.le
    · rw [hold hne]
      exact h.once y

/-- A call that is admitted. -/
theorem admitted {s' : Connection} {stack' : List Instr} {x : Execution} (h : Accounted s rest)
    (hx : x.call = s.calls) (hcalls : s'.calls = s.calls + 1)
    (hcalled : ∀ y, .called y ∈ s'.trace → y = x ∨ .called y ∈ s.trace)
    (hsettled : ∀ y, s'.settled stack' y = s.settled rest y) (hidle : s.request = none)
    (hrequest : s'.request = some x) (hopen : s'.state ≠ .FINAL) : Accounted s' stack' := by
  constructor
  · intro y hy
    exact (hsettled y).trans (h.fresh y (by omega))
  · intro y hy
    obtain rfl : x = y := Option.some.inj (hrequest.symm.trans hy)
    rw [hsettled, if_neg hopen]
    exact ⟨by omega, h.fresh x hx.ge⟩
  · intro y hy
    rw [hsettled]
    rcases hcalled y hy with rfl | hy
    · exact .inr hrequest
    · refine .inl ((h.called y hy).resolve_right fun hy' => ?_)
      cases hidle.symm.trans hy'
  · intro y
    exact (hsettled y).trans_le (h.once y)

theorem makeRequest (h : Accounted s rest) (hidle : s.state = .LOGGED_IN → s.request = none)
    (r : RequestId) (type : RequestType) :
    Accounted (s.makeRequest c r type).1 ((s.makeRequest c r type).2 ++ rest) := by
  have hcalled : ∀ {x y : Execution}, .called y ∈ Trace.called x :: s.trace →
      y = x ∨ .called y ∈ s.trace := by
    intro x y hy
    simpa using hy
  unfold Connection.makeRequest
  dsimp only
  split
  · refine h.refused rfl rfl (fun y => hcalled) (fun y => ?_) rfl rfl
    simp [settled, timesAnswered, countCall, record, List.countP_cons, Trace.answers, Instr.answers]
    omega
  · next hstate =>
    have hlogged : s.state = .LOGGED_IN := Decidable.not_not.1 hstate
    split
    · refine h.refused (x := { call := s.calls, request := r }) rfl rfl (fun y => hcalled)
        (fun y => ?_) rfl rfl
      simp [settled, timesAnswered, countCall, record, nextTick, List.countP_append, Trace.answers,
        Tick.answers]
      omega
    · generalize hx : ({ call := s.calls, request := r } : Execution) = x
      obtain ⟨requests, requestTimer, messages, hwritten⟩ :=
        writeRequest_eq c (s.countCall x) x type
      have hledger : ((s.countCall x).writeRequest c x type).ledger = (s.countCall x).ledger := by
        rw [hwritten]
        rfl
      have hentered := (ledger_transitionTo (c := c)
        (s := (s.countCall x).writeRequest c x type) .SENT_CLIENT_REQUEST).trans hledger
      rw [transitionTo_loggedIn rfl, List.nil_append]
      refine h.admitted (x := x) (by rw [← hx]) (Prod.mk.inj hentered).1
        (fun y hy => hcalled ((called_ledger hentered y).1 hy)) (fun y => ?_) (hidle hlogged) ?_ ?_
      · rw [settled_ledger hentered]
        simp [settled, timesAnswered, countCall, record, Trace.answers]
      · rw [request_transitionTo, hwritten]
      · rw [state_transitionTo]
        decide

/-- A call that was to be answered from the next tick is. -/
theorem tick {x : Execution} {err : Err} (h : Accounted s []) (ht : .callback x err ∈ s.ticks) :
    Accounted (s.handle c (.tick (.callback x err))).1
      (s.handle c (.tick (.callback x err))).2 := by
  -- the answer moves from the ticks to the stack
  have herase : ∀ y, (s.ticks.erase (.callback x err)).countP (Tick.answers y) +
      (if x = y then 1 else 0) = s.ticks.countP (Tick.answers y) := by
    intro y
    rw [(List.perm_cons_erase ht).countP_eq, List.countP_cons]
    simp [Tick.answers]
  refine h.same rfl (fun _ => .rfl) (fun y => ?_) rfl fun _ _ => .rfl
  simp only [settled, timesAnswered, handle, onTick, ← herase y, List.countP_cons, List.countP_nil,
    Instr.answers, decide_eq_true_eq]
  omega

end Accounted

/-! ### The course of a connection -/

/-- What a connection is up to: it logs in, it is open, `cleanupConnection` runs the callback
of its request, or it has been closed. What has been closed may be in any state. -/
inductive Course (s : Connection) (stack : List Instr) : Prop
  | login (h : LoginPhase s stack) (hout : s.state.isLoggedIn = false)
  | serving (hphase : RequestPhase s stack) (hopen : s.state ≠ .FINAL)
      (hclosed : s.closed = false) (h : Serving s stack)
  | closing (hphase : RequestPhase s stack) (x : Execution) (hrequest : s.request = some x)
      (hstate : s.state = .FINAL) (hclosed : s.closed = false) (above below : List Instr)
      (hstack : stack = above ++ .finishCleanup :: below)
      (habove : ∀ i ∈ above, i.isInterlude = true)
  | closed (hphase : RequestPhase s stack) (hclosed : s.closed = true)
      (hrequest : s.request = none)

/-- An open connection stays open, is being closed, or has been closed. -/
theorem Course.of_proceeds {r : Connection × List Instr}
    (hphase : RequestPhase r.1 (r.2 ++ rest)) (hserving : Serving r.1 (r.2 ++ rest))
    (hclosed : s.closed = false) (hcloses : ClosesInFinal s r.1) (hr : Proceeds s r) :
    Course r.1 (r.2 ++ rest) := by
  by_cases hfinal : r.1.state = .FINAL
  · cases hr with
    | goesOn hrequest _ hdone =>
      obtain ⟨hnone, hset⟩ := hdone hfinal
      exact .closed hphase hset (hrequest.trans hnone)
    | answered x err _ hrequest _ hdone => exact .closed hphase (hdone hfinal) hrequest
    | closing x err _ hrequest hstate hunset his =>
      refine .closing hphase x hrequest hstate hunset [.answer x err] rest ?_ ?_
      · rw [his]
        rfl
      · simp [Instr.isInterlude]
  · refine .serving hphase hfinal ?_ hserving
    exact (hcloses.resolve_right fun h => hfinal h.2).trans hclosed

/-- The login is over, or goes on. -/
theorem Course.of_login (h : LoginPhase s rest) (hclean : Clean (s, rest)) : Course s rest := by
  cases hin : s.state.isLoggedIn with
  | false => exact .login h hin
  | true =>
    have hphase := h.toRequestPhase hin
    cases hclosed : s.closed with
    | true => exact .closed hphase hclosed h.request
    | false =>
      refine .serving hphase (fun hfinal => ?_) hclosed (.of_login h hclean)
      rw [hfinal] at hin
      cases hin

/-- Where there is no request nobody is answered. -/
theorem Accounts.unrequested {errs : List (Option Err)} {r : Connection × List Instr}
    (h : Accounts errs s r) (hnone : s.request = none) :
    r.1.request = none ∧ ∀ i ∈ r.2, i.isAnswer = false := by
  refine ⟨h.request.elim (fun hsame => hsame.trans hnone) id, fun i hi => ?_⟩
  cases i with
  | answer execution err =>
    cases hnone.symm.trans (h.answers execution err hi).1
  | _ => rfl

theorem Accounted.unrequested {errs : List (Option Err)} {r : Connection × List Instr}
    (h : Accounted s rest) (hnone : s.request = none) (hledger : r.1.ledger = s.ledger)
    (haccounts : Accounts errs s r) : Accounted r.1 (r.2 ++ rest) := by
  obtain ⟨hrequest, his⟩ := haccounts.unrequested hnone
  refine h.push hledger (hrequest.trans hnone.symm) his fun x hx => ?_
  cases hnone.symm.trans hx

/-- What a callback of `cleanupConnection` has done, instruction by instruction. -/
theorem exec_interlude {i : Instr} (hi : i.isInterlude = true) :
    (exec c i s).1.state = s.state ∧ (exec c i s).1.request = s.request ∧
      (exec c i s).1.closed = s.closed ∧ ∀ j ∈ (exec c i s).2, j = .callback := by
  cases i with
  | cancelListener r l =>
    cases l <;> first | (cases hi; done) | exact ⟨rfl, rfl, rfl, by simp [exec, onCancel]⟩
  | _ => first | (cases hi; done) | exact ⟨rfl, rfl, rfl, by simp [exec]⟩

theorem course_exec {i : Instr} (h : Course s (i :: rest)) (ha : Accounted s (i :: rest)) :
    Course (exec c i s).1 ((exec c i s).2 ++ rest) ∧
      Accounted (exec c i s).1 ((exec c i s).2 ++ rest) := by
  have hidle : s.request = none → Accounted (exec c i s).1 ((exec c i s).2 ++ rest) := by
    intro hnone
    cases hi : i.isAnswer with
    | false => exact (ha.pop hi).unrequested hnone (ledger_exec hi) (accounts_exec i)
    | true =>
      cases i with
      | answer x err => exact ha.callback
      | _ => cases hi
  cases h with
  | login hlogin hout =>
    exact ⟨.login hlogin.exec (exec_outside hlogin hout), hidle hlogin.request⟩
  | serving hphase hopen hclosed h =>
    have hproceeds := proceeds_exec (c := c) h hphase hopen hclosed
    have hcleaning := h.cleaning (hphase.isLoggedIn hopen) i (List.mem_cons_self ..)
    refine ⟨.of_proceeds hphase.exec (h.execRequest hphase hopen) hclosed
      (closesInFinal_exec hcleaning) hproceeds, ?_⟩
    cases hi : i.isAnswer with
    | false => exact (ha.pop hi).proceeds hopen (ledger_exec hi) hproceeds
    | true =>
      cases i with
      | answer x err => exact ha.callback
      | _ => cases hi
  | closing hphase x hrequest hstate hclosed above below hstack habove =>
    -- `finishCleanup` is next, or something that the callback has left to do
    cases above with
    | nil =>
      obtain ⟨rfl, rfl⟩ := List.cons.inj hstack
      refine ⟨.closed hphase.exec rfl rfl, ?_⟩
      have hnone := ha.pop rfl
      constructor
      · exact hnone.fresh
      · intro y hy
        cases hy
      · intro y hy
        refine .inl ((hnone.called y hy).elim id fun hy' => ?_)
        exact (hnone.current y hy').2.trans (if_pos hstate)
      · exact hnone.once
    | cons j above =>
      obtain ⟨rfl, rfl⟩ := List.cons.inj hstack
      obtain ⟨hi, habove⟩ := List.forall_mem_cons.1 habove
      obtain ⟨hstate', hrequest', hclosed', his⟩ := exec_interlude (c := c) (s := s) hi
      refine ⟨.closing hphase.exec x (hrequest'.trans hrequest) (hstate'.trans hstate)
        (hclosed'.trans hclosed) ((exec c i s).2 ++ above) below (List.append_assoc ..).symm
        (List.forall_mem_append.2 ⟨fun j hj => ?_, habove⟩), ?_⟩
      · rw [his j hj]
        rfl
      · cases hanswer : i.isAnswer with
        | false =>
          refine (ha.pop hanswer).push (ledger_exec hanswer) hrequest' (fun j hj => ?_)
            fun _ _ => by rw [hstate']
          rw [his j hj]
          rfl
        | true =>
          cases i with
          | answer y err => exact ha.callback
          | _ => cases hanswer
  | closed hphase hclosed hrequest =>
    have hnone := ((accounts_exec (c := c) (s := s) i).unrequested hrequest).1
    exact ⟨.closed hphase.exec (closed_exec hclosed) hnone, hidle hrequest⟩

/-- A request that is not admitted leaves the connection as it is. -/
theorem makeRequest_refused (r : RequestId) (type : RequestType)
    (h : (decide (s.state = .LOGGED_IN) && !(s.requests r).canceled) = false) :
    (s.makeRequest c r type).1.request = s.request ∧
      (s.makeRequest c r type).1.state = s.state ∧
        (s.makeRequest c r type).1.closed = s.closed := by
  unfold makeRequest
  dsimp only
  split
  · exact ⟨rfl, rfl, rfl⟩
  · next hstate =>
    split
    · exact ⟨rfl, rfl, rfl⟩
    · next hcanceled => simp_all

theorem accounted_calling {event : Event} (ha : Accounted s rest)
    (hidle : s.state = .LOGGED_IN → s.request = none) (henabled : s.enabled event = true)
    (hrest : event.isCall = true ∨ rest = []) (hcalling : event.isCalling = true) :
    Accounted (s.handle c event).1 ((s.handle c event).2 ++ rest) := by
  cases event with
  | makeRequest r type => exact ha.makeRequest hidle r type
  | prepare r =>
    have hprepared : Accounted (s.updateRequest r fun request =>
        { request with preparing := true, prepared := request.prepared + 1 }) rest := { ha with }
    exact hprepared.makeRequest hidle r _
  | reset =>
    have hflagged : Accounted { s with
        resetConnectionOnNextRequest := true, trace := .resetCalled :: s.trace } ([] ++ rest) :=
      ha.push rfl rfl (by simp) fun _ _ => .rfl
    exact hflagged.makeRequest hidle _ _
  | tick t =>
    obtain rfl : rest = [] := hrest.resolve_left (by simp [Event.isCall])
    cases t with
    | callback x err =>
      rw [List.append_nil]
      exact ha.tick (of_decide_eq_true henabled)
    | _ => cases hcalling
  | _ => cases hcalling

/-- The calls of the user that can happen while a callback of `cleanupConnection` runs. -/
theorem handle_closing {event : Event} (hstate : s.state = .FINAL) (hcall : event.isCall = true)
    (hattends : s.attends event = false) :
    (s.handle c event).1.state = .FINAL ∧ (s.handle c event).1.request = s.request ∧
      (s.handle c event).1.closed = s.closed ∧
        ∀ i ∈ (s.handle c event).2, i.isInterlude = true := by
  have hcancel : ∀ {r : RequestId}, s.responseListened r = false →
      (s.cancelRequest r).1.state = .FINAL ∧ (s.cancelRequest r).1.request = s.request ∧
        (s.cancelRequest r).1.closed = s.closed ∧
          ∀ i ∈ (s.cancelRequest r).2, i.isInterlude = true := by
    intro r hr
    refine ⟨(state_cancelRequest r).trans hstate, request_cancelRequest r, ?_, fun i hi => ?_⟩
    · unfold cancelRequest
      split <;> rfl
    · have hleaves := leaves_cancelRequest hr i hi
      rcases mem_cancelRequest hi with rfl | ⟨-, l, -, rfl⟩
      · rfl
      · cases l <;> first | rfl | cases hleaves
  have hmake : ∀ {s' : Connection} (r : RequestId) (type : RequestType), s'.state = .FINAL →
      s'.request = s.request → s'.closed = s.closed →
        (s'.makeRequest c r type).1.state = .FINAL ∧
          (s'.makeRequest c r type).1.request = s.request ∧
            (s'.makeRequest c r type).1.closed = s.closed ∧
              ∀ i ∈ (s'.makeRequest c r type).2, i.isInterlude = true := by
    intro s' r type hfinal hrequest hclosed
    unfold makeRequest
    rw [if_pos (by simp [hfinal])]
    exact ⟨hfinal, hrequest, hclosed, by simp [Instr.isInterlude]⟩
  cases event with
  | connect =>
    have hsame : s.connect c = (s, []) := if_neg (by simp [hstate])
    show (s.connect c).1.state = _ ∧ _
    rw [handle, hsame]
    exact ⟨hstate, rfl, rfl, by simp⟩
  | close =>
    have hsame : s.close c = (s, []) := transitionTo_final hstate
    rw [handle, hsame]
    exact ⟨hstate, rfl, rfl, by simp⟩
  | cancel =>
    rw [handle, cancel]
    split
    · next x hrequest => exact hcancel (by simpa [attends, hrequest] using hattends)
    · exact ⟨hstate, rfl, rfl, by simp⟩
  | cancelRequest r => exact hcancel hattends
  | setTimeout r timeout => exact ⟨hstate, rfl, rfl, by simp [handle]⟩
  | makeRequest r type => exact hmake r type hstate rfl rfl
  | prepare r => exact hmake r _ hstate rfl rfl
  | reset => exact hmake _ _ hstate rfl rfl
  | _ => cases hcall

theorem unanswered_closing {event : Event} (hstate : s.state = .FINAL) (hcall : event.isCall = true)
    (hcalling : event.isCalling = false) : ∀ i ∈ (s.handle c event).2, i.isAnswer = false := by
  cases event with
  | connect =>
    have hsame : s.connect c = (s, []) := if_neg (by simp [hstate])
    rw [handle, hsame]
    simp
  | close =>
    have hsame : s.close c = (s, []) := transitionTo_final hstate
    rw [handle, hsame]
    simp
  | cancel =>
    rw [handle, cancel]
    split
    · exact unanswered_cancelRequest _
    · simp
  | cancelRequest r => exact unanswered_cancelRequest r
  | setTimeout r timeout => simp [handle]
  | makeRequest r type => cases hcalling
  | prepare r => cases hcalling
  | reset => cases hcalling
  | _ => cases hcall

theorem course_handle (h : Course s rest) (ha : Accounted s rest) {event : Event}
    (hguard : Answerable s rest event) (henabled : s.enabled event = true)
    (hadmits : (component c).admits event rest = true) :
    Course (s.handle c event).1 ((s.handle c event).2 ++ rest) ∧
      Accounted (s.handle c event).1 ((s.handle c event).2 ++ rest) := by
  have hrest := isCall_or_eq_nil hadmits
  have haccounted : (s.state = .LOGGED_IN → s.request = none) →
      (event.isCalling = false → Accounted (s.handle c event).1 ((s.handle c event).2 ++ rest)) →
        Accounted (s.handle c event).1 ((s.handle c event).2 ++ rest) := by
    intro hidle hother
    cases hcalling : event.isCalling with
    | false => exact hother hcalling
    | true => exact accounted_calling ha hidle henabled hrest hcalling
  have hidle : s.request = none → Accounted (s.handle c event).1 ((s.handle c event).2 ++ rest) :=
    fun hnone => haccounted (fun _ => hnone) fun hcalling =>
      ha.unrequested hnone (ledger_handle hcalling) (accounts_handle henabled hcalling)
  cases h with
  | login hlogin hout =>
    have hstate : s.state ≠ .LOGGED_IN := fun hstate => by rw [hstate] at hout; cases hout
    exact ⟨.of_login (hlogin.handle hstate henabled hrest) (clean_handle hout hrest),
      hidle hlogin.request⟩
  | serving hphase hopen hclosed h =>
    have hphase' := hphase.handle (c := c) henabled hrest
    have hserving' := h.handleRequest (c := c) hphase hopen henabled hrest
    have hcloses := closesInFinal_handle (c := c) hphase henabled
    have hempty : s.state = .LOGGED_IN → s.request = none := fun hstate => by
      cases h.stage with
      | outside hout => rw [hstate] at hout; cases hout
      | idle _ hrequest => exact hrequest
      | waiting _ hstate' => cases hstate.symm.trans hstate'
      | reading _ hreading => cases hstate.symm.trans hreading.state
      | attending _ hstate' => cases hstate.symm.trans hstate'
    cases hcalling : event.isCalling with
    | false =>
      have hproceeds := proceeds_handle (c := c) hphase hopen hclosed henabled hcalling
      exact ⟨.of_proceeds hphase' hserving' hclosed hcloses hproceeds,
        ha.proceeds hopen (ledger_handle hcalling) hproceeds⟩
    | true =>
      refine ⟨?_, accounted_calling ha hempty henabled hrest hcalling⟩
      have hlive : (s.handle c event).1.state ≠ .FINAL := by
        have hmake : ∀ {s' : Connection} (r : RequestId) (type : RequestType),
            s'.state = s.state → (s'.makeRequest c r type).1.state ≠ .FINAL := by
          intro s' r type hsame
          unfold makeRequest
          dsimp only
          split
          · exact fun hfinal => hopen (hsame.symm.trans hfinal)
          · split
            · exact fun hfinal => hopen (hsame.symm.trans hfinal)
            · rw [state_transitionTo]
              decide
        cases event with
        | makeRequest r type => exact hmake r type rfl
        | prepare r => exact hmake r _ rfl
        | reset => exact hmake _ _ rfl
        | tick t => cases t <;> exact hopen
        | _ => cases hcalling
      refine .serving hphase' hlive ?_ hserving'
      exact (hcloses.resolve_right fun hfinal => hlive hfinal.2).trans hclosed
  | closing hphase x hrequest hstate hclosed above below hstack habove =>
    -- the callback is still running, so that only a call can happen
    have hcall : event.isCall = true := hrest.resolve_right fun hnil => by
      rw [hnil] at hstack
      simp at hstack
    obtain ⟨hstate', hrequest', hclosed', his⟩ :=
      handle_closing (c := c) hstate hcall (hguard.2 hstate hclosed)
    refine ⟨.closing (hphase.handle henabled hrest) x (hrequest'.trans hrequest) hstate'
      (hclosed'.trans hclosed) ((s.handle c event).2 ++ above) below ?_
      (List.forall_mem_append.2 ⟨his, habove⟩), ?_⟩
    · rw [hstack, List.append_assoc]
    · refine haccounted (fun hlogged => by cases hstate.symm.trans hlogged) fun hcalling => ?_
      exact ha.push (ledger_handle hcalling) hrequest' (unanswered_closing hstate hcall hcalling)
        fun _ _ => ⟨fun _ => hstate, fun _ => hstate'⟩
  | closed hphase hclosed hrequest =>
    refine ⟨.closed (hphase.handle henabled hrest) (closed_handle hclosed hphase henabled) ?_,
      hidle hrequest⟩
    -- a connection that is closed refuses every request
    have hrefused := hguard.1 hclosed
    cases hcalling : event.isCalling with
    | false =>
      exact ((accounts_handle (c := c) henabled hcalling).unrequested hrequest).1
    | true =>
      cases event with
      | makeRequest r type => exact (makeRequest_refused r type hrefused).1.trans hrequest
      | prepare r =>
        refine (makeRequest_refused (s := s.updateRequest r _) r _ ?_).1.trans hrequest
        simpa [updateRequest, admitsRequest] using hrefused
      | reset =>
        have hflagged := makeRequest_refused (c := c) (s := { s with
          resetConnectionOnNextRequest := true, trace := .resetCalled :: s.trace })
          (.reset s.calls) .SQL_BATCH hrefused
        exact hflagged.1.trans hrequest
      | tick t => cases t <;> exact hrequest
      | _ => cases hcalling

theorem accounted_of_runsTo {moves : List (Move Event)} {k : Config Connection Instr}
    (h : RunsTo c Answerable moves k) :
    Course k.state k.stack ∧ Accounted k.state k.stack := by
  refine Component.invariant (I := fun s stack => Course s stack ∧ Accounted s stack) ?_ ?_ h ?_
  · intro i s rest ⟨hcourse, haccounted⟩
    exact course_exec hcourse haccounted
  · intro event s stack s' is ⟨hcourse, haccounted⟩ hadmits hguard hstart
    obtain ⟨henabled, hhandle⟩ := start_eq_some hstart
    obtain ⟨rfl, rfl⟩ := Prod.mk.inj hhandle
    exact course_handle hcourse haccounted hguard henabled hadmits
  · refine ⟨.login loginPhase_new rfl, ?_⟩
    constructor <;> simp [settled, timesAnswered, Connection.new]

/-- An execution has not been answered twice, and one that has been called has been answered,
is about to be by the handlers that are running, waits for the next tick, or is the current
request of a connection that is not in `FINAL`. -/
def AnsweredOnce (k : Config Connection Instr) (x : Execution) : Prop :=
  k.state.timesAnswered x ≤ 1 ∧
    (.called x ∈ k.state.trace → k.state.timesAnswered x = 1 ∨ (∃ err, .answer x err ∈ k.stack) ∨
      (∃ err, .callback x err ∈ k.state.ticks) ∨
        k.state.request = some x ∧ k.state.state ≠ .FINAL)

/-- **One answer for each execution**. -/
theorem answered_once {moves : List (Move Event)} {k : Config Connection Instr}
    (h : RunsTo c Answerable moves k) (x : Execution) : AnsweredOnce k x := by
  obtain ⟨-, haccounted⟩ := accounted_of_runsTo h
  have honce := haccounted.once x
  have hone : k.state.settled k.stack x = 1 → k.state.timesAnswered x = 1 ∨
      (∃ err, .answer x err ∈ k.stack) ∨ ∃ err, .callback x err ∈ k.state.ticks := by
    intro hsettled
    by_cases hstack : 0 < k.stack.countP (Instr.answers x)
    · obtain ⟨i, hi, hanswers⟩ := List.countP_pos_iff.1 hstack
      cases i with
      | answer y err =>
        obtain rfl : y = x := of_decide_eq_true hanswers
        exact .inr (.inl ⟨err, hi⟩)
      | _ => cases hanswers
    · by_cases hticks : 0 < k.state.ticks.countP (Tick.answers x)
      · obtain ⟨t, ht, hanswers⟩ := List.countP_pos_iff.1 hticks
        cases t with
        | callback y err =>
          obtain rfl : y = x := of_decide_eq_true hanswers
          exact .inr (.inr ⟨err, ht⟩)
        | _ => cases hanswers
      · unfold settled at hsettled
        exact .inl (by omega)
  constructor
  · unfold settled at honce
    omega
  · intro hcalled
    rcases haccounted.called x hcalled with hsettled | hrequest
    · grind
    · by_cases hfinal : k.state.state = .FINAL
      · have hsettled := (haccounted.current x hrequest).2
        rw [if_pos hfinal] at hsettled
        grind
      · exact .inr (.inr (.inr ⟨hrequest, hfinal⟩))

/-- The response to a request is read when the connection is closed. -/
def closedMidway : List (Move Event) :=
  loggedInMoves ++ [.event (.makeRequest (.request 0) .SQL_BATCH),
    .event (.resume (.requestMessage 0) .done), .event .close, .next]

/-- The callback closes the connection again. -/
theorem answered_once_closed : ∃ k, RunsTo exampleConfig Answerable
    (closedMidway ++ [.event .close, .next, .next]) k ∧
      k.state.timesAnswered { call := 0, request := .request 0 } = 1 ∧
        AnsweredOnce k { call := 0, request := .request 0 } := by
  obtain ⟨k, hk, hp⟩ := @exists_runsTo exampleConfig Answerable _
    (closedMidway ++ [.event .close, .next, .next])
    (fun k => k.state.timesAnswered { call := 0, request := .request 0 } = 1) (by decide)
  exact ⟨k, hk, of_decide_eq_true hp, answered_once hk _⟩

/-- The callback cancels its request, whose response is listened to, and closes the connection
again. -/
theorem answered_twice : ¬∀ (c : ConnectionConfig) (moves : List (Move Event))
    (k : Config Connection Instr), RunsTo c (fun _ _ _ => True) moves k →
      ∀ x, AnsweredOnce k x := by
  intro h
  obtain ⟨k, hk, hp⟩ := @exists_runsTo exampleConfig (fun _ _ _ => True) _
    (closedMidway ++ [.event (.cancelRequest (.request 0)), .next, .next, .next, .next, .next,
      .event .close, .next])
    (fun k => k.state.timesAnswered { call := 0, request := .request 0 } = 2) (by decide)
  have htwice := of_decide_eq_true hp
  have honce := (h _ _ k hk { call := 0, request := .request 0 }).1
  omega

end Connection

end Tedious
