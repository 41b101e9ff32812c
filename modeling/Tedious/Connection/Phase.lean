import Tedious.Connection.Changes

/-!
# Tedious.Connection.Phase

The two phases of a connection. While it logs in, at most one thing is under way that
can carry the login on, and there are no requests (`LoginPhase`); once a request has been
admitted, no login is under way and none can begin any more (`RequestPhase`). The main
theorem is `phase_of_runsTo`: every run stays in one of the two.
-/

namespace Tedious

open Chunked Reentrant

/-- The states after the login. -/
def ConnectionState.isLoggedIn : ConnectionState → Bool
  | LOGGED_IN | SENT_CLIENT_REQUEST | SENT_ATTENTION => true
  | _ => false

/-- Neither `retryTimeout` nor a listener of a request. -/
def Instr.isPlain : Instr → Bool
  | .enterConnecting | .cancelListener .. => false
  | _ => true

namespace Connection

/-- What carries a login on: something under way, the retry timer, or `retryTimeout` while
its listeners run. -/
def threads (s : Connection) (stack : List Instr) : Nat :=
  s.pending.length + s.retryTimer.toNat + stack.count .enterConnecting

/-- No request has been admitted. -/
structure Unrequested (s : Connection) (stack : List Instr) : Prop where
  request : s.request = none
  listeners : ∀ r, (s.requests r).cancelListeners = []
  messages : ∀ call, s.messages call = .none
  pending : ∀ p ∈ s.pending, p.isLogin = true
  listenersRun : ∀ r l, .cancelListener r l ∉ stack

structure LoginPhase (s : Connection) (stack : List Instr) : Prop extends
    Unrequested s stack where
  threads_le : threads s stack ≤ 1
  idle : s.state = .INITIALIZED ∨ s.state = .REROUTING ∨ s.state = .LOGGED_IN →
    threads s stack = 0
  retrying : s.state = .TRANSIENT_FAILURE_RETRY → s.pending = []
  state : s.state ≠ .SENT_CLIENT_REQUEST ∧ s.state ≠ .SENT_ATTENTION

structure RequestPhase (s : Connection) (stack : List Instr) : Prop where
  pending : ∀ p ∈ s.pending, p.isLogin = false
  retryTimer : s.retryTimer = false
  notConnecting : .enterConnecting ∉ stack
  state : s.state = .LOGGED_IN ∨ s.state = .SENT_CLIENT_REQUEST ∨ s.state = .SENT_ATTENTION ∨
    s.state = .FINAL

variable {c : ConnectionConfig} {s : Connection} {rest : List Instr}

/-! ### Instructions that carry nothing on -/

theorem isPlain_of_isCleanup {i : Instr} (h : i.isCleanup = true) : i.isPlain = true := by
  cases i <;> first | rfl | cases h

theorem threads_plain {is : List Instr} (h : ∀ i ∈ is, i.isPlain = true) :
    threads s (is ++ rest) = threads s rest := by
  have hnone : is.count .enterConnecting = 0 :=
    List.count_eq_zero.2 fun hmem => by simpa [Instr.isPlain] using h _ hmem
  simp [threads, List.count_append, hnone]

theorem cancelListener_notMem_plain {is : List Instr} (h : ∀ i ∈ is, i.isPlain = true)
    {r : RequestId} {l : CancelListener} (hrest : .cancelListener r l ∉ rest) :
    .cancelListener r l ∉ is ++ rest := by
  intro hmem
  rcases List.mem_append.1 hmem with hmem | hmem
  · simpa [Instr.isPlain] using h _ hmem
  · exact hrest hmem

theorem isPlain_tokenEvent (token : Token) : ∀ i ∈ tokenEvent token, i.isPlain = true := by
  unfold tokenEvent
  split <;> simp [Instr.isPlain]

theorem isPlain_transitionTo {st : ConnectionState} :
    ∀ i ∈ (s.transitionTo c st).2, i.isPlain = true :=
  fun i hi => isPlain_of_isCleanup ((enters_transitionTo st).stack i hi)

/-! ### The login phase -/

theorem threads_eq_zero : threads s rest = 0 ↔
    s.pending = [] ∧ s.retryTimer = false ∧ .enterConnecting ∉ rest := by
  simp only [threads, Nat.add_eq_zero_iff, List.length_eq_zero_iff, Bool.toNat_eq_zero,
    List.count_eq_zero, and_assoc]

theorem length_waits_le (st : ConnectionState) (calls : Nat) : (st.waits c calls).length ≤ 1 := by
  cases st with
  | CONNECTING => rcases hport : c.port with _ | _ | port <;> simp [ConnectionState.waits, hport]
  | _ => simp [ConnectionState.waits]

theorem isLogin_of_mem_waits {st : ConnectionState} {calls : Nat} {p : Pending}
    (hst : st ≠ .SENT_CLIENT_REQUEST ∧ st ≠ .SENT_ATTENTION) (hp : p ∈ st.waits c calls) :
    p.isLogin = true := by
  cases st with
  | CONNECTING =>
    rcases hport : c.port with _ | _ | port <;> simp [ConnectionState.waits, hport] at hp <;>
      subst hp <;> rfl
  | SENT_CLIENT_REQUEST => exact absurd rfl hst.1
  | SENT_ATTENTION => exact absurd rfl hst.2
  | _ => simp_all [ConnectionState.waits, Pending.isLogin]

/-- Where nothing but the caller carries the login on, it is what the state waits for. -/
theorem threads_transitionTo (h : threads s rest = 0) (st : ConnectionState) :
    threads (s.transitionTo c st).1 ((s.transitionTo c st).2 ++ rest) =
      (if s.state = st then [] else st.waits c s.calls).length := by
  obtain ⟨hpending, hretry, hconnecting⟩ := threads_eq_zero.1 h
  rw [threads_plain isPlain_transitionTo, threads, pending_transitionTo, hpending,
    retryTimer_transitionTo st hretry, List.count_eq_zero.2 hconnecting]
  rfl

/-- Entering a state while nothing but the caller carries the login on. -/
theorem Unrequested.transitionTo (h : Unrequested s rest) (hthreads : threads s rest = 0)
    {st : ConnectionState} (hst : st ≠ .SENT_CLIENT_REQUEST ∧ st ≠ .SENT_ATTENTION) :
    LoginPhase (s.transitionTo c st).1 ((s.transitionTo c st).2 ++ rest) := by
  have henters := enters_transitionTo (c := c) (s := s) st
  have hwaits : (s.transitionTo c st).1.pending =
      if s.state = st then [] else st.waits c s.calls := by
    rw [henters.pending, (threads_eq_zero.1 hthreads).1, List.nil_append]
  have hlength := threads_transitionTo (c := c) hthreads st
  constructor
  · exact {
      request := henters.request.trans h.request
      listeners := henters.requests ▸ h.listeners
      messages := henters.messages ▸ h.messages
      pending := by
        rw [hwaits]
        intro p hp
        split at hp
        · cases hp
        · exact isLogin_of_mem_waits hst hp
      listenersRun := fun r l =>
        cancelListener_notMem_plain isPlain_transitionTo (h.listenersRun r l) }
  · rw [hlength]
    split
    · exact Nat.zero_le _
    · exact length_waits_le st _
  · rw [henters.state, hlength]
    rintro (rfl | rfl | rfl) <;> split <;> rfl
  · rw [henters.state, hwaits]
    rintro rfl
    split <;> rfl
  · rwa [henters.state]

/-- A connection that is logging in may be closed at any time. -/
theorem LoginPhase.toFinal (h : LoginPhase s rest) :
    LoginPhase (s.transitionTo c .FINAL).1 ((s.transitionTo c .FINAL).2 ++ rest) := by
  have henters := enters_transitionTo (c := c) (s := s) .FINAL
  have hpending : (s.transitionTo c .FINAL).1.pending = s.pending := by
    rw [henters.pending]
    split <;> exact List.append_nil _
  have hretry : (s.transitionTo c .FINAL).1.retryTimer.toNat ≤ s.retryTimer.toNat := by
    cases hs : s.retryTimer with
    | true => exact Bool.toNat_le _
    | false => rw [retryTimer_transitionTo .FINAL hs]
  constructor
  · exact {
      request := henters.request.trans h.request
      listeners := henters.requests ▸ h.listeners
      messages := henters.messages ▸ h.messages
      pending := hpending ▸ h.pending
      listenersRun := fun r l =>
        cancelListener_notMem_plain isPlain_transitionTo (h.listenersRun r l) }
  · have hle := h.threads_le
    rw [threads_plain isPlain_transitionTo, threads, hpending]
    unfold threads at hle
    omega
  · simp
  · simp
  · simp

/-- The states in which something may be under way that carries the login on. -/
def Busy (st : ConnectionState) : Prop :=
  st ≠ .INITIALIZED ∧ st ≠ .REROUTING ∧ st ≠ .LOGGED_IN ∧ st ≠ .TRANSIENT_FAILURE_RETRY ∧
    st ≠ .SENT_CLIENT_REQUEST ∧ st ≠ .SENT_ATTENTION

/-- A handler of the login that runs: nothing but the handler carries the login on. -/
structure LoginHandler (s : Connection) (rest : List Instr) : Prop extends
    Unrequested s rest where
  threads_eq : threads s rest = 0
  busy : Busy s.state

namespace LoginHandler

/-- It ends. -/
theorem done (h : LoginHandler s rest) : LoginPhase s rest where
  toUnrequested := h.toUnrequested
  threads_le := h.threads_eq ▸ Nat.zero_le 1
  idle := fun _ => h.threads_eq
  retrying := fun _ => (threads_eq_zero.1 h.threads_eq).1
  state := h.busy.2.2.2.2

/-- It waits for something else. -/
theorem await (h : LoginHandler s rest) {p : Pending} (hp : p.isLogin = true) :
    LoginPhase (s.await p) rest where
  request := h.request
  listeners := h.listeners
  messages := h.messages
  pending := by
    intro q hq
    rcases List.mem_append.1 hq with hq | hq
    · exact h.pending q hq
    · exact List.mem_singleton.1 hq ▸ hp
  listenersRun := h.listenersRun
  threads_le := by
    have := h.threads_eq
    simp only [threads, Connection.await, List.length_append, List.length_singleton] at this ⊢
    omega
  idle := fun hst => by
    obtain ⟨h₁, h₂, h₃, -⟩ := h.busy
    rcases hst with hst | hst | hst
    · exact absurd hst h₁
    · exact absurd hst h₂
    · exact absurd hst h₃
  retrying := fun hst => absurd hst h.busy.2.2.2.1
  state := h.busy.2.2.2.2

/-- It changes the state. -/
theorem transitionTo (h : LoginHandler s []) {st : ConnectionState}
    (hst : st ≠ .SENT_CLIENT_REQUEST ∧ st ≠ .SENT_ATTENTION) :
    LoginPhase (s.transitionTo c st).1 (s.transitionTo c st).2 := by
  have := h.toUnrequested.transitionTo (c := c) h.threads_eq hst
  rwa [List.append_nil] at this

end LoginHandler

/-- Plain instructions make no difference. -/
theorem loginPhase_plain {is : List Instr} (his : ∀ i ∈ is, i.isPlain = true) :
    LoginPhase s (is ++ rest) ↔ LoginPhase s rest := by
  have hthreads : threads s (is ++ rest) = threads s rest := threads_plain his
  constructor
  · intro h
    exact { h with
      listenersRun := fun r l hmem => h.listenersRun r l (List.mem_append_right _ hmem)
      threads_le := hthreads ▸ h.threads_le
      idle := fun hst => hthreads ▸ h.idle hst }
  · intro h
    exact { h with
      listenersRun := fun r l => cancelListener_notMem_plain his (h.listenersRun r l)
      threads_le := hthreads ▸ h.threads_le
      idle := fun hst => hthreads ▸ h.idle hst }

/-- On an otherwise empty stack. -/
theorem loginPhase_of_plain {is : List Instr} (his : ∀ i ∈ is, i.isPlain = true) :
    LoginPhase s is ↔ LoginPhase s [] := by
  have hplain : LoginPhase s (is ++ []) ↔ LoginPhase s [] := loginPhase_plain his
  rwa [List.append_nil] at hplain

/-- A handler ends with plain instructions. -/
theorem LoginHandler.doneWith (h : LoginHandler s []) {is : List Instr}
    (his : ∀ i ∈ is, i.isPlain = true) : LoginPhase s is :=
  (loginPhase_of_plain his).2 h.done

/-- What is under way has become due. -/
theorem LoginPhase.handler (h : LoginPhase s []) {p : Pending} (hp : p ∈ s.pending) :
    LoginHandler { s with pending := s.pending.erase p } [] := by
  have hlength := List.length_pos_of_mem hp
  have hle := h.threads_le
  have hthreads : threads s [] ≠ 0 := by
    unfold threads
    omega
  exact {
    request := h.request
    listeners := h.listeners
    messages := h.messages
    pending := fun q hq => h.pending q (List.mem_of_mem_erase hq)
    listenersRun := h.listenersRun
    threads_eq := by
      simp only [threads] at hle ⊢
      rw [List.length_erase_of_mem hp]
      omega
    busy :=
      ⟨fun hst => hthreads (h.idle (.inl hst)), fun hst => hthreads (h.idle (.inr (.inl hst))),
        fun hst => hthreads (h.idle (.inr (.inr hst))),
        fun hst => List.ne_nil_of_mem hp (h.retrying hst), h.state⟩ }

namespace LoginHandler

theorem afterLogin (h : LoginHandler s []) (kind : LoginKind) (handler : Login7TokenHandler) :
    LoginPhase (s.afterLogin c kind handler).1 (s.afterLogin c kind handler).2 := by
  have hend := afterLogin_inv (c := c) (s := s) kind handler
  generalize s.afterLogin c kind handler = r at hend ⊢
  cases hend with
  | rerouted _ routingData =>
    have h' : LoginHandler { s with routingData := some routingData } [] := { h with }
    exact h'.transitionTo (by decide)
  | acknowledged => exact h.transitionTo (by decide)
  | challenged =>
    have h' : LoginHandler { s.sendMessage .NTLMAUTH_PKT with ntlmpacket := none } [] :=
      { h with }
    exact h'.await rfl
  | informed => exact h.await rfl
  | retried => exact h.transitionTo (by decide)
  | failed => exact h.doneWith (by simp [Instr.isPlain])

theorem sendLogin7Packet (h : LoginHandler s []) :
    LoginPhase (s.sendLogin7Packet c).1 (s.sendLogin7Packet c).2 := by
  have hsent : LoginHandler ({ s with routingData := none }.sendMessage .LOGIN7) [] := { h with }
  unfold Connection.sendLogin7Packet
  cases c.authentication <;> exact hsent.transitionTo (by decide)

/-- A state that waits for nothing leaves it to the handler. -/
theorem enters (h : LoginHandler s []) {st : ConnectionState} (hst : Busy st)
    (hwaits : st.waits c s.calls = []) :
    LoginHandler (s.transitionTo c st).1 (s.transitionTo c st).2 where
  toUnrequested := (h.transitionTo hst.2.2.2.2).toUnrequested
  threads_eq := by
    have := threads_transitionTo (c := c) h.threads_eq st
    rw [List.append_nil, hwaits] at this
    rw [this]
    split <;> rfl
  busy := by rwa [state_transitionTo]

theorem afterPrelogin (h : LoginHandler s []) (data : Bytes) :
    LoginPhase (s.afterPrelogin c data).1 (s.afterPrelogin c data).2 := by
  unfold Connection.afterPrelogin
  split
  · exact h.doneWith (by simp [Instr.isPlain])
  · next payload _ =>
    dsimp only
    generalize hs' : (if payload.fedAuthRequired = some 1 then
      { s with fedAuthRequired := true } else s) = s'
    have h' : LoginHandler s' [] := by
      rw [← hs']
      split
      · exact { h with }
      · exact h
    split
    · split
      · exact h'.doneWith (by simp [Instr.isPlain])
      · exact (h'.enters (by simp [Busy]) rfl).await rfl
    · exact h'.sendLogin7Packet

theorem loginToken (h : LoginHandler s []) (kind : LoginKind) (handler : Login7TokenHandler)
    (token : Token) : LoginPhase (s.loginToken c kind handler token).1
      (s.loginToken c kind handler token).2 := by
  unfold Connection.loginToken
  split
  · exact (loginPhase_of_plain (by simp [tokenEvent, Instr.isPlain])).2 (h.await rfl)
  · split
    · next login _ =>
      have h' : LoginHandler { s with toLoginState := login } [] := { h with }
      exact (loginPhase_of_plain (isPlain_tokenEvent token)).2 (h'.await rfl)
    · exact (loginPhase_of_plain (by simp [Instr.isPlain])).2 (h.await rfl)

theorem socketHandlingForSendPreLogin (h : LoginHandler s []) :
    LoginPhase (s.socketHandlingForSendPreLogin c).1 (s.socketHandlingForSendPreLogin c).2 :=
  transitionTo (s := sendMessage { s with messageIo := _, closed := false } .PRELOGIN)
    { h with } (by decide)

theorem initialSqlToken (h : LoginHandler s []) (token : Token) :
    LoginPhase ((s.await .initialSqlTokens).initialSqlToken token).1
      ((s.await .initialSqlTokens).initialSqlToken token).2 := by
  unfold Connection.initialSqlToken
  split
  · exact (loginPhase_of_plain (isPlain_tokenEvent token)).2 (h.await rfl)
  · exact (loginPhase_of_plain (by simp [Instr.isPlain])).2 (h.await rfl)
  · exact (loginPhase_of_plain (by simp [Instr.isPlain])).2 (h.await rfl)

theorem afterInitialSql (h : LoginHandler s []) :
    LoginPhase (s.afterInitialSql c).1 (s.afterInitialSql c).2 := by
  have hentered : LoginPhase (s.transitionTo c .LOGGED_IN).1 [] :=
    (loginPhase_of_plain isPlain_transitionTo).1 (h.transitionTo (by decide))
  refine (loginPhase_plain isPlain_transitionTo).2 ?_
  refine (loginPhase_of_plain (by simp [Instr.isPlain])).2 ?_
  exact { hentered with }

theorem socketError (h : LoginHandler s []) (err : Err) :
    LoginPhase (s.socketError c err).1 (s.socketError c err).2 :=
  (loginPhase_of_plain (by simp [Connection.socketError, Instr.isPlain])).2 h.done

theorem resume (h : LoginHandler s []) {p : Pending} (hp : p.isLogin = true)
    (outcome : Outcome) : LoginPhase (s.resume c p outcome).1 (s.resume c p outcome).2 := by
  unfold Connection.resume
  split <;> simp only [Pending.isLogin, Bool.false_eq_true] at hp
  -- the port has been found, or not
  · exact h.await rfl
  · unfold instanceLookupFailed
    split <;> exact done { h with }
  -- the socket is connected, or not
  · exact h.socketHandlingForSendPreLogin
  · unfold connectFailed
    split <;> exact done { h with }
  · exact h.afterPrelogin _
  · have h' : ∀ messageIo, LoginHandler { s with messageIo } [] := fun _ => { h with }
    exact (h' _).sendLogin7Packet
  -- login responses
  · exact h.await rfl
  · exact h.loginToken ..
  · exact h.afterLogin ..
  · have h' : LoginHandler (s.sendMessage .FEDAUTH_TOKEN) [] := { h with }
    exact h'.transitionTo (by decide)
  · have h' : ∀ loginError, LoginHandler { s with loginError } [] := fun _ => { h with }
    exact (h' _).doneWith (by simp [credentialsFailed, Instr.isPlain])
  -- the response to the initial SQL
  · exact h.await rfl
  · exact h.initialSqlToken _
  · exact h.afterInitialSql
  -- no message has come
  · exact h.socketError _
  · exact h.socketError _
  · exact h.socketError _
  · exact h.socketError _
  · exact h.done

end LoginHandler

namespace LoginPhase

/-- Requests may change as long as nobody listens to them. -/
theorem updateRequest (h : LoginPhase s rest) {r : RequestId} {f : Request → Request}
    (hf : (f (s.requests r)).cancelListeners = (s.requests r).cancelListeners) :
    LoginPhase (s.updateRequest r f) rest :=
  { h with
    listeners := fun r' => by
      dsimp only [Connection.updateRequest]
      split
      · exact hf.trans (h.listeners r)
      · exact h.listeners r' }

/-- What is under way may change as long as it stays a login. -/
theorem mapPending (h : LoginPhase s rest) {f : Pending → Pending}
    (hf : ∀ p, (f p).isLogin = p.isLogin) :
    LoginPhase { s with pending := s.pending.map f } rest := by
  have hthreads : threads { s with pending := s.pending.map f } rest = threads s rest := by
    simp only [threads, List.length_map]
  exact { h with
    pending := by
      intro q hq
      obtain ⟨p, hp, rfl⟩ := List.mem_map.1 hq
      exact (hf p).trans (h.pending p hp)
    threads_le := hthreads ▸ h.threads_le
    idle := fun hst => hthreads ▸ h.idle hst
    retrying := fun hst => List.map_eq_nil_iff.2 (h.retrying hst) }

theorem dispatchEvent (h : LoginPhase s rest) {event : Dispatched}
    (hevent : event = .connectTimeout ∨ ∃ err, event = .socketError err) :
    LoginPhase (s.dispatchEvent c event).1 ((s.dispatchEvent c event).2 ++ rest) := by
  have hclose : ∀ {e : Emitted}, LoginPhase s ([.emit e, .enterFinal] ++ rest) :=
    (loginPhase_plain (by simp [Instr.isPlain])).2 h
  unfold Connection.dispatchEvent
  split
  · next r hr =>
    obtain ⟨hrequest, hattention⟩ := h.state
    rcases hevent with rfl | ⟨err, rfl⟩ <;> unfold eventHandler at hr <;> dsimp only at hr <;>
      split at hr <;> cases hr
    · exact h
    · exact h.toFinal
    · contradiction
    · contradiction
    · exact h
    · exact h.toFinal
  · exact hclose

theorem exec {i : Instr} (h : LoginPhase s (i :: rest)) :
    LoginPhase (exec c i s).1 ((Connection.exec c i s).2 ++ rest) := by
  have hplain : i.isPlain = true → LoginPhase s rest := fun hi =>
    (loginPhase_plain (List.forall_mem_singleton.2 hi)).1 h
  have hcallback : ∀ {s'}, LoginPhase s' rest → LoginPhase s' ([.callback] ++ rest) :=
    (loginPhase_plain (by simp [Instr.isPlain])).2
  cases i with
  | callback => exact hplain rfl
  | emit event => exact hcallback { hplain rfl with }
  | enterFinal => exact (hplain rfl).toFinal
  | enterConnecting =>
    have hthreads : threads s rest = 0 := by
      have := h.threads_le
      simp only [threads, List.count_cons_self] at this ⊢
      omega
    have hrest : Unrequested s rest :=
      { h with listenersRun := fun r l hmem => h.listenersRun r l (List.mem_cons_of_mem _ hmem) }
    exact hrest.transitionTo hthreads (by decide)
  | dispatchSocketError err => exact (hplain rfl).dispatchEvent (.inr ⟨err, rfl⟩)
  | afterConnectTimeout =>
    have h' : LoginPhase { s with connectTimer := false } rest := { hplain rfl with }
    exact h'.dispatchEvent (.inl rfl)
  | closeRequest =>
    show LoginPhase s.closeRequest.1 (s.closeRequest.2 ++ rest)
    unfold Connection.closeRequest
    rw [h.request]
    exact { hplain rfl with request := rfl }
  | finishCleanup => exact { hplain rfl with request := rfl }
  | answer execution err =>
    have h' : LoginPhase (s.updateRequest execution.request fun request =>
        { request with preparing := false }) rest := (hplain rfl).updateRequest rfl
    exact hcallback { h' with }
  | cancelListener r l => exact absurd (List.mem_cons_self ..) (h.listenersRun r l)
  | requestTimeoutError r =>
    show LoginPhase (s.updateRequest r fun request =>
      { request with error := some (s.requestTimeoutError c r) }) rest
    exact (hplain rfl).updateRequest rfl
  | loginErrorMessage token => exact { hplain rfl with }
  | completeToken call r errors token =>
    have h' : ∀ errors procReturnStatusValue, LoginPhase { s with
        procReturnStatusValue, pending := s.pending.map (Pending.setErrors call errors) } rest :=
      fun errors _ => { (hplain rfl).mapPending (Pending.isLogin_setErrors call errors) with }
    show LoginPhase (s.completeToken c call r errors token) rest
    unfold Connection.completeToken
    refine (h' _ _).updateRequest ?_
    exact (RequestTokenHandler.sameListeners_complete ..).cancelListeners
  | throw => exact { hplain rfl with }

theorem cancelRequest (h : LoginPhase s rest) (r : RequestId) :
    LoginPhase (s.cancelRequest r).1 ((s.cancelRequest r).2 ++ rest) := by
  unfold Connection.cancelRequest
  split
  · exact h
  · rw [h.listeners r]
    refine (loginPhase_plain (by simp [Instr.isPlain])).2 ?_
    exact h.updateRequest (r := r)
      (f := fun request => { request with canceled := true, cancelListeners := [] })
      (h.listeners r).symm

theorem socketClose (h : LoginPhase s []) :
    LoginPhase (s.socketClose c).1 (s.socketClose c).2 := by
  unfold Connection.socketClose
  split
  · next hst =>
    have hthreads := h.idle (.inr (.inl hst))
    have h' : LoginPhase (s.transitionTo c .CONNECTING).1
        ((s.transitionTo c .CONNECTING).2 ++ []) :=
      h.toUnrequested.transitionTo hthreads (by decide)
    rw [List.append_nil] at h'
    simpa [Connection.dispatchEvent, eventHandler, hst] using h'
  · split
    · next hst =>
      have h' : LoginPhase { s with retryTimer := true } [] :=
        { h with
          threads_le := by simp [threads, h.retrying hst]
          idle := by simp [hst] }
      simpa [Connection.dispatchEvent, eventHandler, hst] using h'
    · have := h.toFinal (c := c)
      rwa [List.append_nil] at this

end LoginPhase

/-! ### The request phase -/

/-- Of the instructions, only `enterConnecting` makes a difference. -/
theorem requestPhase_append {is : List Instr} (his : .enterConnecting ∉ is) :
    RequestPhase s (is ++ rest) ↔ RequestPhase s rest := by
  have hmem : Instr.enterConnecting ∈ is ++ rest ↔ Instr.enterConnecting ∈ rest := by simp [his]
  constructor
  · intro h
    exact { h with notConnecting := fun h' => h.notConnecting (hmem.2 h') }
  · intro h
    exact { h with notConnecting := fun h' => h.notConnecting (hmem.1 h') }

namespace RequestPhase

theorem transitionTo (h : RequestPhase s rest) {st : ConnectionState}
    (hst : st = .LOGGED_IN ∨ st = .SENT_CLIENT_REQUEST ∨ st = .SENT_ATTENTION ∨ st = .FINAL) :
    RequestPhase (s.transitionTo c st).1 rest := by
  refine ⟨?_, retryTimer_transitionTo st h.retryTimer, h.notConnecting, by rwa [state_transitionTo]⟩
  rw [pending_transitionTo]
  intro p hp
  rcases List.mem_append.1 hp with hp | hp
  · exact h.pending p hp
  · split at hp
    · cases hp
    · rcases hst with rfl | rfl | rfl | rfl <;>
        simp only [ConnectionState.waits, List.mem_singleton, List.not_mem_nil] at hp <;>
        subst hp <;> rfl

theorem await (h : RequestPhase s rest) {p : Pending} (hp : p.isLogin = false) :
    RequestPhase (s.await p) rest :=
  { h with
    pending := fun q hq => by
      rcases List.mem_append.1 hq with hq | hq
      · exact h.pending q hq
      · exact List.mem_singleton.1 hq ▸ hp }

theorem mapPending (h : RequestPhase s rest) {f : Pending → Pending}
    (hf : ∀ p, (f p).isLogin = p.isLogin) :
    RequestPhase { s with pending := s.pending.map f } rest :=
  { h with
    pending := fun q hq => by
      obtain ⟨p, hp, rfl⟩ := List.mem_map.1 hq
      exact (hf p).trans (h.pending p hp) }

/-- A change that does not belong to a login. -/
theorem change {cause : Cause} {s' : Connection} (hchange : Change c cause s s')
    (hlogin : ∀ p outcome, cause = .event (.resume p outcome) → p.isLogin = false)
    (henters : ∀ st ∈ cause.enters, st = .LOGGED_IN ∨ st = .SENT_ATTENTION ∨ st = .FINAL)
    (h : RequestPhase s rest) : RequestPhase s' rest := by
  cases hchange with
  | take => exact { h with pending := fun q hq => h.pending q (List.mem_of_mem_erase hq) }
  | enter hst => exact h.transitionTo ((henters _ hst).imp_right .inr)
  | await hcause hq =>
    exact h.await ((Pending.isLogin_of_leadsTo hq).trans (hlogin _ _ hcause))
  | abort => exact h.mapPending Pending.isLogin_abort
  | unlisten => exact { h with pending := fun q hq => h.pending q (List.mem_filter.1 hq).1 }
  | setErrors => exact h.mapPending (Pending.isLogin_setErrors _ _)
  | disarm _ _ _ _ hretry =>
    exact { h with
      retryTimer := Bool.eq_false_iff.2 fun ht => absurd (hretry ht) (by simp [h.retryTimer]) }
  | armRetry _ _ hstate => rcases h.state with hst | hst | hst | hst <;> cases hstate.symm.trans hst
  | retry hcause => cases hlogin _ _ hcause
  | serve _ r type =>
    have hcall : RequestPhase (s.countCall { call := s.calls, request := r }) rest := { h with }
    have hwritten : RequestPhase ((s.countCall { call := s.calls, request := r }).writeRequest c
        { call := s.calls, request := r } type) rest := { hcall with }
    exact hwritten.transitionTo (.inr (.inl rfl))
  | _ => exact { h with }

theorem exec {i : Instr} (h : RequestPhase s (i :: rest)) :
    RequestPhase (exec c i s).1 ((Connection.exec c i s).2 ++ rest) := by
  have hrest : RequestPhase s rest :=
    { h with notConnecting := fun hmem => h.notConnecting (List.mem_cons_of_mem _ hmem) }
  refine (requestPhase_append (enterConnecting_notMem_exec i)).2 ?_
  refine (changes_exec i).keeps (P := (RequestPhase · rest)) (fun hchange => ?_) hrest
  refine change hchange (by simp) ?_
  cases i with
  | enterConnecting => exact absurd (List.mem_cons_self ..) h.notConnecting
  | cancelListener r l => cases l <;> simp [Cause.enters]
  | _ => simp [Cause.enters]

/-- Whatever happens, no login begins again. -/
theorem handle (h : RequestPhase s rest) {event : Event} (henabled : s.enabled event = true)
    (hrest : event.isCall = true ∨ rest = []) :
    RequestPhase (s.handle c event).1 ((s.handle c event).2 ++ rest) := by
  have hnot : ∀ {st : ConnectionState}, st.isLoggedIn = false → st ≠ .FINAL → s.state ≠ st := by
    rintro st hst hne rfl
    rcases h.state with hstate | hstate | hstate | hstate <;> rw [hstate] at hst hne <;>
      first | cases hst; done | exact hne rfl
  have hstack : .enterConnecting ∉ (s.handle c event).2 := fun hmem => by
    rw [enterConnecting_mem_handle hmem] at henabled
    cases h.retryTimer.symm.trans henabled
  refine (requestPhase_append hstack).2 ?_
  by_cases hconnect : event = .connect
  · subst hconnect
    show RequestPhase (s.connect c).1 rest
    unfold connect
    rwa [if_neg (hnot rfl (by decide))]
  by_cases hsocket : event = .socketClose
  · subst hsocket
    show RequestPhase (s.socketClose c).1 rest
    unfold socketClose
    rw [if_neg (hnot rfl (by decide)), if_neg (hnot rfl (by decide))]
    exact h.transitionTo (.inr (.inr (.inr rfl)))
  refine (changes_handle event).keeps (P := (RequestPhase · rest)) (fun hchange => ?_) h
  refine change hchange ?_ ?_
  · rintro p outcome ⟨⟩
    exact h.pending p (of_decide_eq_true ((Bool.and_eq_true _ _).mp henabled).1)
  · cases event with
    | connect => exact absurd rfl hconnect
    | socketClose => exact absurd rfl hsocket
    | resume p outcome =>
      have hp := h.pending p (of_decide_eq_true ((Bool.and_eq_true _ _).mp henabled).1)
      exact fun st hst => (Cause.mem_enters_resume hp hst).imp_right .inl
    | _ => simp [Cause.enters]

end RequestPhase

/-! ### Every run -/

theorem RequestPhase.isLoggedIn (h : RequestPhase s rest) (hfinal : s.state ≠ .FINAL) :
    s.state.isLoggedIn = true := by
  rcases h.state with hst | hst | hst | hst
  · rw [hst]; rfl
  · rw [hst]; rfl
  · rw [hst]; rfl
  · exact absurd hst hfinal

/-- Nothing carries a login on once it is complete. -/
theorem LoginPhase.toRequestPhase (h : LoginPhase s rest) (hstate : s.state.isLoggedIn = true) :
    RequestPhase s rest := by
  have hloggedIn : s.state = .LOGGED_IN := by
    obtain ⟨hrequest, hattention⟩ := h.state
    revert hstate hrequest hattention
    cases s.state <;> simp [ConnectionState.isLoggedIn]
  obtain ⟨hpending, hretry, hconnecting⟩ := threads_eq_zero.1 (h.idle (.inr (.inr hloggedIn)))
  exact ⟨by simp [hpending], hretry, hconnecting, .inl hloggedIn⟩

/-- A request that is made while the login goes on is rejected. -/
theorem LoginPhase.makeRequest (h : LoginPhase s rest) (hstate : s.state ≠ .LOGGED_IN)
    (r : RequestId) (type : RequestType) :
    LoginPhase (s.makeRequest c r type).1 ((s.makeRequest c r type).2 ++ rest) := by
  unfold Connection.makeRequest
  dsimp only
  rw [if_pos hstate]
  exact (loginPhase_plain (by simp [Instr.isPlain])).2 { h with }

theorem LoginPhase.connect (h : LoginPhase s rest) :
    LoginPhase (s.connect c).1 ((s.connect c).2 ++ rest) := by
  unfold Connection.connect
  split
  · next hstate => exact h.toUnrequested.transitionTo (h.idle (.inl hstate)) (by decide)
  · exact h

/-- `retryTimeout` takes the timer's place. -/
theorem LoginPhase.retryTimeout (h : LoginPhase s []) (hfires : s.retryTimer = true) :
    LoginPhase s.retryTimeout.1 s.retryTimeout.2 where
  request := h.request
  listeners := h.listeners
  messages := h.messages
  pending := h.pending
  listenersRun := by simp [Connection.retryTimeout]
  threads_le := by
    have hle := h.threads_le
    simpa [Connection.retryTimeout, threads, hfires] using hle
  idle := fun hst => by
    have hidle := h.idle hst
    simp [threads, hfires] at hidle
  retrying := h.retrying
  state := h.state

/-- The login goes on. -/
theorem LoginPhase.handle (h : LoginPhase s rest) (hstate : s.state ≠ .LOGGED_IN) {event : Event}
    (henabled : s.enabled event = true) (hrest : event.isCall = true ∨ rest = []) :
    LoginPhase (s.handle c event).1 ((s.handle c event).2 ++ rest) := by
  have hplain : ∀ {s' : Connection} {is : List Instr}, LoginPhase s' rest →
      (∀ i ∈ is, i.isPlain = true) → LoginPhase s' (is ++ rest) := by
    intro s' is h' his
    exact (loginPhase_plain his).2 h'
  have hnil : event.isCall = false → rest = [] := fun hcall =>
    hrest.resolve_left (by simp [hcall])
  cases event with
  | makeRequest r type => exact h.makeRequest hstate r type
  | prepare r =>
    have h' : LoginPhase (s.updateRequest r fun request =>
        { request with preparing := true, prepared := request.prepared + 1 }) rest :=
      h.updateRequest rfl
    exact h'.makeRequest hstate r _
  | reset =>
    have h' : LoginPhase { s with
        resetConnectionOnNextRequest := true, trace := .resetCalled :: s.trace } rest :=
      { h with }
    exact h'.makeRequest hstate _ _
  | resume p outcome =>
    obtain rfl := hnil rfl
    simp only [enabled, Bool.and_eq_true, decide_eq_true_eq] at henabled
    rw [List.append_nil]
    exact (h.handler henabled.1).resume (h.pending p henabled.1) outcome
  | connect => exact h.connect
  | close => exact h.toFinal
  | cancel =>
    show LoginPhase s.cancel.1 (s.cancel.2 ++ rest)
    unfold Connection.cancel
    rw [h.request]
    exact h
  | cancelRequest r => exact h.cancelRequest r
  | setTimeout r timeout =>
    exact h.updateRequest (r := r) (f := fun request => { request with timeout }) rfl
  | connectTimer =>
    exact hplain { h.mapPending Pending.isLogin_abort with }
      (by simp [Connection.handle, connectTimeout, Instr.isPlain])
  | requestTimer =>
    show LoginPhase s.requestTimeout.1 (s.requestTimeout.2 ++ rest)
    unfold Connection.requestTimeout
    dsimp only
    split
    · next execution hrequest => simp [h.request] at hrequest
    · exact hplain { h with } (by simp [Instr.isPlain])
  | cancelTimer =>
    have h' : LoginPhase { s with cancelTimerArmed := false } rest := { h with }
    exact h'.dispatchEvent (.inr ⟨_, rfl⟩)
  | retryTimer =>
    obtain rfl := hnil rfl
    rw [List.append_nil]
    exact h.retryTimeout henabled
  | socketError err =>
    exact hplain h (by simp [Connection.handle, Connection.socketError, Instr.isPlain])
  | socketEnd =>
    show LoginPhase (s.socketEnd c).1 ((s.socketEnd c).2 ++ rest)
    unfold Connection.socketEnd
    split
    · exact h
    · exact hplain h (by simp [Connection.socketError, Instr.isPlain])
  | socketClose =>
    obtain rfl := hnil rfl
    rw [List.append_nil]
    exact h.socketClose
  | payloadEnd call => simp [enabled, h.messages call, RequestMessage.none] at henabled
  | payloadError call err => simp [enabled, h.messages call, RequestMessage.none] at henabled
  | finish call => simp [enabled, h.messages call, RequestMessage.none] at henabled
  | tick t =>
    cases t <;> exact hplain { h with }
      (by simp [Connection.handle, onTick, Connection.socketError, Instr.isPlain])

/-- Whatever happens, the connection stays in a phase, or requests begin. -/
theorem phase_handle (h : LoginPhase s rest ∨ RequestPhase s rest) {event : Event}
    (henabled : s.enabled event = true) (hrest : event.isCall = true ∨ rest = []) :
    LoginPhase (s.handle c event).1 ((s.handle c event).2 ++ rest) ∨
      RequestPhase (s.handle c event).1 ((s.handle c event).2 ++ rest) := by
  rcases h with h | h
  · by_cases hstate : s.state = .LOGGED_IN
    · have hrequest := h.toRequestPhase (by rw [hstate]; rfl)
      exact .inr (hrequest.handle henabled hrest)
    · exact .inl (h.handle hstate henabled hrest)
  · exact .inr (h.handle henabled hrest)

theorem loginPhase_new : LoginPhase .new [] := by
  constructor
  · constructor <;> simp [Connection.new, Request.new]
  all_goals simp [threads, Connection.new]

/-- **The two phases.** A connection logs in, and then takes requests. -/
theorem phase_of_runsTo {guard : Connection → List Instr → Event → Prop}
    {moves : List (Move Event)} {k : Config Connection Instr} (h : RunsTo c guard moves k) :
    LoginPhase k.state k.stack ∨ RequestPhase k.state k.stack := by
  refine Component.invariant (I := fun s stack => LoginPhase s stack ∨ RequestPhase s stack)
    ?_ ?_ h ?_
  · intro i s rest hphase
    exact hphase.imp LoginPhase.exec RequestPhase.exec
  · intro event s stack s' is hphase hadmits _ hstart
    obtain ⟨henabled, hhandle⟩ := start_eq_some hstart
    obtain ⟨rfl, rfl⟩ := Prod.mk.inj hhandle
    exact phase_handle hphase henabled (isCall_or_eq_nil hadmits)
  · exact .inl loginPhase_new

end Connection

end Tedious
