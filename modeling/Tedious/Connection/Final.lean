import Tedious.Connection.Changes

/-!
# Tedious.Connection.Final

Whether `FINAL` is left again. What is under way when a connection is closed is not
called off: a continuation that completes late changes the state as if nothing had
happened (`final_left`). The runs in which no continuation does stay in `FINAL`
(`final_absorbing`).

A handler that is interrupted by `close` may leave `FINAL`, too, when it goes on. The
invariant `Orderly` says that this does not happen: no instruction that leaves the state
is below one that may close the connection.
-/

namespace Tedious

open Chunked Reentrant

namespace Instr

/-- It enters another state, whatever the state is. -/
def leaves : Instr → Bool
  | .enterConnecting | .cancelListener _ (.response _) => true
  | _ => false

/-- It may enter `FINAL`. -/
def closes : Instr → Bool
  | .enterFinal | .dispatchSocketError _ | .afterConnectTimeout => true
  | _ => false

theorem leaves_of_isCleanup {i : Instr} (h : i.isCleanup = true) : i.leaves = false := by
  cases i <;> first | rfl | cases h

theorem leaves_of_isReport {i : Instr} (h : i.isReport = true) : i.leaves = false := by
  cases i <;> first | rfl | cases h

theorem closes_of_isCleanup {i : Instr} (h : i.isCleanup = true) : i.closes = false := by
  cases i <;> first | rfl | cases h

end Instr

namespace Connection

/-- To cancel the request would enter `SENT_ATTENTION` at once. -/
def responseListened (s : Connection) (r : RequestId) : Bool :=
  !(s.requests r).canceled && (s.requests r).cancelListeners.any fun
    | .response _ => true
    | _ => false

/-- What comes too late for a connection that is in `FINAL`. -/
def late (c : ConnectionConfig) (s : Connection) : Event → Bool
  | .retryTimer => true
  | .cancelRequest r => s.responseListened r
  | .cancel | .requestTimer => s.request.any fun execution => s.responseListened execution.request
  -- a socket, a response to `PRELOGIN` that is not refused, a handshake
  | .resume (.connect _) .done => true
  | .resume .prelogin (.data data) =>
    match PreloginPayload.ofBuffer data with
    | .error _ => false
    | .ok payload => !(c.encrypt = .no && encryptionRequired payload)
  | .resume (.startTls _) .done => true
  -- a login that is acknowledged or can be tried again, a security token
  | .resume (.loginTokens kind handler) .done =>
      handler.loginAckReceived ||
        !(kind = .ntlm && s.ntlmpacket.isSome) && !(kind = .fedauth && handler.hasFedAuthInfo) &&
          s.loginError.any isTransientError
  | .resume .credentials .done => true
  -- the end of a response, and the response to a request that has been canceled
  | .resume .initialSqlTokens .done => true
  | .resume (.requestMessage _) .done => s.requestCanceled && s.cancelTimer
  | .resume (.requestTokens ..) .done => true
  | .resume (.attentionTokens attentionReceived _) .done => attentionReceived
  | _ => false

/-- Nothing comes too late, and `close` is not called by a listener whose caller then
enters another state. -/
def InTime (c : ConnectionConfig) (s : Connection) (stack : List Instr) (e : Event) : Prop :=
  (s.state = .FINAL → s.late c e = false) ∧
    (e = .close → ∀ i ∈ stack, i.leaves = false)

instance (c : ConnectionConfig) (s : Connection) (stack : List Instr) (e : Event) :
    Decidable (InTime c s stack e) :=
  inferInstanceAs (Decidable (_ ∧ _))

structure Orderly (s : Connection) (stack : List Instr) : Prop where
  ordered : stack.Pairwise fun i j => i.closes = true → j.leaves = false
  final : s.state = .FINAL → ∀ i ∈ stack, i.leaves = false

variable {c : ConnectionConfig} {s : Connection} {rest : List Instr}

/-! ### The instructions of handlers -/

theorem leaves_transitionTo {st : ConnectionState} :
    ∀ i ∈ (s.transitionTo c st).2, i.leaves = false :=
  fun i hi => Instr.leaves_of_isCleanup ((enters_transitionTo st).stack i hi)

theorem closes_transitionTo {st : ConnectionState} :
    ∀ i ∈ (s.transitionTo c st).2, i.closes = false :=
  fun i hi => Instr.closes_of_isCleanup ((enters_transitionTo st).stack i hi)

theorem leaves_answerOrThrow (execution : Option Execution) (err : Option Err) :
    ∀ i ∈ answerOrThrow execution err, i.leaves = false := by
  cases execution <;> simp [answerOrThrow, Instr.leaves]

theorem leaves_failRequest (err : Err) : ∀ i ∈ (s.failRequest c err).2, i.leaves = false :=
  List.forall_mem_append.2 ⟨leaves_transitionTo, leaves_answerOrThrow _ _⟩

theorem leaves_dispatchEvent (event : Dispatched) :
    ∀ i ∈ (s.dispatchEvent c event).2, i.leaves = false := by
  unfold dispatchEvent
  split
  · next r hr =>
    cases event <;> unfold eventHandler at hr <;> dsimp only at hr <;> split at hr <;> cases hr
    all_goals
      first
      | exact leaves_transitionTo
      | exact leaves_failRequest _
      | simp [Instr.leaves]
  · simp [Instr.leaves]

/-- Something under way goes on: what is left to do is not to enter a state. -/
theorem leaves_resume (p : Pending) (outcome : Outcome) :
    ∀ i ∈ (s.resume c p outcome).2, i.leaves = false := by
  intro i hi
  rcases mem_resume hi with h | ⟨err, rfl⟩ | ⟨h, -⟩ | ⟨x, err, rfl⟩
  · exact Instr.leaves_of_isReport h
  · rfl
  · exact Instr.leaves_of_isCleanup h
  · rfl

/-! ### What an instruction does to the state -/

/-- A closing instruction is replaced by another one, or enters `FINAL`. -/
theorem dispatchEvent_closes {event : Dispatched}
    (hevent : event = .connectTimeout ∨ ∃ err, event = .socketError err) :
    (s.dispatchEvent c event).1.state = .FINAL ∨
      ∃ i ∈ (s.dispatchEvent c event).2, i.closes = true := by
  unfold dispatchEvent
  split
  · next r hr =>
    rcases hevent with rfl | ⟨err, rfl⟩ <;> unfold eventHandler at hr <;> dsimp only at hr <;>
      split at hr <;> cases hr
    all_goals
      first
      | exact .inl (state_transitionTo _)
      | exact .inl (by assumption)
  · exact .inr ⟨.enterFinal, by simp, rfl⟩

/-- What neither closes the connection nor enters a state. -/
theorem exec_still {i : Instr} (hcloses : i.closes = false) (hleaves : i.leaves = false) :
    (exec c i s).1.state = s.state ∧ (s.pending = [] → (exec c i s).1.pending = []) ∧
      (exec c i s).1.connectTimer = s.connectTimer ∧ (exec c i s).1.ticks = s.ticks := by
  cases i with
  | enterFinal => cases hcloses
  | enterConnecting => cases hleaves
  | dispatchSocketError err => cases hcloses
  | afterConnectTimeout => cases hcloses
  | closeRequest =>
    show s.closeRequest.1.state = _ ∧ (_ → s.closeRequest.1.pending = []) ∧
      s.closeRequest.1.connectTimer = _ ∧ s.closeRequest.1.ticks = _
    unfold closeRequest
    split <;> exact ⟨rfl, id, rfl, rfl⟩
  | cancelListener r l =>
    cases l with
    | response call => cases hleaves
    | _ => exact ⟨rfl, id, rfl, rfl⟩
  | completeToken call r errors token =>
    refine ⟨rfl, fun hpending => ?_, rfl, rfl⟩
    show s.pending.map _ = []
    rw [hpending]
    rfl
  | _ => exact ⟨rfl, id, rfl, rfl⟩

theorem exec_leaves {i : Instr} (hleaves : i.leaves = true) : (exec c i s).1.state ≠ .FINAL := by
  cases i with
  | enterConnecting =>
    rw [show (exec c .enterConnecting s).1.state = .CONNECTING from state_transitionTo _]
    decide
  | cancelListener r l =>
    cases l with
    | response call =>
      rw [show (exec c (.cancelListener r (.response call)) s).1.state = .SENT_ATTENTION from
        state_transitionTo _]
      decide
    | _ => cases hleaves
  | _ => cases hleaves

/-! ### `FINAL` -/

@[simp] theorem transitionTo_final (h : s.state = .FINAL) :
    s.transitionTo c .FINAL = (s, []) := if_pos h

theorem dispatchEvent_final (h : s.state = .FINAL) {event : Dispatched}
    (hevent : event = .connectTimeout ∨ ∃ err, event = .socketError err) :
    s.dispatchEvent c event = (s, []) := by
  rcases hevent with rfl | ⟨err, rfl⟩ <;> simp [dispatchEvent, eventHandler, h]

theorem state_updateCurrentRequest (f : Request → Request) :
    (s.updateCurrentRequest f).state = s.state := by
  unfold updateCurrentRequest
  split <;> rfl

theorem afterLogin_final (h : s.state = .FINAL) {kind : LoginKind} {handler : Login7TokenHandler}
    (hlate : s.late c (.resume (.loginTokens kind handler) .done) = false) :
    (s.afterLogin c kind handler).1.state = .FINAL := by
  obtain ⟨hack, hretry⟩ := Bool.or_eq_false_iff.1 hlate
  have hend := afterLogin_inv (c := c) (s := s) kind handler
  generalize s.afterLogin c kind handler = r at hend ⊢
  cases hend with
  | rerouted hack' => cases hack.symm.trans hack'
  | acknowledged hack' => cases hack.symm.trans hack'
  | retried _ hleft herror htransient =>
    obtain ⟨hntlm, hfedauth⟩ := Bool.or_eq_false_iff.1 hleft
    simp [hntlm, hfedauth, herror, htransient] at hretry
  | _ => exact h

/-- What is not late does not leave `FINAL`. -/
theorem resume_final (h : s.state = .FINAL) {p : Pending} {outcome : Outcome}
    (hlate : s.late c (.resume p outcome) = false) : (s.resume c p outcome).1.state = .FINAL := by
  unfold resume
  split
  -- the port, the socket
  · exact h
  · unfold instanceLookupFailed
    split <;> exact h
  · cases hlate
  · unfold connectFailed
    split <;> exact h
  -- the login
  · unfold afterPrelogin
    split
    · exact h
    · next payload hpayload =>
      simp only [late, hpayload, Bool.not_eq_eq_eq_not, Bool.not_false, Bool.and_eq_true,
        decide_eq_true_eq] at hlate
      dsimp only
      rw [if_pos ⟨by simp [hlate.1], hlate.2⟩, if_pos hlate.1]
      split <;> exact h
  · cases hlate
  · exact h
  · unfold loginToken
    split
    · exact h
    · split <;> exact h
  · exact afterLogin_final h hlate
  · cases hlate
  · exact h
  -- the initial SQL
  · exact h
  · unfold initialSqlToken
    split <;> exact h
  · cases hlate
  -- requests
  · have hcanceled : (s.requestCanceled && s.cancelTimer) = false := hlate
    unfold afterRequestMessage
    dsimp only
    split
    · next hattention => exact absurd hattention (Bool.eq_false_iff.1 hcanceled)
    · exact (state_updateCurrentRequest _).trans h
  · unfold requestToken
    split
    · split <;> exact h
    · dsimp only
      split <;> exact h
  · cases hlate
  · exact h
  · unfold attentionToken
    split <;> exact h
  · unfold afterAttention
    rw [if_neg (by simpa [late] using hlate)]
    exact h
  all_goals exact h

/-! ### One step -/

/-- Instructions that are put on the stack while a listener runs do not close. -/
theorem Orderly.push {s' : Connection} {is : List Instr} (h : Orderly s rest)
    (hcloses : ∀ i ∈ is, i.closes = false)
    (hfinal : s'.state = .FINAL → ∀ i ∈ is ++ rest, i.leaves = false) :
    Orderly s' (is ++ rest) where
  ordered := by
    have hopen : ∀ i ∈ is, ¬i.closes = true := fun i hi => Bool.eq_false_iff.1 (hcloses i hi)
    refine List.pairwise_append.2 ⟨?_, h.ordered, ?_⟩
    · exact List.pairwise_of_forall_mem_list fun i hi _ _ hcl => absurd hcl (hopen i hi)
    · exact fun i hi _ _ hcl => absurd hcl (hopen i hi)
  final := hfinal

/-- Instructions that do not leave the state come before anything but those that do. -/
theorem Orderly.settle {s' : Connection} {is : List Instr} (h : Orderly s rest)
    (hleaves : ∀ i ∈ is ++ rest, i.leaves = false) : Orderly s' (is ++ rest) where
  ordered := by
    refine List.pairwise_append.2 ⟨?_, h.ordered, ?_⟩
    · exact List.pairwise_of_forall_mem_list fun i _ j hj _ =>
        hleaves j (List.mem_append_left _ hj)
    · exact fun i _ j hj _ => hleaves j (List.mem_append_right _ hj)
  final := fun _ => hleaves

theorem Orderly.of_cons {i : Instr} (h : Orderly s (i :: rest)) : Orderly s rest where
  ordered := h.ordered.of_cons
  final := fun hfinal j hj => h.final hfinal j (List.mem_cons_of_mem _ hj)

theorem Orderly.exec {i : Instr} (h : Orderly s (i :: rest)) :
    Orderly (exec c i s).1 ((Connection.exec c i s).2 ++ rest) := by
  have hrest := h.of_cons
  -- nothing below one that closes leaves the state
  have hcloses : i.closes = true → ∀ {s' : Connection} {is : List Instr},
      (∀ j ∈ is, j.leaves = false) → Orderly s' (is ++ rest) := by
    intro hi s' is his
    refine hrest.settle (List.forall_mem_append.2 ⟨his, fun j hj => ?_⟩)
    exact List.rel_of_pairwise_cons h.ordered hj hi
  have hquiet : ∀ {s' : Connection} {is : List Instr}, s'.state = s.state →
      (∀ j ∈ is, j.closes = false ∧ j.leaves = false) → Orderly s' (is ++ rest) := by
    intro s' is hstate his
    refine hrest.push (fun j hj => (his j hj).1) fun hfinal => ?_
    exact List.forall_mem_append.2
      ⟨fun j hj => (his j hj).2, hrest.final (hstate.symm.trans hfinal)⟩
  cases i with
  | callback => exact hrest
  | emit event => exact hquiet rfl (by simp [Connection.exec, Instr.closes, Instr.leaves])
  | enterFinal => exact hcloses rfl leaves_transitionTo
  | enterConnecting =>
    refine hrest.push closes_transitionTo fun hfinal => ?_
    rw [show (Connection.exec c .enterConnecting s).1.state = .CONNECTING from
      state_transitionTo _] at hfinal
    cases hfinal
  | dispatchSocketError err => exact hcloses rfl (leaves_dispatchEvent _)
  | afterConnectTimeout => exact hcloses rfl (leaves_dispatchEvent _)
  | closeRequest =>
    have hclean := cleansUp_closeRequest (s := s)
    exact hquiet hclean.state fun j hj =>
      ⟨Instr.closes_of_isCleanup (hclean.stack j hj), Instr.leaves_of_isCleanup (hclean.stack j hj)⟩
  | finishCleanup => exact hquiet rfl (by simp [Connection.exec, Instr.closes, Instr.leaves])
  | answer execution err => exact hquiet rfl (by simp [Connection.exec, Instr.closes, Instr.leaves])
  | cancelListener r l =>
    cases l with
    | unsent call => exact hquiet rfl (by simp [Connection.exec, onCancel])
    | afterRequestSent => exact hquiet rfl (by simp [Connection.exec, onCancel])
    | response call =>
      refine hrest.push closes_transitionTo fun hfinal => ?_
      rw [show (Connection.exec c (.cancelListener r (.response call)) s).1.state =
        .SENT_ATTENTION from state_transitionTo _] at hfinal
      cases hfinal
  | requestTimeoutError r => exact hquiet rfl (by simp [Connection.exec, Instr.closes, Instr.leaves])
  | loginErrorMessage token => exact hquiet rfl (by simp [Connection.exec, Instr.closes, Instr.leaves])
  | completeToken call r errors token => exact hquiet rfl (by simp [Connection.exec, Instr.closes, Instr.leaves])
  | throw => exact hquiet rfl (by simp [Connection.exec, Instr.closes, Instr.leaves])

/-- An instruction does not leave `FINAL`. -/
theorem Orderly.exec_final {i : Instr} (h : Orderly s (i :: rest)) (hfinal : s.state = .FINAL) :
    (Connection.exec c i s).1.state = .FINAL := by
  have hleaves : i.leaves = false := h.final hfinal i (List.mem_cons_self ..)
  cases i with
  | enterFinal => exact state_transitionTo _
  | enterConnecting => cases hleaves
  | dispatchSocketError err =>
    show (s.dispatchEvent c _).1.state = .FINAL
    rw [dispatchEvent_final hfinal (.inr ⟨err, rfl⟩)]
    exact hfinal
  | afterConnectTimeout =>
    show (dispatchEvent c { s with connectTimer := false } _).1.state = .FINAL
    rw [dispatchEvent_final (s := { s with connectTimer := false }) hfinal (.inl rfl)]
    exact hfinal
  | closeRequest => exact cleansUp_closeRequest.state.trans hfinal
  | cancelListener r l =>
    cases l with
    | unsent call => exact hfinal
    | afterRequestSent => exact hfinal
    | response call => cases hleaves
  | _ => exact hfinal

theorem state_cancelRequest (r : RequestId) : (s.cancelRequest r).1.state = s.state := by
  unfold cancelRequest
  split <;> rfl

theorem closes_cancelRequest {r : RequestId} : ∀ i ∈ (s.cancelRequest r).2, i.closes = false := by
  intro i hi
  rcases mem_cancelRequest hi with rfl | ⟨-, l, -, rfl⟩ <;> rfl

/-- The connection's own listener for a response is the one that leaves the state. -/
theorem leaves_cancelRequest {r : RequestId} (hr : s.responseListened r = false) :
    ∀ i ∈ (s.cancelRequest r).2, i.leaves = false := by
  intro i hi
  rcases mem_cancelRequest hi with rfl | ⟨hcanceled, l, hl, rfl⟩
  · rfl
  · rw [responseListened, hcanceled] at hr
    cases l with
    | unsent call => rfl
    | afterRequestSent => rfl
    | response call => exact absurd rfl (List.any_eq_false.1 hr _ hl)

/-- An event is handled: the stack stays orderly, and `FINAL` is not left. -/
def Stays (s : Connection) (rest : List Instr) (r : Connection × List Instr) : Prop :=
  Orderly r.1 (r.2 ++ rest) ∧ (s.state = .FINAL → r.1.state = .FINAL)

theorem Orderly.cancelRequest (h : Orderly s rest) {r : RequestId}
    (hr : s.state = .FINAL → s.responseListened r = false) :
    Stays s rest (s.cancelRequest r) := by
  refine ⟨h.push closes_cancelRequest fun hfinal => ?_, (state_cancelRequest r).trans⟩
  have hfinal' := (state_cancelRequest r).symm.trans hfinal
  exact List.forall_mem_append.2 ⟨leaves_cancelRequest (hr hfinal'), h.final hfinal'⟩

theorem Orderly.makeRequest (h : Orderly s rest) (r : RequestId) (type : RequestType) :
    Stays s rest (s.makeRequest c r type) := by
  unfold Connection.makeRequest
  dsimp only
  split
  · refine ⟨h.push (by simp [Instr.closes]) fun hfinal => ?_, id⟩
    exact List.forall_mem_append.2 ⟨by simp [Instr.leaves], h.final hfinal⟩
  · next hstate =>
    have hloggedIn := Decidable.not_not.1 hstate
    have hopen : s.state ≠ .FINAL := by simp [hloggedIn]
    split
    · exact ⟨h.push (by simp) fun hfinal => absurd hfinal hopen, id⟩
    · refine ⟨h.push closes_transitionTo fun hfinal => ?_, fun hfinal => absurd hfinal hopen⟩
      rw [state_transitionTo] at hfinal
      cases hfinal

theorem Orderly.connect (h : Orderly s rest) : Stays s rest (s.connect c) := by
  unfold Connection.connect
  split
  · next hstate =>
    refine ⟨h.push closes_transitionTo fun hfinal => ?_, fun hfinal => ?_⟩
    · rw [state_transitionTo] at hfinal
      cases hfinal
    · cases hstate.symm.trans hfinal
  · exact ⟨h, id⟩

theorem Orderly.requestTimeout (h : Orderly s [])
    (htime : s.state = .FINAL → s.late c .requestTimer = false) :
    Stays s [] s.requestTimeout := by
  unfold Connection.requestTimeout
  dsimp only
  split
  · next execution hrequest =>
    have hr : s.state = .FINAL → s.responseListened execution.request = false := by
      intro hfinal
      simpa [late, hrequest] using htime hfinal
    have hfired : Orderly { s with requestTimer := false } [] := { h with }
    obtain ⟨horderly, hstate⟩ := hfired.cancelRequest hr
    refine ⟨?_, hstate⟩
    refine h.push (List.forall_mem_append.2 ⟨closes_cancelRequest, by simp [Instr.closes]⟩) ?_
    intro hfinal
    rw [List.append_nil] at horderly ⊢
    exact List.forall_mem_append.2 ⟨horderly.final hfinal, by simp [Instr.leaves]⟩
  · exact ⟨h.settle (by simp [Instr.leaves]), id⟩

theorem Orderly.dispatchEvent (h : Orderly s []) {event : Dispatched}
    (hevent : s.state = .FINAL → event = .connectTimeout ∨ ∃ err, event = .socketError err) :
    Stays s [] (s.dispatchEvent c event) := by
  refine ⟨h.settle (by simpa using leaves_dispatchEvent _), fun hfinal => ?_⟩
  rw [dispatchEvent_final hfinal (hevent hfinal)]
  exact hfinal

theorem Orderly.socketError (h : Orderly s []) (err : Err) : Stays s [] (s.socketError c err) :=
  ⟨h.settle (by simp [Connection.socketError, Instr.leaves]), id⟩

theorem Orderly.socketEnd (h : Orderly s []) : Stays s [] (s.socketEnd c) := by
  unfold Connection.socketEnd
  split
  · exact ⟨h, id⟩
  · exact h.socketError _

theorem Orderly.socketClose (h : Orderly s []) : Stays s [] (s.socketClose c) := by
  unfold Connection.socketClose
  split
  · next hstate => exact h.dispatchEvent fun hfinal => absurd (hstate.symm.trans hfinal) (by decide)
  · split
    · next hstate =>
      exact h.dispatchEvent fun hfinal => absurd (hstate.symm.trans hfinal) (by decide)
    · exact ⟨h.settle (by simpa using leaves_transitionTo), fun _ => state_transitionTo _⟩

/-- A handler of an event in time. -/
theorem Orderly.handle (h : Orderly s rest) {event : Event}
    (hrest : event.isCall = true ∨ rest = []) (htime : InTime c s rest event) :
    Stays s rest (s.handle c event) := by
  have hnil : event.isCall = false → rest = [] := fun hcall =>
    hrest.resolve_left (by simp [hcall])
  cases event with
  | connect => exact h.connect
  | close =>
    refine ⟨?_, fun _ => state_transitionTo _⟩
    exact h.settle (List.forall_mem_append.2 ⟨leaves_transitionTo, htime.2 rfl⟩)
  | cancel =>
    show Stays s rest s.cancel
    unfold Connection.cancel
    split
    · next execution hrequest =>
      refine h.cancelRequest fun hfinal => ?_
      simpa [late, hrequest] using htime.1 hfinal
    · exact ⟨h, id⟩
  | cancelRequest r => exact h.cancelRequest htime.1
  | setTimeout r timeout => exact ⟨{ h with }, id⟩
  | makeRequest r type => exact h.makeRequest r type
  | prepare r =>
    have h' : Orderly (s.updateRequest r fun request =>
        { request with preparing := true, prepared := request.prepared + 1 }) rest := { h with }
    exact h'.makeRequest r _
  | reset =>
    have h' : Orderly { s with
        resetConnectionOnNextRequest := true, trace := .resetCalled :: s.trace } rest := { h with }
    exact h'.makeRequest _ _
  | connectTimer =>
    obtain rfl := hnil rfl
    exact ⟨h.settle (by simp [Connection.handle, connectTimeout, Instr.leaves]), id⟩
  | requestTimer =>
    obtain rfl := hnil rfl
    exact h.requestTimeout htime.1
  | cancelTimer =>
    obtain rfl := hnil rfl
    have h' : Orderly { s with cancelTimerArmed := false } [] := { h with }
    exact h'.dispatchEvent fun _ => .inr ⟨_, rfl⟩
  | retryTimer =>
    have hopen : s.state ≠ .FINAL := fun hfinal => absurd (htime.1 hfinal) (by simp [late])
    refine ⟨h.push ?_ fun hfinal => absurd hfinal hopen, id⟩
    simp [Connection.handle, retryTimeout, Instr.closes]
  | socketError err =>
    obtain rfl := hnil rfl
    exact h.socketError err
  | socketEnd =>
    obtain rfl := hnil rfl
    exact h.socketEnd
  | socketClose =>
    obtain rfl := hnil rfl
    exact h.socketClose
  | payloadEnd call => exact ⟨{ h with }, id⟩
  | payloadError call err => exact ⟨{ h with }, id⟩
  | finish call => exact ⟨{ h with }, id⟩
  | tick t =>
    obtain rfl := hnil rfl
    refine ⟨h.settle ?_, ?_⟩
    · cases t <;> simp [Connection.handle, onTick, Connection.socketError, Instr.leaves]
    · cases t <;> exact id
  | resume p outcome =>
    obtain rfl := hnil rfl
    refine ⟨h.settle (List.forall_mem_append.2 ⟨leaves_resume p outcome, by simp⟩), fun hfinal => ?_⟩
    exact resume_final (s := { s with pending := s.pending.erase p }) hfinal (htime.1 hfinal)

/-! ### Every run -/

theorem orderly_of_runsTo {moves : List (Move Event)} {k : Config Connection Instr}
    (h : RunsTo c (InTime c) moves k) : Orderly k.state k.stack := by
  refine Component.invariant (I := Orderly) ?_ ?_ h ?_
  · intro i s rest horderly
    exact horderly.exec
  · intro event s stack s' is horderly hadmits htime hstart
    obtain ⟨-, hhandle⟩ := start_eq_some hstart
    obtain ⟨rfl, rfl⟩ := Prod.mk.inj hhandle
    exact (horderly.handle (isCall_or_eq_nil hadmits) htime).1
  · exact ⟨.nil, by simp⟩

/-- **`FINAL` is absorbing** in the runs of a connection in which nothing comes too late. -/
theorem final_absorbing {moves moves' : List (Move Event)} {k k' : Config Connection Instr}
    (h : RunsTo c (InTime c) moves k) (hfinal : k.state.state = .FINAL)
    (h' : (component c).Runs (InTime c) k moves' k') : k'.state.state = .FINAL := by
  have hinvariant : Orderly k'.state k'.stack ∧ k'.state.state = .FINAL := by
    refine Component.invariant (I := fun s stack => Orderly s stack ∧ s.state = .FINAL) ?_ ?_ h'
      ⟨orderly_of_runsTo h, hfinal⟩
    · intro i s rest ⟨horderly, hfinal⟩
      exact ⟨horderly.exec, horderly.exec_final hfinal⟩
    · intro event s stack s' is ⟨horderly, hfinal⟩ hadmits htime hstart
      obtain ⟨-, hhandle⟩ := start_eq_some hstart
      obtain ⟨rfl, rfl⟩ := Prod.mk.inj hhandle
      obtain ⟨hnext, hstays⟩ := horderly.handle (isCall_or_eq_nil hadmits) htime
      exact ⟨hnext, hstays hfinal⟩
  exact hinvariant.2

/-- A connection is closed while its socket is being connected, and connecting fails. -/
theorem final_absorbing_connectFails : ∃ k k', RunsTo exampleConfig (InTime exampleConfig)
    [.event .connect, .event .close] k ∧ k.state.state = .FINAL ∧
      (component exampleConfig).Runs (InTime exampleConfig) k
        [.event (.resume (.connect false) (.failed (.error [])))] k' ∧
      k'.state.state = .FINAL := by
  obtain ⟨k, hk, hp⟩ := @exists_runsTo exampleConfig (InTime exampleConfig) _
    [.event .connect, .event .close] (fun k => k.state.state = .FINAL &&
      ((component exampleConfig).machine.run (Component.guarded (InTime exampleConfig)) k
        [.event (.resume (.connect false) (.failed (.error [])))]).any fun _ => true) (by decide)
  obtain ⟨hfinal, hrun⟩ := (Bool.and_eq_true _ _).mp hp
  obtain ⟨k', hk', -⟩ := Component.exists_runs hrun
  exact ⟨k, k', hk, of_decide_eq_true hfinal, hk',
    final_absorbing hk (of_decide_eq_true hfinal) hk'⟩

/-- A connection is closed while its socket is being connected, and connecting succeeds. -/
theorem final_left : ¬∀ (c : ConnectionConfig) (moves moves' : List (Move Event))
    (k k' : Config Connection Instr), RunsTo c (fun _ _ _ => True) moves k →
      k.state.state = .FINAL → (component c).Runs (fun _ _ _ => True) k moves' k' →
        k'.state.state = .FINAL := by
  intro h
  obtain ⟨k, hk, hp⟩ := @exists_runsTo exampleConfig (fun _ _ _ => True) _
    [.event .connect, .event .close] (fun k => k.state.state = .FINAL &&
      ((component exampleConfig).machine.run (Component.guarded fun _ _ _ => True) k
        [.event (.resume (.connect false) .done)]).any fun k' => k'.state.state ≠ .FINAL)
    (by decide)
  obtain ⟨hfinal, hrun⟩ := (Bool.and_eq_true _ _).mp hp
  obtain ⟨k', hk', hleft⟩ := Component.exists_runs hrun
  exact of_decide_eq_true hleft (h _ _ _ k k' hk (of_decide_eq_true hfinal) hk')

end Connection

end Tedious
