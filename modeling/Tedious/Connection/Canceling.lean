import Tedious.Connection.AttentionResponse
import Tedious.Connection.Executions

/-!
# Tedious.Connection.Canceling

What the callback of a request is told when the request has been canceled, or has timed
out. How the error gets there depends on the moment: by the `'error'` event of the payload
stream (which an ended stream does not emit any more), by `this.cancelTimer` or by the
listener of the response, each of which goes on to `SENT_ATTENTION`, or by the field that
`requestTimeout` writes (`Heard`). The gaps between them are what `heeded` leaves out;
`stops_reported` says that there are no others.
-/

namespace Tedious

open Chunked Reentrant

/-- What has happened to executions: the ones that have been `connection.request`, the ones
whose request timer has fired, and the errors that have failed the connection. -/
structure Stops where
  started : List Execution
  timedOut : List Execution
  failures : List Err

def Stops.none : Stops where
  started := []
  timedOut := []
  failures := []

/-- What is still to happen to a canceled execution. -/
def Instr.isFor (e : Execution) : Instr → Bool
  | .cancelListener r l =>
      r = e.request && (l = .unsent e.call || l = .afterRequestSent || l = .response e.call)
  | .requestTimeoutError r => r = e.request
  | _ => false

namespace Connection

variable (c : ConnectionConfig)

/-- What a move adds to the history. -/
def extendStops (k : Config Connection Instr) (m : Move Event) (k' : Config Connection Instr)
    (x : Stops) : Stops where
  started :=
    match k'.state.request with
    | some execution =>
        if k.state.request = some execution then x.started else execution :: x.started
    | none => x.started
  timedOut :=
    match m with
    | .event .requestTimer => k.state.request.toList ++ x.timedOut
    | _ => x.timedOut
  failures :=
    match m, k.stack with
    | .next, .dispatchSocketError err :: _ => err :: x.failures
    | .event .cancelTimer, _ => cancelTimeoutError c :: x.failures
    | _, _ => x.failures

/-- The connection with the history of its executions. -/
def stopsMachine : Machine (Config Connection Instr × Stops) (Move Event) :=
  (component c).machine.withHistory (extendStops c)

/-- The runs of a new connection in which every event meets `guard`. -/
abbrev StopRuns (guard : Connection → List Instr → Event → Prop) (moves : List (Move Event))
    (k : Config Connection Instr) (x : Stops) : Prop :=
  (stopsMachine c).Steps (fun p => Component.guarded guard p.1) (⟨.new, []⟩, .none) moves (k, x)

/-- The error that the callback of a canceled execution is to be called with: the error of
the connection if that has failed first, `ETIMEOUT` for the timer, `ECANCEL` for a cancel. -/
def Reports (x : Stops) (s : Connection) (execution : Execution) (err : Option Err) : Prop :=
  s.state = .FINAL ∧ (err = some closeError ∨ ∃ failure ∈ x.failures, err = some failure) ∨
    if execution ∈ x.timedOut then ∃ timeout, err = some timeout ∧ timeout.isRequestTimeout = true
    else err = some canceledError

/-- `payloadStream.destroy()` has been called, and its `'error'` has not been emitted yet. -/
def destroyed (s : Connection) (execution : Execution) : Bool :=
  (s.messages execution.call).ignore && !(s.messages execution.call).payloadDone

/-- The request keeps the error of an earlier execution, or of its payload. -/
def timeoutKept (s : Connection) (r : RequestId) : Bool :=
  (s.requests r).error.any Err.isRequestTimeout

/-- A cancel of the execution is noticed: its response is read, or the cancel timer marks
it, or its payload stream can still fail. No other error of the request stands in the way. -/
def heeds (s : Connection) (execution : Execution) : Bool :=
  if (s.requests execution.request).canceled then true
  else if s.responseListened execution.request then !s.timeoutKept execution.request
  else if (s.messages execution.call).finished then
    c.cancelTimeout.isPositive && !s.timeoutKept execution.request
  else !(s.messages execution.call).payloadDone && (s.requests execution.request).error.isNone

/-- Canceling is noticed, and streams do as they should: one that has been destroyed emits
no `'end'`, and emits its error before the response has ended; no payload stream of an
earlier execution fails once the request is canceled. -/
def heeded (s : Connection) : Event → Bool
  | .cancel => s.state = .FINAL || s.request.all (s.heeds c)
  | .cancelRequest r =>
      s.state = .FINAL || s.request.all fun execution =>
        execution.request ≠ r || s.heeds c execution
  | .payloadEnd call => !(s.messages call).ignore
  | .payloadError call err => s.request.all fun execution =>
      !(s.requests execution.request).canceled || execution.request ≠ (s.messages call).request ||
        execution.call = call && err = canceledError
  | .resume (.requestTokens ..) .done => s.request.all fun execution => !s.destroyed execution
  | _ => true

/-- Nothing comes too late, and canceling is noticed. -/
def Heeded (s : Connection) (stack : List Instr) (e : Event) : Prop :=
  InTime c s stack e ∧ s.heeded c e = true

instance (s : Connection) (stack : List Instr) (e : Event) : Decidable (Heeded c s stack e) :=
  inferInstanceAs (Decidable (_ ∧ _))

instance (x : Stops) (s : Connection) (execution : Execution) (err : Option Err) :
    Decidable (Reports x s execution err) :=
  have : Decidable (∃ timeout, err = some timeout ∧ timeout.isRequestTimeout = true) :=
    decidable_of_iff (err.any Err.isRequestTimeout = true) (Option.any_eq_true ..)
  have : Decidable (∃ failure ∈ x.failures, err = some failure) :=
    decidable_of_iff (x.failures.any fun failure => err = some failure) (by simp)
  inferInstanceAs (Decidable (_ ∨ _))

variable {c} {s : Connection} {rest : List Instr}

/-! ### The ways of the error -/

/-- How the cancel of a request that has been sent will show in its callback. -/
inductive Heard (c : ConnectionConfig) (s : Connection) (stack : List Instr) (e : Execution) : Prop
  | reported (h : (s.requests e.request).error = some canceledError)
  | destroyed (h : s.destroyed e = true) (herror : (s.requests e.request).error = none)
  | attention (htimer : s.cancelTimer = true) (hpositive : c.cancelTimeout.isPositive = true)
      (hreading : ¬Reading s e)
  | unsent (hmem : .cancelListener e.request (.unsent e.call) ∈ stack)
      (hopen : (s.messages e.call).payloadDone = false)
      (herror : (s.requests e.request).error = none)
  | afterRequestSent (hmem : .cancelListener e.request .afterRequestSent ∈ stack)
      (hpositive : c.cancelTimeout.isPositive = true) (hreading : ¬Reading s e)
  | response (hmem : .cancelListener e.request (.response e.call) ∈ stack)

/-- Who listens for the cancel of a request that is under way. -/
structure Listening (s : Connection) (e : Execution) : Prop where
  unsent : (s.messages e.call).finished = false →
    .unsent e.call ∈ (s.requests e.request).cancelListeners
  afterRequestSent : (s.messages e.call).finished = true →
    .afterRequestSent ∈ (s.requests e.request).cancelListeners
  response : Reading s e → .response e.call ∈ (s.requests e.request).cancelListeners

/-- What holds of the current execution; `t` are the ones that have timed out. -/
structure Watched (c : ConnectionConfig) (t : List Execution) (s : Connection)
    (stack : List Instr) (e : Execution) : Prop where
  message : (s.messages e.call).request = e.request
  listening : (s.requests e.request).canceled = false → Listening s e
  timedOut : e ∈ t → (s.requests e.request).canceled = true ∧
    (s.timeoutKept e.request = true ∨ .requestTimeoutError e.request ∈ stack)
  canceled : (s.requests e.request).canceled = true → e ∉ t →
    s.timeoutKept e.request = false ∧ (s.state = .SENT_CLIENT_REQUEST → Heard c s stack e)

structure Stopping (c : ConnectionConfig) (x : Stops) (s : Connection) (stack : List Instr) :
    Prop where
  calls : ∀ e, e ∈ x.started ∨ e ∈ x.timedOut ∨ s.request = some e → e.call < s.calls
  callbacks : ∀ e err, .callback e err ∈ s.ticks → e ∉ x.started ∧ e.call < s.calls
  tail : ∀ i ∈ stack.tail, i.isAnswer = false
  answers : ∀ e err, .answer e err ∈ stack → e ∈ x.started →
    (s.requests e.request).canceled = true → Reports x s e err
  canceled : ∀ e ∈ x.timedOut, (s.requests e.request).canceled = true
  timeouts : ∀ r, .requestTimeoutError r ∈ stack → (s.requests r).canceled = true ∧
    ∀ e, s.request = some e → e.request = r → e ∈ x.timedOut
  watched : s.state ≠ .FINAL → ∀ e, s.request = some e → Watched c x.timedOut s stack e

/-- Nothing that is still to happen to the execution is gone from the stack. -/
def Covers (e : Execution) (stack stack' : List Instr) : Prop :=
  ∀ i ∈ stack, i.isFor e = true → i ∈ stack'

theorem Covers.append {e : Execution} (is : List Instr) : Covers e rest (is ++ rest) :=
  fun _ hi _ => List.mem_append_right _ hi

theorem Covers.pop {e : Execution} {i : Instr} {l : List Instr} (hi : i.isFor e = false) :
    Covers e (i :: rest) (l ++ rest) := by
  intro j hj hfor
  rcases List.mem_cons.1 hj with rfl | hj
  · cases hi.symm.trans hfor
  · exact List.mem_append_right _ hj

namespace Heard

/-- It does not matter what else goes on. -/
theorem frame {s' : Connection} {stack stack' : List Instr} {e : Execution}
    (h : Heard c s stack e) (herror : (s'.requests e.request).error = (s.requests e.request).error)
    (hmessage : s'.messages e.call = s.messages e.call) (htimer : s'.cancelTimer = s.cancelTimer)
    (hreading : Reading s' e → Reading s e) (hstack : Covers e stack stack') :
    Heard c s' stack' e := by
  cases h with
  | reported h => exact .reported (herror.trans h)
  | destroyed h hnone =>
    refine .destroyed ?_ (herror.trans hnone)
    rw [Connection.destroyed, hmessage]
    exact h
  | attention h hpositive hnot => exact .attention (htimer.trans h) hpositive (mt hreading hnot)
  | unsent hmem hopen hnone =>
    exact .unsent (hstack _ hmem (by simp [Instr.isFor])) (hmessage ▸ hopen) (herror.trans hnone)
  | afterRequestSent hmem hpositive hnot =>
    exact .afterRequestSent (hstack _ hmem (by simp [Instr.isFor])) hpositive (mt hreading hnot)
  | response hmem => exact .response (hstack _ hmem (by simp [Instr.isFor]))

end Heard

/-- The same for what holds of the current execution. -/
theorem Watched.frame {t : List Execution} {s' : Connection} {stack stack' : List Instr}
    {e : Execution} (h : Watched c t s stack e)
    (hspared : Spared (s.requests e.request) (s'.requests e.request))
    (hmessage : s'.messages e.call = s.messages e.call) (htimer : s'.cancelTimer = s.cancelTimer)
    (hstate : s'.state = s.state) (hreading : Reading s' e → Reading s e)
    (hstack : Covers e stack stack') : Watched c t s' stack' e := by
  have hkept : (s.requests e.request).canceled = true →
      s'.timeoutKept e.request = s.timeoutKept e.request := by
    intro hcanceled
    rw [timeoutKept, timeoutKept, hspared.error hcanceled]
  constructor
  · rw [hmessage]
    exact h.message
  · intro hopen
    have hlistening := h.listening (hspared.canceled ▸ hopen)
    constructor
    · rw [hmessage, hspared.cancelListeners]
      exact hlistening.unsent
    · rw [hmessage, hspared.cancelListeners]
      exact hlistening.afterRequestSent
    · rw [hspared.cancelListeners]
      exact fun hread => hlistening.response (hreading hread)
  · intro hmem
    obtain ⟨hcanceled, herror⟩ := h.timedOut hmem
    refine ⟨hspared.canceled.trans hcanceled, herror.imp (hkept hcanceled).trans ?_⟩
    exact fun hpushed => hstack _ hpushed (by simp [Instr.isFor])
  · intro hcanceled hmem
    have hcanceled' := hspared.canceled.symm.trans hcanceled
    obtain ⟨herror, hheard⟩ := h.canceled hcanceled' hmem
    refine ⟨(hkept hcanceled').trans herror, fun hsent => ?_⟩
    exact (hheard (hstate ▸ hsent)).frame (hspared.error hcanceled') hmessage htimer hreading hstack

/-! ### Instructions -/

/-- The listener of the message that is written destroys its payload stream. -/
theorem Watched.unsent {t : List Execution} {e : Execution} {r : RequestId} {call : Nat}
    (h : Watched c t s (.cancelListener r (.unsent call) :: rest) e) :
    Watched c t (s.onCancel c (.unsent call)).1 rest e := by
  by_cases hcall : e.call = call
  · subst hcall
    have hmessage : (s.onCancel c (.unsent e.call)).1.messages e.call =
        { s.messages e.call with ignore := true, ended := true } := if_pos rfl
    constructor
    · rw [hmessage]
      exact h.message
    · intro hopen
      have hlistening := h.listening hopen
      constructor
      · rw [hmessage]
        exact hlistening.unsent
      · rw [hmessage]
        exact hlistening.afterRequestSent
      · exact fun hreading => hlistening.response (hreading.congr rfl rfl rfl)
    · intro hmem
      obtain ⟨hcanceled, herror⟩ := h.timedOut hmem
      exact ⟨hcanceled, herror.imp_right (by simp)⟩
    · intro hcanceled hmem
      obtain ⟨herror, hheard⟩ := h.canceled hcanceled hmem
      refine ⟨herror, fun hsent => ?_⟩
      cases hheard hsent with
      | reported h => exact .reported h
      | destroyed h hnone =>
        refine .destroyed ?_ hnone
        rw [Connection.destroyed] at h ⊢
        rw [hmessage]
        simp_all
      | attention h hpositive hnot =>
        exact .attention h hpositive fun hreading => hnot (hreading.congr rfl rfl rfl)
      | unsent _ hopen hnone =>
        refine .destroyed ?_ hnone
        rw [Connection.destroyed, hmessage]
        simpa using hopen
      | afterRequestSent hmem hpositive hnot =>
        exact .afterRequestSent (by simpa using hmem) hpositive fun hreading =>
          hnot (hreading.congr rfl rfl rfl)
      | response hmem => exact .response (by simpa using hmem)
  · refine h.frame (.refl _) ?_ rfl rfl (fun hreading => hreading.congr rfl rfl rfl) ?_
    · exact if_neg hcall
    · refine Covers.pop (l := []) ?_
      have hne : ¬call = e.call := fun h => hcall h.symm
      simp [Instr.isFor, hne]

/-- `_cancelAfterRequestSent` starts the cancel timer, which is the mark for the response. -/
theorem Watched.afterRequestSent {t : List Execution} {e : Execution} {r : RequestId}
    (h : Watched c t s (.cancelListener r .afterRequestSent :: rest) e) :
    Watched c t (s.onCancel c .afterRequestSent).1 rest e := by
  constructor
  · exact h.message
  · intro hopen
    have hlistening := h.listening hopen
    exact ⟨hlistening.unsent, hlistening.afterRequestSent,
      fun hreading => hlistening.response (hreading.congr rfl rfl rfl)⟩
  · intro hmem
    obtain ⟨hcanceled, herror⟩ := h.timedOut hmem
    exact ⟨hcanceled, herror.imp_right (by simp)⟩
  · intro hcanceled hmem
    obtain ⟨herror, hheard⟩ := h.canceled hcanceled hmem
    refine ⟨herror, fun hsent => ?_⟩
    have hmarked : c.cancelTimeout.isPositive = true → ¬Reading s e →
        Heard c (s.onCancel c .afterRequestSent).1 rest e := by
      intro hpositive hnot
      exact .attention hpositive hpositive fun hreading => hnot (hreading.congr rfl rfl rfl)
    cases hheard hsent with
    | reported h => exact .reported h
    | destroyed h hnone => exact .destroyed h hnone
    | attention _ hpositive hnot => exact hmarked hpositive hnot
    | unsent hmem hopen hnone => exact .unsent (by simpa using hmem) hopen hnone
    | afterRequestSent _ hpositive hnot => exact hmarked hpositive hnot
    | response hmem => exact .response (by simpa using hmem)

/-- `SENT_ATTENTION` is entered, where every cancel shows. -/
theorem Watched.attend {t : List Execution} {e : Execution} {s' : Connection}
    {stack stack' : List Instr} (h : Watched c t s stack e)
    (hstate : s'.state = .SENT_ATTENTION) (hmessages : s'.messages = s.messages)
    (hrequests : s'.requests = s.requests) (hstack : .requestTimeoutError e.request ∈ stack →
      .requestTimeoutError e.request ∈ stack') : Watched c t s' stack' e := by
  have hnot : ¬Reading s' e := fun hreading => by cases hstate.symm.trans hreading.state
  have hkept : s'.timeoutKept e.request = s.timeoutKept e.request := by
    rw [timeoutKept, timeoutKept, hrequests]
  constructor
  · rw [hmessages]
    exact h.message
  · rw [hrequests]
    intro hopen
    have hlistening := h.listening hopen
    constructor
    · rw [hmessages, hrequests]
      exact hlistening.unsent
    · rw [hmessages, hrequests]
      exact hlistening.afterRequestSent
    · exact fun hreading => absurd hreading hnot
  · rw [hrequests, hkept]
    intro hmem
    obtain ⟨hcanceled, herror⟩ := h.timedOut hmem
    exact ⟨hcanceled, herror.imp_right hstack⟩
  · rw [hrequests, hkept]
    intro hcanceled hmem
    exact ⟨(h.canceled hcanceled hmem).1, fun hsent => by cases hstate.symm.trans hsent⟩

/-- `requestTimeout` writes its error. -/
theorem Watched.requestTimeoutError {t : List Execution} {e : Execution} {r : RequestId}
    (h : Watched c t s (.requestTimeoutError r :: rest) e) (htimedOut : e.request = r → e ∈ t) :
    Watched c t (exec c (.requestTimeoutError r) s).1 rest e := by
  by_cases hr : e.request = r
  · have hmem := htimedOut hr
    have hcanceled := (h.timedOut hmem).1
    have hrequest : (exec c (.requestTimeoutError r) s).1.requests e.request =
        { s.requests r with error := some (s.requestTimeoutError c r) } := if_pos hr
    have hsame : ((exec c (.requestTimeoutError r) s).1.requests e.request).canceled = true := by
      rw [hrequest, ← hr]
      exact hcanceled
    constructor
    · exact h.message
    · intro hopen
      cases hsame.symm.trans hopen
    · intro _
      refine ⟨hsame, .inl ?_⟩
      rw [timeoutKept, hrequest]
      rfl
    · exact fun _ hnot => absurd hmem hnot
  · have hsame : (exec c (.requestTimeoutError r) s).1.requests e.request =
        s.requests e.request := if_neg hr
    refine h.frame (by rw [hsame]; exact .refl _) rfl rfl rfl
      (fun hreading => hreading.congr rfl rfl rfl) (Covers.pop (l := []) ?_)
    have hne : ¬r = e.request := fun h => hr h.symm
    simp [Instr.isFor, hne]

/-- An instruction that keeps the connection open. -/
theorem Watched.exec {t : List Execution} {e : Execution} {i : Instr}
    (h : Watched c t s (i :: rest) e) (hserving : Serving s (i :: rest))
    (hphase : RequestPhase s (i :: rest)) (hopen : s.state ≠ .FINAL)
    (htimedOut : ∀ r, i = .requestTimeoutError r → e.request = r → e ∈ t)
    (hstays : (exec c i s).1.state ≠ .FINAL) :
    Watched c t (exec c i s).1 ((Connection.exec c i s).2 ++ rest) e := by
  have hspares : (∀ r l, i ≠ .cancelListener r l) → (∀ r, i ≠ .requestTimeoutError r) →
      Watched c t (Connection.exec c i s).1 ((Connection.exec c i s).2 ++ rest) e := by
    intro hlistener htimeout
    have hspares := spares_exec (c := c) (s := s) hlistener htimeout
    have hremains := ((undisturbed_exec (c := c) hserving hphase hopen hlistener).resolve_left
      hstays).1
    refine h.frame (hspares.requests _) (by rw [hspares.messages]) hspares.cancelTimer
      hremains.state hremains.of_reading (Covers.pop ?_)
    cases i with
    | cancelListener r l => exact absurd rfl (hlistener r l)
    | requestTimeoutError r => exact absurd rfl (htimeout r)
    | _ => rfl
  cases i with
  | cancelListener r l =>
    cases l with
    | unsent call => exact h.unsent
    | afterRequestSent => exact h.afterRequestSent
    | response call =>
      have hstack : (Connection.exec c (.cancelListener r (.response call)) s).2 = [] :=
        transitionTo_loggedIn (rfl : ConnectionState.SENT_ATTENTION.isLoggedIn = true)
      rw [hstack]
      exact h.attend (state_transitionTo _) (messages_transitionTo _) (requests_transitionTo _)
        (by simp)
  | requestTimeoutError r => exact h.requestTimeoutError (htimedOut r rfl)
  | _ => exact hspares (by simp) (by simp)

/-- A step that admits no execution. -/
theorem Stopping.step {errs : List (Option Err)} {x x' : Stops} {stack : List Instr}
    {r : Connection × List Instr} (h : Stopping c x s stack) (haccounts : Accounts errs s r)
    (hrest : ∀ i ∈ rest, i ∈ stack ∧ i.isAnswer = false) (hstarted : x'.started = x.started)
    (hmore : ∀ e ∈ x.timedOut, e ∈ x'.timedOut)
    (htimedOut : ∀ e ∈ x'.timedOut, e ∈ x.timedOut ∨
      s.request = some e ∧ (r.1.requests e.request).canceled = true)
    (hcanceled : ∀ r', (s.requests r').canceled = true → (r.1.requests r').canceled = true)
    (hanswers : ∀ e err, .answer e err ∈ r.2 → (r.1.requests e.request).canceled = true →
      Reports x' r.1 e err)
    (htimeouts : ∀ r', .requestTimeoutError r' ∈ r.2 → (r.1.requests r').canceled = true ∧
      ∀ e, s.request = some e → e.request = r' → e ∈ x'.timedOut)
    (hwatched : r.1.state ≠ .FINAL → ∀ e, r.1.request = some e →
      Watched c x'.timedOut r.1 (r.2 ++ rest) e) : Stopping c x' r.1 (r.2 ++ rest) := by
  have hrequest : ∀ e, r.1.request = some e → s.request = some e := by
    intro e he
    rcases haccounts.request with hsame | hnone
    · rwa [← hsame]
    · cases hnone.symm.trans he
  constructor
  · intro e he
    rw [haccounts.calls]
    refine h.calls e ?_
    rcases he with he | he | he
    · exact .inl (hstarted ▸ he)
    · exact .inr ((htimedOut e he).imp_right And.left)
    · exact .inr (.inr (hrequest e he))
  · intro e err hmem
    rw [hstarted, haccounts.calls]
    refine h.callbacks e err (List.count_pos_iff.1 ?_)
    rw [← haccounts.callbacks]
    exact List.count_pos_iff.2 hmem
  · intro i hi
    cases hr : r.2 with
    | nil =>
      rw [hr, List.nil_append] at hi
      exact (hrest i (List.mem_of_mem_tail hi)).2
    | cons j is =>
      rw [hr, List.cons_append, List.tail_cons] at hi
      have htail := haccounts.tail
      rw [hr, List.tail_cons] at htail
      exact (List.mem_append.1 hi).elim (htail i) fun hi => (hrest i hi).2
  · intro e err hmem _ hcanceled
    rcases List.mem_append.1 hmem with hmem | hmem
    · exact hanswers e err hmem hcanceled
    · cases (hrest _ hmem).2
  · intro e he
    exact (htimedOut e he).elim (fun he => hcanceled _ (h.canceled e he)) And.right
  · intro r' hmem
    rcases List.mem_append.1 hmem with hmem | hmem
    · obtain ⟨hc, htimed⟩ := htimeouts r' hmem
      exact ⟨hc, fun e he => htimed e (hrequest e he)⟩
    · obtain ⟨hc, htimed⟩ := h.timeouts r' (hrest _ hmem).1
      exact ⟨hcanceled _ hc, fun e he hr => hmore e (htimed e (hrequest e he) hr)⟩
  · exact hwatched

/-- The request does not change but to none. -/
theorem started_extendStops {k k' : Config Connection Instr} {m : Move Event} {x : Stops}
    (h : k'.state.request = k.state.request ∨ k'.state.request = none) :
    (extendStops c k m k' x).started = x.started := by
  simp only [extendStops]
  split
  · next e he =>
    rcases h with hsame | hnone
    · rw [if_pos (hsame.symm.trans he)]
    · cases hnone.symm.trans he
  · rfl

/-- A logged in connection that is not closed yet. -/
theorem requestPhase_of_request {stack : List Instr} {e : Execution}
    (hphase : LoginPhase s stack ∨ RequestPhase s stack) (hrequest : s.request = some e) :
    RequestPhase s stack := by
  rcases hphase with hlogin | hphase
  · cases hlogin.request.symm.trans hrequest
  · exact hphase

theorem Stopping.exec {i : Instr} {x : Stops} (h : Stopping c x s (i :: rest))
    (hinorder : InOrder s (i :: rest)) :
    Stopping c (extendStops c ⟨s, i :: rest⟩ .next
      ⟨(exec c i s).1, (Connection.exec c i s).2 ++ rest⟩ x) (Connection.exec c i s).1
        ((Connection.exec c i s).2 ++ rest) := by
  have haccounts := accounts_exec (c := c) (s := s) i
  refine h.step haccounts ?_ (started_extendStops haccounts.request) (fun _ he => he)
    (fun _ he => .inl he) (fun _ => canceled_exec i) ?_ ?_ ?_
  · intro j hj
    exact ⟨List.mem_cons_of_mem _ hj, h.tail j hj⟩
  · intro e err hmem _
    obtain ⟨hrequest, herr⟩ := haccounts.answers e err hmem
    refine .inl ⟨?_, ?_⟩
    · -- only a connection that is closed answers
      by_cases hfinal : s.state = .FINAL
      · exact hinorder.orderly.exec_final hfinal
      have hphase := requestPhase_of_request hinorder.phase hrequest
      by_cases hlistener : ∃ r l, i = .cancelListener r l
      · obtain ⟨r, l, rfl⟩ := hlistener
        cases l with
        | response call =>
          have hstack : (Connection.exec c (.cancelListener r (.response call)) s).2 = [] :=
            transitionTo_loggedIn (rfl : ConnectionState.SENT_ATTENTION.isLoggedIn = true)
          rw [hstack] at hmem
          cases hmem
        | _ => cases hmem
      · refine (undisturbed_exec hinorder.serving hphase hfinal
          (fun r l hi => hlistener ⟨r, l, hi⟩)).resolve_right fun hstays => ?_
        cases hstays.2 _ hmem
    · cases i with
      | dispatchSocketError failure =>
        rcases List.mem_cons.1 herr with herr | herr
        · exact .inl herr
        · exact .inr ⟨failure, List.mem_cons_self .., List.mem_singleton.1 herr⟩
      | _ => exact .inl (List.mem_singleton.1 herr)
  · exact fun r hmem => absurd hmem (requestTimeoutError_notMem_exec i r)
  · intro hstays e hrequest'
    have hrequest : s.request = some e := by
      rcases haccounts.request with hsame | hnone
      · rwa [← hsame]
      · cases hnone.symm.trans hrequest'
    have hopen : s.state ≠ .FINAL := fun hfinal =>
      hstays (hinorder.orderly.exec_final hfinal)
    refine (h.watched hopen e hrequest).exec hinorder.serving
      (requestPhase_of_request hinorder.phase hrequest) hopen ?_ hstays
    rintro r rfl hr
    exact (h.timeouts r (List.mem_cons_self ..)).2 e hrequest hr

/-! ### Events -/

/-- A request that is canceled runs its listeners. -/
theorem cancelListener_mem {r : RequestId} {l : CancelListener}
    (hcanceled : (s.requests r).canceled = false) (hl : l ∈ (s.requests r).cancelListeners) :
    .cancelListener r l ∈ (s.cancelRequest r).2 := by
  rw [Connection.cancelRequest, if_neg (by simp [hcanceled])]
  refine List.mem_append_left _ (List.mem_flatMap.2 ⟨l, hl, ?_⟩)
  simp

theorem requests_cancelRequest {r : RequestId} (hcanceled : (s.requests r).canceled = false) :
    (s.cancelRequest r).1.requests r =
      { s.requests r with canceled := true, cancelListeners := [] } := by
  rw [Connection.cancelRequest, if_neg (by simp [hcanceled])]
  exact if_pos rfl

/-- Canceling a request touches nothing but this request. -/
theorem cancelRequest_same (r : RequestId) : (s.cancelRequest r).1.messages = s.messages ∧
    (s.cancelRequest r).1.cancelTimer = s.cancelTimer ∧
      (s.cancelRequest r).1.request = s.request ∧ (s.cancelRequest r).1.pending = s.pending ∧
        ∀ r', r' ≠ r → (s.cancelRequest r).1.requests r' = s.requests r' := by
  rw [Connection.cancelRequest]
  split
  · exact ⟨rfl, rfl, rfl, rfl, fun _ _ => rfl⟩
  · exact ⟨rfl, rfl, rfl, rfl, fun _ hr => if_neg hr⟩

/-- Whoever listens for the response listens for the one that is read. -/
theorem reading_of_responseListened {e : Execution} (h : Serving s rest) (hopen : s.state ≠ .FINAL)
    (hrequest : s.request = some e) (hlistened : s.responseListened e.request = true) :
    Reading s e ∧ .response e.call ∈ (s.requests e.request).cancelListeners := by
  rw [responseListened, Bool.and_eq_true, List.any_eq_true] at hlistened
  obtain ⟨-, l, hl, hresponse⟩ := hlistened
  cases l with
  | response call =>
    have hpos : 0 < responses s rest e.request call :=
      Nat.lt_of_lt_of_le (List.count_pos_iff.2 hl) (Nat.le_add_right _ _)
    have hreading := (h.listened hopen e.request call hpos).2
    have hsame := Option.some.inj (hreading.request.symm.trans hrequest)
    rw [hsame] at hreading
    rw [← congrArg Execution.call hsame]
    exact ⟨hreading, hl⟩
  | _ => cases hresponse

theorem Watched.cancelRequest {t : List Execution} {e : Execution} {r : RequestId}
    (h : Watched c t s rest e) (hserving : Serving s rest) (hopen : s.state ≠ .FINAL)
    (hrequest : s.request = some e) (hheeds : e.request = r → s.heeds c e = true) :
    Watched c t (s.cancelRequest r).1 ((s.cancelRequest r).2 ++ rest) e := by
  obtain ⟨hmessages, htimer, hsame, hpending, hothers⟩ := cancelRequest_same (s := s) r
  have hstate := state_cancelRequest (s := s) r
  have hreading : Reading (s.cancelRequest r).1 e → Reading s e :=
    fun hread => hread.congr hstate.symm hsame.symm hpending.symm
  have hmessage : (s.cancelRequest r).1.messages e.call = s.messages e.call := by rw [hmessages]
  by_cases hr : e.request = r
  · subst hr
    cases hcanceled : (s.requests e.request).canceled with
    | true =>
      rw [Connection.cancelRequest, if_pos hcanceled]
      exact h
    | false =>
      have hnow := requests_cancelRequest hcanceled
      have hnot : e ∉ t := fun hmem => by cases (h.timedOut hmem).1.symm.trans hcanceled
      have hlistening := h.listening hcanceled
      have hheeded := hheeds rfl
      rw [heeds, hcanceled] at hheeded
      have hpushed : ∀ l ∈ (s.requests e.request).cancelListeners,
          .cancelListener e.request l ∈ (s.cancelRequest e.request).2 ++ rest :=
        fun l hl => List.mem_append_left _ (cancelListener_mem hcanceled hl)
      constructor
      · rw [hmessage]
        exact h.message
      · rw [hnow]
        intro hc
        cases hc
      · exact fun hmem => absurd hmem hnot
      · intro _ _
        have herror : (s.cancelRequest e.request).1.timeoutKept e.request =
            s.timeoutKept e.request := by rw [timeoutKept, hnow, timeoutKept]
        rw [herror]
        by_cases hlistened : s.responseListened e.request = true
        · -- the response is read
          have hmem := (reading_of_responseListened hserving hopen hrequest hlistened).2
          refine ⟨by simpa [hlistened] using hheeded, fun _ => .response (hpushed _ hmem)⟩
        · have hnoreading : ¬Reading (s.cancelRequest e.request).1 e := by
            intro hread
            have hmem := hlistening.response (hreading hread)
            refine hlistened ?_
            rw [responseListened, hcanceled]
            exact List.any_eq_true.2 ⟨_, hmem, rfl⟩
          cases hfinished : (s.messages e.call).finished with
          | true =>
            -- the message is sent, and the response has not begun
            have hboth : c.cancelTimeout.isPositive = true ∧ s.timeoutKept e.request = false := by
              simpa [hlistened, hfinished] using hheeded
            exact ⟨hboth.2, fun _ => .afterRequestSent
              (hpushed _ (hlistening.afterRequestSent hfinished)) hboth.1 hnoreading⟩
          | false =>
            -- the message is being written
            have hboth : (s.messages e.call).payloadDone = false ∧
                (s.requests e.request).error = none := by
              simpa [hlistened, hfinished] using hheeded
            refine ⟨by simp [timeoutKept, hboth.2], fun _ => .unsent
              (hpushed _ (hlistening.unsent hfinished)) ?_ ?_⟩
            · rw [hmessage]
              exact hboth.1
            · rw [hnow]
              exact hboth.2
  · refine h.frame ?_ hmessage htimer hstate hreading (Covers.append _)
    rw [hothers _ hr]
    exact .refl _

theorem handle_requestTimer {e : Execution} (hrequest : s.request = some e) :
    s.handle c .requestTimer =
      ((({ s with requestTimer := false } : Connection).cancelRequest e.request).1,
        (({ s with requestTimer := false } : Connection).cancelRequest e.request).2 ++
          [.requestTimeoutError e.request]) := by
  show s.requestTimeout = _
  simp only [requestTimeout, hrequest]

/-- The request timer cancels the request, and its error will follow. -/
theorem Watched.requestTimeout {t : List Execution} {e : Execution} (h : Watched c t s [] e) :
    Watched c (e :: t) (({ s with requestTimer := false } : Connection).cancelRequest e.request).1
      ((({ s with requestTimer := false } : Connection).cancelRequest e.request).2 ++
        [.requestTimeoutError e.request]) e := by
  obtain ⟨hmessages, -⟩ := cancelRequest_same (s := { s with requestTimer := false }) e.request
  have hcanceled : ((({ s with requestTimer := false } : Connection).cancelRequest
      e.request).1.requests e.request).canceled = true := by
    cases hcanceled : (s.requests e.request).canceled with
    | true => exact canceled_cancelRequest (s := { s with requestTimer := false }) _ hcanceled
    | false => rw [requests_cancelRequest (s := { s with requestTimer := false }) hcanceled]
  constructor
  · rw [hmessages]
    exact h.message
  · intro hopen
    cases hcanceled.symm.trans hopen
  · exact fun _ => ⟨hcanceled, .inr (by simp)⟩
  · exact fun _ hnot => absurd (List.mem_cons_self ..) hnot

/-- Nobody listens less than before. -/
theorem Listening.congr {s' : Connection} {e : Execution} (h : Listening s e)
    (hfinished : (s'.messages e.call).finished = (s.messages e.call).finished)
    (hlisteners : ∀ l ∈ (s.requests e.request).cancelListeners,
      l ∈ (s'.requests e.request).cancelListeners)
    (hreading : Reading s' e → Reading s e) : Listening s' e where
  unsent := fun hunsent => hlisteners _ (h.unsent (hfinished ▸ hunsent))
  afterRequestSent := fun hsent => hlisteners _ (h.afterRequestSent (hfinished ▸ hsent))
  response := fun hread => hlisteners _ (h.response (hreading hread))

/-- A payload stream that has not been destroyed ends. -/
theorem Watched.payloadEnd {t : List Execution} {e : Execution} {call : Nat}
    (h : Watched c t s [] e) (hignore : (s.messages call).ignore = false) :
    Watched c t (s.onPayloadEnd call) [] e := by
  have hreading : Reading (s.onPayloadEnd call) e → Reading s e :=
    fun hread => hread.congr rfl rfl rfl
  by_cases hcall : e.call = call
  · subst hcall
    have hmessage : (s.onPayloadEnd e.call).messages e.call =
        { s.messages e.call with payloadDone := true, ended := true } := if_pos rfl
    constructor
    · rw [hmessage]
      exact h.message
    · exact fun hopen => (h.listening hopen).congr (by rw [hmessage]) (fun _ hl => hl) hreading
    · exact h.timedOut
    · intro hcanceled hmem
      obtain ⟨herror, hheard⟩ := h.canceled hcanceled hmem
      refine ⟨herror, fun hsent => ?_⟩
      cases hheard hsent with
      | reported h => exact .reported h
      | destroyed h _ => simp [Connection.destroyed, hignore] at h
      | attention h hpositive hnot => exact .attention h hpositive (mt hreading hnot)
      | unsent hmem => cases hmem
      | afterRequestSent hmem => cases hmem
      | response hmem => cases hmem
  · exact h.frame (.refl _) (if_neg hcall) rfl rfl hreading fun _ hi => by cases hi

/-- A payload stream fails; that of a canceled execution with the error of the cancel. -/
theorem Watched.payloadError {t : List Execution} {e : Execution} {call : Nat} {err : Err}
    (h : Watched c t s [] e) (hcancel : (s.requests e.request).canceled = true →
      e.request = (s.messages call).request → e.call = call ∧ err = canceledError) :
    Watched c t (s.onPayloadError call err) [] e := by
  have hreading : Reading (s.onPayloadError call err) e → Reading s e :=
    fun hread => hread.congr rfl rfl rfl
  by_cases hr : e.request = (s.messages call).request
  · have hrequest : (s.onPayloadError call err).requests e.request =
        { s.requests e.request with error := (s.requests e.request).error <|> some err } := by
      rw [hr]
      exact if_pos rfl
    have hmessage : ((s.onPayloadError call err).messages e.call).request =
        (s.messages e.call).request ∧ ((s.onPayloadError call err).messages e.call).finished =
          (s.messages e.call).finished := by
      by_cases hcall : e.call = call
      · subst hcall
        simp [onPayloadError, updateRequest, updateMessage]
      · simp [onPayloadError, updateRequest, updateMessage, hcall]
    constructor
    · rw [hmessage.1]
      exact h.message
    · rw [hrequest]
      exact fun hopen => (h.listening hopen).congr hmessage.2 (by simp [hrequest]) hreading
    · rw [hrequest]
      intro hmem
      obtain ⟨hcanceled, herror⟩ := h.timedOut hmem
      refine ⟨hcanceled, .inl ?_⟩
      have hkept := herror.resolve_right (by simp)
      rw [timeoutKept] at hkept ⊢
      rw [hrequest]
      cases herror : (s.requests e.request).error <;> simp_all
    · rw [hrequest]
      intro hcanceled hmem
      obtain ⟨rfl, rfl⟩ := hcancel hcanceled hr
      obtain ⟨herror, hheard⟩ := h.canceled hcanceled hmem
      constructor
      · rw [timeoutKept] at herror ⊢
        rw [hrequest]
        cases herror : (s.requests e.request).error <;> simp_all [canceledError,
          Err.isRequestTimeout, RequestError.new]
      · intro hsent
        cases hheard hsent with
        | reported h => exact .reported (by rw [hrequest]; simp [h])
        | destroyed _ hnone => exact .reported (by rw [hrequest]; simp [hnone])
        | attention h hpositive hnot => exact .attention h hpositive (mt hreading hnot)
        | unsent hmem => cases hmem
        | afterRequestSent hmem => cases hmem
        | response hmem => cases hmem
  · have hcall : e.call ≠ call := by
      rintro rfl
      exact hr h.message.symm
    have hsame : (s.onPayloadError call err).requests e.request = s.requests e.request := if_neg hr
    exact h.frame (by rw [hsame]; exact .refl _) (if_neg hcall) rfl rfl hreading
      fun _ hi => by cases hi

/-- A message has been written; the listener for its cancel is another one from now on. -/
theorem Watched.finish {t : List Execution} {e : Execution} {call : Nat} (h : Watched c t s [] e) :
    Watched c t (s.onFinish call) [] e := by
  have hreading : Reading (s.onFinish call) e → Reading s e := fun hread => hread.congr rfl rfl rfl
  by_cases hr : e.request = (s.messages call).request
  · have hrequest : (s.onFinish call).requests e.request =
        ((s.requests e.request).removeListener (.unsent call)).once .afterRequestSent := by
      rw [hr]
      exact if_pos rfl
    -- every other listener stays
    have hlisteners : ∀ l ∈ (s.requests e.request).cancelListeners, l ≠ .unsent call →
        l ∈ ((s.onFinish call).requests e.request).cancelListeners := by
      intro l hl hne
      rw [hrequest]
      refine List.mem_append_left _ (List.count_pos_iff.1 ?_)
      rw [count_removeListener_of_ne hne]
      exact List.count_pos_iff.2 hl
    constructor
    · by_cases hcall : e.call = call
      · subst hcall
        exact (congrArg RequestMessage.request (if_pos rfl)).trans h.message
      · exact (congrArg RequestMessage.request (if_neg hcall)).trans h.message
    · rw [hrequest]
      intro hopen
      have hlistening := h.listening hopen
      by_cases hcall : e.call = call
      · subst hcall
        have hfinished : ((s.onFinish e.call).messages e.call).finished = true :=
          congrArg RequestMessage.finished (if_pos rfl)
        constructor
        · intro hunsent
          cases hfinished.symm.trans hunsent
        · rw [hrequest]
          simp [Request.once]
        · exact fun hread => hlisteners _ (hlistening.response (hreading hread)) (by simp)
      · have hmessage : (s.onFinish call).messages e.call = s.messages e.call := if_neg hcall
        constructor
        · rw [hmessage]
          exact fun hunsent => hlisteners _ (hlistening.unsent hunsent) (by simp [hcall])
        · rw [hmessage]
          exact fun hsent => hlisteners _ (hlistening.afterRequestSent hsent) (by simp)
        · exact fun hread => hlisteners _ (hlistening.response (hreading hread)) (by simp)
    · rw [timeoutKept, hrequest]
      exact h.timedOut
    · rw [timeoutKept, hrequest]
      intro hcanceled hmem
      obtain ⟨herror, hheard⟩ := h.canceled hcanceled hmem
      refine ⟨herror, fun hsent => ?_⟩
      cases hheard hsent with
      | reported h => exact .reported (by rw [hrequest]; exact h)
      | destroyed h hnone =>
        refine .destroyed ?_ (by rw [hrequest]; exact hnone)
        rw [Connection.destroyed] at h ⊢
        by_cases hcall : e.call = call
        · subst hcall
          simpa [onFinish, updateRequest, updateMessage, record] using h
        · simpa [onFinish, updateRequest, updateMessage, record, hcall] using h
      | attention h hpositive hnot => exact .attention h hpositive (mt hreading hnot)
      | unsent hmem => cases hmem
      | afterRequestSent hmem => cases hmem
      | response hmem => cases hmem
  · have hcall : e.call ≠ call := by
      rintro rfl
      exact hr h.message.symm
    have hsame : (s.onFinish call).requests e.request = s.requests e.request := if_neg hr
    exact h.frame (by rw [hsame]; exact .refl _) (if_neg hcall) rfl rfl hreading
      fun _ hi => by cases hi

/-- A message has begun. If the cancel timer marks the request as canceled it is ignored. -/
theorem Watched.afterRequestMessage {t : List Execution} {e : Execution}
    (h : Watched c t s [] e) (hrequest : s.request = some e) :
    Watched c t (s.afterRequestMessage c e.call).1 [] e := by
  have hcanceled : s.requestCanceled = (s.requests e.request).canceled := by
    simp only [requestCanceled, hrequest]
  cases hmarked : (s.requestCanceled && s.cancelTimer) with
  | true =>
    have hentered : s.afterRequestMessage c e.call =
        ({ s with requestTimer := false, owed := s.owed.tail } : Connection).transitionTo c
          .SENT_ATTENTION := if_pos hmarked
    rw [hentered]
    exact h.attend (state_transitionTo _) (messages_transitionTo _) (requests_transitionTo _) id
  | false =>
    have hread : s.afterRequestMessage c e.call =
        (updateRequest (await { s with requestTimer := false, owed := s.owed.tail } (.requestTokens
          e.call (s.request.map Execution.request) [] s.owed.head?)) e.request
            fun request => request.once (.response e.call), []) := by
      have hnot : ¬(s.requestCanceled && s.cancelTimer) = true := by simp [hmarked]
      refine (if_neg hnot).trans ?_
      rw [updateCurrentRequest_eq (x := e) (by exact hrequest)]
    rw [hread]
    generalize hs' : updateRequest (await { s with requestTimer := false, owed := s.owed.tail }
      (.requestTokens e.call (s.request.map Execution.request) [] s.owed.head?)) e.request
        (fun request => request.once (.response e.call)) = s'
    have hnow : s'.requests e.request = (s.requests e.request).once (.response e.call) := by
      rw [← hs']
      exact if_pos rfl
    have hmessages : s'.messages = s.messages := by rw [← hs']; rfl
    constructor
    · rw [hmessages]
      exact h.message
    · rw [hnow]
      intro hopen
      have hlistening := h.listening hopen
      constructor
      · rw [hmessages, hnow]
        exact fun hunsent => List.mem_append_left _ (hlistening.unsent hunsent)
      · rw [hmessages, hnow]
        exact fun hsent => List.mem_append_left _ (hlistening.afterRequestSent hsent)
      · rw [hnow]
        exact fun _ => List.mem_append_right _ (List.mem_singleton.2 rfl)
    · rw [timeoutKept, hnow]
      exact h.timedOut
    · rw [timeoutKept, hnow]
      intro hc hmem
      obtain ⟨herror, hheard⟩ := h.canceled hc hmem
      refine ⟨herror, fun hsent => ?_⟩
      have hstate : s.state = .SENT_CLIENT_REQUEST := by rw [← hsent, ← hs']; rfl
      cases hheard hstate with
      | reported h => exact .reported (by rw [hnow]; exact h)
      | destroyed h hnone =>
        refine .destroyed ?_ (by rw [hnow]; exact hnone)
        rw [Connection.destroyed, hmessages]
        exact h
      -- the timer is set: had the request been canceled, the message would have been ignored
      | attention htimer =>
        have hopen : (s.requests e.request).canceled = false := by
          simpa [hcanceled, htimer] using hmarked
        cases hopen.symm.trans hc
      | unsent hmem => cases hmem
      | afterRequestSent hmem => cases hmem
      | response hmem => cases hmem

/-- An execution begins. -/
theorem Watched.write {t : List Execution} {r : RequestId}
    (hstate : s.state = .LOGGED_IN) (hcanceled : (s.requests r).canceled = false)
    (hnew : ({ call := s.calls, request := r } : Execution) ∉ t) (type : RequestType) :
    Watched c t (((s.countCall { call := s.calls, request := r }).writeRequest c
      { call := s.calls, request := r } type).transitionTo c .SENT_CLIENT_REQUEST).1 rest
        { call := s.calls, request := r } := by
  have hlisteners := listeners_writeRequest (c := c)
    (s := s.countCall { call := s.calls, request := r }) { call := s.calls, request := r } type r
  rw [if_pos rfl] at hlisteners
  have hopen : (((s.countCall { call := s.calls, request := r }).writeRequest c
      { call := s.calls, request := r } type).requests r).canceled = false :=
    (congrArg Request.canceled (if_pos rfl)).trans hcanceled
  have hmessage : ((s.countCall { call := s.calls, request := r }).writeRequest c
      { call := s.calls, request := r } type).messages s.calls =
        { request := r, payloadDone := false, ignore := false, ended := false, finished := false } :=
    if_pos rfl
  constructor
  · rw [messages_transitionTo, hmessage]
  · intro _
    constructor
    · intro _
      rw [requests_transitionTo, hlisteners]
      simp
    · rw [messages_transitionTo, hmessage]
      intro hc
      cases hc
    · intro hreading
      obtain ⟨-, -, errors, answers, hpending⟩ := hreading
      have hlast : s.pending ++ [.requestMessage s.calls] =
          [.requestTokens s.calls (some r) errors answers] := by
        rw [← hpending, pending_transitionTo]
        simp [writeRequest, countCall, record, send, updateRequest, updateMessage, hstate,
          ConnectionState.waits]
      simp [List.append_eq_singleton_iff] at hlast
  · exact fun hmem => absurd hmem hnew
  · rw [requests_transitionTo, hopen]
    intro hc
    cases hc

/-- An event that neither calls `makeRequest` nor is the request timer. -/
theorem Watched.handle {t : List Execution} {e : Execution} {event : Event}
    (h : Watched c t s rest e) (hserving : Serving s rest) (hphase : RequestPhase s rest)
    (hopen : s.state ≠ .FINAL) (hrequest : s.request = some e)
    (henabled : s.enabled event = true) (hrest : event.isCall = true ∨ rest = [])
    (hheeded : s.heeded c event = true) (hcalling : event.isCalling = false)
    (htimer : event ≠ .requestTimer) (hstays : (s.handle c event).1.state ≠ .FINAL)
    (hrequest' : (s.handle c event).1.request = some e) :
    Watched c t (s.handle c event).1 ((s.handle c event).2 ++ rest) e := by
  have hheeds : ∀ {execution : Execution}, s.request.all (s.heeds c) = true →
      s.request = some execution → s.heeds c execution = true := by
    intro execution hall hexecution
    simpa [hexecution] using hall
  cases hconcerns : event.concerns with
  | false =>
    have hspares := spares_handle (c := c) henabled hconcerns
    have hremains := ((undisturbed_handle (c := c) hserving hphase hopen henabled hrest
      hconcerns).resolve_left hstays).1
    exact h.frame (hspares.requests _) (by rw [hspares.messages]) hspares.cancelTimer
      hremains.state hremains.of_reading (Covers.append _)
  | true =>
    have hnil : event.isCall = false → rest = [] := fun hcall =>
      hrest.resolve_left (by simp [hcall])
    cases event with
    | cancel =>
      have hcancel : s.cancel = s.cancelRequest e.request := by
        simp only [Connection.cancel, hrequest]
      show Watched c t s.cancel.1 (s.cancel.2 ++ rest) e
      rw [hcancel]
      refine h.cancelRequest hserving hopen hrequest fun _ => ?_
      exact hheeds (by simpa [heeded, hopen] using hheeded) hrequest
    | cancelRequest r =>
      refine h.cancelRequest hserving hopen hrequest fun hr => ?_
      simpa [heeded, hopen, hrequest, hr] using hheeded
    | requestTimer => exact absurd rfl htimer
    | payloadEnd call =>
      obtain rfl := hnil rfl
      exact h.payloadEnd (by simpa [heeded] using hheeded)
    | payloadError call err =>
      obtain rfl := hnil rfl
      refine h.payloadError fun hcanceled hr => ?_
      simpa [heeded, hrequest, hcanceled, ← hr] using hheeded
    | finish call =>
      obtain rfl := hnil rfl
      exact h.finish
    | tick event =>
      cases event <;> first | (cases hcalling; done) | cases hconcerns
    | resume p outcome =>
      obtain rfl := hnil rfl
      have hp : p ∈ s.pending := of_decide_eq_true ((Bool.and_eq_true _ _).mp henabled).1
      cases hserving.stage with
      | outside hout => cases (hphase.isLoggedIn hopen).symm.trans hout
      | idle _ hnone => cases hnone.symm.trans hrequest
      | waiting x hstate hx hpending =>
        obtain rfl := Option.some.inj (hx.symm.trans hrequest)
        rcases hpending with hpending | hpending
        · rw [hpending] at hp
          cases hp
        · obtain rfl : p = .requestMessage x.call := by simpa [hpending] using hp
          cases outcome <;> first | (cases hconcerns; done) | skip
          have herased : Watched c t { s with
              pending := s.pending.erase (.requestMessage x.call) } [] x := by
            refine h.frame (.refl _) rfl rfl rfl (fun hreading => ?_) fun _ hi => by cases hi
            obtain ⟨_, _, errors, answers, hone⟩ := hreading
            simp [hpending] at hone
          have hread := herased.afterRequestMessage hx
          rwa [← List.append_nil (Connection.handle c s _).2,
            show (Connection.handle c s (.resume (.requestMessage x.call) .done)).2 = [] from
              stack_afterRequestMessage _]
      | reading x hreading =>
        obtain ⟨_, _, errors, answers, hpending⟩ := hreading
        obtain rfl : p = .requestTokens x.call (some x.request) errors answers := by
          simpa [hpending] using hp
        cases outcome <;> first | (cases hconcerns; done) | skip
        cases hrequest'
      | attending x hstate hx hpending =>
        have hattends : ∀ {s' : Connection}, s'.state = .SENT_ATTENTION →
            s'.messages = s.messages → s'.requests = s.requests → Watched c t s' [] e :=
          fun hstate' hmessages hrequests => h.attend hstate' hmessages hrequests id
        rcases hpending with hpending | ⟨q, hpending, hq⟩
        · rw [hpending] at hp
          cases hp
        · obtain rfl : p = q := by simpa [hpending] using hp
          cases p <;> cases hq <;> cases outcome <;> first | (cases hconcerns; done) | skip
          · exact hattends hstate rfl rfl
          · next attentionReceived answers =>
            cases attentionReceived with
            | true =>
              have hnone : (s.handle c
                  (.resume (.attentionTokens true answers) .done)).1.request = none :=
                request_transitionTo _
              cases hnone.symm.trans hrequest'
            | false => exact hattends hstate rfl rfl
    | _ => first | (cases hcalling; done) | cases hconcerns

theorem timedOut_extendStops {k k' : Config Connection Instr} {event : Event} {x : Stops} :
    (extendStops c k (.event event) k' x).timedOut =
      (if event = .requestTimer then k.state.request.toList else []) ++ x.timedOut := by
  cases event <;> simp [extendStops]

/-- The error of a canceled execution whose response has ended. -/
theorem Watched.reports {x : Stops} {e : Execution} (h : Watched c x.timedOut s [] e)
    (hreading : Reading s e) (hcanceled : (s.requests e.request).canceled = true)
    (hdestroyed : s.destroyed e = false) (s' : Connection) :
    Reports x s' e (s.requests e.request).error := by
  refine .inr ?_
  split
  · next hmem =>
    have hkept := (h.timedOut hmem).2.resolve_right (by simp)
    exact (Option.any_eq_true ..).1 hkept
  · next hmem =>
    cases (h.canceled hcanceled hmem).2 hreading.state with
    | reported h => exact h
    | destroyed h => cases hdestroyed.symm.trans h
    | attention _ _ hnot => exact absurd hreading hnot
    | unsent hmem => cases hmem
    | afterRequestSent hmem => cases hmem
    | response hmem => cases hmem

/-- The error of an execution whose attention message has been acknowledged. -/
theorem Watched.reports_attention {x : Stops} {e : Execution} (h : Watched c x.timedOut s [] e)
    (hrequest : s.request = some e) (hcanceled : (s.requests e.request).canceled = true)
    (s' : Connection) : Reports x s' e (some s.attentionError) := by
  have herror : s.requestError = (s.requests e.request).error := by
    simp only [requestError, hrequest, Option.bind_some]
  refine .inr ?_
  rw [attentionError, herror]
  split
  · next hmem =>
    have hkept := (h.timedOut hmem).2.resolve_right (by simp)
    obtain ⟨timeout, hsome, htimeout⟩ := (Option.any_eq_true ..).1 hkept
    rw [hsome]
    exact ⟨timeout, by simp [htimeout], htimeout⟩
  · next hmem =>
    have hkept := (h.canceled hcanceled hmem).1
    rw [timeoutKept] at hkept
    cases herr : (s.requests e.request).error with
    | none => rfl
    | some err => simp_all

/-- What an event that does not call `makeRequest` answers with. -/
theorem Stopping.reports {x : Stops} {event : Event} {e : Execution} {err : Option Err}
    (h : Stopping c x s rest) (hinorder : InOrder s rest) (henabled : s.enabled event = true)
    (hrest : event.isCall = true ∨ rest = []) (hguard : Heeded c s rest event)
    (hcalling : event.isCalling = false) (hmem : .answer e err ∈ (s.handle c event).2)
    (hcanceled : ((s.handle c event).1.requests e.request).canceled = true)
    (k' : Config Connection Instr) :
    Reports (extendStops c ⟨s, rest⟩ (.event event) k' x) (s.handle c event).1 e err := by
  have haccounts := accounts_handle (c := c) henabled hcalling
  have hstays := (hinorder.orderly.handle (c := c) hrest hguard.1).2
  obtain ⟨hrequest, herr⟩ := haccounts.answers e err hmem
  have hphase := requestPhase_of_request hinorder.phase hrequest
  cases hconcerns : event.concerns with
  | false =>
    refine .inl ⟨?_, ?_⟩
    · by_cases hfinal : s.state = .FINAL
      · exact hstays hfinal
      · refine (undisturbed_handle (c := c) hinorder.serving hphase hfinal henabled hrest
          hconcerns).resolve_right fun hstays => ?_
        cases hstays.2 _ hmem
    · by_cases htimer : event = .cancelTimer
      · subst htimer
        rcases List.mem_cons.1 herr with herr | herr
        · exact .inl herr
        · exact .inr ⟨_, List.mem_cons_self .., List.mem_singleton.1 herr⟩
      · refine .inl (List.mem_singleton.1 ?_)
        have herrors : s.errors c event = [some closeError] := by
          unfold errors
          split <;> simp_all [Event.concerns]
        rwa [← herrors]
  | true =>
    cases event with
    | resume p outcome =>
      obtain rfl := hrest.resolve_left (by simp [Event.isCall])
      have hp : p ∈ s.pending := of_decide_eq_true ((Bool.and_eq_true _ _).mp henabled).1
      cases p <;> cases outcome <;> first | (cases hconcerns; done) | skip
      · cases herr
      · -- the response has ended
        next call request errors answers =>
        have hopen : s.state ≠ .FINAL := fun hfinal => by
          cases hguard.1.1 hfinal
        have hreading : Reading s e := by
          cases hinorder.serving.stage with
          | outside hout => cases (hphase.isLoggedIn hopen).symm.trans hout
          | idle _ hnone => cases hnone.symm.trans hrequest
          | waiting _ _ _ hpending =>
            rcases hpending with hpending | hpending <;> rw [hpending] at hp <;> simp at hp
          | reading y hreading =>
            obtain rfl := Option.some.inj (hreading.request.symm.trans hrequest)
            exact hreading
          | attending _ _ _ hpending =>
            rcases hpending with hpending | ⟨q, hpending, hq⟩ <;> rw [hpending] at hp
            · cases hp
            · rw [← List.mem_singleton.1 hp] at hq
              cases hq
        have hsame : (s.requests e.request).canceled = true :=
          (canceled_onEndOfMessage (c := c) (s := { s with
            pending := s.pending.erase (.requestTokens call request errors answers) }) call
              _).symm.trans hcanceled
        have hdestroyed : s.destroyed e = false := by
          simpa [heeded, hrequest] using hguard.2
        have herror : err = (s.requests e.request).error := by
          have hsome : s.requestError = (s.requests e.request).error := by
            simp only [requestError, hrequest, Option.bind_some]
          rw [← hsome]
          exact List.mem_singleton.1 herr
        rw [herror]
        have hreports := (h.watched hopen e hrequest).reports hreading hsame hdestroyed
          (s.handle c (.resume (.requestTokens call request errors answers) .done)).1
        exact hreports
      · cases herr
      · -- the attention message has been acknowledged
        next attentionReceived answers =>
        have hreceived : attentionReceived = true := by
          by_contra hnot
          have hnone : (s.handle c (.resume (.attentionTokens attentionReceived answers) .done)).2 =
              [] := (stack_afterAttention attentionReceived).trans (if_neg hnot)
          rw [hnone] at hmem
          cases hmem
        have hopen : s.state ≠ .FINAL := fun hfinal => by
          have hlate := hguard.1.1 hfinal
          rw [hreceived] at hlate
          cases hlate
        have hsame : (s.requests e.request).canceled = true := by
          have hrequests := requests_afterAttention (c := c) (s := { s with
            pending := s.pending.erase (.attentionTokens attentionReceived answers) })
            attentionReceived
          rw [← hcanceled]
          exact congrArg (fun f => (f e.request).canceled) hrequests.symm
        rw [List.mem_singleton.1 herr]
        have hreports := (h.watched hopen e hrequest).reports_attention hrequest hsame
          (s.handle c (.resume (.attentionTokens attentionReceived answers) .done)).1
        exact hreports
    | tick event => cases event <;> first | (cases hcalling; done) | cases hconcerns
    | _ => first | (cases herr; done) | (cases hcalling; done) | cases hconcerns

/-- An event that does not call `makeRequest`. -/
theorem Stopping.handleEvent {x : Stops} {event : Event} (h : Stopping c x s rest)
    (hinorder : InOrder s rest) (hunanswered : ∀ i ∈ rest, i.isAnswer = false)
    (henabled : s.enabled event = true) (hrest : event.isCall = true ∨ rest = [])
    (hguard : Heeded c s rest event) (hcalling : event.isCalling = false) :
    Stopping c (extendStops c ⟨s, rest⟩ (.event event)
      ⟨(s.handle c event).1, (s.handle c event).2 ++ rest⟩ x) (s.handle c event).1
        ((s.handle c event).2 ++ rest) := by
  have haccounts := accounts_handle (c := c) henabled hcalling
  have hstays := (hinorder.orderly.handle (c := c) hrest hguard.1).2
  have htimer : ∀ e, s.request = some e → event = .requestTimer →
      ((s.handle c event).1.requests e.request).canceled = true := by
    rintro e hrequest rfl
    rw [handle_requestTimer hrequest]
    cases hc : (s.requests e.request).canceled with
    | true => exact canceled_cancelRequest (s := { s with requestTimer := false }) _ hc
    | false =>
      have hnow := requests_cancelRequest (s := { s with requestTimer := false }) hc
      exact congrArg Request.canceled hnow
  refine h.step haccounts (fun i hi => ⟨hi, hunanswered i hi⟩)
    (started_extendStops haccounts.request) ?_ ?_ (fun _ => canceled_handle)
    (fun e err hmem hcanceled => h.reports hinorder henabled hrest hguard hcalling hmem
      hcanceled _) ?_ ?_
  · intro e he
    rw [timedOut_extendStops]
    exact List.mem_append_right _ he
  · intro e he
    rw [timedOut_extendStops] at he
    rcases List.mem_append.1 he with he | he
    · split at he
      · next hevent =>
        have hrequest : s.request = some e := Option.mem_toList.1 he
        exact .inr ⟨hrequest, htimer e hrequest hevent⟩
      · cases he
    · exact .inl he
  · intro r hmem
    obtain ⟨hevent, e, hrequest, rfl⟩ := requestTimeoutError_mem_handle hmem
    refine ⟨htimer e hrequest hevent, fun e' hrequest' _ => ?_⟩
    rw [timedOut_extendStops, if_pos hevent]
    exact List.mem_append_left _ (Option.mem_toList.2 hrequest')
  · intro hopen' e hrequest'
    have hopen : s.state ≠ .FINAL := fun hfinal => hopen' (hstays hfinal)
    have hrequest : s.request = some e := by
      rcases haccounts.request with hsame | hnone
      · rwa [← hsame]
      · cases hnone.symm.trans hrequest'
    have hwatched := h.watched hopen e hrequest
    rw [timedOut_extendStops]
    by_cases hevent : event = .requestTimer
    · subst hevent
      obtain rfl := hrest.resolve_left (by simp [Event.isCall])
      rw [handle_requestTimer hrequest, List.append_nil, if_pos rfl]
      have hlist : s.request.toList ++ x.timedOut = e :: x.timedOut := by rw [hrequest]; rfl
      show Watched c (s.request.toList ++ x.timedOut) _ _ e
      rw [hlist]
      exact hwatched.requestTimeout
    · rw [if_neg hevent]
      exact hwatched.handle hinorder.serving (requestPhase_of_request hinorder.phase hrequest)
        hopen hrequest henabled hrest hguard.2 hcalling hevent hopen' hrequest'

/-- What a step adds to the executions that have been started. -/
def startedBy (s s' : Connection) (started : List Execution) : List Execution :=
  match s'.request with
  | some execution => if s.request = some execution then started else execution :: started
  | none => started

theorem startedBy_same {s' : Connection} (h : s'.request = s.request) (started : List Execution) :
    startedBy s s' started = started := by
  rw [startedBy, h]
  cases s.request with
  | none => rfl
  | some e => exact if_pos rfl

/-- A call that is refused, or that has been canceled before. -/
theorem Stopping.countCall {x : Stops} (h : Stopping c x s rest) (e : Execution) :
    Stopping c x (s.countCall e) rest where
  calls := fun e' he' => Nat.lt_succ_of_lt (h.calls e' he')
  callbacks := fun e' err hmem =>
    ⟨(h.callbacks e' err hmem).1, Nat.lt_succ_of_lt (h.callbacks e' err hmem).2⟩
  tail := h.tail
  answers := h.answers
  canceled := h.canceled
  timeouts := h.timeouts
  watched := fun hopen e' he' => (h.watched hopen e' he').frame (.refl _) rfl rfl rfl
    (fun hreading => hreading.congr rfl rfl rfl) fun _ hi _ => hi

theorem Stopping.makeRequest {x : Stops} (h : Stopping c x s rest)
    (hunanswered : ∀ i ∈ rest, i.isAnswer = false)
    (hidle : s.state = .LOGGED_IN → s.request = none) (r : RequestId) (type : RequestType) :
    Stopping c { x with started := startedBy s (s.makeRequest c r type).1 x.started }
      (s.makeRequest c r type).1 ((s.makeRequest c r type).2 ++ rest) := by
  have hnew : ∀ e, e ∈ x.started ∨ e ∈ x.timedOut ∨ s.request = some e →
      e ≠ { call := s.calls, request := r } := by
    rintro e he rfl
    exact Nat.lt_irrefl _ (h.calls _ he)
  have hcounted := h.countCall { call := s.calls, request := r }
  by_cases hstate : s.state = .LOGGED_IN
  · cases hcanceled : (s.requests r).canceled with
    | true =>
      have hcase : s.makeRequest c r type =
          ((s.countCall { call := s.calls, request := r }).nextTick
            (.callback { call := s.calls, request := r } canceledError), []) := by
        rw [Connection.makeRequest, if_neg (not_not.2 hstate), if_pos hcanceled]
      rw [hcase, startedBy_same (by rfl)]
      exact { hcounted with
        callbacks := fun e err hmem => by
          rcases List.mem_append.1 hmem with hmem | hmem
          · exact hcounted.callbacks e err hmem
          · cases List.mem_singleton.1 hmem
            exact ⟨fun hstarted => hnew _ (.inl hstarted) rfl, Nat.lt_succ_self _⟩
        watched := fun hopen e he => (hcounted.watched hopen e he).frame (.refl _) rfl rfl rfl
          (fun hreading => hreading.congr rfl rfl rfl) fun _ hi _ => hi }
    | false =>
      -- the execution begins
      have hcase : s.makeRequest c r type =
          ((s.countCall { call := s.calls, request := r }).writeRequest c
            { call := s.calls, request := r } type).transitionTo c .SENT_CLIENT_REQUEST := by
        rw [Connection.makeRequest, if_neg (not_not.2 hstate), if_neg (by simp [hcanceled])]
      have hnone := hidle hstate
      rw [hcase, transitionTo_loggedIn rfl, List.nil_append]
      generalize hs' : (s.countCall { call := s.calls, request := r }).writeRequest c
        { call := s.calls, request := r } type = s'
      have hrequest : (s'.transitionTo c .SENT_CLIENT_REQUEST).1.request =
          some { call := s.calls, request := r } := by
        rw [request_transitionTo, ← hs']
        rfl
      have hcalls : (s'.transitionTo c .SENT_CLIENT_REQUEST).1.calls = s.calls + 1 := by
        rw [calls_transitionTo, ← hs']
        rfl
      have hticks : (s'.transitionTo c .SENT_CLIENT_REQUEST).1.ticks = s.ticks := by
        rw [ticks_loggedIn rfl, ← hs']
        rfl
      have hkeeps : ∀ r', ((s'.transitionTo c .SENT_CLIENT_REQUEST).1.requests r').canceled =
          (s.requests r').canceled := by
        intro r'
        rw [requests_transitionTo, ← hs']
        by_cases hr : r' = r
        · subst hr
          exact (congrArg Request.canceled (if_pos rfl)).trans rfl
        · exact congrArg Request.canceled (if_neg hr)
      have hstarted : startedBy s (s'.transitionTo c .SENT_CLIENT_REQUEST).1 x.started =
          { call := s.calls, request := r } :: x.started := by
        rw [startedBy, hrequest]
        exact if_neg (by rw [hnone]; simp)
      rw [hstarted]
      exact {
        calls := fun e he => by
          rw [hcalls]
          rcases he with he | he | he
          · rcases List.mem_cons.1 he with rfl | he
            · exact Nat.lt_succ_self _
            · exact Nat.lt_succ_of_lt (h.calls e (.inl he))
          · exact Nat.lt_succ_of_lt (h.calls e (.inr (.inl he)))
          · cases hrequest.symm.trans he
            exact Nat.lt_succ_self _
        callbacks := fun e err hmem => by
          rw [hticks] at hmem
          obtain ⟨hnot, hlt⟩ := h.callbacks e err hmem
          rw [hcalls]
          refine ⟨fun hmem => ?_, Nat.lt_succ_of_lt hlt⟩
          rcases List.mem_cons.1 hmem with rfl | hmem
          · exact Nat.lt_irrefl _ hlt
          · exact hnot hmem
        tail := h.tail
        answers := fun e err hmem => by cases hunanswered _ hmem
        canceled := fun e he => (hkeeps _).trans (h.canceled e he)
        timeouts := fun r' hmem => by
          refine ⟨(hkeeps _).trans (h.timeouts r' hmem).1, fun e he hr => ?_⟩
          cases hrequest.symm.trans he
          subst hr
          cases (h.timeouts _ hmem).1.symm.trans hcanceled
        watched := fun _ e he => by
          cases hrequest.symm.trans he
          rw [← hs']
          exact .write hstate hcanceled (fun hmem => hnew _ (.inr (.inl hmem)) rfl) type }
  · have hcase : s.makeRequest c r type = (s.countCall { call := s.calls, request := r },
        [.answer { call := s.calls, request := r } (some s.invalidStateError)]) := by
      rw [Connection.makeRequest, if_pos hstate]
    rw [hcase, startedBy_same (by rfl)]
    exact { hcounted with
      tail := hunanswered
      answers := fun e err hmem hstarted => by
        rcases List.mem_append.1 hmem with hmem | hmem
        · cases List.mem_singleton.1 hmem
          exact absurd rfl (hnew _ (.inl hstarted))
        · cases hunanswered _ hmem
      timeouts := fun r' hmem => hcounted.timeouts r' (by simpa using hmem)
      watched := fun hopen e he => (hcounted.watched hopen e he).frame (.refl _) rfl rfl rfl id
        (Covers.append [_]) }

/-- An event that calls `makeRequest`, or a callback without a response. -/
theorem Stopping.handleCall {x : Stops} {event : Event} (h : Stopping c x s rest)
    (hinorder : InOrder s rest) (hunanswered : ∀ i ∈ rest, i.isAnswer = false)
    (henabled : s.enabled event = true) (hcalling : event.isCalling = true) :
    Stopping c (extendStops c ⟨s, rest⟩ (.event event)
      ⟨(s.handle c event).1, (s.handle c event).2 ++ rest⟩ x) (s.handle c event).1
        ((s.handle c event).2 ++ rest) := by
  have hidle : s.state = .LOGGED_IN → s.request = none := by
    intro hstate
    cases hinorder.serving.stage with
    | outside hout =>
      rw [hstate] at hout
      cases hout
    | idle _ hnone => exact hnone
    | waiting _ h => cases hstate.symm.trans h
    | reading _ h => cases hstate.symm.trans h.state
    | attending _ h => cases hstate.symm.trans h
  cases event with
  | makeRequest r type => exact h.makeRequest hunanswered hidle r type
  | prepare r =>
    have hprepared : Stopping c x (s.updateRequest r fun request =>
        { request with preparing := true, prepared := request.prepared + 1 }) rest := by
      have hspares : Spares [] s (s.updateRequest r fun request =>
          { request with preparing := true, prepared := request.prepared + 1 }, []) :=
        .updateRequest ⟨⟨rfl, rfl⟩, fun _ => rfl⟩
      refine h.step hspares.toAccounts (fun i hi => ⟨hi, hunanswered i hi⟩) rfl (fun _ he => he)
        (fun _ he => .inl he) (fun r' hc => ((hspares.requests r').canceled).trans hc) (by simp)
        (by simp) fun hopen e he => ?_
      exact (h.watched hopen e he).frame (hspares.requests _) rfl rfl rfl
        (fun hreading => hreading.congr rfl rfl rfl) fun _ hi _ => hi
    exact hprepared.makeRequest hunanswered hidle r .RPC_REQUEST
  | reset =>
    have hflagged : Stopping c x { s with
        resetConnectionOnNextRequest := true, trace := .resetCalled :: s.trace } rest := { h with
      watched := fun hopen e he => (h.watched hopen e he).frame (.refl _) rfl rfl rfl
        (fun hreading => hreading.congr rfl rfl rfl) fun _ hi _ => hi }
    exact hflagged.makeRequest hunanswered hidle _ .SQL_BATCH
  | tick event =>
    cases event with
    | callback e err =>
      have ht : .callback e err ∈ s.ticks := of_decide_eq_true henabled
      have hnot := (h.callbacks e err ht).1
      show Stopping c { x with started := startedBy s { s with
        ticks := s.ticks.erase (.callback e err) } x.started } _ ([.answer e (some err)] ++ rest)
      rw [startedBy_same (by rfl)]
      exact { h with
        callbacks := fun e' err' hmem => h.callbacks e' err' (List.mem_of_mem_erase hmem)
        tail := hunanswered
        answers := fun e' err' hmem hstarted => by
          rcases List.mem_append.1 hmem with hmem | hmem
          · cases List.mem_singleton.1 hmem
            exact absurd hstarted hnot
          · cases hunanswered _ hmem
        timeouts := fun r' hmem => h.timeouts r' (by simpa using hmem)
        watched := fun hopen e' he' => (h.watched hopen e' he').frame (.refl _) rfl rfl rfl
          (fun hreading => hreading.congr rfl rfl rfl) (Covers.append [_]) }
    | _ => cases hcalling
  | _ => cases hcalling

/-- What interrupts a handler finds a callback on top of the stack, and no answer below it. -/
theorem Stopping.unanswered {x : Stops} {event : Event} (h : Stopping c x s rest)
    (hadmits : (component c).admits event rest = true) : ∀ i ∈ rest, i.isAnswer = false := by
  cases rest with
  | nil => simp
  | cons i rest =>
    have hcallback : i = .callback := by
      simp only [Component.admits, Bool.and_eq_true] at hadmits
      exact of_decide_eq_true hadmits.2
    intro j hj
    rcases List.mem_cons.1 hj with rfl | hj
    · rw [hcallback]
      rfl
    · exact h.tail j hj

/-- **A canceled request never reports success**: in the runs in which canceling is noticed,
the callback of an execution that has been canceled or has timed out is called with an
error. -/
theorem stops_reported {moves : List (Move Event)} {k : Config Connection Instr} {x : Stops}
    (h : StopRuns c (Heeded c) moves k x) {e : Execution} {err : Option Err} {rest : List Instr}
    (hstack : k.stack = .answer e err :: rest) (hstarted : e ∈ x.started)
    (hstopped : (k.state.requests e.request).canceled = true ∨ e ∈ x.timedOut) :
    Reports x k.state e err := by
  have hstopping : Stopping c x k.state k.stack := by
    refine Machine.Steps.history_invariant (I := fun k x => Stopping c x k.state k.stack)
      (J := fun k => InOrder k.state k.stack) ?_ ?_ h ?_
    · intro moves k hrun
      refine inOrder_of_runsTo (hrun.mono ?_)
      intro k m hguard
      cases m with
      | next => trivial
      | event e => exact hguard.1
    · intro k m k' x hinorder _ hstopping hguard hstep
      obtain ⟨i, rest, rfl, hstack, rfl⟩ | ⟨event, s', is, rfl, hadmits, hstart, rfl⟩ :=
        Component.step_cases hstep
      · obtain ⟨s, stack⟩ := k
        dsimp only at hstack
        subst hstack
        exact hstopping.exec hinorder
      · obtain ⟨henabled, hhandle⟩ := start_eq_some hstart
        obtain ⟨rfl, rfl⟩ := Prod.mk.inj hhandle
        have hunanswered := hstopping.unanswered hadmits
        cases hcalling : event.isCalling with
        | true => exact hstopping.handleCall hinorder hunanswered henabled hcalling
        | false =>
          exact hstopping.handleEvent hinorder hunanswered henabled (isCall_or_eq_nil hadmits)
            hguard hcalling
    · constructor <;> simp [Connection.new, Stops.none]
  refine hstopping.answers e err (by simp [hstack]) hstarted ?_
  exact hstopped.elim id (hstopping.canceled e)

/-- A request is sent, and canceled before its response begins; the response is next. -/
def canceledEarlyMoves (rest : List (Move Event)) : List (Move Event) :=
  loggedInMoves ++
    [.event (.makeRequest (.request 0) .SQL_BATCH), .event (.payloadEnd 0), .event (.finish 0),
      .event (.cancelRequest (.request 0)), .next, .next, .next,
      .event (.resume (.requestMessage 0) .done)] ++ rest

/-- The execution is about to be answered. -/
def answers (execution : Execution) (p : Config Connection Instr × Stops) : Bool :=
  (match p.1.stack with
    | .answer execution' _ :: _ => execution' = execution
    | _ => false) &&
  execution ∈ p.2.started && (p.1.state.requests execution.request).canceled

/-- With a cancel timer the response is ignored, and the acknowledgement answers. -/
theorem stops_reported_attention : ∃ moves k x err rest,
    StopRuns exampleConfig (Heeded exampleConfig) moves k x ∧
      k.stack = .answer { call := 0, request := .request 0 } err :: rest ∧
        Reports x k.state { call := 0, request := .request 0 } err := by
  have hrun : ((stopsMachine exampleConfig).run
      (fun p => Component.guarded (Heeded exampleConfig) p.1) (⟨.new, []⟩, .none)
      (canceledEarlyMoves [.event (.resume .attentionMessage .done),
        .event (.resume (.attentionTokens false (some .attention)) (.token (exampleDone true))),
        .event (.resume (.attentionTokens true (some .attention)) .done)])).any
          (answers { call := 0, request := .request 0 }) = true := by decide
  obtain ⟨⟨⟨s, stack⟩, x⟩, hk, hanswers⟩ := Machine.exists_steps_of_run _ hrun
  simp only [answers, Bool.and_eq_true, decide_eq_true_eq] at hanswers
  obtain ⟨⟨hstack, hstarted⟩, hcanceled⟩ := hanswers
  split at hstack
  · next execution err rest =>
    obtain rfl := of_decide_eq_true hstack
    exact ⟨_, _, x, err, rest, hk, rfl, stops_reported hk rfl hstarted (.inl hcanceled)⟩
  · cases hstack

/-- Without one it is reported as the response to a request that was not canceled. -/
theorem cancel_unreported : ¬∀ (c : ConnectionConfig) (moves : List (Move Event))
    (k : Config Connection Instr) (x : Stops), StopRuns c (fun _ _ _ => True) moves k x →
      ∀ (e : Execution) (err : Option Err) (rest : List Instr), k.stack = .answer e err :: rest →
        e ∈ x.started → (k.state.requests e.request).canceled = true ∨ e ∈ x.timedOut →
          Reports x k.state e err := by
  intro h
  let c : ConnectionConfig := { exampleConfig with cancelTimeout := .finite 0 }
  have hrun : ((stopsMachine c).run (fun p => Component.guarded (fun _ _ _ => True) p.1)
      (⟨.new, []⟩, .none) (canceledEarlyMoves
        [.event (.resume (.requestTokens 0 (some (.request 0)) [] (some (.response 0))) .done)])).any
          (fun p => answers { call := 0, request := .request 0 } p &&
            p.1.stack = [.answer { call := 0, request := .request 0 } none] &&
              !Reports p.2 p.1.state { call := 0, request := .request 0 } none) = true := by decide
  obtain ⟨⟨k, x⟩, hk, hp⟩ := Machine.exists_steps_of_run _ hrun
  simp only [answers, Bool.and_eq_true, decide_eq_true_eq] at hp
  obtain ⟨⟨⟨⟨-, hstarted⟩, hcanceled⟩, hstack⟩, hnot⟩ := hp
  have hreports := h c _ k x hk _ _ _ hstack hstarted (.inl hcanceled)
  simp [hreports] at hnot

end Connection

end Tedious
