import Tedious.Connection.Final
import Tedious.Connection.Phase

/-!
# Tedious.Connection.Serving

What a connection that is logged in is doing: it waits for a request, for the response to
its request, reads the response, or waits for the acknowledgement of an attention message
(`Stage`). One thing is under way at a time, and only the listener that was added for the
response that is being read may leave `SENT_CLIENT_REQUEST` for `SENT_ATTENTION`. This
holds in the runs in which nothing comes too late for a connection that is in `FINAL`
(`serving_of_runsTo`); a connection that has left `FINAL` may read two responses at a time.
-/

namespace Tedious

open Chunked Reentrant

/-- The acknowledgement of an attention message. -/
def Pending.isAttention : Pending → Bool
  | attentionMessage | attentionTokens .. => true
  | _ => false

/-- Neither a listener of a request nor a part of `cleanupConnection`. -/
def Instr.isNeutral : Instr → Bool
  | .cancelListener .. | .closeRequest | .finishCleanup => false
  | _ => true

/-- A part of `cleanupConnection` that drops the request. -/
def Instr.isCleaning : Instr → Bool
  | .closeRequest | .finishCleanup => true
  | _ => false

namespace Connection

/-- The response to an execution is read. -/
structure Reading (s : Connection) (x : Execution) : Prop where
  state : s.state = .SENT_CLIENT_REQUEST
  request : s.request = some x
  pending : ∃ errors answers, s.pending = [.requestTokens x.call (some x.request) errors answers]

/-- What a connection is doing once it is logged in. -/
inductive Stage (s : Connection) : Prop
  | outside (h : s.state.isLoggedIn = false)
  | idle (hstate : s.state = .LOGGED_IN) (hrequest : s.request = none) (hpending : s.pending = [])
  | waiting (x : Execution) (hstate : s.state = .SENT_CLIENT_REQUEST)
      (hrequest : s.request = some x)
      (hpending : s.pending = [] ∨ s.pending = [.requestMessage x.call])
  | reading (x : Execution) (h : Reading s x)
  | attending (x : Execution) (hstate : s.state = .SENT_ATTENTION) (hrequest : s.request = some x)
      (hpending : s.pending = [] ∨ ∃ p, s.pending = [p] ∧ p.isAttention = true)

/-- How often the listener for the response of a call is to run, or may be. -/
def responses (s : Connection) (stack : List Instr) (r : RequestId) (call : Nat) : Nat :=
  (s.requests r).cancelListeners.count (.response call) +
    stack.count (.cancelListener r (.response call))

structure Serving (s : Connection) (stack : List Instr) : Prop where
  stage : Stage s
  listened : s.state ≠ .FINAL → ∀ r call, 0 < responses s stack r call →
    responses s stack r call = 1 ∧ Reading s { call, request := r }
  cleaning : s.state.isLoggedIn = true → ∀ i ∈ stack, i.isCleaning = false

variable {c : ConnectionConfig} {s : Connection} {rest : List Instr}

/-! ### Listeners -/

theorem count_removeListener_of_ne {request : Request} {l l' : CancelListener} (h : l' ≠ l) :
    (request.removeListener l).cancelListeners.count l' = request.cancelListeners.count l' := by
  unfold Request.removeListener
  rw [List.count_reverse, List.count_erase_of_ne h, List.count_reverse]

theorem count_removeListener_self {request : Request} {l : CancelListener} :
    (request.removeListener l).cancelListeners.count l = request.cancelListeners.count l - 1 := by
  unfold Request.removeListener
  rw [List.count_reverse, List.count_erase_self, List.count_reverse]

theorem responses_append {is : List Instr} (his : ∀ i ∈ is, i.isNeutral = true) (r : RequestId)
    (call : Nat) : responses s (is ++ rest) r call = responses s rest r call := by
  have hnone : is.count (.cancelListener r (.response call)) = 0 :=
    List.count_eq_zero.2 fun hmem => by cases his _ hmem
  unfold responses
  rw [List.count_append, hnone, Nat.zero_add]

theorem isNeutral_tokenEvent (token : Token) : ∀ i ∈ tokenEvent token, i.isNeutral = true := by
  unfold tokenEvent
  split <;> simp [Instr.isNeutral]

theorem isCleaning_of_isNeutral {i : Instr} (h : i.isNeutral = true) : i.isCleaning = false := by
  cases i <;> first | rfl | cases h

theorem isNeutral_answerOrThrow (execution : Option Execution) (err : Option Err) :
    ∀ i ∈ answerOrThrow execution err, i.isNeutral = true := by
  cases execution <;> simp [answerOrThrow, Instr.isNeutral]

/-- The states of the request phase are entered without cleaning up. -/
theorem transitionTo_loggedIn {st : ConnectionState} (hst : st.isLoggedIn = true) :
    (s.transitionTo c st).2 = [] := by
  unfold transitionTo
  split
  · rfl
  · cases st <;> first | (cases hst; done) | rfl

namespace Serving

/-- In `FINAL`, or while it logs in, a connection serves nobody. -/
theorem of_final (h : s.state = .FINAL) : Serving s rest where
  stage := .outside (by rw [h]; rfl)
  listened := fun hopen => absurd h hopen
  cleaning := fun hin => by rw [h] at hin; cases hin

theorem pop {i : Instr} (h : Serving s (i :: rest)) : Serving s rest where
  stage := h.stage
  listened := fun hopen r call hpos => by
    have hle : responses s rest r call ≤ responses s (i :: rest) r call :=
      Nat.add_le_add_left (List.count_le_count_cons ..) _
    obtain ⟨hone, hreading⟩ := h.listened hopen r call (by omega)
    exact ⟨by omega, hreading⟩
  cleaning := fun hin j hj => h.cleaning hin j (List.mem_cons_of_mem _ hj)

end Serving

theorem Reading.congr {s' : Connection} {x : Execution} (h : Reading s x)
    (hstate : s'.state = s.state) (hrequest : s'.request = s.request)
    (hpending : s'.pending = s.pending) : Reading s' x :=
  ⟨hstate.trans h.state, hrequest.trans h.request, hpending ▸ h.pending⟩

theorem Stage.congr {s' : Connection} (h : Stage s) (hstate : s'.state = s.state)
    (hrequest : s'.request = s.request) (hpending : s'.pending = s.pending) : Stage s' := by
  cases h with
  | outside h => exact .outside (hstate ▸ h)
  | idle h₁ h₂ h₃ => exact .idle (hstate.trans h₁) (hrequest.trans h₂) (hpending.trans h₃)
  | waiting x h₁ h₂ h₃ =>
    exact .waiting x (hstate.trans h₁) (hrequest.trans h₂) (hpending ▸ h₃)
  | reading x h => exact .reading x (h.congr hstate hrequest hpending)
  | attending x h₁ h₂ h₃ =>
    exact .attending x (hstate.trans h₁) (hrequest.trans h₂) (hpending ▸ h₃)

namespace Serving

/-- Neither the stage nor the listeners for the response change. -/
theorem still {s' : Connection} {is : List Instr} (h : Serving s rest)
    (hstate : s'.state = s.state) (hrequest : s'.request = s.request)
    (hpending : s'.pending = s.pending)
    (hlisteners : ∀ r call, (s'.requests r).cancelListeners.count (.response call) =
      (s.requests r).cancelListeners.count (.response call))
    (his : ∀ i ∈ is, i.isNeutral = true) : Serving s' (is ++ rest) where
  stage := h.stage.congr hstate hrequest hpending
  listened := fun hopen r call => by
    have hsame : responses s' (is ++ rest) r call = responses s rest r call := by
      rw [responses_append his]
      unfold responses
      rw [hlisteners]
    rw [hsame]
    intro hpos
    obtain ⟨hone, hreading⟩ := h.listened (hstate ▸ hopen) r call hpos
    exact ⟨hone, hreading.congr hstate hrequest hpending⟩
  cleaning := fun hin => List.forall_mem_append.2
    ⟨fun i hi => isCleaning_of_isNeutral (his i hi), h.cleaning (hstate ▸ hin)⟩

/-- The same with nothing left to do. -/
theorem same {s' : Connection} (h : Serving s rest) (hstate : s'.state = s.state)
    (hrequest : s'.request = s.request) (hpending : s'.pending = s.pending)
    (hlisteners : ∀ r call, (s'.requests r).cancelListeners.count (.response call) =
      (s.requests r).cancelListeners.count (.response call)) : Serving s' rest := by
  have hstill := h.still hstate hrequest hpending hlisteners
    (show ∀ i ∈ ([] : List Instr), i.isNeutral = true by simp)
  exact hstill

/-- The same where the requests are not touched at all. -/
theorem push {is : List Instr} (h : Serving s rest) (his : ∀ i ∈ is, i.isNeutral = true) :
    Serving s (is ++ rest) :=
  h.still rfl rfl rfl (fun _ _ => rfl) his

end Serving

/-- A change of a request that does not touch who listens to it. -/
theorem count_updateRequest {r r' : RequestId} {f : Request → Request} {l : CancelListener}
    (hf : (f (s.requests r)).cancelListeners.count l = (s.requests r).cancelListeners.count l) :
    ((s.updateRequest r f).requests r').cancelListeners.count l =
      (s.requests r').cancelListeners.count l := by
  dsimp only [updateRequest]
  split
  · next hr => rw [hr, hf]
  · rfl

/-- The execution listens for the `'cancel'` event of its request. -/
theorem listeners_writeRequest (x : Execution) (type : RequestType) (r : RequestId) :
    ((s.writeRequest c x type).requests r).cancelListeners = (s.requests r).cancelListeners ++
      if r = x.request then [.unsent x.call] else [] := by
  by_cases hr : r = x.request
  · subst hr
    simp [writeRequest, updateRequest, updateMessage, send, record, Request.once]
  · simp [writeRequest, updateRequest, updateMessage, send, record, hr]

theorem sameListeners_completeToken (call : Nat) (r : RequestId) (errors : List RequestError)
    (token : Token) (r' : RequestId) : RequestTokenHandler.SameListeners (s.requests r')
      ((s.completeToken c call r errors token).requests r') := by
  have hcompleted := RequestTokenHandler.sameListeners_complete c.toHandlerOptions r token
    { errors, request := s.requests r, procReturnStatusValue := s.procReturnStatusValue }
  dsimp only [completeToken, updateRequest]
  split
  · next hr =>
    rw [hr]
    exact hcompleted
  · exact ⟨rfl, rfl⟩

theorem Reading.setErrors {x : Execution} (h : Reading s x) (call : Nat)
    (errors : List RequestError) :
    Reading { s with pending := s.pending.map (Pending.setErrors call errors) } x := by
  obtain ⟨hstate, hrequest, errors', answers, hpending⟩ := h
  refine ⟨hstate, hrequest, if x.call = call then errors else errors', answers, ?_⟩
  dsimp only
  rw [hpending]
  rfl

theorem Stage.setErrors (h : Stage s) (call : Nat) (errors : List RequestError) :
    Stage { s with pending := s.pending.map (Pending.setErrors call errors) } := by
  cases h with
  | outside h => exact .outside h
  | idle h₁ h₂ h₃ => exact .idle h₁ h₂ (by simp [h₃])
  | waiting x h₁ h₂ h₃ =>
    refine .waiting x h₁ h₂ (h₃.imp ?_ ?_) <;> intro hpending <;> simp [hpending, Pending.setErrors]
  | reading x h => exact .reading x (h.setErrors call errors)
  | attending x h₁ h₂ h₃ =>
    refine .attending x h₁ h₂ (h₃.imp ?_ ?_)
    · intro hpending
      simp [hpending]
    · rintro ⟨p, hpending, hp⟩
      exact ⟨p.setErrors call errors, by simp [hpending], by cases p <;> first | rfl | cases hp⟩

/-- A socket error closes a connection that is logged in. -/
theorem dispatchEvent_socketError (hin : s.state.isLoggedIn = true) (err : Err) :
    (s.dispatchEvent c (.socketError err)).1.state = .FINAL := by
  cases hstate : s.state <;> rw [hstate] at hin <;> first | (cases hin; done) | skip
  all_goals
    simp only [dispatchEvent, eventHandler, hstate]
    exact state_transitionTo _

/-- A connect timer that fires too late closes a connection that is logged in, but not at
once. -/
theorem dispatchEvent_connectTimeout (hin : s.state.isLoggedIn = true) :
    s.dispatchEvent c .connectTimeout = (s, [.emit (.error (.error (JsString.ofString "No event '" ++
      JsString.ofString "connectTimeout" ++ JsString.ofString "' in state '" ++
      JsString.ofString s.state.name ++ JsString.ofString "'"))), .enterFinal]) := by
  cases hstate : s.state <;> rw [hstate] at hin <;>
    first | (cases hin; done) | simp [dispatchEvent, eventHandler, hstate, eventName]

/-! ### The login -/

/-- Nothing that drops a request is left to do in the states of the request phase. -/
def Clean (r : Connection × List Instr) : Prop :=
  r.1.state.isLoggedIn = true → ∀ i ∈ r.2, i.isCleaning = false

/-- Only the states that clean up are entered with something like that left to do. -/
theorem clean_resume (p : Pending) (outcome : Outcome) : Clean (s.resume c p outcome) := by
  intro hin i hi
  rcases mem_resume hi with h | ⟨err, rfl⟩ | ⟨-, hstate⟩ | ⟨x, err, rfl⟩
  · cases i <;> first | rfl | cases h
  · rfl
  · rcases hstate with hstate | hstate <;> rw [hstate] at hin <;> cases hin
  · rfl

/-- A login is not over but by what is under way. -/
theorem outside_change {cause : Cause} {s' : Connection} (hchange : Change c cause s s')
    (henters : ∀ st ∈ cause.enters, st.isLoggedIn = false) (hout : s.state.isLoggedIn = false) :
    s'.state.isLoggedIn = false := by
  cases hchange with
  | enter hst =>
    rw [state_transitionTo]
    exact henters _ hst
  | retry =>
    rw [state_transitionTo]
    rfl
  | serve _ _ _ _ hstate =>
    rw [hstate] at hout
    cases hout
  | _ => exact hout

theorem exec_outside {i : Instr} (hlogin : LoginPhase s (i :: rest))
    (hout : s.state.isLoggedIn = false) : (exec c i s).1.state.isLoggedIn = false := by
  refine (changes_exec i).keeps (fun hchange => outside_change hchange ?_) hout
  cases i with
  | cancelListener r l => exact absurd (List.mem_cons_self ..) (hlogin.listenersRun r l)
  | _ => simp [Cause.enters, ConnectionState.isLoggedIn]

theorem handle_outside {event : Event} (hout : s.state.isLoggedIn = false)
    (hevent : ∀ p outcome, event ≠ .resume p outcome) :
    (s.handle c event).1.state.isLoggedIn = false := by
  refine (changes_handle event).keeps (fun hchange => outside_change hchange ?_) hout
  cases event with
  | resume p outcome => exact absurd rfl (hevent p outcome)
  | _ => simp [Cause.enters, ConnectionState.isLoggedIn]

theorem clean_handle {event : Event} (hout : s.state.isLoggedIn = false)
    (hrest : event.isCall = true ∨ rest = []) :
    Clean ((s.handle c event).1, (s.handle c event).2 ++ rest) := by
  by_cases hevent : ∃ p outcome, event = .resume p outcome
  · obtain ⟨p, outcome, rfl⟩ := hevent
    obtain rfl : rest = [] := hrest.resolve_left (by simp [Event.isCall])
    rw [List.append_nil]
    exact clean_resume p outcome
  · intro hin
    have hout' := handle_outside (c := c) hout fun p outcome h => hevent ⟨p, outcome, h⟩
    cases hout'.symm.trans hin

/-- A change that does not concern what a listener for a response listens to. -/
theorem requestChange_count {cause : Cause} {r : RequestId} {request : Request}
    (h : RequestChange c s r cause request) (hquiet : cause.isQuiet = true) (call : Nat) :
    request.cancelListeners.count (.response call) =
      (s.requests r).cancelListeners.count (.response call) := by
  cases h with
  | canceled hcancels => cases (Cause.of_isQuiet hquiet).2.2.2.1.symm.trans hcancels
  | sent =>
    unfold Request.once
    rw [List.count_append, count_removeListener_of_ne (by simp)]
    simp
  | timeout => rfl
  | failed => rfl
  | answered => rfl
  | timedOut => rfl
  | _ => cases hquiet

theorem count_quiet {cause : Cause} {s' : Connection} (h : Changes c cause s s')
    (hquiet : cause.isQuiet = true) (r : RequestId) (call : Nat) :
    (s'.requests r).cancelListeners.count (.response call) =
      (s.requests r).cancelListeners.count (.response call) := by
  refine h.keeps (P := fun s' => (s'.requests r).cancelListeners.count (.response call) =
    (s.requests r).cancelListeners.count (.response call)) (fun hchange hsame => ?_) rfl
  cases hchange with
  | enter => rwa [requests_transitionTo]
  | retry => rwa [requests_transitionTo]
  | serve hcause => cases (Cause.of_isQuiet hquiet).2.2.1.symm.trans hcause
  | request _ hrequest =>
    exact (count_updateRequest (requestChange_count hrequest hquiet call)).trans hsame
  | _ => exact hsame

namespace Serving

/-- A quiet step. -/
theorem quiet {cause : Cause} {s' : Connection} {is : List Instr} (h : Serving s rest)
    (hquiet : cause.isQuiet = true) (hchanges : Changes c cause s s')
    (his : ∀ i ∈ is, cause.leaves i = true) : Serving s' (is ++ rest) := by
  obtain ⟨hstate, hrequest, hpending⟩ := hchanges.quiet hquiet
  refine h.still hstate hrequest hpending (count_quiet hchanges hquiet) fun i hi => ?_
  have hleaves := his i hi
  unfold Cause.isQuiet at hquiet
  split at hquiet <;> first | cases hquiet; done | (cases i <;> first | rfl | cases hleaves)

/-- A login serves nobody, and leaves nothing behind when it is over. -/
theorem of_login {is : List Instr} (hlogin : LoginPhase s is) (hclean : Clean (s, is)) :
    Serving s is where
  stage := by
    cases hin : s.state.isLoggedIn with
    | false => exact .outside hin
    | true =>
      have hrequest := hlogin.toRequestPhase hin
      have hstate : s.state = .LOGGED_IN := by
        obtain ⟨hne, hne'⟩ := hlogin.state
        revert hin hne hne'
        cases s.state <;> simp [ConnectionState.isLoggedIn]
      exact .idle hstate hlogin.request (threads_eq_zero.1 (hlogin.idle (.inr (.inr hstate)))).1
  listened := fun _ r call hpos => by
    have hnone : responses s is r call = 0 := by
      unfold responses
      rw [hlogin.listeners r, List.count_eq_zero.2 (hlogin.listenersRun r _)]
      rfl
    omega
  cleaning := hclean

/-- The listener for a response leaves it for the acknowledgement of an attention message. -/
theorem response {r : RequestId} {call : Nat}
    (h : Serving s (.cancelListener r (.response call) :: rest)) (hopen : s.state ≠ .FINAL) :
    Serving (s.onCancel c (.response call)).1 ((s.onCancel c (.response call)).2 ++ rest) := by
  have hpos : 0 < responses s (.cancelListener r (.response call) :: rest) r call := by
    unfold responses
    rw [List.count_cons_self]
    omega
  obtain ⟨hone, hstate, hrequest, errors, answers, hpending⟩ := h.listened hopen r call hpos
  have hentered : s.onCancel c (.response call) = ({ s with
      pending := s.pending.filter fun p => ¬p.isResponseOf call }.transitionTo c .SENT_ATTENTION) :=
    rfl
  have hunlistened : s.pending.filter (fun p => ¬p.isResponseOf call) = [] := by
    simp [hpending, Pending.isResponseOf]
  rw [hentered, hunlistened, transitionTo_loggedIn rfl]
  constructor
  · refine .attending _ (state_transitionTo _) ((request_transitionTo _).trans hrequest)
      (.inr ⟨.attentionMessage, ?_, rfl⟩)
    rw [pending_transitionTo]
    simp [hstate, ConnectionState.waits]
  · -- no other listener is left
    intro _ r' call' hpos'
    have hsame : responses ({ s with pending := [] }.transitionTo c .SENT_ATTENTION).1
        ([] ++ rest) r' call' = responses s rest r' call' := by
      unfold responses
      rw [requests_transitionTo]
      rfl
    rw [hsame] at hpos'
    obtain ⟨-, hreading⟩ := h.pop.listened hopen r' call' hpos'
    obtain ⟨rfl, rfl⟩ : call' = call ∧ r' = r := by
      have := Option.some.inj (hreading.request.symm.trans hrequest)
      exact ⟨congrArg Execution.call this, congrArg Execution.request this⟩
    unfold responses at hone hpos'
    rw [List.count_cons_self] at hone
    omega
  · exact fun _ => h.pop.cleaning (by rw [hstate]; rfl)

theorem execRequest {i : Instr} (h : Serving s (i :: rest)) (hphase : RequestPhase s (i :: rest))
    (hopen : s.state ≠ .FINAL) :
    Serving (Connection.exec c i s).1 ((Connection.exec c i s).2 ++ rest) := by
  have hloggedIn := hphase.isLoggedIn hopen
  cases i with
  | enterFinal => exact of_final (state_transitionTo _)
  | enterConnecting => exact absurd (List.mem_cons_self ..) hphase.notConnecting
  | dispatchSocketError err => exact of_final (dispatchEvent_socketError hloggedIn err)
  | afterConnectTimeout =>
    have hdispatched := dispatchEvent_connectTimeout (c := c) (s := { s with connectTimer := false })
      hloggedIn
    rw [show Connection.exec c .afterConnectTimeout s = _ from hdispatched]
    exact h.pop.still rfl rfl rfl (fun _ _ => rfl) (by simp [Instr.isNeutral])
  | closeRequest => cases h.cleaning hloggedIn _ (List.mem_cons_self ..)
  | finishCleanup => cases h.cleaning hloggedIn _ (List.mem_cons_self ..)
  | cancelListener r l =>
    cases l with
    | response call => exact h.response hopen
    | _ => exact h.pop.quiet rfl (changes_exec _) (leaves_exec _)
  | completeToken call r errors token =>
    have hmapped : ∀ errors', Serving { s with
        pending := s.pending.map (Pending.setErrors call errors') } rest := fun errors' => {
      stage := h.stage.setErrors call errors'
      listened := fun hopen r' call' hpos => by
        obtain ⟨hone, hreading⟩ := h.pop.listened hopen r' call' hpos
        exact ⟨hone, hreading.setErrors call errors'⟩
      cleaning := h.pop.cleaning }
    refine (hmapped _).still rfl rfl rfl (fun r' call' => ?_) (by simp [Connection.exec])
    exact congrArg (List.count _) (sameListeners_completeToken call r errors token r').cancelListeners
  | _ => exact h.pop.quiet rfl (changes_exec _) (leaves_exec _)

end Serving

/-! ### Events -/

theorem count_listeners (r r' : RequestId) (l : CancelListener) (ls : List CancelListener) :
    (ls.flatMap fun l => [Instr.callback, .cancelListener r l]).count (.cancelListener r' l) =
      if r' = r then ls.count l else 0 := by
  induction ls with
  | nil => simp
  | cons l' ls ih =>
    rw [List.flatMap_cons, List.count_append, ih, List.count_cons]
    by_cases hr : r' = r
    · subst hr
      by_cases hl : l' = l
      · subst hl
        simp [Nat.add_comm]
      · simp [hl]
    · have hne : ¬r = r' := fun h => hr h.symm
      simp [hr, hne]

/-- What listens to a request that is canceled runs. -/
theorem responses_cancelRequest (r r' : RequestId) (call : Nat) :
    responses (s.cancelRequest r).1 ((s.cancelRequest r).2 ++ rest) r' call =
      responses s rest r' call := by
  unfold cancelRequest
  split
  · rfl
  · unfold responses
    simp only [List.count_append, count_listeners, updateRequest]
    by_cases hr : r' = r
    · subst hr
      simp
    · simp [hr]

namespace Serving

theorem cancelRequest (h : Serving s rest) (r : RequestId) :
    Serving (s.cancelRequest r).1 ((s.cancelRequest r).2 ++ rest) := by
  have hsame : (s.cancelRequest r).1.request = s.request ∧
      (s.cancelRequest r).1.pending = s.pending := by
    unfold Connection.cancelRequest
    split <;> exact ⟨rfl, rfl⟩
  have hstate := state_cancelRequest (s := s) r
  exact {
    stage := h.stage.congr hstate hsame.1 hsame.2
    listened := fun hopen r' call hpos => by
      rw [responses_cancelRequest] at hpos ⊢
      obtain ⟨hone, hreading⟩ := h.listened (hstate ▸ hopen) r' call hpos
      exact ⟨hone, hreading.congr hstate hsame.1 hsame.2⟩
    cleaning := fun hin => by
      refine List.forall_mem_append.2 ⟨fun i hi => ?_, h.cleaning (hstate ▸ hin)⟩
      rcases mem_cancelRequest hi with rfl | ⟨-, l, -, rfl⟩ <;> rfl }

/-- Nobody listens for a response while there is none. -/
theorem responses_eq_zero (h : Serving s rest) (hopen : s.state ≠ .FINAL)
    (hreading : ∀ x, ¬Reading s x) (r : RequestId) (call : Nat) : responses s rest r call = 0 := by
  by_contra hne
  exact hreading _ (h.listened hopen r call (Nat.pos_of_ne_zero hne)).2

/-- An admitted request is written, and its response waited for. -/
theorem write (h : Serving s rest) (hstate : s.state = .LOGGED_IN) (r : RequestId)
    (type : RequestType) :
    Serving (((s.countCall { call := s.calls, request := r }).writeRequest c
        { call := s.calls, request := r } type).transitionTo c .SENT_CLIENT_REQUEST).1 rest := by
  -- only an idle connection admits a request, and nothing is under way for it
  have hpending : s.pending = [] := by
    cases h.stage with
    | outside h =>
      rw [hstate] at h
      cases h
    | idle _ _ hpending => exact hpending
    | waiting _ h => cases hstate.symm.trans h
    | reading _ h => cases hstate.symm.trans h.state
    | attending _ h => cases hstate.symm.trans h
  generalize hs' : (s.countCall { call := s.calls, request := r }).writeRequest c
    { call := s.calls, request := r } type = s'
  have hwritten : s'.state = s.state ∧ s'.request = some { call := s.calls, request := r } ∧
      s'.pending = s.pending ∧ s'.calls = s.calls + 1 := by
    obtain ⟨_, _, _, hwrite⟩ := writeRequest_eq c (s.countCall { call := s.calls, request := r })
      { call := s.calls, request := r } type
    rw [← hs', hwrite]
    exact ⟨rfl, rfl, rfl, rfl⟩
  have hlisteners : ∀ r' call, responses s' rest r' call = responses s rest r' call := by
    intro r' call
    unfold responses
    rw [← hs', listeners_writeRequest, List.count_append]
    split <;> simp [countCall, record]
  constructor
  · refine .waiting { call := s.calls, request := r } (state_transitionTo _)
      ((request_transitionTo _).trans hwritten.2.1) (.inr ?_)
    rw [pending_transitionTo, hwritten.1, hwritten.2.2.1, hwritten.2.2.2, hpending, hstate]
    rfl
  · intro _ r' call hpos
    have hnone : responses s rest r' call = 0 := h.responses_eq_zero (by simp [hstate])
      (fun x hreading => by cases hstate.symm.trans hreading.state) r' call
    have hsame : responses (s'.transitionTo c .SENT_CLIENT_REQUEST).1 rest r' call =
        responses s' rest r' call := by
      unfold responses
      rw [requests_transitionTo]
    rw [hsame, hlisteners, hnone] at hpos
    cases hpos
  · exact fun _ => h.cleaning (by rw [hstate]; rfl)

theorem makeRequest (h : Serving s rest) (r : RequestId) (type : RequestType) :
    Serving (s.makeRequest c r type).1 ((s.makeRequest c r type).2 ++ rest) := by
  have hcall : Serving (s.countCall { call := s.calls, request := r }) rest :=
    h.same rfl rfl rfl fun _ _ => rfl
  unfold Connection.makeRequest
  dsimp only
  split
  · exact hcall.push (by simp [Instr.isNeutral])
  · next hstate =>
    have hloggedIn := Decidable.not_not.1 hstate
    split
    · exact hcall.still rfl rfl rfl (fun _ _ => rfl) (by simp)
    · rw [transitionTo_loggedIn rfl]
      exact h.write hloggedIn r type

end Serving

theorem updateCurrentRequest_eq {x : Execution} (h : s.request = some x) (f : Request → Request) :
    s.updateCurrentRequest f = s.updateRequest x.request f := by
  simp only [updateCurrentRequest, h]

namespace Serving

/-- Nobody listens for a response. -/
theorem of_unlistened {is : List Instr} (hstage : Stage s)
    (hnone : ∀ r call, responses s [] r call = 0) (his : ∀ i ∈ is, i.isNeutral = true) :
    Serving s is where
  stage := hstage
  listened := fun _ r call hpos => by
    have hsame : responses s (is ++ []) r call = responses s [] r call := responses_append his r call
    rw [List.append_nil, hnone] at hsame
    rw [hsame] at hpos
    cases hpos
  cleaning := fun _ i hi => isCleaning_of_isNeutral (his i hi)

/-- A message has begun: it is the response, or it is to be ignored. -/
theorem afterRequestMessage {x : Execution} (hstate : s.state = .SENT_CLIENT_REQUEST)
    (hrequest : s.request = some x) (hpending : s.pending = [])
    (hnone : ∀ r call, responses s [] r call = 0) :
    Serving (s.afterRequestMessage c x.call).1 (s.afterRequestMessage c x.call).2 := by
  unfold Connection.afterRequestMessage
  dsimp only
  split
  -- canceled before the response has begun: the acknowledgement is waited for
  · rw [transitionTo_loggedIn rfl]
    refine of_unlistened ?_ (fun r call => ?_) (by simp)
    · refine .attending x (state_transitionTo _) ((request_transitionTo _).trans hrequest)
        (.inr ⟨.attentionMessage, ?_, rfl⟩)
      rw [pending_transitionTo]
      simp [hpending, hstate, ConnectionState.waits]
    · unfold responses
      rw [requests_transitionTo]
      exact hnone r call
  -- the response is read, and its listener is the only one, as there was none before
  · rw [updateCurrentRequest_eq (x := x) (by exact hrequest)]
    have hreading : Reading (updateRequest (await
        { s with requestTimer := false, owed := s.owed.tail } (.requestTokens x.call
          (s.request.map Execution.request) [] s.owed.head?)) x.request fun request =>
            request.once (.response x.call)) x := by
      refine ⟨hstate, hrequest, [], s.owed.head?, ?_⟩
      simp [await, updateRequest, hpending, hrequest]
    refine ⟨.reading x hreading, fun _ r call hpos => ?_, by simp⟩
    have hnone' := hnone r call
    simp only [responses, List.count_nil, Nat.add_zero] at hnone' hpos ⊢
    dsimp only [updateRequest, await, Request.once] at hpos ⊢
    by_cases hr : r = x.request
    · subst hr
      simp only [if_true, List.count_append, hnone', Nat.zero_add] at hpos ⊢
      by_cases hcall : x.call = call
      · subst hcall
        exact ⟨by simp, hreading⟩
      · simp [hcall] at hpos
    · simp [hr, hnone'] at hpos

/-- The response has ended. -/
theorem onEndOfMessage {x : Execution} (h : Serving s []) (hreading : Reading s x) {s' : Connection}
    (hs' : s' = { s with pending := [] }) :
    Serving (s'.onEndOfMessage c x.call).1 (s'.onEndOfMessage c x.call).2 := by
  obtain ⟨hstate, hrequest, errors, answers, hpending⟩ := hreading
  have hrequest' : s'.request = some x := by rw [hs']; exact hrequest
  unfold Connection.onEndOfMessage
  dsimp only
  rw [updateCurrentRequest_eq hrequest', transitionTo_loggedIn rfl]
  refine of_unlistened ?_ (fun r call => ?_) (isNeutral_answerOrThrow _ _)
  · refine .idle (state_transitionTo _) rfl ?_
    dsimp only
    rw [pending_transitionTo]
    subst hs'
    simp [updateRequest, hstate, ConnectionState.waits]
  · -- the listener for the response is removed
    have hlistened := h.listened (by simp [hstate]) r call
    unfold responses at hlistened ⊢
    dsimp only
    rw [requests_transitionTo]
    subst hs'
    simp only [updateRequest, List.count_nil, Nat.add_zero] at hlistened ⊢
    by_cases hr : r = x.request
    · subst hr
      rw [if_pos rfl]
      by_cases hcall : call = x.call
      · subst hcall
        rw [count_removeListener_self, count_removeListener_of_ne (by simp)]
        by_contra hne
        have := (hlistened (by omega)).1
        omega
      · rw [count_removeListener_of_ne (by simp [hcall]), count_removeListener_of_ne (by simp)]
        by_contra hne
        have hother := Option.some.inj ((hlistened (by omega)).2.request.symm.trans hrequest)
        exact hcall (congrArg Execution.call hother)
    · rw [if_neg hr]
      by_contra hne
      have hother := Option.some.inj ((hlistened (by omega)).2.request.symm.trans hrequest)
      exact hr (congrArg Execution.request hother)

end Serving

/-- A token changes its request, and leaves its event to do. -/
theorem requestToken_same (call : Nat) (request : Option RequestId) (errors : List RequestError)
    (token : Token) :
    (s.requestToken c call request errors token).1.state = s.state ∧
      (s.requestToken c call request errors token).1.request = s.request ∧
        (s.requestToken c call request errors token).1.pending = s.pending ∧
          (∀ r, RequestTokenHandler.SameListeners (s.requests r)
            ((s.requestToken c call request errors token).1.requests r)) ∧
            ∀ i ∈ (s.requestToken c call request errors token).2, i.isNeutral = true := by
  have htoken := isNeutral_tokenEvent token
  unfold requestToken
  split
  · split
    · exact ⟨rfl, rfl, rfl, fun _ => ⟨rfl, rfl⟩, htoken⟩
    · exact ⟨rfl, rfl, rfl, fun _ => ⟨rfl, rfl⟩, htoken⟩
    · exact ⟨rfl, rfl, rfl, fun _ => ⟨rfl, rfl⟩,
        List.forall_mem_append.2 ⟨htoken, by simp [Instr.isNeutral]⟩⟩
    · exact ⟨rfl, rfl, rfl, fun _ => ⟨rfl, rfl⟩, by simp [Instr.isNeutral]⟩
  · next r =>
    dsimp only
    split
    · exact ⟨rfl, rfl, rfl, fun _ => ⟨rfl, rfl⟩, by simp [Instr.isNeutral]⟩
    · next announced event hannounced =>
      refine ⟨rfl, rfl, rfl, fun r' => ?_, ?_⟩
      · dsimp only [updateRequest]
        split
        · next hr =>
          rw [hr]
          exact RequestTokenHandler.sameListeners_announce _ hannounced
        · exact ⟨rfl, rfl⟩
      · refine List.forall_mem_append.2 ⟨List.forall_mem_append.2 ⟨htoken, ?_⟩, ?_⟩
        · simp [Instr.isNeutral]
        · split <;> simp [Instr.isNeutral]

namespace Serving

/-- Something under way goes on while requests are made. -/
theorem resume (h : Serving s []) (hphase : RequestPhase s []) (hopen : s.state ≠ .FINAL)
    {p : Pending} {outcome : Outcome} (hp : p ∈ s.pending) (haccepts : accepts p outcome = true) :
    Serving (Connection.resume c { s with pending := s.pending.erase p } p outcome).1
      (Connection.resume c { s with pending := s.pending.erase p } p outcome).2 := by
  have hloggedIn := hphase.isLoggedIn hopen
  have hsocketError : ∀ {s : Connection} (err : Err), Stage s →
      (∀ r call, responses s [] r call = 0) →
        Serving (s.socketError c err).1 (s.socketError c err).2 :=
    fun err hstage hnone => of_unlistened hstage hnone (by simp [socketError, Instr.isNeutral])
  -- what can go on is what the stage waits for
  cases h.stage with
  | outside hout =>
    rw [hout] at hloggedIn
    cases hloggedIn
  | idle _ _ hpending =>
    rw [hpending] at hp
    cases hp
  | waiting x hstate hrequest hpending =>
    have hnone := h.responses_eq_zero hopen fun y hreading => by
      obtain ⟨-, -, errors, answers, hpending'⟩ := hreading
      rcases hpending with hpending | hpending <;> cases hpending.symm.trans hpending'
    rcases hpending with hpending | hpending
    · rw [hpending] at hp
      cases hp
    · obtain rfl : p = .requestMessage x.call := by simpa [hpending] using hp
      have herased : s.pending.erase (.requestMessage x.call) = [] := by simp [hpending]
      rw [herased]
      cases outcome <;> cases haccepts
      · exact afterRequestMessage (s := { s with pending := [] }) hstate hrequest rfl hnone
      · exact hsocketError _ (.waiting x hstate hrequest (.inl rfl)) hnone
  | reading x hreading =>
    obtain ⟨hstate, hrequest, errors, answers, hpending⟩ := hreading
    obtain rfl : p = .requestTokens x.call (some x.request) errors answers := by
      simpa [hpending] using hp
    have herased : s.pending.erase (.requestTokens x.call (some x.request) errors answers) = [] := by
      simp [hpending]
    rw [herased]
    cases outcome <;> cases haccepts
    · exact h.onEndOfMessage ⟨hstate, hrequest, errors, answers, hpending⟩ rfl
    · next token =>
      obtain ⟨hstate', hrequest', hpending', hsame, hneutral⟩ := requestToken_same (c := c)
        (s := await { s with pending := [] } (.requestTokens x.call (some x.request) errors answers))
        x.call (some x.request) errors token
      have hstill := h.still hstate' hrequest' (hpending'.trans (by simp [await, hpending]))
        (fun r call => congrArg (List.count _) (hsame r).cancelListeners) hneutral
      rwa [List.append_nil] at hstill
  | attending x hstate hrequest hpending =>
    have hnone := h.responses_eq_zero hopen fun y hreading => by
      cases hstate.symm.trans hreading.state
    rcases hpending with hpending | ⟨q, hpending, hq⟩
    · rw [hpending] at hp
      cases hp
    · obtain rfl : p = q := by simpa [hpending] using hp
      have herased : s.pending.erase p = [] := by simp [hpending]
      rw [herased]
      cases p <;> cases hq <;> cases outcome <;> cases haccepts
      · exact of_unlistened (.attending x hstate hrequest (.inr ⟨_, rfl, rfl⟩)) hnone
          (by simp [Connection.resume, afterAttentionMessage])
      · exact hsocketError _ (.attending x hstate hrequest (.inl rfl)) hnone
      · next attentionReceived answers =>
        show Serving (afterAttention c { s with pending := [] } attentionReceived).1
          (afterAttention c { s with pending := [] } attentionReceived).2
        unfold afterAttention
        split
        · dsimp only
          rw [transitionTo_loggedIn rfl]
          refine of_unlistened (.idle (state_transitionTo _) (request_transitionTo _) ?_)
            (fun r call => ?_) (isNeutral_answerOrThrow _ _)
          · rw [pending_transitionTo]
            simp [hstate, ConnectionState.waits]
          · unfold responses
            rw [requests_transitionTo]
            exact hnone r call
        · exact of_unlistened (.attending x hstate hrequest (.inl rfl)) hnone (by simp)
      · next attentionReceived answers token =>
        show Serving (attentionToken { s with pending := [] } attentionReceived answers token).1
          (attentionToken { s with pending := [] } attentionReceived answers token).2
        unfold attentionToken
        split <;> exact of_unlistened (.attending x hstate hrequest (.inr ⟨_, rfl, rfl⟩)) hnone
          (by simp [Instr.isNeutral])

theorem connectTimer (h : Serving s rest) (hphase : RequestPhase s rest) :
    Serving (s.handle c .connectTimer).1 ((s.handle c .connectTimer).2 ++ rest) := by
  have hpending : s.pending.map Pending.abort = s.pending := by
    refine (List.map_congr_left fun p hp => ?_).trans (List.map_id _)
    have hlogin := hphase.pending p hp
    cases p <;> first | rfl | cases hlogin
  exact h.still rfl rfl hpending (fun _ _ => rfl)
    (by simp [Connection.handle, connectTimeout, Instr.isNeutral])

theorem requestTimeout (h : Serving s []) : Serving s.requestTimeout.1 s.requestTimeout.2 := by
  have hfired : Serving { s with requestTimer := false } [] := h.same rfl rfl rfl fun _ _ => rfl
  unfold Connection.requestTimeout
  dsimp only
  split
  · next execution _ =>
    have hpushed : Serving { s with requestTimer := false }
        [.requestTimeoutError execution.request] :=
      hfired.push (show ∀ i ∈ [Instr.requestTimeoutError execution.request], i.isNeutral = true by
        simp [Instr.isNeutral])
    exact hpushed.cancelRequest execution.request
  · exact hfired.push (show ∀ i ∈ [Instr.throw], i.isNeutral = true by simp [Instr.isNeutral])

/-- An event of a connection that takes requests. -/
theorem handleRequest (h : Serving s rest) (hphase : RequestPhase s rest) (hopen : s.state ≠ .FINAL)
    {event : Event} (henabled : s.enabled event = true)
    (hrest : event.isCall = true ∨ rest = []) :
    Serving (s.handle c event).1 ((s.handle c event).2 ++ rest) := by
  have hnil : event.isCall = false → rest = [] := fun hcall =>
    hrest.resolve_left (by simp [hcall])
  have hloggedIn := hphase.isLoggedIn hopen
  have hnot : ∀ {st : ConnectionState}, st.isLoggedIn = false → s.state ≠ st := by
    rintro st hst rfl
    cases hst.symm.trans hloggedIn
  cases event with
  | connect =>
    show Serving (s.connect c).1 ((s.connect c).2 ++ rest)
    unfold Connection.connect
    rwa [if_neg (hnot rfl)]
  | close => exact of_final (state_transitionTo _)
  | cancel =>
    show Serving s.cancel.1 (s.cancel.2 ++ rest)
    unfold Connection.cancel
    split
    · exact h.cancelRequest _
    · exact h
  | cancelRequest r => exact h.cancelRequest r
  | makeRequest r type => exact h.makeRequest r type
  | prepare r =>
    have hpreparing : Serving (s.updateRequest r fun request =>
        { request with preparing := true, prepared := request.prepared + 1 }) rest :=
      h.same rfl rfl rfl fun r' call => count_updateRequest rfl
    exact hpreparing.makeRequest r _
  | reset =>
    have hcalled : Serving { s with
        resetConnectionOnNextRequest := true, trace := .resetCalled :: s.trace } rest :=
      h.same rfl rfl rfl fun _ _ => rfl
    exact hcalled.makeRequest _ _
  | connectTimer => exact h.connectTimer hphase
  | requestTimer =>
    obtain rfl := hnil rfl
    rw [List.append_nil]
    exact h.requestTimeout
  | cancelTimer =>
    exact of_final (dispatchEvent_socketError (s := { s with cancelTimerArmed := false }) hloggedIn _)
  | retryTimer => cases hphase.retryTimer.symm.trans henabled
  | socketClose =>
    refine of_final ?_
    show (s.socketClose c).1.state = .FINAL
    unfold socketClose
    rw [if_neg (hnot rfl), if_neg (hnot rfl)]
    exact state_transitionTo _
  | resume p outcome =>
    obtain rfl := hnil rfl
    obtain ⟨hp, haccepts⟩ := (Bool.and_eq_true _ _).mp henabled
    rw [List.append_nil]
    exact h.resume hphase hopen (of_decide_eq_true hp) haccepts
  | _ => exact h.quiet rfl (changes_handle _) (leaves_handle _)

theorem exec {i : Instr} (h : Serving s (i :: rest)) (horderly : Orderly s (i :: rest))
    (hphase : LoginPhase s (i :: rest) ∨ RequestPhase s (i :: rest)) :
    Serving (Connection.exec c i s).1 ((Connection.exec c i s).2 ++ rest) := by
  by_cases hfinal : s.state = .FINAL
  · exact of_final (horderly.exec_final hfinal)
  -- a connection that is logged in may still be in the phase of its login, until a request is made
  rcases hphase with hlogin | hrequest
  · cases hin : s.state.isLoggedIn with
    | true => exact h.execRequest (hlogin.toRequestPhase hin) hfinal
    | false =>
      refine of_login hlogin.exec fun hin' => ?_
      rw [exec_outside hlogin hin] at hin'
      cases hin'
  · exact h.execRequest hrequest hfinal

theorem handle (h : Serving s rest) (horderly : Orderly s rest)
    (hphase : LoginPhase s rest ∨ RequestPhase s rest) {event : Event}
    (henabled : s.enabled event = true) (hrest : event.isCall = true ∨ rest = [])
    (htime : InTime c s rest event) :
    Serving (s.handle c event).1 ((s.handle c event).2 ++ rest) := by
  by_cases hfinal : s.state = .FINAL
  · exact of_final ((horderly.handle hrest htime).2 hfinal)
  rcases hphase with hlogin | hrequest
  · cases hin : s.state.isLoggedIn with
    | true => exact h.handleRequest (hlogin.toRequestPhase hin) hfinal henabled hrest
    | false =>
      have hstate : s.state ≠ .LOGGED_IN := fun hstate => by rw [hstate] at hin; cases hin
      exact of_login (hlogin.handle hstate henabled hrest) (clean_handle hin hrest)
  · exact h.handleRequest hrequest hfinal henabled hrest

end Serving

/-- The invariants of a run in which nothing comes too late. -/
structure InOrder (s : Connection) (stack : List Instr) : Prop where
  orderly : Orderly s stack
  phase : LoginPhase s stack ∨ RequestPhase s stack
  serving : Serving s stack

theorem InOrder.new : InOrder .new [] where
  orderly := ⟨.nil, by simp⟩
  phase := .inl loginPhase_new
  serving := .of_login loginPhase_new fun hin => by cases hin

theorem InOrder.exec {i : Instr} (h : InOrder s (i :: rest)) :
    InOrder (exec c i s).1 ((Connection.exec c i s).2 ++ rest) where
  orderly := h.orderly.exec
  phase := h.phase.imp LoginPhase.exec RequestPhase.exec
  serving := h.serving.exec h.orderly h.phase

theorem InOrder.handle (h : InOrder s rest) {event : Event} (henabled : s.enabled event = true)
    (hrest : event.isCall = true ∨ rest = []) (htime : InTime c s rest event) :
    InOrder (s.handle c event).1 ((s.handle c event).2 ++ rest) where
  orderly := (h.orderly.handle hrest htime).1
  phase := phase_handle h.phase henabled hrest
  serving := h.serving.handle h.orderly h.phase henabled hrest htime

/-- **One thing at a time** is under way for the requests of a connection. -/
theorem inOrder_of_runsTo {moves : List (Move Event)} {k : Config Connection Instr}
    (h : RunsTo c (InTime c) moves k) : InOrder k.state k.stack := by
  refine Component.invariant (I := InOrder) ?_ ?_ h .new
  · intro i s rest hinorder
    exact hinorder.exec
  · intro event s stack s' is hinorder hadmits htime hstart
    obtain ⟨henabled, hhandle⟩ := start_eq_some hstart
    obtain ⟨rfl, rfl⟩ := Prod.mk.inj hhandle
    exact hinorder.handle henabled (isCall_or_eq_nil hadmits) htime

end Connection

end Tedious
