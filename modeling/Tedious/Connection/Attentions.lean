import Tedious.Connection.Answering

/-!
# Tedious.Connection.Attentions

`ATTENTION` messages. One is sent by `_cancelAfterRequestSent` when a request is canceled
whose message has finished; the listener of the response then moves the connection to
`SENT_ATTENTION`. Each of the two counts on the other, and nothing makes sure that it is
there: while the message is still being written the response may have begun, and the
connection waits for the acknowledgement of a message that it has not sent
(`attention_missing`); and where a message finishes after its response has ended, the
listener stays behind. `attentions_disciplined` is about the runs in which a request is
canceled only where both are as they should be (`Attentive`).
-/

namespace Tedious

open Chunked Reentrant

/-- The listeners that send an `ATTENTION` message, and wait for its acknowledgement. -/
def CancelListener.isAttending : CancelListener → Bool
  | unsent _ => false
  | afterRequestSent | response _ => true

def Instr.isAttending : Instr → Bool
  | cancelListener _ listener => listener.isAttending
  | _ => false

/-- An `ATTENTION` message: the request whose cancel has sent it, what was
`connection.request` then, and whether the message of that had finished. -/
structure Attention where
  canceled : RequestId
  current : Option Execution
  finished : Bool
  deriving DecidableEq, Repr

namespace Connection

/-- The listeners that are still to run for a request that has been canceled. -/
def attending (stack : List Instr) : List Instr := stack.filter Instr.isAttending

/-- How many `ATTENTION` messages have been sent for an execution. -/
def attentions (sent : List Attention) (x : Execution) : Nat :=
  sent.countP fun attention => attention.current = some x

/-- The message of the current request has finished. -/
def currentFinished (s : Connection) : Bool := s.request.any fun x => (s.messages x.call).finished

/-- The message that `_cancelAfterRequestSent` sends for a request. -/
def attention (s : Connection) (r : RequestId) : Attention where
  canceled := r
  current := s.request
  finished := s.currentFinished

/-- `_cancelAfterRequestSent` sends one; nothing else does. -/
def extendAttentions (k : Config Connection Instr) (m : Move Event)
    (_ : Config Connection Instr) (sent : List Attention) : List Attention :=
  match m, k.stack with
  | .next, .cancelListener r .afterRequestSent :: _ => k.state.attention r :: sent
  | _, _ => sent

/-- The connection with the `ATTENTION` messages that it has sent. -/
def attentionMachine (c : ConnectionConfig) :
    Machine (Config Connection Instr × List Attention) (Move Event) :=
  (component c).machine.withHistory extendAttentions

/-- The runs of a new connection in which every event meets `guard`. -/
abbrev AttentionRuns (c : ConnectionConfig) (guard : Connection → List Instr → Event → Prop)
    (moves : List (Move Event)) (k : Config Connection Instr) (sent : List Attention) : Prop :=
  (attentionMachine c).Steps (fun p => Component.guarded guard p.1) (⟨.new, []⟩, []) moves (k, sent)

/-- The request that an event cancels. -/
def canceling (s : Connection) : Event → Option RequestId
  | .cancelRequest r => some r
  | .cancel | .requestTimer => s.request.map Execution.request
  | _ => none

/-- Of the listeners of a request that can be canceled none attends, or the request is the
current one and its message has finished, `_cancelAfterRequestSent` is there once, and the
listener of the response, if there is one, comes after it and the state is not `FINAL`. -/
def attentive (s : Connection) (r : RequestId) : Bool :=
  (s.requests r).canceled ||
    match (s.requests r).cancelListeners.filter CancelListener.isAttending with
    | [] => true
    | [.afterRequestSent] => s.currentFinished && s.request.any fun x => x.request = r
    | [.afterRequestSent, .response _] =>
        s.state ≠ .FINAL && s.currentFinished && s.request.any fun x => x.request = r
    | _ => false

/-- Requests are canceled where the listeners are as they should be, the connection is not
closed before they have run, and no request is admitted once `closed` has been set. -/
def Attentive (s : Connection) (stack : List Instr) (e : Event) : Prop :=
  (s.closed = true → s.admitsRequest e = false) ∧ (s.canceling e).all s.attentive = true ∧
    (e = .close → ∀ i ∈ stack, i.isAttending = false)

instance (s : Connection) (stack : List Instr) (e : Event) : Decidable (Attentive s stack e) :=
  inferInstanceAs (Decidable (_ ∧ _ ∧ _))

variable {c : ConnectionConfig} {s : Connection} {rest : List Instr} {sent : List Attention}

/-! ### The listeners on the stack -/

theorem attending_append {is : List Instr} (his : ∀ i ∈ is, i.isAttending = false) :
    attending (is ++ rest) = attending rest := by
  have hnone : is.filter Instr.isAttending = [] :=
    List.filter_eq_nil_iff.2 fun i hi => Bool.eq_false_iff.1 (his i hi)
  rw [attending, List.filter_append, hnone]
  rfl

theorem attending_cons {i : Instr} (hi : i.isAttending = false) :
    attending (i :: rest) = attending rest := by
  have hone : ∀ j ∈ [i], j.isAttending = false := by simpa using hi
  exact attending_append hone

theorem attending_eq_nil : attending rest = [] ↔ ∀ i ∈ rest, i.isAttending = false := by
  simp [attending, List.filter_eq_nil_iff]

theorem isAttending_of_isIdle {i : Instr} (h : i.isIdle = true ∨ i.isAnswer = true) :
    i.isAttending = false := by
  cases i <;> first | rfl | (rcases h with h | h <;> cases h)

/-- Listeners are put on the stack by a cancel only. -/
theorem isAttending_exec (i : Instr) : ∀ j ∈ (exec c i s).2, j.isAttending = false := by
  have hspares : (∀ r l, i ≠ .cancelListener r l) → (∀ r, i ≠ .requestTimeoutError r) →
      ∀ j ∈ (exec c i s).2, j.isAttending = false := fun hlistener htimeout j hj =>
    isAttending_of_isIdle ((spares_exec hlistener htimeout).stack j hj)
  cases i with
  | cancelListener r l =>
    cases l with
    | response call =>
      have hstack : (exec c (.cancelListener r (.response call)) s).2 = [] :=
        transitionTo_loggedIn (rfl : ConnectionState.SENT_ATTENTION.isLoggedIn = true)
      simp [hstack]
    | _ => simp [exec, onCancel]
  | requestTimeoutError r => simp [exec]
  | _ => exact hspares (by simp) (by simp)

theorem isAttending_answerOrThrow (execution : Option Execution) (err : Option Err) :
    ∀ i ∈ answerOrThrow execution err, i.isAttending = false := by
  cases execution <;> simp [answerOrThrow, Instr.isAttending]

theorem isAttending_handle {event : Event} (henabled : s.enabled event = true)
    (hcanceling : s.canceling event = none) :
    ∀ j ∈ (s.handle c event).2, j.isAttending = false := by
  have hmake : ∀ {s : Connection} (r : RequestId) (type : RequestType),
      ∀ j ∈ (s.makeRequest c r type).2, j.isAttending = false := by
    intro s r type
    unfold makeRequest
    dsimp only
    split
    · simp [Instr.isAttending]
    · split
      · simp
      · rw [transitionTo_loggedIn rfl]
        simp
  cases hconcerns : event.concerns with
  | false => exact fun j hj => isAttending_of_isIdle ((spares_handle henabled hconcerns).stack j hj)
  | true =>
    cases event with
    | cancel =>
      have hnone : s.request = none := Option.map_eq_none_iff.1 hcanceling
      rw [handle, cancel, hnone]
      simp
    | cancelRequest r => cases hcanceling
    | requestTimer =>
      have hnone : s.request = none := Option.map_eq_none_iff.1 hcanceling
      rw [handle, requestTimeout]
      dsimp only
      rw [hnone]
      simp [Instr.isAttending]
    | makeRequest r type => exact hmake r type
    | prepare r => exact hmake r _
    | reset => exact hmake _ _
    | tick t => cases t <;> simp [handle, onTick, socketError, Instr.isAttending]
    | resume p outcome =>
      cases p <;> cases outcome <;> first | (cases hconcerns; done) | skip
      · show ∀ j ∈ (afterRequestMessage c _ _).2, _
        rw [stack_afterRequestMessage]
        simp
      · show ∀ j ∈ (onEndOfMessage c _ _).2, _
        rw [stack_onEndOfMessage]
        exact isAttending_answerOrThrow _ _
      · simp [handle, resume, afterAttentionMessage]
      · show ∀ j ∈ (afterAttention c _ _).2, _
        rw [stack_afterAttention]
        split
        · exact isAttending_answerOrThrow _ _
        · simp
    | _ => first | (cases hconcerns; done) | simp [handle]

/-- The listeners of a request that is canceled are to run. -/
theorem attending_cancelRequest {r : RequestId} (hopen : (s.requests r).canceled = false)
    (rest : List Instr) :
    attending ((s.cancelRequest r).2 ++ rest) =
      ((s.requests r).cancelListeners.filter CancelListener.isAttending).map
        (.cancelListener r ·) ++
        attending rest := by
  have hlisteners : ∀ listeners : List CancelListener,
      (listeners.flatMap fun l => [Instr.callback, .cancelListener r l]).filter
        Instr.isAttending =
          (listeners.filter CancelListener.isAttending).map (.cancelListener r ·) := by
    intro listeners
    induction listeners with
    | nil => rfl
    | cons l listeners ih =>
      rw [List.flatMap_cons, List.filter_append, ih, List.filter_cons (x := l)]
      cases l <;> rfl
  unfold cancelRequest
  rw [if_neg (by simp [hopen]), attending, List.filter_append, List.filter_append, hlisteners]
  simp [Instr.isAttending, attending]

/-! ### The cancel timer -/

/-- The cancel timer is set where an `ATTENTION` message is sent. -/
theorem cancelTimer_exec {i : Instr} (hi : ∀ r, i ≠ .cancelListener r .afterRequestSent) :
    (exec c i s).1.cancelTimer = s.cancelTimer := by
  cases i with
  | cancelListener r l =>
    cases l with
    | unsent call => rfl
    | afterRequestSent => exact absurd rfl (hi r)
    | response call => exact cancelTimer_transitionTo _
  | requestTimeoutError r => rfl
  | _ => exact (spares_exec (by simp) (by simp)).cancelTimer

theorem cancelTimer_cancelRequest (r : RequestId) :
    (s.cancelRequest r).1.cancelTimer = s.cancelTimer := by
  unfold cancelRequest
  split <;> rfl

theorem cancelTimer_updateCurrentRequest (f : Request → Request) :
    (s.updateCurrentRequest f).cancelTimer = s.cancelTimer := by
  unfold updateCurrentRequest
  split <;> rfl

theorem cancelTimer_makeRequest (r : RequestId) (type : RequestType) :
    (s.makeRequest c r type).1.cancelTimer = s.cancelTimer := by
  unfold makeRequest
  dsimp only
  split
  · rfl
  · split
    · rfl
    · exact cancelTimer_transitionTo _

/-- No event sets it. -/
theorem cancelTimer_handle {event : Event} (henabled : s.enabled event = true)
    (htimer : (s.handle c event).1.cancelTimer = true) : s.cancelTimer = true := by
  cases hconcerns : event.concerns with
  | false => exact (spares_handle (c := c) henabled hconcerns).cancelTimer.symm.trans htimer
  | true =>
    cases event with
    | cancel =>
      rw [handle, cancel] at htimer
      split at htimer
      · rwa [cancelTimer_cancelRequest] at htimer
      · exact htimer
    | cancelRequest r => exact (cancelTimer_cancelRequest r).symm.trans htimer
    | requestTimer =>
      rw [handle, requestTimeout] at htimer
      dsimp only at htimer
      split at htimer
      · dsimp only at htimer
        rwa [cancelTimer_cancelRequest] at htimer
      · exact htimer
    | makeRequest r type => rwa [handle, cancelTimer_makeRequest] at htimer
    | prepare r => rwa [handle, prepare, cancelTimer_makeRequest] at htimer
    | reset => rwa [handle, reset, cancelTimer_makeRequest] at htimer
    | tick t => cases t <;> exact htimer
    | resume p outcome =>
      cases p <;> cases outcome <;> first | (cases hconcerns; done) | skip
      · change (afterRequestMessage c _ _).1.cancelTimer = true at htimer
        rw [afterRequestMessage] at htimer
        dsimp only at htimer
        split at htimer
        · rwa [cancelTimer_transitionTo] at htimer
        · dsimp only at htimer
          rwa [cancelTimer_updateCurrentRequest] at htimer
      · change (onEndOfMessage c _ _).1.cancelTimer = true at htimer
        rw [onEndOfMessage] at htimer
        dsimp only at htimer
        rw [cancelTimer_transitionTo, cancelTimer_updateCurrentRequest] at htimer
        exact htimer
      · exact htimer
      · change (afterAttention c _ _).1.cancelTimer = true at htimer
        rw [afterAttention] at htimer
        split at htimer
        · dsimp only at htimer
          rw [cancelTimer_transitionTo] at htimer
          cases htimer
        · exact htimer
    | _ => first | (cases hconcerns; done) | exact htimer

/-! ### What a run keeps -/

/-- What holds of the `ATTENTION` messages that have been sent. -/
structure Past (s : Connection) (sent : List Attention) : Prop where
  finished : ∀ attention ∈ sent, attention.finished = true
  current : ∀ attention ∈ sent, ∃ x : Execution, attention.current = some x ∧
    x.request = attention.canceled ∧ (s.requests x.request).canceled = true
  once : ∀ x, attentions sent x ≤ 1

/-- How far the current request of `SENT_CLIENT_REQUEST` is with being canceled; `n` is the
number of `ATTENTION` messages that have been sent for it. -/
inductive Watch (s : Connection) (stack : List Instr) (n : Nat) (x : Execution) : Prop
  /-- Its listeners wait, or have run while it waited for the response. -/
  | calm (hstack : attending stack = []) (htimer : s.cancelTimer = true → 0 < n ∧ ¬Reading s x)
      (hlistened : (s.requests x.request).canceled = false → Reading s x →
        .response x.call ∈ (s.requests x.request).cancelListeners)
  | waiting (hstack : attending stack = [.cancelListener x.request .afterRequestSent])
      (hcanceled : (s.requests x.request).canceled = true)
      (hfinished : (s.messages x.call).finished = true) (hnone : n = 0) (hreading : ¬Reading s x)
  | reading (hstack : attending stack = [.cancelListener x.request .afterRequestSent,
        .cancelListener x.request (.response x.call)])
      (hcanceled : (s.requests x.request).canceled = true)
      (hfinished : (s.messages x.call).finished = true) (hnone : n = 0)
  | sent (hstack : attending stack = [.cancelListener x.request (.response x.call)])
      (hcanceled : (s.requests x.request).canceled = true) (hone : 0 < n)

/-- What an open connection does about `ATTENTION` messages. -/
structure Attended (s : Connection) (stack : List Instr) (sent : List Attention) : Prop where
  idle : s.state = .LOGGED_IN → attending stack = [] ∧ s.cancelTimer = false
  request : s.state = .SENT_CLIENT_REQUEST → ∀ x, s.request = some x →
    Watch s stack (attentions sent x) x
  attention : s.state = .SENT_ATTENTION → attending stack = [] ∧
    ∃ x, s.request = some x ∧ 0 < attentions sent x

/-- What a connection is up to: it logs in, it is open, its current request is canceled while
`cleanupConnection` runs the callback, or it is closed or being closed. -/
inductive Attends (s : Connection) (stack : List Instr) (sent : List Attention) : Prop
  | login (h : LoginPhase s stack) (hout : s.state.isLoggedIn = false)
      (htimer : s.cancelTimer = false)
  | serving (hphase : RequestPhase s stack) (hopen : s.state ≠ .FINAL)
      (hclosed : s.closed = false) (h : Serving s stack)
      (hcloses : stack.Pairwise fun i j => i.closes = true → j.isAttending = false)
      (hattended : Attended s stack sent)
  | closing (hphase : RequestPhase s stack) (x : Execution) (hrequest : s.request = some x)
      (hstate : s.state = .FINAL) (above below : List Instr)
      (hstack : stack = above ++ .finishCleanup :: below)
      (habove : ∀ i ∈ above, i.isInterlude = true)
      (hattending : attending above = [.cancelListener x.request .afterRequestSent])
      (hbelow : attending below = []) (hcanceled : (s.requests x.request).canceled = true)
      (hfinished : (s.messages x.call).finished = true) (hnone : attentions sent x = 0)
  | ended (hphase : RequestPhase s stack) (hstack : attending stack = [])
      (hstate : s.state ≠ .SENT_ATTENTION)
      (hover : s.closed = true ∨ s.state = .FINAL ∧ ∃ x, s.request = some x)

/-! ### Frames -/

theorem Past.frame {s' : Connection} (h : Past s sent)
    (hcanceled : ∀ r, (s.requests r).canceled = true → (s'.requests r).canceled = true) :
    Past s' sent where
  finished := h.finished
  current := fun attention hmem => by
    obtain ⟨x, hcurrent, hx, hset⟩ := h.current attention hmem
    exact ⟨x, hcurrent, hx, hcanceled _ hset⟩
  once := h.once

/-- A request that can still be canceled has had no `ATTENTION` message. -/
theorem Past.attentions_eq_zero (h : Past s sent) {x : Execution}
    (hopen : (s.requests x.request).canceled = false) : attentions sent x = 0 := by
  refine List.countP_eq_zero.2 fun attention hmem hx => ?_
  obtain ⟨y, hcurrent, -, hset⟩ := h.current attention hmem
  obtain rfl : y = x := Option.some.inj (hcurrent.symm.trans (of_decide_eq_true hx))
  rw [hopen] at hset
  cases hset

theorem Past.canceled (h : Past s sent) {x : Execution} (hx : 0 < attentions sent x) :
    (s.requests x.request).canceled = true := by
  refine Bool.not_eq_false _ ▸ fun hopen => ?_
  rw [h.attentions_eq_zero hopen] at hx
  cases hx

theorem Watch.frame {s' : Connection} {stack stack' : List Instr} {n : Nat} {x : Execution}
    (h : Watch s stack n x) (hstack : attending stack' = attending stack)
    (hreading : Reading s' x → Reading s x) (htimer : s'.cancelTimer = true → s.cancelTimer = true)
    (hfinished : (s.messages x.call).finished = true → (s'.messages x.call).finished = true)
    (hcanceled : (s.requests x.request).canceled = true → (s'.requests x.request).canceled = true)
    (hlisteners : (s'.requests x.request).canceled = false →
      .response x.call ∈ (s.requests x.request).cancelListeners →
        .response x.call ∈ (s'.requests x.request).cancelListeners) : Watch s' stack' n x := by
  cases h with
  | calm hnone hset hlistened =>
    refine .calm (hstack.trans hnone) (fun hset' => ?_) fun hopen hread => ?_
    · obtain ⟨hpos, hnot⟩ := hset (htimer hset')
      exact ⟨hpos, mt hreading hnot⟩
    · refine hlisteners hopen (hlistened (Bool.eq_false_iff.2 fun hset => ?_) (hreading hread))
      exact Bool.false_ne_true (hopen.symm.trans (hcanceled hset))
  | waiting hsome hset hdone hnone hnot =>
    exact .waiting (hstack.trans hsome) (hcanceled hset) (hfinished hdone) hnone (mt hreading hnot)
  | reading hsome hset hdone hnone =>
    exact .reading (hstack.trans hsome) (hcanceled hset) (hfinished hdone) hnone
  | sent hsome hset hone => exact .sent (hstack.trans hsome) (hcanceled hset) hone

theorem Attended.frame {s' : Connection} {stack stack' : List Instr}
    (h : Attended s stack sent) (hstack : attending stack' = attending stack)
    (hstate : s'.state = s.state) (hrequest : s'.request = s.request)
    (hreading : ∀ x, Reading s' x → Reading s x)
    (htimer : s'.cancelTimer = true → s.cancelTimer = true)
    (hfinished : ∀ x, s.request = some x → (s.messages x.call).finished = true →
      (s'.messages x.call).finished = true)
    (hcanceled : ∀ r, (s.requests r).canceled = true → (s'.requests r).canceled = true)
    (hlisteners : ∀ r call, (s'.requests r).canceled = false →
      .response call ∈ (s.requests r).cancelListeners →
        .response call ∈ (s'.requests r).cancelListeners) : Attended s' stack' sent where
  idle := fun hidle => by
    obtain ⟨hnone, hunset⟩ := h.idle (hstate.symm.trans hidle)
    refine ⟨hstack.trans hnone, Bool.eq_false_iff.2 fun hset => ?_⟩
    exact Bool.false_ne_true (hunset.symm.trans (htimer hset))
  request := fun hsent x hx =>
    (h.request (hstate.symm.trans hsent) x (hrequest.symm.trans hx)).frame hstack (hreading x)
      htimer (hfinished x (hrequest.symm.trans hx)) (hcanceled _) (hlisteners _ _)
  attention := fun hattention => by
    obtain ⟨hnone, x, hx, hpos⟩ := h.attention (hstate.symm.trans hattention)
    exact ⟨hstack.trans hnone, x, hrequest.trans hx, hpos⟩

/-! ### Instructions -/

theorem sameListeners_exec (i : Instr) (r : RequestId) :
    RequestTokenHandler.SameListeners (s.requests r) ((exec c i s).1.requests r) := by
  cases i with
  | cancelListener r' l =>
    cases l with
    | response call =>
      have hrequests : (exec c (.cancelListener r' (.response call)) s).1.requests = s.requests :=
        requests_transitionTo _
      rw [hrequests]
      exact ⟨rfl, rfl⟩
    | _ => exact ⟨rfl, rfl⟩
  | requestTimeoutError r' =>
    dsimp only [exec, updateRequest]
    split
    · next hr =>
      rw [hr]
      exact ⟨rfl, rfl⟩
    · exact ⟨rfl, rfl⟩
  | _ => exact ((spares_exec (by simp) (by simp)).requests r).toSameListeners

/-- Only what closes the connection leaves something to do that does. -/
theorem closes_exec {i : Instr} (hi : i.closes = false) :
    ∀ j ∈ (exec c i s).2, j.closes = false := by
  cases i with
  | enterFinal => cases hi
  | dispatchSocketError err => cases hi
  | afterConnectTimeout => cases hi
  | enterConnecting => exact closes_transitionTo
  | closeRequest =>
    exact fun j hj => Instr.closes_of_isCleanup ((cleansUp_closeRequest (s := s)).stack j hj)
  | cancelListener r l =>
    cases l with
    | response call => exact closes_transitionTo
    | _ => simp [exec, onCancel]
  | _ => simp [exec, Instr.closes]

theorem state_dispatchEvent {event : Dispatched}
    (hevent : event = .connectTimeout ∨ ∃ err, event = .socketError err) :
    (s.dispatchEvent c event).1.state = s.state ∨ (s.dispatchEvent c event).1.state = .FINAL := by
  unfold dispatchEvent
  split
  · next r hr =>
    rcases hevent with rfl | ⟨err, rfl⟩ <;> unfold eventHandler at hr <;> dsimp only at hr <;>
      split at hr <;> cases hr
    all_goals
      first
      | exact .inr (state_transitionTo _)
      | exact .inl rfl
  · exact .inl rfl

/-- The state is kept, or the connection is closed. -/
theorem state_exec {i : Instr} (hattending : i.isAttending = false) (hi : i ≠ .enterConnecting) :
    (exec c i s).1.state = s.state ∨ (exec c i s).1.state = .FINAL := by
  cases hcloses : i.closes with
  | true =>
    cases i with
    | enterFinal => exact .inr (state_transitionTo _)
    | dispatchSocketError err => exact state_dispatchEvent (.inr ⟨err, rfl⟩)
    | afterConnectTimeout =>
      exact state_dispatchEvent (s := { s with connectTimer := false }) (.inl rfl)
    | _ => cases hcloses
  | false =>
    cases hleaves : i.leaves with
    | false => exact .inl (exec_still hcloses hleaves).1
    | true =>
      cases i with
      | enterConnecting => exact absurd rfl hi
      | cancelListener r l => cases l <;> first | (cases hleaves; done) | cases hattending
      | _ => cases hleaves

theorem extendAttentions_next {i : Instr} {k' : Config Connection Instr}
    (hi : i.isAttending = false) : extendAttentions ⟨s, i :: rest⟩ .next k' sent = sent := by
  cases i with
  | cancelListener r l => cases l <;> first | rfl | cases hi
  | _ => rfl

/-- The state that a listener is left for is the one of its response. -/
theorem Attended.of_attending {i : Instr} (h : Attended s (i :: rest) sent)
    (hphase : RequestPhase s (i :: rest)) (hopen : s.state ≠ .FINAL)
    (hserving : Serving s (i :: rest)) (hi : i.isAttending = true) :
    s.state = .SENT_CLIENT_REQUEST ∧ ∃ x, s.request = some x ∧
      Watch s (i :: rest) (attentions sent x) x := by
  have hstack : attending (i :: rest) = i :: attending rest := List.filter_cons_of_pos hi
  have hstate : s.state = .SENT_CLIENT_REQUEST := by
    rcases hphase.state with hstate | hstate | hstate | hstate
    · cases hstack.symm.trans (h.idle hstate).1
    · exact hstate
    · cases hstack.symm.trans (h.attention hstate).1
    · exact absurd hstate hopen
  refine ⟨hstate, ?_⟩
  cases hserving.stage with
  | outside hout => rw [hstate] at hout; cases hout
  | idle hstate' => cases hstate.symm.trans hstate'
  | waiting x _ hrequest => exact ⟨x, hrequest, h.request hstate x hrequest⟩
  | reading x hreading => exact ⟨x, hreading.request, h.request hstate x hreading.request⟩
  | attending x hstate' => cases hstate.symm.trans hstate'

theorem attentions_cons {r : RequestId} {x : Execution} (hrequest : s.request = some x)
    (y : Execution) :
    attentions (s.attention r :: sent) y = attentions sent y + if x = y then 1 else 0 := by
  simp [attentions, attention, hrequest, List.countP_cons]

/-- One is sent for the current request, whose message has finished. -/
theorem Past.attention {x : Execution} (h : Past s sent) (hrequest : s.request = some x)
    (hcanceled : (s.requests x.request).canceled = true)
    (hfinished : (s.messages x.call).finished = true) (hnone : attentions sent x = 0) :
    Past s (s.attention x.request :: sent) := by
  have hattention : s.attention x.request =
      { canceled := x.request, current := some x, finished := true } := by
    simp [Connection.attention, currentFinished, hrequest, hfinished]
  constructor
  · intro attention hmem
    rcases List.mem_cons.1 hmem with rfl | hmem
    · rw [hattention]
    · exact h.finished attention hmem
  · intro attention hmem
    rcases List.mem_cons.1 hmem with rfl | hmem
    · rw [hattention]
      exact ⟨x, rfl, rfl, hcanceled⟩
    · exact h.current attention hmem
  · intro y
    rw [attentions_cons hrequest]
    split
    · next heq => rw [← heq, hnone]
    · exact h.once y

/-- An `ATTENTION` message is sent. -/
theorem attends_attention {r : RequestId}
    (hphase : RequestPhase s (.cancelListener r .afterRequestSent :: rest))
    (hopen : s.state ≠ .FINAL) (hclosed : s.closed = false)
    (hserving : Serving s (.cancelListener r .afterRequestSent :: rest))
    (hcloses : (.cancelListener r .afterRequestSent :: rest).Pairwise fun i j =>
      i.closes = true → j.isAttending = false)
    (h : Attended s (.cancelListener r .afterRequestSent :: rest) sent) (hpast : Past s sent) :
    Attends (exec c (.cancelListener r .afterRequestSent) s).1 rest (s.attention r :: sent) ∧
      Past s (s.attention r :: sent) := by
  obtain ⟨hstate, x, hrequest, hwatch⟩ := h.of_attending hphase hopen hserving rfl
  have hstack : attending (.cancelListener r .afterRequestSent :: rest) =
    .cancelListener r .afterRequestSent :: attending rest := rfl
  have hreading : Reading (exec c (.cancelListener r .afterRequestSent) s).1 x → Reading s x :=
    fun hread => hread.congr rfl rfl rfl
  -- it is the first one
  have hfirst : r = x.request ∧ (s.requests x.request).canceled = true ∧
      (s.messages x.call).finished = true ∧ attentions sent x = 0 ∧
        Watch (exec c (.cancelListener r .afterRequestSent) s).1 rest 1 x := by
    cases hwatch with
    | calm hnone => cases hstack.symm.trans hnone
    | waiting hsome hset hdone hnone hnot =>
      obtain ⟨hr, hnil⟩ := List.cons.inj (hstack.symm.trans hsome)
      obtain rfl : r = x.request := by cases hr; rfl
      refine ⟨rfl, hset, hdone, hnone, .calm hnil (fun _ => ⟨Nat.one_pos, mt hreading hnot⟩) ?_⟩
      intro hopen' _
      cases hset.symm.trans hopen'
    | reading hsome hset hdone hnone =>
      obtain ⟨hr, hnil⟩ := List.cons.inj (hstack.symm.trans hsome)
      obtain rfl : r = x.request := by cases hr; rfl
      exact ⟨rfl, hset, hdone, hnone, .sent hnil hset Nat.one_pos⟩
    | sent hsome =>
      cases (List.cons.inj (hstack.symm.trans hsome)).1
  obtain ⟨rfl, hset, hdone, hnone, hwatch'⟩ := hfirst
  refine ⟨?_, hpast.attention hrequest hset hdone hnone⟩
  refine .serving hphase.exec hopen hclosed (hserving.execRequest hphase hopen) hcloses.of_cons ?_
  refine ⟨fun hidle => ?_, fun _ y hy => ?_, fun hattention => ?_⟩
  · cases hstate.symm.trans hidle
  · obtain rfl : x = y := Option.some.inj (hrequest.symm.trans hy)
    rw [attentions_cons hrequest, hnone, if_pos rfl]
    exact hwatch'
  · cases hstate.symm.trans hattention

/-- The response is given up, and its acknowledgement waited for. -/
theorem attends_response {r : RequestId} {call : Nat}
    (hphase : RequestPhase s (.cancelListener r (.response call) :: rest))
    (hopen : s.state ≠ .FINAL) (hclosed : s.closed = false)
    (hserving : Serving s (.cancelListener r (.response call) :: rest))
    (hcloses : (.cancelListener r (.response call) :: rest).Pairwise fun i j =>
      i.closes = true → j.isAttending = false)
    (h : Attended s (.cancelListener r (.response call) :: rest) sent) :
    Attends (exec c (.cancelListener r (.response call)) s).1
      ((exec c (.cancelListener r (.response call)) s).2 ++ rest) sent := by
  obtain ⟨-, x, hrequest, hwatch⟩ := h.of_attending hphase hopen hserving rfl
  have hstack : attending (.cancelListener r (.response call) :: rest) =
    .cancelListener r (.response call) :: attending rest := rfl
  have hpushed : (exec c (.cancelListener r (.response call)) s).2 = [] :=
    transitionTo_loggedIn (rfl : ConnectionState.SENT_ATTENTION.isLoggedIn = true)
  have hstate : (exec c (.cancelListener r (.response call)) s).1.state = .SENT_ATTENTION :=
    state_transitionTo _
  have hsame : (exec c (.cancelListener r (.response call)) s).1.closed = s.closed := by
    refine (closesInFinal_exec rfl).resolve_right fun hfinal => ?_
    cases hstate.symm.trans hfinal.2
  have hsent : attending rest = [] ∧ 0 < attentions sent x := by
    cases hwatch with
    | calm hnone => cases hstack.symm.trans hnone
    | waiting hsome => cases (List.cons.inj (hstack.symm.trans hsome)).1
    | reading hsome => cases (List.cons.inj (hstack.symm.trans hsome)).1
    | sent hsome _ hone => exact ⟨(List.cons.inj (hstack.symm.trans hsome)).2, hone⟩
  refine .serving hphase.exec (by simp [hstate]) (hsame.trans hclosed)
    (hserving.execRequest hphase hopen) ?_ ⟨?_, ?_, fun _ => ?_⟩
  · rw [hpushed]
    exact hcloses.of_cons
  · simp [hstate]
  · simp [hstate]
  · rw [hpushed]
    exact ⟨hsent.1, x, (request_transitionTo _).trans hrequest, hsent.2⟩

theorem finished_exec (i : Instr) {call : Nat} (h : (s.messages call).finished = true) :
    ((exec c i s).1.messages call).finished = true := by
  cases i with
  | cancelListener r l =>
    cases l with
    | unsent call' =>
      dsimp only [exec, onCancel, updateMessage]
      split
      · next heq => exact heq ▸ h
      · exact h
    | afterRequestSent => exact h
    | response call' =>
      have hmessages : (exec c (.cancelListener r (.response call')) s).1.messages = s.messages :=
        messages_transitionTo _
      rwa [hmessages]
  | requestTimeoutError r => exact h
  | _ =>
    rw [(spares_exec (c := c) (s := s) (by simp) (by simp)).messages]
    exact h

/-- A connection that is in `FINAL` and has a request runs the callback. -/
theorem Course.closing_of_final (h : Course s rest) (hfinal : s.state = .FINAL) {x : Execution}
    (hrequest : s.request = some x) :
    ∃ above below, rest = above ++ .finishCleanup :: below ∧ ∀ i ∈ above, i.isInterlude = true := by
  cases h with
  | login hlogin => cases hlogin.request.symm.trans hrequest
  | serving _ hopen => exact absurd hfinal hopen
  | closing _ _ _ _ _ above below hstack habove => exact ⟨above, below, hstack, habove⟩
  | closed _ _ hnone => cases hnone.symm.trans hrequest

/-- What has been closed has `closed` set, or still has the request whose callback runs. -/
theorem over_of_proceeds {r : Connection × List Instr} (h : Proceeds s r)
    (hfinal : r.1.state = .FINAL) :
    r.1.closed = true ∨ r.1.state = .FINAL ∧ ∃ x, r.1.request = some x := by
  cases h with
  | goesOn _ _ hdone => exact .inl (hdone hfinal).2
  | answered x err _ _ _ hdone => exact .inl (hdone hfinal)
  | closing x err _ hrequest => exact .inr ⟨hfinal, x, hrequest⟩

/-- While `cleanupConnection` runs the callback of the current request. -/
theorem attends_closing {i : Instr} {x : Execution} {above below : List Instr}
    (hphase : RequestPhase s (i :: rest)) (hrequest : s.request = some x)
    (hstate : s.state = .FINAL) (hstack : i :: rest = above ++ .finishCleanup :: below)
    (habove : ∀ j ∈ above, j.isInterlude = true)
    (hattending : attending above = [.cancelListener x.request .afterRequestSent])
    (hbelow : attending below = []) (hcanceled : (s.requests x.request).canceled = true)
    (hfinished : (s.messages x.call).finished = true) (hnone : attentions sent x = 0)
    (hpast : Past s sent) (k' : Config Connection Instr) :
    Attends (exec c i s).1 ((exec c i s).2 ++ rest)
        (extendAttentions ⟨s, i :: rest⟩ .next k' sent) ∧
      Past s (extendAttentions ⟨s, i :: rest⟩ .next k' sent) := by
  cases above with
  | nil => cases hattending
  | cons j above =>
    obtain ⟨rfl, rfl⟩ := List.cons.inj hstack
    obtain ⟨hi, habove⟩ := List.forall_mem_cons.1 habove
    obtain ⟨hstate', hrequest', -, his⟩ := exec_interlude (c := c) (s := s) hi
    cases hlistener : i.isAttending with
    | false =>
      rw [extendAttentions_next hlistener]
      refine ⟨.closing hphase.exec x (hrequest'.trans hrequest) (hstate'.trans hstate)
        ((exec c i s).2 ++ above) below (List.append_assoc ..).symm
        (List.forall_mem_append.2 ⟨fun j hj => ?_, habove⟩) ?_ hbelow (canceled_exec i hcanceled)
        (finished_exec i hfinished) hnone, hpast⟩
      · rw [his j hj]
        rfl
      · rw [attending_append (isAttending_exec i)]
        exact (attending_cons hlistener).symm.trans hattending
    | true =>
      have hcons : attending (i :: above) = i :: attending above :=
        List.filter_cons_of_pos hlistener
      obtain ⟨rfl, hnil⟩ := List.cons.inj (hcons.symm.trans hattending)
      refine ⟨.ended hphase.exec ?_ (by simp [hstate', hstate])
        (.inr ⟨hstate'.trans hstate, x, hrequest'.trans hrequest⟩),
        hpast.attention hrequest hcanceled hfinished hnone⟩
      have hbelow' : attending (.finishCleanup :: below) = [] := (attending_cons rfl).trans hbelow
      rw [attending_append (isAttending_exec _)]
      exact (attending_append (attending_eq_nil.1 hnil)).trans hbelow'

/-- Any other instruction of an open connection. -/
theorem attends_serving {i : Instr} (hphase : RequestPhase s (i :: rest)) (hopen : s.state ≠ .FINAL)
    (hclosed : s.closed = false) (hserving : Serving s (i :: rest))
    (hcloses : (i :: rest).Pairwise fun i j => i.closes = true → j.isAttending = false)
    (h : Attended s (i :: rest) sent) (hattention : ∀ r, i ≠ .cancelListener r .afterRequestSent) :
    Attends (exec c i s).1 ((exec c i s).2 ++ rest) sent := by
  cases hi : i.isAttending with
  | true =>
    cases i with
    | cancelListener r l =>
      cases l with
      | unsent call => cases hi
      | afterRequestSent => exact absurd rfl (hattention r)
      | response call => exact attends_response hphase hopen hclosed hserving hcloses h
    | _ => cases hi
  | false =>
    have hconnecting : i ≠ .enterConnecting := fun heq =>
      hphase.notConnecting (heq ▸ List.mem_cons_self ..)
    by_cases hfinal : (exec c i s).1.state = .FINAL
    · -- what is below has no listener to run
      have hcl : i.closes = true := by
        refine Bool.not_eq_false _ ▸ fun hcl => hopen ?_
        have hleaves : i.leaves = false := by
          cases i with
          | enterConnecting => exact absurd rfl hconnecting
          | cancelListener r l => cases l <;> first | rfl | cases hi
          | _ => rfl
        exact (exec_still hcl hleaves).1.symm.trans hfinal
      refine .ended hphase.exec ?_ (by simp [hfinal])
        (over_of_proceeds (proceeds_exec hserving hphase hopen hclosed) hfinal)
      rw [attending_append (isAttending_exec i)]
      exact attending_eq_nil.2 fun j hj => List.rel_of_pairwise_cons hcloses hj hcl
    · have hstate : (exec c i s).1.state = s.state :=
        (state_exec hi hconnecting).resolve_right hfinal
      have hremains : (exec c i s).1.request = s.request ∧
          ∀ x, Reading (exec c i s).1 x → Reading s x := by
        by_cases hlistener : ∃ r l, i = .cancelListener r l
        · obtain ⟨r, l, rfl⟩ := hlistener
          cases l <;> first | exact ⟨rfl, fun x hx => hx.congr rfl rfl rfl⟩ | cases hi
        · have hkept := ((undisturbed_exec (c := c) hserving hphase hopen fun r l heq =>
            hlistener ⟨r, l, heq⟩).resolve_left hfinal).1
          exact ⟨hkept.request, fun x hx => hkept.of_reading hx⟩
      have hcleaning := hserving.cleaning (hphase.isLoggedIn hopen) i (List.mem_cons_self ..)
      refine .serving hphase.exec hfinal
        (((closesInFinal_exec hcleaning).resolve_right fun h => hfinal h.2).trans hclosed)
        (hserving.execRequest hphase hopen) ?_ ?_
      · refine List.pairwise_append.2 ⟨?_, hcloses.of_cons, ?_⟩
        · exact List.pairwise_of_forall_mem_list fun _ _ j hj _ => isAttending_exec i j hj
        · intro j hj j' hj' hcl
          cases hi' : i.closes with
          | true => exact List.rel_of_pairwise_cons hcloses hj' hi'
          | false => cases hcl.symm.trans (closes_exec hi' j hj)
      · refine h.frame ?_ hstate hremains.1 hremains.2 (cancelTimer_exec hattention).symm.trans
          (fun x _ => finished_exec i) (fun r => canceled_exec i) ?_
        · rw [attending_append (isAttending_exec i), attending_cons hi]
        · intro r call _ hmem
          rw [(sameListeners_exec i r).cancelListeners]
          exact hmem

/-- What has been closed stays closed, or goes on to be. -/
theorem over_exec {i : Instr} (hcourse : Course s (i :: rest))
    (hover : s.closed = true ∨ s.state = .FINAL ∧ ∃ x, s.request = some x) :
    (exec c i s).1.closed = true ∨
      (exec c i s).1.state = .FINAL ∧ ∃ x, (exec c i s).1.request = some x := by
  rcases hover with hclosed | ⟨hfinal, x, hrequest⟩
  · exact .inl (closed_exec hclosed)
  · obtain ⟨above, below, habove, hinterlude⟩ := hcourse.closing_of_final hfinal hrequest
    cases above with
    | nil =>
      obtain ⟨rfl, -⟩ := List.cons.inj habove
      exact .inl rfl
    | cons j above =>
      obtain ⟨rfl, -⟩ := List.cons.inj habove
      obtain ⟨hstate', hrequest', -⟩ := exec_interlude (c := c) (s := s)
        (hinterlude i (List.mem_cons_self ..))
      exact .inr ⟨hstate'.trans hfinal, x, hrequest'.trans hrequest⟩

theorem attends_exec {i : Instr} (hcourse : Course s (i :: rest)) (h : Attends s (i :: rest) sent)
    (hpast : Past s sent) (k' : Config Connection Instr) :
    Attends (exec c i s).1 ((exec c i s).2 ++ rest)
        (extendAttentions ⟨s, i :: rest⟩ .next k' sent) ∧
      Past (exec c i s).1 (extendAttentions ⟨s, i :: rest⟩ .next k' sent) := by
  refine (?_ : _ ∧ Past s _).imp_right fun hpast' => hpast'.frame fun r => canceled_exec i
  have hsame : (∀ r, i ≠ .cancelListener r .afterRequestSent) →
      extendAttentions ⟨s, i :: rest⟩ .next k' sent = sent := by
    intro hattention
    cases i with
    | cancelListener r l => cases l <;> first | rfl | exact absurd rfl (hattention r)
    | _ => rfl
  cases h with
  | login hlogin hout hunset =>
    have hattention : ∀ r, i ≠ .cancelListener r .afterRequestSent := by
      rintro r rfl
      exact hlogin.listenersRun r _ (List.mem_cons_self ..)
    rw [hsame hattention]
    refine ⟨.login hlogin.exec (exec_outside hlogin hout) ?_, hpast⟩
    exact (cancelTimer_exec hattention).trans hunset
  | serving hphase hopen hclosed hserving hcloses hattended =>
    by_cases hattention : ∃ r, i = .cancelListener r .afterRequestSent
    · obtain ⟨r, rfl⟩ := hattention
      exact attends_attention hphase hopen hclosed hserving hcloses hattended hpast
    · have hnot : ∀ r, i ≠ .cancelListener r .afterRequestSent := fun r hr => hattention ⟨r, hr⟩
      rw [hsame hnot]
      exact ⟨attends_serving hphase hopen hclosed hserving hcloses hattended hnot, hpast⟩
  | closing hphase x hrequest hstate above below hstack habove hattending hbelow hset hdone hnone =>
    exact attends_closing hphase hrequest hstate hstack habove hattending hbelow hset hdone hnone
      hpast k'
  | ended hphase hstack hstate hover =>
    have hi : i.isAttending = false := attending_eq_nil.1 hstack i (List.mem_cons_self ..)
    have hkept := state_exec (c := c) (s := s) hi fun heq =>
      hphase.notConnecting (heq ▸ List.mem_cons_self ..)
    rw [extendAttentions_next hi]
    refine ⟨.ended hphase.exec ?_ ?_ ?_, hpast⟩
    · rw [attending_append (isAttending_exec i)]
      exact (attending_cons hi).symm.trans hstack
    · rcases hkept with hkept | hkept
      · rwa [hkept]
      · simp [hkept]
    · exact over_exec hcourse hover

/-! ### Events -/

theorem handle_canceling {event : Event} {r : RequestId} (h : s.canceling event = some r) :
    ∃ timer is, s.handle c event = ((cancelRequest { s with requestTimer := timer } r).1,
      (cancelRequest { s with requestTimer := timer } r).2 ++ is) ∧
        ∀ i ∈ is, i.isAttending = false ∧ i.closes = false ∧ i.isNeutral = true := by
  cases event with
  | cancelRequest r' =>
    cases h
    exact ⟨s.requestTimer, [], by rw [List.append_nil]; rfl, by simp⟩
  | cancel =>
    obtain ⟨x, hrequest, rfl⟩ := Option.map_eq_some_iff.1 h
    have hcancel : s.cancel = s.cancelRequest x.request := by
      unfold cancel
      rw [hrequest]
    refine ⟨s.requestTimer, [], ?_, by simp⟩
    rw [List.append_nil]
    exact hcancel
  | requestTimer =>
    obtain ⟨x, hrequest, rfl⟩ := Option.map_eq_some_iff.1 h
    refine ⟨false, [.requestTimeoutError x.request], ?_, by simp [Instr.isAttending, Instr.closes,
      Instr.isNeutral]⟩
    show s.requestTimeout = _
    unfold requestTimeout
    dsimp only
    rw [hrequest]
  | _ => cases h

theorem uncanceled_cancelRequest {r r' : RequestId}
    (hopen : ((s.cancelRequest r).1.requests r').canceled = false) :
    (s.cancelRequest r).1.requests r' = s.requests r' := by
  unfold cancelRequest at hopen ⊢
  split at hopen
  · next hset => rw [if_pos hset]
  · next hset =>
    rw [if_neg hset]
    dsimp only [updateRequest] at hopen ⊢
    split at hopen
    · cases hopen
    · next hr => rw [if_neg hr]

/-- What is canceled where its listeners are as they should be. -/
theorem attentive_cases {r : RequestId} (h : s.attentive r = true)
    (hopen : (s.requests r).canceled = false) :
    (s.requests r).cancelListeners.filter CancelListener.isAttending = [] ∨
      ∃ x, s.request = some x ∧ x.request = r ∧ (s.messages x.call).finished = true ∧
        ((s.requests r).cancelListeners.filter CancelListener.isAttending = [.afterRequestSent] ∨
          s.state ≠ .FINAL ∧ ∃ call,
            (s.requests r).cancelListeners.filter CancelListener.isAttending =
              [.afterRequestSent, .response call]) := by
  have hcurrent : s.currentFinished = true → s.request.any (fun x => x.request = r) = true →
      ∃ x, s.request = some x ∧ x.request = r ∧ (s.messages x.call).finished = true := by
    intro hfinished hcurrent
    rw [currentFinished, Option.any_eq_true] at hfinished
    obtain ⟨x, hrequest, hfinished⟩ := hfinished
    rw [hrequest] at hcurrent
    exact ⟨x, hrequest, of_decide_eq_true hcurrent, hfinished⟩
  rw [attentive, hopen, Bool.false_or] at h
  split at h
  · next hnone => exact .inl hnone
  · next hone =>
    obtain ⟨hfinished, hr⟩ := (Bool.and_eq_true _ _).mp h
    obtain ⟨x, hx⟩ := hcurrent hfinished hr
    exact .inr ⟨x, hx.1, hx.2.1, hx.2.2, .inl hone⟩
  · next call htwo =>
    obtain ⟨hopen, hr⟩ := (Bool.and_eq_true _ _).mp h
    obtain ⟨hopen, hfinished⟩ := (Bool.and_eq_true _ _).mp hopen
    obtain ⟨x, hx⟩ := hcurrent hfinished hr
    exact .inr ⟨x, hx.1, hx.2.1, hx.2.2, .inr ⟨of_decide_eq_true hopen, call, htwo⟩⟩
  · cases h

theorem canceled_of_cancelRequest (r : RequestId) :
    ((s.cancelRequest r).1.requests r).canceled = true := by
  unfold cancelRequest
  split
  · next hset => exact hset
  · simp [updateRequest]

theorem messages_cancelRequest (r : RequestId) :
    (s.cancelRequest r).1.messages = s.messages := by
  unfold cancelRequest
  split <;> rfl

theorem pending_cancelRequest (r : RequestId) : (s.cancelRequest r).1.pending = s.pending := by
  unfold cancelRequest
  split <;> rfl

/-- A request is canceled. -/
theorem Attended.cancelRequest {r : RequestId} (h : Attended s rest sent) (hpast : Past s sent)
    (hserving : Serving s rest) (hin : s.state.isLoggedIn = true) (hopen : s.state ≠ .FINAL)
    (hattentive : s.attentive r = true) :
    Attended (s.cancelRequest r).1 ((s.cancelRequest r).2 ++ rest) sent := by
  have hreading : ∀ x, Reading (s.cancelRequest r).1 x → Reading s x := fun x hx =>
    hx.congr (state_cancelRequest r).symm (request_cancelRequest r).symm
      (pending_cancelRequest r).symm
  have hframe : attending ((s.cancelRequest r).2 ++ rest) = attending rest →
      Attended (s.cancelRequest r).1 ((s.cancelRequest r).2 ++ rest) sent := by
    intro hstack
    refine h.frame hstack (state_cancelRequest r) (request_cancelRequest r) hreading
      (cancelTimer_cancelRequest r).symm.trans (fun x _ => ?_)
      (fun r' => canceled_cancelRequest r) ?_
    · rw [messages_cancelRequest]
      exact id
    · intro r' call hr' hmem
      rwa [uncanceled_cancelRequest hr']
  cases hset : (s.requests r).canceled with
  | true =>
    have hnone : (s.cancelRequest r).2 = [] := by
      unfold Connection.cancelRequest
      rw [if_pos hset]
    exact hframe (by rw [hnone]; rfl)
  | false =>
    have hstack := attending_cancelRequest hset rest
    rcases attentive_cases hattentive hset with hnone | ⟨x, hrequest, rfl, hfinished, hlisteners⟩
    · exact hframe (by rw [hstack, hnone]; rfl)
    · have hfirst := hpast.attentions_eq_zero hset
      have hcanceled := canceled_of_cancelRequest (s := s) x.request
      have hfinished' : ((s.cancelRequest x.request).1.messages x.call).finished = true := by
        rwa [messages_cancelRequest]
      have hstate : s.state = .SENT_CLIENT_REQUEST := by
        cases hserving.stage with
        | outside hout => cases hin.symm.trans hout
        | idle _ hnone => cases hnone.symm.trans hrequest
        | waiting _ hstate => exact hstate
        | reading _ hreading => exact hreading.state
        | attending y hstate hy =>
          obtain ⟨-, z, hz, hpos⟩ := h.attention hstate
          obtain rfl : x = z := Option.some.inj (hrequest.symm.trans hz)
          rw [hfirst] at hpos
          cases hpos
      have hstate' : (s.cancelRequest x.request).1.state = .SENT_CLIENT_REQUEST :=
        (state_cancelRequest _).trans hstate
      refine ⟨fun hidle => (by cases hstate'.symm.trans hidle), fun _ y hy => ?_,
        fun hattention => (by cases hstate'.symm.trans hattention)⟩
      obtain rfl : x = y :=
        Option.some.inj (hrequest.symm.trans ((request_cancelRequest _).symm.trans hy))
      cases h.request hstate x hrequest with
      | waiting _ hset' => cases hset.symm.trans hset'
      | reading _ hset' => cases hset.symm.trans hset'
      | sent _ hset' => cases hset.symm.trans hset'
      | calm hnil _ hlistened =>
        rw [hnil, List.append_nil] at hstack
        rcases hlisteners with hone | ⟨-, call, htwo⟩
        · refine .waiting (by rw [hstack, hone]; rfl) hcanceled hfinished' hfirst fun hx => ?_
          have hmem : .response x.call ∈
              (s.requests x.request).cancelListeners.filter CancelListener.isAttending :=
            List.mem_filter.2 ⟨hlistened hset (hreading x hx), rfl⟩
          rw [hone] at hmem
          simp at hmem
        · -- what listens to a response listens to the one that is read
          have hmem : .response call ∈ (s.requests x.request).cancelListeners := by
            refine (List.mem_filter.1 (?_ : _ ∈ List.filter CancelListener.isAttending _)).1
            rw [htwo]
            simp
          have hpos : 0 < responses s rest x.request call :=
            Nat.add_pos_left (List.count_pos_iff.2 hmem) _
          have hread := (hserving.listened hopen x.request call hpos).2
          obtain rfl : call = x.call :=
            congrArg Execution.call (Option.some.inj (hread.request.symm.trans hrequest))
          exact .reading (by rw [hstack, htwo]; rfl) hcanceled hfinished' hfirst

/-- A call of `makeRequest`. -/
theorem Attended.makeRequest (h : Attended s rest sent) (r : RequestId) (type : RequestType) :
    Attended (s.makeRequest c r type).1 ((s.makeRequest c r type).2 ++ rest) sent := by
  have hrefused : ∀ {s' : Connection} {is : List Instr}, s'.state = s.state →
      s'.request = s.request → s'.pending = s.pending → s'.cancelTimer = s.cancelTimer →
        s'.messages = s.messages → s'.requests = s.requests →
          (∀ i ∈ is, i.isAttending = false) → Attended s' (is ++ rest) sent := by
    intro s' is hstate hrequest hpending htimer hmessages hrequests his
    refine h.frame (attending_append his) hstate hrequest (fun x hx => ?_) htimer.symm.trans ?_
      ?_ ?_
    · exact hx.congr hstate.symm hrequest.symm hpending.symm
    · rw [hmessages]
      exact fun _ _ => id
    · rw [hrequests]
      exact fun _ => id
    · rw [hrequests]
      exact fun _ _ _ => id
  unfold Connection.makeRequest
  dsimp only
  split
  · exact hrefused rfl rfl rfl rfl rfl rfl (by simp [Instr.isAttending])
  · next hstate =>
    have hlogged : s.state = .LOGGED_IN := Decidable.not_not.1 hstate
    obtain ⟨hnone, hunset⟩ := h.idle hlogged
    split
    · exact hrefused rfl rfl rfl rfl rfl rfl (by simp)
    · rw [transitionTo_loggedIn rfl]
      generalize hs' : (s.countCall { call := s.calls, request := r }).writeRequest c
        { call := s.calls, request := r } type = s'
      have hwritten : s'.state = s.state ∧ s'.cancelTimer = s.cancelTimer := by
        obtain ⟨_, _, _, hwrite⟩ := writeRequest_eq c
          (s.countCall { call := s.calls, request := r }) { call := s.calls, request := r } type
        rw [← hs', hwrite]
        exact ⟨rfl, rfl⟩
      have hstate' : (s'.transitionTo c .SENT_CLIENT_REQUEST).1.state = .SENT_CLIENT_REQUEST :=
        state_transitionTo _
      refine ⟨fun hidle => ?_, fun _ x _ => .calm hnone (fun hset => ?_) fun _ hread => ?_,
        fun hattention => ?_⟩
      · cases hstate'.symm.trans hidle
      · rw [cancelTimer_transitionTo, hwritten.2, hunset] at hset
        cases hset
      · -- the response has not begun
        obtain ⟨-, -, errors, answers, hpending⟩ := hread
        rw [pending_transitionTo, if_neg (by rw [hwritten.1, hlogged]; decide)] at hpending
        have hlast := congrArg List.getLast? hpending
        simp [ConnectionState.waits] at hlast
      · cases hstate'.symm.trans hattention

/-- A change of requests that keeps their listeners. -/
theorem Attended.updateRequest (h : Attended s rest sent) (r : RequestId) (f : Request → Request)
    (hcanceled : (f (s.requests r)).canceled = (s.requests r).canceled)
    (hlisteners : ∀ call, .response call ∈ (s.requests r).cancelListeners →
      .response call ∈ (f (s.requests r)).cancelListeners) :
    Attended (s.updateRequest r f) rest sent := by
  refine h.frame rfl rfl rfl (fun x hx => hx.congr rfl rfl rfl) id (fun _ _ => id)
    (fun r' hr' => ?_) fun r' call _ hmem => ?_
  · dsimp only [Connection.updateRequest]
    split
    · next heq => exact hcanceled.trans (heq ▸ hr')
    · exact hr'
  · dsimp only [Connection.updateRequest]
    split
    · next heq => exact hlisteners call (heq ▸ hmem)
    · exact hmem

/-- A change of messages that have not been taken back. -/
theorem Attended.updateMessage (h : Attended s rest sent) (call : Nat)
    (f : RequestMessage → RequestMessage)
    (hfinished : (s.messages call).finished = true → (f (s.messages call)).finished = true) :
    Attended (s.updateMessage call f) rest sent := by
  refine h.frame rfl rfl rfl (fun x hx => hx.congr rfl rfl rfl) id (fun x _ hx => ?_) (fun _ => id)
    fun _ _ _ => id
  dsimp only [Connection.updateMessage]
  split
  · next heq => exact hfinished (heq ▸ hx)
  · exact hx

/-- A message has been written; the listener for its cancel is another one from now on. -/
theorem Attended.finish (h : Attended s rest sent) (call : Nat) :
    Attended (s.onFinish call) rest sent := by
  have hfinished := h.updateMessage call (fun message => { message with finished := true })
    fun _ => rfl
  have hswapped := hfinished.updateRequest (s.messages call).request (fun request =>
    (request.removeListener (.unsent call)).once .afterRequestSent) rfl fun call' hmem => by
      refine List.mem_append_left _ (List.count_pos_iff.1 ?_)
      rw [count_removeListener_of_ne (by simp)]
      exact List.count_pos_iff.2 hmem
  exact hswapped.frame rfl rfl rfl (fun x hx => hx.congr rfl rfl rfl) id (fun _ _ => id)
    (fun _ => id) fun _ _ _ => id

/-- The listeners of a current request that has nothing to run are calm. -/
theorem Attended.calm (h : Attended s [] sent) (hstate : s.state = .SENT_CLIENT_REQUEST)
    {x : Execution} (hrequest : s.request = some x) (htimer : s.cancelTimer = true) :
    0 < attentions sent x ∧ ¬Reading s x := by
  cases h.request hstate x hrequest with
  | calm _ hset => exact hset htimer
  | waiting hsome => cases hsome
  | reading hsome => cases hsome
  | sent hsome => cases hsome

/-- A message has begun: it is the response, or it is to be ignored. -/
theorem Attended.afterRequestMessage {x : Execution} (h : Attended s [] sent) (hpast : Past s sent)
    (hstate : s.state = .SENT_CLIENT_REQUEST) (hrequest : s.request = some x)
    (pending : List Pending) :
    Attended (Connection.afterRequestMessage c { s with pending := pending } x.call).1
      (Connection.afterRequestMessage c { s with pending := pending } x.call).2 sent := by
  rw [stack_afterRequestMessage]
  have hcalm := h.calm hstate hrequest
  unfold Connection.afterRequestMessage
  dsimp only
  split
  · next hset =>
    obtain ⟨-, htimer⟩ := (Bool.and_eq_true _ _).mp hset
    refine ⟨?_, ?_, fun _ => ⟨rfl, x, (request_transitionTo _).trans hrequest, (hcalm htimer).1⟩⟩
    · simp [state_transitionTo]
    · simp [state_transitionTo]
  · next hset =>
    rw [updateCurrentRequest_eq (x := x) (by exact hrequest)]
    refine ⟨fun hidle => ?_, fun _ y hy => ?_, fun hattention => ?_⟩
    · cases hstate.symm.trans hidle
    · obtain rfl : x = y := Option.some.inj (hrequest.symm.trans hy)
      refine .calm rfl (fun htimer => absurd ?_ hset) fun _ _ => ?_
      · -- a message has been sent for it, so it is canceled
        have hcanceled := hpast.canceled (hcalm htimer).1
        have htimer' : s.cancelTimer = true := htimer
        simp [requestCanceled, hrequest, hcanceled, htimer']
      · simp [Connection.updateRequest, Request.once]
    · cases hstate.symm.trans hattention

/-- A connection that takes requests has no listener to run, and no cancel timer. -/
theorem Attended.of_loggedIn {stack : List Instr} (hstate : s.state = .LOGGED_IN)
    (hstack : attending stack = []) (htimer : s.cancelTimer = false) : Attended s stack sent where
  idle := fun _ => ⟨hstack, htimer⟩
  request := fun hsent => by cases hstate.symm.trans hsent
  attention := fun hattention => by cases hstate.symm.trans hattention

/-- Something under way goes on while requests are made. -/
theorem Attended.resume (h : Attended s [] sent) (hpast : Past s sent) (hserving : Serving s [])
    (hin : s.state.isLoggedIn = true) {p : Pending} {outcome : Outcome}
    (henabled : s.enabled (.resume p outcome) = true)
    (hconcerns : Event.concerns (.resume p outcome) = true) :
    Attended (s.handle c (.resume p outcome)).1 (s.handle c (.resume p outcome)).2 sent := by
  have hp : p ∈ s.pending := of_decide_eq_true ((Bool.and_eq_true _ _).mp henabled).1
  have hstack : attending (s.handle c (.resume p outcome)).2 = [] :=
    attending_eq_nil.2 (isAttending_handle henabled rfl)
  cases hserving.stage with
  | outside hout => cases hin.symm.trans hout
  | idle _ _ hpending =>
    rw [hpending] at hp
    cases hp
  | waiting x hstate hrequest hpending =>
    rcases hpending with hpending | hpending
    · rw [hpending] at hp
      cases hp
    · obtain rfl : p = .requestMessage x.call := by simpa [hpending] using hp
      cases outcome <;> cases hconcerns
      exact h.afterRequestMessage hpast hstate hrequest _
  | reading x hreading =>
    have hreading' := hreading
    obtain ⟨hstate, hrequest, errors, answers, hpending⟩ := hreading
    obtain rfl : p = .requestTokens x.call (some x.request) errors answers := by
      simpa [hpending] using hp
    cases outcome <;> cases hconcerns
    -- the timer is not set while the response is read
    have hunset : s.cancelTimer = false := by
      refine Bool.eq_false_iff.2 fun htimer => ?_
      exact (h.calm hstate hrequest htimer).2 hreading'
    refine .of_loggedIn (state_transitionTo _) hstack ?_
    show (Connection.onEndOfMessage c { s with pending := _ } x.call).1.cancelTimer = false
    unfold onEndOfMessage
    dsimp only
    rw [cancelTimer_transitionTo, cancelTimer_updateCurrentRequest]
    exact hunset
  | attending x hstate hrequest hpending =>
    rcases hpending with hpending | ⟨q, hpending, hq⟩
    · rw [hpending] at hp
      cases hp
    · obtain rfl : p = q := by simpa [hpending] using hp
      obtain ⟨-, hsent⟩ := h.attention hstate
      cases p <;> cases hq <;> cases outcome <;> cases hconcerns
      · refine ⟨fun hidle => ?_, fun hrequest => ?_, fun _ => ⟨hstack, hsent⟩⟩
        · cases hstate.symm.trans hidle
        · cases hstate.symm.trans hrequest
      · next attentionReceived answers =>
        change attending (Connection.afterAttention c { s with pending := _ } _).2 = [] at hstack
        show Attended (Connection.afterAttention c { s with pending := _ } attentionReceived).1
          (Connection.afterAttention c { s with pending := _ } attentionReceived).2 sent
        cases attentionReceived with
        | true => exact .of_loggedIn (state_transitionTo _) hstack (cancelTimer_transitionTo _)
        | false =>
          refine ⟨fun hidle => ?_, fun hrequest => ?_, fun _ => ⟨hstack, hsent⟩⟩
          · cases hstate.symm.trans hidle
          · cases hstate.symm.trans hrequest

/-- An event of an open connection, but one that cancels a request. -/
theorem Attended.handle (h : Attended s rest sent) (hpast : Past s sent) (hserving : Serving s rest)
    (hphase : RequestPhase s rest) (hopen : s.state ≠ .FINAL) {event : Event}
    (henabled : s.enabled event = true) (hrest : event.isCall = true ∨ rest = [])
    (hcanceling : s.canceling event = none) (hfinal : (s.handle c event).1.state ≠ .FINAL) :
    Attended (s.handle c event).1 ((s.handle c event).2 ++ rest) sent := by
  have hpushed : ∀ {s' : Connection}, Attended s' rest sent → (s.handle c event).1 = s' →
      Attended (s.handle c event).1 ((s.handle c event).2 ++ rest) sent := by
    rintro s' h' rfl
    refine h'.frame (attending_append (isAttending_handle henabled hcanceling)) rfl rfl
      (fun _ => id) id (fun _ _ => id) (fun _ => id) fun _ _ _ => id
  cases hconcerns : event.concerns with
  | false =>
    have hkept := ((undisturbed_handle (c := c) hserving hphase hopen henabled hrest
      hconcerns).resolve_left hfinal).1
    have hspares : Spares (s.errors c event) s (s.handle c event) :=
      spares_handle henabled hconcerns
    refine h.frame (attending_append (isAttending_handle henabled hcanceling)) hkept.state
      hkept.request (fun x hx => hkept.of_reading hx) hspares.cancelTimer.symm.trans
      (fun x _ hx => ?_) (fun r hr => ((hspares.requests r).canceled).trans hr)
      fun r call _ hmem => ?_
    · rwa [hspares.messages]
    · rwa [(hspares.requests r).cancelListeners]
  | true =>
    cases event with
    | makeRequest r type => exact h.makeRequest r type
    | prepare r =>
      have hprepared := h.updateRequest r (fun request =>
        { request with preparing := true, prepared := request.prepared + 1 }) rfl fun _ => id
      exact hprepared.makeRequest r .RPC_REQUEST
    | reset =>
      have hflagged : Attended { s with
          resetConnectionOnNextRequest := true, trace := .resetCalled :: s.trace } rest sent :=
        h.frame rfl rfl rfl (fun x hx => hx.congr rfl rfl rfl) id (fun _ _ => id) (fun _ => id)
          fun _ _ _ => id
      exact hflagged.makeRequest _ .SQL_BATCH
    | cancel =>
      refine hpushed h ?_
      have hnone : s.request = none := Option.map_eq_none_iff.1 hcanceling
      rw [Connection.handle, cancel, hnone]
    | cancelRequest r => cases hcanceling
    | requestTimer =>
      have hnone : s.request = none := Option.map_eq_none_iff.1 hcanceling
      have hfired : Attended { s with requestTimer := false } rest sent :=
        h.frame rfl rfl rfl (fun x hx => hx.congr rfl rfl rfl) id (fun _ _ => id) (fun _ => id)
          fun _ _ _ => id
      refine hpushed hfired ?_
      rw [Connection.handle, requestTimeout]
      dsimp only
      rw [hnone]
    | payloadEnd call =>
      exact hpushed (h.updateMessage call
        (fun message => { message with payloadDone := true, ended := true }) id) rfl
    | payloadError call err =>
      have hfailed := h.updateMessage call
        (fun message => { message with payloadDone := true, ignore := true, ended := true }) id
      exact hpushed (hfailed.updateRequest (s.messages call).request (fun request =>
        { request with error := request.error <|> some err }) rfl fun _ => id) rfl
    | finish call => exact hpushed (h.finish call) rfl
    | tick t =>
      have herased : Attended { s with ticks := s.ticks.erase t } rest sent :=
        h.frame rfl rfl rfl (fun x hx => hx.congr rfl rfl rfl) id (fun _ _ => id) (fun _ => id)
          fun _ _ _ => id
      cases t <;> exact hpushed herased rfl
    | resume p outcome =>
      obtain rfl := hrest.resolve_left (by simp [Event.isCall])
      rw [List.append_nil]
      exact h.resume hpast hserving (hphase.isLoggedIn hopen) henabled hconcerns
    | _ => cases hconcerns

theorem attending_handle {event : Event} {r : RequestId} (h : s.canceling event = some r) :
    attending (s.handle c event).2 = if (s.requests r).canceled then [] else
      ((s.requests r).cancelListeners.filter CancelListener.isAttending).map
        (.cancelListener r ·) := by
  obtain ⟨timer, is, hhandle, his⟩ := handle_canceling (c := c) h
  have hnone : attending is = [] := attending_eq_nil.2 fun i hi => (his i hi).1
  rw [hhandle]
  dsimp only
  split
  · next hset =>
    unfold cancelRequest
    rw [if_pos hset]
    exact hnone
  · next hset =>
    have hcanceled := attending_cancelRequest (s := { s with requestTimer := timer }) (r := r)
      (Bool.eq_false_iff.2 hset) is
    rwa [hnone, List.append_nil] at hcanceled

/-- Nothing that does not leave the state open closes it later. -/
theorem closes_handle (hphase : RequestPhase s rest) (hopen : s.state ≠ .FINAL) {event : Event}
    (hcall : event.isCall = true) (hfinal : (s.handle c event).1.state ≠ .FINAL) :
    ∀ i ∈ (s.handle c event).2, i.closes = false := by
  have hmake : ∀ {s : Connection} (r : RequestId) (type : RequestType),
      ∀ i ∈ (s.makeRequest c r type).2, i.closes = false := by
    intro s r type
    unfold makeRequest
    dsimp only
    split
    · simp [Instr.closes]
    · split
      · simp
      · exact closes_transitionTo
  cases event with
  | connect =>
    have hstate : s.state ≠ .INITIALIZED := by
      intro hstate
      have hin := hphase.isLoggedIn hopen
      rw [hstate] at hin
      cases hin
    show ∀ i ∈ (s.connect c).2, _
    rw [connect, if_neg hstate]
    simp
  | close => exact absurd (state_transitionTo _) hfinal
  | cancel =>
    show ∀ i ∈ s.cancel.2, _
    unfold cancel
    split
    · exact closes_cancelRequest
    · simp
  | cancelRequest r => exact closes_cancelRequest
  | setTimeout r timeout => simp [handle]
  | makeRequest r type => exact hmake r type
  | prepare r => exact hmake r _
  | reset => exact hmake _ _
  | _ => cases hcall

/-- Without a request nothing leads to `SENT_ATTENTION`. -/
theorem state_handle (hphase : RequestPhase s rest) (hnone : s.request = none)
    (hstate : s.state ≠ .SENT_ATTENTION) {event : Event} (henabled : s.enabled event = true) :
    (s.handle c event).1.state ≠ .SENT_ATTENTION := by
  have hmake : ∀ {s' : Connection} (r : RequestId) (type : RequestType), s'.state = s.state →
      (s'.makeRequest c r type).1.state ≠ .SENT_ATTENTION := by
    intro s' r type hsame
    unfold makeRequest
    dsimp only
    split
    · exact hsame.trans_ne hstate
    · split
      · exact hsame.trans_ne hstate
      · simp [state_transitionTo]
  have hnot : ∀ {st : ConnectionState}, st.isLoggedIn = false → st ≠ .FINAL → s.state ≠ st := by
    rintro st hst hne rfl
    rw [hphase.isLoggedIn hne] at hst
    cases hst
  cases event with
  | connect =>
    show (s.connect c).1.state ≠ _
    unfold connect
    rwa [if_neg (hnot rfl (by decide))]
  | close =>
    show (s.transitionTo c .FINAL).1.state ≠ _
    simp [state_transitionTo]
  | cancel =>
    show s.cancel.1.state ≠ _
    unfold cancel
    rwa [hnone]
  | cancelRequest r => exact (state_cancelRequest r).trans_ne hstate
  | makeRequest r type => exact hmake r type rfl
  | prepare r => exact hmake r _ rfl
  | reset => exact hmake _ _ rfl
  | requestTimer =>
    show s.requestTimeout.1.state ≠ _
    unfold requestTimeout
    dsimp only
    rwa [hnone]
  | cancelTimer =>
    rcases state_dispatchEvent (c := c) (s := { s with cancelTimerArmed := false })
      (.inr ⟨cancelTimeoutError c, rfl⟩) with hsame | hfinal
    · exact hsame.trans_ne hstate
    · exact hfinal.trans_ne (by decide)
  | retryTimer => cases hphase.retryTimer.symm.trans henabled
  | socketEnd =>
    show (s.socketEnd c).1.state ≠ _
    unfold socketEnd
    split <;> exact hstate
  | socketClose =>
    show (s.socketClose c).1.state ≠ _
    unfold socketClose
    rw [if_neg (hnot rfl (by decide)), if_neg (hnot rfl (by decide))]
    simp [state_transitionTo]
  | tick t => cases t <;> exact hstate
  | resume p outcome =>
    obtain ⟨hmem, haccepts⟩ := (Bool.and_eq_true _ _).mp henabled
    have hp := hphase.pending p (of_decide_eq_true hmem)
    cases p <;> cases hp <;> cases outcome <;> cases haccepts
    · next call =>
      show (afterRequestMessage c { s with pending := _ } call).1.state ≠ _
      unfold afterRequestMessage
      dsimp only
      rw [requestCanceled, hnone]
      exact (state_updateCurrentRequest _).trans_ne hstate
    · exact hstate
    · next call request errors answers =>
      show (onEndOfMessage c { s with pending := _ } call).1.state ≠ _
      unfold onEndOfMessage
      simp [state_transitionTo]
    · next call request errors answers token =>
      exact ((requestToken_same call request errors token).1).trans_ne hstate
    · exact hstate
    · exact hstate
    · next attentionReceived answers =>
      show (afterAttention c { s with pending := _ } attentionReceived).1.state ≠ _
      unfold afterAttention
      split
      · simp [state_transitionTo]
      · exact hstate
    · next attentionReceived answers token =>
      show (attentionToken { s with pending := _ } attentionReceived answers token).1.state ≠ _
      unfold attentionToken
      split <;> exact hstate
  | _ => exact hstate

theorem answerable_of_attentive {event : Event} (h : Attentive s rest event) :
    Answerable s rest event := by
  refine ⟨h.1, fun hfinal _ => ?_⟩
  have hlistened : ∀ r, s.attentive r = true → s.responseListened r = false := by
    intro r hr
    refine Bool.eq_false_iff.2 fun hlistened => ?_
    rw [responseListened, Bool.and_eq_true, List.any_eq_true] at hlistened
    obtain ⟨hopen, l, hl, hresponse⟩ := hlistened
    have hmem : l ∈ (s.requests r).cancelListeners.filter CancelListener.isAttending := by
      refine List.mem_filter.2 ⟨hl, ?_⟩
      cases l <;> first | rfl | cases hresponse
    rcases attentive_cases hr (by simpa using hopen) with hnone | ⟨-, -, -, -, hone | ⟨hnot, -⟩⟩
    · rw [hnone] at hmem
      cases hmem
    · rw [hone] at hmem
      cases List.mem_singleton.1 hmem
      cases hresponse
    · exact hnot hfinal
  have hattentive := h.2.1
  cases event with
  | cancelRequest r => exact hlistened r hattentive
  | cancel =>
    cases hrequest : s.request with
    | none => rw [attends, hrequest]; rfl
    | some x =>
      rw [canceling, hrequest] at hattentive
      rw [attends, hrequest]
      exact hlistened x.request hattentive
  | _ => rfl

/-- The calls of the user that can happen while a callback of `cleanupConnection` runs write
nothing. -/
theorem messages_closing {event : Event} (hstate : s.state = .FINAL) (hcall : event.isCall = true) :
    (s.handle c event).1.messages = s.messages := by
  have hmake : ∀ {s' : Connection} (r : RequestId) (type : RequestType), s'.state = .FINAL →
      s'.messages = s.messages → (s'.makeRequest c r type).1.messages = s.messages := by
    intro s' r type hfinal hmessages
    unfold makeRequest
    rwa [if_pos (by simp [hfinal])]
  cases event with
  | connect =>
    have hsame : s.connect c = (s, []) := if_neg (by simp [hstate])
    rw [handle, hsame]
  | close => exact messages_transitionTo _
  | cancel =>
    show s.cancel.1.messages = _
    unfold cancel
    split
    · exact messages_cancelRequest _
    · rfl
  | cancelRequest r => exact messages_cancelRequest r
  | setTimeout r timeout => rfl
  | makeRequest r type => exact hmake r type hstate rfl
  | prepare r => exact hmake r _ hstate rfl
  | reset => exact hmake _ _ hstate rfl
  | _ => cases hcall

/-- What is canceled while there is nothing to run has nothing that is to run, or is the
current request and waits for its response. -/
theorem attending_attentive {event : Event} (hguard : Attentive s rest event)
    (henabled : s.enabled event = true) (hfinal : s.state = .FINAL ∨ s.request = none) :
    attending (s.handle c event).2 = [] ∨ ∃ x, s.request = some x ∧
      attending (s.handle c event).2 = [.cancelListener x.request .afterRequestSent] ∧
        s.canceling event = some x.request ∧ (s.requests x.request).canceled = false ∧
          (s.messages x.call).finished = true := by
  cases hcanceling : s.canceling event with
  | none => exact .inl (attending_eq_nil.2 (isAttending_handle henabled hcanceling))
  | some r =>
    rw [attending_handle hcanceling]
    cases hset : (s.requests r).canceled with
    | true => exact .inl rfl
    | false =>
      have hattentive := hguard.2.1
      rw [hcanceling] at hattentive
      rcases attentive_cases hattentive hset with hnone | ⟨x, hrequest, rfl, hdone, hone | hnot⟩
      · exact .inl (by rw [hnone]; rfl)
      · exact .inr ⟨x, hrequest, by rw [hone]; rfl, rfl, hset, hdone⟩
      · rcases hfinal with hfinal | hnone
        · exact absurd hfinal hnot.1
        · cases hnone.symm.trans hrequest

/-- The functions that the user calls, but `close`, leave an open connection open. -/
theorem open_handle (hphase : RequestPhase s rest) (hopen : s.state ≠ .FINAL) {event : Event}
    (h : event.isCall = true ∧ event ≠ .close ∨ event.isCalling = true) :
    (s.handle c event).1.state ≠ .FINAL := by
  have hmake : ∀ {s' : Connection} (r : RequestId) (type : RequestType), s'.state = s.state →
      (s'.makeRequest c r type).1.state ≠ .FINAL := by
    intro s' r type hsame
    unfold makeRequest
    dsimp only
    split
    · exact hsame.trans_ne hopen
    · split
      · exact hsame.trans_ne hopen
      · simp [state_transitionTo]
  cases event with
  | connect =>
    have hstate : s.state ≠ .INITIALIZED := by
      intro hstate
      have hin := hphase.isLoggedIn hopen
      rw [hstate] at hin
      cases hin
    show (s.connect c).1.state ≠ _
    unfold connect
    rwa [if_neg hstate]
  | close => exact absurd h (by simp [Event.isCalling])
  | cancel =>
    show s.cancel.1.state ≠ _
    unfold cancel
    split
    · exact (state_cancelRequest _).trans_ne hopen
    · exact hopen
  | cancelRequest r => exact (state_cancelRequest r).trans_ne hopen
  | setTimeout r timeout => exact hopen
  | makeRequest r type => exact hmake r type rfl
  | prepare r => exact hmake r _ rfl
  | reset => exact hmake _ _ rfl
  | tick t => cases t <;> exact hopen
  | _ => exact absurd h (by simp [Event.isCall, Event.isCalling])

/-- The login goes on, or ends. -/
theorem attends_login (hlogin : LoginPhase s rest) (hcourse : Course s rest)
    (htimer : s.cancelTimer = false) : Attends s rest sent := by
  have hnone : ∀ i ∈ rest, i.isAttending = false := by
    intro i hi
    cases i with
    | cancelListener r l => exact absurd hi (hlogin.listenersRun r l)
    | _ => rfl
  have hstack := attending_eq_nil.2 hnone
  cases hcourse with
  | login _ hout => exact .login hlogin hout htimer
  | serving hphase hopen hclosed hserving =>
    have hstate : s.state = .LOGGED_IN := by
      rcases hphase.state with hstate | hstate | hstate | hstate
      · exact hstate
      · exact absurd hstate hlogin.state.1
      · exact absurd hstate hlogin.state.2
      · exact absurd hstate hopen
    exact .serving hphase hopen hclosed hserving
      (List.pairwise_of_forall_mem_list fun _ _ j hj _ => hnone j hj)
      (.of_loggedIn hstate hstack htimer)
  | closing _ x hrequest => cases hlogin.request.symm.trans hrequest
  | closed hphase hclosed => exact .ended hphase hstack hlogin.state.2 (.inl hclosed)

/-- An event of an open connection. -/
theorem attends_open (hphase : RequestPhase s rest) (hopen : s.state ≠ .FINAL)
    (hclosed : s.closed = false) (hserving : Serving s rest)
    (hcloses : rest.Pairwise fun i j => i.closes = true → j.isAttending = false)
    (h : Attended s rest sent) (hpast : Past s sent) {event : Event}
    (hguard : Attentive s rest event) (henabled : s.enabled event = true)
    (hrest : event.isCall = true ∨ rest = []) :
    Attends (s.handle c event).1 ((s.handle c event).2 ++ rest) sent := by
  have hphase' := hphase.handle (c := c) henabled hrest
  have hin := hphase.isLoggedIn hopen
  by_cases hfinal : (s.handle c event).1.state = .FINAL
  · -- closed with nothing to run
    have hnone : s.canceling event = none := by
      refine Option.eq_none_iff_forall_ne_some.2 fun r hr => hopen ?_
      obtain ⟨timer, is, hhandle, -⟩ := handle_canceling (c := c) hr
      rw [hhandle] at hfinal
      exact (state_cancelRequest (s := { s with requestTimer := timer }) r).symm.trans hfinal
    have hbelow : ∀ i ∈ rest, i.isAttending = false := by
      rcases hrest with hcall | rfl
      · refine hguard.2.2 ?_
        by_contra hclose
        exact open_handle hphase hopen (.inl ⟨hcall, hclose⟩) hfinal
      · simp
    refine .ended hphase' ?_ (by simp [hfinal]) (over_of_proceeds
      (proceeds_handle hphase hopen hclosed henabled ?_) hfinal)
    · rw [attending_append (isAttending_handle henabled hnone)]
      exact attending_eq_nil.2 hbelow
    · exact Bool.eq_false_iff.2 fun hcalling => open_handle hphase hopen (.inr hcalling) hfinal
  · refine .serving hphase' hfinal (((closesInFinal_handle hphase henabled).resolve_right
      fun h => hfinal h.2).trans hclosed) (hserving.handleRequest hphase hopen henabled hrest) ?_ ?_
    · refine List.pairwise_append.2 ⟨?_, hcloses, fun i hi j hj hcl => ?_⟩
      · cases hcanceling : s.canceling event with
        | none =>
          exact List.pairwise_of_forall_mem_list fun _ _ j hj _ =>
            isAttending_handle henabled hcanceling j hj
        | some r =>
          obtain ⟨timer, is, hhandle, his⟩ := handle_canceling (c := c) hcanceling
          have hnot : ∀ i ∈ (s.handle c event).2, i.closes = false := by
            rw [hhandle]
            exact List.forall_mem_append.2 ⟨closes_cancelRequest, fun i hi => (his i hi).2.1⟩
          refine List.pairwise_of_forall_mem_list fun i hi j _ hcl => ?_
          cases hcl.symm.trans (hnot i hi)
      · rcases hrest with hcall | rfl
        · cases hcl.symm.trans (closes_handle hphase hopen hcall hfinal i hi)
        · cases hj
    · cases hcanceling : s.canceling event with
      | none => exact h.handle hpast hserving hphase hopen henabled hrest hcanceling hfinal
      | some r =>
        obtain ⟨timer, is, hhandle, his⟩ := handle_canceling (c := c) hcanceling
        have hattentive := hguard.2.1
        rw [hcanceling] at hattentive
        have hbelow : attending (is ++ rest) = attending rest :=
          attending_append fun i hi => (his i hi).1
        have hfired : Attended { s with requestTimer := timer } (is ++ rest) sent :=
          h.frame hbelow rfl rfl (fun x hx => hx.congr rfl rfl rfl) id (fun _ _ => id) (fun _ => id)
            fun _ _ _ => id
        have hsame : Serving { s with requestTimer := timer } rest :=
          hserving.same rfl rfl rfl fun _ _ => rfl
        have hcanceled := hfired.cancelRequest (hpast.frame fun _ => id)
          (hsame.push fun i hi => (his i hi).2.2) hin hopen hattentive
        rw [hhandle, List.append_assoc]
        exact hcanceled

/-- A call while `cleanupConnection` runs the callback of the current request, which has been
canceled. -/
theorem attends_canceled {x : Execution} {above below : List Instr} {event : Event}
    (hphase : RequestPhase s rest) (hrequest : s.request = some x) (hstate : s.state = .FINAL)
    (hclosed : s.closed = false) (hstack : rest = above ++ .finishCleanup :: below)
    (habove : ∀ i ∈ above, i.isInterlude = true) (hbelow : attending below = [])
    (hguard : Attentive s rest event) (henabled : s.enabled event = true)
    (hcall : event.isCall = true)
    (hcanceled : ((s.handle c event).1.requests x.request).canceled = true)
    (hfinished : (s.messages x.call).finished = true) (hnone : attentions sent x = 0)
    (hattending : attending (s.handle c event).2 ++ attending above =
      [.cancelListener x.request .afterRequestSent]) :
    Attends (s.handle c event).1 ((s.handle c event).2 ++ rest) sent := by
  obtain ⟨hstate', hrequest', -, his⟩ := handle_closing (c := c) hstate hcall
    ((answerable_of_attentive hguard).2 hstate hclosed)
  refine .closing (hphase.handle henabled (.inl hcall)) x (hrequest'.trans hrequest) hstate'
    ((s.handle c event).2 ++ above) below ?_ (List.forall_mem_append.2 ⟨his, habove⟩) ?_ hbelow
    hcanceled ?_ hnone
  · rw [hstack, List.append_assoc]
  · rw [attending, List.filter_append]
    exact hattending
  · rwa [messages_closing hstate hcall]

theorem attends_handle {event : Event} (hcourse : Course s rest)
    (hcourse' : Course (s.handle c event).1 ((s.handle c event).2 ++ rest))
    (h : Attends s rest sent) (hpast : Past s sent) (hguard : Attentive s rest event)
    (henabled : s.enabled event = true) (hadmits : (component c).admits event rest = true) :
    Attends (s.handle c event).1 ((s.handle c event).2 ++ rest) sent := by
  have hrest := isCall_or_eq_nil hadmits
  have hcallOf : ∀ {above below : List Instr}, rest = above ++ .finishCleanup :: below →
      event.isCall = true := by
    intro above below hstack
    refine hrest.resolve_right fun hnil => ?_
    rw [hnil] at hstack
    simp at hstack
  cases h with
  | login hlogin hout hunset =>
    have hstate : s.state ≠ .LOGGED_IN := fun hstate => by rw [hstate] at hout; cases hout
    refine attends_login (hlogin.handle hstate henabled hrest) hcourse' ?_
    refine Bool.eq_false_iff.2 fun hset => ?_
    exact Bool.false_ne_true (hunset.symm.trans (cancelTimer_handle henabled hset))
  | serving hphase hopen hclosed hserving hcloses hattended =>
    exact attends_open hphase hopen hclosed hserving hcloses hattended hpast hguard henabled hrest
  | closing hphase x hrequest hstate above below hstack habove hattending hbelow hset hdone hnone =>
    -- `cleanupConnection` is still running the callback of the request
    have hclosed : s.closed = false := by
      cases hcourse with
      | login hlogin => cases hlogin.request.symm.trans hrequest
      | serving _ hopen => exact absurd hstate hopen
      | closing _ _ _ _ hclosed => exact hclosed
      | closed _ _ hnone => cases hnone.symm.trans hrequest
    refine attends_canceled hphase hrequest hstate hclosed hstack habove hbelow hguard henabled
      (hcallOf hstack) (canceled_handle hset) hdone hnone ?_
    rcases attending_attentive hguard henabled (.inl hstate) with hnil | ⟨y, hy, -, -, hopen, -⟩
    · rw [hnil, hattending]
      rfl
    · obtain rfl : x = y := Option.some.inj (hrequest.symm.trans hy)
      cases hset.symm.trans hopen
  | ended hphase hstack hstate hover =>
    have hphase' := hphase.handle (c := c) henabled hrest
    have hnil : attending (s.handle c event).2 = [] →
        attending ((s.handle c event).2 ++ rest) = [] := fun hnone => by
      rw [attending_append (attending_eq_nil.1 hnone), hstack]
    cases hclosed : s.closed with
    | true =>
      have hnone : s.request = none := by
        cases hcourse with
        | login hlogin => exact hlogin.request
        | serving _ _ hopen => cases hopen.symm.trans hclosed
        | closing _ _ _ _ hopen => cases hopen.symm.trans hclosed
        | closed _ _ hnone => exact hnone
      refine .ended hphase' (hnil ?_) (state_handle hphase hnone hstate henabled)
        (.inl (closed_handle hclosed hphase henabled))
      refine (attending_attentive hguard henabled (.inr hnone)).resolve_right ?_
      rintro ⟨x, hrequest, -⟩
      cases hnone.symm.trans hrequest
    | false =>
      -- the callback of the request is still running, and may cancel it
      obtain ⟨hfinal, x, hrequest⟩ := hover.resolve_left (by simp [hclosed])
      obtain ⟨above, below, hbelow, habove⟩ := hcourse.closing_of_final hfinal hrequest
      have hboth : attending above = [] ∧ attending below = [] := by
        rw [hbelow, attending, List.filter_append, List.append_eq_nil_iff] at hstack
        exact hstack
      have hcall := hcallOf hbelow
      obtain ⟨hstate', hrequest', -⟩ := handle_closing (c := c) hfinal hcall
        ((answerable_of_attentive hguard).2 hfinal hclosed)
      rcases attending_attentive hguard henabled (.inl hfinal) with
        hnone | ⟨y, hy, hone, hcanceling, hopen, hdone⟩
      · exact .ended hphase' (hnil hnone) (by simp [hstate'])
          (.inr ⟨hstate', x, hrequest'.trans hrequest⟩)
      · obtain rfl : x = y := Option.some.inj (hrequest.symm.trans hy)
        refine attends_canceled hphase hrequest hfinal hclosed hbelow habove hboth.2 hguard henabled
          hcall ?_ hdone (hpast.attentions_eq_zero hopen) ?_
        · obtain ⟨timer, is, hhandle, -⟩ := handle_canceling (c := c) hcanceling
          rw [hhandle]
          exact canceled_of_cancelRequest _
        · rw [hone, hboth.1]
          rfl

/-! ### Runs -/

theorem attends_of_runs {moves : List (Move Event)} {k : Config Connection Instr}
    {sent : List Attention} (h : AttentionRuns c Attentive moves k sent) :
    Attends k.state k.stack sent ∧ Past k.state sent := by
  refine Machine.Steps.history_invariant
    (I := fun k sent => Attends k.state k.stack sent ∧ Past k.state sent)
    (J := fun k => Course k.state k.stack) ?_ ?_ h ?_
  · intro moves k hrun
    refine (accounted_of_runsTo (hrun.mono ?_)).1
    intro k m hguard
    cases m with
    | next => trivial
    | event e => exact answerable_of_attentive hguard
  · intro k m k' sent hcourse hcourse' ⟨hattends, hpast⟩ hguard hstep
    obtain ⟨i, rest, rfl, hstack, rfl⟩ | ⟨event, s', is, rfl, hadmits, hstart, rfl⟩ :=
      Component.step_cases hstep
    · obtain ⟨s, stack⟩ := k
      dsimp only at hstack
      subst hstack
      exact attends_exec hcourse hattends hpast _
    · obtain ⟨henabled, hhandle⟩ := start_eq_some hstart
      obtain ⟨rfl, rfl⟩ := Prod.mk.inj hhandle
      exact ⟨attends_handle hcourse hcourse' hattends hpast hguard henabled hadmits,
        hpast.frame fun r => canceled_handle⟩
  · refine ⟨.login loginPhase_new rfl rfl, ?_⟩
    constructor <;> simp [attentions]

/-- Each `ATTENTION` message has been sent behind the message of the request that it cancels,
which was the current one, and at most one for each execution; where an acknowledgement is
waited for, one has been sent for the current request. -/
structure Disciplined (s : Connection) (sent : List Attention) : Prop where
  entered : s.state = .SENT_ATTENTION → ∃ x, s.request = some x ∧ 0 < attentions sent x
  current : ∀ attention ∈ sent, attention.finished = true ∧
    ∃ x : Execution, attention.current = some x ∧ x.request = attention.canceled
  once : ∀ x, attentions sent x ≤ 1

/-- A request whose response is read is canceled. -/
def canceledReadingMoves (written : List (Move Event)) : List (Move Event) :=
  loggedInMoves ++ [.event (.makeRequest (.request 0) .SQL_BATCH)] ++ written ++
    [.event (.resume (.requestMessage 0) .done), .event (.cancelRequest (.request 0)),
      .next, .next, .next, .next]

/-- While it is being written none is sent, and an acknowledgement waited for. -/
theorem attention_missing : ¬∀ (c : ConnectionConfig) (moves : List (Move Event))
    (k : Config Connection Instr) (sent : List Attention),
      AttentionRuns c (fun _ _ _ => True) moves k sent → Disciplined k.state sent := by
  intro h
  have hrun : ((attentionMachine exampleConfig).run
      (fun p => Component.guarded (fun _ _ _ => True) p.1) (⟨.new, []⟩, [])
        (canceledReadingMoves [])).any
          (fun p => p.1.state.state = .SENT_ATTENTION && p.2 = []) = true := by decide
  obtain ⟨⟨k, sent⟩, hk, hp⟩ := Machine.exists_steps_of_run _ hrun
  obtain ⟨hstate, hnone⟩ := (Bool.and_eq_true _ _).mp hp
  obtain rfl : sent = [] := of_decide_eq_true hnone
  obtain ⟨x, -, hpos⟩ := (h _ _ k [] hk).entered (of_decide_eq_true hstate)
  cases hpos

end Connection

end Tedious
