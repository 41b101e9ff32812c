import Tedious.Connection.Changes

/-!
# Tedious.Connection.Timers

The timers of a connection that is in `FINAL`. `cleanupConnection` clears all of them but
the cancel timer, and nothing where `closed` is set already; so a timer that is armed then
outlives the connection (`timers_left`). The runs that do not come to `FINAL` in this way,
and do not cancel there, end without timers (`timers_disarmed`).
-/

namespace Tedious

open Chunked Reentrant

namespace Connection

/-- A timer that entering `FINAL` would leave armed; the cancel timer is not, where it is
just firing. -/
def leavesTimer (s : Connection) : Move Event → Bool
  | .event .cancelTimer => s.closed && (s.connectTimer || s.retryTimer)
  | _ => s.cancelTimerArmed || s.closed && (s.connectTimer || s.retryTimer)

/-- A move that enters `FINAL`. -/
def entersFinal (c : ConnectionConfig) (k : Config Connection Instr) (m : Move Event) : Bool :=
  k.state.state ≠ .FINAL && ((component c).step k m).any fun k' => k'.state.state = .FINAL

/-- `_cancelAfterRequestSent` is to run in `FINAL`, and sets a timer. -/
def cancelsInFinal (c : ConnectionConfig) : Config Connection Instr → Move Event → Bool
  | ⟨s, .cancelListener _ .afterRequestSent :: _⟩, .next =>
      s.state = .FINAL && c.cancelTimeout.isPositive
  | _, _ => false

/-- The moves that leave no timer behind. -/
def Disarming (c : ConnectionConfig) (k : Config Connection Instr) (m : Move Event) : Prop :=
  (entersFinal c k m = true → k.state.leavesTimer m = false) ∧ cancelsInFinal c k m = false

instance (c : ConnectionConfig) (k : Config Connection Instr) (m : Move Event) :
    Decidable (Disarming c k m) :=
  inferInstanceAs (Decidable (_ ∧ _))

/-- No timer is armed in `FINAL`, and the request timer only while a response is awaited. -/
structure Disarmed (s : Connection) : Prop where
  final : s.state = .FINAL → s.connectTimer = false ∧ s.requestTimer = false ∧
    s.cancelTimerArmed = false ∧ s.retryTimer = false
  request : s.requestTimer = true → s.state = .SENT_CLIENT_REQUEST

/-- Entering `FINAL` leaves no timer. -/
def Unleft (s : Connection) : Prop :=
  s.state ≠ .FINAL → s.cancelTimerArmed = false ∧
    (s.closed = true → s.connectTimer = false ∧ s.retryTimer = false)

variable {c : ConnectionConfig} {s : Connection} {rest : List Instr}

/-! ### Timers and transitions -/

theorem timers_closeRequest : s.closeRequest.1.connectTimer = s.connectTimer ∧
    s.closeRequest.1.requestTimer = s.requestTimer ∧
      s.closeRequest.1.cancelTimerArmed = s.cancelTimerArmed ∧
        s.closeRequest.1.retryTimer = s.retryTimer := by
  unfold closeRequest
  split <;> exact ⟨rfl, rfl, rfl, rfl⟩

/-- What cleaning up leaves armed. -/
theorem timers_cleanupConnection (t : CleanupType) :
    ((s.cleanupConnection t).1.connectTimer = true → s.closed = true ∧ s.connectTimer = true) ∧
      ((s.cleanupConnection t).1.requestTimer = true → s.requestTimer = true) ∧
        (s.cleanupConnection t).1.cancelTimerArmed = s.cancelTimerArmed ∧
          ((s.cleanupConnection t).1.retryTimer = true → s.closed = true ∧ s.retryTimer = true) := by
  unfold cleanupConnection
  split
  · next hclosed => exact ⟨fun h => ⟨hclosed, h⟩, id, rfl, fun h => ⟨hclosed, h⟩⟩
  · cases t with
    | REDIRECT => simp [closeConnection]
    | NORMAL =>
      obtain ⟨hconnect, hrequest, hcancel, hretry⟩ :=
        timers_closeRequest (s := s.closeConnection.nextTick .emitEnd)
      dsimp only
      rw [hconnect, hrequest, hcancel, hretry]
      simp [closeConnection, nextTick]
    | RETRY =>
      obtain ⟨hconnect, hrequest, hcancel, hretry⟩ :=
        timers_closeRequest (s := s.closeConnection)
      dsimp only
      rw [hconnect, hrequest, hcancel, hretry]
      simp [closeConnection]

/-- The request timer does not survive a change of the state. -/
theorem requestTimer_transitionTo {st : ConnectionState} (h : s.state ≠ st)
    (htimer : (s.transitionTo c st).1.requestTimer = true) :
    s.requestTimer = true ∧ s.state ≠ .SENT_CLIENT_REQUEST := by
  have hchange : (s.changeState st).requestTimer = true →
      s.requestTimer = true ∧ s.state ≠ .SENT_CLIENT_REQUEST := by
    intro hchanged
    by_cases hstate : s.state = .SENT_CLIENT_REQUEST
    · simp [changeState, hstate] at hchanged
    · exact ⟨by simpa [changeState, hstate] using hchanged, hstate⟩
  unfold transitionTo at htimer
  rw [if_neg h] at htimer
  refine hchange ?_
  cases st with
  | FINAL => exact (timers_cleanupConnection .NORMAL).2.1 htimer
  | REROUTING => exact (timers_cleanupConnection .REDIRECT).2.1 htimer
  | TRANSIENT_FAILURE_RETRY =>
    exact (timers_cleanupConnection (s := { s.changeState .TRANSIENT_FAILURE_RETRY with
      curTransientRetryCount := s.curTransientRetryCount + 1 }) .RETRY).2.1 htimer
  | CONNECTING =>
    have hinit : ((s.changeState .CONNECTING).initialiseConnection c).requestTimer = true := htimer
    unfold initialiseConnection at hinit
    dsimp only at hinit
    split at hinit <;> exact hinit
  | _ => exact htimer

namespace Disarmed

theorem transitionTo (h : Disarmed s) {st : ConnectionState} (hst : st ≠ .FINAL) :
    Disarmed (s.transitionTo c st).1 := by
  by_cases hstate : s.state = st
  · rw [Connection.transitionTo, if_pos hstate]
    exact h
  · refine ⟨fun hfinal => absurd ((state_transitionTo st).symm.trans hfinal) hst, fun htimer => ?_⟩
    obtain ⟨hs, hne⟩ := requestTimer_transitionTo hstate htimer
    exact absurd (h.request hs) hne

/-- `FINAL` is entered without a timer that it would leave. -/
theorem toFinal (h : Disarmed s) (hleaves : Unleft s) :
    Disarmed (s.transitionTo c .FINAL).1 := by
  by_cases hstate : s.state = .FINAL
  · rw [Connection.transitionTo, if_pos hstate]
    exact h
  · obtain ⟨hcancel, hclosed⟩ := hleaves hstate
    have hrequest : (s.transitionTo c .FINAL).1.requestTimer = false := by
      refine Bool.eq_false_iff.2 fun htimer => ?_
      obtain ⟨hs, hne⟩ := requestTimer_transitionTo hstate htimer
      exact hne (h.request hs)
    refine ⟨fun _ => ?_, fun htimer => absurd htimer (Bool.eq_false_iff.1 hrequest)⟩
    obtain ⟨hconnect', -, hcancel', hretry'⟩ :=
      timers_cleanupConnection (s := s.changeState .FINAL) .NORMAL
    have henter : (s.transitionTo c .FINAL).1 =
        ((s.changeState .FINAL).cleanupConnection .NORMAL).1 := by
      rw [Connection.transitionTo, if_neg hstate]
      rfl
    rw [henter] at hrequest ⊢
    refine ⟨Bool.eq_false_iff.2 fun ht => ?_, hrequest, hcancel'.trans hcancel,
      Bool.eq_false_iff.2 fun ht => ?_⟩
    · obtain ⟨hcl, htimer⟩ := hconnect' ht
      exact Bool.false_ne_true ((hclosed hcl).1.symm.trans htimer)
    · obtain ⟨hcl, htimer⟩ := hretry' ht
      exact Bool.false_ne_true ((hclosed hcl).2.symm.trans htimer)

theorem dispatchEvent (h : Disarmed s) {event : Dispatched}
    (hfinal : (s.dispatchEvent c event).1.state = .FINAL → Unleft s) :
    Disarmed (s.dispatchEvent c event).1 := by
  have hdropped : Disarmed { s with request := none } := { h with }
  unfold Connection.dispatchEvent at hfinal ⊢
  split at hfinal
  · next r hr =>
    cases event <;> unfold eventHandler at hr <;> dsimp only at hr <;> split at hr <;> cases hr
    all_goals
      first
      | exact h
      | exact h.toFinal (hfinal (state_transitionTo _))
      | exact hdropped.toFinal (hfinal (state_transitionTo _))
      | exact h.transitionTo (by decide)
      | skip
    -- the retry timer is set in `TRANSIENT_FAILURE_RETRY`
    next hstate => exact { h with final := fun hf => by cases hstate.symm.trans hf }
  · exact h

/-- Timers are cleared. -/
theorem clear {s' : Connection} (h : Disarmed s) (hstate : s'.state = s.state)
    (hconnect : s'.connectTimer = true → s.connectTimer = true)
    (hrequest : s'.requestTimer = true → s.requestTimer = true)
    (hcancel : s'.cancelTimerArmed = true → s.cancelTimerArmed = true)
    (hretry : s'.retryTimer = true → s.retryTimer = true) : Disarmed s' where
  final := fun hf => by
    obtain ⟨h₁, h₂, h₃, h₄⟩ := h.final (hstate.symm.trans hf)
    refine ⟨?_, ?_, ?_, ?_⟩ <;> refine Bool.eq_false_iff.2 fun ht => ?_
    · exact Bool.false_ne_true (h₁.symm.trans (hconnect ht))
    · exact Bool.false_ne_true (h₂.symm.trans (hrequest ht))
    · exact Bool.false_ne_true (h₃.symm.trans (hcancel ht))
    · exact Bool.false_ne_true (h₄.symm.trans (hretry ht))
  request := fun ht => hstate.trans (h.request (hrequest ht))

/-- A change that neither enters `FINAL` nor sets the cancel timer. -/
theorem change {cause : Cause} {s' : Connection} (hchange : Change c cause s s')
    (hfinal : .FINAL ∉ cause.enters)
    (hcancel : ∀ r, cause ≠ .instr (.cancelListener r .afterRequestSent)) (h : Disarmed s) :
    Disarmed s' := by
  cases hchange with
  | enter hst => exact h.transitionTo fun heq => hfinal (heq ▸ hst)
  | retry => exact h.transitionTo (by decide)
  | disarm _ hconnect hrequest harmed hretry => exact h.clear rfl hconnect hrequest harmed hretry
  | attended => exact h.clear rfl id id nofun id
  -- the retry timer is set in `TRANSIENT_FAILURE_RETRY`
  | armRetry _ _ hstate => exact { h with final := fun hf => by cases hstate.symm.trans hf }
  -- a request that is admitted sets its timer, in a state of its own
  | serve _ r type _ _ =>
    refine ⟨fun hf => ?_, fun _ => state_transitionTo _⟩
    rw [state_transitionTo] at hf
    cases hf
  | attend hcause => exact absurd hcause (hcancel _)
  | _ => exact { h with }

theorem changes (h : Disarmed s) {cause : Cause} {s' : Connection}
    (hchanges : Changes c cause s s') (hfinal : .FINAL ∉ cause.enters)
    (hcancel : ∀ r, cause ≠ .instr (.cancelListener r .afterRequestSent)) : Disarmed s' :=
  hchanges.keeps (fun hchange => change hchange hfinal hcancel) h

theorem exec (h : Disarmed s) {i : Instr}
    (hfinal : (exec c i s).1.state = .FINAL → Unleft s)
    (hcancel : s.state = .FINAL → ∀ r, i = .cancelListener r .afterRequestSent →
      c.cancelTimeout.isPositive = false) : Disarmed (exec c i s).1 := by
  cases i with
  | enterFinal => exact h.toFinal (hfinal (state_transitionTo _))
  | dispatchSocketError err => exact h.dispatchEvent hfinal
  | afterConnectTimeout =>
    have h' : Disarmed { s with connectTimer := false } :=
      { h with final := fun hf => ⟨rfl, (h.final hf).2⟩ }
    refine h'.dispatchEvent fun hf hopen => ?_
    exact ⟨(hfinal hf hopen).1, fun hclosed => ⟨rfl, ((hfinal hf hopen).2 hclosed).2⟩⟩
  | cancelListener r l =>
    cases l with
    | afterRequestSent =>
      refine { h with final := fun hf => ?_ }
      obtain ⟨hconnect, hrequest, -, hretry⟩ := h.final hf
      exact ⟨hconnect, hrequest, hcancel hf r rfl, hretry⟩
    | _ => exact h.changes (changes_exec _) (by simp [Cause.enters]) (by simp)
  | _ => exact h.changes (changes_exec _) (by simp [Cause.enters]) (by simp)

theorem handle (h : Disarmed s) {event : Event}
    (hfinal : (s.handle c event).1.state = .FINAL → s.state ≠ .FINAL →
      s.leavesTimer (.event event) = false) : Disarmed (s.handle c event).1 := by
  have hunleft : (s.handle c event).1.state = .FINAL → event ≠ .cancelTimer → Unleft s := by
    intro hf hevent hopen
    have hleaves := hfinal hf hopen
    cases event <;> simp_all [leavesTimer]
  cases event with
  | close => exact h.toFinal (hunleft (state_transitionTo _) (by simp))
  | cancelTimer =>
    have hfired : Disarmed { s with cancelTimerArmed := false } := h.clear rfl id id (by simp) id
    refine hfired.dispatchEvent fun hf hopen => ⟨rfl, fun hclosed => ?_⟩
    have hleaves := hfinal hf hopen
    simpa [leavesTimer, show s.closed = true from hclosed] using hleaves
  | socketClose =>
    have hclose : (s.socketClose c).1.state = .FINAL → Unleft s := fun hf =>
      hunleft hf (by simp)
    show Disarmed (s.socketClose c).1
    unfold socketClose at hclose ⊢
    split
    · next hstate =>
      refine h.dispatchEvent fun hf => ?_
      simp [Connection.dispatchEvent, eventHandler, hstate] at hf
    · split
      · next hstate =>
        refine h.dispatchEvent fun hf => ?_
        simp [Connection.dispatchEvent, eventHandler, hstate] at hf
      · next hrerouting hretry =>
        refine h.toFinal (hclose ?_)
        rw [if_neg hrerouting, if_neg hretry]
        exact state_transitionTo _
  -- nothing under way goes on to `FINAL` by itself
  | resume p outcome =>
    exact h.changes (changes_handle _) (Cause.final_notMem_enters p outcome) (by simp)
  | _ => exact h.changes (changes_handle _) (by simp [Cause.enters]) (by simp)

end Disarmed

/-! ### Every run -/

/-- **No timer outlives the connection** where it comes to `FINAL` without one that is left,
and does not cancel there. -/
theorem timers_disarmed {moves : List (Move Event)} {k : Config Connection Instr}
    (h : (component c).machine.Steps (Disarming c) ⟨.new, []⟩ moves k)
    (hfinal : k.state.state = .FINAL) :
    k.state.connectTimer = false ∧ k.state.requestTimer = false ∧
      k.state.cancelTimerArmed = false ∧ k.state.retryTimer = false := by
  have hdisarmed : Disarmed k.state := by
    refine Component.step_invariant (I := fun s _ => Disarmed s) ?_ ?_ h ?_
    · intro i s rest hs ⟨hleaves, hcancels⟩
      refine hs.exec (fun hf hopen => ?_) ?_
      · have hnext : entersFinal c ⟨s, i :: rest⟩ .next = true := by
          show (s.state ≠ .FINAL && ((exec c i s).1.state = .FINAL : Bool)) = true
          simp [hopen, hf]
        simpa [leavesTimer] using hleaves hnext
      · rintro hf r rfl
        simpa [cancelsInFinal, hf] using hcancels
    · intro event s stack s' is hs hadmits ⟨hleaves, _⟩ hstart
      obtain ⟨henabled, hhandle⟩ := start_eq_some hstart
      obtain ⟨rfl, rfl⟩ := Prod.mk.inj hhandle
      refine hs.handle fun hf hopen => hleaves ?_
      have hstep := Component.step_event hadmits hstart
      have hne : (decide (s.state ≠ .FINAL) : Bool) = true := decide_eq_true hopen
      show (decide (s.state ≠ .FINAL) && ((component c).step ⟨s, stack⟩ (.event event)).any
        fun k' => decide (k'.state.state = .FINAL)) = true
      rw [hstep, hne]
      exact decide_eq_true hf
    · constructor <;> simp [Connection.new]
  exact hdisarmed.final hfinal

/-- A connection is closed while its socket is being connected. -/
theorem timers_disarmed_close : ∃ k, (component exampleConfig).machine.Steps
    (Disarming exampleConfig) ⟨.new, []⟩ [.event .connect, .event .close] k ∧
      k.state.state = .FINAL ∧ k.state.connectTimer = false ∧ k.state.requestTimer = false ∧
        k.state.cancelTimerArmed = false ∧ k.state.retryTimer = false := by
  have hrun : ((component exampleConfig).machine.run (Disarming exampleConfig) ⟨.new, []⟩
      [.event .connect, .event .close]).any (fun k => k.state.state = .FINAL) = true := by decide
  obtain ⟨k, hk, hfinal⟩ := Machine.exists_steps_of_run _ hrun
  exact ⟨k, hk, of_decide_eq_true hfinal, timers_disarmed hk (of_decide_eq_true hfinal)⟩

/-- The socket fails while the acknowledgement of an attention message is awaited. -/
theorem timers_left : ¬∀ (c : ConnectionConfig) (moves : List (Move Event))
    (k : Config Connection Instr), RunsTo c (fun _ _ _ => True) moves k →
      k.state.state = .FINAL → k.state.connectTimer = false ∧ k.state.requestTimer = false ∧
        k.state.cancelTimerArmed = false ∧ k.state.retryTimer = false := by
  intro h
  obtain ⟨k, hk, hp⟩ := @exists_runsTo exampleConfig (fun _ _ _ => True) _
    (loggedInMoves ++
      [.event (.makeRequest (.request 0) .SQL_BATCH), .event (.payloadEnd 0), .event (.finish 0),
        .event (.resume (.requestMessage 0) .done), .event (.cancelRequest (.request 0)),
        .next, .next, .next, .next, .next, .event (.socketError (.error [])), .next, .next, .next])
    (fun k => k.state.state = .FINAL && k.state.cancelTimerArmed) (by decide)
  obtain ⟨hfinal, harmed⟩ := (Bool.and_eq_true _ _).mp hp
  obtain ⟨-, -, hdisarmed, -⟩ := h _ _ k hk (of_decide_eq_true hfinal)
  exact Bool.false_ne_true (hdisarmed.symm.trans harmed)

end Connection

end Tedious
