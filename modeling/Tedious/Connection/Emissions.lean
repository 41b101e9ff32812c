import Tedious.Connection.Changes

/-!
# Tedious.Connection.Emissions

How often `'connect'` and `'end'` are emitted. An emission is scheduled as a callback of
`process.nextTick`, or is an instruction on the stack, or has been made; what counts is
all three together. Instructions only add an `'end'` where they close the connection
(`emissions_exec`), and the events that add a `'connect'` are the ones of `announces`
(`emissions_handle`).
-/

namespace Tedious

open Chunked Reentrant

/-- Whether an event is an `'end'`, if these count, or a `'connect'`, if those count. -/
def Emitted.counts (ends connects : Bool) : Emitted → Bool
  | .end => ends
  | .connect _ => connects
  | _ => false

def Instr.emits (ends connects : Bool) : Instr → Bool
  | .emit event => event.counts ends connects
  | _ => false

def Tick.emits (ends connects : Bool) : Tick → Bool
  | .emitEnd => ends
  | .emitConnect _ => connects
  | _ => false

def Trace.emits (ends connects : Bool) : Trace → Bool
  | .emitted event => event.counts ends connects
  | _ => false

namespace Connection

/-- The emissions that are scheduled, due and made. -/
def emissions (ends connects : Bool) (s : Connection) (stack : List Instr) : Nat :=
  s.ticks.countP (Tick.emits ends connects) + stack.countP (Instr.emits ends connects) +
    s.trace.countP (Trace.emits ends connects)

/-- `FINAL` is entered, and the connection was not closed already. -/
def closes (s s' : Connection) : Bool :=
  s'.state = .FINAL && s.state ≠ .FINAL && !s.closed

/-- The events that enter `FINAL` at once, if they do. -/
def Event.mayClose : Event → Bool
  | .close | .cancelTimer | .socketClose => true
  | _ => false

variable {c : ConnectionConfig} {s : Connection} {a b : Bool} {rest : List Instr}

theorem emissions_append (is : List Instr) :
    emissions a b s (is ++ rest) =
      emissions a b s is + rest.countP (Instr.emits a b) := by
  unfold emissions
  rw [List.countP_append]
  omega

/-- Instructions that emit neither do not count. -/
theorem emissions_quiet {is : List Instr} (h : ∀ i ∈ is, i.emits a b = false) :
    emissions a b s is = emissions a b s [] := by
  have hnone : is.countP (Instr.emits a b) = 0 :=
    List.countP_eq_zero.2 fun i hi => Bool.eq_false_iff.1 (h i hi)
  unfold emissions
  rw [hnone]
  rfl

theorem emits_of_isCleanup {i : Instr} (h : i.isCleanup = true) :
    i.emits a b = false := by
  cases i with
  | emit event => cases event <;> first | rfl | cases h
  | _ => rfl

/-! ### Transitions -/

theorem ticks_closeRequest : s.closeRequest.1.ticks = s.ticks := by
  unfold closeRequest
  split <;> rfl

theorem ticks_cleanupConnection (t : CleanupType) : (s.cleanupConnection t).1.ticks =
    s.ticks ++ if t = .NORMAL ∧ s.closed = false then [.emitEnd] else [] := by
  unfold cleanupConnection
  split
  · next hclosed => simp [hclosed]
  · next hclosed =>
    cases t with
    | REDIRECT => simp [closeConnection]
    | NORMAL => simpa [closeConnection, nextTick, hclosed] using ticks_closeRequest
    | RETRY => simpa [closeConnection] using ticks_closeRequest

theorem ticks_transitionTo (st : ConnectionState) : (s.transitionTo c st).1.ticks =
    s.ticks ++ if st = .FINAL ∧ s.state ≠ .FINAL ∧ s.closed = false then [.emitEnd] else [] := by
  unfold transitionTo
  split
  · next hstate =>
    rw [if_neg fun h => h.2.1 (hstate.trans h.1), List.append_nil]
  · next hstate =>
    cases st with
    | FINAL =>
      have hticks := ticks_cleanupConnection (s := s.changeState .FINAL) .NORMAL
      simpa [hstate, changeState, enter] using hticks
    | REROUTING =>
      have hticks := ticks_cleanupConnection (s := s.changeState .REROUTING) .REDIRECT
      simpa [changeState, enter] using hticks
    | TRANSIENT_FAILURE_RETRY =>
      have hticks := ticks_cleanupConnection (s := { s.changeState .TRANSIENT_FAILURE_RETRY with
        curTransientRetryCount := s.curTransientRetryCount + 1 }) .RETRY
      simpa [changeState, enter] using hticks
    | CONNECTING =>
      show ((s.changeState .CONNECTING).initialiseConnection c).ticks = _
      unfold initialiseConnection
      dsimp only
      split <;> simp [await, changeState]
    | _ => simp [enter, changeState, await, sendMessage, send, record]

theorem trace_transitionTo (st : ConnectionState) :
    (s.transitionTo c st).1.trace.countP (Trace.emits a b) =
      s.trace.countP (Trace.emits a b) := by
  rw [(enters_transitionTo st).trace]
  split
  · rfl
  · rw [List.countP_append, List.countP_cons_of_neg (by simp [Trace.emits])]
    cases st <;> simp [ConnectionState.sends, Trace.emits]

/-- Of the transitions only one to `FINAL` counts, which schedules `'end'`. -/
theorem emissions_transitionTo (st : ConnectionState) :
    emissions a b (s.transitionTo c st).1 (s.transitionTo c st).2 =
      emissions a b s [] + (a && s.closes (s.transitionTo c st).1).toNat := by
  rw [emissions_quiet fun i hi => emits_of_isCleanup ((enters_transitionTo st).stack i hi)]
  have hcloses : s.closes (s.transitionTo c st).1 =
      decide (st = .FINAL ∧ s.state ≠ .FINAL ∧ s.closed = false) := by
    simp [closes, Bool.and_assoc]
  unfold emissions
  rw [trace_transitionTo, ticks_transitionTo, hcloses]
  split
  · next h =>
    cases a <;> simp [h, Tick.emits, List.countP_append]
    omega
  · next h => simp [h]

/-- Nothing is scheduled, no event is emitted, and the state stays the same. -/
theorem emissions_stays {s' : Connection} {is : List Instr}
    (h : emissions a b s' is = emissions a b s []) (hstate : s'.state = s.state) :
    emissions a b s' is =
      emissions a b s [] + (a && s.closes s').toNat := by
  have hcloses : s.closes s' = false := by
    by_cases hfinal : s.state = .FINAL <;> simp [closes, hstate, hfinal]
  rw [h, hcloses]
  simp

theorem emits_answerOrThrow (execution : Option Execution) (err : Option Err) :
    ∀ i ∈ answerOrThrow execution err, i.emits a b = false := by
  cases execution <;> simp [answerOrThrow, Instr.emits]

theorem emissions_dispatchEvent (event : Dispatched) :
    emissions a b (s.dispatchEvent c event).1 (s.dispatchEvent c event).2 =
      emissions a b s [] + (a && s.closes (s.dispatchEvent c event).1).toNat := by
  have hquiet : ∀ {s' : Connection} {is : List Instr}, s'.ticks = s.ticks → s'.trace = s.trace →
      s'.state = s.state → (∀ i ∈ is, i.emits a b = false) →
        emissions a b s' is =
          emissions a b s [] + (a && s.closes s').toNat := by
    intro s' is hticks htrace hstate his
    refine emissions_stays ?_ hstate
    rw [emissions_quiet his]
    unfold emissions
    rw [hticks, htrace]
  unfold dispatchEvent
  split
  · next r hr =>
    cases event <;> unfold eventHandler at hr <;> dsimp only at hr <;> split at hr <;> cases hr
    all_goals
      first
      | exact emissions_transitionTo _
      | exact hquiet rfl rfl rfl (by simp)
      | skip
    -- a request fails, and is answered
    all_goals
      next err _ =>
      have hfinal := emissions_transitionTo (c := c) (s := { s with request := none })
        (a := a) (b := b) .FINAL
      unfold failRequest
      dsimp only
      rw [emissions_append, List.countP_eq_zero.2 fun i hi =>
        Bool.eq_false_iff.1 (emits_answerOrThrow _ _ i hi)]
      exact hfinal
  · exact hquiet rfl rfl rfl (by simp [Instr.emits, Emitted.counts])

/-! ### Changes -/

/-- What closes the connection, or emits something. -/
def Cause.emits : Cause → Bool
  | event .close | event .cancelTimer | event .socketClose | event (.tick _)
  | event (.resume (.instanceLookup false) (.failed _)) | instr .enterFinal
  | instr (.dispatchSocketError _) | instr .afterConnectTimeout | instr (.emit _) => true
  | _ => false

theorem final_notMem_enters {cause : Cause} (hcause : cause.emits = false) :
    .FINAL ∉ cause.enters := by
  unfold Cause.enters
  split <;> first | (cases hcause; done) | simp

theorem emits_of_mem_notes {cause : Cause} (hcause : cause.emits = false) {t : Trace}
    (ht : t ∈ cause.notes) : t.emits a b = false := by
  unfold Cause.notes at ht
  split at ht <;> first | (cases hcause; done) | (cases List.mem_singleton.1 ht; rfl) | cases ht

/-- Nothing that counts is scheduled or made, and the connection is not closed. -/
structure Silent (a b : Bool) (s s' : Connection) : Prop where
  ticks : s'.ticks.countP (Tick.emits a b) = s.ticks.countP (Tick.emits a b)
  trace : s'.trace.countP (Trace.emits a b) = s.trace.countP (Trace.emits a b)
  notFinal : s'.state = .FINAL → s.state = .FINAL

theorem Silent.refl : Silent a b s s := ⟨rfl, rfl, id⟩

namespace Silent

variable {s' : Connection}

theorem emissions_eq (h : Silent a b s s') {is : List Instr}
    (his : ∀ i ∈ is, i.emits a b = false) : emissions a b s' is = emissions a b s [] := by
  rw [emissions_quiet his]
  unfold emissions
  rw [h.ticks, h.trace]

theorem closes_eq (h : Silent a b s s') : s.closes s' = false := by
  by_cases hfinal : s'.state = .FINAL
  · simp [closes, h.notFinal hfinal]
  · simp [closes, hfinal]

/-- Something else is noted. -/
theorem noted (h : Silent a b s s') {s'' : Connection} (hticks : s''.ticks = s'.ticks)
    (hstate : s''.state = s'.state) {t : Trace} (htrace : s''.trace = t :: s'.trace)
    (ht : t.emits a b = false) : Silent a b s s'' where
  ticks := hticks ▸ h.ticks
  trace := by
    rw [htrace, List.countP_cons_of_neg (Bool.eq_false_iff.1 ht)]
    exact h.trace
  notFinal := hstate ▸ h.notFinal

theorem nextTick (h : Silent a b s s') {t : Tick} (ht : t.emits a b = false) :
    Silent a b s (s'.nextTick t) :=
  { h with ticks := by simpa [Connection.nextTick, List.countP_append, ht] using h.ticks }

theorem enters (h : Silent a b s s') {st : ConnectionState} (hst : st ≠ .FINAL) :
    Silent a b s (s'.transitionTo c st).1 where
  ticks := by
    rw [ticks_transitionTo, if_neg fun hfinal => hst hfinal.1, List.append_nil]
    exact h.ticks
  trace := (trace_transitionTo st).trans h.trace
  notFinal := fun hfinal => absurd ((state_transitionTo st).symm.trans hfinal) hst

/-- **One change.** -/
theorem change {cause : Cause} (hcause : cause.emits = false) {s₁ s₂ : Connection}
    (hchange : Change c cause s₁ s₂) (h : Silent a b s s₁) : Silent a b s s₂ := by
  cases hchange with
  | due heq => subst heq; cases hcause
  | enter hst => exact h.enters fun hfinal => by subst hfinal; exact final_notMem_enters hcause hst
  | report heq ht =>
    subst heq
    rcases ht with ⟨rfl, -⟩ | ⟨rfl, err, rfl⟩
    · cases hcause
    · exact h.nextTick rfl
  | send => exact h.noted rfl rfl rfl rfl
  | retry => exact h.enters (by decide)
  | count => exact h.noted rfl rfl rfl rfl
  | defer => exact h.nextTick rfl
  | serve _ r type =>
    obtain ⟨_, _, _, hwrite⟩ := writeRequest_eq c (s₁.countCall { call := s₁.calls, request := r })
      { call := s₁.calls, request := r } type
    rw [hwrite]
    have hcalled : Silent a b s (s₁.countCall { call := s₁.calls, request := r }) :=
      h.noted rfl rfl rfl rfl
    refine Silent.enters ?_ ?_
    · exact hcalled.noted rfl rfl rfl rfl
    · decide
  | resetCalled => exact h.noted rfl rfl rfl rfl
  | finished => exact h.noted rfl rfl rfl rfl
  | attend => exact h.noted rfl rfl rfl rfl
  | note hmem => exact h.noted rfl rfl rfl (emits_of_mem_notes hcause hmem)
  | _ => exact { h with }

/-- **What neither closes the connection nor emits something.** -/
theorem of_changes {cause : Cause} (hchanges : Changes c cause s s')
    (hcause : cause.emits = false) : Silent a b s s' :=
  hchanges.keeps (P := Silent a b s) (change hcause) .refl

end Silent

/-- **An instruction** only adds an `'end'`, where it closes the connection. -/
theorem emissions_exec (i : Instr) :
    emissions a b (exec c i s).1 ((exec c i s).2 ++ rest) =
      emissions a b s (i :: rest) + (a && s.closes (exec c i s).1).toNat := by
  have hsplit : emissions a b s (i :: rest) = emissions a b s [] +
      (i.emits a b).toNat + rest.countP (Instr.emits a b) := by
    unfold emissions
    rw [List.countP_cons]
    cases i.emits a b <;> simp <;> omega
  have hsilent : (Cause.instr i).emits = false → i.emits a b = false →
      (∀ j ∈ (exec c i s).2, j.emits a b = false) → emissions a b (exec c i s).1 (exec c i s).2 =
        emissions a b s [] + (i.emits a b).toNat + (a && s.closes (exec c i s).1).toNat := by
    intro hcause hi his
    have hchanged := Silent.of_changes (a := a) (b := b) (changes_exec (c := c) (s := s) i) hcause
    rw [hchanged.emissions_eq his, hchanged.closes_eq, hi]
    simp
  have hone : emissions a b (exec c i s).1 (exec c i s).2 =
      emissions a b s [] + (i.emits a b).toNat + (a && s.closes (exec c i s).1).toNat := by
    cases i with
    | emit event =>
      -- the event moves from the stack to the trace, and counts as before
      have hcloses : s.closes (s.record (.emitted event)) = false := by
        by_cases hfinal : s.state = .FINAL <;> simp [closes, record, hfinal]
      show emissions a b (s.record (.emitted event)) [.callback] =
        _ + (event.counts a b).toNat + (a && s.closes (s.record (.emitted event))).toNat
      rw [hcloses]
      unfold emissions record
      rw [List.countP_cons]
      cases hcounts : event.counts a b <;> simp [Trace.emits, Instr.emits, hcounts]
      omega
    | enterFinal => exact emissions_transitionTo _
    | dispatchSocketError err => exact emissions_dispatchEvent _
    | afterConnectTimeout =>
      exact emissions_dispatchEvent (s := { s with connectTimer := false }) .connectTimeout
    | enterConnecting => exact hsilent rfl rfl (forall_mem_enters rfl)
    | closeRequest =>
      exact hsilent rfl rfl fun j hj => emits_of_isCleanup (cleansUp_closeRequest.stack j hj)
    | cancelListener r l =>
      refine hsilent rfl rfl fun j hj => ?_
      cases leaves_exec (.cancelListener r l) j hj
    | _ => exact hsilent rfl rfl (by simp [exec, Instr.emits])
  rw [emissions_append, hone, hsplit]
  omega

/-! ### Continuations -/

/-- A continuation makes `'connect'` count once more or not, and does not close the
connection. -/
structure Adds (a b : Bool) (s : Connection) (announces : Bool) (r : Connection × List Instr) :
    Prop where
  emissions_eq : emissions a b r.1 r.2 = emissions a b s [] + (b && announces).toNat
  notFinal : r.1.state = .FINAL → s.state = .FINAL

theorem emits_of_isReport {i : Instr} (h : i.isReport = true) : i.emits a b = false := by
  cases i with
  | emit event => cases event <;> first | rfl | cases h
  | _ => rfl

namespace Adds

/-- Nothing is emitted. -/
theorem quiet {s' : Connection} {is : List Instr} (h : Silent a b s s')
    (his : ∀ i ∈ is, i.emits a b = false) : Adds a b s false (s', is) where
  emissions_eq := by
    rw [h.emissions_eq his]
    simp
  notFinal := h.notFinal

/-- `'connect'` is emitted, and the connection may be closed after that. -/
theorem connects {s' : Connection} {err : Option Err} {is : List Instr} (h : Silent a b s s')
    (his : ∀ i ∈ is, i.emits a b = false) :
    Adds a b s true (s', .emit (.connect err) :: is) where
  emissions_eq := by
    have hnone : is.countP (Instr.emits a b) = 0 :=
      List.countP_eq_zero.2 fun i hi => Bool.eq_false_iff.1 (his i hi)
    unfold emissions
    rw [h.ticks, h.trace, List.countP_cons, hnone]
    cases b <;> simp [Instr.emits, Emitted.counts]
    omega
  notFinal := h.notFinal

theorem of_eq {announces announces' : Bool} {r : Connection × List Instr}
    (h : Adds a b s announces r) (heq : announces' = announces) : Adds a b s announces' r :=
  heq ▸ h

theorem socketError {s' : Connection} (h : Silent a b s s') (hstate : s'.state = s.state)
    (err : Err) : Adds a b s s.refusesToConnect (s'.socketError c err) := by
  unfold Connection.socketError refusesToConnect
  by_cases hrefuses : s.state = .CONNECTING ∨ s.state = .SENT_TLSSSLNEGOTIATION
  · rw [if_pos (hstate ▸ hrefuses)]
    exact of_eq (connects h (by simp [Instr.emits])) (by simpa using hrefuses)
  · rw [if_neg (hstate ▸ hrefuses)]
    exact of_eq (quiet h (by simp [Instr.emits, Emitted.counts])) (by simpa using hrefuses)

/-- Something under way goes on. -/
theorem resume (p : Pending) (outcome : Outcome) :
    Adds a b s (announces c s (.resume p outcome)) (s.handle c (.resume p outcome)) := by
  -- an instance that is not found is announced in the next tick, which counts from now on
  by_cases hlookup : ∃ err, p = .instanceLookup false ∧ outcome = .failed err
  · obtain ⟨err, rfl, rfl⟩ := hlookup
    refine ⟨?_, id⟩
    unfold emissions
    cases b <;> simp [handle, Connection.resume, instanceLookupFailed, Connection.nextTick,
      announces, List.countP_append, Tick.emits]
    omega
  have hsilent : Silent a b s (s.handle c (.resume p outcome)).1 := by
    refine .of_changes (changes_handle _) ?_
    unfold Cause.emits
    split <;> first | rfl | (cases ‹Cause.event _ = _›; done) | skip
    next heq =>
      cases heq
      exact absurd ⟨_, rfl, rfl⟩ hlookup
  have hleft := remainder_resume (c := c) (s := { s with pending := s.pending.erase p }) p outcome
  have hannounces : announces c { s with pending := s.pending.erase p } (.resume p outcome) =
      announces c s (.resume p outcome) := rfl
  change Remainder c _ p outcome (s.handle c (.resume p outcome)) at hleft
  generalize s.handle c (.resume p outcome) = r at hsilent hleft ⊢
  cases hleft with
  | reports hquiet his =>
    refine of_eq (quiet hsilent fun i hi => emits_of_isReport (his i hi)) ?_
    refine Bool.eq_false_iff.2 fun h => hlookup ?_
    obtain rfl := hquiet h
    cases outcome <;> first | exact ⟨_, rfl, rfl⟩ | cases h
  | connects h his =>
    refine of_eq (connects hsilent ?_) (hannounces.symm.trans h)
    rcases his with rfl | ⟨err, rfl⟩ | ⟨rfl, -⟩ <;> simp [Instr.emits]
  | cleans _ _ _ hquiet =>
    exact of_eq (quiet hsilent fun i hi => emits_of_isCleanup ((enters_transitionTo _).stack i hi))
      (hannounces.symm.trans hquiet)
  | answers _ _ hquiet =>
    exact of_eq (quiet hsilent (emits_answerOrThrow _ _)) (hannounces.symm.trans hquiet)

/-- A callback of `process.nextTick` runs. -/
theorem tick {t : Tick} (ht : t ∈ s.ticks) :
    Adds a b s (announces c s (.tick t)) (s.handle c (.tick t)) := by
  have herase : (s.ticks.erase t).countP (Tick.emits a b) + (t.emits a b).toNat =
      s.ticks.countP (Tick.emits a b) := by
    rw [(List.perm_cons_erase ht).countP_eq, List.countP_cons]
    cases t.emits a b <;> simp
  cases t with
  | emitEnd =>
    refine ⟨?_, id⟩
    unfold emissions
    rw [← herase]
    cases a <;> simp [handle, onTick, Instr.emits, Emitted.counts, announces, Tick.emits]
  | emitConnect err =>
    refine ⟨?_, id⟩
    unfold emissions
    rw [← herase]
    cases b <;> simp [handle, onTick, Instr.emits, Emitted.counts, announces, Tick.emits]
  | socketError err =>
    have herased : Silent a b s { s with ticks := s.ticks.erase (.socketError err) } :=
      ⟨herase, rfl, id⟩
    exact socketError herased rfl err
  | callback execution err =>
    have herased : Silent a b s { s with ticks := s.ticks.erase (.callback execution err) } :=
      ⟨herase, rfl, id⟩
    exact quiet herased (by simp [Instr.emits])

/-- What the other events do. -/
theorem handle {event : Event} (henabled : s.enabled event = true)
    (hclose : event.mayClose = false) : Adds a b s (announces c s event) (s.handle c event) := by
  have hquiet : (Cause.event event).emits = false →
      (∀ i ∈ (s.handle c event).2, i.emits a b = false) →
        Adds a b s false (s.handle c event) := fun hcause his =>
    quiet (.of_changes (changes_handle event) hcause) his
  have hleaves := leaves_handle (c := c) (s := s) event
  cases event with
  | connectTimer =>
    exact connects (.of_changes (changes_handle (c := c) .connectTimer) rfl)
      (by simp [Instr.emits])
  | retryTimer => exact hquiet rfl (by simp [Connection.handle, retryTimeout, Instr.emits,
      Emitted.counts])
  | socketError err => exact socketError .refl rfl err
  | socketEnd =>
    show Adds a b s s.refusesToConnect (s.socketEnd c)
    unfold Connection.socketEnd
    split
    · next hfinal => exact of_eq (quiet .refl (by simp)) (by simp [refusesToConnect, hfinal])
    · exact socketError .refl rfl _
  | tick t => exact tick (of_decide_eq_true henabled)
  | resume p outcome => exact resume p outcome
  | close => cases hclose
  | cancelTimer => cases hclose
  | socketClose => cases hclose
  | _ =>
    refine hquiet rfl fun i hi => ?_
    have hleft := hleaves i hi
    cases i <;> first | rfl | cases hleft

end Adds

/-! ### Events -/

/-- **An event** adds an `'end'` where it closes the connection, and a `'connect'` where
`announces` says so. -/
theorem emissions_handle {event : Event} (henabled : s.enabled event = true) :
    emissions a b (s.handle c event).1 ((s.handle c event).2 ++ rest) =
      emissions a b s rest + (a && s.closes (s.handle c event).1).toNat +
        (b && announces c s event).toNat := by
  have hone : emissions a b (s.handle c event).1 (s.handle c event).2 =
      emissions a b s [] + (a && s.closes (s.handle c event).1).toNat +
        (b && announces c s event).toNat := by
    cases hclose : event.mayClose with
    | false =>
      have hadds := Adds.handle (a := a) (b := b) (c := c) henabled hclose
      have hcloses : s.closes (s.handle c event).1 = false := by
        by_cases hfinal : (s.handle c event).1.state = .FINAL
        · simp [closes, hadds.notFinal hfinal]
        · simp [closes, hfinal]
      rw [hadds.emissions_eq, hcloses]
      simp
    | true =>
      -- what may close the connection announces nothing, and adds at most an `'end'`
      have hquiet : announces c s event = false := by cases event <;> first | rfl | cases hclose
      rw [hquiet]
      simp only [Bool.and_false, Bool.toNat_false, Nat.add_zero]
      cases event with
      | close => exact emissions_transitionTo _
      | cancelTimer => exact emissions_dispatchEvent (s := { s with cancelTimerArmed := false }) _
      | socketClose =>
        show emissions a b (s.socketClose c).1 (s.socketClose c).2 =
          _ + (a && s.closes (s.socketClose c).1).toNat
        unfold Connection.socketClose
        split
        · exact emissions_dispatchEvent _
        · split
          · exact emissions_dispatchEvent _
          · exact emissions_transitionTo _
      | _ => cases hclose
  have hrest : emissions a b s rest = emissions a b s [] + rest.countP (Instr.emits a b) :=
    emissions_append []
  rw [emissions_append, hone, hrest]
  omega

end Connection

end Tedious
