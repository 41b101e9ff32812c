import Mathlib.Tactic.SplitIfs
import Tedious.Lib.Machine
import Tedious.Transaction

/-!
# Tedious.Transaction.Depth

The transaction state of a connection before TDS 7.2. The callbacks of the connection's own
requests count `transactionDepth` up and down, whether the request has succeeded or not,
and `inTransaction` is cleared where a batch fails and by `reset`. `coherent_iff` says
after which runs the two agree.

What the callbacks of the caller do comes after all of this, so that each of the caller's
calls is an event of its own.
-/

namespace Tedious

open Chunked

/-- The callbacks of requests. -/
inductive TransactionCallback
  /-- Nothing but the caller's. -/
  | caller
  /-- Of a transaction request. -/
  | request (request : TransactionRequest)
  /-- Of the request of `transaction`. -/
  | transaction (request : TransactionRequest) (isolationLevel : Bool)
  /-- Of the batch in which `transaction` sets the isolation level. -/
  | isolationLevel
  | reset
  deriving DecidableEq, Repr

structure TransactionConnection extends TransactionState where
  /-- `this.state === this.STATE.LOGGED_IN`. -/
  loggedIn : Bool
  /-- The callback of the current request. -/
  current : Option TransactionCallback
  /-- `useSavepoint` of the `txDone` functions that callers have been given. -/
  txDones : List Bool
  deriving DecidableEq, Repr

inductive TransactionEvent
  /-- `beginTransaction`, `commitTransaction`, `rollbackTransaction`, `saveTransaction`. -/
  | call (request : TransactionRequest)
  | transaction (name : JsString) (isolationLevel : Bool)
  | txDone (useSavepoint : Bool) (name : JsString) (err : Bool)
  | reset
  /-- Another request of the caller. -/
  | makeRequest (isSqlBatch : Bool)
  | envChange (change : EnvChange)
  /-- The response to the current request ends; the request has an error or none. -/
  | endOfMessage (err : Bool)
  /-- The current request was canceled, and the cancellation is acknowledged. -/
  | attention
  /-- The connection is closed, or its socket fails. -/
  | close
  deriving DecidableEq, Repr

namespace TransactionConnection

/-- A connection that has logged in. -/
def new : TransactionConnection where
  toTransactionState := .new
  loggedIn := true
  current := none
  txDones := []

/-- `SET transaction isolation level`; its callback hands out `txDone` in any case. -/
def setIsolationLevel (s : TransactionConnection) : TransactionConnection :=
  if s.loggedIn then
    { s with isSqlBatch := true, current := some .isolationLevel, loggedIn := false }
  else { s with txDones := true :: s.txDones }

/-- The callback of the request of `transaction`, after it has counted. -/
def afterTransactionRequest (s : TransactionConnection) (isolationLevel err : Bool) :
    TransactionRequest → TransactionConnection
  | .saveTransaction _ =>
      if err then s
      else if isolationLevel then s.setIsolationLevel
      else { s with txDones := true :: s.txDones }
  | _ => if err then s else { s with txDones := false :: s.txDones }

/-- `request.callback(err)`. -/
def callback (s : TransactionConnection) (err : Bool) :
    TransactionCallback → TransactionConnection
  | .caller => s
  | .request request => { s with toTransactionState := s.onCallback request }
  | .transaction request isolationLevel =>
      { s with toTransactionState := s.onCallback request }.afterTransactionRequest
        isolationLevel err request
  | .isolationLevel => { s with txDones := true :: s.txDones }
  | .reset => { s with inTransaction := false }

def makeRequest (s : TransactionConnection) (callback : TransactionCallback) (isSqlBatch : Bool) :
    TransactionConnection :=
  if s.loggedIn then { s with isSqlBatch, current := some callback, loggedIn := false }
  else s.callback true callback

/-- The current request is over. -/
def answer (s : TransactionConnection) (loggedIn err : Bool) : TransactionConnection :=
  match s.current with
  | some callback => { s with loggedIn, current := none }.callback err callback
  | none => { s with loggedIn }

/-- `onEndOfMessage`. -/
def onEndOfMessage (s : TransactionConnection) (err : Bool) : TransactionConnection :=
  if err && s.isSqlBatch then { s with inTransaction := false }.answer true err
  else s.answer true err

/-- The function `txDone` that a caller has been given. -/
def txDone (s : TransactionConnection) (useSavepoint : Bool) (name : JsString) (err : Bool) :
    TransactionConnection :=
  let r := s.toTransactionState.txDone true s.loggedIn useSavepoint name err
  match r.2 with
  | some request => { s with toTransactionState := r.1 }.makeRequest (.request request) true
  | none => { s with toTransactionState := r.1 }

/-- Whether an event can happen. -/
def enabled (s : TransactionConnection) : TransactionEvent → Bool
  | .txDone useSavepoint .. => useSavepoint ∈ s.txDones
  | .envChange _ | .endOfMessage _ | .attention => s.current.isSome
  | _ => true

def handle (s : TransactionConnection) : TransactionEvent → TransactionConnection
  | .call request => s.makeRequest (.request request) true
  | .transaction name isolationLevel =>
      s.makeRequest (.transaction (s.transactionRequest name) isolationLevel) true
  | .txDone useSavepoint name err => s.txDone useSavepoint name err
  | .reset => s.makeRequest .reset true
  | .makeRequest isSqlBatch => s.makeRequest .caller isSqlBatch
  | .envChange change => { s with toTransactionState := s.onEnvChange change }
  | .endOfMessage err => s.onEndOfMessage err
  | .attention => s.answer true true
  | .close => s.answer false true

/-- A connection before TDS 7.2, as far as its transaction state goes. -/
def machine : Machine TransactionConnection TransactionEvent where
  step := fun s event => if s.enabled event then some (s.handle event) else none

/-! ### When the two agree -/

def Coherent (s : TransactionConnection) : Prop :=
  (s.inTransaction = true ↔ 0 < s.transactionDepth) ∧ 0 ≤ s.transactionDepth

instance (s : TransactionConnection) : Decidable s.Coherent := inferInstanceAs (Decidable (_ ∧ _))

/-- At a depth a request may be answered; `failedBatch` says whether its response has ended
with an error, which has cleared `inTransaction`. -/
def AnswersAt (depth : Int) (failedBatch : Bool) : TransactionRequest → Prop
  | .beginTransaction _ => failedBatch = true → depth = 0
  | .commitTransaction _ | .rollbackTransaction _ =>
      0 < depth ∧ (failedBatch = true → depth = 1)
  | .saveTransaction _ => 0 < depth ∧ failedBatch = false

def CallsBackAt (depth : Int) (failedBatch : Bool) : TransactionCallback → Prop
  | .caller | .isolationLevel => failedBatch = true → depth = 0
  | .request request | .transaction request _ => AnswersAt depth failedBatch request
  | .reset => depth = 0

/-- A request is refused, or may be; an admitted one changes nothing yet. -/
def MakesAt (s : TransactionConnection) (callback : TransactionCallback) : Prop :=
  s.loggedIn = false → CallsBackAt s.transactionDepth false callback

def EndsAt (s : TransactionConnection) (failedBatch : Bool) : Prop :=
  match s.current with
  | some callback => CallsBackAt s.transactionDepth failedBatch callback
  | none => True

/-- The events that keep the two in agreement. -/
def Harmless (s : TransactionConnection) : TransactionEvent → Prop
  | .call request => s.MakesAt (.request request)
  | .transaction name isolationLevel =>
      s.MakesAt (.transaction (s.transactionRequest name) isolationLevel)
  | .txDone _ _ true => True
  | .txDone true _ false => 1 < s.transactionDepth
  | .txDone false name false => s.MakesAt (.request (.commitTransaction name))
  | .reset => s.MakesAt .reset
  | .makeRequest _ => True
  | .envChange (.beginTransaction ..) => 0 < s.transactionDepth
  | .envChange (.commitTransaction ..) | .envChange (.rollbackTransaction ..) =>
      s.transactionDepth = 0
  | .envChange _ => True
  | .endOfMessage err => s.EndsAt (err && s.isSqlBatch)
  | .attention | .close => s.EndsAt false

variable {s : TransactionConnection}

/-- `inTransaction` after a response, which a failed batch has cleared. -/
theorem Coherent.cleared_iff (h : s.Coherent) (failedBatch : Bool) :
    (s.inTransaction && !failedBatch) = true ↔ 0 < s.transactionDepth ∧ failedBatch = false := by
  rw [Bool.and_eq_true, Bool.not_eq_true', h.1]

/-- A level less, as after a commit or a rollback. -/
theorem coherent_decremented (h : s.Coherent) (failedBatch : Bool) :
    Coherent { s with
      toTransactionState := ({ s.toTransactionState with
        inTransaction := s.inTransaction && !failedBatch }).onCallback (.commitTransaction []) } ↔
      0 < s.transactionDepth ∧ (failedBatch = true → s.transactionDepth = 1) := by
  have hagree := h.cleared_iff failedBatch
  have hdepth := h.2
  simp only [TransactionState.onCallback, Coherent]
  split_ifs with hlast
  · -- The last level clears `inTransaction` whatever it was.
    have hone : s.transactionDepth = 1 := by omega
    simp [hone]
  · rw [hagree]
    cases failedBatch with
    | false => simp; omega
    | true => simp; omega

theorem coherent_onCallback (h : s.Coherent) (failedBatch : Bool) (request : TransactionRequest) :
    Coherent { s with
      toTransactionState := ({ s.toTransactionState with
        inTransaction := s.inTransaction && !failedBatch }).onCallback request } ↔
      AnswersAt s.transactionDepth failedBatch request := by
  have hagree := h.cleared_iff failedBatch
  have hdepth := h.2
  cases request with
  | beginTransaction name =>
    simp only [TransactionState.onCallback, Coherent, AnswersAt]
    split_ifs with hfirst
    · -- The first level sets `inTransaction` whatever it was.
      have hzero : s.transactionDepth = 0 := by omega
      simp [hzero]
    · rw [hagree]
      cases failedBatch with
      | false => simp; omega
      | true => simp; omega
  | commitTransaction name => exact coherent_decremented h failedBatch
  | rollbackTransaction name => exact coherent_decremented h failedBatch
  | saveTransaction name =>
    simp only [TransactionState.onCallback, Coherent, AnswersAt, hagree]
    cases failedBatch with
    | false => simp; omega
    | true => simp; omega

theorem coherent_congr {s' : TransactionConnection} (hin : s'.inTransaction = s.inTransaction)
    (hdepth : s'.transactionDepth = s.transactionDepth) : s'.Coherent ↔ s.Coherent := by
  unfold Coherent
  rw [hin, hdepth]

theorem coherent_afterTransactionRequest (isolationLevel err : Bool)
    (request : TransactionRequest) :
    (s.afterTransactionRequest isolationLevel err request).Coherent ↔ s.Coherent := by
  refine coherent_congr ?_ ?_ <;> cases request <;>
    simp only [afterTransactionRequest, setIsolationLevel] <;> split_ifs <;> rfl

/-- A callback, after a batch that has failed or another end of the request. -/
theorem coherent_callback (h : s.Coherent) (failedBatch err : Bool)
    (callback : TransactionCallback) :
    ({ s with inTransaction := s.inTransaction && !failedBatch }.callback err callback).Coherent ↔
      CallsBackAt s.transactionDepth failedBatch callback := by
  have hcleared : Coherent { s with inTransaction := s.inTransaction && !failedBatch } ↔
      (failedBatch = true → s.transactionDepth = 0) := by
    obtain ⟨hagree, hdepth⟩ := h
    cases failedBatch with
    | false => simp_all [Coherent]
    | true =>
      simp_all [Coherent]
      omega
  cases callback with
  | caller => exact hcleared
  | request request => exact coherent_onCallback h failedBatch request
  | transaction request isolationLevel =>
    exact (coherent_afterTransactionRequest ..).trans (coherent_onCallback h failedBatch request)
  | isolationLevel => exact hcleared
  | reset =>
    obtain ⟨hagree, hdepth⟩ := h
    simp only [TransactionConnection.callback, Coherent, CallsBackAt, Bool.false_eq_true,
      false_iff, not_lt]
    omega

theorem coherent_makeRequest (h : s.Coherent) (callback : TransactionCallback)
    (isSqlBatch : Bool) :
    (s.makeRequest callback isSqlBatch).Coherent ↔ s.MakesAt callback := by
  unfold makeRequest MakesAt
  cases hloggedIn : s.loggedIn with
  | true => exact iff_of_true h (by simp)
  | false =>
    have hcallback := coherent_callback h false true callback
    simpa using hcallback

theorem coherent_answer (h : s.Coherent) {failedBatch : Bool}
    (hcurrent : s.current.isSome = true ∨ failedBatch = false) (loggedIn err : Bool) :
    ({ s with inTransaction := s.inTransaction && !failedBatch }.answer loggedIn err).Coherent ↔
      s.EndsAt failedBatch := by
  unfold answer EndsAt
  rcases hcallback : s.current with _ | callback
  · rw [hcallback] at hcurrent
    obtain rfl := hcurrent.resolve_left (by simp)
    refine iff_of_true ?_ trivial
    simpa [Coherent] using h
  · exact coherent_callback (s := { s with loggedIn, current := none }) h failedBatch err callback

/-- Without a failed batch. -/
theorem coherent_answer_false (h : s.Coherent) (loggedIn err : Bool) :
    (s.answer loggedIn err).Coherent ↔ s.EndsAt false := by
  have hanswer := coherent_answer h (.inr rfl) loggedIn err
  simpa using hanswer

/-- **One event** keeps the two in agreement if and only if it is harmless. -/
theorem harmless_iff (h : s.Coherent) {event : TransactionEvent}
    (henabled : s.enabled event = true) : s.Harmless event ↔ (s.handle event).Coherent := by
  cases event with
  | call request => exact (coherent_makeRequest h _ _).symm
  | transaction name isolationLevel => exact (coherent_makeRequest h _ _).symm
  | txDone useSavepoint name err =>
    show s.Harmless (.txDone useSavepoint name err) ↔ (s.txDone useSavepoint name err).Coherent
    cases err with
    | true =>
      refine iff_of_true trivial ?_
      simp only [txDone, TransactionState.txDone, if_true]
      split_ifs with hrollback
      · obtain ⟨-, hloggedIn⟩ := (Bool.and_eq_true _ _).mp hrollback
        refine (coherent_makeRequest h _ true).2 fun hout => ?_
        cases hout.symm.trans hloggedIn
      · exact h
    | false =>
      cases useSavepoint with
      | true =>
        obtain ⟨hagree, hdepth⟩ := h
        simp only [txDone, TransactionState.txDone, Bool.false_eq_true, if_false, if_true, Harmless,
          Coherent, hagree]
        omega
      | false => exact (coherent_makeRequest h _ true).symm
  | reset => exact (coherent_makeRequest h _ _).symm
  | makeRequest isSqlBatch =>
    refine iff_of_true trivial ((coherent_makeRequest h .caller isSqlBatch).2 fun _ => ?_)
    simp [CallsBackAt]
  | envChange change =>
    obtain ⟨hagree, hdepth⟩ := h
    cases change <;>
      simp only [Harmless, handle, TransactionState.onEnvChange, Coherent,
        TransactionState.onBeginTransaction, TransactionState.onCommitTransaction,
        TransactionState.onRollbackTransaction] <;> simp_all <;> omega
  | endOfMessage err =>
    have hanswer : _ ↔ s.EndsAt (err && s.isSqlBatch) :=
      coherent_answer h (.inl henabled) true err
    refine hanswer.symm.trans (iff_of_eq ?_)
    show _ = (s.onEndOfMessage err).Coherent
    unfold onEndOfMessage
    split_ifs with hfailed
    · simp [hfailed]
    · simp [hfailed]
  | attention => exact (coherent_answer_false h true true).symm
  | close => exact (coherent_answer_false h false true).symm

theorem coherent_new : new.Coherent := by decide

/-- **The flag and the depth agree** in every state of a run if and only if every event of it
is harmless. -/
theorem coherent_iff {events : List TransactionEvent} {s : TransactionConnection}
    (h : machine.Runs new events s) :
    (∀ before after s₁, events = before ++ after → machine.Runs new before s₁ → s₁.Coherent) ↔
      machine.Steps Harmless new events s := by
  refine Machine.Steps.guard_iff ?_ h coherent_new
  intro s event s' hs hstep
  obtain ⟨henabled, hhandle⟩ := Option.ite_none_right_eq_some.1 hstep
  obtain rfl := Option.some.inj hhandle
  exact harmless_iff hs henabled

/-- A transaction begins, and is committed. -/
theorem coherent_iff_committed : ∃ s, machine.Runs new
    [.call (.beginTransaction []), .endOfMessage false, .call (.commitTransaction []),
      .endOfMessage false] s ∧ s.transactionDepth = 0 ∧
    ((∀ before after s₁, [.call (.beginTransaction []), .endOfMessage false,
        .call (.commitTransaction []), .endOfMessage false] = before ++ after →
          machine.Runs new before s₁ → s₁.Coherent) ↔
      machine.Steps Harmless new [.call (.beginTransaction []), .endOfMessage false,
        .call (.commitTransaction []), .endOfMessage false] s) := by
  have hrun : (machine.run (fun _ _ => True) new [.call (.beginTransaction []),
      .endOfMessage false, .call (.commitTransaction []), .endOfMessage false]).any
        (fun s => s.transactionDepth = 0) = true := by decide
  obtain ⟨s, hs, hdepth⟩ := Machine.exists_steps_of_run _ hrun
  exact ⟨s, hs, of_decide_eq_true hdepth, coherent_iff hs⟩

/-- A batch fails in a transaction. -/
theorem coherent_lost : ¬∀ (events : List TransactionEvent) (s : TransactionConnection),
    machine.Runs new events s → s.current = none → s.Coherent := by
  intro h
  have hrun : (machine.run (fun _ _ => True) new [.call (.beginTransaction []),
      .endOfMessage false, .makeRequest true, .endOfMessage true]).any
        (fun s => s.current = none && !decide s.Coherent) = true := by decide
  obtain ⟨s, hs, hlost⟩ := Machine.exists_steps_of_run _ hrun
  obtain ⟨hnone, hlost⟩ := (Bool.and_eq_true _ _).mp hlost
  have hcoherent := h _ s hs (of_decide_eq_true hnone)
  simp [hcoherent] at hlost

end TransactionConnection

end Tedious
