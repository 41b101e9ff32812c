import Tedious.Connection.Requests

/-!
# Tedious.Connection.Prepared

The handle of a prepared request (`prepare`, `execute` and `unprepare` in `connection.ts`).
`prepare` adds a listener that takes the handle from the response of `sp_prepare`, and the listener
stays on the request.

`handle_stable_iff` says in which runs the request keeps the handle that `sp_prepare` has returned
last, and no error of the listener: the ones whose responses return nothing else to it.
-/

namespace Tedious

open Chunked Reentrant

/-- An error of the listener that `prepare` adds. -/
def Err.isUnexpectedParameter : Err → Bool
  | .request e =>
      e.code = none && e.data = none &&
        (JsString.ofString "Tedious > Unexpected output parameter ").isPrefixOf e.message
  | _ => false

/-- A request that has been prepared has this handle, and no error of the listener. -/
structure Request.Prepared (handle : Option Value) (request : Request) : Prop where
  listens : 0 < request.prepared
  handle : request.handle = handle
  error : request.error.any Err.isUnexpectedParameter = false

namespace Connection

/-- What a token of a response returns to a request; a request that is canceled gets nothing. -/
def returned (s : Connection) (r : RequestId) : Event → Option (JsString × Value)
  | .resume (.requestTokens _ (some r') _ _) (.token (.returnValue _ paramName _ value)) =>
      if r' = r ∧ (s.requests r).canceled = false then some (paramName, value) else none
  | _ => none

/-- The handle that `sp_prepare` has returned last. -/
def extendHandle (r : RequestId) (k : Config Connection Instr) (m : Move Event)
    (_ : Config Connection Instr) (handle : Option Value) : Option Value :=
  match m with
  | .next => handle
  | .event e =>
    match k.state.returned r e with
    | some (paramName, value) =>
        if (k.state.requests r).preparing = true ∧ paramName = JsString.ofString "handle" then
          some value
        else handle
    | none => handle

/-- A connection, and the handle that `sp_prepare` has returned last for a request. -/
def handleMachine (c : ConnectionConfig) (r : RequestId) :
    Machine (Config Connection Instr × Option Value) (Move Event) :=
  (component c).machine.withHistory (extendHandle r)

/-- The error of a payload, where it becomes the error of a request. -/
def failed (s : Connection) (r : RequestId) : Event → Option Err
  | .payloadError call err =>
      if (s.messages call).request = r ∧ (s.requests r).error = none then some err else none
  | _ => none

/-- Responses return handles only: the one of `sp_prepare`, or the one that is known. And no payload
fails with the listener's error. -/
def Expected (r : RequestId) (p : Config Connection Instr × Option Value) : Move Event → Prop
  | .next => True
  | .event e =>
    (∀ x ∈ p.1.state.returned r e, x.1 = JsString.ofString "handle" ∧
      ((p.1.state.requests r).preparing = true ∨ p.2 = some x.2)) ∧
    ∀ err ∈ p.1.state.failed r e, err.isUnexpectedParameter = false

instance (r : RequestId) (p : Config Connection Instr × Option Value) (m : Move Event) :
    Decidable (Expected r p m) :=
  match m with
  | .next => isTrue trivial
  | .event _ => inferInstanceAs (Decidable (_ ∧ _))

variable {c : ConnectionConfig} {s : Connection} {r : RequestId} {handle : Option Value}

/-! ### What leaves a request prepared -/

theorem prepared_complete {options : HandlerOptions} {id : RequestId} {token : Token}
    {s : RequestState} (h : s.request.Prepared handle) :
    (RequestTokenHandler.complete options id token s).request.Prepared handle := by
  cases token with
  | errorMessage data =>
    rw [RequestTokenHandler.complete, RequestTokenHandler.onErrorMessage]
    split
    · exact h
    · refine ⟨h.listens, h.handle, ?_⟩
      dsimp only
      split <;> rfl
  | _ => exact ⟨h.listens, h.handle, h.error⟩

theorem steady_prepared (handle : Option Value) : Request.Steady (Request.Prepared handle) where
  canceled := fun _ h => ⟨h.listens, h.handle, h.error⟩
  listeners := fun _ _ h => ⟨h.listens, h.handle, h.error⟩
  started := fun _ h => ⟨h.listens, h.handle, h.error⟩
  prepared := fun _ h => ⟨Nat.succ_pos _, h.handle, h.error⟩
  answered := fun _ h => ⟨h.listens, h.handle, h.error⟩
  timeout := fun _ _ h => ⟨h.listens, h.handle, h.error⟩
  timedOut := fun _ _ h => ⟨h.listens, h.handle, rfl⟩
  completed := fun _ _ _ _ h => prepared_complete h

theorem prepared_noteSqlError {data : DoneData} {request : Request}
    (h : request.Prepared handle) :
    (RequestTokenHandler.noteSqlError data request).Prepared handle := by
  rw [RequestTokenHandler.noteSqlError]
  split
  · exact ⟨h.listens, h.handle, rfl⟩
  · exact h

/-- A token that returns nothing. -/
theorem prepared_announce {options : HandlerOptions} {token : Token} {s s' : RequestState}
    {event : Option RequestEvent} (h : s.request.Prepared handle)
    (htoken : s.request.canceled = true ∨ ∀ ordinal paramName metadata value,
      token ≠ .returnValue ordinal paramName metadata value)
    (hannounce : RequestTokenHandler.announce options token s = some (s', event)) :
    s'.request.Prepared handle := by
  unfold RequestTokenHandler.announce at hannounce
  split at hannounce
  · cases hannounce
    exact h
  · next hskipped =>
    cases token with
    | returnValue ordinal paramName metadata value =>
      rcases htoken with hcanceled | hne
      · exact absurd hcanceled hskipped
      · exact absurd rfl (hne _ _ _ _)
    | done data | doneProc data =>
      cases hannounce
      exact prepared_noteSqlError h
    | envChange change => cases change <;> cases hannounce <;> exact h
    | sspi | fedAuthInfo | featureExtAck | loginAck => cases hannounce
    | row columns | nbcRow columns =>
      cases hannounce
      exact ⟨h.listens, h.handle, h.error⟩
    | _ =>
      cases hannounce
      exact h

/-! ### What a response returns -/

theorem returned_eq_some {event : Event} {paramName : JsString} {value : Value}
    (h : s.returned r event = some (paramName, value)) :
    (s.requests r).canceled = false ∧ ∃ call errors answers ordinal metadata,
      event = .resume (.requestTokens call (some r) errors answers)
        (.token (.returnValue ordinal paramName metadata value)) := by
  unfold returned at h
  split at h
  · split at h
    · next hr =>
      cases h
      obtain ⟨rfl, hcanceled⟩ := hr
      exact ⟨hcanceled, _, _, _, _, _, rfl⟩
    · cases h
  · cases h

theorem announce_returnValue (options : HandlerOptions) {s : RequestState} (ordinal : Nat)
    (paramName : JsString) (metadata : Metadata) (value : Value)
    (h : s.request.canceled = false) :
    RequestTokenHandler.announce options (.returnValue ordinal paramName metadata value) s =
      some ({ s with request := s.request.onReturnValue paramName value },
        some (.returnValue paramName value)) := by
  unfold RequestTokenHandler.announce
  refine if_neg ?_
  show ¬ s.request.canceled = true
  rw [h]
  exact Bool.false_ne_true

/-- The listeners of `prepare` run. -/
theorem requests_returned {event : Event} {paramName : JsString} {value : Value}
    (h : s.returned r event = some (paramName, value)) :
    (s.handle c event).1.requests r = (s.requests r).onReturnValue paramName value := by
  obtain ⟨hcanceled, call, errors, answers, ordinal, metadata, rfl⟩ := returned_eq_some h
  have hannounce := announce_returnValue c.toHandlerOptions ordinal paramName metadata value
    (s := ⟨errors, s.requests r, s.procReturnStatusValue⟩) hcanceled
  rw [Connection.handle, resume]
  unfold requestToken
  dsimp only [await]
  rw [hannounce]
  exact if_pos rfl

/-- The handle changes, or the error does. -/
theorem prepared_onReturnValue_iff {request : Request} (h : request.Prepared handle)
    (paramName : JsString) (value : Value) (handle' : Option Value) :
    (request.onReturnValue paramName value).Prepared handle' ↔
      paramName = JsString.ofString "handle" ∧ some value = handle' := by
  rw [Request.onReturnValue, if_neg (Nat.pos_iff_ne_zero.1 h.listens)]
  split
  · next hname =>
    constructor
    · intro hprepared
      exact ⟨hname, hprepared.handle⟩
    · rintro ⟨-, hvalue⟩
      exact ⟨h.listens, hvalue, h.error⟩
  · next hname =>
    constructor
    · intro hprepared
      have hspoilt : Err.isUnexpectedParameter (.request (.new
          (JsString.ofString "Tedious > Unexpected output parameter " ++ paramName ++
            JsString.ofString " from sp_prepare") none)) = true := by
        rw [Err.isUnexpectedParameter, RequestError.new, List.append_assoc]
        simp
      exact absurd (hprepared.error.symm.trans hspoilt) Bool.false_ne_true
    · rintro ⟨hname', -⟩
      exact absurd hname' hname

/-- A token that returns nothing to the request. -/
theorem prepared_token {event : Event} (h : (s.requests r).Prepared handle)
    (hreturned : s.returned r event = none) {call : Nat} {errors : List RequestError}
    {answers : Option Answer} {token : Token} {s' : RequestState} {emitted : Option RequestEvent}
    (hevent : event = .resume (.requestTokens call (some r) errors answers) (.token token))
    (hannounce : RequestTokenHandler.announce c.toHandlerOptions token
      ⟨errors, s.requests r, s.procReturnStatusValue⟩ = some (s', emitted)) :
    s'.request.Prepared handle := by
  refine prepared_announce (s := ⟨errors, s.requests r, s.procReturnStatusValue⟩) h ?_ hannounce
  by_contra hnot
  obtain ⟨hcanceled, hreturns⟩ := not_or.1 hnot
  push Not at hreturns
  obtain ⟨ordinal, paramName, metadata, value, rfl⟩ := hreturns
  subst hevent
  have hsome : s.returned r (.resume (.requestTokens call (some r) errors answers)
      (.token (.returnValue ordinal paramName metadata value))) = some (paramName, value) :=
    if_pos ⟨rfl, Bool.eq_false_of_not_eq_true hcanceled⟩
  cases hsome.symm.trans hreturned

/-- An event that returns nothing to the request. -/
theorem prepared_handle_iff_of_none {event : Event} (h : (s.requests r).Prepared handle)
    (hreturned : s.returned r event = none) :
    ((s.handle c event).1.requests r).Prepared handle ↔
      ∀ err ∈ s.failed r event, err.isUnexpectedParameter = false := by
  constructor
  · intro hprepared err hfailed
    unfold failed at hfailed
    split at hfailed
    · next call err' =>
      split at hfailed
      · next hcond =>
        cases hfailed
        obtain ⟨rfl, herror⟩ := hcond
        have hrequest : ((s.handle c (.payloadError call err)).1.requests
            (s.messages call).request).error = some err := by
          rw [Connection.handle, onPayloadError, updateRequest]
          dsimp only
          rw [if_pos rfl]
          show ((s.requests (s.messages call).request).error <|> some err) = some err
          rw [herror]
          rfl
        have hnot := hprepared.error
        rw [hrequest] at hnot
        exact hnot
      · cases hfailed
    · cases hfailed
  · intro hpayload
    refine keeps_handle (steady_prepared handle) h ?_ ?_
    · intro call errors answers token s' emitted hevent hannounce
      exact prepared_token h hreturned hevent hannounce
    · rintro call err rfl hr
      refine ⟨h.listens, h.handle, ?_⟩
      have herror := h.error
      cases hnone : (s.requests r).error with
      | none => exact hpayload err (if_pos ⟨hr, hnone⟩)
      | some error =>
        rw [hnone] at herror
        exact herror

/-- **The step lemma** for events. -/
theorem expected_iff {k k' : Config Connection Instr} {event : Event}
    (h : (k.state.requests r).Prepared handle) (hk' : k'.state = (k.state.handle c event).1) :
    Expected r (k, handle) (.event event) ↔
      (k'.state.requests r).Prepared (extendHandle r k (.event event) k' handle) := by
  rw [hk']
  unfold Expected extendHandle
  dsimp only
  cases hreturned : k.state.returned r event with
  | none =>
    rw [prepared_handle_iff_of_none h hreturned]
    simp
  | some p =>
    obtain ⟨paramName, value⟩ := p
    dsimp only
    rw [requests_returned hreturned, prepared_onReturnValue_iff h]
    obtain ⟨-, call, errors, answers, ordinal, metadata, rfl⟩ := returned_eq_some hreturned
    have hfailed : k.state.failed r (.resume (.requestTokens call (some r) errors answers)
        (.token (.returnValue ordinal paramName metadata value))) = none := rfl
    rw [hfailed]
    split_ifs with hpreparing
    · simp [hpreparing]
    · constructor
      · rintro ⟨hhandle, -⟩
        obtain ⟨hname, hpreparing' | hvalue⟩ := hhandle _ rfl
        · exact absurd ⟨hpreparing', hname⟩ hpreparing
        · exact ⟨hname, hvalue.symm⟩
      · rintro ⟨hname, hvalue⟩
        refine ⟨?_, fun _ hmem => by cases hmem⟩
        rintro _ ⟨⟩
        exact ⟨hname, .inr hvalue.symm⟩

/-! ### Every run -/

/-- A request that has been prepared keeps the handle that `sp_prepare` has returned last, and no
error of the listener, as long as the responses return nothing else to it: neither an output
parameter of another name, nor another value as `handle` when the request is executed. -/
theorem handle_stable_iff {k : Config Connection Instr} {moves : List (Move Event)}
    {p : Config Connection Instr × Option Value} (h : (k.state.requests r).Prepared handle)
    (hrun : (handleMachine c r).Runs (k, handle) moves p) :
    (∀ before after p', moves = before ++ after →
      (handleMachine c r).Runs (k, handle) before p' →
        (p'.1.state.requests r).Prepared p'.2) ↔
    (handleMachine c r).Steps (Expected r) (k, handle) moves p := by
  refine Machine.Steps.guard_iff (I := fun p => (p.1.state.requests r).Prepared p.2) ?_ hrun h
  rintro ⟨k₁, x⟩ m p₂ hprepared hstep
  obtain ⟨k₂, hk₂, rfl⟩ := Option.map_eq_some_iff.1 hstep
  obtain ⟨i, rest, rfl, -, rfl⟩ | ⟨e, s', is, rfl, -, hstart, rfl⟩ := Component.step_cases hk₂
  · exact ⟨fun _ => keeps_exec (steady_prepared x) i hprepared, fun _ => trivial⟩
  · obtain ⟨-, hs'⟩ := start_eq_some hstart
    exact expected_iff hprepared (congrArg Prod.fst hs')

/-- An `Int` that a response returns. -/
def returnToken (paramName : String) (n : Rat) : Token :=
  .returnValue 0 (JsString.ofString paramName) { userType := 0, flags := 0, type := .Int }
    (.number n)

/-- A call, its response with one output parameter, and the callback. -/
def callMoves (event : Event) (call : Nat) (token : Token) : List (Move Event) :=
  [.event event, .event (.payloadEnd call), .event (.finish call),
    .event (.resume (.requestMessage call) .done),
    .event (.resume (.requestTokens call (some (.request 0)) [] (some (.response call)))
      (.token token)), .next, .next, .next,
    .event (.resume (.requestTokens call (some (.request 0)) [] (some (.response call))) .done),
    .next, .next]

/-- A request has been prepared, and its handle is 7. -/
def preparedMoves : List (Move Event) :=
  loggedInMoves ++ callMoves (.prepare (.request 0)) 0 (returnToken "handle" 7)

def preparedConfig : Config Connection Instr :=
  (evaluate exampleConfig (fun _ _ _ => True) preparedMoves).getD ⟨.new, []⟩

theorem runsTo_preparedConfig :
    RunsTo exampleConfig (fun _ _ _ => True) preparedMoves preparedConfig := by
  have hsome : (evaluate exampleConfig (fun _ _ _ => True) preparedMoves).isSome = true := by decide
  obtain ⟨k, hk⟩ := Option.isSome_iff_exists.1 hsome
  rw [preparedConfig, hk]
  exact Machine.steps_of_run _ hk

theorem prepared_preparedConfig :
    (preparedConfig.state.requests (.request 0)).Prepared (some (.number 7)) :=
  ⟨by decide, by decide, by decide⟩

/-- The request is prepared again. -/
theorem handle_stable_again : ∃ moves p,
    (handleMachine exampleConfig (.request 0)).Runs (preparedConfig, some (.number 7)) moves p ∧
    p.2 = some (.number 8) ∧
    ∀ before after p', moves = before ++ after →
      (handleMachine exampleConfig (.request 0)).Runs (preparedConfig, some (.number 7)) before p' →
        (p'.1.state.requests (.request 0)).Prepared p'.2 := by
  have hrun : ((handleMachine exampleConfig (.request 0)).run (Expected (.request 0))
      (preparedConfig, some (.number 7)) (callMoves (.prepare (.request 0)) 1
        (returnToken "handle" 8))).any (fun p => p.2 = some (.number 8)) = true := by decide
  obtain ⟨p, hsteps, hp⟩ := Machine.exists_steps_of_run _ hrun
  have hruns : (handleMachine exampleConfig (.request 0)).Runs (preparedConfig, some (.number 7)) _
      p := hsteps.mono fun _ => trivial
  exact ⟨_, p, hruns, of_decide_eq_true hp,
    (handle_stable_iff prepared_preparedConfig hruns).2 hsteps⟩

/-- The request is executed, and the statement has an output parameter `handle` of its own. -/
theorem handle_overwritten : ¬ ∀ (c : ConnectionConfig) (r : RequestId)
    (moves₀ moves : List (Move Event)) (k : Config Connection Instr) (handle : Option Value)
    (p : Config Connection Instr × Option Value),
    RunsTo c (fun _ _ _ => True) moves₀ k → (k.state.requests r).Prepared handle →
    (k.state.requests r).preparing = false → (handleMachine c r).Runs (k, handle) moves p →
      (p.1.state.requests r).Prepared p.2 := by
  intro h
  have hrun : ((handleMachine exampleConfig (.request 0)).run (fun _ _ => True)
      (preparedConfig, some (.number 7)) (callMoves (.makeRequest (.request 0) .RPC_REQUEST) 1
        (returnToken "handle" 8))).any
          (fun p => (p.1.state.requests (.request 0)).handle ≠ p.2) = true := by decide
  obtain ⟨p, hsteps, hp⟩ := Machine.exists_steps_of_run _ hrun
  have hprepared := h exampleConfig (.request 0) _ _ _ _ p runsTo_preparedConfig
    prepared_preparedConfig (by decide) hsteps
  exact of_decide_eq_true hp hprepared.handle

end Connection

end Tedious
