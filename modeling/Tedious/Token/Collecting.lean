import Mathlib.Data.List.Induction
import Tedious.Token.Handler

/-!
# Tedious.Token.Collecting

What a request has collected when some tokens of a response have been handled, and it may have
been canceled on the way (`token/handler.ts`): its rows, the rows that `'done'` and its kin are
given, its row count and its error are folds of the tokens before the cancel.

`collected_iff` has the one exception: the listener that `prepare` adds to a request takes every
later output parameter for one of `sp_prepare`, and its error stays unless an `ERROR` token
follows. Row counts are added as Numbers, which is exact as long as their sum is at most `2 ^ 53`.
-/

namespace Tedious

/-- A token that the handler is given, with whether a listener of its events cancels the request;
or a cancel between two tokens. -/
inductive ResponseStep
  | token (token : Token) (cancels : Bool)
  | cancel

namespace ResponseStep

def cancels : ResponseStep → Bool
  | token _ cancels => cancels
  | cancel => true

end ResponseStep

namespace RequestTokenHandler

variable (options : HandlerOptions) (id : RequestId)

/-- `request.cancel()`, as far as the handler sees it. -/
def cancel (s : RequestState) : RequestState :=
  { s with request := { s.request with canceled := true } }

/-- One step of a response, with the events of the request so far. -/
def respond (x : RequestState × List RequestEvent) :
    ResponseStep → Option (RequestState × List RequestEvent)
  | .token token cancels => do
    let (s, event) ← announce options token x.1
    let s := if cancels then cancel s else s
    let s := if skipped x.1 token then s else complete options id token s
    pure (s, x.2 ++ event.toList)
  | .cancel => some (cancel x.1, x.2)

/-- A response, as far as it has come. -/
def respondAll (s : RequestState) (steps : List ResponseStep) :
    Option (RequestState × List RequestEvent) :=
  steps.foldlM (respond options id) (s, [])

/-! ### The folds -/

/-- The tokens that are handled before the request is canceled. The events of a token come before
what is done about an `ERROR` token, and behind what is done about any other. -/
def beforeCancel : List ResponseStep → List Token
  | [] | .cancel :: _ => []
  | .token token false :: steps => token :: beforeCancel steps
  | .token (.errorMessage _) true :: _ => []
  | .token token true :: _ => [token]

def tokenRows : Token → List RowColumns
  | .row columns | .nbcRow columns => [columns]
  | _ => []

/-- The data of `DONE`, `DONEINPROC` and `DONEPROC`. -/
def tokenDone : Token → Option DoneData
  | .done data | .doneInProc data | .doneProc data => some data
  | _ => none

/-- A `DONE` or `DONEPROC` with the error bit. -/
def tokenFails : Token → Bool
  | .done data | .doneProc data => data.sqlError
  | _ => false

def tokenErrors : Token → List RequestError
  | .errorMessage data => [{ message := data.message, code := some "EREQUEST", data := some data }]
  | _ => []

/-- The row count that a token gives. -/
def tokenCount (token : Token) : Option Nat := (tokenDone token).bind DoneData.rowCount

def rowCountOf (tokens : List Token) : Nat :=
  (tokens.map fun token => (tokenCount token).getD 0).sum

/-- `An unknown error has occurred.` -/
def unknownError : Err :=
  .request (.new (JsString.ofString "An unknown error has occurred.") (some "UNKNOWN"))

def errorOf (tokens : List Token) : Option Err :=
  match tokens.flatMap tokenErrors with
  | [] => if tokens.any tokenFails then some unknownError else none
  | [error] => some (.request error)
  | errors => some (.requestAggregate errors)

def emittedRows : RequestEvent → List RowColumns
  | .row columns => [columns]
  | _ => []

/-- The `rst` that an event passes. -/
def passedRst : RequestEvent → List RowColumns
  | .doneProc _ _ _ rst | .doneInProc _ _ rst | .done _ _ rst => rst
  | _ => []

/-- The request has collected these tokens, and emitted the events. -/
structure Collected (tokens : List Token) (s : RequestState) (events : List RequestEvent) :
    Prop where
  emitted : events.flatMap emittedRows = tokens.flatMap tokenRows
  rows : s.request.rows = tokens.flatMap tokenRows
  rst : events.flatMap passedRst ++ s.request.rst = tokens.flatMap tokenRows
  rowCount : s.request.rowCount = rowCountOf tokens
  error : s.request.error = errorOf tokens

/-- What `makeRequest` and a new handler begin with, and no error. -/
structure Fresh (s : RequestState) : Prop where
  errors : s.errors = []
  canceled : s.request.canceled = false
  rows : s.request.rows = []
  rst : s.request.rst = []
  rowCount : s.request.rowCount = 0
  error : s.request.error = none

/-- An output parameter that the listener of `prepare` complains about. -/
def isUnexpected : Token → Bool
  | .returnValue _ paramName _ _ => paramName ≠ JsString.ofString "handle"
  | _ => false

def isError : Token → Bool
  | .errorMessage _ => true
  | _ => false

/-- An `ERROR` token follows every unexpected output parameter. -/
def Covered (tokens : List Token) : Prop :=
  ∀ before token after, tokens = before ++ token :: after → isUnexpected token →
    ∃ error ∈ after, isError error

/-! ### One step -/

variable {options id}

/-- The error of a request behind a token that is not skipped. -/
def nextError (s : RequestState) : Token → Option Err
  | .errorMessage data =>
    let error : RequestError :=
      { message := data.message, code := some "EREQUEST", data := some data }
    some (if s.errors = [] then .request error else .requestAggregate (s.errors ++ [error]))
  | .returnValue _ paramName _ value => (s.request.onReturnValue paramName value).error
  | .done data | .doneProc data => (noteSqlError data s.request).error
  | _ => s.request.error

/-- What a token that is not skipped adds to a request. -/
structure Takes (token : Token) (s s' : RequestState) (events : List RequestEvent) : Prop where
  emitted : events.flatMap emittedRows = tokenRows token
  rows : s'.request.rows = s.request.rows ++ tokenRows token
  rst : events.flatMap passedRst ++ s'.request.rst = s.request.rst ++ tokenRows token
  rowCount : s'.request.rowCount = addCount s.request.rowCount (tokenCount token)
  errors : s'.errors = s.errors ++ tokenErrors token
  error : s'.request.error = nextError s token
  prepared : s'.request.prepared = s.request.prepared

theorem complete_canceled {token : Token} {s : RequestState}
    (hcanceled : s.request.canceled = true) :
    (if skipped s token then s else complete options id token s) = s := by
  split
  · rfl
  · next hskipped =>
    cases token with
    | errorMessage data => rw [complete, onErrorMessage, if_pos hcanceled]
    | infoMessage data | envChange change => rfl
    | _ => exact absurd hcanceled hskipped

/-- A canceled request stays as it is. -/
theorem respond_canceled {x x' : RequestState × List RequestEvent} {step : ResponseStep}
    (hcanceled : x.1.request.canceled = true) (h : respond options id x step = some x') :
    x' = x := by
  obtain ⟨s, events⟩ := x
  have hcancel : cancel s = s := by rw [cancel, ← hcanceled]
  cases step with
  | cancel =>
    cases h
    rw [hcancel]
  | token token cancels =>
    obtain ⟨⟨s₁, event⟩, hannounce, h⟩ := Option.bind_eq_some_iff.1 h
    obtain ⟨rfl, rfl⟩ := announce_canceled _ hcanceled hannounce
    have hkept : (if cancels then cancel s₁ else s₁) = s₁ := by rw [hcancel, ite_self]
    dsimp only at h
    rw [hkept, complete_canceled hcanceled] at h
    cases h
    exact congrArg _ (List.append_nil events)

theorem skipped_eq_false {s : RequestState} (hcanceled : s.request.canceled = false)
    (token : Token) : skipped s token = false := by
  cases token <;> first | rfl | exact hcanceled

theorem noteSqlError_same (data : DoneData) (request : Request) :
    (noteSqlError data request).rows = request.rows ∧
      (noteSqlError data request).rst = request.rst ∧
        (noteSqlError data request).rowCount = request.rowCount ∧
          (noteSqlError data request).prepared = request.prepared := by
  rw [noteSqlError]
  split <;> exact ⟨rfl, rfl, rfl, rfl⟩

theorem onReturnValue_same (request : Request) (name : JsString) (value : Value) :
    (request.onReturnValue name value).rows = request.rows ∧
      (request.onReturnValue name value).rst = request.rst ∧
        (request.onReturnValue name value).rowCount = request.rowCount ∧
          (request.onReturnValue name value).prepared = request.prepared := by
  rw [Request.onReturnValue]
  split_ifs <;> exact ⟨rfl, rfl, rfl, rfl⟩

/-- A token of a request that is not canceled, handled to its end. -/
theorem announce_takes (hdone : options.rowCollectionOnDone = true)
    (hcompletion : options.rowCollectionOnRequestCompletion = true) (hid : id.isRequest = true)
    {s s' : RequestState} {token : Token} {event : Option RequestEvent}
    (hcanceled : s.request.canceled = false) (h : announce options token s = some (s', event)) :
    Takes token s (complete options id token s') event.toList := by
  unfold announce at h
  rw [skipped_eq_false hcanceled, if_neg Bool.false_ne_true] at h
  cases token with
  | row columns | nbcRow columns =>
    cases h
    constructor <;> simp [complete, collect, hdone, hcompletion, tokenRows, tokenErrors, tokenCount,
      tokenDone, nextError, emittedRows, passedRst]
  | done data | doneProc data =>
    cases h
    obtain ⟨hrows, hrst, hcount, hprepared⟩ := noteSqlError_same data s.request
    constructor <;> simp [complete, count, hdone, tokenRows, tokenErrors, tokenCount, tokenDone,
      nextError, emittedRows, passedRst, hrows, hrst, hcount, hprepared]
  | doneInProc data =>
    cases h
    constructor <;> simp [complete, count, hdone, tokenRows, tokenErrors, tokenCount, tokenDone,
      nextError, emittedRows, passedRst]
  | returnValue ordinal name metadata value =>
    cases h
    obtain ⟨hrows, hrst, hcount, hprepared⟩ := onReturnValue_same s.request name value
    constructor <;> simp [complete, tokenRows, tokenErrors, tokenCount, tokenDone, nextError,
      emittedRows, passedRst, hrows, hrst, hcount, hprepared]
  | errorMessage data =>
    cases h
    rw [complete, onErrorMessage, if_neg (by rw [hcanceled]; exact Bool.false_ne_true)]
    cases herrors : s.errors <;>
      constructor <;> simp [tokenRows, tokenErrors, tokenCount, tokenDone, nextError, hid, herrors]
  | envChange change =>
    cases change <;> cases h <;> constructor <;>
      simp [complete, tokenRows, tokenErrors, tokenCount, tokenDone, nextError]
  | sspi ntlmpacket buffer | fedAuthInfo spn stsurl | featureExtAck fedAuth utf8Support
  | loginAck ack => cases h
  | _ =>
    cases h
    constructor <;> simp [complete, tokenRows, tokenErrors, tokenCount, tokenDone, nextError,
      emittedRows, passedRst]

/-- The request is canceled by a listener before the rest of the handler runs. -/
theorem complete_cancel {token : Token} (h : isError token = false) (s : RequestState) :
    complete options id token (cancel s) = cancel (complete options id token s) := by
  cases token <;> first | rfl | cases h

theorem Takes.cancel {token : Token} {s s' : RequestState} {events : List RequestEvent}
    (h : Takes token s s' events) : Takes token s (cancel s') events :=
  { h with }

theorem canceled_complete (token : Token) (s : RequestState) :
    (complete options id token s).request.canceled = s.request.canceled :=
  (sameListeners_complete options id token s).canceled

/-- A token of a request that is not canceled; a listener may cancel it, unless of an `ERROR`. -/
theorem respond_token (hdone : options.rowCollectionOnDone = true)
    (hcompletion : options.rowCollectionOnRequestCompletion = true) (hid : id.isRequest = true)
    {x x' : RequestState × List RequestEvent} {token : Token} {cancels : Bool}
    (hcanceled : x.1.request.canceled = false) (hhandled : cancels = false ∨ isError token = false)
    (h : respond options id x (.token token cancels) = some x') :
    ∃ more, x'.2 = x.2 ++ more ∧ Takes token x.1 x'.1 more ∧
      x'.1.request.canceled = cancels := by
  obtain ⟨⟨s₁, event⟩, hannounce, h⟩ := Option.bind_eq_some_iff.1 h
  cases h
  refine ⟨event.toList, rfl, ?_⟩
  have htakes := announce_takes hdone hcompletion hid hcanceled hannounce
  have hsame := (sameListeners_announce options hannounce).canceled
  dsimp only
  rw [skipped_eq_false hcanceled, if_neg Bool.false_ne_true]
  cases cancels with
  | false =>
    refine ⟨htakes, ?_⟩
    rw [if_neg Bool.false_ne_true, canceled_complete, hsame, hcanceled]
  | true =>
    rw [if_pos rfl, complete_cancel (hhandled.resolve_left (by decide))]
    exact ⟨htakes.cancel, rfl⟩

/-- A listener of `'errorMessage'` cancels the request: the error is not noted. -/
theorem respond_errorMessage {x x' : RequestState × List RequestEvent} {data : MessageData}
    (h : respond options id x (.token (.errorMessage data) true) = some x') :
    x' = (cancel x.1, x.2) := by
  cases h
  exact congrArg _ (List.append_nil _)

/-! ### A response -/

theorem beforeCancel_concat (steps : List ResponseStep) (step : ResponseStep) :
    beforeCancel (steps ++ [step]) = beforeCancel steps ++
      if steps.any ResponseStep.cancels then [] else beforeCancel [step] := by
  induction steps with
  | nil => rfl
  | cons first steps ih =>
    cases first with
    | cancel => rfl
    | token token cancels =>
      cases cancels with
      | true => cases token <;> rfl
      | false => exact congrArg (token :: ·) ih

/-- The errors of a fresh request, and the listener's error where it stays. -/
structure Notes (tokens : List Token) (s : RequestState) : Prop where
  errors : s.errors = tokens.flatMap tokenErrors
  error : s.request.prepared = 0 ∨ Covered tokens → s.request.error = errorOf tokens
  unexpected : ¬ (s.request.prepared = 0 ∨ Covered tokens) → ∃ name,
    s.request.error = some (.request (.new (JsString.ofString
      "Tedious > Unexpected output parameter " ++ name ++ JsString.ofString " from sp_prepare")
        none))

theorem covered_concat (tokens : List Token) (token : Token) :
    Covered (tokens ++ [token]) ↔
      isError token = true ∨ isUnexpected token = false ∧ Covered tokens := by
  constructor
  · intro h
    by_cases herror : isError token = true
    · exact .inl herror
    · refine .inr ⟨?_, ?_⟩
      · by_contra hunexpected
        obtain ⟨error, hmem, -⟩ := h tokens token [] rfl (Bool.eq_true_of_not_eq_false hunexpected)
        cases hmem
      · rintro before token' after rfl hunexpected
        obtain ⟨error, hmem, hiserror⟩ :=
          h before token' (after ++ [token]) (List.append_assoc ..) hunexpected
        rcases List.mem_append.1 hmem with hmem | hmem
        · exact ⟨error, hmem, hiserror⟩
        · exact absurd (List.mem_singleton.1 hmem ▸ hiserror) herror
  · intro h before token' after heq hunexpected
    rcases List.eq_nil_or_concat after with rfl | ⟨after, last, rfl⟩
    · obtain ⟨rfl, htoken⟩ := List.append_inj' heq rfl
      obtain rfl := List.head_eq_of_cons_eq htoken
      rcases h with herror | ⟨hexpected, -⟩
      · cases token <;> cases herror
        cases hunexpected
      · exact absurd (hunexpected.symm.trans hexpected) (by decide)
    · rw [List.concat_eq_append, ← List.cons_append, ← List.append_assoc] at heq
      rw [List.concat_eq_append]
      obtain ⟨rfl, hlast⟩ := List.append_inj' heq rfl
      obtain rfl := List.head_eq_of_cons_eq hlast
      rcases h with herror | ⟨-, hcovered⟩
      · exact ⟨token, List.mem_append_right _ (List.mem_singleton_self _), herror⟩
      · obtain ⟨error, hmem, herror⟩ := hcovered before token' after rfl hunexpected
        exact ⟨error, List.mem_append_left _ hmem, herror⟩

theorem errorOf_concat {tokens : List Token} {token : Token} (h : isError token = false) :
    errorOf (tokens ++ [token]) =
      if tokenFails token = true ∧ errorOf tokens = none then some unknownError
      else errorOf tokens := by
  have hnone : tokenErrors token = [] := by cases token <;> first | rfl | cases h
  rw [errorOf, errorOf, List.flatMap_append, List.flatMap_singleton, hnone, List.append_nil,
    List.any_append, List.any_cons, List.any_nil, Bool.or_false]
  rcases tokens.flatMap tokenErrors with _ | ⟨error, _ | ⟨error', errors⟩⟩
  · cases tokens.any tokenFails <;> cases tokenFails token <;> simp
  · simp
  · simp

theorem errorOf_concat_error (tokens : List Token) (data : MessageData) :
    errorOf (tokens ++ [.errorMessage data]) =
      some (if tokens.flatMap tokenErrors = [] then
        .request { message := data.message, code := some "EREQUEST", data := some data }
      else .requestAggregate (tokens.flatMap tokenErrors ++
        [{ message := data.message, code := some "EREQUEST", data := some data }])) := by
  rw [errorOf, List.flatMap_append, List.flatMap_singleton]
  rcases tokens.flatMap tokenErrors with _ | ⟨error, _ | ⟨error', errors⟩⟩ <;> simp [tokenErrors]

/-- The error of the request changes where it fails without one. -/
theorem nextError_expected {token : Token} {s : RequestState} (herror : isError token = false)
    (hexpected : s.request.prepared = 0 ∨ isUnexpected token = false) :
    nextError s token =
      if tokenFails token = true ∧ s.request.error = none then some unknownError
      else s.request.error := by
  cases token with
  | errorMessage data => cases herror
  | done data | doneProc data =>
    rw [nextError, noteSqlError, tokenFails]
    cases data.sqlError <;> cases herror : s.request.error <;> simp [herror, unknownError]
  | returnValue ordinal name metadata value =>
    have hfails : ¬ (tokenFails (.returnValue ordinal name metadata value) = true ∧
        s.request.error = none) := fun h => Bool.false_ne_true h.1
    rw [if_neg hfails, nextError, Request.onReturnValue]
    split_ifs with hprepared hname
    · rfl
    · rfl
    · simp [isUnexpected, hname, hprepared] at hexpected
  | _ => rfl

/-- The listener of `prepare` notes an output parameter that it does not expect. -/
theorem nextError_unexpected {token : Token} {s : RequestState} (hprepared : s.request.prepared ≠ 0)
    (hunexpected : isUnexpected token = true) : ∃ name,
    nextError s token = some (.request (.new (JsString.ofString
      "Tedious > Unexpected output parameter " ++ name ++ JsString.ofString " from sp_prepare")
        none)) := by
  cases token with
  | returnValue ordinal name metadata value =>
    refine ⟨name, ?_⟩
    rw [nextError, Request.onReturnValue, if_neg hprepared, if_neg (of_decide_eq_true hunexpected)]
  | _ => cases hunexpected

theorem Notes.takes {tokens : List Token} {token : Token} {s s' : RequestState}
    {events : List RequestEvent} (h : Notes tokens s) (htakes : Takes token s s' events) :
    Notes (tokens ++ [token]) s' := by
  have herrors : s'.errors = (tokens ++ [token]).flatMap tokenErrors := by
    rw [htakes.errors, h.errors, List.flatMap_append, List.flatMap_singleton]
  by_cases herror : isError token = true
  · -- the errors so far take the place of any other
    have hcovered : Covered (tokens ++ [token]) := (covered_concat ..).2 (.inl herror)
    refine ⟨herrors, fun _ => ?_, fun hnot => absurd (.inr hcovered) hnot⟩
    cases token with
    | errorMessage data => rw [htakes.error, nextError, h.errors, errorOf_concat_error]
    | _ => cases herror
  · replace herror := Bool.eq_false_of_not_eq_true herror
    by_cases hexpected : s.request.prepared = 0 ∨ isUnexpected token = false
    · have hiff : s.request.prepared = 0 ∨ Covered (tokens ++ [token]) ↔
          s.request.prepared = 0 ∨ Covered tokens := by
        rw [covered_concat, herror]
        grind
      refine ⟨herrors, ?_, ?_⟩
      · intro hcovered
        rw [htakes.prepared, hiff] at hcovered
        rw [htakes.error, nextError_expected herror hexpected, errorOf_concat herror,
          h.error hcovered]
      · intro hnot
        rw [htakes.prepared, hiff] at hnot
        obtain ⟨name, hname⟩ := h.unexpected hnot
        refine ⟨name, ?_⟩
        rw [htakes.error, nextError_expected herror hexpected, if_neg (by simp [hname]), hname]
    · obtain ⟨hprepared, hunexpected⟩ := not_or.1 hexpected
      replace hunexpected := Bool.eq_true_of_not_eq_false hunexpected
      have hnot : ¬ (s'.request.prepared = 0 ∨ Covered (tokens ++ [token])) := by
        rw [htakes.prepared, covered_concat, herror, hunexpected]
        simp [hprepared]
      refine ⟨herrors, fun hcovered => absurd hcovered hnot, fun _ => ?_⟩
      rw [htakes.error]
      exact nextError_unexpected hprepared hunexpected

/-- What is known of a request that has collected some tokens. -/
structure Gathered (tokens : List Token) (x : RequestState × List RequestEvent)
    (prepared : Nat) : Prop where
  prepared : x.1.request.prepared = prepared
  emitted : x.2.flatMap emittedRows = tokens.flatMap tokenRows
  rows : x.1.request.rows = tokens.flatMap tokenRows
  rst : x.2.flatMap passedRst ++ x.1.request.rst = tokens.flatMap tokenRows
  rowCount : rowCountOf tokens ≤ 2 ^ 53 → x.1.request.rowCount = rowCountOf tokens
  notes : Notes tokens x.1

theorem Gathered.fresh {s : RequestState} (h : Fresh s) :
    Gathered [] (s, []) s.request.prepared where
  prepared := rfl
  emitted := rfl
  rows := h.rows
  rst := h.rst
  rowCount _ := h.rowCount
  notes := by
    have hcovered : Covered [] := by
      intro before token after heq
      simp at heq
    exact ⟨h.errors, fun _ => h.error, fun hnot => absurd (.inr hcovered) hnot⟩

variable {tokens : List Token} {x x' : RequestState × List RequestEvent} {prepared : Nat}

theorem Gathered.cancel (h : Gathered tokens x prepared) :
    Gathered tokens (cancel x.1, x.2) prepared :=
  { h with notes := { h.notes with } }

theorem rowCountOf_concat (tokens : List Token) (token : Token) :
    rowCountOf (tokens ++ [token]) = rowCountOf tokens + (tokenCount token).getD 0 := by
  rw [rowCountOf, rowCountOf, List.map_append, List.sum_append, List.map_singleton,
    List.sum_singleton]

/-- Up to `2 ^ 53` counts are added exactly. -/
theorem addCount_of_le {n : Nat} {count : Option Nat} (h : n + count.getD 0 ≤ 2 ^ 53) :
    addCount n count = n + count.getD 0 := by
  cases count with
  | none => rfl
  | some added => exact toNumber_of_le h

example : addCount (2 ^ 53) (some 1) = 2 ^ 53 := by decide

/-- A token is added to what was collected so far. -/
theorem Gathered.takes {token : Token} {more : List RequestEvent} (h : Gathered tokens x prepared)
    (hevents : x'.2 = x.2 ++ more) (htakes : Takes token x.1 x'.1 more) :
    Gathered (tokens ++ [token]) x' prepared := by
  have hrows : (tokens ++ [token]).flatMap tokenRows =
      tokens.flatMap tokenRows ++ tokenRows token := by
    rw [List.flatMap_append, List.flatMap_singleton]
  constructor
  · rw [htakes.prepared, h.prepared]
  · rw [hrows, hevents, List.flatMap_append, h.emitted, htakes.emitted]
  · rw [hrows, htakes.rows, h.rows]
  · rw [hrows, hevents, List.flatMap_append, List.append_assoc, htakes.rst, ← List.append_assoc,
      h.rst]
  · intro hle
    rw [rowCountOf_concat] at hle ⊢
    rw [htakes.rowCount, h.rowCount (by omega), addCount_of_le hle]
  · exact h.notes.takes htakes

/-- **The step lemma**: a step is folded in, unless the request is canceled. -/
theorem Gathered.respond (hdone : options.rowCollectionOnDone = true)
    (hcompletion : options.rowCollectionOnRequestCompletion = true) (hid : id.isRequest = true)
    {steps : List ResponseStep} {step : ResponseStep}
    (hcanceled : x.1.request.canceled = steps.any ResponseStep.cancels)
    (h : Gathered (beforeCancel steps) x prepared) (hstep : respond options id x step = some x') :
    x'.1.request.canceled = (steps ++ [step]).any ResponseStep.cancels ∧
      Gathered (beforeCancel (steps ++ [step])) x' prepared := by
  rw [beforeCancel_concat, List.any_append, ← hcanceled]
  cases hx : x.1.request.canceled with
  | true =>
    obtain rfl := respond_canceled hx hstep
    rw [hx, if_pos rfl, List.append_nil]
    exact ⟨rfl, h⟩
  | false =>
    rw [if_neg Bool.false_ne_true]
    cases step with
    | cancel =>
      cases hstep
      rw [beforeCancel, List.append_nil]
      exact ⟨rfl, h.cancel⟩
    | token token cancels =>
      by_cases hhandled : cancels = false ∨ isError token = false
      · obtain ⟨more, hevents, htakes, hcancels⟩ :=
          respond_token hdone hcompletion hid hx hhandled hstep
        have hbefore : beforeCancel [.token token cancels] = [token] := by
          cases cancels with
          | false => rfl
          | true => cases token <;> first | rfl | cases hhandled <;> contradiction
        rw [hbefore, hcancels]
        exact ⟨(Bool.or_false _).symm, h.takes hevents htakes⟩
      · obtain ⟨hcancels, herror⟩ := not_or.1 hhandled
        obtain rfl := Bool.eq_true_of_not_eq_false hcancels
        cases token with
        | errorMessage data =>
          obtain rfl := respond_errorMessage hstep
          rw [beforeCancel, List.append_nil]
          exact ⟨rfl, h.cancel⟩
        | _ => exact absurd rfl herror

/-- **The run lemma**: what a response has made of a fresh request. -/
theorem gathered_respondAll (hdone : options.rowCollectionOnDone = true)
    (hcompletion : options.rowCollectionOnRequestCompletion = true) (hid : id.isRequest = true)
    {s : RequestState} (hs : Fresh s) (steps : List ResponseStep)
    (h : respondAll options id s steps = some x) :
    x.1.request.canceled = steps.any ResponseStep.cancels ∧
      Gathered (beforeCancel steps) x s.request.prepared := by
  induction steps using List.reverseRecOn generalizing x with
  | nil =>
    cases h
    exact ⟨hs.canceled, .fresh hs⟩
  | append_singleton steps step ih =>
    rw [respondAll, List.foldlM_append] at h
    obtain ⟨x₁, h₁, h⟩ := Option.bind_eq_some_iff.1 h
    rw [List.foldlM_cons] at h
    obtain ⟨x₂, h₂, h⟩ := Option.bind_eq_some_iff.1 h
    cases h
    obtain ⟨hcanceled, hgathered⟩ := ih h₁
    exact hgathered.respond hdone hcompletion hid hcanceled h₂

theorem foldlM_canceled {steps : List ResponseStep} (hcanceled : x.1.request.canceled = true)
    (h : steps.foldlM (respond options id) x = some x') : x' = x := by
  induction steps with
  | nil =>
    cases h
    rfl
  | cons step steps ih =>
    rw [List.foldlM_cons] at h
    obtain ⟨x₁, h₁, hrest⟩ := Option.bind_eq_some_iff.1 h
    rw [respond_canceled hcanceled h₁] at hrest
    exact ih hrest

/-- After a cancel nothing changes any more. -/
theorem respondAll_canceled (hdone : options.rowCollectionOnDone = true)
    (hcompletion : options.rowCollectionOnRequestCompletion = true) (hid : id.isRequest = true)
    {s : RequestState} (hs : Fresh s) {steps more : List ResponseStep}
    (hcancels : steps.any ResponseStep.cancels = true)
    (h : respondAll options id s (steps ++ more) = some x) :
    respondAll options id s steps = some x := by
  rw [respondAll, List.foldlM_append] at h
  obtain ⟨x₁, h₁, h⟩ := Option.bind_eq_some_iff.1 h
  have hcanceled := (gathered_respondAll hdone hcompletion hid hs steps h₁).1
  rw [foldlM_canceled (hcanceled.trans hcancels) h]
  exact h₁

/-- The tokens do not stand for an error of the listener of `prepare`. -/
theorem errorOf_ne_unexpected (tokens : List Token) (message : JsString) :
    errorOf tokens ≠ some (.request (.new message none)) := by
  have hcode : ∀ error ∈ tokens.flatMap tokenErrors, error.code = some "EREQUEST" := by
    intro error hmem
    obtain ⟨token, -, hmem⟩ := List.mem_flatMap.1 hmem
    cases token <;> cases hmem
    · rfl
    · contradiction
  rw [errorOf]
  split
  · split <;> simp [unknownError, RequestError.new]
  · next error herrors =>
    have := hcode error (herrors ▸ List.mem_singleton_self error)
    rintro ⟨⟩
    cases this
  · simp

end RequestTokenHandler

/-! ### What a request collects -/

open RequestTokenHandler in
/-- A response is folded into the request: the tokens before the cancel, and nothing behind it. -/
structure Folds (options : HandlerOptions) (id : RequestId) (s : RequestState)
    (steps : List ResponseStep) (x : RequestState × List RequestEvent) : Prop where
  collected : Collected (beforeCancel steps) x.1 x.2
  canceled : ∀ before after, steps = before ++ after → before.any ResponseStep.cancels = true →
    respondAll options id s before = some x

open RequestTokenHandler in
/-- A response to a request with a listener of `prepare` is folded into it as long as an `ERROR`
token follows every output parameter that the listener does not expect. The row counts must not
add up to more than a Number can count. -/
theorem collected_iff {options : HandlerOptions} {id : RequestId} {s : RequestState}
    {steps : List ResponseStep} {x : RequestState × List RequestEvent}
    (hdone : options.rowCollectionOnDone = true)
    (hcompletion : options.rowCollectionOnRequestCompletion = true) (hid : id.isRequest = true)
    (hs : Fresh s) (h : respondAll options id s steps = some x)
    (hcount : rowCountOf (beforeCancel steps) ≤ 2 ^ 53) :
    Folds options id s steps x ↔ s.request.prepared = 0 ∨ Covered (beforeCancel steps) := by
  obtain ⟨-, hgathered⟩ := gathered_respondAll hdone hcompletion hid hs steps h
  have hnotes := hgathered.notes
  constructor
  · intro hfolds
    by_contra hnot
    rw [← hgathered.prepared] at hnot
    obtain ⟨name, hname⟩ := hnotes.unexpected hnot
    exact errorOf_ne_unexpected _ _ (hfolds.collected.error.symm.trans hname)
  · intro hcovered
    rw [← hgathered.prepared] at hcovered
    refine ⟨{ hgathered with
      error := hnotes.error hcovered, rowCount := hgathered.rowCount hcount }, ?_⟩
    rintro before after rfl hcancels
    exact respondAll_canceled hdone hcompletion hid hs hcancels h

/-- The options that keep the rows. -/
def collectingOptions : HandlerOptions where
  authentication := .default
  maxRetriesOnTransientErrors := .finite 3
  rowCollectionOnRequestCompletion := true
  rowCollectionOnDone := true

/-- The request has been prepared so many times. -/
def freshState (prepared : Nat) : RequestState where
  errors := []
  request := { Request.new with prepared }
  procReturnStatusValue := none

theorem fresh_freshState (prepared : Nat) : RequestTokenHandler.Fresh (freshState prepared) :=
  ⟨rfl, rfl, rfl, rfl, rfl, rfl⟩

def outputToken : Token :=
  .returnValue 0 (JsString.ofString "out") { userType := 0, flags := 0, type := .Int } .null

/-- An output parameter, a row, and the end of a statement whose listener cancels the request. -/
def sampleSteps : List ResponseStep :=
  [.token outputToken false, .token (.row (.list [])) false, .token (.done
    { more := true, sqlError := true, attention := false, serverError := false
      rowCount := some 1, curCmd := 0 }) true]

theorem collected_sample : ∃ x,
    RequestTokenHandler.respondAll collectingOptions (.request 0) (freshState 0) sampleSteps =
      some x ∧ Folds collectingOptions (.request 0) (freshState 0) sampleSteps x :=
  ⟨_, rfl, (collected_iff rfl rfl rfl (fresh_freshState 0) rfl (by decide)).2 (.inl rfl)⟩

/-- An output parameter of a request that has been prepared becomes its error. -/
theorem not_collected : ¬ ∀ (options : HandlerOptions) (id : RequestId) (s : RequestState)
    (steps : List ResponseStep) (x : RequestState × List RequestEvent),
    options.rowCollectionOnDone = true → options.rowCollectionOnRequestCompletion = true →
    id.isRequest = true → RequestTokenHandler.Fresh s →
    RequestTokenHandler.respondAll options id s steps = some x → Folds options id s steps x := by
  intro h
  have hfolds := h collectingOptions (.request 0) (freshState 1) [.token outputToken false] _
    rfl rfl rfl (fresh_freshState 1) rfl
  exact absurd hfolds.collected.error (by decide)

end Tedious
