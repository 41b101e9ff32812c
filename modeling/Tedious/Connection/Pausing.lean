import Tedious.Lib.Reentrant
import Tedious.Token.Collecting

/-!
# Tedious.Connection.Pausing

Pausing a request (`pause`, `resume` and `cancel` in `request.ts`; `makeRequest` and
`STATE.SENT_CLIENT_REQUEST` in `connection.ts`; `token-stream-parser.ts`). A request is executed
any number of times, one execution after the other on a connection, or on several connections. Each
response has a parser, which listens to the request's `'pause'` for as long as it is read, and to
its `'resume'` once, anew at each pause.

The listeners of the user run among the connection's own, and may call the request again.
`pausing_faithful` says that between them the parser is paused if and only if the request is, in
every run in which no listener undoes its own event (`Timely`).
-/

namespace Tedious

open Chunked Reentrant

namespace Pausing

/-! ### The request and its responses -/

/-- Where the connection is with an execution. -/
inductive Stage
  /-- `STATE.SENT_CLIENT_REQUEST`, in `readMessage`. -/
  | waiting
  /-- `STATE.SENT_CLIENT_REQUEST`, with a token parser. -/
  | reading
  /-- `STATE.SENT_ATTENTION`. -/
  | attention
  /-- The request has been answered. -/
  | done
  /-- `STATE.FINAL`; the parser still delivers what it has. -/
  | failed
  deriving DecidableEq, Repr

/-- `this.request` is the request. -/
def Stage.isServing : Stage → Bool
  | waiting | reading | attention => true
  | done | failed => false

/-- A response, and its parser: whether it flows, and the tokens that it has not delivered. `sent`
are all of them. -/
structure Response where
  stage : Stage
  finished : Bool
  flowing : Bool
  tokens : List Token
  sent : List Token

/-- What a number without an execution stands for. -/
def Response.none : Response where
  stage := .done
  finished := true
  flowing := false
  tokens := []
  sent := []

/-- The request, as its executions listen to it. A `'resume'` listener is added with `once`, under
the number `armed`; `fired` are the ones that have run. -/
structure State where
  paused : Bool
  canceled : Bool
  pauseListeners : List Nat
  resumeListeners : List (Nat × Nat)
  armed : Nat
  fired : List (Nat × Nat)
  cancelListeners : List CancelListener
  executions : Nat
  responses : Nat → Response
  /-- The rows that have been emitted, with their execution. -/
  rows : List (Nat × RowColumns)

/-- `new Request(...)`. -/
def State.new : State where
  paused := false
  canceled := false
  pauseListeners := []
  resumeListeners := []
  armed := 0
  fired := []
  cancelListeners := []
  executions := 0
  responses := fun _ => .none
  rows := []

/-- What is left to do after a listener, or before one. -/
inductive Instr
  /-- Listeners of the user run. -/
  | callback
  /-- `onPause` of an execution. -/
  | onPause (n : Nat)
  /-- `this.paused = true`. -/
  | setPaused
  /-- `onResume` of an execution, under the number of its `once`. -/
  | onResume (w n : Nat)
  | cancelListener (listener : CancelListener)
  /-- `onCancel` after it has resumed the request. -/
  | leave (n : Nat)
  deriving DecidableEq, Repr

namespace State

def updateResponse (s : State) (n : Nat) (f : Response → Response) : State :=
  { s with responses := fun n' => if n' = n then f (s.responses n) else s.responses n' }

/-- `onPause`: it listens to `'resume'` if the connection still serves the request. -/
def onPause (s : State) (n : Nat) : State :=
  let s := s.updateResponse n fun response => { response with flowing := false }
  if (s.responses n).stage.isServing then
    { s with resumeListeners := s.resumeListeners ++ [(s.armed, n)], armed := s.armed + 1 }
  else s

/-- `onResume`, called by the wrapper that `once` puts around it. -/
def onResume (s : State) (w n : Nat) : State :=
  if (w, n) ∈ s.fired then s
  else
    { s with
      fired := (w, n) :: s.fired
      resumeListeners := s.resumeListeners.erase (w, n) }.updateResponse n fun response =>
        { response with flowing := true }

/-- `request.pause()`. -/
def pause (s : State) : State × List Instr :=
  if s.paused then (s, [])
  else (s, s.pauseListeners.flatMap (fun n => [.callback, .onPause n]) ++ [.callback, .setPaused])

/-- `request.resume()`. -/
def resume (s : State) : State × List Instr :=
  if !s.paused then (s, [])
  else
    ({ s with paused := false },
      s.resumeListeners.flatMap (fun l => [.callback, .onResume l.1 l.2]) ++ [.callback])

/-- `request.cancel()`. -/
def cancel (s : State) : State × List Instr :=
  if s.canceled then (s, [])
  else
    ({ s with canceled := true, cancelListeners := [] },
      s.cancelListeners.flatMap (fun l => [.callback, .cancelListener l]) ++ [.callback])

/-- `removeListener('resume', onResume)`: the one that was added last. -/
def removeResumeListener (s : State) (n : Nat) : List (Nat × Nat) :=
  (s.resumeListeners.reverse.eraseP fun l => l.2 = n).reverse

/-- The listeners for `'pause'` and `'resume'` are removed. -/
def detach (s : State) (n : Nat) (stage : Stage) : State :=
  { s with
    pauseListeners := s.pauseListeners.erase n
    resumeListeners := s.removeResumeListener n }.updateResponse n fun response =>
      { response with stage }

/-- The listeners for `'cancel'`. `onCancel` of `makeRequest` resumes a request that is paused, and
so does the one of `STATE.SENT_CLIENT_REQUEST`, which then goes on to `STATE.SENT_ATTENTION`. -/
def onCancel (s : State) : CancelListener → State × List Instr
  | .unsent _ => s.resume
  | .afterRequestSent => (s, [])
  | .response n =>
    if (s.responses n).stage = .reading then
      let r := s.resume
      (r.1, r.2 ++ [.leave n])
    else (s, [])

/-- `makeRequest`; a request that is canceled is not executed. -/
def makeRequest (s : State) : State :=
  if s.canceled then s
  else
    let n := s.executions
    { s with
      executions := n + 1
      cancelListeners := s.cancelListeners ++ [CancelListener.unsent n] }.updateResponse n fun _ =>
        { stage := .waiting
          finished := false
          flowing := false
          tokens := []
          sent := [] }

/-- `message.once('finish')` of `makeRequest`. -/
def onFinish (s : State) (n : Nat) : State :=
  { s with
    cancelListeners := (s.cancelListeners.reverse.erase (.unsent n)).reverse ++
      [CancelListener.afterRequestSent] }.updateResponse n fun response =>
        { response with finished := true }

/-- `STATE.SENT_CLIENT_REQUEST` when the response has begun: a parser for its tokens flows, and is
paused with the request. `cancelTimer` is the connection's. -/
def onMessage (s : State) (n : Nat) (tokens : List Token) (cancelTimer : Bool) : State :=
  if s.canceled && cancelTimer then
    s.updateResponse n fun response => { response with stage := .attention }
  else
    let s := { s with
      pauseListeners := s.pauseListeners ++ [n]
      cancelListeners := s.cancelListeners ++ [CancelListener.response n] }.updateResponse n
        fun response =>
          { response with stage := .reading, flowing := true, tokens, sent := tokens }
    if s.paused then s.onPause n else s

/-- The parser delivers a token; a request that is canceled does not notice. -/
def onToken (s : State) (n : Nat) : State × List Instr :=
  match (s.responses n).tokens with
  | [] => (s, [])
  | token :: tokens =>
    let s := s.updateResponse n fun response => { response with tokens }
    if s.canceled then (s, [])
    else
      ({ s with rows := s.rows ++ (RequestTokenHandler.tokenRows token).map fun row => (n, row) },
        [.callback])

/-- `onEndOfMessage`, with the callback of the request. -/
def onEndOfMessage (s : State) (n : Nat) : State × List Instr :=
  ({ s with
    cancelListeners := ((s.cancelListeners.reverse.erase .afterRequestSent).erase
      (.response n)).reverse }.detach n .done, [.callback])

/-- The connection is closed; the request is answered, and its listeners stay. -/
def onClose (s : State) (n : Nat) : State × List Instr :=
  (s.updateResponse n fun response => { response with stage := .failed }, [.callback])

end State

/-! ### The component -/

/-- What an instruction does. -/
def exec : Instr → State → State × List Instr
  | .callback, s => (s, [])
  | .onPause n, s => (s.onPause n, [])
  | .setPaused, s => ({ s with paused := true }, [])
  | .onResume w n, s => (s.onResume w n, [])
  | .cancelListener listener, s => s.onCancel listener
  | .leave n, s =>
      (if (s.responses n).stage = .reading then s.detach n .attention else s, [])

inductive Event
  | pause
  | resume
  | cancel
  | makeRequest
  | finish (n : Nat)
  /-- The response to an execution begins; its tokens will be these. -/
  | message (n : Nat) (tokens : List Token) (cancelTimer : Bool)
  | token (n : Nat)
  | endOfMessage (n : Nat)
  | close (n : Nat)

/-- What listeners may call: the request, `makeRequest`, and `close` of a connection. -/
def Event.isCall : Event → Bool
  | pause | resume | cancel | makeRequest | close _ => true
  | finish _ | message .. | token _ | endOfMessage _ => false

/-- Whether an event can happen. A parser that is paused delivers no token. -/
def enabled (s : State) : Event → Bool
  | .pause | .resume | .cancel | .makeRequest => true
  | .finish n => !(s.responses n).finished
  | .message n _ _ => (s.responses n).stage = .waiting
  | .token n => (s.responses n).flowing && !(s.responses n).tokens.isEmpty
  | .endOfMessage n => (s.responses n).stage = .reading && (s.responses n).tokens.isEmpty
  | .close n => (s.responses n).stage.isServing

/-- What an event does. -/
def handle (s : State) : Event → State × List Instr
  | .pause => s.pause
  | .resume => s.resume
  | .cancel => s.cancel
  | .makeRequest => (s.makeRequest, [])
  | .finish n => (s.onFinish n, [])
  | .message n tokens cancelTimer => (s.onMessage n tokens cancelTimer, [])
  | .token n => s.onToken n
  | .endOfMessage n => s.onEndOfMessage n
  | .close n => s.onClose n

/-- The request with its executions, as a component. -/
def component : Component State Instr Event where
  exec := exec
  start := fun event s => if enabled s event then some (handle s event) else none
  isCall := Event.isCall
  isCallback := fun i => i = .callback

/-! ### What must not happen -/

/-- A `'resume'` listener that has still to run, for a response that is read. -/
def Instr.resumes (s : State) : Instr → Bool
  | .onResume w n => (s.responses n).stage = .reading && (w, n) ∉ s.fired
  | _ => false

/-- The handlers that are under way when the request is called may undo the call: a `'resume'`
listener of a response comes after `pause`, or the rest of another `pause` comes after `resume`. -/
def Timely (s : State) (stack : List Instr) : Event → Prop
  | .pause => s.paused = true ∨ ∀ i ∈ stack, i.resumes s = false
  | .resume => s.paused = false ∨ .setPaused ∉ stack
  | _ => True

instance (s : State) (stack : List Instr) (event : Event) : Decidable (Timely s stack event) :=
  match event with
  | .pause => inferInstanceAs (Decidable (s.paused = true ∨ ∀ i ∈ stack, i.resumes s = false))
  | .resume => inferInstanceAs (Decidable (s.paused = false ∨ .setPaused ∉ stack))
  | .cancel | .makeRequest | .finish _ | .message .. | .token _ | .endOfMessage _ | .close _ =>
      isTrue trivial

/-- The runs of a new request in which every event meets `guard`. -/
abbrev RunsTo (guard : State → List Instr → Event → Prop) (moves : List (Move Event))
    (k : Config State Instr) : Prop :=
  component.Runs guard ⟨.new, []⟩ moves k

/-- Nothing but listeners of the user is under way. -/
def Quiet (stack : List Instr) : Prop := ∀ i ∈ stack, i = .callback

/-- The paused flag and the flow of a parser when the handlers under way have gone on, if nobody
calls the request in the meantime. -/
def outcome (n : Nat) : List Instr → Bool → Bool → List (Nat × Nat) → Bool × Bool
  | [], paused, flowing, _ => (paused, flowing)
  | .onPause m :: rest, paused, flowing, fired =>
      outcome n rest paused (if m = n then false else flowing) fired
  | .setPaused :: rest, _, flowing, fired => outcome n rest true flowing fired
  | .onResume w m :: rest, paused, flowing, fired =>
      if (w, m) ∈ fired then outcome n rest paused flowing fired
      else outcome n rest paused (if m = n then true else flowing) ((w, m) :: fired)
  | .callback :: rest, paused, flowing, fired | .cancelListener _ :: rest, paused, flowing, fired
  | .leave _ :: rest, paused, flowing, fired => outcome n rest paused flowing fired

/-- What is left of a `pause`: its `onPause`s come before its end. -/
def Ends : List Instr → Prop
  | [] => True
  | .onPause _ :: rest => .setPaused ∈ rest ∧ Ends rest
  | _ :: rest => Ends rest

/-- An instruction that a request has left that is not canceled. -/
def Instr.isPlain : Instr → Bool
  | .callback | .onPause _ | .setPaused | .onResume .. => true
  | .cancelListener _ | .leave _ => false

/-- The parser of every response listens to the request. -/
structure Listening (s : State) : Prop where
  listens : ∀ n, (s.responses n).stage = .reading → n ∈ s.pauseListeners
  resumes : ∀ n, (s.responses n).stage = .reading → (s.responses n).flowing = false →
    ∃ w, (w, n) ∈ s.resumeListeners ∧ (w, n) ∉ s.fired
  fired : ∀ l ∈ s.fired, l.1 < s.armed
  listening : ∀ l ∈ s.resumeListeners, l.1 < s.armed

/-- **The invariant** of a request that is not canceled. -/
structure InStep (s : State) (stack : List Instr) : Prop extends Listening s where
  plain : ∀ i ∈ stack, i.isPlain = true
  ends : Ends stack
  left : ∀ w n, .onResume w n ∈ stack → w < s.armed
  agrees : ∀ n, (s.responses n).stage = .reading →
    (outcome n stack s.paused (s.responses n).flowing s.fired).2 =
      !(outcome n stack s.paused (s.responses n).flowing s.fired).1

/-! ### What a listener changes -/

section Fields

variable (s : State) (w n m : Nat)

@[simp] theorem paused_onPause : (s.onPause n).paused = s.paused := by
  rw [State.onPause]
  split <;> rfl

@[simp] theorem canceled_onPause : (s.onPause n).canceled = s.canceled := by
  rw [State.onPause]
  split <;> rfl

@[simp] theorem pauseListeners_onPause : (s.onPause n).pauseListeners = s.pauseListeners := by
  rw [State.onPause]
  split <;> rfl

@[simp] theorem fired_onPause : (s.onPause n).fired = s.fired := by
  rw [State.onPause]
  split <;> rfl

@[simp] theorem rows_onPause : (s.onPause n).rows = s.rows := by
  rw [State.onPause]
  split <;> rfl

@[simp] theorem executions_onPause : (s.onPause n).executions = s.executions := by
  rw [State.onPause]
  split <;> rfl

theorem responses_onPause : (s.onPause n).responses m =
    { s.responses m with flowing := if n = m then false else (s.responses m).flowing } := by
  have hsame : (s.onPause n).responses = (s.updateResponse n fun response =>
      { response with flowing := false }).responses := by
    rw [State.onPause]
    split <;> rfl
  rw [hsame, State.updateResponse]
  dsimp only
  by_cases h : m = n
  · subst h
    rw [if_pos rfl, if_pos rfl]
  · rw [if_neg h, if_neg (Ne.symm h)]

theorem onPause_serving (h : (s.responses n).stage.isServing = true) :
    (s.onPause n).resumeListeners = s.resumeListeners ++ [(s.armed, n)] ∧
      (s.onPause n).armed = s.armed + 1 := by
  rw [State.onPause, if_pos]
  · exact ⟨rfl, rfl⟩
  · rw [State.updateResponse]
    dsimp only
    rwa [if_pos rfl]

theorem onPause_notServing (h : (s.responses n).stage.isServing = false) :
    (s.onPause n).resumeListeners = s.resumeListeners ∧ (s.onPause n).armed = s.armed := by
  rw [State.onPause, if_neg]
  · exact ⟨rfl, rfl⟩
  · rw [State.updateResponse]
    dsimp only
    rw [if_pos rfl, h]
    exact Bool.false_ne_true

theorem responses_onResume (h : (w, n) ∉ s.fired) : (s.onResume w n).responses m =
    { s.responses m with flowing := if n = m then true else (s.responses m).flowing } := by
  rw [State.onResume, if_neg h, State.updateResponse]
  dsimp only
  by_cases heq : m = n
  · subst heq
    rw [if_pos rfl, if_pos rfl]
  · rw [if_neg heq, if_neg (Ne.symm heq)]

end Fields

/-! ### The outcome of handlers -/

theorem outcome_quiet {stack : List Instr} (h : Quiet stack) (n : Nat) (paused flowing : Bool)
    (fired : List (Nat × Nat)) : outcome n stack paused flowing fired = (paused, flowing) := by
  induction stack with
  | nil => rfl
  | cons i rest ih =>
    rw [h i (.head _), outcome]
    exact ih fun i hi => h i (.tail _ hi)

/-- Nothing undoes a `pause`. -/
theorem outcome_paused {n : Nat} {stack : List Instr} {fired : List (Nat × Nat)}
    (h : ∀ w, .onResume w n ∈ stack → (w, n) ∈ fired) :
    outcome n stack true false fired = (true, false) := by
  induction stack generalizing fired with
  | nil => rfl
  | cons i rest ih =>
    have hrest : ∀ w, .onResume w n ∈ rest → (w, n) ∈ fired := fun w hw => h w (.tail _ hw)
    cases i with
    | onPause m =>
      rw [outcome, ite_self]
      exact ih hrest
    | onResume w m =>
      rw [outcome]
      split
      · exact ih hrest
      · next hnot =>
        have hne : m ≠ n := by
          rintro rfl
          exact hnot (h w (.head _))
        rw [if_neg hne]
        exact ih fun w' hw' => .tail _ (hrest w' hw')
    | callback | setPaused | cancelListener | leave =>
      rw [outcome]
      exact ih hrest

/-- Nothing undoes a `resume`. -/
theorem outcome_resumed {n : Nat} {stack : List Instr} {flowing : Bool} {fired : List (Nat × Nat)}
    (hpause : ∀ m, .onPause m ∉ stack) (hset : .setPaused ∉ stack)
    (hresume : flowing = true ∨ ∃ w, .onResume w n ∈ stack ∧ (w, n) ∉ fired) :
    outcome n stack false flowing fired = (false, true) := by
  induction stack generalizing flowing fired with
  | nil =>
    obtain rfl | ⟨w, hmem, -⟩ := hresume
    · rfl
    · cases hmem
  | cons i rest ih =>
    have hpause' : ∀ m, .onPause m ∉ rest := fun m hm => hpause m (.tail _ hm)
    have hset' : .setPaused ∉ rest := fun hm => hset (.tail _ hm)
    cases i with
    | onPause m => exact absurd (.head _) (hpause m)
    | setPaused => exact absurd (.head _) hset
    | onResume w m =>
      rw [outcome]
      split
      · next hfired =>
        refine ih hpause' hset' (hresume.imp_right ?_)
        rintro ⟨w', hmem, hnot⟩
        rcases List.mem_cons.1 hmem with heq | hmem
        · cases heq
          exact absurd hfired hnot
        · exact ⟨w', hmem, hnot⟩
      · by_cases hm : m = n
        · rw [if_pos hm]
          exact ih hpause' hset' (.inl rfl)
        · rw [if_neg hm]
          refine ih hpause' hset' (hresume.imp_right ?_)
          rintro ⟨w', hmem, hnot⟩
          rcases List.mem_cons.1 hmem with heq | hmem
          · cases heq
            exact absurd rfl hm
          · refine ⟨w', hmem, ?_⟩
            intro hcons
            rcases List.mem_cons.1 hcons with heq | hcons
            · cases heq
              exact hm rfl
            · exact hnot hcons
    | callback | cancelListener | leave =>
      rw [outcome]
      refine ih hpause' hset' (hresume.imp_right ?_)
      rintro ⟨w', hmem, hnot⟩
      rcases List.mem_cons.1 hmem with heq | hmem
      · cases heq
      · exact ⟨w', hmem, hnot⟩

/-! ### Instructions -/

theorem ends_of_cons {i : Instr} {rest : List Instr} (h : Ends (i :: rest)) : Ends rest := by
  cases i with
  | onPause m => exact h.2
  | _ => exact h

/-- Without the end of a `pause` there is no `onPause`, either. -/
theorem onPause_notMem {stack : List Instr} (h : Ends stack) (hset : .setPaused ∉ stack) (m : Nat) :
    .onPause m ∉ stack := by
  induction stack with
  | nil => exact List.not_mem_nil
  | cons i rest ih =>
    intro hmem
    have hset' : .setPaused ∉ rest := fun hm => hset (.tail _ hm)
    rcases List.mem_cons.1 hmem with rfl | hmem
    · exact hset' h.1
    · exact ih (ends_of_cons h) hset' hmem

variable {s : State} {rest stack : List Instr}

theorem isServing_of_reading {n : Nat} (h : (s.responses n).stage = .reading) :
    (s.responses n).stage.isServing = true := by
  rw [h]
  rfl

theorem le_armed_onPause (s : State) (n : Nat) : s.armed ≤ (s.onPause n).armed := by
  cases hserving : (s.responses n).stage.isServing with
  | true =>
    rw [(onPause_serving s n hserving).2]
    exact Nat.le_succ _
  | false => rw [(onPause_notServing s n hserving).2]

theorem Listening.onPause (h : Listening s) (n : Nat) : Listening (s.onPause n) := by
  refine ⟨?_, ?_, ?_, ?_⟩
  · intro m hm
    rw [responses_onPause] at hm
    rw [pauseListeners_onPause]
    exact h.listens m hm
  · intro m hm hflowing
    rw [responses_onPause] at hm hflowing
    rw [fired_onPause]
    by_cases hmn : n = m
    · subst hmn
      refine ⟨s.armed, ?_, fun hfired => absurd (h.fired _ hfired) (Nat.lt_irrefl _)⟩
      rw [(onPause_serving s n (isServing_of_reading hm)).1]
      exact List.mem_append_right _ (List.mem_singleton_self _)
    · dsimp only at hflowing
      rw [if_neg hmn] at hflowing
      obtain ⟨w, hw, hnot⟩ := h.resumes m hm hflowing
      refine ⟨w, ?_, hnot⟩
      cases hserving : (s.responses n).stage.isServing with
      | true =>
        rw [(onPause_serving s n hserving).1]
        exact List.mem_append_left _ hw
      | false => rwa [(onPause_notServing s n hserving).1]
  · intro l hl
    rw [fired_onPause] at hl
    exact Nat.lt_of_lt_of_le (h.fired l hl) (le_armed_onPause s n)
  · intro l hl
    cases hserving : (s.responses n).stage.isServing with
    | true =>
      rw [(onPause_serving s n hserving).1] at hl
      rw [(onPause_serving s n hserving).2]
      rcases List.mem_append.1 hl with hl | hl
      · exact Nat.lt_succ_of_lt (h.listening l hl)
      · rw [List.mem_singleton.1 hl]
        exact Nat.lt_succ_self _
    | false =>
      rw [(onPause_notServing s n hserving).1] at hl
      rw [(onPause_notServing s n hserving).2]
      exact h.listening l hl

theorem Listening.onResume (h : Listening s) {w n : Nat} (hw : w < s.armed)
    (hnot : (w, n) ∉ s.fired) : Listening (s.onResume w n) := by
  have hfields : (s.onResume w n).pauseListeners = s.pauseListeners ∧
      (s.onResume w n).resumeListeners = s.resumeListeners.erase (w, n) ∧
        (s.onResume w n).fired = (w, n) :: s.fired ∧ (s.onResume w n).armed = s.armed := by
    rw [State.onResume, if_neg hnot]
    exact ⟨rfl, rfl, rfl, rfl⟩
  obtain ⟨hpause, hresume, hfired, harmed⟩ := hfields
  refine ⟨?_, ?_, ?_, ?_⟩
  · intro m hm
    rw [responses_onResume _ _ _ _ hnot] at hm
    rw [hpause]
    exact h.listens m hm
  · intro m hm hflowing
    rw [responses_onResume _ _ _ _ hnot] at hm hflowing
    dsimp only at hflowing
    split at hflowing
    · cases hflowing
    · next hmn =>
      obtain ⟨w', hw', hnot'⟩ := h.resumes m hm hflowing
      have hne : (w', m) ≠ (w, n) := fun heq => hmn (congrArg Prod.snd heq).symm
      refine ⟨w', ?_, ?_⟩
      · rw [hresume]
        exact (List.mem_erase_of_ne hne).2 hw'
      · rw [hfired]
        exact fun hcons => (List.mem_cons.1 hcons).elim hne hnot'
  · intro l hl
    rw [hfired] at hl
    rw [harmed]
    rcases List.mem_cons.1 hl with rfl | hl
    · exact hw
    · exact h.fired l hl
  · intro l hl
    rw [hresume] at hl
    rw [harmed]
    exact h.listening l (List.mem_of_mem_erase hl)

/-- **The step lemma** for instructions. -/
theorem InStep.exec {i : Instr} (h : InStep s (i :: rest)) :
    InStep (exec i s).1 ((exec i s).2 ++ rest) := by
  have hplain : ∀ i ∈ rest, i.isPlain = true := fun i hi => h.plain i (.tail _ hi)
  have hends := ends_of_cons h.ends
  have hleft : ∀ w n, .onResume w n ∈ rest → w < s.armed := fun w n hw => h.left w n (.tail _ hw)
  cases i with
  | callback => exact { h with plain := hplain, ends := hends, left := hleft }
  | setPaused => exact { h with plain := hplain, ends := hends, left := hleft }
  | onPause n =>
    refine { h.toListening.onPause n with plain := hplain, ends := hends, left := ?_, agrees := ?_ }
    · intro w m hw
      exact Nat.lt_of_lt_of_le (hleft w m hw) (le_armed_onPause s n)
    · intro m hm
      rw [Pausing.exec, responses_onPause] at hm
      have hagrees := h.agrees m hm
      rw [outcome] at hagrees
      rw [Pausing.exec, responses_onPause, paused_onPause, fired_onPause]
      exact hagrees
  | onResume w n =>
    by_cases hfired : (w, n) ∈ s.fired
    · have hsame : s.onResume w n = s := by rw [State.onResume, if_pos hfired]
      rw [Pausing.exec, hsame]
      refine { h with plain := hplain, ends := hends, left := hleft, agrees := ?_ }
      intro m hm
      have hagrees := h.agrees m hm
      rw [outcome, if_pos hfired] at hagrees
      exact hagrees
    · have hpaused : (s.onResume w n).paused = s.paused ∧
          (s.onResume w n).fired = (w, n) :: s.fired ∧ (s.onResume w n).armed = s.armed := by
        rw [State.onResume, if_neg hfired]
        exact ⟨rfl, rfl, rfl⟩
      have hlistening := h.toListening.onResume (h.left w n (.head _)) hfired
      refine { hlistening with plain := hplain, ends := hends, left := ?_, agrees := ?_ }
      · intro w' m hw'
        rw [Pausing.exec, hpaused.2.2]
        exact hleft w' m hw'
      · intro m hm
        rw [Pausing.exec, responses_onResume _ _ _ _ hfired] at hm
        have hagrees := h.agrees m hm
        rw [outcome, if_neg hfired] at hagrees
        rw [Pausing.exec, responses_onResume _ _ _ _ hfired, hpaused.1, hpaused.2.1]
        exact hagrees
  | cancelListener | leave => cases h.plain _ (.head _)

/-! ### Pausing and resuming -/

/-- The handlers of a `pause`. -/
def pauseHandlers (ns : List Nat) (stack : List Instr) : List Instr :=
  ns.flatMap (fun n => [.callback, .onPause n]) ++ .callback :: .setPaused :: stack

theorem ends_pauseHandlers (h : Ends stack) (ns : List Nat) : Ends (pauseHandlers ns stack) := by
  induction ns with
  | nil => exact h
  | cons n ns ih => exact ⟨List.mem_append_right _ (.tail _ (.head _)), ih⟩

theorem outcome_pauseHandlers (n : Nat) (ns : List Nat) (paused flowing : Bool)
    (fired : List (Nat × Nat)) :
    outcome n (pauseHandlers ns stack) paused flowing fired =
      outcome n stack true (if n ∈ ns then false else flowing) fired := by
  induction ns generalizing flowing with
  | nil => rfl
  | cons m ns ih =>
    have hcons : outcome n (pauseHandlers (m :: ns) stack) paused flowing fired =
        outcome n (pauseHandlers ns stack) paused (if m = n then false else flowing) fired := rfl
    rw [hcons, ih]
    congr 1
    by_cases hm : m = n
    · subst hm
      rw [if_pos rfl, ite_self, if_pos (.head _)]
    · rw [if_neg hm]
      simp [Ne.symm hm]

theorem mem_pauseHandlers {ns : List Nat} {i : Instr} (h : i ∈ pauseHandlers ns stack) :
    i ∈ stack ∨ i = .callback ∨ i = .setPaused ∨ ∃ n, i = .onPause n := by
  induction ns with
  | nil =>
    rcases List.mem_cons.1 h with rfl | h
    · exact .inr (.inl rfl)
    · rcases List.mem_cons.1 h with rfl | h
      · exact .inr (.inr (.inl rfl))
      · exact .inl h
  | cons n ns ih =>
    rcases List.mem_cons.1 h with rfl | h
    · exact .inr (.inl rfl)
    · rcases List.mem_cons.1 h with rfl | h
      · exact .inr (.inr (.inr ⟨n, rfl⟩))
      · exact ih h

theorem InStep.pause (h : InStep s stack) (hguard : Timely s stack .pause) :
    InStep s.pause.1 (s.pause.2 ++ stack) := by
  rw [State.pause]
  cases hpaused : s.paused with
  | true => exact h
  | false =>
    rw [if_neg Bool.false_ne_true]
    have hhandlers : (s.pauseListeners.flatMap (fun n => [Instr.callback, .onPause n]) ++
        [.callback, .setPaused]) ++ stack = pauseHandlers s.pauseListeners stack := by
      rw [List.append_assoc]
      rfl
    dsimp only
    rw [hhandlers]
    refine { h with plain := ?_, ends := ends_pauseHandlers h.ends _, left := ?_, agrees := ?_ }
    · intro i hi
      rcases mem_pauseHandlers hi with hi | rfl | rfl | ⟨n, rfl⟩
      · exact h.plain i hi
      · rfl
      · rfl
      · rfl
    · intro w n hw
      rcases mem_pauseHandlers hw with hw | hw | hw | ⟨m, hw⟩
      · exact h.left w n hw
      all_goals cases hw
    · intro n hn
      rw [outcome_pauseHandlers, if_pos (h.listens n hn), outcome_paused]
      · rfl
      · intro w hw
        rw [Timely, hpaused] at hguard
        have hresumes := hguard.resolve_left Bool.false_ne_true _ hw
        rw [Instr.resumes, hn, decide_eq_true rfl, Bool.true_and, decide_eq_false_iff_not,
          not_not] at hresumes
        exact hresumes

/-- The handlers of a `resume`. -/
theorem mem_resume {ls : List (Nat × Nat)} {i : Instr} :
    i ∈ ls.flatMap (fun l => [Instr.callback, .onResume l.1 l.2]) ++ [.callback] ++ stack ↔
      i ∈ stack ∨ i = .callback ∨ ∃ w n, (w, n) ∈ ls ∧ i = .onResume w n := by
  constructor
  · intro h
    rcases List.mem_append.1 h with h | h
    · rcases List.mem_append.1 h with h | h
      · obtain ⟨⟨w, n⟩, hl, hi⟩ := List.mem_flatMap.1 h
        rcases List.mem_cons.1 hi with rfl | hi
        · exact .inr (.inl rfl)
        · exact .inr (.inr ⟨w, n, hl, List.mem_singleton.1 hi⟩)
      · exact .inr (.inl (List.mem_singleton.1 h))
    · exact .inl h
  · rintro (h | rfl | ⟨w, n, hl, rfl⟩)
    · exact List.mem_append_right _ h
    · exact List.mem_append_left _ (List.mem_append_right _ (List.mem_singleton_self _))
    · refine List.mem_append_left _ (List.mem_append_left _ (List.mem_flatMap.2 ⟨_, hl, ?_⟩))
      exact .tail _ (.head _)

theorem ends_resume (h : Ends stack) (ls : List (Nat × Nat)) :
    Ends (ls.flatMap (fun l => [Instr.callback, .onResume l.1 l.2]) ++ [.callback] ++ stack) := by
  induction ls with
  | nil => exact h
  | cons l ls ih => exact ih

theorem InStep.resume (h : InStep s stack) (hguard : Timely s stack .resume) :
    InStep s.resume.1 (s.resume.2 ++ stack) := by
  rw [State.resume]
  cases hpaused : s.paused with
  | false => exact h
  | true =>
    rw [if_neg (by decide)]
    dsimp only
    rw [Timely, hpaused] at hguard
    have hset := hguard.resolve_left (by decide)
    refine { h with plain := ?_, ends := ends_resume h.ends _, left := ?_, agrees := ?_ }
    · intro i hi
      rcases mem_resume.1 hi with hi | rfl | ⟨w, n, -, rfl⟩
      · exact h.plain i hi
      · rfl
      · rfl
    · intro w n hw
      rcases mem_resume.1 hw with hw | hw | ⟨w', n', hl, hw⟩
      · exact h.left w n hw
      · cases hw
      · cases hw
        exact h.listening _ hl
    · intro n hn
      rw [outcome_resumed]
      · rfl
      · intro m hm
        rcases mem_resume.1 hm with hm | hm | ⟨w, n, -, hm⟩
        · exact onPause_notMem h.ends hset m hm
        all_goals cases hm
      · intro hm
        rcases mem_resume.1 hm with hm | hm | ⟨w, n, -, hm⟩
        · exact hset hm
        all_goals cases hm
      · cases hflowing : (s.responses n).flowing with
        | true => exact .inl rfl
        | false =>
          obtain ⟨w, hl, hnot⟩ := h.resumes n hn hflowing
          exact .inr ⟨w, mem_resume.2 (.inr (.inr ⟨w, n, hl, rfl⟩)), hnot⟩

/-! ### The other events -/

variable {s' : State}

/-- An event that neither pauses nor resumes a parser; no other response begins to be read. -/
theorem InStep.frame (h : InStep s stack) (hpaused : s'.paused = s.paused)
    (hfired : s'.fired = s.fired) (harmed : s'.armed = s.armed)
    (hresume : ∀ l ∈ s'.resumeListeners, l ∈ s.resumeListeners)
    (hreading : ∀ n, (s'.responses n).stage = .reading → (s.responses n).stage = .reading ∧
      (s'.responses n).flowing = (s.responses n).flowing ∧
        (n ∈ s.pauseListeners → n ∈ s'.pauseListeners) ∧
          ∀ w, (w, n) ∈ s.resumeListeners → (w, n) ∈ s'.resumeListeners) :
    InStep s' stack where
  listens := by
    intro n hn
    obtain ⟨hn', -, hlistens, -⟩ := hreading n hn
    exact hlistens (h.listens n hn')
  resumes := by
    intro n hn hflowing
    obtain ⟨hn', hsame, -, hresumes⟩ := hreading n hn
    obtain ⟨w, hw, hnot⟩ := h.resumes n hn' (hsame.symm.trans hflowing)
    exact ⟨w, hresumes w hw, hfired ▸ hnot⟩
  fired := by
    intro l hl
    rw [hfired] at hl
    rw [harmed]
    exact h.fired l hl
  listening := by
    intro l hl
    rw [harmed]
    exact h.listening l (hresume l hl)
  plain := h.plain
  ends := h.ends
  left := by
    rw [harmed]
    exact h.left
  agrees := by
    intro n hn
    obtain ⟨hn', hsame, -, -⟩ := hreading n hn
    rw [hpaused, hsame, hfired]
    exact h.agrees n hn'

/-- Listeners of the user are about to run. -/
theorem InStep.callback (h : InStep s stack) : InStep s (.callback :: stack) := by
  refine { h with plain := ?_, ends := h.ends, left := ?_ }
  · intro i hi
    rcases List.mem_cons.1 hi with rfl | hi
    · rfl
    · exact h.plain i hi
  · intro w n hw
    rcases List.mem_cons.1 hw with hw | hw
    · cases hw
    · exact h.left w n hw

theorem responses_updateResponse (s : State) (n m : Nat) (f : Response → Response) :
    (s.updateResponse n f).responses m = if m = n then f (s.responses n) else s.responses m :=
  rfl

theorem InStep.makeRequest (h : InStep s stack) : InStep s.makeRequest stack := by
  rw [State.makeRequest]
  split
  · exact h
  · refine h.frame rfl rfl rfl (fun _ hl => hl) ?_
    intro n hn
    rw [responses_updateResponse] at hn ⊢
    split at hn
    · cases hn
    · next hne =>
      rw [if_neg hne]
      exact ⟨hn, rfl, id, fun _ => id⟩

theorem InStep.onFinish (h : InStep s stack) (n : Nat) : InStep (s.onFinish n) stack := by
  refine h.frame rfl rfl rfl (fun _ hl => hl) ?_
  intro m hm
  rw [State.onFinish, responses_updateResponse] at hm ⊢
  split at hm
  · next heq =>
    rw [if_pos heq, heq]
    exact ⟨hm, rfl, id, fun _ => id⟩
  · next hne =>
    rw [if_neg hne]
    exact ⟨hm, rfl, id, fun _ => id⟩

theorem InStep.onToken (h : InStep s []) (n : Nat) : InStep (s.onToken n).1 (s.onToken n).2 := by
  rw [State.onToken]
  split
  · exact h
  · next token tokens _ =>
    have hnext : InStep (s.updateResponse n fun response => { response with tokens }) [] := by
      refine h.frame rfl rfl rfl (fun _ hl => hl) ?_
      intro m hm
      rw [responses_updateResponse] at hm ⊢
      split at hm
      · next heq =>
        rw [if_pos heq, heq]
        exact ⟨hm, rfl, id, fun _ => id⟩
      · next hne =>
        rw [if_neg hne]
        exact ⟨hm, rfl, id, fun _ => id⟩
    dsimp only
    split
    · exact hnext
    · exact InStep.callback { hnext with }

theorem mem_removeResumeListener {n w m : Nat} (hne : m ≠ n) (h : (w, m) ∈ s.resumeListeners) :
    (w, m) ∈ s.removeResumeListener n := by
  rw [State.removeResumeListener, List.mem_reverse, List.mem_eraseP_of_neg (by simpa using hne)]
  exact List.mem_reverse.2 h

theorem mem_of_mem_removeResumeListener {n : Nat} {l : Nat × Nat}
    (h : l ∈ s.removeResumeListener n) : l ∈ s.resumeListeners := by
  rw [State.removeResumeListener, List.mem_reverse] at h
  exact List.mem_reverse.1 (List.mem_of_mem_eraseP h)

theorem InStep.onEndOfMessage (h : InStep s []) (n : Nat) :
    InStep (s.onEndOfMessage n).1 (s.onEndOfMessage n).2 := by
  refine InStep.callback (h.frame rfl rfl rfl (fun _ => mem_of_mem_removeResumeListener) ?_)
  intro m hm
  rw [State.onEndOfMessage, State.detach, responses_updateResponse] at hm ⊢
  split at hm
  · cases hm
  · next hne =>
    rw [if_neg hne]
    exact ⟨hm, rfl, (List.mem_erase_of_ne hne).2, fun _ => mem_removeResumeListener hne⟩

theorem InStep.onClose (h : InStep s stack) (n : Nat) :
    InStep (s.onClose n).1 ((s.onClose n).2 ++ stack) := by
  refine InStep.callback (h.frame rfl rfl rfl (fun _ hl => hl) ?_)
  intro m hm
  rw [State.onClose, responses_updateResponse] at hm ⊢
  split at hm
  · cases hm
  · next hne =>
    rw [if_neg hne]
    exact ⟨hm, rfl, id, fun _ => id⟩

/-- A parser that begins to flow listens to the request. -/
theorem Listening.begin (h : Listening s) (n : Nat) (listeners : List CancelListener)
    (f : Response → Response) (hflowing : (f (s.responses n)).flowing = true) :
    Listening ({ s with
      pauseListeners := s.pauseListeners ++ [n]
      cancelListeners := listeners }.updateResponse n f) where
  listens := by
    intro m hm
    rw [responses_updateResponse] at hm
    split at hm
    · next heq =>
      rw [heq]
      exact List.mem_append_right _ (List.mem_singleton_self _)
    · exact List.mem_append_left _ (h.listens m hm)
  resumes := by
    intro m hm hnot
    rw [responses_updateResponse] at hm hnot
    split at hm
    · next heq =>
      rw [if_pos heq] at hnot
      exact absurd (hflowing.symm.trans hnot) (by decide)
    · next hne =>
      rw [if_neg hne] at hnot
      exact h.resumes m hm hnot
  fired := h.fired
  listening := h.listening

/-- A response that begins while the request is paused does not flow. -/
theorem InStep.onMessage (h : InStep s []) (hcanceled : s.canceled = false) (n : Nat)
    (tokens : List Token) (cancelTimer : Bool) : InStep (s.onMessage n tokens cancelTimer) [] := by
  have hcond : ¬ (s.canceled && cancelTimer) = true := by
    rw [hcanceled]
    exact Bool.false_ne_true
  rw [State.onMessage, if_neg hcond]
  dsimp only
  have hbegin := h.toListening.begin n (s.cancelListeners ++ [CancelListener.response n])
    (fun response =>
      { response with stage := .reading, flowing := true, tokens, sent := tokens }) rfl
  have hagrees : ∀ m, (s.responses m).stage = .reading →
      (s.responses m).flowing = !s.paused := h.agrees
  split
  · next hpaused =>
    refine { hbegin.onPause n with
      plain := h.plain, ends := h.ends, left := fun _ _ => nofun, agrees := ?_ }
    intro m hm
    rw [responses_onPause, responses_updateResponse] at hm ⊢
    rw [paused_onPause]
    have hpaused' : s.paused = true := hpaused
    rw [outcome]
    show (if n = m then false else _) = !s.paused
    rw [hpaused']
    split
    · rfl
    · next hne =>
      rw [if_neg (Ne.symm hne)] at hm ⊢
      rw [hagrees m hm, hpaused']
  · next hpaused =>
    have hpaused' : s.paused = false := Bool.eq_false_of_not_eq_true hpaused
    refine { hbegin with plain := h.plain, ends := h.ends, left := h.left, agrees := ?_ }
    intro m hm
    rw [responses_updateResponse] at hm ⊢
    rw [outcome]
    show _ = !s.paused
    split at hm
    · next heq =>
      rw [if_pos heq, hpaused']
      rfl
    · next hne =>
      rw [if_neg hne]
      exact hagrees m hm

/-! ### Cancels -/

theorem canceled_exec (i : Instr) (h : s.canceled = true) : (exec i s).1.canceled = true := by
  have hresume : s.resume.1.canceled = true := by
    rw [State.resume]
    split <;> exact h
  cases i with
  | callback | setPaused => exact h
  | onPause n => rwa [exec, canceled_onPause]
  | onResume w n =>
    rw [exec, State.onResume]
    split <;> exact h
  | cancelListener listener =>
    cases listener with
    | unsent n => exact hresume
    | afterRequestSent => exact h
    | response n =>
      rw [exec, State.onCancel]
      split
      · exact hresume
      · exact h
  | leave n =>
    rw [exec]
    split <;> exact h

theorem canceled_handle (event : Event) (h : s.canceled = true) :
    (handle s event).1.canceled = true := by
  cases event with
  | pause =>
    rw [handle, State.pause]
    split <;> exact h
  | resume =>
    rw [handle, State.resume]
    split <;> exact h
  | cancel =>
    rw [handle, State.cancel, if_pos h]
    exact h
  | makeRequest =>
    rw [handle, State.makeRequest, if_pos h]
    exact h
  | message n tokens cancelTimer =>
    rw [handle, State.onMessage]
    dsimp only
    split
    · exact h
    · split
      · rw [canceled_onPause]
        exact h
      · exact h
  | token n =>
    rw [handle, State.onToken]
    split
    · exact h
    · dsimp only
      split <;> exact h
  | finish n | endOfMessage n | close n => exact h

theorem canceled_cancel : s.cancel.1.canceled = true := by
  rw [State.cancel]
  split
  · next h => exact h
  · rfl

/-- **The step lemma** for events. -/
theorem InStep.handle {event : Event} (h : InStep s stack)
    (hadmits : component.admits event stack = true) (hguard : Timely s stack event)
    (hcanceled : (handle s event).1.canceled = false) :
    InStep (handle s event).1 ((handle s event).2 ++ stack) := by
  have hstack : event.isCall = false → stack = [] := by
    intro hcall
    cases stack with
    | nil => rfl
    | cons i rest =>
      rw [Component.admits, Bool.and_eq_true] at hadmits
      exact absurd (hadmits.1.symm.trans hcall) (by decide)
  have hnot : s.canceled = false := by
    by_contra hs
    exact absurd (hcanceled.symm.trans (canceled_handle event (Bool.eq_true_of_not_eq_false hs)))
      (by decide)
  cases event with
  | pause => exact h.pause hguard
  | resume => exact h.resume hguard
  | cancel => exact absurd (hcanceled.symm.trans canceled_cancel) (by decide)
  | makeRequest => exact h.makeRequest
  | finish n => exact h.onFinish n
  | message n tokens cancelTimer =>
    obtain rfl := hstack rfl
    exact h.onMessage hnot n tokens cancelTimer
  | token n =>
    obtain rfl := hstack rfl
    rw [List.append_nil]
    exact h.onToken n
  | endOfMessage n =>
    obtain rfl := hstack rfl
    exact h.onEndOfMessage n
  | close n => exact h.onClose n

/-! ### Rows -/

/-- The rows of an execution that have been emitted. -/
def State.rowsOf (s : State) (n : Nat) : List RowColumns :=
  (s.rows.filter fun row => row.1 = n).map Prod.snd

/-- The rows of some tokens. -/
def rowsIn (tokens : List Token) : List RowColumns :=
  tokens.flatMap RequestTokenHandler.tokenRows

/-- The rows of a response have been emitted, or are still to come. -/
structure Delivered (s : State) : Prop where
  known : ∀ n, (s.responses n).stage ≠ .done → n < s.executions
  unread : ∀ n, s.executions ≤ n ∨ (s.responses n).stage = .waiting → s.rowsOf n = []
  attention : ∀ n, (s.responses n).stage ≠ .attention
  delivered : ∀ n, s.rowsOf n ++ rowsIn (s.responses n).tokens = rowsIn (s.responses n).sent
  empty : ∀ n, (s.responses n).stage = .done ∨ (s.responses n).stage = .waiting →
    (s.responses n).tokens = []

theorem Delivered.frame (h : Delivered s) (hrows : s'.rows = s.rows)
    (hexecutions : s'.executions = s.executions)
    (hsame : ∀ n, (s'.responses n).stage = (s.responses n).stage ∧
      (s'.responses n).tokens = (s.responses n).tokens ∧
        (s'.responses n).sent = (s.responses n).sent) : Delivered s' := by
  have hrowsOf : ∀ n, s'.rowsOf n = s.rowsOf n := by
    intro n
    rw [State.rowsOf, hrows, State.rowsOf]
  refine ⟨?_, ?_, ?_, ?_, ?_⟩
  · intro n hn
    rw [(hsame n).1] at hn
    rw [hexecutions]
    exact h.known n hn
  · intro n hn
    rw [hexecutions, (hsame n).1] at hn
    rw [hrowsOf]
    exact h.unread n hn
  · intro n
    rw [(hsame n).1]
    exact h.attention n
  · intro n
    rw [hrowsOf, (hsame n).2.1, (hsame n).2.2]
    exact h.delivered n
  · intro n hn
    rw [(hsame n).1] at hn
    rw [(hsame n).2.1]
    exact h.empty n hn

theorem Delivered.onPause (h : Delivered s) (n : Nat) : Delivered (s.onPause n) := by
  refine h.frame (rows_onPause s n) (executions_onPause s n) ?_
  intro m
  rw [responses_onPause]
  exact ⟨rfl, rfl, rfl⟩

theorem Delivered.exec (h : Delivered s) {i : Instr} (hplain : i.isPlain = true) :
    Delivered (exec i s).1 := by
  cases i with
  | callback | setPaused => exact { h with }
  | onPause n => exact h.onPause n
  | onResume w n =>
    by_cases hfired : (w, n) ∈ s.fired
    · have hsame : s.onResume w n = s := by rw [State.onResume, if_pos hfired]
      rw [Pausing.exec, hsame]
      exact h
    · have hsame : (s.onResume w n).rows = s.rows ∧
          (s.onResume w n).executions = s.executions := by
        rw [State.onResume, if_neg hfired]
        exact ⟨rfl, rfl⟩
      refine h.frame hsame.1 hsame.2 ?_
      intro m
      rw [Pausing.exec, responses_onResume _ _ _ _ hfired]
      exact ⟨rfl, rfl, rfl⟩
  | cancelListener | leave => cases hplain

theorem Delivered.makeRequest (h : Delivered s) : Delivered s.makeRequest := by
  rw [State.makeRequest]
  split
  · exact h
  · refine ⟨?_, ?_, ?_, ?_, ?_⟩
    · intro n hn
      rw [responses_updateResponse] at hn
      split at hn
      · next heq => exact heq ▸ Nat.lt_succ_self _
      · exact Nat.lt_succ_of_lt (h.known n hn)
    · intro n hn
      rw [responses_updateResponse] at hn
      split at hn
      · next heq => exact h.unread n (.inl (Nat.le_of_eq heq.symm))
      · exact h.unread n (hn.imp_left Nat.le_of_succ_le)
    · intro n
      rw [responses_updateResponse]
      split
      · exact nofun
      · exact h.attention n
    · intro n
      rw [responses_updateResponse]
      split
      · next heq =>
        show s.rowsOf n ++ [] = []
        rw [h.unread n (.inl (Nat.le_of_eq heq.symm))]
        rfl
      · exact h.delivered n
    · intro n hn
      rw [responses_updateResponse] at hn ⊢
      split
      · rfl
      · next hne =>
        rw [if_neg hne] at hn
        exact h.empty n hn

/-- A response changes, and some of its rows are emitted. -/
theorem Delivered.update (h : Delivered s) (n : Nat) (f : Response → Response)
    (news : List RowColumns) (hrows : s'.rows = s.rows ++ news.map fun row => (n, row))
    (hexecutions : s'.executions = s.executions)
    (hresponses : s'.responses = (s.updateResponse n f).responses) (hknown : n < s.executions)
    (hstage : (f (s.responses n)).stage ≠ .waiting ∧ (f (s.responses n)).stage ≠ .attention)
    (hdelivered : s.rowsOf n ++ news ++ rowsIn (f (s.responses n)).tokens =
      rowsIn (f (s.responses n)).sent)
    (hempty : (f (s.responses n)).stage = .done → (f (s.responses n)).tokens = []) :
    Delivered s' := by
  have hsame : ∀ m, m ≠ n → s'.rowsOf m = s.rowsOf m := by
    intro m hm
    have hnone : (news.map fun row => (n, row)).filter (fun row => row.1 = m) = [] := by
      rw [List.filter_eq_nil_iff]
      intro row hrow
      obtain ⟨_, -, rfl⟩ := List.mem_map.1 hrow
      exact fun heq => hm (of_decide_eq_true heq).symm
    rw [State.rowsOf, hrows, List.filter_append, hnone, List.append_nil, State.rowsOf]
  have hnew : s'.rowsOf n = s.rowsOf n ++ news := by
    have hall : (news.map fun row => (n, row)).filter (fun row => row.1 = n) =
        news.map fun row => (n, row) := by
      rw [List.filter_eq_self]
      intro row hrow
      obtain ⟨_, -, rfl⟩ := List.mem_map.1 hrow
      exact decide_eq_true rfl
    rw [State.rowsOf, hrows, List.filter_append, hall, List.map_append, List.map_map,
      State.rowsOf]
    exact congrArg _ (List.map_id _)
  refine ⟨?_, ?_, ?_, ?_, ?_⟩
  · intro m hm
    rw [hresponses, responses_updateResponse] at hm
    rw [hexecutions]
    split at hm
    · next heq => exact heq ▸ hknown
    · exact h.known m hm
  · intro m hm
    rw [hresponses, responses_updateResponse, hexecutions] at hm
    split at hm
    · next heq =>
      rcases hm with hm | hm
      · exact absurd hknown (Nat.not_lt_of_le (heq ▸ hm))
      · exact absurd hm hstage.1
    · next hne =>
      rw [hsame m hne]
      exact h.unread m hm
  · intro m
    rw [hresponses, responses_updateResponse]
    split
    · exact hstage.2
    · exact h.attention m
  · intro m
    rw [hresponses, responses_updateResponse]
    split
    · next heq =>
      rw [heq, hnew]
      exact hdelivered
    · next hne =>
      rw [hsame m hne]
      exact h.delivered m
  · intro m hm
    rw [hresponses, responses_updateResponse] at hm ⊢
    split at hm
    · next heq =>
      rw [if_pos heq]
      exact hempty (hm.resolve_right hstage.1)
    · next hne =>
      rw [if_neg hne]
      exact h.empty m hm

theorem Delivered.onFinish (h : Delivered s) (n : Nat) : Delivered (s.onFinish n) := by
  refine h.frame rfl rfl ?_
  intro m
  rw [State.onFinish, responses_updateResponse]
  split
  · next heq =>
    rw [heq]
    exact ⟨rfl, rfl, rfl⟩
  · exact ⟨rfl, rfl, rfl⟩

/-- The response begins, and no row of it has been emitted. -/
theorem Delivered.onMessage (h : Delivered s) (hcanceled : s.canceled = false) {n : Nat}
    (hwaiting : (s.responses n).stage = .waiting) (tokens : List Token) (cancelTimer : Bool) :
    Delivered (s.onMessage n tokens cancelTimer) := by
  have hcond : ¬ (s.canceled && cancelTimer) = true := by
    rw [hcanceled]
    exact Bool.false_ne_true
  have hknown : n < s.executions := h.known n (by rw [hwaiting]; decide)
  rw [State.onMessage, if_neg hcond]
  dsimp only
  have hnone : s.rowsOf n ++ [] ++ rowsIn tokens = rowsIn tokens := by
    rw [h.unread n (.inr hwaiting)]
    rfl
  have hbegin : Delivered ({ s with
      pauseListeners := s.pauseListeners ++ [n]
      cancelListeners := s.cancelListeners ++ [CancelListener.response n] }.updateResponse n
        fun response =>
          { response with stage := .reading, flowing := true, tokens, sent := tokens }) :=
    h.update n (fun response =>
      { response with stage := .reading, flowing := true, tokens, sent := tokens }) []
      (List.append_nil _).symm rfl rfl hknown ⟨nofun, nofun⟩ hnone nofun
  split
  · exact hbegin.onPause n
  · exact hbegin

/-- A token is delivered, and its row, if it is one, emitted. -/
theorem Delivered.onToken (h : Delivered s) (hcanceled : s.canceled = false) (n : Nat) :
    Delivered (s.onToken n).1 := by
  rw [State.onToken]
  split
  · exact h
  · next token tokens htokens =>
    have hlive : (s.responses n).stage ≠ .done ∧ (s.responses n).stage ≠ .waiting := by
      refine ⟨?_, ?_⟩
      · intro hdone
        cases htokens.symm.trans (h.empty n (.inl hdone))
      · intro hwaiting
        cases htokens.symm.trans (h.empty n (.inr hwaiting))
    have hcond : ¬ (s.updateResponse n fun response =>
        { response with tokens }).canceled = true := by
      rw [State.updateResponse, hcanceled]
      exact Bool.false_ne_true
    dsimp only
    rw [if_neg hcond]
    refine h.update n (fun response => { response with tokens })
      (RequestTokenHandler.tokenRows token) rfl rfl rfl (h.known n hlive.1)
      ⟨hlive.2, h.attention n⟩ ?_ (fun hdone => absurd hdone hlive.1)
    have hdelivered := h.delivered n
    rw [htokens, rowsIn, List.flatMap_cons, ← List.append_assoc] at hdelivered
    exact hdelivered

theorem Delivered.onEndOfMessage (h : Delivered s) {n : Nat}
    (hreading : (s.responses n).stage = .reading) (htokens : (s.responses n).tokens = []) :
    Delivered (s.onEndOfMessage n).1 := by
  refine h.update n (fun response => { response with stage := .done }) []
    (List.append_nil _).symm rfl rfl (h.known n (by rw [hreading]; decide)) ⟨nofun, nofun⟩ ?_
    (fun _ => htokens)
  rw [List.append_nil]
  exact h.delivered n

theorem Delivered.onClose (h : Delivered s) {n : Nat}
    (hserving : (s.responses n).stage.isServing = true) : Delivered (s.onClose n).1 := by
  have hknown : n < s.executions := by
    refine h.known n ?_
    intro hdone
    rw [hdone] at hserving
    cases hserving
  refine h.update n (fun response => { response with stage := .failed }) []
    (List.append_nil _).symm rfl rfl hknown ⟨nofun, nofun⟩ ?_ nofun
  rw [List.append_nil]
  exact h.delivered n

/-- **The step lemma** for events. -/
theorem Delivered.handle {event : Event} (h : Delivered s) (henabled : enabled s event = true)
    (hcanceled : (handle s event).1.canceled = false) : Delivered (handle s event).1 := by
  have hnot : s.canceled = false := by
    by_contra hs
    exact absurd (hcanceled.symm.trans (canceled_handle event (Bool.eq_true_of_not_eq_false hs)))
      (by decide)
  cases event with
  | pause =>
    rw [Pausing.handle, State.pause]
    split <;> exact h
  | resume =>
    rw [Pausing.handle, State.resume]
    split
    · exact h
    · exact { h with }
  | cancel => exact absurd (hcanceled.symm.trans canceled_cancel) (by decide)
  | makeRequest => exact h.makeRequest
  | finish n => exact h.onFinish n
  | message n tokens cancelTimer =>
    exact h.onMessage hnot (of_decide_eq_true henabled) tokens cancelTimer
  | token n => exact h.onToken hnot n
  | endOfMessage n =>
    rw [enabled, Bool.and_eq_true] at henabled
    exact h.onEndOfMessage (of_decide_eq_true henabled.1) (List.isEmpty_iff.1 henabled.2)
  | close n => exact h.onClose henabled

/-! ### Runs -/

theorem inStep_new : InStep .new [] := by
  constructor
  · constructor
    · exact fun _ => nofun
    · exact fun _ => nofun
    · exact fun _ => nofun
    · exact fun _ => nofun
  · exact fun _ => nofun
  · trivial
  · exact fun _ _ => nofun
  · exact fun _ => nofun

theorem delivered_new : Delivered .new := by
  constructor
  · intro n hn
    exact absurd rfl hn
  · exact fun _ _ => rfl
  · exact fun _ => nofun
  · exact fun _ => rfl
  · exact fun _ _ => rfl

theorem start_cases {event : Event} {is : List Instr}
    (h : component.start event s = some (s', is)) :
    enabled s event = true ∧ s' = (handle s event).1 ∧ is = (handle s event).2 := by
  rw [component] at h
  dsimp only at h
  split at h
  · next henabled =>
    have hhandle := Option.some.inj h
    exact ⟨henabled, congrArg Prod.fst hhandle.symm, congrArg Prod.snd hhandle.symm⟩
  · cases h

variable {moves : List (Move Event)} {k : Config State Instr}

/-- **The run lemma.** -/
theorem kept_of_runsTo (h : RunsTo Timely moves k) (hcanceled : k.state.canceled = false) :
    InStep k.state k.stack ∧ Delivered k.state := by
  refine Component.invariant (c := component)
    (I := fun s stack => s.canceled = false → InStep s stack ∧ Delivered s) ?_ ?_ h
    (fun _ => ⟨inStep_new, delivered_new⟩) hcanceled
  · intro i s rest hkept hcanceled
    have hnot : s.canceled = false := by
      by_contra hs
      exact absurd (hcanceled.symm.trans (canceled_exec i (Bool.eq_true_of_not_eq_false hs)))
        (by decide)
    obtain ⟨hstep, hdelivered⟩ := hkept hnot
    exact ⟨hstep.exec, hdelivered.exec (hstep.plain i (.head _))⟩
  · intro event s stack s' is hkept hadmits hguard hstart hcanceled
    obtain ⟨henabled, rfl, rfl⟩ := start_cases hstart
    have hnot : s.canceled = false := by
      by_contra hs
      exact absurd (hcanceled.symm.trans (canceled_handle event (Bool.eq_true_of_not_eq_false hs)))
        (by decide)
    obtain ⟨hstep, hdelivered⟩ := hkept hnot
    exact ⟨hstep.handle hadmits hguard hcanceled, hdelivered.handle henabled hcanceled⟩

theorem rows_resume : s.resume.1.rows = s.rows := by
  rw [State.resume]
  split <;> rfl

theorem rows_exec (i : Instr) : (exec i s).1.rows = s.rows := by
  cases i with
  | callback | setPaused => rfl
  | onPause n => exact rows_onPause s n
  | onResume w n =>
    rw [exec, State.onResume]
    split <;> rfl
  | cancelListener listener =>
    cases listener with
    | unsent n => exact rows_resume
    | afterRequestSent => rfl
    | response n =>
      rw [exec, State.onCancel]
      split
      · exact rows_resume
      · rfl
  | leave n =>
    rw [exec]
    split <;> rfl

/-- Only a token emits rows, and only of its response. -/
theorem eq_token_of_rowsOf {event : Event} {n : Nat}
    (h : (handle s event).1.rowsOf n ≠ s.rowsOf n) : event = .token n := by
  have hrows : (handle s event).1.rows ≠ s.rows := by
    intro hsame
    refine h ?_
    rw [State.rowsOf, hsame, State.rowsOf]
  cases event with
  | pause =>
    refine absurd ?_ hrows
    rw [handle, State.pause]
    split <;> rfl
  | resume => exact absurd rows_resume hrows
  | cancel =>
    refine absurd ?_ hrows
    rw [handle, State.cancel]
    split <;> rfl
  | makeRequest =>
    refine absurd ?_ hrows
    rw [handle, State.makeRequest]
    split <;> rfl
  | message m tokens cancelTimer =>
    refine absurd ?_ hrows
    rw [handle, State.onMessage]
    dsimp only
    split
    · rfl
    · split
      · exact rows_onPause _ m
      · rfl
  | token m =>
    by_cases hm : m = n
    · rw [hm]
    · refine absurd ?_ h
      rw [handle, State.onToken]
      split
      · rfl
      · next token tokens _ =>
        dsimp only
        split
        · rfl
        · have hnone : ((RequestTokenHandler.tokenRows token).map fun row => (m, row)).filter
              (fun row => row.1 = n) = [] := by
            rw [List.filter_eq_nil_iff]
            intro row hrow
            obtain ⟨_, -, rfl⟩ := List.mem_map.1 hrow
            exact fun heq => hm (of_decide_eq_true heq)
          rw [State.rowsOf, List.filter_append, hnone, List.append_nil]
          rfl
  | finish | endOfMessage | close => exact absurd rfl hrows

/-! ### Pausing is faithful -/

/-- The parser of a response that is read is paused if and only if the request is, when nothing but
listeners of the user is under way. No row is emitted while the request is paused, and the rows
come in order, with none lost or repeated. -/
structure Faithful (k : Config State Instr) : Prop where
  paused_iff : Quiet k.stack → ∀ n, (k.state.responses n).stage = .reading →
    ((k.state.responses n).flowing = false ↔ k.state.paused = true)
  silent : ∀ move k' n, component.step k move = some k' →
    (k.state.responses n).stage = .reading → k'.state.rowsOf n ≠ k.state.rowsOf n →
      k.state.paused = false
  delivered : ∀ n, k.state.rowsOf n ++ rowsIn (k.state.responses n).tokens =
    rowsIn (k.state.responses n).sent
  answered : ∀ n, (k.state.responses n).stage = .done →
    k.state.rowsOf n = rowsIn (k.state.responses n).sent
  flows : k.stack = [] → k.state.paused = false → ∀ n, (k.state.responses n).stage = .reading →
    (k.state.responses n).tokens ≠ [] → (component.step k (.event (.token n))).isSome = true

/-- **Pausing is faithful** as long as no handler that is under way undoes a call. -/
theorem pausing_faithful (h : RunsTo Timely moves k) (hcanceled : k.state.canceled = false) :
    Faithful k := by
  obtain ⟨hstep, hdelivered⟩ := kept_of_runsTo h hcanceled
  have hagrees : Quiet k.stack → ∀ n, (k.state.responses n).stage = .reading →
      (k.state.responses n).flowing = !k.state.paused := by
    intro hquiet n hn
    have hagrees := hstep.agrees n hn
    rw [outcome_quiet hquiet] at hagrees
    exact hagrees
  have hnothing : Quiet [] := fun _ => nofun
  obtain ⟨s, stack⟩ := k
  refine ⟨?_, ?_, hdelivered.delivered, ?_, ?_⟩
  · intro hquiet n hn
    rw [hagrees hquiet n hn, Bool.not_eq_false']
  · intro move k' n hmove hn hrows
    obtain ⟨i, rest, -, -, rfl⟩ | ⟨event, s', is, -, hadmits, hstart, rfl⟩ :=
      Component.step_cases hmove
    · refine absurd ?_ hrows
      dsimp only
      rw [State.rowsOf, component, rows_exec, State.rowsOf]
    · obtain ⟨henabled, rfl, rfl⟩ := start_cases hstart
      obtain rfl := eq_token_of_rowsOf hrows
      -- A token finds nothing under way.
      obtain rfl : stack = [] := by
        cases stack with
        | nil => rfl
        | cons i rest => cases hadmits
      rw [enabled, Bool.and_eq_true] at henabled
      have hflowing := (hagrees hnothing n hn).symm.trans henabled.1
      rwa [Bool.not_eq_true'] at hflowing
  · intro n hn
    have hdone := hdelivered.delivered n
    rw [hdelivered.empty n (.inl hn)] at hdone
    exact (List.append_nil _).symm.trans hdone
  · intro hstack hpaused n hn htokens
    obtain rfl : stack = [] := hstack
    have henabled : enabled s (.token n) = true := by
      rw [enabled, Bool.and_eq_true]
      refine ⟨?_, ?_⟩
      · have hflowing := hagrees hnothing n hn
        rw [hpaused] at hflowing
        exact hflowing
      · rw [Bool.not_eq_true', List.isEmpty_eq_false_iff]
        exact htokens
    have hstart : component.start (.token n) s = some (handle s (.token n)) := if_pos henabled
    rw [Component.step_event rfl hstart]
    rfl

/-- A request is paused, executed, resumed and paused by a listener of its first row, resumed, and
executed again. -/
def pausedMoves : List (Move Event) :=
  [.event .pause, .next, .next, .event .makeRequest, .event (.finish 0),
    .event (.message 0 [.row (.list []), .row (.list [])] true), .event .resume, .next, .next,
    .next, .event (.token 0), .event .pause, .next, .next, .next, .next, .next, .event .resume,
    .next, .next, .next, .event (.token 0), .next, .event (.endOfMessage 0), .event .makeRequest,
    .next, .event (.finish 1), .event (.message 1 [.row (.list [])] true)]

/-- Both of its rows have been emitted, and its second execution waits for a row. -/
theorem pausing_faithful_sample : ∃ k, RunsTo Timely pausedMoves k ∧
    (k.state.responses 0).stage = .done ∧ (k.state.responses 1).stage = .reading ∧ Faithful k := by
  obtain ⟨k, hk, hp⟩ := @Component.exists_runs _ _ _ component Timely _ ⟨.new, []⟩ pausedMoves
    (fun k => !k.state.canceled &&
      ((k.state.responses 0).stage = .done && (k.state.responses 1).stage = .reading)) (by decide)
  rw [Bool.and_eq_true, Bool.and_eq_true, Bool.not_eq_true'] at hp
  exact ⟨k, hk, of_decide_eq_true hp.2.1, of_decide_eq_true hp.2.2, pausing_faithful hk hp.1⟩

/-- A listener of the user for `'resume'`, which was there before, pauses the request again. -/
def undoneMoves : List (Move Event) :=
  [.event .makeRequest, .event (.finish 0), .event (.message 0 [.row (.list [])] true),
    .event .pause, .next, .next, .next, .next, .event .resume, .event .pause, .next, .next, .next,
    .next, .next, .next, .next]

/-- The request is paused, and its parser flows. -/
theorem pausing_undone : ¬ ∀ (moves : List (Move Event)) (k : Config State Instr),
    RunsTo (fun _ _ _ => True) moves k → k.state.canceled = false → Faithful k := by
  intro h
  obtain ⟨k, hk, hp⟩ := @Component.exists_runs _ _ _ component (fun _ _ _ => True) _ ⟨.new, []⟩
    undoneMoves (fun k => !k.state.canceled &&
      (k.stack.isEmpty && ((k.state.responses 0).stage = .reading &&
        (k.state.paused && (k.state.responses 0).flowing)))) (by decide)
  simp only [Bool.and_eq_true, Bool.not_eq_true', List.isEmpty_iff, decide_eq_true_eq] at hp
  obtain ⟨hcanceled, hstack, hreading, hpaused, hflowing⟩ := hp
  have hquiet : Quiet k.stack := by
    rw [hstack]
    exact fun _ => nofun
  have hstopped := ((h undoneMoves k hk hcanceled).paused_iff hquiet 0 hreading).2 hpaused
  exact absurd (hflowing.symm.trans hstopped) (by decide)

end Pausing

end Tedious
