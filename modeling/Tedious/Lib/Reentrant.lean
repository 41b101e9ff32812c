import Tedious.Lib.Machine

/-!
# Tedious.Lib.Reentrant

**Components that call back.** The handlers of a `Component` run to completion, but on
their way they run listeners, and a listener may call the component again before the
handler that runs it goes on. What is still to be done is kept on a call stack of
instructions: an event puts instructions on the stack, an instruction changes the
state and may put further instructions in its place.

Events from outside find the stack empty. Calls may also be made wherever the
instruction on top is a callback, any number of them, one after the other and nested.

`Component.invariant` is the rule of the library: an invariant of state and stack that
every instruction and every event preserves holds all along every run.
-/

namespace Reentrant

open Chunked

/-- States `σ`, instructions `ι`, events `ε`. -/
structure Component (σ ι ε : Type) where
  /-- Run an instruction: the new state and the instructions that take its place. -/
  exec : ι → σ → σ × List ι
  /-- Begin to handle an event, if it can happen at all. -/
  start : ε → σ → Option (σ × List ι)
  /-- The events that a listener may bring about. -/
  isCall : ε → Bool
  /-- The instruction at which listeners run. -/
  isCallback : ι → Bool

/-- A state, with what is still to be done. -/
structure Config (σ ι : Type) where
  state : σ
  stack : List ι

/-- What may happen next. -/
inductive Move (ε : Type)
  /-- The instruction on top of the stack runs; a callback returns. -/
  | next
  | event (e : ε)

namespace Component

variable {σ ι ε : Type} (c : Component σ ι ε)

/-- An event comes from outside between two handlers, or from a listener. -/
def admits (e : ε) : List ι → Bool
  | [] => true
  | i :: _ => c.isCall e && c.isCallback i

def step : Config σ ι → Move ε → Option (Config σ ι)
  | ⟨_, []⟩, .next => none
  | ⟨s, i :: rest⟩, .next => some ⟨(c.exec i s).1, (c.exec i s).2 ++ rest⟩
  | ⟨s, stack⟩, .event e =>
      if c.admits e stack then (c.start e s).map fun r => ⟨r.1, r.2 ++ stack⟩ else none

/-- The machine of a component. -/
def machine : Machine (Config σ ι) (Move ε) := ⟨c.step⟩

/-- A move that begins to handle an event under a guard; `next` is never guarded. -/
def guarded (guard : σ → List ι → ε → Prop) : Config σ ι → Move ε → Prop
  | _, .next => True
  | ⟨s, stack⟩, .event e => guard s stack e

instance {guard : σ → List ι → ε → Prop} [∀ s stack e, Decidable (guard s stack e)]
    (k : Config σ ι) (m : Move ε) : Decidable (guarded guard k m) :=
  match k, m with
  | _, .next => isTrue trivial
  | ⟨s, stack⟩, .event e => inferInstanceAs (Decidable (guard s stack e))

/-- The runs in which every event meets `guard`. -/
abbrev Runs (guard : σ → List ι → ε → Prop) : Config σ ι → List (Move ε) → Config σ ι → Prop :=
  c.machine.Steps (guarded guard)

variable {c} {guard : σ → List ι → ε → Prop}

theorem step_event {e : ε} {s s' : σ} {stack is : List ι} (hadmits : c.admits e stack = true)
    (hstart : c.start e s = some (s', is)) :
    c.step ⟨s, stack⟩ (.event e) = some ⟨s', is ++ stack⟩ := by
  have hstep : c.step ⟨s, stack⟩ (.event e) = if c.admits e stack then
      (c.start e s).map fun r => ⟨r.1, r.2 ++ stack⟩ else none := by cases stack <;> rfl
  rw [hstep, if_pos hadmits, hstart]
  rfl

/-- What a step may do. -/
theorem step_cases {k k' : Config σ ι} {m : Move ε} (h : c.step k m = some k') :
    (∃ i rest, m = .next ∧ k.stack = i :: rest ∧
      k' = ⟨(c.exec i k.state).1, (c.exec i k.state).2 ++ rest⟩) ∨
    ∃ e s' is, m = .event e ∧ c.admits e k.stack = true ∧ c.start e k.state = some (s', is) ∧
      k' = ⟨s', is ++ k.stack⟩ := by
  obtain ⟨s, stack⟩ := k
  cases m with
  | next =>
    cases stack with
    | nil => cases h
    | cons i rest => exact .inl ⟨i, rest, rfl, rfl, (Option.some.inj h).symm⟩
  | event e =>
    have h : (if c.admits e stack then (c.start e s).map fun r => ⟨r.1, r.2 ++ stack⟩
        else none) = some k' := by cases stack <;> exact h
    split at h
    · next hadmits =>
      obtain ⟨⟨s', is⟩, hstart, rfl⟩ := Option.map_eq_some_iff.1 h
      exact .inr ⟨e, s', is, rfl, hadmits, hstart, rfl⟩
    · cases h

/-- **The invariant rule**, for runs of which every move meets a condition. -/
theorem step_invariant {guard : Config σ ι → Move ε → Prop} {I : σ → List ι → Prop}
    (hexec : ∀ i s rest, I s (i :: rest) → guard ⟨s, i :: rest⟩ .next →
      I (c.exec i s).1 ((c.exec i s).2 ++ rest))
    (hstart : ∀ e s stack s' is, I s stack → c.admits e stack = true →
      guard ⟨s, stack⟩ (.event e) → c.start e s = some (s', is) → I s' (is ++ stack))
    {k k' : Config σ ι} {moves : List (Move ε)} (h : c.machine.Steps guard k moves k')
    (hk : I k.state k.stack) : I k'.state k'.stack := by
  refine Machine.Steps.invariant (I := fun k => I k.state k.stack) ?_ h hk
  rintro ⟨s, stack⟩ m k₁ hI hguard hstep
  obtain ⟨i, rest, rfl, rfl, rfl⟩ | ⟨e, s', is, rfl, hadmits, hs, rfl⟩ := step_cases hstep
  · exact hexec i s rest hI hguard
  · exact hstart e s stack s' is hI hadmits hguard hs

/-- **The invariant rule**, for runs of which every event meets a condition. -/
theorem invariant {I : σ → List ι → Prop}
    (hexec : ∀ i s rest, I s (i :: rest) → I (c.exec i s).1 ((c.exec i s).2 ++ rest))
    (hstart : ∀ e s stack s' is, I s stack → c.admits e stack = true → guard s stack e →
      c.start e s = some (s', is) → I s' (is ++ stack))
    {k k' : Config σ ι} {moves : List (Move ε)} (h : c.Runs guard k moves k')
    (hk : I k.state k.stack) : I k'.state k'.stack :=
  step_invariant (fun i s rest hI _ => hexec i s rest hI) hstart h hk

/-- There is a run from a configuration to another. -/
def Leads (c : Component σ ι ε) (k k' : Config σ ι) : Prop :=
  ∃ moves, c.Runs (fun _ _ _ => True) k moves k'

theorem Leads.refl (k : Config σ ι) : c.Leads k k := ⟨[], .nil k⟩

theorem Leads.trans {k₁ k₂ k₃ : Config σ ι} (h : c.Leads k₁ k₂) (h' : c.Leads k₂ k₃) :
    c.Leads k₁ k₃ := by
  obtain ⟨moves, h⟩ := h
  obtain ⟨moves', h'⟩ := h'
  exact ⟨moves ++ moves', h.append h'⟩

/-- The instruction on top of the stack runs. -/
theorem leads_next (i : ι) (s : σ) (rest : List ι) :
    c.Leads ⟨s, i :: rest⟩ ⟨(c.exec i s).1, (c.exec i s).2 ++ rest⟩ :=
  ⟨[.next], .cons trivial rfl (.nil _)⟩

/-- An event is handled. -/
theorem leads_event {e : ε} {s s' : σ} {is : List ι} (h : c.start e s = some (s', is)) :
    c.Leads ⟨s, []⟩ ⟨s', is⟩ := by
  have hstep : c.step ⟨s, []⟩ (.event e) = some ⟨s', is ++ []⟩ := step_event (c := c) rfl h
  rw [List.append_nil] at hstep
  exact ⟨[.event e], .cons trivial hstep (.nil _)⟩

/-- A computed run to a state with a property that can be checked. -/
theorem exists_runs {guard : σ → List ι → ε → Prop} [∀ s stack e, Decidable (guard s stack e)]
    {k : Config σ ι} {moves : List (Move ε)} {p : Config σ ι → Bool}
    (h : (c.machine.run (guarded guard) k moves).any p = true) :
    ∃ k', c.Runs guard k moves k' ∧ p k' = true :=
  c.machine.exists_steps_of_run h

end Component

end Reentrant
