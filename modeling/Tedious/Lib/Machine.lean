import Mathlib.Init

/-!
# Tedious.Lib.Machine

**Event-driven machines.** A `Machine` reacts to events; in a given state an event is
either taken, with the state it leads to, or cannot happen. A run is a sequence of
events that are taken one after the other; `Steps guard` are the runs whose every
event also meets a `guard` on the state it is taken in.

The rules of the library: what every step preserves holds all along a run (`Steps.invariant`); a
run that leaves a guard is caught in what the first such step leads to (`Steps.steps_or`); and a
measure that every step decreases bounds the length of a run (`Steps.length_le`). A slot that the
first demand fills for good serves every event if all of them demand the same
(`KeepsFirst.serves_iff`).

A machine `withHistory` carries a value that its steps extend and never read. An invariant
of state and history may use what is known of the reachable states of the machine itself
(`Steps.history_invariant`).
-/

namespace Chunked

/-- An event-driven machine: states `σ`, events `ε`. -/
structure Machine (σ ε : Type) where
  /-- The state that an event leads to, if it can happen at all. -/
  step : σ → ε → Option σ

namespace Machine

variable {σ ε : Type} (m : Machine σ ε)

/-- The runs of a machine from a state to a state, every event of which meets `guard` in
the state it is taken in. -/
inductive Steps (guard : σ → ε → Prop) : σ → List ε → σ → Prop
  | nil (s : σ) : Steps guard s [] s
  | cons {s s₁ s₂ : σ} {e : ε} {es : List ε} (hguard : guard s e) (hstep : m.step s e = some s₁)
      (hrest : Steps guard s₁ es s₂) : Steps guard s (e :: es) s₂

/-- All runs. -/
abbrev Runs : σ → List ε → σ → Prop := m.Steps fun _ _ => True

/-- A state in which nothing can happen any more. -/
def Final (s : σ) : Prop := ∀ e, m.step s e = none

/-- Take the events one after the other, as long as they meet `guard`. -/
def run (guard : σ → ε → Prop) [∀ s e, Decidable (guard s e)] (s : σ) : List ε → Option σ
  | [] => some s
  | e :: es => if guard s e then (m.step s e).bind fun s' => run guard s' es else none

/-- The machine with a history variable; `extend` says what a step adds to it. -/
def withHistory {η : Type} (extend : σ → ε → σ → η → η) : Machine (σ × η) ε where
  step := fun p e => (m.step p.1 e).map fun s' => (s', extend p.1 e s' p.2)

namespace Steps

variable {m} {guard : σ → ε → Prop}

/-- One run after another. -/
theorem append {s₁ s₂ s₃ : σ} {es es' : List ε} (h : m.Steps guard s₁ es s₂)
    (h' : m.Steps guard s₂ es' s₃) : m.Steps guard s₁ (es ++ es') s₃ := by
  induction h with
  | nil s => exact h'
  | cons hguard hnext _ ih => exact .cons hguard hnext (ih h')

/-- A run in two parts. -/
theorem split {s s' : σ} {es es' : List ε} (h : m.Steps guard s (es ++ es') s') :
    ∃ s₁, m.Steps guard s es s₁ ∧ m.Steps guard s₁ es' s' := by
  induction es generalizing s with
  | nil => exact ⟨s, .nil s, h⟩
  | cons e es ih =>
    cases h with
    | cons hguard hnext hrest =>
      obtain ⟨s₁, hfirst, hsecond⟩ := ih hrest
      exact ⟨s₁, .cons hguard hnext hfirst, hsecond⟩

/-- The events of a run decide where it leads. -/
theorem eq {guard' : σ → ε → Prop} {s s₁ s₂ : σ} {es : List ε} (h : m.Steps guard s es s₁)
    (h' : m.Steps guard' s es s₂) : s₁ = s₂ := by
  induction h with
  | nil s =>
    cases h'
    rfl
  | cons _ hnext _ ih =>
    cases h' with
    | cons _ hnext' hrest =>
      obtain rfl := Option.some.inj (hnext.symm.trans hnext')
      exact ih hrest

/-- A guard may be weakened. -/
theorem mono {guard' : σ → ε → Prop} {s s' : σ} {es : List ε} (h : m.Steps guard s es s')
    (hguard : ∀ {s e}, guard s e → guard' s e) : m.Steps guard' s es s' := by
  induction h with
  | nil s => exact .nil s
  | cons hmeets hnext _ ih => exact .cons (hguard hmeets) hnext ih

/-- **The invariant rule.** What every step of a guarded run preserves, the run preserves. -/
theorem invariant {I : σ → Prop}
    (hstep : ∀ {s e s'}, I s → guard s e → m.step s e = some s' → I s') {s s' : σ} {es : List ε}
    (h : m.Steps guard s es s') (hs : I s) : I s' := by
  induction h with
  | nil s => exact hs
  | cons hguard hnext _ ih => exact ih (hstep hs hguard hnext)

/-- Where a step keeps a property if and only if it meets the guard, the guarded runs are the
ones all of whose states have the property. -/
theorem guard_iff {I : σ → Prop}
    (hstep : ∀ {s e s'}, I s → m.step s e = some s' → (guard s e ↔ I s')) {s s' : σ} {es : List ε}
    (h : m.Runs s es s') (hs : I s) :
    (∀ es₁ es₂ s₁, es = es₁ ++ es₂ → m.Runs s es₁ s₁ → I s₁) ↔ m.Steps guard s es s' := by
  induction h with
  | nil s =>
    refine ⟨fun _ => .nil s, ?_⟩
    intro _ es₁ es₂ s₁ hes hrun
    obtain ⟨rfl, rfl⟩ := List.append_eq_nil_iff.1 hes.symm
    cases hrun
    exact hs
  | @cons s s₁ s₂ e es _ hnext _ ih =>
    constructor
    · intro hall
      have hs₁ : I s₁ := hall [e] es s₁ rfl (.cons trivial hnext (.nil s₁))
      refine .cons ((hstep hs hnext).2 hs₁) hnext ((ih hs₁).1 ?_)
      rintro es₁ es₂ s₃ rfl hrun
      exact hall (e :: es₁) es₂ s₃ rfl (.cons trivial hnext hrun)
    · intro hguarded es₁ es₂ s₃ hes hrun
      cases hguarded with
      | cons hguard hnext' hrest =>
        obtain rfl := Option.some.inj (hnext'.symm.trans hnext)
        cases hrun with
        | nil => exact hs
        | cons _ hnext'' hrun =>
          obtain ⟨rfl, rfl⟩ := List.cons.inj hes
          obtain rfl := Option.some.inj (hnext''.symm.trans hnext)
          exact (ih ((hstep hs hnext).1 hguard)).2 hrest _ es₂ s₃ rfl hrun

/-- **The rule for what goes wrong.** Where a step that does not meet a second guard leads to a
property that is never lost again, a run meets the second guard or ends with the property. -/
theorem steps_or {guard' : σ → ε → Prop} {J : σ → Prop}
    (hbreak : ∀ {s e s'}, guard s e → ¬ guard' s e → m.step s e = some s' → J s')
    (hkeep : ∀ {s e s'}, J s → guard s e → m.step s e = some s' → J s') {s s' : σ} {es : List ε}
    (h : m.Steps guard s es s') : m.Steps guard' s es s' ∨ J s' := by
  induction h with
  | nil s => exact .inl (.nil s)
  | @cons s s₁ s₂ e es hguard hnext hrest ih =>
    by_cases hmeets : guard' s e
    · exact ih.imp (.cons hmeets hnext) id
    · exact .inr (hrest.invariant hkeep (hbreak hguard hmeets hnext))

/-- **The measure rule.** A run is no longer than a measure of its first state that every
step decreases. -/
theorem length_le {μ : σ → Nat}
    (hstep : ∀ {s e s'}, guard s e → m.step s e = some s' → μ s' < μ s) {s s' : σ} {es : List ε}
    (h : m.Steps guard s es s') : es.length + μ s' ≤ μ s := by
  induction h with
  | nil s => simp
  | cons hguard hnext _ ih =>
    have := hstep hguard hnext
    rw [List.length_cons]
    omega

section History

variable {η : Type} {extend : σ → ε → σ → η → η}

/-- **The invariant rule** for a machine with a history. -/
theorem history_invariant {J : σ → Prop} {I : σ → η → Prop} {s : σ} {x : η} {p : σ × η}
    {es : List ε} (hreachable : ∀ {es s'}, m.Steps guard s es s' → J s')
    (hstep : ∀ {s e s' x}, J s → J s' → I s x → guard s e → m.step s e = some s' →
      I s' (extend s e s' x))
    (h : (m.withHistory extend).Steps (fun p => guard p.1) (s, x) es p) (hs : I s x) :
    I p.1 p.2 := by
  have hinvariant : (∃ es, m.Steps guard s es p.1) ∧ I p.1 p.2 := by
    refine invariant (I := fun p => (∃ es, m.Steps guard s es p.1) ∧ I p.1 p.2) ?_ h
      ⟨⟨[], .nil s⟩, hs⟩
    rintro ⟨s₁, x₁⟩ e p₂ ⟨⟨es₁, hrun⟩, hI⟩ hguard hnext
    obtain ⟨s₂, hs₂, rfl⟩ := Option.map_eq_some_iff.1 hnext
    have hlonger := hrun.append (.cons hguard hs₂ (.nil s₂))
    exact ⟨⟨_, hlonger⟩, hstep (hreachable hrun) (hreachable hlonger) hI hguard hs₂⟩
  exact hinvariant.2

end History

end Steps

/-- A computed run is a run. -/
theorem steps_of_run {guard : σ → ε → Prop} [∀ s e, Decidable (guard s e)] {s s' : σ}
    {es : List ε} (h : m.run guard s es = some s') : m.Steps guard s es s' := by
  induction es generalizing s with
  | nil =>
    obtain rfl : s = s' := by simpa [run] using h
    exact .nil s
  | cons e es ih =>
    rw [run] at h
    split at h
    · next hguard =>
      obtain ⟨s₁, hstep, hrest⟩ := Option.bind_eq_some_iff.1 h
      exact .cons hguard hstep (ih hrest)
    · cases h

/-- A computed run to a state with a property that can be checked. -/
theorem exists_steps_of_run {guard : σ → ε → Prop} [∀ s e, Decidable (guard s e)] {s : σ}
    {es : List ε} {p : σ → Bool} (h : (m.run guard s es).any p = true) :
    ∃ s', m.Steps guard s es s' ∧ p s' = true := by
  obtain ⟨s', hrun, hp⟩ := (Option.any_eq_true p _).1 h
  exact ⟨s', steps_of_run m hrun, hp⟩

section Settling

variable {ρ : Type} (tick : ε) (result : σ → Option ρ)

/-- A result that is there, or will be when the ticks that are due have been taken. -/
def SettlesWith (s : σ) (r : ρ) : Prop :=
  ∃ n s', m.Runs s (List.replicate n tick) s' ∧ result s' = some r

variable {m tick result} {s : σ} {r : ρ}

theorem settlesWith_iff_step (h : result s = none) :
    m.SettlesWith tick result s r ↔
      ∃ s', m.step s tick = some s' ∧ m.SettlesWith tick result s' r := by
  constructor
  · rintro ⟨n, s', hrun, hs'⟩
    cases n with
    | zero =>
      cases hrun
      rw [h] at hs'
      cases hs'
    | succ n =>
      cases hrun with
      | cons _ hstep hrest => exact ⟨_, hstep, n, s', hrest, hs'⟩
  · rintro ⟨s', hstep, n, s'', hrun, hs''⟩
    exact ⟨n + 1, s'', .cons trivial hstep hrun, hs''⟩

theorem settlesWith_of_step {s' : σ} (h : result s = none) (hstep : m.step s tick = some s') :
    m.SettlesWith tick result s r ↔ m.SettlesWith tick result s' r := by
  rw [settlesWith_iff_step h, hstep]
  simp only [Option.some_inj, exists_eq_left']

theorem not_settlesWith (h : result s = none) (hstep : m.step s tick = none) :
    ¬ m.SettlesWith tick result s r := by
  rw [settlesWith_iff_step h, hstep]
  rintro ⟨s', hsome, -⟩
  cases hsome

/-- A machine that has its result is done with its ticks. -/
theorem settlesWith_of_result {r' : ρ} (h : result s = some r') (hstep : m.step s tick = none) :
    m.SettlesWith tick result s r ↔ r = r' := by
  constructor
  · rintro ⟨n, s', hrun, hs'⟩
    cases n with
    | zero =>
      cases hrun
      exact Option.some.inj (hs'.symm.trans h)
    | succ n =>
      cases hrun with
      | cons _ hstep' _ =>
        rw [hstep] at hstep'
        cases hstep'
  · rintro rfl
    exact ⟨0, s, .nil s, h⟩

end Settling

section Slots

variable {κ : Type} (slot : σ → Option κ) (demand : ε → Option κ)

/-- A slot keeps what the first event that demands something has put there. -/
def KeepsFirst : Prop :=
  ∀ ⦃s e s'⦄, m.step s e = some s' → slot s' = (slot s).or (demand e)

/-- No two events demand different things. -/
def Unanimous (es : List ε) : Prop :=
  ∀ e ∈ es, ∀ e' ∈ es, ∀ k k', demand e = some k → demand e' = some k' → k = k'

instance [DecidableEq κ] (es : List ε) : Decidable (Unanimous demand es) :=
  decidable_of_iff (∀ e ∈ es, ∀ e' ∈ es, ∀ k ∈ demand e, ∀ k' ∈ demand e', k = k')
    ⟨fun h e he e' he' k k' hk hk' => h e he e' he' k hk k' hk',
      fun h e he e' he' k hk k' hk' => h e he e' he' k k' hk hk'⟩

variable {m slot demand} {guard : σ → ε → Prop} {s s' : σ} {es : List ε}

theorem KeepsFirst.run (h : m.KeepsFirst slot demand) (hrun : m.Steps guard s es s') :
    slot s' = (slot s).or (es.findSome? demand) := by
  induction hrun with
  | nil s => exact (Option.or_none).symm
  | @cons s s₁ s₂ e es _ hstep _ ih =>
    rw [ih, h hstep, Option.or_assoc, List.findSome?_cons]
    cases demand e with
    | none => rw [Option.none_or]
    | some k => rw [Option.some_or]

theorem Unanimous.mono {es' : List ε} (h : Unanimous demand es) (hsubset : es' ⊆ es) :
    Unanimous demand es' :=
  fun e he e' he' => h e (hsubset he) e' (hsubset he')

/-- When all demands are the same, one of them tells what is in the slot. -/
theorem KeepsFirst.slot_eq (h : m.KeepsFirst slot demand) (hempty : slot s = none)
    (hrun : m.Steps guard s es s') (hsame : Unanimous demand es) {e : ε} (he : e ∈ es) {k : κ}
    (hk : demand e = some k) : slot s' = some k := by
  obtain ⟨k', hk'⟩ : ∃ k', es.findSome? demand = some k' := by
    rw [← Option.isSome_iff_exists, List.findSome?_isSome_iff]
    exact ⟨e, he, by rw [hk]; rfl⟩
  obtain ⟨e', he', hdemand⟩ := List.exists_of_findSome?_eq_some hk'
  rw [h.run hrun, hempty, Option.none_or, hk', hsame e' he' e he k' k hdemand hk]

/-- **The rule for slots.** Each event of a run finds what it demands in the slot if and only if no
two events of the run demand different things. -/
theorem KeepsFirst.serves_iff (h : m.KeepsFirst slot demand) (hempty : slot s = none)
    (hrun : m.Steps guard s es s') :
    (∀ before e after s₁, es = before ++ e :: after → m.Steps guard s (before ++ [e]) s₁ →
      ∀ k, demand e = some k → slot s₁ = some k) ↔ Unanimous demand es := by
  constructor
  · intro hserves
    -- Each event demands what the run leaves in the slot.
    have hall : ∀ e ∈ es, ∀ k, demand e = some k → slot s' = some k := by
      intro e he k hk
      obtain ⟨before, after, rfl⟩ := List.append_of_mem he
      rw [List.append_cons] at hrun
      obtain ⟨s₁, hfirst, hsecond⟩ := hrun.split
      rw [h.run hsecond, hserves before e after s₁ rfl hfirst k hk, Option.some_or]
    intro e he e' he' k k' hk hk'
    exact Option.some.inj ((hall e he k hk).symm.trans (hall e' he' k' hk'))
  · rintro hsame before e after s₁ rfl hfirst k hk
    have hsubset : before ++ [e] ⊆ before ++ e :: after := by
      rw [List.append_cons before e after]
      exact List.subset_append_left _ _
    exact h.slot_eq hempty hfirst (hsame.mono hsubset)
      (List.mem_append_right before (List.mem_singleton_self e)) hk

end Slots

end Machine

end Chunked
