import Mathlib.Data.List.Perm.Subperm
import Tedious.Lib.Machine

/-!
# Tedious.Lib.Race

**Races.** Some contestants start at the same time. Each may win or fail, and the race may be
cancelled. The first contestant to win decides it, and so does a cancellation; when all of them
have failed it is lost. What comes later changes nothing.

A machine `Follows` the race when its states keep up with it, event by event; then every run has
the verdict of its events (`Follows.run`). Where each contestant fails once at most, a counter of
failures tells that all have failed (`allFailed_iff_length`).
-/

namespace Race

open Chunked

/-- What happens in a race. -/
inductive Event (α ε : Type)
  | win (i : Nat) (a : α)
  | fail (i : Nat) (e : ε)
  | cancel

/-- How a race ends; a lost one with the failures in their order. -/
inductive Verdict (α ε : Type)
  | won (i : Nat) (a : α)
  | lost (failures : List (Nat × ε))
  | cancelled

variable {α ε σ : Type}

/-- Each of `n` contestants is among the failures. -/
def AllFailed (n : Nat) (failures : List (Nat × ε)) : Prop := ∀ i < n, i ∈ failures.map Prod.fst

instance (n : Nat) (failures : List (Nat × ε)) : Decidable (AllFailed n failures) :=
  inferInstanceAs (Decidable (∀ i < n, i ∈ failures.map Prod.fst))

/-- The verdict of some events, after some failures that do not decide the race. -/
def verdict (n : Nat) : List (Nat × ε) → List (Event α ε) → Option (Verdict α ε)
  | _, [] => none
  | _, .win i a :: _ => some (.won i a)
  | _, .cancel :: _ => some .cancelled
  | failures, .fail i e :: events =>
    if AllFailed n (failures ++ [(i, e)]) then some (.lost (failures ++ [(i, e)]))
    else verdict n (failures ++ [(i, e)]) events

/-- Contestants that have failed once each. -/
structure Once (n : Nat) (failures : List (Nat × ε)) : Prop where
  nodup : (failures.map Prod.fst).Nodup
  lt : ∀ i ∈ failures.map Prod.fst, i < n

theorem Once.nil (n : Nat) : Once n ([] : List (Nat × ε)) := ⟨List.nodup_nil, by simp⟩

theorem Once.append {n i : Nat} {failures : List (Nat × ε)} (h : Once n failures) (hi : i < n)
    (hnew : i ∉ failures.map Prod.fst) (e : ε) : Once n (failures ++ [(i, e)]) := by
  constructor
  · rw [List.map_append, List.map_singleton, List.nodup_append]
    refine ⟨h.nodup, List.pairwise_singleton _ _, fun j hj k hk heq => ?_⟩
    rw [heq, List.mem_singleton.1 hk] at hj
    exact hnew hj
  · simpa [or_imp, forall_and] using ⟨fun j e' he => h.lt j (List.mem_map.2 ⟨(j, e'), he, rfl⟩), hi⟩

/-- Counting failures. -/
theorem allFailed_iff_length {n : Nat} {failures : List (Nat × ε)} (h : Once n failures) :
    AllFailed n failures ↔ failures.length = n := by
  have hsubperm : (failures.map Prod.fst).Subperm (List.range n) :=
    List.subperm_of_subset h.nodup fun i hi => List.mem_range.2 (h.lt i hi)
  have hle : failures.length ≤ n := by simpa using hsubperm.length_le
  constructor
  · intro hall
    have hrange : (List.range n).Subperm (failures.map Prod.fst) :=
      List.subperm_of_subset List.nodup_range fun i hi => hall i (List.mem_range.1 hi)
    have hge : n ≤ failures.length := by simpa using hrange.length_le
    exact Nat.le_antisymm hle hge
  · intro hlength i hi
    have hperm : (failures.map Prod.fst).Perm (List.range n) :=
      hsubperm.perm_of_length_le (by simp [hlength])
    exact hperm.mem_iff.2 (List.mem_range.2 hi)

/-- The states of a machine keep up with a race of `n` contestants: `Open` while it goes on, after
some failures, and `Over` with a verdict. -/
structure Follows (m : Machine σ (Event α ε)) (guard : σ → Event α ε → Prop) (n : Nat)
    (Open : List (Nat × ε) → σ → Prop) (Over : Verdict α ε → σ → Prop) : Prop where
  win : ∀ {s s' failures i a}, Open failures s → guard s (.win i a) →
    m.step s (.win i a) = some s' → Over (.won i a) s'
  last : ∀ {s s' failures i e}, Open failures s → guard s (.fail i e) →
    m.step s (.fail i e) = some s' → AllFailed n (failures ++ [(i, e)]) →
      Over (.lost (failures ++ [(i, e)])) s'
  fail : ∀ {s s' failures i e}, Open failures s → guard s (.fail i e) →
    m.step s (.fail i e) = some s' → ¬ AllFailed n (failures ++ [(i, e)]) →
      Open (failures ++ [(i, e)]) s'
  cancel : ∀ {s s' failures}, Open failures s → guard s .cancel →
    m.step s .cancel = some s' → Over .cancelled s'
  stays : ∀ {s s' v event}, Over v s → guard s event → m.step s event = some s' → Over v s'

/-- A run has the verdict of its events. -/
theorem Follows.run {m : Machine σ (Event α ε)} {guard : σ → Event α ε → Prop} {n : Nat}
    {Open : List (Nat × ε) → σ → Prop} {Over : Verdict α ε → σ → Prop}
    (h : Follows m guard n Open Over) {failures : List (Nat × ε)} {s s' : σ}
    {events : List (Event α ε)} (hrun : m.Steps guard s events s') (hopen : Open failures s) :
    match verdict n failures events with
    | none => ∃ failures', Open failures' s'
    | some v => Over v s' := by
  induction hrun generalizing failures with
  | nil s => exact ⟨failures, hopen⟩
  | @cons s s₁ s₂ event events hguard hstep hrest ih =>
    have hstays : ∀ {v}, Over v s₁ → Over v s₂ := fun hover =>
      hrest.invariant (fun hover hguard hstep => h.stays hover hguard hstep) hover
    cases event with
    | win i a => exact hstays (h.win hopen hguard hstep)
    | cancel => exact hstays (h.cancel hopen hguard hstep)
    | fail i e =>
      rw [verdict]
      by_cases hall : AllFailed n (failures ++ [(i, e)])
      · rw [if_pos hall]
        exact hstays (h.last hopen hguard hstep hall)
      · rw [if_neg hall]
        exact ih (h.fail hopen hguard hstep hall)

end Race
