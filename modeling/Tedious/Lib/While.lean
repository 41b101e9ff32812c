/-!
# Tedious.Lib.While

**Loops that need not end.** A loop is given by what one look at its condition leads to:
the condition fails, or the body throws, or the body goes through and the loop looks again.
`whileLoop` looks a bounded number of times; a bound that suffices gives the same answer as
every larger one (`whileLoop_add`).

There is one rule for each thing that one wants to know of a loop: `whileLoop_exit` for
what holds after it (an invariant), `whileLoop_exists` for that it comes to an end (an
invariant and a variant), and `whileLoop_ne_ok` for that it does not.
-/

namespace While

variable {ε σ : Type} {round : σ → Option (Except ε σ)} {s s' : σ} {n : Nat}

/-- Look at the condition at most `n` times; `none` when the loop is not over by then. -/
def whileLoop (round : σ → Option (Except ε σ)) : Nat → σ → Option (Except ε σ)
  | 0, _ => none
  | n + 1, s =>
    match round s with
    | none => some (.ok s)
    | some (.error e) => some (.error e)
    | some (.ok s') => whileLoop round n s'

theorem whileLoop_done (h : round s = none) : whileLoop round (n + 1) s = some (.ok s) := by
  rw [whileLoop, h]

theorem whileLoop_throw {e : ε} (h : round s = some (.error e)) :
    whileLoop round (n + 1) s = some (.error e) := by
  rw [whileLoop, h]

theorem whileLoop_round (h : round s = some (.ok s')) :
    whileLoop round (n + 1) s = whileLoop round n s' := by
  rw [whileLoop, h]

/-- A loop that is over stays over. -/
theorem whileLoop_add {r : Except ε σ} (h : whileLoop round n s = some r) (k : Nat) :
    whileLoop round (n + k) s = some r := by
  induction n generalizing s with
  | zero => cases h
  | succ n ih =>
    rw [Nat.succ_add]
    cases hround : round s with
    | none =>
      rw [whileLoop_done hround] at h ⊢
      exact h
    | some next =>
      cases next with
      | error e =>
        rw [whileLoop_throw hround] at h ⊢
        exact h
      | ok s' =>
        rw [whileLoop_round hround] at h ⊢
        exact ih h

/-- **Invariants.** What holds before a loop and is kept by its rounds holds after it, where
the condition has failed. -/
theorem whileLoop_exit (I : σ → Prop) (hround : ∀ s s', I s → round s = some (.ok s') → I s')
    (hs : I s) (h : whileLoop round n s = some (.ok s')) : I s' ∧ round s' = none := by
  induction n generalizing s with
  | zero => cases h
  | succ n ih =>
    cases hnext : round s with
    | none =>
      rw [whileLoop_done hnext] at h
      cases h
      exact ⟨hs, hnext⟩
    | some next =>
      cases next with
      | error e =>
        rw [whileLoop_throw hnext] at h
        cases h
      | ok s₁ =>
        rw [whileLoop_round hnext] at h
        exact ih (hround s s₁ hs hnext) h

/-- **Variants.** A loop whose rounds do not throw, keep an invariant and make a number
smaller comes to an end, and as soon as it has looked more often than that number. -/
theorem whileLoop_exists (I : σ → Prop) (v : σ → Nat)
    (hround : ∀ s next, I s → round s = some next → ∃ s', next = .ok s' ∧ I s' ∧ v s' < v s)
    (hs : I s) (hv : v s < n) : ∃ s', whileLoop round n s = some (.ok s') := by
  induction n generalizing s with
  | zero => cases hv
  | succ n ih =>
    cases hnext : round s with
    | none => exact ⟨s, whileLoop_done hnext⟩
    | some next =>
      obtain ⟨s₁, rfl, hs₁, hlt⟩ := hround s next hs hnext
      rw [whileLoop_round hnext]
      exact ih hs₁ (Nat.lt_of_lt_of_le hlt (Nat.le_of_lt_succ hv))

/-- **No way out.** A loop whose condition holds, and holds again after every round, is
never left. -/
theorem whileLoop_ne_ok (I : σ → Prop) (hstay : ∀ s, I s → round s ≠ none)
    (hround : ∀ s s', I s → round s = some (.ok s') → I s') (hs : I s) :
    whileLoop round n s ≠ some (.ok s') := fun h =>
  have hexit := whileLoop_exit I hround hs h
  hstay s' hexit.1 hexit.2

end While
