import Tedious.Lib.OffsetReader

/-!
# Tedious.Lib.Repeat

**Repeating a reader.** `times` repeats a reader a given number of times; `loop`
repeats it until it leaves the loop. A loop that comes to an end makes progress:
every round that goes on has consumed at least one byte (`Progress`). The bytes
behind the offset then bound the number of rounds, and every larger bound gives the
same answer (`rounds_eq_of_lt`), which is what makes such a loop stable.
-/

namespace Chunked

variable {ε α β γ : Type}

namespace OffsetReader

/-- Read `n` times. -/
def times (r : OffsetReader ε α) : Nat → OffsetReader ε (List α)
  | 0 => pure []
  | n + 1 => do
    let a ← r
    let as ← times r n
    pure (a :: as)

/-- Ask for more, whatever the buffer holds. -/
def starve : OffsetReader ε α := fun _ offset => .error (.notEnoughData offset)

@[simp] theorem run_starve (buf : Bytes) (offset : Int) :
    (starve : OffsetReader ε α).run buf offset = .error (.notEnoughData offset) := rfl

/-- At most `n` rounds of a loop. -/
def rounds (body : β → OffsetReader ε (β ⊕ γ)) : Nat → β → OffsetReader ε γ
  | 0, _ => starve
  | n + 1, b => body b >>= fun next =>
      match next with
      | .inl b' => rounds body n b'
      | .inr c => pure c

/-- Go round until the body leaves the loop with `Sum.inr`. -/
def loop (body : β → OffsetReader ε (β ⊕ γ)) (b : β) : OffsetReader ε γ := fun buf offset =>
  (rounds body ((buf.length : Int) - offset + 1).toNat b).run buf offset

theorem run_loop (body : β → OffsetReader ε (β ⊕ γ)) (b : β) (buf : Bytes) (offset : Int) :
    (loop body b).run buf offset =
      (rounds body ((buf.length : Int) - offset + 1).toNat b).run buf offset := rfl

end OffsetReader

open OffsetReader

theorem Steady.starve : Steady (OffsetReader.starve : OffsetReader ε α) where
  forward := by intro buf k v off h; simp at h
  stable := by
    refine ⟨?_, ?_, ?_⟩
    · intro pre more rest k v off _ _ h
      simp at h
    · intro pre more rest k e _ _ h
      simp at h
    · intro pre rest k n _ _ h
      simp only [run_starve, Except.error.injEq, ReadError.notEnoughData.injEq] at h
      rw [run_starve, h]

theorem Steady.times {r : OffsetReader ε α} (hr : Steady r) : ∀ n, Steady (r.times n)
  | 0 => .pure []
  | n + 1 => .bind hr fun _ => .bind (Steady.times hr n) fun _ => .pure _

/-! ### Loops -/

/-- A round that goes on has consumed at least one byte. -/
def Progress (body : β → OffsetReader ε (β ⊕ γ)) : Prop :=
  ∀ ⦃b : β⦄ ⦃buf : Bytes⦄ ⦃offset : Int⦄ ⦃b' : β⦄ ⦃off : Int⦄,
    (body b).run buf offset = .ok ⟨.inl b', off⟩ → offset < off ∧ off ≤ buf.length

variable {body : β → OffsetReader ε (β ⊕ γ)}

theorem Steady.rounds (hbody : ∀ b, Steady (body b)) :
    ∀ (n : Nat) (b : β), Steady (OffsetReader.rounds body n b)
  | 0, _ => .starve
  | n + 1, b => .bind (hbody b) fun next =>
      match next with
      | .inl b' => Steady.rounds hbody n b'
      | .inr c => .pure c

/-- With more rounds than bytes behind the offset, the number of rounds does not
matter. -/
theorem rounds_eq_of_lt (hprog : Progress body) {n m : Nat} {b : β} {buf : Bytes} {offset : Int}
    (hn : (buf.length : Int) - offset < n) (hm : (buf.length : Int) - offset < m) (hpos : 0 < n)
    (hpos' : 0 < m) :
    (rounds body n b).run buf offset = (rounds body m b).run buf offset := by
  induction n generalizing m b offset with
  | zero => omega
  | succ n ih =>
    obtain ⟨m, rfl⟩ := Nat.exists_eq_succ_of_ne_zero (Nat.pos_iff_ne_zero.1 hpos')
    rw [rounds, rounds, run_bind, run_bind]
    cases hrun : (body b).run buf offset with
    | error e => rfl
    | ok res =>
      obtain ⟨next, off⟩ := res
      cases next with
      | inr c => rfl
      | inl b' =>
        obtain ⟨hlt, hle⟩ := hprog hrun
        exact ih (by omega) (by omega) (by omega) (by omega)

/-- A loop is as many rounds as one likes, above the number of bytes left. -/
theorem loop_eq_rounds (hprog : Progress body) {n : Nat} {b : β} {buf : Bytes} {offset : Int}
    (hle : offset ≤ buf.length) (hn : (buf.length : Int) - offset < n) :
    (loop body b).run buf offset = (rounds body n b).run buf offset := by
  rw [run_loop]
  exact rounds_eq_of_lt hprog (by omega) hn (by omega) (by omega)

theorem Steady.loop (hbody : ∀ b, Steady (body b)) (hprog : Progress body) (b : β) :
    Steady (OffsetReader.loop body b) where
  forward _ _ _ _ h := (Steady.rounds hbody _ b).forward h
  stable := by
    -- Both buffers get the number of rounds that suffices for the longer one.
    have hrounds : ∀ {n k : Nat} {buf : Bytes}, k ≤ buf.length → buf.length ≤ n →
        (OffsetReader.loop body b).run buf k = (OffsetReader.rounds body (n + 1) b).run buf k :=
      fun hk hn => loop_eq_rounds hprog (by omega) (by omega)
    have hsteady := fun n => (Steady.rounds hbody n b).stable
    refine ⟨?_, ?_, ?_⟩
    · intro pre more rest k v off hk hroom h
      have hlen : (pre ++ rest ++ more).length = pre.length + rest.length + more.length := by
        simp [Nat.add_assoc]
      rw [hrounds hk (by omega : _ ≤ (pre ++ rest ++ more).length)] at h
      rw [← Nat.cast_add, hrounds (by omega) le_rfl, Nat.cast_add]
      exact (hsteady _).ok pre more hk hroom h
    · intro pre more rest k e hk hroom h
      have hlen : (pre ++ rest ++ more).length = pre.length + rest.length + more.length := by
        simp [Nat.add_assoc]
      rw [hrounds hk (by omega : _ ≤ (pre ++ rest ++ more).length)] at h
      rw [← Nat.cast_add, hrounds (by omega) le_rfl, Nat.cast_add]
      exact (hsteady _).error pre more hk hroom h
    · intro pre rest k n hk hroom h
      have hlen : (pre ++ rest).length = pre.length + rest.length := List.length_append
      rw [hrounds hk (by omega : _ ≤ (pre ++ rest).length)] at h
      rw [← Nat.cast_add, hrounds (by omega) le_rfl, Nat.cast_add]
      exact (hsteady _).starved pre hk hroom h

end Chunked
