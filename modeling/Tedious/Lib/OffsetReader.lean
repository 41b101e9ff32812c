import Mathlib.Tactic.Ring
import Mathlib.Tactic.Lift

/-!
# Tedious.Lib.OffsetReader

**Readers over a byte buffer and an offset.** An `OffsetReader` looks at a buffer
from an offset on and either returns a value together with the offset behind it,
reports that the buffer holds too few bytes (`ReadError.notEnoughData`), or fails
for good (`ReadError.error`). This is the shape of every decoding routine that is
written to be *retried* on a longer buffer.

Retrying is only sound for readers that are **stable**: what they answer on a
buffer, they answer on every buffer that has more bytes behind it or in front of
it (`StableFrom`). Stability composes along `bind` as long as the first reader
moves `Forward`; a reader that moves the offset backwards may still be stable, but
only as the last step of a chain.

Offsets are integers: a reader that is given a negative length moves backwards,
and nothing stops the offset from becoming negative.
-/

namespace Chunked

/-- The bytes of a buffer. -/
abbrev Bytes := List UInt8

/-- A decoded value and the offset of the first byte behind it. -/
structure Result (α : Type) where
  value : α
  offset : Int
  deriving DecidableEq, Repr

/-- Why a read attempt did not return a value. -/
inductive ReadError (ε : Type)
  /-- The buffer must hold `byteCount` bytes before a retry can succeed. -/
  | notEnoughData (byteCount : Int)
  /-- The read failed for good. -/
  | error (e : ε)
  deriving DecidableEq, Repr

/-- A decoding routine over a buffer and an offset into it. -/
def OffsetReader (ε α : Type) : Type :=
  Bytes → Int → Except (ReadError ε) (Result α)

namespace OffsetReader

variable {ε α β : Type}

/-- Attempt the read on `buf` at `offset`. -/
def run (r : OffsetReader ε α) (buf : Bytes) (offset : Int) :
    Except (ReadError ε) (Result α) := r buf offset

@[ext] theorem ext {r r' : OffsetReader ε α} (h : ∀ buf offset, r.run buf offset = r'.run buf offset) :
    r = r' := funext fun buf => funext fun offset => h buf offset

instance : Monad (OffsetReader ε) where
  pure a := fun _ offset => .ok ⟨a, offset⟩
  bind r f := fun buf offset =>
    match r buf offset with
    | .ok ⟨v, offset'⟩ => f v buf offset'
    | .error e => .error e

/-- Fail for good. -/
def fail (e : ε) : OffsetReader ε α := fun _ _ => .error (.error e)

/-- Check that `n` more bytes are there, without moving. -/
def ensure (n : Int) : OffsetReader ε Unit := fun buf offset =>
  if (buf.length : Int) < offset + n then .error (.notEnoughData (offset + n))
  else .ok ⟨(), offset⟩

/-- Move by `n`, unchecked. -/
def skip (n : Int) : OffsetReader ε Unit := fun _ offset => .ok ⟨(), offset + n⟩

/-- The next `n` bytes; `oob` is the failure of the bounds check below offset 0. -/
def fixed (oob : ε) (n : Nat) : OffsetReader ε Bytes := fun buf offset =>
  if (buf.length : Int) < offset + n then .error (.notEnoughData (offset + n))
  else if offset < 0 then .error (.error oob)
  else .ok ⟨(buf.drop offset.toNat).take n, offset + n⟩

/-- The next `n` bytes as `cut` extracts them. The length may be negative: then
nothing is checked and the offset moves back. -/
def window (cut : Bytes → Int → Int → α) (n : Int) : OffsetReader ε α := fun buf offset =>
  if (buf.length : Int) < offset + n then .error (.notEnoughData (offset + n))
  else .ok ⟨cut buf offset (offset + n), offset + n⟩

@[simp] theorem run_pure (a : α) (buf : Bytes) (offset : Int) :
    (pure a : OffsetReader ε α).run buf offset = .ok ⟨a, offset⟩ := rfl

@[simp] theorem run_fail (e : ε) (buf : Bytes) (offset : Int) :
    (fail e : OffsetReader ε α).run buf offset = .error (.error e) := rfl

@[simp] theorem run_skip (n : Int) (buf : Bytes) (offset : Int) :
    (skip n : OffsetReader ε Unit).run buf offset = .ok ⟨(), offset + n⟩ := rfl

theorem run_bind (r : OffsetReader ε α) (f : α → OffsetReader ε β) (buf : Bytes) (offset : Int) :
    (r >>= f).run buf offset =
      match r.run buf offset with
      | .ok ⟨v, offset'⟩ => (f v).run buf offset'
      | .error e => .error e := rfl

theorem run_ensure (n : Int) (buf : Bytes) (offset : Int) :
    (ensure n : OffsetReader ε Unit).run buf offset =
      if (buf.length : Int) < offset + n then .error (.notEnoughData (offset + n))
      else .ok ⟨(), offset⟩ := rfl

theorem run_fixed (oob : ε) (n : Nat) (buf : Bytes) (offset : Int) :
    (fixed oob n).run buf offset =
      if (buf.length : Int) < offset + n then .error (.notEnoughData (offset + n))
      else if offset < 0 then .error (.error oob)
      else .ok ⟨(buf.drop offset.toNat).take n, offset + n⟩ := rfl

theorem run_window (cut : Bytes → Int → Int → α) (n : Int) (buf : Bytes) (offset : Int) :
    (window cut n : OffsetReader ε α).run buf offset =
      if (buf.length : Int) < offset + n then .error (.notEnoughData (offset + n))
      else .ok ⟨cut buf offset (offset + n), offset + n⟩ := rfl

/-- Inverting a successful chain. -/
theorem run_bind_ok {r : OffsetReader ε α} {f : α → OffsetReader ε β} {buf : Bytes} {offset : Int}
    {res : Result β} (h : (r >>= f).run buf offset = .ok res) :
    ∃ v offset', r.run buf offset = .ok ⟨v, offset'⟩ ∧ (f v).run buf offset' = .ok res := by
  rw [run_bind] at h
  cases hr : r.run buf offset with
  | error e => rw [hr] at h; cases h
  | ok res' => rw [hr] at h; exact ⟨res'.value, res'.offset, rfl, h⟩

/-- Inverting a chain that raises: one of its two halves does. -/
theorem run_bind_error {r : OffsetReader ε α} {f : α → OffsetReader ε β} {buf : Bytes} {offset : Int}
    {e : ReadError ε} (h : (r >>= f).run buf offset = .error e) :
    r.run buf offset = .error e ∨
      ∃ v offset', r.run buf offset = .ok ⟨v, offset'⟩ ∧ (f v).run buf offset' = .error e := by
  rw [run_bind] at h
  cases hr : r.run buf offset with
  | error e' => rw [hr] at h; exact Or.inl (by simpa using h)
  | ok res' => rw [hr] at h; exact Or.inr ⟨res'.value, res'.offset, rfl, h⟩

theorem run_bind_of_ok {r : OffsetReader ε α} {f : α → OffsetReader ε β} {buf : Bytes} {offset : Int}
    {v : α} {offset' : Int} (h : r.run buf offset = .ok ⟨v, offset'⟩) :
    (r >>= f).run buf offset = (f v).run buf offset' := by
  rw [run_bind, h]

theorem run_bind_of_error {r : OffsetReader ε α} {f : α → OffsetReader ε β} {buf : Bytes}
    {offset : Int} {e : ReadError ε} (h : r.run buf offset = .error e) :
    (r >>= f).run buf offset = .error e := by
  rw [run_bind, h]

end OffsetReader

/-! ### Moving forward -/

variable {ε α β : Type}

/-- From an offset inside the buffer, a successful read never ends before it. -/
def Forward (r : OffsetReader ε α) : Prop :=
  ∀ ⦃buf : Bytes⦄ ⦃k : Nat⦄ ⦃v : α⦄ ⦃off : Int⦄, r.run buf k = .ok ⟨v, off⟩ → (k : Int) ≤ off

namespace Forward

theorem pure (a : α) : Forward (Pure.pure a : OffsetReader ε α) := by
  intro buf k v off h
  simp only [OffsetReader.run_pure, Except.ok.injEq, Result.mk.injEq] at h
  omega

theorem fail (e : ε) : Forward (OffsetReader.fail e : OffsetReader ε α) := by
  intro buf k v off h
  simp at h

theorem ensure (n : Int) : Forward (OffsetReader.ensure n : OffsetReader ε Unit) := by
  intro buf k v off h
  rw [OffsetReader.run_ensure] at h
  split at h
  · cases h
  · simp only [Except.ok.injEq, Result.mk.injEq] at h
    omega

theorem fixed (oob : ε) (n : Nat) : Forward (OffsetReader.fixed oob n) := by
  intro buf k v off h
  rw [OffsetReader.run_fixed] at h
  split at h
  · cases h
  · split at h
    · cases h
    · simp only [Except.ok.injEq, Result.mk.injEq] at h
      omega

theorem window (cut : Bytes → Int → Int → α) (n : Nat) :
    Forward (OffsetReader.window cut n : OffsetReader ε α) := by
  intro buf k v off h
  rw [OffsetReader.run_window] at h
  split at h
  · cases h
  · simp only [Except.ok.injEq, Result.mk.injEq] at h
    omega

theorem bind {r : OffsetReader ε α} {f : α → OffsetReader ε β} (hr : Forward r)
    (hf : ∀ a, Forward (f a)) : Forward (r >>= f) := by
  intro buf k v off h
  obtain ⟨w, mid, h₁, h₂⟩ := OffsetReader.run_bind_ok h
  have hmid := hr h₁
  lift mid to ℕ using by omega
  exact le_trans hmid (hf w h₂)

end Forward

/-! ### Stability -/

/-- The answer of `r` at an offset with `room` bytes behind it does not depend on
what else the buffer holds: more bytes behind do not change a value or a failure,
bytes in front only shift the offsets. Where the offset ends up before the start of
the buffer, only the offset is asked to be stable, not the value. -/
structure StableFrom (room : Int) (r : OffsetReader ε α) : Prop where
  ok : ∀ (pre more : Bytes) {rest : Bytes} {k : Nat} {v : α} {off : Int}, k ≤ rest.length →
    (k : Int) + room ≤ rest.length → r.run rest k = .ok ⟨v, off⟩ →
    off ≤ rest.length ∧ ∃ v', r.run (pre ++ rest ++ more) ((pre.length : Int) + k) =
      .ok ⟨v', (pre.length : Int) + off⟩ ∧ (0 ≤ off → v' = v)
  error : ∀ (pre more : Bytes) {rest : Bytes} {k : Nat} {e : ε}, k ≤ rest.length →
    (k : Int) + room ≤ rest.length → r.run rest k = .error (.error e) →
    r.run (pre ++ rest ++ more) ((pre.length : Int) + k) = .error (.error e)
  starved : ∀ (pre : Bytes) {rest : Bytes} {k : Nat} {n : Int}, k ≤ rest.length →
    (k : Int) + room ≤ rest.length → r.run rest k = .error (.notEnoughData n) →
    r.run (pre ++ rest) ((pre.length : Int) + k) = .error (.notEnoughData ((pre.length : Int) + n))

/-- Stable at every offset inside the buffer. -/
abbrev Stable (r : OffsetReader ε α) : Prop := StableFrom 0 r

/-- A `cut` that only looks at the bytes between its two bounds, when neither is
negative. -/
def Windowed (cut : Bytes → Int → Int → α) : Prop :=
  ∀ (pre rest more : Bytes) (i j : Nat), i ≤ rest.length → j ≤ rest.length →
    cut (pre ++ rest ++ more) ((pre.length : Int) + i) ((pre.length : Int) + j) = cut rest i j

namespace StableFrom

theorem anyRoom {r : OffsetReader ε α} (h : Stable r) (room : Int) : StableFrom room r where
  ok pre more _ _ _ _ hk _ := h.ok pre more hk (by omega)
  error pre more _ _ _ hk _ := h.error pre more hk (by omega)
  starved pre _ _ _ hk _ := h.starved pre hk (by omega)

theorem pure (a : α) : Stable (Pure.pure a : OffsetReader ε α) where
  ok := by
    intro pre more rest k v off hk _ h
    simp only [OffsetReader.run_pure, Except.ok.injEq, Result.mk.injEq] at h ⊢
    obtain ⟨rfl, rfl⟩ := h
    exact ⟨by omega, a, ⟨rfl, rfl⟩, fun _ => rfl⟩
  error := by intro pre more rest k e _ _ h; simp at h
  starved := by intro pre rest k n _ _ h; simp at h

theorem fail (e : ε) : Stable (OffsetReader.fail e : OffsetReader ε α) where
  ok := by intro pre more rest k v off _ _ h; simp at h
  error := by
    intro pre more rest k e' _ _ h
    simpa using h
  starved := by intro pre rest k n _ _ h; simp at h

theorem ensure (n : Int) : Stable (OffsetReader.ensure n : OffsetReader ε Unit) where
  ok := by
    intro pre more rest k v off hk _ h
    rw [OffsetReader.run_ensure] at h ⊢
    split at h
    · cases h
    · simp only [Except.ok.injEq, Result.mk.injEq, true_and] at h
      subst h
      rw [if_neg (by simp only [List.length_append, Nat.cast_add]; omega)]
      exact ⟨by omega, (), rfl, fun _ => rfl⟩
  error := by
    intro pre more rest k e _ _ h
    rw [OffsetReader.run_ensure] at h
    split at h <;> cases h
  starved := by
    intro pre rest k m hk _ h
    rw [OffsetReader.run_ensure] at h ⊢
    split at h
    · simp only [Except.error.injEq, ReadError.notEnoughData.injEq] at h
      rw [if_pos (by simp only [List.length_append, Nat.cast_add]; omega)]
      congr 2; omega
    · cases h

theorem skip (n : Int) : StableFrom n (OffsetReader.skip n : OffsetReader ε Unit) where
  ok := by
    intro pre more rest k v off hk hroom h
    simp only [OffsetReader.run_skip, Except.ok.injEq, Result.mk.injEq, true_and] at h ⊢
    exact ⟨by omega, (), by omega, fun _ => trivial⟩
  error := by intro pre more rest k e _ _ h; simp at h
  starved := by intro pre rest k n _ _ h; simp at h

theorem fixed (oob : ε) (n : Nat) : Stable (OffsetReader.fixed oob n) where
  ok := by
    intro pre more rest k v off hk _ h
    rw [OffsetReader.run_fixed] at h
    rw [OffsetReader.run_fixed]
    split at h
    · cases h
    · rename_i hlen
      rw [if_neg (by omega)] at h
      simp only [Except.ok.injEq, Result.mk.injEq] at h
      obtain ⟨rfl, rfl⟩ := h
      refine ⟨by omega, _, ?_, fun _ => rfl⟩
      rw [if_neg (by simp only [List.length_append, Nat.cast_add]; omega), if_neg (by omega)]
      have hoff : ((pre.length : Int) + k).toNat = pre.length + k := by omega
      rw [hoff, Int.toNat_natCast, List.append_assoc, List.drop_length_add_append,
        List.drop_append_of_le_length hk, List.take_append_of_le_length]
      · congr 2; omega
      · rw [List.length_drop]; omega
  error := by
    intro pre more rest k e hk _ h
    rw [OffsetReader.run_fixed] at h
    split at h
    · cases h
    · rw [if_neg (by omega)] at h; cases h
  starved := by
    intro pre rest k m hk _ h
    rw [OffsetReader.run_fixed] at h
    rw [OffsetReader.run_fixed]
    split at h
    · simp only [Except.error.injEq, ReadError.notEnoughData.injEq] at h
      rw [if_pos (by simp only [List.length_append, Nat.cast_add]; omega)]
      congr 2; omega
    · split at h <;> cases h

theorem window {cut : Bytes → Int → Int → α} (hcut : Windowed cut) (n : Int) :
    Stable (OffsetReader.window cut n : OffsetReader ε α) where
  ok := by
    intro pre more rest k v off hk _ h
    rw [OffsetReader.run_window] at h
    rw [OffsetReader.run_window]
    split at h
    · cases h
    · simp only [Except.ok.injEq, Result.mk.injEq] at h
      obtain ⟨rfl, rfl⟩ := h
      refine ⟨by omega, cut (pre ++ rest ++ more) (pre.length + k) (pre.length + (k + n)), ?_, ?_⟩
      · rw [if_neg (by simp only [List.length_append, Nat.cast_add]; omega), Int.add_assoc]
      · intro hoff
        obtain ⟨j, hj⟩ := Int.eq_ofNat_of_zero_le hoff
        rw [hj]
        exact hcut pre rest more k j hk (by omega)
  error := by
    intro pre more rest k e hk _ h
    rw [OffsetReader.run_window] at h
    split at h <;> cases h
  starved := by
    intro pre rest k m hk _ h
    rw [OffsetReader.run_window] at h
    rw [OffsetReader.run_window]
    split at h
    · simp only [Except.error.injEq, ReadError.notEnoughData.injEq] at h
      rw [if_pos (by simp only [List.length_append, Nat.cast_add]; omega)]
      congr 2; omega
    · cases h

/-- A chain is stable when its first half moves forward and leaves at least
`room'` bytes for the second. -/
theorem bind_of {room room' : Int} {r : OffsetReader ε α} {f : α → OffsetReader ε β}
    (hr : StableFrom room r)
    (hmove : ∀ {buf : Bytes} {k : Nat} {v : α} {off : Int}, k ≤ buf.length →
      (k : Int) + room ≤ buf.length → r.run buf k = .ok ⟨v, off⟩ →
      (k : Int) ≤ off ∧ off + room' ≤ buf.length)
    (hf : ∀ a, StableFrom room' (f a)) : StableFrom room (r >>= f) where
  ok := by
    intro pre more rest k v off hk hroom h
    obtain ⟨w, mid, h₁, h₂⟩ := OffsetReader.run_bind_ok h
    obtain ⟨hge, hleft⟩ := hmove hk hroom h₁
    obtain ⟨hmid, w', hrun, hw⟩ := hr.ok pre more hk hroom h₁
    obtain rfl := hw (by omega)
    lift mid to ℕ using by omega
    obtain ⟨hoff, v', hrun', hv⟩ :=
      (hf w').ok pre more (by omega) hleft h₂
    exact ⟨hoff, v', by rw [OffsetReader.run_bind_of_ok hrun, hrun'], hv⟩
  error := by
    intro pre more rest k e hk hroom h
    rcases OffsetReader.run_bind_error h with h₁ | ⟨w, mid, h₁, h₂⟩
    · exact OffsetReader.run_bind_of_error (hr.error pre more hk hroom h₁)
    · obtain ⟨hge, hleft⟩ := hmove hk hroom h₁
      obtain ⟨hmid, w', hrun, hw⟩ := hr.ok pre more hk hroom h₁
      obtain rfl := hw (by omega)
      lift mid to ℕ using by omega
      rw [OffsetReader.run_bind_of_ok hrun]
      exact (hf w').error pre more (by omega) hleft h₂
  starved := by
    intro pre rest k n hk hroom h
    rcases OffsetReader.run_bind_error h with h₁ | ⟨w, mid, h₁, h₂⟩
    · exact OffsetReader.run_bind_of_error (hr.starved pre hk hroom h₁)
    · obtain ⟨hge, hleft⟩ := hmove hk hroom h₁
      obtain ⟨hmid, w', hrun, hw⟩ := hr.ok pre [] hk hroom h₁
      obtain rfl := hw (by omega)
      lift mid to ℕ using by omega
      rw [List.append_nil] at hrun
      rw [OffsetReader.run_bind_of_ok hrun]
      exact (hf w').starved pre (by omega) hleft h₂

/-- A chain is stable when its first half moves forward. -/
theorem bind {room : Int} {r : OffsetReader ε α} {f : α → OffsetReader ε β}
    (hr : StableFrom room r) (hfwd : Forward r) (hf : ∀ a, Stable (f a)) :
    StableFrom room (r >>= f) := by
  refine bind_of hr (fun hk hroom h => ⟨hfwd h, ?_⟩) hf
  have := (hr.ok [] [] hk hroom h).1
  omega

/-- Behind a length check the rest of the chain may rely on that many bytes. -/
theorem ensure_bind {n : Int} {f : Unit → OffsetReader ε β} (hf : StableFrom n (f ())) :
    Stable (OffsetReader.ensure n >>= f) := by
  refine bind_of (ensure n) (fun _ _ h => ?_) (fun _ => hf)
  rw [OffsetReader.run_ensure] at h
  split at h
  · cases h
  · simp only [Except.ok.injEq, Result.mk.injEq] at h
    omega

/-- A reader of exactly `m` bytes uses up `m` bytes of the room behind the offset. -/
theorem bind_exact {room : Int} {m : Nat} {r : OffsetReader ε α} {f : α → OffsetReader ε β}
    (hr : Stable r)
    (hlen : ∀ {buf : Bytes} {k : Nat} {v : α} {off : Int}, r.run buf k = .ok ⟨v, off⟩ → off = k + m)
    (hf : ∀ a, StableFrom (room - m) (f a)) : StableFrom room (r >>= f) := by
  refine bind_of (hr.anyRoom room) (fun _ hroom h => ?_) hf
  have := hlen h
  omega

/-- Mapping the value keeps stability, also where the offset moved back. -/
theorem map {room : Int} {r : OffsetReader ε α} (hr : StableFrom room r) (g : α → β) :
    StableFrom room (r >>= fun a => Pure.pure (g a)) where
  ok := by
    intro pre more rest k v off hk hroom h
    obtain ⟨w, mid, h₁, h₂⟩ := OffsetReader.run_bind_ok h
    simp only [OffsetReader.run_pure, Except.ok.injEq, Result.mk.injEq] at h₂
    obtain ⟨rfl, rfl⟩ := h₂
    obtain ⟨hmid, w', hrun, hw⟩ := hr.ok pre more hk hroom h₁
    exact ⟨hmid, g w', by rw [OffsetReader.run_bind_of_ok hrun]; rfl, fun h0 => by rw [hw h0]⟩
  error := by
    intro pre more rest k e hk hroom h
    rcases OffsetReader.run_bind_error h with h₁ | ⟨w, mid, h₁, h₂⟩
    · exact OffsetReader.run_bind_of_error (hr.error pre more hk hroom h₁)
    · simp at h₂
  starved := by
    intro pre rest k n hk hroom h
    rcases OffsetReader.run_bind_error h with h₁ | ⟨w, mid, h₁, h₂⟩
    · exact OffsetReader.run_bind_of_error (hr.starved pre hk hroom h₁)
    · simp at h₂

end StableFrom

/-! ### Steady readers -/

/-- Stable and moving forward: what every reader of a chain but the last must be. -/
structure Steady (r : OffsetReader ε α) : Prop where
  forward : Forward r
  stable : Stable r

namespace Steady

theorem pure (a : α) : Steady (Pure.pure a : OffsetReader ε α) := ⟨Forward.pure a, .pure a⟩

theorem fail (e : ε) : Steady (OffsetReader.fail e : OffsetReader ε α) := ⟨Forward.fail e, .fail e⟩

theorem ensure (n : Int) : Steady (OffsetReader.ensure n : OffsetReader ε Unit) :=
  ⟨Forward.ensure n, .ensure n⟩

theorem fixed (oob : ε) (n : Nat) : Steady (OffsetReader.fixed oob n) :=
  ⟨Forward.fixed oob n, .fixed oob n⟩

theorem window {cut : Bytes → Int → Int → α} (hcut : Windowed cut) (n : Nat) :
    Steady (OffsetReader.window cut n : OffsetReader ε α) := ⟨Forward.window cut n, .window hcut n⟩

theorem bind {r : OffsetReader ε α} {f : α → OffsetReader ε β} (hr : Steady r)
    (hf : ∀ a, Steady (f a)) : Steady (r >>= f) :=
  ⟨Forward.bind hr.forward fun a => (hf a).forward,
    hr.stable.bind hr.forward fun a => (hf a).stable⟩

/-- Behind a steady reader, a chain may end with a reader that is only stable. -/
theorem stable_bind {r : OffsetReader ε α} {f : α → OffsetReader ε β} (hr : Steady r)
    (hf : ∀ a, Stable (f a)) : Stable (r >>= f) := hr.stable.bind hr.forward hf

end Steady

end Chunked
