import Tedious.Lib.Exact
import Tedious.Lib.ScannerSound

/-!
# Tedious.Lib.Takes

**Tasks on an encoding.** `Takes t s bytes v s'` says that `t`, with the register `s` and
on any bytes that begin with `bytes`, returns `v`, leaves what stands behind `bytes`, and
leaves the register `s'`. It composes along `bind` by appending the bytes, holds of a wait
for a reader that returns there, and of a loop round by round: how often a loop may go
round does not matter once its rounds consume (`iterate_eq_of_lt`).
-/

namespace Chunked

namespace Task

variable {ε σ α β γ : Type}

/-- On bytes that begin with `bytes`, `t` returns `v` and leaves the rest of them. -/
def Takes (t : Task ε σ α) (s : σ) (bytes : Bytes) (v : α) (s' : σ) : Prop :=
  ∀ rest, t.scan (bytes ++ rest) s = .done v rest s'

variable {t : Task ε σ α} {f : α → Task ε σ β} {s s₁ s₂ : σ} {bytes bytes₁ bytes₂ : Bytes} {v : α}
  {w : β}

theorem Takes.pure (v : α) (s : σ) : Takes (Pure.pure v : Task ε σ α) s [] v s := fun _ => rfl

/-- What follows goes on behind the bytes. -/
theorem Takes.scan_bind (ht : Takes t s bytes v s₁) (f : α → Task ε σ β) (rest : Bytes) :
    (t >>= f).scan (bytes ++ rest) s = (f v).scan rest s₁ := by
  refine (Task.scan_bind t f _ s).trans ?_
  rw [ht rest, Scan.bind_done]

theorem Takes.bind (ht : Takes t s bytes₁ v s₁) (hf : Takes (f v) s₁ bytes₂ w s₂) :
    Takes (t >>= f) s (bytes₁ ++ bytes₂) w s₂ := by
  intro rest
  rw [List.append_assoc, ht.scan_bind]
  exact hf rest

/-- What follows takes no more bytes. -/
theorem Takes.bind_nil (ht : Takes t s bytes v s₁) (hf : Takes (f v) s₁ [] w s₂) :
    Takes (t >>= f) s bytes w s₂ := by
  have h := ht.bind hf
  rwa [List.append_nil] at h

theorem Takes.map (ht : Takes t s bytes v s₁) (g : α → β) :
    Takes (t >>= fun a => Pure.pure (g a)) s bytes (g v) s₁ :=
  ht.bind_nil (.pure (g v) s₁)

theorem Takes.await {r : OffsetReader ε α} (hr : Returns r bytes v) (s : σ) :
    Takes (await r : Task ε σ α) s bytes v s := by
  intro rest
  have hrun := hr [] rest
  rw [List.nil_append, List.length_nil, Nat.cast_zero] at hrun
  rw [Task.await, scan, hrun]
  dsimp only
  rw [if_neg (by omega), Int.toNat_natCast, List.drop_left]
  rfl

theorem Takes.get {k : σ → Task ε σ α} (hk : Takes (k s) s bytes v s₁) :
    Takes (Task.get k) s bytes v s₁ := hk

theorem Takes.set {t : Task ε σ α} (ht : Takes t s₁ bytes v s₂) : Takes (Task.set s₁ t) s bytes v s₂ :=
  ht

/-! ### Loops -/

/-- Beyond the number of bytes, more rounds change nothing. -/
theorem iterate_eq_of_lt {f : β → Bytes → σ → Scan ε σ (β ⊕ γ)}
    (hless : ∀ b rest s b' rest' s', f b rest s = .done (.inl b') rest' s' →
      rest'.length < rest.length) {n m : Nat} {b : β} {rest : Bytes} {s : σ}
    (hn : rest.length < n) (hm : rest.length < m) :
    iterate f n b rest s = iterate f m b rest s := by
  induction n generalizing m b rest s with
  | zero => exact absurd hn (Nat.not_lt_zero _)
  | succ n ih =>
    cases m with
    | zero => exact absurd hm (Nat.not_lt_zero _)
    | succ m =>
      rw [iterate, iterate]
      cases hfb : f b rest s with
      | done next rest' s' =>
        cases next with
        | inl b' =>
          have hlt := hless b rest s b' rest' s' hfb
          exact ih (by omega) (by omega)
        | inr c => rfl
      | _ => rfl

variable {body : β → Task ε σ (β ⊕ γ)} {b b' : β} {c : γ}

/-- A loop is one round, and the loop again unless the round has left it. -/
theorem scan_whileTrue
    (hless : ∀ b rest s b' rest' s', (body b).scan rest s = .done (.inl b') rest' s' →
      rest'.length < rest.length) (rest : Bytes) :
    (whileTrue b body).scan rest s = ((body b).scan rest s).bind fun next rest' s' =>
      match next with
      | .inl b' => (whileTrue b' body).scan rest' s'
      | .inr c => .done c rest' s' := by
  rw [whileTrue, scan, iterate]
  cases hbody : (body b).scan rest s with
  | done next rest' s' =>
    cases next with
    | inl b' =>
      have hlt := hless b rest s b' rest' s' hbody
      have hfuel := iterate_eq_of_lt (f := fun b => (body b).scan) hless (n := rest.length)
        (m := rest'.length + 1) (b := b') (s := s') hlt (Nat.lt_succ_self _)
      simp only [Scan.bind_done, hfuel]
      rfl
    | inr c => rfl
  | _ => rfl

theorem Takes.loop_next (body : β → Task ε σ (β ⊕ γ))
    (hless : ∀ b rest s b' rest' s', (body b).scan rest s = .done (.inl b') rest' s' →
      rest'.length < rest.length)
    (hround : Takes (body b) s bytes₁ (.inl b') s₁)
    (hloop : Takes (whileTrue b' body) s₁ bytes₂ c s₂) :
    Takes (whileTrue b body) s (bytes₁ ++ bytes₂) c s₂ := by
  intro rest
  rw [scan_whileTrue hless, List.append_assoc, hround (bytes₂ ++ rest), Scan.bind_done]
  exact hloop rest

theorem Takes.loop_exit
    (hless : ∀ b rest s b' rest' s', (body b).scan rest s = .done (.inl b') rest' s' →
      rest'.length < rest.length)
    (hround : Takes (body b) s bytes (.inr c) s₁) : Takes (whileTrue b body) s bytes c s₁ := by
  intro rest
  rw [scan_whileTrue hless, hround rest, Scan.bind_done]

end Task

/-! ### Runs -/

namespace Scanner

variable {ε σ τ : Type} (sc : Scanner ε σ τ)

/-- A run over any chunks of `bs` and more comes to a point where it has yielded `tokens` and
what stands behind `bs` is left. -/
def Yields (bs : Bytes) (s : σ) (tokens : List (Option τ)) (s' : σ) : Prop :=
  ∀ rest chunks, chunks.flatten = bs ++ rest →
    ∃ run, sc.Reaches (start chunks s) run ∧ Scanning run rest s' ∧ run.yielded = tokens

/-- A token whose task takes exactly its bytes. -/
theorem yields_of_takes (hsc : ∀ type, (sc.dispatch type).AllStable) {type : UInt8} {bytes : Bytes}
    {token : τ} {s s' : σ} (h : Task.Takes (sc.dispatch type) s bytes (some token) s') :
    sc.Yields (type :: bytes) s [some token] s' := by
  intro rest chunks hchunks
  rcases sc.start_reaches chunks s with ⟨rfl, -⟩ | ⟨run₀, hreach₀, hyield₀, hscan₀⟩
  · cases hchunks
  · rw [hchunks, List.cons_append] at hscan₀
    obtain ⟨run₁, hcont₁, hread₁⟩ := sc.scanning_to_type hscan₀
    have hfollows := sc.task_follows (hsc type) (k := .pure) (by
      rw [Task.bind_pure]; exact hread₁)
    rw [h rest] at hfollows
    obtain ⟨run₂, hcont₂, awaited, hc₂⟩ := hfollows
    obtain ⟨hscan₃, hyield⟩ := sc.yield_token
      ⟨⟨awaited, hc₂⟩, hcont₂.wellPlaced, hcont₂.rest, hcont₂.register⟩
    have hreach : sc.Reaches (start chunks s) (sc.step run₂) :=
      ((hreach₀.trans sc hcont₁.reaches).trans sc hcont₂.reaches).trans sc
        (Reaches.step sc (Reaches.refl sc _))
    refine ⟨sc.step run₂, hreach, hscan₃, ?_⟩
    rcases hyield with hy | ⟨hnone, -⟩
    · rw [hy, hcont₂.yielded, hcont₁.yielded, hyield₀, List.nil_append]
    · cases hnone

end Scanner

end Chunked
