import Tedious.Lib.OffsetReader

/-!
# Tedious.Lib.Task

**Decoders that wait.** A `Task` is an asynchronous decoding routine over a growing
buffer: it reads with `OffsetReader`s, and where one of them finds too few bytes the
routine is suspended until the buffer has grown and then tries the same read again.
Between two reads it may look at and change a register.

`Task.scan` is the reference meaning of a task: it runs on *all* the bytes there
will ever be, so it never waits. Its outcome is either a value with the bytes left
over, a failure, or one of two ways of not coming to an end: the bytes ended inside
a read (`starved`), or a read moved back behind the place where it began
(`rewound`), which leaves the bytes it was given. `stalled` marks a loop that ran
more often than there are bytes; loops that consume (`Task.Consuming`) never do.
-/

namespace Chunked

/-- An asynchronous decoding routine with failures `ε` and a register `σ`. -/
inductive Task (ε σ : Type) : Type → Type 1
  /-- Return. -/
  | pure {α : Type} (a : α) : Task ε σ α
  /-- Throw. -/
  | throw {α : Type} (e : ε) : Task ε σ α
  /-- Look at the register. -/
  | get {α : Type} (k : σ → Task ε σ α) : Task ε σ α
  /-- Replace the register. -/
  | set {α : Type} (s : σ) (t : Task ε σ α) : Task ε σ α
  /-- Read and commit the position, waiting as long as the buffer is too short. -/
  | read {α β : Type} (r : OffsetReader ε β) (k : β → Task ε σ α) : Task ε σ α
  /-- Repeat `body` on a loop variable until it leaves the loop with `Sum.inr`. -/
  | loop {α β γ : Type} (body : β → Task ε σ (β ⊕ γ)) (b : β) (k : γ → Task ε σ α) : Task ε σ α

namespace Task

variable {ε σ α β γ : Type}

/-- Sequencing. -/
def bind {α β : Type} : Task ε σ α → (α → Task ε σ β) → Task ε σ β
  | pure a, f => f a
  | throw e, _ => throw e
  | get k, f => get fun s => (k s).bind f
  | set s t, f => set s (t.bind f)
  | read r k, f => read r fun b => (k b).bind f
  | loop body b k, f => loop body b fun c => (k c).bind f

instance : Monad (Task ε σ) where
  pure := Task.pure
  bind := Task.bind

/-- Wait for a read, then return what it read. -/
def await (r : OffsetReader ε α) : Task ε σ α := read r pure

/-- `while (true)` around `body`, left with `Sum.inr`. -/
def whileTrue (b : β) (body : β → Task ε σ (β ⊕ γ)) : Task ε σ γ := loop body b pure

@[simp] theorem bind_pure (t : Task ε σ α) : t.bind pure = t := by
  induction t with
  | pure a => rfl
  | throw e => rfl
  | get k ih => simp only [bind, ih]
  | set s t ih => simp only [bind, ih]
  | read r k ih => simp only [bind, ih]
  | loop body b k _ ih => simp only [bind, ih]

end Task

/-! ### The reference meaning -/

/-- How a task ends on a complete byte string. -/
inductive Scan (ε σ α : Type)
  /-- It returned, with these bytes left over and this register. -/
  | done (a : α) (rest : Bytes) (s : σ)
  | threw (e : ε)
  /-- The bytes ended inside a read. -/
  | starved
  /-- A read moved back behind the place where it began. -/
  | rewound
  /-- A loop went round without consuming. -/
  | stalled

namespace Scan

variable {ε σ α β : Type}

def bind : Scan ε σ α → (α → Bytes → σ → Scan ε σ β) → Scan ε σ β
  | done a rest s, f => f a rest s
  | threw e, _ => threw e
  | starved, _ => starved
  | rewound, _ => rewound
  | stalled, _ => stalled

@[simp] theorem bind_done (a : α) (rest : Bytes) (s : σ) (f : α → Bytes → σ → Scan ε σ β) :
    (done a rest s).bind f = f a rest s := rfl

theorem bind_eq_done {x : Scan ε σ α} {f : α → Bytes → σ → Scan ε σ β} {b : β} {rest : Bytes}
    {s : σ} (h : x.bind f = done b rest s) :
    ∃ a rest' s', x = done a rest' s' ∧ f a rest' s' = done b rest s := by
  cases x with
  | done a rest' s' => exact ⟨a, rest', s', rfl, h⟩
  | _ => cases h

end Scan

namespace Task

variable {ε σ α β γ : Type}

/-- Go round a loop whose body means `f`, at most `n` times. -/
def iterate (f : β → Bytes → σ → Scan ε σ (β ⊕ γ)) : Nat → β → Bytes → σ → Scan ε σ γ
  | 0, _, _, _ => .stalled
  | n + 1, b, rest, s => (f b rest s).bind fun next rest' s' =>
      match next with
      | .inl b' => iterate f n b' rest' s'
      | .inr c => .done c rest' s'

/-- Run a task on all the bytes there are. -/
def scan {α : Type} : Task ε σ α → Bytes → σ → Scan ε σ α
  | pure a, rest, s => .done a rest s
  | throw e, _, _ => .threw e
  | get k, rest, s => (k s).scan rest s
  | set s t, rest, _ => t.scan rest s
  | read r k, rest, s =>
      match r.run rest 0 with
      | .ok ⟨v, off⟩ => if off < 0 then .rewound else (k v).scan (rest.drop off.toNat) s
      | .error (.error e) => .threw e
      | .error (.notEnoughData _) => .starved
  | loop body b k, rest, s =>
      (iterate (fun b => (body b).scan) (rest.length + 1) b rest s).bind fun c rest' s' =>
        (k c).scan rest' s'

theorem scan_bind (t : Task ε σ α) (f : α → Task ε σ β) (rest : Bytes) (s : σ) :
    (t.bind f).scan rest s = (t.scan rest s).bind fun a rest' s' => (f a).scan rest' s' := by
  induction t generalizing rest s with
  | pure a => rfl
  | throw e => rfl
  | get k ih => simp only [bind, scan, ih]
  | set s' t ih => simp only [bind, scan, ih]
  | read r k ih =>
    simp only [bind, scan]
    cases r.run rest 0 with
    | error e => cases e <;> rfl
    | ok res =>
      dsimp only
      split
      · rfl
      · exact ih ..
  | loop body b k _ ih =>
    simp only [bind, scan, ih]
    cases iterate (fun b => (body b).scan) (rest.length + 1) b rest s <;> rfl

/-- Every read of the task is stable. -/
def AllStable {α : Type} : Task ε σ α → Prop
  | pure _ => True
  | throw _ => True
  | get k => ∀ s, (k s).AllStable
  | set _ t => t.AllStable
  | read r k => Stable r ∧ ∀ b, (k b).AllStable
  | loop body _ k => (∀ b, (body b).AllStable) ∧ ∀ c, (k c).AllStable

theorem AllStable.bind {t : Task ε σ α} {f : α → Task ε σ β} (ht : t.AllStable)
    (hf : ∀ a, (f a).AllStable) : (t.bind f).AllStable := by
  induction t with
  | pure a => exact hf a
  | throw e => trivial
  | get k ih => exact fun s => ih s (ht s) hf
  | set s t ih => exact ih ht hf
  | read r k ih => exact ⟨ht.1, fun b => ih b (ht.2 b) hf⟩
  | loop body b k _ ih => exact ⟨ht.1, fun c => ih c (ht.2 c) hf⟩

theorem AllStable.await {r : OffsetReader ε α} (hr : Stable r) :
    (await r : Task ε σ α).AllStable := ⟨hr, fun _ => trivial⟩

/-- Every loop of the task consumes: a round that goes on leaves fewer bytes. -/
def Consuming {α : Type} : Task ε σ α → Prop
  | pure _ => True
  | throw _ => True
  | get k => ∀ s, (k s).Consuming
  | set _ t => t.Consuming
  | read _ k => ∀ b, (k b).Consuming
  | loop body _ k => (∀ b, (body b).Consuming) ∧
      (∀ b rest s b' rest' s', (body b).scan rest s = .done (.inl b') rest' s' →
        rest'.length < rest.length) ∧ ∀ c, (k c).Consuming

theorem Consuming.bind {t : Task ε σ α} {f : α → Task ε σ β} (ht : t.Consuming)
    (hf : ∀ a, (f a).Consuming) : (t.bind f).Consuming := by
  induction t with
  | pure a => exact hf a
  | throw e => trivial
  | get k ih => exact fun s => ih s (ht s) hf
  | set s t ih => exact ih ht hf
  | read r k ih => exact fun b => ih b (ht b) hf
  | loop body b k _ ih => exact ⟨ht.1, ht.2.1, fun c => ih c (ht.2.2 c) hf⟩

theorem iterate_ne_stalled {f : β → Bytes → σ → Scan ε σ (β ⊕ γ)}
    (hf : ∀ b rest s, f b rest s ≠ .stalled)
    (hless : ∀ b rest s b' rest' s', f b rest s = .done (.inl b') rest' s' →
      rest'.length < rest.length) :
    ∀ (n : Nat) (b : β) (rest : Bytes) (s : σ), rest.length < n →
      iterate f n b rest s ≠ .stalled := by
  intro n
  induction n with
  | zero => intro b rest s h; omega
  | succ n ih =>
    intro b rest s h
    rw [iterate]
    cases hfb : f b rest s with
    | done next rest' s' =>
      rw [Scan.bind_done]
      cases next with
      | inl b' =>
        have := hless b rest s b' rest' s' hfb
        exact ih b' rest' s' (by omega)
      | inr c => simp
    | stalled => exact absurd hfb (hf b rest s)
    | threw e => simp [Scan.bind]
    | starved => simp [Scan.bind]
    | rewound => simp [Scan.bind]

/-- A task whose loops consume never stalls. -/
theorem scan_ne_stalled {t : Task ε σ α} (ht : t.Consuming) (rest : Bytes) (s : σ) :
    t.scan rest s ≠ .stalled := by
  induction t generalizing rest s with
  | pure a => simp [scan]
  | throw e => simp [scan]
  | get k ih => exact ih s (ht s) rest s
  | set s' t ih => exact ih ht rest s'
  | read r k ih =>
    rw [scan]
    cases r.run rest 0 with
    | error e => cases e <;> simp
    | ok res =>
      dsimp only
      split
      · simp
      · exact ih _ (ht _) _ _
  | loop body b k ihb ihk =>
    obtain ⟨hbody, hless, hk⟩ := ht
    rw [scan]
    have hloop := iterate_ne_stalled (fun b rest s => ihb b (hbody b) rest s) hless
      (rest.length + 1) b rest s (by omega)
    cases hit : iterate (fun b => (body b).scan) (rest.length + 1) b rest s with
    | done c rest' s' => exact ihk c (hk c) rest' s'
    | stalled => exact absurd hit hloop
    | _ => simp [Scan.bind]

/-- Every read of the task moves forward. -/
def AllForward {α : Type} : Task ε σ α → Prop
  | pure _ => True
  | throw _ => True
  | get k => ∀ s, (k s).AllForward
  | set _ t => t.AllForward
  | read r k => Forward r ∧ ∀ b, (k b).AllForward
  | loop body _ k => (∀ b, (body b).AllForward) ∧ ∀ c, (k c).AllForward

theorem AllForward.bind {t : Task ε σ α} {f : α → Task ε σ β} (ht : t.AllForward)
    (hf : ∀ a, (f a).AllForward) : (t.bind f).AllForward := by
  induction t with
  | pure a => exact hf a
  | throw e => trivial
  | get k ih => exact fun s => ih s (ht s) hf
  | set s t ih => exact ih ht hf
  | read r k ih => exact ⟨ht.1, fun b => ih b (ht.2 b) hf⟩
  | loop body b k _ ih => exact ⟨ht.1, fun c => ih c (ht.2 c) hf⟩

theorem AllForward.await {r : OffsetReader ε α} (hr : Forward r) :
    (await r : Task ε σ α).AllForward := ⟨hr, fun _ => trivial⟩

theorem iterate_ne_rewound {f : β → Bytes → σ → Scan ε σ (β ⊕ γ)}
    (hf : ∀ b rest s, f b rest s ≠ .rewound) (n : Nat) (b : β) (rest : Bytes) (s : σ) :
    iterate f n b rest s ≠ .rewound := by
  induction n generalizing b rest s with
  | zero => simp [iterate]
  | succ n ih =>
    rw [iterate]
    cases hfb : f b rest s with
    | done next rest' s' =>
      rw [Scan.bind_done]
      cases next with
      | inl b' => exact ih b' rest' s'
      | inr c => simp
    | rewound => exact absurd hfb (hf b rest s)
    | _ => simp [Scan.bind]

/-- A task whose reads move forward never ends before the bytes it was given. -/
theorem scan_ne_rewound {t : Task ε σ α} (ht : t.AllForward) (rest : Bytes) (s : σ) :
    t.scan rest s ≠ .rewound := by
  induction t generalizing rest s with
  | pure a => simp [scan]
  | throw e => simp [scan]
  | get k ih => exact ih s (ht s) rest s
  | set s' t ih => exact ih ht rest s'
  | read r k ih =>
    rw [scan]
    cases hrun : r.run rest 0 with
    | error e => cases e <;> simp
    | ok res =>
      have hoff : (0 : Int) ≤ res.offset := ht.1 (k := 0) hrun
      dsimp only
      rw [if_neg (by omega)]
      exact ih _ (ht.2 _) _ _
  | loop body b k ihb ihk =>
    obtain ⟨hbody, hk⟩ := ht
    have hloop := iterate_ne_rewound (fun b rest s => ihb b (hbody b) rest s) (rest.length + 1) b
      rest s
    rw [scan]
    cases hit : iterate (fun b => (body b).scan) (rest.length + 1) b rest s with
    | done c rest' s' => exact ihk c (hk c) rest' s'
    | rewound => exact absurd hit hloop
    | _ => simp [Scan.bind]

theorem iterate_suffix {f : β → Bytes → σ → Scan ε σ (β ⊕ γ)}
    (hf : ∀ b rest s next rest' s', f b rest s = .done next rest' s' → rest' <:+ rest) :
    ∀ (n : Nat) (b : β) (rest : Bytes) (s : σ) (c : γ) (rest' : Bytes) (s' : σ),
      iterate f n b rest s = .done c rest' s' → rest' <:+ rest := by
  intro n
  induction n with
  | zero => intro b rest s c rest' s' h; cases h
  | succ n ih =>
    intro b rest s c rest' s' h
    obtain ⟨next, mid, s₁, hfb, h⟩ := Scan.bind_eq_done h
    cases next with
    | inl b' => exact (ih b' mid s₁ c rest' s' h).trans (hf _ _ _ _ _ _ hfb)
    | inr c' =>
      simp only [Scan.done.injEq] at h
      obtain ⟨-, rfl, -⟩ := h
      exact hf _ _ _ _ _ _ hfb

/-- A task takes its bytes from the front. -/
theorem scan_suffix {t : Task ε σ α} {rest : Bytes} {s : σ} {a : α} {rest' : Bytes} {s' : σ}
    (h : t.scan rest s = .done a rest' s') : rest' <:+ rest := by
  induction t generalizing rest s rest' s' with
  | pure a' =>
    simp only [scan, Scan.done.injEq] at h
    exact h.2.1 ▸ List.suffix_rfl
  | throw e => cases h
  | get k ih => exact ih s h
  | set s₁ t ih => exact ih h
  | read r k ih =>
    rw [scan] at h
    cases hr : r.run rest 0 with
    | error e => rw [hr] at h; cases e <;> cases h
    | ok res =>
      rw [hr] at h
      dsimp only at h
      split at h
      · cases h
      · exact (ih _ h).trans (List.drop_suffix _ _)
  | loop body b k ihb ihk =>
    obtain ⟨c, mid, s₁, hit, h⟩ := Scan.bind_eq_done h
    exact (ihk c h).trans (iterate_suffix (fun _ _ _ _ _ _ hb => ihb _ hb) _ _ _ _ _ _ _ hit)

/-- A read that always consumes makes everything behind it consume. -/
theorem scan_await_bind_lt {r : OffsetReader ε α} {f : α → Task ε σ β} {rest : Bytes} {s : σ}
    {b : β} {rest' : Bytes} {s' : σ}
    (hr : ∀ {rest : Bytes} {v : α} {off : Int}, r.run rest 0 = .ok ⟨v, off⟩ →
      0 < off ∧ off ≤ rest.length)
    (h : (read r f).scan rest s = .done b rest' s') : rest'.length < rest.length := by
  rw [scan] at h
  cases hrun : r.run rest 0 with
  | error e => rw [hrun] at h; cases e <;> cases h
  | ok res =>
    obtain ⟨hpos, hle⟩ := hr hrun
    rw [hrun] at h
    dsimp only at h
    rw [if_neg (by omega)] at h
    have := (scan_suffix h).length_le
    rw [List.length_drop] at this
    omega

/-! ### Sound tasks -/

/-- Every read is stable and every loop consumes: what a scanner asks of its tasks. -/
structure Sound (t : Task ε σ α) : Prop where
  allStable : t.AllStable
  consuming : t.Consuming

namespace Sound

theorem pure (a : α) : Sound (Pure.pure a : Task ε σ α) := ⟨trivial, trivial⟩

theorem throw (e : ε) : Sound (Task.throw e : Task ε σ α) := ⟨trivial, trivial⟩

theorem get {k : σ → Task ε σ α} (hk : ∀ s, Sound (k s)) : Sound (Task.get k) :=
  ⟨fun s => (hk s).allStable, fun s => (hk s).consuming⟩

theorem set (s : σ) {t : Task ε σ α} (ht : Sound t) : Sound (Task.set s t) :=
  ⟨ht.allStable, ht.consuming⟩

theorem await {r : OffsetReader ε α} (hr : Stable r) : Sound (Task.await r : Task ε σ α) :=
  ⟨⟨hr, fun _ => trivial⟩, fun _ => trivial⟩

theorem bind {t : Task ε σ α} {f : α → Task ε σ β} (ht : Sound t) (hf : ∀ a, Sound (f a)) :
    Sound (t >>= f) :=
  ⟨ht.allStable.bind fun a => (hf a).allStable, ht.consuming.bind fun a => (hf a).consuming⟩

/-- A loop is sound when its body is, and begins with a read that takes some bytes. -/
theorem whileTrue {δ : Type} {r : OffsetReader ε δ} {f : β → δ → Task ε σ (β ⊕ γ)}
    (hr : Stable r)
    (htakes : ∀ {rest : Bytes} {v : δ} {off : Int}, r.run rest 0 = .ok ⟨v, off⟩ →
      0 < off ∧ off ≤ rest.length)
    (hf : ∀ b d, Sound (f b d)) (b : β) :
    Sound (Task.whileTrue b fun b => Task.await r >>= f b) :=
  ⟨⟨fun b => ((await hr).bind (hf b)).allStable, fun _ => trivial⟩,
    fun b => ((await hr).bind (hf b)).consuming,
    fun _ _ _ _ _ _ h => scan_await_bind_lt htakes h, fun _ => trivial⟩

end Sound

end Task

end Chunked
