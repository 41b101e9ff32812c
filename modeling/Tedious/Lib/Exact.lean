import Tedious.Lib.Repeat

/-!
# Tedious.Lib.Exact

**Readers of an encoding.** `Returns r bytes v` says that wherever `bytes` stand in a
buffer, `r` reads them as `v` and stops behind them. `Reads r bytes v` says in addition
that a buffer that ends before they do makes `r` ask for more, and nothing else.

Both compose along `bind`, by appending the bytes. A length check in front
(`Reads.ensure_bind`) is what lets a chain whose links do not check for themselves ask
for more, and a loop reads the bytes of its rounds (`Reads.loop_next`, `Reads.loop_exit`).
-/

namespace Chunked

variable {ε α β γ : Type}

/-- Wherever `bytes` stand, `r` reads them as `v`. -/
def Returns (r : OffsetReader ε α) (bytes : Bytes) (v : α) : Prop :=
  ∀ pre rest : Bytes,
    r.run (pre ++ bytes ++ rest) pre.length = .ok ⟨v, ((pre ++ bytes).length : Nat)⟩

/-- A buffer that ends inside `bytes` makes `r` ask for more. -/
def Starves (r : OffsetReader ε α) (bytes : Bytes) : Prop :=
  ∀ pre part : Bytes, part <+: bytes → part ≠ bytes →
    ∃ n, r.run (pre ++ part) pre.length = .error (.notEnoughData n)

/-- `r` reads exactly `bytes`, as `v`, and asks for more where they are not all there. -/
structure Reads (r : OffsetReader ε α) (bytes : Bytes) (v : α) : Prop where
  returns : Returns r bytes v
  starves : Starves r bytes

/-! ### Chains -/

variable {r : OffsetReader ε α} {f : α → OffsetReader ε β} {bytes bytes₁ bytes₂ : Bytes} {v : α}
  {w : β}

theorem Returns.unique {v' : α} (h : Returns r bytes v) (h' : Returns r bytes v') : v = v' := by
  have hrun := (h [] []).symm.trans (h' [] [])
  cases hrun
  rfl

theorem Returns.pure (v : α) : Returns (Pure.pure v : OffsetReader ε α) [] v := by
  intro pre rest
  rw [List.append_nil]
  rfl

theorem Returns.bind (hr : Returns r bytes₁ v) (hf : Returns (f v) bytes₂ w) :
    Returns (r >>= f) (bytes₁ ++ bytes₂) w := by
  intro pre rest
  have hfirst := hr pre (bytes₂ ++ rest)
  have hsecond := hf (pre ++ bytes₁) rest
  simp only [← List.append_assoc] at hfirst ⊢
  rw [OffsetReader.run_bind_of_ok hfirst]
  exact hsecond

theorem Returns.map (hr : Returns r bytes v) (g : α → β) :
    Returns (r >>= fun a => Pure.pure (g a)) bytes (g v) := by
  have h := hr.bind (f := fun a => Pure.pure (g a)) (.pure (g v))
  rwa [List.append_nil] at h

theorem Returns.skip (n : Nat) {bytes : Bytes} (hlength : bytes.length = n) :
    Returns (OffsetReader.skip n : OffsetReader ε Unit) bytes () := by
  intro pre rest
  rw [OffsetReader.run_skip, List.length_append, hlength]
  rfl

theorem Reads.pure (v : α) : Reads (Pure.pure v : OffsetReader ε α) [] v where
  returns := .pure v
  starves := fun _ _ hpart hne => absurd (List.prefix_nil.1 hpart) hne

theorem Reads.bind (hr : Reads r bytes₁ v) (hf : Reads (f v) bytes₂ w) :
    Reads (r >>= f) (bytes₁ ++ bytes₂) w where
  returns := hr.returns.bind hf.returns
  starves := by
    intro pre part hpart hne
    rcases List.prefix_or_prefix_of_prefix hpart (List.prefix_append bytes₁ bytes₂) with h | h
    · by_cases heq : part = bytes₁
      · -- The first half is all there, the second one not at all.
        subst heq
        have hfirst := hr.returns pre []
        rw [List.append_nil] at hfirst
        rw [OffsetReader.run_bind_of_ok hfirst]
        have hrest : ([] : Bytes) ≠ bytes₂ := fun hnil => hne (by rw [← hnil, List.append_nil])
        obtain ⟨n, hn⟩ := hf.starves (pre ++ part) [] List.nil_prefix hrest
        rw [List.append_nil] at hn
        exact ⟨n, hn⟩
      · obtain ⟨n, hn⟩ := hr.starves pre part h heq
        exact ⟨n, OffsetReader.run_bind_of_error hn⟩
    · obtain ⟨more, rfl⟩ := h
      have hfirst := hr.returns pre more
      rw [← List.append_assoc, OffsetReader.run_bind_of_ok hfirst]
      refine hf.starves (pre ++ bytes₁) more ((List.prefix_append_right_inj _).1 hpart) fun heq => ?_
      exact hne (by rw [heq])

/-- What follows reads no more bytes. -/
theorem Reads.bind_nil (hr : Reads r bytes v) (hf : Reads (f v) [] w) :
    Reads (r >>= f) bytes w := by
  have h := hr.bind hf
  rwa [List.append_nil] at h

theorem Reads.map (hr : Reads r bytes v) (g : α → β) :
    Reads (r >>= fun a => Pure.pure (g a)) bytes (g v) :=
  hr.bind_nil (.pure (g v))

/-- Behind a check for all of its bytes, a chain need not check again. -/
theorem Reads.ensure_bind {f : Unit → OffsetReader ε β} {n : Nat} (hlength : bytes.length = n)
    (hf : Returns (f ()) bytes w) : Reads (OffsetReader.ensure n >>= f) bytes w where
  returns := by
    intro pre rest
    have hensure : (OffsetReader.ensure n : OffsetReader ε Unit).run (pre ++ bytes ++ rest)
        pre.length = .ok ⟨(), pre.length⟩ := by
      rw [OffsetReader.run_ensure, if_neg]
      rw [List.length_append, List.length_append]
      omega
    rw [OffsetReader.run_bind_of_ok hensure]
    exact hf pre rest
  starves := by
    intro pre part hpart hne
    have hlt : part.length < bytes.length :=
      lt_of_le_of_ne hpart.length_le fun heq => hne (hpart.eq_of_length heq)
    refine ⟨(pre.length : Int) + n, OffsetReader.run_bind_of_error ?_⟩
    rw [OffsetReader.run_ensure, if_pos]
    rw [List.length_append]
    omega

/-! ### Windows and repetitions -/

theorem Reads.fixed (oob : ε) (bytes : Bytes) :
    Reads (OffsetReader.fixed oob bytes.length) bytes bytes where
  returns := by
    intro pre rest
    rw [OffsetReader.run_fixed, if_neg, if_neg (by omega), Int.toNat_natCast, List.append_assoc,
      List.drop_left, List.take_left, List.length_append]
    · rfl
    · rw [List.length_append, List.length_append]
      omega
  starves := by
    intro pre part hpart hne
    have hlt : part.length < bytes.length :=
      lt_of_le_of_ne hpart.length_le fun heq => hne (hpart.eq_of_length heq)
    refine ⟨_, if_pos ?_⟩
    rw [List.length_append]
    omega

theorem Reads.window {cut : Bytes → Int → Int → α} (hcut : Windowed cut) (bytes : Bytes) :
    Reads (OffsetReader.window cut bytes.length : OffsetReader ε α) bytes
      (cut bytes 0 bytes.length) where
  returns := by
    intro pre rest
    have hwindow := hcut pre bytes rest 0 bytes.length (Nat.zero_le _) le_rfl
    rw [Nat.cast_zero, Int.add_zero] at hwindow
    rw [OffsetReader.run_window, if_neg, hwindow, List.length_append]
    · rfl
    · rw [List.length_append, List.length_append]
      omega
  starves := by
    intro pre part hpart hne
    have hlt : part.length < bytes.length :=
      lt_of_le_of_ne hpart.length_le fun heq => hne (hpart.eq_of_length heq)
    refine ⟨_, if_pos ?_⟩
    rw [List.length_append]
    omega

theorem Reads.times {vs : List α} (encode : α → Bytes) (hr : ∀ v ∈ vs, Reads r (encode v) v) :
    Reads (r.times vs.length) (vs.flatMap encode) vs := by
  induction vs with
  | nil => exact .pure []
  | cons v vs ih =>
    have hrest := ih fun v' hv' => hr v' (List.mem_cons_of_mem _ hv')
    exact (hr v (List.mem_cons_self ..)).bind (hrest.map (v :: ·))

/-! ### Any bytes -/

/-- `r` reads whatever stands in `n` bytes. -/
def ReadsAny (r : OffsetReader ε α) (n : Nat) : Prop :=
  ∀ bytes : Bytes, bytes.length = n → ∃ v, Reads r bytes v

theorem ReadsAny.pure (v : α) : ReadsAny (Pure.pure v : OffsetReader ε α) 0 := by
  intro bytes hlength
  rw [List.eq_nil_of_length_eq_zero hlength]
  exact ⟨v, .pure v⟩

theorem ReadsAny.bind {m n : Nat} (hr : ReadsAny r m) (hf : ∀ v, ReadsAny (f v) n) :
    ReadsAny (r >>= f) (m + n) := by
  intro bytes hlength
  obtain ⟨v, hv⟩ := hr (bytes.take m) (by rw [List.length_take]; omega)
  obtain ⟨w, hw⟩ := hf v (bytes.drop m) (by rw [List.length_drop]; omega)
  have hreads := hv.bind hw
  rw [List.take_append_drop] at hreads
  exact ⟨w, hreads⟩

theorem ReadsAny.map {n : Nat} (hr : ReadsAny r n) (g : α → β) :
    ReadsAny (r >>= fun a => Pure.pure (g a)) n :=
  hr.bind fun a => .pure (g a)

/-- Whatever `r` returns satisfies `P`. -/
def Only (P : α → Prop) (r : OffsetReader ε α) : Prop :=
  ∀ ⦃buf : Bytes⦄ ⦃offset : Int⦄ ⦃res : Result α⦄, r.run buf offset = .ok res → P res.value

variable {P : β → Prop}

theorem Only.pure {w : β} (h : P w) : Only P (Pure.pure w : OffsetReader ε β) := by
  rintro buf offset res hrun
  cases hrun
  exact h

theorem Only.bind (hf : ∀ v, Only P (f v)) : Only P (r >>= f) := by
  rintro buf offset res hrun
  obtain ⟨v, mid, -, hrest⟩ := OffsetReader.run_bind_ok hrun
  exact hf v hrest

theorem Reads.only {r : OffsetReader ε β} (h : Reads r bytes w) (hP : Only P r) : P w :=
  hP (h.returns [] [])

/-! ### Loops -/

variable {body : β → OffsetReader ε (β ⊕ γ)} {b b' : β} {c : γ}

/-- A loop is one round, and the loop again unless the round has left it. -/
theorem run_loop_round (hprog : Progress body) {buf : Bytes} {offset : Int}
    (hle : offset ≤ buf.length) :
    (OffsetReader.loop body b).run buf offset =
      (body b >>= fun next =>
        match next with
        | .inl b' => OffsetReader.loop body b'
        | .inr c => pure c).run buf offset := by
  obtain ⟨n, hn⟩ : ∃ n : Nat, (buf.length : Int) - offset < (n : Int) :=
    ⟨((buf.length : Int) - offset + 1).toNat, by omega⟩
  rw [loop_eq_rounds hprog hle (n := n + 1) (by omega), OffsetReader.rounds, OffsetReader.run_bind,
    OffsetReader.run_bind]
  cases hrun : (body b).run buf offset with
  | error e => rfl
  | ok res =>
    obtain ⟨next, off⟩ := res
    cases next with
    | inr c => rfl
    | inl b' =>
      obtain ⟨hlt, hin⟩ := hprog hrun
      exact (loop_eq_rounds hprog hin (by omega)).symm

theorem Reads.of_run_eq {r' : OffsetReader ε α} (h : Reads r' bytes v)
    (heq : ∀ (buf : Bytes) (offset : Int), offset ≤ buf.length →
      r.run buf offset = r'.run buf offset) : Reads r bytes v where
  returns pre rest := by
    rw [heq _ _ (by rw [List.length_append, List.length_append]; omega)]
    exact h.returns pre rest
  starves pre part hpart hne := by
    rw [heq _ _ (by rw [List.length_append]; omega)]
    exact h.starves pre part hpart hne

theorem Reads.loop_next (hprog : Progress body) (hround : Reads (body b) bytes₁ (.inl b'))
    (hloop : Reads (OffsetReader.loop body b') bytes₂ c) :
    Reads (OffsetReader.loop body b) (bytes₁ ++ bytes₂) c :=
  .of_run_eq (hround.bind hloop) fun _ _ hle => run_loop_round hprog hle

theorem Reads.loop_exit (hprog : Progress body) (hround : Reads (body b) bytes (.inr c)) :
    Reads (OffsetReader.loop body b) bytes c := by
  have h := hround.bind (f := fun next =>
    match next with
    | .inl b' => OffsetReader.loop body b'
    | .inr c => Pure.pure c) (.pure c)
  rw [List.append_nil] at h
  exact .of_run_eq h fun _ _ hle => run_loop_round hprog hle

end Chunked
