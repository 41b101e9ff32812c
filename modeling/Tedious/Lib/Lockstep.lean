import Tedious.Lib.Takes

/-!
# Tedious.Lib.Lockstep

**Two runs side by side.** `Extends y R z₀ z₁ run₀ run₁` says that `run₁` stands where
`run₀` stands and has, behind everything that `run₀` has, `y` at the end of the last chunk
and the chunks `R` after it; what they have yielded differs in the beginnings `z₀` and `z₁`
alone. As long as `run₀` does not ask for more than it has (`Dry`), one step of each keeps
them side by side (`Extends.step`). With nothing behind, they end the same way
(`Extends.ends`).

This needs that no read moves back, at any step. The reference knows: what it finds in the
rest of a run (`remainder`) is the same before and after a step, so a run whose rest does not
rewind never will (`Sane.step`).
-/

namespace Chunked

variable {ε σ τ α : Type}

/-! ### Decoders -/

namespace Decoder

variable {d d₀ d₁ : Decoder σ} {y : Bytes} {R : List Bytes}

/-- The bytes of the buffer that were not consumed yet. -/
def current (d : Decoder σ) : Bytes := d.buffer.drop d.position.toNat

theorem length_current (hd : d.WellPlaced) :
    (d.current.length : Int) = d.buffer.length - d.position := by
  obtain ⟨h0, hle⟩ := hd
  rw [current, List.length_drop]
  omega

theorem current_eq_nil (hd : d.WellPlaced) : d.current = [] ↔ d.position = d.buffer.length := by
  have hlength := length_current hd
  rw [← List.length_eq_zero_iff]
  omega

theorem rest_eq (d : Decoder σ) : d.rest = d.current ++ d.chunks.flatten := rfl

theorem current_move (hd : d.WellPlaced) {off : Int} (h0 : 0 ≤ off) :
    ({ d with position := d.position + off } : Decoder σ).current = d.current.drop off.toNat := by
  have hsum : (d.position + off).toNat = d.position.toNat + off.toNat := by
    have := hd.1
    omega
  rw [current, current, List.drop_drop, hsum]

theorem current_waitForChunk {chunk : Bytes} {chunks : List Bytes}
    (h : d.chunks = chunk :: chunks) (hd : d.WellPlaced) :
    d.waitForChunk.1.current = d.current ++ chunk := by
  rw [waitForChunk_cons h hd]
  rfl

theorem chunks_waitForChunk {chunk : Bytes} {chunks : List Bytes} (h : d.chunks = chunk :: chunks)
    (hd : d.WellPlaced) : d.waitForChunk.1.chunks = chunks := by
  rw [waitForChunk_cons h hd]

/-- Behind all that `d₀` has, `d₁` has `y` at the end of the last chunk and `R` after it. -/
structure Extends (y : Bytes) (R : List Bytes) (d₀ d₁ : Decoder σ) : Prop where
  left : d₀.WellPlaced
  right : d₁.WellPlaced
  register : d₁.register = d₀.register
  pieces : ∃ before last, d₀.current :: d₀.chunks = before ++ [last] ∧
    d₁.current :: d₁.chunks = before ++ (last ++ y) :: R

namespace Extends

theorem cases (h : Extends y R d₀ d₁) :
    (d₀.chunks = [] ∧ d₁.current = d₀.current ++ y ∧ d₁.chunks = R) ∨
      (d₁.current = d₀.current ∧ ∃ before last, d₀.chunks = before ++ [last] ∧
        d₁.chunks = before ++ (last ++ y) :: R) := by
  obtain ⟨before, last, h₀, h₁⟩ := h.pieces
  cases before with
  | nil =>
    rw [List.nil_append, List.cons.injEq] at h₀ h₁
    exact .inl ⟨h₀.2, by rw [h₁.1, h₀.1], h₁.2⟩
  | cons first before =>
    rw [List.cons_append, List.cons.injEq] at h₀ h₁
    exact .inr ⟨by rw [h₁.1, h₀.1], before, last, h₀.2, h₁.2⟩

/-- The bytes that `d₁` has in its buffer and `d₀` has not. -/
theorem exists_current (h : Extends y R d₀ d₁) :
    ∃ more, d₁.current = d₀.current ++ more ∧ (d₀.chunks ≠ [] → more = []) ∧
      (y = [] → more = []) := by
  rcases h.cases with ⟨hnil, hcur, -⟩ | ⟨hcur, -⟩
  · exact ⟨y, hcur, fun hne => absurd hnil hne, id⟩
  · exact ⟨[], by rw [hcur, List.append_nil], fun _ => rfl, fun _ => rfl⟩

theorem move (h : Extends y R d₀ d₁) {off : Int} (h0 : 0 ≤ off)
    (hle₀ : d₀.position + off ≤ d₀.buffer.length) (hle₁ : d₁.position + off ≤ d₁.buffer.length) :
    Extends y R { d₀ with position := d₀.position + off }
      { d₁ with position := d₁.position + off } where
  left := ⟨by have := h.left.1; dsimp only; omega, hle₀⟩
  right := ⟨by have := h.right.1; dsimp only; omega, hle₁⟩
  register := h.register
  pieces := by
    rw [current_move h.left h0, current_move h.right h0]
    rcases h.cases with ⟨hnil, hcur, hchunks⟩ | ⟨hcur, before, last, h₀, h₁⟩
    · have hoff : off.toNat ≤ d₀.current.length := by
        have := length_current h.left
        omega
      refine ⟨[], d₀.current.drop off.toNat, ?_, ?_⟩
      · rw [hnil, List.nil_append]
      · rw [hcur, hchunks, List.drop_append_of_le_length hoff, List.nil_append]
    · exact ⟨d₀.current.drop off.toNat :: before, last, by rw [h₀, List.cons_append],
        by rw [hcur, h₁, List.cons_append]⟩

theorem setRegister (h : Extends y R d₀ d₁) (s : σ) :
    Extends y R { d₀ with register := s } { d₁ with register := s } :=
  ⟨h.left, h.right, rfl, h.pieces⟩

/-- Both wait, and `d₀` for a chunk it has. -/
theorem waitForChunk (h : Extends y R d₀ d₁) (hne : d₀.chunks ≠ []) :
    Extends y R d₀.waitForChunk.1 d₁.waitForChunk.1 where
  left := waitForChunk_wellPlaced h.left
  right := waitForChunk_wellPlaced h.right
  register := by rw [waitForChunk_register, waitForChunk_register, h.register]
  pieces := by
    rcases h.cases with ⟨hnil, -⟩ | ⟨hcur, before, last, h₀, h₁⟩
    · exact absurd hnil hne
    · cases before with
      | nil =>
        rw [List.nil_append] at h₀ h₁
        refine ⟨[], d₀.current ++ last, ?_, ?_⟩
        · rw [current_waitForChunk h₀ h.left, chunks_waitForChunk h₀ h.left, List.nil_append]
        · rw [current_waitForChunk h₁ h.right, chunks_waitForChunk h₁ h.right, hcur,
            List.nil_append, List.append_assoc]
      | cons first before =>
        rw [List.cons_append] at h₀ h₁
        refine ⟨(d₀.current ++ first) :: before, last, ?_, ?_⟩
        · rw [current_waitForChunk h₀ h.left, chunks_waitForChunk h₀ h.left, List.cons_append]
        · rw [current_waitForChunk h₁ h.right, chunks_waitForChunk h₁ h.right, hcur,
            List.cons_append]

/-- With nothing behind, both have the same. -/
theorem same (h : Extends [] [] d₀ d₁) : d₁.current = d₀.current ∧ d₁.chunks = d₀.chunks := by
  rcases h.cases with ⟨hnil, hcur, hchunks⟩ | ⟨hcur, before, last, h₀, h₁⟩
  · exact ⟨by rw [hcur, List.append_nil], by rw [hchunks, hnil]⟩
  · exact ⟨hcur, by rw [h₀, h₁, List.append_nil]⟩

end Extends

end Decoder

namespace StableFrom

variable {r : OffsetReader ε α} {d₀ d₁ : Decoder σ} {more : Bytes}

/-- An attempt in a buffer that holds more behind the position: unless it asks for more in
the first one, it answers the same. -/
theorem attempt_extends (hr : Stable r) (h₀ : d₀.WellPlaced) (h₁ : d₁.WellPlaced)
    (hcur : d₁.current = d₀.current ++ more) :
    (∃ n, r.run d₀.buffer d₀.position = .error (.notEnoughData n) ∧
      (more = [] → ∃ m, r.run d₁.buffer d₁.position = .error (.notEnoughData m))) ∨
    (∃ e, r.run d₀.buffer d₀.position = .error (.error e) ∧
      r.run d₁.buffer d₁.position = .error (.error e)) ∨
    (∃ v₀ v₁ off, r.run d₀.buffer d₀.position = .ok ⟨v₀, d₀.position + off⟩ ∧
      r.run d₁.buffer d₁.position = .ok ⟨v₁, d₁.position + off⟩ ∧
      d₀.position + off ≤ d₀.buffer.length ∧ d₁.position + off ≤ d₁.buffer.length ∧
      (0 ≤ off → v₁ = v₀)) := by
  obtain ⟨hsplit₀, hlen₀⟩ := h₀.split
  obtain ⟨hsplit₁, hlen₁⟩ := h₁.split
  rw [← Decoder.current] at hsplit₀ hsplit₁
  rw [hcur] at hsplit₁
  generalize d₀.buffer.take d₀.position.toNat = pre₀ at hsplit₀ hlen₀
  generalize d₁.buffer.take d₁.position.toNat = pre₁ at hsplit₁ hlen₁
  have hle : (0 : Int) + 0 ≤ (d₀.current.length : Int) := by omega
  cases hrun : r.run d₀.current ((0 : Nat) : Int) with
  | ok res =>
    obtain ⟨v, off⟩ := res
    obtain ⟨hoff, v₀, hrun₀, hv₀⟩ := hr.ok pre₀ [] (Nat.zero_le _) hle hrun
    obtain ⟨-, v₁, hrun₁, hv₁⟩ := hr.ok pre₁ more (Nat.zero_le _) hle hrun
    rw [List.append_nil, ← hsplit₀, hlen₀, Nat.cast_zero, Int.add_zero] at hrun₀
    rw [List.append_assoc, ← hsplit₁, hlen₁, Nat.cast_zero, Int.add_zero] at hrun₁
    have hlength₀ := congrArg List.length hsplit₀
    have hlength₁ := congrArg List.length hsplit₁
    rw [List.length_append] at hlength₀
    rw [List.length_append, List.length_append] at hlength₁
    exact .inr (.inr ⟨v₀, v₁, off, hrun₀, hrun₁, by omega, by omega,
      fun h0 => by rw [hv₀ h0, hv₁ h0]⟩)
  | error err =>
    cases err with
    | error e =>
      have hrun₀ := hr.error pre₀ [] (Nat.zero_le _) hle hrun
      have hrun₁ := hr.error pre₁ more (Nat.zero_le _) hle hrun
      rw [List.append_nil, ← hsplit₀, hlen₀, Nat.cast_zero, Int.add_zero] at hrun₀
      rw [List.append_assoc, ← hsplit₁, hlen₁, Nat.cast_zero, Int.add_zero] at hrun₁
      exact .inr (.inl ⟨e, hrun₀, hrun₁⟩)
    | notEnoughData n =>
      have hrun₀ := hr.starved pre₀ (Nat.zero_le _) hle hrun
      rw [← hsplit₀, hlen₀, Nat.cast_zero, Int.add_zero] at hrun₀
      refine .inl ⟨_, hrun₀, fun hnil => ?_⟩
      have hrun₁ := hr.starved pre₁ (Nat.zero_le _) hle hrun
      rw [hnil, List.append_nil] at hsplit₁
      rw [← hsplit₁, hlen₁, Nat.cast_zero, Int.add_zero] at hrun₁
      exact ⟨_, hrun₁⟩

end StableFrom

/-! ### What the reference finds in the rest of a run -/

namespace Scanner

variable (sc : Scanner ε σ τ)

/-- Beyond the number of bytes, more tokens change nothing. -/
theorem scanTokens_eq_of_le {n m : Nat} {bs : Bytes} {s : σ} (hn : bs.length ≤ n)
    (hm : bs.length ≤ m) : sc.scanTokens n bs s = sc.scanTokens m bs s := by
  induction n generalizing m bs s with
  | zero =>
    obtain rfl := List.eq_nil_of_length_eq_zero (Nat.le_zero.1 hn)
    cases m <;> rfl
  | succ n ih =>
    cases bs with
    | nil => cases m <;> rfl
    | cons type rest =>
      cases m with
      | zero => cases hm
      | succ m =>
        rw [List.length_cons] at hn hm
        rw [scanTokens, scanTokens]
        cases hscan : (sc.dispatch type).scan rest s with
        | done token rest' s' =>
          have hle := (Task.scan_suffix hscan).length_le
          dsimp only
          rw [ih (Nat.le_trans hle (Nat.le_of_succ_le_succ hn))
            (Nat.le_trans hle (Nat.le_of_succ_le_succ hm))]
        | _ => rfl

/-- How the reference ends when it goes on behind a task. -/
def endingAfter : Scan ε σ (Option τ) → ScanEnding ε
  | .done _ rest s => (sc.scanAll rest s).2
  | .threw e => .threw e
  | .starved => .starved
  | .rewound => .rewound
  | .stalled => .stalled

theorem scanAll_cons (type : UInt8) (rest : Bytes) (s : σ) :
    (sc.scanAll (type :: rest) s).2 = sc.endingAfter ((sc.dispatch type).scan rest s) := by
  rw [scanAll, List.length_cons, scanTokens]
  cases hscan : (sc.dispatch type).scan rest s with
  | done token rest' s' =>
    have hle := (Task.scan_suffix hscan).length_le
    dsimp only [endingAfter]
    rw [scanAll, sc.scanTokens_eq_of_le hle le_rfl]
  | _ => rfl

/-- A token whose task takes exactly its bytes, and what stands behind it. -/
theorem scanAll_takes {type : UInt8} {bytes rest : Bytes} {token : Option τ} {s s' : σ}
    (h : Task.Takes (sc.dispatch type) s bytes token s') :
    sc.scanAll (type :: (bytes ++ rest)) s =
      (token :: (sc.scanAll rest s').1, (sc.scanAll rest s').2) := by
  have hle : rest.length ≤ (bytes ++ rest).length := by
    rw [List.length_append]
    omega
  rw [scanAll, List.length_cons, scanTokens, h rest, scanAll]
  dsimp only
  rw [sc.scanTokens_eq_of_le hle le_rfl]

/-- How the reference ends on what a run has left. -/
def remainder (run : Run ε σ τ) : ScanEnding ε :=
  match run.control with
  | .waiting | .scanning => (sc.scanAll run.decoder.rest run.decoder.register).2
  | .reading t _ => sc.endingAfter (t.scan run.decoder.rest run.decoder.register)
  | .returned => .returned
  | .threw e => .threw e

/-- A well-placed run that is in a sound task, if in any, and will never move back. -/
structure Sane (run : Run ε σ τ) : Prop where
  wellPlaced : run.decoder.WellPlaced
  sound : ∀ t awaited, run.control = .reading t awaited → t.Sound
  ahead : sc.remainder run ≠ .rewound

variable {run : Run ε σ τ} {awaited : Bool}

theorem remainder_reading {t : Task ε σ (Option τ)} (hc : run.control = .reading t awaited) :
    sc.remainder run = sc.endingAfter (t.scan run.decoder.rest run.decoder.register) := by
  rw [remainder, hc]

variable {sc}

theorem Sane.next {run' : Run ε σ τ} (hsane : sc.Sane run) (hd : run'.decoder.WellPlaced)
    (hsound : ∀ t awaited, run'.control = .reading t awaited → t.Sound)
    (hremainder : sc.remainder run' = sc.remainder run) : sc.Sane run' :=
  ⟨hd, hsound, by rw [hremainder]; exact hsane.ahead⟩

/-- The reads of a sane run move forward. -/
theorem Sane.forward {β : Type} {r : OffsetReader ε β} {k : β → Task ε σ (Option τ)} {v : β}
    {off : Int} (hsane : sc.Sane run) (hc : run.control = .reading (.read r k) awaited)
    (hrun : r.run run.decoder.buffer run.decoder.position = .ok ⟨v, run.decoder.position + off⟩) :
    0 ≤ off := by
  have hahead := hsane.ahead
  rw [sc.remainder_reading hc] at hahead
  rcases (hsane.sound _ _ hc).allStable.1.attempt_cases hsane.wellPlaced with
    ⟨n, hbuf, -⟩ | ⟨e, hbuf, -⟩ | ⟨v₁, v', off', hbuf, -, hall, -⟩
  · rw [hrun] at hbuf
    cases hbuf
  · rw [hrun] at hbuf
    cases hbuf
  · rw [hrun, Except.ok.injEq, Result.mk.injEq] at hbuf
    have heq : off = off' := by omega
    rw [Task.scan, hall] at hahead
    dsimp only at hahead
    by_contra hneg
    rw [if_pos (by omega)] at hahead
    exact hahead rfl

theorem Sane.read {β : Type} {r : OffsetReader ε β} {k : β → Task ε σ (Option τ)}
    (hsane : sc.Sane run) (hc : run.control = .reading (.read r k) awaited) :
    sc.Sane (sc.step run) := by
  have hd := hsane.wellPlaced
  have hread := hsane.sound _ _ hc
  have hr : Stable r := hread.allStable.1
  have hremainder := sc.remainder_reading hc
  rcases hr.attempt_cases hd with ⟨n, hbuf, -⟩ | ⟨e, hbuf, hall⟩ |
    ⟨v, v', off, hbuf, hle, hall, hv⟩
  · rw [sc.step_read_starved hc hbuf]
    refine hsane.next (Decoder.waitForChunk_wellPlaced hd) ?_ ?_
    · rintro t awaited' ⟨⟩
      exact hread
    · rw [hremainder, remainder]
      dsimp only
      rw [Decoder.rest_waitForChunk hd, Decoder.waitForChunk_register]
  · rw [sc.step_read_error hc hbuf]
    refine hsane.next hd (by rintro t awaited' ⟨⟩) ?_
    rw [hremainder, remainder, Task.scan, hall]
    rfl
  · have h0 := hsane.forward hc hbuf
    have hpos : 0 ≤ run.decoder.position + off := by
      have := hd.1
      omega
    rw [sc.step_read_ok hc hbuf]
    refine hsane.next ⟨hpos, hle⟩ ?_ ?_
    · rintro t awaited' ⟨⟩
      exact ⟨hread.allStable.2 v, hread.consuming v⟩
    · rw [hremainder, remainder, Task.scan, hall]
      dsimp only
      rw [if_neg (by omega), hv h0, Decoder.rest_move hd h0 hle]

/-- What a loop finds is what its first round finds, and the loop behind it. -/
theorem scan_loop {β γ : Type} {body : β → Task ε σ (β ⊕ γ)} {b : β} {k : γ → Task ε σ α}
    (hless : ∀ b rest s b' rest' s', (body b).scan rest s = .done (.inl b') rest' s' →
      rest'.length < rest.length) (rest : Bytes) (s : σ) :
    (Task.loop body b k).scan rest s = ((body b).bind (afterRound body k)).scan rest s := by
  have hloop : Task.loop body b k = (Task.whileTrue b body).bind k := rfl
  rw [hloop, Task.scan_bind, Task.scan_whileTrue hless, Task.scan_bind]
  cases (body b).scan rest s with
  | done next rest' s' =>
    cases next with
    | inl b' => exact (Task.scan_bind (Task.whileTrue b' body) k rest' s').symm
    | inr c => rfl
  | _ => rfl

theorem sound_afterRound {β γ : Type} {body : β → Task ε σ (β ⊕ γ)} {b : β} {k : γ → Task ε σ α}
    (h : (Task.loop body b k).Sound) : ((body b).bind (afterRound body k)).Sound := by
  obtain ⟨⟨hstable, hstable'⟩, hconsuming, hless, hconsuming'⟩ := h
  refine .bind ⟨hstable b, hconsuming b⟩ fun next => ?_
  cases next with
  | inl b' => exact ⟨⟨hstable, hstable'⟩, hconsuming, hless, hconsuming'⟩
  | inr c => exact ⟨hstable' c, hconsuming' c⟩

theorem step_waiting_nil (sc : Scanner ε σ τ) (hc : run.control = .waiting) (hchunks : run.decoder.chunks = [])
    (hd : run.decoder.WellPlaced) :
    sc.step run = { run with
      control := if run.decoder.current = [] then .returned else .scanning } := by
  simp only [step, hc, Decoder.waitForChunk_nil hchunks, Bool.not_false, Bool.true_and,
    decide_eq_true_eq]
  by_cases hcur : run.decoder.current = []
  · rw [if_pos ((Decoder.current_eq_nil hd).1 hcur), if_pos hcur]
  · rw [if_neg fun hpos => hcur ((Decoder.current_eq_nil hd).2 hpos), if_neg hcur]

theorem step_waiting_cons (sc : Scanner ε σ τ) (hc : run.control = .waiting) (hchunks : run.decoder.chunks ≠ [])
    (hd : run.decoder.WellPlaced) :
    sc.step run = { run with decoder := run.decoder.waitForChunk.1, control := .scanning } := by
  obtain ⟨chunk, chunks, hcons⟩ := List.exists_cons_of_ne_nil hchunks
  simp only [step, hc, Decoder.waitForChunk_cons hcons hd]
  rfl

theorem Sane.waiting (hsane : sc.Sane run) (hc : run.control = .waiting) :
    sc.Sane (sc.step run) := by
  have hd := hsane.wellPlaced
  have hremainder : sc.remainder run =
      (sc.scanAll run.decoder.rest run.decoder.register).2 := by
    rw [remainder, hc]
  by_cases hchunks : run.decoder.chunks = []
  · rw [step_waiting_nil sc hc hchunks hd]
    by_cases hcur : run.decoder.current = []
    · rw [if_pos hcur]
      refine hsane.next hd (by rintro t awaited ⟨⟩) ?_
      rw [hremainder, Decoder.rest_eq, hcur, hchunks]
      rfl
    · rw [if_neg hcur]
      exact hsane.next hd (by rintro t awaited ⟨⟩) hremainder.symm
  · rw [step_waiting_cons sc hc hchunks hd]
    refine hsane.next (Decoder.waitForChunk_wellPlaced hd) (by rintro t awaited ⟨⟩) ?_
    rw [hremainder, remainder]
    dsimp only
    rw [Decoder.rest_waitForChunk hd, Decoder.waitForChunk_register]

theorem Sane.scanning (hsc : ∀ type, (sc.dispatch type).Sound) (hsane : sc.Sane run)
    (hc : run.control = .scanning) : sc.Sane (sc.step run) := by
  have hd := hsane.wellPlaced
  have hremainder : sc.remainder run =
      (sc.scanAll run.decoder.rest run.decoder.register).2 := by
    rw [remainder, hc]
  cases hcur : run.decoder.current with
  | nil =>
    rw [sc.step_scanning_end hc ((Decoder.current_eq_nil hd).1 hcur)]
    exact hsane.next hd (by rintro t awaited ⟨⟩) hremainder.symm
  | cons type cur =>
    have hlength := Decoder.length_current hd
    rw [hcur, List.length_cons] at hlength
    have hle : run.decoder.position + 1 ≤ run.decoder.buffer.length := by omega
    have hpos : 0 ≤ run.decoder.position + 1 := by
      have := hd.1
      omega
    have hall : run.decoder.rest = type :: (cur ++ run.decoder.chunks.flatten) := by
      rw [Decoder.rest_eq, hcur, List.cons_append]
    have hrest := Decoder.rest_move hd (by decide : (0 : Int) ≤ 1) hle
    rw [hall] at hrest
    rw [sc.step_scanning_type hc hd hcur]
    refine hsane.next ⟨hpos, hle⟩ ?_ ?_
    · rintro t awaited ⟨⟩
      exact hsc type
    · rw [hremainder, hall, sc.scanAll_cons, remainder]
      dsimp only
      rw [hrest]
      rfl

/-- One step keeps a sane run sane. -/
theorem Sane.step (hsc : ∀ type, (sc.dispatch type).Sound) (hsane : sc.Sane run) :
    sc.Sane (sc.step run) := by
  cases hc : run.control with
  | waiting => exact hsane.waiting hc
  | scanning => exact hsane.scanning hsc hc
  | returned => rwa [sc.step_of_halted (by rw [hc]; trivial)]
  | threw e => rwa [sc.step_of_halted (by rw [hc]; trivial)]
  | reading t awaited =>
    have hd := hsane.wellPlaced
    have hsound := hsane.sound _ _ hc
    have hremainder := sc.remainder_reading hc
    cases t with
    | pure token =>
      cases token with
      | some token =>
        rw [sc.step_yield_some hc]
        exact hsane.next hd (by rintro t awaited ⟨⟩) hremainder.symm
      | none =>
        rw [sc.step_yield_none hc]
        exact hsane.next hd (by rintro t awaited ⟨⟩) hremainder.symm
    | throw e =>
      rw [sc.step_throw hc]
      exact hsane.next hd (by rintro t awaited ⟨⟩) hremainder.symm
    | get k =>
      rw [sc.step_get hc]
      refine hsane.next hd ?_ hremainder.symm
      rintro t awaited ⟨⟩
      exact ⟨hsound.allStable _, hsound.consuming _⟩
    | set s t =>
      rw [sc.step_set hc]
      refine hsane.next hd ?_ hremainder.symm
      rintro t awaited ⟨⟩
      exact ⟨hsound.allStable, hsound.consuming⟩
    | read r k => exact hsane.read hc
    | loop body b k =>
      rw [sc.step_loop hc]
      refine hsane.next hd ?_ ?_
      · rintro t awaited ⟨⟩
        exact sound_afterRound hsound
      · rw [hremainder, scan_loop hsound.consuming.2.1]
        rfl

/-- A fresh run over bytes in which nothing rewinds is sane. -/
theorem sane_start {chunks : List Bytes} {s : σ}
    (h : (sc.scanAll chunks.flatten s).2 ≠ .rewound) : sc.Sane (start chunks s) :=
  ⟨⟨le_rfl, le_rfl⟩, by rintro t awaited ⟨⟩, h⟩

/-! ### Two runs -/

/-- A run that asks for more than it has. -/
def Dry (run : Run ε σ τ) : Prop :=
  run.decoder.chunks = [] ∧
    match run.control with
    | .waiting => True
    | .scanning => run.decoder.current = []
    | .reading (.read r _) _ =>
      ∃ n, r.run run.decoder.buffer run.decoder.position = .error (.notEnoughData n)
    | _ => False

/-- `run₁` stands where `run₀` stands, with more behind, and has yielded the same after `z₁` as
`run₀` after `z₀`. -/
structure Extends (y : Bytes) (R : List Bytes) (z₀ z₁ : List (Option τ)) (run₀ run₁ : Run ε σ τ) :
    Prop where
  control : run₁.control = run₀.control
  decoder : run₀.decoder.Extends y R run₁.decoder
  yielded : ∃ out, run₀.yielded = z₀ ++ out ∧ run₁.yielded = z₁ ++ out

namespace Extends

variable {y : Bytes} {R : List Bytes} {z₀ z₁ : List (Option τ)} {run₀ run₁ : Run ε σ τ}

theorem waiting (h : Extends y R z₀ z₁ run₀ run₁) (hc : run₀.control = .waiting)
    (hdry : Dry run₀ → y = [] ∧ R = []) : Extends y R z₀ z₁ (sc.step run₀) (sc.step run₁) := by
  have hc₁ := h.control.trans hc
  by_cases hchunks : run₀.decoder.chunks = []
  · obtain ⟨rfl, rfl⟩ := hdry ⟨hchunks, by rw [hc]; trivial⟩
    obtain ⟨hcur, hchunks₁⟩ := h.decoder.same
    rw [step_waiting_nil sc hc hchunks h.decoder.left,
      step_waiting_nil sc hc₁ (hchunks₁.trans hchunks) h.decoder.right]
    exact ⟨by rw [hcur], h.decoder, h.yielded⟩
  · have hchunks₁ : run₁.decoder.chunks ≠ [] := by
      rcases h.decoder.cases with ⟨hnil, -⟩ | ⟨-, before, last, -, h₁⟩
      · exact absurd hnil hchunks
      · rw [h₁]
        exact List.append_ne_nil_of_right_ne_nil _ (List.cons_ne_nil _ _)
    rw [step_waiting_cons sc hc hchunks h.decoder.left,
      step_waiting_cons sc hc₁ hchunks₁ h.decoder.right]
    exact ⟨rfl, h.decoder.waitForChunk hchunks, h.yielded⟩

theorem scanning (h : Extends y R z₀ z₁ run₀ run₁) (hc : run₀.control = .scanning)
    (hdry : Dry run₀ → y = [] ∧ R = []) : Extends y R z₀ z₁ (sc.step run₀) (sc.step run₁) := by
  have hc₁ := h.control.trans hc
  obtain ⟨more, hcur, hmore, hmore'⟩ := h.decoder.exists_current
  cases hcur₀ : run₀.decoder.current with
  | nil =>
    have hmore : more = [] := by
      by_cases hchunks : run₀.decoder.chunks = []
      · exact hmore' (hdry ⟨hchunks, by rw [hc]; exact hcur₀⟩).1
      · exact hmore hchunks
    have hcur₁ : run₁.decoder.current = [] := by rw [hcur, hcur₀, hmore, List.append_nil]
    rw [sc.step_scanning_end hc ((Decoder.current_eq_nil h.decoder.left).1 hcur₀),
      sc.step_scanning_end hc₁ ((Decoder.current_eq_nil h.decoder.right).1 hcur₁)]
    exact ⟨rfl, h.decoder, h.yielded⟩
  | cons type cur =>
    rw [hcur₀, List.cons_append] at hcur
    have hlength₀ := Decoder.length_current h.decoder.left
    have hlength₁ := Decoder.length_current h.decoder.right
    rw [hcur₀, List.length_cons] at hlength₀
    rw [hcur, List.length_cons] at hlength₁
    rw [sc.step_scanning_type hc h.decoder.left hcur₀,
      sc.step_scanning_type hc₁ h.decoder.right hcur]
    exact ⟨rfl, h.decoder.move (by omega) (by omega) (by omega), h.yielded⟩

theorem read {β : Type} {r : OffsetReader ε β} {k : β → Task ε σ (Option τ)} {awaited : Bool}
    (h : Extends y R z₀ z₁ run₀ run₁) (hsane : sc.Sane run₀)
    (hc : run₀.control = .reading (.read r k) awaited) (hdry : Dry run₀ → y = [] ∧ R = []) :
    Extends y R z₀ z₁ (sc.step run₀) (sc.step run₁) := by
  have hc₁ := h.control.trans hc
  have hr : Stable r := (hsane.sound _ _ hc).allStable.1
  obtain ⟨more, hcur, hmore, hmore'⟩ := h.decoder.exists_current
  rcases hr.attempt_extends h.decoder.left h.decoder.right hcur with ⟨n, hrun₀, hrun₁⟩ |
    ⟨e, hrun₀, hrun₁⟩ | ⟨v₀, v₁, off, hrun₀, hrun₁, hle₀, hle₁, hv⟩
  · by_cases hchunks : run₀.decoder.chunks = []
    · obtain ⟨rfl, rfl⟩ := hdry ⟨hchunks, by rw [hc]; exact ⟨n, hrun₀⟩⟩
      obtain ⟨m, hrun₁⟩ := hrun₁ (hmore' rfl)
      obtain ⟨-, hchunks₁⟩ := h.decoder.same
      rw [sc.step_read_starved hc hrun₀, sc.step_read_starved hc₁ hrun₁,
        Decoder.waitForChunk_nil hchunks, Decoder.waitForChunk_nil (hchunks₁.trans hchunks)]
      exact ⟨rfl, h.decoder, h.yielded⟩
    · obtain ⟨m, hrun₁⟩ := hrun₁ (hmore hchunks)
      rw [sc.step_read_starved hc hrun₀, sc.step_read_starved hc₁ hrun₁]
      exact ⟨rfl, h.decoder.waitForChunk hchunks, h.yielded⟩
  · rw [sc.step_read_error hc hrun₀, sc.step_read_error hc₁ hrun₁]
    exact ⟨rfl, h.decoder, h.yielded⟩
  · have h0 := hsane.forward hc hrun₀
    rw [sc.step_read_ok hc hrun₀, sc.step_read_ok hc₁ hrun₁, hv h0]
    exact ⟨rfl, h.decoder.move h0 hle₀ hle₁, h.yielded⟩

/-- Unless the first run asks for more than it has, a step of each leaves them side by side. -/
theorem step (h : Extends y R z₀ z₁ run₀ run₁) (hsane : sc.Sane run₀)
    (hdry : Dry run₀ → y = [] ∧ R = []) : Extends y R z₀ z₁ (sc.step run₀) (sc.step run₁) := by
  cases hc : run₀.control with
  | waiting => exact h.waiting hc hdry
  | scanning => exact h.scanning hc hdry
  | returned =>
    rw [sc.step_of_halted (by rw [hc]; trivial),
      sc.step_of_halted (by rw [h.control, hc]; trivial)]
    exact h
  | threw e =>
    rw [sc.step_of_halted (by rw [hc]; trivial),
      sc.step_of_halted (by rw [h.control, hc]; trivial)]
    exact h
  | reading t awaited =>
    have hc₁ := h.control.trans hc
    obtain ⟨out, hout₀, hout₁⟩ := h.yielded
    cases t with
    | pure token =>
      cases token with
      | some token =>
        rw [sc.step_yield_some hc, sc.step_yield_some hc₁]
        exact ⟨rfl, h.decoder, out ++ [some token], by rw [hout₀, List.append_assoc],
          by rw [hout₁, List.append_assoc]⟩
      | none =>
        rw [sc.step_yield_none hc, sc.step_yield_none hc₁]
        cases awaited with
        | false => exact ⟨rfl, h.decoder, h.yielded⟩
        | true =>
          exact ⟨rfl, h.decoder, out ++ [none], by rw [if_pos rfl, hout₀, List.append_assoc],
            by rw [if_pos rfl, hout₁, List.append_assoc]⟩
    | throw e =>
      rw [sc.step_throw hc, sc.step_throw hc₁]
      exact ⟨rfl, h.decoder, h.yielded⟩
    | get k =>
      rw [sc.step_get hc, sc.step_get hc₁, h.decoder.register]
      exact ⟨rfl, h.decoder, h.yielded⟩
    | set s t =>
      rw [sc.step_set hc, sc.step_set hc₁]
      exact ⟨rfl, h.decoder.setRegister s, h.yielded⟩
    | read r k => exact h.read hsane hc hdry
    | loop body b k =>
      rw [sc.step_loop hc, sc.step_loop hc₁]
      exact ⟨rfl, h.decoder, h.yielded⟩

/-- Two runs with the same left stay side by side. -/
theorem iterate (hsc : ∀ type, (sc.dispatch type).Sound) (h : Extends [] [] z₀ z₁ run₀ run₁)
    (hsane : sc.Sane run₀) (n : Nat) :
    Extends [] [] z₀ z₁ (sc.step^[n] run₀) (sc.step^[n] run₁) := by
  induction n generalizing run₀ run₁ with
  | zero => exact h
  | succ n ih => exact ih (h.step hsane fun _ => ⟨rfl, rfl⟩) (hsane.step hsc)

/-- Two runs with the same left end the same way. -/
theorem ends (hsc : ∀ type, (sc.dispatch type).Sound) (h : Extends [] [] z₀ z₁ run₀ run₁)
    (hsane : sc.Sane run₀) {out : List (Option τ)} {ending : Ending ε}
    (hends : sc.Ends run₀ out ending) :
    ∃ out', out = z₀ ++ out' ∧ sc.Ends run₁ (z₁ ++ out') ending := by
  cases ending with
  | returned =>
    obtain ⟨n, hc, hy⟩ := hends
    obtain ⟨hc₁, -, out', hout₀, hout₁⟩ := h.iterate hsc hsane n
    exact ⟨out', hy.symm.trans hout₀, n, hc₁.trans hc, hout₁⟩
  | threw e =>
    obtain ⟨n, hc, hy⟩ := hends
    obtain ⟨hc₁, -, out', hout₀, hout₁⟩ := h.iterate hsc hsane n
    exact ⟨out', hy.symm.trans hout₀, n, hc₁.trans hc, hout₁⟩
  | waiting =>
    obtain ⟨n, hn⟩ := hends
    obtain ⟨-, -, out', hout₀, -⟩ := h.iterate hsc hsane n
    have hout : out = z₀ ++ out' := (hn n le_rfl).2.symm.trans hout₀
    refine ⟨out', hout, n, fun m hm => ?_⟩
    obtain ⟨hc₁, -, out'', hout₀', hout₁⟩ := h.iterate hsc hsane m
    obtain ⟨hhalt, hy⟩ := hn m hm
    refine ⟨by rwa [hc₁], ?_⟩
    rw [hy, hout] at hout₀'
    rw [hout₁, List.append_cancel_left hout₀']

end Extends

/-! ### To the end of a part of the bytes -/

/-- A step returns or goes on to wait only in vain, or for want of a byte. -/
theorem control_step (hd : run.decoder.WellPlaced) (hc : run.control ≠ .returned) :
    ((sc.step run).control = .returned →
      run.control = .waiting ∧ run.decoder.chunks = []) ∧
    ((sc.step run).control = .waiting →
      run.control = .scanning ∧ run.decoder.current = [] ∧
        (sc.step run).decoder.chunks = run.decoder.chunks) := by
  cases hcontrol : run.control with
  | waiting =>
    by_cases hchunks : run.decoder.chunks = []
    · rw [step_waiting_nil sc hcontrol hchunks hd]
      refine ⟨fun _ => ⟨rfl, hchunks⟩, fun h => ?_⟩
      dsimp only at h
      split at h <;> cases h
    · rw [step_waiting_cons sc hcontrol hchunks hd]
      exact ⟨nofun, nofun⟩
  | scanning =>
    cases hcur : run.decoder.current with
    | nil =>
      rw [sc.step_scanning_end hcontrol ((Decoder.current_eq_nil hd).1 hcur)]
      exact ⟨nofun, fun _ => ⟨rfl, rfl, rfl⟩⟩
    | cons type cur =>
      rw [sc.step_scanning_type hcontrol hd hcur]
      exact ⟨nofun, nofun⟩
  | returned => exact absurd hcontrol hc
  | threw e =>
    rw [sc.step_of_halted (by rw [hcontrol]; trivial), hcontrol]
    exact ⟨nofun, nofun⟩
  | reading t awaited =>
    cases t with
    | pure token =>
      cases token with
      | some token =>
        rw [sc.step_yield_some hcontrol]
        exact ⟨nofun, nofun⟩
      | none =>
        rw [sc.step_yield_none hcontrol]
        exact ⟨nofun, nofun⟩
    | throw e =>
      rw [sc.step_throw hcontrol]
      exact ⟨nofun, nofun⟩
    | get k =>
      rw [sc.step_get hcontrol]
      exact ⟨nofun, nofun⟩
    | set s t =>
      rw [sc.step_set hcontrol]
      exact ⟨nofun, nofun⟩
    | loop body b k =>
      rw [sc.step_loop hcontrol]
      exact ⟨nofun, nofun⟩
    | read r k =>
      cases hrun : r.run run.decoder.buffer run.decoder.position with
      | ok res =>
        have hrun' : r.run run.decoder.buffer run.decoder.position =
            .ok ⟨res.value, res.offset⟩ := hrun
        rw [sc.step_read_ok hcontrol hrun']
        exact ⟨nofun, nofun⟩
      | error err =>
        cases err with
        | error e =>
          rw [sc.step_read_error hcontrol hrun]
          exact ⟨nofun, nofun⟩
        | notEnoughData n =>
          rw [sc.step_read_starved hcontrol hrun]
          exact ⟨nofun, nofun⟩

/-- A run that returns comes, before it waits in vain, to the end of its bytes. Until then
every run that extends it stays with it. -/
theorem reaches_end (hsc : ∀ type, (sc.dispatch type).Sound) {n : Nat} (hsane : sc.Sane run)
    (hn : (sc.step^[n] run).control = .returned) (hc : run.control ≠ .returned)
    (hwait : run.control = .waiting → run.decoder.chunks ≠ []) :
    ∃ run', sc.Reaches run run' ∧ run'.control = .scanning ∧ run'.decoder.current = [] ∧
      run'.decoder.chunks = [] ∧
      ∀ y R z₀ z₁ run₁, Extends y R z₀ z₁ run run₁ →
        ∃ run₁', sc.Reaches run₁ run₁' ∧ Extends y R z₀ z₁ run' run₁' := by
  induction n generalizing run with
  | zero => exact absurd hn hc
  | succ n ih =>
    by_cases hdry : Dry run
    · obtain ⟨hchunks, hdry⟩ := hdry
      cases hcontrol : run.control with
      | waiting => exact absurd hchunks (hwait hcontrol)
      | scanning =>
        rw [hcontrol] at hdry
        exact ⟨run, Reaches.refl sc run, hcontrol, hdry, hchunks,
          fun y R z₀ z₁ run₁ h => ⟨run₁, Reaches.refl sc run₁, h⟩⟩
      | returned => exact absurd hcontrol hc
      | threw e => rw [hcontrol] at hdry; exact hdry.elim
      | reading t awaited =>
        rw [hcontrol] at hdry
        cases t with
        | read r k =>
          -- A read that waits in vain waits forever.
          obtain ⟨m, hrun⟩ := hdry
          have hends := sc.ends_of_starved hcontrol hchunks hrun
          exact absurd ⟨n + 1, by rw [hn]; trivial⟩ (sc.not_terminates_of_waiting hends)
        | _ => exact hdry.elim
    · obtain ⟨hreturned, hwaiting⟩ := @control_step _ _ _ sc _ hsane.wellPlaced hc
      have hc' : (sc.step run).control ≠ .returned := by
        intro h
        obtain ⟨hw, hnil⟩ := hreturned h
        exact hwait hw hnil
      have hwait' : (sc.step run).control = .waiting → (sc.step run).decoder.chunks ≠ [] := by
        intro h hnil
        obtain ⟨hscanning, hcur, hchunks⟩ := hwaiting h
        exact hdry ⟨by rw [← hchunks, hnil], by rw [hscanning]; exact hcur⟩
      obtain ⟨run', hreach, hscanning, hcur, hchunks, hext⟩ := ih (hsane.step hsc) hn hc' hwait'
      refine ⟨run', Reaches.step sc hreach, hscanning, hcur, hchunks, ?_⟩
      intro y R z₀ z₁ run₁ h
      obtain ⟨run₁', hreach₁, h'⟩ := hext y R z₀ z₁ _ (h.step hsane fun hd => absurd hd hdry)
      exact ⟨run₁', Reaches.step sc hreach₁, h'⟩

/-- A run between two tokens that has `cur` in its buffer and the chunks `R` to come. -/
structure Between (run : Run ε σ τ) (cur : Bytes) (R : List Bytes) (s : σ)
    (out : List (Option τ)) : Prop where
  control : run.control = .scanning
  wellPlaced : run.decoder.WellPlaced
  current : run.decoder.current = cur
  chunks : run.decoder.chunks = R
  register : run.decoder.register = s
  yielded : run.yielded = out

/-- Two runs between two tokens with the same left. -/
theorem Between.extends {cur : Bytes} {R : List Bytes} {s : σ} {z₀ z₁ : List (Option τ)}
    {run₀ run₁ : Run ε σ τ} (h₀ : Between run₀ cur R s z₀) (h₁ : Between run₁ cur R s z₁) :
    Extends [] [] z₀ z₁ run₀ run₁ where
  control := h₁.control.trans h₀.control.symm
  decoder :=
    { left := h₀.wellPlaced
      right := h₁.wellPlaced
      register := h₁.register.trans h₀.register.symm
      pieces := by
        rw [h₀.current, h₀.chunks, h₁.current, h₁.chunks]
        rcases List.eq_nil_or_concat R with rfl | ⟨before, last, rfl⟩
        · exact ⟨[], cur, rfl, by rw [List.append_nil]; rfl⟩
        · exact ⟨cur :: before, last, by simp, by simp⟩ }
  yielded := ⟨[], by rw [h₀.yielded, List.append_nil], by rw [h₁.yielded, List.append_nil]⟩

/-- Where the bytes up to here are whole tokens, a run comes to stand behind them, in the same
way whatever follows. -/
theorem reaches_between (hsc : ∀ type, (sc.dispatch type).Sound) {before : List Bytes}
    {last : Bytes} {s : σ} (h : (sc.scanAll (before.flatten ++ last) s).2 = .returned) :
    ∃ s' out, ∀ y R, ∃ run, sc.Reaches (start (before ++ (last ++ y) :: R) s) run ∧
      Between run y R s' out := by
  have hflat : (before ++ [last]).flatten = before.flatten ++ last := by simp
  rw [← hflat] at h
  have hsane : sc.Sane (start (before ++ [last]) s) := sane_start (by rw [h]; nofun)
  have hending : (sc.scanAll (before ++ [last]).flatten s).2.ending = some .returned := by
    rw [h]
    rfl
  obtain ⟨out, -, n, hn, -⟩ := sc.ends_of_scanAll (fun type => (hsc type).allStable)
    (before ++ [last]) s hending
  obtain ⟨run, -, hc, hcur, hchunks, hext⟩ := reaches_end hsc hsane hn (by nofun)
    (fun _ => List.append_ne_nil_of_right_ne_nil _ (List.cons_ne_nil _ _))
  refine ⟨run.decoder.register, run.yielded, fun y R => ?_⟩
  have hstart : Extends y R [] [] (start (before ++ [last]) s : Run ε σ τ)
      (start (before ++ (last ++ y) :: R) s) :=
    ⟨rfl, ⟨⟨le_rfl, le_rfl⟩, ⟨le_rfl, le_rfl⟩, rfl, [] :: before, last, rfl, rfl⟩, [], rfl, rfl⟩
  obtain ⟨run', hreach, hc', hd, out', hout, hout'⟩ := hext y R [] [] _ hstart
  refine ⟨run', hreach, hc'.trans hc, hd.right, ?_, ?_, hd.register, ?_⟩
  · rcases hd.cases with ⟨-, hcur', -⟩ | ⟨-, before', last', hchunks', -⟩
    · rw [hcur', hcur, List.nil_append]
    · rw [hchunks] at hchunks'
      exact absurd hchunks'.symm (List.append_ne_nil_of_right_ne_nil _ (List.cons_ne_nil _ _))
  · rcases hd.cases with ⟨-, -, hchunks'⟩ | ⟨-, before', last', hchunks', -⟩
    · exact hchunks'
    · rw [hchunks] at hchunks'
      exact absurd hchunks'.symm (List.append_ne_nil_of_right_ne_nil _ (List.cons_ne_nil _ _))
  · rw [hout', hout]

end Scanner

end Chunked
