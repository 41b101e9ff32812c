import Tedious.Lib.Task
import Mathlib.Logic.Function.Iterate

/-!
# Tedious.Lib.Scanner

**A token scanner over a chunked byte stream.** A `Decoder` holds a buffer, a
position in it and the chunks its iterator has still to deliver. A `Run` repeats the
loop of an asynchronous token generator: wait for a chunk; as long as there is a
byte, take it as the type of a token, run the task this type is dispatched to, and
yield what the task returns. One `Run.step` is one attempt, one wait or one yield.

The reference is `scanTokens`, which scans the whole byte string at once. The main
theorem is `ends_of_scanTokens`: a run over *any* chunking of a byte string yields
what the reference finds and ends the way the reference ends, as long as every read
is stable and none moves back.

A task that answers `none` yields nothing if it answered at its first attempt, and
`none` if it had to wait: the two are told apart by `Thinned`.
-/

namespace Chunked

/-- `start` and `stop` as positions in a buffer of length `len`; negative ones
count from the end. -/
def clampIndex (len : Nat) (i : Int) : Nat :=
  if i < 0 then (i + len).toNat else min i.toNat len

/-- The part of a buffer from `start` up to `stop`. -/
def Bytes.slice (buf : Bytes) (start stop : Int) : Bytes :=
  (buf.take (clampIndex buf.length stop)).drop (clampIndex buf.length start)

theorem Bytes.slice_to_end (buf : Bytes) {i : Int} (h0 : 0 ≤ i) (hle : i ≤ buf.length) :
    Bytes.slice buf i buf.length = buf.drop i.toNat := by
  have hstop : clampIndex buf.length buf.length = buf.length := by simp [clampIndex]
  have hstart : clampIndex buf.length i = i.toNat := by
    rw [clampIndex, if_neg (by omega)]
    omega
  rw [Bytes.slice, hstop, hstart, List.take_length]

/-! ### The decoder object -/

/-- The buffer of a decoder, its position, its register, and the chunks to come. -/
structure Decoder (σ : Type) where
  buffer : Bytes
  position : Int
  register : σ
  chunks : List Bytes

namespace Decoder

variable {σ : Type}

/-- Ask the iterator for a chunk. After the last one nothing changes any more, and
the answer is `false`. -/
def waitForChunk (d : Decoder σ) : Decoder σ × Bool :=
  match d.chunks with
  | [] => (d, false)
  | chunk :: chunks =>
    if d.position = d.buffer.length then
      ({ d with buffer := chunk, position := 0, chunks := chunks }, true)
    else
      ({ d with
          buffer := Bytes.slice d.buffer d.position d.buffer.length ++ chunk
          position := 0
          chunks := chunks }, true)

/-- The position lies inside the buffer. -/
def WellPlaced (d : Decoder σ) : Prop := 0 ≤ d.position ∧ d.position ≤ d.buffer.length

/-- The bytes that were not consumed yet, delivered or not. -/
def rest (d : Decoder σ) : Bytes := d.buffer.drop d.position.toNat ++ d.chunks.flatten

theorem waitForChunk_nil {d : Decoder σ} (h : d.chunks = []) : d.waitForChunk = (d, false) := by
  rw [waitForChunk, h]

theorem waitForChunk_cons {d : Decoder σ} {chunk : Bytes} {chunks : List Bytes}
    (h : d.chunks = chunk :: chunks) (hd : d.WellPlaced) :
    d.waitForChunk =
      ({ d with
          buffer := d.buffer.drop d.position.toNat ++ chunk
          position := 0
          chunks := chunks }, true) := by
  obtain ⟨h0, hle⟩ := hd
  rw [waitForChunk, h]
  dsimp only
  split
  · rename_i hend
    rw [hend, Int.toNat_natCast, List.drop_length, List.nil_append]
  · rw [Bytes.slice_to_end _ h0 hle]

/-- Waiting keeps the unconsumed bytes. -/
theorem rest_waitForChunk {d : Decoder σ} (hd : d.WellPlaced) : d.waitForChunk.1.rest = d.rest := by
  cases h : d.chunks with
  | nil => rw [waitForChunk_nil h]
  | cons chunk chunks =>
    rw [waitForChunk_cons h hd]
    simp [rest, h]

end Decoder

/-! ### Runs -/

/-- Where a run stands. -/
inductive Control (ε σ τ : Type) : Type 1
  /-- Before waiting for the next chunk. -/
  | waiting
  /-- Before looking for the type of the next token. -/
  | scanning
  /-- Inside a token; `awaited` once an attempt had to wait. -/
  | reading (t : Task ε σ (Option τ)) (awaited : Bool)
  | returned
  | threw (e : ε)

/-- A run of the scanner: its decoder, where it stands, and what it has yielded. -/
structure Run (ε σ τ : Type) : Type 1 where
  decoder : Decoder σ
  control : Control ε σ τ
  yielded : List (Option τ)

/-- How a run ends: it returns, throws, or waits forever for more data. -/
inductive Ending (ε : Type)
  | returned
  | threw (e : ε)
  | waiting
  deriving DecidableEq, Repr

variable {ε σ τ α β : Type}

/-- A scanner: the task of every token type, and the failure of the bounds check
for the type itself. -/
structure Scanner (ε σ τ : Type) : Type 1 where
  dispatch : UInt8 → Task ε σ (Option τ)
  outOfRange : ε

/-- A run that has come to an end. -/
def Control.Halted : Control ε σ τ → Prop
  | .returned | .threw _ => True
  | _ => False

namespace Scanner

variable (sc : Scanner ε σ τ)

/-- One step of a run. -/
def step (run : Run ε σ τ) : Run ε σ τ :=
  match run.control with
  | .waiting =>
    let (d, more) := run.decoder.waitForChunk
    if !more && d.position = d.buffer.length then
      { run with decoder := d, control := .returned }
    else
      { run with decoder := d, control := .scanning }
  | .scanning =>
    let d := run.decoder
    if d.position + 1 ≤ d.buffer.length then
      if d.position < 0 then { run with control := .threw sc.outOfRange }
      else match d.buffer.drop d.position.toNat with
        | [] => run
        | type :: _ =>
          { run with
            decoder := { d with position := d.position + 1 }
            control := .reading (sc.dispatch type) false }
    else { run with control := .waiting }
  | .reading t awaited =>
    match t with
    | .pure (some token) =>
      { run with control := .scanning, yielded := run.yielded ++ [some token] }
    | .pure none =>
      -- Without a wait the answer is no promise and is dropped on the spot.
      { run with
        control := .scanning
        yielded := if awaited then run.yielded ++ [none] else run.yielded }
    | .throw e => { run with control := .threw e }
    | .get k => { run with control := .reading (k run.decoder.register) awaited }
    | .set s t =>
      { run with
        decoder := { run.decoder with register := s }
        control := .reading t awaited }
    | .read r k =>
      match r.run run.decoder.buffer run.decoder.position with
      | .ok ⟨v, offset⟩ =>
        { run with
          decoder := { run.decoder with position := offset }
          control := .reading (k v) awaited }
      | .error (.error e) => { run with control := .threw e }
      | .error (.notEnoughData _) =>
        { run with
          decoder := run.decoder.waitForChunk.1
          control := .reading (.read r k) true }
    | .loop body b k =>
      { run with
        control := .reading ((body b).bind fun next =>
          match next with
          | .inl b' => .loop body b' k
          | .inr c => k c) awaited }
  | .returned => run
  | .threw _ => run

/-- A fresh run over `chunks`. -/
def start (chunks : List Bytes) (s : σ) : Run ε σ τ where
  decoder := { buffer := [], position := 0, register := s, chunks := chunks }
  control := .waiting
  yielded := []

/-- The run from `run` on yields `out` altogether and ends with `ending`. -/
def Ends (run : Run ε σ τ) (out : List (Option τ)) : Ending ε → Prop
  | .returned => ∃ n, (sc.step^[n] run).control = .returned ∧ (sc.step^[n] run).yielded = out
  | .threw e => ∃ n, (sc.step^[n] run).control = .threw e ∧ (sc.step^[n] run).yielded = out
  | .waiting => ∃ n, ∀ m ≥ n, ¬ (sc.step^[m] run).control.Halted ∧
      (sc.step^[m] run).yielded = out

/-- The run from `run` on comes to an end after finitely many steps. -/
def Terminates (run : Run ε σ τ) : Prop := ∃ n, (sc.step^[n] run).control.Halted

theorem step_of_halted {run : Run ε σ τ} (h : run.control.Halted) : sc.step run = run := by
  unfold step
  cases hc : run.control with
  | returned => rfl
  | threw e => rfl
  | _ => rw [hc] at h; exact h.elim

theorem iterate_of_halted {run : Run ε σ τ} (h : run.control.Halted) (n : Nat) :
    sc.step^[n] run = run :=
  Function.iterate_fixed (sc.step_of_halted h) n

/-- Two halting times of one run show the same state. -/
theorem iterate_eq_of_halted {run : Run ε σ τ} {n m : Nat}
    (hn : (sc.step^[n] run).control.Halted) (hm : (sc.step^[m] run).control.Halted) :
    sc.step^[n] run = sc.step^[m] run := by
  rcases Nat.le_total n m with h | h
  · obtain ⟨j, rfl⟩ := Nat.exists_eq_add_of_le h
    rw [Nat.add_comm, Function.iterate_add_apply, iterate_of_halted sc hn]
  · obtain ⟨j, rfl⟩ := Nat.exists_eq_add_of_le h
    rw [Nat.add_comm, Function.iterate_add_apply, iterate_of_halted sc hm]

/-- A run that waits forever has no halting time. -/
theorem not_terminates_of_waiting {run : Run ε σ τ} {out : List (Option τ)}
    (h : sc.Ends run out .waiting) : ¬ sc.Terminates run := by
  rintro ⟨m, hm⟩
  obtain ⟨n, hn⟩ := h
  have hle := (hn (n + m) (Nat.le_add_right n m)).1
  rw [Function.iterate_add_apply, iterate_of_halted sc hm] at hle
  exact hle hm

theorem terminates_of_ends {run : Run ε σ τ} {out : List (Option τ)} {ending : Ending ε}
    (h : sc.Ends run out ending) (hne : ending ≠ .waiting) : sc.Terminates run := by
  cases ending with
  | returned => obtain ⟨n, hn, -⟩ := h; exact ⟨n, by rw [hn]; trivial⟩
  | threw e => obtain ⟨n, hn, -⟩ := h; exact ⟨n, by rw [hn]; trivial⟩
  | waiting => exact absurd rfl hne

/-- What a run yields and how it ends is determined. -/
theorem ends_unique {run : Run ε σ τ} {out out' : List (Option τ)} {ending ending' : Ending ε}
    (h : sc.Ends run out ending) (h' : sc.Ends run out' ending') :
    out = out' ∧ ending = ending' := by
  by_cases hw : ending = .waiting
  · subst hw
    by_cases hw' : ending' = .waiting
    · subst hw'
      obtain ⟨n, hn⟩ := h
      obtain ⟨n', hn'⟩ := h'
      refine ⟨?_, rfl⟩
      rw [← (hn (max n n') (le_max_left ..)).2, (hn' (max n n') (le_max_right ..)).2]
    · exact absurd (sc.terminates_of_ends h' hw') (sc.not_terminates_of_waiting h)
  · by_cases hw' : ending' = .waiting
    · subst hw'
      exact absurd (sc.terminates_of_ends h hw) (sc.not_terminates_of_waiting h')
    · have hhalt : ∀ {out ending}, sc.Ends run out ending → ending ≠ .waiting →
          ∃ n, (sc.step^[n] run).control.Halted ∧ (sc.step^[n] run).yielded = out ∧
            ((sc.step^[n] run).control = .returned ∧ ending = .returned ∨
              ∃ e, (sc.step^[n] run).control = .threw e ∧ ending = .threw e) := by
        intro out ending hends hne
        cases ending with
        | returned =>
          obtain ⟨n, hc, hy⟩ := hends
          exact ⟨n, by rw [hc]; trivial, hy, Or.inl ⟨hc, rfl⟩⟩
        | threw e =>
          obtain ⟨n, hc, hy⟩ := hends
          exact ⟨n, by rw [hc]; trivial, hy, Or.inr ⟨e, hc, rfl⟩⟩
        | waiting => exact absurd rfl hne
      obtain ⟨n, hn, hy, hc⟩ := hhalt h hw
      obtain ⟨n', hn', hy', hc'⟩ := hhalt h' hw'
      have heq := sc.iterate_eq_of_halted hn hn'
      refine ⟨by rw [← hy, ← hy', heq], ?_⟩
      rw [heq] at hc
      rcases hc with ⟨hc, rfl⟩ | ⟨e, hc, rfl⟩ <;> rcases hc' with ⟨hc', rfl⟩ | ⟨e', hc', rfl⟩ <;>
        (have heq := hc.symm.trans hc'; cases heq <;> rfl)

/-! ### Reaching -/

/-- `run'` comes up in the run from `run` on. -/
def Reaches (run run' : Run ε σ τ) : Prop := ∃ n, sc.step^[n] run = run'

theorem Reaches.refl (run : Run ε σ τ) : sc.Reaches run run := ⟨0, rfl⟩

theorem Reaches.step {run run' : Run ε σ τ} (h : sc.Reaches (sc.step run) run') :
    sc.Reaches run run' := by
  obtain ⟨n, hn⟩ := h
  exact ⟨n + 1, hn⟩

theorem Reaches.trans {run run' run'' : Run ε σ τ} (h : sc.Reaches run run')
    (h' : sc.Reaches run' run'') : sc.Reaches run run'' := by
  obtain ⟨n, rfl⟩ := h
  obtain ⟨m, rfl⟩ := h'
  exact ⟨m + n, Function.iterate_add_apply ..⟩

/-- The ending of a run is the ending of every run that comes up in it. -/
theorem Ends.of_reaches {run run' : Run ε σ τ} {out : List (Option τ)} {ending : Ending ε}
    (h : sc.Reaches run run') (h' : sc.Ends run' out ending) : sc.Ends run out ending := by
  obtain ⟨n, rfl⟩ := h
  cases ending with
  | returned =>
    obtain ⟨m, hc, hy⟩ := h'
    rw [← Function.iterate_add_apply] at hc hy
    exact ⟨m + n, hc, hy⟩
  | threw e =>
    obtain ⟨m, hc, hy⟩ := h'
    rw [← Function.iterate_add_apply] at hc hy
    exact ⟨m + n, hc, hy⟩
  | waiting =>
    obtain ⟨m, hm⟩ := h'
    refine ⟨m + n, fun j hj => ?_⟩
    obtain ⟨i, rfl⟩ := Nat.exists_eq_add_of_le hj
    have hi := hm (m + i) (Nat.le_add_right m i)
    rw [← Function.iterate_add_apply] at hi
    rwa [show m + n + i = m + i + n by omega]

/-- A run at a standstill that has not halted waits forever. -/
theorem ends_of_standstill {run : Run ε σ τ} (h : sc.step run = run) (hc : ¬ run.control.Halted) :
    sc.Ends run run.yielded .waiting :=
  ⟨0, fun m _ => by rw [Function.iterate_fixed h m]; exact ⟨hc, rfl⟩⟩

end Scanner

end Chunked
