import Tedious.Lib.Scanner

/-!
# Tedious.Lib.ScannerSound

The scanner against its reference. `scanTokens` scans a complete byte string with
no waiting at all; `ends_of_scanTokens` shows that a run over any chunking of the
bytes yields the same tokens and ends the same way. The simulation goes by the
structure of the task (`reading_*`); for a single read it goes by the chunks still
to come (`read_*`): an attempt on the bytes delivered so far either answers as the
reference does or asks for more (`Stable.attempt_*`), and a wait keeps the bytes
left over (`Decoder.rest_waitForChunk`).
-/

namespace Chunked

variable {ε σ τ α β γ : Type}

/-! ### One attempt -/

namespace Decoder

variable {d : Decoder σ}

theorem WellPlaced.split (hd : d.WellPlaced) :
    d.buffer = d.buffer.take d.position.toNat ++ d.buffer.drop d.position.toNat ∧
      ((d.buffer.take d.position.toNat).length : Int) = d.position := by
  obtain ⟨h0, hle⟩ := hd
  refine ⟨(List.take_append_drop ..).symm, ?_⟩
  rw [List.length_take]
  omega

theorem waitForChunk_wellPlaced (hd : d.WellPlaced) : d.waitForChunk.1.WellPlaced := by
  cases h : d.chunks with
  | nil => rwa [waitForChunk_nil h]
  | cons chunk chunks =>
    rw [waitForChunk_cons h hd]
    exact ⟨le_refl _, Int.natCast_nonneg _⟩

@[simp] theorem waitForChunk_register : d.waitForChunk.1.register = d.register := by
  unfold waitForChunk
  split
  · rfl
  · split <;> rfl

theorem rest_of_chunks_nil (h : d.chunks = []) : d.rest = d.buffer.drop d.position.toNat := by
  rw [rest, h]
  simp

/-- Moving over bytes that were delivered already. -/
theorem rest_move (hd : d.WellPlaced) {off : Int} (h0 : 0 ≤ off)
    (hle : d.position + off ≤ d.buffer.length) :
    ({ d with position := d.position + off } : Decoder σ).rest = d.rest.drop off.toNat := by
  obtain ⟨hpos, -⟩ := hd
  have hsum : (d.position + off).toNat = d.position.toNat + off.toNat := by omega
  rw [rest, rest, hsum, ← List.drop_drop, List.drop_append_of_le_length]
  rw [List.length_drop]
  omega

end Decoder

namespace StableFrom

variable {r : OffsetReader ε β} {d : Decoder σ}

/-- An attempt on the bytes delivered so far asks for more, or answers what the
reference answers on all the bytes. -/
theorem attempt_cases (hr : Stable r) (hd : d.WellPlaced) :
    (∃ n, r.run d.buffer d.position = .error (.notEnoughData n) ∧
      (d.chunks = [] → ∃ m, r.run d.rest 0 = .error (.notEnoughData m))) ∨
    (∃ e, r.run d.buffer d.position = .error (.error e) ∧ r.run d.rest 0 = .error (.error e)) ∨
    (∃ v v' off, r.run d.buffer d.position = .ok ⟨v, d.position + off⟩ ∧
      d.position + off ≤ d.buffer.length ∧ r.run d.rest 0 = .ok ⟨v', off⟩ ∧ (0 ≤ off → v' = v)) := by
  obtain ⟨hsplit, hlen⟩ := hd.split
  generalize d.buffer.take d.position.toNat = pre at hsplit hlen
  generalize hcur : d.buffer.drop d.position.toNat = cur at hsplit
  have hrest : d.rest = [] ++ cur ++ d.chunks.flatten := by
    rw [Decoder.rest, hcur, List.nil_append]
  cases hrun : r.run cur ((0 : Nat) : Int) with
  | ok res =>
    obtain ⟨v, off⟩ := res
    obtain ⟨hle, v', hbuf, hv'⟩ := hr.ok pre [] (Nat.zero_le _) (by simp) hrun
    obtain ⟨-, v'', hall, hv''⟩ := hr.ok [] d.chunks.flatten (Nat.zero_le _) (by simp) hrun
    rw [List.append_nil, ← hsplit, hlen] at hbuf
    rw [← hrest] at hall
    refine Or.inr (Or.inr ⟨v', v'', off, by simpa using hbuf, ?_, by simpa using hall, ?_⟩)
    · rw [hsplit, List.length_append]
      omega
    · intro h0
      rw [hv' h0, hv'' h0]
  | error err =>
    cases err with
    | error e =>
      have hall := hr.error [] d.chunks.flatten (Nat.zero_le _) (by simp) hrun
      have hbuf := hr.error pre [] (Nat.zero_le _) (by simp) hrun
      rw [List.append_nil, ← hsplit, hlen] at hbuf
      rw [← hrest] at hall
      exact Or.inr (Or.inl ⟨e, by simpa using hbuf, by simpa using hall⟩)
    | notEnoughData n =>
      have hbuf := hr.starved pre (Nat.zero_le _) (by simp) hrun
      rw [← hsplit, hlen] at hbuf
      refine Or.inl ⟨_, by simpa using hbuf, fun hnil => ⟨n, ?_⟩⟩
      rw [hrest, hnil]
      simpa using hrun

end StableFrom

/-! ### One task -/

namespace Scanner

variable (sc : Scanner ε σ τ)

/-- `run'` continues `run` without yielding, from a decoder with these bytes left
over and this register. -/
structure Continues (run run' : Run ε σ τ) (rest : Bytes) (s : σ) : Prop where
  reaches : sc.Reaches run run'
  yielded : run'.yielded = run.yielded
  wellPlaced : run'.decoder.WellPlaced
  rest : run'.decoder.rest = rest
  register : run'.decoder.register = s

theorem Continues.trans {run run' run'' : Run ε σ τ} {rest rest' : Bytes} {s s' : σ}
    (h : sc.Continues run run' rest s) (h' : sc.Continues run' run'' rest' s') :
    sc.Continues run run'' rest' s' where
  reaches := h.reaches.trans sc h'.reaches
  yielded := h'.yielded.trans h.yielded
  wellPlaced := h'.wellPlaced
  rest := h'.rest
  register := h'.register

theorem Continues.of_step {run run' : Run ε σ τ} {rest : Bytes} {s : σ}
    (hstep : (sc.step run).yielded = run.yielded) (h : sc.Continues (sc.step run) run' rest s) :
    sc.Continues run run' rest s where
  reaches := Reaches.step sc h.reaches
  yielded := h.yielded.trans hstep
  wellPlaced := h.wellPlaced
  rest := h.rest
  register := h.register

/-- A run that is reading `t` from a well-placed decoder. -/
structure Reading (run : Run ε σ τ) (t : Task ε σ (Option τ)) (rest : Bytes) (s : σ) : Prop where
  control : ∃ awaited, run.control = .reading t awaited
  wellPlaced : run.decoder.WellPlaced
  rest : run.decoder.rest = rest
  register : run.decoder.register = s

/-- How a run that is reading goes on, given how the reference goes on. -/
def Follows (run : Run ε σ τ) (k : α → Task ε σ (Option τ)) : Scan ε σ α → Prop
  | .done a rest s => ∃ run', sc.Continues run run' rest s ∧
      ∃ awaited, run'.control = .reading (k a) awaited
  | .threw e => sc.Ends run run.yielded (.threw e)
  | .starved => sc.Ends run run.yielded .waiting
  | .rewound => True
  | .stalled => True

theorem Follows.of_continues {run run' : Run ε σ τ} {k : α → Task ε σ (Option τ)}
    {x : Scan ε σ α} {rest : Bytes} {s : σ} (h : sc.Continues run run' rest s)
    (hx : sc.Follows run' k x) : sc.Follows run k x := by
  cases x with
  | done a rest' s' =>
    obtain ⟨run'', hc, hk⟩ := hx
    exact ⟨run'', h.trans sc hc, hk⟩
  | threw e =>
    have hx : sc.Ends run' run'.yielded (.threw e) := hx
    rw [h.yielded] at hx
    exact Ends.of_reaches sc h.reaches hx
  | starved =>
    have hx : sc.Ends run' run'.yielded .waiting := hx
    rw [h.yielded] at hx
    exact Ends.of_reaches sc h.reaches hx
  | rewound => trivial
  | stalled => trivial

/-- A step that yields nothing and ends in a reading run. -/
theorem Reading.step_continues {run : Run ε σ τ} {t : Task ε σ (Option τ)} {rest : Bytes} {s : σ}
    (hyield : (sc.step run).yielded = run.yielded) (h : Reading (sc.step run) t rest s) :
    sc.Continues run (sc.step run) rest s :=
  .of_step sc hyield
    { reaches := Reaches.refl sc _, yielded := rfl, wellPlaced := h.wellPlaced,
      rest := h.rest, register := h.register }

theorem step_read_ok {r : OffsetReader ε β} {k : β → Task ε σ (Option τ)} {run : Run ε σ τ}
    {awaited : Bool} {v : β} {off : Int} (hc : run.control = .reading (.read r k) awaited)
    (hrun : r.run run.decoder.buffer run.decoder.position = .ok ⟨v, off⟩) :
    sc.step run = { run with
      decoder := { run.decoder with position := off }
      control := .reading (k v) awaited } := by
  simp only [step, hc, hrun]

theorem step_read_error {r : OffsetReader ε β} {k : β → Task ε σ (Option τ)} {run : Run ε σ τ}
    {awaited : Bool} {e : ε} (hc : run.control = .reading (.read r k) awaited)
    (hrun : r.run run.decoder.buffer run.decoder.position = .error (.error e)) :
    sc.step run = { run with control := .threw e } := by
  simp only [step, hc, hrun]

theorem step_read_starved {r : OffsetReader ε β} {k : β → Task ε σ (Option τ)} {run : Run ε σ τ}
    {awaited : Bool} {n : Int} (hc : run.control = .reading (.read r k) awaited)
    (hrun : r.run run.decoder.buffer run.decoder.position = .error (.notEnoughData n)) :
    sc.step run = { run with
      decoder := run.decoder.waitForChunk.1
      control := .reading (.read r k) true } := by
  simp only [step, hc, hrun]

/-- An attempt that answers. -/
theorem read_answered {r : OffsetReader ε β} {k : β → Task ε σ (Option τ)} {run : Run ε σ τ}
    {awaited : Bool} {rest : Bytes} {s : σ} (hc : run.control = .reading (.read r k) awaited)
    (hd : run.decoder.WellPlaced) (hrest : run.decoder.rest = rest)
    (hs : run.decoder.register = s)
    (h : (∃ e, r.run run.decoder.buffer run.decoder.position = .error (.error e) ∧
        r.run run.decoder.rest 0 = .error (.error e)) ∨
      (∃ v v' off, r.run run.decoder.buffer run.decoder.position =
          .ok ⟨v, run.decoder.position + off⟩ ∧
        run.decoder.position + off ≤ run.decoder.buffer.length ∧
        r.run run.decoder.rest 0 = .ok ⟨v', off⟩ ∧ (0 ≤ off → v' = v))) :
    sc.Follows run k (Task.scan (Task.await r) rest s) := by
  subst hrest
  rcases h with ⟨e, hbuf, hall⟩ | ⟨v, v', off, hbuf, hle, hall, hv⟩
  · simp only [Task.await, Task.scan, hall]
    refine ⟨1, ?_, ?_⟩ <;> rw [Function.iterate_one, sc.step_read_error hc hbuf]
  · simp only [Task.await, Task.scan, hall]
    split
    · trivial
    · rename_i h0
      obtain rfl := hv (by omega)
      have hstep := sc.step_read_ok hc hbuf
      have hpos := hd.1
      refine ⟨sc.step run, Reading.step_continues sc (t := k v') (by rw [hstep]) ?_, awaited, ?_⟩
      · rw [hstep]
        exact ⟨⟨awaited, rfl⟩, ⟨by dsimp only; omega, hle⟩,
          Decoder.rest_move hd (by omega) hle, hs⟩
      · rw [hstep]

/-- After the last chunk, waiting for more data is waiting forever. -/
theorem ends_of_starved {r : OffsetReader ε β} {k : β → Task ε σ (Option τ)} {run : Run ε σ τ}
    {awaited : Bool} {n : Int} (hc : run.control = .reading (.read r k) awaited)
    (hchunks : run.decoder.chunks = [])
    (hrun : r.run run.decoder.buffer run.decoder.position = .error (.notEnoughData n)) :
    sc.Ends run run.yielded .waiting := by
  have hstep : ∀ run' : Run ε σ τ, run'.decoder = run.decoder →
      (∃ awaited, run'.control = .reading (.read r k) awaited) →
      sc.step run' = { run' with control := .reading (.read r k) true } := by
    rintro run' hd' ⟨awaited', hc'⟩
    rw [sc.step_read_starved hc' (by rw [hd']; exact hrun), hd',
      Decoder.waitForChunk_nil hchunks, ← hd']
  refine Ends.of_reaches sc (Reaches.step sc (Reaches.refl sc _)) ?_
  rw [hstep run rfl ⟨awaited, hc⟩]
  exact sc.ends_of_standstill (hstep _ rfl ⟨true, rfl⟩) (fun h => h)

/-- A single read: by induction on the chunks still to come. -/
theorem read_follows {r : OffsetReader ε β} {k : β → Task ε σ (Option τ)} (hr : Stable r)
    {run : Run ε σ τ} {rest : Bytes} {s : σ} (h : Reading run (.read r k) rest s) :
    sc.Follows run k (Task.scan (Task.await r) rest s) := by
  generalize hchunks : run.decoder.chunks = chunks
  induction chunks generalizing run with
  | nil =>
    obtain ⟨⟨awaited, hc⟩, hd, hrest, hs⟩ := h
    rcases hr.attempt_cases hd with ⟨n, hbuf, hall⟩ | hanswer
    · -- The decoder holds all the bytes there are, and the wait changes nothing.
      obtain ⟨m, hall⟩ := hall hchunks
      rw [hrest] at hall
      simp only [Task.await, Task.scan, hall]
      exact sc.ends_of_starved hc hchunks hbuf
    · exact sc.read_answered hc hd hrest hs hanswer
  | cons chunk chunks ih =>
    obtain ⟨⟨awaited, hc⟩, hd, hrest, hs⟩ := h
    rcases hr.attempt_cases hd with ⟨n, hbuf, -⟩ | hanswer
    · have hstep := sc.step_read_starved hc hbuf
      have hnext : Reading (sc.step run) (.read r k) rest s := by
        rw [hstep]
        exact ⟨⟨true, rfl⟩, Decoder.waitForChunk_wellPlaced hd,
          (Decoder.rest_waitForChunk hd).trans hrest,
          Decoder.waitForChunk_register.trans hs⟩
      refine Follows.of_continues sc (Reading.step_continues sc (by rw [hstep]) hnext)
        (ih hnext ?_)
      rw [hstep, Decoder.waitForChunk_cons hchunks hd]
    · exact sc.read_answered hc hd hrest hs hanswer

theorem step_get {k : σ → Task ε σ (Option τ)} {run : Run ε σ τ} {awaited : Bool}
    (hc : run.control = .reading (.get k) awaited) :
    sc.step run = { run with control := .reading (k run.decoder.register) awaited } := by
  simp only [step, hc]

theorem step_set {s : σ} {t : Task ε σ (Option τ)} {run : Run ε σ τ} {awaited : Bool}
    (hc : run.control = .reading (.set s t) awaited) :
    sc.step run = { run with
      decoder := { run.decoder with register := s }
      control := .reading t awaited } := by
  simp only [step, hc]

theorem step_throw {e : ε} {run : Run ε σ τ} {awaited : Bool}
    (hc : run.control = .reading (.throw e) awaited) :
    sc.step run = { run with control := .threw e } := by
  simp only [step, hc]

/-- What a loop does after a round. -/
def afterRound (body : β → Task ε σ (β ⊕ γ)) (k : γ → Task ε σ α) : β ⊕ γ → Task ε σ α
  | .inl b => .loop body b k
  | .inr c => k c

theorem step_loop {body : β → Task ε σ (β ⊕ γ)} {b : β} {k : γ → Task ε σ (Option τ)}
    {run : Run ε σ τ} {awaited : Bool} (hc : run.control = .reading (.loop body b k) awaited) :
    sc.step run = { run with
      control := .reading ((body b).bind (afterRound body k)) awaited } := by
  simp only [step, hc]
  congr 2

/-- A loop: by induction on the rounds the reference makes. -/
theorem loop_follows {body : β → Task ε σ (β ⊕ γ)} {k : γ → Task ε σ (Option τ)}
    (hbody : ∀ (b : β) (k' : β ⊕ γ → Task ε σ (Option τ)) (run : Run ε σ τ) (rest : Bytes) (s : σ),
      Reading run ((body b).bind k') rest s → sc.Follows run k' ((body b).scan rest s)) :
    ∀ (n : Nat) (b : β) (run : Run ε σ τ) (rest : Bytes) (s : σ),
      Reading run (.loop body b k) rest s →
      sc.Follows run k (Task.iterate (fun b => (body b).scan) n b rest s) := by
  intro n
  induction n with
  | zero => intro b run rest s _; trivial
  | succ n ih =>
    intro b run rest s h
    obtain ⟨⟨awaited, hc⟩, hd, hrest, hs⟩ := h
    have hstep := sc.step_loop hc
    have hnext : Reading (sc.step run) ((body b).bind (afterRound body k)) rest s := by
      rw [hstep]
      exact ⟨⟨awaited, rfl⟩, hd, hrest, hs⟩
    refine Follows.of_continues sc (Reading.step_continues sc (by rw [hstep]) hnext) ?_
    have hround := hbody b _ _ rest s hnext
    rw [Task.iterate]
    cases hscan : (body b).scan rest s with
    | done next rest' s' =>
      rw [hscan] at hround
      obtain ⟨run', hcont, awaited', hc'⟩ := hround
      rw [Scan.bind_done]
      cases next with
      | inl b' =>
        exact Follows.of_continues sc hcont
          (ih b' run' rest' s' ⟨⟨awaited', hc'⟩, hcont.wellPlaced, hcont.rest, hcont.register⟩)
      | inr c => exact ⟨run', hcont, awaited', hc'⟩
    | threw e => rwa [hscan] at hround
    | starved => rwa [hscan] at hround
    | rewound => trivial
    | stalled => trivial

/-- A whole task: by its structure. -/
theorem task_follows {t : Task ε σ α} (ht : t.AllStable) {k : α → Task ε σ (Option τ)}
    {run : Run ε σ τ} {rest : Bytes} {s : σ} (h : Reading run (t.bind k) rest s) :
    sc.Follows run k (t.scan rest s) := by
  induction t generalizing run rest s with
  | pure a =>
    exact ⟨run, ⟨Reaches.refl sc _, rfl, h.wellPlaced, h.rest, h.register⟩, h.control⟩
  | throw e =>
    obtain ⟨⟨awaited, hc⟩, -, -, -⟩ := h
    refine ⟨1, ?_, ?_⟩ <;> rw [Function.iterate_one, sc.step_throw hc]
  | get k' ih =>
    obtain ⟨⟨awaited, hc⟩, hd, hrest, hs⟩ := h
    have hstep := sc.step_get hc
    have hnext : Reading (sc.step run) ((k' s).bind k) rest s := by
      rw [hstep]
      exact ⟨⟨awaited, by rw [← hs]⟩, hd, hrest, hs⟩
    exact Follows.of_continues sc (Reading.step_continues sc (by rw [hstep]) hnext)
      (ih s (ht s) hnext)
  | set s' t ih =>
    obtain ⟨⟨awaited, hc⟩, hd, hrest, hs⟩ := h
    have hstep := sc.step_set hc
    have hnext : Reading (sc.step run) (t.bind k) rest s' := by
      rw [hstep]
      exact ⟨⟨awaited, rfl⟩, hd, hrest, rfl⟩
    exact Follows.of_continues sc (Reading.step_continues sc (by rw [hstep]) hnext) (ih ht hnext)
  | read r k' ih =>
    have hread := sc.read_follows ht.1 h
    simp only [Task.await, Task.scan] at hread ⊢
    cases hrun : r.run rest 0 with
    | error err => rw [hrun] at hread; cases err <;> exact hread
    | ok res =>
      rw [hrun] at hread
      dsimp only at hread ⊢
      by_cases hoff : res.offset < 0
      · rw [if_pos hoff]
        trivial
      · rw [if_neg hoff] at hread ⊢
        obtain ⟨run', hcont, hc'⟩ := hread
        exact Follows.of_continues sc hcont
          (ih _ (ht.2 _) ⟨hc', hcont.wellPlaced, hcont.rest, hcont.register⟩)
  | loop body b k' ihb ihk =>
    have hloop := sc.loop_follows (fun b k'' run rest s hr => ihb b (ht.1 b) hr)
      (rest.length + 1) b run rest s h
    rw [Task.scan]
    cases hit : Task.iterate (fun b => (body b).scan) (rest.length + 1) b rest s with
    | done c rest' s' =>
      rw [hit] at hloop
      obtain ⟨run', hcont, hc'⟩ := hloop
      exact Follows.of_continues sc hcont
        (ihk c (ht.2 c) ⟨hc', hcont.wellPlaced, hcont.rest, hcont.register⟩)
    | threw e => rwa [hit] at hloop
    | starved => rwa [hit] at hloop
    | rewound => trivial
    | stalled => trivial

end Scanner

/-! ### The reference for a whole token stream -/

/-- How the reference scan of a byte string ends. -/
inductive ScanEnding (ε : Type)
  | returned
  | threw (e : ε)
  | starved
  | rewound
  | stalled
  deriving DecidableEq, Repr

namespace Scanner

variable (sc : Scanner ε σ τ)

/-- Scan `bs` token by token, with at most `fuel` tokens. -/
def scanTokens : (fuel : Nat) → Bytes → σ → List (Option τ) × ScanEnding ε
  | _, [], _ => ([], .returned)
  | 0, _ :: _, _ => ([], .stalled)
  | fuel + 1, type :: rest, s =>
    match (sc.dispatch type).scan rest s with
    | .done token rest' s' =>
      let (tokens, ending) := scanTokens fuel rest' s'
      (token :: tokens, ending)
    | .threw e => ([], .threw e)
    | .starved => ([], .starved)
    | .rewound => ([], .rewound)
    | .stalled => ([], .stalled)

/-- Scan the whole of `bs`. There are no more tokens than bytes. -/
def scanAll (bs : Bytes) (s : σ) : List (Option τ) × ScanEnding ε :=
  sc.scanTokens bs.length bs s

/-- If every loop of every task consumes, the reference never stalls. -/
theorem scanTokens_ne_stalled (hsc : ∀ type, (sc.dispatch type).Consuming) :
    ∀ (fuel : Nat) (bs : Bytes) (s : σ), bs.length ≤ fuel →
      (sc.scanTokens fuel bs s).2 ≠ .stalled := by
  intro fuel
  induction fuel with
  | zero =>
    intro bs s h
    obtain rfl : bs = [] := List.eq_nil_of_length_eq_zero (by omega)
    simp [scanTokens]
  | succ fuel ih =>
    intro bs s h
    cases bs with
    | nil => simp [scanTokens]
    | cons type rest =>
      rw [scanTokens]
      have hne := Task.scan_ne_stalled (hsc type) rest s
      cases hscan : (sc.dispatch type).scan rest s with
      | done token rest' s' =>
        have := (Task.scan_suffix hscan).length_le
        simp only [List.length_cons] at h
        exact ih rest' s' (by omega)
      | stalled => exact absurd hscan hne
      | _ => simp

theorem scanAll_ne_stalled (hsc : ∀ type, (sc.dispatch type).Consuming) (bs : Bytes) (s : σ) :
    (sc.scanAll bs s).2 ≠ .stalled :=
  sc.scanTokens_ne_stalled hsc bs.length bs s (le_refl _)

/-! ### The whole run -/

/-- `out` is `tokens` with some of its `none`s left out. -/
inductive Thinned : List (Option τ) → List (Option τ) → Prop
  | nil : Thinned [] []
  | cons {tokens out : List (Option τ)} (token : Option τ) :
      Thinned tokens out → Thinned (token :: tokens) (token :: out)
  | drop {tokens out : List (Option τ)} : Thinned tokens out → Thinned (none :: tokens) out

/-- Where no token is `none`, nothing is left out. -/
theorem Thinned.eq_of_forall_ne_none {tokens out : List (Option τ)} (h : Thinned tokens out)
    (hne : ∀ token ∈ tokens, token ≠ none) : out = tokens := by
  induction h with
  | nil => rfl
  | cons token _ ih => rw [ih fun t ht => hne t (List.mem_cons_of_mem _ ht)]
  | drop _ _ => exact absurd rfl (hne none (List.mem_cons_self ..))

/-- A run between two tokens. -/
structure Scanning (run : Run ε σ τ) (rest : Bytes) (s : σ) : Prop where
  control : run.control = .scanning
  wellPlaced : run.decoder.WellPlaced
  rest : run.decoder.rest = rest
  register : run.decoder.register = s

theorem step_scanning_end {run : Run ε σ τ} (hc : run.control = .scanning)
    (hpos : run.decoder.position = run.decoder.buffer.length) :
    sc.step run = { run with control := .waiting } := by
  simp only [step, hc]
  rw [if_neg (by omega)]

theorem step_scanning_type {run : Run ε σ τ} {type : UInt8} {cur : Bytes}
    (hc : run.control = .scanning) (hd : run.decoder.WellPlaced)
    (hcur : run.decoder.buffer.drop run.decoder.position.toNat = type :: cur) :
    sc.step run = { run with
      decoder := { run.decoder with position := run.decoder.position + 1 }
      control := .reading (sc.dispatch type) false } := by
  obtain ⟨h0, hle⟩ := hd
  have hlen := congrArg List.length hcur
  simp only [List.length_drop, List.length_cons] at hlen
  simp only [step, hc]
  rw [if_pos (by omega), if_neg (by omega), hcur]

/-- From the end of the buffer, two steps wait for the next chunk. -/
theorem scanning_next_chunk {run : Run ε σ τ} {rest : Bytes} {s : σ} (h : Scanning run rest s)
    (hpos : run.decoder.position = run.decoder.buffer.length) {chunk : Bytes}
    {chunks : List Bytes} (hchunks : run.decoder.chunks = chunk :: chunks) :
    ∃ run', sc.Continues run run' rest s ∧ Scanning run' rest s ∧
      run'.decoder.chunks = chunks := by
  obtain ⟨hc, hd, hrest, hs⟩ := h
  have hstep₁ := sc.step_scanning_end hc hpos
  have hwait := Decoder.waitForChunk_cons hchunks hd
  have hstep₂ : sc.step (sc.step run) = { run with
      decoder := run.decoder.waitForChunk.1
      control := .scanning } := by
    rw [hstep₁]
    simp only [step, hwait]
    rfl
  have hscan : Scanning (sc.step (sc.step run)) rest s := by
    rw [hstep₂]
    exact ⟨rfl, Decoder.waitForChunk_wellPlaced hd, (Decoder.rest_waitForChunk hd).trans hrest,
      Decoder.waitForChunk_register.trans hs⟩
  refine ⟨sc.step (sc.step run), ?_, hscan, by rw [hstep₂, hwait]⟩
  exact {
    reaches := ⟨2, rfl⟩
    yielded := by rw [hstep₂]
    wellPlaced := hscan.wellPlaced
    rest := hscan.rest
    register := hscan.register }

/-- With no byte left over, the run returns. -/
theorem scanning_to_end {run : Run ε σ τ} {s : σ} (h : Scanning run [] s) :
    sc.Ends run run.yielded .returned := by
  generalize hchunks : run.decoder.chunks = chunks
  induction chunks generalizing run with
  | nil =>
    obtain ⟨hc, hd, hrest, -⟩ := h
    rw [Decoder.rest_of_chunks_nil hchunks, List.drop_eq_nil_iff] at hrest
    have hpos : run.decoder.position = run.decoder.buffer.length := by
      have := hd.1
      have := hd.2
      omega
    have hstep₁ := sc.step_scanning_end hc hpos
    have hstep₂ : sc.step (sc.step run) = { run with control := .returned } := by
      rw [hstep₁]
      simp [step, Decoder.waitForChunk_nil hchunks, hpos]
    refine ⟨2, ?_, ?_⟩ <;> rw [show sc.step^[2] run = sc.step (sc.step run) from rfl, hstep₂]
  | cons chunk chunks ih =>
    have hpos : run.decoder.position = run.decoder.buffer.length := by
      have hnil := List.append_eq_nil_iff.mp h.rest
      have := List.drop_eq_nil_iff.mp hnil.1
      have := h.wellPlaced.1
      have := h.wellPlaced.2
      omega
    obtain ⟨run', hcont, hscan, hchunks'⟩ := sc.scanning_next_chunk h hpos hchunks
    have hends := ih hscan hchunks'
    rw [hcont.yielded] at hends
    exact Ends.of_reaches sc hcont.reaches hends

/-- The type of the next token is in the buffer. -/
theorem scanning_type_delivered {run : Run ε σ τ} {type : UInt8} {cur rest : Bytes} {s : σ}
    (h : Scanning run (type :: rest) s)
    (hcur : run.decoder.buffer.drop run.decoder.position.toNat = type :: cur)
    (hrest : rest = cur ++ run.decoder.chunks.flatten) :
    ∃ run', sc.Continues run run' rest s ∧ Reading run' (sc.dispatch type) rest s := by
  have hstep := sc.step_scanning_type h.control h.wellPlaced hcur
  have hlen := congrArg List.length hcur
  simp only [List.length_drop, List.length_cons] at hlen
  obtain ⟨h0, hle⟩ := h.wellPlaced
  have hread : Reading (sc.step run) (sc.dispatch type) rest s := by
    rw [hstep]
    refine ⟨⟨false, rfl⟩, ⟨by dsimp only; omega, by dsimp only; omega⟩, ?_, h.register⟩
    have hnext : (run.decoder.position + 1).toNat = run.decoder.position.toNat + 1 := by omega
    rw [Decoder.rest, hrest, hnext, ← List.drop_drop, hcur, List.drop_one, List.tail_cons]
  exact ⟨sc.step run, Reading.step_continues sc (by rw [hstep]) hread, hread⟩

/-- With a byte left over, the run comes to read the token of that type. -/
theorem scanning_to_type {run : Run ε σ τ} {type : UInt8} {rest : Bytes} {s : σ}
    (h : Scanning run (type :: rest) s) :
    ∃ run', sc.Continues run run' rest s ∧ Reading run' (sc.dispatch type) rest s := by
  generalize hchunks : run.decoder.chunks = chunks
  induction chunks generalizing run with
  | nil =>
    have hcur := h.rest
    rw [Decoder.rest_of_chunks_nil hchunks] at hcur
    exact sc.scanning_type_delivered h hcur (by rw [hchunks]; simp)
  | cons chunk chunks ih =>
    cases hcur : run.decoder.buffer.drop run.decoder.position.toNat with
    | nil =>
      have hpos : run.decoder.position = run.decoder.buffer.length := by
        have := List.drop_eq_nil_iff.mp hcur
        have := h.wellPlaced.1
        have := h.wellPlaced.2
        omega
      obtain ⟨run', hcont, hscan, hchunks'⟩ := sc.scanning_next_chunk h hpos hchunks
      obtain ⟨run'', hcont', hread⟩ := ih hscan hchunks'
      exact ⟨run'', hcont.trans sc hcont', hread⟩
    | cons type' cur =>
      have hrest := h.rest
      rw [Decoder.rest, hcur, List.cons_append, List.cons.injEq] at hrest
      obtain ⟨rfl, hrest⟩ := hrest
      exact sc.scanning_type_delivered h hcur hrest.symm

theorem step_yield_some {token : τ} {run : Run ε σ τ} {awaited : Bool}
    (hc : run.control = .reading (.pure (some token)) awaited) :
    sc.step run = { run with
      control := .scanning
      yielded := run.yielded ++ [some token] } := by
  simp only [step, hc]

theorem step_yield_none {run : Run ε σ τ} {awaited : Bool}
    (hc : run.control = .reading (.pure none) awaited) :
    sc.step run = { run with
      control := .scanning
      yielded := if awaited then run.yielded ++ [none] else run.yielded } := by
  simp only [step, hc]

/-- Yielding what a task returned. -/
theorem yield_token {token : Option τ} {run : Run ε σ τ} {rest : Bytes} {s : σ}
    (h : Reading run (.pure token) rest s) :
    Scanning (sc.step run) rest s ∧
      ((sc.step run).yielded = run.yielded ++ [token] ∨
        token = none ∧ (sc.step run).yielded = run.yielded) := by
  obtain ⟨⟨awaited, hc⟩, hd, hrest, hs⟩ := h
  cases token with
  | some token =>
    rw [sc.step_yield_some hc]
    exact ⟨⟨rfl, hd, hrest, hs⟩, Or.inl rfl⟩
  | none =>
    rw [sc.step_yield_none hc]
    refine ⟨⟨rfl, hd, hrest, hs⟩, ?_⟩
    cases awaited with
    | true => exact Or.inl rfl
    | false => exact Or.inr ⟨rfl, rfl⟩

end Scanner

/-- The ending of the runs over a byte string, given how the reference scan of it
ends. Where a read moves back, or a loop does not consume, it does not say. -/
def ScanEnding.ending : ScanEnding ε → Option (Ending ε)
  | .returned => some .returned
  | .threw e => some (.threw e)
  | .starved => some .waiting
  | .rewound => none
  | .stalled => none

namespace Scanner

variable (sc : Scanner ε σ τ)

/-- A run between two tokens yields what the reference finds in the bytes left over,
and ends the way the reference does. By induction on the tokens of the reference. -/
theorem ends_of_scanTokens (hsc : ∀ type, (sc.dispatch type).AllStable) :
    ∀ (fuel : Nat) (bs : Bytes) (s : σ) (run : Run ε σ τ) (ending : Ending ε),
      Scanning run bs s → (sc.scanTokens fuel bs s).2.ending = some ending →
      ∃ out, Thinned (sc.scanTokens fuel bs s).1 out ∧ sc.Ends run (run.yielded ++ out) ending := by
  intro fuel
  induction fuel with
  | zero =>
    intro bs s run ending h hending
    cases bs with
    | nil =>
      obtain rfl : Ending.returned = ending := by simpa [scanTokens, ScanEnding.ending] using hending
      exact ⟨[], .nil, by rw [List.append_nil]; exact sc.scanning_to_end h⟩
    | cons type rest => simp [scanTokens, ScanEnding.ending] at hending
  | succ fuel ih =>
    intro bs s run ending h hending
    cases bs with
    | nil =>
      obtain rfl : Ending.returned = ending := by simpa [scanTokens, ScanEnding.ending] using hending
      exact ⟨[], .nil, by rw [List.append_nil]; exact sc.scanning_to_end h⟩
    | cons type rest =>
      obtain ⟨run₁, hcont₁, hread₁⟩ := sc.scanning_to_type h
      have hfollows := sc.task_follows (hsc type) (k := .pure) (by
        rw [Task.bind_pure]; exact hread₁)
      rw [scanTokens] at hending ⊢
      cases hscan : (sc.dispatch type).scan rest s with
      | done token rest' s' =>
        rw [hscan] at hfollows hending
        obtain ⟨run₂, hcont₂, awaited, hc₂⟩ := hfollows
        obtain ⟨hscan₃, hyield⟩ := sc.yield_token
          ⟨⟨awaited, hc₂⟩, hcont₂.wellPlaced, hcont₂.rest, hcont₂.register⟩
        obtain ⟨out, hthin, hends⟩ := ih rest' s' _ ending hscan₃ hending
        have hreach : sc.Reaches run (sc.step run₂) :=
          (hcont₁.reaches.trans sc hcont₂.reaches).trans sc (Reaches.step sc (Reaches.refl sc _))
        have hends := Ends.of_reaches sc hreach hends
        rcases hyield with hy | ⟨rfl, hy⟩
        · rw [hy, hcont₂.yielded, hcont₁.yielded, List.append_assoc] at hends
          exact ⟨token :: out, .cons token hthin, hends⟩
        · rw [hy, hcont₂.yielded, hcont₁.yielded] at hends
          exact ⟨out, .drop hthin, hends⟩
      | threw e =>
        rw [hscan] at hfollows hending
        obtain rfl : Ending.threw e = ending := by simpa [ScanEnding.ending] using hending
        refine ⟨[], .nil, ?_⟩
        rw [List.append_nil, ← hcont₁.yielded]
        exact Ends.of_reaches sc hcont₁.reaches hfollows
      | starved =>
        rw [hscan] at hfollows hending
        obtain rfl : Ending.waiting = ending := by simpa [ScanEnding.ending] using hending
        refine ⟨[], .nil, ?_⟩
        rw [List.append_nil, ← hcont₁.yielded]
        exact Ends.of_reaches sc hcont₁.reaches hfollows
      | rewound => rw [hscan] at hending; simp [ScanEnding.ending] at hending
      | stalled => rw [hscan] at hending; simp [ScanEnding.ending] at hending

/-- The first step of a fresh run fetches the first chunk, if there is one. -/
theorem start_reaches (chunks : List Bytes) (s : σ) :
    (chunks = [] ∧ sc.Ends (start chunks s) [] .returned) ∨
      ∃ run, sc.Reaches (start chunks s) run ∧ run.yielded = [] ∧
        Scanning run chunks.flatten s := by
  cases chunks with
  | nil => exact Or.inl ⟨rfl, 1, by simp [step, start, Decoder.waitForChunk], rfl⟩
  | cons chunk chunks =>
    refine Or.inr ⟨sc.step (start (chunk :: chunks) s), Reaches.step sc (Reaches.refl sc _), ?_, ?_⟩
    · simp [step, start, Decoder.waitForChunk]
    · simp only [step, start, Decoder.waitForChunk]
      exact ⟨rfl, ⟨le_refl _, Int.natCast_nonneg _⟩, by simp [Decoder.rest], rfl⟩

/-- **Chunking does not matter.** A run over any chunks yields what the reference
finds in all the bytes together, and ends the same way. -/
theorem ends_of_scanAll (hsc : ∀ type, (sc.dispatch type).AllStable) (chunks : List Bytes) (s : σ)
    {ending : Ending ε} (h : (sc.scanAll chunks.flatten s).2.ending = some ending) :
    ∃ out, Thinned (sc.scanAll chunks.flatten s).1 out ∧
      sc.Ends (start chunks s) out ending := by
  rcases sc.start_reaches chunks s with ⟨rfl, hends⟩ | ⟨run, hreach, hy, hscan⟩
  · obtain rfl : Ending.returned = ending := by
      simpa [scanAll, scanTokens, ScanEnding.ending] using h
    exact ⟨[], .nil, hends⟩
  · obtain ⟨out, hthin, hends⟩ := sc.ends_of_scanTokens hsc _ _ s run ending hscan h
    rw [hy, List.nil_append] at hends
    exact ⟨out, hthin, Ends.of_reaches sc hreach hends⟩

end Scanner

end Chunked
