import Tedious.Lib.Lockstep

/-!
# Tedious.Lib.CutOut

**A token that yields nothing, and the stream without it.** `cutOut` takes a range of bytes
out of a chunked stream and leaves the chunks as they are otherwise. Where the range is a
token whose one read answers `none`, the run over the stream and the run without the token
end the same way exactly if the token was delivered in one chunk (`ends_cutOut_iff`): then
its answer is dropped on the spot, and if the read had to wait, a `none` is yielded.
-/

namespace Chunked

/-- The chunks without the `len` bytes behind the first `start` ones. -/
def cutOut : Nat → Nat → List Bytes → List Bytes
  | _, _, [] => []
  | start, len, chunk :: chunks =>
    (chunk.take start ++ chunk.drop (start + len)) ::
      cutOut (start - chunk.length) (len - (chunk.length - start)) chunks

@[simp] theorem cutOut_zero (chunks : List Bytes) : cutOut 0 0 chunks = chunks := by
  induction chunks with
  | nil => rfl
  | cons chunk chunks ih =>
    rw [cutOut, List.take_zero, List.nil_append, Nat.zero_add, List.drop_zero, Nat.zero_sub,
      Nat.zero_sub, ih]

theorem flatten_cutOut (start len : Nat) (chunks : List Bytes) :
    (cutOut start len chunks).flatten =
      chunks.flatten.take start ++ chunks.flatten.drop (start + len) := by
  induction chunks generalizing start len with
  | nil => simp [cutOut]
  | cons chunk chunks ih =>
    rw [cutOut, List.flatten_cons, List.flatten_cons, ih, List.take_append, List.drop_append]
    have hsum : start - chunk.length + (len - (chunk.length - start)) =
        start + len - chunk.length := by omega
    rw [hsum]
    by_cases hle : start ≤ chunk.length
    · rw [Nat.sub_eq_zero_of_le hle, List.take_zero, List.nil_append, List.append_nil,
        List.append_assoc]
    · have hdrop : chunk.drop (start + len) = [] := List.drop_eq_nil_of_le (by omega)
      rw [hdrop, List.append_nil, List.nil_append, List.append_assoc]

/-- Chunk by chunk, up to the one in which the range begins. -/
theorem cutOut_append (before : List Bytes) (last y : Bytes) (R : List Bytes) (len : Nat) :
    cutOut (before.flatten ++ last).length len (before ++ (last ++ y) :: R) =
      before ++ (last ++ y.drop len) :: cutOut 0 (len - y.length) R := by
  induction before with
  | nil =>
    rw [List.flatten_nil, List.nil_append, List.nil_append, List.nil_append, cutOut, List.take_left,
      List.drop_length_add_append, List.length_append, Nat.sub_eq_zero_of_le (Nat.le_add_right _ _),
      Nat.add_sub_cancel_left]
  | cons chunk before ih =>
    have hlength : ((chunk :: before).flatten ++ last).length =
        chunk.length + (before.flatten ++ last).length := by
      rw [List.flatten_cons, List.append_assoc, List.length_append]
    rw [hlength, List.cons_append, List.cons_append, cutOut, List.take_of_length_le (by omega),
      List.drop_eq_nil_of_le (by omega), List.append_nil, Nat.add_sub_cancel_left,
      Nat.sub_eq_zero_of_le (Nat.le_add_right _ _), Nat.sub_zero, ih]

/-- The chunk in which the bytes behind `pre` begin. -/
theorem exists_chunk {chunks : List Bytes} {pre rest : Bytes} (h : chunks.flatten = pre ++ rest)
    (hne : rest ≠ []) :
    ∃ before last y R, chunks = before ++ (last ++ y) :: R ∧ before.flatten ++ last = pre ∧
      y ≠ [] ∧ y ++ R.flatten = rest := by
  induction chunks generalizing pre with
  | nil => exact absurd (List.append_eq_nil_iff.1 h.symm).2 hne
  | cons chunk chunks ih =>
    rw [List.flatten_cons] at h
    by_cases hlt : pre.length < chunk.length
    · obtain ⟨y, hy, hrest⟩ : ∃ y, chunk = pre ++ y ∧ rest = y ++ chunks.flatten := by
        rcases List.append_eq_append_iff.1 h with ⟨y, hpre, -⟩ | ⟨y, hchunk, hrest⟩
        · rw [hpre, List.length_append] at hlt
          omega
        · exact ⟨y, hchunk, hrest⟩
      refine ⟨[], pre, y, chunks, by rw [List.nil_append, hy], rfl, ?_, hrest.symm⟩
      rintro rfl
      rw [hy, List.append_nil] at hlt
      exact lt_irrefl _ hlt
    · obtain ⟨pre', hpre⟩ : ∃ pre', pre = chunk ++ pre' := by
        rcases List.append_eq_append_iff.1 h with ⟨y, hpre, -⟩ | ⟨y, hchunk, -⟩
        · exact ⟨y, hpre⟩
        · rw [hchunk, List.length_append] at hlt
          have hnil : y = [] := List.eq_nil_of_length_eq_zero (by omega)
          exact ⟨[], by rw [hchunk, hnil, List.append_nil, List.append_nil]⟩
      subst hpre
      rw [List.append_assoc, List.append_cancel_left_eq] at h
      obtain ⟨before, last, y, R, rfl, hpre, hy, hrest⟩ := ih h
      exact ⟨chunk :: before, last, y, R, rfl, by rw [← hpre, List.flatten_cons, List.append_assoc],
        hy, hrest⟩

variable {ε σ τ β : Type}

/-! ### Attempts at an encoding -/

section Attempts

variable {r : OffsetReader ε β} {bytes more : Bytes} {a : β} {d : Decoder σ}

theorem Returns.attempt (hr : Returns r bytes a) (hd : d.WellPlaced)
    (hcur : d.current = bytes ++ more) :
    r.run d.buffer d.position = .ok ⟨a, d.position + bytes.length⟩ := by
  obtain ⟨hsplit, hlen⟩ := hd.split
  rw [← Decoder.current, hcur, ← List.append_assoc] at hsplit
  have hrun := hr (d.buffer.take d.position.toNat) more
  rw [← hsplit, List.length_append, Nat.cast_add, hlen] at hrun
  exact hrun

theorem Starves.attempt (hr : Starves r bytes) (hd : d.WellPlaced) (hcur : d.current <+: bytes)
    (hne : d.current ≠ bytes) :
    ∃ n, r.run d.buffer d.position = .error (.notEnoughData n) := by
  obtain ⟨hsplit, hlen⟩ := hd.split
  rw [← Decoder.current] at hsplit
  obtain ⟨n, hrun⟩ := hr (d.buffer.take d.position.toNat) d.current hcur hne
  rw [← hsplit, hlen] at hrun
  exact ⟨n, hrun⟩

end Attempts

/-! ### A token without an answer -/

namespace Scanner

variable {sc : Scanner ε σ τ} {run run' : Run ε σ τ} {type : UInt8} {r : OffsetReader ε β}
  {f : β → Option τ} {bytes more : Bytes} {a : β} {s : σ} {R : List Bytes} {z : List (Option τ)}

theorem Sane.reaches (hsc : ∀ type, (sc.dispatch type).Sound) (hsane : sc.Sane run)
    (h : sc.Reaches run run') : sc.Sane run' := by
  obtain ⟨n, rfl⟩ := h
  induction n generalizing run with
  | zero => exact hsane
  | succ n ih => exact ih (hsane.step hsc)

/-- The ending of a run is the one of every run that comes up in it. -/
theorem Ends.reached {out : List (Option τ)} {ending : Ending ε} (h : sc.Ends run out ending)
    (hreach : sc.Reaches run run') : sc.Ends run' out ending := by
  obtain ⟨m, rfl⟩ := hreach
  have hhalted : ∀ n, (sc.step^[n] run).control.Halted →
      sc.step^[n] (sc.step^[m] run) = sc.step^[n] run := by
    intro n hn
    rw [← Function.iterate_add_apply, Nat.add_comm, Function.iterate_add_apply,
      sc.iterate_of_halted hn]
  cases ending with
  | returned =>
    obtain ⟨n, hc, hy⟩ := h
    have heq := hhalted n (by rw [hc]; trivial)
    exact ⟨n, by rw [heq, hc], by rw [heq, hy]⟩
  | threw e =>
    obtain ⟨n, hc, hy⟩ := h
    have heq := hhalted n (by rw [hc]; trivial)
    exact ⟨n, by rw [heq, hc], by rw [heq, hy]⟩
  | waiting =>
    obtain ⟨n, hn⟩ := h
    refine ⟨n, fun j hj => ?_⟩
    rw [← Function.iterate_add_apply]
    exact hn (j + m) (Nat.le_add_right_of_le hj)

/-- The type of a token is taken. -/
theorem Between.takeType (sc : Scanner ε σ τ) (h : Between run (type :: more) R s z) :
    sc.Reaches run (sc.step run) ∧ (sc.step run).control = .reading (sc.dispatch type) false ∧
      (sc.step run).decoder.WellPlaced ∧ (sc.step run).decoder.current = more ∧
      (sc.step run).decoder.chunks = R ∧ (sc.step run).decoder.register = s ∧
      (sc.step run).yielded = z := by
  have hlength := Decoder.length_current h.wellPlaced
  rw [h.current, List.length_cons] at hlength
  have hpos := h.wellPlaced.1
  refine ⟨Reaches.step sc (Reaches.refl sc _), ?_⟩
  rw [sc.step_scanning_type h.control h.wellPlaced h.current]
  refine ⟨rfl, ⟨?_, ?_⟩, ?_, h.chunks, h.register, h.yielded⟩
  · dsimp only
    omega
  · dsimp only
    omega
  · rw [Decoder.current_move h.wellPlaced (by omega), h.current]
    rfl

/-- The read of such a token succeeds: nothing is yielded unless it had to wait. -/
theorem reads_answerless {awaited : Bool} (hr : Returns r bytes a) (hnone : f a = none)
    (hc : run.control = .reading (.read r fun b => .pure (f b)) awaited)
    (hd : run.decoder.WellPlaced) (hcur : run.decoder.current = bytes ++ more) :
    ∃ run', sc.Reaches run run' ∧ Between run' more run.decoder.chunks run.decoder.register
      (if awaited then run.yielded ++ [none] else run.yielded) := by
  have hrun := hr.attempt hd hcur
  have hstep := sc.step_read_ok hc hrun
  have hlength := Decoder.length_current hd
  rw [hcur, List.length_append] at hlength
  have hpos := hd.1
  have hc₁ : (sc.step run).control = .reading (.pure none) awaited := by rw [hstep, hnone]
  refine ⟨sc.step (sc.step run), ⟨2, rfl⟩, ?_⟩
  rw [sc.step_yield_none hc₁, hstep]
  refine ⟨rfl, ⟨?_, ?_⟩, ?_, rfl, rfl, rfl⟩
  · dsimp only
    omega
  · dsimp only
    omega
  · rw [Decoder.current_move hd (Int.natCast_nonneg _), hcur, Int.toNat_natCast, List.drop_left]

/-- An answerless token that is not delivered whole: the chunks that the read waits for are,
without the token, empty ones and the rest of the last. By induction on the chunks. -/
theorem reads_late {post : Bytes} (hreads : Reads r bytes a) (hnone : f a = none) {awaited : Bool}
    (hc : run.control = .reading (.read r fun b => .pure (f b)) awaited)
    (hd : run.decoder.WellPlaced) (hpart : run.decoder.current <+: bytes)
    (hne : run.decoder.current ≠ bytes) (hchunks : run.decoder.chunks = R)
    (hrest : run.decoder.current ++ R.flatten = bytes ++ post) :
    ∃ run' n more after, cutOut 0 (bytes.length - run.decoder.current.length) R =
        List.replicate n [] ++ more :: after ∧
      sc.Reaches run run' ∧ Between run' more after run.decoder.register (run.yielded ++ [none]) := by
  have hlt : run.decoder.current.length < bytes.length :=
    lt_of_le_of_ne hpart.length_le fun h => hne (hpart.eq_of_length h)
  induction R generalizing run awaited with
  | nil =>
    have hlength := congrArg List.length hrest
    rw [List.flatten_nil, List.append_nil, List.length_append] at hlength
    omega
  | cons chunk R ih =>
    obtain ⟨n, hrun⟩ := hreads.starves.attempt hd hpart hne
    have hstep := sc.step_read_starved hc hrun
    have hcur : (sc.step run).decoder.current = run.decoder.current ++ chunk := by
      rw [hstep, Decoder.current_waitForChunk hchunks hd]
    have hchunks' : (sc.step run).decoder.chunks = R := by
      rw [hstep, Decoder.chunks_waitForChunk hchunks hd]
    have hregister : (sc.step run).decoder.register = run.decoder.register := by
      rw [hstep, Decoder.waitForChunk_register]
    have hd' : (sc.step run).decoder.WellPlaced := by
      rw [hstep]
      exact Decoder.waitForChunk_wellPlaced hd
    have hc' : (sc.step run).control = .reading (.read r fun b => .pure (f b)) true := by
      rw [hstep]
    have hyielded : (sc.step run).yielded = run.yielded := by rw [hstep]
    have hrest' : (sc.step run).decoder.current ++ R.flatten = bytes ++ post := by
      rw [hcur, List.append_assoc, ← List.flatten_cons, hrest]
    rw [cutOut, List.take_zero, List.nil_append, Nat.zero_add, Nat.zero_sub, Nat.sub_zero]
    by_cases hlt' : (sc.step run).decoder.current.length < bytes.length
    · have hpart' : (sc.step run).decoder.current <+: bytes :=
        List.prefix_of_prefix_length_le ⟨R.flatten, hrest'⟩ ⟨post, rfl⟩ hlt'.le
      obtain ⟨run', n, more, after, hcut, hreach, hbetween⟩ := ih hc' hd' hpart'
        (fun h => by rw [h] at hlt'; exact lt_irrefl _ hlt') hchunks' hrest' hlt'
      refine ⟨run', n + 1, more, after, ?_, Reaches.step sc hreach, ?_⟩
      · rw [hcur, List.length_append] at hcut hlt'
        rw [List.drop_eq_nil_of_le (by omega), Nat.sub_sub, hcut]
        rfl
      · rwa [hregister, hyielded] at hbetween
    · obtain ⟨more, hmore⟩ : bytes <+: (sc.step run).decoder.current :=
        List.prefix_of_prefix_length_le ⟨post, rfl⟩ ⟨R.flatten, hrest'⟩ (not_lt.1 hlt')
      obtain ⟨run', hreach, hbetween⟩ := reads_answerless hreads.returns hnone hc' hd' hmore.symm
      have hbehind : chunk.drop (bytes.length - run.decoder.current.length) = more := by
        have hdrop := congrArg (List.drop bytes.length) (hcur.symm.trans hmore.symm)
        rwa [List.drop_left, List.drop_append, List.drop_eq_nil_of_le hlt.le,
          List.nil_append] at hdrop
      refine ⟨run', 0, more, R, ?_, Reaches.step sc hreach, ?_⟩
      · rw [hcur, List.length_append] at hlt'
        rw [hbehind, Nat.sub_eq_zero_of_le (by omega), cutOut_zero]
        rfl
      · rwa [hchunks', hregister, hyielded] at hbetween

theorem Between.nextChunk (sc : Scanner ε σ τ) {chunk : Bytes} (h : Between run [] (chunk :: R) s z) :
    ∃ run', sc.Reaches run run' ∧ Between run' chunk R s z := by
  have hd := h.wellPlaced
  have hstep := sc.step_scanning_end h.control ((Decoder.current_eq_nil hd).1 h.current)
  have hd₁ : (sc.step run).decoder.WellPlaced := by rwa [hstep]
  have hchunks : (sc.step run).decoder.chunks = chunk :: R := by
    rw [hstep]
    exact h.chunks
  have hstep' := step_waiting_cons sc (by rw [hstep])
    (by rw [hchunks]; exact List.cons_ne_nil _ _) hd₁
  refine ⟨sc.step (sc.step run), ⟨2, rfl⟩, ?_⟩
  rw [hstep']
  refine ⟨rfl, Decoder.waitForChunk_wellPlaced hd₁, ?_, Decoder.chunks_waitForChunk hchunks hd₁,
    ?_, ?_⟩
  · rw [Decoder.current_waitForChunk hchunks hd₁, hstep]
    dsimp only
    rw [h.current, List.nil_append]
  · rw [Decoder.waitForChunk_register, hstep]
    exact h.register
  · rw [hstep]
    exact h.yielded

/-- Empty chunks change nothing. -/
theorem Between.skipEmpty (sc : Scanner ε σ τ) {n : Nat}
    (h : Between run [] (List.replicate n [] ++ more :: R) s z) :
    ∃ run', sc.Reaches run run' ∧ Between run' more R s z := by
  induction n generalizing run with
  | zero => exact h.nextChunk sc
  | succ n ih =>
    obtain ⟨run₁, hreach₁, h₁⟩ := h.nextChunk sc
    obtain ⟨run', hreach, h'⟩ := ih h₁
    exact ⟨run', hreach₁.trans sc hreach, h'⟩

/-- Where a run without the token and a run with it come to the same place, one having yielded
`z₀` and the other `z₁`, they end the same way. -/
theorem ends_of_between (hsc : ∀ type, (sc.dispatch type).Sound) {run₀ run₁ run₀' run₁' : Run ε σ τ}
    {z₀ z₁ out : List (Option τ)} {ending : Ending ε} (hsane : sc.Sane run₀)
    (hreach₀ : sc.Reaches run₀ run₀') (h₀ : Between run₀' more R s z₀)
    (hreach₁ : sc.Reaches run₁ run₁') (h₁ : Between run₁' more R s z₁)
    (hends : sc.Ends run₀ out ending) :
    ∃ out', out = z₀ ++ out' ∧ sc.Ends run₁ (z₁ ++ out') ending := by
  obtain ⟨out', hout, hends'⟩ := (h₀.extends h₁).ends hsc (hsane.reaches hsc hreach₀)
    (hends.reached hreach₀)
  exact ⟨out', hout, hends'.of_reaches sc hreach₁⟩

/-- A run over bytes in which nothing rewinds ends somehow. -/
theorem exists_ends (hsc : ∀ type, (sc.dispatch type).Sound) {chunks : List Bytes}
    (h : (sc.scanAll chunks.flatten s).2 ≠ .rewound) :
    ∃ out ending, sc.Ends (start chunks s) out ending := by
  obtain ⟨ending, hending⟩ : ∃ ending, (sc.scanAll chunks.flatten s).2.ending = some ending := by
    cases hend : (sc.scanAll chunks.flatten s).2 with
    | rewound => exact absurd hend h
    | stalled => exact absurd hend (sc.scanAll_ne_stalled (fun type => (hsc type).consuming) _ s)
    | _ => exact ⟨_, rfl⟩
  obtain ⟨out, -, hends⟩ := sc.ends_of_scanAll (fun type => (hsc type).allStable) chunks s hending
  exact ⟨out, ending, hends⟩

section

variable {pre post : Bytes} {before after : List Bytes} {c₁ c₂ : Bytes} {out : List (Option τ)}
  {ending : Ending ε}

/-- A token without an answer that comes in one chunk leaves no trace. -/
theorem ends_of_whole (hsc : ∀ type, (sc.dispatch type).Sound)
    (hdispatch : sc.dispatch type = .read r fun b => .pure (f b)) (hreads : Reads r bytes a)
    (hnone : f a = none) (hpre : (sc.scanAll (before.flatten ++ c₁) s).2 = .returned)
    (hsane : sc.Sane (start (before ++ (c₁ ++ c₂) :: after) s))
    (hends : sc.Ends (start (before ++ (c₁ ++ c₂) :: after) s) out ending) :
    sc.Ends (start (before ++ (c₁ ++ (type :: bytes ++ c₂)) :: after) s) out ending := by
  obtain ⟨s', z, hreaches⟩ := reaches_between hsc hpre
  obtain ⟨run₀, hreach₀, h₀⟩ := hreaches c₂ after
  obtain ⟨run₁, hreach₁, h₁⟩ := hreaches (type :: bytes ++ c₂) after
  rw [List.cons_append] at h₁
  obtain ⟨hstep, hc, hd, hcur, hchunks₁, hregister, hyielded⟩ := h₁.takeType sc
  rw [hdispatch] at hc
  obtain ⟨run₁', hreach₁', h₁'⟩ := reads_answerless hreads.returns hnone hc hd hcur
  rw [hchunks₁, hregister, hyielded, if_neg Bool.false_ne_true] at h₁'
  obtain ⟨out', rfl, hends'⟩ := ends_of_between hsc hsane hreach₀ h₀
    ((hreach₁.trans sc hstep).trans sc hreach₁') h₁' hends
  exact hends'

/-- A token without an answer that is cut makes the run yield one `none` more. -/
theorem ends_of_cut (hsc : ∀ type, (sc.dispatch type).Sound)
    (hdispatch : sc.dispatch type = .read r fun b => .pure (f b)) (hreads : Reads r bytes a)
    (hnone : f a = none) (hpre : (sc.scanAll (before.flatten ++ c₁) s).2 = .returned)
    {part : Bytes} {R : List Bytes} (hrest : part ++ R.flatten = bytes ++ post)
    (hlt : part.length < bytes.length) {without : List Bytes}
    (hwithout : without = cutOut (before.flatten ++ c₁).length (type :: bytes).length
      (before ++ (c₁ ++ type :: part) :: R))
    (hsane : sc.Sane (start without s)) (hends : sc.Ends (start without s) out ending) :
    ∃ z out', out = z ++ out' ∧
      sc.Ends (start (before ++ (c₁ ++ type :: part) :: R) s) (z ++ [none] ++ out') ending := by
  obtain ⟨s', z, hreaches⟩ := reaches_between hsc hpre
  have hpart : part <+: bytes :=
    List.prefix_of_prefix_length_le ⟨R.flatten, hrest⟩ ⟨post, rfl⟩ hlt.le
  obtain ⟨run₁, hreach₁, h₁⟩ := hreaches (type :: part) R
  obtain ⟨hstep, hc, hd, hcur, hchunks₁, hregister, hyielded⟩ := h₁.takeType sc
  rw [hdispatch] at hc
  obtain ⟨run₁', n, more, after, hcut, hreach₁', h₁'⟩ := reads_late hreads hnone hc hd
    (by rwa [hcur]) (by rw [hcur]; rintro rfl; exact lt_irrefl _ hlt) hchunks₁
    (by rw [hcur]; exact hrest)
  rw [hregister, hyielded] at h₁'
  rw [hcur] at hcut
  have hlength : (type :: bytes).length - (type :: part).length = bytes.length - part.length := by
    rw [List.length_cons, List.length_cons, Nat.add_sub_add_right]
  rw [cutOut_append, hlength, hcut, List.drop_eq_nil_of_le (by simpa using hlt.le)] at hwithout
  rw [hwithout] at hends hsane
  obtain ⟨run₀, hreach₀, h₀⟩ := hreaches [] (List.replicate n [] ++ more :: after)
  obtain ⟨run₀', hreach₀', h₀'⟩ := h₀.skipEmpty sc
  obtain ⟨out', hout, hends'⟩ := ends_of_between hsc hsane (hreach₀.trans sc hreach₀') h₀'
    ((hreach₁.trans sc hstep).trans sc hreach₁') h₁' hends
  exact ⟨z, out', hout, hends'⟩

end

/-- **A token without an answer is skipped** exactly if it comes in one chunk. -/
theorem ends_cutOut_iff (sc : Scanner ε σ τ) (hsc : ∀ type, (sc.dispatch type).Sound)
    (hdispatch : sc.dispatch type = .read r fun b => .pure (f b)) (hreads : Reads r bytes a)
    (hnone : f a = none) {pre post : Bytes} {chunks : List Bytes}
    (hpre : (sc.scanAll pre s).2 = .returned) (hahead : (sc.scanAll (pre ++ post) s).2 ≠ .rewound)
    (hchunks : chunks.flatten = pre ++ (type :: bytes ++ post)) :
    (∀ out ending, sc.Ends (start chunks s) out ending ↔
        sc.Ends (start (cutOut pre.length (type :: bytes).length chunks) s) out ending) ↔
      ∃ before c₁ c₂ after, chunks = before ++ (c₁ ++ (type :: bytes ++ c₂)) :: after ∧
        before.flatten ++ c₁ = pre := by
  have hflat : (cutOut pre.length (type :: bytes).length chunks).flatten = pre ++ post := by
    rw [flatten_cutOut, hchunks, List.take_left, List.drop_length_add_append, List.drop_left]
  rw [← hflat] at hahead
  have hsane : sc.Sane (start (cutOut pre.length (type :: bytes).length chunks) s) :=
    sane_start hahead
  obtain ⟨out, ending, hends⟩ := exists_ends hsc hahead
  constructor
  · intro hskipped
    obtain ⟨before, last, y, R, rfl, rfl, hy, hrest⟩ := exists_chunk hchunks (by simp)
    obtain ⟨first, part, rfl⟩ := List.exists_cons_of_ne_nil hy
    by_cases hlt : part.length < bytes.length
    · exfalso
      rw [List.cons_append, List.cons_append, List.cons.injEq] at hrest
      obtain ⟨rfl, hrest⟩ := hrest
      obtain ⟨z, out', rfl, hends'⟩ :=
        ends_of_cut hsc hdispatch hreads hnone hpre hrest hlt rfl hsane hends
      have hsame := (sc.ends_unique hends' ((hskipped _ _).2 hends)).1
      have hlength := congrArg List.length hsame
      simp only [List.length_append, List.length_singleton] at hlength
      omega
    · obtain ⟨c₂, heq⟩ : type :: bytes <+: first :: part :=
        List.prefix_of_prefix_length_le ⟨post, rfl⟩ ⟨R.flatten, hrest⟩
          (Nat.succ_le_succ (not_lt.1 hlt))
      exact ⟨before, last, c₂, R, by rw [heq], rfl⟩
  · rintro ⟨before, c₁, c₂, after, rfl, rfl⟩
    have hwithout : cutOut (before.flatten ++ c₁).length (type :: bytes).length
        (before ++ (c₁ ++ (type :: bytes ++ c₂)) :: after) = before ++ (c₁ ++ c₂) :: after := by
      rw [cutOut_append, List.drop_left, List.length_append,
        Nat.sub_eq_zero_of_le (Nat.le_add_right _ _), cutOut_zero]
    rw [hwithout] at hends hsane ⊢
    have hends' := ends_of_whole hsc hdispatch hreads hnone hpre hsane hends
    intro out' ending'
    constructor
    · intro h
      obtain ⟨rfl, rfl⟩ := sc.ends_unique h hends'
      exact hends
    · intro h
      obtain ⟨rfl, rfl⟩ := sc.ends_unique h hends
      exact hends'

end Scanner

end Chunked
