import Mathlib.Algebra.Order.Floor.Ring
import Mathlib.Data.Rat.Floor
import Tedious.Lib.While
import Tedious.PacketStructure
import Tedious.Token.Parsers

/-!
# Tedious.PacketSplitting

The loop of `_write` for packet sizes that nobody has checked. The size is a `number` of
the configuration or what `parseInt` makes of the text in an `ENVCHANGE`, so the length
of a packet's data may be negative, fractional, infinite or `NaN`, and the loop need not
end. `splits_iff` says for which sizes and messages it does, with packets that their
header can describe; `run_splits_iff` says it of a connection that writes messages while
the server changes the size.

`bl` is a package of its own: its `slice` and `consume` are parameters, with what the
stream relies on in `BufferList.Lawful`.
-/

namespace Tedious

open Chunked While

/-! ### Packet sizes -/

/-- `packetSize - HEADER_LENGTH`. -/
def JsNumber.dataLength : JsNumber → JsNumber
  | finite q => finite (q - HEADER_LENGTH)
  | infinity => infinity
  | negInfinity => negInfinity
  | nan => nan

/-- `n > length`. -/
def JsNumber.exceededBy (length : JsNumber) (n : Nat) : Bool :=
  match length with
  | finite q => q < n
  | negInfinity => true
  | infinity | nan => false

/-- What `parseInt` answers, as a number. -/
def JsNumber.ofParse : Option Int → JsNumber
  | some n => finite n
  | none => nan

theorem JsNumber.exceededBy_mono {length : JsNumber} {m n : Nat} (h : length.exceededBy m = true)
    (hle : m ≤ n) : length.exceededBy n = true := by
  cases length with
  | finite q =>
    have hq : q < m := of_decide_eq_true h
    exact decide_eq_true (hq.trans_le (Nat.cast_le.2 hle))
  | negInfinity => rfl
  | infinity => cases h
  | nan => cases h

/-- The size leaves room for a byte of data, and a packet of that size can be described. -/
def JsNumber.IsPacketSize (packetSize : JsNumber) : Prop :=
  ∃ q, packetSize = finite q ∧ 9 ≤ q ∧ q < 65536

/-! ### The buffer list -/

/-- `bl.slice(0, end)` and `bl.consume(bytes)`, on the bytes of a buffer list. -/
structure BufferList where
  slice : Bytes → JsNumber → Bytes
  consume : Bytes → JsNumber → Bytes

/-- What the stream relies on: both count whole bytes from the front, and there is nothing
to consume when the number is not positive. -/
structure BufferList.Lawful (list : BufferList) : Prop where
  slice_eq : ∀ (bl : Bytes) (q : Rat), 0 ≤ q → q ≤ bl.length →
    list.slice bl (.finite q) = bl.take ⌊q⌋.toNat
  consume_eq : ∀ (bl : Bytes) (q : Rat), 0 ≤ q → q ≤ bl.length →
    list.consume bl (.finite q) = bl.drop ⌊q⌋.toNat
  consume_nonpos : ∀ (bl : Bytes) (n : JsNumber), n.isPositive = false → list.consume bl n = bl

/-! ### Packets that may not fit -/

/-- A packet of a message; its `setLength` throws when the length field cannot hold the
length of the buffer. -/
def Packet.tryForMessage (type : UInt8) (packetNumber : Nat) (resetConnection : Bool)
    (last : Option Bool) (data : Bytes) : Except JsError Packet :=
  if HEADER_LENGTH + data.length ≤ 65535 then
    .ok (.forMessage type packetNumber resetConnection last data)
  else .error .rangeError

namespace OutgoingMessageStream

/-- One look at `while (this.bl.length > length)`. -/
def splitRound (list : BufferList) (length : JsNumber) (message : Message)
    (s : OutgoingMessageStream) : Option (Except JsError OutgoingMessageStream) :=
  if length.exceededBy s.bl.length then
    let data := list.slice s.bl length
    let bl := list.consume s.bl length
    let packetNumber := s.packetNumber + 1
    some ((Packet.tryForMessage message.type packetNumber message.resetConnection none data).map
      fun packet => { s with bl, packetNumber, pushed := s.pushed ++ [packet] })
  else none

/-- The events of a message, with at most `n` looks at the condition for each chunk. -/
def splitEvents (list : BufferList) (n : Nat) (length : JsNumber) (message : Message) :
    List MessageEvent → OutgoingMessageStream → Option (Except JsError OutgoingMessageStream)
  | [], s => some (.ok s)
  | .ignore :: events, s => splitEvents list n length message events { s with ignored := true }
  | .data d :: events, s =>
    if s.ignored then splitEvents list n length message events s
    else
      match whileLoop (splitRound list length message) n { s with bl := s.bl ++ d } with
      | some (.ok s') => splitEvents list n length message events s'
      | r => r

/-- The last packet of a message. -/
def splitEnd (message : Message) (s : OutgoingMessageStream) : Except JsError (List Packet) :=
  (Packet.tryForMessage message.type (s.packetNumber + 1) message.resetConnection
    (some s.ignored) s.bl).map fun packet => s.pushed ++ [packet]

/-- `_write` at any packet size. -/
def split (list : BufferList) (n : Nat) (packetSize : JsNumber) (message : Message) :
    Option (Except JsError (List Packet)) :=
  (splitEvents list n packetSize.dataLength message message.events
    { bl := [], packetNumber := 0, ignored := false, pushed := [] }).map
      fun r => r.bind (splitEnd message)

/-- The message becomes finitely many packets, whose header describes them. -/
def Splits (list : BufferList) (packetSize : JsNumber) (message : Message) : Prop :=
  ∃ n packets, split list n packetSize message = some (.ok packets) ∧
    ∀ p ∈ packets, p.buffer.length ≤ 65535 ∧ p.WellFormed

/-- The chunks of data that are heard of a message. -/
def heardChunks : List MessageEvent → List Bytes
  | [] => []
  | .ignore :: _ => []
  | .data d :: events => d :: heardChunks events

theorem flatten_heardChunks (events : List MessageEvent) :
    (heardChunks events).flatten = heard events := by
  induction events with
  | nil => rfl
  | cons event events ih =>
    cases event with
    | data d => rw [heardChunks, List.flatten_cons, ih, heard]
    | ignore => rfl

/-- The message never makes the loop go round, and one packet can hold it. -/
def FitsOne (packetSize : JsNumber) (message : Message) : Prop :=
  (heardChunks message.events = [] ∨
    packetSize.dataLength.exceededBy (heard message.events).length = false) ∧
  HEADER_LENGTH + (heard message.events).length ≤ 65535

/-! ### Messages that fit one packet -/

variable {list : BufferList} {length : JsNumber} {message : Message} {n : Nat}
  {s s' : OutgoingMessageStream}

theorem splitRound_eq_none :
    splitRound list length message s = none ↔ length.exceededBy s.bl.length = false := by
  rw [splitRound]
  split
  · next h => simp [h]
  · next h => simpa using h

/-- What is heard is collected in the buffer list. -/
def collect (s : OutgoingMessageStream) (events : List MessageEvent) : OutgoingMessageStream :=
  { s with
    bl := if s.ignored then s.bl else s.bl ++ heard events
    ignored := s.ignored || decide (.ignore ∈ events) }

theorem collect_ignored (hignored : s.ignored = true) (events : List MessageEvent) :
    collect s events = s := by
  rw [collect, if_pos hignored, hignored, Bool.true_or, ← hignored]

theorem collect_ignore (events : List MessageEvent) :
    collect s (.ignore :: events) = collect { s with ignored := true } events := by
  cases hignored : s.ignored <;> simp [collect, heard, hignored]

theorem collect_data (hheard : ¬s.ignored = true) (d : Bytes) (events : List MessageEvent) :
    collect s (.data d :: events) = collect { s with bl := s.bl ++ d } events := by
  simp [collect, heard, hheard]

/-- As long as the condition never holds, the events are collected. -/
theorem splitEvents_of_fits (list : BufferList) (message : Message) (n : Nat)
    (events : List MessageEvent)
    (hfits : s.ignored = true ∨ heardChunks events = [] ∨
      length.exceededBy (s.bl ++ heard events).length = false) :
    splitEvents list (n + 1) length message events s = some (.ok (collect s events)) := by
  induction events generalizing s with
  | nil => simp [splitEvents, collect, heard]
  | cons event events ih =>
    cases event with
    | ignore =>
      rw [splitEvents, collect_ignore]
      exact ih (.inl rfl)
    | data d =>
      rw [splitEvents]
      by_cases hignored : s.ignored = true
      · rw [if_pos hignored, ih (.inl hignored), collect_ignored hignored, collect_ignored hignored]
      · rw [if_neg hignored, collect_data hignored]
        have hfits : length.exceededBy (s.bl ++ d ++ heard events).length = false := by
          rw [List.append_assoc]
          exact (hfits.resolve_left hignored).resolve_left (List.cons_ne_nil d _)
        have hle : (s.bl ++ d).length ≤ (s.bl ++ d ++ heard events).length :=
          (List.prefix_append ..).length_le
        have hfirst : length.exceededBy (s.bl ++ d).length = false :=
          Bool.eq_false_of_not_eq_true fun h => Bool.eq_false_iff.1 hfits
            (JsNumber.exceededBy_mono h hle)
        have hround : splitRound list length message { s with bl := s.bl ++ d } = none :=
          splitRound_eq_none.2 hfirst
        rw [whileLoop_done hround]
        exact ih (.inr (.inr hfits))

/-! ### Loops that nothing leaves -/

/-- At a size that is none, a loop that is entered is not left in an orderly way: a packet
is too long for its header, or nothing is consumed. -/
theorem whileLoop_stuck {packetSize : JsNumber} (hlist : list.Lawful)
    (hsize : ¬packetSize.IsPacketSize)
    (hentered : packetSize.dataLength.exceededBy s.bl.length = true) :
    whileLoop (splitRound list packetSize.dataLength message) n s ≠ some (.ok s') := by
  refine whileLoop_ne_ok (fun s => packetSize.dataLength.exceededBy s.bl.length = true)
    (fun s hs hnone => ?_) (fun s s' hs hround => ?_) hentered
  · rw [splitRound_eq_none, hs] at hnone
    cases hnone
  · have hconsumed : list.consume s.bl packetSize.dataLength = s.bl ∨
        65535 < HEADER_LENGTH + (list.slice s.bl packetSize.dataLength).length := by
      cases packetSize with
      | infinity => cases hs
      | nan => cases hs
      | negInfinity => exact .inl (hlist.consume_nonpos _ _ rfl)
      | finite q =>
        have hq : q - (HEADER_LENGTH : Nat) < (s.bl.length : Rat) := of_decide_eq_true hs
        rw [HEADER_LENGTH] at hq
        by_cases hlow : q < 9
        · refine .inl ?_
          by_cases hpos : 0 ≤ q - 8
          · have hfloor : ⌊q - 8⌋ = 0 := by
              rw [Int.floor_eq_zero_iff]
              exact ⟨hpos, by linarith⟩
            have hdrop := hlist.consume_eq s.bl (q - 8) hpos hq.le
            rw [hfloor] at hdrop
            exact hdrop
          · refine hlist.consume_nonpos _ _ (decide_eq_false ?_)
            exact fun h => hpos h.le
        · have hhigh : 65536 ≤ q := le_of_not_gt fun h => hsize ⟨q, rfl, le_of_not_gt hlow, h⟩
          refine .inr ?_
          have hfloor : (65528 : Int) ≤ ⌊q - 8⌋ := Int.le_floor.2 (by push_cast; linarith)
          have hlength : ⌊q - 8⌋ ≤ (s.bl.length : Int) := by
            have := Int.floor_le (q - 8)
            exact_mod_cast this.trans hq.le
          have hslice := hlist.slice_eq s.bl (q - 8) (by linarith) hq.le
          show 65535 < HEADER_LENGTH + (list.slice s.bl (.finite (q - 8))).length
          rw [hslice, List.length_take, HEADER_LENGTH]
          omega
    rw [splitRound, if_pos hs] at hround
    simp only [Option.some.injEq, Packet.tryForMessage] at hround
    split at hround
    · next hfits =>
      cases hround
      exact (hconsumed.resolve_right (by omega)).symm ▸ hs
    · cases hround

/-- So the events of a message are over only if they were just collected. -/
theorem fits_of_splitEvents {packetSize : JsNumber} (hlist : list.Lawful)
    (hsize : ¬packetSize.IsPacketSize) {events : List MessageEvent}
    (h : splitEvents list n packetSize.dataLength message events s = some (.ok s')) :
    (s.ignored = true ∨ heardChunks events = [] ∨
      packetSize.dataLength.exceededBy (s.bl ++ heard events).length = false) ∧
    s' = collect s events := by
  induction events generalizing s with
  | nil =>
    cases h
    exact ⟨.inr (.inl rfl), by simp [collect, heard]⟩
  | cons event events ih =>
    cases event with
    | ignore =>
      rw [collect_ignore]
      exact ⟨.inr (.inl rfl), (ih h).2⟩
    | data d =>
      rw [splitEvents] at h
      by_cases hignored : s.ignored = true
      · rw [if_pos hignored] at h
        refine ⟨.inl hignored, (ih h).2.trans ?_⟩
        rw [collect_ignored hignored, collect_ignored hignored]
      · rw [if_neg hignored] at h
        by_cases hentered : packetSize.dataLength.exceededBy (s.bl ++ d).length = true
        · cases hloop : whileLoop (splitRound list packetSize.dataLength message) n
              { s with bl := s.bl ++ d } with
          | none => rw [hloop] at h; cases h
          | some r =>
            cases r with
            | error e => rw [hloop] at h; cases h
            | ok s₁ => exact absurd hloop (whileLoop_stuck hlist hsize hentered)
        · have hfirst := Bool.eq_false_of_not_eq_true hentered
          have hround : splitRound list packetSize.dataLength message
              { s with bl := s.bl ++ d } = none := splitRound_eq_none.2 hfirst
          cases n with
          | zero => cases h
          | succ n =>
            rw [whileLoop_done hround] at h
            obtain ⟨hrest, heq⟩ := ih h
            rw [collect_data hignored, heard, ← List.append_assoc]
            refine ⟨.inr (.inr ?_), heq⟩
            rcases hrest with hi | hnil | hfits
            · exact absurd hi hignored
            · have hheard : heard events = [] := by rw [← flatten_heardChunks, hnil]; rfl
              rwa [hheard, List.append_nil]
            · exact hfits

/-! ### Sizes that are some -/

/-- What a loop does at a packet size: it pushes packets that describe themselves, and
makes the buffer list shorter. -/
structure Splitting (s s' : OutgoingMessageStream) : Prop where
  pushed : ∀ p ∈ s'.pushed, p.buffer.length ≤ 65535 ∧ p.WellFormed
  le : s'.bl.length ≤ s.bl.length
  ignored : s'.ignored = s.ignored

theorem wellFormed_of_tryForMessage {type : UInt8} {packetNumber : Nat} {resetConnection : Bool}
    {last : Option Bool} {data : Bytes} {p : Packet}
    (h : Packet.tryForMessage type (packetNumber + 1) resetConnection last data = .ok p) :
    p.buffer.length ≤ 65535 ∧ p.WellFormed := by
  rw [Packet.tryForMessage] at h
  split at h
  · next hle =>
    cases h
    rw [HEADER_LENGTH] at hle
    refine ⟨?_, Packet.wellFormed_forMessage type (Nat.succ_ne_zero packetNumber) _ _ (by omega)⟩
    rw [Packet.buffer_forMessage type (Nat.succ_ne_zero packetNumber), List.length_append]
    simpa using hle
  · cases h

/-- A round at a packet size. -/
theorem splitRound_eq_some {q : Rat} (hlist : list.Lawful) (hlow : 9 ≤ q) (hhigh : q < 65536)
    {next : Except JsError OutgoingMessageStream}
    (hround : splitRound list (.finite (q - 8)) message s = some next) :
    ∃ p, (p.buffer.length ≤ 65535 ∧ p.WellFormed) ∧ 0 < ⌊q - 8⌋.toNat ∧
      ⌊q - 8⌋.toNat ≤ s.bl.length ∧
      next = .ok { s with
        bl := s.bl.drop ⌊q - 8⌋.toNat
        packetNumber := s.packetNumber + 1
        pushed := s.pushed ++ [p] } := by
  have hpos : (1 : Int) ≤ ⌊q - 8⌋ := Int.le_floor.2 (by push_cast; linarith)
  have hceil : ⌊q - 8⌋ < (65528 : Int) := Int.floor_lt.2 (by push_cast; linarith)
  rw [splitRound] at hround
  split at hround
  · next hentered =>
    have hq : q - 8 < (s.bl.length : Rat) := of_decide_eq_true hentered
    have hle : ⌊q - 8⌋ ≤ (s.bl.length : Int) := by
      have := Int.floor_le (q - 8)
      exact_mod_cast this.trans hq.le
    have hfits : HEADER_LENGTH + (s.bl.take ⌊q - 8⌋.toNat).length ≤ 65535 := by
      rw [List.length_take, HEADER_LENGTH]
      omega
    rw [hlist.slice_eq s.bl (q - 8) (by linarith) hq.le,
      hlist.consume_eq s.bl (q - 8) (by linarith) hq.le] at hround
    have hpacket : Packet.tryForMessage message.type (s.packetNumber + 1) message.resetConnection
        none (s.bl.take ⌊q - 8⌋.toNat) = .ok _ := if_pos hfits
    simp only [hpacket] at hround
    cases hround
    exact ⟨_, wellFormed_of_tryForMessage hpacket, by omega, by omega, rfl⟩
  · cases hround

/-- At a packet size every loop ends, with no more than a packet left. -/
theorem exists_whileLoop (message : Message) {q : Rat} (hlist : list.Lawful) (hlow : 9 ≤ q)
    (hhigh : q < 65536) (hpushed : ∀ p ∈ s.pushed, p.buffer.length ≤ 65535 ∧ p.WellFormed)
    (hn : s.bl.length < n) :
    ∃ s', whileLoop (splitRound list (.finite (q - 8)) message) n s = some (.ok s') ∧
      Splitting s s' ∧ (s'.bl.length : Rat) ≤ q - 8 := by
  have hround : ∀ s₁ next, Splitting s s₁ →
      splitRound list (.finite (q - 8)) message s₁ = some next →
      ∃ s₂, next = .ok s₂ ∧ Splitting s s₂ ∧ s₂.bl.length < s₁.bl.length := by
    intro s₁ next hs₁ hnext
    obtain ⟨p, hp, hpos, hle, rfl⟩ := splitRound_eq_some hlist hlow hhigh hnext
    have hdrop := List.length_drop (i := ⌊q - 8⌋.toNat) (l := s₁.bl)
    refine ⟨_, rfl, ⟨fun p' hp' => ?_, ?_, hs₁.ignored⟩, by dsimp only; omega⟩
    · rcases List.mem_append.1 hp' with hp' | hp'
      · exact hs₁.pushed p' hp'
      · exact List.mem_singleton.1 hp' ▸ hp
    · have := hs₁.le
      dsimp only
      omega
  obtain ⟨s', hs'⟩ := whileLoop_exists (Splitting s) (fun s => s.bl.length) hround
    ⟨hpushed, le_rfl, rfl⟩ hn
  have hkept : ∀ s₁ s₂, Splitting s s₁ →
      splitRound list (.finite (q - 8)) message s₁ = some (.ok s₂) → Splitting s s₂ := by
    intro s₁ s₂ hs₁ hs₂
    obtain ⟨_, heq, hkept, -⟩ := hround s₁ _ hs₁ hs₂
    cases heq
    exact hkept
  obtain ⟨hsplitting, hnone⟩ := whileLoop_exit (Splitting s) hkept ⟨hpushed, le_rfl, rfl⟩ hs'
  rw [splitRound_eq_none] at hnone
  exact ⟨s', hs', hsplitting, not_lt.1 (of_decide_eq_false hnone)⟩

/-- At a packet size the events come to an end as well. -/
theorem exists_splitEvents (message : Message) {q : Rat} (hlist : list.Lawful) (hlow : 9 ≤ q)
    (hhigh : q < 65536)
    {events : List MessageEvent}
    (hpushed : ∀ p ∈ s.pushed, p.buffer.length ≤ 65535 ∧ p.WellFormed)
    (hfit : (s.bl.length : Rat) ≤ q - 8) (hn : (s.bl ++ heard events).length < n) :
    ∃ s', splitEvents list n (.finite (q - 8)) message events s = some (.ok s') ∧
      (∀ p ∈ s'.pushed, p.buffer.length ≤ 65535 ∧ p.WellFormed) ∧
      (s'.bl.length : Rat) ≤ q - 8 := by
  induction events generalizing s with
  | nil => exact ⟨s, rfl, hpushed, hfit⟩
  | cons event events ih =>
    rw [List.length_append] at hn
    cases event with
    | ignore =>
      have hignored : splitEvents list (n - 1 + 1) (.finite (q - 8)) message events
          { s with ignored := true } = some (.ok (collect { s with ignored := true } events)) :=
        splitEvents_of_fits list message (n - 1) events (.inl rfl)
      rw [Nat.sub_add_cancel (by omega), collect_ignored rfl] at hignored
      exact ⟨_, hignored, hpushed, hfit⟩
    | data d =>
      rw [splitEvents]
      rw [heard, List.length_append] at hn
      by_cases hignored : s.ignored = true
      · rw [if_pos hignored]
        exact ih hpushed hfit (by rw [List.length_append]; omega)
      · rw [if_neg hignored]
        obtain ⟨s', hs', hsplitting, hfit'⟩ := exists_whileLoop message (n := n)
          (s := { s with bl := s.bl ++ d }) hlist hlow hhigh hpushed
          (by rw [List.length_append]; omega)
        have hle := hsplitting.le
        rw [List.length_append] at hle
        rw [hs']
        exact ih hsplitting.pushed hfit' (by rw [List.length_append]; omega)

/-! ### When a message is split -/

/-- A message whose events are over becomes packets if its last one can be described. -/
theorem splits_of_splitEvents {packetSize : JsNumber}
    (h : splitEvents list n packetSize.dataLength message message.events
      { bl := [], packetNumber := 0, ignored := false, pushed := [] } = some (.ok s))
    (hpushed : ∀ p ∈ s.pushed, p.buffer.length ≤ 65535 ∧ p.WellFormed)
    (hfits : HEADER_LENGTH + s.bl.length ≤ 65535) : Splits list packetSize message := by
  obtain ⟨packet, hlast⟩ : ∃ packet, Packet.tryForMessage message.type (s.packetNumber + 1)
      message.resetConnection (some s.ignored) s.bl = .ok packet := ⟨_, if_pos hfits⟩
  refine ⟨n, s.pushed ++ [packet], ?_, fun p hp => ?_⟩
  · rw [split, h, Option.map_some, Except.bind, splitEnd, hlast, Except.map]
  · rcases List.mem_append.1 hp with hp | hp
    · exact hpushed p hp
    · exact List.mem_singleton.1 hp ▸ wellFormed_of_tryForMessage hlast

/-- **Splitting.** A message becomes finitely many packets that their headers can describe
exactly when the packet size leaves room for a byte of data and fits the length field, or
the message never makes the loop go round and fits one packet. -/
theorem splits_iff (hlist : list.Lawful) (packetSize : JsNumber) (message : Message) :
    Splits list packetSize message ↔ packetSize.IsPacketSize ∨ FitsOne packetSize message := by
  constructor
  · rintro ⟨n, packets, hsplit, -⟩
    refine or_iff_not_imp_left.2 fun hsize => ?_
    rw [split] at hsplit
    cases hevents : splitEvents list n packetSize.dataLength message message.events
        { bl := [], packetNumber := 0, ignored := false, pushed := [] } with
    | none => rw [hevents] at hsplit; cases hsplit
    | some r =>
      rw [hevents, Option.map_some, Option.some.injEq] at hsplit
      cases r with
      | error e => cases hsplit
      | ok s =>
        obtain ⟨hfits, rfl⟩ := fits_of_splitEvents hlist hsize hevents
        have hend : splitEnd message _ = .ok packets := hsplit
        rw [splitEnd, Packet.tryForMessage] at hend
        refine ⟨hfits.resolve_left Bool.false_ne_true, ?_⟩
        split at hend
        · next hle => exact hle
        · cases hend
  · rintro (⟨q, rfl, hlow, hhigh⟩ | ⟨hfits, hone⟩)
    · have hempty : ((OutgoingMessageStream.mk [] 0 false []).bl.length : Rat) ≤ q - 8 := by
        simp
        linarith
      obtain ⟨s, hs, hpushed, hfit⟩ := exists_splitEvents message hlist hlow hhigh (by simp) hempty
        (Nat.lt_succ_self _)
      refine splits_of_splitEvents hs hpushed ?_
      have : (s.bl.length : Rat) < 65528 := by linarith
      have : s.bl.length < 65528 := by exact_mod_cast this
      rw [HEADER_LENGTH]
      omega
    · have hcollect : splitEvents list 1 packetSize.dataLength message message.events
          { bl := [], packetNumber := 0, ignored := false, pushed := [] } = _ :=
        splitEvents_of_fits list message 0 message.events (.inr (by simpa using hfits))
      exact splits_of_splitEvents hcollect (by simp [collect]) (by simpa [collect] using hone)

end OutgoingMessageStream

/-! ### A connection -/

/-- What concerns the outgoing stream while a connection is up: the server announces a
packet size, or a message is written. -/
inductive StreamEvent
  /-- The texts of a `PACKET_SIZE` change. -/
  | packetSizeChange (newValue oldValue : JsString)
  | message (message : Message)
  deriving DecidableEq, Repr

/-- `onPacketSizeChange`: `messageIo.packetSize(token.newValue)`. -/
def onPacketSizeChange (packetSize : JsNumber) : EnvChange → JsNumber
  | .packetSize newValue _ => .ofParse newValue
  | _ => packetSize

/-- The token that the parser makes of the two texts. -/
def packetSizeToken (newValue oldValue : JsString) : EnvChange :=
  .packetSize (parseInt newValue) (parseInt oldValue)

namespace OutgoingMessageStream

/-- The packets of each message, from the packet size of the configuration on. -/
def splitAll (list : BufferList) (n : Nat) :
    JsNumber → List StreamEvent → Option (Except JsError (List (List Packet)))
  | _, [] => some (.ok [])
  | packetSize, .packetSizeChange newValue oldValue :: events =>
    splitAll list n (onPacketSizeChange packetSize (packetSizeToken newValue oldValue)) events
  | packetSize, .message message :: events =>
    match split list n packetSize message with
    | some (.ok packets) => (splitAll list n packetSize events).map fun r => r.map (packets :: ·)
    | some (.error e) => some (.error e)
    | none => none

/-- Every message becomes finitely many packets, whose headers describe them. -/
def SplitsAll (list : BufferList) (packetSize : JsNumber) (events : List StreamEvent) : Prop :=
  ∃ n packets, splitAll list n packetSize events = some (.ok packets) ∧
    ∀ ps ∈ packets, ∀ p ∈ ps, p.buffer.length ≤ 65535 ∧ p.WellFormed

/-- The messages, each with the packet size in force when it is written. -/
def written : JsNumber → List StreamEvent → List (JsNumber × Message)
  | _, [] => []
  | packetSize, .packetSizeChange newValue oldValue :: events =>
    written (onPacketSizeChange packetSize (packetSizeToken newValue oldValue)) events
  | packetSize, .message message :: events => (packetSize, message) :: written packetSize events

variable {list : BufferList} {n : Nat}

/-- More looks at the conditions do not change what is written. -/
theorem splitEvents_add {length : JsNumber} {message : Message} {events : List MessageEvent}
    {s : OutgoingMessageStream} {r : Except JsError OutgoingMessageStream}
    (h : splitEvents list n length message events s = some r) (k : Nat) :
    splitEvents list (n + k) length message events s = some r := by
  induction events generalizing s with
  | nil => exact h
  | cons event events ih =>
    cases event with
    | ignore => exact ih h
    | data d =>
      rw [splitEvents] at h ⊢
      by_cases hignored : s.ignored = true
      · rw [if_pos hignored] at h ⊢
        exact ih h
      · rw [if_neg hignored] at h ⊢
        cases hloop : whileLoop (splitRound list length message) n { s with bl := s.bl ++ d } with
        | none => rw [hloop] at h; cases h
        | some next =>
          rw [hloop] at h
          rw [whileLoop_add hloop k]
          cases next with
          | error e => exact h
          | ok s' => exact ih h

theorem split_add {packetSize : JsNumber} {message : Message} {r : Except JsError (List Packet)}
    (h : split list n packetSize message = some r) (k : Nat) :
    split list (n + k) packetSize message = some r := by
  rw [split] at h ⊢
  obtain ⟨s, hs, rfl⟩ := Option.map_eq_some_iff.1 h
  rw [splitEvents_add hs k, Option.map_some]

theorem splitAll_add {packetSize : JsNumber} {events : List StreamEvent}
    {r : Except JsError (List (List Packet))} (h : splitAll list n packetSize events = some r)
    (k : Nat) : splitAll list (n + k) packetSize events = some r := by
  induction events generalizing packetSize r with
  | nil => exact h
  | cons event events ih =>
    cases event with
    | packetSizeChange newValue oldValue => exact ih h
    | message message =>
      rw [splitAll] at h ⊢
      cases hsplit : split list n packetSize message with
      | none => rw [hsplit] at h; cases h
      | some next =>
        rw [hsplit] at h
        rw [split_add hsplit k]
        cases next with
        | error e => exact h
        | ok packets =>
          obtain ⟨r', hr', rfl⟩ := Option.map_eq_some_iff.1 h
          exact Option.map_eq_some_iff.2 ⟨r', ih hr', rfl⟩

/-- A connection splits its messages when it splits the first one, and then the others. -/
theorem splitsAll_message {packetSize : JsNumber} {message : Message}
    {events : List StreamEvent} :
    SplitsAll list packetSize (.message message :: events) ↔
      Splits list packetSize message ∧ SplitsAll list packetSize events := by
  constructor
  · rintro ⟨n, packetss, hall, hgood⟩
    rw [splitAll] at hall
    cases hsplit : split list n packetSize message with
    | none => rw [hsplit] at hall; cases hall
    | some next =>
      rw [hsplit] at hall
      cases next with
      | error e => cases hall
      | ok packets =>
        obtain ⟨r, hr, hcons⟩ := Option.map_eq_some_iff.1 hall
        cases r with
        | error e => cases hcons
        | ok rest =>
          cases hcons
          exact ⟨⟨n, packets, hsplit, hgood packets (List.mem_cons_self ..)⟩,
            ⟨n, rest, hr, fun ps hps => hgood ps (List.mem_cons_of_mem _ hps)⟩⟩
  · rintro ⟨⟨n, packets, hsplit, hgood⟩, ⟨m, rest, hrest, hgoods⟩⟩
    have hrest' := splitAll_add hrest n
    rw [Nat.add_comm] at hrest'
    refine ⟨n + m, packets :: rest, ?_, fun ps hps => ?_⟩
    · rw [splitAll, split_add hsplit m, hrest']
      rfl
    · rcases List.mem_cons.1 hps with rfl | hps
      · exact hgood
      · exact hgoods ps hps

/-- **Every negotiable packet size.** Whatever size the configuration gives and whatever
texts the server sends, the messages of a connection become finitely many packets that
their headers can describe exactly when each of them meets one of two conditions at the
size in force: the size is one, or the message fits one packet without being cut. -/
theorem splitsAll_iff (hlist : list.Lawful) (packetSize : JsNumber) (events : List StreamEvent) :
    SplitsAll list packetSize events ↔
      ∀ w ∈ written packetSize events, w.1.IsPacketSize ∨ FitsOne w.1 w.2 := by
  induction events generalizing packetSize with
  | nil =>
    have hnil : SplitsAll list packetSize [] := ⟨0, [], rfl, by simp⟩
    simpa [written] using hnil
  | cons event events ih =>
    cases event with
    | packetSizeChange newValue oldValue => exact ih _
    | message message =>
      rw [splitsAll_message, splits_iff hlist, ih, written, List.forall_mem_cons]

end OutgoingMessageStream

/-! ### The buffer list of the package -/

/-- A number of bytes to take from the front, of which negative ones leave out bytes at the
end, as `bl` counts. -/
def takeCount (bl : Bytes) : JsNumber → Nat
  | .finite q => if 0 ≤ q then min ⌊q⌋.toNat bl.length else ⌊q + bl.length⌋.toNat
  | .infinity | .nan => bl.length
  | .negInfinity => 0

/-- What `bl` does. -/
def BufferList.ofPackage : BufferList where
  slice bl n := bl.take (takeCount bl n)
  consume bl n := if n.isPositive then bl.drop (takeCount bl n) else bl

theorem BufferList.lawful_ofPackage : BufferList.ofPackage.Lawful where
  slice_eq bl q h0 hle := by
    have hfloor : ⌊q⌋ ≤ (bl.length : Int) := by
      have := Int.floor_le q
      exact_mod_cast this.trans hle
    show bl.take (takeCount bl (.finite q)) = _
    rw [takeCount, if_pos h0, Nat.min_eq_left (by omega)]
  consume_eq bl q h0 hle := by
    have hfloor : ⌊q⌋ ≤ (bl.length : Int) := by
      have := Int.floor_le q
      exact_mod_cast this.trans hle
    show (if (JsNumber.finite q).isPositive = true then _ else _) = _
    split
    · rw [takeCount, if_pos h0, Nat.min_eq_left (by omega)]
    · next hnot =>
      have hzero : q = 0 := le_antisymm (not_lt.1 fun h => hnot (decide_eq_true h)) h0
      rw [hzero, Int.floor_zero]
      rfl
  consume_nonpos bl n h := if_neg (Bool.eq_false_iff.1 h)

/-- A login whose server answers with a packet size of 16, and a request of 20 bytes. -/
theorem splitsAll_small :
    OutgoingMessageStream.SplitsAll .ofPackage (.finite 4096)
      [.packetSizeChange (JsString.ofString "16") (JsString.ofString "4096"),
        .message { type := 1, resetConnection := false, events := [.data (List.replicate 20 7)] }] :=
  (OutgoingMessageStream.splitsAll_iff BufferList.lawful_ofPackage _ _).2 fun w hw => by
    have hsize : onPacketSizeChange (.finite 4096)
        (packetSizeToken (JsString.ofString "16") (JsString.ofString "4096")) = .finite 16 := by
      decide
    rw [OutgoingMessageStream.written, hsize] at hw
    obtain rfl := List.mem_singleton.1 hw
    exact .inl ⟨16, rfl, by norm_num, by norm_num⟩

/-- A server that announces the packet size `0` makes the next message endless. -/
theorem not_splitsAll_zero :
    ¬ ∀ (list : BufferList) (packetSize : JsNumber) (events : List StreamEvent), list.Lawful →
      OutgoingMessageStream.SplitsAll list packetSize events := by
  intro h
  have hall := h .ofPackage (.finite 4096)
    [.packetSizeChange (JsString.ofString "0") (JsString.ofString "4096"),
      .message { type := 1, resetConnection := false, events := [.data [7]] }]
    BufferList.lawful_ofPackage
  have hsize : onPacketSizeChange (.finite 4096)
      (packetSizeToken (JsString.ofString "0") (JsString.ofString "4096")) = .finite 0 := by decide
  rw [OutgoingMessageStream.splitsAll_iff BufferList.lawful_ofPackage,
    OutgoingMessageStream.written, hsize] at hall
  rcases hall _ (List.mem_singleton.2 rfl) with ⟨q, hq, hlow, -⟩ | ⟨hfits, -⟩
  · cases hq
    norm_num at hlow
  · have hexceeded : (JsNumber.finite 0).dataLength.exceededBy 1 = true :=
      decide_eq_true (by norm_num [HEADER_LENGTH])
    rcases hfits with h | h
    · cases h
    · exact Bool.false_ne_true (h.symm.trans hexceeded)

end Tedious
