import Tedious.Lib.Machine
import Tedious.OutgoingMessageStream

/-!
# Tedious.IncomingMessageStream

Putting packets together again (`incoming-message-stream.ts`). The stream is a machine
whose events are the calls of `_transform`, the rounds of the loop in
`processBufferedData`, and the `'end'` and `'drain'` of the message that is being
produced. What `message.write` answers is up to the consumer of that message, and so
is when its `'end'` and `'drain'` come.

A `_transform` is only called when the callback of the one before was called; every
call is known by its number, and `callbacks` lists the calls whose callback was
called.
-/

namespace Tedious

open Chunked

/-- A message that the stream has pushed: its type, and what was written to it. -/
structure Received where
  type : UInt8
  data : Bytes
  deriving DecidableEq, Repr

/-- Where the stream stands; all but the first and the last hold the callback of a
`_transform`. -/
inductive IncomingControl
  /-- Between two calls of `_transform`. -/
  | idle
  /-- In the loop of `processBufferedData`. -/
  | processing (callback : Nat)
  /-- Waiting for the `'end'` of the current message. -/
  | awaitingEnd (callback : Nat)
  /-- Waiting for the `'drain'` of the current message. -/
  | awaitingDrain (callback : Nat)
  /-- The callback was called with an error. -/
  | failed
  deriving DecidableEq, Repr

/-- The stream: its buffer list, the message being produced, the messages that have
ended, and the chunks that are still to be written to it. -/
structure IncomingMessageStream where
  bl : Bytes
  currentMessage : Option Received
  ended : List Received
  control : IncomingControl
  chunks : List Bytes
  transforms : Nat
  callbacks : List Nat
  deriving DecidableEq, Repr

/-- What can happen to the stream. -/
inductive IncomingEvent
  /-- `_transform` is called with the next chunk. -/
  | transform
  /-- The loop goes round; `accepted` is what `message.write` answers, if it is asked. -/
  | process (accepted : Bool)
  /-- The consumer has read the current message to its end. -/
  | messageEnd
  /-- The consumer has drained the current message. -/
  | messageDrain
  deriving DecidableEq, Repr

namespace IncomingMessageStream

/-- The stream before anything was written to it. -/
def start (chunks : List Bytes) : IncomingMessageStream where
  bl := []
  currentMessage := none
  ended := []
  control := .idle
  chunks := chunks
  transforms := 0
  callbacks := []

/-- The messages pushed so far. -/
def pushed (s : IncomingMessageStream) : List Received := s.ended ++ s.currentMessage.toList

/-- The message that a packet belongs to, with the data of the packet. -/
def addPacket (currentMessage : Option Received) (packet : Packet) : Received :=
  match currentMessage with
  | none => { type := packet.type, data := packet.data }
  | some message => { message with data := message.data ++ packet.data }

/-- One round of the loop in `processBufferedData`. -/
def process (s : IncomingMessageStream) (callback : Nat) (accepted : Bool) :
    IncomingMessageStream :=
  if s.bl.length ≥ HEADER_LENGTH then
    let length := readUInt16BE s.bl 2
    if length < HEADER_LENGTH then
      { s with control := .failed, callbacks := s.callbacks ++ [callback] }
    else if s.bl.length ≥ length then
      let packet : Packet := ⟨s.bl.take length⟩
      { s with
        bl := s.bl.drop length
        currentMessage := some (addPacket s.currentMessage packet)
        control :=
          if packet.isLast then .awaitingEnd callback
          else if accepted then .processing callback
          else .awaitingDrain callback }
    else { s with control := .idle, callbacks := s.callbacks ++ [callback] }
  else { s with control := .idle, callbacks := s.callbacks ++ [callback] }

def step (s : IncomingMessageStream) : IncomingEvent → Option IncomingMessageStream
  | .transform =>
    match s.control, s.chunks with
    | .idle, chunk :: chunks =>
      some
        { s with
          bl := s.bl ++ chunk
          control := .processing s.transforms
          chunks
          transforms := s.transforms + 1 }
    | _, _ => none
  | .process accepted =>
    match s.control with
    | .processing callback => some (s.process callback accepted)
    | _ => none
  | .messageEnd =>
    match s.control with
    | .awaitingEnd callback =>
      some
        { s with
          currentMessage := none
          ended := s.ended ++ s.currentMessage.toList
          control := .processing callback }
    | _ => none
  | .messageDrain =>
    match s.control with
    | .awaitingDrain callback => some { s with control := .processing callback }
    | _ => none

/-- The stream as a machine. -/
def machine : Machine IncomingMessageStream IncomingEvent := ⟨step⟩

/-! ### What the packets amount to -/

/-- The messages that have ended, and the one that has not. -/
abbrev Assembled := List Received × Option Received

/-- Take one packet. -/
def absorb (a : Assembled) (packet : Packet) : Assembled :=
  let message := addPacket a.2 packet
  if packet.isLast then (a.1 ++ [message], none) else (a.1, some message)

/-- What the stream has made of its packets; a message that only has to be read to its
end counts as ended. -/
def assembled (s : IncomingMessageStream) : Assembled :=
  match s.control with
  | .awaitingEnd _ => (s.ended ++ s.currentMessage.toList, none)
  | _ => (s.ended, s.currentMessage)

/-- The packets of a framed message amount to that message. -/
theorem absorb_framed {type : UInt8} {ps : List Packet} {data : Bytes} (h : Framed type ps data)
    (ended : List Received) (currentMessage : Option Received)
    (htype : ∀ message ∈ currentMessage, message.type = type) :
    ps.foldl absorb (ended, currentMessage) =
      (ended ++ [⟨type, (currentMessage.map Received.data).getD [] ++ data⟩], none) := by
  induction h generalizing currentMessage with
  | @last p hp hptype hlast =>
    cases currentMessage with
    | none => simp [absorb, addPacket, hlast, hptype]
    | some message => simp [absorb, addPacket, hlast, ← htype message rfl]
  | @more p ps data hp hptype hlast _ ih =>
    rw [List.foldl_cons]
    cases currentMessage with
    | none =>
      have : absorb (ended, none) p = (ended, some ⟨type, p.data⟩) := by
        simp [absorb, addPacket, hlast, hptype]
      rw [this, ih _ (by simp)]
      simp
    | some message =>
      have : absorb (ended, some message) p = (ended, some ⟨type, message.data ++ p.data⟩) := by
        simp [absorb, addPacket, hlast, ← htype message rfl]
      rw [this, ih _ (by simp)]
      simp

/-! ### The invariant -/

/-- The callback that the stream holds. -/
def heldCallback (s : IncomingMessageStream) : List Nat :=
  match s.control with
  | .processing callback | .awaitingEnd callback | .awaitingDrain callback => [callback]
  | .idle | .failed => []

/-- The buffer does not begin with a complete packet. -/
def Incomplete (bl : Bytes) : Prop := bl.length < HEADER_LENGTH ∨ bl.length < readUInt16BE bl 2

/-- What holds at every moment of a run over `n` chunks whose bytes are well-formed
packets that amount to `target`. -/
structure Receiving (n : Nat) (target : Assembled) (s : IncomingMessageStream) : Prop where
  /-- The bytes still to come are well-formed packets that complete the target. -/
  todo : ∃ todo : List Packet, (∀ p ∈ todo, p.WellFormed) ∧
    s.bl ++ s.chunks.flatten = todo.flatMap Packet.buffer ∧
    todo.foldl absorb s.assembled = target
  notFailed : s.control ≠ .failed
  idle : s.control = .idle → Incomplete s.bl
  callbacks : s.callbacks ++ s.heldCallback = List.range s.transforms
  chunks : s.transforms + s.chunks.length = n

/-- The length field of a buffer is the one of the packet it begins with. -/
theorem readUInt16BE_prefix {bl rest : Bytes} {p : Packet} {tail : Bytes} (hp : p.WellFormed)
    (hbl : HEADER_LENGTH ≤ bl.length) (h : bl ++ rest = p.buffer ++ tail) :
    readUInt16BE bl 2 = p.buffer.length := by
  have hheader := hp.header
  have htake : ∀ (xs ys : Bytes), HEADER_LENGTH ≤ xs.length →
      ((xs ++ ys).drop 2).take 2 = (xs.drop 2).take 2 := by
    intro xs ys hxs
    unfold HEADER_LENGTH at hxs
    rw [List.drop_append_of_le_length (by omega), List.take_append_of_le_length]
    rw [List.length_drop]
    omega
  rw [← hp.length_eq, Packet.length, readUInt16BE, readUInt16BE, ← htake bl rest hbl, h,
    htake p.buffer tail hheader]

section

variable {n : Nat} {target : Assembled} {s : IncomingMessageStream}

theorem Receiving.process (h : Receiving n target s) {callback : Nat}
    (hc : s.control = .processing callback) (accepted : Bool) :
    Receiving n target (s.process callback accepted) := by
  have hcalls := h.callbacks
  rw [heldCallback, hc] at hcalls
  have hassembled : s.assembled = (s.ended, s.currentMessage) := by rw [assembled, hc]
  obtain ⟨todo, hwf, hbytes, htarget⟩ := h.todo
  -- Where the loop leaves without a packet, only the callback is called.
  have hleave : Incomplete s.bl → Receiving n target
      { s with control := .idle, callbacks := s.callbacks ++ [callback] } := fun hinc =>
    { todo := ⟨todo, hwf, hbytes, by rw [← htarget, hassembled]; rfl⟩
      notFailed := by simp
      idle := fun _ => hinc
      callbacks := by simpa [heldCallback] using hcalls
      chunks := h.chunks }
  unfold IncomingMessageStream.process
  by_cases hlen : s.bl.length ≥ HEADER_LENGTH
  · rw [if_pos hlen]
    cases todo with
    | nil =>
      have hnil : s.bl = [] := (List.append_eq_nil_iff.1 hbytes).1
      rw [hnil] at hlen
      simp [HEADER_LENGTH] at hlen
    | cons p todo =>
      have hp := hwf p (List.mem_cons_self ..)
      rw [List.flatMap_cons] at hbytes
      have hlength := readUInt16BE_prefix hp hlen hbytes
      have hheader := hp.header
      dsimp only
      rw [hlength, if_neg (by omega)]
      by_cases hfull : s.bl.length ≥ p.buffer.length
      · have htake : s.bl.take p.buffer.length = p.buffer := by
          rw [← List.take_append_of_le_length hfull, hbytes, List.take_left']
          rfl
        have hdrop : s.bl.drop p.buffer.length ++ s.chunks.flatten =
            todo.flatMap Packet.buffer := by
          rw [← List.drop_append_of_le_length hfull, hbytes, List.drop_left']
          rfl
        rw [if_pos hfull, htake]
        rw [hassembled, List.foldl_cons] at htarget
        refine ⟨⟨todo, fun q hq => hwf q (List.mem_cons_of_mem _ hq), hdrop, ?_⟩, ?_, ?_, ?_, h.chunks⟩
        · rw [← htarget]
          congr 1
          cases hlast : p.isLast <;> cases accepted <;> simp [assembled, absorb, hlast]
        · cases p.isLast <;> cases accepted <;> simp
        · cases p.isLast <;> cases accepted <;> simp
        · cases p.isLast <;> cases accepted <;> simpa [heldCallback] using hcalls
      · rw [if_neg hfull]
        exact hleave (Or.inr (by omega))
  · rw [if_neg hlen]
    exact hleave (Or.inl (by omega))

/-- Every event keeps the invariant. -/
theorem Receiving.step (h : Receiving n target s) {e : IncomingEvent} {s' : IncomingMessageStream}
    (hstep : s.step e = some s') : Receiving n target s' := by
  obtain ⟨todo, hwf, hbytes, htarget⟩ := h.todo
  have hcalls := h.callbacks
  cases e with
  | transform =>
    rw [IncomingMessageStream.step] at hstep
    split at hstep
    · rename_i chunk chunks hc hchunks
      obtain rfl := Option.some.inj hstep
      have hn := h.chunks
      rw [hchunks] at hbytes hn
      rw [heldCallback, hc, List.append_nil] at hcalls
      refine ⟨⟨todo, hwf, ?_, ?_⟩, by simp, by simp, ?_, ?_⟩
      · rw [← hbytes, List.flatten_cons, List.append_assoc]
      · rw [← htarget, assembled, assembled, hc]
      · rw [heldCallback, List.range_succ, hcalls]
      · rw [List.length_cons] at hn
        dsimp only
        omega
    · cases hstep
  | process accepted =>
    rw [IncomingMessageStream.step] at hstep
    split at hstep
    · rename_i callback hc
      obtain rfl := Option.some.inj hstep
      exact h.process hc accepted
    · cases hstep
  | messageEnd =>
    rw [IncomingMessageStream.step] at hstep
    split at hstep
    · rename_i callback hc
      obtain rfl := Option.some.inj hstep
      rw [heldCallback, hc] at hcalls
      rw [assembled, hc] at htarget
      exact ⟨⟨todo, hwf, hbytes, htarget⟩, by simp, by simp, hcalls, h.chunks⟩
    · cases hstep
  | messageDrain =>
    rw [IncomingMessageStream.step] at hstep
    split at hstep
    · rename_i callback hc
      obtain rfl := Option.some.inj hstep
      rw [heldCallback, hc] at hcalls
      rw [assembled, hc] at htarget
      exact ⟨⟨todo, hwf, hbytes, htarget⟩, by simp, by simp, hcalls, h.chunks⟩
    · cases hstep

/-- What is left to do: bytes to consume, chunks to take, and what the control still
asks for. -/
def remaining (s : IncomingMessageStream) : Nat :=
  2 * (s.bl.length + s.chunks.flatten.length) + 3 * s.chunks.length +
    match s.control with
    | .idle | .failed => 0
    | .processing _ => 1
    | .awaitingEnd _ | .awaitingDrain _ => 2

/-- Every event leaves less to do. -/
theorem remaining_step {e : IncomingEvent} {s' : IncomingMessageStream}
    (hstep : s.step e = some s') : s'.remaining < s.remaining := by
  cases e with
  | transform =>
    rw [IncomingMessageStream.step] at hstep
    split at hstep
    · rename_i chunk chunks hc hchunks
      obtain rfl := Option.some.inj hstep
      simp only [remaining, hc, hchunks, List.length_append, List.flatten_cons, List.length_cons]
      omega
    · cases hstep
  | process accepted =>
    rw [IncomingMessageStream.step] at hstep
    split at hstep
    · rename_i callback hc
      obtain rfl := Option.some.inj hstep
      unfold IncomingMessageStream.process remaining
      rw [hc]
      split
      · dsimp only
        split
        · simp
        · rename_i hlen
          unfold HEADER_LENGTH at hlen
          split
          · simp only [List.length_drop]
            split <;> omega
          · simp
      · simp
    · cases hstep
  | messageEnd =>
    rw [IncomingMessageStream.step] at hstep
    split at hstep
    · rename_i callback hc
      obtain rfl := Option.some.inj hstep
      simp [remaining, hc]
    · cases hstep
  | messageDrain =>
    rw [IncomingMessageStream.step] at hstep
    split at hstep
    · rename_i callback hc
      obtain rfl := Option.some.inj hstep
      simp [remaining, hc]
    · cases hstep

/-- Where nothing can happen any more, everything was taken: the target is reached and
no callback is held. -/
theorem Receiving.of_final (h : Receiving n target s) (hfinal : machine.Final s) :
    s.control = .idle ∧ s.chunks = [] ∧ s.bl = [] ∧ s.assembled = target := by
  have hidle : s.control = .idle := by
    cases hc : s.control with
    | idle => rfl
    | processing callback =>
      have := hfinal (.process true)
      simp [machine, IncomingMessageStream.step, hc] at this
    | awaitingEnd callback =>
      have := hfinal .messageEnd
      simp [machine, IncomingMessageStream.step, hc] at this
    | awaitingDrain callback =>
      have := hfinal .messageDrain
      simp [machine, IncomingMessageStream.step, hc] at this
    | failed => exact absurd hc h.notFailed
  have hchunks : s.chunks = [] := by
    cases hcs : s.chunks with
    | nil => rfl
    | cons chunk chunks =>
      have := hfinal .transform
      simp [machine, IncomingMessageStream.step, hidle, hcs] at this
  obtain ⟨todo, hwf, hbytes, htarget⟩ := h.todo
  rw [hchunks, List.flatten_nil, List.append_nil] at hbytes
  cases todo with
  | nil => exact ⟨hidle, hchunks, hbytes, htarget⟩
  | cons p todo =>
    -- A packet is left, so the buffer begins with a complete one.
    have hp := hwf p (List.mem_cons_self ..)
    have hheader := hp.header
    rw [List.flatMap_cons] at hbytes
    have hlen : p.buffer.length ≤ s.bl.length := by
      rw [hbytes, List.length_append]
      omega
    have hread : readUInt16BE s.bl 2 = p.buffer.length :=
      readUInt16BE_prefix hp (by omega) ((List.append_nil s.bl).trans hbytes)
    rcases h.idle hidle with hinc | hinc <;> omega

/-- **The stream delivers.** Whatever the consumer does, a run over the bytes of
well-formed packets is bounded, fails never, and where nothing can happen any more the
messages are the ones the packets amount to and every callback was called once. -/
theorem runs_receiving {chunks : List Bytes} {packets : List Packet}
    (hwf : ∀ p ∈ packets, p.WellFormed) (hchunks : chunks.flatten = packets.flatMap Packet.buffer)
    {es : List IncomingEvent} {s : IncomingMessageStream} (hrun : machine.Runs (start chunks) es s) :
    Receiving chunks.length (packets.foldl absorb ([], none)) s ∧
      es.length ≤ (start chunks).remaining := by
  have hstart : Receiving chunks.length (packets.foldl absorb ([], none)) (start chunks) :=
    { todo := ⟨packets, hwf, hchunks, rfl⟩
      notFailed := by simp [start]
      idle := fun _ => Or.inl (by simp [start, HEADER_LENGTH])
      callbacks := rfl
      chunks := by simp [start] }
  have hle := hrun.length_le  fun _ hstep => remaining_step hstep
  exact ⟨hrun.invariant (fun h _ hstep => h.step hstep) hstart, by omega⟩

end

end IncomingMessageStream

end Tedious
