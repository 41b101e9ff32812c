import Mathlib.Algebra.Order.Floor.Div
import Tedious.OutgoingMessageStream

/-!
# Tedious.PacketStructure

The packets of a sequence of messages, one by one. All messages go through one buffer
list, so what a message becomes could depend on the ones before it; `writeFrom_eq` says
what it becomes from an empty list: so many full packets of the data that was heard, the
rest in a last one, and an empty list again. `packets_of_messages` reads off it what the
packets of a whole sequence look like.
-/

namespace Tedious

open Chunked

/-! ### The header -/

namespace Packet

/-- `packet.packetId()`. -/
def number (p : Packet) : UInt8 := p.buffer[6]?.getD 0

/-- Whether the packet tells the server to ignore the message. -/
def isIgnored (p : Packet) : Bool := p.status &&& PacketStatus.IGNORE ≠ 0

variable (type : UInt8) {packetNumber : Nat} (hn : packetNumber ≠ 0) (resetConnection : Bool)
  (last : Option Bool) (data : Bytes)

include hn in
theorem number_forMessage :
    (forMessage type packetNumber resetConnection last data).number =
      UInt8.ofNat (packetNumber % 256) := by
  rw [number, buffer_forMessage type hn]
  rfl

include hn in
/-- Only a last packet has the bit, when the message is ignored. -/
theorem isIgnored_forMessage :
    (forMessage type packetNumber resetConnection last data).isIgnored = last.getD false := by
  have hstatus : (messageStatus resetConnection last &&& PacketStatus.IGNORE ≠ 0) ↔
      last.getD false = true := by
    cases resetConnection <;> rcases last with _ | _ | _ <;> decide
  rw [isIgnored, status, buffer_forMessage type hn]
  exact (Bool.decide_congr hstatus).trans Bool.decide_eq_true

end Packet

/-! ### What is heard of a message -/

/-- The data of events, up to the one that sets `ignore`. -/
def heard : List MessageEvent → Bytes
  | [] => []
  | .ignore :: _ => []
  | .data d :: events => d ++ heard events

theorem heard_prefix (events : List MessageEvent) :
    heard events <+: events.flatMap MessageEvent.bytes := by
  induction events with
  | nil => exact List.prefix_refl []
  | cons event events ih =>
    cases event with
    | data d => exact (List.prefix_append_right_inj d).2 ih
    | ignore => exact List.nil_prefix

theorem heard_of_never {events : List MessageEvent} (hnever : .ignore ∉ events) :
    heard events = events.flatMap MessageEvent.bytes := by
  induction events with
  | nil => rfl
  | cons event events ih =>
    cases event with
    | data d => exact congrArg (d ++ ·) (ih fun h => hnever (List.mem_cons_of_mem _ h))
    | ignore => exact absurd (List.mem_cons_self ..) hnever

namespace OutgoingMessageStream

/-! ### One buffer list for all messages -/

/-- `_write`, from a buffer list that need not be empty. -/
def writeFrom (size : PacketSize) (bl : Bytes) (message : Message) : OutgoingMessageStream :=
  onEnd message (message.events.foldl (onEvent size message)
    { bl, packetNumber := 0, ignored := false, pushed := [] })

/-- The packets of each message, with the buffer list that is left behind it. -/
def writeEach (size : PacketSize) : Bytes → List Message → List (List Packet × Bytes)
  | _, [] => []
  | bl, message :: messages =>
    let s := writeFrom size bl message
    (s.pushed, s.bl) :: writeEach size s.bl messages

/-! ### Cutting -/

/-- The `i`-th full packet of data, counted from 0. -/
def fullPacket (size : PacketSize) (message : Message) (data : Bytes) (i : Nat) : Packet :=
  .forMessage message.type (i + 1) message.resetConnection none
    ((data.drop (i * size.dataLength)).take size.dataLength)

/-- The first `n` full packets of data. -/
def fullPackets (size : PacketSize) (message : Message) (data : Bytes) (n : Nat) : List Packet :=
  (List.range n).map (fullPacket size message data)

/-- The packets of a message that `data` was heard of, `n` of them full and before the last. -/
def cutInto (size : PacketSize) (message : Message) (data : Bytes) (n : Nat) : List Packet :=
  fullPackets size message data n ++
    [.forMessage message.type (n + 1) message.resetConnection
      (some (decide (.ignore ∈ message.events))) (data.drop (n * size.dataLength))]

/-- Later data does not change the packets that are full already. -/
theorem fullPackets_append (size : PacketSize) (message : Message) {data : Bytes} {n : Nat}
    (hn : n * size.dataLength ≤ data.length) (d : Bytes) :
    fullPackets size message (data ++ d) n = fullPackets size message data n := by
  refine List.map_congr_left fun i hi => ?_
  have hi : i + 1 ≤ n := List.mem_range.1 hi
  have hfull : (i + 1) * size.dataLength ≤ data.length :=
    (Nat.mul_le_mul_right _ hi).trans hn
  rw [Nat.add_one_mul] at hfull
  rw [fullPacket, fullPacket, List.drop_append_of_le_length (by omega),
    List.take_append_of_le_length (by rw [List.length_drop]; omega)]

/-- How far a message has been cut when `data` was heard of it: a packet is full, but is
sent only once there is something behind it. -/
structure Cut (size : PacketSize) (message : Message) (data : Bytes)
    (s : OutgoingMessageStream) : Prop where
  pushed : s.pushed = fullPackets size message data s.packetNumber
  bl : s.bl = data.drop (s.packetNumber * size.dataLength)
  behind : s.packetNumber = 0 ∨ s.packetNumber * size.dataLength < data.length

variable {size : PacketSize} {message : Message} {data : Bytes} {s : OutgoingMessageStream}

theorem Cut.le_length (h : Cut size message data s) :
    s.packetNumber * size.dataLength ≤ data.length := by
  rcases h.behind with h | h
  · simp [h]
  · exact h.le

theorem Cut.append (h : Cut size message data s) (d : Bytes) :
    Cut size message (data ++ d) { s with bl := s.bl ++ d } where
  pushed := h.pushed.trans (fullPackets_append size message h.le_length d).symm
  bl := by
    show s.bl ++ d = _
    rw [h.bl, List.drop_append_of_le_length h.le_length]
  behind := h.behind.imp_right fun hlt => by
    rw [List.length_append]
    exact hlt.trans_le (Nat.le_add_right ..)

/-- The loop cuts on, until no more than one packet is left. -/
theorem Cut.pushFull (h : Cut size message data s) :
    Cut size message data (pushFull size message s) ∧
      (OutgoingMessageStream.pushFull size message s).bl.length ≤ size.dataLength ∧
      (OutgoingMessageStream.pushFull size message s).ignored = s.ignored := by
  fun_induction OutgoingMessageStream.pushFull size message s with
  | case1 s hlt part packetNumber ih =>
    have hlength : s.bl.length = data.length - s.packetNumber * size.dataLength := by
      rw [h.bl, List.length_drop]
    have hmul : packetNumber * size.dataLength =
        s.packetNumber * size.dataLength + size.dataLength := Nat.add_one_mul ..
    have hbehind : packetNumber * size.dataLength < data.length := by omega
    refine ih ⟨?_, ?_, .inr hbehind⟩
    · show s.pushed ++ _ = fullPackets size message data (s.packetNumber + 1)
      rw [fullPackets, List.range_succ, List.map_append, ← fullPackets, ← h.pushed]
      show s.pushed ++ [Packet.forMessage _ _ _ none (s.bl.take _)] = _
      rw [h.bl]
      rfl
    · show s.bl.drop _ = data.drop (packetNumber * size.dataLength)
      rw [h.bl, List.drop_drop, hmul]
  | case2 s hge => exact ⟨h, by omega, rfl⟩

/-- Nothing is heard any more once a message is ignored. -/
theorem foldl_onEvent_ignored (events : List MessageEvent) (hignored : s.ignored = true) :
    events.foldl (onEvent size message) s = s := by
  induction events with
  | nil => rfl
  | cons event events ih =>
    have hstep : onEvent size message s event = s := by
      cases event with
      | data d => rw [onEvent, if_pos hignored]
      | ignore =>
        rw [onEvent, ← hignored]
    rw [List.foldl_cons, hstep, ih]

/-- The events of a message, up to the end. -/
theorem Cut.onEvents (events : List MessageEvent) (h : Cut size message data s)
    (hfit : s.bl.length ≤ size.dataLength) (hheard : s.ignored = false) :
    let s' := events.foldl (onEvent size message) s
    Cut size message (data ++ heard events) s' ∧ s'.bl.length ≤ size.dataLength ∧
      s'.ignored = decide (.ignore ∈ events) := by
  induction events generalizing data s with
  | nil => simpa [heard] using ⟨h, hfit, hheard⟩
  | cons event events ih =>
    cases event with
    | ignore =>
      have hrest : (MessageEvent.ignore :: events).foldl (onEvent size message) s =
          { s with ignored := true } := foldl_onEvent_ignored events rfl
      have hcut : Cut size message data { s with ignored := true } := ⟨h.pushed, h.bl, h.behind⟩
      rw [hrest, heard, List.append_nil]
      exact ⟨hcut, hfit, by simp⟩
    | data d =>
      have hstep : onEvent size message s (.data d) =
          OutgoingMessageStream.pushFull size message { s with bl := s.bl ++ d } := by
        rw [onEvent, hheard]
        rfl
      obtain ⟨hcut, hfit', hheard'⟩ := (h.append d).pushFull
      rw [List.foldl_cons, hstep, heard, ← List.append_assoc]
      simpa using ih hcut hfit' (hheard'.trans hheard)

/-- What a message becomes when it finds the buffer list empty. -/
theorem writeFrom_eq (size : PacketSize) (message : Message) :
    let data := heard message.events
    ∃ n, (n = 0 ∨ n * size.dataLength < data.length) ∧
      data.length ≤ (n + 1) * size.dataLength ∧
      writeFrom size [] message =
        { bl := []
          packetNumber := n + 1
          ignored := decide (.ignore ∈ message.events)
          pushed := cutInto size message data n } := by
  have hstart : Cut size message []
      { bl := [], packetNumber := 0, ignored := false, pushed := [] } :=
    ⟨rfl, List.drop_nil.symm, .inl rfl⟩
  obtain ⟨hcut, hfit, hignored⟩ :=
    hstart.onEvents message.events (Nat.zero_le _) rfl
  rw [List.nil_append] at hcut
  rw [writeFrom]
  generalize message.events.foldl (onEvent size message) _ = s at hcut hfit hignored
  refine ⟨s.packetNumber, hcut.behind, ?_, ?_⟩
  · rw [hcut.bl, List.length_drop] at hfit
    rw [Nat.add_one_mul]
    omega
  · rw [cutInto, onEnd, ← hcut.bl, ← hcut.pushed, ← hignored]

/-! ### The packets of a message -/

/-- What the packets of one message look like. -/
structure Structured (size : PacketSize) (message : Message) (packets : List Packet) : Prop where
  count : .ignore ∉ message.events →
    packets.length = max 1 (message.data.length ⌈/⌉ (size.val - HEADER_LENGTH))
  full : ∀ p ∈ packets.dropLast,
    p.buffer.length = size.val ∧ p.isLast = false ∧ p.isIgnored = false
  last : ∃ p, packets.getLast? = some p ∧ p.isLast = true ∧
    p.isIgnored = decide (.ignore ∈ message.events)
  header : ∀ p ∈ packets, p.type = message.type ∧ p.resetsConnection = message.resetConnection
  numbers : packets.map Packet.number =
    (List.range packets.length).map fun i => UInt8.ofNat ((i + 1) % 256)
  length_eq : ∀ p ∈ packets, p.WellFormed
  data_prefix : packets.flatMap Packet.data <+: message.data
  data_eq : .ignore ∉ message.events → packets.flatMap Packet.data = message.data

/-- How often a full packet fits, when something has to be left for the last one. -/
theorem ceilDiv_eq {n k length : Nat} (hk : 0 < k) (hbehind : n = 0 ∨ n * k < length)
    (hfit : length ≤ (n + 1) * k) : max 1 (length ⌈/⌉ k) = n + 1 := by
  have hle : length ⌈/⌉ k ≤ n + 1 := (ceilDiv_le_iff_le_smul hk).2 (by
    rw [smul_eq_mul, Nat.mul_comm]
    exact hfit)
  rcases hbehind with rfl | hbehind
  · omega
  · have hlt : n < length ⌈/⌉ k := lt_of_not_ge fun hge => by
      have := (ceilDiv_le_iff_le_smul hk).1 hge
      rw [smul_eq_mul, Nat.mul_comm] at this
      omega
    omega

section cutInto

variable {n : Nat}

/-- `n` full packets and the rest of the data. -/
theorem flatMap_fullPackets (hn : n * size.dataLength ≤ data.length) :
    (fullPackets size message data n).flatMap Packet.data ++ data.drop (n * size.dataLength) =
      data := by
  induction n with
  | zero => simp [fullPackets]
  | succ n ih =>
    rw [Nat.add_one_mul] at hn
    rw [fullPackets, List.range_succ, List.map_append, List.flatMap_append, ← fullPackets,
      List.append_assoc, List.map_singleton, List.flatMap_singleton, fullPacket,
      Packet.data_forMessage _ (Nat.succ_ne_zero n), Nat.add_one_mul, ← List.drop_drop,
      List.take_append_drop]
    exact ih (by omega)

theorem flatMap_cutInto (hn : n * size.dataLength ≤ data.length) :
    (cutInto size message data n).flatMap Packet.data = data := by
  rw [cutInto, List.flatMap_append, List.flatMap_singleton,
    Packet.data_forMessage _ (Nat.succ_ne_zero n)]
  exact flatMap_fullPackets hn

@[simp] theorem length_cutInto : (cutInto size message data n).length = n + 1 := by
  simp [cutInto, fullPackets]

theorem length_part {i : Nat} (hn : n * size.dataLength ≤ data.length) (hi : i < n) :
    ((data.drop (i * size.dataLength)).take size.dataLength).length = size.dataLength := by
  have hmul := Nat.mul_le_mul_right size.dataLength (Nat.succ_le_of_lt hi)
  rw [Nat.succ_mul] at hmul
  rw [List.length_take, List.length_drop]
  omega

theorem mem_cutInto {p : Packet} (hn : n * size.dataLength ≤ data.length)
    (hfit : data.length ≤ (n + 1) * size.dataLength) (hp : p ∈ cutInto size message data n) :
    ∃ i last part, part.length ≤ size.dataLength ∧
      p = .forMessage message.type (i + 1) message.resetConnection last part := by
  rcases List.mem_append.1 hp with hp | hp
  · obtain ⟨i, hi, rfl⟩ := List.mem_map.1 hp
    exact ⟨i, _, _, (length_part hn (List.mem_range.1 hi)).le, rfl⟩
  · obtain rfl := List.mem_singleton.1 hp
    refine ⟨n, _, _, ?_, rfl⟩
    rw [Nat.add_one_mul] at hfit
    rw [List.length_drop]
    omega

theorem numbers_cutInto :
    (cutInto size message data n).map Packet.number =
      (List.range (n + 1)).map fun i => UInt8.ofNat ((i + 1) % 256) := by
  have hnumber : ∀ i last part, (Packet.forMessage message.type (i + 1) message.resetConnection
      last part).number = UInt8.ofNat ((i + 1) % 256) := fun i last part =>
    Packet.number_forMessage _ (Nat.succ_ne_zero i) ..
  rw [cutInto, fullPackets, List.map_append, List.map_map, List.map_singleton, hnumber,
    List.range_succ, List.map_append, List.map_singleton]
  exact congrArg (· ++ _) (List.map_congr_left fun i _ => hnumber ..)

end cutInto

theorem structured_writeFrom (size : PacketSize) (message : Message) :
    Structured size message (writeFrom size [] message).pushed ∧
      (writeFrom size [] message).bl = [] := by
  obtain ⟨n, hbehind, hfit, heq⟩ := writeFrom_eq size message
  rw [heq]
  have hroom := size.room
  have hfits := size.fits
  have hdataLength : HEADER_LENGTH + size.dataLength = size.val := by
    rw [PacketSize.dataLength]
    omega
  have hle : n * size.dataLength ≤ (heard message.events).length := by
    rcases hbehind with rfl | hlt
    · simp
    · exact hlt.le
  refine ⟨?_, rfl⟩
  constructor
  case count =>
    intro hnever
    have hdata : message.data = heard message.events := (heard_of_never hnever).symm
    rw [hdata, length_cutInto]
    exact (ceilDiv_eq size.dataLength_pos hbehind hfit).symm
  case full =>
    intro p hp
    rw [cutInto, List.dropLast_concat] at hp
    obtain ⟨i, hi, rfl⟩ := List.mem_map.1 hp
    refine ⟨?_, Packet.isLast_forMessage _ (Nat.succ_ne_zero i) ..,
      Packet.isIgnored_forMessage _ (Nat.succ_ne_zero i) ..⟩
    rw [fullPacket, Packet.buffer_forMessage _ (Nat.succ_ne_zero i), List.length_append,
      length_part hle (List.mem_range.1 hi), ← hdataLength]
    rfl
  case last =>
    exact ⟨_, List.getLast?_concat, Packet.isLast_forMessage _ (Nat.succ_ne_zero n) ..,
      Packet.isIgnored_forMessage _ (Nat.succ_ne_zero n) ..⟩
  case header =>
    intro p hp
    obtain ⟨i, last, part, -, rfl⟩ := mem_cutInto hle hfit hp
    exact ⟨Packet.type_forMessage _ (Nat.succ_ne_zero i) ..,
      Packet.resetsConnection_forMessage _ (Nat.succ_ne_zero i) ..⟩
  case numbers =>
    rw [length_cutInto]
    exact numbers_cutInto
  case length_eq =>
    intro p hp
    obtain ⟨i, last, part, hpart, rfl⟩ := mem_cutInto hle hfit hp
    refine Packet.wellFormed_forMessage _ (Nat.succ_ne_zero i) _ _ ?_
    rw [HEADER_LENGTH] at hdataLength
    omega
  case data_prefix =>
    rw [flatMap_cutInto hle]
    exact heard_prefix message.events
  case data_eq =>
    intro hnever
    rw [flatMap_cutInto hle]
    exact heard_of_never hnever

/-- **The packets of a sequence of messages.** Whatever messages came before, each one
becomes packets as `Structured` describes them, and leaves the buffer list empty. -/
theorem packets_of_messages (size : PacketSize) (messages : List Message) :
    List.Forall₂ (fun message sent => Structured size message sent.1 ∧ sent.2 = []) messages
      (writeEach size [] messages) := by
  induction messages with
  | nil => exact .nil
  | cons message messages ih =>
    obtain ⟨hstructured, hempty⟩ := structured_writeFrom size message
    refine .cons ⟨hstructured, hempty⟩ ?_
    rw [hempty]
    exact ih

/-- A message of three bytes in packets of two, and one that is ignored from its second byte on. -/
theorem packets_of_messages_two :
    ∃ first second, writeEach ⟨10, by decide, by decide⟩ []
        [{ type := 1, resetConnection := true, events := [.data [1], .data [2, 3]] },
          { type := 3, resetConnection := false, events := [.data [4], .ignore, .data [5]] }] =
        [(first, []), (second, [])] ∧
      first.length = 2 ∧ first.flatMap Packet.data = [1, 2, 3] ∧
      ∃ p, second.getLast? = some p ∧ p.isIgnored = true := by
  have hpackets := packets_of_messages ⟨10, by decide, by decide⟩
    [{ type := 1, resetConnection := true, events := [.data [1], .data [2, 3]] },
      { type := 3, resetConnection := false, events := [.data [4], .ignore, .data [5]] }]
  obtain ⟨⟨first, _⟩, rest, ⟨hfirst, rfl⟩, hrest, hsent⟩ := List.forall₂_cons_left_iff.1 hpackets
  obtain ⟨⟨second, _⟩, none, ⟨hsecond, rfl⟩, hnone, rfl⟩ := List.forall₂_cons_left_iff.1 hrest
  obtain rfl := List.forall₂_nil_left_iff.1 hnone
  refine ⟨first, second, hsent, ?_, hfirst.data_eq (by decide), ?_⟩
  · rw [hfirst.count (by decide), Nat.ceilDiv_eq_add_pred_div]
    rfl
  · obtain ⟨p, hlast, -, hignored⟩ := hsecond.last
    exact ⟨p, hlast, hignored⟩

end OutgoingMessageStream

end Tedious
