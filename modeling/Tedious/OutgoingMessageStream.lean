import Tedious.Packet

/-!
# Tedious.OutgoingMessageStream

Cutting messages into packets (`outgoing-message-stream.ts`). The data of a message
is collected in a buffer list and leaves in packets of the packet size as long as more
than one packet's worth is buffered; what is left at the end of the message, possibly
nothing, is its last packet.

`Framed` says what this is for: the packets of a message carry its type and its data,
and the last of them, and no other, is marked.
-/

namespace Tedious

open Chunked

/-- The packet sizes that leave room for data and fit the length field. -/
structure PacketSize where
  val : Nat
  room : HEADER_LENGTH < val
  fits : val ≤ 65535

/-- The data that a packet of this size carries. -/
def PacketSize.dataLength (size : PacketSize) : Nat := size.val - HEADER_LENGTH

theorem PacketSize.dataLength_pos (size : PacketSize) : 0 < size.dataLength := by
  have := size.room
  unfold dataLength
  omega

/-- What happens to a message that is being written. -/
inductive MessageEvent
  /-- More data of the message flows. -/
  | data (data : Bytes)
  /-- `message.ignore` is set. -/
  | ignore
  deriving DecidableEq, Repr

/-- A message, with what happens to it until it ends. -/
structure Message where
  type : UInt8
  resetConnection : Bool
  events : List MessageEvent
  deriving DecidableEq, Repr

def MessageEvent.bytes : MessageEvent → Bytes
  | .data d => d
  | .ignore => []

/-- The data of a message, whatever becomes of it. -/
def Message.data (message : Message) : Bytes := message.events.flatMap MessageEvent.bytes

/-- The state of the stream within one message: the buffered data, the number of the
last packet, `message.ignore`, and the packets pushed. -/
structure OutgoingMessageStream where
  bl : Bytes
  packetNumber : Nat
  ignored : Bool
  pushed : List Packet
  deriving DecidableEq, Repr

namespace OutgoingMessageStream

/-- `while (this.bl.length > length)`. -/
def pushFull (size : PacketSize) (message : Message) (s : OutgoingMessageStream) :
    OutgoingMessageStream :=
  if h : size.dataLength < s.bl.length then
    let data := s.bl.take size.dataLength
    let packetNumber := s.packetNumber + 1
    pushFull size message
      { s with
        bl := s.bl.drop size.dataLength
        packetNumber
        pushed := s.pushed ++
          [.forMessage message.type packetNumber message.resetConnection none data] }
  else s
termination_by s.bl.length
decreasing_by
  have := size.dataLength_pos
  simp only [List.length_drop]
  omega

def onEvent (size : PacketSize) (message : Message) (s : OutgoingMessageStream) :
    MessageEvent → OutgoingMessageStream
  | .data data => if s.ignored then s else pushFull size message { s with bl := s.bl ++ data }
  | .ignore => { s with ignored := true }

/-- The end of the message. -/
def onEnd (message : Message) (s : OutgoingMessageStream) : OutgoingMessageStream :=
  let packetNumber := s.packetNumber + 1
  { s with
    bl := []
    packetNumber
    pushed := s.pushed ++
      [.forMessage message.type packetNumber message.resetConnection (some s.ignored) s.bl] }

/-- `_write`: the packets that one message becomes. -/
def write (size : PacketSize) (message : Message) : List Packet :=
  (onEnd message (message.events.foldl (onEvent size message)
    { bl := [], packetNumber := 0, ignored := false, pushed := [] })).pushed

/-- The bytes pushed for a sequence of messages. -/
def writeAll (size : PacketSize) (messages : List Message) : Bytes :=
  messages.flatMap fun message => (write size message).flatMap Packet.buffer

end OutgoingMessageStream

/-! ### Framing -/

/-- `packets` is one message of the given type and data. -/
inductive Framed (type : UInt8) : List Packet → Bytes → Prop
  | last {p : Packet} (hp : p.WellFormed) (htype : p.type = type) (hlast : p.isLast = true) :
      Framed type [p] p.data
  | more {p : Packet} {ps : List Packet} {data : Bytes} (hp : p.WellFormed)
      (htype : p.type = type) (hlast : p.isLast = false) (hps : Framed type ps data) :
      Framed type (p :: ps) (p.data ++ data)

/-- Packets that precede the last one of a message. -/
theorem Framed.append {type : UInt8} {ps : List Packet} {data : Bytes} (h : Framed type ps data)
    {init : List Packet}
    (hinit : ∀ p ∈ init, p.WellFormed ∧ p.type = type ∧ p.isLast = false) :
    Framed type (init ++ ps) (init.flatMap Packet.data ++ data) := by
  induction init with
  | nil => exact h
  | cons p init ih =>
    obtain ⟨hp, htype, hlast⟩ := hinit p (List.mem_cons_self ..)
    rw [List.flatMap_cons, List.append_assoc]
    exact .more hp htype hlast (ih fun q hq => hinit q (List.mem_cons_of_mem _ hq))

namespace OutgoingMessageStream

/-- What holds while a message that is never ignored is being written: the packets so
far are full, unmarked and carry the data up to the buffered rest, which fits a packet. -/
structure Writing (size : PacketSize) (message : Message) (data : Bytes)
    (s : OutgoingMessageStream) : Prop where
  pushed : ∀ p ∈ s.pushed, p.WellFormed ∧ p.type = message.type ∧ p.isLast = false
  data_eq : s.pushed.flatMap Packet.data ++ s.bl = data
  ignored : s.ignored = false

variable {size : PacketSize} {message : Message} {data : Bytes} {s : OutgoingMessageStream}

/-- Pushing full packets keeps what holds, and leaves no more than a packet's worth. -/
theorem Writing.pushFull (h : Writing size message data s) :
    Writing size message data (pushFull size message s) ∧
      (OutgoingMessageStream.pushFull size message s).bl.length ≤ size.dataLength := by
  fun_induction OutgoingMessageStream.pushFull size message s with
  | case1 s hlt part packetNumber ih =>
    have hpart : part.length = size.dataLength := by
      rw [List.length_take]
      omega
    have hroom := size.room
    have hfits := size.fits
    have hsize : part.length + 8 ≤ 65535 := by
      rw [hpart, PacketSize.dataLength]
      unfold HEADER_LENGTH at hroom ⊢
      omega
    have hwf := Packet.wellFormed_forMessage message.type (Nat.succ_ne_zero s.packetNumber)
      message.resetConnection none hsize
    refine ih ⟨?_, ?_, h.ignored⟩
    · intro p hp
      rcases List.mem_append.1 hp with hp | hp
      · exact h.pushed p hp
      · obtain rfl := List.mem_singleton.1 hp
        exact ⟨hwf, Packet.type_forMessage _ (Nat.succ_ne_zero _) .., by
          rw [Packet.isLast_forMessage _ (Nat.succ_ne_zero _)]
          rfl⟩
    · rw [← h.data_eq, List.flatMap_append, List.flatMap_singleton,
        Packet.data_forMessage _ (Nat.succ_ne_zero _), List.append_assoc, List.take_append_drop]
  | case2 s hge => exact ⟨h, by omega⟩

/-- Every event of a message that is never ignored is more data. -/
theorem Writing.onEvents {events : List MessageEvent} (hnever : .ignore ∉ events)
    (h : Writing size message data s) (hfit : s.bl.length ≤ size.dataLength) :
    let s' := events.foldl (onEvent size message) s
    Writing size message (data ++ events.flatMap MessageEvent.bytes) s' ∧
      s'.bl.length ≤ size.dataLength := by
  induction events generalizing data s with
  | nil => exact ⟨by simpa using h, hfit⟩
  | cons event events ih =>
    have hrest : .ignore ∉ events := fun hmem => hnever (List.mem_cons_of_mem _ hmem)
    cases event with
    | ignore => exact absurd (List.mem_cons_self ..) hnever
    | data d =>
      have happend : Writing size message (data ++ d) { s with bl := s.bl ++ d } :=
        ⟨h.pushed, by rw [← h.data_eq, List.append_assoc], h.ignored⟩
      have hstep : onEvent size message s (.data d) =
          OutgoingMessageStream.pushFull size message { s with bl := s.bl ++ d } := by
        rw [onEvent, h.ignored]
        rfl
      rw [List.foldl_cons, hstep, List.flatMap_cons, ← List.append_assoc]
      exact ih hrest happend.pushFull.1 happend.pushFull.2

/-- **Framing.** A message that is never ignored becomes packets that carry its type and
its data. -/
theorem write_framed (size : PacketSize) {message : Message} (hnever : .ignore ∉ message.events) :
    Framed message.type (write size message) message.data := by
  have hstart : Writing size message []
      { bl := [], packetNumber := 0, ignored := false, pushed := [] } :=
    ⟨by simp, rfl, rfl⟩
  obtain ⟨hwriting, hfit⟩ := hstart.onEvents hnever (Nat.zero_le _)
  rw [List.nil_append] at hwriting
  have hroom := size.room
  have hfits := size.fits
  unfold write
  generalize message.events.foldl (onEvent size message) _ = s at hwriting hfit
  have hn := Nat.succ_ne_zero s.packetNumber
  have hsize : s.bl.length + 8 ≤ 65535 := by
    unfold PacketSize.dataLength at hfit
    unfold HEADER_LENGTH at hroom hfit
    omega
  have hlast := Framed.last
    (Packet.wellFormed_forMessage message.type hn message.resetConnection (some s.ignored) hsize)
    (Packet.type_forMessage _ hn ..) (Packet.isLast_forMessage _ hn ..)
  rw [Packet.data_forMessage _ hn] at hlast
  have := hlast.append hwriting.pushed
  rwa [hwriting.data_eq] at this

/-! ### The reset bit -/

/-- Full packets carry the message's reset bit. -/
theorem resetsConnection_pushFull
    (h : ∀ p ∈ s.pushed, p.resetsConnection = message.resetConnection) :
    ∀ p ∈ (OutgoingMessageStream.pushFull size message s).pushed,
      p.resetsConnection = message.resetConnection := by
  fun_induction OutgoingMessageStream.pushFull size message s with
  | case1 s hlt part packetNumber ih =>
    refine ih fun p hp => ?_
    rcases List.mem_append.1 hp with hp | hp
    · exact h p hp
    · obtain rfl := List.mem_singleton.1 hp
      exact Packet.resetsConnection_forMessage _ (Nat.succ_ne_zero _) ..
  | case2 s hge => exact h

theorem resetsConnection_foldl (events : List MessageEvent)
    (h : ∀ p ∈ s.pushed, p.resetsConnection = message.resetConnection) :
    ∀ p ∈ (events.foldl (onEvent size message) s).pushed,
      p.resetsConnection = message.resetConnection := by
  induction events generalizing s with
  | nil => exact h
  | cons event events ih =>
    refine ih ?_
    cases event with
    | ignore => exact h
    | data d =>
      rw [onEvent]
      split
      · exact h
      · exact resetsConnection_pushFull h

/-- Every packet of a message has the reset bit that the message asks for. -/
theorem resetsConnection_of_mem_write {p : Packet} (hp : p ∈ write size message) :
    p.resetsConnection = message.resetConnection := by
  unfold write onEnd at hp
  rcases List.mem_append.1 hp with hp | hp
  · exact resetsConnection_foldl message.events (by simp) p hp
  · obtain rfl := List.mem_singleton.1 hp
    exact Packet.resetsConnection_forMessage _ (Nat.succ_ne_zero _) ..

/-- There is always a last packet. -/
theorem write_ne_nil (size : PacketSize) (message : Message) : write size message ≠ [] := by
  unfold write onEnd
  simp

end OutgoingMessageStream

end Tedious
