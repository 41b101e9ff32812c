import Tedious.Js

/-!
# Tedious.Packet

Packets (`packet.ts`): eight bytes of header and some data in one buffer. A packet is
built step by step, each step writing into the buffer; `Packet.WellFormed` is what the
steps maintain, and `Packet.header` shows the whole header at once.
-/

namespace Tedious

open Chunked

def HEADER_LENGTH : Nat := 8

namespace PacketStatus

def NORMAL : UInt8 := 0x00
def EOM : UInt8 := 0x01
def IGNORE : UInt8 := 0x02
def RESETCONNECTION : UInt8 := 0x08

end PacketStatus

/-! ### Buffers -/

/-- `buf.writeUInt16BE(value, offset)`. -/
def writeUInt16BE (buf : Bytes) (value offset : Nat) : Bytes :=
  (buf.set offset (UInt8.ofNat (value / 256))).set (offset + 1) (UInt8.ofNat (value % 256))

/-- `buf.readUInt16BE(offset)`. -/
def readUInt16BE (buf : Bytes) (offset : Nat) : Nat := beNat ((buf.drop offset).take 2)

/-! ### Packets -/

/-- A packet, with its header in the first bytes of the buffer. -/
structure Packet where
  buffer : Bytes
  deriving DecidableEq, Repr

namespace Packet

def setLength (p : Packet) : Packet := ⟨writeUInt16BE p.buffer p.buffer.length 2⟩

/-- `new Packet(type)`. -/
def new (type : UInt8) : Packet :=
  let buffer := (List.replicate HEADER_LENGTH (0 : UInt8)).set 0 type
  let buffer := buffer.set 1 PacketStatus.NORMAL
  let buffer := writeUInt16BE buffer 0 4
  let buffer := buffer.set 6 1
  let buffer := buffer.set 7 0
  setLength ⟨buffer⟩

def status (p : Packet) : UInt8 := p.buffer[1]?.getD 0

/-- Set or clear a status bit. -/
def setStatus (p : Packet) (bit : UInt8) (on : Bool) : Packet :=
  ⟨p.buffer.set 1 (if on then p.status ||| bit else p.status &&& (0xFF - bit))⟩

def resetConnection (p : Packet) (reset : Bool) : Packet :=
  p.setStatus PacketStatus.RESETCONNECTION reset

def last (p : Packet) (last : Bool) : Packet := p.setStatus PacketStatus.EOM last

def ignore (p : Packet) (ignore : Bool) : Packet := p.setStatus PacketStatus.IGNORE ignore

/-- A packet id of 0 is not written. -/
def packetId (p : Packet) (packetId : Nat) : Packet :=
  if packetId ≠ 0 then ⟨p.buffer.set 6 (UInt8.ofNat (packetId % 256))⟩ else p

def addData (p : Packet) (data : Bytes) : Packet := setLength ⟨p.buffer ++ data⟩

def length (p : Packet) : Nat := readUInt16BE p.buffer 2

def isLast (p : Packet) : Bool := p.status &&& PacketStatus.EOM ≠ 0

/-- Whether the packet asks the server to reset the connection. -/
def resetsConnection (p : Packet) : Bool := p.status &&& PacketStatus.RESETCONNECTION ≠ 0

def data (p : Packet) : Bytes := p.buffer.drop HEADER_LENGTH

def type (p : Packet) : UInt8 := p.buffer[0]?.getD 0

/-- The packets that `OutgoingMessageStream` sends; only the last one of a message gets
its `IGNORE` bit written. -/
def forMessage (type : UInt8) (packetNumber : Nat) (resetConnection : Bool)
    (last : Option Bool) (data : Bytes) : Packet :=
  let packet := ((new type).packetId packetNumber).resetConnection resetConnection
  match last with
  | none => packet.addData data
  | some ignore => ((packet.last true).ignore ignore).addData data

/-! ### Well-formed packets -/

/-- The header is there, and its length field tells the length of the buffer. -/
structure WellFormed (p : Packet) : Prop where
  header : HEADER_LENGTH ≤ p.buffer.length
  length_eq : p.length = p.buffer.length

theorem buffer_new (type : UInt8) : (new type).buffer = [type, 0, 0, 8, 0, 0, 1, 0] := by
  simp [new, setLength, writeUInt16BE, HEADER_LENGTH, List.replicate, PacketStatus.NORMAL]

/-- The status byte of a packet of a message. -/
def messageStatus (resetConnection : Bool) (last : Option Bool) : UInt8 :=
  (if resetConnection then PacketStatus.RESETCONNECTION else 0) |||
    (match last with
    | none => 0
    | some ignore => PacketStatus.EOM ||| if ignore then PacketStatus.IGNORE else 0)

/-- The packets of a message, byte by byte. -/
theorem buffer_forMessage (type : UInt8) {packetNumber : Nat} (hn : packetNumber ≠ 0)
    (resetConnection : Bool) (last : Option Bool) (data : Bytes) :
    (forMessage type packetNumber resetConnection last data).buffer =
      [type, messageStatus resetConnection last, UInt8.ofNat ((data.length + 8) / 256),
        UInt8.ofNat ((data.length + 8) % 256), 0, 0, UInt8.ofNat (packetNumber % 256), 0] ++ data := by
  cases resetConnection <;> rcases last with _ | _ | _ <;>
    simp [forMessage, packetId, hn, Packet.resetConnection, Packet.last, Packet.ignore, setStatus,
      addData, setLength, writeUInt16BE, buffer_new, status, messageStatus, PacketStatus.EOM,
      PacketStatus.IGNORE, PacketStatus.RESETCONNECTION] <;>
    decide

@[simp] theorem type_forMessage (type : UInt8) {packetNumber : Nat} (hn : packetNumber ≠ 0)
    (resetConnection : Bool) (last : Option Bool) (data : Bytes) :
    (forMessage type packetNumber resetConnection last data).type = type := by
  rw [Packet.type, buffer_forMessage type hn]
  rfl

@[simp] theorem data_forMessage (type : UInt8) {packetNumber : Nat} (hn : packetNumber ≠ 0)
    (resetConnection : Bool) (last : Option Bool) (data : Bytes) :
    (forMessage type packetNumber resetConnection last data).data = data := by
  rw [Packet.data, buffer_forMessage type hn]
  rfl

@[simp] theorem isLast_forMessage (type : UInt8) {packetNumber : Nat} (hn : packetNumber ≠ 0)
    (resetConnection : Bool) (last : Option Bool) (data : Bytes) :
    (forMessage type packetNumber resetConnection last data).isLast = last.isSome := by
  have hstatus : (messageStatus resetConnection last &&& PacketStatus.EOM ≠ 0) ↔
      last.isSome = true := by
    cases resetConnection <;> rcases last with _ | _ | _ <;> decide
  rw [Packet.isLast, status, buffer_forMessage type hn]
  exact (Bool.decide_congr hstatus).trans Bool.decide_eq_true

@[simp] theorem resetsConnection_forMessage (type : UInt8) {packetNumber : Nat}
    (hn : packetNumber ≠ 0) (resetConnection : Bool) (last : Option Bool) (data : Bytes) :
    (forMessage type packetNumber resetConnection last data).resetsConnection =
      resetConnection := by
  have hstatus : (messageStatus resetConnection last &&& PacketStatus.RESETCONNECTION ≠ 0) ↔
      resetConnection = true := by
    cases resetConnection <;> rcases last with _ | _ | _ <;> decide
  rw [Packet.resetsConnection, status, buffer_forMessage type hn]
  exact (Bool.decide_congr hstatus).trans Bool.decide_eq_true

theorem wellFormed_forMessage (type : UInt8) {packetNumber : Nat} (hn : packetNumber ≠ 0)
    (resetConnection : Bool) (last : Option Bool) {data : Bytes} (hdata : data.length + 8 ≤ 65535) :
    (forMessage type packetNumber resetConnection last data).WellFormed := by
  refine ⟨?_, ?_⟩
  · rw [buffer_forMessage type hn]
    simp [HEADER_LENGTH]
  · rw [Packet.length, buffer_forMessage type hn]
    simp [readUInt16BE, beNat]
    omega

end Packet

end Tedious
