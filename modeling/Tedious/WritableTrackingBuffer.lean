import Tedious.DataTypes.Amounts
import Tedious.DataTypes.Variable
import Tedious.Lib.Appending

/-!
# Tedious.WritableTrackingBuffer

The buffer that messages are written with (`tracking-buffer/writable-tracking-buffer.ts`): a
buffer with a position, which is filled up to there, and a composite buffer of what was
written before it. When the room does not suffice, what is filled goes to the composite
buffer and a new buffer is allocated. Reading `data` does the same, so it is an operation too.

Wherever the boundaries fall, the data are the encodings of what was written, one behind the
other (`data_eq`).
-/

namespace Tedious

open Chunked Appending

namespace WritableTrackingBuffer

inductive Encoding
  | utf8 | ucs2 | ascii
  deriving DecidableEq, Repr

/-- `Buffer.from(s, encoding)`. -/
def Encoding.encode : Encoding → JsString → Bytes
  | utf8 => utf8Bytes
  | ucs2 => ucs2Bytes
  | ascii => List.map fun c => UInt8.ofNat c.toNat

/-- What is written as bytes: a buffer, or what `toString()` makes of any other value. -/
inductive AnyValue
  | buffer (bytes : Bytes)
  | text (s : JsString)
  deriving DecidableEq, Repr

end WritableTrackingBuffer

structure WritableTrackingBuffer where
  encoding : WritableTrackingBuffer.Encoding
  doubleSizeGrowth : Bool
  buffer : Bytes
  compositeBuffer : Bytes
  position : Nat
  deriving DecidableEq, Repr

namespace WritableTrackingBuffer

/-- `new WritableTrackingBuffer(initialSize, encoding, doubleSizeGrowth)`. -/
def new (initialSize : Nat) (encoding : Option Encoding) (doubleSizeGrowth : Bool) :
    WritableTrackingBuffer where
  encoding := encoding.getD .ucs2
  doubleSizeGrowth := doubleSizeGrowth
  buffer := List.replicate initialSize 0
  compositeBuffer := []
  position := 0

/-! ### Making room -/

def newBuffer (size : Nat) (b : WritableTrackingBuffer) : WritableTrackingBuffer :=
  { b with
    compositeBuffer := b.compositeBuffer ++ b.buffer.take b.position
    buffer := List.replicate size 0
    position := 0 }

/-- `get data()`: the data, and what becomes of the buffer. -/
def data (b : WritableTrackingBuffer) : WritableTrackingBuffer × Bytes :=
  let b := b.newBuffer 0
  (b, b.compositeBuffer)

/-- `while (size < requiredLength) size *= 2`. A positive size grows with every round, so
`requiredLength` rounds are enough. -/
def doubled (requiredLength : Nat) : (rounds size : Nat) → Nat
  | 0, size => size
  | rounds + 1, size =>
    if size < requiredLength then doubled requiredLength rounds (size * 2) else size

def makeRoomFor (requiredLength : Nat) (b : WritableTrackingBuffer) : WritableTrackingBuffer :=
  if (b.buffer.length : Int) - b.position < requiredLength then
    if b.doubleSizeGrowth then
      b.newBuffer (doubled requiredLength requiredLength (max 128 (b.buffer.length * 2)))
    else b.newBuffer requiredLength
  else b

/-! ### Writing -/

/-- Bytes copied into a buffer at an offset, as far as it has room for them. -/
def overwrite (buffer : Bytes) (offset : Nat) (bytes : Bytes) : Bytes :=
  buffer.take offset ++ bytes.take (buffer.length - offset) ++ buffer.drop (offset + bytes.length)

/-- `this.position += length`. -/
def advance (length : Nat) (b : WritableTrackingBuffer) : WritableTrackingBuffer :=
  { b with position := b.position + length }

/-- Room is made for some bytes, which are copied to the position. -/
def append (bytes : Bytes) (b : WritableTrackingBuffer) : WritableTrackingBuffer :=
  let length := bytes.length
  let b := b.makeRoomFor length
  let b := { b with buffer := overwrite b.buffer b.position bytes }
  b.advance length

/-- Room is made for a number, which a method of `Buffer` writes at the position. It throws
when the number is out of range, or the buffer ends before the number does. -/
def appendNumber (length : Nat) (number : Except JsError Bytes) (b : WritableTrackingBuffer) :
    Except JsError WritableTrackingBuffer := do
  let b := b.makeRoomFor length
  let bytes ← number
  if b.position + length ≤ b.buffer.length then
    let b := { b with buffer := overwrite b.buffer b.position bytes }
    return b.advance length
  else .error .rangeError

def copyFrom (buffer : Bytes) (b : WritableTrackingBuffer) : WritableTrackingBuffer :=
  b.append buffer

def writeBuffer (value : Bytes) (b : WritableTrackingBuffer) : WritableTrackingBuffer :=
  b.append value

section Numbers

variable (js : Runtime) (value : JsNumber) (b : WritableTrackingBuffer)

def writeUInt8 : Except JsError WritableTrackingBuffer := b.appendNumber 1 (writeUIntLE 1 value)

def writeUInt16LE : Except JsError WritableTrackingBuffer := b.appendNumber 2 (writeUIntLE 2 value)

def writeUShort : Except JsError WritableTrackingBuffer := b.writeUInt16LE value

def writeUInt16BE : Except JsError WritableTrackingBuffer :=
  b.appendNumber 2 ((writeUIntLE 2 value).map List.reverse)

/-- The bytes are assigned, from the last one to the first: nothing is checked. -/
def writeUInt24LE : WritableTrackingBuffer :=
  let length := 3
  let b := b.makeRoomFor length
  let n := value.toUint32
  let buffer := b.buffer.set (b.position + 2) (UInt8.ofNat ((n >>> 16) &&& 0xff))
  let buffer := buffer.set (b.position + 1) (UInt8.ofNat ((n >>> 8) &&& 0xff))
  let buffer := buffer.set b.position (UInt8.ofNat (n &&& 0xff))
  { b with buffer := buffer }.advance length

def writeUInt32LE : Except JsError WritableTrackingBuffer := b.appendNumber 4 (writeUIntLE 4 value)

def writeBigInt64LE (value : Int) (b : WritableTrackingBuffer) :
    Except JsError WritableTrackingBuffer :=
  b.appendNumber 8 (Tedious.writeBigInt64LE value)

def writeInt64LE : Except JsError WritableTrackingBuffer := do
  b.writeBigInt64LE (← value.toBigInt)

def writeBigUInt64LE (value : Int) (b : WritableTrackingBuffer) :
    Except JsError WritableTrackingBuffer :=
  b.appendNumber 8 (Tedious.writeBigUInt64LE value)

def writeUInt64LE : Except JsError WritableTrackingBuffer := do
  b.writeBigUInt64LE (← value.toBigInt)

def writeUInt32BE : Except JsError WritableTrackingBuffer :=
  b.appendNumber 4 ((writeUIntLE 4 value).map List.reverse)

def writeInt8 : Except JsError WritableTrackingBuffer := b.appendNumber 1 (writeIntLE 1 value)

def writeInt16LE : Except JsError WritableTrackingBuffer := b.appendNumber 2 (writeIntLE 2 value)

def writeInt16BE : Except JsError WritableTrackingBuffer :=
  b.appendNumber 2 ((writeIntLE 2 value).map List.reverse)

def writeInt32LE : Except JsError WritableTrackingBuffer := b.appendNumber 4 (writeIntLE 4 value)

def writeInt32BE : Except JsError WritableTrackingBuffer :=
  b.appendNumber 4 ((writeIntLE 4 value).map List.reverse)

/-- The low 32 bits are written as a signed number. -/
def writeUInt40LE : Except JsError WritableTrackingBuffer := do
  let b ← b.writeInt32LE (.ofInt value.toInt32)
  b.writeUInt8 value.shiftRight32.floor

def writeFloatLE : Except JsError WritableTrackingBuffer :=
  b.appendNumber 4 (.ok (leBytes 4 (js.float32 value)))

def writeDoubleLE : Except JsError WritableTrackingBuffer :=
  b.appendNumber 8 (.ok (leBytes 8 (js.float64 value)))

/-- The high word comes first. -/
def writeMoney : Except JsError WritableTrackingBuffer := do
  let b ← b.writeInt32LE value.shiftRight32.floor
  b.writeInt32LE (.ofInt value.toInt32)

end Numbers

section Text

variable (encoding : Option Encoding) (b : WritableTrackingBuffer)

def writeString (value : JsString) : WritableTrackingBuffer :=
  let encoding := encoding.getD b.encoding
  b.append (encoding.encode value)

def writeBVarchar (value : JsString) : Except JsError WritableTrackingBuffer := do
  let b ← b.writeUInt8 (.ofNat value.length)
  return b.writeString encoding value

def writeUsVarchar (value : JsString) : Except JsError WritableTrackingBuffer := do
  let b ← b.writeUInt16LE (.ofNat value.length)
  return b.writeString encoding value

/-- The bytes of a value whose type is not known. -/
def AnyValue.bytes (encoding : Encoding) : AnyValue → Bytes
  | buffer bytes => bytes
  | text s => encoding.encode s

/-- A value behind its length, as it is written in two places. -/
def writeAny (encoding : Encoding) (value : AnyValue) (b : WritableTrackingBuffer) :
    WritableTrackingBuffer :=
  match value with
  | .buffer bytes => b.writeBuffer bytes
  | .text s => b.append (encoding.encode s)

def writeUsVarbyte (value : AnyValue) : Except JsError WritableTrackingBuffer := do
  let encoding := encoding.getD b.encoding
  let length := (value.bytes encoding).length
  let b ← b.writeUInt16LE (.ofNat length)
  return b.writeAny encoding value

/-- Zero or more chunks: one, when there is anything to send. -/
def writeChunks (encoding : Encoding) (value : AnyValue) (b : WritableTrackingBuffer) :
    Except JsError WritableTrackingBuffer :=
  let length := (value.bytes encoding).length
  if length > 0 then do
    let b ← b.writeUInt32LE (.ofNat length)
    return b.writeAny encoding value
  else return b

def writePLPBody (value : AnyValue) : Except JsError WritableTrackingBuffer := do
  let encoding := encoding.getD b.encoding
  let b := b.writeBuffer UNKNOWN_PLP_LEN
  let b ← b.writeChunks encoding value
  b.writeUInt32LE (.ofNat 0)

end Text

/-! ### What is in the buffer -/

/-- The filled part of the buffer stands behind the composite buffer. -/
def view (encoding : Encoding) : View WritableTrackingBuffer UInt8 where
  valid b := b.position ≤ b.buffer.length ∧ b.encoding = encoding
  contents b := b.compositeBuffer ++ b.buffer.take b.position

variable {default : Encoding} {b : WritableTrackingBuffer}

theorem valid_new (initialSize : Nat) (encoding : Option Encoding) (doubleSizeGrowth : Bool) :
    (view (encoding.getD .ucs2)).valid (new initialSize encoding doubleSizeGrowth) :=
  ⟨Nat.zero_le _, rfl⟩

theorem valid_newBuffer (h : (view default).valid b) (size : Nat) :
    (view default).valid (b.newBuffer size) :=
  ⟨Nat.zero_le _, h.2⟩

theorem contents_newBuffer (size : Nat) :
    (view default).contents (b.newBuffer size) = (view default).contents b := by
  simp [view, newBuffer]

/-- Reading the data shows what is in the buffer. -/
theorem data_snd (b : WritableTrackingBuffer) : b.data.2 = (view default).contents b := rfl

/-- The doubled size is large enough: the loop was left by its condition. -/
theorem le_doubled {requiredLength rounds size : Nat} (hpos : 0 < size)
    (h : requiredLength ≤ size + rounds) : requiredLength ≤ doubled requiredLength rounds size := by
  induction rounds generalizing size with
  | zero => exact h
  | succ rounds ih =>
    rw [doubled]
    split
    · exact ih (by omega) (by omega)
    · next hle => exact Nat.le_of_not_lt hle

/-- Making room changes nothing about what is in the buffer, and there is room. -/
theorem makeRoomFor_spec (h : (view default).valid b) (n : Nat) :
    (view default).valid (b.makeRoomFor n) ∧
      (view default).contents (b.makeRoomFor n) = (view default).contents b ∧
      (b.makeRoomFor n).position + n ≤ (b.makeRoomFor n).buffer.length := by
  have hnew : ∀ size, n ≤ size → (view default).valid (b.newBuffer size) ∧
      (view default).contents (b.newBuffer size) = (view default).contents b ∧
      (b.newBuffer size).position + n ≤ (b.newBuffer size).buffer.length := by
    intro size hsize
    refine ⟨valid_newBuffer h size, contents_newBuffer size, ?_⟩
    simpa [newBuffer] using hsize
  rw [makeRoomFor]
  split
  · split
    · exact hnew _ (le_doubled (by omega) (by omega))
    · exact hnew n le_rfl
  · have hposition := h.1
    exact ⟨h, rfl, by omega⟩

@[simp] theorem length_overwrite {buffer bytes : Bytes} {offset : Nat}
    (h : offset + bytes.length ≤ buffer.length) :
    (overwrite buffer offset bytes).length = buffer.length := by
  simp [overwrite]
  omega

theorem take_overwrite {buffer bytes : Bytes} {offset : Nat}
    (h : offset + bytes.length ≤ buffer.length) :
    (overwrite buffer offset bytes).take (offset + bytes.length) = buffer.take offset ++ bytes := by
  have hbytes : bytes.take (buffer.length - offset) = bytes := List.take_of_length_le (by omega)
  rw [overwrite, hbytes]
  exact List.take_left' (by simp; omega)

/-- Some bytes in the middle of a buffer are replaced by as many others. -/
theorem overwrite_middle {front old bytes back : Bytes} {offset : Nat}
    (hoffset : front.length = offset) (hlength : old.length = bytes.length) :
    overwrite (front ++ (old ++ back)) offset bytes = front ++ (bytes ++ back) := by
  subst hoffset
  have hbytes : bytes.take ((front ++ (old ++ back)).length - front.length) = bytes :=
    List.take_of_length_le (by simp; omega)
  rw [overwrite, hbytes, List.take_left, List.drop_length_add_append, ← hlength, List.drop_left,
    List.append_assoc]

/-- A buffer that is filled up to an offset, with zeros behind it, is filled further. -/
theorem overwrite_zeros {filled bytes : Bytes} {offset length : Nat}
    (hoffset : filled.length = offset) (hlength : bytes.length = length) (rest : Nat) :
    overwrite (filled ++ List.replicate (length + rest) 0) offset bytes =
      (filled ++ bytes) ++ List.replicate rest 0 := by
  rw [List.replicate_add, overwrite_middle hoffset (by rw [List.length_replicate, hlength]),
    List.append_assoc]

/-- **Writing where there is room**: the bytes stand behind what is in the buffer. -/
theorem overwrite_spec (bytes : Bytes) (h : (view default).valid b)
    (hroom : b.position + bytes.length ≤ b.buffer.length) :
    let b' := { b with buffer := overwrite b.buffer b.position bytes }.advance bytes.length
    (view default).valid b' ∧ (view default).contents b' = (view default).contents b ++ bytes := by
  refine ⟨⟨?_, h.2⟩, ?_⟩
  · exact hroom.trans_eq (length_overwrite hroom).symm
  · show b.compositeBuffer ++ (overwrite b.buffer b.position bytes).take
      (b.position + bytes.length) = b.compositeBuffer ++ b.buffer.take b.position ++ bytes
    rw [take_overwrite hroom, List.append_assoc]

theorem append_appends (bytes : Bytes) :
    (view default).Appends (fun b => (.ok (b.append bytes) : Except JsError _)) bytes := by
  intro b hb
  obtain ⟨hvalid, hcontents, hroom⟩ := makeRoomFor_spec hb bytes.length
  obtain ⟨hvalid', hcontents'⟩ := overwrite_spec bytes hvalid hroom
  exact ⟨_, rfl, hvalid', hcontents'.trans (congrArg (· ++ bytes) hcontents)⟩

theorem appendNumber_appends {length : Nat} {number : Except JsError Bytes} {bytes : Bytes}
    (hnumber : number = .ok bytes) (hlength : bytes.length = length) :
    (view default).Appends (appendNumber length number) bytes := by
  subst hnumber hlength
  intro b hb
  obtain ⟨hvalid, hcontents, hroom⟩ := makeRoomFor_spec hb bytes.length
  obtain ⟨hvalid', hcontents'⟩ := overwrite_spec bytes hvalid hroom
  exact ⟨_, if_pos hroom, hvalid', hcontents'.trans (congrArg (· ++ bytes) hcontents)⟩

theorem appendNumber_throws {length : Nat} {number : Except JsError Bytes} {e : JsError}
    (hnumber : number = .error e) : (view default).Throws (appendNumber length number) e := by
  intro b hb
  rw [appendNumber, hnumber]
  rfl

/-! ### Numbers in range -/

end WritableTrackingBuffer

namespace JsNumber

/-- The number without its fraction. -/
def whole : JsNumber → Int
  | finite q => truncate q
  | infinity | negInfinity | nan => 0

/-- A number in the range of an unsigned integer of `k` bytes. -/
def FitsUnsigned (k : Nat) : JsNumber → Prop
  | finite q => 0 ≤ q ∧ q ≤ (256 ^ k - 1 : Nat)
  | infinity | negInfinity | nan => False

/-- A number in the range of a signed integer of `k` bytes. -/
def FitsSigned (k : Nat) : JsNumber → Prop
  | finite q => -(256 ^ k / 2 : Nat) ≤ q ∧ q ≤ (256 ^ k / 2 - 1 : Nat)
  | infinity | negInfinity | nan => False

theorem fitsUnsigned_ofNat {k n : Nat} (h : n < 256 ^ k) : (ofNat n).FitsUnsigned k :=
  ⟨Nat.cast_nonneg n, Nat.cast_le.2 (by omega)⟩

theorem FitsUnsigned.write {k : Nat} {v : JsNumber} (h : v.FitsUnsigned k) :
    writeUIntLE k v = .ok (leBytes k v.whole.toNat) := by
  cases v with
  | finite q => exact if_pos h
  | _ => exact h.elim

theorem FitsSigned.write {k : Nat} {v : JsNumber} (h : v.FitsSigned k) :
    writeIntLE k v = .ok (leIntBytes k v.whole) := by
  cases v with
  | finite q => exact if_pos h
  | _ => exact h.elim

/-- The whole part of a number in range is its floor, and in range. -/
theorem FitsUnsigned.whole_eq {k : Nat} {q : Rat} (h : (finite q).FitsUnsigned k) :
    ∃ n < 256 ^ k, truncate q = (n : Nat) ∧ ⌊q⌋ = (n : Nat) := by
  have hpos : 0 < 256 ^ k := Nat.pow_pos (by decide)
  have hlow : 0 ≤ ⌊q⌋ := Int.floor_nonneg.2 h.1
  have hhigh : ⌊q⌋ ≤ (256 ^ k - 1 : Nat) := by
    have := Int.floor_le_floor h.2
    rwa [Int.floor_natCast] at this
  refine ⟨⌊q⌋.toNat, by omega, ?_, by omega⟩
  rw [truncate_of_nonneg h.1]
  omega

theorem FitsUnsigned.writeUInt24LE {v : JsNumber} (h : v.FitsUnsigned 3) :
    writeUInt24LE v = leBytes 3 v.whole.toNat := by
  cases v with
  | finite q =>
    obtain ⟨n, hn, htruncate, -⟩ := h.whole_eq
    rw [Tedious.writeUInt24LE, toUint32, whole, htruncate]
    congr 1
    omega
  | _ => exact h.elim

/-- `Math.floor(n * SHIFT_RIGHT_32)`. -/
theorem floor_shiftRight32 (q : Rat) :
    (finite q).shiftRight32.floor = ofInt (⌊q⌋ / 4294967296) :=
  congrArg ofInt (Int.floor_div_natCast q 4294967296)

theorem FitsUnsigned.writeUInt40LE {v : JsNumber} (h : v.FitsUnsigned 5) :
    writeUInt40LE v = .ok (leBytes 5 v.whole.toNat) := by
  cases v with
  | finite q =>
    obtain ⟨n, hn, htruncate, hfloor⟩ := h.whole_eq
    have hlow : writeIntLE 4 (.ofInt (finite q).toInt32) = .ok (leBytes 4 n) := by
      have hmod : ((n : Int) % 4294967296).toNat = n % 256 ^ 4 := by norm_num; omega
      rw [writeIntLE_of_fits (by decide) (toInt32_fits _), leIntBytes_toInt32, toUint32, htruncate,
        hmod, leBytes_mod]
    have hhigh : writeUIntLE 1 (finite q).shiftRight32.floor = .ok (leBytes 1 (n / 256 ^ 4)) := by
      have hdiv : ofInt (⌊q⌋ / 4294967296) = .ofNat (n / 256 ^ 4) := by
        rw [hfloor, ← ofInt_natCast]
        rfl
      rw [floor_shiftRight32, hdiv, writeUIntLE_ofNat (by omega)]
    rw [Tedious.writeUInt40LE, hlow, hhigh, whole, htruncate, Int.toNat_natCast, leBytes_add 4 1]
    rfl
  | _ => exact h.elim

end JsNumber

/-- An amount: the eight bytes of a whole number, the high word first. -/
def moneyBytes (n : Int) : Bytes := (leIntBytes 8 n).drop 4 ++ (leIntBytes 8 n).take 4

/-- The two words of a number. -/
theorem leIntBytes_words (n : Int) :
    leIntBytes 8 n = leBytes 4 (n % 4294967296).toNat ++ leIntBytes 4 (n / 4294967296) := by
  have hlow : (n % 256 ^ 8).toNat % 256 ^ 4 = (n % 4294967296).toNat := by norm_num; omega
  have hhigh : (n % 256 ^ 8).toNat / 256 ^ 4 = (n / 4294967296 % 256 ^ 4).toNat := by
    norm_num
    omega
  rw [leIntBytes, leBytes_add 4 4, ← leBytes_mod 4, hlow, hhigh, leIntBytes]

theorem moneyBytes_eq (n : Int) :
    moneyBytes n = leIntBytes 4 (n / 4294967296) ++ leBytes 4 (JsNumber.ofInt n).toUint32 := by
  rw [moneyBytes, leIntBytes_words, List.drop_left' (length_leBytes ..),
    List.take_left' (length_leBytes ..), JsNumber.ofInt, JsNumber.toUint32, truncate_intCast]

namespace WritableTrackingBuffer

variable {default : Encoding}

theorem writeUInt8_appends {v : JsNumber} (h : v.FitsUnsigned 1) :
    (view default).Appends (writeUInt8 v) (leBytes 1 v.whole.toNat) :=
  appendNumber_appends h.write (length_leBytes ..)

theorem writeUInt16LE_appends {v : JsNumber} (h : v.FitsUnsigned 2) :
    (view default).Appends (writeUInt16LE v) (leBytes 2 v.whole.toNat) :=
  appendNumber_appends h.write (length_leBytes ..)

theorem writeUInt32LE_appends {v : JsNumber} (h : v.FitsUnsigned 4) :
    (view default).Appends (writeUInt32LE v) (leBytes 4 v.whole.toNat) :=
  appendNumber_appends h.write (length_leBytes ..)

theorem writeUInt8_ofNat_appends {n : Nat} (h : n < 256) :
    (view default).Appends (writeUInt8 (.ofNat n)) (leBytes 1 n) :=
  appendNumber_appends (writeUIntLE_ofNat h) (length_leBytes ..)

theorem writeUInt16LE_ofNat_appends {n : Nat} (h : n < 65536) :
    (view default).Appends (writeUInt16LE (.ofNat n)) (leBytes 2 n) :=
  appendNumber_appends (writeUIntLE_ofNat h) (length_leBytes ..)

theorem writeUInt32LE_ofNat_appends {n : Nat} (h : n < 4294967296) :
    (view default).Appends (writeUInt32LE (.ofNat n)) (leBytes 4 n) :=
  appendNumber_appends (writeUIntLE_ofNat h) (length_leBytes ..)

theorem writeUInt16BE_ofNat_appends {n : Nat} (h : n < 65536) :
    (view default).Appends (writeUInt16BE (.ofNat n)) (beBytes 2 n) :=
  appendNumber_appends (congrArg (Except.map List.reverse) (writeUIntLE_ofNat h))
    (length_beBytes ..)

theorem writeInt64LE_ofInt (n : Int) : writeInt64LE (.ofInt n) = writeBigInt64LE n := by
  funext b
  have hden : (n : Rat).den = 1 := Rat.den_intCast n
  rw [writeInt64LE, JsNumber.ofInt, JsNumber.toBigInt, if_pos hden, Rat.num_intCast]
  exact pure_bind n fun m => writeBigInt64LE m b

theorem writeUInt64LE_ofNat (n : Nat) : writeUInt64LE (.ofNat n) = writeBigUInt64LE n := by
  funext b
  have hden : (n : Rat).den = 1 := Rat.den_natCast n
  rw [writeUInt64LE, JsNumber.ofNat, JsNumber.toBigInt, if_pos hden, Rat.num_natCast]
  exact pure_bind (n : Int) fun m => writeBigUInt64LE m b

theorem writeUInt8_ofNat_throws {n : Nat} (h : 256 ≤ n) :
    (view default).Throws (writeUInt8 (.ofNat n)) .rangeError :=
  appendNumber_throws (writeUIntLE_ofNat_eq.trans (if_neg (Nat.not_lt.2 h)))

theorem writeUInt16BE_ofNat_throws {n : Nat} (h : 65536 ≤ n) :
    (view default).Throws (writeUInt16BE (.ofNat n)) .rangeError := by
  have hthrows : writeUIntLE 2 (.ofNat n) = .error .rangeError :=
    writeUIntLE_ofNat_eq.trans (if_neg (Nat.not_lt.2 h))
  refine appendNumber_throws ?_
  rw [hthrows]
  rfl

theorem writeUInt16LE_ofNat_throws {n : Nat} (h : 65536 ≤ n) :
    (view default).Throws (writeUInt16LE (.ofNat n)) .rangeError :=
  appendNumber_throws (writeUIntLE_ofNat_eq.trans (if_neg (Nat.not_lt.2 h)))

theorem writeUInt32LE_ofNat_throws {n : Nat} (h : 4294967296 ≤ n) :
    (view default).Throws (writeUInt32LE (.ofNat n)) .rangeError :=
  appendNumber_throws (writeUIntLE_ofNat_eq.trans (if_neg (Nat.not_lt.2 h)))

/-- The low 32 bits, whatever the number. -/
theorem writeInt32LE_low_appends (v : JsNumber) :
    (view default).Appends (writeInt32LE (.ofInt v.toInt32)) (leBytes 4 v.toUint32) := by
  refine appendNumber_appends ?_ (length_leBytes ..)
  rw [writeIntLE_of_fits (by decide) (toInt32_fits v), leIntBytes_toInt32]

/-- Assigning to three places in a row. -/
theorem overwrite_three {buffer : Bytes} {offset : Nat} (h : offset + 3 ≤ buffer.length)
    (x y z : UInt8) :
    ((buffer.set (offset + 2) z).set (offset + 1) y).set offset x =
      overwrite buffer offset [x, y, z] := by
  induction offset generalizing buffer with
  | zero =>
    match buffer, h with
    | _ :: _ :: _ :: rest, _ => simp [overwrite]
  | succ offset ih =>
    cases buffer with
    | nil => cases h
    | cons c buffer =>
      have hroom : offset + 3 ≤ buffer.length := by
        rw [List.length_cons] at h
        omega
      have hrest := ih hroom
      simp only [overwrite] at hrest ⊢
      rw [Nat.add_right_comm, Nat.add_right_comm offset 1 1]
      simp only [List.set_cons_succ, hrest]
      simp

/-- The three bytes assigned one by one are those of `writeUInt24LE`. -/
theorem writeUInt24LE_appends (v : JsNumber) :
    (view default).Appends (fun b => (.ok (b.writeUInt24LE v) : Except JsError _))
      (Tedious.writeUInt24LE v) := by
  intro b hb
  obtain ⟨hvalid, hcontents, hroom⟩ := makeRoomFor_spec hb 3
  have hand : ∀ n, n &&& 0xff = n % 256 := fun n => Nat.and_two_pow_sub_one_eq_mod n 8
  have hbytes : Tedious.writeUInt24LE v = [UInt8.ofNat (v.toUint32 &&& 0xff),
      UInt8.ofNat ((v.toUint32 >>> 8) &&& 0xff), UInt8.ofNat ((v.toUint32 >>> 16) &&& 0xff)] := by
    rw [hand, hand, hand, Nat.shiftRight_eq_div_pow, Nat.shiftRight_eq_div_pow]
    show [_, _, UInt8.ofNat (v.toUint32 / 256 / 256 % 256)] = _
    rw [Nat.div_div_eq_div_mul]
  rw [hbytes]
  obtain ⟨hvalid', hcontents'⟩ := overwrite_spec [_, _, _] hvalid hroom
  refine ⟨_, ?_, hvalid', hcontents'.trans (congrArg (· ++ _) hcontents)⟩
  rw [← overwrite_three hroom]
  rfl

/-- The low word, and the byte above it. -/
theorem writeUInt40LE_appends {v : JsNumber} {bytes : Bytes}
    (h : Tedious.writeUInt40LE v = .ok bytes) :
    (view default).Appends (writeUInt40LE v) bytes := by
  obtain ⟨low, hlow, h⟩ := Except.bind_ok h
  obtain ⟨high, hhigh, h⟩ := Except.bind_ok h
  cases h
  exact (appendNumber_appends hlow (length_writeIntLE hlow)).bind
    (appendNumber_appends hhigh (length_writeUIntLE hhigh))

theorem writeMoney_appends {n : Int} (h : FitsInt 8 n) :
    (view default).Appends (writeMoney (.ofInt n)) (moneyBytes n) := by
  have hfits : FitsInt 4 (n / 4294967296) := by
    obtain ⟨hlow, hhigh⟩ := h
    constructor <;> norm_num at hlow hhigh ⊢ <;> omega
  have hwrite : writeIntLE 4 (JsNumber.ofInt n).shiftRight32.floor =
      .ok (leIntBytes 4 (n / 4294967296)) := by
    rw [JsNumber.ofInt, JsNumber.floor_shiftRight32, Int.floor_intCast,
      writeIntLE_of_fits (by decide) hfits]
  rw [moneyBytes_eq]
  exact (appendNumber_appends hwrite (length_leIntBytes ..)).bind (writeInt32LE_low_appends _)

/-! ### Text -/

/-- The encoding of the buffer is the one it was made with. -/
theorem appends_of_encoding
    (op : Encoding → WritableTrackingBuffer → Except JsError WritableTrackingBuffer) {bytes : Bytes}
    (h : (view default).Appends (op default) bytes) :
    (view default).Appends (fun b => op b.encoding b) bytes := by
  intro b hb
  have hop := h b hb
  rwa [← hb.2] at hop ⊢

theorem writeString_appends (encoding : Option Encoding) (s : JsString) :
    (view default).Appends (fun b => (.ok (b.writeString encoding s) : Except JsError _))
      ((encoding.getD default).encode s) :=
  appends_of_encoding (fun default b => .ok (b.append ((encoding.getD default).encode s)))
    (append_appends _)

theorem writeBVarchar_appends (encoding : Option Encoding) {s : JsString} (h : s.length < 256) :
    (view default).Appends (fun b => b.writeBVarchar encoding s)
      (leBytes 1 s.length ++ (encoding.getD default).encode s) :=
  (writeUInt8_ofNat_appends h).bind (writeString_appends encoding s)

theorem writeUsVarchar_appends (encoding : Option Encoding) {s : JsString} (h : s.length < 65536) :
    (view default).Appends (fun b => b.writeUsVarchar encoding s)
      (leBytes 2 s.length ++ (encoding.getD default).encode s) :=
  (writeUInt16LE_ofNat_appends h).bind (writeString_appends encoding s)

/-- A value whose type is not known, whichever branch it takes. -/
theorem writeAny_appends (encoding : Encoding) (value : AnyValue) :
    (view default).Appends (fun b => (.ok (b.writeAny encoding value) : Except JsError _))
      (value.bytes encoding) := by
  cases value with
  | buffer bytes => exact append_appends bytes
  | text s => exact append_appends (encoding.encode s)

theorem writeUsVarbyte_appends (encoding : Option Encoding) {value : AnyValue}
    (h : (value.bytes (encoding.getD default)).length < 65536) :
    (view default).Appends (fun b => b.writeUsVarbyte encoding value)
      (usVarByte (value.bytes (encoding.getD default))) :=
  appends_of_encoding (fun default b => b.writeUsVarbyte (some (encoding.getD default)) value)
    ((writeUInt16LE_ofNat_appends h).bind (writeAny_appends _ value))

/-- A body of unknown length: one chunk, or none when there is nothing to send. -/
def plpBody (bytes : Bytes) : Bytes :=
  UNKNOWN_PLP_LEN ++ ((if bytes.length > 0 then leBytes 4 bytes.length ++ bytes else []) ++
    leBytes 4 0)

theorem writeChunks_appends (encoding : Encoding) {value : AnyValue} {bytes : Bytes}
    (hbytes : value.bytes encoding = bytes) (h : bytes.length < 4294967296) :
    (view default).Appends (fun b => b.writeChunks encoding value)
      (if bytes.length > 0 then leBytes 4 bytes.length ++ bytes else []) := by
  subst hbytes
  exact .ite (fun _ => (writeUInt32LE_ofNat_appends h).bind (writeAny_appends encoding value))
    fun _ => .pure

theorem writePLPBody_appends (encoding : Option Encoding) {value : AnyValue}
    (h : (value.bytes (encoding.getD default)).length < 4294967296) :
    (view default).Appends (fun b => b.writePLPBody encoding value)
      (plpBody (value.bytes (encoding.getD default))) :=
  appends_of_encoding (fun default b => b.writePLPBody (some (encoding.getD default)) value)
    ((append_appends UNKNOWN_PLP_LEN).bind
      ((writeChunks_appends _ rfl h).bind (writeUInt32LE_ofNat_appends (by decide))))

/-! ### Any operations in any order -/

/-- What can be done with a buffer: a read of `data`, or a write. -/
inductive Operation
  | data
  | copyFrom (buffer : Bytes)
  | writeUInt8 (value : JsNumber)
  | writeUInt16LE (value : JsNumber)
  | writeUShort (value : JsNumber)
  | writeUInt16BE (value : JsNumber)
  | writeUInt24LE (value : JsNumber)
  | writeUInt32LE (value : JsNumber)
  | writeBigInt64LE (value : Int)
  | writeInt64LE (value : JsNumber)
  | writeUInt64LE (value : JsNumber)
  | writeBigUInt64LE (value : Int)
  | writeUInt32BE (value : JsNumber)
  | writeUInt40LE (value : JsNumber)
  | writeInt8 (value : JsNumber)
  | writeInt16LE (value : JsNumber)
  | writeInt16BE (value : JsNumber)
  | writeInt32LE (value : JsNumber)
  | writeInt32BE (value : JsNumber)
  | writeFloatLE (value : JsNumber)
  | writeDoubleLE (value : JsNumber)
  | writeString (value : JsString) (encoding : Option Encoding)
  | writeBVarchar (value : JsString) (encoding : Option Encoding)
  | writeUsVarchar (value : JsString) (encoding : Option Encoding)
  | writeUsVarbyte (value : AnyValue) (encoding : Option Encoding)
  | writePLPBody (value : AnyValue) (encoding : Option Encoding)
  | writeBuffer (value : Bytes)
  | writeMoney (value : JsNumber)

namespace Operation

def run (js : Runtime) (op : Operation) (b : WritableTrackingBuffer) :
    Except JsError WritableTrackingBuffer :=
  match op with
  | data => .ok b.data.1
  | copyFrom buffer => .ok (b.copyFrom buffer)
  | writeUInt8 value => b.writeUInt8 value
  | writeUInt16LE value => b.writeUInt16LE value
  | writeUShort value => b.writeUShort value
  | writeUInt16BE value => b.writeUInt16BE value
  | writeUInt24LE value => .ok (b.writeUInt24LE value)
  | writeUInt32LE value => b.writeUInt32LE value
  | writeBigInt64LE value => b.writeBigInt64LE value
  | writeInt64LE value => b.writeInt64LE value
  | writeUInt64LE value => b.writeUInt64LE value
  | writeBigUInt64LE value => b.writeBigUInt64LE value
  | writeUInt32BE value => b.writeUInt32BE value
  | writeUInt40LE value => b.writeUInt40LE value
  | writeInt8 value => b.writeInt8 value
  | writeInt16LE value => b.writeInt16LE value
  | writeInt16BE value => b.writeInt16BE value
  | writeInt32LE value => b.writeInt32LE value
  | writeInt32BE value => b.writeInt32BE value
  | writeFloatLE value => b.writeFloatLE js value
  | writeDoubleLE value => b.writeDoubleLE js value
  | writeString value encoding => .ok (b.writeString encoding value)
  | writeBVarchar value encoding => b.writeBVarchar encoding value
  | writeUsVarchar value encoding => b.writeUsVarchar encoding value
  | writeUsVarbyte value encoding => b.writeUsVarbyte encoding value
  | writePLPBody value encoding => b.writePLPBody encoding value
  | writeBuffer value => .ok (b.writeBuffer value)
  | writeMoney value => b.writeMoney value

/-- A value that can be written: a number in the range of its type, whole when a `BigInt` is
made of it or when it is an amount, and nothing longer than its length field can say. -/
def InRange (default : Encoding) : Operation → Prop
  | data | copyFrom _ | writeBuffer _ | writeString _ _ | writeFloatLE _ | writeDoubleLE _ => True
  | writeUInt8 value => value.FitsUnsigned 1
  | writeUInt16LE value | writeUShort value | writeUInt16BE value => value.FitsUnsigned 2
  | writeUInt24LE value => value.FitsUnsigned 3
  | writeUInt32LE value | writeUInt32BE value => value.FitsUnsigned 4
  | writeUInt40LE value => value.FitsUnsigned 5
  | writeBigInt64LE value => FitsInt 8 value
  | writeInt64LE value | writeMoney value => ∃ n, value = .ofInt n ∧ FitsInt 8 n
  | writeBigUInt64LE value => 0 ≤ value ∧ value < 256 ^ 8
  | writeUInt64LE value => ∃ n : Nat, value = .ofNat n ∧ n < 256 ^ 8
  | writeInt8 value => value.FitsSigned 1
  | writeInt16LE value | writeInt16BE value => value.FitsSigned 2
  | writeInt32LE value | writeInt32BE value => value.FitsSigned 4
  | writeBVarchar value _ => value.length < 256
  | writeUsVarchar value _ => value.length < 65536
  | writeUsVarbyte value encoding => (value.bytes (encoding.getD default)).length < 65536
  | writePLPBody value encoding => (value.bytes (encoding.getD default)).length < 4294967296

/-- The bytes that stand for what is written. -/
def encoding (js : Runtime) (default : Encoding) : Operation → Bytes
  | data => []
  | copyFrom bytes | writeBuffer bytes => bytes
  | writeUInt8 value => leBytes 1 value.whole.toNat
  | writeUInt16LE value | writeUShort value => leBytes 2 value.whole.toNat
  | writeUInt16BE value => beBytes 2 value.whole.toNat
  | writeUInt24LE value => leBytes 3 value.whole.toNat
  | writeUInt32LE value => leBytes 4 value.whole.toNat
  | writeUInt32BE value => beBytes 4 value.whole.toNat
  | writeUInt40LE value => leBytes 5 value.whole.toNat
  | writeBigInt64LE value => leIntBytes 8 value
  | writeInt64LE value => leIntBytes 8 value.whole
  | writeBigUInt64LE value => leBytes 8 value.toNat
  | writeUInt64LE value => leBytes 8 value.whole.toNat
  | writeInt8 value => leIntBytes 1 value.whole
  | writeInt16LE value => leIntBytes 2 value.whole
  | writeInt16BE value => (leIntBytes 2 value.whole).reverse
  | writeInt32LE value => leIntBytes 4 value.whole
  | writeInt32BE value => (leIntBytes 4 value.whole).reverse
  | writeFloatLE value => leBytes 4 (js.float32 value)
  | writeDoubleLE value => leBytes 8 (js.float64 value)
  | writeString value encoding => (encoding.getD default).encode value
  | writeBVarchar value encoding => leBytes 1 value.length ++ (encoding.getD default).encode value
  | writeUsVarchar value encoding => leBytes 2 value.length ++ (encoding.getD default).encode value
  | writeUsVarbyte value encoding => usVarByte (value.bytes (encoding.getD default))
  | writePLPBody value encoding => plpBody (value.bytes (encoding.getD default))
  | writeMoney value => moneyBytes value.whole

/-- **One operation** puts its encoding behind what is in the buffer. -/
theorem run_appends (js : Runtime) {op : Operation} (h : op.InRange default) :
    (view default).Appends (op.run js) (op.encoding js default) := by
  cases op with
  | data =>
    exact .of_total (fun _ hb => valid_newBuffer hb 0) fun b _ =>
      (contents_newBuffer 0).trans (List.append_nil _).symm
  | copyFrom bytes | writeBuffer bytes => exact append_appends bytes
  | writeUInt8 value => exact writeUInt8_appends h
  | writeUInt16LE value | writeUShort value => exact writeUInt16LE_appends h
  | writeUInt32LE value => exact writeUInt32LE_appends h
  | writeUInt16BE value | writeUInt32BE value =>
    exact appendNumber_appends (congrArg (Except.map List.reverse) h.write) (length_beBytes ..)
  | writeUInt24LE value => exact (writeUInt24LE_appends value).of_eq h.writeUInt24LE
  | writeUInt40LE value => exact writeUInt40LE_appends h.writeUInt40LE
  | writeBigInt64LE value => exact appendNumber_appends (if_pos h) (length_leIntBytes ..)
  | writeInt64LE value =>
    obtain ⟨n, rfl, hfits⟩ := h
    have hwhole : (JsNumber.ofInt n).whole = n := truncate_intCast n
    show (view default).Appends (WritableTrackingBuffer.writeInt64LE _) (leIntBytes 8 _)
    rw [writeInt64LE_ofInt, hwhole]
    exact appendNumber_appends (if_pos hfits) (length_leIntBytes ..)
  | writeBigUInt64LE value => exact appendNumber_appends (if_pos h) (length_leBytes ..)
  | writeUInt64LE value =>
    obtain ⟨n, rfl, hlt⟩ := h
    have hrange : 0 ≤ (n : Int) ∧ (n : Int) < 256 ^ 8 :=
      ⟨Int.natCast_nonneg n, by exact_mod_cast hlt⟩
    have hwhole : (JsNumber.ofNat n).whole = n := truncate_natCast n
    show (view default).Appends (WritableTrackingBuffer.writeUInt64LE _) (leBytes 8 _)
    rw [writeUInt64LE_ofNat, hwhole]
    exact appendNumber_appends (if_pos hrange) (length_leBytes ..)
  | writeInt8 value | writeInt16LE value | writeInt32LE value =>
    exact appendNumber_appends h.write (length_leIntBytes ..)
  | writeInt16BE value | writeInt32BE value =>
    exact appendNumber_appends (congrArg (Except.map List.reverse) h.write)
      (List.length_reverse.trans (length_leIntBytes ..))
  | writeFloatLE value | writeDoubleLE value => exact appendNumber_appends rfl (length_leBytes ..)
  | writeString value encoding => exact writeString_appends encoding value
  | writeBVarchar value encoding => exact writeBVarchar_appends encoding h
  | writeUsVarchar value encoding => exact writeUsVarchar_appends encoding h
  | writeUsVarbyte value encoding => exact writeUsVarbyte_appends encoding h
  | writePLPBody value encoding => exact writePLPBody_appends encoding h
  | writeMoney value =>
    obtain ⟨n, rfl, hfits⟩ := h
    have hwhole : (JsNumber.ofInt n).whole = n := truncate_intCast n
    show (view default).Appends (WritableTrackingBuffer.writeMoney _) (moneyBytes _)
    rw [hwhole]
    exact writeMoney_appends hfits

end Operation

/-- The operations one after the other. -/
def execute (js : Runtime) (ops : List Operation) (b : WritableTrackingBuffer) :
    Except JsError WritableTrackingBuffer :=
  ops.foldlM (fun b op => op.run js b) b

theorem execute_appends (js : Runtime) {ops : List Operation}
    (h : ∀ op ∈ ops, op.InRange default) :
    (view default).Appends (execute js ops) (ops.flatMap (·.encoding js default)) :=
  .foldlM fun op hop => Operation.run_appends js (h op hop)

/-- **The data are a concatenation.** Whatever is written in whatever order, with reads of the
data in between, and wherever the boundaries of the buffers fall: the data are the encodings
of what was written so far. -/
theorem data_eq (js : Runtime) (initialSize : Nat) (encoding : Option Encoding)
    (doubleSizeGrowth : Bool) {ops : List Operation}
    (h : ∀ op ∈ ops, op.InRange (encoding.getD .ucs2)) :
    ∃ b, execute js ops (new initialSize encoding doubleSizeGrowth) = .ok b ∧
      b.data.2 = ops.flatMap (·.encoding js (encoding.getD .ucs2)) := by
  obtain ⟨b, hrun, -, hcontents⟩ :=
    execute_appends js h _ (valid_new initialSize encoding doubleSizeGrowth)
  exact ⟨b, hrun, (data_snd b).trans hcontents⟩

/-- Two bytes of room, three bytes to write, and a read before a string. -/
theorem data_eq_small :
    ∃ b, execute numberRuntime
        [.writeUInt24LE (.ofNat 0x030201), .data, .writeString [0x41] none,
          .writeMoney (.ofInt (-1))]
        (new 2 none true) = .ok b ∧
      b.data.2 = [1, 2, 3, 0x41, 0, 0xFF, 0xFF, 0xFF, 0xFF, 0xFF, 0xFF, 0xFF, 0xFF] := by
  refine data_eq numberRuntime 2 none true fun op hop => ?_
  simp only [List.mem_cons, List.not_mem_nil, or_false] at hop
  obtain rfl | rfl | rfl | rfl := hop
  · exact JsNumber.fitsUnsigned_ofNat (by decide)
  · trivial
  · trivial
  · exact ⟨-1, rfl, by decide⟩

end WritableTrackingBuffer

end Tedious
