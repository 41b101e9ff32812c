import Tedious.Js

/-!
# Tedious.PreloginPayload

Decoding a `PRELOGIN` response (`prelogin-payload.ts`): a table of options, five bytes
each, that ends with a terminator and points to the data of each option. Nothing of the
response is required; what is missing stays undefined.
-/

namespace Tedious

open Chunked

namespace Buffer

/-- `buf.readUInt8(offset)`. -/
def readUInt8 (buf : Bytes) (offset : Nat) : Except JsError Nat :=
  match buf[offset]? with
  | some b => .ok b.toNat
  | none => .error .rangeError

/-- `buf.readUInt16BE(offset)`. -/
def readUInt16BE (buf : Bytes) (offset : Nat) : Except JsError Nat :=
  if offset + 2 ≤ buf.length then .ok (beNat ((buf.drop offset).take 2)) else .error .rangeError

/-- `buf.readUInt32BE(offset)`. -/
def readUInt32BE (buf : Bytes) (offset : Nat) : Except JsError Nat :=
  if offset + 4 ≤ buf.length then .ok (beNat ((buf.drop offset).take 4)) else .error .rangeError

end Buffer

/-- `ENCRYPT`. -/
inductive EncryptionString
  | OFF | ON | NOT_SUP | REQ
  deriving DecidableEq, Repr

/-- `encryptByValue`. -/
def encryptByValue : Nat → Option EncryptionString
  | 0x00 => some .OFF
  | 0x01 => some .ON
  | 0x02 => some .NOT_SUP
  | 0x03 => some .REQ
  | _ => none

structure Version where
  major : Nat
  minor : Nat
  build : Nat
  subbuild : Nat
  deriving DecidableEq, Repr

structure PreloginPayload where
  version : Option Version
  encryption : Option Nat
  instance' : Option Nat
  threadId : Option Nat
  mars : Option Nat
  fedAuthRequired : Option Nat
  deriving DecidableEq, Repr

namespace PreloginPayload

/-- The string of the last encryption option, if its value is known. -/
def encryptionString (p : PreloginPayload) : Option EncryptionString :=
  p.encryption.bind encryptByValue

def empty : PreloginPayload where
  version := none
  encryption := none
  instance' := none
  threadId := none
  mars := none
  fedAuthRequired := none

def extractVersion (data : Bytes) (offset : Nat) (p : PreloginPayload) :
    Except JsError PreloginPayload := do
  let major ← Buffer.readUInt8 data offset
  let minor ← Buffer.readUInt8 data (offset + 1)
  let build ← Buffer.readUInt16BE data (offset + 2)
  let subbuild ← Buffer.readUInt16BE data (offset + 4)
  return { p with version := some { major, minor, build, subbuild } }

/-- One option of the table. -/
def extractOption (data : Bytes) (token : UInt8) (dataOffset dataLength : Nat)
    (p : PreloginPayload) : Except JsError PreloginPayload :=
  match token with
  | 0x00 => extractVersion data dataOffset p
  | 0x01 => do return { p with encryption := some (← Buffer.readUInt8 data dataOffset) }
  | 0x02 => do return { p with instance' := some (← Buffer.readUInt8 data dataOffset) }
  | 0x03 =>
      if dataLength > 0 then do
        return { p with threadId := some (← Buffer.readUInt32BE data dataOffset) }
      else return p
  | 0x04 => do return { p with mars := some (← Buffer.readUInt8 data dataOffset) }
  | 0x06 => do return { p with fedAuthRequired := some (← Buffer.readUInt8 data dataOffset) }
  | _ => return p

/-- `while (this.data[offset] !== TOKEN.TERMINATOR)`. Every round reads the length field
of an option five bytes further on, so there are no more rounds than bytes before that
read fails. -/
def extractOptionsFrom (data : Bytes) : (rounds offset : Nat) → PreloginPayload →
    Except JsError PreloginPayload
  | 0, _, _ => .error .rangeError
  | rounds + 1, offset, p =>
    if data[offset]? = some 0xFF then .ok p
    else do
      let dataOffset ← Buffer.readUInt16BE data (offset + 1)
      let dataLength ← Buffer.readUInt16BE data (offset + 3)
      let p ← extractOption data (data[offset]?.getD 0) dataOffset dataLength p
      extractOptionsFrom data rounds (offset + 5) p

/-- `new PreloginPayload(buffer)`. -/
def ofBuffer (data : Bytes) : Except JsError PreloginPayload :=
  extractOptionsFrom data (data.length + 1) 0 empty

/-- More rounds than there are bytes left make no difference. -/
theorem extractOptionsFrom_add (data : Bytes) {rounds : Nat} (more : Nat) {offset : Nat}
    (h : data.length < rounds + offset) (p : PreloginPayload) :
    extractOptionsFrom data (rounds + more) offset p = extractOptionsFrom data rounds offset p := by
  induction rounds generalizing offset p with
  | zero =>
    cases more with
    | zero => rfl
    | succ more =>
      have hnone : data[offset]? = none := List.getElem?_eq_none (by omega)
      have hread : Buffer.readUInt16BE data (offset + 1) = .error .rangeError := by
        rw [Buffer.readUInt16BE, if_neg (by omega)]
      rw [Nat.zero_add, extractOptionsFrom, extractOptionsFrom, hnone, if_neg (by simp), hread]
      rfl
  | succ rounds ih =>
    rw [Nat.succ_add, extractOptionsFrom, extractOptionsFrom]
    split
    · rfl
    · have hrest : ∀ p, extractOptionsFrom data (rounds + more) (offset + 5) p =
          extractOptionsFrom data rounds (offset + 5) p := fun p => ih (by omega) p
      simp only [hrest]

/-- The round limit of `ofBuffer` is none. -/
theorem ofBuffer_eq (data : Bytes) {rounds : Nat} (h : data.length < rounds) :
    extractOptionsFrom data rounds 0 empty = ofBuffer data := by
  obtain ⟨more, rfl⟩ := Nat.exists_eq_add_of_le (Nat.succ_le_of_lt h)
  exact extractOptionsFrom_add data more (by omega) empty

example : (ofBuffer [0x01, 0x00, 0x06, 0x00, 0x01, 0xFF, 0x03]).map encryptionString =
    .ok (some .REQ) := by decide

end PreloginPayload

end Tedious
