import Tedious.Token.Token

/-!
# Tedious.Token.Parsers

The parsers of the tokens that are read in one piece: the whole token is parsed
again from its first byte whenever the buffer held too little of it
(`done-token-parser.ts`, `env-change-token-parser.ts`, `infoerror-token-parser.ts`,
`fedauth-info-parser.ts`, `feature-ext-ack-parser.ts`, `loginack-token-parser.ts`,
`order-token-parser.ts`, `returnstatus-token-parser.ts`, `sspi-token-parser.ts`).
-/

namespace Tedious

open Chunked

/-! ### DONE, DONEINPROC, DONEPROC -/

namespace DoneStatus

def MORE : Nat := 0x0001
def ERROR : Nat := 0x0002
def COUNT : Nat := 0x0010
def ATTN : Nat := 0x0020
def SRVERROR : Nat := 0x0100

end DoneStatus

def readDoneData (options : ParserOptions) : Reader DoneData := do
  let status ← readUInt16LE
  let curCmd ← readUInt16LE
  let rowCount ← options.select readUInt32LE readBigUInt64LE
  pure
    { more := status &&& DoneStatus.MORE ≠ 0
      sqlError := status &&& DoneStatus.ERROR ≠ 0
      attention := status &&& DoneStatus.ATTN ≠ 0
      serverError := status &&& DoneStatus.SRVERROR ≠ 0
      rowCount := if status &&& DoneStatus.COUNT ≠ 0 then some (toNumber rowCount) else none
      curCmd := curCmd }

def doneParser (options : ParserOptions) : Reader Token := do
  let data ← readDoneData options
  pure (.done data)

def doneInProcParser (options : ParserOptions) : Reader Token := do
  let data ← readDoneData options
  pure (.doneInProc data)

def doneProcParser (options : ParserOptions) : Reader Token := do
  let data ← readDoneData options
  pure (.doneProc data)

/-! ### ENVCHANGE -/

/-- The names of the change types. -/
inductive EnvChangeType
  | DATABASE | LANGUAGE | CHARSET | PACKET_SIZE | SQL_COLLATION | BEGIN_TXN | COMMIT_TXN
  | ROLLBACK_TXN | DATABASE_MIRRORING_PARTNER | TXN_ENDED | RESET_CONNECTION | ROUTING_CHANGE
  deriving DecidableEq, Repr

/-- `types`. -/
def EnvChangeType.ofNumber : Nat → Option EnvChangeType
  | 1 => some .DATABASE
  | 2 => some .LANGUAGE
  | 3 => some .CHARSET
  | 4 => some .PACKET_SIZE
  | 7 => some .SQL_COLLATION
  | 8 => some .BEGIN_TXN
  | 9 => some .COMMIT_TXN
  | 10 => some .ROLLBACK_TXN
  | 13 => some .DATABASE_MIRRORING_PARTNER
  | 17 => some .TXN_ENDED
  | 18 => some .RESET_CONNECTION
  | 20 => some .ROUTING_CHANGE
  | _ => none

/-- Two strings, the new one first. -/
def readStringChange (change : JsString → JsString → EnvChange) : Reader (Option EnvChange) := do
  let newValue ← readBVarChar
  let oldValue ← readBVarChar
  pure (some (change newValue oldValue))

/-- Two buffers, the new one first. -/
def readBufferChange (change : Bytes → Bytes → EnvChange) : Reader (Option EnvChange) := do
  let newValue ← readBVarByte
  let oldValue ← readBVarByte
  pure (some (change newValue oldValue))

/-- A collation, when there are any bytes of it. -/
def collationOf (value : Bytes) : Option Collation :=
  if value.length ≠ 0 then some (Collation.fromBuffer value) else none

/-- The unsigned integer of `n` bytes of a buffer; the `Buffer` method throws when
they are not all there. -/
def bufferUInt (buffer : Bytes) (offset n : Nat) : Except JsError Nat :=
  if offset + n ≤ buffer.length then .ok (leNat ((buffer.drop offset).take n))
  else .error .rangeError

/-- The protocol, the port and the server name of a route packet. -/
def parseRoutePacket (routePacket : Bytes) : Except JsError (Nat × Nat × JsString) := do
  let protocol ← bufferUInt routePacket 0 1
  if protocol ≠ 0 then
    throw (.error "Unknown protocol byte in routing change event")
  let port ← bufferUInt routePacket 1 2
  let serverLen ← bufferUInt routePacket 3 2
  pure (protocol, port, toUcs2 routePacket 5 (5 + serverLen * 2))

/-- Go on with a result that does not depend on the buffer. -/
def Reader.ofExcept : Except JsError α → Reader α
  | .ok a => pure a
  | .error e => .fail e

def readRoutingChange : Reader (Option EnvChange) := do
  let routePacket ← readUsVarByte
  let oldValue ← readUsVarByte
  let (protocol, port, server) ← Reader.ofExcept (parseRoutePacket routePacket)
  pure (some (.routing protocol port server oldValue))

/-- Step over the rest of a change that is not decoded: `length` counts the type
byte, which was read already. -/
def skipChange (length : Nat) : Reader (Option EnvChange) := do
  OffsetReader.skip ((length : Int) - 1)
  pure none

def readNewAndOldValue (length : Nat) : EnvChangeType → Reader (Option EnvChange)
  | .PACKET_SIZE => readStringChange fun new old => .packetSize (parseInt new) (parseInt old)
  | .DATABASE => readStringChange .database
  | .LANGUAGE => readStringChange .language
  | .CHARSET => readStringChange .charset
  | .DATABASE_MIRRORING_PARTNER => readStringChange .databaseMirroringPartner
  | .SQL_COLLATION =>
    readBufferChange fun new old => .sqlCollation (collationOf new) (collationOf old)
  | .BEGIN_TXN => readBufferChange .beginTransaction
  | .COMMIT_TXN => readBufferChange .commitTransaction
  | .ROLLBACK_TXN => readBufferChange .rollbackTransaction
  | .RESET_CONNECTION => readBufferChange .resetConnection
  | .ROUTING_CHANGE => readRoutingChange
  | .TXN_ENDED => skipChange length

def envChangeParser : Reader (Option EnvChange) := do
  let tokenLength ← readUInt16LE
  OffsetReader.ensure tokenLength
  let typeNumber ← readUInt8
  match EnvChangeType.ofNumber typeNumber with
  | none => skipChange tokenLength
  | some type => readNewAndOldValue tokenLength type

/-! ### ERROR, INFO -/

def readMessageData (options : ParserOptions) : Reader MessageData := do
  let tokenLength ← readUInt16LE
  OffsetReader.ensure tokenLength
  let number ← readUInt32LE
  let state ← readUInt8
  let class' ← readUInt8
  let message ← readUsVarChar
  let serverName ← readBVarChar
  let procName ← readBVarChar
  let lineNumber ← options.select readUInt16LE readUInt32LE
  pure { number, state, class', message, serverName, procName, lineNumber }

def infoParser (options : ParserOptions) : Reader Token := do
  let data ← readMessageData options
  pure (.infoMessage data)

def errorParser (options : ParserOptions) : Reader Token := do
  let data ← readMessageData options
  pure (.errorMessage data)

/-! ### FEDAUTHINFO -/

/-- Read `n` info entries from `offset` on, keeping the last of each kind. -/
def readFedAuthInfoEntries (data : Bytes) :
    (n offset : Nat) → (spn stsurl : Option JsString) →
    Except JsError (Option JsString × Option JsString)
  | 0, _, spn, stsurl => .ok (spn, stsurl)
  | n + 1, offset, spn, stsurl => do
    let fedauthInfoID ← bufferUInt data offset 1
    let fedAuthInfoDataLen ← bufferUInt data (offset + 1) 4
    let fedAuthInfoDataOffset ← bufferUInt data (offset + 5) 4
    let text := toUcs2 data fedAuthInfoDataOffset (fedAuthInfoDataOffset + fedAuthInfoDataLen)
    match fedauthInfoID with
    | 0x02 => readFedAuthInfoEntries data n (offset + 9) (some text) stsurl
    | 0x01 => readFedAuthInfoEntries data n (offset + 9) spn (some text)
    | _ => readFedAuthInfoEntries data n (offset + 9) spn stsurl

/-- `spn` and `stsurl`. -/
def readFedAuthInfo (data : Bytes) : Except JsError (Option JsString × Option JsString) := do
  let countOfInfoIDs ← bufferUInt data 0 4
  readFedAuthInfoEntries data countOfInfoIDs 4 none none

def fedAuthInfoParser : Reader Token := do
  let tokenLength ← readUInt32LE
  let data ← readSlice tokenLength
  let (spn, stsurl) ← Reader.ofExcept (readFedAuthInfo data)
  pure (.fedAuthInfo spn stsurl)

/-! ### FEATUREEXTACK -/

namespace FeatureId

def FEDAUTH : Nat := 0x02
def UTF8_SUPPORT : Nat := 0x0A
def TERMINATOR : Nat := 0xFF

end FeatureId

/-- The acknowledgements so far: `fedAuth` and `utf8Support`. -/
abbrev FeatureAcks := Option Bytes × Option Bool

/-- What follows the identifier of a feature: the data of its acknowledgement, or
nothing behind the terminator. -/
def readFeatureData (acks : FeatureAcks) (featureId : Nat) :
    Reader (FeatureAcks ⊕ FeatureAcks) :=
  if featureId = FeatureId.TERMINATOR then
    pure (.inr acks)
  else do
    let featureAckDataLen ← readUInt32LE
    let featureData ← readSlice featureAckDataLen
    pure (.inl
      (if featureId = FeatureId.FEDAUTH then (some featureData, acks.2)
      else if featureId = FeatureId.UTF8_SUPPORT then
        (acks.1, some (Collation.byteAt featureData 0 ≠ 0))
      else acks))

def readFeatureAck (acks : FeatureAcks) : Reader (FeatureAcks ⊕ FeatureAcks) := do
  let featureId ← readUInt8
  readFeatureData acks featureId

def featureExtAckParser : Reader Token := do
  let (fedAuth, utf8Support) ← OffsetReader.loop readFeatureAck (none, none)
  pure (.featureExtAck fedAuth utf8Support)

/-! ### LOGINACK -/

/-- `interfaceTypes`. -/
def interfaceType : Nat → Option String
  | 0 => some "SQL_DFLT"
  | 1 => some "SQL_TSQL"
  | _ => none

/-- `versionsByValue`. -/
def versionByValue : Nat → Option String
  | 0x71000001 => some "7_1"
  | 0x72090002 => some "7_2"
  | 0x730A0003 => some "7_3_A"
  | 0x730B0003 => some "7_3_B"
  | 0x74000004 => some "7_4"
  | 0x08000000 => some "8_0"
  | _ => none

def loginAckParser : Reader Token := do
  let tokenLength ← readUInt16LE
  OffsetReader.ensure tokenLength
  let interfaceNumber ← readUInt8
  let tdsVersionNumber ← readUInt32BE
  let progName ← readBVarChar
  let major ← readUInt8
  let minor ← readUInt8
  let buildNumHi ← readUInt8
  let buildNumLow ← readUInt8
  pure (.loginAck
    { interface := interfaceType interfaceNumber
      tdsVersion := versionByValue tdsVersionNumber
      progName, major, minor, buildNumHi, buildNumLow })

/-! ### ORDER, RETURNSTATUS -/

/-- An odd length makes room for one column more. -/
def orderParser : Reader Token := do
  let tokenLength ← readUInt16LE
  OffsetReader.ensure tokenLength
  let orderColumns ← readUInt16LE.times ((tokenLength + 1) / 2)
  pure (.order orderColumns)

def returnStatusParser : Reader Token := do
  let value ← readInt32LE
  pure (.returnStatus value)

/-! ### SSPI -/

/-- The signed integer of `n` bytes of a buffer. -/
def bufferInt (buffer : Bytes) (offset n : Nat) : Except JsError Int :=
  if offset + n ≤ buffer.length then .ok (leInt ((buffer.drop offset).take n))
  else .error .rangeError

def parseChallenge (buffer : Bytes) : Except JsError Challenge := do
  let type ← bufferInt buffer 8 4
  let domainLen ← bufferInt buffer 12 2
  let domainMax ← bufferInt buffer 14 2
  let domainOffset ← bufferInt buffer 16 4
  let flags ← bufferInt buffer 20 4
  let targetLen ← bufferInt buffer 40 2
  let targetMax ← bufferInt buffer 42 2
  let targetOffset ← bufferInt buffer 44 4
  pure
    { magic := utf8 (Bytes.slice buffer 0 8)
      type, domainLen, domainMax, domainOffset, flags
      nonce := Bytes.slice buffer 24 32
      zeroes := Bytes.slice buffer 32 40
      targetLen, targetMax, targetOffset
      oddData := Bytes.slice buffer 48 56
      domain := ucs2 (Bytes.slice buffer 56 (56 + domainLen))
      target := Bytes.slice buffer (56 + domainLen) (56 + domainLen + targetLen) }

def sspiParser : Reader Token := do
  let tokenLength ← readUInt16LE
  let data ← readSlice tokenLength
  let challenge ← Reader.ofExcept (parseChallenge data)
  pure (.sspi challenge data)

/-! ### Stability -/

theorem Reader.ofExcept_steady (x : Except JsError α) : Steady (Reader.ofExcept x) := by
  cases x with
  | ok a => exact .pure a
  | error e => exact .fail e

theorem readDoneData_steady (options : ParserOptions) : Steady (readDoneData options) :=
  .bind readUInt16LE_steady fun _ => .bind readUInt16LE_steady fun _ =>
    .bind (options.select_steady readUInt32LE_steady (Reader.number_steady ..)) fun _ => .pure _

theorem doneParser_steady (options : ParserOptions) : Steady (doneParser options) :=
  .bind (readDoneData_steady options) fun _ => .pure _

theorem doneInProcParser_steady (options : ParserOptions) : Steady (doneInProcParser options) :=
  .bind (readDoneData_steady options) fun _ => .pure _

theorem doneProcParser_steady (options : ParserOptions) : Steady (doneProcParser options) :=
  .bind (readDoneData_steady options) fun _ => .pure _

theorem readStringChange_steady (change : JsString → JsString → EnvChange) :
    Steady (readStringChange change) :=
  .bind readBVarChar_steady fun _ => .bind readBVarChar_steady fun _ => .pure _

theorem readBufferChange_steady (change : Bytes → Bytes → EnvChange) :
    Steady (readBufferChange change) :=
  .bind readBVarByte_steady fun _ => .bind readBVarByte_steady fun _ => .pure _

theorem readRoutingChange_steady : Steady readRoutingChange :=
  .bind readUsVarByte_steady fun _ => .bind readUsVarByte_steady fun _ =>
    .bind (Reader.ofExcept_steady _) fun _ => .pure _

/-- Stepping over the rest of a change relies on the length check made before. -/
theorem skipChange_stable (length : Nat) : StableFrom ((length : Int) - 1) (skipChange length) :=
  (StableFrom.skip _).map _

theorem readNewAndOldValue_stable (length : Nat) (type : EnvChangeType) :
    StableFrom ((length : Int) - 1) (readNewAndOldValue length type) := by
  cases type with
  | TXN_ENDED => exact skipChange_stable length
  | ROUTING_CHANGE => exact readRoutingChange_steady.stable.anyRoom _
  | SQL_COLLATION | BEGIN_TXN | COMMIT_TXN | ROLLBACK_TXN | RESET_CONNECTION =>
    exact (readBufferChange_steady _).stable.anyRoom _
  | _ => exact (readStringChange_steady _).stable.anyRoom _

theorem envChangeParser_stable : Stable envChangeParser := by
  refine readUInt16LE_steady.stable_bind fun tokenLength => .ensure_bind ?_
  refine .bind_exact readUInt8_steady.stable (fun h => (Reader.number_ok h).2.1) fun typeNumber => ?_
  cases EnvChangeType.ofNumber typeNumber with
  | none => exact skipChange_stable tokenLength
  | some type => exact readNewAndOldValue_stable tokenLength type

theorem readMessageData_steady (options : ParserOptions) : Steady (readMessageData options) :=
  .bind readUInt16LE_steady fun _ => .bind (.ensure _) fun _ => .bind readUInt32LE_steady fun _ =>
    .bind readUInt8_steady fun _ => .bind readUInt8_steady fun _ =>
    .bind readUsVarChar_steady fun _ => .bind readBVarChar_steady fun _ =>
    .bind readBVarChar_steady fun _ =>
    .bind (options.select_steady readUInt16LE_steady readUInt32LE_steady) fun _ => .pure _

theorem infoParser_steady (options : ParserOptions) : Steady (infoParser options) :=
  .bind (readMessageData_steady options) fun _ => .pure _

theorem errorParser_steady (options : ParserOptions) : Steady (errorParser options) :=
  .bind (readMessageData_steady options) fun _ => .pure _

theorem fedAuthInfoParser_steady : Steady fedAuthInfoParser :=
  .bind readUInt32LE_steady fun _ => .bind (readSlice_steady _) fun _ =>
    .bind (Reader.ofExcept_steady _) fun _ => .pure _

theorem readFeatureData_steady (acks : FeatureAcks) (featureId : Nat) :
    Steady (readFeatureData acks featureId) := by
  unfold readFeatureData
  split
  · exact .pure _
  · exact .bind readUInt32LE_steady fun _ => .bind (readSlice_steady _) fun _ => .pure _

theorem featureExtAckParser_steady : Steady featureExtAckParser := by
  have hround : ∀ acks, Steady (readFeatureAck acks) := fun acks =>
    .bind readUInt8_steady fun featureId => readFeatureData_steady acks featureId
  have hprogress : Progress readFeatureAck := Reader.progress (by decide) readFeatureData_steady
  exact .bind (.loop hround hprogress _) fun _ => .pure _

theorem loginAckParser_steady : Steady loginAckParser :=
  .bind readUInt16LE_steady fun _ => .bind (.ensure _) fun _ => .bind readUInt8_steady fun _ =>
    .bind (Reader.number_steady ..) fun _ => .bind readBVarChar_steady fun _ =>
    .bind readUInt8_steady fun _ => .bind readUInt8_steady fun _ => .bind readUInt8_steady fun _ =>
    .bind readUInt8_steady fun _ => .pure _

theorem orderParser_steady : Steady orderParser :=
  .bind readUInt16LE_steady fun _ => .bind (.ensure _) fun _ =>
    .bind (.times readUInt16LE_steady _) fun _ => .pure _

theorem returnStatusParser_steady : Steady returnStatusParser :=
  .bind readInt32LE_steady fun _ => .pure _

theorem sspiParser_steady : Steady sspiParser :=
  .bind readUInt16LE_steady fun _ => .bind (readSlice_steady _) fun _ =>
    .bind (Reader.ofExcept_steady _) fun _ => .pure _

end Tedious
