import Tedious.Metadata

/-!
# Tedious.Token.Token

The tokens of a response (`token/token.ts`), with the data they carry.
-/

namespace Tedious

open Chunked

/-- `TYPE`: the byte every token begins with. -/
inductive TokenType
  | COLMETADATA | DONE | DONEPROC | DONEINPROC | ENVCHANGE | ERROR | FEATUREEXTACK
  | FEDAUTHINFO | INFO | LOGINACK | NBCROW | ORDER | RETURNSTATUS | RETURNVALUE | ROW | SSPI
  deriving DecidableEq, Repr

/-- The token type of a byte; `ALTMETADATA`, `ALTROW`, `COLINFO`, `OFFSET` and `TABNAME`
have a byte as well, but no parser. -/
def TokenType.ofByte : UInt8 → Option TokenType
  | 0x79 => some .RETURNSTATUS
  | 0x81 => some .COLMETADATA
  | 0xA9 => some .ORDER
  | 0xAA => some .ERROR
  | 0xAB => some .INFO
  | 0xAC => some .RETURNVALUE
  | 0xAD => some .LOGINACK
  | 0xAE => some .FEATUREEXTACK
  | 0xD1 => some .ROW
  | 0xD2 => some .NBCROW
  | 0xE3 => some .ENVCHANGE
  | 0xED => some .SSPI
  | 0xEE => some .FEDAUTHINFO
  | 0xFD => some .DONE
  | 0xFE => some .DONEPROC
  | 0xFF => some .DONEINPROC
  | _ => none

/-! ### Columns and rows -/

/-- A column description; `tableName` is one name before TDS 7.2, its parts since. -/
structure ColumnMetadata extends Metadata where
  colName : JsString
  tableName : Option (JsString ⊕ List JsString)
  deriving DecidableEq, Repr

structure Column where
  value : Value
  metadata : ColumnMetadata
  deriving DecidableEq, Repr

/-- The columns of a row: a list, or under `useColumnNames` a map from their names. -/
inductive RowColumns
  | list (columns : List Column)
  | map (columns : List (JsString × Column))
  deriving DecidableEq, Repr

/-! ### Token data -/

/-- The data of `DONE`, `DONEINPROC` and `DONEPROC`. -/
structure DoneData where
  more : Bool
  sqlError : Bool
  attention : Bool
  serverError : Bool
  rowCount : Option Nat
  curCmd : Nat
  deriving DecidableEq, Repr

/-- The data of `ERROR` and `INFO`. -/
structure MessageData where
  number : Nat
  state : Nat
  class' : Nat
  message : JsString
  serverName : JsString
  procName : JsString
  lineNumber : Nat
  deriving DecidableEq, Repr

/-- The data of `ENVCHANGE`, as the new and the old value. -/
inductive EnvChange
  | database (newValue oldValue : JsString)
  | language (newValue oldValue : JsString)
  | charset (newValue oldValue : JsString)
  | packetSize (newValue oldValue : Option Int)
  | beginTransaction (newValue oldValue : Bytes)
  | commitTransaction (newValue oldValue : Bytes)
  | rollbackTransaction (newValue oldValue : Bytes)
  | databaseMirroringPartner (newValue oldValue : JsString)
  | resetConnection (newValue oldValue : Bytes)
  | sqlCollation (newValue oldValue : Option Collation)
  | routing (protocol port : Nat) (server : JsString) (oldValue : Bytes)
  deriving DecidableEq, Repr

/-- The data of `LOGINACK`; the interface and the version are missing when their
numbers are unknown. -/
structure LoginAck where
  interface : Option String
  tdsVersion : Option String
  progName : JsString
  major : Nat
  minor : Nat
  buildNumHi : Nat
  buildNumLow : Nat
  deriving DecidableEq, Repr

/-- An NTLM challenge. -/
structure Challenge where
  magic : JsString
  type : Int
  domainLen : Int
  domainMax : Int
  domainOffset : Int
  flags : Int
  nonce : Bytes
  zeroes : Bytes
  targetLen : Int
  targetMax : Int
  targetOffset : Int
  oddData : Bytes
  domain : JsString
  target : Bytes
  deriving DecidableEq, Repr

inductive Token
  | colMetadata (columns : List ColumnMetadata)
  | done (data : DoneData)
  | doneInProc (data : DoneData)
  | doneProc (data : DoneData)
  | envChange (change : EnvChange)
  | errorMessage (data : MessageData)
  | infoMessage (data : MessageData)
  | featureExtAck (fedAuth : Option Bytes) (utf8Support : Option Bool)
  | fedAuthInfo (spn stsurl : Option JsString)
  | loginAck (ack : LoginAck)
  | nbcRow (columns : RowColumns)
  | order (orderColumns : List Nat)
  | returnStatus (value : Int)
  | returnValue (paramOrdinal : Nat) (paramName : JsString) (metadata : Metadata) (value : Value)
  | row (columns : RowColumns)
  | sspi (ntlmpacket : Challenge) (ntlmpacketBuffer : Bytes)
  deriving DecidableEq, Repr

end Tedious
