import Tedious.Lib.ScannerSound
import Tedious.Token.Parsers
import Tedious.ValueParser

/-!
# Tedious.Token.StreamParser

The token stream parser (`token/stream-parser.ts`) and the tokens that are read in
several pieces (`colmetadata-token-parser.ts`, `row-token-parser.ts`,
`nbcrow-token-parser.ts`, `returnvalue-token-parser.ts`, `readPLPStream`). Where a
parser of the source retries after `waitForChunk`, its task reads and waits; where
it commits the position, its task goes on to the next read.

The register of the scanner is `parser.colMetadata`.
-/

namespace Tedious

open Chunked

/-- An asynchronous parser of the source. -/
abbrev ParserTask (α : Type) := Task JsError (List ColumnMetadata) α

/-! ### PLP streams -/

def plpNull : Nat := 0xFFFFFFFFFFFFFFFF

def unknownPlpLen : Nat := 0xFFFFFFFFFFFFFFFE

/-- The chunks so far and their total length, a `Number`. -/
abbrev PlpChunks := List Bytes × Nat

/-- One chunk, or the terminator. -/
def readPLPChunk (acc : PlpChunks) : ParserTask (PlpChunks ⊕ PlpChunks) := do
  let chunkLength ← Task.await readUInt32LE
  if chunkLength = 0 then
    pure (.inr acc)
  else do
    let chunk ← Task.await (readSlice chunkLength)
    pure (.inl (acc.1 ++ [chunk], toNumber (acc.2 + chunkLength)))

/-- Compare the announced length with the one of the chunks. -/
def checkPLPLength (expectedLength : Nat) (acc : PlpChunks) : ParserTask (Option (List Bytes)) :=
  if expectedLength ≠ unknownPlpLen ∧ acc.2 ≠ toNumber expectedLength then
    .throw (.error ("Partially Length-prefixed Bytes unmatched lengths : expected " ++
      toString expectedLength ++ ", but got " ++ toString acc.2 ++ " bytes"))
  else
    pure (some acc.1)

def readPLPStream : ParserTask (Option (List Bytes)) := do
  let expectedLength ← Task.await readBigUInt64LE
  if expectedLength = plpNull then
    pure none
  else do
    let acc ← Task.whileTrue ([], 0) readPLPChunk
    checkPLPLength expectedLength acc

/-! ### Values and rows -/

/-- The value of a PLP stream. -/
def plpValue (options : ParserOptions) (metadata : Metadata) : Option (List Bytes) → Value
  | none => .null
  | some chunks =>
    match metadata.type with
    | .NVarChar | .Xml => .string (ucs2 chunks.flatten)
    | .VarChar => .string (decodeChars options.platform
        (metadata.collation.bind Collation.codepage) chunks.flatten)
    | _ => .buffer chunks.flatten

/-- The value of a column or a parameter, as `rowParser`, `nbcRowParser` and
`returnParser` read it. -/
def awaitValue (options : ParserOptions) (metadata : Metadata) : ParserTask Value :=
  if isPLPStream metadata then do
    let chunks ← readPLPStream
    pure (plpValue options metadata chunks)
  else
    Task.await (readValue options metadata)

/-- The columns of a row, the ones marked in the bitmap being `NULL`. -/
def readColumns (options : ParserOptions) : List (ColumnMetadata × Bool) → ParserTask (List Column)
  | [] => pure []
  | (metadata, true) :: rest => do
    let columns ← readColumns options rest
    pure ({ value := .null, metadata } :: columns)
  | (metadata, false) :: rest => do
    let value ← awaitValue options metadata.toMetadata
    let columns ← readColumns options rest
    pure ({ value, metadata } :: columns)

/-- Of several columns with one name, the first is kept. -/
def columnsMap : List Column → List (JsString × Column)
  | [] => []
  | column :: columns =>
    (column.metadata.colName, column) ::
      (columnsMap columns).filter fun c => c.1 ≠ column.metadata.colName

def rowColumns (options : ParserOptions) (columns : List Column) : RowColumns :=
  if options.useColumnNames then .map (columnsMap columns) else .list columns

def rowParser (options : ParserOptions) : ParserTask Token :=
  .get fun colMetadata => do
    let columns ← readColumns options (colMetadata.map fun metadata => (metadata, false))
    pure (.row (rowColumns options columns))

/-- The bits of a byte, the lowest first. -/
def bitmapOfByte (byte : UInt8) : List Bool := (List.range 8).map fun i => byte.toNat.testBit i

def nbcRowParser (options : ParserOptions) : ParserTask Token :=
  .get fun colMetadata => do
    let bytes ← Task.await (readSlice ((colMetadata.length + 7) / 8))
    let bitmap := bytes.flatMap bitmapOfByte
    let columns ← readColumns options (colMetadata.zip bitmap)
    pure (.nbcRow (rowColumns options columns))

/-! ### Return values -/

/-- The ordinal, the name and the type of a return value. -/
def readReturnHeader (options : ParserOptions) : Reader (Nat × JsString × Metadata) := do
  let paramOrdinal ← readUInt16LE
  let paramName ← readBVarChar
  let _status ← readUInt8
  let metadata ← readMetadata options
  pure (paramOrdinal, (match paramName with
    | 0x40 :: name => name
    | name => name), metadata)

def returnParser (options : ParserOptions) : ParserTask Token := do
  let (paramOrdinal, paramName, metadata) ← Task.await (readReturnHeader options)
  let value ← awaitValue options metadata
  pure (.returnValue paramOrdinal paramName metadata value)

/-! ### Column descriptions -/

def readTableName (options : ParserOptions) (metadata : Metadata) :
    Reader (Option (JsString ⊕ List JsString)) :=
  if !metadata.type.hasTableName then
    pure none
  else
    options.select
      (do
        let tableName ← readUsVarChar
        pure (some (.inl tableName)))
      (do
        let numberOfTableNameParts ← readUInt8
        let tableName ← readUsVarChar.times numberOfTableNameParts
        pure (some (.inr tableName)))

/-- `s.replace(/^[A-Z]/, s => s.toLowerCase())`. -/
def camelCase : JsString → JsString
  | c :: s => (if 0x41 ≤ c ∧ c ≤ 0x5A then c + 0x20 else c) :: s
  | [] => []

def readColumnName (options : ParserOptions) (index : Nat) (metadata : Metadata) :
    Reader JsString := do
  let colName ← readBVarChar
  pure (match options.columnNameReplacer with
    | some replacer => replacer colName index metadata
    | none => if options.camelCaseColumns then camelCase colName else colName)

def readColumn (options : ParserOptions) (index : Nat) : Reader ColumnMetadata := do
  let metadata ← readMetadata options
  let tableName ← readTableName options metadata
  let colName ← readColumnName options index metadata
  pure { toMetadata := metadata, colName, tableName }

/-- `n` column descriptions from the given index on. -/
def awaitColumns (options : ParserOptions) :
    (n index : Nat) → ParserTask (List ColumnMetadata)
  | 0, _ => pure []
  | n + 1, index => do
    let column ← Task.await (readColumn options index)
    let columns ← awaitColumns options n (index + 1)
    pure (column :: columns)

def colMetadataParser (options : ParserOptions) : ParserTask (List ColumnMetadata) := do
  let columnCount ← Task.await readUInt16LE
  awaitColumns options columnCount 0

/-! ### The parser -/

def readColMetadataToken (options : ParserOptions) : ParserTask Token := do
  let columns ← colMetadataParser options
  .set columns (pure (.colMetadata columns))

/-- A token that is read in one piece. -/
def readWhole (parser : Reader Token) : ParserTask (Option Token) := do
  let token ← Task.await parser
  pure (some token)

/-- A token that is read in several pieces. -/
def readPieces (parser : ParserTask Token) : ParserTask (Option Token) := do
  let token ← parser
  pure (some token)

def readEnvChangeToken : ParserTask (Option Token) := do
  let change ← Task.await envChangeParser
  pure (change.map .envChange)

def readToken (options : ParserOptions) (type : UInt8) : ParserTask (Option Token) :=
  match TokenType.ofByte type with
  | some .DONE => readWhole (doneParser options)
  | some .DONEPROC => readWhole (doneProcParser options)
  | some .DONEINPROC => readWhole (doneInProcParser options)
  | some .ERROR => readWhole (errorParser options)
  | some .INFO => readWhole (infoParser options)
  | some .ENVCHANGE => readEnvChangeToken
  | some .LOGINACK => readWhole loginAckParser
  | some .RETURNSTATUS => readWhole returnStatusParser
  | some .ORDER => readWhole orderParser
  | some .FEDAUTHINFO => readWhole fedAuthInfoParser
  | some .SSPI => readWhole sspiParser
  | some .COLMETADATA => readPieces (readColMetadataToken options)
  | some .RETURNVALUE => readPieces (returnParser options)
  | some .ROW => readPieces (rowParser options)
  | some .NBCROW => readPieces (nbcRowParser options)
  | some .FEATUREEXTACK => readWhole featureExtAckParser
  | none => .throw (.error s!"Unknown type: {type.toNat}")

/-- The parser as a scanner. -/
def parser (options : ParserOptions) : Scanner JsError (List ColumnMetadata) Token where
  dispatch := readToken options
  outOfRange := .rangeError

/-- `Parser.parseTokens`: the fresh run over the chunks of an iterable. -/
def parseTokens (chunks : List Bytes) (colMetadata : List ColumnMetadata) :
    Run JsError (List ColumnMetadata) Token := Scanner.start chunks colMetadata

/-! ### Soundness -/

theorem readPLPStream_sound : readPLPStream.Sound := by
  refine .bind (.await (Reader.number_steady ..).stable) fun expectedLength => ?_
  split
  · exact .pure _
  · refine .bind (.whileTrue readUInt32LE_steady.stable (fun h => ?_) (fun acc n => ?_) _)
      fun acc => ?_
    · obtain ⟨-, hoff, hle⟩ := Reader.number_ok h
      omega
    · split
      · exact .pure _
      · exact .bind (.await (readSlice_steady n).stable) fun _ => .pure _
    · unfold checkPLPLength
      split
      · exact .throw _
      · exact .pure _

theorem awaitValue_sound (options : ParserOptions) (metadata : Metadata) :
    (awaitValue options metadata).Sound := by
  unfold awaitValue
  split
  · exact .bind readPLPStream_sound fun _ => .pure _
  · exact .await (readValue_stable options metadata)

theorem readColumns_sound (options : ParserOptions) :
    ∀ columns, (readColumns options columns).Sound
  | [] => .pure _
  | (_, true) :: rest => .bind (readColumns_sound options rest) fun _ => .pure _
  | (metadata, false) :: rest =>
    .bind (awaitValue_sound options metadata.toMetadata) fun _ =>
      .bind (readColumns_sound options rest) fun _ => .pure _

theorem rowParser_sound (options : ParserOptions) : (rowParser options).Sound :=
  .get fun _ => .bind (readColumns_sound options _) fun _ => .pure _

theorem nbcRowParser_sound (options : ParserOptions) : (nbcRowParser options).Sound :=
  .get fun _ => .bind (.await (readSlice_steady _).stable) fun _ =>
    .bind (readColumns_sound options _) fun _ => .pure _

theorem readReturnHeader_steady (options : ParserOptions) : Steady (readReturnHeader options) :=
  .bind readUInt16LE_steady fun _ => .bind readBVarChar_steady fun _ =>
    .bind readUInt8_steady fun _ => .bind (readMetadata_steady options) fun _ => .pure _

theorem returnParser_sound (options : ParserOptions) : (returnParser options).Sound :=
  .bind (.await (readReturnHeader_steady options).stable) fun _ =>
    .bind (awaitValue_sound options _) fun _ => .pure _

theorem readTableName_steady (options : ParserOptions) (metadata : Metadata) :
    Steady (readTableName options metadata) := by
  unfold readTableName
  split
  · exact .pure _
  · exact options.select_steady (.bind readUsVarChar_steady fun _ => .pure _)
      (.bind readUInt8_steady fun n => .bind (.times readUsVarChar_steady n) fun _ => .pure _)

theorem readColumn_steady (options : ParserOptions) (index : Nat) :
    Steady (readColumn options index) :=
  .bind (readMetadata_steady options) fun metadata =>
    .bind (readTableName_steady options metadata) fun _ =>
    .bind (.bind readBVarChar_steady fun _ => .pure _) fun _ => .pure _

theorem awaitColumns_sound (options : ParserOptions) :
    ∀ n index, (awaitColumns options n index).Sound
  | 0, _ => .pure _
  | n + 1, index => .bind (.await (readColumn_steady options index).stable) fun _ =>
      .bind (awaitColumns_sound options n (index + 1)) fun _ => .pure _

theorem readColMetadataToken_sound (options : ParserOptions) :
    (readColMetadataToken options).Sound :=
  .bind (.bind (.await readUInt16LE_steady.stable) fun n => awaitColumns_sound options n 0)
    fun columns => .set columns (.pure _)

theorem readWhole_sound {reader : Reader Token} (h : Steady reader) : (readWhole reader).Sound :=
  .bind (.await h.stable) fun _ => .pure _

theorem readPieces_sound {task : ParserTask Token} (h : task.Sound) : (readPieces task).Sound :=
  .bind h fun _ => .pure _

/-- Whatever token the parser is in, its reads are stable and its loops consume. -/
theorem readToken_sound (options : ParserOptions) (type : UInt8) :
    (readToken options type).Sound := by
  unfold readToken
  cases TokenType.ofByte type with
  | none => exact .throw _
  | some type =>
    cases type with
    | DONE => exact readWhole_sound (doneParser_steady options)
    | DONEPROC => exact readWhole_sound (doneProcParser_steady options)
    | DONEINPROC => exact readWhole_sound (doneInProcParser_steady options)
    | ERROR => exact readWhole_sound (errorParser_steady options)
    | INFO => exact readWhole_sound (infoParser_steady options)
    | ENVCHANGE => exact .bind (.await envChangeParser_stable) fun _ => .pure _
    | LOGINACK => exact readWhole_sound loginAckParser_steady
    | RETURNSTATUS => exact readWhole_sound returnStatusParser_steady
    | ORDER => exact readWhole_sound orderParser_steady
    | FEDAUTHINFO => exact readWhole_sound fedAuthInfoParser_steady
    | SSPI => exact readWhole_sound sspiParser_steady
    | FEATUREEXTACK => exact readWhole_sound featureExtAckParser_steady
    | COLMETADATA => exact readPieces_sound (readColMetadataToken_sound options)
    | RETURNVALUE => exact readPieces_sound (returnParser_sound options)
    | ROW => exact readPieces_sound (rowParser_sound options)
    | NBCROW => exact readPieces_sound (nbcRowParser_sound options)

end Tedious
