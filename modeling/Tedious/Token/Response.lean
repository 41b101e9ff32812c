import Tedious.Token.Cells
import Tedious.Token.Encoding

/-!
# Tedious.Token.Response

A response as a server means it: descriptions of columns, rows of either kind, return values,
the messages and changes of `Token/Encoding`, the challenge of an NTLM login, and the tokens that
end a statement. The descriptions stand until the next ones; a row has a cell for each of them.

`response_arrives`: over any chunks of its bytes the parser yields exactly the tokens of the
response, in order, each with the values that were meant.
-/

namespace Tedious

open Chunked

/-! ### DONE -/

namespace DoneData

/-- The bits of the status. -/
def statusOf (more sqlError counted attention serverError : Bool) : Nat :=
  (if more then DoneStatus.MORE else 0) + (if sqlError then DoneStatus.ERROR else 0) +
    (if counted then DoneStatus.COUNT else 0) + (if attention then DoneStatus.ATTN else 0) +
    (if serverError then DoneStatus.SRVERROR else 0)

def status (d : DoneData) : Nat :=
  statusOf d.more d.sqlError d.rowCount.isSome d.attention d.serverError

/-- The bytes of a row count. -/
def countWidth (options : ParserOptions) : Nat := if options.before72 then 4 else 8

def bytes (options : ParserOptions) (d : DoneData) : Bytes :=
  leBytes 2 d.status ++ (leBytes 2 d.curCmd ++ leBytes (countWidth options) (d.rowCount.getD 0))

/-- A row count is read as a `Number`. -/
structure Fits (options : ParserOptions) (d : DoneData) : Prop where
  curCmd : d.curCmd < 65536
  width : d.rowCount.getD 0 < 256 ^ countWidth options
  rowCount : d.rowCount.getD 0 ≤ 2 ^ 53

/-- Every bit is read back. -/
theorem statusOf_bits : ∀ more sqlError counted attention serverError : Bool,
    let status := statusOf more sqlError counted attention serverError
    status < 65536 ∧ decide (status &&& DoneStatus.MORE ≠ 0) = more ∧
      decide (status &&& DoneStatus.ERROR ≠ 0) = sqlError ∧
      decide (status &&& DoneStatus.ATTN ≠ 0) = attention ∧
      decide (status &&& DoneStatus.SRVERROR ≠ 0) = serverError ∧
      decide (status &&& DoneStatus.COUNT ≠ 0) = counted := by
  decide

theorem readCount_reads {options : ParserOptions} {n : Nat} (h : n < 256 ^ countWidth options) :
    Reads (options.select readUInt32LE readBigUInt64LE) (leBytes (countWidth options) n) n := by
  rw [countWidth] at h ⊢
  rw [ParserOptions.select]
  cases hbefore : options.before72 with
  | true =>
    rw [hbefore] at h
    exact Reader.number_le h
  | false =>
    rw [hbefore] at h
    exact Reader.number_le h

theorem reads {options : ParserOptions} {d : DoneData} (h : d.Fits options) :
    Reads (readDoneData options) (d.bytes options) d := by
  obtain ⟨hstatus, hmore, herror, hattention, hserver, hcount⟩ :=
    statusOf_bits d.more d.sqlError d.rowCount.isSome d.attention d.serverError
  have hdata : Reads (readDoneData options) (d.bytes options) _ :=
    (readUInt16LE_reads hstatus).bind ((readUInt16LE_reads h.curCmd).bind
      ((readCount_reads h.width).map _))
  rw [hmore, herror, hattention, hserver, toNumber_of_le h.rowCount] at hdata
  have hrowCount : (if d.status &&& DoneStatus.COUNT ≠ 0 then some (d.rowCount.getD 0)
      else none) = d.rowCount := by
    have hcounted : decide (d.status &&& DoneStatus.COUNT ≠ 0) = d.rowCount.isSome := hcount
    cases hsome : d.rowCount with
    | none =>
      rw [hsome] at hcounted
      exact if_neg (of_decide_eq_false hcounted)
    | some n =>
      rw [hsome] at hcounted
      exact if_pos (of_decide_eq_true hcounted)
  rw [← status, hrowCount] at hdata
  exact hdata

end DoneData

/-! ### SSPI -/

/-- Eight bytes of a challenge. -/
abbrev EightBytes := { bytes : Bytes // bytes.length = 8 }

/-- The challenge of a login by NTLM: the domain and the target are behind the fields, and their
lengths among them. -/
structure WireChallenge where
  magic : EightBytes
  type : Signed 4
  domainMax : Signed 2
  domainOffset : Signed 4
  flags : Signed 4
  nonce : EightBytes
  zeroes : EightBytes
  targetMax : Signed 2
  targetOffset : Signed 4
  oddData : EightBytes
  domain : JsString
  target : Bytes

namespace WireChallenge

def fields (c : WireChallenge) : List Bytes :=
  [c.magic.val, leIntBytes 4 c.type.val, leIntBytes 2 (2 * c.domain.length : Nat),
    leIntBytes 2 c.domainMax.val, leIntBytes 4 c.domainOffset.val, leIntBytes 4 c.flags.val,
    c.nonce.val, c.zeroes.val, leIntBytes 2 c.target.length, leIntBytes 2 c.targetMax.val,
    leIntBytes 4 c.targetOffset.val, c.oddData.val, ucs2Bytes c.domain, c.target]

def bytes (c : WireChallenge) : Bytes := usVarByte c.fields.flatten

/-- The lengths of the domain and of the target are signed. -/
structure Fits (c : WireChallenge) : Prop where
  domain : FitsInt 2 (2 * c.domain.length : Nat)
  target : FitsInt 2 c.target.length
  length : c.fields.flatten.length < 65536

def challenge (c : WireChallenge) : Challenge where
  magic := utf8 c.magic.val
  type := c.type.val
  domainLen := (2 * c.domain.length : Nat)
  domainMax := c.domainMax.val
  domainOffset := c.domainOffset.val
  flags := c.flags.val
  nonce := c.nonce.val
  zeroes := c.zeroes.val
  targetLen := c.target.length
  targetMax := c.targetMax.val
  targetOffset := c.targetOffset.val
  oddData := c.oddData.val
  domain := c.domain
  target := c.target

end WireChallenge

/-- An integer behind the fields in front of it. -/
theorem bufferInt_flatten (pre post : List Bytes) {k offset : Nat} {n : Int}
    (hoffset : pre.flatten.length = offset) (h : FitsInt k n) :
    bufferInt (pre ++ leIntBytes k n :: post).flatten offset k = .ok n := by
  have hlength : offset + k ≤ (pre ++ leIntBytes k n :: post).flatten.length := by
    rw [List.flatten_append, List.flatten_cons, List.length_append, List.length_append,
      length_leIntBytes]
    omega
  have hwindow : ((pre ++ leIntBytes k n :: post).flatten.drop offset).take k = leIntBytes k n := by
    rw [List.flatten_append, List.flatten_cons, List.drop_left' hoffset,
      List.take_left' (length_leIntBytes k n)]
  rw [bufferInt, if_pos hlength, hwindow, leInt_leIntBytes h]

/-- A slice behind the fields in front of it. -/
theorem slice_flatten (pre post : List Bytes) {field : Bytes} {start stop : Int}
    (hstart : start = pre.flatten.length) (hstop : stop = start + field.length) :
    Bytes.slice (pre ++ field :: post).flatten start stop = field := by
  have hbytes : (pre ++ field :: post).flatten = pre.flatten ++ field ++ post.flatten := by
    rw [List.flatten_append, List.flatten_cons, List.append_assoc]
  have hwindow :=
    slice_windowed pre.flatten field post.flatten 0 field.length (Nat.zero_le _) le_rfl
  have hwhole := Bytes.slice_to_end field (i := 0) le_rfl (Int.natCast_nonneg _)
  rw [hstop, hstart, hbytes]
  rw [Nat.cast_zero, Int.add_zero, hwhole] at hwindow
  exact hwindow

namespace WireChallenge

theorem parseChallenge_fields {c : WireChallenge} (h : c.Fits) :
    parseChallenge c.fields.flatten = .ok c.challenge := by
  have hmagic := c.magic.property
  have hnonce := c.nonce.property
  have hzeroes := c.zeroes.property
  have hodd := c.oddData.property
  have htype : bufferInt c.fields.flatten 8 4 = .ok c.type.val :=
    bufferInt_flatten (c.fields.take 1) (c.fields.drop 2) (by simp [fields, hmagic]) c.type.property
  have hdomainLen : bufferInt c.fields.flatten 12 2 = .ok (2 * c.domain.length : Nat) :=
    bufferInt_flatten (c.fields.take 2) (c.fields.drop 3) (by simp [fields, hmagic]) h.domain
  have hdomainMax : bufferInt c.fields.flatten 14 2 = .ok c.domainMax.val :=
    bufferInt_flatten (c.fields.take 3) (c.fields.drop 4) (by simp [fields, hmagic])
      c.domainMax.property
  have hdomainOffset : bufferInt c.fields.flatten 16 4 = .ok c.domainOffset.val :=
    bufferInt_flatten (c.fields.take 4) (c.fields.drop 5) (by simp [fields, hmagic])
      c.domainOffset.property
  have hflags : bufferInt c.fields.flatten 20 4 = .ok c.flags.val :=
    bufferInt_flatten (c.fields.take 5) (c.fields.drop 6) (by simp [fields, hmagic])
      c.flags.property
  have htargetLen : bufferInt c.fields.flatten 40 2 = .ok c.target.length :=
    bufferInt_flatten (c.fields.take 8) (c.fields.drop 9)
      (by simp [fields, hmagic, hnonce, hzeroes]) h.target
  have htargetMax : bufferInt c.fields.flatten 42 2 = .ok c.targetMax.val :=
    bufferInt_flatten (c.fields.take 9) (c.fields.drop 10)
      (by simp [fields, hmagic, hnonce, hzeroes]) c.targetMax.property
  have htargetOffset : bufferInt c.fields.flatten 44 4 = .ok c.targetOffset.val :=
    bufferInt_flatten (c.fields.take 10) (c.fields.drop 11)
      (by simp [fields, hmagic, hnonce, hzeroes]) c.targetOffset.property
  have hslices : Bytes.slice c.fields.flatten 0 8 = c.magic.val ∧
      Bytes.slice c.fields.flatten 24 32 = c.nonce.val ∧
      Bytes.slice c.fields.flatten 32 40 = c.zeroes.val ∧
      Bytes.slice c.fields.flatten 48 56 = c.oddData.val :=
    ⟨slice_flatten [] (c.fields.drop 1) rfl (by rw [hmagic]; rfl),
      slice_flatten (c.fields.take 6) (c.fields.drop 7) (by simp [fields, hmagic])
        (by rw [hnonce]; rfl),
      slice_flatten (c.fields.take 7) (c.fields.drop 8) (by simp [fields, hmagic, hnonce])
        (by rw [hzeroes]; rfl),
      slice_flatten (c.fields.take 11) (c.fields.drop 12)
        (by simp [fields, hmagic, hnonce, hzeroes]) (by rw [hodd]; rfl)⟩
  have hdomain : Bytes.slice c.fields.flatten 56 (56 + (2 * c.domain.length : Nat)) =
      ucs2Bytes c.domain :=
    slice_flatten (c.fields.take 12) (c.fields.drop 13)
      (by simp [fields, hmagic, hnonce, hzeroes, hodd]) (by rw [length_ucs2Bytes])
  have htarget : Bytes.slice c.fields.flatten (56 + (2 * c.domain.length : Nat))
      (56 + (2 * c.domain.length : Nat) + c.target.length) = c.target :=
    slice_flatten (c.fields.take 13) []
      (by simp [fields, hmagic, hnonce, hzeroes, hodd]; omega) rfl
  obtain ⟨hmagicField, hnonceField, hzeroesField, hoddField⟩ := hslices
  simp only [parseChallenge, bind, Except.bind, htype, hdomainLen, hdomainMax, hdomainOffset,
    hflags, htargetLen, htargetMax, htargetOffset, hmagicField, hnonceField, hzeroesField,
    hoddField, hdomain, htarget, ucs2_ucs2Bytes]
  rfl

theorem sspiParser_reads {c : WireChallenge} (h : c.Fits) :
    Reads sspiParser c.bytes (.sspi c.challenge c.fields.flatten) := by
  have hparsed := (Reader.ofExcept_reads (parseChallenge_fields h)).map fun challenge =>
    Token.sspi challenge c.fields.flatten
  exact (readUInt16LE_reads h.length).bind ((readSlice_reads _).bind_nil hparsed)

end WireChallenge

/-! ### Rows -/

/-- The cells of a `ROW`. -/
def rowBytes : List WireColumn → List Cell → Bytes
  | column :: columns, cell :: cells => cell.bytes column.description ++ rowBytes columns cells
  | _, _ => []

def Cell.isNull : Cell → Bool
  | .null => true
  | _ => false

/-- The cells of an `NBCROW`: `NULL` is in the bitmap only. -/
def nbcRowBytes : List WireColumn → List Cell → Bytes
  | column :: columns, cell :: cells =>
    (if cell.isNull then [] else cell.bytes column.description) ++ nbcRowBytes columns cells
  | _, _ => []

/-- The columns of a row as the client shows them, from the given index on. -/
def shownCells (options : ParserOptions) : (index : Nat) → List WireColumn → List Cell → List Column
  | index, column :: columns, cell :: cells =>
    { value := cell.value options column.description, metadata := column.shown options index } ::
      shownCells options (index + 1) columns cells
  | _, _, _ => []

/-- A cell for each column, which the column can have. -/
def RowFitsColumns : List WireColumn → List Cell → Prop :=
  List.Forall₂ fun column cell => cell.Fits column.description

variable {options : ParserOptions}

theorem Datum.value_ne_null (p : VariantProperties) (d : Datum) : d.value options p ≠ .null := by
  cases d <;> exact nofun

theorem Cell.isNull_value (t : TypeDescription) (cell : Cell) :
    decide (cell.value options t = .null) = cell.isNull := by
  cases cell with
  | null => rfl
  | datum d | variant _ _ d | pointer _ _ d | stream _ _ d =>
    exact decide_eq_false (Datum.value_ne_null _ d)

/-- The row as its columns are encoded one by one. -/
structure EncodesRow (options : ParserOptions) (index : Nat) (columns : List WireColumn)
    (cells : List Cell) (row : List (EncodedColumn options)) : Prop where
  metadata : rowMetadata row = shownColumns options index columns
  bytes : row.flatMap EncodedColumn.bytes = rowBytes columns cells
  unlessNull : row.flatMap EncodedColumn.unlessNull = nbcRowBytes columns cells
  isNull : row.map EncodedColumn.isNull = cells.map Cell.isNull
  shown : row.map EncodedColumn.column = shownCells options index columns cells

theorem exists_encodesRow (hclock : options.useUTC = false → options.platform.KeepsClock)
    {columns : List WireColumn} {cells : List Cell} (h : RowFitsColumns columns cells)
    (index : Nat) : ∃ row, EncodesRow options index columns cells row := by
  induction h generalizing index with
  | nil => exact ⟨[], rfl, rfl, rfl, rfl, rfl⟩
  | @cons column cell columns cells hcell _ ih =>
    obtain ⟨row, hrow⟩ := ih (index + 1)
    have hnull : decide (cell.value options column.description = .null) = cell.isNull :=
      Cell.isNull_value column.description cell
    refine ⟨{ metadata := column.shown options index
              value := cell.value options column.description
              bytes := cell.bytes column.description
              encoded := Cell.encodedAs hclock hcell column.userType column.flags.toNat } :: row,
      ?_, ?_, ?_, ?_, ?_⟩
    · exact congrArg (_ :: ·) hrow.metadata
    · exact congrArg (_ ++ ·) hrow.bytes
    · rw [List.flatMap_cons, hrow.unlessNull, EncodedColumn.unlessNull, EncodedColumn.isNull, hnull]
      rfl
    · rw [List.map_cons, hrow.isNull, EncodedColumn.isNull, hnull]
      rfl
    · exact congrArg (_ :: ·) hrow.shown

/-! ### Pieces of a response -/

/-- The three tokens that end a statement. -/
inductive DoneKind
  | done
  | inProc
  | proc

/-- What a response is made of. -/
inductive WireItem
  | token (t : WireToken)
  | done (kind : DoneKind) (data : DoneData)
  | returnStatus (status : Signed 4)
  | sspi (challenge : WireChallenge)
  | colMetadata (columns : List WireColumn)
  | row (cells : List Cell)
  /-- The last byte of the bitmap is filled up somehow. -/
  | nbcRow (bitmap : Bytes) (cells : List Cell)
  | returnValue (ordinal : UInt16) (name : JsString) (status : UInt8) (metadata : WireMetadata)
      (cell : Cell)

/-- `TYPE` of a token with a length in front. -/
def WireToken.typeByte : WireToken → UInt8
  | envChange _ => 0xE3
  | info _ => 0xAB
  | error _ => 0xAA
  | loginAck _ => 0xAD
  | order _ => 0xA9
  | fedAuthInfo _ => 0xEE
  | featureExtAck _ => 0xAE

/-- The name of a parameter without the `@` in front of it. -/
def withoutAt : JsString → JsString
  | 0x40 :: name => name
  | name => name

namespace WireItem

def typeByte : WireItem → UInt8
  | token t => t.typeByte
  | done .done _ => 0xFD
  | done .inProc _ => 0xFF
  | done .proc _ => 0xFE
  | returnStatus _ => 0x79
  | sspi _ => 0xED
  | colMetadata _ => 0x81
  | row _ => 0xD1
  | nbcRow .. => 0xD2
  | returnValue .. => 0xAC

/-- The bytes behind the type, under the columns described last. -/
def content (options : ParserOptions) (columns : List WireColumn) : WireItem → Bytes
  | token t => t.encode options
  | done _ data => data.bytes options
  | returnStatus status => leIntBytes 4 status.val
  | sspi challenge => challenge.bytes
  | colMetadata described => colMetadataBytes options described
  | row cells => rowBytes columns cells
  | nbcRow bitmap cells => bitmap ++ nbcRowBytes columns cells
  | returnValue ordinal name status metadata cell =>
    returnHeader ordinal.toNat name status.toNat (metadata.bytes options) ++
      cell.bytes metadata.description

/-- What the client is to make of it. -/
def shown (options : ParserOptions) (columns : List WireColumn) : WireItem → Token
  | token t => t.token
  | done .done data => .done data
  | done .inProc data => .doneInProc data
  | done .proc data => .doneProc data
  | returnStatus status => .returnStatus status.val
  | sspi challenge => .sspi challenge.challenge challenge.fields.flatten
  | colMetadata described => .colMetadata (shownColumns options 0 described)
  | row cells => .row (rowColumns options (shownCells options 0 columns cells))
  | nbcRow _ cells => .nbcRow (rowColumns options (shownCells options 0 columns cells))
  | returnValue ordinal name _ metadata cell =>
    .returnValue ordinal.toNat (withoutAt name) metadata.metadata
      (cell.value options metadata.description)

/-- The columns that are described behind it. -/
def after (columns : List WireColumn) : WireItem → List WireColumn
  | colMetadata described => described
  | _ => columns

/-- Everything has the size of its field, and a row has the columns described last. -/
def Fits (options : ParserOptions) (columns : List WireColumn) : WireItem → Prop
  | token t => t.Fits options
  | done _ data => data.Fits options
  | returnStatus _ => True
  | sspi challenge => challenge.Fits
  | colMetadata described => described.length < 65536 ∧ ∀ c ∈ described, c.Fits options
  | row cells => RowFitsColumns columns cells
  | nbcRow bitmap cells =>
    RowFitsColumns columns cells ∧ bitmap.length = (cells.length + 7) / 8 ∧
      (bitmap.flatMap bitmapOfByte).take cells.length = cells.map Cell.isNull
  | returnValue _ name _ metadata cell =>
    name.length < 256 ∧ metadata.Fits options ∧ cell.Fits metadata.description

end WireItem

theorem WireToken.takes {t : WireToken} (h : t.Fits options) (s : List ColumnMetadata) :
    Task.Takes (readToken options t.typeByte) s (t.encode options) (some t.token) s := by
  cases t with
  | envChange change =>
    have hchange := (envChangeParser_reads h.1 h.2).returns
    exact (Task.Takes.await hchange s).map (Option.map Token.envChange)
  | info data => exact (Task.Takes.await (infoParser_reads (by exact h)).returns s).map some
  | error data => exact (Task.Takes.await (errorParser_reads (by exact h)).returns s).map some
  | loginAck ack => exact (Task.Takes.await (loginAckParser_reads (by exact h)).returns s).map some
  | order orderColumns => exact (Task.Takes.await (orderParser_reads h.1 h.2).returns s).map some
  | fedAuthInfo table =>
    exact (Task.Takes.await (fedAuthInfoParser_reads (by exact h)).returns s).map some
  | featureExtAck features =>
    exact (Task.Takes.await (featureExtAckParser_reads (by exact h)).returns s).map some

theorem readReturnHeader_reads {ordinal : UInt16} {name : JsString} {status : UInt8}
    {metadata : WireMetadata} (hname : name.length < 256) (h : metadata.Fits options) :
    Reads (readReturnHeader options)
      (returnHeader ordinal.toNat name status.toNat (metadata.bytes options))
      (ordinal.toNat, withoutAt name, metadata.metadata) :=
  (readUInt16LE_reads ordinal.toNat_lt).bind ((readBVarChar_reads hname).bind
    ((readUInt8_reads status.toNat_lt).bind ((WireMetadata.reads h).map fun metadata =>
      (ordinal.toNat, withoutAt name, metadata))))

/-- Each piece is taken with exactly its bytes, as the token that was meant. -/
theorem WireItem.takes (hclock : options.useUTC = false → options.platform.KeepsClock)
    {columns : List WireColumn} {item : WireItem} (h : item.Fits options columns) :
    Task.Takes ((parser options).dispatch item.typeByte) (shownColumns options 0 columns)
      (item.content options columns) (some (item.shown options columns))
      (shownColumns options 0 (item.after columns)) := by
  cases item with
  | token t => exact WireToken.takes h _
  | done kind data =>
    have hdata := DoneData.reads h
    cases kind with
    | done => exact (Task.Takes.await (hdata.map Token.done).returns _).map some
    | inProc => exact (Task.Takes.await (hdata.map Token.doneInProc).returns _).map some
    | proc => exact (Task.Takes.await (hdata.map Token.doneProc).returns _).map some
  | returnStatus status =>
    have hstatus := (Reader.number_int status.property).map Token.returnStatus
    exact (Task.Takes.await hstatus.returns _).map some
  | sspi challenge =>
    exact (Task.Takes.await (WireChallenge.sspiParser_reads h).returns _).map some
  | colMetadata described => exact readPieces_takes (readColMetadataToken_takes h.2 h.1 _)
  | row cells =>
    obtain ⟨row, hrow⟩ := exists_encodesRow hclock h 0
    have htakes := readPieces_takes (rowParser_takes row)
    rw [hrow.metadata, hrow.bytes, hrow.shown] at htakes
    exact htakes
  | nbcRow bitmap cells =>
    obtain ⟨hcells, hlength, hbits⟩ := h
    obtain ⟨row, hrow⟩ := exists_encodesRow hclock hcells 0
    have hcount : row.length = cells.length := by
      have hmaps := congrArg List.length hrow.isNull
      rwa [List.length_map, List.length_map] at hmaps
    rw [← hcount, ← hrow.isNull] at hbits
    rw [← hcount] at hlength
    have htakes := readPieces_takes (nbcRowParser_takes hlength hbits)
    rw [hrow.metadata, hrow.unlessNull, hrow.shown] at htakes
    exact htakes
  | returnValue ordinal name status metadata cell =>
    obtain ⟨hname, hmetadata, hcell⟩ := h
    have hvalue := Cell.encodedAs hclock hcell metadata.userType metadata.flags.toNat
    have htakes : Task.Takes (returnParser options) (shownColumns options 0 columns)
        (content options columns (returnValue ordinal name status metadata cell)) _ _ :=
      (Task.Takes.await (readReturnHeader_reads hname hmetadata).returns _).bind
        ((awaitValue_encoded hvalue _).map fun value =>
          Token.returnValue ordinal.toNat (withoutAt name) metadata.metadata value)
    exact readPieces_takes htakes

/-! ### Responses -/

/-- The pieces of a response, each under the columns that those before it describe. -/
def Conforms (options : ParserOptions) : List WireColumn → List WireItem → Prop
  | _, [] => True
  | columns, item :: items =>
    item.Fits options columns ∧ Conforms options (item.after columns) items

def responseBytes (options : ParserOptions) : List WireColumn → List WireItem → Bytes
  | _, [] => []
  | columns, item :: items =>
    item.typeByte ::
      (item.content options columns ++ responseBytes options (item.after columns) items)

def responseTokens (options : ParserOptions) : List WireColumn → List WireItem → List Token
  | _, [] => []
  | columns, item :: items =>
    item.shown options columns :: responseTokens options (item.after columns) items

theorem scanAll_response (hclock : options.useUTC = false → options.platform.KeepsClock)
    {columns : List WireColumn} {items : List WireItem} (h : Conforms options columns items) :
    (parser options).scanAll (responseBytes options columns items)
        (shownColumns options 0 columns) =
      ((responseTokens options columns items).map some, .returned) := by
  induction items generalizing columns with
  | nil => rfl
  | cons item items ih =>
    rw [responseBytes, (parser options).scanAll_takes (item.takes hclock h.1), ih h.2]
    rfl

/-- A nullable `int` by the name of `a`. -/
def intColumn : WireColumn where
  userType := 0
  flags := 1
  description := .sized .IntN (by decide) 4
  tableName := []
  name := JsString.ofString "a"

/-- The rows `5` and `NULL`. -/
def intItems : List WireItem :=
  [.colMetadata [intColumn], .row [.datum (.int ⟨5, by decide⟩)], .nbcRow [1] [.null],
    .done .done { noRowCount with rowCount := some 2, curCmd := 0xC1 }]

theorem intItems_conforms : Conforms (.default asciiPlatform) [] intItems := by
  have hcolumn : intColumn.Fits (.default asciiPlatform) := {
    metadata := { userType := by decide, description := trivial }
    parts := by decide
    part := by decide
    single := by decide
    name := by decide }
  have hdatum : (Cell.datum (.int ⟨5, by decide⟩)).Fits intColumn.description :=
    ⟨rfl, ⟨⟨.Int, by decide, by decide⟩, trivial⟩, by decide⟩
  have hnull : Cell.null.Fits intColumn.description := rfl
  refine ⟨⟨by decide, fun column h => ?_⟩, .cons hdatum .nil, ⟨.cons hnull .nil, rfl, rfl⟩,
    ⟨by decide, by decide, by decide⟩, trivial⟩
  rw [List.mem_singleton.1 h]
  exact hcolumn

end Tedious
