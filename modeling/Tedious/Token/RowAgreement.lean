import Tedious.DataTypes.RoundTrip
import Tedious.Token.Chunking

/-!
# Tedious.Token.RowAgreement

A row as `ROW`, the same row as `NBCROW`, and its values as return values. A value that is no
PLP stream is encoded when `readValue` reads exactly its bytes; a PLP stream is encoded by its
length, if that is announced, its chunks and the terminator (`PlpEncoding`).

`rows_agree` holds for every run of the parser: over any chunks of the token and of more
bytes behind it, the token comes out and exactly the bytes behind it are left.
-/

namespace Tedious

open Chunked

/-! ### Encodings -/

/-- The encodings of a PLP stream. -/
inductive PlpEncoding : Option (List Bytes) → Bytes → Prop
  | null : PlpEncoding none MAX_NULL_LENGTH
  | known {chunks : List Bytes} (hchunks : ∀ chunk ∈ chunks, 0 < chunk.length ∧
      chunk.length < 4294967296) (hlength : chunks.flatten.length < 2 ^ 53) :
    PlpEncoding (some chunks) (leBytes 8 chunks.flatten.length ++ plpChunks chunks)
  | unknown {chunks : List Bytes} (hchunks : ∀ chunk ∈ chunks, 0 < chunk.length ∧
      chunk.length < 4294967296) :
    PlpEncoding (some chunks) (UNKNOWN_PLP_LEN ++ plpChunks chunks)

/-- `bytes` is an encoding of `value` under a type description. -/
def EncodedAs (options : ParserOptions) (metadata : Metadata) (bytes : Bytes) (value : Value) :
    Prop :=
  if isPLPStream metadata then
    ∃ chunks, PlpEncoding chunks bytes ∧ value = plpValue options metadata chunks
  else
    Reads (readValue options metadata) bytes value

/-- A column of a row: its value, and an encoding of it. -/
structure EncodedColumn (options : ParserOptions) where
  metadata : ColumnMetadata
  value : Value
  bytes : Bytes
  encoded : EncodedAs options metadata.toMetadata bytes value

namespace EncodedColumn

variable {options : ParserOptions}

/-- The column as a row shows it. -/
def column (c : EncodedColumn options) : Column := { value := c.value, metadata := c.metadata }

def isNull (c : EncodedColumn options) : Bool := c.value = .null

/-- What an `NBCROW` has of a column behind its bitmap. -/
def unlessNull (c : EncodedColumn options) : Bytes := if c.isNull then [] else c.bytes

end EncodedColumn

/-! ### PLP streams -/

variable {s : List ColumnMetadata}

theorem readPLPStream_known {chunks : List Bytes}
    (h : ∀ chunk ∈ chunks, 0 < chunk.length ∧ chunk.length < 4294967296)
    (hlength : chunks.flatten.length < 2 ^ 53) (s : List ColumnMetadata) :
    Task.Takes readPLPStream s (leBytes 8 chunks.flatten.length ++ plpChunks chunks) (some chunks)
      s := by
  have h64 : chunks.flatten.length < 256 ^ 8 := hlength.trans (by decide)
  refine (Task.Takes.await (Reader.number_le h64).returns s).bind ?_
  have hnull : chunks.flatten.length ≠ plpNull := by
    rw [plpNull]
    omega
  rw [if_neg hnull]
  refine (readPLPChunks_takes h [] 0 s).bind_nil ?_
  rw [checkPLPLength, toNumber_of_le hlength.le, currentLength_eq (by omega), Nat.zero_add,
    List.nil_append]
  rw [if_neg fun hne => hne.2 rfl]
  exact .pure _ s

theorem readPLPStream_encoding {chunks : Option (List Bytes)} {bytes : Bytes}
    (h : PlpEncoding chunks bytes) (s : List ColumnMetadata) :
    Task.Takes readPLPStream s bytes chunks s := by
  cases h with
  | null => exact readPLPStream_null s
  | known hchunks hlength => exact readPLPStream_known hchunks hlength s
  | unknown hchunks =>
    have hstream := readPLPStream_unknown (readPLPChunks_takes hchunks [] 0 s)
    rwa [List.nil_append] at hstream

/-! ### Columns -/

variable {options : ParserOptions}

/-- However it is framed, an encoded value is taken with exactly its bytes. -/
theorem awaitValue_encoded {metadata : Metadata} {bytes : Bytes} {value : Value}
    (h : EncodedAs options metadata bytes value) (s : List ColumnMetadata) :
    Task.Takes (awaitValue options metadata) s bytes value s := by
  rw [EncodedAs] at h
  cases hplp : isPLPStream metadata with
  | true =>
    rw [hplp, if_pos rfl] at h
    obtain ⟨chunks, hencoding, rfl⟩ := h
    exact awaitValue_plp hplp (readPLPStream_encoding hencoding s)
  | false =>
    rw [hplp, if_neg Bool.false_ne_true] at h
    exact awaitValue_short hplp h

/-- The columns of a `ROW`. -/
theorem readColumns_row (row : List (EncodedColumn options)) (s : List ColumnMetadata) :
    Task.Takes (readColumns options (row.map fun c => (c.metadata, false))) s
      (row.flatMap EncodedColumn.bytes) (row.map EncodedColumn.column) s := by
  induction row with
  | nil => exact .pure [] s
  | cons c row ih =>
    exact (awaitValue_encoded c.encoded s).bind (ih.map (c.column :: ·))

/-- The columns of an `NBCROW`: a marked one has no bytes. -/
theorem readColumns_nbcRow (row : List (EncodedColumn options)) (s : List ColumnMetadata) :
    Task.Takes (readColumns options (row.map fun c => (c.metadata, c.isNull))) s
      (row.flatMap EncodedColumn.unlessNull) (row.map EncodedColumn.column) s := by
  induction row with
  | nil => exact .pure [] s
  | cons c row ih =>
    rw [List.map_cons, List.flatMap_cons, EncodedColumn.unlessNull]
    cases hnull : c.isNull with
    | true =>
      have hvalue : c.value = .null := of_decide_eq_true hnull
      have hcolumn : c.column = { value := .null, metadata := c.metadata } := by
        rw [EncodedColumn.column, hvalue]
      rw [List.map_cons, hcolumn, if_pos rfl, List.nil_append]
      exact ih.map ({ value := .null, metadata := c.metadata } :: ·)
    | false => exact (awaitValue_encoded c.encoded s).bind (ih.map (c.column :: ·))

/-! ### Named columns -/

/-- What a row shows of its columns: all of them, or under a name the first that has it. -/
def RowColumns.Shows (options : ParserOptions) (columns : List Column) : RowColumns → Prop
  | .list shown => options.useColumnNames = false ∧ shown = columns
  | .map named => options.useColumnNames = true ∧
      ∀ name, named.lookup name = columns.find? fun c => c.metadata.colName = name

theorem lookup_filter_ne {name other : JsString} (h : name ≠ other)
    (named : List (JsString × Column)) :
    (named.filter fun c => c.1 ≠ other).lookup name = named.lookup name := by
  induction named with
  | nil => rfl
  | cons c named ih =>
    by_cases hc : c.1 = other
    · rw [List.filter_cons_of_neg (by simp [hc]), ih, List.lookup_cons, hc, beq_false_of_ne h]
    · rw [List.filter_cons_of_pos (by simp [hc]), List.lookup_cons, List.lookup_cons, ih]

/-- Later columns of a name do not replace the first. -/
theorem lookup_columnsMap (name : JsString) (columns : List Column) :
    (columnsMap columns).lookup name = columns.find? fun c => c.metadata.colName = name := by
  induction columns with
  | nil => rfl
  | cons column columns ih =>
    rw [columnsMap, List.lookup_cons]
    by_cases hname : column.metadata.colName = name
    · rw [List.find?_cons_of_pos (by simp [hname]), hname, beq_self_eq_true]
    · rw [beq_false_of_ne (Ne.symm hname), lookup_filter_ne (Ne.symm hname), ih,
        List.find?_cons_of_neg (by simp [hname])]

theorem rowColumns_shows (options : ParserOptions) (columns : List Column) :
    (rowColumns options columns).Shows options columns := by
  rw [rowColumns]
  cases hnames : options.useColumnNames with
  | true => exact ⟨hnames, fun name => lookup_columnsMap name columns⟩
  | false => exact ⟨hnames, rfl⟩

/-! ### Tokens -/

theorem readPieces_takes {task : ParserTask Token} {s s' : List ColumnMetadata} {bytes : Bytes}
    {token : Token} (h : Task.Takes task s bytes token s') :
    Task.Takes (readPieces task) s bytes (some token) s' := h.map some

/-- The description of the columns of a row. -/
def rowMetadata (row : List (EncodedColumn options)) : List ColumnMetadata :=
  row.map EncodedColumn.metadata

theorem rowParser_takes (row : List (EncodedColumn options)) :
    Task.Takes (rowParser options) (rowMetadata row) (row.flatMap EncodedColumn.bytes)
      (.row (rowColumns options (row.map EncodedColumn.column))) (rowMetadata row) := by
  have hcolumns := (readColumns_row row (rowMetadata row)).map fun columns =>
    Token.row (rowColumns options columns)
  have hmap : (rowMetadata row).map (fun metadata => (metadata, false)) =
      row.map fun c => (c.metadata, false) := List.map_map ..
  rw [← hmap] at hcolumns
  exact .get hcolumns

/-- The columns with their marks, however the last byte of the bitmap is filled up. -/
theorem zip_rowMetadata {row : List (EncodedColumn options)} {bits : List Bool}
    (h : bits.take row.length = row.map EncodedColumn.isNull) :
    (rowMetadata row).zip bits = row.map fun c => (c.metadata, c.isNull) := by
  induction row generalizing bits with
  | nil => rfl
  | cons c row ih =>
    cases bits with
    | nil => cases h
    | cons bit bits =>
      rw [List.length_cons, List.take_succ_cons, List.map_cons, List.cons.injEq] at h
      rw [rowMetadata, List.map_cons, List.zip_cons_cons, List.map_cons, h.1]
      exact congrArg _ (ih h.2)

theorem nbcRowParser_takes {row : List (EncodedColumn options)} {bitmap : Bytes}
    (hlength : bitmap.length = (row.length + 7) / 8)
    (hbits : (bitmap.flatMap bitmapOfByte).take row.length = row.map EncodedColumn.isNull) :
    Task.Takes (nbcRowParser options) (rowMetadata row)
      (bitmap ++ row.flatMap EncodedColumn.unlessNull)
      (.nbcRow (rowColumns options (row.map EncodedColumn.column))) (rowMetadata row) := by
  have hcount : (rowMetadata row).length = row.length := List.length_map ..
  have hbitmap := Task.Takes.await (readSlice_reads bitmap).returns (rowMetadata row)
  rw [hlength, ← hcount] at hbitmap
  refine .get (hbitmap.bind ?_)
  dsimp only
  rw [zip_rowMetadata hbits]
  exact (readColumns_nbcRow row (rowMetadata row)).map fun columns =>
    Token.nbcRow (rowColumns options columns)

/-- What a `RETURNVALUE` has in front of its value. -/
def returnHeader (ordinal : Nat) (name : JsString) (status : Nat) (description : Bytes) : Bytes :=
  leBytes 2 ordinal ++ (bVarChar name ++ (leBytes 1 status ++ description))

theorem returnParser_takes {metadata : Metadata} {value : Value} {bytes description : Bytes}
    {ordinal status : Nat} {name : JsString} (hvalue : EncodedAs options metadata bytes value)
    (hordinal : ordinal < 65536) (hname : name.length < 256) (hstatus : status < 256)
    (hdescription : Reads (readMetadata options) description metadata) (s : List ColumnMetadata) :
    ∃ paramName, Task.Takes (returnParser options) s
      (returnHeader ordinal name status description ++ bytes)
      (.returnValue ordinal paramName metadata value) s := by
  obtain ⟨paramName, hheader⟩ : ∃ paramName, Reads (readReturnHeader options)
      (returnHeader ordinal name status description) (ordinal, paramName, metadata) :=
    ⟨_, (readUInt16LE_reads hordinal).bind ((readBVarChar_reads hname).bind
      ((readUInt8_reads hstatus).bind (hdescription.map fun metadata => (ordinal, _, metadata))))⟩
  refine ⟨paramName, (Task.Takes.await hheader.returns s).bind ?_⟩
  exact (awaitValue_encoded hvalue s).map fun value =>
    Token.returnValue ordinal paramName metadata value

/-! ### Agreement -/

/-- **Agreement.** A row that is sent as `ROW` and as `NBCROW` shows the same columns, by their
names if these are asked for, and each of its values is the one that a `RETURNVALUE` of the same
type has for the same bytes. -/
theorem rows_agree (options : ParserOptions) (row : List (EncodedColumn options)) :
    ∃ columns : RowColumns, columns = rowColumns options (row.map EncodedColumn.column) ∧
      columns.Shows options (row.map EncodedColumn.column) ∧
      (parser options).Yields (0xD1 :: row.flatMap EncodedColumn.bytes) (rowMetadata row)
        [some (.row columns)] (rowMetadata row) ∧
      (∀ bitmap : Bytes, bitmap.length = (row.length + 7) / 8 →
        (bitmap.flatMap bitmapOfByte).take row.length = row.map EncodedColumn.isNull →
        (parser options).Yields (0xD2 :: (bitmap ++ row.flatMap EncodedColumn.unlessNull))
          (rowMetadata row) [some (.nbcRow columns)] (rowMetadata row)) ∧
      ∀ c ∈ row, ∀ (colMetadata : List ColumnMetadata) (ordinal status : Nat) (name : JsString)
        (description : Bytes), ordinal < 65536 → name.length < 256 → status < 256 →
        Reads (readMetadata options) description c.metadata.toMetadata →
        ∃ paramName, (parser options).Yields
          (0xAC :: (returnHeader ordinal name status description ++ c.bytes)) colMetadata
          [some (.returnValue ordinal paramName c.metadata.toMetadata c.value)] colMetadata := by
  have hstable := fun type => (readToken_sound options type).allStable
  refine ⟨_, rfl, rowColumns_shows options _, ?_, ?_, ?_⟩
  · exact (parser options).yields_of_takes hstable (readPieces_takes (rowParser_takes row))
  · intro bitmap hlength hbits
    exact (parser options).yields_of_takes hstable
      (readPieces_takes (nbcRowParser_takes hlength hbits))
  · intro c _ colMetadata ordinal status name description hordinal hname hstatus hdescription
    obtain ⟨paramName, htakes⟩ := returnParser_takes c.encoded hordinal hname hstatus hdescription
      colMetadata
    exact ⟨paramName, (parser options).yields_of_takes hstable (readPieces_takes htakes)⟩

/-- A column of type `varbinary(10)`. -/
def binaryColumn : ColumnMetadata :=
  { userType := 0, flags := 0, type := .VarBinary, dataLength := some 10, colName := [],
    tableName := none }

/-- A row of a byte and a `NULL`. -/
def binaryRow : List (EncodedColumn (.default asciiPlatform)) :=
  [{ metadata := binaryColumn
     value := .buffer [7]
     bytes := [1, 0, 7]
     encoded := readShortNullable_reads (by decide) (readColumnBinary_reads [7]) },
   { metadata := binaryColumn
     value := .null
     bytes := NULL_LENGTH
     encoded := readShortNullable_null _ }]

theorem rows_agree_binary :
    (parser (.default asciiPlatform)).Yields [0xD2, 0xFE, 1, 0, 7] [binaryColumn, binaryColumn]
      [some (.nbcRow (.list [{ value := .buffer [7], metadata := binaryColumn },
        { value := .null, metadata := binaryColumn }]))] [binaryColumn, binaryColumn] := by
  obtain ⟨columns, rfl, -, -, hnbc, -⟩ := rows_agree (.default asciiPlatform) binaryRow
  exact hnbc [0xFE] rfl (by decide)

end Tedious
