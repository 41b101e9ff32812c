import Tedious.DataTypes.ColumnValues
import Tedious.Lib.Lockstep
import Tedious.Token.RowAgreement

/-!
# Tedious.BulkLoad

Bulk loads (`bulk-load.ts`): the columns, and what `RowTransform` pushes for the rows. It is a
token stream like the one of a response: the description of the columns, a row for each row, and
`DONE`.

`pushed_tokens`: the token parser reads it as such, however it is cut into chunks, and shows the
values that were validated.
-/

namespace Tedious

open Chunked

/-! ### Columns -/

structure BulkColumn where
  type : DataType
  name : JsString
  output : Bool := false
  length : Option JsNumber
  precision : Option JsNumber
  scale : Option JsNumber
  objName : JsString
  nullable : Option Bool
  collation : Option Collation

/-- `ColumnOptions`. -/
structure ColumnOptions where
  output : Bool := false
  length : Option JsNumber := none
  precision : Option JsNumber := none
  scale : Option JsNumber := none
  objName : Option JsString := none
  nullable : Option Bool := none

/-- The directions that `options.order` may give. -/
inductive Direction
  | ASC | DESC
  deriving DecidableEq, Repr

/-- The options of a bulk load, as its constructor accepts them. -/
structure BulkOptions where
  checkConstraints : Bool := false
  fireTriggers : Bool := false
  keepNulls : Bool := false
  lockTable : Bool := false
  order : List (JsString × Direction) := []

/-- A bulk load, with the options of its connection that it looks at. Nothing sets
`firstRowWritten`. -/
structure BulkLoad where
  table : JsString
  collation : Option Collation
  tdsVersion : JsString
  useUTC : Bool
  bulkOptions : BulkOptions := {}
  executionStarted : Bool := false
  columns : List BulkColumn := []

/-- What a type is told about a column, with the value of a row or with none. -/
def BulkColumn.parameter (column : BulkColumn) (collation : Option Collation) (value : Option α) :
    ParameterData α where
  length := column.length
  precision := column.precision
  scale := column.scale
  collation := collation
  value := value

/-- A row: values by their places, or an object with a property for each column. -/
inductive BulkRow
  | array (values : List JsValue)
  | object (property : JsString → JsValue)

namespace BulkRow

/-- `Array.isArray(row) ? row[i] : row[c.objName]`. -/
def value (row : BulkRow) (column : BulkColumn) (i : Nat) : JsValue :=
  match row with
  | array values => values[i]?.getD .undefined
  | object property => property column.objName

/-- The columns with their values. -/
def cells (row : BulkRow) (columns : List BulkColumn) : List (BulkColumn × JsValue) :=
  columns.zipIdx.map fun (column, i) => (column, row.value column i)

end BulkRow

namespace FLAGS

def nullable : Nat := 1 <<< 0
def updateableReadWrite : Nat := 1 <<< 2
def nullableUnknown : Nat := 1 <<< 15

end FLAGS

def rowTokenBuffer : Bytes := [0xD1]

def textPointerAndTimestampBuffer : Bytes := 0x10 :: List.replicate 24 0x00

def textPointerNullBuffer : Bytes := [0x00]

/-- `writeUsVarchar`. -/
def writeUsVarchar (s : JsString) : Except JsError Bytes := do
  let length ← writeUIntLE 2 (.ofNat s.length)
  pure (length ++ ucs2Bytes s)

namespace BulkLoad

variable (js : Runtime) (load : BulkLoad)

def addColumn (name : JsString) (type : DataType) (options : ColumnOptions) :
    Except JsError BulkLoad :=
  if load.executionStarted then
    .error (.error "Columns cannot be added to bulk insert after execution has started.")
  else
    let column := (sendType js load.useUTC type).methods.bulkColumn
      { length := options.length, precision := options.precision, scale := options.scale,
        collation := load.collation, value := none }
    .ok { load with columns := load.columns ++ [
      { type, name
        output := options.output
        length := column.length
        precision := column.precision
        scale := column.scale
        objName := options.objName.getD name
        nullable := some (options.nullable.getD true)
        collation := load.collation }] }

/-- `options.tdsVersion < '7_2'`. -/
def before72 : Bool := decide (load.tdsVersion < JsString.ofString "7_2")

/-- The flags of a column. -/
def columnFlags (column : BulkColumn) : Nat :=
  if column.nullable = some true then FLAGS.updateableReadWrite ||| FLAGS.nullable
  else if column.nullable = none ∧ !load.before72 then
    FLAGS.updateableReadWrite ||| FLAGS.nullableUnknown
  else FLAGS.updateableReadWrite

/-- The description of a column. -/
def columnMetaData (column : BulkColumn) : Except JsError Bytes := do
  let userType := leBytes (if load.before72 then 2 else 4) 0
  let flags := leBytes 2 (load.columnFlags column)
  let typeInfo ← (sendType js load.useUTC column.type).methods.generateTypeInfo
    (column.parameter column.collation none)
  let tableName ← if column.type.hasTableName then writeUsVarchar load.table else pure []
  let colName ← writeBVarchar column.name
  pure (userType ++ (flags ++ (typeInfo ++ (tableName ++ colName))))

def getColMetaData : Except JsError Bytes := do
  let count ← writeUIntLE 2 (.ofNat load.columns.length)
  let columns ← load.columns.mapM (load.columnMetaData js)
  pure (0x81 :: (count ++ columns.flatten))

/-- What `_transform` pushes for a cell. -/
def cell (column : BulkColumn) (value : JsValue) : Except JsError (List Bytes) := do
  let sent := sendType js load.useUTC column.type
  let value ← sent.validate value column.collation
  if column.type ∈ [DataType.Text, .Image, .NText] ∧ value.isNone then
    pure [textPointerNullBuffer]
  else do
    let pointer := if column.type ∈ [DataType.Text, .Image, .NText] then
      [textPointerAndTimestampBuffer] else []
    let length ← sent.methods.generateParameterLength (column.parameter none value)
    let data ← sent.methods.generateParameterData (column.parameter none value)
    pure (pointer ++ length :: data)

/-- `RowTransform._transform`: what it pushes for a row, behind the description of the columns if
that was not written yet. What was pushed before an error is left out. -/
def transform (columnMetadataWritten : Bool) (row : BulkRow) : Except JsError (List Bytes) := do
  let metadata ← if columnMetadataWritten then pure [] else do
    let metadata ← load.getColMetaData js
    pure [metadata]
  let cells ← (row.cells load.columns).mapM fun (column, value) => load.cell js column value
  pure (metadata ++ rowTokenBuffer :: cells.flatten)

def createDoneToken : Bytes :=
  0xFD :: (leBytes 2 0 ++ (leBytes 2 0 ++
    (leBytes 4 0 ++ if load.before72 then [] else leBytes 4 0)))

/-- The rows one after the other, and `_flush`. -/
def push : (columnMetadataWritten : Bool) → List BulkRow → Except JsError (List Bytes)
  | _, [] => pure [load.createDoneToken]
  | columnMetadataWritten, row :: rows => do
    let first ← load.transform js columnMetadataWritten row
    let rest ← push true rows
    pure (first ++ rest)

end BulkLoad

/-! ### What is read -/

/-- The name that the parser gives to a column. -/
def shownName (options : ParserOptions) (index : Nat) (metadata : Metadata) (colName : JsString) :
    JsString :=
  match options.columnNameReplacer with
  | some replacer => replacer colName index metadata
  | none => if options.camelCaseColumns then camelCase colName else colName

/-- `DONE` without a row count. -/
def noRowCount : DoneData :=
  { more := false, sqlError := false, attention := false, serverError := false, rowCount := none,
    curCmd := 0 }

namespace BulkLoad

variable {js : Runtime} {load : BulkLoad} {options : ParserOptions}

/-- A column of a row token shows the value that was validated for the cell. -/
def ShowsCell (js : Runtime) (load : BulkLoad) (cell : BulkColumn × JsValue) (column : Column) :
    Prop :=
  ∃ value, (sendType js load.useUTC cell.1.type).validate cell.2 cell.1.collation = .ok value ∧
    Shows (shownValue js load.useUTC cell.1.type) value column.value

/-- A description under which the cells of a column are read. -/
structure Describes (js : Runtime) (load : BulkLoad) (options : ParserOptions) (column : BulkColumn)
    (metadata : ColumnMetadata) : Prop where
  name : options.columnNameReplacer = none → options.camelCaseColumns = false →
    metadata.colName = column.name
  cells : ∀ {value chunks}, load.cell js column value = .ok chunks →
    ∃ read, ShowsCell js load (column, value) { value := read, metadata } ∧
      ∀ s, Task.Takes (awaitValue options metadata.toMetadata) s chunks.flatten read s

theorem writeBVarchar_reads {s : JsString} {bytes : Bytes} (h : writeBVarchar s = .ok bytes) :
    Reads readBVarChar bytes s := by
  obtain ⟨length, hlength, h⟩ := Except.bind_ok h
  cases h
  rw [writeUIntLE_ofNat_eq] at hlength
  split at hlength
  · next hlt =>
    cases hlength
    exact readBVarChar_reads hlt
  · cases hlength

theorem isColumn_properties {type : DataType} (h : type.isColumn = true) :
    type.hasTableName = false ∧ type ∉ [DataType.Text, .Image, .NText] := by
  cases type <;> first | exact ⟨rfl, by decide⟩ | cases h

theorem columnFlags_lt (load : BulkLoad) (column : BulkColumn) :
    load.columnFlags column < 65536 := by
  unfold columnFlags
  split
  · decide
  · split <;> decide

theorem width_of_version (h : options.tdsVersion = load.tdsVersion) :
    options.width = if load.before72 then 2 else 4 := by
  rw [ParserOptions.width, ParserOptions.before72, h, before72]

theorem cell_ok {column : BulkColumn} (hcolumn : column.type.isColumn = true) {value : JsValue}
    {chunks : List Bytes} (h : load.cell js column value = .ok chunks) :
    ∃ validated length data,
      (sendType js load.useUTC column.type).validate value column.collation = .ok validated ∧
      (sendType js load.useUTC column.type).methods.generateParameterLength
        (column.parameter none validated) = .ok length ∧
      (sendType js load.useUTC column.type).methods.generateParameterData
        (column.parameter none validated) = .ok data ∧ chunks = length :: data := by
  have hpointer := (isColumn_properties hcolumn).2
  obtain ⟨validated, hvalidate, h⟩ := Except.bind_ok h
  rw [if_neg fun hmem => hpointer hmem.1, if_neg hpointer] at h
  obtain ⟨length, hlength, h⟩ := Except.bind_ok h
  obtain ⟨data, hdata, h⟩ := Except.bind_ok h
  cases h
  exact ⟨validated, length, data, hvalidate, hlength, hdata, rfl⟩

/-- A description is read, and so are the cells behind it. -/
theorem columnMetaData_reads (options : ParserOptions)
    (hversion : options.tdsVersion = load.tdsVersion) {column : BulkColumn}
    (hcolumn : column.type.isColumn = true) {bytes : Bytes}
    (h : load.columnMetaData js column = .ok bytes) (index : Nat) :
    ∃ metadata, Reads (readColumn options index) bytes metadata ∧
      Describes js load options column metadata := by
  obtain ⟨typeInfo, hinfo, h⟩ := Except.bind_ok h
  rw [(isColumn_properties hcolumn).1] at h
  obtain ⟨tableName, htable, h⟩ := Except.bind_ok h
  cases htable
  obtain ⟨colName, hname, h⟩ := Except.bind_ok h
  cases h
  have hcolumn' : ReadsColumn options (sendType js load.useUTC column.type).methods
      (shownValue js load.useUTC column.type) := readsColumn js load.useUTC hcolumn
  obtain ⟨metadata, hdescribes, htable, hcells⟩ := hcolumn' _ _ hinfo 0 (load.columnFlags column)
  refine ⟨{ toMetadata := metadata, colName := shownName options index metadata column.name,
            tableName := none }, ?_, fun hreplacer hcamel => ?_, fun {value chunks} hcell => ?_⟩
  · have hmetadata : Reads (readMetadata options) _ metadata :=
      readMetadata_reads (Nat.pow_pos (by decide)) (columnFlags_lt load column) hdescribes
    rw [width_of_version hversion] at hmetadata
    have hcolName : Reads (readColumnName options index metadata) colName
        (shownName options index metadata column.name) :=
      (writeBVarchar_reads hname).map (shownName options index metadata)
    have htableName : Reads (readTableName options metadata) [] none := by
      rw [readTableName, htable]
      exact .pure none
    have hreads : Reads (readColumn options index) _ _ :=
      hmetadata.bind (htableName.bind (hcolName.map fun colName =>
        ({ toMetadata := metadata, colName, tableName := none } : ColumnMetadata)))
    simpa only [List.append_assoc] using hreads
  · rw [shownName, hreplacer, hcamel]
    rfl
  · obtain ⟨validated, length, data, hvalidate, hlength, hdata, rfl⟩ := cell_ok hcolumn hcell
    obtain ⟨read, hshows, htakes⟩ := hcells validated length data hlength hdata
    exact ⟨read, ⟨validated, hvalidate, hshows⟩, htakes⟩

/-- The descriptions of some columns, from the given index on. -/
theorem awaitColumns_takes (options : ParserOptions)
    (hversion : options.tdsVersion = load.tdsVersion) {columns : List BulkColumn}
    (hcolumns : ∀ column ∈ columns, column.type.isColumn = true)
    {chunks : List Bytes} (h : columns.mapM (load.columnMetaData js) = .ok chunks) (index : Nat)
    (s : List ColumnMetadata) :
    ∃ metadata, Task.Takes (awaitColumns options columns.length index) s chunks.flatten metadata s ∧
      List.Forall₂ (Describes js load options) columns metadata := by
  induction columns generalizing chunks index with
  | nil =>
    cases h
    exact ⟨[], .pure [] s, .nil⟩
  | cons column columns ih =>
    rw [List.mapM_cons] at h
    obtain ⟨first, hfirst, h⟩ := Except.bind_ok h
    obtain ⟨rest, hrest, h⟩ := Except.bind_ok h
    cases h
    rw [List.forall_mem_cons] at hcolumns
    obtain ⟨described, hreads, hdescribes⟩ :=
      columnMetaData_reads options hversion hcolumns.1 hfirst index
    obtain ⟨metadata, htakes, hall⟩ := ih hcolumns.2 hrest (index + 1)
    refine ⟨described :: metadata, ?_, .cons hdescribes hall⟩
    exact (Task.Takes.await hreads.returns s).bind (htakes.map (described :: ·))

/-- The cells of a row. -/
theorem readColumns_takes {cells : List (BulkColumn × JsValue)} {metadata : List ColumnMetadata}
    (hmetadata : List.Forall₂ (Describes js load options) (cells.map Prod.fst) metadata)
    {chunks : List (List Bytes)}
    (h : cells.mapM (fun (column, value) => load.cell js column value) = .ok chunks)
    (s : List ColumnMetadata) :
    ∃ columns, Task.Takes (readColumns options (metadata.map fun metadata => (metadata, false))) s
        chunks.flatten.flatten columns s ∧
      columns.map Column.metadata = metadata ∧ List.Forall₂ (ShowsCell js load) cells columns := by
  induction cells generalizing metadata chunks with
  | nil =>
    cases h
    cases hmetadata
    exact ⟨[], .pure [] s, rfl, .nil⟩
  | cons cell cells ih =>
    rw [List.mapM_cons] at h
    obtain ⟨first, hfirst, h⟩ := Except.bind_ok h
    obtain ⟨rest, hrest, h⟩ := Except.bind_ok h
    cases h
    cases hmetadata with
    | @cons _ described _ metadata hdescribes hall =>
      obtain ⟨read, hshows, htakes⟩ := hdescribes.cells hfirst
      obtain ⟨columns, hcolumns, hsame, hcells⟩ := ih hall hrest
      refine ⟨{ value := read, metadata := described } :: columns, ?_, ?_, .cons hshows hcells⟩
      · rw [List.flatten_cons, List.flatten_append]
        exact (htakes s).bind (hcolumns.map ({ value := read, metadata := described } :: ·))
      · rw [List.map_cons, hsame]

/-- The columns of a row, whatever stands in them. -/
theorem map_cells (row : BulkRow) (columns : List BulkColumn) :
    (row.cells columns).map Prod.fst = columns := by
  rw [BulkRow.cells, List.map_map]
  exact List.zipIdx_map_fst 0 columns

/-- A row token shows the cells of a row, under the descriptions of the columns. -/
def ShowsRow (js : Runtime) (load : BulkLoad) (metadata : List ColumnMetadata) (row : BulkRow)
    (columns : List Column) : Prop :=
  columns.map Column.metadata = metadata ∧
    List.Forall₂ (ShowsCell js load) (row.cells load.columns) columns

theorem rowParser_reads {metadata : List ColumnMetadata}
    (hmetadata : List.Forall₂ (Describes js load options) load.columns metadata) {row : BulkRow}
    {chunks : List Bytes} (h : load.transform js true row = .ok chunks) :
    ∃ bytes columns, chunks.flatten = 0xD1 :: bytes ∧ ShowsRow js load metadata row columns ∧
      Task.Takes ((parser options).dispatch 0xD1) metadata bytes
        (some (.row (rowColumns options columns))) metadata := by
  obtain ⟨nothing, hnothing, h⟩ := Except.bind_ok h
  cases hnothing
  obtain ⟨cells, hcells, h⟩ := Except.bind_ok h
  cases h
  rw [← map_cells row load.columns] at hmetadata
  obtain ⟨columns, htakes, hsame, hshows⟩ := readColumns_takes hmetadata hcells metadata
  refine ⟨_, columns, rfl, ⟨hsame, hshows⟩, readPieces_takes (.get ?_)⟩
  exact htakes.map fun columns => Token.row (rowColumns options columns)

theorem done_takes (options : ParserOptions) (hversion : options.tdsVersion = load.tdsVersion)
    (s : List ColumnMetadata) :
    ∃ bytes, load.createDoneToken = 0xFD :: bytes ∧
      Task.Takes ((parser options).dispatch 0xFD) s bytes (some (.done noRowCount)) s := by
  refine ⟨_, rfl, ?_⟩
  have hrowCount : Reads (options.select readUInt32LE readBigUInt64LE)
      (leBytes 4 0 ++ if load.before72 then [] else leBytes 4 0) 0 := by
    rw [ParserOptions.select, ParserOptions.before72, hversion, before72]
    split
    · exact readUInt32LE_reads (n := 0) (by decide)
    · exact Reader.number_le (k := 8) (n := 0) (by decide)
  have hdata : Reads (doneParser options) _ (.done noRowCount) :=
    ((readUInt16LE_reads (n := 0) (by decide)).bind ((readUInt16LE_reads (n := 0) (by decide)).bind
      (hrowCount.map fun rowCount => { noRowCount with rowCount := none }))).map Token.done
  exact (Task.Takes.await hdata.returns s).map some

/-- The rows behind the description of the columns, and the end. -/
theorem scanAll_push (hversion : options.tdsVersion = load.tdsVersion)
    {metadata : List ColumnMetadata}
    (hmetadata : List.Forall₂ (Describes js load options) load.columns metadata)
    {rows : List BulkRow} {chunks : List Bytes} (h : load.push js true rows = .ok chunks) :
    ∃ shown, List.Forall₂ (ShowsRow js load metadata) rows shown ∧
      (parser options).scanAll chunks.flatten metadata =
        (shown.map (fun columns => some (.row (rowColumns options columns))) ++
          [some (.done noRowCount)], .returned) := by
  induction rows generalizing chunks with
  | nil =>
    cases h
    obtain ⟨bytes, hbytes, htakes⟩ := done_takes options hversion metadata
    refine ⟨[], .nil, ?_⟩
    rw [List.flatten_cons, List.flatten_nil, List.append_nil, hbytes, ← List.append_nil bytes,
      (parser options).scanAll_takes htakes]
    rfl
  | cons row rows ih =>
    obtain ⟨first, hfirst, h⟩ := Except.bind_ok h
    obtain ⟨rest, hrest, h⟩ := Except.bind_ok h
    cases h
    obtain ⟨bytes, columns, hbytes, hshows, htakes⟩ := rowParser_reads hmetadata hfirst
    obtain ⟨shown, hall, hscan⟩ := ih hrest
    refine ⟨columns :: shown, .cons hshows hall, ?_⟩
    rw [List.flatten_append, hbytes, List.cons_append, (parser options).scanAll_takes htakes, hscan]
    rfl

theorem colMetadata_takes (options : ParserOptions)
    (hversion : options.tdsVersion = load.tdsVersion)
    (hcolumns : ∀ column ∈ load.columns, column.type.isColumn = true) {bytes : Bytes}
    (h : load.getColMetaData js = .ok bytes) (s : List ColumnMetadata) :
    ∃ rest metadata, bytes = 0x81 :: rest ∧
      List.Forall₂ (Describes js load options) load.columns metadata ∧
      Task.Takes ((parser options).dispatch 0x81) s rest (some (.colMetadata metadata))
        metadata := by
  obtain ⟨count, hcount, h⟩ := Except.bind_ok h
  obtain ⟨columns, hwritten, h⟩ := Except.bind_ok h
  cases h
  rw [writeUIntLE_ofNat_eq] at hcount
  split at hcount
  · next hlt =>
    cases hcount
    obtain ⟨metadata, htakes, hall⟩ :=
      awaitColumns_takes options hversion hcolumns hwritten 0 s
    have hparser : Task.Takes (colMetadataParser options) s _ metadata s :=
      (Task.Takes.await (readUInt16LE_reads hlt).returns s).bind htakes
    have htoken : Task.Takes (readColMetadataToken options) s _ (.colMetadata metadata) metadata :=
      hparser.bind_nil (.set (.pure (Token.colMetadata metadata) metadata))
    exact ⟨_, metadata, rfl, hall, readPieces_takes htoken⟩
  · cases hcount

/-- The first row brings the description of the columns with it. -/
theorem push_first {row : BulkRow} {rows : List BulkRow} {chunks : List Bytes}
    (h : load.push js false (row :: rows) = .ok chunks) :
    ∃ metadata rest, load.getColMetaData js = .ok metadata ∧
      load.push js true (row :: rows) = .ok rest ∧ chunks = metadata :: rest := by
  obtain ⟨first, hfirst, h⟩ := Except.bind_ok h
  obtain ⟨rest, hrest, h⟩ := Except.bind_ok h
  cases h
  obtain ⟨metadata, hmetadata, hfirst⟩ := Except.bind_ok hfirst
  obtain ⟨written, hwritten, hfirst⟩ := Except.bind_ok hfirst
  cases hwritten
  obtain ⟨cells, hcells, hfirst⟩ := Except.bind_ok hfirst
  cases hfirst
  refine ⟨metadata, rowTokenBuffer :: cells.flatten ++ rest, hmetadata, ?_, rfl⟩
  show (load.transform js true row >>= fun first => load.push js true rows >>= fun rest =>
    pure (first ++ rest)) = _
  rw [transform, hcells, hrest]
  rfl

/-- **The bulk load is a token stream.** What is pushed for some rows is read as the description of
the columns, one row for each row, and the end: by name, `null` for `null`, and with the values
that were validated wherever a column shows them. -/
theorem pushed_tokens {load : BulkLoad}
    (hcolumns : ∀ column ∈ load.columns, column.type.isColumn = true) {rows : List BulkRow}
    (hrows : rows ≠ []) {pushed : List Bytes} (hpushed : load.push js false rows = .ok pushed)
    (options : ParserOptions) (hversion : options.tdsVersion = load.tdsVersion)
    (chunks : List Bytes) (hchunks : chunks.flatten = pushed.flatten) (s : List ColumnMetadata) :
    ∃ metadata shown,
      (parser options).Ends (parseTokens chunks s)
        (some (.colMetadata metadata) ::
          (shown.map (fun columns => some (.row (rowColumns options columns))) ++
            [some (.done noRowCount)])) .returned ∧
      (options.columnNameReplacer = none → options.camelCaseColumns = false →
        metadata.map ColumnMetadata.colName = load.columns.map BulkColumn.name) ∧
      List.Forall₂ (ShowsRow js load metadata) rows shown := by
  obtain ⟨row, rows, rfl⟩ := List.exists_cons_of_ne_nil hrows
  obtain ⟨bytes, rest, hwritten, hrest, rfl⟩ := push_first hpushed
  obtain ⟨described, metadata, rfl, hall, htakes⟩ :=
    colMetadata_takes options hversion hcolumns hwritten s
  obtain ⟨shown, hshown, hscan⟩ := scanAll_push hversion hall hrest
  have hwhole : (parser options).scanAll chunks.flatten s = (some (.colMetadata metadata) ::
      (shown.map (fun columns => some (.row (rowColumns options columns))) ++
        [some (.done noRowCount)]), .returned) := by
    rw [hchunks, List.flatten_cons, List.cons_append, (parser options).scanAll_takes htakes, hscan]
  have hstable := fun type => (readToken_sound options type).allStable
  obtain ⟨out, hthin, hends⟩ := (parser options).ends_of_scanAll hstable chunks s
    (by rw [hwhole]; rfl)
  rw [hwhole] at hthin
  have hout := hthin.eq_of_forall_ne_none (by rintro token htoken rfl; simp at htoken)
  subst hout
  refine ⟨metadata, shown, hends, fun hreplacer hcamel => ?_, hshown⟩
  have hnames : List.Forall₂ (· = ·) (load.columns.map BulkColumn.name)
      (metadata.map ColumnMetadata.colName) := by
    rw [List.forall₂_map_left_iff, List.forall₂_map_right_iff]
    exact hall.imp fun _ _ h => (h.name hreplacer hcamel).symm
  rw [List.forall₂_eq_eq_eq] at hnames
  exact hnames.symm

/-- A bulk load into the table `t` under TDS 7.4, with a column `a` of type `bit`. -/
def bitLoad : BulkLoad where
  table := JsString.ofString "t"
  collation := none
  tdsVersion := JsString.ofString "7_4"
  useUTC := true
  columns := [
    { type := .Bit
      name := JsString.ofString "a"
      length := none
      precision := none
      scale := none
      objName := JsString.ofString "a"
      nullable := some true
      collation := none }]

example : addColumn numberRuntime { bitLoad with columns := [] } (JsString.ofString "a") .Bit {} =
    .ok bitLoad := rfl

/-- The rows `[true]` and `[]`. -/
theorem pushed_tokens_bit :
    ∃ metadata shown,
      (parser (.default asciiPlatform)).Ends
        (parseTokens [[0x81, 1, 0, 0, 0, 0, 0, 5, 0, 0x68, 1, 1, 0x61, 0, 0xD1, 1, 1, 0xD1, 0],
          [0xFD, 0, 0, 0, 0, 0, 0, 0, 0, 0, 0, 0, 0]] [])
        (some (.colMetadata metadata) ::
          (shown.map (fun columns => some (.row (.list columns))) ++ [some (.done noRowCount)]))
        .returned ∧
      metadata.map ColumnMetadata.colName = [JsString.ofString "a"] ∧
      List.Forall₂ (ShowsRow numberRuntime bitLoad metadata)
        [.array [.boolean true], .array []] shown := by
  have hcolumns : ∀ column ∈ bitLoad.columns, column.type.isColumn = true := by
    intro column hcolumn
    rw [List.mem_singleton.1 hcolumn]
    rfl
  have hpushed : bitLoad.push numberRuntime false [.array [.boolean true], .array []] =
      .ok [[0x81, 1, 0, 0, 0, 0, 0, 5, 0, 0x68, 1, 1, 0x61, 0], [0xD1], [1], [1], [0xD1], [0],
        [0xFD, 0, 0, 0, 0, 0, 0, 0, 0, 0, 0, 0, 0]] := rfl
  obtain ⟨metadata, shown, hends, hnames, hshown⟩ :=
    pushed_tokens hcolumns (List.cons_ne_nil _ _) hpushed (.default asciiPlatform) rfl
      [[0x81, 1, 0, 0, 0, 0, 0, 5, 0, 0x68, 1, 1, 0x61, 0, 0xD1, 1, 1, 0xD1, 0],
        [0xFD, 0, 0, 0, 0, 0, 0, 0, 0, 0, 0, 0, 0]] rfl []
  exact ⟨metadata, shown, hends, hnames rfl rfl, hshown⟩

end BulkLoad

end Tedious
