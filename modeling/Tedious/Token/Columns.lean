import Tedious.BulkLoad

/-!
# Tedious.Token.Columns

The columns of a result as a server describes them: the type descriptions that
`metadata-parser.ts` reads, and the `COLMETADATA` of `colmetadata-token-parser.ts`. A
description is one of a few shapes, and each shape carries the types that have it, so that
there is none that cannot be written.
-/

namespace Tedious

open Chunked

/-! ### Shapes -/

/-- The types that are described by their number alone. -/
def fixedTypes : List DataType :=
  [.Null, .TinyInt, .SmallInt, .Int, .BigInt, .Real, .Float, .SmallMoney, .Money, .Bit,
    .SmallDateTime, .DateTime, .Date]

/-- The types with a length of one byte. -/
def sizedTypes : List DataType := [.IntN, .FloatN, .MoneyN, .BitN, .UniqueIdentifier, .DateTimeN]

/-- The types with a length of two bytes and a collation. -/
def textTypes : List DataType := [.VarChar, .Char, .NVarChar, .NChar]

/-- The types with a length of four bytes and a collation. -/
def longTextTypes : List DataType := [.Text, .NText]

/-- The types with a length of two bytes. -/
def binaryTypes : List DataType := [.VarBinary, .Binary]

/-- The types with a scale. -/
def scaledTypes : List DataType := [.Time, .DateTime2, .DateTimeOffset]

/-- The types with a precision and a scale. -/
def numericTypes : List DataType := [.NumericN, .DecimalN]

/-- The five bytes of a collation. -/
abbrev CollationField := { bytes : Bytes // bytes.length = 5 }

/-- A type description, as the server means it. -/
inductive TypeDescription
  | fixed (type : DataType) (htype : type ∈ fixedTypes)
  | sized (type : DataType) (htype : type ∈ sizedTypes) (dataLength : UInt8)
  | variant (dataLength : UInt32)
  | text (type : DataType) (htype : type ∈ textTypes) (dataLength : UInt16)
      (collation : CollationField)
  | longText (type : DataType) (htype : type ∈ longTextTypes) (dataLength : UInt32)
      (collation : CollationField)
  | binary (type : DataType) (htype : type ∈ binaryTypes) (dataLength : UInt16)
  | image (dataLength : UInt32)
  | xml (schema : Option XmlSchema)
  | scaled (type : DataType) (htype : type ∈ scaledTypes) (scale : UInt8)
  | numeric (type : DataType) (htype : type ∈ numericTypes) (dataLength precision scale : UInt8)
  | udt (info : UdtInfo)

/-- The names of a schema, each behind its length. -/
def XmlSchema.bytes (schema : XmlSchema) : Bytes :=
  bVarChar schema.dbname ++ (bVarChar schema.owningSchema ++ usVarChar schema.xmlSchemaCollection)

structure XmlSchema.Fits (schema : XmlSchema) : Prop where
  dbname : schema.dbname.length < 256
  owningSchema : schema.owningSchema.length < 256
  xmlSchemaCollection : schema.xmlSchemaCollection.length < 65536

def UdtInfo.bytes (info : UdtInfo) : Bytes :=
  leBytes 2 info.maxByteSize ++ (bVarChar info.dbname ++ (bVarChar info.owningSchema ++
    (bVarChar info.typeName ++ usVarChar info.assemblyName)))

structure UdtInfo.Fits (info : UdtInfo) : Prop where
  maxByteSize : info.maxByteSize < 65536
  dbname : info.dbname.length < 256
  owningSchema : info.owningSchema.length < 256
  typeName : info.typeName.length < 256
  assemblyName : info.assemblyName.length < 65536

/-- A schema behind the byte that says whether there is one. -/
def schemaBytes : Option XmlSchema → Bytes
  | none => leBytes 1 0
  | some schema => leBytes 1 1 ++ schema.bytes

namespace TypeDescription

def type : TypeDescription → DataType
  | fixed type _ | sized type _ _ | text type _ _ _ | longText type _ _ _ | binary type _ _
  | scaled type _ _ | numeric type _ _ _ _ => type
  | variant _ => .Variant
  | image _ => .Image
  | xml _ => .Xml
  | udt _ => .UDT

/-- The bytes behind the type number. -/
def bytes : TypeDescription → Bytes
  | fixed .. => []
  | sized _ _ dataLength => leBytes 1 dataLength.toNat
  | variant dataLength | image dataLength => leBytes 4 dataLength.toNat
  | text _ _ dataLength collation => leBytes 2 dataLength.toNat ++ collation.val
  | longText _ _ dataLength collation => leBytes 4 dataLength.toNat ++ collation.val
  | binary _ _ dataLength => leBytes 2 dataLength.toNat
  | xml schema => schemaBytes schema
  | scaled _ _ scale => leBytes 1 scale.toNat
  | numeric _ _ dataLength precision scale =>
    leBytes 1 dataLength.toNat ++ (leBytes 1 precision.toNat ++ leBytes 1 scale.toNat)
  | udt info => info.bytes

/-- What the client is to make of it. -/
def metadata (userType flags : Nat) : TypeDescription → Metadata
  | fixed type _ => { userType, flags, type }
  | sized type _ dataLength => { userType, flags, type, dataLength := some dataLength.toNat }
  | variant dataLength =>
    { userType, flags, type := .Variant, dataLength := some dataLength.toNat }
  | text type _ dataLength collation =>
    { userType, flags, type, collation := some (.fromBuffer collation.val),
      dataLength := some dataLength.toNat }
  | longText type _ dataLength collation =>
    { userType, flags, type, collation := some (.fromBuffer collation.val),
      dataLength := some dataLength.toNat }
  | binary type _ dataLength => { userType, flags, type, dataLength := some dataLength.toNat }
  | image dataLength => { userType, flags, type := .Image, dataLength := some dataLength.toNat }
  | xml schema => { userType, flags, type := .Xml, schema }
  | scaled type _ scale => { userType, flags, type, scale := some scale.toNat }
  | numeric type _ dataLength precision scale =>
    { userType, flags, type, precision := some precision.toNat, scale := some scale.toNat,
      dataLength := some dataLength.toNat }
  | udt info => { userType, flags, type := .UDT, udtInfo := some info }

/-- The names have the sizes of their fields. -/
def Fits : TypeDescription → Prop
  | xml schema => ∀ s ∈ schema, s.Fits
  | udt info => info.Fits
  | _ => True

theorem metadata_type (t : TypeDescription) (userType flags : Nat) :
    (t.metadata userType flags).type = t.type := by
  cases t <;> rfl

end TypeDescription

/-! ### Reading them -/

theorem readSchema_reads {schema : Option XmlSchema} (h : ∀ s ∈ schema, s.Fits) :
    Reads readSchema (schemaBytes schema) schema := by
  cases schema with
  | none => exact (readUInt8_reads (n := 0) (by decide)).bind_nil (.pure none)
  | some schema =>
    have hfits := h schema rfl
    refine (readUInt8_reads (n := 1) (by decide)).bind ((readBVarChar_reads hfits.dbname).bind ?_)
    refine (readBVarChar_reads hfits.owningSchema).bind ?_
    exact (readUsVarChar_reads hfits.xmlSchemaCollection).map fun xmlSchemaCollection =>
      some { schema with xmlSchemaCollection }

theorem readUDTInfo_reads {info : UdtInfo} (h : info.Fits) :
    Reads readUDTInfo info.bytes info := by
  refine (readUInt16LE_reads h.maxByteSize).bind ((readBVarChar_reads h.dbname).bind ?_)
  refine (readBVarChar_reads h.owningSchema).bind ((readBVarChar_reads h.typeName).bind ?_)
  exact (readUsVarChar_reads h.assemblyName).map fun assemblyName => { info with assemblyName }

/-- Each description is read with exactly its bytes. -/
theorem TypeDescription.reads {t : TypeDescription} (h : t.Fits) (userType flags : Nat) :
    Reads (readTypeInfo userType flags t.type) t.bytes (t.metadata userType flags) := by
  cases t with
  | fixed type htype =>
    simp only [fixedTypes, List.mem_cons, List.not_mem_nil, or_false] at htype
    rcases htype with rfl | rfl | rfl | rfl | rfl | rfl | rfl | rfl | rfl | rfl | rfl | rfl |
      rfl <;>
      exact .pure _
  | sized type htype dataLength =>
    simp only [sizedTypes, List.mem_cons, List.not_mem_nil, or_false] at htype
    rcases htype with rfl | rfl | rfl | rfl | rfl | rfl <;>
      exact (readUInt8_reads dataLength.toNat_lt).map _
  | variant dataLength => exact (readUInt32LE_reads dataLength.toNat_lt).map _
  | text type htype dataLength collation =>
    simp only [textTypes, List.mem_cons, List.not_mem_nil, or_false] at htype
    rcases htype with rfl | rfl | rfl | rfl <;>
      exact (readUInt16LE_reads dataLength.toNat_lt).bind
        ((readCollation_reads collation.property).map _)
  | longText type htype dataLength collation =>
    simp only [longTextTypes, List.mem_cons, List.not_mem_nil, or_false] at htype
    rcases htype with rfl | rfl <;>
      exact (readUInt32LE_reads dataLength.toNat_lt).bind
        ((readCollation_reads collation.property).map _)
  | binary type htype dataLength =>
    exact readTypeInfo_reads_binary userType flags htype dataLength.toNat_lt
  | image dataLength => exact (readUInt32LE_reads dataLength.toNat_lt).map _
  | xml schema =>
    exact (readSchema_reads h).map _
  | scaled type htype scale =>
    simp only [scaledTypes, List.mem_cons, List.not_mem_nil, or_false] at htype
    rcases htype with rfl | rfl | rfl <;> exact (readUInt8_reads scale.toNat_lt).map _
  | numeric type htype dataLength precision scale =>
    simp only [numericTypes, List.mem_cons, List.not_mem_nil, or_false] at htype
    rcases htype with rfl | rfl <;>
      exact (readUInt8_reads dataLength.toNat_lt).bind ((readUInt8_reads precision.toNat_lt).bind
        ((readUInt8_reads scale.toNat_lt).map _))
  | udt info => exact (readUDTInfo_reads h).map _

/-! ### Columns -/

/-- A type description behind the user type and the flags. -/
structure WireMetadata where
  userType : Nat
  flags : UInt16
  description : TypeDescription

namespace WireMetadata

def bytes (options : ParserOptions) (m : WireMetadata) : Bytes :=
  leBytes options.width m.userType ++ (leBytes 2 m.flags.toNat ++
    (leBytes 1 m.description.type.id ++ m.description.bytes))

/-- The user type has two bytes before TDS 7.2 and four since. -/
structure Fits (options : ParserOptions) (m : WireMetadata) : Prop where
  userType : m.userType < 256 ^ options.width
  description : m.description.Fits

def metadata (m : WireMetadata) : Metadata :=
  m.description.metadata m.userType m.flags.toNat

theorem reads {options : ParserOptions} {m : WireMetadata} (h : m.Fits options) :
    Reads (readMetadata options) (m.bytes options) m.metadata := by
  refine readMetadata_reads h.userType m.flags.toNat_lt ?_
  exact readDescription_reads m.description.type.id m.description.type.id_lt
    m.description.type.ofId_id (TypeDescription.reads h.description _ _)

end WireMetadata

/-- A column: the table it comes from, which only some types name, and its name. -/
structure WireColumn extends WireMetadata where
  tableName : List JsString
  name : JsString

namespace WireColumn

variable (options : ParserOptions)

/-- The parts of the table's name; before TDS 7.2 there is one, and no count. -/
def tableBytes (c : WireColumn) : Bytes :=
  if c.description.type.hasTableName then
    if options.before72 then c.tableName.flatMap usVarChar
    else leBytes 1 c.tableName.length ++ c.tableName.flatMap usVarChar
  else []

def bytes (c : WireColumn) : Bytes :=
  c.toWireMetadata.bytes options ++ (c.tableBytes options ++ bVarChar c.name)

structure Fits (c : WireColumn) : Prop where
  metadata : c.toWireMetadata.Fits options
  parts : c.tableName.length < 256
  part : ∀ part ∈ c.tableName, part.length < 65536
  single : options.before72 = true → c.tableName.length = 1
  name : c.name.length < 256

/-- The table's name, as the client shows it. -/
def shownTable (c : WireColumn) : Option (JsString ⊕ List JsString) :=
  if c.description.type.hasTableName then
    if options.before72 then some (.inl c.tableName.flatten) else some (.inr c.tableName)
  else none

/-- The description that the client makes of a column. -/
def shown (index : Nat) (c : WireColumn) : ColumnMetadata where
  toMetadata := c.metadata
  colName := shownName options index c.metadata c.name
  tableName := c.shownTable options

variable {options : ParserOptions}

theorem readTableName_reads {c : WireColumn} (h : c.Fits options) :
    Reads (readTableName options c.metadata) (c.tableBytes options) (c.shownTable options) := by
  have htype : c.metadata.type = c.description.type := TypeDescription.metadata_type ..
  rw [readTableName, htype, tableBytes, shownTable]
  cases htable : c.description.type.hasTableName with
  | false => exact .pure none
  | true =>
    rw [ParserOptions.select]
    cases hbefore : options.before72 with
    | true =>
      obtain ⟨name, hname⟩ := List.length_eq_one_iff.1 (h.single hbefore)
      have hread := (readUsVarChar_reads (h.part name (by simp [hname]))).map fun tableName =>
        (some (.inl tableName) : Option (JsString ⊕ List JsString))
      simpa [hname] using hread
    | false =>
      have hparts := Reads.times usVarChar fun part hpart => readUsVarChar_reads (h.part part hpart)
      exact (readUInt8_reads h.parts).bind (hparts.map fun tableName =>
        (some (.inr tableName) : Option (JsString ⊕ List JsString)))

theorem reads {c : WireColumn} (h : c.Fits options) (index : Nat) :
    Reads (readColumn options index) (c.bytes options) (c.shown options index) :=
  (WireMetadata.reads h.metadata).bind ((readTableName_reads h).bind
    (((readBVarChar_reads h.name).map (shownName options index c.metadata)).map fun colName =>
      { c.shown options index with colName }))

end WireColumn

/-! ### COLMETADATA -/

variable {options : ParserOptions}

/-- The descriptions from the given index on. -/
def shownColumns (options : ParserOptions) : (index : Nat) → List WireColumn → List ColumnMetadata
  | _, [] => []
  | index, column :: columns =>
    column.shown options index :: shownColumns options (index + 1) columns

/-- The bytes of a `COLMETADATA` behind its type. -/
def colMetadataBytes (options : ParserOptions) (columns : List WireColumn) : Bytes :=
  leBytes 2 columns.length ++ columns.flatMap (WireColumn.bytes options)

theorem awaitColumns_shown {columns : List WireColumn} (h : ∀ c ∈ columns, c.Fits options)
    (index : Nat) (s : List ColumnMetadata) :
    Task.Takes (awaitColumns options columns.length index) s
      (columns.flatMap (WireColumn.bytes options)) (shownColumns options index columns) s := by
  induction columns generalizing index with
  | nil => exact .pure [] s
  | cons column columns ih =>
    rw [List.forall_mem_cons] at h
    exact (Task.Takes.await (WireColumn.reads h.1 index).returns s).bind
      ((ih h.2 (index + 1)).map (column.shown options index :: ·))

/-- The columns are described in order, and become the ones of the rows behind. -/
theorem readColMetadataToken_takes {columns : List WireColumn} (h : ∀ c ∈ columns, c.Fits options)
    (hcount : columns.length < 65536) (s : List ColumnMetadata) :
    Task.Takes (readColMetadataToken options) s (colMetadataBytes options columns)
      (.colMetadata (shownColumns options 0 columns)) (shownColumns options 0 columns) := by
  have hcolumns : Task.Takes (colMetadataParser options) s (colMetadataBytes options columns)
      (shownColumns options 0 columns) s :=
    (Task.Takes.await (readUInt16LE_reads hcount).returns s).bind (awaitColumns_shown h 0 s)
  exact hcolumns.bind_nil (.set (.pure _ _))

end Tedious
