import Tedious.Collation
import Tedious.Token.Helpers

/-!
# Tedious.Metadata

The data types (`data-type.ts`) and the type descriptions of columns and return
values (`metadata-parser.ts`).
-/

namespace Tedious

open Chunked

/-! ### Data types -/

/-- The data types, by their names. -/
inductive DataType
  | Null | TinyInt | Bit | SmallInt | Int | SmallDateTime | Real | Money | DateTime | Float
  | Decimal | Numeric | SmallMoney | BigInt | Image | Text | UniqueIdentifier | IntN | NText
  | BitN | DecimalN | NumericN | FloatN | MoneyN | DateTimeN | VarBinary | VarChar | Binary
  | Char | NVarChar | NChar | Xml | Time | Date | DateTime2 | DateTimeOffset | UDT | TVP | Variant
  deriving DecidableEq, Repr

namespace DataType

/-- `TYPE`: the data type of a type number. -/
def ofId : Nat → Option DataType
  | 0x1F => some .Null
  | 0x22 => some .Image
  | 0x23 => some .Text
  | 0x24 => some .UniqueIdentifier
  | 0x26 => some .IntN
  | 0x28 => some .Date
  | 0x29 => some .Time
  | 0x2A => some .DateTime2
  | 0x2B => some .DateTimeOffset
  | 0x30 => some .TinyInt
  | 0x32 => some .Bit
  | 0x34 => some .SmallInt
  | 0x37 => some .Decimal
  | 0x38 => some .Int
  | 0x3A => some .SmallDateTime
  | 0x3B => some .Real
  | 0x3C => some .Money
  | 0x3D => some .DateTime
  | 0x3E => some .Float
  | 0x3F => some .Numeric
  | 0x62 => some .Variant
  | 0x63 => some .NText
  | 0x68 => some .BitN
  | 0x6A => some .DecimalN
  | 0x6C => some .NumericN
  | 0x6D => some .FloatN
  | 0x6E => some .MoneyN
  | 0x6F => some .DateTimeN
  | 0x7A => some .SmallMoney
  | 0x7F => some .BigInt
  | 0xA5 => some .VarBinary
  | 0xA7 => some .VarChar
  | 0xAD => some .Binary
  | 0xAF => some .Char
  | 0xE7 => some .NVarChar
  | 0xEF => some .NChar
  | 0xF0 => some .UDT
  | 0xF1 => some .Xml
  | 0xF3 => some .TVP
  | _ => none

/-- The `id` of a type. -/
def id : DataType → Nat
  | Null => 0x1F
  | Image => 0x22
  | Text => 0x23
  | UniqueIdentifier => 0x24
  | IntN => 0x26
  | Date => 0x28
  | Time => 0x29
  | DateTime2 => 0x2A
  | DateTimeOffset => 0x2B
  | TinyInt => 0x30
  | Bit => 0x32
  | SmallInt => 0x34
  | Decimal => 0x37
  | Int => 0x38
  | SmallDateTime => 0x3A
  | Real => 0x3B
  | Money => 0x3C
  | DateTime => 0x3D
  | Float => 0x3E
  | Numeric => 0x3F
  | Variant => 0x62
  | NText => 0x63
  | BitN => 0x68
  | DecimalN => 0x6A
  | NumericN => 0x6C
  | FloatN => 0x6D
  | MoneyN => 0x6E
  | DateTimeN => 0x6F
  | SmallMoney => 0x7A
  | BigInt => 0x7F
  | VarBinary => 0xA5
  | VarChar => 0xA7
  | Binary => 0xAD
  | Char => 0xAF
  | NVarChar => 0xE7
  | NChar => 0xEF
  | UDT => 0xF0
  | Xml => 0xF1
  | TVP => 0xF3

theorem ofId_id (type : DataType) : ofId type.id = some type := by cases type <;> rfl

theorem id_lt (type : DataType) : type.id < 256 := by cases type <;> decide

/-- The types whose column description names a table. -/
def hasTableName : DataType → Bool
  | Image | Text | NText => true
  | _ => false

/-- The `name` of a type, for messages. -/
def name : DataType → String
  | Null => "Null"
  | TinyInt => "TinyInt"
  | Bit => "Bit"
  | SmallInt => "SmallInt"
  | Int => "Int"
  | SmallDateTime => "SmallDateTime"
  | Real => "Real"
  | Money => "Money"
  | DateTime => "DateTime"
  | Float => "Float"
  | Decimal => "Decimal"
  | Numeric => "Numeric"
  | SmallMoney => "SmallMoney"
  | BigInt => "BigInt"
  | Image => "Image"
  | Text => "Text"
  | UniqueIdentifier => "UniqueIdentifier"
  | IntN => "IntN"
  | NText => "NText"
  | BitN => "BitN"
  | DecimalN => "DecimalN"
  | NumericN => "NumericN"
  | FloatN => "FloatN"
  | MoneyN => "MoneyN"
  | DateTimeN => "DateTimeN"
  | VarBinary => "VarBinary"
  | VarChar => "VarChar"
  | Binary => "Binary"
  | Char => "Char"
  | NVarChar => "NVarChar"
  | NChar => "NChar"
  | Xml => "Xml"
  | Time => "Time"
  | Date => "Date"
  | DateTime2 => "DateTime2"
  | DateTimeOffset => "DateTimeOffset"
  | UDT => "UDT"
  | TVP => "TVP"
  | Variant => "Variant"

end DataType

/-! ### Descriptions -/

structure XmlSchema where
  dbname : JsString
  owningSchema : JsString
  xmlSchemaCollection : JsString
  deriving DecidableEq, Repr

structure UdtInfo where
  maxByteSize : Nat
  dbname : JsString
  owningSchema : JsString
  typeName : JsString
  assemblyName : JsString
  deriving DecidableEq, Repr

/-- What a type description says about a value. -/
structure Metadata where
  userType : Nat
  flags : Nat
  type : DataType
  collation : Option Collation := none
  precision : Option Nat := none
  scale : Option Nat := none
  dataLength : Option Nat := none
  schema : Option XmlSchema := none
  udtInfo : Option UdtInfo := none
  deriving DecidableEq, Repr

/-- The options that the token parser looks at. A column name replacer is a pure
function of the name, the column's index and its description. -/
structure ParserOptions where
  useUTC : Bool
  lowerCaseGuids : Bool
  tdsVersion : JsString
  useColumnNames : Bool
  columnNameReplacer : Option (JsString → Nat → Metadata → JsString)
  camelCaseColumns : Bool
  platform : Platform

/-- The options of a connection that was configured with none. -/
def ParserOptions.default (platform : Platform) : ParserOptions where
  useUTC := true
  lowerCaseGuids := false
  tdsVersion := JsString.ofString "7_4"
  useColumnNames := false
  columnNameReplacer := none
  camelCaseColumns := false
  platform := platform

/-- `options.tdsVersion < '7_2'`. -/
def ParserOptions.before72 (options : ParserOptions) : Bool :=
  decide (options.tdsVersion < JsString.ofString "7_2")

/-- `options.tdsVersion < '7_2' ? old : new`. -/
def ParserOptions.select (options : ParserOptions) (old new : Reader α) : Reader α :=
  if options.before72 then old else new

/-- `'%02X'` of a byte. -/
def hexByte (n : Nat) : String :=
  String.ofList [(Nat.digitChar (n / 16)).toUpper, (Nat.digitChar (n % 16)).toUpper]

def readCollation : Reader Collation := .number Collation.fromBuffer 5

def readSchema : Reader (Option XmlSchema) := do
  let schemaPresent ← readUInt8
  if schemaPresent ≠ 0x01 then
    pure none
  else do
    let dbname ← readBVarChar
    let owningSchema ← readBVarChar
    let xmlSchemaCollection ← readUsVarChar
    pure (some { dbname, owningSchema, xmlSchemaCollection })

def readUDTInfo : Reader UdtInfo := do
  let maxByteSize ← readUInt16LE
  let dbname ← readBVarChar
  let owningSchema ← readBVarChar
  let typeName ← readBVarChar
  let assemblyName ← readUsVarChar
  pure { maxByteSize, dbname, owningSchema, typeName, assemblyName }

/-- The part of a type description behind the type number. -/
def readTypeInfo (userType flags : Nat) (type : DataType) : Reader Metadata :=
  match type with
  | .Null | .TinyInt | .SmallInt | .Int | .BigInt | .Real | .Float | .SmallMoney | .Money
  | .Bit | .SmallDateTime | .DateTime | .Date =>
    pure { userType, flags, type }
  | .IntN | .FloatN | .MoneyN | .BitN | .UniqueIdentifier | .DateTimeN => do
    let dataLength ← readUInt8
    pure { userType, flags, type, dataLength := some dataLength }
  | .Variant => do
    let dataLength ← readUInt32LE
    pure { userType, flags, type, dataLength := some dataLength }
  | .VarChar | .Char | .NVarChar | .NChar => do
    let dataLength ← readUInt16LE
    let collation ← readCollation
    pure { userType, flags, type, collation := some collation, dataLength := some dataLength }
  | .Text | .NText => do
    let dataLength ← readUInt32LE
    let collation ← readCollation
    pure { userType, flags, type, collation := some collation, dataLength := some dataLength }
  | .VarBinary | .Binary => do
    let dataLength ← readUInt16LE
    pure { userType, flags, type, dataLength := some dataLength }
  | .Image => do
    let dataLength ← readUInt32LE
    pure { userType, flags, type, dataLength := some dataLength }
  | .Xml => do
    let schema ← readSchema
    pure { userType, flags, type, schema := schema }
  | .Time | .DateTime2 | .DateTimeOffset => do
    let scale ← readUInt8
    pure { userType, flags, type, scale := some scale }
  | .NumericN | .DecimalN => do
    let dataLength ← readUInt8
    let precision ← readUInt8
    let scale ← readUInt8
    pure { userType, flags, type, precision := some precision, scale := some scale,
           dataLength := some dataLength }
  | .UDT => do
    let udtInfo ← readUDTInfo
    pure { userType, flags, type, udtInfo := some udtInfo }
  | .Decimal | .Numeric | .TVP => .error s!"Unrecognised type {type.name}"

def readMetadata (options : ParserOptions) : Reader Metadata := do
  let userType ← options.select readUInt16LE readUInt32LE
  let flags ← readUInt16LE
  let typeNumber ← readUInt8
  match DataType.ofId typeNumber with
  | none => .error s!"Unrecognised data type 0x{hexByte typeNumber}"
  | some type => readTypeInfo userType flags type

/-! ### Stability -/

theorem readCollation_steady : Steady readCollation := Reader.number_steady ..

theorem readSchema_steady : Steady readSchema := by
  refine .bind readUInt8_steady fun schemaPresent => ?_
  split
  · exact .pure _
  · exact .bind readBVarChar_steady fun _ => .bind readBVarChar_steady fun _ =>
      .bind readUsVarChar_steady fun _ => .pure _

theorem readUDTInfo_steady : Steady readUDTInfo :=
  .bind readUInt16LE_steady fun _ => .bind readBVarChar_steady fun _ =>
    .bind readBVarChar_steady fun _ => .bind readBVarChar_steady fun _ =>
    .bind readUsVarChar_steady fun _ => .pure _

theorem readTypeInfo_steady (userType flags : Nat) (type : DataType) :
    Steady (readTypeInfo userType flags type) := by
  cases type with
  | IntN | FloatN | MoneyN | BitN | UniqueIdentifier | DateTimeN | Time | DateTime2
  | DateTimeOffset =>
    exact .bind readUInt8_steady fun _ => .pure _
  | Variant | Image => exact .bind readUInt32LE_steady fun _ => .pure _
  | VarBinary | Binary => exact .bind readUInt16LE_steady fun _ => .pure _
  | VarChar | Char | NVarChar | NChar =>
    exact .bind readUInt16LE_steady fun _ => .bind readCollation_steady fun _ => .pure _
  | Text | NText =>
    exact .bind readUInt32LE_steady fun _ => .bind readCollation_steady fun _ => .pure _
  | Xml => exact .bind readSchema_steady fun _ => .pure _
  | NumericN | DecimalN =>
    exact .bind readUInt8_steady fun _ => .bind readUInt8_steady fun _ =>
      .bind readUInt8_steady fun _ => .pure _
  | UDT => exact .bind readUDTInfo_steady fun _ => .pure _
  | Decimal | Numeric | TVP => exact Reader.error_steady _
  | _ => exact .pure _

theorem ParserOptions.select_steady (options : ParserOptions) {old new : Reader α}
    (hold : Steady old) (hnew : Steady new) : Steady (options.select old new) := by
  unfold ParserOptions.select
  split
  · exact hold
  · exact hnew

theorem readMetadata_steady (options : ParserOptions) : Steady (readMetadata options) := by
  refine .bind (options.select_steady readUInt16LE_steady readUInt32LE_steady) fun userType =>
    .bind readUInt16LE_steady fun flags => .bind readUInt8_steady fun typeNumber => ?_
  cases DataType.ofId typeNumber with
  | none => exact Reader.error_steady _
  | some type => exact readTypeInfo_steady userType flags type

end Tedious
