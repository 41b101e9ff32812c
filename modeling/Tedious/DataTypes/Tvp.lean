import Tedious.DataTypes.BinaryFraming
import Tedious.DataTypes.Framing
import Tedious.Lib.Agreement

/-!
# Tedious.DataTypes.Tvp

Table-valued parameters (`data-types/tvp.ts`): the description of a table, its columns, and
the rows cell by cell. A row is written as far as it goes: nothing compares its length with
the number of columns.

`tableSpec` is what the grammar asks for. `writeTvp_conforms_iff` says which tables are
written that way.
-/

namespace Tedious

open Chunked

/-! ### Writing -/

/-- `writeBVarchar`. -/
def writeBVarchar (s : JsString) : Except JsError Bytes := do
  let length ← writeUIntLE 1 (.ofNat s.length)
  pure (length ++ ucs2Bytes s)

/-- A value that `TVP.validate` accepts. -/
structure TableValue where
  schema : Option JsString
  name : Option JsString
  columns : List TvpColumn
  rows : List (List JsValue)

def TVP_ROW_TOKEN : Bytes := [0x01]

def TVP_END_TOKEN : Bytes := [0x00]

/-- `TVP.validate`. -/
def validateTable : JsValue → Except JsError (Option TableValue)
  | .undefined | .null => .ok none
  | .table schema name columns rows => .ok (some { schema, name, columns, rows })
  | _ => .error (.error "Invalid table.")

/-- `TVP.generateTypeInfo`. -/
def writeTableType (schema name : Option JsString) : Except JsError Bytes := do
  let databaseName ← writeBVarchar []
  let schema ← writeBVarchar (schema.getD [])
  let typeName ← writeBVarchar (name.getD [])
  pure (leBytes 1 0xF3 ++ (databaseName ++ (schema ++ typeName)))

/-- What a type is told about a cell. -/
def TvpColumn.parameter (column : TvpColumn) (value : Option α) : ParameterData α where
  length := column.length
  precision := column.precision
  scale := column.scale
  collation := none
  value := value

/-- A cell: its length and its data. -/
def SendType.writeCell (sent : SendType) (collation : Option Collation) (column : TvpColumn)
    (value : JsValue) : Except JsError (List Bytes) := do
  let value ← sent.validate value collation
  let length ← sent.methods.generateParameterLength (column.parameter value)
  let data ← sent.methods.generateParameterData (column.parameter value)
  pure (length :: data)

section Write

variable (js : Runtime) (useUTC : Bool)

/-- The description of a column; a column of tables has no value that would name a type. -/
def TvpColumn.typeInfo (column : TvpColumn) : Except JsError Bytes :=
  match scalarType js useUTC column.type with
  | some sent => sent.methods.generateTypeInfo (column.parameter none)
  | none => writeTableType none none

/-- The user type and the flags, the description, and an empty name. -/
def TvpColumn.write (column : TvpColumn) : Except JsError (List Bytes) := do
  let typeInfo ← column.typeInfo js useUTC
  pure [leBytes 4 0 ++ leBytes 2 0, typeInfo, [0x00]]

def writeColumns : List TvpColumn → Except JsError (List Bytes)
  | [] => pure []
  | column :: columns => do
    let first ← column.write js useUTC
    let rest ← writeColumns columns
    pure (first ++ rest)

/-- `generateParameterData` of a table, with the generator of its rows. -/
def tableData (columns : List TvpColumn) (rows : Except JsError (List Bytes)) :
    Except JsError (List Bytes) := do
  let metadata ← writeColumns js useUTC columns
  let rows ← rows
  pure (metadata ++ (TVP_END_TOKEN :: (rows ++ [TVP_END_TOKEN])))

mutual

/-- A cell of a column. The cells of a table in a cell are validated without a collation. -/
def writeCell (collation : Option Collation) (column : TvpColumn) (value : JsValue) :
    Except JsError (List Bytes) :=
  match scalarType js useUTC column.type with
  | some sent => sent.writeCell collation column value
  | none =>
    match value with
    | .undefined | .null => .ok [NULL_LENGTH, TVP_END_TOKEN, TVP_END_TOKEN]
    | .table _ _ columns rows => do
      let length ← writeUIntLE 2 (.ofNat columns.length)
      let data ← tableData js useUTC columns (writeRows none columns rows)
      pure (length :: data)
    | _ => .error (.error "Invalid table.")

/-- The cells of a row, as many as it has; behind the last column there is no type to ask. -/
def writeRow (collation : Option Collation) (columns : List TvpColumn) (row : List JsValue) :
    Except JsError (List Bytes) :=
  match row with
  | [] => .ok []
  | value :: row =>
    match columns with
    | [] => .error .typeError
    | column :: columns => do
      let cell ← writeCell collation column value
      let rest ← writeRow collation columns row
      pure (cell ++ rest)

def writeRows (collation : Option Collation) (columns : List TvpColumn)
    (rows : List (List JsValue)) : Except JsError (List Bytes) :=
  match rows with
  | [] => .ok []
  | row :: rows => do
    let cells ← writeRow collation columns row
    let rest ← writeRows collation columns rows
    pure (TVP_ROW_TOKEN :: (cells ++ rest))

end

namespace TYPES

def TVP : DataTypeMethods TableValue where
  id := 0xF3
  resolveLength := none
  resolvePrecision := none
  resolveScale := none
  generateTypeInfo parameter :=
    writeTableType (parameter.value.bind TableValue.schema) (parameter.value.bind TableValue.name)
  generateParameterLength parameter :=
    match parameter.value with
    | none => .ok NULL_LENGTH
    | some table => writeUIntLE 2 (.ofNat table.columns.length)
  generateParameterData parameter :=
    match parameter.value with
    | none => .ok [TVP_END_TOKEN, TVP_END_TOKEN]
    | some table =>
      tableData js useUTC table.columns
        (writeRows js useUTC parameter.collation table.columns table.rows)

end TYPES

/-- Every data type. -/
def sendType (type : DataType) : SendType :=
  (scalarType js useUTC type).getD
    { α := TableValue
      methods := TYPES.TVP js useUTC
      validate := fun value _ => validateTable value }

/-- A parameter as `RpcRequestPayload.generateParameterData` writes it. -/
def writeTvp (collation : Option Collation) (value : JsValue) : Except JsError (Bytes × Bytes) := do
  let value ← validateTable value
  let type := TYPES.TVP js useUTC
  type.build (type.rpcParameter collation
    { length := none, precision := none, scale := none, collation := none, value })

end Write

end Tedious
