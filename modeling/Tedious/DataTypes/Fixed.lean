import Tedious.DataTypes.JsValue
import Tedious.DataTypes.Variable

/-!
# Tedious.DataTypes.Fixed

The types whose values have a size that the type description fixes (`data-types/*.ts`). A
value stands behind one length byte, and length 0 stands for `NULL`. The size is the same for
all values of most types; `Decimal` and `Numeric` choose it by the precision, and `Time`,
`DateTime2` and `DateTimeOffset` by the scale.

The description, the length and the data each work the size out on their own.
-/

namespace Tedious

open Chunked

/-! ### Sizes -/

/-- `generateParameterLength` of a size. -/
def fixedLength (size : Nat) : Option α → Bytes
  | none => [0x00]
  | some _ => leBytes 1 size

/-- `generateParameterData` of a value, if there is one. -/
def fixedData (write : α → Except JsError Bytes) : Option α → Except JsError (List Bytes)
  | none => .ok []
  | some value => do
    let data ← write value
    pure [data]

/-- A type with one size for all values, described by the number of its nullable variant and
this size. -/
def fixedType (id typeNumber size : Nat) (write : α → Except JsError Bytes) :
    DataTypeMethods α where
  id := id
  resolveLength := none
  resolvePrecision := none
  resolveScale := none
  generateTypeInfo _ := .ok (leBytes 1 typeNumber ++ leBytes 1 size)
  generateParameterLength parameter := .ok (fixedLength size parameter.value)
  generateParameterData parameter := fixedData write parameter.value

/-- The size of a numeric, by its precision. -/
def precisionSize (precision : Option JsNumber) : Nat :=
  if (JsNumber.ofOption precision).atMost 9 then 0x05
  else if (JsNumber.ofOption precision).atMost 19 then 0x09
  else if (JsNumber.ofOption precision).atMost 28 then 0x0D
  else 0x11

/-- The size of a time of day, by the cases of `switch (scale)`. -/
def scaleSize (scale : Option JsNumber) : Option Nat :=
  if scale ∈ [0, 1, 2].map fun n : Nat => some (JsNumber.ofNat n) then some 3
  else if scale ∈ [3, 4].map fun n : Nat => some (JsNumber.ofNat n) then some 4
  else if scale ∈ [5, 6, 7].map fun n : Nat => some (JsNumber.ofNat n) then some 5
  else none

/-! ### Dates -/

/-- A `Date` that `validate` accepted. -/
structure ValidDate where
  time : Int
  nanosecondDelta : Option JsNumber
  deriving DecidableEq, Repr

namespace ValidDate

variable (js : Runtime)

/-- The time value whose UTC fields a method looks at: the UTC fields of the date, or the
local ones. -/
def fields (useUTC : Bool) (date : ValidDate) : Int :=
  if useUTC then date.time else js.platform.localTime date.time

/-- `getTimezoneOffset()`. -/
def timezoneOffset (t : Int) : Rat := (t - js.platform.localTime t : Int) / 60000

/-- `EPOCH_DATE.until(date, ChronoUnit.DAYS)`, for the epoch that is `epoch` days before 1970. -/
def daysSince (epoch : Int) (useUTC : Bool) (date : ValidDate) : Int :=
  dayOf (date.fields js useUTC) + epoch

/-- The days from January 1st, 1 and from January 1st, 1900 to January 1st, 1970. -/
def EPOCH_1 : Int := 719162

def EPOCH_1900 : Int := 25567

example : EPOCH_1 = -dayFromYear 1 ∧ EPOCH_1900 = -dayFromYear 1900 := by decide

/-- Milliseconds since midnight, in units of the scale. -/
def scaledTime (scale : Option JsNumber) (milliseconds : Int) (date : ValidDate) : JsNumber :=
  let scale := JsNumber.ofOption scale
  let ten := JsNumber.ofNat 10
  let timestamp := js.multiply (.ofInt milliseconds) (js.pow ten (js.add scale (.ofInt (-3))))
  let timestamp := js.add timestamp
    (js.multiply (date.nanosecondDelta.getD (.ofNat 0)) (js.pow ten scale))
  timestamp.round

/-- The time of day that `Time` and `DateTime2` send. -/
def timestamp (scale : Option JsNumber) (useUTC : Bool) (date : ValidDate) : JsNumber :=
  date.scaledTime js scale (timeWithinDay (date.fields js useUTC))

/-- The time of day that `DateTimeOffset` sends: in UTC but for the milliseconds. -/
def offsetTimestamp (scale : Option JsNumber) (date : ValidDate) : JsNumber :=
  date.scaledTime js scale
    (timeWithinDay date.time / 1000 * 1000 + js.platform.localTime date.time % 1000)

/-- A time of day, as `switch (scale)` writes it. -/
def writeTimestamp (scale : Option JsNumber) (timestamp : JsNumber) : Except JsError Bytes :=
  match scaleSize scale with
  | some 3 => .ok (writeUInt24LE timestamp)
  | some 4 => writeUIntLE 4 timestamp
  | some 5 => writeUInt40LE timestamp
  | _ => .ok []

/-- The day, as the types with a scale write it. -/
def writeDays (useUTC : Bool) (date : ValidDate) : Bytes :=
  writeUInt24LE (.ofInt (date.daysSince js EPOCH_1 useUTC))

end ValidDate

/-- `resolveScale` of the types with a scale. -/
def resolveTimeScale (parameter : ParameterData α) : JsNumber :=
  match parameter.scale, parameter.value with
  | some scale, _ => scale
  | none, none => .ofNat 0
  | none, some _ => .ofNat 7

/-- A type with a scale: the time of day, and `extra` bytes behind it. -/
def scaledType (id extra : Nat)
    (write : Option JsNumber → ValidDate → Except JsError Bytes) : DataTypeMethods ValidDate where
  id := id
  resolveLength := none
  resolvePrecision := none
  resolveScale := some resolveTimeScale
  generateTypeInfo parameter :=
    .ok (leBytes 1 id ++ (JsNumber.ofOption parameter.scale).toByte)
  generateParameterLength parameter :=
    match parameter.value with
    | none => .ok [0x00]
    | some _ =>
      match scaleSize parameter.scale with
      | some size => .ok (leBytes 1 (size + extra))
      | none => .error (.error "invalid scale")
  generateParameterData parameter := fixedData (write parameter.scale) parameter.value

/-! ### Numerics -/

/-- The sign and the digits of a numeric. -/
def writeNumeric (js : Runtime) (precision scale : Option JsNumber) (value : JsNumber) :
    Except JsError Bytes := do
  let sign := leBytes 1 (if value.isNegative then 0 else 1)
  let digits := (js.multiply value (js.pow (.ofNat 10) (.ofOption scale))).abs.round
  if (JsNumber.ofOption precision).atMost 9 then do
    let low ← writeUIntLE 4 digits
    pure (sign ++ low)
  else do
    let low ← writeUInt64LE digits
    if (JsNumber.ofOption precision).atMost 19 then pure (sign ++ low)
    else if (JsNumber.ofOption precision).atMost 28 then pure (sign ++ low ++ leBytes 4 0)
    else pure (sign ++ low ++ leBytes 4 0 ++ leBytes 4 0)

/-- `Decimal` and `Numeric`, described by the number of the nullable variant. -/
def numericType (js : Runtime) (id typeNumber : Nat) : DataTypeMethods JsNumber where
  id := id
  resolveLength := none
  resolvePrecision := some fun parameter =>
    match parameter.precision, parameter.value with
    | some precision, _ => precision
    | none, none => .ofNat 1
    | none, some _ => .ofNat 18
  resolveScale := some fun parameter => parameter.scale.getD (.ofNat 0)
  generateTypeInfo parameter :=
    .ok (leBytes 1 typeNumber ++ (leBytes 1 (precisionSize parameter.precision) ++
      ((JsNumber.ofOption parameter.precision).toByte ++
        (JsNumber.ofOption parameter.scale).toByte)))
  generateParameterLength parameter :=
    .ok (fixedLength (precisionSize parameter.precision) parameter.value)
  generateParameterData parameter :=
    fixedData (writeNumeric js parameter.precision parameter.scale) parameter.value

/-! ### Identifiers -/

/-- `CHARCODEMAP[c]`. -/
def hexValue (c : UInt16) : Option Nat := (digitValue c).filter (· < 16)

/-- `CHARCODEMAP[guid.charCodeAt(i)][guid.charCodeAt(i + 1)]`. -/
def guidByte (guid : JsString) (i : Nat) : Except JsError Bytes :=
  match (guid[i]?).bind hexValue with
  | none => .error .typeError
  | some high => .ok (leBytes 1 (((guid[i + 1]?).bind hexValue).elim 0 fun low => 16 * high + low))

def guidToArray (guid : JsString) : Except JsError Bytes := do
  let bytes ← [6, 4, 2, 0, 11, 9, 16, 14, 19, 21, 24, 26, 28, 30, 32, 34].mapM (guidByte guid)
  pure bytes.flatten

/-- `/^[0-9a-f]{8}-[0-9a-f]{4}-[0-9a-f]{4}-[0-9a-f]{4}-[0-9a-f]{12}$/i`. -/
def isGuid (s : JsString) : Bool :=
  s.length = 36 && s.zipIdx.all fun (c, i) =>
    if i ∈ [8, 13, 18, 23] then c = 0x2D else (hexValue c).isSome

/-! ### The types -/

/-- The `NULL_LENGTH` of the types with four length bytes. -/
def LONG_NULL_LENGTH : Bytes := [0xFF, 0xFF, 0xFF, 0xFF]

/-- `IntN` of a size. -/
def integerType (id size : Nat) (write : Int → Except JsError Bytes) : DataTypeMethods Int :=
  fixedType id 0x26 size write

/-- The fields of `new Date(1900, 0, 1)`, or of the same date in UTC. Its zone's offset is taken
exactly, seconds included, where `getTimezoneOffset` may give whole minutes only. -/
def epochDate (js : Runtime) (useUTC : Bool) : Int :=
  let epoch := dayFromYear 1900 * msPerDay
  if useUTC then epoch else js.platform.localTime (js.platform.utc epoch)

/-- The days and the minutes of `SmallDateTime`. In local time, `dstDiff` makes up for the
difference between the time zone offsets of the value and of the epoch. The offsets are exact
here; that `getTimezoneOffset` may cut them to whole minutes is not modelled. -/
def writeSmallDateTime (js : Runtime) (useUTC : Bool) (date : ValidDate) :
    Except JsError Bytes := do
  let days := (date.fields js useUTC - epochDate js useUTC) / msPerDay
  let minutes := timeWithinDay (date.fields js useUTC) / 60000
  let days ← writeUIntLE 2 (.ofInt days)
  let minutes ← writeUIntLE 2 (.ofInt minutes)
  pure (days ++ minutes)

/-- The days from January 1st, 1900 and the three hundredths of a second of `DateTime`. -/
def dateTimeFields (js : Runtime) (useUTC : Bool) (date : ValidDate) : Int × JsNumber :=
  let days := date.daysSince js ValidDate.EPOCH_1900 useUTC
  let milliseconds := JsNumber.ofInt (timeWithinDay (date.fields js useUTC))
  let threeAndAThird := js.add (.ofNat 3) (js.divide (.ofNat 1) (.ofNat 3))
  let threeHundredthsOfSecond := (js.divide milliseconds threeAndAThird).round
  if threeHundredthsOfSecond = .ofNat 25920000 then (days + 1, .ofNat 0)
  else (days, threeHundredthsOfSecond)

def writeDateTime (js : Runtime) (useUTC : Bool) (date : ValidDate) : Except JsError Bytes := do
  let (days, threeHundredthsOfSecond) := dateTimeFields js useUTC date
  let days ← writeIntLE 4 (.ofInt days)
  let time ← writeUIntLE 4 threeHundredthsOfSecond
  pure (days ++ time)

namespace TYPES

variable (js : Runtime) (useUTC : Bool)

def TinyInt := integerType 0x30 1 fun value => writeUIntLE 1 (.ofInt value)

def SmallInt := integerType 0x34 2 fun value => writeIntLE 2 (.ofInt value)

def Int := integerType 0x38 4 fun value => writeIntLE 4 (.ofInt value)

/-- The value is a number that need not be whole. -/
def BigInt : DataTypeMethods JsNumber := fixedType 0x7F 0x26 8 writeInt64LE

def Bit : DataTypeMethods Bool :=
  fixedType 0x32 0x68 1 fun value => .ok (leBytes 1 (if value then 1 else 0))

def SmallMoney : DataTypeMethods JsNumber :=
  fixedType 0x7A 0x6E 4 fun value => writeIntLE 4 (js.multiply value (.ofNat 10000))

/-- The high half first. -/
def Money : DataTypeMethods JsNumber :=
  fixedType 0x3C 0x6E 8 fun value => do
    let value := js.multiply value (.ofNat 10000)
    let high ← writeIntLE 4 (js.multiply value SHIFT_RIGHT_32).floor
    let low ← writeIntLE 4 (.ofInt value.toInt32)
    pure (high ++ low)

def Real : DataTypeMethods JsNumber :=
  fixedType 0x3B 0x6D 4 fun value => .ok (leBytes 4 (js.float32 value))

def Float : DataTypeMethods JsNumber :=
  fixedType 0x3E 0x6D 8 fun value => .ok (leBytes 8 (js.float64 value))

def SmallDateTime : DataTypeMethods ValidDate :=
  fixedType 0x3A 0x6F 4 (writeSmallDateTime js useUTC)

def DateTime : DataTypeMethods ValidDate := fixedType 0x3D 0x6F 8 (writeDateTime js useUTC)

/-- The description is the type number alone. -/
def Date : DataTypeMethods ValidDate :=
  { fixedType 0x28 0x28 3 fun date =>
      writeUIntLE 3 (.ofInt (date.daysSince js ValidDate.EPOCH_1 useUTC)) with
    generateTypeInfo := fun _ => .ok (leBytes 1 0x28) }

def Time : DataTypeMethods ValidDate :=
  scaledType 0x29 0 fun scale date =>
    ValidDate.writeTimestamp scale (date.timestamp js scale useUTC)

def DateTime2 : DataTypeMethods ValidDate :=
  scaledType 0x2A 3 fun scale date => do
    let timestamp ← ValidDate.writeTimestamp scale (date.timestamp js scale useUTC)
    pure (timestamp ++ date.writeDays js useUTC)

/-- Always in UTC, whatever the options say; but the milliseconds are the local ones. -/
def DateTimeOffset : DataTypeMethods ValidDate :=
  scaledType 0x2B 5 fun scale date => do
    let timestamp ← ValidDate.writeTimestamp scale (date.offsetTimestamp js scale)
    let offset ← writeIntLE 2 (.finite (-ValidDate.timezoneOffset js date.time))
    pure (timestamp ++ (date.writeDays js true ++ offset))

def Decimal : DataTypeMethods JsNumber := numericType js 0x37 0x6A

def Numeric : DataTypeMethods JsNumber := numericType js 0x3F 0x6C

def UniqueIdentifier : DataTypeMethods JsString :=
  { fixedType 0x24 0x24 0x10 guidToArray with resolveLength := some fun _ => .ofNat 16 }

/-- `Text` and `NText` of the bytes of their values. -/
def longText (id : Nat) (encode : α → Bytes) (length : α → Nat) : DataTypeMethods α where
  id := id
  resolveLength := some fun parameter =>
    match parameter.value with
    | some value => .ofNat (length value)
    | none => .ofInt (-1)
  resolvePrecision := none
  resolveScale := none
  generateTypeInfo parameter := do
    let length ← writeIntLE 4 (.ofOption parameter.length)
    pure (leBytes 1 id ++ (length ++ collationField parameter.collation))
  generateParameterLength parameter :=
    match parameter.value with
    | none => .ok LONG_NULL_LENGTH
    | some value => writeIntLE 4 (.ofNat (encode value).length)
  generateParameterData parameter := .ok (parameter.value.map encode).toList

def Text : DataTypeMethods Bytes := longText 0x23 (fun value => value) List.length

def NText : DataTypeMethods JsString := longText 0x63 ucs2Bytes List.length

/-- Like `Text`, without a collation. -/
def Image : DataTypeMethods Bytes :=
  { longText 0x22 (fun value => value) List.length with
    generateTypeInfo := fun parameter => do
      let length ← writeIntLE 4 (.ofOption parameter.length)
      pure (leBytes 1 0x22 ++ length) }

end TYPES

end Tedious
