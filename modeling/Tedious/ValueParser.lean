import Tedious.Metadata

/-!
# Tedious.ValueParser

Decoding a column value or a return value (`value-parser.ts`, `guid-parser.ts`).

Every value reader is stable, but not every one moves forward: for the binary and
character types inside an `sql_variant` the length of the data is what the property
bytes leave of the declared length, and nothing keeps it from being negative.
`readBinary`, `readChars` and `readNChars` then check nothing and hand back an
offset that lies before the one they were given.
-/

namespace Tedious

open Chunked

/-! ### Bytes and text -/

def readBinary (dataLength : Int) : Reader Bytes := .window Bytes.slice dataLength

/-- `iconv.decode(data, codepage ?? 'utf8')`. -/
def decodeChars (p : Platform) (codepage : Option Encoding) (data : Bytes) : JsString :=
  p.iconvDecode data ((codepage.map Encoding.name).getD "utf8")

def readChars (p : Platform) (dataLength : Int) (codepage : Option Encoding) : Reader JsString := do
  let data ← readBinary dataLength
  pure (decodeChars p codepage data)

def readNChars (dataLength : Int) : Reader JsString := .window toUcs2 dataLength

/-- `bufferToLowerCaseGuid` and `bufferToUpperCaseGuid`. -/
def bufferToGuid (lowerCase : Bool) (buffer : Bytes) : String :=
  let hex := fun i =>
    let digits := hexByte (Collation.byteAt buffer i)
    if lowerCase then digits.toLower else digits
  let group := fun places : List Nat => String.join (places.map hex)
  "-".intercalate
    [group [3, 2, 1, 0], group [5, 4], group [7, 6], group [8, 9], group [10, 11, 12, 13, 14, 15]]

def readUniqueIdentifier (options : ParserOptions) : Reader Value := do
  let data ← readBinary 0x10
  pure (.string (JsString.ofString (bufferToGuid options.lowerCaseGuids data)))

/-! ### Numbers -/

def readTinyInt : Reader Value := do
  let value ← readUInt8
  pure (.number value)

def readSmallInt : Reader Value := do
  let value ← readInt16LE
  pure (.number value)

def readInt : Reader Value := do
  let value ← readInt32LE
  pure (.number value)

def readBigInt : Reader Value := do
  let value ← readBigInt64LE
  pure (.string (JsString.ofString (toString value)))

def readReal : Reader Value := do
  let value ← readFloatLE
  pure (.float32 value)

def readFloat : Reader Value := do
  let value ← readDoubleLE
  pure (.float64 value)

def moneyDivisor : Rat := 10000

def readSmallMoney : Reader Value := do
  let value ← readInt32LE
  pure (.number (value / moneyDivisor))

def readMoney : Reader Value := do
  let high ← readInt32LE
  let low ← readUInt32LE
  pure (.number ((low + 0x100000000 * high) / moneyDivisor))

def readBit : Reader Value := do
  let value ← readUInt8
  pure (.boolean (value ≠ 0))

/-- The digits of a numeric. -/
def readNumericDigits : Int → Reader Nat
  | 5 => readUInt32LE
  | 9 => readUNumeric64LE
  | 13 => readUNumeric96LE
  | 17 => readUNumeric128LE
  | dataLength => .error s!"Unsupported numeric dataLength {dataLength}"

/-- The value is the exact quotient, and the digits are read exactly, where the source computes
doubles. Without a scale the result is not a number. -/
def readNumeric (dataLength : Int) (scale : Option Nat) : Reader Value := do
  let sign ← readUInt8
  let value ← readNumericDigits dataLength
  pure (match scale with
    | some scale => .number ((value * if sign = 1 then 1 else -1) / 10 ^ scale)
    | none => .nan)

/-! ### Dates -/

def readSmallDateTime (options : ParserOptions) : Reader Value := do
  let days ← readUInt16LE
  let minutes ← readUInt16LE
  pure (.date (newDate options.platform options.useUTC 1900 (1 + days) (minutes * 60000)) none)

/-- `Math.round(n * (3 + 1/3))`. -/
def threeAndAThird (n : Int) : Int := (20 * n + 3) / 6

def readDateTime (options : ParserOptions) : Reader Value := do
  let days ← readInt32LE
  let threeHundredthsOfSecond ← readInt32LE
  let milliseconds := threeAndAThird threeHundredthsOfSecond
  pure (.date (newDate options.platform options.useUTC 1900 (1 + days) milliseconds) none)

/-- The time of day as it is sent, in units of the scale. -/
def readTimeUnits : Int → Reader Nat
  | 3 => readUInt24LE
  | 4 => readUInt32LE
  | 5 => readUInt40LE
  | _ => .error "unreachable"

/-- The time of day in units of 100 nanoseconds. -/
def readTicks (dataLength : Int) (scale : Option Nat) : Reader Nat := do
  let value ← readTimeUnits dataLength
  pure (match scale with
    | some scale => value * 10 ^ (7 - scale)
    | none => value)

def nanosecondsDelta (ticks : Nat) : Rat := (ticks % 10000 : Nat) / 10 ^ 7

/-- The time of day as a `Date` on January 1st, 1970. -/
def timeOfDay (p : Platform) (useUTC : Bool) (ticks : Nat) : Option Int :=
  newDate p useUTC 1970 1 (ticks / 10000 : Nat)

def readTime (options : ParserOptions) (dataLength : Int) (scale : Option Nat) : Reader Value := do
  let ticks ← readTicks dataLength scale
  pure (.date (timeOfDay options.platform options.useUTC ticks) (some (nanosecondsDelta ticks)))

def readDate (options : ParserOptions) : Reader Value := do
  let days ← readUInt24LE
  pure (.date (newDate options.platform options.useUTC 2000 (days - 730118) 0) none)

/-- The day of `days` with the time of day of `time`: its time value in UTC, its
hours, minutes, seconds and milliseconds in local time. -/
def dateAt (p : Platform) (useUTC : Bool) (days : Nat) (time : Option Int) : Option Int :=
  time.bind fun t =>
    newDate p useUTC 2000 (days - 730118) (if useUTC then t else p.localTime t % msPerDay)

def readDateTime2 (options : ParserOptions) (dataLength : Int) (scale : Option Nat) :
    Reader Value := do
  let ticks ← readTicks (dataLength - 3) scale
  let days ← readUInt24LE
  let time := timeOfDay options.platform options.useUTC ticks
  pure (.date (dateAt options.platform options.useUTC days time) (some (nanosecondsDelta ticks)))

def readDateTimeOffset (options : ParserOptions) (dataLength : Int) (scale : Option Nat) :
    Reader Value := do
  let ticks ← readTicks (dataLength - 5) scale
  let days ← readUInt24LE
  -- The time zone offset is read over: the result is the time in UTC.
  let _ ← readUInt16LE
  let time := timeOfDay options.platform true ticks
  pure (.date (dateAt options.platform true days time) (some (nanosecondsDelta ticks)))

/-! ### Values -/

/-- The data of a variant, behind its base type and its property count. -/
def readVariantData (options : ParserOptions) (type : DataType) (dataLength : Int) :
    Reader Value :=
  match type with
  | .UniqueIdentifier => readUniqueIdentifier options
  | .Bit => readBit
  | .TinyInt => readTinyInt
  | .SmallInt => readSmallInt
  | .Int => readInt
  | .BigInt => readBigInt
  | .SmallDateTime => readSmallDateTime options
  | .DateTime => readDateTime options
  | .Real => readReal
  | .Float => readFloat
  | .SmallMoney => readSmallMoney
  | .Money => readMoney
  | .Date => readDate options
  | .Time => do
    let scale ← readUInt8
    readTime options dataLength (some scale)
  | .DateTime2 => do
    let scale ← readUInt8
    readDateTime2 options dataLength (some scale)
  | .DateTimeOffset => do
    let scale ← readUInt8
    readDateTimeOffset options dataLength (some scale)
  | .VarBinary | .Binary => do
    let _maxLength ← readUInt16LE
    let data ← readBinary dataLength
    pure (.buffer data)
  | .NumericN | .DecimalN => do
    let _precision ← readUInt8
    let scale ← readUInt8
    readNumeric dataLength (some scale)
  | .VarChar | .Char => do
    let _maxLength ← readUInt16LE
    let collation ← readCollation
    let chars ← readChars options.platform dataLength collation.codepage
    pure (.string chars)
  | .NVarChar | .NChar => do
    let _maxLength ← readUInt16LE
    let _collation ← readCollation
    let chars ← readNChars dataLength
    pure (.string chars)
  | _ => .error "Invalid type!"

def readVariant (options : ParserOptions) (dataLength : Nat) : Reader Value := do
  let baseType ← readUInt8
  let propBytes ← readUInt8
  match DataType.ofId baseType with
  | none => .fail .typeError
  | some type => readVariantData options type ((dataLength : Int) - propBytes - 2)

/-- A value whose length byte selects its reader; length 0 stands for `NULL`. -/
def readSized (type : DataType) (readers : List (Nat × Reader Value)) : Reader Value := do
  let dataLength ← readUInt8
  if dataLength = 0 then
    pure .null
  else
    match readers.lookup dataLength with
    | some reader => reader
    | none => .error s!"Unsupported dataLength {dataLength} for {type.name}"

/-- A value behind a length byte; length 0 stands for `NULL`. -/
def readNullable (reader : Nat → Reader Value) : Reader Value := do
  let dataLength ← readUInt8
  if dataLength = 0 then
    pure .null
  else
    reader dataLength

/-- A value behind two length bytes; length `0xFFFF` stands for `NULL`. -/
def readShortNullable (reader : Nat → Reader Value) : Reader Value := do
  let dataLength ← readUInt16LE
  if dataLength = 0xFFFF then
    pure .null
  else
    reader dataLength

/-- A value behind a text pointer and a timestamp; without a text pointer it is
`NULL`. -/
def readTextPointer (reader : Nat → Reader Value) : Reader Value := do
  let textPointerLength ← readUInt8
  if textPointerLength = 0 then
    pure .null
  else do
    let _textPointer ← readBinary textPointerLength
    let _timestamp ← readBinary 8
    let dataLength ← readUInt32LE
    reader dataLength

/-- Text of a given length in the code page of a column; a column without a collation
throws. -/
def readColumnChars (options : ParserOptions) (collation : Option Collation) (dataLength : Nat) :
    Reader Value :=
  match collation with
  | none => .fail .typeError
  | some collation => do
    let chars ← readChars options.platform dataLength collation.codepage
    pure (.string chars)

def readColumnNChars (dataLength : Nat) : Reader Value := do
  let chars ← readNChars dataLength
  pure (.string chars)

def readColumnBinary (dataLength : Nat) : Reader Value := do
  let data ← readBinary dataLength
  pure (.buffer data)

def readValue (options : ParserOptions) (metadata : Metadata) : Reader Value :=
  match metadata.type with
  | .Null => pure .null
  | .TinyInt => readTinyInt
  | .SmallInt => readSmallInt
  | .Int => readInt
  | .BigInt => readBigInt
  | .IntN => readSized .IntN [(1, readTinyInt), (2, readSmallInt), (4, readInt), (8, readBigInt)]
  | .Real => readReal
  | .Float => readFloat
  | .FloatN => readSized .FloatN [(4, readReal), (8, readFloat)]
  | .SmallMoney => readSmallMoney
  | .Money => readMoney
  | .MoneyN => readSized .MoneyN [(4, readSmallMoney), (8, readMoney)]
  | .Bit => readBit
  | .BitN => readSized .BitN [(1, readBit)]
  | .VarChar | .Char =>
    -- The collation is looked at before the length is read.
    match metadata.collation with
    | none => .fail .typeError
    | some collation => readShortNullable (readColumnChars options (some collation))
  | .NVarChar | .NChar => readShortNullable readColumnNChars
  | .VarBinary | .Binary => readShortNullable readColumnBinary
  | .Text => readTextPointer (readColumnChars options metadata.collation)
  | .NText => readTextPointer readColumnNChars
  | .Image => readTextPointer readColumnBinary
  | .SmallDateTime => readSmallDateTime options
  | .DateTime => readDateTime options
  | .DateTimeN =>
    readSized .DateTimeN [(4, readSmallDateTime options), (8, readDateTime options)]
  | .Time => readNullable fun dataLength => readTime options dataLength metadata.scale
  | .Date => readNullable fun _ => readDate options
  | .DateTime2 => readNullable fun dataLength => readDateTime2 options dataLength metadata.scale
  | .DateTimeOffset =>
    readNullable fun dataLength => readDateTimeOffset options dataLength metadata.scale
  | .NumericN | .DecimalN => readNullable fun dataLength => readNumeric dataLength metadata.scale
  | .UniqueIdentifier => readNullable fun dataLength =>
      if dataLength = 0x10 then readUniqueIdentifier options
      else .error s!"Unsupported guid size {(dataLength : Int) - 1}"
  | .Variant => do
    let dataLength ← readUInt32LE
    if dataLength = 0 then
      pure .null
    else
      readVariant options dataLength
  | .Decimal | .Numeric | .Xml | .UDT | .TVP => .error "Invalid type!"

/-- The columns whose values arrive as a PLP stream. -/
def isPLPStream (metadata : Metadata) : Bool :=
  match metadata.type with
  | .VarChar | .NVarChar | .VarBinary => metadata.dataLength = some 0xFFFF
  | .Xml | .UDT => true
  | _ => false

/-! ### Stability -/

theorem readBinary_steady (dataLength : Nat) : Steady (readBinary dataLength) :=
  .window slice_windowed dataLength

theorem readChars_steady (p : Platform) (dataLength : Nat) (codepage : Option Encoding) :
    Steady (readChars p dataLength codepage) :=
  .bind (readBinary_steady dataLength) fun _ => .pure _

theorem readNChars_steady (dataLength : Nat) : Steady (readNChars dataLength) :=
  .window toUcs2_windowed dataLength

theorem readUniqueIdentifier_steady (options : ParserOptions) :
    Steady (readUniqueIdentifier options) :=
  .bind (readBinary_steady 0x10) fun _ => .pure _

theorem readTinyInt_steady : Steady readTinyInt := .bind readUInt8_steady fun _ => .pure _

theorem readSmallInt_steady : Steady readSmallInt :=
  .bind (Reader.number_steady ..) fun _ => .pure _

theorem readInt_steady : Steady readInt := .bind readInt32LE_steady fun _ => .pure _

theorem readBigInt_steady : Steady readBigInt :=
  .bind (Reader.number_steady ..) fun _ => .pure _

theorem readReal_steady : Steady readReal := .bind (Reader.number_steady ..) fun _ => .pure _

theorem readFloat_steady : Steady readFloat := .bind (Reader.number_steady ..) fun _ => .pure _

theorem readSmallMoney_steady : Steady readSmallMoney :=
  .bind readInt32LE_steady fun _ => .pure _

theorem readMoney_steady : Steady readMoney :=
  .bind readInt32LE_steady fun _ => .bind readUInt32LE_steady fun _ => .pure _

theorem readBit_steady : Steady readBit := .bind readUInt8_steady fun _ => .pure _

theorem readNumericDigits_steady (dataLength : Int) : Steady (readNumericDigits dataLength) := by
  unfold readNumericDigits
  split
  · exact readUInt32LE_steady
  · exact Reader.number_steady ..
  · exact Reader.number_steady ..
  · exact Reader.number_steady ..
  · exact Reader.error_steady _

theorem readNumeric_steady (dataLength : Int) (scale : Option Nat) :
    Steady (readNumeric dataLength scale) :=
  .bind readUInt8_steady fun _ => .bind (readNumericDigits_steady dataLength) fun _ => .pure _

theorem readSmallDateTime_steady (options : ParserOptions) : Steady (readSmallDateTime options) :=
  .bind readUInt16LE_steady fun _ => .bind readUInt16LE_steady fun _ => .pure _

theorem readDateTime_steady (options : ParserOptions) : Steady (readDateTime options) :=
  .bind readInt32LE_steady fun _ => .bind readInt32LE_steady fun _ => .pure _

theorem readTicks_steady (dataLength : Int) (scale : Option Nat) :
    Steady (readTicks dataLength scale) := by
  refine .bind ?_ fun _ => .pure _
  unfold readTimeUnits
  split
  · exact Reader.number_steady ..
  · exact readUInt32LE_steady
  · exact Reader.number_steady ..
  · exact Reader.error_steady _

theorem readTime_steady (options : ParserOptions) (dataLength : Int) (scale : Option Nat) :
    Steady (readTime options dataLength scale) :=
  .bind (readTicks_steady ..) fun _ => .pure _

theorem readDate_steady (options : ParserOptions) : Steady (readDate options) :=
  .bind (Reader.number_steady ..) fun _ => .pure _

theorem readDateTime2_steady (options : ParserOptions) (dataLength : Int) (scale : Option Nat) :
    Steady (readDateTime2 options dataLength scale) :=
  .bind (readTicks_steady ..) fun _ => .bind (Reader.number_steady ..) fun _ => .pure _

theorem readDateTimeOffset_steady (options : ParserOptions) (dataLength : Int)
    (scale : Option Nat) : Steady (readDateTimeOffset options dataLength scale) :=
  .bind (readTicks_steady ..) fun _ => .bind (Reader.number_steady ..) fun _ =>
    .bind readUInt16LE_steady fun _ => .pure _

/-! The data of a variant may have a negative length, so these are only stable. -/

theorem readBinary_stable (dataLength : Int) : Stable (readBinary dataLength) :=
  .window slice_windowed dataLength

theorem readChars_stable (p : Platform) (dataLength : Int) (codepage : Option Encoding) :
    Stable (readChars p dataLength codepage) :=
  (readBinary_stable dataLength).map _

theorem readNChars_stable (dataLength : Int) : Stable (readNChars dataLength) :=
  .window toUcs2_windowed dataLength

/-- The bytes between the property count and the data of a variant, for the base types
whose data takes up what is left of the declared length. -/
def variantHeader : DataType → Option Nat
  | .VarBinary | .Binary => some 2
  | .VarChar | .Char | .NVarChar | .NChar => some 7
  | _ => none

theorem readVariantData_steady (options : ParserOptions) {type : DataType} (dataLength : Int)
    (h : variantHeader type = none) : Steady (readVariantData options type dataLength) := by
  cases type with
  | UniqueIdentifier => exact readUniqueIdentifier_steady options
  | Bit => exact readBit_steady
  | TinyInt => exact readTinyInt_steady
  | SmallInt => exact readSmallInt_steady
  | Int => exact readInt_steady
  | BigInt => exact readBigInt_steady
  | SmallDateTime => exact readSmallDateTime_steady options
  | DateTime => exact readDateTime_steady options
  | Real => exact readReal_steady
  | Float => exact readFloat_steady
  | SmallMoney => exact readSmallMoney_steady
  | Money => exact readMoney_steady
  | Date => exact readDate_steady options
  | Time => exact .bind readUInt8_steady fun _ => readTime_steady ..
  | DateTime2 => exact .bind readUInt8_steady fun _ => readDateTime2_steady ..
  | DateTimeOffset => exact .bind readUInt8_steady fun _ => readDateTimeOffset_steady ..
  | NumericN | DecimalN =>
    exact .bind readUInt8_steady fun _ => .bind readUInt8_steady fun _ => readNumeric_steady ..
  | VarBinary | Binary | VarChar | Char | NVarChar | NChar => cases h
  | _ => exact .fail _

theorem readVariantData_stable (options : ParserOptions) (type : DataType) (dataLength : Int) :
    Stable (readVariantData options type dataLength) := by
  cases type with
  | VarBinary | Binary =>
    exact readUInt16LE_steady.stable_bind fun _ => (readBinary_stable _).map _
  | VarChar | Char =>
    exact readUInt16LE_steady.stable_bind fun _ => readCollation_steady.stable_bind fun _ =>
      (readChars_stable ..).map _
  | NVarChar | NChar =>
    exact readUInt16LE_steady.stable_bind fun _ => readCollation_steady.stable_bind fun _ =>
      (readNChars_stable _).map _
  | _ => exact (readVariantData_steady options dataLength rfl).stable

theorem readVariant_stable (options : ParserOptions) (dataLength : Nat) :
    Stable (readVariant options dataLength) := by
  refine readUInt8_steady.stable_bind fun baseType => readUInt8_steady.stable_bind fun propBytes => ?_
  cases DataType.ofId baseType with
  | none => exact .fail _
  | some type => exact readVariantData_stable options type _

theorem readSized_steady (type : DataType) {readers : List (Nat × Reader Value)}
    (h : ∀ p ∈ readers, Steady p.2) : Steady (readSized type readers) := by
  refine .bind readUInt8_steady fun dataLength => ?_
  split
  · exact .pure _
  · cases hr : readers.lookup dataLength with
    | none => exact Reader.error_steady _
    | some reader =>
      obtain ⟨l₁, l₂, rfl, -⟩ := List.lookup_eq_some_iff.1 hr
      exact h (dataLength, reader) (by simp)

theorem readNullable_steady {reader : Nat → Reader Value} (h : ∀ n, Steady (reader n)) :
    Steady (readNullable reader) := by
  refine .bind readUInt8_steady fun dataLength => ?_
  split
  · exact .pure _
  · exact h dataLength

theorem readShortNullable_steady {reader : Nat → Reader Value} (h : ∀ n, Steady (reader n)) :
    Steady (readShortNullable reader) := by
  refine .bind readUInt16LE_steady fun dataLength => ?_
  split
  · exact .pure _
  · exact h dataLength

theorem readTextPointer_steady {reader : Nat → Reader Value} (h : ∀ n, Steady (reader n)) :
    Steady (readTextPointer reader) := by
  refine .bind readUInt8_steady fun textPointerLength => ?_
  split
  · exact .pure _
  · exact .bind (readBinary_steady _) fun _ => .bind (readBinary_steady 8) fun _ =>
      .bind readUInt32LE_steady fun dataLength => h dataLength

theorem readColumnChars_steady (options : ParserOptions) (collation : Option Collation)
    (dataLength : Nat) : Steady (readColumnChars options collation dataLength) := by
  cases collation with
  | none => exact .fail _
  | some collation => exact .bind (readChars_steady ..) fun _ => .pure _

theorem readColumnNChars_steady (dataLength : Nat) : Steady (readColumnNChars dataLength) :=
  .bind (readNChars_steady dataLength) fun _ => .pure _

theorem readColumnBinary_steady (dataLength : Nat) : Steady (readColumnBinary dataLength) :=
  .bind (readBinary_steady dataLength) fun _ => .pure _

/-- Every value but a variant is read forward. -/
theorem readValue_steady (options : ParserOptions) {metadata : Metadata}
    (h : metadata.type ≠ .Variant) : Steady (readValue options metadata) := by
  unfold readValue
  cases htype : metadata.type with
  | Variant => exact absurd htype h
  | Null => exact .pure _
  | TinyInt => exact readTinyInt_steady
  | SmallInt => exact readSmallInt_steady
  | Int => exact readInt_steady
  | BigInt => exact readBigInt_steady
  | Real => exact readReal_steady
  | Float => exact readFloat_steady
  | SmallMoney => exact readSmallMoney_steady
  | Money => exact readMoney_steady
  | Bit => exact readBit_steady
  | SmallDateTime => exact readSmallDateTime_steady options
  | DateTime => exact readDateTime_steady options
  | IntN =>
    refine readSized_steady _ ?_
    simp [readTinyInt_steady, readSmallInt_steady, readInt_steady, readBigInt_steady]
  | FloatN =>
    refine readSized_steady _ ?_
    simp [readReal_steady, readFloat_steady]
  | MoneyN =>
    refine readSized_steady _ ?_
    simp [readSmallMoney_steady, readMoney_steady]
  | BitN =>
    refine readSized_steady _ ?_
    simp [readBit_steady]
  | DateTimeN =>
    refine readSized_steady _ ?_
    simp [readSmallDateTime_steady, readDateTime_steady]
  | VarChar | Char =>
    cases metadata.collation with
    | none => exact .fail _
    | some collation => exact readShortNullable_steady (readColumnChars_steady options _)
  | NVarChar | NChar => exact readShortNullable_steady readColumnNChars_steady
  | VarBinary | Binary => exact readShortNullable_steady readColumnBinary_steady
  | Text => exact readTextPointer_steady (readColumnChars_steady options _)
  | NText => exact readTextPointer_steady readColumnNChars_steady
  | Image => exact readTextPointer_steady readColumnBinary_steady
  | Time => exact readNullable_steady fun n => readTime_steady ..
  | Date => exact readNullable_steady fun _ => readDate_steady options
  | DateTime2 => exact readNullable_steady fun n => readDateTime2_steady ..
  | DateTimeOffset => exact readNullable_steady fun n => readDateTimeOffset_steady ..
  | NumericN | DecimalN => exact readNullable_steady fun n => readNumeric_steady ..
  | UniqueIdentifier =>
    refine readNullable_steady fun dataLength => ?_
    split
    · exact readUniqueIdentifier_steady options
    · exact Reader.error_steady _
  | Decimal | Numeric | Xml | UDT | TVP => exact Reader.error_steady _

theorem readValue_stable (options : ParserOptions) (metadata : Metadata) :
    Stable (readValue options metadata) := by
  by_cases h : metadata.type = .Variant
  · unfold readValue
    rw [h]
    refine readUInt32LE_steady.stable_bind fun dataLength => ?_
    split
    · exact .pure _
    · exact readVariant_stable options dataLength
  · exact (readValue_steady options h).stable

end Tedious
