import Tedious.DataTypes.Amounts
import Tedious.DataTypes.NullSentinel
import Tedious.DataTypes.Tvp
import Tedious.VariantAgreement

/-!
# Tedious.DataTypes.ColumnValues

What the client itself reads in a column where a type has written its description and its
values. The description is written once, without a value; the values follow in the rows, each
behind its own length.

`readsColumn`: the types with one length byte, `NVarChar` and `NChar` are read back from every
declared length, precision and scale. A value is read as `null` exactly when it is `null`, and
whole numbers, bits and texts are shown as they are.
-/

namespace Tedious

open Chunked

/-! ### What a column shows -/

/-- What a column shows of a value, where that is the value itself: a whole number, a bit or a
text. A `bigint` is shown by its digits. -/
def shownValue (js : Runtime) (useUTC : Bool) :
    (type : DataType) → (sendType js useUTC type).α → Option Value
  | .TinyInt | .SmallInt | .Int => fun n : Int => some (.number n)
  | .BigInt => fun n : JsNumber =>
    n.toBigInt.toOption.map fun m => .string (JsString.ofString (toString m))
  | .Bit => fun b : Bool => some (.boolean b)
  | .NVarChar | .NChar => fun s : JsString => some (.string s)
  | _ => fun _ => none

/-- `read` shows `value`: `null` for `null` alone, and otherwise what is expected, if anything. -/
structure Shows (shown : α → Option Value) (value : Option α) (read : Value) : Prop where
  null : read = .null ↔ value = none
  equal : ∀ v ∈ value, ∀ expected ∈ shown v, read = expected

/-- Behind the description of a column, each value that is written is taken with exactly its
bytes, and shown. -/
def ReadsColumn (options : ParserOptions) (methods : DataTypeMethods α)
    (shown : α → Option Value) : Prop :=
  ∀ (column : ParameterData α) (typeInfo : Bytes), methods.generateTypeInfo column = .ok typeInfo →
    ∀ userType flags, ∃ metadata, Reads (readDescription userType flags) typeInfo metadata ∧
      metadata.type.hasTableName = false ∧
      ∀ value length data,
        methods.generateParameterLength { column with collation := none, value } = .ok length →
        methods.generateParameterData { column with collation := none, value } = .ok data →
        ∃ read, Shows shown value read ∧
          ∀ s, Task.Takes (awaitValue options metadata) s (length ++ data.flatten) read s

/-! ### Types with one length byte -/

/-- A value that is not `null` is read as one that is not, and as what is expected of it. -/
structure ShowsBytes (shown : α → Option Value) (value : α) (reader : Reader Value)
    (bytes : Bytes) (read : Value) : Prop where
  reads : Reads reader bytes read
  ne_null : read ≠ .null
  equal : ∀ expected ∈ shown value, read = expected

variable {options : ParserOptions} {shown : α → Option Value}

theorem readNullable_null (reader : Nat → Reader Value) :
    Reads (readNullable reader) [0x00] .null :=
  (readUInt8_reads (n := 0) (by decide)).bind_nil (.pure Value.null)

/-- A type whose values stand behind one length byte. -/
theorem readsColumn_sized {methods : DataTypeMethods α} (hsized : methods.Sized)
    (h : ∀ (column : ParameterData α) (typeInfo : Bytes),
      methods.generateTypeInfo column = .ok typeInfo → ∀ userType flags, ∃ metadata reader,
        Reads (readDescription userType flags) typeInfo metadata ∧
        metadata.type.hasTableName = false ∧ isPLPStream metadata = false ∧
        readValue options metadata = readNullable reader ∧
        ∀ value length data,
          methods.generateParameterLength { column with collation := none, value := some value } =
            .ok length →
          methods.generateParameterData { column with collation := none, value := some value } =
            .ok data →
          ∃ read, ShowsBytes shown value (reader data.flatten.length) data.flatten read) :
    ReadsColumn options methods shown := by
  intro column typeInfo hinfo userType flags
  obtain ⟨metadata, reader, hdescribes, htable, hplp, hread, hvalues⟩ :=
    h column typeInfo hinfo userType flags
  refine ⟨metadata, hdescribes, htable, fun value length data hlength hdata => ?_⟩
  have hframe := hsized _ _ _ hlength hdata
  cases value with
  | none =>
    replace hframe : length ++ data.flatten = [0x00] := hframe
    refine ⟨.null, ⟨iff_of_true rfl rfl, nofun⟩, fun s => ?_⟩
    rw [hframe]
    refine awaitValue_short hplp ?_
    rw [hread]
    exact readNullable_null reader
  | some value =>
    obtain ⟨rfl, hpos, hlt⟩ := hframe
    obtain ⟨read, hshows⟩ := hvalues value _ data hlength hdata
    refine ⟨read, ⟨iff_of_false hshows.ne_null nofun, ?_⟩, fun s => ?_⟩
    · rintro v hv expected hexpected
      cases hv
      exact hshows.equal expected hexpected
    · refine awaitValue_short hplp ?_
      rw [hread]
      exact readNullable_reads hpos hlt hshows.reads

/-- Data of a known size. -/
theorem length_of_sized {methods : DataTypeMethods α} (hsized : methods.Sized) {value : α}
    {parameter : ParameterData α} {size : Nat} {data : List Bytes} (hsize : size < 256)
    (hvalue : parameter.value = some value)
    (hlength : methods.generateParameterLength parameter = .ok (leBytes 1 size))
    (hdata : methods.generateParameterData parameter = .ok data) :
    data.flatten.length = size := by
  have hframe := hsized _ _ _ hlength hdata
  rw [hvalue] at hframe
  obtain ⟨heq, -, hlt⟩ := hframe
  have hnat := congrArg leNat heq
  rw [leNat_leBytes hsize, leNat_leBytes hlt] at hnat
  exact hnat.symm

/-! ### One size for all values -/

/-- The types that choose the reader of a value by its length. -/
theorem readsColumn_fixed {α : Type} {shown : α → Option Value} (type : DataType)
    (htype : type ∈ [DataType.IntN, .BitN, .MoneyN, .FloatN, .DateTimeN])
    {id size : Nat} {write : α → Except JsError Bytes} {readers : List (Nat × Reader Value)}
    {reader : Reader Value} (hsize : size < 256) (hsized : (fixedType id type.id size write).Sized)
    (hvalue : ∀ userType flags, readValue options
      { userType, flags, type, dataLength := some size } = readSized type readers)
    (hreader : readers.lookup size = some reader)
    (hwrite : ∀ value bytes, write value = .ok bytes → bytes.length = size →
      ∃ read, ShowsBytes shown value reader bytes read) :
    ReadsColumn options (fixedType id type.id size write) shown := by
  refine readsColumn_sized hsized fun column typeInfo hinfo userType flags => ?_
  cases hinfo
  have hdescribes : Reads (readDescription userType flags) (leBytes 1 type.id ++ leBytes 1 size)
      { userType, flags, type, dataLength := some size } := by
    refine readDescription_reads type.id type.id_lt type.ofId_id ?_
    have hlength := (readUInt8_reads hsize).map fun dataLength =>
      ({ userType, flags, type, dataLength := some dataLength } : Metadata)
    simp only [List.mem_cons, List.not_mem_nil, or_false] at htype
    rcases htype with rfl | rfl | rfl | rfl | rfl <;> exact hlength
  have hshape : type.hasTableName = false ∧ isPLPStream
      { userType, flags, type, dataLength := some size } = false := by
    simp only [List.mem_cons, List.not_mem_nil, or_false] at htype
    rcases htype with rfl | rfl | rfl | rfl | rfl <;> exact ⟨rfl, rfl⟩
  refine ⟨_, _, hdescribes, hshape.1, hshape.2, hvalue userType flags, ?_⟩
  intro value length data hlength hdata
  cases hlength
  have hn := length_of_sized hsized hsize rfl rfl hdata
  rw [hn, hreader]
  exact hwrite value _ (fixedData_some hdata) hn

/-- Nothing is expected of the values but that they are there. -/
theorem showsBytes_any {α : Type} {reader : Reader Value} {n : Nat} (hany : ReadsAny reader n)
    (honly : Only (· ≠ Value.null) reader) (value : α) {bytes : Bytes} (hlength : bytes.length = n) :
    ∃ read, ShowsBytes (fun _ => none) value reader bytes read := by
  obtain ⟨read, hreads⟩ := hany bytes hlength
  exact ⟨read, hreads, hreads.only honly, by simp⟩

/-! ### Integers -/

theorem showsBytes_TinyInt {n : Int} {bytes : Bytes} (h : writeUIntLE 1 (.ofInt n) = .ok bytes) :
    ∃ read, ShowsBytes (fun n : Int => some (.number n)) n readTinyInt bytes read := by
  obtain ⟨m, hm, rfl, rfl⟩ := writeUIntLE_ofInt_ok h
  refine ⟨_, (readUInt8_reads hm).map fun n : Nat => Value.number n, by simp, ?_⟩
  rintro expected ⟨⟩
  rfl

theorem showsBytes_integer {size : Nat} (hsize : 0 < size) {n : Int} {bytes : Bytes}
    (h : writeIntLE size (.ofInt n) = .ok bytes) :
    ∃ read, ShowsBytes (fun n : Int => some (.number n)) n
      (Reader.number leInt size >>= fun n : Int => pure (.number n)) bytes read := by
  obtain ⟨rfl, hfits⟩ := writeIntLE_finite_ok hsize h
  rw [truncate_intCast] at hfits ⊢
  refine ⟨_, (Reader.number_int hfits).map fun n : Int => Value.number n, by simp, ?_⟩
  rintro expected ⟨⟩
  rfl

theorem showsBytes_BigInt {n : JsNumber} {bytes : Bytes} (h : writeInt64LE n = .ok bytes) :
    ∃ read, ShowsBytes (fun n : JsNumber =>
      n.toBigInt.toOption.map fun m => .string (JsString.ofString (toString m))) n readBigInt bytes
      read := by
  obtain ⟨m, hm, h⟩ := Except.bind_ok h
  rw [writeBigInt64LE] at h
  split at h
  · next hfits =>
    cases h
    refine ⟨_, (Reader.number_int hfits).map fun n : Int =>
      Value.string (JsString.ofString (toString n)), by simp, ?_⟩
    rw [hm]
    rintro expected ⟨⟩
    rfl
  · cases h

theorem showsBytes_Bit (b : Bool) :
    ∃ read, ShowsBytes (fun b : Bool => some (.boolean b)) b readBit
      (leBytes 1 (if b then 1 else 0)) read := by
  have hbit : (if b then 1 else 0) < 256 := by cases b <;> decide
  refine ⟨_, (readUInt8_reads hbit).map fun n : Nat => Value.boolean (n ≠ 0), by simp, ?_⟩
  rintro expected ⟨⟩
  cases b <;> rfl

/-! ### Sizes by scale and precision -/

/-- A byte of a scale or a precision, as it is read. -/
theorem readUInt8_toByte (n : JsNumber) : Reads readUInt8 n.toByte (n.toUint32 % 256) := by
  rw [JsNumber.toByte, ← leBytes_mod]
  exact readUInt8_reads (Nat.mod_lt _ (by decide))

/-- The types with a scale. -/
theorem readsColumn_scaled (type : DataType)
    (htype : type ∈ [DataType.Time, .DateTime2, .DateTimeOffset]) {extra : Nat}
    {write : Option JsNumber → ValidDate → Except JsError Bytes} (hextra : extra < 10)
    (hsized : (scaledType type.id extra write).Sized) (reader : Option Nat → Nat → Reader Value)
    (hvalue : ∀ userType flags scale, readValue options { userType, flags, type, scale } =
      readNullable (reader scale))
    (hany : ∀ n ∈ [3, 4, 5], ∀ scale, ReadsAny (reader scale (n + extra)) (n + extra))
    (honly : ∀ scale n, Only (· ≠ Value.null) (reader scale n)) :
    ReadsColumn options (scaledType type.id extra write) fun _ => none := by
  refine readsColumn_sized hsized fun column typeInfo hinfo userType flags => ?_
  cases hinfo
  have hscale := readUInt8_toByte (JsNumber.ofOption column.scale)
  generalize (JsNumber.ofOption column.scale).toUint32 % 256 = scale at hscale
  have hdescribes : Reads (readDescription userType flags)
      (leBytes 1 type.id ++ (JsNumber.ofOption column.scale).toByte)
      { userType, flags, type, scale := some scale } := by
    refine readDescription_reads type.id type.id_lt type.ofId_id ?_
    have hmap := hscale.map fun scale => ({ userType, flags, type, scale := some scale } : Metadata)
    simp only [List.mem_cons, List.not_mem_nil, or_false] at htype
    rcases htype with rfl | rfl | rfl <;> exact hmap
  have hshape : type.hasTableName = false ∧
      isPLPStream { userType, flags, type, scale := some scale } = false := by
    simp only [List.mem_cons, List.not_mem_nil, or_false] at htype
    rcases htype with rfl | rfl | rfl <;> exact ⟨rfl, rfl⟩
  refine ⟨_, _, hdescribes, hshape.1, hshape.2, hvalue userType flags _, ?_⟩
  intro value length data hlength hdata
  cases hsize : scaleSize column.scale with
  | none =>
    have herror := hlength.symm.trans (scaledType_length_invalid rfl hsize)
    cases herror
  | some size =>
    have hwritten : (scaledType type.id extra write).generateParameterLength
        { column with collation := none, value := some value } =
        .ok (leBytes 1 (size + extra)) :=
      scaledType_length_some rfl hsize
    have hpos := scaleSize_pos hsize
    have hn := length_of_sized hsized (by omega) rfl hwritten hdata
    rw [hn]
    refine showsBytes_any (hany size ?_ _) (honly _ _) value hn
    simp only [List.mem_cons, List.not_mem_nil, or_false]
    exact hpos

theorem only_readNumeric (n : Int) (scale : Option Nat) :
    Only (· ≠ Value.null) (readNumeric n scale) :=
  .bind fun _ => .bind fun _ => .pure (by cases scale <;> nofun)

/-- The metadata of a `Decimal` or a `Numeric`. -/
def numericMetadata (userType flags : Nat) (type : DataType) (dataLength precision scale : Nat) :
    Metadata :=
  { userType, flags, type, precision := some precision, scale := some scale,
    dataLength := some dataLength }

/-- `Decimal` and `Numeric`. -/
theorem readsColumn_numeric (type : DataType) (htype : type ∈ [DataType.DecimalN, .NumericN])
    {js : Runtime} {id : Nat} :
    ReadsColumn options (numericType js id type.id) fun _ => none := by
  refine readsColumn_sized (numericType_sized js _ _) fun column typeInfo hinfo userType flags => ?_
  cases hinfo
  have hsize := (precisionSize_lt column.precision).2
  have hprecision := readUInt8_toByte (JsNumber.ofOption column.precision)
  have hscale := readUInt8_toByte (JsNumber.ofOption column.scale)
  generalize (JsNumber.ofOption column.precision).toUint32 % 256 = precision at hprecision
  generalize (JsNumber.ofOption column.scale).toUint32 % 256 = scale at hscale
  have hdescribes : Reads (readDescription userType flags)
      (leBytes 1 type.id ++ (leBytes 1 (precisionSize column.precision) ++
        ((JsNumber.ofOption column.precision).toByte ++ (JsNumber.ofOption column.scale).toByte)))
      (numericMetadata userType flags type (precisionSize column.precision) precision scale) := by
    refine readDescription_reads type.id type.id_lt type.ofId_id ?_
    have hinfo : Reads (readUInt8 >>= fun dataLength => readUInt8 >>= fun precision =>
        readUInt8 >>= fun scale =>
          pure (numericMetadata userType flags type dataLength precision scale)) _ _ :=
      (readUInt8_reads hsize).bind (hprecision.bind (hscale.map fun scale =>
        numericMetadata userType flags type (precisionSize column.precision) precision scale))
    simp only [List.mem_cons, List.not_mem_nil, or_false] at htype
    rcases htype with rfl | rfl <;> exact hinfo
  have hshape : type.hasTableName = false ∧ ∀ size,
      isPLPStream (numericMetadata userType flags type size precision scale) = false ∧
      readValue options (numericMetadata userType flags type size precision scale) =
        readNullable fun n => readNumeric n (some scale) := by
    simp only [List.mem_cons, List.not_mem_nil, or_false] at htype
    rcases htype with rfl | rfl <;> exact ⟨rfl, fun _ => ⟨rfl, rfl⟩⟩
  refine ⟨_, _, hdescribes, hshape.1, (hshape.2 _).1, (hshape.2 _).2, ?_⟩
  intro value length data hlength hdata
  have hn := length_of_sized (numericType_sized js id type.id) hsize rfl rfl hdata
  rw [hn]
  exact showsBytes_any (readNumeric_any (precisionSize_mem _) _) (only_readNumeric _ _) value hn

/-! ### The table -/

section Table

variable (js : Runtime) (useUTC : Bool)

/-- The types whose columns are read back. -/
def DataType.isColumn (type : DataType) : Bool := type.isSized || type ∈ [NVarChar, NChar]

theorem sendType_sized {type : DataType} (h : type.isSized = true) :
    (sendType js useUTC type).methods.Sized := by
  rw [sendType]
  cases hsent : scalarType js useUTC type with
  | some sent => exact scalarType_sized hsent h
  | none =>
    rw [scalarType_none hsent] at h
    cases h

/-- Behind the description of a column, its values are read back. -/
theorem readsColumn_sizedType {type : DataType} (h : type.isSized = true) :
    ReadsColumn options (sendType js useUTC type).methods (shownValue js useUTC type) := by
  have hsized := sendType_sized js useUTC h
  cases type with
  | TinyInt =>
    exact readsColumn_fixed .IntN (by decide) (by decide) hsized (fun _ _ => rfl) rfl
      fun _ _ hwrite _ => showsBytes_TinyInt hwrite
  | SmallInt | Int =>
    exact readsColumn_fixed .IntN (by decide) (by decide) hsized (fun _ _ => rfl) rfl
      fun _ _ hwrite _ => showsBytes_integer (by decide) hwrite
  | BigInt =>
    exact readsColumn_fixed .IntN (by decide) (by decide) hsized (fun _ _ => rfl) rfl
      fun _ _ hwrite _ => showsBytes_BigInt hwrite
  | Bit =>
    refine readsColumn_fixed .BitN (by decide) (by decide) hsized (fun _ _ => rfl) rfl ?_
    rintro b bytes ⟨⟩ -
    exact showsBytes_Bit b
  | SmallMoney =>
    exact readsColumn_fixed .MoneyN (by decide) (by decide) hsized (fun _ _ => rfl) rfl
      fun value _ _ => showsBytes_any readSmallMoney_any (.bind fun _ => .pure (by simp)) value
  | Money =>
    exact readsColumn_fixed .MoneyN (by decide) (by decide) hsized (fun _ _ => rfl) rfl
      fun value _ _ => showsBytes_any readMoney_any (.bind fun _ => .bind fun _ => .pure (by simp)) value
  | Real =>
    exact readsColumn_fixed .FloatN (by decide) (by decide) hsized (fun _ _ => rfl) rfl
      fun value _ _ => showsBytes_any readReal_any (.bind fun _ => .pure (by simp)) value
  | Float =>
    exact readsColumn_fixed .FloatN (by decide) (by decide) hsized (fun _ _ => rfl) rfl
      fun value _ _ => showsBytes_any readFloat_any (.bind fun _ => .pure (by simp)) value
  | SmallDateTime =>
    exact readsColumn_fixed .DateTimeN (by decide) (by decide) hsized (fun _ _ => rfl) rfl
      fun value _ _ => showsBytes_any (readSmallDateTime_any options)
        (.bind fun _ => .bind fun _ => .pure (by simp)) value
  | DateTime =>
    exact readsColumn_fixed .DateTimeN (by decide) (by decide) hsized (fun _ _ => rfl) rfl
      fun value _ _ => showsBytes_any (readDateTime_any options)
        (.bind fun _ => .bind fun _ => .pure (by simp)) value
  | Date =>
    refine readsColumn_sized hsized fun column typeInfo hinfo userType flags => ?_
    cases hinfo
    refine ⟨{ userType, flags, type := .Date }, _, ?_, rfl, rfl, rfl, ?_⟩
    · exact readDescription_reads 0x28 (by decide) rfl (.pure _)
    · intro value length data hlength hdata
      cases hlength
      have hn := length_of_sized hsized (by decide) rfl rfl hdata
      exact showsBytes_any (readDate_any options) (.bind fun _ => .pure (by simp)) value hn
  | Time =>
    show ReadsColumn options (TYPES.Time js useUTC) _
    replace hsized : (TYPES.Time js useUTC).Sized := hsized
    rw [TYPES.Time] at hsized ⊢
    refine readsColumn_scaled .Time (by decide) (by decide) hsized
      (fun scale n => readTime options n scale) (fun _ _ _ => rfl) ?_ ?_
    · exact fun n hn scale => readTime_any options hn scale
    · exact fun scale n => .bind fun _ => .pure (by simp)
  | DateTime2 =>
    show ReadsColumn options (TYPES.DateTime2 js useUTC) _
    replace hsized : (TYPES.DateTime2 js useUTC).Sized := hsized
    rw [TYPES.DateTime2] at hsized ⊢
    refine readsColumn_scaled .DateTime2 (by decide) (by decide) hsized
      (fun scale n => readDateTime2 options n scale) (fun _ _ _ => rfl) ?_ ?_
    · exact fun n hn scale => readDateTime2_any options hn scale
    · exact fun scale n => .bind fun _ => .bind fun _ => .pure (by simp)
  | DateTimeOffset =>
    show ReadsColumn options (TYPES.DateTimeOffset js) _
    replace hsized : (TYPES.DateTimeOffset js).Sized := hsized
    rw [TYPES.DateTimeOffset] at hsized ⊢
    refine readsColumn_scaled .DateTimeOffset (by decide) (by decide) hsized
      (fun scale n => readDateTimeOffset options n scale) (fun _ _ _ => rfl) ?_ ?_
    · exact fun n hn scale => readDateTimeOffset_any options hn scale
    · exact fun scale n => .bind fun _ => .bind fun _ => .bind fun _ => .pure (by simp)
  | Decimal => exact readsColumn_numeric .DecimalN (by decide)
  | Numeric => exact readsColumn_numeric .NumericN (by decide)
  | UniqueIdentifier =>
    refine readsColumn_sized hsized fun column typeInfo hinfo userType flags => ?_
    cases hinfo
    refine ⟨{ userType, flags, type := .UniqueIdentifier, dataLength := some 0x10 }, _, ?_, rfl, rfl,
      rfl, ?_⟩
    · have hlength := (readUInt8_reads (n := 0x10) (by decide)).map fun dataLength =>
        ({ userType, flags, type := .UniqueIdentifier, dataLength := some dataLength } : Metadata)
      exact readDescription_reads 0x24 (by decide) rfl hlength
    · intro value length data hlength hdata
      cases hlength
      have hn := length_of_sized hsized (by decide) rfl rfl hdata
      rw [hn]
      exact showsBytes_any (readUniqueIdentifier_any options) (.bind fun _ => .pure (by simp)) value hn
  | _ => cases h

theorem shows_string (text : Option JsString) :
    Shows (fun s : JsString => some (.string s)) text ((text.map Value.string).getD .null) := by
  cases text with
  | none => exact ⟨iff_of_true rfl rfl, nofun⟩
  | some text =>
    refine ⟨iff_of_false nofun nofun, ?_⟩
    rintro s ⟨⟩ expected ⟨⟩
    rfl

/-- The columns of `NVarChar` and `NChar`, whose description does not depend on the value and
whose values do not depend on the collation. -/
theorem readsColumn_text {methods : DataTypeMethods JsString}
    (hback : ∀ parameter : ParameterData JsString, ReadBack options (methods.build parameter)
      ((parameter.value.map Value.string).getD .null))
    (hinfo : ∀ column value, methods.generateTypeInfo { column with value } =
      methods.generateTypeInfo column)
    (hlength : ∀ column collation, methods.generateParameterLength { column with collation } =
      methods.generateParameterLength column)
    (hdata : ∀ column collation, methods.generateParameterData { column with collation } =
      methods.generateParameterData column)
    (hdescribes : ∀ column typeInfo, methods.generateTypeInfo column = .ok typeInfo →
      ∀ userType flags, ∃ metadata, Reads (readDescription userType flags) typeInfo metadata ∧
        metadata.type.hasTableName = false) :
    ReadsColumn options methods fun s : JsString => some (.string s) := by
  intro column typeInfo hcolumn userType flags
  obtain ⟨metadata, hmetadata, htable⟩ := hdescribes column typeInfo hcolumn userType flags
  refine ⟨metadata, hmetadata, htable, fun value length data hlength' hdata' => ?_⟩
  refine ⟨_, shows_string value, fun s => ?_⟩
  have hbuild : methods.build { column with value } = .ok (typeInfo, length ++ data.flatten) := by
    have hlength'' := (hlength { column with value } none).symm.trans hlength'
    have hdata'' := (hdata { column with value } none).symm.trans hdata'
    rw [DataTypeMethods.build, hinfo, hcolumn, hlength'', hdata'']
    rfl
  obtain ⟨metadata', hmetadata', htakes⟩ := hback _ _ _ hbuild userType flags
  obtain rfl := hmetadata.returns.unique hmetadata'.returns
  exact htakes s

/-- **Columns.** Behind the description of a column, its values are read back. -/
theorem readsColumn {type : DataType} (h : type.isColumn = true) :
    ReadsColumn options (sendType js useUTC type).methods (shownValue js useUTC type) := by
  rw [DataType.isColumn, Bool.or_eq_true, decide_eq_true_eq, List.mem_cons,
    List.mem_singleton] at h
  rcases h with h | rfl | rfl
  · exact readsColumn_sizedType js useUTC h
  · refine readsColumn_text (fun _ => readBack_NVarChar) (fun _ _ => rfl) (fun _ _ => rfl)
      (fun _ _ => rfl) fun column typeInfo hinfo userType flags => ?_
    obtain ⟨n, -, hdescribes⟩ := describes_NVarChar hinfo
    exact ⟨_, hdescribes userType flags, rfl⟩
  · refine readsColumn_text (fun _ => readBack_NChar) (fun _ _ => rfl) (fun _ _ => rfl)
      (fun _ _ => rfl) fun column typeInfo hinfo userType flags => ?_
    obtain ⟨n, hdescribes⟩ := describes_NChar hinfo
    exact ⟨_, hdescribes userType flags, rfl⟩

end Table

end Tedious
