import Tedious.Encode
import Tedious.ValueParser

/-!
# Tedious.VariantAgreement

A value inside an `sql_variant` against the same value in a column of its own type. The
variant takes the length of the data from the declared length, less the properties in front
of it; the column has a length of its own, or none.

`variant_agrees`: both read the same value, and each of them exactly its bytes.
-/

namespace Tedious

open Chunked

/-! ### Any bytes of the right length -/

namespace Reader

theorem number_any (decode : Bytes → α) (n : Nat) : ReadsAny (number decode n) n := by
  intro bytes hlength
  have hreads := number_reads decode bytes
  rw [hlength] at hreads
  exact ⟨_, hreads⟩

end Reader

theorem readBinary_reads (bytes : Bytes) : Reads (readBinary bytes.length) bytes bytes :=
  readSlice_reads bytes

theorem readUniqueIdentifier_any (options : ParserOptions) :
    ReadsAny (readUniqueIdentifier options) 0x10 := by
  intro bytes hlength
  have hreads := readBinary_reads bytes
  rw [hlength] at hreads
  exact ⟨_, hreads.map _⟩

theorem readTinyInt_any : ReadsAny readTinyInt 1 := (Reader.number_any _ _).map _

theorem readSmallInt_any : ReadsAny readSmallInt 2 := (Reader.number_any _ _).map _

theorem readInt_any : ReadsAny readInt 4 := (Reader.number_any _ _).map _

theorem readBigInt_any : ReadsAny readBigInt 8 := (Reader.number_any _ _).map _

theorem readReal_any : ReadsAny readReal 4 := (Reader.number_any _ _).map _

theorem readFloat_any : ReadsAny readFloat 8 := (Reader.number_any _ _).map _

theorem readSmallMoney_any : ReadsAny readSmallMoney 4 := (Reader.number_any _ _).map _

theorem readMoney_any : ReadsAny readMoney 8 :=
  (Reader.number_any leInt 4).bind fun _ => (Reader.number_any leNat 4).map _

theorem readBit_any : ReadsAny readBit 1 := (Reader.number_any _ _).map _

theorem readSmallDateTime_any (options : ParserOptions) : ReadsAny (readSmallDateTime options) 4 :=
  (Reader.number_any leNat 2).bind fun _ => (Reader.number_any leNat 2).map _

theorem readDateTime_any (options : ParserOptions) : ReadsAny (readDateTime options) 8 :=
  (Reader.number_any leInt 4).bind fun _ => (Reader.number_any leInt 4).map _

theorem readDate_any (options : ParserOptions) : ReadsAny (readDate options) 3 :=
  (Reader.number_any _ _).map _

/-- The sizes of a numeric. -/
theorem readNumeric_any {n : Nat} (hn : n ∈ [5, 9, 13, 17]) (scale : Option Nat) :
    ReadsAny (readNumeric n scale) n := by
  have hdigits : ReadsAny (readNumericDigits n) (n - 1) := by
    simp only [List.mem_cons, List.not_mem_nil, or_false] at hn
    rcases hn with rfl | rfl | rfl | rfl <;> exact Reader.number_any _ _
  have hpos : 1 + (n - 1) = n := by
    simp only [List.mem_cons, List.not_mem_nil, or_false] at hn
    omega
  have hreads : ReadsAny (readNumeric n scale) (1 + (n - 1)) :=
    (Reader.number_any leNat 1).bind fun _ => hdigits.map _
  rwa [hpos] at hreads

/-- The sizes of a time of day. -/
theorem readTicks_any {n : Nat} (hn : n ∈ [3, 4, 5]) (scale : Option Nat) :
    ReadsAny (readTicks n scale) n := by
  refine ReadsAny.map ?_ _
  simp only [List.mem_cons, List.not_mem_nil, or_false] at hn
  rcases hn with rfl | rfl | rfl <;> exact Reader.number_any _ _

theorem readTime_any (options : ParserOptions) {n : Nat} (hn : n ∈ [3, 4, 5])
    (scale : Option Nat) : ReadsAny (readTime options n scale) n :=
  (readTicks_any hn scale).map _

theorem readDateTime2_any (options : ParserOptions) {n : Nat} (hn : n ∈ [3, 4, 5])
    (scale : Option Nat) : ReadsAny (readDateTime2 options ((n + 3 : Nat) : Int) scale) (n + 3) := by
  have hticks : ((n + 3 : Nat) : Int) - 3 = n := by omega
  rw [readDateTime2, hticks]
  exact (readTicks_any hn scale).bind fun _ => (Reader.number_any leNat 3).map _

theorem readDateTimeOffset_any (options : ParserOptions) {n : Nat} (hn : n ∈ [3, 4, 5])
    (scale : Option Nat) :
    ReadsAny (readDateTimeOffset options ((n + 5 : Nat) : Int) scale) (n + 5) := by
  have hticks : ((n + 5 : Nat) : Int) - 5 = n := by omega
  rw [readDateTimeOffset, hticks]
  exact (readTicks_any hn scale).bind fun _ => (Reader.number_any leNat 3).bind fun _ =>
    (Reader.number_any leNat 2).map _

/-! ### Payloads -/

/-- What a variant says about its value in front of the data. -/
structure VariantProperties where
  precision : UInt8
  scale : UInt8
  maxLength : UInt16
  collation : Bytes
  length_collation : collation.length = 5

namespace VariantProperties

variable (p : VariantProperties)

/-- The properties of a base type, for the base types that a variant may have. -/
def bytes : DataType → Option Bytes
  | .UniqueIdentifier | .Bit | .TinyInt | .SmallInt | .Int | .BigInt | .SmallDateTime | .DateTime
  | .Real | .Float | .SmallMoney | .Money | .Date => some []
  | .Time | .DateTime2 | .DateTimeOffset => some (leBytes 1 p.scale.toNat)
  | .VarBinary | .Binary => some (leBytes 2 p.maxLength.toNat)
  | .NumericN | .DecimalN => some (leBytes 1 p.precision.toNat ++ leBytes 1 p.scale.toNat)
  | .VarChar | .Char | .NVarChar | .NChar => some (leBytes 2 p.maxLength.toNat ++ p.collation)
  | _ => none

/-- The description of a column of the base type, with the same properties. The length that a
column declares is its own matter. -/
def metadata (userType flags : Nat) (dataLength : Option Nat) (type : DataType) : Metadata :=
  match type with
  | .Time | .DateTime2 | .DateTimeOffset =>
    { userType, flags, type, scale := some p.scale.toNat }
  | .NumericN | .DecimalN =>
    { userType, flags, type, precision := some p.precision.toNat, scale := some p.scale.toNat,
      dataLength }
  | .VarChar | .Char | .NVarChar | .NChar =>
    { userType, flags, type, collation := some (.fromBuffer p.collation), dataLength }
  | _ => { userType, flags, type, dataLength }

end VariantProperties

/-- The lengths that the data of a base type may have. -/
def isDataLength (n : Nat) : DataType → Bool
  | .Bit | .TinyInt => n = 1
  | .SmallInt => n = 2
  | .Date => n = 3
  | .Int | .Real | .SmallMoney | .SmallDateTime => n = 4
  | .BigInt | .Float | .Money | .DateTime => n = 8
  | .UniqueIdentifier => n = 0x10
  | .Time => n ∈ [3, 4, 5]
  | .DateTime2 => n ∈ [6, 7, 8]
  | .DateTimeOffset => n ∈ [8, 9, 10]
  | .NumericN | .DecimalN => n ∈ [5, 9, 13, 17]
  | .VarBinary | .Binary | .VarChar | .Char | .NVarChar | .NChar => n < 0xFFFF
  | _ => false

/-- The length that stands in front of the data in a column of the type. -/
def columnLength (n : Nat) : DataType → Bytes
  | .UniqueIdentifier | .Date | .Time | .DateTime2 | .DateTimeOffset | .NumericN | .DecimalN =>
    leBytes 1 n
  | .VarBinary | .Binary | .VarChar | .Char | .NVarChar | .NChar => leBytes 2 n
  | _ => []

/-- What either side reads behind the properties. -/
def readData (options : ParserOptions) (p : VariantProperties) (n : Nat) : DataType → Reader Value
  | .Time => readTime options n (some p.scale.toNat)
  | .DateTime2 => readDateTime2 options n (some p.scale.toNat)
  | .DateTimeOffset => readDateTimeOffset options n (some p.scale.toNat)
  | .NumericN | .DecimalN => readNumeric n (some p.scale.toNat)
  | .VarBinary | .Binary => readColumnBinary n
  | .VarChar | .Char => readColumnChars options (some (.fromBuffer p.collation)) n
  | .NVarChar | .NChar => readColumnNChars n
  | type => readVariantData options type n

section Agreement

variable (options : ParserOptions) (p : VariantProperties) {type : DataType}

theorem readColumnBinary_any (n : Nat) : ReadsAny (readColumnBinary n) n := by
  intro bytes hlength
  subst hlength
  exact ⟨_, (readBinary_reads bytes).map Value.buffer⟩

theorem readColumnChars_any (collation : Collation) (n : Nat) :
    ReadsAny (readColumnChars options (some collation) n) n := by
  intro bytes hlength
  subst hlength
  exact ⟨_, ((readBinary_reads bytes).map (decodeChars options.platform collation.codepage)).map
    Value.string⟩

theorem readColumnNChars_any (n : Nat) : ReadsAny (readColumnNChars n) n := by
  intro bytes hlength
  subst hlength
  have hreads := Reads.window (ε := JsError) toUcs2_windowed bytes
  exact ⟨_, hreads.map Value.string⟩

/-- Data of the right length can be read. -/
theorem readData_any {n : Nat} (hn : isDataLength n type = true) :
    ReadsAny (readData options p n type) n := by
  cases type with
  | Bit =>
    obtain rfl := of_decide_eq_true hn
    exact readBit_any
  | TinyInt =>
    obtain rfl := of_decide_eq_true hn
    exact readTinyInt_any
  | SmallInt =>
    obtain rfl := of_decide_eq_true hn
    exact readSmallInt_any
  | Date =>
    obtain rfl := of_decide_eq_true hn
    exact readDate_any options
  | Int =>
    obtain rfl := of_decide_eq_true hn
    exact readInt_any
  | Real =>
    obtain rfl := of_decide_eq_true hn
    exact readReal_any
  | SmallMoney =>
    obtain rfl := of_decide_eq_true hn
    exact readSmallMoney_any
  | SmallDateTime =>
    obtain rfl := of_decide_eq_true hn
    exact readSmallDateTime_any options
  | BigInt =>
    obtain rfl := of_decide_eq_true hn
    exact readBigInt_any
  | Float =>
    obtain rfl := of_decide_eq_true hn
    exact readFloat_any
  | Money =>
    obtain rfl := of_decide_eq_true hn
    exact readMoney_any
  | DateTime =>
    obtain rfl := of_decide_eq_true hn
    exact readDateTime_any options
  | UniqueIdentifier =>
    obtain rfl := of_decide_eq_true hn
    exact readUniqueIdentifier_any options
  | Time => exact readTime_any options (of_decide_eq_true hn) _
  | DateTime2 =>
    have hmem := of_decide_eq_true hn
    obtain ⟨m, rfl, hm⟩ : ∃ m, n = m + 3 ∧ m ∈ [3, 4, 5] := by
      simp only [List.mem_cons, List.not_mem_nil, or_false] at hmem
      rcases hmem with rfl | rfl | rfl
      · exact ⟨3, rfl, by decide⟩
      · exact ⟨4, rfl, by decide⟩
      · exact ⟨5, rfl, by decide⟩
    exact readDateTime2_any options hm _
  | DateTimeOffset =>
    have hmem := of_decide_eq_true hn
    obtain ⟨m, rfl, hm⟩ : ∃ m, n = m + 5 ∧ m ∈ [3, 4, 5] := by
      simp only [List.mem_cons, List.not_mem_nil, or_false] at hmem
      rcases hmem with rfl | rfl | rfl
      · exact ⟨3, rfl, by decide⟩
      · exact ⟨4, rfl, by decide⟩
      · exact ⟨5, rfl, by decide⟩
    exact readDateTimeOffset_any options hm _
  | NumericN | DecimalN => exact readNumeric_any (of_decide_eq_true hn) (some p.scale.toNat)
  | VarBinary | Binary => exact readColumnBinary_any n
  | VarChar | Char => exact readColumnChars_any options _ n
  | NVarChar | NChar => exact readColumnNChars_any n
  | _ => cases hn

theorem readCollation_properties : Reads readCollation p.collation (.fromBuffer p.collation) := by
  have hreads := Reader.number_reads Collation.fromBuffer p.collation
  rwa [p.length_collation] at hreads

/-- The variant reads over the properties of its base type. -/
theorem readVariantData_reads {n : Nat} {props data : Bytes} {v : Value}
    (hprops : p.bytes type = some props) (h : Reads (readData options p n type) data v) :
    Reads (readVariantData options type n) (props ++ data) v := by
  cases type with
  | Time | DateTime2 | DateTimeOffset =>
    cases hprops
    exact (readUInt8_reads p.scale.toNat_lt).bind h
  | VarBinary | Binary =>
    cases hprops
    exact (readUInt16LE_reads p.maxLength.toNat_lt).bind h
  | NumericN | DecimalN =>
    cases hprops
    rw [List.append_assoc]
    exact (readUInt8_reads p.precision.toNat_lt).bind ((readUInt8_reads p.scale.toNat_lt).bind h)
  | VarChar | Char | NVarChar | NChar =>
    cases hprops
    rw [List.append_assoc]
    exact (readUInt16LE_reads p.maxLength.toNat_lt).bind ((readCollation_properties p).bind h)
  | UniqueIdentifier | Bit | TinyInt | SmallInt | Int | BigInt | SmallDateTime | DateTime | Real
  | Float | SmallMoney | Money | Date =>
    cases hprops
    exact h
  | _ => cases hprops

theorem readShortNullable_some {reader : Nat → Reader Value} {n : Nat} {data : Bytes} {v : Value}
    (hlt : n < 0xFFFF) (h : Reads (reader n) data v) :
    Reads (readShortNullable reader) (leBytes 2 n ++ data) v := by
  refine (readUInt16LE_reads (by omega)).bind ?_
  rw [if_neg (by omega)]
  exact h

theorem readNullable_reads {reader : Nat → Reader Value} {n : Nat} {data : Bytes} {v : Value}
    (h0 : 0 < n) (hlt : n < 256) (h : Reads (reader n) data v) :
    Reads (readNullable reader) (leBytes 1 n ++ data) v := by
  refine (readUInt8_reads hlt).bind ?_
  rw [if_neg (by omega)]
  exact h

/-- The column reads over its own length. -/
theorem readValue_reads {n : Nat} {data : Bytes} {v : Value} (userType flags : Nat)
    (dataLength : Option Nat) (hn : isDataLength n type = true)
    (h : Reads (readData options p n type) data v) :
    Reads (readValue options (p.metadata userType flags dataLength type))
      (columnLength n type ++ data) v := by
  cases type with
  | Time | DateTime2 | DateTimeOffset | NumericN | DecimalN =>
    have hmem := of_decide_eq_true hn
    simp only [List.mem_cons, List.not_mem_nil, or_false] at hmem
    exact readNullable_reads (by omega) (by omega) h
  | Date =>
    obtain rfl := of_decide_eq_true hn
    exact readNullable_reads (by decide) (by decide) h
  | UniqueIdentifier =>
    obtain rfl := of_decide_eq_true hn
    refine readNullable_reads (by decide) (by decide) ?_
    rw [if_pos rfl]
    exact h
  | VarBinary | Binary | VarChar | Char | NVarChar | NChar =>
    exact readShortNullable_some (of_decide_eq_true hn) h
  | Bit | TinyInt | SmallInt | Int | BigInt | SmallDateTime | DateTime | Real | Float | SmallMoney
  | Money => exact h
  | _ => cases hn

/-- The bytes of a variant behind its declared length. -/
def variantBytes (type : DataType) (props data : Bytes) : Bytes :=
  leBytes 1 type.id ++ (leBytes 1 props.length ++ (props ++ data))

theorem length_variantBytes (type : DataType) (props data : Bytes) :
    (variantBytes type props data).length = props.length + data.length + 2 := by
  simp only [variantBytes, List.length_append, length_leBytes]
  omega

theorem length_properties {props : Bytes} (h : p.bytes type = some props) :
    props.length ≤ 7 := by
  cases type with
  | VarChar | Char | NVarChar | NChar =>
    cases h
    rw [List.length_append, length_leBytes, p.length_collation]
  | Time | DateTime2 | DateTimeOffset | VarBinary | Binary | NumericN | DecimalN =>
    cases h
    simp
  | UniqueIdentifier | Bit | TinyInt | SmallInt | Int | BigInt | SmallDateTime | DateTime | Real
  | Float | SmallMoney | Money | Date =>
    cases h
    simp
  | _ => cases h

theorem readVariant_reads {props data : Bytes} {v : Value} (hprops : p.bytes type = some props)
    (h : Reads (readData options p data.length type) data v) :
    Reads (readVariant options (variantBytes type props data).length)
      (variantBytes type props data) v := by
  have hle := length_properties p hprops
  have hlength : (((variantBytes type props data).length : Nat) : Int) - (props.length : Nat) - 2 =
      (data.length : Nat) := by
    rw [length_variantBytes]
    omega
  refine (readUInt8_reads type.id_lt).bind ((readUInt8_reads (by omega)).bind ?_)
  rw [type.ofId_id, hlength]
  exact readVariantData_reads options p hprops h

theorem isDataLength_lt {n : Nat} (h : isDataLength n type = true) : n < 65535 := by
  cases type with
  | VarBinary | Binary | VarChar | Char | NVarChar | NChar => exact of_decide_eq_true h
  | Time | DateTime2 | DateTimeOffset | NumericN | DecimalN =>
    have hmem := of_decide_eq_true h
    simp only [List.mem_cons, List.not_mem_nil, or_false] at hmem
    omega
  | Bit | TinyInt | SmallInt | Date | Int | Real | SmallMoney | SmallDateTime | BigInt | Float
  | Money | DateTime | UniqueIdentifier =>
    have heq := of_decide_eq_true h
    omega
  | _ => cases h

end Agreement

/-- **Variants agree with the plain types.** Whatever its properties, data of a base type is read
as the same value inside a variant and in a column of that type; the variant is read up to the
end of its declared length, and no further. -/
theorem variant_agrees (options : ParserOptions) (p : VariantProperties) (type : DataType)
    {props : Bytes} (hprops : p.bytes type = some props) (data : Bytes)
    (hdata : isDataLength data.length type = true) (userType flags : Nat)
    (dataLength : Option Nat) :
    ∃ v,
      Reads (readValue options (p.metadata userType flags dataLength type))
        (columnLength data.length type ++ data) v ∧
      Reads (readVariant options (variantBytes type props data).length)
        (variantBytes type props data) v ∧
      ∀ metadata : Metadata, metadata.type = .Variant →
        Reads (readValue options metadata)
          (leBytes 4 (variantBytes type props data).length ++ variantBytes type props data) v := by
  obtain ⟨v, hv⟩ := readData_any options p hdata data rfl
  have hvariant := readVariant_reads options p hprops hv
  refine ⟨v, readValue_reads options p userType flags dataLength hdata hv, hvariant, ?_⟩
  intro metadata hmetadata
  have hlength := length_variantBytes type props data
  have hprops' := length_properties p hprops
  have hdata' := isDataLength_lt hdata
  rw [readValue, hmetadata]
  refine (readUInt32LE_reads (by omega)).bind ?_
  rw [if_neg (by omega)]
  exact hvariant

/-- `12.34` as a `numeric(9, 2)`. -/
theorem variant_agrees_numeric :
    ∃ v,
      Reads (readValue (.default asciiPlatform)
        { userType := 0, flags := 0, type := .NumericN, precision := some 9, scale := some 2,
          dataLength := some 5 }) [5, 1, 0xD2, 4, 0, 0] v ∧
      Reads (readVariant (.default asciiPlatform) 9) [0x6C, 2, 9, 2, 1, 0xD2, 4, 0, 0] v := by
  obtain ⟨v, hplain, hvariant, -⟩ := variant_agrees (.default asciiPlatform)
    { precision := 9, scale := 2, maxLength := 0, collation := [0, 0, 0, 0, 0],
      length_collation := rfl } .NumericN rfl [1, 0xD2, 4, 0, 0] (by decide) 0 0 (some 5)
  exact ⟨v, hplain, hvariant⟩

end Tedious
