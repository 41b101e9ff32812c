import Tedious.DataTypes.RoundTrip
import Tedious.Token.Chunking

/-!
# Tedious.DataTypes.NullSentinel

Values of the types of variable length, from what the user hands over to what the client
would read. The five types are taken together as `VariableType`; text of `VarChar` and `Char`
is encoded when it is validated, in the code page of the connection's collation.

`roundTrips_iff` settles which values come back: all but those whose 65535 bytes stand behind
two length bytes, where the length is the marker of `NULL`.
-/

namespace Tedious

open Chunked

/-! ### Encoded text -/

/-- `iconv.encode`, which `iconv.decode` undoes on what can be encoded. -/
structure Iconv (platform : Platform) where
  encode : JsString → String → Bytes
  encodable : JsString → String → Prop
  decode_encode : ∀ {text : JsString} {encoding : String}, encodable text encoding →
    platform.iconvDecode (encode text encoding) encoding = text

/-! ### The types -/

inductive VariableType
  | VarChar
  | Char
  | NVarChar
  | NChar
  | VarBinary
  deriving DecidableEq, Repr

namespace VariableType

/-- What `validate` accepts, apart from `null`. -/
def Input : VariableType → Type
  | VarBinary => Bytes
  | _ => JsString

/-- The same value as a column of a row would show it. -/
def decoded : (type : VariableType) → type.Input → Value
  | VarChar, text => .string text
  | Char, text => .string text
  | NVarChar, text => .string text
  | NChar, text => .string text
  | VarBinary, bytes => .buffer bytes

/-- Validate a value and build its parameter under a declared length. -/
def build (encode : JsString → String → Bytes) (length : Option JsNumber)
    (collation : Option Collation) :
    (type : VariableType) → Option type.Input → Except JsError (Bytes × Bytes)
  | VarChar, text => do
    let value ← validateText encode collation text
    TYPES.VarChar.build { length, precision := none, scale := none, collation, value }
  | Char, text => do
    let value ← validateText encode collation text
    TYPES.Char.build { length, precision := none, scale := none, collation, value }
  | NVarChar, value =>
    TYPES.NVarChar.build { length, precision := none, scale := none, collation, value }
  | NChar, value =>
    TYPES.NChar.build { length, precision := none, scale := none, collation, value }
  | VarBinary, value =>
    TYPES.VarBinary.build { length, precision := none, scale := none, collation, value }

end VariableType

/-- The number can be written as two bytes. -/
def JsNumber.fitsUInt16 : JsNumber → Bool
  | finite q => 0 ≤ q && q ≤ 65535
  | nan => true
  | infinity | negInfinity => false

/-- The value has 65535 bytes, and its type writes them behind two length bytes. -/
def VariableType.LooksNull (encode : JsString → String → Bytes) (length : Option JsNumber)
    (collation : Option Collation) : (type : VariableType) → Option type.Input → Prop
  | VarChar, text => isShort 8000 length = true ∧ (JsNumber.ofOption length).fitsUInt16 = true ∧
      ∃ bytes, validateText encode collation text = .ok (some bytes) ∧ bytes.length = 65535
  | Char, text => (JsNumber.ofOption length).fitsUInt16 = true ∧
      ∃ bytes, validateText encode collation text = .ok (some bytes) ∧ bytes.length = 65535
  | VarBinary, value => isShort 8000 length = true ∧
      (JsNumber.ofOption length).fitsUInt16 = true ∧ ∃ bytes ∈ value, bytes.length = 65535
  | NVarChar, _ => False
  | NChar, _ => False

/-- Where building succeeds, the bytes of the value are read back under the metadata that
the type description describes: all of them and nothing else, as `value`. -/
def ReadBack (options : ParserOptions) (built : Except JsError (Bytes × Bytes)) (value : Value) :
    Prop :=
  ∀ typeInfo bytes, built = .ok (typeInfo, bytes) → ∀ userType flags,
    ∃ metadata, Reads (readDescription userType flags) typeInfo metadata ∧
      ∀ s, Task.Takes (awaitValue options metadata) s bytes value s

/-- The value comes back, and `null` comes back as `null`. -/
def VariableType.RoundTrips (options : ParserOptions) (encode : JsString → String → Bytes)
    (length : Option JsNumber) (collation : Option Collation) (type : VariableType)
    (value : Option type.Input) : Prop :=
  ReadBack options (type.build encode length collation value)
    ((value.map type.decoded).getD .null)

/-! ### Descriptions -/

theorem writeUIntLE_fitsUInt16 {n : JsNumber} (h : n.fitsUInt16 = true) :
    ∃ m < 65536, writeUIntLE 2 n = .ok (leBytes 2 m) := by
  have hok : ∃ bytes, writeUIntLE 2 n = .ok bytes := by
    cases n with
    | finite q =>
      rw [JsNumber.fitsUInt16, Bool.and_eq_true, decide_eq_true_eq, decide_eq_true_eq] at h
      exact ⟨_, if_pos ⟨h.1, h.2.trans_eq (by norm_num)⟩⟩
    | nan => exact ⟨_, rfl⟩
    | infinity => cases h
    | negInfinity => cases h
  obtain ⟨bytes, hbytes⟩ := hok
  obtain ⟨m, hm, rfl⟩ := writeUIntLE_ok hbytes
  exact ⟨m, hm, hbytes⟩

theorem fitsUInt16_of_write {n : JsNumber} {bytes : Bytes} (h : writeUIntLE 2 n = .ok bytes) :
    n.fitsUInt16 = true := by
  cases n with
  | finite q =>
    rw [writeUIntLE] at h
    split at h
    · next hrange =>
      rw [JsNumber.fitsUInt16, Bool.and_eq_true, decide_eq_true_eq, decide_eq_true_eq]
      exact ⟨hrange.1, hrange.2.trans_eq (by norm_num)⟩
    · cases h
  | nan => rfl
  | infinity => cases h
  | negInfinity => cases h

/-- A short length that was described could be written. -/
theorem fitsUInt16_of_declaredOrMax {maximumLength : Nat} {declared : Option JsNumber}
    {bytes : Bytes} (hshort : isShort maximumLength declared = true)
    (h : declaredOrMax maximumLength id declared = .ok bytes) :
    (JsNumber.ofOption declared).fitsUInt16 = true := by
  rw [declaredOrMax, if_pos hshort] at h
  exact fitsUInt16_of_write h

/-- The metadata of a type with a length and a collation. -/
def textMetadata (userType flags : Nat) (type : DataType) (collation : Option Collation)
    (length : Nat) : Metadata :=
  { userType, flags, type, collation := some (Collation.fromBuffer (collationField collation)),
    dataLength := some length }

theorem readDescription_text (typeNumber : Nat) {length : Nat} {type : DataType}
    (hnumber : typeNumber < 256) (htype : DataType.ofId typeNumber = some type)
    (htext : type ∈ [DataType.VarChar, .Char, .NVarChar, .NChar]) (hlength : length < 65536)
    (collation : Option Collation) (userType flags : Nat) :
    Reads (readDescription userType flags)
      (leBytes 1 typeNumber ++ leBytes 2 length ++ collationField collation)
      (textMetadata userType flags type collation length) := by
  rw [List.append_assoc]
  exact readDescription_reads typeNumber hnumber htype
    (readTypeInfo_reads_text userType flags htext hlength collation)

variable {options : ParserOptions} {typeInfo : Bytes}

theorem describes_VarChar {parameter : ParameterData Bytes}
    (h : TYPES.VarChar.generateTypeInfo parameter = .ok typeInfo) :
    ∃ length, decide (length = 0xFFFF) = !isShort 8000 parameter.length ∧
      ∀ userType flags, Reads (readDescription userType flags) typeInfo
        (textMetadata userType flags .VarChar parameter.collation length) := by
  obtain ⟨bytes, hlength, h⟩ := Except.bind_ok h
  obtain ⟨length, hlt, rfl, hmax⟩ := declaredOrMax_ok (fun n hn => hn) hlength
  cases h
  exact ⟨length, hmax, readDescription_text 0xA7 (by decide) rfl (by decide) hlt _⟩

theorem describes_NVarChar {parameter : ParameterData JsString}
    (h : TYPES.NVarChar.generateTypeInfo parameter = .ok typeInfo) :
    ∃ length, decide (length = 0xFFFF) = !isShort 4000 parameter.length ∧
      ∀ userType flags, Reads (readDescription userType flags) typeInfo
        (textMetadata userType flags .NVarChar parameter.collation length) := by
  obtain ⟨bytes, hlength, h⟩ := Except.bind_ok h
  obtain ⟨length, hlt, rfl, hmax⟩ := declaredOrMax_ok (fun n => double_atMost) hlength
  cases h
  exact ⟨length, hmax, readDescription_text 0xE7 (by decide) rfl (by decide) hlt _⟩

theorem describes_Char {parameter : ParameterData Bytes}
    (h : TYPES.Char.generateTypeInfo parameter = .ok typeInfo) :
    ∃ length, ∀ userType flags, Reads (readDescription userType flags) typeInfo
      (textMetadata userType flags .Char parameter.collation length) := by
  obtain ⟨bytes, hlength, h⟩ := Except.bind_ok h
  obtain ⟨length, hlt, rfl⟩ := writeUIntLE_ok hlength
  cases h
  exact ⟨length, readDescription_text 0xAF (by decide) rfl (by decide) hlt _⟩

theorem describes_NChar {parameter : ParameterData JsString}
    (h : TYPES.NChar.generateTypeInfo parameter = .ok typeInfo) :
    ∃ length, ∀ userType flags, Reads (readDescription userType flags) typeInfo
      (textMetadata userType flags .NChar parameter.collation length) := by
  obtain ⟨bytes, hlength, h⟩ := Except.bind_ok h
  obtain ⟨length, hlt, rfl⟩ := writeUIntLE_ok hlength
  cases h
  exact ⟨length, readDescription_text 0xEF (by decide) rfl (by decide) hlt _⟩

theorem describes_VarBinary {parameter : ParameterData Bytes}
    (h : TYPES.VarBinary.generateTypeInfo parameter = .ok typeInfo) :
    ∃ length, decide (length = 0xFFFF) = !isShort 8000 parameter.length ∧
      ∀ userType flags, Reads (readDescription userType flags) typeInfo
        { userType, flags, type := .VarBinary, dataLength := some length } := by
  obtain ⟨bytes, hlength, h⟩ := Except.bind_ok h
  obtain ⟨length, hlt, rfl, hmax⟩ := declaredOrMax_ok (fun n hn => hn) hlength
  cases h
  exact ⟨length, hmax, fun userType flags => readDescription_reads 0xA5 (by decide)
    rfl (readTypeInfo_reads_binary userType flags (by decide) hlt)⟩

/-! ### Values -/

/-- The text that `iconv` makes of the bytes of a value. -/
def decodedText (options : ParserOptions) (collation : Option Collation) (bytes : Bytes) : Value :=
  .string (decodeChars options.platform
    (Collation.fromBuffer (collationField collation)).codepage bytes)

theorem readBack_VarChar {parameter : ParameterData Bytes}
    (hnull : isShort 8000 parameter.length = true → ∀ bytes ∈ parameter.value,
      bytes.length ≠ 65535) :
    ReadBack options (TYPES.VarChar.build parameter)
      ((parameter.value.map (decodedText options parameter.collation)).getD .null) := by
  intro typeInfo bytes hbuild userType flags
  obtain ⟨length, data, hinfo, hlength, hdata, rfl⟩ := TYPES.VarChar.build_ok hbuild
  obtain ⟨n, hmax, hdescribes⟩ := describes_VarChar hinfo
  refine ⟨_, hdescribes userType flags, fun s => ?_⟩
  refine awaitValue_shortOrPlp ?_ rfl hlength hdata (fun bytes _ => readColumnChars_reads ..)
    (fun chunks => rfl) hnull
  rw [← hmax]
  simp [isPLPStream, textMetadata]

theorem readBack_Char {parameter : ParameterData Bytes}
    (hnull : ∀ bytes ∈ parameter.value, bytes.length ≠ 65535) :
    ReadBack options (TYPES.Char.build parameter)
      ((parameter.value.map (decodedText options parameter.collation)).getD .null) := by
  intro typeInfo bytes hbuild userType flags
  obtain ⟨length, data, hinfo, hlength, hdata, rfl⟩ := TYPES.Char.build_ok hbuild
  obtain ⟨n, hdescribes⟩ := describes_Char hinfo
  refine ⟨_, hdescribes userType flags, fun s => ?_⟩
  have hflat : data.flatten = parameter.value.getD [] := by
    cases hdata
    cases parameter.value <;> simp
  rw [hflat]
  exact awaitValue_shortLength rfl rfl hlength (fun bytes _ => readColumnChars_reads ..) hnull

/-- The bytes of UTF-16 text are even in number. -/
theorem ucs2Bytes_ne_65535 {text : Option JsString} :
    ∀ bytes ∈ text.map ucs2Bytes, bytes.length ≠ 65535 := by
  intro bytes hbytes
  obtain ⟨text, -, rfl⟩ := Option.map_eq_some_iff.1 hbytes
  rw [length_ucs2Bytes]
  omega

/-- A text is what its bytes stand for. -/
theorem string_eq_ucs2 (text : Option JsString) : (text.map Value.string).getD .null =
    ((text.map ucs2Bytes).map fun bytes => Value.string (ucs2 bytes)).getD .null := by
  cases text with
  | none => rfl
  | some text => simp [ucs2_ucs2Bytes]

theorem readColumnNChars_ucs2 {text : Option JsString} :
    ∀ bytes ∈ text.map ucs2Bytes,
      Reads (readColumnNChars bytes.length) bytes (.string (ucs2 bytes)) := by
  intro bytes hbytes
  obtain ⟨text, -, rfl⟩ := Option.map_eq_some_iff.1 hbytes
  rw [ucs2_ucs2Bytes]
  exact readColumnNChars_reads text

theorem readBack_NVarChar {parameter : ParameterData JsString} :
    ReadBack options (TYPES.NVarChar.build parameter)
      ((parameter.value.map Value.string).getD .null) := by
  intro typeInfo bytes hbuild userType flags
  obtain ⟨length, data, hinfo, hlength, hdata, rfl⟩ := TYPES.NVarChar.build_ok hbuild
  obtain ⟨n, hmax, hdescribes⟩ := describes_NVarChar hinfo
  refine ⟨_, hdescribes userType flags, fun s => ?_⟩
  rw [string_eq_ucs2]
  refine awaitValue_shortOrPlp ?_ rfl hlength hdata readColumnNChars_ucs2 (fun chunks => rfl)
    fun _ => ucs2Bytes_ne_65535
  rw [← hmax]
  simp [isPLPStream, textMetadata]

theorem readBack_NChar {parameter : ParameterData JsString} :
    ReadBack options (TYPES.NChar.build parameter)
      ((parameter.value.map Value.string).getD .null) := by
  intro typeInfo bytes hbuild userType flags
  obtain ⟨length, data, hinfo, hlength, hdata, rfl⟩ := TYPES.NChar.build_ok hbuild
  obtain ⟨n, hdescribes⟩ := describes_NChar hinfo
  refine ⟨_, hdescribes userType flags, fun s => ?_⟩
  have hflat : data.flatten = (parameter.value.map ucs2Bytes).getD [] := by
    cases hdata
    cases parameter.value <;> simp
  rw [hflat, string_eq_ucs2]
  exact awaitValue_shortLength rfl rfl hlength readColumnNChars_ucs2 ucs2Bytes_ne_65535

theorem readBack_VarBinary {parameter : ParameterData Bytes}
    (hnull : isShort 8000 parameter.length = true → ∀ bytes ∈ parameter.value,
      bytes.length ≠ 65535) :
    ReadBack options (TYPES.VarBinary.build parameter)
      ((parameter.value.map Value.buffer).getD .null) := by
  intro typeInfo bytes hbuild userType flags
  obtain ⟨length, data, hinfo, hlength, hdata, rfl⟩ := TYPES.VarBinary.build_ok hbuild
  obtain ⟨n, hmax, hdescribes⟩ := describes_VarBinary hinfo
  refine ⟨_, hdescribes userType flags, fun s => ?_⟩
  refine awaitValue_shortOrPlp ?_ rfl hlength hdata (fun bytes _ => readColumnBinary_reads bytes)
    (fun chunks => rfl) hnull
  rw [← hmax]
  simp [isPLPStream]

/-! ### The marker of null -/

theorem shortLength_65535 {bytes : Bytes} (h : bytes.length = 65535) :
    shortLength (some bytes) = .ok NULL_LENGTH := by
  rw [shortLength, h]
  exact writeUIntLE_ofNat (k := 2) (by decide)

/-- The bytes of a short type whose length is the marker. -/
theorem build_short_65535 {methods : DataTypeMethods Bytes}
    {parameter : ParameterData Bytes} {bytes : Bytes}
    (hshort : isShort 8000 parameter.length = true) (hvalue : parameter.value = some bytes)
    (hbytes : bytes.length = 65535) (hinfo : methods.generateTypeInfo parameter = .ok typeInfo)
    (hlength : methods.generateParameterLength parameter =
      shortOrPlpLength 8000 parameter.length parameter.value)
    (hdata : methods.generateParameterData parameter =
      shortOrPlpData 8000 parameter.length parameter.value) :
    methods.build parameter = .ok (typeInfo, NULL_LENGTH ++ bytes) := by
  rw [DataTypeMethods.build, hinfo, hlength, hdata, hvalue, shortOrPlpLength, if_pos hshort,
    shortLength_65535 hbytes, shortOrPlpData, if_pos hshort]
  simp [bind, Except.bind, pure, Except.pure]

/-- Bytes behind the marker are not read back, whatever they stand for. -/
theorem not_readBack {built : Except JsError (Bytes × Bytes)} {value : Value} {bytes : Bytes}
    {metadata : Metadata} {reader : Nat → Reader Value}
    (hbuilt : built = .ok (typeInfo, NULL_LENGTH ++ bytes))
    (hdescribes : Reads (readDescription 0 0) typeInfo metadata)
    (hplp : isPLPStream metadata = false)
    (hread : readValue options metadata = readShortNullable reader) (hne : bytes ≠ []) :
    ¬ ReadBack options built value := by
  intro h
  obtain ⟨metadata', hdescribes', htakes⟩ := h _ _ hbuilt 0 0
  obtain rfl := hdescribes.returns.unique hdescribes'.returns
  exact awaitValue_collision hplp hread hne (htakes [])

theorem ne_nil_of_length {bytes : Bytes} (h : bytes.length = 65535) : bytes ≠ [] := by
  rintro rfl
  cases h

theorem not_readBack_VarChar {parameter : ParameterData Bytes} {bytes : Bytes} {value : Value}
    (hshort : isShort 8000 parameter.length = true)
    (hfits : (JsNumber.ofOption parameter.length).fitsUInt16 = true)
    (hvalue : parameter.value = some bytes) (hlength : bytes.length = 65535) :
    ¬ ReadBack options (TYPES.VarChar.build parameter) value := by
  obtain ⟨n, -, hwritten⟩ := writeUIntLE_fitsUInt16 hfits
  have hinfo : TYPES.VarChar.generateTypeInfo parameter =
      .ok ([0xA7] ++ leBytes 2 n ++ collationField parameter.collation) := by
    show (declaredOrMax 8000 id parameter.length >>= _) = _
    rw [declaredOrMax, if_pos hshort, id, hwritten]
    rfl
  have hbuilt : TYPES.VarChar.build parameter =
      .ok ([0xA7] ++ leBytes 2 n ++ collationField parameter.collation, NULL_LENGTH ++ bytes) :=
    build_short_65535 hshort hvalue hlength hinfo rfl rfl
  obtain ⟨m, hmax, hdescribes⟩ := describes_VarChar hinfo
  refine not_readBack hbuilt (hdescribes 0 0) ?_ rfl (ne_nil_of_length hlength)
  rw [hshort] at hmax
  simpa [isPLPStream, textMetadata] using hmax

theorem not_readBack_VarBinary {parameter : ParameterData Bytes} {bytes : Bytes} {value : Value}
    (hshort : isShort 8000 parameter.length = true)
    (hfits : (JsNumber.ofOption parameter.length).fitsUInt16 = true)
    (hvalue : parameter.value = some bytes) (hlength : bytes.length = 65535) :
    ¬ ReadBack options (TYPES.VarBinary.build parameter) value := by
  obtain ⟨n, -, hwritten⟩ := writeUIntLE_fitsUInt16 hfits
  have hinfo : TYPES.VarBinary.generateTypeInfo parameter = .ok ([0xA5] ++ leBytes 2 n) := by
    show (declaredOrMax 8000 id parameter.length >>= _) = _
    rw [declaredOrMax, if_pos hshort, id, hwritten]
    rfl
  have hbuilt : TYPES.VarBinary.build parameter =
      .ok ([0xA5] ++ leBytes 2 n, NULL_LENGTH ++ bytes) :=
    build_short_65535 hshort hvalue hlength hinfo rfl rfl
  obtain ⟨m, hmax, hdescribes⟩ := describes_VarBinary hinfo
  refine not_readBack hbuilt (hdescribes 0 0) ?_ rfl (ne_nil_of_length hlength)
  rw [hshort] at hmax
  simpa [isPLPStream] using hmax

theorem not_readBack_Char {parameter : ParameterData Bytes} {bytes : Bytes} {value : Value}
    (hfits : (JsNumber.ofOption parameter.length).fitsUInt16 = true)
    (hvalue : parameter.value = some bytes) (hlength : bytes.length = 65535) :
    ¬ ReadBack options (TYPES.Char.build parameter) value := by
  obtain ⟨n, -, hwritten⟩ := writeUIntLE_fitsUInt16 hfits
  have hinfo : TYPES.Char.generateTypeInfo parameter =
      .ok ([0xAF] ++ leBytes 2 n ++ collationField parameter.collation) := by
    show (writeUIntLE 2 (.ofOption parameter.length) >>= _) = _
    rw [hwritten]
    rfl
  have hbuilt : TYPES.Char.build parameter =
      .ok ([0xAF] ++ leBytes 2 n ++ collationField parameter.collation, NULL_LENGTH ++ bytes) := by
    rw [DataTypeMethods.build, hinfo]
    show (shortLength parameter.value >>= fun length => Except.ok parameter.value.toList >>= _) = _
    rw [hvalue, shortLength_65535 hlength]
    simp [bind, Except.bind, pure, Except.pure]
  obtain ⟨m, hdescribes⟩ := describes_Char hinfo
  exact not_readBack hbuilt (hdescribes 0 0) rfl rfl (ne_nil_of_length hlength)

/-! ### From text to text -/

/-- The collation of a description is the one that the server sent. -/
theorem codepage_collationField {collation : Collation} {buffer : Bytes}
    (h : collation = .fromBuffer buffer) :
    (Collation.fromBuffer (collationField (some collation))).codepage = collation.codepage := by
  subst h
  exact Collation.codepage_fromBuffer_toBuffer buffer

variable {iconv : Iconv options.platform} {collation : Option Collation} {text : Option JsString}
  {bytes : Option Bytes}

/-- Text that can be encoded is what `iconv` makes of its bytes. -/
theorem decodedText_validateText (hcollation : ∀ c ∈ collation, ∃ buffer, c = .fromBuffer buffer)
    (htext : ∀ text' ∈ text, ∀ c ∈ collation, ∀ codepage ∈ c.codepage,
      iconv.encodable text' codepage.name)
    (h : validateText iconv.encode collation text = .ok bytes) :
    bytes.map (decodedText options collation) = text.map Value.string := by
  cases text with
  | none =>
    cases h
    rfl
  | some text =>
    cases collation with
    | none => cases h
    | some collation =>
      rw [validateText] at h
      cases hcodepage : collation.codepage with
      | none =>
        rw [hcodepage] at h
        cases h
      | some codepage =>
        rw [hcodepage] at h
        cases h
        obtain ⟨buffer, hbuffer⟩ := hcollation collation rfl
        have hdecode := iconv.decode_encode (htext text rfl collation rfl codepage hcodepage)
        rw [Option.map_some, Option.map_some, decodedText, codepage_collationField hbuffer, hcodepage]
        exact congrArg (fun text => some (Value.string text)) hdecode

/-- A value that could not be validated is not built. -/
theorem readBack_validate (iconv : Iconv options.platform)
    {f : Option Bytes → Except JsError (Bytes × Bytes)} {value : Value} :
    ReadBack options (validateText iconv.encode collation text >>= f) value ↔
      ∀ bytes, validateText iconv.encode collation text = .ok bytes →
        ReadBack options (f bytes) value := by
  cases validateText iconv.encode collation text with
  | error e =>
    refine iff_of_true (fun typeInfo bytes h => ?_) fun bytes h => ?_
    · cases h
    · cases h
  | ok bytes =>
    refine ⟨fun h bytes' hbytes => ?_, fun h => h bytes rfl⟩
    cases hbytes
    exact h

/-- The text of a value is encodable in the code page that it is sent in. -/
def VariableType.Encodable {platform : Platform} (iconv : Iconv platform)
    (collation : Option Collation) : (type : VariableType) → Option type.Input → Prop
  | VarChar, text => ∀ text' ∈ (text : Option JsString), ∀ c ∈ collation, ∀ codepage ∈ c.codepage,
      iconv.encodable text' codepage.name
  | Char, text => ∀ text' ∈ (text : Option JsString), ∀ c ∈ collation, ∀ codepage ∈ c.codepage,
      iconv.encodable text' codepage.name
  | NVarChar, _ => True
  | NChar, _ => True
  | VarBinary, _ => True

/-- **Round trip of variable length.** Under any declared length, a value comes back exactly
when its length cannot be mistaken for the marker of `NULL`. -/
theorem roundTrips_iff (options : ParserOptions) (iconv : Iconv options.platform)
    (length : Option JsNumber) {collation : Option Collation}
    (hcollation : ∀ c ∈ collation, ∃ buffer, c = .fromBuffer buffer) {type : VariableType}
    {value : Option type.Input} (hvalue : type.Encodable iconv collation value) :
    type.RoundTrips options iconv.encode length collation value ↔
      ¬ type.LooksNull iconv.encode length collation value := by
  cases type with
  | NVarChar => exact iff_of_true readBack_NVarChar not_false
  | NChar => exact iff_of_true readBack_NChar not_false
  | VarBinary =>
    constructor
    · rintro h ⟨hshort, hfits, bytes, hbytes, hlength⟩
      exact not_readBack_VarBinary hshort hfits hbytes hlength h
    · intro h typeInfo bytes hbuilt
      obtain ⟨length', data, hinfo, -⟩ := TYPES.VarBinary.build_ok hbuilt
      obtain ⟨declared, hdeclared, -⟩ := Except.bind_ok hinfo
      refine readBack_VarBinary (fun hshort bytes' hbytes hlength => h ?_) _ _ hbuilt
      exact ⟨hshort, fitsUInt16_of_declaredOrMax hshort hdeclared, bytes', hbytes, hlength⟩
  | VarChar =>
    refine (readBack_validate iconv).trans ⟨?_, ?_⟩
    · rintro h ⟨hshort, hfits, bytes, hbytes, hlength⟩
      exact not_readBack_VarChar hshort hfits rfl hlength (h _ hbytes)
    · intro h bytes hbytes typeInfo bytes' hbuilt
      obtain ⟨length', data, hinfo, -⟩ := TYPES.VarChar.build_ok hbuilt
      obtain ⟨declared, hdeclared, -⟩ := Except.bind_ok hinfo
      have htext : value.map (VariableType.decoded .VarChar) = bytes.map (decodedText options collation) :=
        (decodedText_validateText hcollation hvalue hbytes).symm
      have hback : ReadBack options (TYPES.VarChar.build ⟨length, none, none, collation, bytes⟩)
          ((bytes.map (decodedText options collation)).getD .null) := by
        refine readBack_VarChar ?_
        intro hshort bytes'' hbytes'' hlength
        refine h ⟨hshort, fitsUInt16_of_declaredOrMax hshort hdeclared, bytes'', ?_, hlength⟩
        rw [← show bytes = some bytes'' from hbytes'']
        exact hbytes
      rw [htext]
      exact hback _ _ hbuilt
  | Char =>
    refine (readBack_validate iconv).trans ⟨?_, ?_⟩
    · rintro h ⟨hfits, bytes, hbytes, hlength⟩
      exact not_readBack_Char hfits rfl hlength (h _ hbytes)
    · intro h bytes hbytes typeInfo bytes' hbuilt
      obtain ⟨length', data, hinfo, -⟩ := TYPES.Char.build_ok hbuilt
      obtain ⟨declared, hdeclared, -⟩ := Except.bind_ok hinfo
      have htext : value.map (VariableType.decoded .Char) = bytes.map (decodedText options collation) :=
        (decodedText_validateText hcollation hvalue hbytes).symm
      have hback : ReadBack options (TYPES.Char.build ⟨length, none, none, collation, bytes⟩)
          ((bytes.map (decodedText options collation)).getD .null) := by
        refine readBack_Char ?_
        intro bytes'' hbytes'' hlength
        refine h ⟨fitsUInt16_of_write hdeclared, bytes'', ?_, hlength⟩
        rw [← show bytes = some bytes'' from hbytes'']
        exact hbytes
      rw [htext]
      exact hback _ _ hbuilt

/-- Latin-1, whatever encoding is asked for. -/
def latin1 : Iconv asciiPlatform where
  encode text _ := text.map fun c => UInt8.ofNat c.toNat
  encodable text _ := ∀ c ∈ text, c.toNat < 256
  decode_encode := by
    intro text encoding h
    show (text.map fun c => UInt8.ofNat c.toNat).map (fun b => UInt16.ofNat b.toNat) = text
    rw [List.map_map]
    refine (List.map_congr_left fun c hc => ?_).trans (List.map_id text)
    show UInt16.ofNat (UInt8.ofNat c.toNat).toNat = c
    rw [UInt8.toNat_ofNat_of_lt' (h c hc), UInt16.ofNat_toNat]

/-- `'a'` as a `varchar(10)` under the collation `SQL_Latin1_General_CP1_CI_AS`. -/
theorem roundTrips_VarChar_a :
    VariableType.RoundTrips (.default asciiPlatform) latin1.encode (some (.ofNat 10))
      (some (.fromBuffer [0x09, 0x04, 0xD0, 0x00, 0x34])) .VarChar (some [0x61]) := by
  refine (roundTrips_iff (.default asciiPlatform) latin1 (some (.ofNat 10)) ?_ ?_).2 ?_
  · intro c hc
    cases hc
    exact ⟨_, rfl⟩
  · intro text htext c hc codepage hcodepage c' hc'
    cases htext
    obtain rfl := List.mem_singleton.1 hc'
    decide
  · rintro ⟨-, -, bytes, hbytes, hlength⟩
    have h1 : (some [0x61] : Option Bytes) = some bytes := Except.ok.inj hbytes
    cases h1
    exact absurd hlength (by decide)

/-- A buffer of 65535 bytes as a `varbinary(10)` is sent as `NULL`. -/
theorem not_roundTrips_VarBinary :
    ¬ ∀ (options : ParserOptions) (iconv : Iconv options.platform) (length : Option JsNumber)
        (collation : Option Collation) (type : VariableType) (value : Option type.Input),
        type.Encodable iconv collation value →
        type.RoundTrips options iconv.encode length collation value := by
  intro h
  have hback := h (.default asciiPlatform) latin1 (some (.ofNat 10)) none .VarBinary
    (some (List.replicate 65535 0)) trivial
  have hshort : isShort 8000 (some (.ofNat 10)) = true := by decide
  have hfits : (JsNumber.ofOption (some (.ofNat 10))).fitsUInt16 = true := by decide
  exact not_readBack_VarBinary hshort hfits rfl (List.length_replicate ..) hback

end Tedious
