import Tedious.DataTypes.Tvp

/-!
# Tedious.DataTypes.TvpGrammar

What a table-valued parameter has to look like: the number of columns and the description of
each, the end of the metadata, and behind every row marker one cell for each column, framed as
the column's description announces.

`writeTvp_conforms_iff` settles which of the tables that are written look like this.
-/

namespace Tedious

open Chunked

/-! ### The grammar -/

/-- How long a type description of a column is, by its first byte. -/
def typeInfoLength (tag : UInt8) : Option Nat :=
  if tag = 0x28 then some 1
  else if tag ∈ ([0x24, 0x26, 0x29, 0x2A, 0x2B, 0x68, 0x6D, 0x6E, 0x6F] : List UInt8) then some 2
  else if tag ∈ ([0xA5, 0xAD] : List UInt8) then some 3
  else if tag ∈ ([0x6A, 0x6C, 0xF3] : List UInt8) then some 4
  else if tag = 0x22 then some 5
  else if tag ∈ ([0xA7, 0xAF, 0xE7, 0xEF] : List UInt8) then some 8
  else if tag ∈ ([0x23, 0x63] : List UInt8) then some 10
  else none

def isTypeInfo : Bytes → Bool
  | [] => false
  | tag :: rest => typeInfoLength tag = some (rest.length + 1)

/-- A name behind its length. -/
def bVarCharSpec (s : JsString) : Option Bytes := if s.length < 256 then some (bVarChar s) else none

/-- The type number and the names of the database, the schema and the type. -/
def tableTypeSpec (schema name : Option JsString) : Option Bytes := do
  let schema ← bVarCharSpec (schema.getD [])
  let name ← bVarCharSpec (name.getD [])
  pure ([0xF3] ++ (bVarChar [] ++ (schema ++ name)))

section Spec

variable (js : Runtime) (useUTC : Bool)

def columnSpec (column : TvpColumn) : Option Bytes := do
  let typeInfo ← (column.typeInfo js useUTC).toOption
  if isTypeInfo typeInfo then some (leBytes 4 0 ++ (leBytes 2 0 ++ (typeInfo ++ [0x00]))) else none

def columnsSpec : List TvpColumn → Option Bytes
  | [] => some []
  | column :: columns => specThen (columnSpec js useUTC column) (columnsSpec columns)

/-- What a value is as bytes: itself for the types that may send it as a PLP stream, and what
its type writes behind the length for all others. -/
def TvpColumn.content (collation : Option Collation) (column : TvpColumn) (value : JsValue) :
    Except JsError (Option Bytes) :=
  match column.type with
  | .VarBinary => validateWith acceptBuffer value collation
  | .VarChar => (encodedText js TYPES.VarChar).validate value collation
  | .NVarChar => do
    let text ← validateWith acceptString value collation
    pure (text.map ucs2Bytes)
  | type =>
    match scalarType js useUTC type with
    | none => .ok none
    | some sent => do
      let value ← sent.validate value collation
      match value with
      | none => pure none
      | some value => do
        let data ← sent.methods.generateParameterData (column.parameter (some value))
        pure (some data.flatten)

/-- A cell that is no table: its value or `NULL`, in the framing that its column announces. -/
def scalarSpec (collation : Option Collation) (column : TvpColumn) (value : JsValue) :
    Option Bytes := do
  let typeInfo ← (column.typeInfo js useUTC).toOption
  let framing ← Framing.ofTypeInfo typeInfo
  let content ← (column.content js useUTC collation value).toOption
  framing.field content

def nullTableSpec : Bytes := NULL_LENGTH ++ (TVP_END_TOKEN ++ TVP_END_TOKEN)

/-- The cells that a row has not got. -/
def missingSpec : List TvpColumn → Option Bytes
  | [] => some []
  | column :: columns =>
    specThen
      (match scalarType js useUTC column.type with
        | some _ => scalarSpec js useUTC none column .undefined
        | none => some nullTableSpec)
      (missingSpec columns)

/-- A table with the encoding of its rows. The number of columns is no marker of `NULL`. -/
def tableSpec (columns : List TvpColumn) (rows : Option Bytes) : Option Bytes :=
  if columns.length < 65535 then
    specThen (some (leBytes 2 columns.length))
      (specThen (columnsSpec js useUTC columns)
        (specThen (some TVP_END_TOKEN) (specThen rows (some TVP_END_TOKEN))))
  else none

mutual

def cellSpec (collation : Option Collation) (column : TvpColumn) (value : JsValue) :
    Option Bytes :=
  match scalarType js useUTC column.type with
  | some _ => scalarSpec js useUTC collation column value
  | none =>
    match value with
    | .undefined | .null => some nullTableSpec
    | .table _ _ columns rows => tableSpec js useUTC columns (rowsSpec none columns rows)
    | _ => none

/-- One cell for each column. -/
def rowSpec (collation : Option Collation) (columns : List TvpColumn) (row : List JsValue) :
    Option Bytes :=
  match row with
  | [] => missingSpec js useUTC columns
  | value :: row =>
    match columns with
    | [] => some []
    | column :: columns =>
      specThen (cellSpec collation column value) (rowSpec collation columns row)

def rowsSpec (collation : Option Collation) (columns : List TvpColumn)
    (rows : List (List JsValue)) : Option Bytes :=
  match rows with
  | [] => some []
  | row :: rows =>
    specThen (some TVP_ROW_TOKEN)
      (specThen (rowSpec collation columns row) (rowsSpec collation columns rows))

end

/-- The bytes of a parameter follow the grammar. -/
def TvpConforms (collation : Option Collation) (value : JsValue) (typeInfo bytes : Bytes) : Prop :=
  match value with
  | .table schema name columns rows =>
    tableTypeSpec schema name = some typeInfo ∧
      tableSpec js useUTC columns (rowsSpec js useUTC collation columns rows) = some bytes
  | _ => tableTypeSpec none none = some typeInfo ∧ nullTableSpec = bytes

end Spec

/-! ### Which tables fit -/

/-- The value is framed: `Binary` has as many bytes as declared, and no value of the types with
two length bytes has 65535. -/
def TvpColumn.Fits (js : Runtime) (collation : Option Collation) (column : TvpColumn)
    (value : JsValue) : Prop :=
  match column.type with
  | .Binary => ∀ bytes, value = .buffer bytes → BinaryFits column.length bytes
  | .VarBinary => isShort 8000 column.length = true →
      ∀ bytes, value = .buffer bytes → bytes.length ≠ 65535
  | .VarChar => isShort 8000 column.length = true →
      ∀ bytes, (encodedText js TYPES.VarChar).validate value collation = .ok (some bytes) →
        bytes.length ≠ 65535
  | .Char => ∀ bytes, (encodedText js TYPES.Char).validate value collation = .ok (some bytes) →
      bytes.length ≠ 65535
  | _ => True

mutual

/-- The value is framed, or it is a table that fits. -/
def CellFits (js : Runtime) (collation : Option Collation) (column : TvpColumn)
    (value : JsValue) : Prop :=
  match column.type with
  | .TVP =>
    match value with
    | .table _ _ columns rows => columns.length ≠ 65535 ∧ RowsFit js none columns rows
    | _ => True
  | _ => column.Fits js collation value

/-- There is a cell for every column, and all cells fit. -/
def RowFits (js : Runtime) (collation : Option Collation) (columns : List TvpColumn)
    (row : List JsValue) : Prop :=
  match row with
  | [] => columns = []
  | value :: row =>
    match columns with
    | [] => True
    | column :: columns => CellFits js collation column value ∧ RowFits js collation columns row

def RowsFit (js : Runtime) (collation : Option Collation) (columns : List TvpColumn)
    (rows : List (List JsValue)) : Prop :=
  match rows with
  | [] => True
  | row :: rows => RowFits js collation columns row ∧ RowsFit js collation columns rows

end

/-- The table's columns do not number 65535, and its rows fit. -/
def TableFits (js : Runtime) (collation : Option Collation) (value : JsValue) : Prop :=
  match value with
  | .table _ _ columns rows => columns.length ≠ 65535 ∧ RowsFit js collation columns rows
  | _ => True

/-! ### Descriptions -/

theorem isTypeInfo_cons {tag : UInt8} {rest : Bytes} {n : Nat} (hlength : rest.length = n)
    (h : typeInfoLength tag = some (n + 1)) : isTypeInfo (tag :: rest) = true := by
  rw [← hlength] at h
  exact decide_eq_true h

theorem length_with_collation {length : Bytes} {n : Nat} (h : length.length = n)
    (collation : Option Collation) : (length ++ collationField collation).length = n + 5 := by
  rw [List.length_append, h, length_collationField]

theorem length_declaredOrMax {maximumLength : Nat} {unit : JsNumber → JsNumber}
    {declared : Option JsNumber} {bytes : Bytes}
    (h : declaredOrMax maximumLength unit declared = .ok bytes) : bytes.length = 2 := by
  rw [declaredOrMax] at h
  split at h <;> exact length_writeUIntLE h

theorem typeInfo_ok {js : Runtime} {useUTC : Bool} {column : TvpColumn} {typeInfo : Bytes}
    (h : column.typeInfo js useUTC = .ok typeInfo) : isTypeInfo typeInfo = true := by
  obtain ⟨type, length, precision, scale⟩ := column
  cases type with
  | Binary =>
    obtain ⟨bytes, hbytes, h⟩ := Except.bind_ok h
    cases h
    exact isTypeInfo_cons (length_writeUIntLE hbytes) rfl
  | VarBinary =>
    obtain ⟨bytes, hbytes, h⟩ := Except.bind_ok h
    cases h
    exact isTypeInfo_cons (length_declaredOrMax hbytes) rfl
  | VarChar | NVarChar =>
    obtain ⟨bytes, hbytes, h⟩ := Except.bind_ok h
    cases h
    exact isTypeInfo_cons (length_with_collation (length_declaredOrMax hbytes) none) rfl
  | Char | NChar =>
    obtain ⟨bytes, hbytes, h⟩ := Except.bind_ok h
    cases h
    exact isTypeInfo_cons (length_with_collation (length_writeUIntLE hbytes) none) rfl
  | Text | NText =>
    obtain ⟨bytes, hbytes, h⟩ := Except.bind_ok h
    cases h
    exact isTypeInfo_cons (length_with_collation (length_writeIntLE hbytes) none) rfl
  | Image =>
    obtain ⟨bytes, hbytes, h⟩ := Except.bind_ok h
    cases h
    exact isTypeInfo_cons (length_writeIntLE hbytes) rfl
  | _ => cases h <;> rfl

theorem column_agrees (js : Runtime) (useUTC : Bool) (column : TvpColumn) :
    Agrees (column.write js useUTC) (columnSpec js useUTC column) True := by
  intro chunks h
  obtain ⟨typeInfo, hinfo, h⟩ := Except.bind_ok h
  cases h
  have hspec : columnSpec js useUTC column =
      some [leBytes 4 0 ++ leBytes 2 0, typeInfo, [0x00]].flatten := by
    rw [columnSpec, hinfo]
    refine (if_pos (typeInfo_ok hinfo)).trans ?_
    simp
  refine ⟨fun _ => hspec, fun expected heq => ?_⟩
  cases hspec.symm.trans heq
  exact ⟨le_rfl, fun _ => trivial⟩

theorem columns_agree (js : Runtime) (useUTC : Bool) (columns : List TvpColumn) :
    Agrees (writeColumns js useUTC columns) (columnsSpec js useUTC columns) True := by
  induction columns with
  | nil => exact .ok rfl
  | cons column columns ih =>
    exact ((column_agrees js useUTC column).append ih).congr (iff_of_true ⟨trivial, trivial⟩ trivial)

/-- The columns were written, so each of them has a description. -/
theorem writeColumns_ok {js : Runtime} {useUTC : Bool} {columns : List TvpColumn}
    {chunks : List Bytes} (h : writeColumns js useUTC columns = .ok chunks) :
    ∀ column ∈ columns, ∃ typeInfo, column.typeInfo js useUTC = .ok typeInfo := by
  induction columns generalizing chunks with
  | nil => exact fun column hcolumn => nomatch hcolumn
  | cons column columns ih =>
    obtain ⟨first, hfirst, h⟩ := Except.bind_ok h
    obtain ⟨rest, hrest, -⟩ := Except.bind_ok h
    obtain ⟨typeInfo, hinfo, -⟩ := Except.bind_ok hfirst
    intro column' hcolumn
    rcases List.mem_cons.1 hcolumn with rfl | hcolumn
    · exact ⟨typeInfo, hinfo⟩
    · exact ih hrest column' hcolumn

/-! ### Cells -/

/-- The types with two length bytes. -/
theorem short_agrees {content : Option Bytes} {length : Bytes}
    (hlength : shortLength content = .ok length) :
    Agrees (.ok (length :: content.toList) : Except JsError (List Bytes))
      (Framing.shortLength.field content) (∀ bytes ∈ content, bytes.length ≠ 65535) := by
  cases content with
  | none =>
    cases hlength
    exact (Agrees.ok rfl).congr (iff_of_true trivial fun _ h => nomatch h)
  | some bytes =>
    intro chunks h
    cases h
    rw [shortLength, writeUIntLE_ofNat_eq] at hlength
    split at hlength
    · next hlt =>
      cases hlength
      have h65536 : 256 ^ 2 = 65536 := rfl
      have hflat : (leBytes 2 bytes.length :: (some bytes).toList).flatten =
          leBytes 2 bytes.length ++ bytes := by simp
      rw [hflat, Framing.field, Framing.frame]
      constructor
      · intro hne
        have hne := hne bytes rfl
        exact if_pos (by omega)
      · intro expected heq
        split at heq
        · next hlt' =>
          cases heq
          refine ⟨le_rfl, fun _ bytes' hbytes => ?_⟩
          cases hbytes
          omega
        · cases heq
    · cases hlength

/-- The types with four length bytes. -/
theorem longText_field (id : Nat) {encode : β → Bytes} (count : β → Nat)
    {parameter : ParameterData β} {length : Bytes}
    (hlength : (TYPES.longText id encode count).generateParameterLength parameter = .ok length) :
    Framing.longLength.field (parameter.value.map encode) =
      some (length ++ (parameter.value.map encode).toList.flatten) := by
  obtain ⟨declared, precision, scale, collation, value⟩ := parameter
  cases value with
  | none =>
    cases hlength
    rfl
  | some value =>
    obtain ⟨hle, rfl⟩ := writeIntLE_ofNat_ok hlength
    have h256 : 256 ^ 4 / 2 - 1 = 2147483647 := rfl
    refine (if_pos (by omega)).trans ?_
    simp

/-- PLP streams. -/
theorem plp_field {bytes : Bytes} {data : List Bytes} (hdata : plpData bytes = .ok data) :
    Framing.plp.field (some bytes) = some (UNKNOWN_PLP_LEN ++ data.flatten) := by
  rw [Framing.field, Framing.frame]
  rw [plpData] at hdata
  split at hdata
  · next h0 =>
    obtain ⟨chunkLength, hchunk, hdata⟩ := Except.bind_ok hdata
    cases hdata
    rw [writeUIntLE_ofNat_eq] at hchunk
    split at hchunk
    · next hlt =>
      cases hchunk
      have h256 : 256 ^ 4 = 4294967296 := rfl
      rw [if_neg (by omega), if_pos (by omega)]
      simp
    · cases hchunk
  · next h0 =>
    cases hdata
    rw [if_pos (by omega)]
    simp

/-- The framing that a description with a length of two bytes announces. -/
theorem shortOrPlp_agrees {maximumLength : Nat} {declared : Option JsNumber}
    {content : Option Bytes} {length : Bytes} {data : List Bytes} {framing : Framing}
    (hframing : framing = if isShort maximumLength declared then .shortLength else .plp)
    (hlength : shortOrPlpLength maximumLength declared content = .ok length)
    (hdata : shortOrPlpData maximumLength declared content = .ok data) :
    Agrees (.ok (length :: data) : Except JsError (List Bytes)) (framing.field content)
      (isShort maximumLength declared = true → ∀ bytes ∈ content, bytes.length ≠ 65535) := by
  subst hframing
  rw [shortOrPlpLength] at hlength
  by_cases hshort : isShort maximumLength declared = true
  · rw [if_pos hshort] at hlength ⊢
    have hchunks : data = content.toList := by
      cases content with
      | none =>
        cases hdata
        rfl
      | some bytes =>
        rw [shortOrPlpData, if_pos hshort] at hdata
        cases hdata
        rfl
    rw [hchunks]
    exact (short_agrees hlength).congr ⟨fun h _ => h, fun h => h hshort⟩
  · rw [if_neg hshort] at hlength ⊢
    refine (Agrees.ok ?_).congr (iff_of_true trivial fun h => absurd h hshort)
    cases content with
    | none =>
      cases hlength
      cases hdata
      rfl
    | some bytes =>
      cases hlength
      rw [shortOrPlpData, if_neg hshort] at hdata
      exact plp_field hdata

/-- The bytes of a description with a length that may announce PLP streams. -/
theorem ofTypeInfo_declaredOrMax (tag : UInt8) (htag : tag ∈ ([0xA5, 0xA7, 0xE7] : List UInt8))
    {maximumLength : Nat} {unit : JsNumber → JsNumber} {declared : Option JsNumber}
    {bytes : Bytes} (hunit : ∀ n : JsNumber, n.atMost maximumLength = true →
      (unit n).atMost 8000 = true)
    (h : declaredOrMax maximumLength unit declared = .ok bytes) (rest : Bytes) :
    Framing.ofTypeInfo (tag :: (bytes ++ rest)) =
      some (if isShort maximumLength declared then .shortLength else .plp) := by
  obtain ⟨n, hlt, rfl, hmax⟩ := declaredOrMax_ok hunit h
  have htake : (leBytes 2 n ++ rest).take 2 = leBytes 2 n := by
    rw [List.take_append_of_le_length (by rw [length_leBytes]), List.take_of_length_le]
    rw [length_leBytes]
  have hmarker : leBytes 2 n = [0xFF, 0xFF] ↔ n = 0xFFFF := by
    constructor
    · intro h
      have hn := leNat_leBytes (k := 2) hlt
      rw [h] at hn
      exact hn.symm
    · rintro rfl
      rfl
  have hframing : (if (leBytes 2 n ++ rest).take 2 = [0xFF, 0xFF] then Framing.plp
      else .shortLength) = if isShort maximumLength declared then .shortLength else .plp := by
    rw [htake]
    by_cases hshort : isShort maximumLength declared = true
    · rw [hshort] at hmax
      rw [if_pos hshort, if_neg (fun h => of_decide_eq_false hmax (hmarker.1 h))]
    · rw [Bool.not_eq_true] at hshort
      rw [hshort] at hmax ⊢
      rw [if_pos (hmarker.2 (of_decide_eq_true hmax))]
      rfl
  rw [← hframing]
  simp only [List.mem_cons, List.not_mem_nil, or_false] at htag
  rcases htag with rfl | rfl | rfl <;> rfl

section Cells

variable {js : Runtime} {useUTC : Bool} {collation : Option Collation} {column : TvpColumn}
  {value : JsValue} {sent : SendType} {typeInfo : Bytes}

/-- A cell that is no table, from what it is as bytes. -/
theorem scalar_agrees_of {framing : Framing} {fits : Prop} (hinfo : column.typeInfo js useUTC = .ok typeInfo)
    (hframing : Framing.ofTypeInfo typeInfo = some framing)
    (hcell : ∀ v length data, sent.validate value collation = .ok v →
      sent.methods.generateParameterLength (column.parameter v) = .ok length →
      sent.methods.generateParameterData (column.parameter v) = .ok data →
      ∃ content, column.content js useUTC collation value = .ok content ∧
        Agrees (.ok (length :: data) : Except JsError (List Bytes)) (framing.field content) fits) :
    Agrees (sent.writeCell collation column value) (scalarSpec js useUTC collation column value)
      fits := by
  intro chunks h
  obtain ⟨v, hv, h⟩ := Except.bind_ok h
  obtain ⟨length, hlength, h⟩ := Except.bind_ok h
  obtain ⟨data, hdata, h⟩ := Except.bind_ok h
  cases h
  obtain ⟨content, hcontent, hagrees⟩ := hcell v length data hv hlength hdata
  have hspec : scalarSpec js useUTC collation column value = framing.field content := by
    rw [scalarSpec, hinfo, hcontent]
    show (do
      let framing ← Framing.ofTypeInfo typeInfo
      framing.field content) = _
    rw [hframing]
    rfl
  rw [hspec]
  exact hagrees _ rfl

/-- What the types that never use a PLP stream write behind the length. -/
theorem content_eq (hsent : scalarType js useUTC column.type = some sent)
    (hplp : column.type ∉ [DataType.VarBinary, .VarChar, .NVarChar]) {v : Option sent.α}
    {data : List Bytes} (hv : sent.validate value collation = .ok v)
    (hdata : sent.methods.generateParameterData (column.parameter v) = .ok data) :
    column.content js useUTC collation value = .ok (v.map fun _ => data.flatten) := by
  have hcontent : column.content js useUTC collation value = (do
      let value ← sent.validate value collation
      match value with
      | none => pure none
      | some value => do
        let data ← sent.methods.generateParameterData (column.parameter (some value))
        pure (some data.flatten)) := by
    obtain ⟨type, length, precision, scale⟩ := column
    cases type with
    | VarBinary | VarChar | NVarChar => exact absurd hplp (by simp)
    | TVP => cases hsent
    | _ =>
      cases hsent
      rfl
  rw [hcontent, hv]
  cases v with
  | none => rfl
  | some v =>
    show (do
      let data ← sent.methods.generateParameterData (column.parameter (some v))
      pure (some data.flatten)) = _
    rw [hdata]
    rfl

theorem sized_agrees (hsent : scalarType js useUTC column.type = some sent)
    (hsized : column.type.isSized = true) (hinfo : column.typeInfo js useUTC = .ok typeInfo) :
    Agrees (sent.writeCell collation column value) (scalarSpec js useUTC collation column value)
      True := by
  have hinfo' : sent.methods.generateTypeInfo (column.parameter none) = .ok typeInfo := by
    rw [TvpColumn.typeInfo, hsent] at hinfo
    exact hinfo
  refine scalar_agrees_of hinfo (Framing.ofTypeInfo_sized hsent hsized hinfo') ?_
  intro v length data hv hlength hdata
  have hplp : column.type ∉ [DataType.VarBinary, .VarChar, .NVarChar] := by
    intro hmem
    simp only [List.mem_cons, List.not_mem_nil, or_false] at hmem
    rcases hmem with h | h | h <;> rw [h] at hsized <;> cases hsized
  refine ⟨_, content_eq hsent hplp hv hdata, .ok ?_⟩
  have hframed := scalarType_sized hsent hsized _ length data hlength hdata
  cases v with
  | none => exact congrArg some hframed.symm
  | some v =>
    obtain ⟨rfl, hpos, hlt⟩ := hframed
    exact if_pos ⟨hpos, hlt⟩

/-- The bytes of `Binary` behind the length that is written. -/
theorem length_binaryData {parameter : ParameterData Bytes} {bytes length : Bytes}
    {data : List Bytes} (hvalue : parameter.value = some bytes)
    (hlength : TYPES.Binary.generateParameterLength parameter = .ok length)
    (hdata : TYPES.Binary.generateParameterData parameter = .ok data) :
    ∃ n < 65536, length = leBytes 2 n ∧ data = [data.flatten] ∧ data.flatten.length ≤ 8000 := by
  obtain ⟨declared, precision, scale, collation, value⟩ := parameter
  dsimp only at hvalue
  subst hvalue
  obtain ⟨n, hn, rfl⟩ := writeUIntLE_ok hlength
  have h8000 : (0 : Rat) ≤ (8000 : Nat) := Nat.cast_nonneg 8000
  have hdata' : ∃ stop, data = [bytes.take stop] ∧ min stop bytes.length ≤ 8000 := by
    cases declared with
    | none =>
      cases hdata
      refine ⟨_, rfl, ?_⟩
      have htake := length_take_sliceEnd h8000 bytes
      rw [List.length_take, Int.floor_natCast] at htake
      show min (JsNumber.sliceEnd bytes.length (.finite (8000 : Nat))) bytes.length ≤ 8000
      omega
    | some declared =>
      cases declared with
      | nan =>
        cases hdata
        exact ⟨_, rfl, by
          show min 0 bytes.length ≤ 8000
          omega⟩
      | infinity | negInfinity => cases hlength
      | finite q =>
        cases hdata
        refine ⟨_, rfl, ?_⟩
        replace hlength : writeUIntLE 2 (.finite q) = .ok (leBytes 2 n) := hlength
        rw [writeUIntLE] at hlength
        split at hlength
        · next hrange =>
          have htake := length_take_sliceEnd (le_min hrange.1 h8000) bytes
          rw [List.length_take, floor_min_natCast] at htake
          show min (JsNumber.sliceEnd bytes.length (.finite (min q (8000 : Nat)))) bytes.length ≤ 8000
          omega
        · cases hlength
  obtain ⟨stop, rfl, hstop⟩ := hdata'
  refine ⟨n, hn, rfl, by simp, ?_⟩
  rw [List.flatten_singleton, List.length_take]
  exact hstop

theorem binary_agrees {parameter : ParameterData Bytes} {length : Bytes} {data : List Bytes}
    (hlength : TYPES.Binary.generateParameterLength parameter = .ok length)
    (hdata : TYPES.Binary.generateParameterData parameter = .ok data) :
    Agrees (.ok (length :: data) : Except JsError (List Bytes))
      (Framing.shortLength.field (parameter.value.map fun _ => data.flatten))
      (∀ bytes ∈ parameter.value, BinaryFits parameter.length bytes) := by
  cases hvalue : parameter.value with
  | none =>
    refine (Agrees.ok ?_).congr (iff_of_true trivial fun _ h => nomatch h)
    obtain ⟨declared, precision, scale, collation, value⟩ := parameter
    dsimp only at hvalue
    subst hvalue
    cases hlength
    cases hdata
    rfl
  | some bytes =>
    obtain ⟨n, hn, rfl, hsingle, hle⟩ := length_binaryData hvalue hlength hdata
    rw [hsingle] at hdata
    have hne : parameter.value ≠ none := by
      rw [hvalue]
      exact Option.some_ne_none bytes
    have hfits : BinaryFits parameter.length bytes ↔ n = data.flatten.length :=
      (framed_binary_some hvalue).symm.trans (framed_some hne hn hlength hdata)
    have hframe : Framing.shortLength.field (some data.flatten) =
        some (leBytes 2 data.flatten.length ++ data.flatten) := if_pos (by omega)
    intro chunks h
    cases h
    rw [Option.map_some, hframe, List.flatten_cons]
    constructor
    · intro h
      rw [← hfits.1 (h bytes rfl)]
    · intro expected h
      cases h
      refine ⟨by rw [List.length_append, List.length_append, length_leBytes, length_leBytes], ?_⟩
      intro hsame bytes' hbytes'
      cases hbytes'
      have hlengths := List.append_cancel_right hsame
      refine hfits.2 ?_
      have hread := congrArg leNat hlengths
      have hlt : data.flatten.length < 256 ^ 2 := lt_of_le_of_lt hle (by decide)
      rw [leNat_leBytes hlt, leNat_leBytes hn] at hread
      exact hread.symm

theorem acceptBuffer_ok {value : JsValue} {bytes : Bytes} (collation : Option Collation) :
    validateWith acceptBuffer value collation = .ok (some bytes) ↔ value = .buffer bytes := by
  constructor
  · intro h
    cases value <;> cases h
    rfl
  · rintro rfl
    rfl

theorem ucs2_fits {text : Option JsString} :
    ∀ bytes ∈ text.map ucs2Bytes, bytes.length ≠ 65535 := by
  intro bytes hbytes
  obtain ⟨text', -, rfl⟩ := Option.mem_map.1 hbytes
  rw [length_ucs2Bytes]
  omega

/-- The data of the types that yield a value as it is. -/
theorem map_encode (encode : β → Bytes) (v : Option β) :
    (v.map fun _ => (v.map encode).toList.flatten) = v.map encode := by
  cases v <;> simp

theorem map_toList (v : Option Bytes) : (v.map fun _ => v.toList.flatten) = v := by
  cases v <;> simp

/-- A missing value is `NULL`. -/
theorem content_undefined {content : Option Bytes}
    (h : (column.content js useUTC collation .undefined).toOption = some content) :
    content = none := by
  obtain ⟨type, length, precision, scale⟩ := column
  cases type <;> cases h <;> rfl

/-- A cell that is no table follows the grammar exactly when it fits. -/
theorem scalar_agrees (hsent : scalarType js useUTC column.type = some sent)
    (hinfo : column.typeInfo js useUTC = .ok typeInfo) :
    Agrees (sent.writeCell collation column value) (scalarSpec js useUTC collation column value)
      (column.Fits js collation value) := by
  obtain ⟨type, length, precision, scale⟩ := column
  cases type with
  | Binary =>
    cases hsent
    obtain ⟨declared, hdeclared, hinfo'⟩ := Except.bind_ok hinfo
    cases hinfo'
    refine scalar_agrees_of hinfo rfl ?_
    intro v length' data hv hlength hdata
    refine ⟨_, content_eq rfl (by simp) hv hdata, ?_⟩
    refine (binary_agrees hlength hdata).congr ⟨fun h bytes hbytes => ?_, fun h bytes hbytes => ?_⟩
    · subst hbytes
      cases hv
      exact h bytes rfl
    · cases (show v = some bytes from hbytes)
      exact h bytes ((acceptBuffer_ok collation).1 hv)
  | VarBinary =>
    cases hsent
    obtain ⟨declared, hdeclared, hinfo'⟩ := Except.bind_ok hinfo
    cases hinfo'
    have hframing := ofTypeInfo_declaredOrMax 0xA5 (by simp) (fun n hn => hn) hdeclared []
    rw [List.append_nil] at hframing
    refine scalar_agrees_of hinfo hframing ?_
    intro v length' data hv hlength hdata
    refine ⟨v, hv, (shortOrPlp_agrees rfl hlength hdata).congr ?_⟩
    refine forall_congr' fun hshort => forall_congr' fun bytes => ?_
    refine imp_congr_left ?_
    rw [← acceptBuffer_ok collation]
    constructor
    · intro hbytes
      rw [← show v = some bytes from hbytes]
      exact hv
    · intro hbytes
      exact Except.ok.inj (hv.symm.trans hbytes)
  | VarChar =>
    cases hsent
    obtain ⟨declared, hdeclared, hinfo'⟩ := Except.bind_ok hinfo
    cases hinfo'
    have hframing := ofTypeInfo_declaredOrMax 0xA7 (by simp) (fun n hn => hn) hdeclared
      (collationField none)
    refine scalar_agrees_of hinfo hframing ?_
    intro v length' data hv hlength hdata
    refine ⟨v, hv, (shortOrPlp_agrees rfl hlength hdata).congr ?_⟩
    refine forall_congr' fun hshort => forall_congr' fun bytes => imp_congr_left ?_
    exact ⟨fun hbytes => (show v = some bytes from hbytes) ▸ hv,
      fun hbytes => Except.ok.inj (hv.symm.trans hbytes)⟩
  | NVarChar =>
    cases hsent
    obtain ⟨declared, hdeclared, hinfo'⟩ := Except.bind_ok hinfo
    cases hinfo'
    have hframing := ofTypeInfo_declaredOrMax 0xE7 (by simp)
      (fun n hn => double_atMost hn) hdeclared (collationField none)
    refine scalar_agrees_of hinfo hframing ?_
    intro v length' data hv hlength hdata
    refine ⟨v.map ucs2Bytes, ?_, (shortOrPlp_agrees rfl hlength hdata).congr ?_⟩
    · show (do
        let text ← validateWith acceptString value collation
        pure (text.map ucs2Bytes)) = _
      rw [show validateWith acceptString value collation = .ok v from hv]
      rfl
    · exact iff_of_true (fun _ => ucs2_fits) trivial
  | Char =>
    cases hsent
    obtain ⟨declared, hdeclared, hinfo'⟩ := Except.bind_ok hinfo
    cases hinfo'
    refine scalar_agrees_of hinfo rfl ?_
    intro v length' data hv hlength hdata
    cases hdata
    refine ⟨v, (content_eq rfl (by simp) hv rfl).trans (congrArg Except.ok (map_toList v)), ?_⟩
    refine (short_agrees hlength).congr (forall_congr' fun bytes => imp_congr_left ?_)
    exact ⟨fun hbytes => (show v = some bytes from hbytes) ▸ hv,
      fun hbytes => Except.ok.inj (hv.symm.trans hbytes)⟩
  | NChar =>
    cases hsent
    obtain ⟨declared, hdeclared, hinfo'⟩ := Except.bind_ok hinfo
    cases hinfo'
    refine scalar_agrees_of hinfo rfl ?_
    intro v length' data hv hlength hdata
    cases hdata
    refine ⟨v.map ucs2Bytes,
      (content_eq rfl (by simp) hv rfl).trans (congrArg Except.ok (map_encode ucs2Bytes v)), ?_⟩
    exact (short_agrees hlength).congr (iff_of_true ucs2_fits trivial)
  | Text | NText | Image =>
    cases hsent
    obtain ⟨declared, hdeclared, hinfo'⟩ := Except.bind_ok hinfo
    cases hinfo'
    refine scalar_agrees_of hinfo rfl ?_
    intro v length' data hv hlength hdata
    cases hdata
    refine ⟨_, content_eq rfl (by simp) hv rfl, .ok ?_⟩
    rw [List.flatten_cons]
    refine Eq.trans ?_ (longText_field 0x22 List.length hlength)
    exact congrArg Framing.longLength.field (map_encode _ v)
  | Null | IntN | BitN | DecimalN | NumericN | FloatN | MoneyN | DateTimeN | Xml | UDT | Variant =>
    cases hsent
    cases hinfo
  | TVP => cases hsent
  | _ => exact sized_agrees hsent rfl hinfo

end Cells

/-! ### Rows -/

section Rows

variable (js : Runtime) (useUTC : Bool)

theorem length_specThen {spec₁ spec₂ : Option Bytes} {expected : Bytes}
    (h : specThen spec₁ spec₂ = some expected) :
    ∃ first second, spec₁ = some first ∧ spec₂ = some second ∧ expected = first ++ second := by
  obtain ⟨first, hfirst, h⟩ := Option.bind_eq_some_iff.1 h
  obtain ⟨second, hsecond, h⟩ := Option.bind_eq_some_iff.1 h
  cases h
  exact ⟨first, second, hfirst, hsecond, rfl⟩

theorem length_field_pos {framing : Framing} {content : Option Bytes} {bytes : Bytes}
    (hnull : content = none) (h : framing.field content = some bytes) : 0 < bytes.length := by
  subst hnull
  cases h
  exact framing.length_null_pos

/-- A cell that is missing is never empty. -/
theorem missing_pos {column : TvpColumn} {columns : List TvpColumn} {expected : Bytes}
    (h : missingSpec js useUTC (column :: columns) = some expected) : 0 < expected.length := by
  obtain ⟨first, second, hfirst, -, rfl⟩ := length_specThen h
  have hpos : 0 < first.length := by
    cases hsent : scalarType js useUTC column.type with
    | none =>
      rw [hsent] at hfirst
      cases hfirst
      decide
    | some sent =>
      rw [hsent] at hfirst
      obtain ⟨typeInfo, -, hfirst⟩ := Option.bind_eq_some_iff.1 hfirst
      obtain ⟨framing, -, hfirst⟩ := Option.bind_eq_some_iff.1 hfirst
      obtain ⟨content, hcontent, hfirst⟩ := Option.bind_eq_some_iff.1 hfirst
      refine length_field_pos ?_ hfirst
      exact content_undefined hcontent
  rw [List.length_append]
  omega

/-- A chunk in front of two generators. -/
theorem andThen_cons (chunk : Bytes) (w₁ w₂ : Except JsError (List Bytes)) :
    (do
      let first ← w₁
      let second ← w₂
      pure (chunk :: (first ++ second))) = andThen (.ok [chunk]) (andThen w₁ w₂) := by
  cases w₁ <;> cases w₂ <;> rfl

theorem tableData_eq (columns : List TvpColumn) (rows : Except JsError (List Bytes)) :
    tableData js useUTC columns rows =
      andThen (writeColumns js useUTC columns)
        (andThen (.ok [TVP_END_TOKEN]) (andThen rows (.ok [TVP_END_TOKEN]))) := by
  rw [tableData]
  cases writeColumns js useUTC columns <;> cases rows <;> rfl

/-- A table, from its rows; its columns have descriptions where they were written. -/
theorem table_agrees {columns : List TvpColumn} {rows : Except JsError (List Bytes)}
    {spec : Option Bytes} {fits : Prop}
    (hrows : (∀ column ∈ columns, ∃ typeInfo, column.typeInfo js useUTC = .ok typeInfo) →
      Agrees rows spec fits) :
    Agrees (do
        let length ← writeUIntLE 2 (.ofNat columns.length)
        let data ← tableData js useUTC columns rows
        pure (length :: data))
      (tableSpec js useUTC columns spec) (columns.length ≠ 65535 ∧ fits) := by
  intro chunks h
  obtain ⟨length, hlength, h⟩ := Except.bind_ok h
  obtain ⟨data, hdata, h⟩ := Except.bind_ok h
  cases h
  rw [writeUIntLE_ofNat_eq] at hlength
  split at hlength
  · next hlt =>
    cases hlength
    have h65536 : 256 ^ 2 = 65536 := rfl
    rw [tableSpec]
    by_cases hmarker : columns.length = 65535
    · rw [if_neg (by omega)]
      exact ⟨fun hfits => absurd hmarker hfits.1, fun _ hnone => nomatch hnone⟩
    · rw [if_pos (by omega)]
      obtain ⟨metadata, hmetadata, -⟩ := Except.bind_ok hdata
      have hagrees := (@Agrees.ok JsError (some (leBytes 2 columns.length))
        [leBytes 2 columns.length] (by simp)).append
        ((columns_agree js useUTC columns).append
          ((@Agrees.ok _ _ [TVP_END_TOKEN] rfl).append
            ((hrows (writeColumns_ok hmetadata)).append
              (@Agrees.ok _ _ [TVP_END_TOKEN] rfl))))
      refine hagrees.congr ?_ _ ?_
      · exact ⟨fun h => ⟨hmarker, h.2.2.2.1⟩, fun h => ⟨trivial, trivial, trivial, h.2, trivial⟩⟩
      · rw [← tableData_eq, hdata]
        rfl
  · cases hlength

mutual

theorem cell_agrees (collation : Option Collation) (column : TvpColumn) (value : JsValue)
    (hinfo : ∃ typeInfo, column.typeInfo js useUTC = .ok typeInfo) :
    Agrees (writeCell js useUTC collation column value) (cellSpec js useUTC collation column value)
      (CellFits js collation column value) := by
  rw [writeCell.eq_def, cellSpec.eq_def, CellFits.eq_def]
  cases hsent : scalarType js useUTC column.type with
  | some sent =>
    obtain ⟨typeInfo, hinfo⟩ := hinfo
    have hscalar : Agrees (sent.writeCell collation column value)
        (scalarSpec js useUTC collation column value) (column.Fits js collation value) :=
      scalar_agrees hsent hinfo
    cases htype : column.type with
    | TVP =>
      rw [htype] at hsent
      cases hsent
    | _ => exact hscalar
  | none =>
    rw [scalarType_none hsent]
    match value with
    | .undefined => exact Agrees.ok rfl
    | .null => exact Agrees.ok rfl
    | .table _ _ columns rows => exact table_agrees js useUTC (tableRows_agree none columns rows)
    | .boolean _ | .number _ | .string _ | .buffer _ | .date _ | .other .. => exact Agrees.error _

theorem row_agrees (collation : Option Collation) (columns : List TvpColumn) (row : List JsValue)
    (hinfo : ∀ column ∈ columns, ∃ typeInfo, column.typeInfo js useUTC = .ok typeInfo) :
    Agrees (writeRow js useUTC collation columns row) (rowSpec js useUTC collation columns row)
      (RowFits js collation columns row) := by
  match row with
  | [] =>
    match columns with
    | [] => exact (Agrees.ok rfl).congr (iff_of_true trivial rfl)
    | column :: columns =>
      exact (Agrees.missing fun _ h => missing_pos js useUTC h).congr
        (iff_of_false id (List.cons_ne_nil _ _))
  | value :: row =>
    match columns with
    | [] => exact Agrees.error _
    | column :: columns =>
      exact (cell_agrees collation column value (hinfo column (List.mem_cons_self ..))).append
        (row_agrees collation columns row fun column' h => hinfo column' (List.mem_cons_of_mem _ h))

theorem tableRows_agree (collation : Option Collation) (columns : List TvpColumn)
    (rows : List (List JsValue))
    (hinfo : ∀ column ∈ columns, ∃ typeInfo, column.typeInfo js useUTC = .ok typeInfo) :
    Agrees (writeRows js useUTC collation columns rows) (rowsSpec js useUTC collation columns rows)
      (RowsFit js collation columns rows) := by
  match rows with
  | [] => exact Agrees.ok rfl
  | row :: rows =>
    have hrow := (row_agrees collation columns row hinfo).append
      (tableRows_agree collation columns rows hinfo)
    have htoken := (@Agrees.ok JsError _ [TVP_ROW_TOKEN] rfl).append hrow
    rw [writeRows.eq_def]
    dsimp only
    rw [andThen_cons]
    exact htoken.congr ⟨And.right, fun h => ⟨trivial, h⟩⟩

end

end Rows

/-! ### Parameters -/

theorem writeBVarchar_ok {s : JsString} {bytes : Bytes} (h : writeBVarchar s = .ok bytes) :
    bVarCharSpec s = some bytes := by
  obtain ⟨length, hlength, h⟩ := Except.bind_ok h
  cases h
  rw [writeUIntLE_ofNat_eq] at hlength
  split at hlength
  · next hlt =>
    cases hlength
    have h256 : 256 ^ 1 = 256 := rfl
    exact if_pos (by omega)
  · cases hlength

theorem writeTableType_ok {schema name : Option JsString} {typeInfo : Bytes}
    (h : writeTableType schema name = .ok typeInfo) : tableTypeSpec schema name = some typeInfo := by
  obtain ⟨databaseName, hdatabase, h⟩ := Except.bind_ok h
  obtain ⟨schema', hschema, h⟩ := Except.bind_ok h
  obtain ⟨typeName, hname, h⟩ := Except.bind_ok h
  cases h
  have hempty := writeBVarchar_ok hdatabase
  cases hempty
  rw [tableTypeSpec, writeBVarchar_ok hschema, writeBVarchar_ok hname]
  rfl

/-- **Grammar of table-valued parameters.** The bytes of a table that is written follow the
grammar exactly when its columns do not number 65535, every row has a cell for every column, and
every cell is framed. -/
theorem writeTvp_conforms_iff (js : Runtime) (useUTC : Bool) (collation : Option Collation)
    (value : JsValue) {typeInfo bytes : Bytes}
    (h : writeTvp js useUTC collation value = .ok (typeInfo, bytes)) :
    TvpConforms js useUTC collation value typeInfo bytes ↔ TableFits js collation value := by
  obtain ⟨v, hv, h⟩ := Except.bind_ok h
  obtain ⟨length, data, hinfo, hlength, hdata, rfl⟩ := (TYPES.TVP js useUTC).build_ok h
  have htype := writeTableType_ok hinfo
  cases value with
  | table schema name columns rows =>
    cases hv
    have hagrees := table_agrees js useUTC (tableRows_agree js useUTC collation columns rows)
    have hwritten : (do
        let length ← writeUIntLE 2 (.ofNat columns.length)
        let data ← tableData js useUTC columns (writeRows js useUTC collation columns rows)
        pure (length :: data) : Except JsError (List Bytes)) = .ok (length :: data) := by
      rw [show writeUIntLE 2 (.ofNat columns.length) = .ok length from hlength,
        show tableData js useUTC columns (writeRows js useUTC collation columns rows) = .ok data
          from hdata]
      rfl
    have hiff := hagrees.iff hwritten
    rw [List.flatten_cons] at hiff
    exact ⟨fun hconforms => hiff.1 hconforms.2, fun hfits => ⟨htype, hiff.2 hfits⟩⟩
  | undefined | null =>
    cases hv
    cases hlength
    cases hdata
    exact iff_of_true ⟨htype, rfl⟩ trivial
  | _ => cases hv

/-- A runtime for values that need no conversion. -/
def plainRuntime : Runtime where
  platform := asciiPlatform
  toNumber _ := .error .typeError
  parseFloat _ := .error .typeError
  parseDate _ := .ok none
  add m _ := m
  multiply m _ := m
  divide m _ := m
  pow m _ := m
  float32 _ := 0
  float64 _ := 0
  iconvEncode text _ := text.map fun c => UInt8.ofNat c.toNat

/-- A table of two `Int` columns. -/
def intTable (rows : List (List JsValue)) : JsValue :=
  .table none none [⟨.Int, none, none, none⟩, ⟨.Int, none, none, none⟩] rows

/-- A row with a cell for each of the two columns. -/
theorem writeTvp_conforms_intTable :
    ∃ typeInfo bytes,
      writeTvp plainRuntime true none (intTable [[.number (.ofNat 7), .null]]) =
        .ok (typeInfo, bytes) ∧
      TvpConforms plainRuntime true none (intTable [[.number (.ofNat 7), .null]]) typeInfo bytes := by
  refine ⟨_, _, rfl, (writeTvp_conforms_iff plainRuntime true none _ rfl).2 ?_⟩
  exact ⟨by decide, ⟨trivial, trivial, rfl⟩, trivial⟩

/-- A row of one cell in a table of two columns. -/
theorem not_writeTvp_conforms :
    ¬ ∀ (js : Runtime) (useUTC : Bool) (collation : Option Collation) (value : JsValue)
      (typeInfo bytes : Bytes), writeTvp js useUTC collation value = .ok (typeInfo, bytes) →
      TvpConforms js useUTC collation value typeInfo bytes := by
  intro h
  have hshort := h plainRuntime true none (intTable [[.number (.ofNat 7)]]) _ _ rfl
  exact absurd (Option.some.inj hshort.2) (by decide)

end Tedious
