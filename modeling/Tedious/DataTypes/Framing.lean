import Tedious.DataTypes.Types

/-!
# Tedious.DataTypes.Framing

How a value stands on the wire: behind a length of one, two or four bytes, with a marker for
`NULL`, or as a PLP stream. Which of these it is follows from the type description alone.

`scalarType_sized`: the types whose size their description fixes write the length of the data
they write, whatever the value.
-/

namespace Tedious

open Chunked

/-! ### Frames -/

/-- How the values under a type description are framed. -/
inductive Framing
  | byteLength
  | shortLength
  | longLength
  | plp
  deriving DecidableEq, Repr

namespace Framing

/-- The framing that a type description announces. -/
def ofTypeInfo : Bytes → Option Framing
  | [] => none
  | tag :: rest =>
    if tag ∈ ([0x24, 0x26, 0x28, 0x29, 0x2A, 0x2B, 0x68, 0x6A, 0x6C, 0x6D, 0x6E, 0x6F] :
        List UInt8) then some byteLength
    else if tag ∈ ([0xAD, 0xAF, 0xEF] : List UInt8) then some shortLength
    else if tag ∈ ([0xA5, 0xA7, 0xE7] : List UInt8) then
      some (if rest.take 2 = [0xFF, 0xFF] then plp else shortLength)
    else if tag ∈ ([0x22, 0x23, 0x63] : List UInt8) then some longLength
    else none

/-- `NULL`. -/
def null : Framing → Bytes
  | byteLength => [0x00]
  | shortLength => NULL_LENGTH
  | longLength => LONG_NULL_LENGTH
  | plp => MAX_NULL_LENGTH

/-- A value, if there is room for its length beside the marker of `NULL`. -/
def frame (content : Bytes) : Framing → Option Bytes
  | byteLength =>
    if 0 < content.length ∧ content.length < 256 then some (leBytes 1 content.length ++ content)
    else none
  | shortLength =>
    if content.length < 65535 then some (leBytes 2 content.length ++ content) else none
  | longLength =>
    if content.length < 2147483648 then some (leBytes 4 content.length ++ content) else none
  | plp =>
    if content.length = 0 then some (UNKNOWN_PLP_LEN ++ PLP_TERMINATOR)
    else if content.length < 4294967296 then
      some (UNKNOWN_PLP_LEN ++ (leBytes 4 content.length ++ (content ++ PLP_TERMINATOR)))
    else none

/-- A value or `NULL`. -/
def field (framing : Framing) : Option Bytes → Option Bytes
  | none => some framing.null
  | some content => framing.frame content

theorem length_null_pos (framing : Framing) : 0 < framing.null.length := by
  cases framing <;> decide

end Framing

/-! ### Types whose description fixes the size -/

/-- The types with one length byte. -/
def DataType.isSized : DataType → Bool
  | TinyInt | SmallInt | Int | BigInt | Bit | SmallMoney | Money | Real | Float | SmallDateTime
  | DateTime | Date | Time | DateTime2 | DateTimeOffset | Decimal | Numeric
  | UniqueIdentifier => true
  | _ => false

/-- `NULL` is a length of 0, and any other length is the one of the data. -/
def DataTypeMethods.Sized (type : DataTypeMethods α) : Prop :=
  ∀ parameter length data, type.generateParameterLength parameter = .ok length →
    type.generateParameterData parameter = .ok data →
    match parameter.value with
    | none => length ++ data.flatten = [0x00]
    | some _ => length = leBytes 1 data.flatten.length ∧ 0 < data.flatten.length ∧
        data.flatten.length < 256

theorem fixedData_some {write : α → Except JsError Bytes} {value : α} {data : List Bytes}
    (h : fixedData write (some value) = .ok data) : write value = .ok data.flatten := by
  obtain ⟨bytes, hwrite, h⟩ := Except.bind_ok h
  cases h
  simpa using hwrite

theorem fixedType_sized (id typeNumber : Nat) {size : Nat} {write : α → Except JsError Bytes}
    (hsize : 0 < size ∧ size < 256)
    (hwrite : ∀ value bytes, write value = .ok bytes → bytes.length = size) :
    (fixedType id typeNumber size write).Sized := by
  intro parameter length data hlength hdata
  cases hlength
  replace hdata : fixedData write parameter.value = .ok data := hdata
  cases hvalue : parameter.value with
  | none =>
    rw [hvalue] at hdata
    cases hdata
    rfl
  | some value =>
    rw [hvalue] at hdata
    dsimp only
    rw [hwrite value _ (fixedData_some hdata)]
    exact ⟨rfl, hsize⟩

theorem scaleSize_pos {scale : Option JsNumber} {size : Nat} (h : scaleSize scale = some size) :
    size = 3 ∨ size = 4 ∨ size = 5 := by
  rw [scaleSize] at h
  split at h
  · cases h
    exact .inl rfl
  · split at h
    · cases h
      exact .inr (.inl rfl)
    · split at h
      · cases h
        exact .inr (.inr rfl)
      · cases h

theorem length_writeTimestamp {scale : Option JsNumber} {timestamp : JsNumber} {bytes : Bytes}
    {size : Nat} (hsize : scaleSize scale = some size)
    (h : ValidDate.writeTimestamp scale timestamp = .ok bytes) : bytes.length = size := by
  rw [ValidDate.writeTimestamp, hsize] at h
  rcases scaleSize_pos hsize with rfl | rfl | rfl
  · cases h
    exact length_leBytes ..
  · exact length_writeUIntLE h
  · exact length_writeUInt40LE h

section ScaledLength

variable {id extra : Nat} {write : Option JsNumber → ValidDate → Except JsError Bytes}
  {parameter : ParameterData ValidDate}

theorem scaledType_length_none (hvalue : parameter.value = none) :
    (scaledType id extra write).generateParameterLength parameter = .ok [0x00] := by
  simp only [scaledType, hvalue]

theorem scaledType_length_some {value : ValidDate} (hvalue : parameter.value = some value)
    {size : Nat} (hsize : scaleSize parameter.scale = some size) :
    (scaledType id extra write).generateParameterLength parameter =
      .ok (leBytes 1 (size + extra)) := by
  simp only [scaledType, hvalue, hsize]

theorem scaledType_length_invalid {value : ValidDate} (hvalue : parameter.value = some value)
    (hsize : scaleSize parameter.scale = none) :
    (scaledType id extra write).generateParameterLength parameter =
      .error (.error "invalid scale") := by
  simp only [scaledType, hvalue, hsize]

end ScaledLength

/-- The time of day and what stands behind it have the size that the scale selects. -/
theorem scaledType_sized {id : Nat} (extra : Nat)
    {write : Option JsNumber → ValidDate → Except JsError Bytes} (hextra : extra < 10)
    (hwrite : ∀ {scale size date bytes}, scaleSize scale = some size →
      write scale date = .ok bytes → bytes.length = size + extra) :
    (scaledType id extra write).Sized := by
  intro parameter length data hlength hdata
  replace hdata : fixedData (write parameter.scale) parameter.value = .ok data := hdata
  cases hvalue : parameter.value with
  | none =>
    rw [hvalue] at hdata
    rw [scaledType_length_none hvalue] at hlength
    cases hdata
    cases hlength
    rfl
  | some value =>
    rw [hvalue] at hdata
    cases hsize : scaleSize parameter.scale with
    | none =>
      rw [scaledType_length_invalid hvalue hsize] at hlength
      cases hlength
    | some size =>
      rw [scaledType_length_some hvalue hsize] at hlength
      cases hlength
      rw [hwrite hsize (fixedData_some hdata)]
      have hpos := scaleSize_pos hsize
      exact ⟨rfl, by omega, by omega⟩

theorem length_writeNumeric {js : Runtime} {precision scale : Option JsNumber} {value : JsNumber}
    {bytes : Bytes} (h : writeNumeric js precision scale value = .ok bytes) :
    bytes.length = precisionSize precision := by
  rw [writeNumeric] at h
  rw [precisionSize]
  split at h
  · next h9 =>
    obtain ⟨low, hlow, h⟩ := Except.bind_ok h
    cases h
    rw [if_pos h9, List.length_append, length_writeUIntLE hlow, length_leBytes]
  · next h9 =>
    obtain ⟨low, hlow, h⟩ := Except.bind_ok h
    rw [if_neg h9]
    split at h
    · next h19 =>
      cases h
      rw [if_pos h19, List.length_append, length_writeUInt64LE hlow, length_leBytes]
    · next h19 =>
      rw [if_neg h19]
      split at h
      · next h28 =>
        cases h
        rw [if_pos h28]
        simp only [List.length_append, length_writeUInt64LE hlow, length_leBytes]
      · next h28 =>
        cases h
        rw [if_neg h28]
        simp only [List.length_append, length_writeUInt64LE hlow, length_leBytes]

theorem length_writeInt64LE {n : JsNumber} {bytes : Bytes} (h : writeInt64LE n = .ok bytes) :
    bytes.length = 8 := by
  obtain ⟨m, -, h⟩ := Except.bind_ok h
  rw [writeBigInt64LE] at h
  split at h
  · cases h
    exact length_leIntBytes ..
  · cases h

theorem length_writeDateTime {js : Runtime} {useUTC : Bool} {date : ValidDate} {bytes : Bytes}
    (h : writeDateTime js useUTC date = .ok bytes) : bytes.length = 8 := by
  obtain ⟨days, hdays, h⟩ := Except.bind_ok h
  obtain ⟨time, htime, h⟩ := Except.bind_ok h
  cases h
  rw [List.length_append, length_writeIntLE hdays, length_writeUIntLE htime]

theorem precisionSize_mem (precision : Option JsNumber) :
    precisionSize precision ∈ [5, 9, 13, 17] := by
  unfold precisionSize
  split
  · decide
  · split
    · decide
    · split <;> decide

theorem precisionSize_lt (precision : Option JsNumber) :
    0 < precisionSize precision ∧ precisionSize precision < 256 := by
  have hmem := precisionSize_mem precision
  simp only [List.mem_cons, List.not_mem_nil, or_false] at hmem
  omega

theorem numericType_sized (js : Runtime) (id typeNumber : Nat) :
    (numericType js id typeNumber).Sized := by
  intro parameter length data hlength hdata
  cases hlength
  replace hdata : fixedData (writeNumeric js parameter.precision parameter.scale)
    parameter.value = .ok data := hdata
  cases hvalue : parameter.value with
  | none =>
    rw [hvalue] at hdata
    cases hdata
    rfl
  | some value =>
    rw [hvalue] at hdata
    dsimp only
    rw [length_writeNumeric (fixedData_some hdata)]
    exact ⟨rfl, precisionSize_lt _⟩

theorem length_guidByte {guid : JsString} {i : Nat} {bytes : Bytes}
    (h : guidByte guid i = .ok bytes) : bytes.length = 1 := by
  rw [guidByte] at h
  split at h
  · cases h
  · cases h
    exact length_leBytes ..

/-- Bytes one by one. -/
theorem length_mapM_flatten {f : β → Except JsError Bytes}
    (hf : ∀ b bytes, f b = .ok bytes → bytes.length = 1) {bs : List β} {chunks : List Bytes}
    (h : bs.mapM f = .ok chunks) : chunks.flatten.length = bs.length := by
  induction bs generalizing chunks with
  | nil =>
    cases h
    rfl
  | cons b bs ih =>
    rw [List.mapM_cons] at h
    obtain ⟨chunk, hchunk, h⟩ := Except.bind_ok h
    obtain ⟨chunks, hchunks, h⟩ := Except.bind_ok h
    cases h
    rw [List.flatten_cons, List.length_append, hf b chunk hchunk, ih hchunks, List.length_cons,
      Nat.add_comm]

theorem length_guidToArray {guid : JsString} {bytes : Bytes} (h : guidToArray guid = .ok bytes) :
    bytes.length = 0x10 := by
  obtain ⟨chunks, hchunks, h⟩ := Except.bind_ok h
  cases h
  exact length_mapM_flatten (fun _ _ => length_guidByte) hchunks

theorem scalarType_sized {js : Runtime} {useUTC : Bool} {type : DataType} {sent : SendType}
    (h : scalarType js useUTC type = some sent) (hsized : type.isSized = true) :
    sent.methods.Sized := by
  cases type with
  | TinyInt =>
    cases h
    exact fixedType_sized _ _ (by decide) fun _ _ => length_writeUIntLE
  | SmallInt | Int =>
    cases h
    exact fixedType_sized _ _ (by decide) fun _ _ => length_writeIntLE
  | BigInt =>
    cases h
    exact fixedType_sized _ _ (by decide) fun _ _ => length_writeInt64LE
  | Bit | Real | Float =>
    cases h
    refine fixedType_sized _ _ (by decide) fun _ _ hwrite => ?_
    cases hwrite
    exact length_leBytes ..
  | SmallMoney =>
    cases h
    exact fixedType_sized _ _ (by decide) fun _ _ => length_writeIntLE
  | Money =>
    cases h
    refine fixedType_sized _ _ (by decide) fun _ _ hwrite => ?_
    obtain ⟨high, hhigh, hwrite⟩ := Except.bind_ok hwrite
    obtain ⟨low, hlow, hwrite⟩ := Except.bind_ok hwrite
    cases hwrite
    rw [List.length_append, length_writeIntLE hhigh, length_writeIntLE hlow]
  | SmallDateTime =>
    cases h
    refine fixedType_sized _ _ (by decide) fun _ _ hwrite => ?_
    obtain ⟨days, hdays, hwrite⟩ := Except.bind_ok hwrite
    obtain ⟨minutes, hminutes, hwrite⟩ := Except.bind_ok hwrite
    cases hwrite
    rw [List.length_append, length_writeUIntLE hdays, length_writeUIntLE hminutes]
  | DateTime =>
    cases h
    exact fixedType_sized _ _ (by decide) fun _ _ => length_writeDateTime
  | Date =>
    cases h
    exact fixedType_sized 0x28 0x28 (by decide) fun _ _ => length_writeUIntLE
  | Time =>
    cases h
    show (TYPES.Time js useUTC).Sized
    rw [TYPES.Time]
    exact scaledType_sized 0 (by decide) fun hsize hwrite => length_writeTimestamp hsize hwrite
  | DateTime2 =>
    cases h
    show (TYPES.DateTime2 js useUTC).Sized
    rw [TYPES.DateTime2]
    refine scaledType_sized 3 (by decide) fun hsize hwrite => ?_
    obtain ⟨timestamp, htimestamp, hwrite⟩ := Except.bind_ok hwrite
    cases hwrite
    rw [List.length_append, length_writeTimestamp hsize htimestamp]
    rfl
  | DateTimeOffset =>
    cases h
    show (TYPES.DateTimeOffset js).Sized
    rw [TYPES.DateTimeOffset]
    refine scaledType_sized 5 (by decide) fun hsize hwrite => ?_
    obtain ⟨timestamp, htimestamp, hwrite⟩ := Except.bind_ok hwrite
    obtain ⟨offset, hoffset, hwrite⟩ := Except.bind_ok hwrite
    cases hwrite
    rw [List.length_append, List.length_append, length_writeTimestamp hsize htimestamp,
      length_writeIntLE hoffset]
    rfl
  | Decimal | Numeric =>
    cases h
    exact numericType_sized js _ _
  | UniqueIdentifier =>
    cases h
    exact fixedType_sized 0x24 0x24 (by decide) fun _ _ => length_guidToArray
  | _ => cases hsized

theorem Framing.ofTypeInfo_sized {js : Runtime} {useUTC : Bool} {type : DataType}
    {sent : SendType} (h : scalarType js useUTC type = some sent) (hsized : type.isSized = true)
    {parameter : ParameterData sent.α} {typeInfo : Bytes}
    (hinfo : sent.methods.generateTypeInfo parameter = .ok typeInfo) :
    Framing.ofTypeInfo typeInfo = some .byteLength := by
  cases type <;> cases hsized <;> cases h <;> cases hinfo <;> rfl

end Tedious
