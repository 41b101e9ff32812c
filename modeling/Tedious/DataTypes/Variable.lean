import Tedious.DataTypes.Parameter

/-!
# Tedious.DataTypes.Variable

The types whose values have a length of their own: `Binary`, `VarBinary`, `Char`,
`VarChar`, `NChar` and `NVarChar` (`data-types/*.ts`).

`VarBinary`, `VarChar` and `NVarChar` write a value behind two length bytes when their
declared length is at most the maximum of the type, and as a PLP stream otherwise. The type
description, the length and the data each make this choice on their own, from the declared
length alone.
-/

namespace Tedious

open Chunked

/-! ### Lengths and data -/

def NULL_LENGTH : Bytes := [0xFF, 0xFF]

def MAX_NULL_LENGTH : Bytes := [0xFF, 0xFF, 0xFF, 0xFF, 0xFF, 0xFF, 0xFF, 0xFF]

def UNKNOWN_PLP_LEN : Bytes := [0xFE, 0xFF, 0xFF, 0xFF, 0xFF, 0xFF, 0xFF, 0xFF]

def PLP_TERMINATOR : Bytes := [0x00, 0x00, 0x00, 0x00]

/-- `MAX`: the length in a type description that announces PLP streams. -/
def MAX : Nat := 65535

/-- `parameter.length! <= this.maximumLength`. -/
def isShort (maximumLength : Nat) (length : Option JsNumber) : Bool :=
  (JsNumber.ofOption length).atMost maximumLength

/-- The length in the type description, `unit` bytes for one of the declared length. -/
def declaredOrMax (maximumLength : Nat) (unit : JsNumber → JsNumber) (length : Option JsNumber) :
    Except JsError Bytes :=
  if isShort maximumLength length then writeUIntLE 2 (unit (.ofOption length))
  else writeUIntLE 2 (.ofNat MAX)

/-- The collation in a type description; without one its bytes stay 0. -/
def collationField (collation : Option Collation) : Bytes :=
  (collation.map Collation.toBuffer).getD [0, 0, 0, 0, 0]

@[simp] theorem length_collationField (collation : Option Collation) :
    (collationField collation).length = 5 := by
  cases collation <;> rfl

/-- `generateParameterLength` of the types with two length bytes. -/
def shortLength : Option Bytes → Except JsError Bytes
  | none => .ok NULL_LENGTH
  | some bytes => writeUIntLE 2 (.ofNat bytes.length)

/-- The length in front of a PLP stream. -/
def plpLength : Option Bytes → Bytes
  | none => MAX_NULL_LENGTH
  | some _ => UNKNOWN_PLP_LEN

/-- `generateParameterLength` of the types that may use a PLP stream. -/
def shortOrPlpLength (maximumLength : Nat) (length : Option JsNumber) (bytes : Option Bytes) :
    Except JsError Bytes :=
  if isShort maximumLength length then shortLength bytes else .ok (plpLength bytes)

/-- The chunks of a PLP stream. -/
def plpData (bytes : Bytes) : Except JsError (List Bytes) :=
  if 0 < bytes.length then do
    let chunkLength ← writeUIntLE 4 (.ofNat bytes.length)
    pure [chunkLength, bytes, PLP_TERMINATOR]
  else
    pure [PLP_TERMINATOR]

/-- `generateParameterData` of the types that may use a PLP stream. -/
def shortOrPlpData (maximumLength : Nat) (length : Option JsNumber) :
    Option Bytes → Except JsError (List Bytes)
  | none => .ok []
  | some bytes => if isShort maximumLength length then .ok [bytes] else plpData bytes

/-- `n || 1`. -/
def orOne (n : Nat) : JsNumber := if n = 0 then .ofNat 1 else .ofNat n

/-- `parameter.length ?? ofValue ?? maximumLength`. -/
def resolveVariable (maximumLength : Nat) (ofValue : α → JsNumber) (parameter : ParameterData α) :
    JsNumber :=
  match parameter.length, parameter.value with
  | some length, _ => length
  | none, some value => ofValue value
  | none, none => .ofNat maximumLength

theorem double_atMost {bound : Nat} {n : JsNumber} (h : n.atMost bound = true) :
    n.double.atMost (2 * bound) = true := by
  cases n with
  | finite q =>
    have hq : q ≤ bound := of_decide_eq_true h
    refine decide_eq_true ?_
    push_cast
    linarith
  | negInfinity => rfl
  | infinity => cases h
  | nan => cases h

/-- The length in a type description announces PLP streams exactly when they are used. -/
theorem declaredOrMax_ok {maximumLength : Nat} {unit : JsNumber → JsNumber}
    {declared : Option JsNumber} {bytes : Bytes}
    (hunit : ∀ n : JsNumber, n.atMost maximumLength = true → (unit n).atMost 8000 = true)
    (h : declaredOrMax maximumLength unit declared = .ok bytes) :
    ∃ n < 65536, bytes = leBytes 2 n ∧
      decide (n = 0xFFFF) = !isShort maximumLength declared := by
  rw [declaredOrMax] at h
  by_cases hshort : isShort maximumLength declared = true
  · rw [if_pos hshort] at h
    obtain ⟨n, hle, hlt, rfl⟩ := writeUIntLE_atMost h (hunit _ hshort)
    refine ⟨n, hlt, rfl, ?_⟩
    rw [hshort]
    exact decide_eq_false (by omega)
  · rw [if_neg hshort, MAX, writeUIntLE_ofNat (by decide)] at h
    cases h
    rw [Bool.not_eq_true] at hshort
    rw [hshort]
    exact ⟨65535, by decide, rfl, rfl⟩

/-! ### Validation -/

/-- `validate` of `VarChar` and `Char`, on a string or `null`. -/
def validateText (encode : JsString → String → Bytes) (collation : Option Collation) :
    Option JsString → Except JsError (Option Bytes)
  | none => .ok none
  | some text =>
    match collation with
    | none => .error (.error "No collation was set by the server for the current connection.")
    | some collation =>
      match collation.codepage with
      | none => .error (.error "The collation set by the server has no associated encoding.")
      | some codepage => .ok (some (encode text codepage.name))

/-! ### The types -/

namespace TYPES

/-- Binary: the length is the declared one, the data is the value cut to it. -/
def Binary : DataTypeMethods Bytes where
  id := 0xAD
  resolveLength := some fun parameter =>
    match parameter.value with
    | some value => .ofNat value.length
    | none => .ofNat 8000
  resolvePrecision := none
  resolveScale := none
  generateTypeInfo parameter := do
    let length ← writeUIntLE 2 (.ofOption parameter.length)
    pure ([0xAD] ++ length)
  generateParameterLength parameter :=
    match parameter.value with
    | none => .ok NULL_LENGTH
    | some _ => writeUIntLE 2 (.ofOption parameter.length)
  generateParameterData parameter :=
    match parameter.value with
    | none => .ok []
    | some value =>
      let stop := match parameter.length with
        | some length => length.minNat 8000
        | none => .ofNat 8000
      .ok [value.take (stop.sliceEnd value.length)]

def VarBinary : DataTypeMethods Bytes where
  id := 0xA5
  resolveLength := some (resolveVariable 8000 fun value => .ofNat value.length)
  resolvePrecision := none
  resolveScale := none
  generateTypeInfo parameter := do
    let length ← declaredOrMax 8000 id parameter.length
    pure ([0xA5] ++ length)
  generateParameterLength parameter := shortOrPlpLength 8000 parameter.length parameter.value
  generateParameterData parameter := shortOrPlpData 8000 parameter.length parameter.value

def VarChar : DataTypeMethods Bytes where
  id := 0xA7
  resolveLength := some (resolveVariable 8000 fun value => orOne value.length)
  resolvePrecision := none
  resolveScale := none
  generateTypeInfo parameter := do
    let length ← declaredOrMax 8000 id parameter.length
    pure ([0xA7] ++ length ++ collationField parameter.collation)
  generateParameterLength parameter := shortOrPlpLength 8000 parameter.length parameter.value
  generateParameterData parameter := shortOrPlpData 8000 parameter.length parameter.value

def Char : DataTypeMethods Bytes where
  id := 0xAF
  resolveLength := some (resolveVariable 8000 fun value => orOne value.length)
  resolvePrecision := none
  resolveScale := none
  generateTypeInfo parameter := do
    let length ← writeUIntLE 2 (.ofOption parameter.length)
    pure ([0xAF] ++ length ++ collationField parameter.collation)
  generateParameterLength parameter := shortLength parameter.value
  generateParameterData parameter := .ok parameter.value.toList

def NVarChar : DataTypeMethods JsString where
  id := 0xE7
  resolveLength := some (resolveVariable 4000 fun value => orOne value.length)
  resolvePrecision := none
  resolveScale := none
  generateTypeInfo parameter := do
    let length ← declaredOrMax 4000 JsNumber.double parameter.length
    pure ([0xE7] ++ length ++ collationField parameter.collation)
  generateParameterLength parameter :=
    shortOrPlpLength 4000 parameter.length (parameter.value.map ucs2Bytes)
  generateParameterData parameter :=
    shortOrPlpData 4000 parameter.length (parameter.value.map ucs2Bytes)

def NChar : DataTypeMethods JsString where
  id := 0xEF
  resolveLength := some (resolveVariable 4000 fun value => orOne value.length)
  resolvePrecision := none
  resolveScale := none
  generateTypeInfo parameter := do
    let length ← writeUIntLE 2 (JsNumber.ofOption parameter.length).double
    pure ([0xEF] ++ length ++ collationField parameter.collation)
  generateParameterLength parameter := shortLength (parameter.value.map ucs2Bytes)
  generateParameterData parameter := .ok (parameter.value.map ucs2Bytes).toList

end TYPES

end Tedious
