import Mathlib.Algebra.Order.Floor.Ring
import Mathlib.Data.Rat.Floor
import Tedious.Encode
import Tedious.Metadata

/-!
# Tedious.DataTypes.Parameter

What every data type is written with (`data-type.ts`): the parameter that a type describes
and encodes, the methods of a type, the `Buffer` methods that write numbers, and the three
callers that decide what length a type is told: the RPC request, the bulk load and the
table-valued parameter.

A length, a precision and a scale are numbers of the user. Nothing checks them before a
type writes them, so they may be fractional, infinite or `NaN`, and `undefined` becomes
`NaN` when it is written.
-/

namespace Tedious

open Chunked

/-! ### Numbers -/

namespace JsNumber

/-- `Number(undefined)` is `NaN`. -/
def ofOption (n : Option JsNumber) : JsNumber := n.getD nan

def ofNat (n : Nat) : JsNumber := finite n

/-- `n <= bound`. -/
def atMost (bound : Nat) : JsNumber → Bool
  | finite q => q ≤ bound
  | negInfinity => true
  | infinity | nan => false

/-- `Math.min(n, bound)`. -/
def minNat (bound : Nat) : JsNumber → JsNumber
  | finite q => finite (min q bound)
  | infinity => ofNat bound
  | negInfinity => negInfinity
  | nan => nan

/-- `2 * n`. -/
def double : JsNumber → JsNumber
  | finite q => finite (2 * q)
  | infinity => infinity
  | negInfinity => negInfinity
  | nan => nan

end JsNumber

/-- `Math.trunc`. -/
def truncate (q : Rat) : Int := q.num.tdiv q.den

@[simp] theorem truncate_natCast (n : Nat) : truncate n = n := by
  rw [truncate, Rat.num_natCast, Rat.den_natCast, Nat.cast_one, Int.tdiv_one]

@[simp] theorem truncate_intCast (n : Int) : truncate n = n := by
  rw [truncate, Rat.num_intCast, Rat.den_intCast, Nat.cast_one, Int.tdiv_one]

theorem truncate_of_nonneg {q : Rat} (h : 0 ≤ q) : truncate q = ⌊q⌋ := by
  rw [truncate, Int.tdiv_eq_ediv_of_nonneg (Rat.num_nonneg.2 h), Rat.floor_def']

/-- The end of `buffer.slice(0, n)`. -/
def JsNumber.sliceEnd (length : Nat) : JsNumber → Nat
  | finite q => clampIndex length (truncate q)
  | infinity => length
  | negInfinity | nan => 0

/-! ### Writing numbers -/

/-- `writeUInt8`, `writeUInt16LE` and `writeUInt32LE`: a number out of range throws, a
fraction is cut off, and `NaN` is written as 0. -/
def writeUIntLE (k : Nat) : JsNumber → Except JsError Bytes
  | .finite q =>
    if 0 ≤ q ∧ q ≤ (256 ^ k - 1 : Nat) then .ok (leBytes k (truncate q).toNat)
    else .error .rangeError
  | .nan => .ok (leBytes k 0)
  | .infinity | .negInfinity => .error .rangeError

/-- `writeInt8`, `writeInt16LE` and `writeInt32LE`. -/
def writeIntLE (k : Nat) : JsNumber → Except JsError Bytes
  | .finite q =>
    if -(256 ^ k / 2 : Nat) ≤ q ∧ q ≤ (256 ^ k / 2 - 1 : Nat) then .ok (leIntBytes k (truncate q))
    else .error .rangeError
  | .nan => .ok (leBytes k 0)
  | .infinity | .negInfinity => .error .rangeError

theorem writeUIntLE_ofNat {k n : Nat} (h : n < 256 ^ k) :
    writeUIntLE k (.ofNat n) = .ok (leBytes k n) := by
  have hpos : 0 < 256 ^ k := Nat.pow_pos (by decide)
  have hle : (n : Rat) ≤ (256 ^ k - 1 : Nat) := Nat.cast_le.2 (by omega)
  rw [JsNumber.ofNat, writeUIntLE, if_pos ⟨Nat.cast_nonneg n, hle⟩, truncate_natCast,
    Int.toNat_natCast]

theorem writeUIntLE_ofNat_eq {k n : Nat} :
    writeUIntLE k (.ofNat n) = if n < 256 ^ k then .ok (leBytes k n) else .error .rangeError := by
  have hpos : 0 < 256 ^ k := Nat.pow_pos (by decide)
  split
  · next h => exact writeUIntLE_ofNat h
  · next h =>
    refine if_neg fun hle => ?_
    have hcast := Nat.cast_le.1 hle.2
    omega

theorem length_writeUIntLE {k : Nat} {n : JsNumber} {bytes : Bytes}
    (h : writeUIntLE k n = .ok bytes) : bytes.length = k := by
  cases n with
  | finite q =>
    rw [writeUIntLE] at h
    split at h
    · cases h
      exact length_leBytes ..
    · cases h
  | nan =>
    cases h
    exact length_leBytes ..
  | infinity => cases h
  | negInfinity => cases h

/-- A number that was written below a bound. -/
theorem writeUIntLE_atMost {k bound : Nat} {n : JsNumber} {bytes : Bytes}
    (h : writeUIntLE k n = .ok bytes) (hbound : n.atMost bound = true) :
    ∃ m ≤ bound, m < 256 ^ k ∧ bytes = leBytes k m := by
  cases n with
  | finite q =>
    rw [writeUIntLE] at h
    split at h
    · next hrange =>
      cases h
      have hfloor0 : 0 ≤ ⌊q⌋ := Int.floor_nonneg.2 hrange.1
      have hle : ⌊q⌋ ≤ bound := by
        have := Int.floor_le_floor (of_decide_eq_true hbound)
        rwa [Int.floor_natCast] at this
      have hlt : ⌊q⌋ ≤ (256 ^ k - 1 : Nat) := by
        have := Int.floor_le_floor hrange.2
        rwa [Int.floor_natCast] at this
      have hpos : 0 < 256 ^ k := Nat.pow_pos (by decide)
      rw [truncate_of_nonneg hrange.1]
      exact ⟨⌊q⌋.toNat, by omega, by omega, rfl⟩
    · cases h
  | nan => cases hbound
  | infinity => cases h
  | negInfinity => cases h

/-- Any number that was written. -/
theorem writeUIntLE_ok {k : Nat} {n : JsNumber} {bytes : Bytes} (h : writeUIntLE k n = .ok bytes) :
    ∃ m < 256 ^ k, bytes = leBytes k m := by
  cases n with
  | finite q =>
    rw [writeUIntLE] at h
    split at h
    · next hrange =>
      cases h
      have hfloor0 : 0 ≤ ⌊q⌋ := Int.floor_nonneg.2 hrange.1
      have hlt : ⌊q⌋ ≤ (256 ^ k - 1 : Nat) := by
        have := Int.floor_le_floor hrange.2
        rwa [Int.floor_natCast] at this
      have hpos : 0 < 256 ^ k := Nat.pow_pos (by decide)
      rw [truncate_of_nonneg hrange.1]
      exact ⟨⌊q⌋.toNat, by omega, rfl⟩
    · cases h
  | nan =>
    cases h
    exact ⟨0, Nat.pow_pos (by decide), rfl⟩
  | infinity => cases h
  | negInfinity => cases h

/-- Inverting a computation that did not throw. -/
theorem Except.bind_ok {ε α β : Type} {x : Except ε α} {f : α → Except ε β} {b : β}
    (h : x >>= f = .ok b) : ∃ a, x = .ok a ∧ f a = .ok b := by
  cases x with
  | error e => cases h
  | ok a => exact ⟨a, rfl, h⟩

/-! ### Parameters -/

/-- `ParameterData`: what a type is told about a parameter with values `α`. No value is
`null`. -/
structure ParameterData (α : Type) where
  length : Option JsNumber
  precision : Option JsNumber
  scale : Option JsNumber
  collation : Option Collation
  value : Option α

/-- The methods of a data type whose valid values are `α`. The generator of the data is
the list of what it yields. -/
structure DataTypeMethods (α : Type) where
  id : Nat
  resolveLength : Option (ParameterData α → JsNumber)
  resolvePrecision : Option (ParameterData α → JsNumber)
  resolveScale : Option (ParameterData α → JsNumber)
  generateTypeInfo : ParameterData α → Except JsError Bytes
  generateParameterLength : ParameterData α → Except JsError Bytes
  generateParameterData : ParameterData α → Except JsError (List Bytes)

namespace DataTypeMethods

variable {α : Type} (type : DataTypeMethods α)

/-- `(type.id & 0x30) === 0x20`. -/
def hasLength : Bool := type.id &&& 0x30 = 0x20

/-- `declared || resolve?.(parameter)`. -/
def resolveFalsy (declared : Option JsNumber) (resolve : Option (ParameterData α → JsNumber))
    (parameter : ParameterData α) : Option JsNumber :=
  match declared with
  | some n => if n.isTruthy then some n else resolve.map fun f => f parameter
  | none => resolve.map fun f => f parameter

/-- `declared ?? resolve?.(parameter)`. -/
def resolveMissing (declared : Option JsNumber) (resolve : Option (ParameterData α → JsNumber))
    (parameter : ParameterData α) : Option JsNumber :=
  match declared with
  | some n => some n
  | none => resolve.map fun f => f parameter

/-- The parameter as `RpcRequestPayload.generateParameterData` tells it to the type. -/
def rpcParameter (collation : Option Collation) (parameter : ParameterData α) :
    ParameterData α where
  length := if type.hasLength then resolveFalsy parameter.length type.resolveLength parameter
    else none
  precision := resolveFalsy parameter.precision type.resolvePrecision parameter
  scale := resolveFalsy parameter.scale type.resolveScale parameter
  collation := collation
  value := parameter.value

/-- The column as `BulkLoad.addColumn` resolves it, with the value of a row. -/
def bulkColumn (column : ParameterData α) : ParameterData α :=
  let column := { column with value := none }
  let column := { column with
    length := if type.hasLength then resolveMissing column.length type.resolveLength column
      else column.length }
  let column := { column with
    precision := resolveMissing column.precision type.resolvePrecision column }
  { column with scale := resolveMissing column.scale type.resolveScale column }

/-- The cell of a table-valued parameter gets what the column declares. -/
def tvpParameter (column : ParameterData α) : ParameterData α := { column with collation := none }

/-- The column with the value of a row, as `RowTransform._transform` tells it to the type. -/
def bulkParameter (column : ParameterData α) : ParameterData α :=
  { type.bulkColumn column with collation := none, value := column.value }

/-- The type description of a parameter and the bytes of its value, as every sender writes
them. -/
def build (parameter : ParameterData α) : Except JsError (Bytes × Bytes) := do
  let typeInfo ← type.generateTypeInfo parameter
  let length ← type.generateParameterLength parameter
  let data ← type.generateParameterData parameter
  pure (typeInfo, length ++ data.flatten)

theorem build_ok {parameter : ParameterData α} {typeInfo bytes : Bytes}
    (h : type.build parameter = .ok (typeInfo, bytes)) :
    ∃ length data, type.generateTypeInfo parameter = .ok typeInfo ∧
      type.generateParameterLength parameter = .ok length ∧
      type.generateParameterData parameter = .ok data ∧ bytes = length ++ data.flatten := by
  obtain ⟨typeInfo', hinfo, h⟩ := Except.bind_ok h
  obtain ⟨length, hlength, h⟩ := Except.bind_ok h
  obtain ⟨data, hdata, h⟩ := Except.bind_ok h
  cases h
  exact ⟨length, data, hinfo, hlength, hdata, rfl⟩

end DataTypeMethods

end Tedious
