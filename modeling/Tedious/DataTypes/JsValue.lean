import Tedious.DataTypes.Parameter

/-!
# Tedious.DataTypes.JsValue

What a user may hand over as a value, and what the language does with it: conversions to
numbers and dates, the arithmetic of `Number`, calendar years, and the writing methods of
`Buffer` and `WritableTrackingBuffer` that `DataTypes/Parameter` does not need.

How text is parsed as a number or a date, how the arithmetic rounds and how a `Number` is
laid out as an IEEE value is a parameter (`Runtime`): nothing that is proved depends on it.
-/

namespace Tedious

open Chunked

/-! ### Values -/

/-- A `Date`: its time value, `none` when it is invalid, and the `nanosecondDelta` that may
have been set on it. -/
structure JsDate where
  time : Option Int
  nanosecondDelta : Option JsNumber
  deriving DecidableEq, Repr

/-- A column of a table. -/
structure TvpColumn where
  type : DataType
  length : Option JsNumber
  precision : Option JsNumber
  scale : Option JsNumber
  deriving DecidableEq, Repr

/-- A value of the language, as far as a data type can tell it from others. -/
inductive JsValue
  | undefined
  | null
  | boolean (b : Bool)
  | number (n : JsNumber)
  | string (s : JsString)
  | buffer (bytes : Bytes)
  | date (d : JsDate)
  /-- An object with an array of columns and an array of rows. -/
  | table (schema name : Option JsString) (columns : List TvpColumn) (rows : List (List JsValue))
  /-- Any other value: an object, a function, a symbol or a `BigInt`. -/
  | other (truthy : Bool) (id : Nat)

/-- Whether `if (value)` is taken. -/
def JsValue.isTruthy : JsValue → Bool
  | undefined | null => false
  | boolean b => b
  | number n => n.isTruthy
  | string s => !s.isEmpty
  | buffer _ | date _ | table .. => true
  | other truthy _ => truthy

/-- The engine and the packages under it. -/
structure Runtime where
  platform : Platform
  /-- `Number(value)` of a value that is no number. -/
  toNumber : JsValue → Except JsError JsNumber
  /-- `parseFloat(value)`. -/
  parseFloat : JsValue → Except JsError JsNumber
  /-- The time value of `new Date(Date.parse(value))`. -/
  parseDate : JsValue → Except JsError (Option Int)
  add : JsNumber → JsNumber → JsNumber
  multiply : JsNumber → JsNumber → JsNumber
  divide : JsNumber → JsNumber → JsNumber
  /-- `Math.pow`. -/
  pow : JsNumber → JsNumber → JsNumber
  /-- The bits of the nearest IEEE single. -/
  float32 : JsNumber → Nat
  /-- The bits of the IEEE double. -/
  float64 : JsNumber → Nat
  /-- `iconv.encode`. -/
  iconvEncode : JsString → String → Bytes

/-! ### Numbers -/

namespace JsNumber

def ofInt (n : Int) : JsNumber := finite n

/-- `n < low || n > high`. -/
def outside (low high : Rat) : JsNumber → Bool
  | finite q => q < low || high < q
  | infinity | negInfinity => true
  | nan => false

/-- `n < 0`. -/
def isNegative : JsNumber → Bool
  | finite q => q < 0
  | negInfinity => true
  | infinity | nan => false

/-- `Math.abs(n)`. -/
def abs : JsNumber → JsNumber
  | finite q => finite |q|
  | infinity | negInfinity => infinity
  | nan => nan

/-- `Math.floor(n)`. -/
def floor : JsNumber → JsNumber
  | finite q => ofInt ⌊q⌋
  | n => n

/-- `Math.round(n)`. -/
def round : JsNumber → JsNumber
  | finite q => ofInt ⌊q + 1 / 2⌋
  | n => n

/-- `ToUint32(n)`. -/
def toUint32 : JsNumber → Nat
  | finite q => (truncate q % 4294967296).toNat
  | infinity | negInfinity | nan => 0

/-- `n | 0` and `n & -1`. -/
def toInt32 (n : JsNumber) : Int :=
  if n.toUint32 < 2147483648 then n.toUint32 else (n.toUint32 : Int) - 4294967296

/-- A number in `Buffer.from([n])`. -/
def toByte (n : JsNumber) : Bytes := leBytes 1 n.toUint32

/-- `n * SHIFT_RIGHT_32`, where nothing is rounded. -/
def shiftRight32 : JsNumber → JsNumber
  | finite q => finite (q / 4294967296)
  | n => n

/-- `BigInt(n)`. -/
def toBigInt : JsNumber → Except JsError Int
  | finite q => if q.den = 1 then .ok q.num else .error .rangeError
  | infinity | negInfinity | nan => .error .rangeError

end JsNumber

/-! ### Writing numbers -/

/-- `writeBigInt64LE`. -/
def writeBigInt64LE (n : Int) : Except JsError Bytes :=
  if FitsInt 8 n then .ok (leIntBytes 8 n) else .error .rangeError

/-- `writeBigUInt64LE`. -/
def writeBigUInt64LE (n : Int) : Except JsError Bytes :=
  if 0 ≤ n ∧ n < 256 ^ 8 then .ok (leBytes 8 n.toNat) else .error .rangeError

/-- `WritableTrackingBuffer.writeInt64LE`. -/
def writeInt64LE (n : JsNumber) : Except JsError Bytes := do
  let n ← n.toBigInt
  writeBigInt64LE n

/-- `WritableTrackingBuffer.writeUInt64LE`. -/
def writeUInt64LE (n : JsNumber) : Except JsError Bytes := do
  let n ← n.toBigInt
  writeBigUInt64LE n

/-- `WritableTrackingBuffer.writeUInt24LE`: what does not fit is cut off. -/
def writeUInt24LE (n : JsNumber) : Bytes := leBytes 3 n.toUint32

/-- `1 / SHIFT_LEFT_32`. -/
def SHIFT_RIGHT_32 : JsNumber := .finite (1 / 4294967296)

/-- `WritableTrackingBuffer.writeUInt40LE`. It is given whole numbers, and their product with
`SHIFT_RIGHT_32` is exact. -/
def writeUInt40LE (n : JsNumber) : Except JsError Bytes := do
  let low ← writeIntLE 4 (.ofInt n.toInt32)
  let high ← writeUIntLE 1 n.shiftRight32.floor
  pure (low ++ high)

theorem length_writeIntLE {k : Nat} {n : JsNumber} {bytes : Bytes}
    (h : writeIntLE k n = .ok bytes) : bytes.length = k := by
  cases n with
  | finite q =>
    rw [writeIntLE] at h
    split at h
    · cases h
      exact length_leIntBytes ..
    · cases h
  | nan =>
    cases h
    exact length_leBytes ..
  | infinity => cases h
  | negInfinity => cases h

theorem writeIntLE_ofNat_ok {k n : Nat} {bytes : Bytes} (h : writeIntLE k (.ofNat n) = .ok bytes) :
    n ≤ 256 ^ k / 2 - 1 ∧ bytes = leBytes k n := by
  rw [JsNumber.ofNat, writeIntLE] at h
  split at h
  · next hrange =>
    cases h
    have hle : n ≤ 256 ^ k / 2 - 1 := Nat.cast_le.1 hrange.2
    have hpos : 0 < 256 ^ k := Nat.pow_pos (by decide)
    refine ⟨hle, ?_⟩
    rw [truncate_natCast, leIntBytes]
    congr 1
    have hmod : (n : Int) % 256 ^ k = n := Int.emod_eq_of_lt (by omega) (by
      have hlt : n < 256 ^ k := by omega
      exact_mod_cast hlt)
    rw [hmod, Int.toNat_natCast]
  · cases h

theorem writeUIntLE_ofInt_ok {k : Nat} {n : Int} {bytes : Bytes}
    (h : writeUIntLE k (.ofInt n) = .ok bytes) :
    ∃ m < 256 ^ k, n = (m : Nat) ∧ bytes = leBytes k m := by
  rw [JsNumber.ofInt, writeUIntLE] at h
  split at h
  · next hrange =>
    cases h
    have hlow : 0 ≤ n := by exact_mod_cast hrange.1
    have hhigh : n ≤ (256 ^ k - 1 : Nat) := by exact_mod_cast hrange.2
    have hpos : 0 < 256 ^ k := Nat.pow_pos (by decide)
    rw [truncate_intCast]
    exact ⟨n.toNat, by omega, by omega, rfl⟩
  · cases h

theorem length_writeUInt64LE {n : JsNumber} {bytes : Bytes} (h : writeUInt64LE n = .ok bytes) :
    bytes.length = 8 := by
  obtain ⟨m, -, h⟩ := Except.bind_ok h
  rw [writeBigUInt64LE] at h
  split at h
  · cases h
    exact length_leBytes ..
  · cases h

theorem length_writeUInt40LE {n : JsNumber} {bytes : Bytes} (h : writeUInt40LE n = .ok bytes) : bytes.length = 5 := by
  obtain ⟨low, hlow, h⟩ := Except.bind_ok h
  obtain ⟨high, hhigh, h⟩ := Except.bind_ok h
  cases h
  rw [List.length_append, length_writeIntLE hlow, length_writeUIntLE hhigh]

/-! ### Dates -/

/-- The day of a time value, counted from January 1st, 1970. -/
def dayOf (t : Int) : Int := t / msPerDay

/-- The milliseconds of a time value since midnight. -/
def timeWithinDay (t : Int) : Int := t % msPerDay

/-- The year, the month (January is 1) and the date of a day. -/
def civilFromDay (day : Int) : Int × Int × Int :=
  let z := day + 719468
  let era := z / 146097
  let doe := z % 146097
  let yoe := (doe - doe / 1460 + doe / 36524 - doe / 146096) / 365
  let doy := doe - (365 * yoe + yoe / 4 - yoe / 100)
  let mp := (5 * doy + 2) / 153
  let date := doy - (153 * mp + 2) / 5 + 1
  let month := if mp < 10 then mp + 3 else mp - 9
  let year := yoe + era * 400
  (if month ≤ 2 then year + 1 else year, month, date)

example : civilFromDay 22140 = (2030, 8, 14) := by decide

end Tedious
