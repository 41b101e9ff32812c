import Mathlib.Data.Rat.Defs
import Mathlib.Data.Nat.Log
import Tedious.Lib.Scanner

/-!
# Tedious.Js

The part of JavaScript and Node that the decoders use: strings as sequences of
UTF-16 code units, errors, little-endian and big-endian integers, the `Buffer`
methods that decode text, `Date` values, and `Number(bigint)`.

Arithmetic on `Number` is exact here (rationals); the only rounding that is modelled
is the one of integers, in `Number(bigint)`, which the length check of PLP streams
depends on, and in `parseInt`.
What the platform decides, the character tables of `iconv-lite` and the local time
zone, is a parameter (`Platform`).
-/

namespace Tedious

open Chunked

/-- A string: its UTF-16 code units. -/
abbrev JsString := List UInt16

/-- The string of a literal. -/
def JsString.ofString (s : String) : JsString := s.toList.map fun c => UInt16.ofNat c.toNat

/-- What a decoder may throw. The messages of `error` are the repository's own; the
other two are thrown by the engine. -/
inductive JsError
  | error (message : String)
  | rangeError
  | typeError
  deriving DecidableEq, Repr

/-- The platform: `iconv.decode` and the two conversions between a UTC time value and
a local one. -/
structure Platform where
  iconvDecode : Bytes → String → JsString
  localTime : Int → Int
  utc : Int → Int

/-- A platform that decodes ASCII and keeps local time in UTC. -/
def asciiPlatform : Platform where
  iconvDecode bytes _ := bytes.map fun b => UInt16.ofNat b.toNat
  localTime t := t
  utc t := t

/-- A `number` of a configuration. -/
inductive JsNumber
  | finite (q : Rat)
  | infinity
  | negInfinity
  | nan
  deriving DecidableEq, Repr

/-- `n > 0`. -/
def JsNumber.isPositive : JsNumber → Bool
  | finite q => 0 < q
  | infinity => true
  | negInfinity | nan => false

/-- `n` is at most a number. -/
def JsNumber.bounds (n : Nat) : JsNumber → Prop
  | finite q => (n : Rat) ≤ q
  | infinity => True
  | negInfinity | nan => False

instance (n : Nat) (m : JsNumber) : Decidable (m.bounds n) := by
  cases m <;> unfold JsNumber.bounds <;> infer_instance

/-- Whether `if (n)` is taken. -/
def JsNumber.isTruthy : JsNumber → Bool
  | finite q => q ≠ 0
  | infinity | negInfinity => true
  | nan => false

/-! ### Integers -/

/-- The unsigned integer of a little-endian byte string. -/
def leNat (bytes : Bytes) : Nat := bytes.foldr (fun b n => b.toNat + 256 * n) 0

/-- The unsigned integer of a big-endian byte string. -/
def beNat (bytes : Bytes) : Nat := bytes.foldl (fun n b => 256 * n + b.toNat) 0

/-- The two's complement integer of a little-endian byte string. -/
def leInt (bytes : Bytes) : Int :=
  let n := leNat bytes
  if 2 * n < 256 ^ bytes.length then n else (n : Int) - 256 ^ bytes.length

/-- `Number(n)` for a `BigInt`: the nearest 53-bit number, ties to even. -/
def toNumber (n : Nat) : Nat :=
  if n < 2 ^ 53 then n
  else
    let unit := 2 ^ (Nat.log2 n - 52)
    let q := n / unit
    let r := n % unit
    let q := if 2 * r < unit ∨ (2 * r = unit ∧ q % 2 = 0) then q else q + 1
    q * unit

/-- Up to `2 ^ 53` nothing is rounded. -/
theorem toNumber_of_le {n : Nat} (h : n ≤ 2 ^ 53) : toNumber n = n := by
  rw [toNumber]
  split
  · rfl
  · next hge =>
    obtain rfl : n = 2 ^ 53 := by omega
    decide

/-- From `2 ^ 53` on, nothing is rounded below it. -/
theorem le_toNumber {n : Nat} (h : 2 ^ 53 ≤ n) : 2 ^ 53 ≤ toNumber n := by
  have hn : n ≠ 0 := by omega
  have hlog : 53 ≤ Nat.log2 n := (Nat.le_log2 hn).2 h
  have hself : 2 ^ Nat.log2 n ≤ n := Nat.log2_self_le hn
  have hunit : 2 ^ 52 * 2 ^ (Nat.log2 n - 52) = 2 ^ Nat.log2 n := by
    rw [← Nat.pow_add]
    congr 1
    omega
  have hquot : 2 ^ 52 ≤ n / 2 ^ (Nat.log2 n - 52) := by
    rw [Nat.le_div_iff_mul_le (Nat.pow_pos (by decide)), hunit]
    exact hself
  have hpow : 2 ^ 53 ≤ 2 ^ Nat.log2 n := Nat.pow_le_pow_right (by decide) hlog
  rw [toNumber, if_neg (by omega)]
  refine hpow.trans ?_
  rw [← hunit]
  refine Nat.mul_le_mul_right _ (hquot.trans ?_)
  split
  · exact le_rfl
  · exact Nat.le_succ _

/-! ### Text in buffers -/

/-- The code units of a little-endian byte string; a last odd byte is dropped. -/
def ucs2 : Bytes → JsString
  | lo :: hi :: rest => UInt16.ofNat (lo.toNat + 256 * hi.toNat) :: ucs2 rest
  | _ => []

/-- `buf.toString('ucs2', start, end)`: here negative bounds count as 0. -/
def toUcs2 (buf : Bytes) (start stop : Int) : JsString :=
  ucs2 ((buf.take stop.toNat).drop start.toNat)

/-- `buf.slice(start, end)` only looks at the bytes between its bounds. -/
theorem slice_windowed : Windowed Bytes.slice := by
  intro pre rest more i j hi hj
  have hclamp : ∀ (buf : Bytes) (n : Nat), n ≤ buf.length → clampIndex buf.length (n : Int) = n := by
    intro buf n hn
    rw [clampIndex, if_neg (by omega)]
    omega
  have hlen : pre.length + rest.length ≤ (pre ++ rest ++ more).length := by simp
  rw [Bytes.slice, Bytes.slice, ← Nat.cast_add, ← Nat.cast_add, hclamp _ _ (by omega),
    hclamp _ _ (by omega), hclamp _ _ hi, hclamp _ _ hj, List.append_assoc,
    List.take_length_add_append, List.drop_length_add_append,
    List.take_append_of_le_length hj]

/-- `buf.toString('ucs2', start, end)` only looks at the bytes between its bounds. -/
theorem toUcs2_windowed : Windowed toUcs2 := by
  intro pre rest more i j hi hj
  rw [toUcs2, toUcs2, ← Nat.cast_add, ← Nat.cast_add, Int.toNat_natCast, Int.toNat_natCast,
    Int.toNat_natCast, Int.toNat_natCast, List.append_assoc, List.take_length_add_append,
    List.drop_length_add_append, List.take_append_of_le_length hj]

/-- The code units of a code point. -/
def encodeUtf16 (c : Nat) : JsString :=
  if c < 0x10000 then [UInt16.ofNat c]
  else [UInt16.ofNat (0xD800 + (c - 0x10000) / 0x400), UInt16.ofNat (0xDC00 + (c - 0x10000) % 0x400)]

/-- How many continuation bytes follow a leading byte of UTF-8, and the bounds of the
first of them. -/
def utf8Lead (b : Nat) : Option (Nat × Nat × Nat) :=
  if 0xC2 ≤ b ∧ b ≤ 0xDF then some (1, 0x80, 0xBF)
  else if b = 0xE0 then some (2, 0xA0, 0xBF)
  else if b = 0xED then some (2, 0x80, 0x9F)
  else if 0xE1 ≤ b ∧ b ≤ 0xEF then some (2, 0x80, 0xBF)
  else if b = 0xF0 then some (3, 0x90, 0xBF)
  else if 0xF1 ≤ b ∧ b ≤ 0xF3 then some (3, 0x80, 0xBF)
  else if b = 0xF4 then some (3, 0x80, 0x8F)
  else none

/-- `buf.toString('utf8')` from a decoder state: the bits so far, the continuation
bytes still to come, and the bounds of the next one. A maximal ill-formed part is
replaced by U+FFFD. -/
def utf8From : Bytes → (bits needed lower upper : Nat) → JsString
  | [], _, needed, _, _ => if needed = 0 then [] else [0xFFFD]
  | b :: rest, bits, needed, lower, upper =>
    let b := b.toNat
    if 0 < needed ∧ lower ≤ b ∧ b ≤ upper then
      let bits := bits * 0x40 + b % 0x40
      (if needed = 1 then encodeUtf16 bits else []) ++ utf8From rest bits (needed - 1) 0x80 0xBF
    else
      (if needed = 0 then [] else [0xFFFD] : JsString) ++
        (if b < 0x80 then UInt16.ofNat b :: utf8From rest 0 0 0 0
        else match utf8Lead b with
          | some (n, lower, upper) => utf8From rest (b % 2 ^ (6 - n)) n lower upper
          | none => 0xFFFD :: utf8From rest 0 0 0 0)

/-- `buf.toString('utf8')`. -/
def utf8 (buf : Bytes) : JsString := utf8From buf 0 0 0 0

example : utf8 [0x4E, 0xC3, 0xA4, 0xE2, 0x82] = [0x4E, 0xE4, 0xFFFD] := by decide

/-! ### Numerals -/

/-- White space and line terminators. -/
def isStrWhiteSpace (c : UInt16) : Bool :=
  (9 ≤ c && c ≤ 13) || (0x2000 ≤ c && c ≤ 0x200A) ||
    c ∈ ([0x20, 0xA0, 0x1680, 0x2028, 0x2029, 0x202F, 0x205F, 0x3000, 0xFEFF] : List UInt16)

/-- The value of a digit, letters counting from 10. -/
def digitValue (c : UInt16) : Option Nat :=
  if 0x30 ≤ c && c ≤ 0x39 then some (c.toNat - 0x30)
  else if 0x41 ≤ c && c ≤ 0x5A then some (c.toNat - 0x41 + 10)
  else if 0x61 ≤ c && c ≤ 0x7A then some (c.toNat - 0x61 + 10)
  else none

/-- The digits a numeral begins with. -/
def leadingDigits (radix : Nat) : JsString → List Nat
  | [] => []
  | c :: s =>
    match digitValue c with
    | some d => if d < radix then d :: leadingDigits radix s else []
    | none => []

/-- The sign in front of a numeral. -/
def stripSign : JsString → Int × JsString
  | 0x2D :: s => (-1, s)
  | 0x2B :: s => (1, s)
  | s => (1, s)

/-- The radix that a prefix gives a numeral. -/
def stripRadix : JsString → Nat × JsString
  | 0x30 :: 0x78 :: s => (16, s)
  | 0x30 :: 0x58 :: s => (16, s)
  | s => (10, s)

/-- `parseInt(s)`, to the nearest number; `none` is `NaN`. -/
def parseInt (s : JsString) : Option Int :=
  let (sign, s) := stripSign (s.dropWhile isStrWhiteSpace)
  let (radix, s) := stripRadix s
  match leadingDigits radix s with
  | [] => none
  | digits => some (sign * toNumber (digits.foldl (fun n d => radix * n + d) 0))

example : parseInt (JsString.ofString " 4096x") = some 4096 := by decide

/-! ### Dates -/

/-- Milliseconds in a day. -/
def msPerDay : Int := 86400000

/-- The day number of January 1st of a year. -/
def dayFromYear (year : Int) : Int :=
  365 * (year - 1970) + (year - 1969) / 4 - (year - 1901) / 100 + (year - 1601) / 400

/-- A time value outside of the range of `Date` is invalid. -/
def timeClip (t : Int) : Option Int := if t.natAbs ≤ 8640000000000000 then some t else none

/-- `new Date(Date.UTC(year, 0, date, 0, 0, 0, ms))`, or the same in local time. -/
def newDate (p : Platform) (useUTC : Bool) (year date ms : Int) : Option Int :=
  let t := (dayFromYear year + date - 1) * msPerDay + ms
  timeClip (if useUTC then t else p.utc t)

/-! ### Decoded values -/

/-- The value of a column or a parameter. -/
inductive Value
  | null
  | number (n : Rat)
  | nan
  /-- The number of an IEEE single. -/
  | float32 (bits : Nat)
  /-- The number of an IEEE double. -/
  | float64 (bits : Nat)
  | string (s : JsString)
  | boolean (b : Bool)
  | buffer (b : Bytes)
  /-- A `Date` (`none` when invalid), with its `nanosecondsDelta` if it has one. -/
  | date (time : Option Int) (nanosecondsDelta : Option Rat)
  deriving DecidableEq, Repr

end Tedious
