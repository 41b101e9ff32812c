import Tedious.DataTypes.Types
import Tedious.ValueParser

/-!
# Tedious.DataTypes.Amounts

What becomes of an amount that is sent, where the arithmetic of the language does not round:
`Money` and `SmallMoney` in ten thousandths, `Decimal` and `Numeric` in digits of their scale.

`Money` sends the high half of the floor and the low half of the truncation, which are halves
of two numbers when the amount is negative and not a whole number of ten thousandths
(`money_survives_iff`). A numeric of any precision sends at most 64 bits of digits
(`numeric_exact_iff`).
-/

namespace Tedious

open Chunked

/-! ### Exact arithmetic -/

/-- A runtime that does not round; what is not finite is left to the engine. -/
def Runtime.exact (js : Runtime) : Runtime :=
  { js with
    add := fun
      | .finite p, .finite q => .finite (p + q)
      | m, n => js.add m n
    multiply := fun
      | .finite p, .finite q => .finite (p * q)
      | m, n => js.multiply m n
    divide := fun
      | .finite p, .finite q => if q = 0 then js.divide (.finite p) (.finite q) else .finite (p / q)
      | m, n => js.divide m n
    pow := fun
      | .finite p, .finite q =>
        if q.den = 1 ∧ p ≠ 0 then .finite (p ^ q.num) else js.pow (.finite p) (.finite q)
      | m, n => js.pow m n }

namespace Runtime

variable (js : Runtime)

@[simp] theorem exact_add (p q : Rat) :
    js.exact.add (.finite p) (.finite q) = .finite (p + q) := rfl

@[simp] theorem exact_multiply (p q : Rat) :
    js.exact.multiply (.finite p) (.finite q) = .finite (p * q) := rfl

/-- Powers of ten with whole exponents. -/
@[simp] theorem exact_pow_ten (n : Int) :
    js.exact.pow (.ofNat 10) (.ofInt n) = .finite (10 ^ n) := by
  have hwhole : ((n : Rat).den = 1) ∧ ((10 : Nat) : Rat) ≠ 0 := ⟨Rat.den_intCast n, by norm_num⟩
  simp only [exact, JsNumber.ofNat, JsNumber.ofInt]
  rw [if_pos hwhole, Rat.num_intCast, Nat.cast_ofNat]

end Runtime

theorem ofInt_natCast (n : Nat) : JsNumber.ofInt n = .ofNat n := by
  rw [JsNumber.ofInt, JsNumber.ofNat, Int.cast_natCast]

/-! ### Cutting off a fraction -/

theorem truncate_neg (q : Rat) : truncate (-q) = -truncate q := by
  rw [truncate, truncate, Rat.neg_num, Rat.neg_den, Int.neg_tdiv]

theorem truncate_of_nonpos {q : Rat} (h : q ≤ 0) : truncate q = ⌈q⌉ := by
  have hneg := truncate_of_nonneg (neg_nonneg.2 h)
  rw [truncate_neg] at hneg
  rw [← neg_inj, hneg, Int.floor_neg]

theorem truncate_le_of_le {q : Rat} {n : Int} (h : q ≤ n) : truncate q ≤ n := by
  rcases le_total 0 q with hq | hq
  · rw [truncate_of_nonneg hq]
    exact Int.floor_le_iff.2 (lt_of_le_of_lt h (lt_add_one _))
  · rw [truncate_of_nonpos hq]
    exact Int.ceil_le.2 h

theorem le_truncate_of_le {q : Rat} {n : Int} (h : n ≤ q) : n ≤ truncate q := by
  have hneg := truncate_le_of_le (q := -q) (n := -n) (by push_cast; linarith)
  rw [truncate_neg] at hneg
  omega

/-- A truncation is less than 1 away. -/
theorem abs_truncate_sub_lt (q : Rat) : |(truncate q : Rat) - q| < 1 := by
  rcases le_total 0 q with hq | hq
  · rw [truncate_of_nonneg hq, abs_sub_comm, abs_of_nonneg (sub_nonneg.2 (Int.floor_le q))]
    linarith [Int.lt_floor_add_one q]
  · rw [truncate_of_nonpos hq, abs_of_nonneg (sub_nonneg.2 (Int.le_ceil q))]
    linarith [Int.ceil_lt_add_one q]

/-- Half of the numbers are negative. -/
theorem half_pow {k : Nat} (hk : 0 < k) : (256 ^ k / 2) * 2 = 256 ^ k := by
  obtain ⟨k, rfl⟩ := Nat.exists_eq_add_one_of_ne_zero hk.ne'
  rw [Nat.pow_succ]
  omega

/-- What `writeIntLE` wrote is the truncation, which fits. -/
theorem writeIntLE_finite_ok {k : Nat} {q : Rat} {bytes : Bytes} (hk : 0 < k)
    (h : writeIntLE k (.finite q) = .ok bytes) :
    bytes = leIntBytes k (truncate q) ∧ FitsInt k (truncate q) := by
  have hpow := half_pow hk
  have hpos : 0 < 256 ^ k := Nat.pow_pos (by decide)
  rw [writeIntLE] at h
  split at h
  · next hrange =>
    cases h
    have hlow : -((256 ^ k / 2 : Nat) : Int) ≤ truncate q :=
      le_truncate_of_le (by push_cast; exact_mod_cast hrange.1)
    have hhigh : truncate q ≤ ((256 ^ k / 2 - 1 : Nat) : Int) :=
      truncate_le_of_le (by exact_mod_cast hrange.2)
    exact ⟨rfl, by omega, by omega⟩
  · cases h

theorem writeIntLE_of_fits {k : Nat} {n : Int} (hk : 0 < k) (h : FitsInt k n) :
    writeIntLE k (.ofInt n) = .ok (leIntBytes k n) := by
  have hpow := half_pow hk
  obtain ⟨hlow, hhigh⟩ := h
  have hrange : -((256 ^ k / 2 : Nat) : Int) ≤ n ∧ n ≤ ((256 ^ k / 2 - 1 : Nat) : Int) := by omega
  rw [JsNumber.ofInt, writeIntLE, if_pos (by exact_mod_cast hrange), truncate_intCast]

/-! ### Money -/

theorem truncate_div_sub_lt (v : Rat) : |(truncate (v * 10000) : Rat) / 10000 - v| < 1 / 10000 := by
  have h := abs_truncate_sub_lt (v * 10000)
  rw [abs_lt] at h ⊢
  constructor <;> linarith

/-- What is sent for an amount is read as an amount less than a ten thousandth away. -/
def SurvivesWire (type : DataTypeMethods JsNumber) (read : Reader Value) (v : Rat) : Prop :=
  ∀ (parameter : ParameterData JsNumber) (data : List Bytes), parameter.value = some (.finite v) →
    type.generateParameterData parameter = .ok data →
    ∃ amount : Rat, Reads read data.flatten (.number amount) ∧ |amount - v| < 1 / 10000

/-- The number of ten thousandths that the two words of an amount stand for: the high word is
the one of the floor, the low word the one of the truncation. -/
def moneyWords (v : Rat) : Int :=
  truncate (v * 10000) % 4294967296 + 4294967296 * (⌊v * 10000⌋ / 4294967296)

/-- The two words are not those of one number: the ten thousandths are negative and not whole,
and cut off they are a multiple of `2 ^ 32`. -/
def MixesWords (v : Rat) : Prop :=
  ⌊v * 10000⌋ ≠ truncate (v * 10000) ∧ truncate (v * 10000) % 4294967296 = 0

/-- A number is less than 1 below its floor's successor, and the truncation is one of the two. -/
theorem truncate_eq_or (q : Rat) : truncate q = ⌊q⌋ ∨ truncate q = ⌊q⌋ + 1 := by
  rcases le_total 0 q with hq | hq
  · exact .inl (truncate_of_nonneg hq)
  · rw [truncate_of_nonpos hq]
    have hle := Int.floor_le_ceil q
    have hge := Int.ceil_le_floor_add_one q
    omega

theorem moneyWords_eq {v : Rat} (h : ¬ MixesWords v) : moneyWords v = truncate (v * 10000) := by
  rw [MixesWords] at h
  rw [moneyWords]
  have htruncate := truncate_eq_or (v * 10000)
  omega

theorem moneyWords_mixed {v : Rat} (h : MixesWords v) :
    moneyWords v = truncate (v * 10000) - 4294967296 := by
  obtain ⟨hne, hmod⟩ := h
  rw [moneyWords]
  have htruncate := truncate_eq_or (v * 10000)
  omega

theorem MixesWords.floor_neg {v : Rat} (h : MixesWords v) : ⌊v * 10000⌋ < 0 := by
  by_contra hnonneg
  have hpos : 0 ≤ v * 10000 := Int.floor_nonneg.1 (not_lt.1 hnonneg)
  exact h.1 (truncate_of_nonneg hpos).symm

theorem toUint32_lt (n : JsNumber) : n.toUint32 < 4294967296 := by
  cases n with
  | finite q =>
    have hlt := Int.emod_lt_of_pos (truncate q) (show (0 : Int) < 4294967296 by decide)
    rw [JsNumber.toUint32]
    omega
  | _ => decide

theorem toInt32_fits (n : JsNumber) : FitsInt 4 n.toInt32 := by
  have hlt := toUint32_lt n
  rw [JsNumber.toInt32, FitsInt]
  norm_num
  split <;> omega

/-- With or without the sign, the 32 bits are the same. -/
theorem leIntBytes_toInt32 (n : JsNumber) : leIntBytes 4 n.toInt32 = leBytes 4 n.toUint32 := by
  have hmod : n.toInt32 % 256 ^ 4 = n.toUint32 := by
    have hlt := toUint32_lt n
    rw [JsNumber.toInt32]
    norm_num
    split <;> omega
  rw [leIntBytes, hmod, Int.toNat_natCast]

/-- A number cut to 32 bits, read without its sign. -/
theorem readUInt32LE_toInt32 (n : JsNumber) :
    Reads readUInt32LE (leIntBytes 4 n.toInt32) n.toUint32 := by
  rw [leIntBytes_toInt32]
  exact readUInt32LE_reads (toUint32_lt n)

theorem readMoney_reads {high : Int} (h : FitsInt 4 high) (n : JsNumber) :
    Reads readMoney (leIntBytes 4 high ++ leIntBytes 4 n.toInt32)
      (.number ((n.toUint32 + 0x100000000 * high) / moneyDivisor)) :=
  (Reader.number_int h).bind ((readUInt32LE_toInt32 n).map fun low : Nat =>
    Value.number ((low + 0x100000000 * high) / moneyDivisor))

section Money

variable (js : Runtime)

theorem Money_data_eq {parameter : ParameterData JsNumber} {v : Rat}
    (hvalue : parameter.value = some (.finite v)) :
    (TYPES.Money js.exact).generateParameterData parameter = (do
      let high ← writeIntLE 4 (.ofInt (⌊v * 10000⌋ / 4294967296))
      let low ← writeIntLE 4 (.ofInt (JsNumber.finite (v * 10000)).toInt32)
      pure [high ++ low]) := by
  have hshift : (js.exact.multiply (js.exact.multiply (.finite v) (.ofNat 10000))
      SHIFT_RIGHT_32).floor = .ofInt (⌊v * 10000⌋ / 4294967296) := by
    refine congrArg JsNumber.ofInt ?_
    rw [mul_one_div, Nat.cast_ofNat]
    exact Int.floor_div_natCast (v * 10000) 4294967296
  have hdata : (TYPES.Money js.exact).generateParameterData parameter =
      fixedData _ parameter.value := rfl
  rw [hdata, hvalue]
  simp only [fixedData, bind_assoc, pure_bind]
  rw [hshift]
  rfl

theorem Money_data {parameter : ParameterData JsNumber} {data : List Bytes} {v : Rat}
    (hvalue : parameter.value = some (.finite v))
    (h : (TYPES.Money js.exact).generateParameterData parameter = .ok data) :
    FitsInt 4 (⌊v * 10000⌋ / 4294967296) ∧
      data = [leIntBytes 4 (⌊v * 10000⌋ / 4294967296) ++
        leIntBytes 4 (JsNumber.finite (v * 10000)).toInt32] := by
  rw [Money_data_eq js hvalue] at h
  obtain ⟨high, hhigh, h⟩ := Except.bind_ok h
  obtain ⟨low, hlow, h⟩ := Except.bind_ok h
  cases h
  obtain ⟨rfl, hfits⟩ := writeIntLE_finite_ok (by decide) hhigh
  obtain ⟨rfl, -⟩ := writeIntLE_finite_ok (by decide) hlow
  rw [truncate_intCast] at hfits
  rw [truncate_intCast, truncate_intCast]
  exact ⟨hfits, rfl⟩

theorem Money_reads {parameter : ParameterData JsNumber} {data : List Bytes} {v : Rat}
    (hvalue : parameter.value = some (.finite v))
    (h : (TYPES.Money js.exact).generateParameterData parameter = .ok data) :
    Reads readMoney data.flatten (.number (moneyWords v / 10000)) := by
  obtain ⟨hfits, rfl⟩ := Money_data js hvalue h
  have hlow : 0 ≤ truncate (v * 10000) % 4294967296 := Int.emod_nonneg _ (by decide)
  have hwords : (((JsNumber.finite (v * 10000)).toUint32 : Rat) +
      0x100000000 * (⌊v * 10000⌋ / 4294967296 : Int)) = moneyWords v := by
    rw [moneyWords, JsNumber.toUint32]
    push_cast
    rw [← Int.cast_natCast, Int.toNat_of_nonneg hlow]
  have hread := readMoney_reads hfits (.finite (v * 10000))
  rwa [hwords] at hread

/-- All that can go wrong is that the high word does not fit. -/
theorem Money_generates (parameter : ParameterData JsNumber) {v : Rat}
    (hvalue : parameter.value = some (.finite v)) (h : FitsInt 4 (⌊v * 10000⌋ / 4294967296)) :
    ∃ data, (TYPES.Money js.exact).generateParameterData parameter = .ok data := by
  rw [Money_data_eq js hvalue, writeIntLE_of_fits (by decide) h,
    writeIntLE_of_fits (by decide) (toInt32_fits _)]
  exact ⟨_, rfl⟩

theorem Money_survives {v : Rat} (h : ¬ MixesWords v) :
    SurvivesWire (TYPES.Money js.exact) readMoney v := by
  intro parameter data hvalue hdata
  have hread := Money_reads js hvalue hdata
  rw [moneyWords_eq h] at hread
  exact ⟨_, hread, truncate_div_sub_lt v⟩

/-- An amount between two words comes back 429496.7296 lower. -/
theorem Money_mixed {v : Rat} (h : MixesWords v)
    (hsurvives : SurvivesWire (TYPES.Money js.exact) readMoney v) : v * 10000 < -2 ^ 63 := by
  by_contra hlow
  have hfits : FitsInt 4 (⌊v * 10000⌋ / 4294967296) := by
    have hfloor : -2 ^ 63 ≤ ⌊v * 10000⌋ := Int.le_floor.2 (by push_cast; linarith)
    have hneg := h.floor_neg
    rw [FitsInt]
    norm_num at hfloor ⊢
    omega
  let parameter : ParameterData JsNumber :=
    { length := none, precision := none, scale := none, collation := none,
      value := some (.finite v) }
  obtain ⟨data, hdata⟩ := Money_generates js parameter rfl hfits
  obtain ⟨amount, hread, hclose⟩ := hsurvives parameter data rfl hdata
  have hread' := Money_reads js rfl hdata
  rw [moneyWords_mixed h] at hread'
  have hamount : amount = _ := Value.number.inj (hread.returns.unique hread'.returns)
  have htruncate := truncate_div_sub_lt v
  rw [hamount] at hclose
  push_cast at hclose
  rw [abs_lt] at hclose htruncate
  linarith

theorem SmallMoney_survives (v : Rat) :
    SurvivesWire (TYPES.SmallMoney js.exact) readSmallMoney v := by
  intro parameter data hvalue h
  have hdata : fixedData _ parameter.value = .ok data := h
  rw [hvalue] at hdata
  obtain ⟨bytes, hbytes, hdata⟩ := Except.bind_ok hdata
  cases hdata
  obtain ⟨rfl, hfits⟩ := writeIntLE_finite_ok (by decide) hbytes
  have hread : Reads readSmallMoney _ _ := (Reader.number_int hfits).map fun n : Int =>
    Value.number (n / moneyDivisor)
  exact ⟨_, hread, truncate_div_sub_lt v⟩

/-- **Money on the wire.** A `SmallMoney` always comes back as it was sent, a `Money` exactly when
its two words are those of one number (or it is so low that nothing is sent). -/
theorem money_survives_iff (v : Rat) :
    SurvivesWire (TYPES.SmallMoney js.exact) readSmallMoney v ∧
      (SurvivesWire (TYPES.Money js.exact) readMoney v ↔
        (MixesWords v → v * 10000 < -2 ^ 63)) := by
  refine ⟨SmallMoney_survives js v, fun h hmixes => Money_mixed js hmixes h, fun h => ?_⟩
  by_cases hmixes : MixesWords v
  · intro parameter data hvalue hdata
    have hfloor : ⌊v * 10000⌋ < -2 ^ 63 := Int.floor_lt.2 (by push_cast; exact h hmixes)
    obtain ⟨⟨hfits, -⟩, -⟩ := Money_data js hvalue hdata
    norm_num at hfloor hfits
    omega
  · exact Money_survives js hmixes

end Money

/-- An engine that takes numbers for what they are. -/
def numberRuntime : Runtime where
  platform := asciiPlatform
  toNumber _ := .ok .nan
  parseFloat
    | .number n => .ok n
    | _ => .ok .nan
  parseDate _ := .ok none
  add _ _ := .nan
  multiply _ _ := .nan
  divide _ _ := .nan
  pow _ _ := .nan
  float32 _ := 0
  float64 _ := 0
  iconvEncode _ _ := []

/-- A third of a ten thousandth below zero comes back as -429496.7296. -/
theorem not_money_survives :
    ¬ ∀ (js : Runtime) (message : String) (value : JsValue) (v : Rat),
      acceptMoney js.exact (-moneyBound) moneyBound message value = .ok (.finite v) →
      SurvivesWire (TYPES.Money js.exact) readMoney v := by
  intro h
  have haccept : acceptMoney numberRuntime.exact (-moneyBound) moneyBound ""
      (.number (.finite (-1 / 32768))) = .ok (.finite (-1 / 32768)) := by
    show (if JsNumber.outside (-moneyBound) moneyBound (.finite (-1 / 32768)) = true then _
      else Except.ok _) = _
    rw [if_neg]
    simp only [JsNumber.outside, moneyBound]
    norm_num
  have hsurvives := h numberRuntime "" _ _ haccept
  have hmixes : MixesWords (-1 / 32768) := by
    rw [MixesWords, truncate_of_nonpos (by norm_num)]
    norm_num
  have hlow := Money_mixed numberRuntime hmixes hsurvives
  norm_num at hlow

/-! ### Numerics -/

/-- The digits of an amount at a scale, rounded. -/
def digitsAt (scale : Nat) (v : Rat) : Nat := ⌊|v| * 10 ^ scale + 1 / 2⌋₊

/-- A numeric amount is not refused while it has no more digits than the precision, and where it
is sent, the sizes that are announced are its own and it is read as its digits. -/
def EncodedExactly (type : DataTypeMethods JsNumber) (precision scale : Nat) (v : Rat) : Prop :=
  ∀ parameter : ParameterData JsNumber, parameter.precision = some (.ofNat precision) →
    parameter.scale = some (.ofNat scale) → parameter.value = some (.finite v) →
    (digitsAt scale v < 10 ^ precision → ∃ data, type.generateParameterData parameter = .ok data) ∧
    ∀ data, type.generateParameterData parameter = .ok data →
      (∃ typeInfo, type.generateTypeInfo parameter = .ok typeInfo ∧
        typeInfo[1]? = some (UInt8.ofNat data.flatten.length)) ∧
      type.generateParameterLength parameter = .ok (leBytes 1 data.flatten.length) ∧
      Reads (readNumeric data.flatten.length (some scale)) data.flatten
        (.number ((digitsAt scale v * if v < 0 then -1 else 1) / 10 ^ scale))

section Numeric

variable (js : Runtime)

theorem digits_eq (scale : Nat) (v : Rat) :
    (js.exact.multiply (.finite v) (js.exact.pow (.ofNat 10)
      (.ofOption (some (.ofNat scale))))).abs.round = .ofNat (digitsAt scale v) := by
  have hpow : js.exact.pow (.ofNat 10) (.ofOption (some (.ofNat scale))) =
      .finite (10 ^ (scale : Int)) := by
    rw [← Runtime.exact_pow_ten]
    rfl
  have hten : |(10 : Rat) ^ scale| = 10 ^ scale := abs_of_nonneg (by positivity)
  rw [hpow, Runtime.exact_multiply, digitsAt, JsNumber.abs, JsNumber.round, abs_mul, zpow_natCast,
    hten, ← ofInt_natCast, Int.natCast_floor_eq_floor (by positivity)]

/-- How many bits of digits are sent, by the precision. -/
def digitsBound (precision : Nat) : Nat := if precision ≤ 9 then 256 ^ 4 else 256 ^ 8

/-- Zeros fill up what the digits do not need. -/
theorem leBytes_append_zeros {k n : Nat} (h : n < 256 ^ k) (m : Nat) :
    leBytes k n ++ leBytes m 0 = leBytes (k + m) n := by
  rw [leBytes_add, Nat.div_eq_of_lt h]

theorem atMost_ofNat (n bound : Nat) : (JsNumber.ofNat n).atMost bound = decide (n ≤ bound) := by
  rw [JsNumber.ofNat, JsNumber.atMost, decide_eq_decide, Nat.cast_le]

theorem precisionSize_ofNat (precision : Nat) :
    precisionSize (some (.ofNat precision)) =
      if precision ≤ 9 then 5 else if precision ≤ 19 then 9 else if precision ≤ 28 then 13
      else 17 := by
  rw [precisionSize, show JsNumber.ofOption (some (.ofNat precision)) = .ofNat precision from rfl,
    atMost_ofNat, atMost_ofNat, atMost_ofNat]
  simp only [decide_eq_true_eq]

/-- The digits of a size, read back. -/
theorem readNumericDigits_reads {precision digits : Nat} (h : digits < digitsBound precision) :
    Reads (readNumericDigits (precisionSize (some (.ofNat precision)) : Nat))
      (leBytes (precisionSize (some (.ofNat precision)) - 1) digits) digits := by
  rw [precisionSize_ofNat]
  rw [digitsBound] at h
  split at h
  · next h9 =>
    rw [if_pos h9]
    exact readUInt32LE_reads h
  · next h9 =>
    rw [if_neg h9]
    split
    · exact Reader.number_le h
    · split
      · exact Reader.number_le (h.trans (by decide))
      · exact Reader.number_le (h.trans (by decide))

theorem writeUInt64LE_ofNat_eq (n : Nat) : writeUInt64LE (.ofNat n) = writeBigUInt64LE n := by
  have hbig : JsNumber.toBigInt (.ofNat n) = .ok n := by
    rw [JsNumber.ofNat, JsNumber.toBigInt, if_pos (Rat.den_natCast n), Rat.num_natCast]
  rw [writeUInt64LE, hbig]
  exact pure_bind (n : Int) writeBigUInt64LE

theorem writeUInt64LE_ofNat (n : Nat) :
    writeUInt64LE (.ofNat n) = if n < 256 ^ 8 then .ok (leBytes 8 n) else .error .rangeError := by
  rw [writeUInt64LE_ofNat_eq, writeBigUInt64LE, Int.toNat_natCast]
  by_cases h : n < 256 ^ 8
  · rw [if_pos h, if_pos ⟨Int.natCast_nonneg n, by exact_mod_cast h⟩]
  · rw [if_neg h, if_neg fun hrange => h (by exact_mod_cast hrange.2)]

/-- A sign and the digits, read back. -/
theorem readNumeric_reads {precision digits : Nat} (h : digits < digitsBound precision)
    (scale : Nat) (negative : Prop) [Decidable negative] :
    Reads (readNumeric (precisionSize (some (.ofNat precision)) : Nat) (some scale))
      (leBytes 1 (if negative then 0 else 1) ++
        leBytes (precisionSize (some (.ofNat precision)) - 1) digits)
      (.number ((digits * if negative then -1 else 1) / 10 ^ scale)) := by
  have hsign : Reads readUInt8 (leBytes 1 (if negative then 0 else 1))
      (if negative then 0 else 1) := readUInt8_reads (by split <;> decide)
  have hread : Reads (readNumeric (precisionSize (some (.ofNat precision)) : Nat) (some scale))
      _ _ :=
    hsign.bind ((readNumericDigits_reads h).map fun _ => _)
  by_cases hnegative : negative
  · simpa [hnegative] using hread
  · simpa [hnegative] using hread

/-- Either all digits are sent, in the size of the precision, or nothing is. -/
theorem writeNumeric_eq (precision scale : Nat) (v : Rat) :
    writeNumeric js.exact (some (.ofNat precision)) (some (.ofNat scale)) (.finite v) =
      if digitsAt scale v < digitsBound precision then
        .ok (leBytes 1 (if v < 0 then 0 else 1) ++
          leBytes (precisionSize (some (.ofNat precision)) - 1) (digitsAt scale v))
      else .error .rangeError := by
  have hsign : (JsNumber.finite v).isNegative = decide (v < 0) := rfl
  rw [writeNumeric, digits_eq, hsign, precisionSize_ofNat,
    show JsNumber.ofOption (some (.ofNat precision)) = .ofNat precision from rfl]
  simp only [atMost_ofNat, decide_eq_true_eq]
  generalize digitsAt scale v = digits
  rw [digitsBound, writeUInt64LE_ofNat, writeUIntLE_ofNat_eq]
  by_cases h9 : precision ≤ 9
  · simp only [if_pos h9]
    split <;> rfl
  · simp only [if_neg h9]
    by_cases hlt : digits < 256 ^ 8
    · have h4 : leBytes 8 digits ++ leBytes 4 0 = leBytes 12 digits := leBytes_append_zeros hlt 4
      have h44 : leBytes 12 digits ++ leBytes 4 0 = leBytes 16 digits :=
        leBytes_append_zeros (k := 12) (hlt.trans (by decide)) 4
      rw [if_pos hlt, if_pos hlt]
      simp only [pure, Except.pure, bind, Except.bind, List.append_assoc]
      split
      · rfl
      · split
        · rw [h4]
        · rw [← List.append_assoc (leBytes 8 digits), h4, h44]
    · rw [if_neg hlt, if_neg hlt]
      rfl

/-- One more band than the digits have bits for: a precision of 20 or more. -/
theorem refused_iff (precision digits : Nat) :
    (digits < 10 ^ precision → digits < digitsBound precision) ↔
      (digits < 10 ^ precision → digits < 2 ^ 64) := by
  have hsame : (256 ^ 8 : Nat) = 2 ^ 64 := by norm_num
  refine imp_congr_right fun hdigits => ?_
  rw [digitsBound]
  split
  · next h9 =>
    have hpow : 10 ^ precision ≤ 10 ^ 9 := Nat.pow_le_pow_right (by decide) h9
    refine iff_of_true (hdigits.trans_le (hpow.trans (by norm_num))) ?_
    exact hdigits.trans_le (hpow.trans (by norm_num))
  · rw [hsame]

theorem numericType_exact_iff (id typeNumber precision scale : Nat) (v : Rat) :
    EncodedExactly (numericType js.exact id typeNumber) precision scale v ↔
      (digitsAt scale v < 10 ^ precision → digitsAt scale v < 2 ^ 64) := by
  rw [← refused_iff]
  constructor
  · intro h hdigits
    obtain ⟨data, hdata⟩ := (h
      { length := none, precision := some (.ofNat precision), scale := some (.ofNat scale),
        collation := none, value := some (.finite v) } rfl rfl rfl).1 hdigits
    obtain ⟨bytes, hbytes, -⟩ := Except.bind_ok hdata
    rw [writeNumeric_eq] at hbytes
    split at hbytes
    · assumption
    · cases hbytes
  · intro h parameter hprecision hscale hvalue
    have hgenerate : (numericType js.exact id typeNumber).generateParameterData parameter =
        fixedData (writeNumeric js.exact parameter.precision parameter.scale) parameter.value := rfl
    have hlength : (numericType js.exact id typeNumber).generateParameterLength parameter =
        .ok (fixedLength (precisionSize parameter.precision) parameter.value) := rfl
    have hsize : 0 < precisionSize (some (.ofNat precision)) ∧
        precisionSize (some (.ofNat precision)) < 256 := by
      rw [precisionSize_ofNat]
      split <;> [decide; split <;> [decide; split <;> decide]]
    rw [hgenerate, hlength, hprecision, hscale, hvalue, fixedData, writeNumeric_eq]
    by_cases hdigits : digitsAt scale v < digitsBound precision
    · rw [if_pos hdigits]
      refine ⟨fun _ => ⟨_, rfl⟩, fun data hdata => ?_⟩
      cases hdata
      have hcount : (leBytes 1 (if v < 0 then 0 else 1) ++
          leBytes (precisionSize (some (.ofNat precision)) - 1) (digitsAt scale v)).length =
          precisionSize (some (.ofNat precision)) := by
        rw [List.length_append, length_leBytes, length_leBytes]
        omega
      rw [List.flatten_singleton, hcount]
      refine ⟨⟨_, rfl, ?_⟩, rfl, ?_⟩
      · rw [hprecision]
        simp only [leBytes, List.singleton_append, List.getElem?_cons_succ, List.getElem?_cons_zero,
          Nat.mod_eq_of_lt hsize.2]
      · exact readNumeric_reads hdigits scale (v < 0)
    · rw [if_neg hdigits]
      refine ⟨fun hsmall => absurd (h hsmall) hdigits, fun data hdata => ?_⟩
      cases hdata

/-- **Numerics on the wire.** An amount is refused although the precision has room for it
exactly when its digits take more than 64 bits; whatever is sent is exact. -/
theorem numeric_exact_iff (precision scale : Nat) (v : Rat) :
    (EncodedExactly (TYPES.Decimal js.exact) precision scale v ↔
      (digitsAt scale v < 10 ^ precision → digitsAt scale v < 2 ^ 64)) ∧
    (EncodedExactly (TYPES.Numeric js.exact) precision scale v ↔
      (digitsAt scale v < 10 ^ precision → digitsAt scale v < 2 ^ 64)) :=
  ⟨numericType_exact_iff js _ _ precision scale v, numericType_exact_iff js _ _ precision scale v⟩

end Numeric

/-- `2 ^ 64` has 20 digits, and is refused at a precision of 20. -/
theorem not_numeric_exact :
    ¬ ∀ (js : Runtime) (precision scale : Nat) (v : Rat), 1 ≤ precision → precision ≤ 38 →
      scale ≤ precision → EncodedExactly (TYPES.Decimal js.exact) precision scale v ∧
        EncodedExactly (TYPES.Numeric js.exact) precision scale v := by
  intro h
  have hexact := (h numberRuntime 20 0 18446744073709551616 (by decide) (by decide) (by decide)).1
  have hdigits : digitsAt 0 18446744073709551616 = 18446744073709551616 := by
    rw [digitsAt, Nat.floor_eq_iff (by positivity)]
    norm_num
  have hsmall := (numericType_exact_iff numberRuntime _ _ _ _ _).1 hexact
  rw [hdigits] at hsmall
  exact absurd (hsmall (by norm_num)) (by norm_num)

end Tedious
