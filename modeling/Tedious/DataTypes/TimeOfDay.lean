import Mathlib.Tactic.IntervalCases
import Tedious.DataTypes.Amounts

/-!
# Tedious.DataTypes.TimeOfDay

The times of day that `Time`, `DateTime2` and `DateTimeOffset` send, where the arithmetic of the
language does not round. The milliseconds and the nanoseconds are rounded to the scale after the
day has been taken from the date as it was, and nothing is carried: close enough to midnight the
time sent is 24:00 (`timeOfDay_iff`).
-/

namespace Tedious

open Chunked

/-! ### Dates and scales -/

/-- A valid `Date` whose `nanosecondDelta`, if it has one, is less than a millisecond. -/
structure SentDate where
  time : Int
  nanosecondDelta : Option Rat
  delta_mem : ∀ delta ∈ nanosecondDelta, 0 ≤ delta ∧ delta < 1 / 1000

namespace SentDate

variable (date : SentDate)

/-- The date as `validate` passes it on. -/
def value : ValidDate :=
  { time := date.time, nanosecondDelta := date.nanosecondDelta.map JsNumber.finite }

/-- The seconds that are not in the time value. -/
def delta : Rat := date.nanosecondDelta.getD 0

theorem delta_nonneg : 0 ≤ date.delta := by
  rw [delta]
  cases hdelta : date.nanosecondDelta with
  | none => exact le_rfl
  | some q => exact (date.delta_mem q hdelta).1

theorem delta_lt : date.delta < 1 / 1000 := by
  rw [delta]
  cases hdelta : date.nanosecondDelta with
  | none => norm_num
  | some q => exact (date.delta_mem q hdelta).2

end SentDate

/-- How many units of a scale a day has. -/
def unitsPerDay (scale : Nat) : Nat := 86400 * 10 ^ scale

/-- The bytes of a time of day. -/
def timeSize (scale : Nat) : Nat := if scale ≤ 2 then 3 else if scale ≤ 4 then 4 else 5

theorem scaleSize_ofNat {scale : Nat} (h : scale ≤ 7) :
    scaleSize (some (.ofNat scale)) = some (timeSize scale) := by
  interval_cases scale <;> decide

/-- A day has room to spare. -/
theorem unitsPerDay_lt {scale : Nat} (h : scale ≤ 7) :
    unitsPerDay scale < 256 ^ timeSize scale := by
  interval_cases scale <;> decide

/-! ### Rounding -/

/-- Milliseconds and the seconds beyond them, rounded to units of a scale. -/
def roundedUnits (scale : Nat) (milliseconds : Int) (delta : Rat) : Int :=
  ⌊((milliseconds : Rat) / 1000 + delta) * 10 ^ scale + 1 / 2⌋

/-- Less than half a unit is left of the day. -/
def RoundsToMidnight (scale : Nat) (milliseconds : Int) (delta : Rat) : Prop :=
  86400 * 10 ^ scale - 1 / 2 ≤ ((milliseconds : Rat) / 1000 + delta) * 10 ^ scale

theorem roundedUnits_lt_iff {scale : Nat} {milliseconds : Int} {delta : Rat} :
    roundedUnits scale milliseconds delta < unitsPerDay scale ↔
      ¬ RoundsToMidnight scale milliseconds delta := by
  rw [roundedUnits, RoundsToMidnight, Int.floor_lt, unitsPerDay, not_le]
  push_cast
  constructor <;> intro h <;> linarith

theorem roundedUnits_nonneg {scale : Nat} {milliseconds : Int} {delta : Rat}
    (hms : 0 ≤ milliseconds) (hdelta : 0 ≤ delta) : 0 ≤ roundedUnits scale milliseconds delta := by
  have hcast : (0 : Rat) ≤ milliseconds := by exact_mod_cast hms
  exact Int.floor_nonneg.2 (by positivity)

/-- At most midnight. -/
theorem roundedUnits_le {scale : Nat} {milliseconds : Int} {delta : Rat}
    (hms : milliseconds < msPerDay) (hdelta : delta < 1 / 1000) :
    roundedUnits scale milliseconds delta ≤ unitsPerDay scale := by
  have hms' : (milliseconds : Rat) ≤ 86399999 := by
    rw [msPerDay] at hms
    exact_mod_cast (by omega : milliseconds ≤ 86399999)
  have hpow : (0 : Rat) < 10 ^ scale := by positivity
  have hsum : ((milliseconds : Rat) / 1000 + delta) * 10 ^ scale < 86400 * 10 ^ scale :=
    mul_lt_mul_of_pos_right (by linarith) hpow
  refine Int.le_of_lt_add_one (Int.floor_lt.2 ?_)
  rw [unitsPerDay]
  push_cast
  linarith

/-- Whole days are not rounded. -/
theorem roundedUnits_add_days (scale : Nat) (days milliseconds : Int) (delta : Rat) :
    roundedUnits scale (days * msPerDay + milliseconds) delta =
      days * unitsPerDay scale + roundedUnits scale milliseconds delta := by
  have hsplit : (((days * msPerDay + milliseconds : Int) : Rat) / 1000 + delta) * 10 ^ scale +
      1 / 2 = (days * unitsPerDay scale : Int) +
        (((milliseconds : Rat) / 1000 + delta) * 10 ^ scale + 1 / 2) := by
    rw [msPerDay, unitsPerDay]
    push_cast
    ring
  rw [roundedUnits, hsplit, Int.floor_intCast_add, roundedUnits]

section Sending

variable (js : Runtime)

/-- Before the sum is rounded. -/
theorem scaledTime_eq (scale : Nat) (milliseconds : Int) (date : ValidDate) :
    date.scaledTime js.exact (some (.ofNat scale)) milliseconds =
      (js.exact.add (.finite (milliseconds * (10 ^ scale / 1000)))
        (js.exact.multiply (date.nanosecondDelta.getD (.ofNat 0)) (.finite (10 ^ scale)))).round := by
  have hadd : js.exact.add (.ofOption (some (.ofNat scale))) (.ofInt (-3)) =
      .ofInt ((scale : Int) - 3) := by
    refine congrArg JsNumber.finite ?_
    push_cast
    ring
  have hpow : js.exact.pow (.ofNat 10) (.ofOption (some (.ofNat scale))) =
      .finite (10 ^ scale) := by
    rw [← zpow_natCast, ← Runtime.exact_pow_ten, ofInt_natCast]
    rfl
  have hthousand : (10 : Rat) ^ ((scale : Int) - 3) = 10 ^ scale / 1000 := by
    rw [zpow_sub₀ (by norm_num), zpow_natCast]
    norm_num
  rw [ValidDate.scaledTime, hadd, hpow, Runtime.exact_pow_ten, JsNumber.ofInt,
    Runtime.exact_multiply, hthousand]

theorem scaledTime_finite (scale : Nat) (milliseconds : Int) {date : ValidDate} {delta : Rat}
    (hdelta : date.nanosecondDelta.getD (.ofNat 0) = .finite delta) :
    date.scaledTime js.exact (some (.ofNat scale)) milliseconds =
      .ofInt (roundedUnits scale milliseconds delta) := by
  rw [scaledTime_eq, hdelta, Runtime.exact_multiply, Runtime.exact_add, JsNumber.round,
    roundedUnits]
  congr 2
  ring

theorem scaledTime_exact (scale : Nat) (milliseconds : Int) (date : SentDate) :
    date.value.scaledTime js.exact (some (.ofNat scale)) milliseconds =
      .ofInt (roundedUnits scale milliseconds date.delta) := by
  have hdelta : date.value.nanosecondDelta.getD (.ofNat 0) = .finite date.delta := by
    rw [SentDate.value, SentDate.delta]
    cases date.nanosecondDelta <;> rfl
  exact scaledTime_finite js scale milliseconds hdelta

/-! ### Writing -/

theorem toUint32_ofNat (n : Nat) : (JsNumber.ofNat n).toUint32 = n % 4294967296 := by
  rw [JsNumber.ofNat, JsNumber.toUint32, truncate_natCast]
  omega

theorem writeUInt24LE_ofNat {n : Nat} (h : n < 256 ^ 3) :
    writeUInt24LE (.ofNat n) = leBytes 3 n := by
  rw [writeUInt24LE, toUint32_ofNat, Nat.mod_eq_of_lt (by omega)]

theorem writeUInt40LE_ofNat {n : Nat} (h : n < 256 ^ 5) :
    writeUInt40LE (.ofNat n) = .ok (leBytes 5 n) := by
  have hlow : leBytes 4 (n % 4294967296) = leBytes 4 n := leBytes_mod 4 n
  have hhigh : (JsNumber.ofNat n).shiftRight32.floor = .ofNat (n / 4294967296) := by
    rw [← ofInt_natCast]
    refine congrArg JsNumber.ofInt ?_
    exact (Int.floor_div_natCast (n : Rat) 4294967296).trans (by rw [Int.floor_natCast]; rfl)
  rw [writeUInt40LE, writeIntLE_of_fits (by decide) (toInt32_fits _), hhigh,
    writeUIntLE_ofNat (by omega), leIntBytes_toInt32, toUint32_ofNat, hlow]
  exact congrArg Except.ok (leBytes_add 4 1 n).symm

/-- A time of day up to midnight fits its bytes. -/
theorem writeTimestamp_ofNat {scale n : Nat} (hscale : scale ≤ 7) (h : n ≤ unitsPerDay scale) :
    ValidDate.writeTimestamp (some (.ofNat scale)) (.ofNat n) =
      .ok (leBytes (timeSize scale) n) := by
  have hlt := h.trans_lt (unitsPerDay_lt hscale)
  rw [ValidDate.writeTimestamp, scaleSize_ofNat hscale]
  rw [timeSize] at hlt ⊢
  split at hlt
  · next h2 =>
    rw [if_pos h2]
    exact congrArg Except.ok (writeUInt24LE_ofNat hlt)
  · next h2 =>
    rw [if_neg h2]
    split at hlt
    · next h4 =>
      rw [if_pos h4]
      exact writeUIntLE_ofNat hlt
    · next h4 =>
      rw [if_neg h4]
      exact writeUInt40LE_ofNat hlt

/-- A day, cut to three bytes. -/
theorem writeUInt24LE_ofInt (n : Int) :
    writeUInt24LE (.ofInt n) = leBytes 3 (n % 16777216).toNat := by
  have hcut : (n % 4294967296).toNat % 256 ^ 3 = (n % 16777216).toNat := by omega
  rw [writeUInt24LE, JsNumber.ofInt, JsNumber.toUint32, truncate_intCast, ← leBytes_mod, hcut]

end Sending

/-! ### Times of day -/

/-- The day of a time value, from January 1st, 1. -/
def dayNumber (t : Int) : Int := dayOf t + ValidDate.EPOCH_1

/-- Three bytes hold the day. -/
def DayFits (t : Int) : Prop := 0 ≤ dayNumber t ∧ dayNumber t < 16777216

/-- The parameter is `date` at `scale`. -/
structure IsDateAt (parameter : ParameterData ValidDate) (date : SentDate) (scale : Nat) :
    Prop where
  scale : parameter.scale = some (.ofNat scale)
  value : parameter.value = some date.value

/-- A parameter that is `date` at `scale`. -/
def parameterAt (date : SentDate) (scale : Nat) : ParameterData ValidDate :=
  { length := none, precision := none, scale := some (.ofNat scale), collation := none,
    value := some date.value }

/-- A type sends a time of day. -/
def SendsTime (type : DataTypeMethods ValidDate) (date : SentDate) (scale : Nat) : Prop :=
  ∀ parameter, IsDateAt parameter date scale →
    ∃ ticks < unitsPerDay scale,
      type.generateParameterData parameter = .ok [leBytes (timeSize scale) ticks]

/-- A type sends a time of day and a day, which together are the time value `t` and the
nanoseconds of `date`, counted from January 1st, 1 and rounded to the scale. -/
def SendsInstant (type : DataTypeMethods ValidDate) (date : SentDate) (scale : Nat) (t : Int) :
    Prop :=
  ∀ parameter, IsDateAt parameter date scale →
    ∃ ticks < unitsPerDay scale, ∃ days < 16777216, ∃ behind,
      type.generateParameterData parameter =
        .ok [leBytes (timeSize scale) ticks ++ (leBytes 3 days ++ behind)] ∧
      (days * unitsPerDay scale + ticks : Int) =
        roundedUnits scale (t + ValidDate.EPOCH_1 * msPerDay) date.delta

theorem leBytes_inj {k m n : Nat} (hm : m < 256 ^ k) (hn : n < 256 ^ k)
    (h : leBytes k m = leBytes k n) : m = n := by
  rw [← leNat_leBytes hm, h, leNat_leBytes hn]

/-- The rounded time of day that is sent for the time value `t`. -/
def ticksOf (date : SentDate) (scale : Nat) (t : Int) : Nat :=
  (roundedUnits scale (timeWithinDay t) date.delta).toNat

section Ticks

variable {date : SentDate} {scale : Nat} {t : Int}

theorem timeWithinDay_mem (t : Int) : 0 ≤ timeWithinDay t ∧ timeWithinDay t < msPerDay :=
  ⟨Int.emod_nonneg _ (by decide), Int.emod_lt_of_pos _ (by decide)⟩

theorem natCast_ticksOf :
    (ticksOf date scale t : Int) = roundedUnits scale (timeWithinDay t) date.delta :=
  Int.toNat_of_nonneg (roundedUnits_nonneg (timeWithinDay_mem t).1 date.delta_nonneg)

theorem ticksOf_le : ticksOf date scale t ≤ unitsPerDay scale := by
  have hle : roundedUnits scale _ _ ≤ _ := roundedUnits_le (timeWithinDay_mem t).2 date.delta_lt
  rw [← natCast_ticksOf] at hle
  exact_mod_cast hle

theorem ticksOf_lt_iff : ticksOf date scale t < unitsPerDay scale ↔
    ¬ RoundsToMidnight scale (timeWithinDay t) date.delta := by
  rw [← roundedUnits_lt_iff, ← natCast_ticksOf, Nat.cast_lt]

/-- The day and the time of day, before anything is cut off. -/
theorem roundedUnits_since :
    roundedUnits scale (t + ValidDate.EPOCH_1 * msPerDay) date.delta =
      dayNumber t * unitsPerDay scale + ticksOf date scale t := by
  have hsplit : t + ValidDate.EPOCH_1 * msPerDay = dayNumber t * msPerDay + timeWithinDay t := by
    have hdiv := Int.mul_ediv_add_emod t msPerDay
    rw [dayNumber, dayOf, timeWithinDay, Int.add_mul]
    linarith
  rw [hsplit, roundedUnits_add_days, natCast_ticksOf]

theorem leBytes_ticksOf {ticks : Nat} (hscale : scale ≤ 7) (hlt : ticks < unitsPerDay scale)
    (h : leBytes (timeSize scale) (ticksOf date scale t) = leBytes (timeSize scale) ticks) :
    ticksOf date scale t = ticks :=
  leBytes_inj (ticksOf_le.trans_lt (unitsPerDay_lt hscale)) (hlt.trans (unitsPerDay_lt hscale)) h

theorem sendsTime_iff {type : DataTypeMethods ValidDate} (hscale : scale ≤ 7)
    (h : ∀ parameter, IsDateAt parameter date scale →
      type.generateParameterData parameter =
        .ok [leBytes (timeSize scale) (ticksOf date scale t)]) :
    SendsTime type date scale ↔ ¬ RoundsToMidnight scale (timeWithinDay t) date.delta := by
  rw [← ticksOf_lt_iff]
  constructor
  · intro hsends
    obtain ⟨ticks, hlt, hdata⟩ := hsends (parameterAt date scale) ⟨rfl, rfl⟩
    rw [h _ ⟨rfl, rfl⟩] at hdata
    rwa [leBytes_ticksOf hscale hlt (List.singleton_inj.1 (Except.ok.inj hdata))]
  · intro hlt parameter hparameter
    exact ⟨_, hlt, h parameter hparameter⟩

theorem sendsInstant_iff {type : DataTypeMethods ValidDate} {behind : Bytes} (hscale : scale ≤ 7)
    (h : ∀ parameter, IsDateAt parameter date scale →
      type.generateParameterData parameter =
        .ok [leBytes (timeSize scale) (ticksOf date scale t) ++
          (leBytes 3 (dayNumber t % 16777216).toNat ++ behind)]) :
    SendsInstant type date scale t ↔
      ¬ RoundsToMidnight scale (timeWithinDay t) date.delta ∧ DayFits t := by
  rw [← ticksOf_lt_iff, DayFits]
  constructor
  · intro hsends
    obtain ⟨ticks, hlt, days, hdays, behind', hdata, hsum⟩ :=
      hsends (parameterAt date scale) ⟨rfl, rfl⟩
    rw [h _ ⟨rfl, rfl⟩] at hdata
    obtain ⟨hticks, -⟩ := List.append_inj (List.singleton_inj.1 (Except.ok.inj hdata))
      (by rw [length_leBytes, length_leBytes])
    have hsame := leBytes_ticksOf hscale hlt hticks
    rw [roundedUnits_since, hsame] at hsum
    have hpos : (0 : Int) < unitsPerDay scale := by
      rw [unitsPerDay]
      positivity
    have hday : (days : Int) = dayNumber t :=
      Int.eq_of_mul_eq_mul_right hpos.ne' (add_right_cancel hsum)
    rw [hsame]
    omega
  · rintro ⟨hlt, hlow, hhigh⟩ parameter hparameter
    refine ⟨_, hlt, (dayNumber t % 16777216).toNat, by omega, behind, h parameter hparameter, ?_⟩
    rw [roundedUnits_since, Int.emod_eq_of_lt hlow hhigh, Int.toNat_of_nonneg hlow]

end Ticks

/-! ### The three types -/

/-- What the local time zone of a platform can be: whole seconds, and less than a day. -/
structure Platform.IsTimeZone (platform : Platform) : Prop where
  wholeSeconds : ∀ t, (platform.localTime t - t) % 1000 = 0
  underADay : ∀ t, -msPerDay < platform.localTime t - t ∧ platform.localTime t - t < msPerDay

section Types

variable (js : Runtime) (useUTC : Bool) {date : SentDate} {scale : Nat}

theorem timestamp_exact : date.value.timestamp js.exact (some (.ofNat scale)) useUTC =
    .ofNat (ticksOf date scale (date.value.fields js useUTC)) := by
  rw [ValidDate.timestamp, scaledTime_exact, ← ofInt_natCast, natCast_ticksOf]
  rfl

theorem writeDays_exact : date.value.writeDays js.exact useUTC =
    leBytes 3 (dayNumber (date.value.fields js useUTC) % 16777216).toNat :=
  writeUInt24LE_ofInt _

theorem Time_data {parameter : ParameterData ValidDate} (hscale : scale ≤ 7)
    (h : IsDateAt parameter date scale) :
    (TYPES.Time js.exact useUTC).generateParameterData parameter =
      .ok [leBytes (timeSize scale) (ticksOf date scale (date.value.fields js useUTC))] := by
  have hgenerate : (TYPES.Time js.exact useUTC).generateParameterData parameter =
      fixedData (fun date => ValidDate.writeTimestamp parameter.scale
        (date.timestamp js.exact parameter.scale useUTC)) parameter.value := rfl
  rw [hgenerate, h.scale, h.value, fixedData, timestamp_exact,
    writeTimestamp_ofNat hscale ticksOf_le]
  rfl

theorem DateTime2_data {parameter : ParameterData ValidDate} (hscale : scale ≤ 7)
    (h : IsDateAt parameter date scale) :
    (TYPES.DateTime2 js.exact useUTC).generateParameterData parameter =
      .ok [leBytes (timeSize scale) (ticksOf date scale (date.value.fields js useUTC)) ++
        (leBytes 3 (dayNumber (date.value.fields js useUTC) % 16777216).toNat ++ [])] := by
  have hgenerate : (TYPES.DateTime2 js.exact useUTC).generateParameterData parameter =
      fixedData (fun date => do
        let timestamp ← ValidDate.writeTimestamp parameter.scale
          (date.timestamp js.exact parameter.scale useUTC)
        pure (timestamp ++ date.writeDays js.exact useUTC)) parameter.value := rfl
  rw [hgenerate, h.scale, h.value, fixedData, timestamp_exact,
    writeTimestamp_ofNat hscale ticksOf_le, writeDays_exact, List.append_nil]
  rfl

/-- In a time zone of whole seconds the local milliseconds are those in UTC. -/
theorem offsetTimestamp_exact (hzone : js.platform.IsTimeZone) :
    date.value.offsetTimestamp js.exact (some (.ofNat scale)) =
      .ofNat (ticksOf date scale date.time) := by
  have hwhole := hzone.wholeSeconds date.time
  have hmilliseconds : timeWithinDay date.time / 1000 * 1000 +
      js.platform.localTime date.time % 1000 = timeWithinDay date.time := by
    rw [timeWithinDay, msPerDay]
    omega
  rw [ValidDate.offsetTimestamp, scaledTime_exact, ← ofInt_natCast, natCast_ticksOf]
  exact congrArg (fun n => JsNumber.ofInt (roundedUnits scale n date.delta)) hmilliseconds

theorem timezoneOffset_writes (hzone : js.platform.IsTimeZone) (t : Int) :
    ∃ bytes, bytes.length = 2 ∧
      writeIntLE 2 (.finite (-ValidDate.timezoneOffset js.exact t)) = .ok bytes := by
  obtain ⟨hlow, hhigh⟩ := hzone.underADay t
  have hlow' : (-86400000 : Rat) < (js.platform.localTime t - t : Int) := by exact_mod_cast hlow
  have hhigh' : ((js.platform.localTime t - t : Int) : Rat) < 86400000 := by exact_mod_cast hhigh
  have hoffset : -ValidDate.timezoneOffset js.exact t =
      ((js.platform.localTime t - t : Int) : Rat) / 60000 := by
    rw [ValidDate.timezoneOffset, show js.exact.platform = js.platform from rfl]
    push_cast
    ring
  have hrange : (-32768 : Rat) ≤ ((js.platform.localTime t - t : Int) : Rat) / 60000 ∧
      ((js.platform.localTime t - t : Int) : Rat) / 60000 ≤ 32767 := by
    constructor <;> linarith
  have hwrites : ∃ bytes, writeIntLE 2 (.finite (-ValidDate.timezoneOffset js.exact t)) =
      .ok bytes := by
    rw [hoffset, writeIntLE, if_pos (by norm_num at hrange ⊢; exact hrange)]
    exact ⟨_, rfl⟩
  exact hwrites.imp fun _ h => ⟨length_writeIntLE h, h⟩

theorem DateTimeOffset_data (hzone : js.platform.IsTimeZone) (date : SentDate)
    (hscale : scale ≤ 7) :
    ∃ offset : Bytes, offset.length = 2 ∧ ∀ parameter, IsDateAt parameter date scale →
      (TYPES.DateTimeOffset js.exact).generateParameterData parameter =
        .ok [leBytes (timeSize scale) (ticksOf date scale date.time) ++
          (leBytes 3 (dayNumber date.time % 16777216).toNat ++ offset)] := by
  obtain ⟨offset, hlength, hoffset⟩ := timezoneOffset_writes js hzone date.time
  refine ⟨offset, hlength, fun parameter h => ?_⟩
  have hgenerate : (TYPES.DateTimeOffset js.exact).generateParameterData parameter =
      fixedData (fun date => do
        let timestamp ← ValidDate.writeTimestamp parameter.scale
          (date.offsetTimestamp js.exact parameter.scale)
        let offset ← writeIntLE 2 (.finite (-ValidDate.timezoneOffset js.exact date.time))
        pure (timestamp ++ (date.writeDays js.exact true ++ offset))) parameter.value := rfl
  have hdays : date.value.writeDays js.exact true =
      leBytes 3 (dayNumber date.time % 16777216).toNat := writeUInt24LE_ofInt _
  have htime : date.value.time = date.time := rfl
  rw [hgenerate, h.scale, h.value, fixedData, offsetTimestamp_exact js hzone,
    writeTimestamp_ofNat hscale ticksOf_le, htime, hoffset, hdays]
  rfl

/-- **Times of day on the wire.** Each type sends a time of day, and the right one, exactly where
the milliseconds and the nanoseconds do not round to midnight; a day must fit its three bytes. -/
theorem timeOfDay_iff (hzone : js.platform.IsTimeZone) (date : SentDate) {scale : Nat}
    (hscale : scale ≤ 7) :
    (SendsTime (TYPES.Time js.exact useUTC) date scale ↔
      ¬ RoundsToMidnight scale (timeWithinDay (date.value.fields js useUTC)) date.delta) ∧
    (SendsInstant (TYPES.DateTime2 js.exact useUTC) date scale (date.value.fields js useUTC) ↔
      ¬ RoundsToMidnight scale (timeWithinDay (date.value.fields js useUTC)) date.delta ∧
        DayFits (date.value.fields js useUTC)) ∧
    (SendsInstant (TYPES.DateTimeOffset js.exact) date scale date.time ↔
      ¬ RoundsToMidnight scale (timeWithinDay date.time) date.delta ∧ DayFits date.time) := by
  obtain ⟨offset, -, hoffset⟩ := DateTimeOffset_data js hzone date hscale
  exact ⟨sendsTime_iff hscale fun _ h => Time_data js useUTC hscale h,
    sendsInstant_iff hscale fun _ h => DateTime2_data js useUTC hscale h,
    sendsInstant_iff hscale hoffset⟩

end Types

theorem asciiPlatform_isTimeZone : asciiPlatform.IsTimeZone where
  wholeSeconds t := by
    show (t - t) % 1000 = 0
    rw [Int.sub_self, Int.zero_emod]
  underADay t := by
    show -msPerDay < t - t ∧ t - t < msPerDay
    rw [Int.sub_self]
    decide

/-- The last millisecond of January 1st, 1970. -/
def lastMillisecond : SentDate where
  time := 86399999
  nanosecondDelta := none
  delta_mem _ h := by cases h

/-- In units of a tenth of a microsecond, the last millisecond is no midnight yet. -/
theorem timeOfDay_lastMillisecond :
    SendsTime (TYPES.Time numberRuntime.exact true) lastMillisecond 7 ∧
      SendsInstant (TYPES.DateTime2 numberRuntime.exact true) lastMillisecond 7 86399999 ∧
      SendsInstant (TYPES.DateTimeOffset numberRuntime.exact) lastMillisecond 7 86399999 := by
  obtain ⟨htime, hdateTime2, hoffset⟩ :=
    timeOfDay_iff numberRuntime true asciiPlatform_isTimeZone lastMillisecond (show 7 ≤ 7 by decide)
  have hearly : ¬ RoundsToMidnight 7 (timeWithinDay 86399999) lastMillisecond.delta := by
    rw [RoundsToMidnight, show lastMillisecond.delta = 0 from rfl,
      show timeWithinDay 86399999 = 86399999 by decide]
    norm_num
  have hfits : DayFits 86399999 := by
    rw [DayFits]
    decide
  exact ⟨htime.2 hearly, hdateTime2.2 ⟨hearly, hfits⟩, hoffset.2 ⟨hearly, hfits⟩⟩

/-- In whole seconds, the last millisecond is sent as 24:00. -/
theorem not_timeOfDay :
    ¬ ∀ (js : Runtime) (useUTC : Bool) (date : SentDate) (scale : Nat), js.platform.IsTimeZone →
      scale ≤ 7 → SendsTime (TYPES.Time js.exact useUTC) date scale ∧
        SendsInstant (TYPES.DateTime2 js.exact useUTC) date scale (date.value.fields js useUTC) ∧
        SendsInstant (TYPES.DateTimeOffset js.exact) date scale date.time := by
  intro h
  obtain ⟨htime, -, -⟩ :=
    h numberRuntime true lastMillisecond 0 asciiPlatform_isTimeZone (by decide)
  have hsent : ∀ parameter, IsDateAt parameter lastMillisecond 0 → _ := fun _ hparameter =>
    Time_data numberRuntime true (by decide) hparameter
  refine (sendsTime_iff (by decide) hsent).1 htime ?_
  rw [RoundsToMidnight, show lastMillisecond.delta = 0 from rfl]
  show (86400 * 10 ^ 0 - 1 / 2 : Rat) ≤ (((86399999 : Int) : Rat) / 1000 + 0) * 10 ^ 0
  norm_num

end Tedious
