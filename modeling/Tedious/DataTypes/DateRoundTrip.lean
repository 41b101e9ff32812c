import Mathlib.Tactic.LinearCombination
import Tedious.DataTypes.TimeOfDay

/-!
# Tedious.DataTypes.DateRoundTrip

Dates that are read and written back, in UTC and where the arithmetic of the language does not
round. The ticks of a `DateTime` are stable, and any other instant is at most two milliseconds
away from what comes back (`dateTime_stable`). The types with a scale lose what lies below a
millisecond: the readers and the writers do not agree on the name of the property that it travels
in (`writesBack_iff`).
-/

namespace Tedious

open Chunked

/-! ### Three hundredths of a second -/

/-- `Math.round(n / (3 + 1/3))`. -/
def threeHundredths (n : Int) : Int := (3 * n + 5) / 10

/-- A tick of a third of a hundredth survives the milliseconds. -/
theorem threeHundredths_threeAndAThird (n : Int) : threeHundredths (threeAndAThird n) = n := by
  rw [threeHundredths, threeAndAThird]
  omega

/-- Milliseconds do not survive the ticks, but nearly. -/
theorem threeAndAThird_near (n : Int) :
    -2 ≤ threeAndAThird (threeHundredths n) - n ∧ threeAndAThird (threeHundredths n) - n ≤ 2 := by
  rw [threeHundredths, threeAndAThird]
  omega

/-- Every tick of a day lies before midnight. -/
theorem threeAndAThird_mem {n : Int} (hlow : 0 ≤ n) (hhigh : n < 25920000) :
    0 ≤ threeAndAThird n ∧ threeAndAThird n < msPerDay := by
  rw [threeAndAThird, msPerDay]
  omega

theorem threeHundredths_mem {n : Int} (hlow : 0 ≤ n) (hhigh : n < msPerDay) :
    0 ≤ threeHundredths n ∧ threeHundredths n ≤ 25920000 := by
  rw [msPerDay] at hhigh
  rw [threeHundredths]
  omega

/-- A time value, from its day and the milliseconds since midnight. -/
theorem dayOf_of_mem (day : Int) {ms : Int} (hlow : 0 ≤ ms) (hhigh : ms < msPerDay) :
    dayOf (day * msPerDay + ms) = day ∧ timeWithinDay (day * msPerDay + ms) = ms := by
  rw [msPerDay] at hhigh ⊢
  rw [dayOf, timeWithinDay, msPerDay]
  omega

theorem dayOf_mul_add (t : Int) : dayOf t * msPerDay + timeWithinDay t = t := by
  rw [dayOf, timeWithinDay, msPerDay]
  omega

section DateTime

variable (js : Runtime)

/-- The day and the ticks of a time value, behind the carry at midnight. -/
def dateTimeTicks (t : Int) : Int × Int :=
  if threeHundredths (timeWithinDay t) = 25920000 then (dayOf t + ValidDate.EPOCH_1900 + 1, 0)
  else (dayOf t + ValidDate.EPOCH_1900, threeHundredths (timeWithinDay t))

theorem exact_divide {p q : Rat} (h : q ≠ 0) :
    js.exact.divide (.finite p) (.finite q) = .finite (p / q) := if_neg h

/-- The quotient is not rounded before it is. -/
theorem round_threeHundredths (n : Int) :
    (js.exact.divide (.ofInt n)
      (js.exact.add (.ofNat 3) (js.exact.divide (.ofNat 1) (.ofNat 3)))).round =
      .ofInt (threeHundredths n) := by
  have hthird : js.exact.divide (.ofNat 1) (.ofNat 3) = .finite ((1 : Nat) / (3 : Nat)) :=
    exact_divide js (by norm_num)
  have hsum : js.exact.add (.ofNat 3) (.finite ((1 : Nat) / (3 : Nat))) = .finite (10 / 3) := by
    rw [JsNumber.ofNat, Runtime.exact_add]
    norm_num
  have hquotient : js.exact.divide (.ofInt n) (.finite (10 / 3)) =
      .finite ((n : Rat) / (10 / 3)) := exact_divide js (by norm_num)
  have hfloor : (n : Rat) / (10 / 3) + 1 / 2 = ((3 * n + 5 : Int) : Rat) / (10 : Nat) := by
    push_cast
    ring
  rw [hthird, hsum, hquotient, JsNumber.round, hfloor, threeHundredths]
  exact congrArg JsNumber.ofInt (Rat.floor_intCast_div_natCast ..)

theorem dateTimeFields_exact (useUTC : Bool) (date : ValidDate) :
    dateTimeFields js.exact useUTC date =
      ((dateTimeTicks (date.fields js useUTC)).1,
        .ofInt (dateTimeTicks (date.fields js useUTC)).2) := by
  have hfields : date.fields js.exact useUTC = date.fields js useUTC := rfl
  have hmidnight : ∀ n : Int, JsNumber.ofInt n = .ofNat 25920000 ↔ n = 25920000 := by
    intro n
    rw [← ofInt_natCast, JsNumber.ofInt, JsNumber.ofInt, JsNumber.finite.injEq]
    exact Int.cast_inj
  simp only [dateTimeFields, hfields, round_threeHundredths, hmidnight, dateTimeTicks]
  split <;> rfl

/-- The bytes of a `DateTime`. -/
def dateTimeBytes (days ticks : Int) : Bytes := leIntBytes 4 days ++ leIntBytes 4 ticks

theorem dateTimeTicks_mem (t : Int) : 0 ≤ (dateTimeTicks t).2 ∧ (dateTimeTicks t).2 < 25920000 := by
  have hmem := threeHundredths_mem (timeWithinDay_mem t).1 (timeWithinDay_mem t).2
  rw [dateTimeTicks]
  split
  · exact ⟨le_rfl, show (0 : Int) < 25920000 by decide⟩
  · next hne => exact ⟨hmem.1, lt_of_le_of_ne hmem.2 hne⟩

/-- The days of all valid dates fit four bytes. -/
theorem DateTime_data {parameter : ParameterData ValidDate} (useUTC : Bool) {date : ValidDate}
    (hvalue : parameter.value = some date)
    (hfits : FitsInt 4 (dateTimeTicks (date.fields js useUTC)).1) :
    (TYPES.DateTime js.exact useUTC).generateParameterData parameter =
      .ok [dateTimeBytes (dateTimeTicks (date.fields js useUTC)).1
        (dateTimeTicks (date.fields js useUTC)).2] := by
  set t := date.fields js useUTC with ht
  have hgenerate : (TYPES.DateTime js.exact useUTC).generateParameterData parameter =
      fixedData (writeDateTime js.exact useUTC) parameter.value := rfl
  obtain ⟨hlow, hhigh⟩ := dateTimeTicks_mem t
  obtain ⟨ticks, hticks⟩ := Int.eq_ofNat_of_zero_le hlow
  have hlt : ticks < 4294967296 := by omega
  have hunsigned : leIntBytes 4 (ticks : Int) = leBytes 4 ticks := by
    rw [leIntBytes, Int.emod_eq_of_lt (by omega) (by omega), Int.toNat_natCast]
  rw [hgenerate, hvalue, fixedData, writeDateTime, dateTimeFields_exact, ← ht, hticks,
    ofInt_natCast, dateTimeBytes, hunsigned]
  dsimp only
  rw [writeIntLE_of_fits (by decide) hfits, writeUIntLE_ofNat hlt]
  rfl

/-- What is read from the bytes of a `DateTime`. -/
def dateTimeInstant (days ticks : Int) : Int :=
  (days - ValidDate.EPOCH_1900) * msPerDay + threeAndAThird ticks

theorem readDateTime_reads {options : ParserOptions} (hutc : options.useUTC = true)
    (days ticks : Int) (hdays : FitsInt 4 days) (hticks : FitsInt 4 ticks) :
    Reads (readDateTime options) (dateTimeBytes days ticks)
      (.date (timeClip (dateTimeInstant days ticks)) none) := by
  have hread : Reads (readDateTime options) (dateTimeBytes days ticks) _ :=
    (Reader.number_int hdays).bind ((Reader.number_int hticks).map fun ticks =>
      Value.date (newDate options.platform options.useUTC 1900 (1 + days) (threeAndAThird ticks))
        none)
  have hday : dayFromYear 1900 + (1 + days) - 1 = days - ValidDate.EPOCH_1900 := by
    rw [show dayFromYear 1900 = -ValidDate.EPOCH_1900 by decide]
    omega
  rwa [newDate, hutc, if_pos rfl, hday] at hread

/-- The ticks that were read are written again. -/
theorem dateTimeTicks_instant (days : Int) {ticks : Int} (hlow : 0 ≤ ticks)
    (hhigh : ticks < 25920000) :
    dateTimeTicks (dateTimeInstant days ticks) = (days, ticks) := by
  have hmem := threeAndAThird_mem hlow hhigh
  obtain ⟨hday, htime⟩ := dayOf_of_mem (days - ValidDate.EPOCH_1900) hmem.1 hmem.2
  rw [dateTimeTicks, dateTimeInstant, hday, htime, threeHundredths_threeAndAThird,
    if_neg hhigh.ne, Int.sub_add_cancel]

/-- The carry makes no difference to the instant: the first tick of the next day stands where
the millisecond behind the last one would. -/
theorem dateTimeInstant_ticks (t : Int) :
    dateTimeInstant (dateTimeTicks t).1 (dateTimeTicks t).2 =
      dayOf t * msPerDay + threeAndAThird (threeHundredths (timeWithinDay t)) := by
  rw [dateTimeInstant, dateTimeTicks]
  split
  · next hcarry =>
    rw [hcarry, show threeAndAThird 25920000 = msPerDay by decide,
      show threeAndAThird 0 = 0 by decide, add_zero, add_right_comm, Int.add_sub_cancel,
      Int.add_mul, Int.one_mul]
  · rw [Int.add_sub_cancel]

theorem dateTimeInstant_near (t : Int) :
    |dateTimeInstant (dateTimeTicks t).1 (dateTimeTicks t).2 - t| ≤ 2 := by
  have hnear := threeAndAThird_near (timeWithinDay t)
  have hsum := dayOf_mul_add t
  rw [dateTimeInstant_ticks, abs_le]
  omega

theorem timeClip_eq_some {t : Int} :
    timeClip t = some t ↔ -8640000000000000 ≤ t ∧ t ≤ 8640000000000000 := by
  rw [timeClip]
  split <;> simp <;> omega

/-- The last valid instant is a midnight, so nothing is rounded out of the range of `Date`. -/
theorem timeClip_dateTimeInstant {t : Int} (h : timeClip t = some t) :
    timeClip (dateTimeInstant (dateTimeTicks t).1 (dateTimeTicks t).2) =
      some (dateTimeInstant (dateTimeTicks t).1 (dateTimeTicks t).2) := by
  obtain ⟨hlow, hhigh⟩ := timeWithinDay_mem t
  obtain ⟨hpos, hcarry⟩ := threeHundredths_mem hlow hhigh
  have hmidnight : timeWithinDay t = 0 → threeHundredths (timeWithinDay t) = 0 := by
    intro h
    rw [h]
    rfl
  have hsum := dayOf_mul_add t
  rw [timeClip_eq_some] at h ⊢
  rw [dateTimeInstant_ticks, threeAndAThird]
  generalize threeHundredths (timeWithinDay t) = ticks at *
  rw [msPerDay] at *
  omega

theorem dateTimeTicks_fits {t : Int} (h : timeClip t = some t) :
    FitsInt 4 (dateTimeTicks t).1 := by
  obtain ⟨hlow, hhigh⟩ := timeClip_eq_some.1 h
  have hday : -100000000 ≤ dayOf t ∧ dayOf t ≤ 100000000 := by
    rw [dayOf, msPerDay]
    omega
  rw [FitsInt, dateTimeTicks, ValidDate.EPOCH_1900]
  split <;> omega

/-- **Ticks are stable.** A `DateTime` that was read is written as it stood, for every day of a
valid date; and what is written for a valid date is read as an instant at most two milliseconds
away. -/
theorem dateTime_stable (options : ParserOptions) (hutc : options.useUTC = true) :
    (∀ days ticks : Int, |days - ValidDate.EPOCH_1900| < 100000000 →
      0 ≤ ticks → ticks < 25920000 →
      ∃ t, Reads (readDateTime options) (dateTimeBytes days ticks) (.date (some t) none) ∧
        ∀ parameter, parameter.value = some { time := t, nanosecondDelta := none } →
          (TYPES.DateTime js.exact true).generateParameterData parameter =
            .ok [dateTimeBytes days ticks]) ∧
    ∀ (date : ValidDate) (parameter : ParameterData ValidDate),
      timeClip date.time = some date.time → parameter.value = some date →
      ∃ data t, (TYPES.DateTime js.exact true).generateParameterData parameter = .ok [data] ∧
        Reads (readDateTime options) data (.date (some t) none) ∧ |t - date.time| ≤ 2 := by
  have hfields : ∀ date : ValidDate, date.fields js true = date.time := fun _ => rfl
  constructor
  · intro days ticks hdays hlow hhigh
    obtain ⟨hmin, hmax⟩ := abs_lt.1 hdays
    have hmem := threeAndAThird_mem hlow hhigh
    have hclip : timeClip (dateTimeInstant days ticks) = some (dateTimeInstant days ticks) := by
      rw [timeClip_eq_some, dateTimeInstant]
      rw [msPerDay] at *
      omega
    have hback := dateTimeTicks_instant days hlow hhigh
    have hread := readDateTime_reads hutc days ticks
      (by rw [ValidDate.EPOCH_1900] at *; rw [FitsInt]; omega) (by rw [FitsInt]; omega)
    rw [hclip] at hread
    refine ⟨_, hread, fun parameter hvalue => ?_⟩
    have hdata := DateTime_data js true hvalue
      (by rw [hfields]; exact dateTimeTicks_fits hclip)
    rwa [hfields, hback] at hdata
  · intro date parameter hvalid hvalue
    have hdata := DateTime_data js true hvalue
      (by rw [hfields]; exact dateTimeTicks_fits hvalid)
    have hmem := dateTimeTicks_mem date.time
    have hread := readDateTime_reads hutc _ (dateTimeTicks date.time).2
      (dateTimeTicks_fits hvalid) (by rw [FitsInt]; omega)
    rw [timeClip_dateTimeInstant hvalid] at hread
    exact ⟨_, _, hdata, hread, dateTimeInstant_near _⟩

end DateTime

/-- The last tick of January 1st, 1900, and the last millisecond of January 1st, 1970. -/
theorem dateTime_stable_midnight :
    (∃ t, Reads (readDateTime (.default asciiPlatform)) (dateTimeBytes 0 25919999)
        (.date (some t) none) ∧
      ∀ parameter, parameter.value = some { time := t, nanosecondDelta := none } →
        (TYPES.DateTime numberRuntime.exact true).generateParameterData parameter =
          .ok [dateTimeBytes 0 25919999]) ∧
    ∃ data t, (TYPES.DateTime numberRuntime.exact true).generateParameterData
        { length := none, precision := none, scale := none, collation := none,
          value := some { time := 86399999, nanosecondDelta := none } } = .ok [data] ∧
      Reads (readDateTime (.default asciiPlatform)) data (.date (some t) none) ∧
      |t - 86399999| ≤ 2 := by
  obtain ⟨hticks, hdates⟩ :=
    dateTime_stable numberRuntime (.default asciiPlatform) (by decide)
  exact ⟨hticks 0 25919999 (by decide) (by decide) (by decide),
    hdates { time := 86399999, nanosecondDelta := none } _ (by decide) rfl⟩

/-! ### Ticks of a scale -/

/-- The milliseconds that ticks of a scale are read as. -/
def wireMilliseconds (scale ticks : Nat) : Nat := ticks * 10 ^ (7 - scale) / 10000

/-- The time value that a day and ticks of a scale are read as. -/
def wireInstant (scale days ticks : Nat) : Int :=
  (days - ValidDate.EPOCH_1) * msPerDay + wireMilliseconds scale ticks

/-- No digit of the ticks lies below a millisecond. -/
def WholeMilliseconds (scale ticks : Nat) : Prop := 10 ^ (scale - 3) ∣ ticks

theorem wireMilliseconds_coarse {scale : Nat} (h : scale ≤ 3) (ticks : Nat) :
    wireMilliseconds scale ticks = ticks * 10 ^ (3 - scale) := by
  have hpow : 10 ^ (7 - scale) = 10 ^ (3 - scale) * 10000 := by
    rw [show 7 - scale = 3 - scale + 4 by omega, Nat.pow_add]
  rw [wireMilliseconds, hpow, ← Nat.mul_assoc, Nat.mul_div_cancel _ (by decide)]

theorem wireMilliseconds_fine {scale : Nat} (hlow : 3 ≤ scale) (hhigh : scale ≤ 7) (ticks : Nat) :
    wireMilliseconds scale ticks = ticks / 10 ^ (scale - 3) := by
  have hpow : 10000 = 10 ^ (scale - 3) * 10 ^ (7 - scale) := by
    rw [← Nat.pow_add, show scale - 3 + (7 - scale) = 4 by omega]
  rw [wireMilliseconds, hpow, Nat.mul_div_mul_right _ _ (Nat.pow_pos (by decide))]

theorem wireMilliseconds_lt {scale ticks : Nat} (hscale : scale ≤ 7)
    (h : ticks < unitsPerDay scale) : wireMilliseconds scale ticks < 86400000 := by
  have hpow : 10 ^ scale * 10 ^ (7 - scale) = 10 ^ 7 := by
    rw [← Nat.pow_add, Nat.add_sub_cancel' hscale]
  have hlt : ticks * 10 ^ (7 - scale) < unitsPerDay scale * 10 ^ (7 - scale) :=
    Nat.mul_lt_mul_of_pos_right h (Nat.pow_pos (by decide))
  rw [unitsPerDay, Nat.mul_assoc, hpow] at hlt
  rw [wireMilliseconds]
  omega

/-- Milliseconds in units of a scale, with nothing below them. -/
theorem roundedUnits_coarse {scale : Nat} (h : scale ≤ 3) (ticks : Nat) :
    roundedUnits scale (ticks * 10 ^ (3 - scale) : Nat) 0 = ticks := by
  have hpow : (10 : Rat) ^ (3 - scale) * 10 ^ scale = 1000 := by
    rw [← pow_add, Nat.sub_add_cancel h]
    norm_num
  have hunits : ((ticks * 10 ^ (3 - scale) : Nat) : Rat) / 1000 * 10 ^ scale = ticks := by
    push_cast
    linear_combination (ticks : Rat) / 1000 * hpow
  rw [roundedUnits, add_zero, Int.cast_natCast, hunits, Int.floor_eq_iff]
  constructor <;> push_cast <;> linarith

theorem roundedUnits_fine {scale : Nat} (h : 3 ≤ scale) (milliseconds : Nat) :
    roundedUnits scale milliseconds 0 = (milliseconds * 10 ^ (scale - 3) : Nat) := by
  have hpow : (10 : Rat) ^ scale = 10 ^ (scale - 3) * 1000 := by
    rw [show scale = scale - 3 + 3 by omega, pow_add, Nat.add_sub_cancel]
    norm_num
  have hunits : (milliseconds : Rat) / 1000 * 10 ^ scale =
      ((milliseconds * 10 ^ (scale - 3) : Nat) : Rat) := by
    rw [hpow]
    push_cast
    ring
  rw [roundedUnits, add_zero, Int.cast_natCast, hunits, Int.floor_eq_iff]
  constructor <;> push_cast <;> linarith

/-- The digits below a millisecond are what is lost. -/
theorem roundedUnits_wireMilliseconds {scale ticks : Nat} (hscale : scale ≤ 7) :
    roundedUnits scale (wireMilliseconds scale ticks) 0 = ticks ↔ WholeMilliseconds scale ticks := by
  rw [WholeMilliseconds]
  rcases le_total scale 3 with hcoarse | hfine
  · rw [wireMilliseconds_coarse hcoarse, roundedUnits_coarse hcoarse,
      Nat.sub_eq_zero_of_le hcoarse, Nat.pow_zero]
    exact iff_of_true rfl (one_dvd ticks)
  · rw [wireMilliseconds_fine hfine hscale, roundedUnits_fine hfine, Nat.cast_inj]
    exact ⟨fun h => ⟨_, (h.symm.trans (Nat.mul_comm ..))⟩, Nat.div_mul_cancel⟩

/-! ### Reading -/

section Reading

variable {options : ParserOptions} (hutc : options.useUTC = true) {scale ticks : Nat}
  (hscale : scale ≤ 7) (hticks : ticks < unitsPerDay scale)

include hscale hticks

theorem readTicks_reads :
    Reads (readTicks (timeSize scale : Nat) (some scale)) (leBytes (timeSize scale) ticks)
      (ticks * 10 ^ (7 - scale)) := by
  have hlt := hticks.trans (unitsPerDay_lt hscale)
  have hunits : Reads (readTimeUnits (timeSize scale : Nat)) (leBytes (timeSize scale) ticks)
      ticks := by
    rw [timeSize] at hlt ⊢
    split at hlt
    · next h2 =>
      rw [if_pos h2]
      exact Reader.number_le hlt
    · next h2 =>
      rw [if_neg h2]
      split at hlt
      · next h4 =>
        rw [if_pos h4]
        exact Reader.number_le hlt
      · next h4 =>
        rw [if_neg h4]
        exact Reader.number_le hlt
  exact hunits.map fun value => value * 10 ^ (7 - scale)

theorem timeOfDay_wire (p : Platform) :
    timeOfDay p true (ticks * 10 ^ (7 - scale)) = some (wireMilliseconds scale ticks : Int) := by
  have hlt := wireMilliseconds_lt hscale hticks
  rw [timeOfDay, newDate, if_pos rfl, show dayFromYear 1970 + 1 - 1 = 0 by decide, Int.zero_mul,
    Int.zero_add]
  show timeClip (wireMilliseconds scale ticks) = some _
  exact timeClip_eq_some.2 (by omega)

/-- The milliseconds of a time of day, on a day. -/
theorem dateAt_wire (p : Platform) {days : Nat} (hdays : days ≤ 3652058) :
    dateAt p true days (timeOfDay p true (ticks * 10 ^ (7 - scale))) =
      some (wireInstant scale days ticks) := by
  have hlt := wireMilliseconds_lt hscale hticks
  have hday : dayFromYear 2000 + ((days : Int) - 730118) - 1 = days - ValidDate.EPOCH_1 := by
    rw [show dayFromYear 2000 = 10957 by decide, ValidDate.EPOCH_1]
    omega
  rw [timeOfDay_wire hscale hticks, dateAt, Option.bind_some, if_pos rfl, newDate, if_pos rfl, hday]
  refine timeClip_eq_some.2 ?_
  rw [msPerDay, ValidDate.EPOCH_1]
  omega

theorem readDateTimeOffset_reads {days : Nat} (hdays : days ≤ 3652058) {offset : Bytes}
    (hoffset : offset.length = 2) :
    Reads (readDateTimeOffset options (timeSize scale + 5 : Nat) (some scale))
      (leBytes (timeSize scale) ticks ++ (leBytes 3 days ++ offset))
      (.date (some (wireInstant scale days ticks))
        (some (nanosecondsDelta (ticks * 10 ^ (7 - scale))))) := by
  have hlength : ((timeSize scale + 5 : Nat) : Int) - 5 = timeSize scale := by omega
  have hminutes := Reader.number_reads leNat offset
  rw [hoffset] at hminutes
  have hread := (readTicks_reads hscale hticks).bind (f := fun ticks => do
      let days ← readUInt24LE
      let _ ← readUInt16LE
      let time := timeOfDay options.platform true ticks
      pure (Value.date (dateAt options.platform true days time) (some (nanosecondsDelta ticks))))
    ((Reader.number_le (hdays.trans_lt (by decide))).bind (hminutes.map fun _ => _))
  rw [dateAt_wire hscale hticks _ hdays] at hread
  rwa [readDateTimeOffset, hlength]

include hutc

theorem readTime_reads :
    Reads (readTime options (timeSize scale : Nat) (some scale)) (leBytes (timeSize scale) ticks)
      (.date (some (wireMilliseconds scale ticks))
        (some (nanosecondsDelta (ticks * 10 ^ (7 - scale))))) := by
  have hread := (readTicks_reads hscale hticks).map fun ticks =>
    Value.date (timeOfDay options.platform options.useUTC ticks) (some (nanosecondsDelta ticks))
  rwa [hutc, timeOfDay_wire hscale hticks, ← hutc] at hread

theorem readDateTime2_reads {days : Nat} (hdays : days ≤ 3652058) :
    Reads (readDateTime2 options (timeSize scale + 3 : Nat) (some scale))
      (leBytes (timeSize scale) ticks ++ leBytes 3 days)
      (.date (some (wireInstant scale days ticks))
        (some (nanosecondsDelta (ticks * 10 ^ (7 - scale))))) := by
  have hlength : ((timeSize scale + 3 : Nat) : Int) - 3 = timeSize scale := by omega
  have hread := (readTicks_reads hscale hticks).bind (f := fun ticks => do
      let days ← readUInt24LE
      let time := timeOfDay options.platform options.useUTC ticks
      pure (Value.date (dateAt options.platform options.useUTC days time)
        (some (nanosecondsDelta ticks))))
    ((Reader.number_le (hdays.trans_lt (by decide))).map fun _ => _)
  rw [hutc, dateAt_wire hscale hticks _ hdays, ← hutc] at hread
  rwa [readDateTime2, hlength]

end Reading

/-! ### Writing back -/

/-- A date that was read, as the types see it when it is passed on. They look for a
`nanosecondDelta`; what the readers leave on a date is called `nanosecondsDelta`. -/
def Value.passedOn : Value → Option JsDate
  | .date time _ => some { time, nanosecondDelta := none }
  | _ => none

/-- What `read` makes of `wire`, and of the bytes behind it, is accepted as the value of a
parameter, and written as `wire` and as many other bytes behind. -/
def WritesBack (accept : JsValue → Except JsError ValidDate) (type : DataTypeMethods ValidDate)
    (read : Reader Value) (scale : Nat) (wire behind : Bytes) : Prop :=
  ∃ value passed date, Reads read (wire ++ behind) value ∧ value.passedOn = some passed ∧
    accept (.date passed) = .ok date ∧
    ∀ parameter : ParameterData ValidDate, parameter.scale = some (.ofNat scale) →
      parameter.value = some date →
      ∃ other : Bytes, other.length = behind.length ∧
        type.generateParameterData parameter = .ok [wire ++ other]

/-- Any valid date is accepted. -/
def acceptAny (js : Runtime) : JsValue → Except JsError ValidDate :=
  acceptDate js (fun _ _ _ => true) "Invalid time."

theorem delta_mem_none : ∀ delta ∈ (none : Option Rat), 0 ≤ delta ∧ delta < 1 / 1000 := by
  intro delta h
  cases h

/-- A valid date without a `nanosecondDelta`. -/
def SentDate.ofTime (time : Int) : SentDate where
  time := time
  nanosecondDelta := none
  delta_mem := delta_mem_none

section WritingBack

variable (js : Runtime)

/-- The local year, month and day are in range. -/
def InLocalRange (inRange : Int → Int → Int → Bool) (t : Int) : Prop :=
  inRange (civilFromDay (dayOf (js.platform.localTime t))).1
    (civilFromDay (dayOf (js.platform.localTime t))).2.1
    (civilFromDay (dayOf (js.platform.localTime t))).2.2 = true

theorem acceptDate_iff {inRange : Int → Int → Int → Bool} {message : String} {t : Int}
    {nanosecondDelta : Option JsNumber} {date : ValidDate} :
    acceptDate js inRange message (.date { time := some t, nanosecondDelta }) = .ok date ↔
      InLocalRange js inRange t ∧ date = { time := t, nanosecondDelta } := by
  rw [acceptDate_date, InLocalRange]
  dsimp only
  split
  · next h => exact ⟨fun heq => ⟨h, (Except.ok.inj heq).symm⟩, fun heq => by rw [heq.2]; rfl⟩
  · next h => exact ⟨nofun, fun heq => absurd heq.1 h⟩

theorem ticksOf_wire {scale ticks : Nat} {t : Int} (hscale : scale ≤ 7)
    (htime : timeWithinDay t = wireMilliseconds scale ticks) :
    ticksOf (.ofTime t) scale t = ticks ↔ WholeMilliseconds scale ticks := by
  rw [← roundedUnits_wireMilliseconds hscale, ← Int.natCast_inj, natCast_ticksOf, htime]
  rfl

/-- What a type writes for a date that was read decides whether it is the same. -/
theorem writesBack_iff_of {type : DataTypeMethods ValidDate} {read : Reader Value}
    {inRange : Int → Int → Int → Bool} {message : String} {scale ticks : Nat} {t : Int}
    {nanosecondsDelta : Option Rat} {days behind other : Bytes} (hscale : scale ≤ 7)
    (hticks : ticks < unitsPerDay scale)
    (htime : timeWithinDay t = wireMilliseconds scale ticks)
    (hread : Reads read (leBytes (timeSize scale) ticks ++ days ++ behind)
      (.date (some t) nanosecondsDelta))
    (hother : other.length = behind.length)
    (hdata : ∀ parameter, IsDateAt parameter (.ofTime t) scale →
      type.generateParameterData parameter =
        .ok [leBytes (timeSize scale) (ticksOf (.ofTime t) scale t) ++ days ++ other]) :
    WritesBack (acceptDate js inRange message) type read scale
        (leBytes (timeSize scale) ticks ++ days) behind ↔
      WholeMilliseconds scale ticks ∧ InLocalRange js inRange t := by
  rw [← ticksOf_wire hscale htime]
  constructor
  · rintro ⟨value, passed, date, hreads, hpassed, haccept, hwrites⟩
    obtain rfl := hread.returns.unique hreads.returns
    cases hpassed
    obtain ⟨hlocal, rfl⟩ := (acceptDate_iff js).1 haccept
    obtain ⟨last, hlast, hsame⟩ := hwrites (parameterAt (.ofTime t) scale) rfl rfl
    rw [hdata _ ⟨rfl, rfl⟩] at hsame
    have hbytes := List.singleton_inj.1 (Except.ok.inj hsame)
    rw [List.append_assoc, List.append_assoc] at hbytes
    have hfirst := (List.append_inj hbytes (by rw [length_leBytes, length_leBytes])).1
    exact ⟨leBytes_ticksOf hscale hticks hfirst, hlocal⟩
  · rintro ⟨hsame, hlocal⟩
    refine ⟨_, _, _, hread, rfl, (acceptDate_iff js).2 ⟨hlocal, rfl⟩, ?_⟩
    intro parameter hparameter hvalue
    refine ⟨other, hother, ?_⟩
    rw [hdata parameter ⟨hparameter, hvalue⟩, hsame]

theorem Time_writesBack_iff {options : ParserOptions} (hutc : options.useUTC = true)
    (inRange : Int → Int → Int → Bool) (message : String) {scale ticks : Nat}
    (hscale : scale ≤ 7) (hticks : ticks < unitsPerDay scale) :
    WritesBack (acceptDate js inRange message) (TYPES.Time js.exact true)
        (readTime options (timeSize scale : Nat) (some scale)) scale
        (leBytes (timeSize scale) ticks) [] ↔
      WholeMilliseconds scale ticks ∧ InLocalRange js inRange (wireMilliseconds scale ticks) := by
  have hlt := wireMilliseconds_lt hscale hticks
  have htime : timeWithinDay (wireMilliseconds scale ticks) = wireMilliseconds scale ticks :=
    Int.emod_eq_of_lt (Int.natCast_nonneg _) (by rw [msPerDay]; omega)
  have hread := readTime_reads hutc hscale hticks
  have hempty : leBytes (timeSize scale) ticks = leBytes (timeSize scale) ticks ++ [] :=
    (List.append_nil _).symm
  rw [hempty]
  refine writesBack_iff_of js hscale hticks htime (by rwa [List.append_nil, List.append_nil])
    (show List.length ([] : Bytes) = 0 from rfl) fun _ h => ?_
  rw [Time_data js true hscale h, List.append_nil, List.append_nil]
  rfl

/-- The day and the time of day that were read are those of the instant. -/
theorem wireInstant_split (days : Nat) {scale ticks : Nat} (hscale : scale ≤ 7)
    (hticks : ticks < unitsPerDay scale) :
    dayNumber (wireInstant scale days ticks) = days ∧
      timeWithinDay (wireInstant scale days ticks) = wireMilliseconds scale ticks := by
  have hlt := wireMilliseconds_lt hscale hticks
  obtain ⟨hday, htime⟩ := dayOf_of_mem ((days : Int) - ValidDate.EPOCH_1)
    (Int.natCast_nonneg (wireMilliseconds scale ticks)) (by rw [msPerDay]; omega)
  exact ⟨by rw [dayNumber, wireInstant, hday, Int.sub_add_cancel], htime⟩

theorem dayNumber_bytes {t : Int} {days : Nat} (h : dayNumber t = days) (hdays : days ≤ 3652058) :
    (dayNumber t % 16777216).toNat = days := by
  omega

theorem DateTime2_writesBack_iff {options : ParserOptions} (hutc : options.useUTC = true)
    (inRange : Int → Int → Int → Bool) (message : String) {scale ticks days : Nat}
    (hscale : scale ≤ 7) (hticks : ticks < unitsPerDay scale) (hdays : days ≤ 3652058) :
    WritesBack (acceptDate js inRange message) (TYPES.DateTime2 js.exact true)
        (readDateTime2 options (timeSize scale + 3 : Nat) (some scale)) scale
        (leBytes (timeSize scale) ticks ++ leBytes 3 days) [] ↔
      WholeMilliseconds scale ticks ∧ InLocalRange js inRange (wireInstant scale days ticks) := by
  obtain ⟨hday, htime⟩ := wireInstant_split days hscale hticks
  have hread := readDateTime2_reads hutc hscale hticks hdays
  refine writesBack_iff_of js hscale hticks htime (by rwa [List.append_nil])
    (show List.length ([] : Bytes) = 0 from rfl) ?_
  intro parameter h
  rw [DateTime2_data js true hscale h]
  show Except.ok [_ ++ (leBytes 3 (dayNumber (wireInstant scale days ticks) % 16777216).toNat ++
    [])] = _
  rw [dayNumber_bytes hday hdays, List.append_nil, List.append_nil]
  rfl

theorem DateTimeOffset_writesBack_iff {options : ParserOptions} (hzone : js.platform.IsTimeZone)
    (inRange : Int → Int → Int → Bool) (message : String) {scale ticks days : Nat}
    (hscale : scale ≤ 7) (hticks : ticks < unitsPerDay scale) (hdays : days ≤ 3652058)
    {offset : Bytes} (hoffset : offset.length = 2) :
    WritesBack (acceptDate js inRange message) (TYPES.DateTimeOffset js.exact)
        (readDateTimeOffset options (timeSize scale + 5 : Nat) (some scale)) scale
        (leBytes (timeSize scale) ticks ++ leBytes 3 days) offset ↔
      WholeMilliseconds scale ticks ∧ InLocalRange js inRange (wireInstant scale days ticks) := by
  obtain ⟨hday, htime⟩ := wireInstant_split days hscale hticks
  have hread : Reads (readDateTimeOffset options _ _) _ _ :=
    readDateTimeOffset_reads hscale hticks hdays hoffset
  obtain ⟨other, hlength, hdata⟩ :=
    DateTimeOffset_data js hzone (.ofTime (wireInstant scale days ticks)) hscale
  refine writesBack_iff_of js hscale hticks htime (by rwa [List.append_assoc])
    (hlength.trans hoffset.symm) ?_
  intro parameter h
  rw [hdata parameter h]
  show Except.ok [_ ++ (leBytes 3 (dayNumber (wireInstant scale days ticks) % 16777216).toNat ++
    other)] = _
  rw [dayNumber_bytes hday hdays, ← List.append_assoc]
  rfl

/-- **Writing back what was read.** A date that was read is written as it stood exactly when no
digit of its ticks lies below a millisecond. `validate` lets it pass when its local year is in
range. -/
theorem writesBack_iff (hzone : js.platform.IsTimeZone) (options : ParserOptions)
    (hutc : options.useUTC = true) {scale ticks days : Nat} {offset : Bytes} (hscale : scale ≤ 7)
    (hticks : ticks < unitsPerDay scale) (hdays : days ≤ 3652058) (hoffset : offset.length = 2) :
    (WritesBack (acceptAny js) (TYPES.Time js.exact true)
        (readTime options (timeSize scale : Nat) (some scale)) scale
        (leBytes (timeSize scale) ticks) [] ↔ WholeMilliseconds scale ticks) ∧
    (WritesBack (acceptAny js) (TYPES.DateTime2 js.exact true)
        (readDateTime2 options (timeSize scale + 3 : Nat) (some scale)) scale
        (leBytes (timeSize scale) ticks ++ leBytes 3 days) [] ↔ WholeMilliseconds scale ticks) ∧
    (WritesBack (acceptAny js) (TYPES.DateTimeOffset js.exact)
        (readDateTimeOffset options (timeSize scale + 5 : Nat) (some scale)) scale
        (leBytes (timeSize scale) ticks ++ leBytes 3 days) offset ↔
      WholeMilliseconds scale ticks) ∧
    (WritesBack (acceptYear js 1 9999) (TYPES.DateTime2 js.exact true)
        (readDateTime2 options (timeSize scale + 3 : Nat) (some scale)) scale
        (leBytes (timeSize scale) ticks ++ leBytes 3 days) [] ↔
      WholeMilliseconds scale ticks ∧
        InLocalRange js (fun year _ _ => 1 ≤ year && year ≤ 9999)
          (wireInstant scale days ticks)) ∧
    (WritesBack (acceptYear js 1 9999) (TYPES.DateTimeOffset js.exact)
        (readDateTimeOffset options (timeSize scale + 5 : Nat) (some scale)) scale
        (leBytes (timeSize scale) ticks ++ leBytes 3 days) offset ↔
      WholeMilliseconds scale ticks ∧
        InLocalRange js (fun year _ _ => 1 ≤ year && year ≤ 9999)
          (wireInstant scale days ticks)) := by
  have hany : ∀ t, WholeMilliseconds scale ticks ∧ InLocalRange js (fun _ _ _ => true) t ↔
      WholeMilliseconds scale ticks := fun t => and_iff_left rfl
  refine ⟨?_, ?_, ?_, ?_, ?_⟩
  · rw [← hany]
    exact Time_writesBack_iff js hutc _ _ hscale hticks
  · rw [← hany]
    exact DateTime2_writesBack_iff js hutc _ _ hscale hticks hdays
  · rw [← hany]
    exact DateTimeOffset_writesBack_iff js hzone _ _ hscale hticks hdays hoffset
  · exact DateTime2_writesBack_iff js hutc _ _ hscale hticks hdays
  · exact DateTimeOffset_writesBack_iff js hzone _ _ hscale hticks hdays hoffset

end WritingBack

/-- A thousandth of a second behind the midnight of January 2nd, 1. -/
theorem writesBack_millisecond :
    WritesBack (acceptAny numberRuntime) (TYPES.Time numberRuntime.exact true)
        (readTime (.default asciiPlatform) (timeSize 3 : Nat) (some 3)) 3 (leBytes (timeSize 3) 1)
        [] ∧
      WritesBack (acceptYear numberRuntime 1 9999) (TYPES.DateTimeOffset numberRuntime.exact)
        (readDateTimeOffset (.default asciiPlatform) (timeSize 3 + 5 : Nat) (some 3)) 3
        (leBytes (timeSize 3) 1 ++ leBytes 3 1) [0, 0] := by
  obtain ⟨htime, -, -, -, hoffset⟩ := writesBack_iff numberRuntime asciiPlatform_isTimeZone
    (.default asciiPlatform) (by decide) (show 3 ≤ 7 by decide)
    (show 1 < unitsPerDay 3 by decide) (show 1 ≤ 3652058 by decide)
    (show List.length [(0 : UInt8), 0] = 2 by decide)
  have hwhole : WholeMilliseconds 3 1 := one_dvd 1
  exact ⟨htime.2 hwhole, hoffset.2 ⟨hwhole, show _ = true by decide⟩⟩

/-- A tenth of a microsecond behind midnight is written back as midnight. -/
theorem not_writesBack :
    ¬ ∀ (js : Runtime) (options : ParserOptions) (scale ticks days : Nat) (offset : Bytes),
      js.platform.IsTimeZone → options.useUTC = true → scale ≤ 7 → ticks < unitsPerDay scale →
      days ≤ 3652058 → offset.length = 2 →
      WritesBack (acceptAny js) (TYPES.Time js.exact true)
          (readTime options (timeSize scale : Nat) (some scale)) scale
          (leBytes (timeSize scale) ticks) [] ∧
        WritesBack (acceptAny js) (TYPES.DateTime2 js.exact true)
          (readDateTime2 options (timeSize scale + 3 : Nat) (some scale)) scale
          (leBytes (timeSize scale) ticks ++ leBytes 3 days) [] ∧
        WritesBack (acceptAny js) (TYPES.DateTimeOffset js.exact)
          (readDateTimeOffset options (timeSize scale + 5 : Nat) (some scale)) scale
          (leBytes (timeSize scale) ticks ++ leBytes 3 days) offset := by
  intro h
  have htime := (h numberRuntime (.default asciiPlatform) 7 1 1 [0, 0] asciiPlatform_isTimeZone
    (by decide) (by decide) (by decide) (by decide) (by decide)).1
  have hwhole := ((Time_writesBack_iff numberRuntime (by decide) _ _ (by decide)
    (by decide)).1 htime).1
  exact absurd hwhole (show ¬ 10000 ∣ 1 by decide)

end Tedious
