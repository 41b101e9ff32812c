import Tedious.DataTypes.DateRoundTrip
import Tedious.DataTypes.Framing

/-!
# Tedious.DataTypes.DateRange

Which of the dates that `validate` accepts can be encoded. The callers of `validate` do not tell it
whether the connection keeps its dates in UTC, so that it counts years in local time, and the
encoders count in UTC: a date of the first or the last day is accepted for the wrong day
(`validated_iff`).
-/

namespace Tedious

open Chunked

/-! ### Years -/

/-- The year of four hundred that a day of them lies in; years begin in March. -/
theorem yearOfEra_mem {doe yoe : Int} (hlow : 0 ≤ doe) (hhigh : doe < 146097)
    (hyoe : yoe = (doe - doe / 1460 + doe / 36524 - doe / 146096) / 365) :
    0 ≤ yoe ∧ yoe ≤ 399 ∧ 365 * yoe + yoe / 4 - yoe / 100 ≤ doe ∧
      doe ≤ 365 * yoe + yoe / 4 - yoe / 100 + 365 := by
  have hcentury : doe / 36524 = 0 ∨ doe / 36524 = 1 ∨ doe / 36524 = 2 ∨ doe / 36524 = 3 ∨
      doe / 36524 = 4 := by omega
  have hlast : doe / 146096 = 0 ∨ doe / 146096 = 1 := by omega
  have hyear : yoe / 100 = 0 ∨ yoe / 100 = 1 ∨ yoe / 100 = 2 ∨ yoe / 100 = 3 := by omega
  rcases hcentury with hcentury | hcentury | hcentury | hcentury | hcentury <;>
    rcases hlast with hlast | hlast <;>
    rcases hyear with hyear | hyear | hyear | hyear <;> omega

/-- A year has 365 days or more. -/
theorem dayFromYear_succ (year : Int) : dayFromYear year + 365 ≤ dayFromYear (year + 1) := by
  rw [dayFromYear, dayFromYear]
  omega

theorem dayFromYear_lt_iff {year year' : Int} :
    dayFromYear year < dayFromYear year' ↔ year < year' := by
  have hmono : StrictMono dayFromYear := strictMono_int_of_lt_succ fun year => by
    have hsucc := dayFromYear_succ year
    omega
  exact hmono.lt_iff_lt

theorem dayFromYear_le_iff {year year' : Int} :
    dayFromYear year ≤ dayFromYear year' ↔ year ≤ year' := by
  rw [← not_lt, dayFromYear_lt_iff, not_lt]

/-- The days of a year, with those up to May 31st ahead of its last 214. -/
theorem civilFromDay_mem (day : Int) :
    dayFromYear (civilFromDay day).1 ≤ day ∧ day < dayFromYear ((civilFromDay day).1 + 1) ∧
      ((civilFromDay day).2.1 ≤ 5 → day < dayFromYear ((civilFromDay day).1 + 1) - 214) := by
  obtain ⟨doe, hdoe⟩ : ∃ doe, doe = (day + 719468) % 146097 := ⟨_, rfl⟩
  obtain ⟨yoe, hyoe⟩ : ∃ yoe, yoe = (doe - doe / 1460 + doe / 36524 - doe / 146096) / 365 :=
    ⟨_, rfl⟩
  obtain ⟨era, hera⟩ : ∃ era, era = (day + 719468) / 146097 := ⟨_, rfl⟩
  obtain ⟨hfirst, hlast, hlow, hhigh⟩ := yearOfEra_mem (by omega) (by omega) hyoe
  -- January 1st lies 306 days behind March 1st of the year before.
  have hjanuary : dayFromYear (yoe + era * 400 + 1) =
      era * 146097 + (365 * yoe + yoe / 4 - yoe / 100) + 306 - 719468 := by
    have h4 : (yoe + era * 400 + 1 - 1969) / 4 = yoe / 4 + era * 100 - 492 := by omega
    have h100 : (yoe + era * 400 + 1 - 1901) / 100 = yoe / 100 + era * 4 - 19 := by omega
    have h400 : (yoe + era * 400 + 1 - 1601) / 400 = era - 4 := by omega
    rw [dayFromYear, h4, h100, h400]
    omega
  have hbefore := dayFromYear_succ (yoe + era * 400)
  have hbehind := dayFromYear_succ (yoe + era * 400 + 1)
  have hday : day + 719468 = era * 146097 + doe := by omega
  obtain ⟨doy, hdoy⟩ : ∃ doy, doy = doe - (365 * yoe + yoe / 4 - yoe / 100) := ⟨_, rfl⟩
  obtain ⟨mp, hmp⟩ : ∃ mp, mp = (5 * doy + 2) / 153 := ⟨_, rfl⟩
  simp only [civilFromDay, ← hdoe, ← hyoe, ← hera, ← hdoy, ← hmp]
  rcases lt_or_ge mp 10 with hspring | hwinter
  · have hmonth : ¬ mp + 3 ≤ 2 := by omega
    simp only [if_pos hspring, if_neg hmonth]
    omega
  · have hmonth : mp - 9 ≤ 2 := by omega
    simp only [if_neg hwinter.not_gt, if_pos hmonth]
    omega

/-- A day lies in a year or behind it when it is not before its first day. -/
theorem le_civilFromDay_iff {year day : Int} :
    year ≤ (civilFromDay day).1 ↔ dayFromYear year ≤ day := by
  obtain ⟨hlow, hhigh, -⟩ := civilFromDay_mem day
  constructor
  · intro h
    exact (dayFromYear_le_iff.2 h).trans hlow
  · intro h
    exact Int.lt_add_one_iff.1 (dayFromYear_lt_iff.1 (h.trans_lt hhigh))

/-- The year of a time value is one of a range. -/
def YearIn (low high t : Int) : Prop :=
  low ≤ (civilFromDay (dayOf t)).1 ∧ (civilFromDay (dayOf t)).1 ≤ high

theorem yearIn_iff {low high t : Int} :
    YearIn low high t ↔ dayFromYear low ≤ dayOf t ∧ dayOf t < dayFromYear (high + 1) := by
  have hhigh : (civilFromDay (dayOf t)).1 ≤ high ↔ dayOf t < dayFromYear (high + 1) := by
    rw [← not_lt, ← Int.add_one_le_iff, le_civilFromDay_iff, not_le]
  rw [YearIn, le_civilFromDay_iff, hhigh]

/-- The days of the types with a scale, and of `Date`. -/
theorem yearIn_dayNumber {t : Int} :
    YearIn 1 9999 t ↔ 0 ≤ dayNumber t ∧ dayNumber t ≤ 3652058 := by
  rw [yearIn_iff, dayNumber, ValidDate.EPOCH_1, show dayFromYear 1 = -719162 by decide,
    show dayFromYear (9999 + 1) = 2932897 by decide]
  omega

/-! ### What is accepted -/

/-- The days that `SmallDateTime` accepts. -/
def smallDateTimeRange (year month day : Int) : Bool :=
  1900 ≤ year && (year < 2079 || (year = 2079 && (month < 5 || (month = 5 && day ≤ 6))))

example (js : Runtime) (useUTC : Bool) : scalarType js useUTC .SmallDateTime =
    some (accepting (TYPES.SmallDateTime js useUTC)
      (acceptDate js smallDateTimeRange "Invalid date.")) := rfl

/-- A time zone as `IsTimeZone` has it, from which local times are taken back to UTC. -/
structure Platform.KeepsTime (platform : Platform) : Prop extends platform.IsTimeZone where
  utcUnderADay : ∀ t, -msPerDay < platform.utc t - t ∧ platform.utc t - t < msPerDay

section Accepted

variable {js : Runtime} {date : ValidDate} {value : JsValue}

theorem acceptDate_local {inRange : Int → Int → Int → Bool} {message : String}
    (h : acceptDate js inRange message value = .ok date) : InLocalRange js inRange date.time := by
  obtain ⟨d, hd⟩ := acceptDate_ok h
  rw [acceptDate_date] at hd
  split at hd
  · cases hd
  · dsimp only at hd
    split at hd
    · next hrange =>
      cases hd
      exact hrange
    · cases hd

theorem acceptYear_local {low high : Int} (h : acceptYear js low high value = .ok date) :
    YearIn low high (js.platform.localTime date.time) := by
  have hrange := acceptDate_local h
  simpa only [YearIn, InLocalRange, Bool.and_eq_true, decide_eq_true_eq] using hrange

/-- May 31st, 2079 is accepted at the latest, which leaves room for the time zone. -/
theorem acceptSmallDateTime_local
    (h : acceptDate js smallDateTimeRange "Invalid date." value = .ok date) :
    dayOf (js.platform.localTime date.time) ≤ 39962 := by
  have hrange := acceptDate_local h
  obtain ⟨-, hhigh, hmay⟩ := civilFromDay_mem (dayOf (js.platform.localTime date.time))
  rw [InLocalRange, smallDateTimeRange] at hrange
  simp only [Bool.and_eq_true, Bool.or_eq_true, decide_eq_true_eq] at hrange
  have h2080 : dayFromYear 2080 = 40177 := by decide
  obtain ⟨-, hbefore | ⟨hyear, hmonth⟩⟩ := hrange
  · have hle := dayFromYear_le_iff.2 (show (civilFromDay _).1 + 1 ≤ 2079 from hbefore)
    have h2079 : dayFromYear 2079 = 39812 := by decide
    omega
  · rw [hyear] at hmay
    have hlt := hmay (by omega)
    rw [show (2079 : Int) + 1 = 2080 by decide, h2080] at hlt
    omega

/-- The fields that the encoder looks at are those of the same day, or the next or the last. -/
theorem fields_near (hzone : js.platform.IsTimeZone) (useUTC : Bool) (date : ValidDate) :
    |dayOf (date.fields js useUTC) - dayOf (js.platform.localTime date.time)| ≤ 1 := by
  have hnear := hzone.underADay date.time
  rw [ValidDate.fields, abs_le, dayOf, dayOf]
  rw [msPerDay] at *
  split <;> omega

end Accepted

/-! ### Times of day -/

/-- Products and sums of what is not finite, as the language has them. -/
structure Runtime.KeepsNonFinite (js : Runtime) : Prop where
  multiply_infinity : ∀ q : Rat, 0 < q → js.multiply .infinity (.finite q) = .infinity
  multiply_negInfinity : ∀ q : Rat, 0 < q → js.multiply .negInfinity (.finite q) = .negInfinity
  multiply_nan : ∀ q : Rat, js.multiply .nan (.finite q) = .nan
  add_infinity : ∀ q : Rat, js.add (.finite q) .infinity = .infinity
  add_negInfinity : ∀ q : Rat, js.add (.finite q) .negInfinity = .negInfinity
  add_nan : ∀ q : Rat, js.add (.finite q) .nan = .nan

/-- Milliseconds and more seconds, in units of a scale and rounded, are a number of `k` bytes;
`NaN` is written as 0. -/
def FitsUnits (k n : Nat) (milliseconds : Int) : JsNumber → Prop
  | .finite q => -1 / 2 ≤ ((milliseconds : Rat) / 1000 + q) * 10 ^ n ∧
      ((milliseconds : Rat) / 1000 + q) * 10 ^ n < 256 ^ k - 1 / 2
  | .infinity | .negInfinity => False
  | .nan => True

/-- The time of day, with the seconds of `delta`, fits the bytes of the scale. At scales 0 to 2 it
is cut to them. -/
def TimeFits (scale : Option JsNumber) (milliseconds : Int) (delta : Option JsNumber) : Prop :=
  ∀ n : Nat, 3 ≤ n → n ≤ 7 → scale = some (.ofNat n) →
    FitsUnits (timeSize n) n milliseconds (delta.getD (.ofNat 0))

theorem roundedUnits_fits_iff {n k : Nat} {milliseconds : Int} {q : Rat} :
    (0 ≤ roundedUnits n milliseconds q ∧ roundedUnits n milliseconds q < 256 ^ k) ↔
      -1 / 2 ≤ ((milliseconds : Rat) / 1000 + q) * 10 ^ n ∧
        ((milliseconds : Rat) / 1000 + q) * 10 ^ n < 256 ^ k - 1 / 2 := by
  rw [roundedUnits, Int.le_floor, Int.floor_lt]
  push_cast
  constructor <;> rintro ⟨hlow, hhigh⟩ <;> constructor <;> linarith

theorem ofNat_inj {m n : Nat} (h : JsNumber.ofNat m = .ofNat n) : m = n := by
  rw [JsNumber.ofNat, JsNumber.ofNat, JsNumber.finite.injEq] at h
  exact_mod_cast h

theorem scaleSize_cases (scale : Option JsNumber) :
    scaleSize scale = none ∨ ∃ n ≤ 7, scale = some (.ofNat n) := by
  have hmem : ∀ ns : List Nat, (∀ n ∈ ns, n ≤ 7) →
      scale ∈ ns.map (fun n => some (JsNumber.ofNat n)) → ∃ n ≤ 7, scale = some (.ofNat n) := by
    intro ns hns h
    obtain ⟨n, hn, rfl⟩ := List.mem_map.1 h
    exact ⟨n, hns n hn, rfl⟩
  rw [scaleSize]
  split
  · next h => exact .inr (hmem _ (by decide) h)
  · split
    · next h => exact .inr (hmem _ (by decide) h)
    · split
      · next h => exact .inr (hmem _ (by decide) h)
      · exact .inl rfl

theorem writeUIntLE_writes_iff {k : Nat} {n : Int} :
    (∃ bytes, writeUIntLE k (.ofInt n) = .ok bytes) ↔ 0 ≤ n ∧ n < 256 ^ k := by
  constructor
  · rintro ⟨bytes, h⟩
    obtain ⟨m, hm, rfl, -⟩ := writeUIntLE_ofInt_ok h
    exact ⟨Int.natCast_nonneg m, by exact_mod_cast hm⟩
  · rintro ⟨hlow, hhigh⟩
    obtain ⟨m, rfl⟩ := Int.eq_ofNat_of_zero_le hlow
    exact ⟨_, by rw [ofInt_natCast]; exact writeUIntLE_ofNat (by exact_mod_cast hhigh)⟩

theorem writeUInt40LE_writes_iff {n : Int} :
    (∃ bytes, writeUInt40LE (.ofInt n) = .ok bytes) ↔ 0 ≤ n ∧ n < 256 ^ 5 := by
  have hhigh : (JsNumber.ofInt n).shiftRight32.floor = .ofInt (n / 4294967296) := by
    refine congrArg JsNumber.ofInt ?_
    exact Rat.floor_intCast_div_natCast n 4294967296
  have hbyte : (0 ≤ n ∧ n < 256 ^ 5) ↔ 0 ≤ n / 4294967296 ∧ n / 4294967296 < 256 ^ 1 := by
    norm_num
    omega
  rw [hbyte, ← writeUIntLE_writes_iff, writeUInt40LE,
    writeIntLE_of_fits (by decide) (toInt32_fits _), hhigh]
  constructor
  · rintro ⟨bytes, h⟩
    obtain ⟨low, -, h⟩ := Except.bind_ok h
    obtain ⟨high, hwrite, -⟩ := Except.bind_ok h
    exact ⟨high, hwrite⟩
  · rintro ⟨high, hwrite⟩
    rw [hwrite]
    exact ⟨_, rfl⟩

section Timestamps

variable {js : Runtime}

/-- The units of a scale that milliseconds and more seconds are rounded to. -/
def unitsAt (n : Nat) (milliseconds : Int) : JsNumber → JsNumber
  | .finite q => .ofInt (roundedUnits n milliseconds q)
  | .infinity => .infinity
  | .negInfinity => .negInfinity
  | .nan => .nan

theorem scaledTime_units (hjs : js.KeepsNonFinite) (n : Nat) (milliseconds : Int)
    (date : ValidDate) :
    date.scaledTime js.exact (some (.ofNat n)) milliseconds =
      unitsAt n milliseconds (date.nanosecondDelta.getD (.ofNat 0)) := by
  have hpos : (0 : Rat) < 10 ^ n := by positivity
  cases hdelta : date.nanosecondDelta.getD (.ofNat 0) with
  | finite q => exact scaledTime_finite js n milliseconds hdelta
  | infinity =>
    rw [scaledTime_eq, hdelta]
    show (js.exact.add _ (js.multiply .infinity (.finite (10 ^ n)))).round = _
    rw [hjs.multiply_infinity _ hpos]
    exact congrArg JsNumber.round (hjs.add_infinity _)
  | negInfinity =>
    rw [scaledTime_eq, hdelta]
    show (js.exact.add _ (js.multiply .negInfinity (.finite (10 ^ n)))).round = _
    rw [hjs.multiply_negInfinity _ hpos]
    exact congrArg JsNumber.round (hjs.add_negInfinity _)
  | nan =>
    rw [scaledTime_eq, hdelta]
    show (js.exact.add _ (js.multiply .nan (.finite (10 ^ n)))).round = _
    rw [hjs.multiply_nan]
    exact congrArg JsNumber.round (hjs.add_nan _)

/-- A writer of `k` bytes, on what a time of day can be. -/
theorem unitsAt_writes_iff {write : JsNumber → Except JsError Bytes} {k n : Nat}
    {milliseconds : Int} {delta : JsNumber}
    (hfinite : ∀ m : Int, (∃ bytes, write (.ofInt m) = .ok bytes) ↔ 0 ≤ m ∧ m < 256 ^ k)
    (hinfinity : ∀ bytes, write .infinity ≠ .ok bytes)
    (hnegInfinity : ∀ bytes, write .negInfinity ≠ .ok bytes)
    (hnan : ∃ bytes, write .nan = .ok bytes) :
    (∃ bytes, write (unitsAt n milliseconds delta) = .ok bytes) ↔
      FitsUnits k n milliseconds delta := by
  cases delta with
  | finite q => exact (hfinite _).trans roundedUnits_fits_iff
  | infinity => exact iff_of_false (fun ⟨bytes, h⟩ => hinfinity bytes h) id
  | negInfinity => exact iff_of_false (fun ⟨bytes, h⟩ => hnegInfinity bytes h) id
  | nan => exact iff_of_true hnan trivial

theorem writeUIntLE_infinity {k : Nat} {n : JsNumber} (h : n = .infinity ∨ n = .negInfinity)
    (bytes : Bytes) : writeUIntLE k n ≠ .ok bytes := by
  intro hwrite
  obtain rfl | rfl := h <;> cases hwrite

theorem writeUInt40LE_infinity {n : JsNumber} (h : n = .infinity ∨ n = .negInfinity)
    (bytes : Bytes) : writeUInt40LE n ≠ .ok bytes := by
  intro hwrite
  obtain ⟨low, -, hwrite⟩ := Except.bind_ok hwrite
  obtain ⟨high, hhigh, -⟩ := Except.bind_ok hwrite
  rcases h with rfl | rfl <;> cases hhigh

/-- A time of day is written exactly when it fits. -/
theorem writeTimestamp_iff (hjs : js.KeepsNonFinite) (scale : Option JsNumber)
    (milliseconds : Int) (date : ValidDate) :
    (∃ bytes, ValidDate.writeTimestamp scale (date.scaledTime js.exact scale milliseconds) =
      .ok bytes) ↔ TimeFits scale milliseconds date.nanosecondDelta := by
  rcases scaleSize_cases scale with hnone | ⟨n, hn, rfl⟩
  · rw [ValidDate.writeTimestamp, hnone]
    refine iff_of_true ⟨_, rfl⟩ fun n _ hn hscale => ?_
    rw [hscale, scaleSize_ofNat hn] at hnone
    cases hnone
  · have hfits : TimeFits (some (.ofNat n)) milliseconds date.nanosecondDelta ↔
        (3 ≤ n → FitsUnits (timeSize n) n milliseconds (date.nanosecondDelta.getD (.ofNat 0))) :=
      ⟨fun h h3 => h n h3 hn rfl, fun h m h3 h7 hm => by
        obtain rfl := ofNat_inj (Option.some.inj hm)
        exact h h3⟩
    rw [hfits, scaledTime_units hjs, ValidDate.writeTimestamp, scaleSize_ofNat hn]
    rcases (by omega : n ≤ 2 ∨ (2 < n ∧ n ≤ 4) ∨ 4 < n) with h2 | ⟨h2, h4⟩ | h4
    · rw [timeSize, if_pos h2]
      exact iff_of_true ⟨_, rfl⟩ fun h3 => absurd h3 (by omega)
    · rw [imp_iff_right (by omega), timeSize, if_neg (by omega), if_pos h4]
      exact unitsAt_writes_iff (fun m => writeUIntLE_writes_iff)
        (writeUIntLE_infinity (.inl rfl)) (writeUIntLE_infinity (.inr rfl)) ⟨_, rfl⟩
    · rw [imp_iff_right (by omega), timeSize, if_neg (by omega), if_neg (by omega)]
      exact unitsAt_writes_iff (fun m => writeUInt40LE_writes_iff)
        (writeUInt40LE_infinity (.inl rfl)) (writeUInt40LE_infinity (.inr rfl)) ⟨_, rfl⟩

/-- Nothing is written at a scale that there is not. -/
theorem length_timestamp {scale : Option JsNumber} {timestamp : JsNumber} {bytes : Bytes}
    (h : ValidDate.writeTimestamp scale timestamp = .ok bytes) :
    bytes.length = (scaleSize scale).getD 0 := by
  cases hsize : scaleSize scale with
  | some size => exact length_writeTimestamp hsize h
  | none =>
    rw [ValidDate.writeTimestamp, hsize] at h
    cases h
    rfl

end Timestamps

/-! ### Encoding -/

/-- A day number in range behind so many bytes. -/
def EncodesDay (front : Nat) (data : Except JsError (List Bytes)) : Prop :=
  ∃ time days behind, List.length time = front ∧ days ≤ 3652058 ∧
    data = .ok [time ++ (leBytes 3 days ++ behind)]

/-- A day and the ticks of a `DateTime`, in range. -/
def EncodesDateTime (data : Except JsError (List Bytes)) : Prop :=
  ∃ days ticks : Int, -53690 ≤ days ∧ days ≤ 2958463 ∧ 0 ≤ ticks ∧ ticks < 25920000 ∧
    data = .ok [dateTimeBytes days ticks]

/-- A day and the minutes of a `SmallDateTime`, in range. -/
def EncodesSmallDateTime (data : Except JsError (List Bytes)) : Prop :=
  ∃ days minutes : Nat, days ≤ 65535 ∧ minutes ≤ 1439 ∧
    data = .ok [leBytes 2 days ++ leBytes 2 minutes]

section Encoding

variable (js : Runtime) (useUTC : Bool) {date : ValidDate} {parameter : ParameterData ValidDate}

/-- The day is near enough to the range not to be cut into it. -/
theorem encodesDay_iff {front : Nat} {time : Except JsError Bytes} {day : Int} {behind : Bytes}
    (hfront : ∀ bytes, time = .ok bytes → bytes.length = front) (hlow : -1 ≤ day)
    (hhigh : day ≤ 3652059) :
    EncodesDay front (do
        let time ← time
        pure [time ++ (leBytes 3 (day % 16777216).toNat ++ behind)]) ↔
      (∃ bytes, time = .ok bytes) ∧ 0 ≤ day ∧ day ≤ 3652058 := by
  constructor
  · rintro ⟨written, days, behind', hwritten, hdays, h⟩
    obtain ⟨bytes, htime, h⟩ := Except.bind_ok h
    have hbytes := List.singleton_inj.1 (Except.ok.inj h)
    obtain ⟨-, htail⟩ := List.append_inj hbytes (by rw [hfront bytes htime, hwritten])
    obtain ⟨hday, -⟩ := List.append_inj htail (by rw [length_leBytes, length_leBytes])
    have hsame := leBytes_inj (by omega) (by omega) hday
    exact ⟨⟨bytes, htime⟩, by omega⟩
  · rintro ⟨⟨bytes, htime⟩, hday⟩
    rw [htime]
    exact ⟨bytes, _, behind, hfront bytes htime, by omega, rfl⟩

theorem fixedData_some_bind {α : Type} (write : α → Except JsError Bytes) (value : α) :
    fixedData write (some value) = (do
      let data ← write value
      pure [data]) := rfl

/-- In local time an accepted date is encoded as the day that it was accepted for. -/
theorem yearIn_fields {low high : Int} (hlocal : YearIn low high (js.platform.localTime date.time)) :
    YearIn low high (date.fields js useUTC) ↔ (useUTC = true → YearIn low high date.time) := by
  cases useUTC with
  | true => exact ⟨fun h _ => h, fun h => h rfl⟩
  | false => exact iff_of_true hlocal nofun

theorem dayNumber_near (hzone : js.platform.IsTimeZone)
    (hlocal : YearIn 1 9999 (js.platform.localTime date.time)) (useUTC : Bool) :
    -1 ≤ dayNumber (date.fields js useUTC) ∧ dayNumber (date.fields js useUTC) ≤ 3652059 := by
  have hnear := abs_le.1 (fields_near hzone useUTC date)
  have hday := yearIn_dayNumber.1 hlocal
  rw [dayNumber] at *
  omega

theorem Date_encodes_iff
    (hlocal : YearIn 1 9999 (js.platform.localTime date.time))
    (hvalue : parameter.value = some date) :
    EncodesDay 0 ((TYPES.Date js.exact useUTC).generateParameterData parameter) ↔
      (useUTC = true → YearIn 1 9999 date.time) := by
  have hgenerate : (TYPES.Date js.exact useUTC).generateParameterData parameter =
      fixedData (fun date => writeUIntLE 3 (.ofInt (date.daysSince js ValidDate.EPOCH_1 useUTC)))
        parameter.value := rfl
  have hday : date.daysSince js ValidDate.EPOCH_1 useUTC = dayNumber (date.fields js useUTC) := rfl
  rw [← yearIn_fields js useUTC hlocal, yearIn_dayNumber, hgenerate, hvalue, fixedData_some_bind,
    hday]
  constructor
  · rintro ⟨time, days, behind, htime, hdays, h⟩
    obtain ⟨bytes, hwrite, h⟩ := Except.bind_ok h
    obtain ⟨m, hm, hsame, rfl⟩ := writeUIntLE_ofInt_ok hwrite
    rw [List.eq_nil_of_length_eq_zero htime] at h
    have hbytes : leBytes 3 m = leBytes 3 days ++ behind :=
      List.singleton_inj.1 (Except.ok.inj h)
    rw [← List.append_nil (leBytes 3 m)] at hbytes
    obtain ⟨hday, -⟩ := List.append_inj hbytes (by rw [length_leBytes, length_leBytes])
    have heq := leBytes_inj hm (by omega) hday
    omega
  · rintro ⟨hlow, hhigh⟩
    obtain ⟨days, hdays⟩ := Int.eq_ofNat_of_zero_le hlow
    rw [hdays, ofInt_natCast, writeUIntLE_ofNat (by omega)]
    exact ⟨[], days, [], rfl, by omega, by rw [List.nil_append, List.append_nil]; rfl⟩

theorem DateTime2_encodes_iff (hzone : js.platform.IsTimeZone) (hjs : js.KeepsNonFinite)
    (hlocal : YearIn 1 9999 (js.platform.localTime date.time))
    (hvalue : parameter.value = some date) :
    EncodesDay ((scaleSize parameter.scale).getD 0)
        ((TYPES.DateTime2 js.exact useUTC).generateParameterData parameter) ↔
      (useUTC = true → YearIn 1 9999 date.time) ∧
        TimeFits parameter.scale (timeWithinDay (date.fields js useUTC)) date.nanosecondDelta := by
  have hgenerate : (TYPES.DateTime2 js.exact useUTC).generateParameterData parameter =
      fixedData (fun date => do
        let timestamp ← ValidDate.writeTimestamp parameter.scale
          (date.timestamp js.exact parameter.scale useUTC)
        pure (timestamp ++ date.writeDays js.exact useUTC)) parameter.value := rfl
  have hdays : date.writeDays js.exact useUTC =
      leBytes 3 (dayNumber (date.fields js useUTC) % 16777216).toNat ++ [] :=
    (writeUInt24LE_ofInt _).trans (List.append_nil _).symm
  obtain ⟨hlow, hhigh⟩ := dayNumber_near js hzone hlocal useUTC
  rw [← yearIn_fields js useUTC hlocal, yearIn_dayNumber, hgenerate, hvalue, fixedData_some_bind,
    hdays, ← writeTimestamp_iff hjs, and_comm, bind_assoc]
  exact encodesDay_iff (fun _ h => length_timestamp h) hlow hhigh

theorem DateTimeOffset_encodes_iff (hzone : js.platform.IsTimeZone) (hjs : js.KeepsNonFinite)
    (hlocal : YearIn 1 9999 (js.platform.localTime date.time))
    (hvalue : parameter.value = some date) :
    EncodesDay ((scaleSize parameter.scale).getD 0)
        ((TYPES.DateTimeOffset js.exact).generateParameterData parameter) ↔
      YearIn 1 9999 date.time ∧
        TimeFits parameter.scale (timeWithinDay date.time) date.nanosecondDelta := by
  obtain ⟨offset, -, hoffset⟩ := timezoneOffset_writes js hzone date.time
  have hgenerate : (TYPES.DateTimeOffset js.exact).generateParameterData parameter =
      fixedData (fun date => do
        let timestamp ← ValidDate.writeTimestamp parameter.scale
          (date.offsetTimestamp js.exact parameter.scale)
        let offset ← writeIntLE 2 (.finite (-ValidDate.timezoneOffset js.exact date.time))
        pure (timestamp ++ (date.writeDays js.exact true ++ offset))) parameter.value := rfl
  have hdays : date.writeDays js.exact true =
      leBytes 3 (dayNumber date.time % 16777216).toNat := writeUInt24LE_ofInt _
  have htime : date.offsetTimestamp js.exact parameter.scale =
      date.scaledTime js.exact parameter.scale (timeWithinDay date.time) := by
    have hwhole := hzone.wholeSeconds date.time
    refine congrArg (fun n => date.scaledTime js.exact parameter.scale n) ?_
    show timeWithinDay date.time / 1000 * 1000 + js.platform.localTime date.time % 1000 = _
    rw [timeWithinDay, msPerDay]
    omega
  obtain ⟨hlow, hhigh⟩ := dayNumber_near js hzone hlocal true
  rw [yearIn_dayNumber, hgenerate, hvalue, fixedData_some_bind, hdays, htime, hoffset,
    ← writeTimestamp_iff hjs, and_comm, bind_assoc]
  exact encodesDay_iff (fun _ h => length_timestamp h) hlow hhigh

/-- The carry at midnight is one millisecond early. -/
theorem dateTimeTicks_day (t : Int) :
    (dateTimeTicks t).1 = dayOf (t + 1) + ValidDate.EPOCH_1900 := by
  have hmem := timeWithinDay_mem t
  have hcarry : threeHundredths (timeWithinDay t) = 25920000 ↔ timeWithinDay t = 86399999 := by
    rw [threeHundredths]
    rw [msPerDay] at hmem
    omega
  have hsum := dayOf_mul_add t
  rw [dateTimeTicks]
  split
  · next h =>
    have hlast := hcarry.1 h
    rw [dayOf, dayOf] at *
    rw [msPerDay] at *
    dsimp only
    omega
  · next h =>
    have hlast := mt hcarry.2 h
    rw [dayOf, dayOf] at *
    rw [msPerDay] at *
    dsimp only
    omega

theorem DateTime_encodes_iff (hzone : js.platform.IsTimeZone)
    (hlocal : YearIn 1753 9999 (js.platform.localTime date.time))
    (hvalue : parameter.value = some date) :
    EncodesDateTime ((TYPES.DateTime js.exact useUTC).generateParameterData parameter) ↔
      YearIn 1753 9999 (date.fields js useUTC + 1) := by
  have hnear := abs_le.1 (fields_near hzone useUTC date)
  have hday := dateTimeTicks_day (date.fields js useUTC)
  have hstep : dayOf (date.fields js useUTC) ≤ dayOf (date.fields js useUTC + 1) ∧
      dayOf (date.fields js useUTC + 1) ≤ dayOf (date.fields js useUTC) + 1 := by
    rw [dayOf, dayOf, msPerDay]
    omega
  have h1753 : dayFromYear 1753 = -79257 := by decide
  have h10000 : dayFromYear (9999 + 1) = 2932897 := by decide
  rw [yearIn_iff, h1753, h10000] at hlocal ⊢
  have hfits : FitsInt 4 (dateTimeTicks (date.fields js useUTC)).1 := by
    rw [hday, FitsInt, ValidDate.EPOCH_1900]
    omega
  have hmem := dateTimeTicks_mem (date.fields js useUTC)
  rw [DateTime_data js useUTC hvalue hfits]
  constructor
  · rintro ⟨days, ticks, hlow, hhigh, -, -, h⟩
    have hbytes := List.singleton_inj.1 (Except.ok.inj h)
    obtain ⟨hsame, -⟩ := List.append_inj hbytes (by rw [length_leIntBytes, length_leIntBytes])
    have hdays := congrArg leInt hsame
    rw [leInt_leIntBytes hfits, leInt_leIntBytes (by rw [FitsInt]; omega), hday,
      ValidDate.EPOCH_1900] at hdays
    omega
  · rintro ⟨hlow, hhigh⟩
    rw [ValidDate.EPOCH_1900] at hday
    exact ⟨_, _, by omega, by omega, hmem.1, hmem.2, rfl⟩

theorem SmallDateTime_encodes_iff (hzone : js.platform.KeepsTime)
    (hlocal : dayOf (js.platform.localTime date.time) ≤ 39962)
    (hvalue : parameter.value = some date) :
    EncodesSmallDateTime ((TYPES.SmallDateTime js.exact useUTC).generateParameterData parameter) ↔
      epochDate js useUTC ≤ date.fields js useUTC := by
  have hgenerate : (TYPES.SmallDateTime js.exact useUTC).generateParameterData parameter =
      fixedData (writeSmallDateTime js.exact useUTC) parameter.value := rfl
  have hwrite : writeSmallDateTime js.exact useUTC date = (do
      let days ← writeUIntLE 2
        (.ofInt ((date.fields js useUTC - epochDate js useUTC) / msPerDay))
      let minutes ← writeUIntLE 2 (.ofInt (timeWithinDay (date.fields js useUTC) / 60000))
      pure (days ++ minutes)) := rfl
  have hnear := abs_le.1 (fields_near hzone.toIsTimeZone useUTC date)
  have hepoch : dayFromYear 1900 * msPerDay - 2 * msPerDay < epochDate js useUTC := by
    have hutc := hzone.utcUnderADay (dayFromYear 1900 * msPerDay)
    have htime := hzone.underADay (js.platform.utc (dayFromYear 1900 * msPerDay))
    rw [epochDate]
    split
    · rw [msPerDay]
      omega
    · omega
  have hmem := timeWithinDay_mem (date.fields js useUTC)
  have hsum := dayOf_mul_add (date.fields js useUTC)
  rw [show dayFromYear 1900 = -25567 by decide] at hepoch
  rw [hgenerate, hvalue, fixedData_some_bind, hwrite]
  generalize date.fields js useUTC = t at *
  generalize epochDate js useUTC = epoch at *
  rw [msPerDay] at *
  constructor
  · rintro ⟨days, minutes, -, -, h⟩
    obtain ⟨bytes, h, -⟩ := Except.bind_ok h
    obtain ⟨front, h, -⟩ := Except.bind_ok h
    obtain ⟨m, -, hday, -⟩ := writeUIntLE_ofInt_ok h
    omega
  · intro hle
    obtain ⟨days, hdays⟩ := Int.eq_ofNat_of_zero_le (show 0 ≤ (t - epoch) / 86400000 by omega)
    obtain ⟨minutes, hminutes⟩ := Int.eq_ofNat_of_zero_le (show 0 ≤ timeWithinDay t / 60000 by omega)
    rw [hdays, hminutes, ofInt_natCast, ofInt_natCast, writeUIntLE_ofNat (by omega),
      writeUIntLE_ofNat (by omega)]
    exact ⟨days, minutes, by omega, by omega, rfl⟩

/-- **Accepted dates.** `validate` counts years in local time. What it accepts is encoded as a day in
range exactly when the date is in range in the fields that the encoder looks at too: in UTC where
`useUTC` is set, and always for `DateTimeOffset`. At midnight `DateTime` is a millisecond ahead, and
a `nanosecondDelta` must leave the time of day a size for its bytes. -/
theorem validated_iff (hzone : js.platform.KeepsTime) (hjs : js.KeepsNonFinite) (value : JsValue)
    (parameter : ParameterData ValidDate) (hvalue : parameter.value = some date) :
    (acceptYear js.exact 1 9999 value = .ok date →
      (EncodesDay 0 ((TYPES.Date js.exact useUTC).generateParameterData parameter) ↔
        (useUTC = true → YearIn 1 9999 date.time)) ∧
      (EncodesDay ((scaleSize parameter.scale).getD 0)
          ((TYPES.DateTime2 js.exact useUTC).generateParameterData parameter) ↔
        (useUTC = true → YearIn 1 9999 date.time) ∧
          TimeFits parameter.scale (timeWithinDay (date.fields js useUTC)) date.nanosecondDelta) ∧
      (EncodesDay ((scaleSize parameter.scale).getD 0)
          ((TYPES.DateTimeOffset js.exact).generateParameterData parameter) ↔
        YearIn 1 9999 date.time ∧
          TimeFits parameter.scale (timeWithinDay date.time) date.nanosecondDelta)) ∧
    (acceptYear js.exact 1753 9999 value = .ok date →
      (EncodesDateTime ((TYPES.DateTime js.exact useUTC).generateParameterData parameter) ↔
        YearIn 1753 9999 (date.fields js useUTC + 1))) ∧
    (acceptDate js.exact smallDateTimeRange "Invalid date." value = .ok date →
      (EncodesSmallDateTime
          ((TYPES.SmallDateTime js.exact useUTC).generateParameterData parameter) ↔
        epochDate js useUTC ≤ date.fields js useUTC)) := by
  refine ⟨fun haccept => ?_, fun haccept => ?_, fun haccept => ?_⟩
  · have hlocal := acceptYear_local haccept
    exact ⟨Date_encodes_iff js useUTC hlocal hvalue,
      DateTime2_encodes_iff js useUTC hzone.toIsTimeZone hjs hlocal hvalue,
      DateTimeOffset_encodes_iff js hzone.toIsTimeZone hjs hlocal hvalue⟩
  · exact DateTime_encodes_iff js useUTC hzone.toIsTimeZone (acceptYear_local haccept) hvalue
  · exact SmallDateTime_encodes_iff js useUTC hzone (acceptSmallDateTime_local haccept) hvalue

end Encoding

/-- An engine in a time zone that is one hour ahead of UTC. -/
def hourAhead : Runtime :=
  { numberRuntime with
    platform := { asciiPlatform with
      localTime := fun t => t + 3600000
      utc := fun t => t - 3600000 }
    add := fun
      | .finite _, n => n
      | m, _ => m
    multiply := fun m _ => m }

theorem hourAhead_keepsTime : hourAhead.platform.KeepsTime where
  wholeSeconds t := by
    show (t + 3600000 - t) % 1000 = 0
    omega
  underADay t := by
    show -msPerDay < t + 3600000 - t ∧ t + 3600000 - t < msPerDay
    rw [msPerDay]
    omega
  utcUnderADay t := by
    show -msPerDay < t - 3600000 - t ∧ t - 3600000 - t < msPerDay
    rw [msPerDay]
    omega

theorem hourAhead_keepsNonFinite : hourAhead.KeepsNonFinite where
  multiply_infinity _ _ := rfl
  multiply_negInfinity _ _ := rfl
  multiply_nan _ := rfl
  add_infinity _ := rfl
  add_negInfinity _ := rfl
  add_nan _ := rfl

/-- A parameter that is the date of a time value, in tenths of a microsecond. -/
def parameterOf (time : Int) : ParameterData ValidDate :=
  { length := none, precision := none, scale := some (.ofNat 7), collation := none,
    value := some { time, nanosecondDelta := none } }

/-- The first instant of 1970. -/
theorem validated_1970 :
    EncodesDay 0 ((TYPES.Date hourAhead.exact true).generateParameterData (parameterOf 0)) ∧
      EncodesDay 5 ((TYPES.DateTime2 hourAhead.exact true).generateParameterData (parameterOf 0)) ∧
      EncodesDateTime ((TYPES.DateTime hourAhead.exact true).generateParameterData
        (parameterOf 0)) ∧
      EncodesSmallDateTime ((TYPES.SmallDateTime hourAhead.exact true).generateParameterData
        (parameterOf 0)) := by
  obtain ⟨hdays, hdateTime, hsmall⟩ := validated_iff hourAhead true hourAhead_keepsTime
    hourAhead_keepsNonFinite (.date { time := some 0, nanosecondDelta := none })
    (parameterOf 0) rfl
  obtain ⟨hdate, hdateTime2, -⟩ := hdays rfl
  have hyear : YearIn 1 9999 0 := ⟨by decide, by decide⟩
  have hfits : TimeFits (some (.ofNat 7)) (timeWithinDay 0) none := by
    intro n _ hn hscale
    obtain rfl := ofNat_inj (Option.some.inj hscale)
    show -1 / 2 ≤ (((0 : Int) : Rat) / 1000 + (0 : Nat)) * 10 ^ 7 ∧
      (((0 : Int) : Rat) / 1000 + (0 : Nat)) * 10 ^ 7 < 256 ^ 5 - 1 / 2
    norm_num
  exact ⟨hdate.2 fun _ => hyear, hdateTime2.2 ⟨fun _ => hyear, hfits⟩,
    (hdateTime rfl).2 ⟨by decide, by decide⟩, (hsmall rfl).2 (by decide)⟩

/-- The first hour of the year 1, one hour ahead of UTC: it is accepted, and its day does not fit. -/
theorem not_validated :
    ¬ ∀ (js : Runtime) (useUTC : Bool) (value : JsValue) (date : ValidDate)
      (parameter : ParameterData ValidDate), js.platform.KeepsTime → js.KeepsNonFinite →
      parameter.value = some date →
      (acceptYear js.exact 1 9999 value = .ok date →
        EncodesDay 0 ((TYPES.Date js.exact useUTC).generateParameterData parameter) ∧
        EncodesDay ((scaleSize parameter.scale).getD 0)
          ((TYPES.DateTime2 js.exact useUTC).generateParameterData parameter) ∧
        EncodesDay ((scaleSize parameter.scale).getD 0)
          ((TYPES.DateTimeOffset js.exact).generateParameterData parameter)) ∧
      (acceptYear js.exact 1753 9999 value = .ok date →
        EncodesDateTime ((TYPES.DateTime js.exact useUTC).generateParameterData parameter)) ∧
      (acceptDate js.exact smallDateTimeRange "Invalid date." value = .ok date →
        EncodesSmallDateTime
          ((TYPES.SmallDateTime js.exact useUTC).generateParameterData parameter)) := by
  intro h
  obtain ⟨hdays, -⟩ := h hourAhead true
    (.date { time := some (-62135600400000), nanosecondDelta := none })
    { time := -62135600400000, nanosecondDelta := none } (parameterOf (-62135600400000))
    hourAhead_keepsTime hourAhead_keepsNonFinite rfl
  have haccept : acceptYear hourAhead.exact 1 9999
      (.date { time := some (-62135600400000), nanosecondDelta := none }) =
        .ok { time := -62135600400000, nanosecondDelta := none } := rfl
  have hlocal := acceptYear_local haccept
  have hyear := (Date_encodes_iff hourAhead true hlocal rfl).1 (hdays haccept).1 rfl
  exact absurd hyear.1 (by decide)

end Tedious
