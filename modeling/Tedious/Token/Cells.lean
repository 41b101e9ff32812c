import Tedious.DataTypes.ColumnValues
import Tedious.Token.Columns
import Tedious.Token.RowAgreement
import Tedious.VariantAgreement

/-!
# Tedious.Token.Cells

The values of a row or of a return value as a server means them: what it has for a column
(`Datum`, in the units of the type), how the type of the column frames it (`Cell`), and what
the client is to show for it. Under the description of its column each of them is encoded, so
that `readValue` or the PLP stream takes exactly its bytes and finds the value meant.
-/

namespace Tedious

open Chunked

/-! ### What a value is -/

/-- An integer of `k` bytes. -/
abbrev Signed (k : Nat) := { n : Int // FitsInt k n }

/-- A time of day in units of its scale, in three, four or five bytes. -/
structure TimeUnits where
  size : Nat
  units : Nat
  hsize : size ∈ [3, 4, 5]
  hunits : units < 256 ^ size

/-- The digits of a numeric in four, eight, twelve or sixteen bytes. -/
structure NumericDigits where
  size : Nat
  digits : Nat
  hsize : size ∈ [4, 8, 12, 16]
  hdigits : digits < 256 ^ size

/-- A value in the units of its type. Money is in ten-thousandths; the days count from January
1st, 1900 for the two older types of dates and from January 1st of the year 1 for the others. -/
inductive Datum
  | bit (b : Bool)
  | tinyInt (n : UInt8)
  | smallInt (n : Signed 2)
  | int (n : Signed 4)
  | bigInt (n : Signed 8)
  /-- The bits of an IEEE single. -/
  | real (bits : UInt32)
  /-- The bits of an IEEE double. -/
  | float (bits : UInt64)
  | smallMoney (n : Signed 4)
  | money (n : Signed 8)
  | uniqueIdentifier (data : { data : Bytes // data.length = 16 })
  | smallDateTime (days minutes : UInt16)
  | dateTime (days threeHundredths : Signed 4)
  | date (days : Fin (256 ^ 3))
  | time (t : TimeUnits)
  | dateTime2 (t : TimeUnits) (days : Fin (256 ^ 3))
  | dateTimeOffset (t : TimeUnits) (days : Fin (256 ^ 3)) (offset : UInt16)
  | numeric (value : NumericDigits) (negative : Bool)
  /-- Text in the code page of its collation. -/
  | chars (data : Bytes)
  | nchars (text : JsString)
  | binary (data : Bytes)

/-- The ticks of 100 nanoseconds of a time of day. -/
def TimeUnits.ticks (time : TimeUnits) (scale : Nat) : Nat := time.units * 10 ^ (7 - scale)

/-- A day has so many ticks. -/
def ticksPerDay : Nat := 864000000000

namespace Datum

/-- The types whose data it may be. -/
def types : Datum → List DataType
  | bit _ => [.Bit]
  | tinyInt _ => [.TinyInt]
  | smallInt _ => [.SmallInt]
  | int _ => [.Int]
  | bigInt _ => [.BigInt]
  | real _ => [.Real]
  | float _ => [.Float]
  | smallMoney _ => [.SmallMoney]
  | money _ => [.Money]
  | uniqueIdentifier _ => [.UniqueIdentifier]
  | smallDateTime .. => [.SmallDateTime]
  | dateTime .. => [.DateTime]
  | date _ => [.Date]
  | time _ => [.Time]
  | dateTime2 .. => [.DateTime2]
  | dateTimeOffset .. => [.DateTimeOffset]
  | numeric .. => [.NumericN, .DecimalN]
  | chars _ => [.VarChar, .Char]
  | nchars _ => [.NVarChar, .NChar]
  | binary _ => [.VarBinary, .Binary]

def bytes : Datum → Bytes
  | bit b => leBytes 1 b.toNat
  | tinyInt n => leBytes 1 n.toNat
  | smallInt n => leIntBytes 2 n.val
  | int n | smallMoney n => leIntBytes 4 n.val
  | bigInt n => leIntBytes 8 n.val
  | real bits => leBytes 4 bits.toNat
  | float bits => leBytes 8 bits.toNat
  -- The high half comes first.
  | money n => leIntBytes 4 (n.val / 4294967296) ++ leBytes 4 (n.val % 4294967296).toNat
  | uniqueIdentifier data => data.val
  | smallDateTime days minutes => leBytes 2 days.toNat ++ leBytes 2 minutes.toNat
  | dateTime days threeHundredths => leIntBytes 4 days.val ++ leIntBytes 4 threeHundredths.val
  | date days => leBytes 3 days.val
  | time t => leBytes t.size t.units
  | dateTime2 t days => leBytes t.size t.units ++ leBytes 3 days.val
  | dateTimeOffset t days offset =>
    leBytes t.size t.units ++ (leBytes 3 days.val ++ leBytes 2 offset.toNat)
  | numeric value negative =>
    leBytes 1 (if negative then 0 else 1) ++ leBytes value.size value.digits
  | chars data | binary data => data
  | nchars text => ucs2Bytes text

/-- A time of day is one, and up to the division the Numbers of an amount are exact. -/
def Fits (p : VariantProperties) : Datum → Prop
  | time t | dateTime2 t _ | dateTimeOffset t _ _ => t.ticks p.scale.toNat < ticksPerDay
  | money n => n.val.natAbs ≤ 2 ^ 53
  | numeric value _ => value.digits ≤ 2 ^ 53
  | _ => True

/-- The milliseconds and the rest of a time of day. -/
def shownTime (p : Platform) (useUTC : Bool) (year day : Int) (ticks : Nat) : Value :=
  .date (newDate p useUTC year day (ticks / 10000 : Nat)) (some (nanosecondsDelta ticks))

/-- What the client is to show: the scale and the collation are those of the description. -/
def value (options : ParserOptions) (p : VariantProperties) : Datum → Value
  | bit b => .boolean b
  | tinyInt n => .number n.toNat
  | smallInt n => .number n.val
  | int n => .number n.val
  | bigInt n => .string (JsString.ofString (toString n.val))
  | real bits => .float32 bits.toNat
  | float bits => .float64 bits.toNat
  | smallMoney n => .number (n.val / moneyDivisor)
  | money n => .number (n.val / moneyDivisor)
  | uniqueIdentifier data =>
    .string (JsString.ofString (bufferToGuid options.lowerCaseGuids data.val))
  | smallDateTime days minutes =>
    .date (newDate options.platform options.useUTC 1900 (1 + days.toNat) (minutes.toNat * 60000))
      none
  | dateTime days threeHundredths =>
    .date (newDate options.platform options.useUTC 1900 (1 + days.val)
      (threeAndAThird threeHundredths.val)) none
  | date days => .date (newDate options.platform options.useUTC 1 (1 + days.val) 0) none
  | time t => shownTime options.platform options.useUTC 1970 1 (t.ticks p.scale.toNat)
  | dateTime2 t days =>
    shownTime options.platform options.useUTC 1 (1 + days.val) (t.ticks p.scale.toNat)
  -- The offset is not shown: the result is the time in UTC.
  | dateTimeOffset t days _ =>
    shownTime options.platform true 1 (1 + days.val) (t.ticks p.scale.toNat)
  | numeric value negative =>
    .number ((if negative then -(value.digits : Rat) else value.digits) / 10 ^ p.scale.toNat)
  | chars data =>
    .string (decodeChars options.platform (Collation.fromBuffer p.collation).codepage data)
  | nchars text => .string text
  | binary data => .buffer data

end Datum

/-! ### The data of a type -/

/-- The local clock shows each time of January 1st, 1970 once. -/
def Platform.KeepsClock (p : Platform) : Prop :=
  ∀ ms : Int, 0 ≤ ms → ms < msPerDay →
    (p.utc ms).natAbs ≤ 8640000000000000 ∧ p.localTime (p.utc ms) = ms

/-- The years before 1970 of the calendar, in days. -/
theorem newDate_year_one (p : Platform) (useUTC : Bool) (days ms : Int) :
    newDate p useUTC 2000 (days - 730118) ms = newDate p useUTC 1 (1 + days) ms := by
  have hday : dayFromYear 2000 + (days - 730118) - 1 = dayFromYear 1 + (1 + days) - 1 := by
    rw [dayFromYear, dayFromYear]
    omega
  rw [newDate, newDate, hday]

/-- A day with a time of day is the instant of both. -/
theorem dateAt_timeOfDay {p : Platform} {useUTC : Bool} (hclock : useUTC = false → p.KeepsClock)
    (days : Nat) {ticks : Nat} (h : ticks < ticksPerDay) :
    dateAt p useUTC days (timeOfDay p useUTC ticks) =
      newDate p useUTC 1 (1 + days) (ticks / 10000 : Nat) := by
  have hms : ((ticks / 10000 : Nat) : Int) < msPerDay := by
    rw [ticksPerDay] at h
    rw [msPerDay]
    omega
  have hstart : (dayFromYear 1970 + 1 - 1) * msPerDay + ((ticks / 10000 : Nat) : Int) =
      ((ticks / 10000 : Nat) : Int) := by
    rw [dayFromYear, msPerDay]
    omega
  rw [dateAt, timeOfDay, ← newDate_year_one, newDate, hstart]
  cases useUTC with
  | true =>
    have hclip : timeClip ((ticks / 10000 : Nat) : Int) = some ((ticks / 10000 : Nat) : Int) := by
      rw [msPerDay] at hms
      exact if_pos (by omega)
    rw [if_pos rfl, hclip, Option.bind_some, if_pos rfl]
  | false =>
    obtain ⟨hrange, hlocal⟩ := hclock rfl _ (Int.natCast_nonneg _) hms
    have hclip : timeClip (p.utc ((ticks / 10000 : Nat) : Int)) =
        some (p.utc ((ticks / 10000 : Nat) : Int)) := if_pos hrange
    rw [if_neg Bool.false_ne_true, hclip, Option.bind_some, if_neg Bool.false_ne_true, hlocal,
      Int.emod_eq_of_lt (Int.natCast_nonneg _) hms]

/-- A day with a time of day as the readers put it together. -/
def shownAt (p : Platform) (useUTC : Bool) (days ticks : Nat) : Value :=
  .date (dateAt p useUTC days (timeOfDay p useUTC ticks)) (some (nanosecondsDelta ticks))

theorem shownAt_eq {p : Platform} {useUTC : Bool} (hclock : useUTC = false → p.KeepsClock)
    (days : Nat) {ticks : Nat} (h : ticks < ticksPerDay) :
    shownAt p useUTC days ticks = Datum.shownTime p useUTC 1 (1 + days) ticks := by
  rw [shownAt, Datum.shownTime, dateAt_timeOfDay hclock days h]

namespace Datum

variable {options : ParserOptions} {p : VariantProperties} {d : Datum} {type : DataType}

theorem readTicks_reads (time : TimeUnits) (scale : Nat) :
    Reads (readTicks time.size (some scale)) (leBytes time.size time.units) (time.ticks scale) := by
  have hunits := Reader.number_le time.hunits
  have htimes : Reads (readTimeUnits time.size) (leBytes time.size time.units) time.units := by
    obtain ⟨size, units, hsize, _⟩ := time
    simp only [List.mem_cons, List.not_mem_nil, or_false] at hsize
    rcases hsize with rfl | rfl | rfl <;> exact hunits
  exact htimes.map fun value => value * 10 ^ (7 - scale)

theorem readNumericDigits_reads (value : NumericDigits) :
    Reads (readNumericDigits ((1 + value.size : Nat) : Int)) (leBytes value.size value.digits)
      value.digits := by
  have hdigits := Reader.number_le value.hdigits
  obtain ⟨size, digits, hsize, _⟩ := value
  simp only [List.mem_cons, List.not_mem_nil, or_false] at hsize
  rcases hsize with rfl | rfl | rfl | rfl <;> exact hdigits

theorem readNumeric_reads (value : NumericDigits) (negative : Bool) :
    Reads (readNumeric ((1 + value.size : Nat) : Int) (some p.scale.toNat))
      (numeric value negative).bytes ((numeric value negative).value options p) := by
  have hreads (sign : Nat) (hsign : sign < 256) :
      Reads (readNumeric ((1 + value.size : Nat) : Int) (some p.scale.toNat))
        (leBytes 1 sign ++ leBytes value.size value.digits) _ :=
    (readUInt8_reads hsign).bind ((readNumericDigits_reads value).map _)
  cases negative with
  | false =>
    have hpositive := hreads 1 (by decide)
    rw [if_pos rfl, mul_one] at hpositive
    exact hpositive
  | true =>
    have hnegative := hreads 0 (by decide)
    rw [if_neg (by decide), mul_neg_one] at hnegative
    exact hnegative

/-- The two halves of an amount of money. -/
theorem money_halves (n : Signed 8) :
    FitsInt 4 (n.val / 4294967296) ∧ (n.val % 4294967296).toNat < 256 ^ 4 ∧
      (((n.val % 4294967296).toNat : Nat) : Rat) +
        0x100000000 * ((n.val / 4294967296 : Int) : Rat) = (n.val : Rat) := by
  obtain ⟨hlow, hhigh⟩ := n.property
  have hnonneg : 0 ≤ n.val % 4294967296 := Int.emod_nonneg _ (by decide)
  refine ⟨⟨?_, ?_⟩, ?_, ?_⟩
  · omega
  · omega
  · omega
  · have hcast : (((n.val % 4294967296).toNat : Nat) : Rat) =
        ((n.val % 4294967296 : Int) : Rat) := by
      rw [← Int.cast_natCast, Int.toNat_of_nonneg hnonneg]
    have hsum : n.val % 4294967296 + 4294967296 * (n.val / 4294967296) = n.val :=
      Int.emod_add_mul_ediv n.val 4294967296
    rw [hcast]
    exact_mod_cast congrArg (Int.cast : Int → Rat) hsum

theorem readMoney_reads (n : Signed 8) :
    Reads readMoney (money n).bytes (.number (n.val / moneyDivisor)) := by
  obtain ⟨hhigh, hlow, hsum⟩ := money_halves n
  have hreads : Reads readMoney (money n).bytes _ :=
    (Reader.number_int hhigh).bind ((Reader.number_le hlow).map _)
  rw [hsum] at hreads
  exact hreads

theorem readDateTime2_reads (hclock : options.useUTC = false → options.platform.KeepsClock)
    {t : TimeUnits} (hfits : t.ticks p.scale.toNat < ticksPerDay) (days : Fin (256 ^ 3)) :
    Reads (readDateTime2 options ((t.size + 3 : Nat) : Int) (some p.scale.toNat))
      (dateTime2 t days).bytes ((dateTime2 t days).value options p) := by
  have hticks : ((t.size + 3 : Nat) : Int) - 3 = t.size := by omega
  have hreads : Reads (readDateTime2 options ((t.size + 3 : Nat) : Int) (some p.scale.toNat))
      (dateTime2 t days).bytes
      (shownAt options.platform options.useUTC days.val (t.ticks p.scale.toNat)) := by
    rw [readDateTime2, hticks]
    exact (readTicks_reads t _).bind ((Reader.number_le days.isLt).map _)
  rw [shownAt_eq hclock days.val hfits] at hreads
  exact hreads

/-- The offset is read and left alone. -/
theorem readDateTimeOffset_reads {t : TimeUnits} (hfits : t.ticks p.scale.toNat < ticksPerDay)
    (days : Fin (256 ^ 3)) (offset : UInt16) :
    Reads (readDateTimeOffset options ((t.size + 5 : Nat) : Int) (some p.scale.toNat))
      (dateTimeOffset t days offset).bytes ((dateTimeOffset t days offset).value options p) := by
  have hticks : ((t.size + 5 : Nat) : Int) - 5 = t.size := by omega
  have hreads : Reads
      (readDateTimeOffset options ((t.size + 5 : Nat) : Int) (some p.scale.toNat))
      (dateTimeOffset t days offset).bytes
      (shownAt options.platform true days.val (t.ticks p.scale.toNat)) := by
    rw [readDateTimeOffset, hticks]
    exact (readTicks_reads t _).bind ((Reader.number_le days.isLt).bind
      ((readUInt16LE_reads offset.toNat_lt).map _))
  rw [shownAt_eq (fun h : true = false => Bool.noConfusion h) days.val hfits] at hreads
  exact hreads

/-- Data of a type is read as what it means, and with exactly its bytes. -/
theorem reads (hclock : options.useUTC = false → options.platform.KeepsClock)
    (htype : type ∈ d.types) (hfits : d.Fits p) :
    Reads (readData options p d.bytes.length type) d.bytes (d.value options p) := by
  cases d with
  | bit b =>
    obtain rfl := List.mem_singleton.1 htype
    cases b with
    | false => exact (readUInt8_reads (n := 0) (by decide)).map _
    | true => exact (readUInt8_reads (n := 1) (by decide)).map _
  | tinyInt n =>
    obtain rfl := List.mem_singleton.1 htype
    exact (readUInt8_reads n.toNat_lt).map _
  | smallInt n =>
    obtain rfl := List.mem_singleton.1 htype
    exact (Reader.number_int n.property).map _
  | int n =>
    obtain rfl := List.mem_singleton.1 htype
    exact (Reader.number_int n.property).map _
  | bigInt n =>
    obtain rfl := List.mem_singleton.1 htype
    exact (Reader.number_int n.property).map _
  | real bits =>
    obtain rfl := List.mem_singleton.1 htype
    exact (Reader.number_le bits.toNat_lt).map _
  | float bits =>
    obtain rfl := List.mem_singleton.1 htype
    exact (Reader.number_le bits.toNat_lt).map _
  | smallMoney n =>
    obtain rfl := List.mem_singleton.1 htype
    exact (Reader.number_int n.property).map _
  | money n =>
    obtain rfl := List.mem_singleton.1 htype
    exact readMoney_reads n
  | uniqueIdentifier data =>
    obtain rfl := List.mem_singleton.1 htype
    have hreads := readBinary_reads data.val
    rw [data.property] at hreads
    exact hreads.map _
  | smallDateTime days minutes =>
    obtain rfl := List.mem_singleton.1 htype
    exact (readUInt16LE_reads days.toNat_lt).bind ((readUInt16LE_reads minutes.toNat_lt).map _)
  | dateTime days threeHundredths =>
    obtain rfl := List.mem_singleton.1 htype
    exact (Reader.number_int days.property).bind
      ((Reader.number_int threeHundredths.property).map _)
  | date days =>
    obtain rfl := List.mem_singleton.1 htype
    have hreads : Reads (readDate options) (date days).bytes _ :=
      (Reader.number_le days.isLt).map _
    rw [newDate_year_one] at hreads
    exact hreads
  | time t =>
    obtain rfl := List.mem_singleton.1 htype
    have hlength : (time t).bytes.length = t.size := length_leBytes ..
    rw [hlength]
    exact (readTicks_reads t _).map _
  | dateTime2 t days =>
    obtain rfl := List.mem_singleton.1 htype
    have hlength : (dateTime2 t days).bytes.length = t.size + 3 := by simp [bytes]
    rw [hlength]
    exact readDateTime2_reads hclock hfits days
  | dateTimeOffset t days offset =>
    obtain rfl := List.mem_singleton.1 htype
    have hlength : (dateTimeOffset t days offset).bytes.length = t.size + 5 := by simp [bytes]
    rw [hlength]
    exact readDateTimeOffset_reads hfits days offset
  | numeric value negative =>
    have hlength : (numeric value negative).bytes.length = 1 + value.size := by simp [bytes]
    rw [hlength]
    simp only [types, List.mem_cons, List.not_mem_nil, or_false] at htype
    rcases htype with rfl | rfl <;> exact readNumeric_reads value negative
  | chars data =>
    have hreads := readColumnChars_reads options (Collation.fromBuffer p.collation) data
    simp only [types, List.mem_cons, List.not_mem_nil, or_false] at htype
    rcases htype with rfl | rfl <;> exact hreads
  | nchars text =>
    have hreads := readColumnNChars_reads text
    simp only [types, List.mem_cons, List.not_mem_nil, or_false] at htype
    rcases htype with rfl | rfl <;> exact hreads
  | binary data =>
    have hreads := readColumnBinary_reads data
    simp only [types, List.mem_cons, List.not_mem_nil, or_false] at htype
    rcases htype with rfl | rfl <;> exact hreads

/-- The data has one of the lengths of its type. -/
theorem isDataLength_bytes (htype : type ∈ d.types) (hlength : d.bytes.length < 0xFFFF) :
    isDataLength d.bytes.length type = true := by
  cases d with
  | uniqueIdentifier data =>
    obtain rfl := List.mem_singleton.1 htype
    exact decide_eq_true data.property
  | time t =>
    obtain rfl := List.mem_singleton.1 htype
    have hsize := t.hsize
    simpa [isDataLength, bytes] using hsize
  | dateTime2 t days =>
    obtain rfl := List.mem_singleton.1 htype
    have hsize := t.hsize
    simpa [isDataLength, bytes] using hsize
  | dateTimeOffset t days offset =>
    obtain rfl := List.mem_singleton.1 htype
    have hsize := t.hsize
    simpa [isDataLength, bytes] using hsize
  | numeric value negative =>
    have hsize := value.hsize
    simp only [List.mem_cons, List.not_mem_nil, or_false] at hsize
    have hmem : 1 + value.size ∈ [5, 9, 13, 17] := by
      rcases hsize with hsize | hsize | hsize | hsize <;> rw [hsize] <;> decide
    simp only [types, List.mem_cons, List.not_mem_nil, or_false] at htype
    rcases htype with rfl | rfl <;> simpa [isDataLength, bytes] using hmem
  | chars data | nchars text | binary data =>
    simp only [types, List.mem_cons, List.not_mem_nil, or_false] at htype
    rcases htype with rfl | rfl <;> exact decide_eq_true hlength
  | _ =>
    obtain rfl := List.mem_singleton.1 htype
    simp [isDataLength, bytes]

end Datum

/-! ### Columns -/

/-- The types of data that a type with a length of one byte stands for. -/
def sizedBases : DataType → List DataType
  | .IntN => [.TinyInt, .SmallInt, .Int, .BigInt]
  | .FloatN => [.Real, .Float]
  | .MoneyN => [.SmallMoney, .Money]
  | .BitN => [.Bit]
  | .UniqueIdentifier => [.UniqueIdentifier]
  | .DateTimeN => [.SmallDateTime, .DateTime]
  | _ => []

namespace TypeDescription

/-- The types of the data in a column. -/
def bases : TypeDescription → List DataType
  | fixed type _ | text type _ _ _ | binary type _ _ | scaled type _ _ | numeric type _ _ _ _ =>
    [type]
  | sized type _ _ => sizedBases type
  | longText type _ _ _ => if type = .Text then [.VarChar] else [.NVarChar]
  | image _ | udt _ => [.VarBinary]
  | xml _ => [.NVarChar]
  | variant _ => []

/-- The scale and the collation of a description. -/
def properties : TypeDescription → VariantProperties
  | text _ _ _ collation | longText _ _ _ collation =>
    { precision := 0, scale := 0, maxLength := 0, collation := collation.val,
      length_collation := collation.property }
  | scaled _ _ scale =>
    { precision := 0, scale, maxLength := 0, collation := List.replicate 5 0,
      length_collation := rfl }
  | numeric _ _ _ precision scale =>
    { precision, scale, maxLength := 0, collation := List.replicate 5 0, length_collation := rfl }
  | _ =>
    { precision := 0, scale := 0, maxLength := 0, collation := List.replicate 5 0,
      length_collation := rfl }

/-- Whether the values arrive in chunks. -/
def isStream (t : TypeDescription) : Bool := isPLPStream (t.metadata 0 0)

/-- Whether the values stand behind a text pointer. -/
def isPointer : TypeDescription → Bool
  | longText .. | image _ => true
  | _ => false

/-- Whether the data stands behind its length, or behind none. -/
def isPlain : TypeDescription → Bool
  | longText .. | image _ | xml _ | udt _ | variant _ => false
  | t => !t.isStream

/-- Only the types of a fixed length have no `NULL`. -/
def isNullable : TypeDescription → Bool
  | fixed type _ => type = .Null ∨ type = .Date
  | _ => true

/-- The length in front of `n` bytes of data. -/
def lengthBytes (n : Nat) : TypeDescription → Bytes
  | sized .. => leBytes 1 n
  | t => columnLength n t.type

/-- `NULL`. -/
def nullBytes (t : TypeDescription) : Bytes :=
  if t.isStream then MAX_NULL_LENGTH
  else match t with
    | fixed type _ => if type = .Date then [0] else []
    | text .. | binary .. => NULL_LENGTH
    | variant _ => leBytes 4 0
    | _ => [0]

end TypeDescription

/-- The timestamp behind a text pointer. -/
abbrev TextTimestamp := { bytes : Bytes // bytes.length = 8 }

/-- What a server has for a column. -/
inductive Cell
  | null
  | datum (d : Datum)
  | variant (type : DataType) (p : VariantProperties) (d : Datum)
  | pointer (textPointer : Bytes) (timestamp : TextTimestamp) (d : Datum)
  /-- The length of all chunks is announced, or it is not. -/
  | stream (announced : Bool) (chunks : List Bytes) (d : Datum)

/-- The data is of one of the types, and a time of day is one. -/
def Holds (bases : List DataType) (p : VariantProperties) (d : Datum) : Prop :=
  (∃ type ∈ bases, type ∈ d.types) ∧ d.Fits p

namespace Cell

def bytes (t : TypeDescription) : Cell → Bytes
  | null => t.nullBytes
  | datum d => t.lengthBytes d.bytes.length ++ d.bytes
  | variant type p d =>
    leBytes 4 (variantBytes type ((p.bytes type).getD []) d.bytes).length ++
      variantBytes type ((p.bytes type).getD []) d.bytes
  | pointer textPointer timestamp d =>
    leBytes 1 textPointer.length ++ (textPointer ++ (timestamp.val ++
      (leBytes 4 d.bytes.length ++ d.bytes)))
  | stream announced chunks _ =>
    (if announced then leBytes 8 chunks.flatten.length else UNKNOWN_PLP_LEN) ++ plpChunks chunks

/-- The column can have such a cell. Two bytes of length leave out the length of `NULL`, and no
chunk is empty. -/
def Fits (t : TypeDescription) : Cell → Prop
  | null => t.isNullable = true
  | datum d => t.isPlain = true ∧ Holds t.bases t.properties d ∧ d.bytes.length < 0xFFFF
  | variant type p d => t.type = .Variant ∧ Holds [type] p d ∧ d.bytes.length < 0xFFFF
  | pointer textPointer _ d =>
    t.isPointer = true ∧ (0 < textPointer.length ∧ textPointer.length < 256) ∧
      Holds t.bases t.properties d ∧ d.bytes.length < 4294967296
  | stream announced chunks d =>
    t.isStream = true ∧ Holds t.bases t.properties d ∧ chunks.flatten = d.bytes ∧
      (∀ chunk ∈ chunks, 0 < chunk.length ∧ chunk.length < 4294967296) ∧
      (announced = true → chunks.flatten.length < 2 ^ 53)

/-- What the client is to show. -/
def value (options : ParserOptions) (t : TypeDescription) : Cell → Value
  | null => .null
  | variant _ p d => d.value options p
  | datum d | pointer _ _ d | stream _ _ d => d.value options t.properties

end Cell

/-! ### Reading them -/

theorem readSized_reads {type : DataType} {readers : List (Nat × Reader Value)} {n : Nat}
    {reader : Reader Value} {data : Bytes} {v : Value} (h0 : 0 < n) (hlt : n < 256)
    (hlookup : readers.lookup n = some reader) (h : Reads reader data v) :
    Reads (readSized type readers) (leBytes 1 n ++ data) v := by
  refine (readUInt8_reads hlt).bind ?_
  rw [if_neg (by omega), hlookup]
  exact h

/-- The length of the data selects the reader of its type. -/
theorem readValue_sized {options : ParserOptions} {p : VariantProperties} {type base : DataType}
    (htype : type ∈ sizedTypes) (hbase : base ∈ sizedBases type) {data : Bytes} {v : Value}
    (hlength : isDataLength data.length base = true)
    (h : Reads (readData options p data.length base) data v) (userType flags : Nat)
    (dataLength : Option Nat) :
    Reads (readValue options { userType, flags, type, dataLength })
      (leBytes 1 data.length ++ data) v := by
  simp only [sizedTypes, List.mem_cons, List.not_mem_nil, or_false] at htype
  rcases htype with rfl | rfl | rfl | rfl | rfl | rfl <;>
    simp only [sizedBases, List.mem_cons, List.not_mem_nil, or_false] at hbase
  · rcases hbase with rfl | rfl | rfl | rfl <;>
      rw [of_decide_eq_true hlength] at h ⊢ <;>
      exact readSized_reads (by decide) (by decide) rfl h
  · rcases hbase with rfl | rfl <;>
      rw [of_decide_eq_true hlength] at h ⊢ <;>
      exact readSized_reads (by decide) (by decide) rfl h
  · rcases hbase with rfl | rfl <;>
      rw [of_decide_eq_true hlength] at h ⊢ <;>
      exact readSized_reads (by decide) (by decide) rfl h
  · subst hbase
    rw [of_decide_eq_true hlength] at h ⊢
    exact readSized_reads (by decide) (by decide) rfl h
  · subst hbase
    rw [of_decide_eq_true hlength] at h ⊢
    refine readNullable_reads (by decide) (by decide) ?_
    rw [if_pos rfl]
    exact h
  · rcases hbase with rfl | rfl <;>
      rw [of_decide_eq_true hlength] at h ⊢ <;>
      exact readSized_reads (by decide) (by decide) rfl h

theorem readTextPointer_reads {reader : Nat → Reader Value} {textPointer data : Bytes}
    {v : Value} (h0 : 0 < textPointer.length) (hlt : textPointer.length < 256)
    (timestamp : TextTimestamp) (hlength : data.length < 4294967296)
    (h : Reads (reader data.length) data v) :
    Reads (readTextPointer reader) (leBytes 1 textPointer.length ++ (textPointer ++
      (timestamp.val ++ (leBytes 4 data.length ++ data)))) v := by
  have htimestamp := readBinary_reads timestamp.val
  rw [timestamp.property] at htimestamp
  refine (readUInt8_reads hlt).bind ?_
  rw [if_neg (by omega)]
  exact (readBinary_reads textPointer).bind (htimestamp.bind
    ((readUInt32LE_reads hlength).bind h))

namespace Datum

variable {d : Datum}

theorem eq_chars (h : .VarChar ∈ d.types) : ∃ data, d = .chars data := by
  cases d <;> simp [types] at h ⊢

theorem eq_nchars (h : .NVarChar ∈ d.types) : ∃ text, d = .nchars text := by
  cases d <;> simp [types] at h ⊢

theorem eq_binary (h : .VarBinary ∈ d.types) : ∃ data, d = .binary data := by
  cases d <;> simp [types] at h ⊢

/-- Whatever data is can be in a variant. -/
theorem exists_properties {type : DataType} (h : type ∈ d.types) (p : VariantProperties) :
    ∃ props, p.bytes type = some props := by
  cases d with
  | numeric | chars | nchars | binary =>
    simp only [types, List.mem_cons, List.not_mem_nil, or_false] at h
    rcases h with rfl | rfl <;> exact ⟨_, rfl⟩
  | _ =>
    obtain rfl := List.mem_singleton.1 h
    exact ⟨_, rfl⟩

end Datum

namespace TypeDescription

theorem isPLPStream_metadata (t : TypeDescription) (userType flags : Nat) :
    isPLPStream (t.metadata userType flags) = t.isStream := by
  cases t <;> rfl

theorem isStream_of_isPlain {t : TypeDescription} (h : t.isPlain = true) : t.isStream = false := by
  cases t <;> first | exact Bool.not_eq_true' _ |>.mp h | cases h

theorem isStream_of_isPointer {t : TypeDescription} (h : t.isPointer = true) :
    t.isStream = false := by
  cases t with
  | longText type htype dataLength collation =>
    simp only [longTextTypes, List.mem_cons, List.not_mem_nil, or_false] at htype
    rcases htype with rfl | rfl <;> rfl
  | image dataLength => rfl
  | _ => cases h

end TypeDescription

namespace Cell

variable {options : ParserOptions} {t : TypeDescription}

theorem null_encodedAs (h : t.isNullable = true) (userType flags : Nat) :
    EncodedAs options (t.metadata userType flags) t.nullBytes .null := by
  rw [EncodedAs, t.isPLPStream_metadata, TypeDescription.nullBytes.eq_def]
  cases hstream : t.isStream with
  | true =>
    rw [if_pos rfl, if_pos rfl]
    exact ⟨none, .null, rfl⟩
  | false =>
    rw [if_neg Bool.false_ne_true, if_neg Bool.false_ne_true]
    cases t with
    | fixed type htype =>
      rcases of_decide_eq_true h with rfl | rfl
      · exact .pure _
      · exact readNullable_null _
    | sized type htype dataLength =>
      simp only [sizedTypes, List.mem_cons, List.not_mem_nil, or_false] at htype
      rcases htype with rfl | rfl | rfl | rfl | rfl | rfl <;>
        exact (readUInt8_reads (n := 0) (by decide)).bind_nil (.pure Value.null)
    | variant dataLength =>
      exact (readUInt32LE_reads (n := 0) (by decide)).bind_nil (.pure Value.null)
    | text type htype dataLength collation =>
      simp only [textTypes, List.mem_cons, List.not_mem_nil, or_false] at htype
      rcases htype with rfl | rfl | rfl | rfl <;> exact readShortNullable_null _
    | longText type htype dataLength collation =>
      simp only [longTextTypes, List.mem_cons, List.not_mem_nil, or_false] at htype
      rcases htype with rfl | rfl <;>
        exact (readUInt8_reads (n := 0) (by decide)).bind_nil (.pure Value.null)
    | binary type htype dataLength =>
      simp only [binaryTypes, List.mem_cons, List.not_mem_nil, or_false] at htype
      rcases htype with rfl | rfl <;> exact readShortNullable_null _
    | image dataLength =>
      exact (readUInt8_reads (n := 0) (by decide)).bind_nil (.pure Value.null)
    | scaled type htype scale =>
      simp only [scaledTypes, List.mem_cons, List.not_mem_nil, or_false] at htype
      rcases htype with rfl | rfl | rfl <;> exact readNullable_null _
    | numeric type htype dataLength precision scale =>
      simp only [numericTypes, List.mem_cons, List.not_mem_nil, or_false] at htype
      rcases htype with rfl | rfl <;> exact readNullable_null _
    | xml schema | udt info => cases hstream

theorem datum_encodedAs (hclock : options.useUTC = false → options.platform.KeepsClock)
    {d : Datum} (h : (datum d).Fits t) (userType flags : Nat) :
    EncodedAs options (t.metadata userType flags) ((datum d).bytes t)
      (d.value options t.properties) := by
  obtain ⟨hplain, ⟨⟨base, hbase, htypes⟩, hfits⟩, hlength⟩ := h
  have hdata := Datum.isDataLength_bytes htypes hlength
  have hreads := Datum.reads hclock htypes hfits
  rw [EncodedAs, t.isPLPStream_metadata, TypeDescription.isStream_of_isPlain hplain,
    if_neg Bool.false_ne_true]
  cases t with
  | fixed type htype =>
    obtain rfl := List.mem_singleton.1 hbase
    have hvalue := readValue_reads options _ userType flags none hdata hreads
    simp only [fixedTypes, List.mem_cons, List.not_mem_nil, or_false] at htype
    rcases htype with rfl | rfl | rfl | rfl | rfl | rfl | rfl | rfl | rfl | rfl | rfl | rfl |
      rfl <;>
      exact hvalue
  | sized type htype dataLength => exact readValue_sized htype hbase hdata hreads userType flags _
  | text type htype dataLength collation =>
    obtain rfl := List.mem_singleton.1 hbase
    have hvalue := readValue_reads options _ userType flags (some dataLength.toNat) hdata hreads
    simp only [textTypes, List.mem_cons, List.not_mem_nil, or_false] at htype
    rcases htype with rfl | rfl | rfl | rfl <;> exact hvalue
  | binary type htype dataLength =>
    obtain rfl := List.mem_singleton.1 hbase
    have hvalue := readValue_reads options _ userType flags (some dataLength.toNat) hdata hreads
    simp only [binaryTypes, List.mem_cons, List.not_mem_nil, or_false] at htype
    rcases htype with rfl | rfl <;> exact hvalue
  | scaled type htype scale =>
    obtain rfl := List.mem_singleton.1 hbase
    have hvalue := readValue_reads options _ userType flags none hdata hreads
    simp only [scaledTypes, List.mem_cons, List.not_mem_nil, or_false] at htype
    rcases htype with rfl | rfl | rfl <;> exact hvalue
  | numeric type htype dataLength precision scale =>
    obtain rfl := List.mem_singleton.1 hbase
    have hvalue := readValue_reads options _ userType flags (some dataLength.toNat) hdata hreads
    simp only [numericTypes, List.mem_cons, List.not_mem_nil, or_false] at htype
    rcases htype with rfl | rfl <;> exact hvalue
  | longText | image | xml | udt | variant => cases hplain

theorem variant_encodedAs (hclock : options.useUTC = false → options.platform.KeepsClock)
    {type : DataType} {p : VariantProperties} {d : Datum} (h : (variant type p d).Fits t)
    (userType flags : Nat) :
    EncodedAs options (t.metadata userType flags) ((variant type p d).bytes t)
      (d.value options p) := by
  obtain ⟨hvariant, ⟨⟨base, hbase, htypes⟩, hfits⟩, hlength⟩ := h
  obtain rfl := List.mem_singleton.1 hbase
  obtain ⟨props, hprops⟩ := Datum.exists_properties htypes p
  have hmetadata : (t.metadata userType flags).type = .Variant :=
    (t.metadata_type userType flags).trans hvariant
  have hstream : isPLPStream (t.metadata userType flags) = false := by
    rw [isPLPStream, hmetadata]
  have hcount := length_variantBytes base props d.bytes
  have hshort := length_properties p hprops
  rw [EncodedAs, hstream, if_neg Bool.false_ne_true, bytes, hprops, Option.getD_some, readValue,
    hmetadata]
  refine (readUInt32LE_reads (by omega)).bind ?_
  rw [if_neg (by omega)]
  exact readVariant_reads options p hprops (Datum.reads hclock htypes hfits)

theorem pointer_encodedAs (hclock : options.useUTC = false → options.platform.KeepsClock)
    {textPointer : Bytes} {timestamp : TextTimestamp} {d : Datum}
    (h : (pointer textPointer timestamp d).Fits t) (userType flags : Nat) :
    EncodedAs options (t.metadata userType flags) ((pointer textPointer timestamp d).bytes t)
      (d.value options t.properties) := by
  obtain ⟨hpointer, ⟨h0, hlt⟩, ⟨⟨base, hbase, htypes⟩, hfits⟩, hlength⟩ := h
  have hreads := Datum.reads hclock htypes hfits
  rw [EncodedAs, t.isPLPStream_metadata, TypeDescription.isStream_of_isPointer hpointer,
    if_neg Bool.false_ne_true]
  cases t with
  | longText type htype dataLength collation =>
    simp only [longTextTypes, List.mem_cons, List.not_mem_nil, or_false] at htype
    rcases htype with rfl | rfl
    · obtain rfl := List.mem_singleton.1 hbase
      exact readTextPointer_reads h0 hlt timestamp hlength hreads
    · obtain rfl := List.mem_singleton.1 hbase
      exact readTextPointer_reads h0 hlt timestamp hlength hreads
  | image dataLength =>
    obtain rfl := List.mem_singleton.1 hbase
    exact readTextPointer_reads h0 hlt timestamp hlength hreads
  | _ => cases hpointer

/-- What a stream of chunks comes to does not depend on where it is cut. -/
theorem plpValue_stream {d : Datum} {chunks : List Bytes} (hstream : t.isStream = true)
    (hbase : ∃ base ∈ t.bases, base ∈ d.types) (hchunks : chunks.flatten = d.bytes)
    (userType flags : Nat) :
    d.value options t.properties = plpValue options (t.metadata userType flags) (some chunks) := by
  obtain ⟨base, hbase, htypes⟩ := hbase
  cases t with
  | text type htype dataLength collation =>
    obtain rfl := List.mem_singleton.1 hbase
    simp only [textTypes, List.mem_cons, List.not_mem_nil, or_false] at htype
    rcases htype with rfl | rfl | rfl | rfl
    · obtain ⟨data, rfl⟩ := Datum.eq_chars htypes
      exact congrArg (fun data => Value.string (decodeChars _ _ data)) hchunks.symm
    · cases hstream
    · obtain ⟨text, rfl⟩ := Datum.eq_nchars htypes
      exact congrArg Value.string ((ucs2_ucs2Bytes text).symm.trans (congrArg ucs2 hchunks.symm))
    · cases hstream
  | binary type htype dataLength =>
    obtain rfl := List.mem_singleton.1 hbase
    simp only [binaryTypes, List.mem_cons, List.not_mem_nil, or_false] at htype
    rcases htype with rfl | rfl
    · obtain ⟨data, rfl⟩ := Datum.eq_binary htypes
      exact congrArg Value.buffer hchunks.symm
    · cases hstream
  | xml schema =>
    obtain rfl := List.mem_singleton.1 hbase
    obtain ⟨text, rfl⟩ := Datum.eq_nchars htypes
    exact congrArg Value.string ((ucs2_ucs2Bytes text).symm.trans (congrArg ucs2 hchunks.symm))
  | udt info =>
    obtain rfl := List.mem_singleton.1 hbase
    obtain ⟨data, rfl⟩ := Datum.eq_binary htypes
    exact congrArg Value.buffer hchunks.symm
  | longText type htype dataLength collation =>
    simp only [longTextTypes, List.mem_cons, List.not_mem_nil, or_false] at htype
    rcases htype with rfl | rfl <;> cases hstream
  | fixed type htype =>
    simp only [fixedTypes, List.mem_cons, List.not_mem_nil, or_false] at htype
    rcases htype with rfl | rfl | rfl | rfl | rfl | rfl | rfl | rfl | rfl | rfl | rfl | rfl |
      rfl <;>
      cases hstream
  | sized type htype dataLength =>
    simp only [sizedTypes, List.mem_cons, List.not_mem_nil, or_false] at htype
    rcases htype with rfl | rfl | rfl | rfl | rfl | rfl <;> cases hstream
  | scaled type htype scale =>
    simp only [scaledTypes, List.mem_cons, List.not_mem_nil, or_false] at htype
    rcases htype with rfl | rfl | rfl <;> cases hstream
  | numeric type htype dataLength precision scale =>
    simp only [numericTypes, List.mem_cons, List.not_mem_nil, or_false] at htype
    rcases htype with rfl | rfl <;> cases hstream
  | variant | image => cases hstream

theorem stream_encodedAs {announced : Bool} {chunks : List Bytes} {d : Datum}
    (h : (stream announced chunks d).Fits t) (userType flags : Nat) :
    EncodedAs options (t.metadata userType flags) ((stream announced chunks d).bytes t)
      (d.value options t.properties) := by
  obtain ⟨hstream, ⟨hbase, -⟩, hdata, hchunks, hlength⟩ := h
  rw [EncodedAs, t.isPLPStream_metadata, hstream, if_pos rfl]
  refine ⟨some chunks, ?_, plpValue_stream hstream hbase hdata userType flags⟩
  cases announced with
  | true => exact .known hchunks (hlength rfl)
  | false => exact .unknown hchunks

/-- **Values.** Whatever a column can have is encoded under the description of the column, and
shown as what it means. -/
theorem encodedAs (hclock : options.useUTC = false → options.platform.KeepsClock) {cell : Cell}
    (h : cell.Fits t) (userType flags : Nat) :
    EncodedAs options (t.metadata userType flags) (cell.bytes t) (cell.value options t) := by
  cases cell with
  | null => exact null_encodedAs h userType flags
  | datum d => exact datum_encodedAs hclock h userType flags
  | variant type p d => exact variant_encodedAs hclock h userType flags
  | pointer textPointer timestamp d => exact pointer_encodedAs hclock h userType flags
  | stream announced chunks d => exact stream_encodedAs h userType flags

end Cell

end Tedious
