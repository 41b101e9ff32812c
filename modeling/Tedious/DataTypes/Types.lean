import Tedious.DataTypes.Fixed

/-!
# Tedious.DataTypes.Types

The data types as the senders use them: the methods, and `validate`, which a value goes
through before it reaches them. `scalarType` is the table of all types but `TVP`, whose cells
are values of other types again.

None of the callers tells `validate` the options of the connection, so that years are counted
in local time.
-/

namespace Tedious

open Chunked

/-- A data type: its methods, and which values it accepts for them. -/
structure SendType where
  α : Type
  methods : DataTypeMethods α
  validate : JsValue → Option Collation → Except JsError (Option α)

/-- `validate` of a type that accepts values on their own; `undefined` and `null` are `NULL`. -/
def validateWith (accept : JsValue → Except JsError α) :
    JsValue → Option Collation → Except JsError (Option α)
  | .undefined, _ => .ok none
  | .null, _ => .ok none
  | value, _ => do
    let value ← accept value
    pure (some value)

/-! ### Values -/

section Accept

variable (js : Runtime)

/-- A number between two bounds, converted if it is none yet. -/
def acceptNumber (low high : Int) (message : String) (value : JsValue) :
    Except JsError JsNumber := do
  let n ← match value with
    | .number n => pure n
    | value => js.toNumber value
  if n = .nan then .error (.error "Invalid number.")
  else if n.outside low high then .error (.error message)
  else pure n

/-- A number between two bounds, cut to 32 bits. -/
def acceptInteger (low high : Int) (message : String) (value : JsValue) :
    Except JsError Int := do
  let n ← acceptNumber js low high message value
  pure n.toInt32

/-- `parseFloat(value)`, unless it is `NaN`. -/
def acceptFloat (value : JsValue) : Except JsError JsNumber := do
  let n ← js.parseFloat value
  if n = .nan then .error (.error "Invalid number.") else pure n

/-- `parseFloat(value)` between two bounds. -/
def acceptMoney (low high : Rat) (message : String) (value : JsValue) :
    Except JsError JsNumber := do
  let n ← acceptFloat js value
  if n.outside low high then .error (.error message) else pure n

/-- A date whose local year, month and date are in range. An invalid date is in every range. -/
def acceptDate (inRange : Int → Int → Int → Bool) (message : String) (value : JsValue) :
    Except JsError ValidDate := do
  let date ← match value with
    | .date date => pure date
    | value => do
      let time ← js.parseDate value
      pure { time, nanosecondDelta := none }
  match date.time with
  | none => .error (.error message)
  | some time =>
    let (year, month, day) := civilFromDay (dayOf (js.platform.localTime time))
    if inRange year month day then pure { time, nanosecondDelta := date.nanosecondDelta }
    else .error (.error "Out of range.")

variable {js} in
/-- What is left of `acceptDate` when there is a date. -/
theorem acceptDate_date (inRange : Int → Int → Int → Bool) (message : String) (d : JsDate) :
    acceptDate js inRange message (.date d) =
      match d.time with
      | none => .error (.error message)
      | some time =>
        let (year, month, day) := civilFromDay (dayOf (js.platform.localTime time))
        if inRange year month day then pure { time, nanosecondDelta := d.nanosecondDelta }
        else .error (.error "Out of range.") := rfl

variable {js} in
/-- An accepted date is one that was accepted as a date. -/
theorem acceptDate_ok {inRange : Int → Int → Int → Bool} {message : String} {value : JsValue}
    {date : ValidDate} (h : acceptDate js inRange message value = .ok date) :
    ∃ d, acceptDate js inRange message (.date d) = .ok date := by
  cases value with
  | date d => exact ⟨d, h⟩
  | _ =>
    obtain ⟨time, -, h⟩ := Except.bind_ok h
    exact ⟨{ time, nanosecondDelta := none }, h⟩

/-- A date whose year is in range. -/
def acceptYear (low high : Int) : JsValue → Except JsError ValidDate :=
  acceptDate js (fun year _ _ => low ≤ year && year ≤ high) "Invalid date."

end Accept

def acceptString : JsValue → Except JsError JsString
  | .string s => .ok s
  | _ => .error (.error "Invalid string.")

def acceptBuffer : JsValue → Except JsError Bytes
  | .buffer bytes => .ok bytes
  | _ => .error (.error "Invalid buffer.")

def acceptGuid (value : JsValue) : Except JsError JsString := do
  let s ← acceptString value
  if isGuid s then pure s else .error (.error "Invalid GUID.")

/-! ### The table -/

/-- The types that only describe what the server sends, and those that cannot be sent. -/
def notImplemented (id : Nat) : SendType where
  α := Empty
  methods :=
    { id := id
      resolveLength := none
      resolvePrecision := none
      resolveScale := none
      generateTypeInfo := fun _ => .error (.error "not implemented")
      generateParameterLength := fun _ => .error (.error "not implemented")
      generateParameterData := fun _ => .error (.error "not implemented") }
  validate _ _ := .error (.error "not implemented")

/-- `VarChar`, `Char` and `Text`: the value is encoded when it is validated. -/
def encodedText (js : Runtime) (methods : DataTypeMethods Bytes) : SendType where
  α := Bytes
  methods := methods
  validate value collation := do
    let text ← validateWith acceptString value collation
    validateText js.iconvEncode collation text

/-- A type that accepts values on their own. -/
def accepting (methods : DataTypeMethods α) (accept : JsValue → Except JsError α) : SendType where
  α := α
  methods := methods
  validate := validateWith accept

def safeIntegerMessage : String :=
  "Value must be between -9007199254740991 and 9007199254740991, inclusive.  " ++
    "For smaller or bigger numbers, use VarChar type."

/-- The doubles that `214748.3648`, `214748.3647` and `922337203685477.6` stand for. -/
def smallMoneyLow : Rat := 7378697629483821 / 34359738368

def smallMoneyHigh : Rat := 7378697626047847 / 34359738368

def moneyBound : Rat := 7378697629483821 / 8

/-- Every type but `TVP`. -/
def scalarType (js : Runtime) (useUTC : Bool) : DataType → Option SendType
  | .TinyInt => some <| accepting TYPES.TinyInt <|
      acceptInteger js 0 255 "Value must be between 0 and 255, inclusive."
  | .SmallInt => some <| accepting TYPES.SmallInt <|
      acceptInteger js (-32768) 32767 "Value must be between -32768 and 32767, inclusive."
  | .Int => some <| accepting TYPES.Int <|
      acceptInteger js (-2147483648) 2147483647
        "Value must be between -2147483648 and 2147483647, inclusive."
  | .BigInt => some <| accepting TYPES.BigInt <|
      acceptNumber js (-9007199254740991) 9007199254740991 safeIntegerMessage
  | .Bit => some <| accepting TYPES.Bit fun value => .ok value.isTruthy
  | .SmallMoney => some <| accepting (TYPES.SmallMoney js) <|
      acceptMoney js (-smallMoneyLow) smallMoneyHigh
        "Value must be between -214748.3648 and 214748.3647."
  | .Money => some <| accepting (TYPES.Money js) <|
      acceptMoney js (-moneyBound) moneyBound
        "Value must be between -922337203685477.5808 and 922337203685477.5807, inclusive."
  | .Real => some <| accepting (TYPES.Real js) (acceptFloat js)
  | .Float => some <| accepting (TYPES.Float js) (acceptFloat js)
  | .SmallDateTime => some <| accepting (TYPES.SmallDateTime js useUTC) <|
      acceptDate js (fun year month day => 1900 ≤ year && (year < 2079 ||
        (year = 2079 && (month < 5 || (month = 5 && day ≤ 6))))) "Invalid date."
  | .DateTime => some <| accepting (TYPES.DateTime js useUTC) (acceptYear js 1753 9999)
  | .Date => some <| accepting (TYPES.Date js useUTC) (acceptYear js 1 9999)
  | .Time => some <| accepting (TYPES.Time js useUTC) <|
      acceptDate js (fun _ _ _ => true) "Invalid time."
  | .DateTime2 => some <| accepting (TYPES.DateTime2 js useUTC) (acceptYear js 1 9999)
  | .DateTimeOffset => some <| accepting (TYPES.DateTimeOffset js) (acceptYear js 1 9999)
  | .Decimal => some <| accepting (TYPES.Decimal js) (acceptFloat js)
  | .Numeric => some <| accepting (TYPES.Numeric js) (acceptFloat js)
  | .UniqueIdentifier => some <| accepting TYPES.UniqueIdentifier acceptGuid
  | .Binary => some <| accepting TYPES.Binary acceptBuffer
  | .VarBinary => some <| accepting TYPES.VarBinary acceptBuffer
  | .Image => some <| accepting TYPES.Image acceptBuffer
  | .NVarChar => some <| accepting TYPES.NVarChar acceptString
  | .NChar => some <| accepting TYPES.NChar acceptString
  | .NText => some <| accepting TYPES.NText acceptString
  | .VarChar => some <| encodedText js TYPES.VarChar
  | .Char => some <| encodedText js TYPES.Char
  | .Text => some <| encodedText js TYPES.Text
  | .Null => some (notImplemented 0x1F)
  | .IntN => some (notImplemented 0x26)
  | .BitN => some (notImplemented 0x68)
  | .DecimalN => some (notImplemented 0x6A)
  | .NumericN => some (notImplemented 0x6C)
  | .FloatN => some (notImplemented 0x6D)
  | .MoneyN => some (notImplemented 0x6E)
  | .DateTimeN => some (notImplemented 0x6F)
  | .Xml => some (notImplemented 0xF1)
  | .UDT => some (notImplemented 0xF0)
  | .Variant => some (notImplemented 0x62)
  | .TVP => none

theorem scalarType_none {js : Runtime} {useUTC : Bool} {type : DataType}
    (h : scalarType js useUTC type = none) : type = .TVP := by
  cases type <;> cases h
  rfl

end Tedious
