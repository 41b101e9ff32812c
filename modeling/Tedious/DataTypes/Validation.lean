import Tedious.DataTypes.Amounts
import Tedious.DataTypes.Tvp
import Tedious.Errors
import Tedious.Lib.InPlace

/-!
# Tedious.DataTypes.Validation

`Request.validateParameters`, and what it does to a request that is run again. The values of the
parameters are replaced one by one by what `validate` makes of them, so that a failure leaves the
ones before it replaced; and `VarChar`, `Char` and `Text` do not accept what they return
(`validateParameters_iff`).
-/

namespace Tedious

open Chunked InPlace

/-! ### Validating -/

/-- A parameter of a request. -/
structure Parameter where
  type : DataType
  name : JsString
  value : JsValue
  output : Bool
  length : Option JsNumber
  precision : Option JsNumber
  scale : Option JsNumber

section Validate

variable (js : Runtime) (useUTC : Bool)

/-- What `validate` of a type returns, for a value that it accepted. -/
def returnedValue : (type : DataType) → (sendType js useUTC type).α → JsValue
  | .TinyInt | .SmallInt | .Int => fun n : Int => .number (.ofInt n)
  | .BigInt | .SmallMoney | .Money | .Real | .Float | .Decimal | .Numeric =>
    fun n : JsNumber => .number n
  | .Bit => fun b : Bool => .boolean b
  | .SmallDateTime | .DateTime | .Date | .Time | .DateTime2 | .DateTimeOffset =>
    fun date : ValidDate => .date { time := some date.time, nanosecondDelta := date.nanosecondDelta }
  | .UniqueIdentifier | .NVarChar | .NChar | .NText => fun s : JsString => .string s
  | .Binary | .VarBinary | .Image | .VarChar | .Char | .Text => fun bytes : Bytes => .buffer bytes
  | .TVP => fun table : TableValue => .table table.schema table.name table.columns table.rows
  | .Null | .IntN | .BitN | .DecimalN | .NumericN | .FloatN | .MoneyN | .DateTimeN | .Xml | .UDT
  | .Variant => fun value : Empty => nomatch value

/-- `parameter.value` behind `validate`. -/
def nextValue (type : DataType) (value : Option (sendType js useUTC type).α) : JsValue :=
  value.elim .null (returnedValue js useUTC type)

/-- `error.message`; what the engine says is left out. -/
def JsError.message : JsError → JsString
  | error message => JsString.ofString message
  | rangeError | typeError => []

variable (collation : Option Collation)

/-- `parameter.value = parameter.type.validate(parameter.value, collation)`. -/
def Parameter.validate (parameter : Parameter) : Except RequestError Parameter :=
  match (sendType js useUTC parameter.type).validate parameter.value collation with
  | .ok value => .ok { parameter with value := nextValue js useUTC parameter.type value }
  | .error e => .error <| .new (JsString.ofString "Validation failed for parameter '" ++
      parameter.name ++ JsString.ofString "'. " ++ e.message) (some "EPARAM")

/-- The parameters in the end, and the error that was thrown. -/
def validateParameters (parameters : List Parameter) : List Parameter × Option RequestError :=
  update (Parameter.validate js useUTC collation) parameters

/-- `RpcRequestPayload.generateParameterData`, for the value that `validate` has returned. -/
def Parameter.write (parameter : Parameter) : Except JsError Bytes := do
  let type := sendType js useUTC parameter.type
  let value ← type.validate parameter.value collation
  let name ← writeBVarchar
    (if parameter.name = [] then [] else JsString.ofString "@" ++ parameter.name)
  let (typeInfo, data) ← type.methods.build (type.methods.rpcParameter collation
    { length := parameter.length, precision := parameter.precision, scale := parameter.scale,
      collation := none, value })
  pure (name ++ (leBytes 1 (if parameter.output then 1 else 0) ++ (typeInfo ++ data)))

end Validate

/-! ### Accepting what was returned -/

/-- `parseFloat` of a number is this number. (The two zeros are one here.) -/
def Runtime.ParsesNumbers (js : Runtime) : Prop := ∀ n, js.parseFloat (.number n) = .ok n

/-- A way to accept values that takes what it returns for what it is. -/
structure Settles (accept : JsValue → Except JsError α) (asValue : α → JsValue) : Prop where
  /-- What was returned is accepted as it is. -/
  again : ∀ {value a}, accept value = .ok a → accept (asValue a) = .ok a
  /-- A value of the kind that is returned is not replaced by another one. -/
  same : ∀ {a b}, accept (asValue a) = .ok b → b = a
  ne_null : ∀ a, asValue a ≠ .null
  ne_undefined : ∀ a, asValue a ≠ .undefined

section Settles

variable {js : Runtime}

theorem acceptNumber_ok {low high : Int} {message : String} {value : JsValue} {n : JsNumber}
    (h : acceptNumber js low high message value = .ok n) :
    n ≠ .nan ∧ ¬ n.outside low high = true ∧ ∀ m, value = .number m → n = m := by
  have hchecks : ∀ m : JsNumber, (if m = .nan then .error (.error "Invalid number.")
      else if m.outside low high then .error (.error message) else pure m : Except JsError JsNumber) =
        .ok n → m = n ∧ n ≠ .nan ∧ ¬ n.outside low high = true := by
    intro m hm
    split at hm
    · cases hm
    · next hnan =>
      split at hm
      · cases hm
      · next hrange =>
        cases hm
        exact ⟨rfl, hnan, hrange⟩
  rw [acceptNumber.eq_def] at h
  split at h
  · obtain ⟨rfl, hnan, hrange⟩ := hchecks _ h
    exact ⟨hnan, hrange, fun m hm => JsValue.number.inj hm⟩
  · next hne =>
    obtain ⟨m, -, h⟩ := Except.bind_ok h
    obtain ⟨rfl, hnan, hrange⟩ := hchecks _ h
    exact ⟨hnan, hrange, fun m hm => absurd hm (hne m)⟩

theorem acceptNumber_number {low high : Int} {message : String} {n : JsNumber} (hnan : n ≠ .nan)
    (hrange : ¬ n.outside low high = true) :
    acceptNumber js low high message (.number n) = .ok n := by
  show (if n = .nan then _ else if n.outside low high = true then _ else Except.ok n) = _
  rw [if_neg hnan, if_neg hrange]

theorem acceptNumber_settles (low high : Int) (message : String) :
    Settles (acceptNumber js low high message) JsValue.number where
  again h := acceptNumber_number (acceptNumber_ok h).1 (acceptNumber_ok h).2.1
  same h := (acceptNumber_ok h).2.2 _ rfl
  ne_null _ := nofun
  ne_undefined _ := nofun

theorem acceptFloat_settles (hparse : js.ParsesNumbers) :
    Settles (acceptFloat js) JsValue.number where
  again {value n} h := by
    obtain ⟨m, -, h⟩ := Except.bind_ok h
    split at h
    · cases h
    · next hnan =>
      cases h
      rw [acceptFloat, hparse]
      exact if_neg hnan
  same {n m} h := by
    rw [acceptFloat, hparse] at h
    obtain ⟨n', hn, h⟩ := Except.bind_ok h
    cases hn
    split at h
    · cases h
    · cases h
      rfl
  ne_null _ := nofun
  ne_undefined _ := nofun

theorem acceptMoney_settles (hparse : js.ParsesNumbers) (low high : Rat) (message : String) :
    Settles (acceptMoney js low high message) JsValue.number where
  again {value n} h := by
    obtain ⟨m, hm, h⟩ := Except.bind_ok h
    split at h
    · cases h
    · next hrange =>
      cases h
      rw [acceptMoney, (acceptFloat_settles hparse).again hm]
      exact if_neg hrange
  same {n m} h := by
    obtain ⟨n', hn, h⟩ := Except.bind_ok h
    have hsame := (acceptFloat_settles hparse).same hn
    split at h
    · cases h
    · cases h
      exact hsame
  ne_null _ := nofun
  ne_undefined _ := nofun

/-- A whole number of 32 bits is not cut. -/
theorem toInt32_ofInt {n : Int} (hlow : -2147483648 ≤ n) (hhigh : n < 2147483648) :
    (JsNumber.ofInt n).toInt32 = n := by
  rw [JsNumber.toInt32, JsNumber.ofInt, JsNumber.toUint32, truncate_intCast]
  split <;> omega

/-- An accepted number is finite and in range. -/
theorem acceptNumber_range {low high : Int} {message : String} {value : JsValue} {n : JsNumber}
    (h : acceptNumber js low high message value = .ok n) :
    ∃ q : Rat, n = .finite q ∧ low ≤ q ∧ q ≤ high := by
  obtain ⟨hnan, hrange, -⟩ := acceptNumber_ok h
  cases n with
  | finite q =>
    rw [JsNumber.outside, Bool.or_eq_true, not_or, decide_eq_true_eq, decide_eq_true_eq,
      not_lt, not_lt] at hrange
    exact ⟨q, rfl, hrange⟩
  | nan => exact absurd rfl hnan
  | infinity => exact absurd rfl hrange
  | negInfinity => exact absurd rfl hrange

/-- What an accepted number is cut to is in range as well. -/
theorem acceptNumber_toInt32 {low high : Int} {message : String} {value : JsValue} {n : JsNumber}
    (hlow : -2147483648 ≤ low) (hhigh : high < 2147483648)
    (h : acceptNumber js low high message value = .ok n) :
    low ≤ n.toInt32 ∧ n.toInt32 ≤ high := by
  obtain ⟨q, rfl, hmin, hmax⟩ := acceptNumber_range h
  have hmin' := le_truncate_of_le hmin
  have hmax' := truncate_le_of_le hmax
  have hcut : (JsNumber.finite q).toInt32 = (JsNumber.ofInt (truncate q)).toInt32 := by
    rw [JsNumber.toInt32, JsNumber.toInt32, JsNumber.ofInt, JsNumber.toUint32,
      JsNumber.toUint32, truncate_intCast]
  rw [hcut, toInt32_ofInt (by omega) (by omega)]
  exact ⟨hmin', hmax'⟩

theorem acceptInteger_settles {low high : Int} (message : String)
    (hlow : -2147483648 ≤ low) (hhigh : high < 2147483648) :
    Settles (acceptInteger js low high message) fun n => JsValue.number (.ofInt n) where
  again {value n} h := by
    obtain ⟨m, hm, h⟩ := Except.bind_ok h
    cases h
    obtain ⟨hmin, hmax⟩ := acceptNumber_toInt32 hlow hhigh hm
    have hrange : ¬ JsNumber.outside low high (.ofInt m.toInt32) = true := by
      rw [JsNumber.ofInt, JsNumber.outside, Bool.or_eq_true, not_or, decide_eq_true_eq,
        decide_eq_true_eq, not_lt, not_lt]
      exact ⟨by exact_mod_cast hmin, by exact_mod_cast hmax⟩
    have haccept : acceptNumber js low high message (.number (.ofInt m.toInt32)) =
        .ok (.ofInt m.toInt32) := acceptNumber_number (by simp [JsNumber.ofInt]) hrange
    rw [acceptInteger, haccept]
    exact congrArg Except.ok (toInt32_ofInt (by omega) (by omega))
  same {n m} h := by
    obtain ⟨k, hk, h⟩ := Except.bind_ok h
    cases h
    have hsame := (acceptNumber_settles low high message).same hk
    subst hsame
    obtain ⟨q, hq, hmin, hmax⟩ := acceptNumber_range hk
    cases hq
    exact toInt32_ofInt (hlow.trans (by exact_mod_cast hmin))
      (lt_of_le_of_lt (by exact_mod_cast hmax) hhigh)
  ne_null _ := by simp
  ne_undefined _ := by simp

theorem acceptDate_settles (inRange : Int → Int → Int → Bool) (message : String) :
    Settles (acceptDate js inRange message) fun date =>
      JsValue.date { time := some date.time, nanosecondDelta := date.nanosecondDelta } where
  again {value date} h := by
    obtain ⟨d, hd⟩ := acceptDate_ok h
    rw [acceptDate_date] at hd ⊢
    split at hd
    · cases hd
    · dsimp only at hd ⊢
      split at hd
      · next hrange =>
        cases hd
        exact if_pos hrange
      · cases hd
  same {a b} h := by
    rw [acceptDate_date] at h
    dsimp only at h
    split at h
    · cases h
      rfl
    · cases h
  ne_null _ := nofun
  ne_undefined _ := nofun

end Settles

theorem acceptString_settles : Settles acceptString JsValue.string where
  again _ := rfl
  same h := (Except.ok.inj h).symm
  ne_null _ := nofun
  ne_undefined _ := nofun

theorem acceptBuffer_settles : Settles acceptBuffer JsValue.buffer where
  again _ := rfl
  same h := (Except.ok.inj h).symm
  ne_null _ := nofun
  ne_undefined _ := nofun

theorem acceptGuid_settles : Settles acceptGuid JsValue.string where
  again {value s} h := by
    obtain ⟨s', -, h⟩ := Except.bind_ok h
    split at h
    · next hguid =>
      cases h
      show (if _ then _ else _) = _
      exact if_pos hguid
    · cases h
  same {a b} h := by
    obtain ⟨s', hs, h⟩ := Except.bind_ok h
    cases hs
    split at h
    · exact (Except.ok.inj h).symm
    · cases h
  ne_null _ := nofun
  ne_undefined _ := nofun

theorem isTruthy_settles :
    Settles (fun value => Except.ok value.isTruthy) JsValue.boolean where
  again _ := rfl
  same h := (Except.ok.inj h).symm
  ne_null _ := nofun
  ne_undefined _ := nofun

/-! ### Every type -/

/-- The types whose values are encoded when they are validated. -/
def isEncoded : DataType → Bool
  | .VarChar | .Char | .Text => true
  | _ => false

section Types

variable {js : Runtime} (useUTC : Bool) (collation : Option Collation)

/-- The value is of the kind that `validate` of the type returns. -/
def InForm (js : Runtime) (useUTC : Bool) (type : DataType) (value : JsValue) : Prop :=
  ∃ v, value = nextValue js useUTC type v

/-- A type takes what it returns for what it is. -/
structure TypeSettles (js : Runtime) (useUTC : Bool) (collation : Option Collation)
    (type : DataType) : Prop where
  again : ∀ {value v}, (sendType js useUTC type).validate value collation = .ok v →
    (sendType js useUTC type).validate (nextValue js useUTC type v) collation = .ok v
  same : ∀ {v w}, (sendType js useUTC type).validate (nextValue js useUTC type v) collation = .ok w →
    w = v

theorem validateWith_of_ne {accept : JsValue → Except JsError α} {value : JsValue}
    (hnull : value ≠ .null) (hundefined : value ≠ .undefined) :
    validateWith accept value collation = (accept value).map some := by
  cases value with
  | undefined => exact absurd rfl hundefined
  | null => exact absurd rfl hnull
  | _ => rfl

theorem validateWith_again {accept : JsValue → Except JsError α} {asValue : α → JsValue}
    (h : Settles accept asValue) {value : JsValue} {v : Option α}
    (hok : validateWith accept value collation = .ok v) :
    validateWith accept (v.elim .null asValue) collation = .ok v := by
  cases v with
  | none => rfl
  | some a =>
    have haccept : accept value = .ok a := by
      by_cases hnull : value = .null
      · rw [hnull] at hok
        cases hok
      · by_cases hundefined : value = .undefined
        · rw [hundefined] at hok
          cases hok
        · rw [validateWith_of_ne collation hnull hundefined] at hok
          cases hvalue : accept value with
          | error e =>
            rw [hvalue] at hok
            cases hok
          | ok b =>
            rw [hvalue] at hok
            cases hok
            rfl
    rw [Option.elim_some, validateWith_of_ne collation (h.ne_null a) (h.ne_undefined a),
      h.again haccept]
    rfl

theorem validateWith_same {accept : JsValue → Except JsError α} {asValue : α → JsValue}
    (h : Settles accept asValue) {v w : Option α}
    (hok : validateWith accept (v.elim .null asValue) collation = .ok w) : w = v := by
  cases v with
  | none =>
    cases hok
    rfl
  | some a =>
    rw [Option.elim_some, validateWith_of_ne collation (h.ne_null a) (h.ne_undefined a)] at hok
    cases hvalue : accept (asValue a) with
    | error e =>
      rw [hvalue] at hok
      cases hok
    | ok b =>
      rw [hvalue] at hok
      cases hok
      exact congrArg some (h.same hvalue)

/-- A type that accepts values on their own settles as its way to accept them does. -/
theorem TypeSettles.of_settles {type : DataType} {accept : JsValue → Except JsError _}
    (hvalidate : (sendType js useUTC type).validate = validateWith accept)
    (h : Settles accept (returnedValue js useUTC type)) :
    TypeSettles js useUTC collation type where
  again {value v} hok := by
    rw [hvalidate] at hok ⊢
    exact validateWith_again collation h hok
  same {v w} hok := by
    rw [hvalidate] at hok
    exact validateWith_same collation h hok

/-- The types that are not implemented accept nothing. -/
theorem TypeSettles.of_error {type : DataType} {e : JsError}
    (h : (sendType js useUTC type).validate = fun _ _ => .error e) :
    TypeSettles js useUTC collation type where
  again {value v} hok := by
    rw [h] at hok
    cases hok
  same {v w} hok := by
    rw [h] at hok
    cases hok

theorem TypeSettles.table : TypeSettles js useUTC collation .TVP where
  again {value v} hok := by
    have htable : validateTable value = .ok v := hok
    cases value <;> cases htable <;> rfl
  same {v w} hok := by
    cases v with
    | none =>
      cases hok
      rfl
    | some table =>
      cases hok
      rfl

theorem typeSettles (hparse : js.ParsesNumbers) {type : DataType} (htype : isEncoded type = false) :
    TypeSettles js useUTC collation type := by
  cases type with
  | TinyInt | SmallInt | Int =>
    exact .of_settles useUTC collation rfl (acceptInteger_settles _ (by decide) (by decide))
  | BigInt => exact .of_settles useUTC collation rfl (acceptNumber_settles _ _ _)
  | SmallMoney | Money => exact .of_settles useUTC collation rfl (acceptMoney_settles hparse _ _ _)
  | Real | Float | Decimal | Numeric =>
    exact .of_settles useUTC collation rfl (acceptFloat_settles hparse)
  | Bit => exact .of_settles useUTC collation rfl isTruthy_settles
  | SmallDateTime | DateTime | Date | Time | DateTime2 | DateTimeOffset =>
    exact .of_settles useUTC collation rfl (acceptDate_settles _ _)
  | UniqueIdentifier => exact .of_settles useUTC collation rfl acceptGuid_settles
  | NVarChar | NChar | NText => exact .of_settles useUTC collation rfl acceptString_settles
  | Binary | VarBinary | Image => exact .of_settles useUTC collation rfl acceptBuffer_settles
  | TVP => exact .table useUTC collation
  | Null | IntN | BitN | DecimalN | NumericN | FloatN | MoneyN | DateTimeN | Xml | UDT | Variant =>
    exact .of_error useUTC collation rfl
  | VarChar | Char | Text => cases htype

/-- `undefined` or `null`. -/
def IsMissing (value : JsValue) : Prop := value = .undefined ∨ value = .null

/-- A type that encodes its values accepts no value that it has encoded. -/
theorem encoded_cases {type : DataType} (htype : isEncoded type = true) {value : JsValue}
    {v : Option (sendType js useUTC type).α}
    (h : (sendType js useUTC type).validate value collation = .ok v) :
    IsMissing value ∧ v = none ∨
      (∃ s, value = .string s) ∧ ∃ bytes e, nextValue js useUTC type v = .buffer bytes ∧
        (sendType js useUTC type).validate (.buffer bytes) collation = .error e := by
  have key : ∀ (methods : DataTypeMethods Bytes) (w : Option Bytes),
      (encodedText js methods).validate value collation = .ok w →
      IsMissing value ∧ w = none ∨ (∃ s, value = .string s) ∧ ∃ bytes e,
        w = some bytes ∧ (encodedText js methods).validate (.buffer bytes) collation = .error e := by
    intro methods w hw
    obtain ⟨text, htext, hw⟩ := Except.bind_ok hw
    cases value with
    | undefined =>
      cases htext
      cases hw
      exact .inl ⟨.inl rfl, rfl⟩
    | null =>
      cases htext
      cases hw
      exact .inl ⟨.inr rfl, rfl⟩
    | string s =>
      cases htext
      rw [validateText.eq_def] at hw
      dsimp only at hw
      split at hw
      · cases hw
      · split at hw
        · cases hw
        · cases hw
          exact .inr ⟨⟨s, rfl⟩, _, .error "Invalid string.", rfl, rfl⟩
    | _ => cases htext
  cases type with
  | VarChar | Char | Text =>
    rcases key _ v h with ⟨hmissing, rfl⟩ | ⟨hstring, bytes, e, rfl, herror⟩
    · exact .inl ⟨hmissing, rfl⟩
    · exact .inr ⟨hstring, bytes, e, rfl, herror⟩
  | _ => cases htype

end Types

/-! ### Parameters -/

section Parameters

variable {js : Runtime} {useUTC : Bool} {collation : Option Collation}

theorem Parameter.validate_ok_iff {parameter next : Parameter} :
    parameter.validate js useUTC collation = .ok next ↔
      ∃ v, (sendType js useUTC parameter.type).validate parameter.value collation = .ok v ∧
        next = { parameter with value := nextValue js useUTC parameter.type v } := by
  rw [Parameter.validate]
  cases (sendType js useUTC parameter.type).validate parameter.value collation with
  | error e => exact iff_of_false nofun (fun ⟨_, h, _⟩ => nomatch h)
  | ok v =>
    constructor
    · intro h
      cases h
      exact ⟨v, rfl, rfl⟩
    · rintro ⟨w, hw, rfl⟩
      cases hw
      rfl

theorem nextValue_encoded {type : DataType} (htype : isEncoded type = true)
    (v : Option (sendType js useUTC type).α) :
    nextValue js useUTC type v = .null ∨ ∃ bytes, nextValue js useUTC type v = .buffer bytes := by
  cases v with
  | none => exact .inl rfl
  | some v =>
    cases type with
    | VarChar | Char | Text => exact .inr ⟨v, rfl⟩
    | _ => cases htype

/-- A value that stays as it is. -/
theorem Parameter.validate_self_iff (hparse : js.ParsesNumbers) {parameter : Parameter}
    (h : Accepts (Parameter.validate js useUTC collation) parameter) :
    parameter.validate js useUTC collation = .ok parameter ↔
      InForm js useUTC parameter.type parameter.value := by
  obtain ⟨next, hnext⟩ := h
  obtain ⟨w, hw, rfl⟩ := validate_ok_iff.1 hnext
  rw [validate_ok_iff]
  constructor
  · rintro ⟨v, -, hv⟩
    exact ⟨v, congrArg Parameter.value hv⟩
  · rintro ⟨v, hv⟩
    refine ⟨w, hw, ?_⟩
    have hvalue : parameter.value = nextValue js useUTC parameter.type w := by
      cases htype : isEncoded parameter.type with
      | false =>
        rw [hv] at hw
        rw [(typeSettles useUTC collation hparse htype).same hw, hv]
      | true =>
        rcases encoded_cases useUTC collation htype hw with ⟨hmissing, rfl⟩ | ⟨⟨s, hs⟩, -⟩
        · rcases nextValue_encoded htype v with hnull | ⟨bytes, hbytes⟩
          · exact hv.trans hnull
          · rw [hv, hbytes] at hmissing
            rcases hmissing with hmissing | hmissing <;> cases hmissing
        · rw [hs] at hv
          rcases nextValue_encoded htype v with hnull | ⟨bytes, hbytes⟩
          · rw [hnull] at hv
            cases hv
          · rw [hbytes] at hv
            cases hv
    rw [← hvalue]

/-- What was returned is accepted once more, unless it is encoded text. -/
theorem validate_nextValue (hparse : js.ParsesNumbers) {type : DataType} {value : JsValue}
    {v : Option (sendType js useUTC type).α}
    (h : (sendType js useUTC type).validate value collation = .ok v)
    (htext : isEncoded type = true → IsMissing value) :
    (sendType js useUTC type).validate (nextValue js useUTC type v) collation = .ok v := by
  cases htype : isEncoded type with
  | false => exact (typeSettles useUTC collation hparse htype).again h
  | true =>
    rcases encoded_cases useUTC collation htype h with ⟨-, rfl⟩ | ⟨⟨s, hs⟩, -⟩
    · cases type with
      | VarChar | Char | Text => rfl
      | _ => cases htype
    · rw [hs] at htext
      rcases htext htype with hmissing | hmissing <;> cases hmissing

/-- A value that stays as it has become. -/
theorem Parameter.validate_again_iff (hparse : js.ParsesNumbers) {parameter next : Parameter}
    (h : parameter.validate js useUTC collation = .ok next) :
    next.validate js useUTC collation = .ok next ↔
      (isEncoded parameter.type = true → IsMissing parameter.value) := by
  obtain ⟨v, hv, rfl⟩ := validate_ok_iff.1 h
  constructor
  · intro hagain htype
    obtain ⟨w, hw, -⟩ := validate_ok_iff.1 hagain
    rcases encoded_cases useUTC collation htype hv with ⟨hmissing, -⟩ | ⟨-, bytes, e, hnext, herror⟩
    · exact hmissing
    · rw [hnext, herror] at hw
      cases hw
  · intro htext
    exact validate_ok_iff.2 ⟨v, validate_nextValue hparse hv htext, rfl⟩

/-- Then the same bytes are sent. -/
theorem Parameter.write_again (hparse : js.ParsesNumbers) {parameter next : Parameter}
    (h : parameter.validate js useUTC collation = .ok next)
    (htext : isEncoded parameter.type = true → IsMissing parameter.value) :
    next.write js useUTC collation = parameter.write js useUTC collation := by
  obtain ⟨v, hv, rfl⟩ := validate_ok_iff.1 h
  rw [Parameter.write, Parameter.write]
  dsimp only
  rw [validate_nextValue hparse hv htext, hv]

/-- What is asked of a validation: a failure changes nothing, and a success can be repeated, with
the same values and the same bytes. -/
structure ValidatesWell (js : Runtime) (useUTC : Bool) (collation : Option Collation)
    (parameters : List Parameter) : Prop where
  atomic : Atomic (Parameter.validate js useUTC collation) parameters
  idempotent : Idempotent (Parameter.validate js useUTC collation) parameters
  sameBytes : (validateParameters js useUTC collation parameters).2 = none →
    (validateParameters js useUTC collation parameters).1.map (Parameter.write js useUTC collation) =
      parameters.map (Parameter.write js useUTC collation)

/-- The values in front of a refused one are as `validate` returns them, and where none is
refused there is no text to encode. -/
structure StaysValid (js : Runtime) (useUTC : Bool) (collation : Option Collation)
    (parameters : List Parameter) : Prop where
  inForm : ∀ before parameter behind, parameters = before ++ parameter :: behind →
    (∀ earlier ∈ before, Accepts (Parameter.validate js useUTC collation) earlier) →
    ¬ Accepts (Parameter.validate js useUTC collation) parameter →
    ∀ earlier ∈ before, InForm js useUTC earlier.type earlier.value
  noText : (∀ parameter ∈ parameters, Accepts (Parameter.validate js useUTC collation) parameter) →
    ∀ parameter ∈ parameters, isEncoded parameter.type = true → IsMissing parameter.value

/-- **Validation.** Exactly these lists of parameters are validated atomically and idempotently. -/
theorem validateParameters_iff (hparse : js.ParsesNumbers) (useUTC : Bool)
    (collation : Option Collation) (parameters : List Parameter) :
    ValidatesWell js useUTC collation parameters ↔ StaysValid js useUTC collation parameters := by
  constructor
  · rintro ⟨hatomic, hidempotent, -⟩
    constructor
    · intro before parameter behind hsplit haccepts hrefused earlier hearlier
      have hself := atomic_iff.1 hatomic before parameter behind hsplit haccepts hrefused earlier
        hearlier
      exact (Parameter.validate_self_iff hparse (haccepts earlier hearlier)).1 hself
    · intro haccepts parameter hparameter
      obtain ⟨next, hnext⟩ := haccepts parameter hparameter
      have hagain := idempotent_iff.1 hidempotent haccepts parameter hparameter next hnext
      exact (Parameter.validate_again_iff hparse hnext).1 hagain
  · rintro ⟨hinForm, hnoText⟩
    refine ⟨atomic_iff.2 ?_, idempotent_iff.2 ?_, ?_⟩
    · intro before parameter behind hsplit haccepts hrefused earlier hearlier
      exact (Parameter.validate_self_iff hparse (haccepts earlier hearlier)).2
        (hinForm before parameter behind hsplit haccepts hrefused earlier hearlier)
    · intro haccepts parameter hparameter next hnext
      exact (Parameter.validate_again_iff hparse hnext).2 (hnoText haccepts parameter hparameter)
    · intro hok
      have haccepts := update_none_iff.1 hok
      exact update_map haccepts fun parameter hparameter next hnext =>
        Parameter.write_again hparse hnext (hnoText haccepts parameter hparameter)

end Parameters

theorem numberRuntime_parsesNumbers : numberRuntime.ParsesNumbers := fun _ => rfl

/-- A parameter without a name or anything that is declared. -/
def plainParameter (type : DataType) (value : JsValue) : Parameter where
  type := type
  name := []
  value := value
  output := false
  length := none
  precision := none
  scale := none

/-- A fraction for an `Int` is cut off once and for all. -/
theorem validateParameters_int :
    ValidatesWell numberRuntime true none [plainParameter .Int (.number (.finite (7 / 2)))] := by
  refine (validateParameters_iff numberRuntime_parsesNumbers true none _).2 ⟨?_, ?_⟩
  · intro before parameter behind hsplit _ _ earlier hearlier
    cases before with
    | nil => cases hearlier
    | cons first before => simp at hsplit
  · intro _ parameter hparameter htext
    rw [List.mem_singleton.1 hparameter] at htext
    cases htext

/-- A collation of the code page 1252. -/
def latinCollation : Collation := Collation.fromBuffer [0x09, 0x04, 0xD0, 0x00, 0x34]

/-- The text of a `VarChar` is accepted once. -/
theorem not_validatesWell :
    ¬ ∀ (js : Runtime) (useUTC : Bool) (collation : Option Collation) (parameters : List Parameter),
      js.ParsesNumbers → ValidatesWell js useUTC collation parameters := by
  intro h
  have hwell := h numberRuntime true (some latinCollation)
    [plainParameter .VarChar (.string (JsString.ofString "a"))] numberRuntime_parsesNumbers
  have hnoText := ((validateParameters_iff numberRuntime_parsesNumbers _ _ _).1 hwell).noText
  have haccepts : Accepts (Parameter.validate numberRuntime true (some latinCollation))
      (plainParameter .VarChar (.string (JsString.ofString "a"))) := ⟨_, rfl⟩
  have hmissing := hnoText (fun parameter hparameter => by
    rwa [List.mem_singleton.1 hparameter]) _ (List.mem_singleton_self _) rfl
  rcases hmissing with hmissing | hmissing <;> cases hmissing

end Tedious
