import Tedious.DataTypes.Variable

/-!
# Tedious.DataTypes.BinaryFraming

The two length bytes of a `Binary` value and the bytes behind them. The length that is
written is the declared one, the data is the value cut to it, so they agree only when the
value is at least as long as declared and the declared length is at most the maximum.
-/

namespace Tedious

open Chunked

/-- Who sends a parameter. -/
inductive Sender
  | rpc
  | bulkLoad
  | tvpCell
  deriving DecidableEq, Repr

/-- The parameter as the type is told it. -/
def Sender.parameter (type : DataTypeMethods α) (collation : Option Collation)
    (parameter : ParameterData α) : Sender → ParameterData α
  | rpc => type.rpcParameter collation parameter
  | bulkLoad => type.bulkParameter parameter
  | tvpCell => DataTypeMethods.tvpParameter parameter

@[simp] theorem Sender.parameter_value (type : DataTypeMethods α) (collation : Option Collation)
    (parameter : ParameterData α) (sender : Sender) :
    (sender.parameter type collation parameter).value = parameter.value := by
  cases sender <;> rfl

/-- The written length is the number of bytes that follow; the marker of `NULL` without any
bytes stands for no value, and for nothing else. -/
def DataTypeMethods.Framed (type : DataTypeMethods α) (parameter : ParameterData α) : Prop :=
  ∀ length data, type.generateParameterLength parameter = .ok length →
    type.generateParameterData parameter = .ok data →
    ((length = NULL_LENGTH ∧ data.flatten = []) ↔ parameter.value = none) ∧
      (parameter.value ≠ none → leNat length = data.flatten.length)

/-- The length that a sender tells `Binary` for a value. -/
def Sender.binaryLength (declared : Option JsNumber) (value : Bytes) : Sender → Option JsNumber
  | rpc =>
    match declared with
    | some n => if n.isTruthy then some n else some (.ofNat value.length)
    | none => some (.ofNat value.length)
  | bulkLoad => some (declared.getD (.ofNat 8000))
  | tvpCell => declared

/-- The value reaches up to the length, and the length is at most the maximum; or the length
cannot be written at all. Without a length 0 is written, and `NaN` counts as 0. -/
def BinaryFits (length : Option JsNumber) (value : Bytes) : Prop :=
  match length with
  | none => value = []
  | some (.finite q) => q < 0 ∨ 65535 < q ∨ (⌊q⌋ ≤ 8000 ∧ ⌊q⌋ ≤ value.length)
  | some .nan | some .infinity | some .negInfinity => True

theorem Sender.parameter_length_binary (sender : Sender) (collation : Option Collation)
    {parameter : ParameterData Bytes} {value : Bytes} (hvalue : parameter.value = some value) :
    (sender.parameter TYPES.Binary collation parameter).length =
      sender.binaryLength parameter.length value := by
  obtain ⟨length, precision, scale, collation', value'⟩ := parameter
  dsimp only at hvalue
  subst hvalue
  cases sender with
  | tvpCell => rfl
  | rpc => cases length <;> rfl
  | bulkLoad => cases length <;> rfl

/-- A value whose length is written as `n`, with `data` behind it. -/
theorem framed_some {type : DataTypeMethods α} {parameter : ParameterData α} {n : Nat}
    {data : Bytes} (hvalue : parameter.value ≠ none) (hn : n < 65536)
    (hlength : type.generateParameterLength parameter = .ok (leBytes 2 n))
    (hdata : type.generateParameterData parameter = .ok [data]) :
    type.Framed parameter ↔ n = data.length := by
  have hflat : [data].flatten = data := by simp
  have hwritten : leNat (leBytes 2 n) = n := leNat_leBytes hn
  constructor
  · intro h
    have hframed := (h _ _ hlength hdata).2 hvalue
    rwa [hflat, hwritten] at hframed
  · rintro rfl length data' hlength' hdata'
    cases hlength.symm.trans hlength'
    cases hdata.symm.trans hdata'
    rw [hflat, hwritten]
    refine ⟨⟨fun h => ?_, fun h => absurd h hvalue⟩, fun _ => rfl⟩
    obtain ⟨hnull, rfl⟩ := h
    exact absurd hnull (by decide)

theorem framed_of_throws {type : DataTypeMethods α} {parameter : ParameterData α} {e : JsError}
    (h : type.generateParameterLength parameter = .error e) : type.Framed parameter := by
  intro length data hlength
  rw [h] at hlength
  cases hlength

/-- The bytes that are left of a value. -/
theorem length_take_sliceEnd {q : Rat} (h : 0 ≤ q) (value : Bytes) :
    (value.take (JsNumber.sliceEnd value.length (.finite q))).length =
      min ⌊q⌋.toNat value.length := by
  have hfloor : 0 ≤ ⌊q⌋ := Int.floor_nonneg.2 h
  rw [JsNumber.sliceEnd, truncate_of_nonneg h, clampIndex, if_neg (by omega), List.length_take]
  omega

theorem floor_min_natCast (q : Rat) (n : Nat) : ⌊min q n⌋ = min ⌊q⌋ n := by
  rcases le_total q n with h | h
  · rw [min_eq_left h, min_eq_left]
    have hfloor := Int.floor_le_floor h
    rwa [Int.floor_natCast] at hfloor
  · rw [min_eq_right h, Int.floor_natCast, min_eq_right]
    exact Int.le_floor.2 h

/-- A value under a length that can be written. -/
theorem framed_binary_finite {parameter : ParameterData Bytes} {value : Bytes} {q : Rat}
    (hvalue : parameter.value = some value) (hlength : parameter.length = some (.finite q))
    (h0 : 0 ≤ q) (hle : q ≤ (65535 : Nat)) :
    TYPES.Binary.Framed parameter ↔ ⌊q⌋ ≤ 8000 ∧ ⌊q⌋ ≤ value.length := by
  have hfloor0 : 0 ≤ ⌊q⌋ := Int.floor_nonneg.2 h0
  have hfloor : ⌊q⌋ ≤ 65535 := by
    have h := Int.floor_le_floor hle
    rwa [Int.floor_natCast] at h
  have hwritten : TYPES.Binary.generateParameterLength parameter = .ok (leBytes 2 ⌊q⌋.toNat) := by
    simp only [TYPES.Binary, hvalue, hlength]
    exact (if_pos ⟨h0, hle⟩).trans (by rw [truncate_of_nonneg h0])
  have hdata : TYPES.Binary.generateParameterData parameter =
      .ok [value.take (JsNumber.sliceEnd value.length (.finite (min q (8000 : Nat))))] := by
    simp only [TYPES.Binary, hvalue, hlength]
    rfl
  have hne : parameter.value ≠ none := by
    rw [hvalue]
    exact Option.some_ne_none value
  have hmin : 0 ≤ min q (8000 : Nat) := le_min h0 (Nat.cast_nonneg 8000)
  rw [framed_some hne (by omega) hwritten hdata, length_take_sliceEnd hmin, floor_min_natCast]
  omega

theorem framed_binary_some {parameter : ParameterData Bytes} {value : Bytes}
    (hvalue : parameter.value = some value) :
    TYPES.Binary.Framed parameter ↔ BinaryFits parameter.length value := by
  have hne : parameter.value ≠ none := by
    rw [hvalue]
    exact Option.some_ne_none value
  obtain ⟨length, precision, scale, collation, value'⟩ := parameter
  dsimp only at hvalue hne ⊢
  subst hvalue
  cases length with
  | none =>
    have h8000 : (0 : Rat) ≤ (8000 : Nat) := Nat.cast_nonneg 8000
    rw [framed_some (n := 0) hne (by decide) rfl rfl]
    show 0 = (value.take (JsNumber.sliceEnd value.length (.finite (8000 : Nat)))).length ↔ value = []
    rw [length_take_sliceEnd h8000, Int.floor_natCast, ← List.length_eq_zero_iff]
    omega
  | some length =>
    cases length with
    | nan => exact iff_of_true ((framed_some (n := 0) hne (by decide) rfl rfl).2 rfl) trivial
    | infinity => exact iff_of_true (framed_of_throws rfl) trivial
    | negInfinity => exact iff_of_true (framed_of_throws rfl) trivial
    | finite q =>
      show _ ↔ q < 0 ∨ 65535 < q ∨ (⌊q⌋ ≤ 8000 ∧ ⌊q⌋ ≤ value.length)
      by_cases h : 0 ≤ q ∧ q ≤ (65535 : Nat)
      · rw [framed_binary_finite rfl rfl h.1 h.2]
        have hnot : ¬65535 < q := not_lt.2 h.2
        exact ⟨fun h' => .inr (.inr h'), fun h' => (h'.resolve_left (not_lt.2 h.1)).resolve_left hnot⟩
      · have hthrows : TYPES.Binary.generateParameterLength
            ⟨some (.finite q), precision, scale, collation, some value⟩ = .error .rangeError :=
          if_neg h
        refine iff_of_true (framed_of_throws hthrows) ?_
        rcases not_and_or.1 h with h | h
        · exact .inl (not_le.1 h)
        · exact .inr (.inl (not_le.1 h))

theorem framed_binary_none {parameter : ParameterData Bytes} (hvalue : parameter.value = none) :
    TYPES.Binary.Framed parameter := by
  obtain ⟨length, precision, scale, collation, value⟩ := parameter
  dsimp only at hvalue
  subst hvalue
  intro length data hlength hdata
  cases hlength
  cases hdata
  exact ⟨iff_of_true ⟨rfl, rfl⟩ rfl, fun h => absurd rfl h⟩

/-- **Framing of `Binary`.** Whoever sends it, a value is framed exactly when it reaches up to
the length that the type is told, within the maximum, or when that length cannot be written. -/
theorem framed_binary_iff (sender : Sender) (collation : Option Collation)
    (parameter : ParameterData Bytes) :
    TYPES.Binary.Framed (sender.parameter TYPES.Binary collation parameter) ↔
      ∀ value ∈ parameter.value,
        BinaryFits (sender.binaryLength parameter.length value) value := by
  cases hvalue : parameter.value with
  | none =>
    refine iff_of_true (framed_binary_none ?_) (by simp)
    rw [Sender.parameter_value, hvalue]
  | some value =>
    have hsent : (sender.parameter TYPES.Binary collation parameter).value = some value := by
      rw [Sender.parameter_value, hvalue]
    rw [framed_binary_some hsent, Sender.parameter_length_binary sender collation hvalue]
    exact ⟨fun h value' hvalue' => by cases hvalue'; exact h, fun h => h value rfl⟩

/-- Two bytes under a declared length of 3, sent in an RPC request. -/
theorem not_framed_binary :
    ¬ ∀ (sender : Sender) (collation : Option Collation) (parameter : ParameterData Bytes),
      TYPES.Binary.Framed (sender.parameter TYPES.Binary collation parameter) := by
  intro h
  have hframed := h .rpc none ⟨some (.ofNat 3), none, none, none, some [1, 2]⟩
    [3, 0] [[1, 2]] rfl rfl
  exact absurd (hframed.2 (by decide)) (by decide)

end Tedious
