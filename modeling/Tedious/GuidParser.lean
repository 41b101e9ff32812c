import Tedious.DataTypes.Types
import Tedious.ValueParser

/-!
# Tedious.GuidParser

Identifiers as text and as bytes (`guid-parser.ts`). In the bytes, the first three groups of digits
are little-endian.

Text and bytes determine each other, up to the case of the digits (`guid_bijective`).
-/

namespace Tedious

open Chunked

/-! ### From bytes to text -/

/-- A digit of `UPPER_CASE_MAP`. -/
def upperCaseDigit (n : Nat) : UInt16 := UInt16.ofNat (Nat.digitChar n).toUpper.toNat

/-- A digit of `LOWER_CASE_MAP`. -/
def lowerCaseDigit (n : Nat) : UInt16 := UInt16.ofNat (Nat.digitChar n).toUpper.toLower.toNat

/-- The digits of a byte, as they stand in the table at its place. -/
def hexPair (digit : Nat → UInt16) (n : Nat) : JsString := [digit (n / 16), digit (n % 16)]

def UPPER_CASE_MAP : Nat → JsString := hexPair upperCaseDigit

def LOWER_CASE_MAP : Nat → JsString := hexPair lowerCaseDigit

/-- The bytes of a buffer in the order of the text. -/
def guidText (map : Nat → JsString) (buffer : Bytes) : JsString :=
  let hex := fun i => map (Collation.byteAt buffer i)
  List.flatten
    [hex 3, hex 2, hex 1, hex 0, [0x2D], hex 5, hex 4, [0x2D], hex 7, hex 6, [0x2D], hex 8, hex 9,
      [0x2D], hex 10, hex 11, hex 12, hex 13, hex 14, hex 15]

def bufferToUpperCaseGuid (buffer : Bytes) : JsString := guidText UPPER_CASE_MAP buffer

def bufferToLowerCaseGuid (buffer : Bytes) : JsString := guidText LOWER_CASE_MAP buffer

theorem ofString_hexByte (n : Nat) : JsString.ofString (hexByte n) = UPPER_CASE_MAP n := by
  rw [JsString.ofString, hexByte, String.toList_ofList]
  rfl

theorem ofString_hexByte_toLower (n : Nat) :
    JsString.ofString (hexByte n).toLower = LOWER_CASE_MAP n := by
  have hlower : (hexByte n).toLower = (hexByte n).map Char.toLower := rfl
  rw [JsString.ofString, hlower, String.toList_map, hexByte, String.toList_ofList]
  rfl

theorem map_intersperse {α β : Type} (f : α → β) (sep : α) (l : List α) :
    (l.intersperse sep).map f = (l.map f).intersperse (f sep) := by
  induction l with
  | nil => rfl
  | cons x l ih =>
    cases l with
    | nil => rfl
    | cons y l =>
      rw [List.map_cons, List.map_cons] at *
      rw [List.intersperse_cons_cons, List.intersperse_cons_cons, List.map_cons, List.map_cons, ih]

/-- Groups of digits with dashes between them. -/
theorem ofString_intercalate (groups : List String) :
    JsString.ofString ("-".intercalate groups) =
      [0x2D].intercalate (groups.map JsString.ofString) := by
  rw [JsString.ofString, String.toList_intercalate, List.intercalate, List.map_flatten,
    map_intersperse, List.map_map]
  rfl

theorem ofString_join (digits : List String) :
    JsString.ofString (String.join digits) = digits.flatMap JsString.ofString := by
  rw [JsString.ofString, String.toList_join, List.map_flatMap]
  rfl

/-- The two functions are what a column of the type is read with. -/
theorem ofString_bufferToGuid (lowerCase : Bool) (buffer : Bytes) :
    JsString.ofString (bufferToGuid lowerCase buffer) =
      if lowerCase then bufferToLowerCaseGuid buffer else bufferToUpperCaseGuid buffer := by
  let hex : Nat → String := fun i =>
    let digits := hexByte (Collation.byteAt buffer i)
    if lowerCase then digits.toLower else digits
  let groups : List (List Nat) := [[3, 2, 1, 0], [5, 4], [7, 6], [8, 9], [10, 11, 12, 13, 14, 15]]
  obtain ⟨map, hmap, htext⟩ : ∃ map : Nat → JsString,
      (∀ i, JsString.ofString (hex i) = map (Collation.byteAt buffer i)) ∧
      (if lowerCase then bufferToLowerCaseGuid buffer else bufferToUpperCaseGuid buffer) =
        guidText map buffer := by
    cases lowerCase with
    | false => exact ⟨UPPER_CASE_MAP, fun i => ofString_hexByte _, if_neg Bool.false_ne_true⟩
    | true => exact ⟨LOWER_CASE_MAP, fun i => ofString_hexByte_toLower _, if_pos rfl⟩
  have hgroup : (JsString.ofString ∘ fun places : List Nat => String.join (places.map hex)) =
      fun places => places.flatMap fun i => map (Collation.byteAt buffer i) := by
    funext places
    rw [Function.comp_apply, ofString_join, List.flatMap_map]
    simp only [hmap]
  have hsource : bufferToGuid lowerCase buffer =
      "-".intercalate (groups.map fun places => String.join (places.map hex)) := rfl
  rw [hsource, ofString_intercalate, List.map_map, hgroup, htext]
  clear hsource hgroup htext hmap
  simp [groups, guidText, List.intercalate]

/-! ### From text to bytes -/

/-- Where the digits of each byte stand. -/
def guidPlaces : List Nat := [6, 4, 2, 0, 11, 9, 16, 14, 19, 21, 24, 26, 28, 30, 32, 34]

theorem mapM_guidByte {guid : JsString} {places : List Nat} {bytes : Bytes}
    (h : List.Forall₂ (fun i b => guidByte guid i = .ok [b]) places bytes) :
    places.mapM (guidByte guid) = .ok (bytes.map fun b => [b]) := by
  induction h with
  | nil => rfl
  | cons hb _ ih =>
    rw [List.mapM_cons, hb, ih]
    rfl

theorem guidToArray_of_forall₂ {guid : JsString} {bytes : Bytes}
    (h : List.Forall₂ (fun i b => guidByte guid i = .ok [b]) guidPlaces bytes) :
    guidToArray guid = .ok bytes := by
  have hflatten : (bytes.map fun b => [b]).flatten = bytes := List.flatMap_singleton' bytes
  rw [guidToArray, ← guidPlaces, mapM_guidByte h]
  exact congrArg Except.ok hflatten

/-- Two digits are a byte. -/
theorem guidByte_eq {guid : JsString} {i : Nat} {c d : UInt16} {b : UInt8}
    (hc : guid[i]? = some c) (hd : guid[i + 1]? = some d)
    (hhigh : hexValue c = some (b.toNat / 16)) (hlow : hexValue d = some (b.toNat % 16)) :
    guidByte guid i = .ok [b] := by
  have hbyte : 16 * (b.toNat / 16) + b.toNat % 16 = b.toNat := Nat.div_add_mod _ 16
  rw [guidByte, hc, hd, Option.bind_some, Option.bind_some, hhigh, hlow]
  show Except.ok [UInt8.ofNat ((16 * (b.toNat / 16) + b.toNat % 16) % 256)] = _
  rw [hbyte, Nat.mod_eq_of_lt b.toNat_lt, UInt8.ofNat_toNat]

theorem hexValue_upperCaseDigit : ∀ n < 16, hexValue (upperCaseDigit n) = some n := by decide

theorem hexValue_lowerCaseDigit : ∀ n < 16, hexValue (lowerCaseDigit n) = some n := by decide

/-- **The bytes come back** from their text, in one case or the other. -/
theorem guidToArray_guidText {digit : Nat → UInt16} (hdigit : ∀ n < 16, hexValue (digit n) = some n)
    {buffer : Bytes} (h : buffer.length = 16) :
    guidToArray (guidText (hexPair digit) buffer) = .ok buffer := by
  have hbyte : ∀ {guid : JsString} {i : Nat} {b : UInt8}, guid[i]? = some (digit (b.toNat / 16)) →
      guid[i + 1]? = some (digit (b.toNat % 16)) → guidByte guid i = .ok [b] := by
    intro guid i b hc hd
    have hb := b.toNat_lt
    exact guidByte_eq hc hd (hdigit _ (by omega)) (hdigit _ (by omega))
  match buffer, h with
  | [b₀, b₁, b₂, b₃, b₄, b₅, b₆, b₇, b₈, b₉, b₁₀, b₁₁, b₁₂, b₁₃, b₁₄, b₁₅], _ =>
    exact guidToArray_of_forall₂ <|
      .cons (hbyte rfl rfl) <| .cons (hbyte rfl rfl) <| .cons (hbyte rfl rfl) <|
      .cons (hbyte rfl rfl) <| .cons (hbyte rfl rfl) <| .cons (hbyte rfl rfl) <|
      .cons (hbyte rfl rfl) <| .cons (hbyte rfl rfl) <| .cons (hbyte rfl rfl) <|
      .cons (hbyte rfl rfl) <| .cons (hbyte rfl rfl) <| .cons (hbyte rfl rfl) <|
      .cons (hbyte rfl rfl) <| .cons (hbyte rfl rfl) <| .cons (hbyte rfl rfl) <|
      .cons (hbyte rfl rfl) .nil

/-! ### Any spelling -/

/-- `toUpperCase` of a letter or a digit. -/
def asciiUpperCase (c : UInt16) : UInt16 := if 0x61 ≤ c ∧ c ≤ 0x7A then c - 0x20 else c

/-- `toLowerCase` of a letter or a digit. -/
def asciiLowerCase (c : UInt16) : UInt16 := if 0x41 ≤ c ∧ c ≤ 0x5A then c + 0x20 else c

/-- Digits and dashes are found among the first code units. -/
theorem hexValue_lt {c : UInt16} {v : Nat} (h : hexValue c = some v) : c.toNat < 103 := by
  obtain ⟨hvalue, hlt⟩ := Option.filter_eq_some_iff.1 h
  rw [decide_eq_true_eq] at hlt
  rw [digitValue] at hvalue
  split at hvalue
  · next hdigit =>
    have hle : c ≤ 0x39 := by simpa using (Bool.and_eq_true_iff.1 hdigit).2
    exact Nat.lt_of_le_of_lt (UInt16.le_iff_toNat_le.1 hle) (by decide)
  · split at hvalue
    · next hupper =>
      have hle : c ≤ 0x5A := by simpa using (Bool.and_eq_true_iff.1 hupper).2
      exact Nat.lt_of_le_of_lt (UInt16.le_iff_toNat_le.1 hle) (by decide)
    · split at hvalue
      · have := Option.some.inj hvalue
        omega
      · cases hvalue

/-- The digit of a value is the one that was read, but for its case. -/
theorem digits_spelled {c : UInt16} {v : Nat} (h : hexValue c = some v) :
    v < 16 ∧ upperCaseDigit v = asciiUpperCase c ∧ lowerCaseDigit v = asciiLowerCase c := by
  have hall : ∀ n < 103, (hexValue (UInt16.ofNat n)).all (fun v => v < 16 ∧
      upperCaseDigit v = asciiUpperCase (UInt16.ofNat n) ∧
      lowerCaseDigit v = asciiLowerCase (UInt16.ofNat n)) = true := by decide
  have hc := hall c.toNat (hexValue_lt h)
  rw [UInt16.ofNat_toNat, h] at hc
  exact of_decide_eq_true hc

/-- What stands at each place of an identifier. -/
theorem isGuid_spec {s : JsString} (h : isGuid s = true) :
    s.length = 36 ∧ ∀ i < 36, if i ∈ [8, 13, 18, 23] then s.getD i 0 = 0x2D
      else s[i]? = some (s.getD i 0) ∧ ∃ v, hexValue (s.getD i 0) = some v := by
  rw [isGuid, Bool.and_eq_true_iff, decide_eq_true_eq, List.all_eq_true] at h
  obtain ⟨hlength, hall⟩ := h
  refine ⟨hlength, fun i hi => ?_⟩
  have hget : s[i]? = some (s.getD i 0) := by
    rw [List.getD_eq_getElem?_getD, List.getElem?_eq_getElem (by omega), Option.getD_some]
  have hplace := hall (s.getD i 0, i) (List.mem_zipIdx_iff_getElem?.2 hget)
  dsimp only at hplace
  split
  · next hdash =>
    rw [if_pos hdash] at hplace
    exact of_decide_eq_true hplace
  · next hdigit =>
    rw [if_neg hdigit] at hplace
    exact ⟨hget, Option.isSome_iff_exists.1 hplace⟩

/-- The byte of two digits. -/
def pairByte (s : JsString) (i : Nat) : UInt8 :=
  UInt8.ofNat (16 * (hexValue (s.getD i 0)).getD 0 + (hexValue (s.getD (i + 1) 0)).getD 0)

/-- Both digits of every byte stand where they are looked for. -/
theorem guidPlaces_digits : ∀ i ∈ guidPlaces,
    i + 1 < 36 ∧ i ∉ [8, 13, 18, 23] ∧ i + 1 ∉ [8, 13, 18, 23] := by
  decide

theorem pairByte_digits {s : JsString} (h : isGuid s = true) {i : Nat} (hi : i ∈ guidPlaces) :
    ∃ high low, hexValue (s.getD i 0) = some high ∧ hexValue (s.getD (i + 1) 0) = some low ∧
      (pairByte s i).toNat / 16 = high ∧ (pairByte s i).toNat % 16 = low ∧
      s[i]? = some (s.getD i 0) ∧ s[i + 1]? = some (s.getD (i + 1) 0) := by
  obtain ⟨hlt, hdigit, hdigit'⟩ := guidPlaces_digits i hi
  have hspec := (isGuid_spec h).2
  have hhere := hspec i (by omega)
  have hnext := hspec (i + 1) hlt
  rw [if_neg hdigit] at hhere
  rw [if_neg hdigit'] at hnext
  obtain ⟨hget, high, hhigh⟩ := hhere
  obtain ⟨hget', low, hlow⟩ := hnext
  have hhigh16 := (digits_spelled hhigh).1
  have hlow16 := (digits_spelled hlow).1
  have hbyte : (pairByte s i).toNat = 16 * high + low := by
    rw [pairByte, hhigh, hlow, Option.getD_some, Option.getD_some]
    exact UInt8.toNat_ofNat_of_lt' (show 16 * high + low < 256 by omega)
  exact ⟨high, low, hhigh, hlow, by omega, by omega, hget, hget'⟩

/-- The bytes of an identifier. -/
theorem guidToArray_of_isGuid {s : JsString} (h : isGuid s = true) :
    guidToArray s = .ok (guidPlaces.map (pairByte s)) := by
  refine guidToArray_of_forall₂ (List.forall₂_map_right_iff.2 (List.forall₂_same.2 fun i hi => ?_))
  obtain ⟨high, low, hhigh, hlow, hdiv, hmod, hget, hget'⟩ := pairByte_digits h hi
  exact guidByte_eq hget hget' (by rw [hhigh, hdiv]) (by rw [hlow, hmod])

theorem map_eq_range {s : JsString} (convert : UInt16 → UInt16) {n : Nat} (h : s.length = n) :
    s.map convert = (List.range n).map fun i => convert (s.getD i 0) := by
  subst h
  apply List.ext_getElem
  · rw [List.length_map, List.length_map, List.length_range]
  · intro i hi _
    rw [List.length_map] at hi
    rw [List.getElem_map, List.getElem_map, List.getElem_range, List.getD_eq_getElem?_getD,
      List.getElem?_eq_getElem hi, Option.getD_some]

/-- **The text comes back** from its bytes, spelled in one case. -/
theorem guidText_guidToArray {digit : Nat → UInt16} {convert : UInt16 → UInt16} {s : JsString}
    (h : isGuid s = true) (hdash : convert 0x2D = 0x2D)
    (hdigit : ∀ c v, hexValue c = some v → digit v = convert c) :
    guidText (hexPair digit) (guidPlaces.map (pairByte s)) = s.map convert := by
  have hpair : ∀ i, i ∈ guidPlaces → hexPair digit (pairByte s i).toNat =
      [convert (s.getD i 0), convert (s.getD (i + 1) 0)] := by
    intro i hi
    obtain ⟨high, low, hhigh, hlow, hdiv, hmod, -, -⟩ := pairByte_digits h hi
    rw [hexPair, hdiv, hmod, hdigit _ _ hhigh, hdigit _ _ hlow]
  have hdashes : ∀ i, i < 36 ∧ i ∈ [8, 13, 18, 23] → convert (s.getD i 0) = 0x2D := by
    intro i hi
    have hspec := (isGuid_spec h).2 i hi.1
    rw [if_pos hi.2] at hspec
    rw [hspec, hdash]
  have htext : guidText (hexPair digit) (guidPlaces.map (pairByte s)) =
      let hex := fun i => hexPair digit (pairByte s i).toNat
      [hex 0, hex 2, hex 4, hex 6, [0x2D], hex 9, hex 11, [0x2D], hex 14, hex 16, [0x2D], hex 19,
        hex 21, [0x2D], hex 24, hex 26, hex 28, hex 30, hex 32, hex 34].flatten := rfl
  have hmap : s.map convert =
      let unit := fun i => convert (s.getD i 0)
      let pair := fun i => [unit i, unit (i + 1)]
      [pair 0, pair 2, pair 4, pair 6, [unit 8], pair 9, pair 11, [unit 13], pair 14, pair 16,
        [unit 18], pair 19, pair 21, [unit 23], pair 24, pair 26, pair 28, pair 30, pair 32,
        pair 34].flatten := map_eq_range convert (isGuid_spec h).1
  rw [htext, hmap]
  simp (disch := decide) only [hpair, hdashes]

/-- What is accepted is an identifier, and is kept as it is spelled. -/
theorem acceptGuid_ok {s accepted : JsString} (h : acceptGuid (.string s) = .ok accepted) :
    accepted = s ∧ isGuid s = true := by
  obtain ⟨s', hs, h⟩ := Except.bind_ok h
  cases hs
  split at h
  · next hguid =>
    cases h
    exact ⟨rfl, hguid⟩
  · cases h

/-- **Text and bytes determine each other.** Sixteen bytes come back from their text in either case,
and the bytes that are sent for an accepted text give this text in either case. -/
theorem guid_bijective :
    (∀ buffer : Bytes, buffer.length = 16 →
      guidToArray (bufferToUpperCaseGuid buffer) = .ok buffer ∧
        guidToArray (bufferToLowerCaseGuid buffer) = .ok buffer) ∧
      ∀ (s accepted : JsString) (parameter : ParameterData JsString),
        acceptGuid (.string s) = .ok accepted → parameter.value = some accepted →
        ∃ data, TYPES.UniqueIdentifier.generateParameterData parameter = .ok data ∧
          bufferToUpperCaseGuid data.flatten = s.map asciiUpperCase ∧
          bufferToLowerCaseGuid data.flatten = s.map asciiLowerCase := by
  constructor
  · intro buffer hbuffer
    exact ⟨guidToArray_guidText hexValue_upperCaseDigit hbuffer,
      guidToArray_guidText hexValue_lowerCaseDigit hbuffer⟩
  · intro s accepted parameter haccept hvalue
    obtain ⟨rfl, hguid⟩ := acceptGuid_ok haccept
    have hdata : TYPES.UniqueIdentifier.generateParameterData parameter =
        .ok [guidPlaces.map (pairByte accepted)] := by
      show fixedData guidToArray parameter.value = _
      rw [hvalue, fixedData, guidToArray_of_isGuid hguid]
      rfl
    refine ⟨_, hdata, ?_, ?_⟩
    · rw [List.flatten_singleton]
      exact guidText_guidToArray hguid (by decide) fun c v hc => (digits_spelled hc).2.1
    · rw [List.flatten_singleton]
      exact guidText_guidToArray hguid (by decide) fun c v hc => (digits_spelled hc).2.2

theorem guid_bijective_sample :
    guidToArray (bufferToUpperCaseGuid ((List.range 16).map UInt8.ofNat)) =
        .ok ((List.range 16).map UInt8.ofNat) ∧
      ∃ data, TYPES.UniqueIdentifier.generateParameterData
          { length := none, precision := none, scale := none, collation := none
            value := some (.ofString "03020100-0504-0706-0809-0a0B0c0d0e0f") } = .ok data ∧
        bufferToUpperCaseGuid data.flatten =
          .ofString "03020100-0504-0706-0809-0A0B0C0D0E0F" := by
  obtain ⟨hbytes, htext⟩ := guid_bijective
  obtain ⟨data, hdata, hupper, -⟩ := htext (.ofString "03020100-0504-0706-0809-0a0B0c0d0e0f") _
    { length := none, precision := none, scale := none, collation := none
      value := some (.ofString "03020100-0504-0706-0809-0a0B0c0d0e0f") } rfl rfl
  exact ⟨(hbytes _ rfl).1, data, hdata, hupper.trans rfl⟩

end Tedious
