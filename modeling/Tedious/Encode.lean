import Tedious.Lib.Exact
import Tedious.Metadata

/-!
# Tedious.Encode

The bytes of integers, text and length-prefixed fields, as the methods of `Buffer` write
them, and what the readers of `token/helpers.ts` make of them: each of them reads exactly
the encoding of a value that fits (`Reads`).
-/

namespace Tedious

open Chunked

/-! ### Integers -/

/-- The `k` lowest bytes of a number, the lowest first. -/
def leBytes : (k n : Nat) → Bytes
  | 0, _ => []
  | k + 1, n => UInt8.ofNat (n % 256) :: leBytes k (n / 256)

/-- The `k` lowest bytes of a number, the highest first. -/
def beBytes (k n : Nat) : Bytes := (leBytes k n).reverse

/-- The two's complement of `k` bytes, the lowest first. -/
def leIntBytes (k : Nat) (n : Int) : Bytes := leBytes k (n % 256 ^ k).toNat

@[simp] theorem length_leBytes (k n : Nat) : (leBytes k n).length = k := by
  induction k generalizing n with
  | zero => rfl
  | succ k ih => rw [leBytes, List.length_cons, ih]

@[simp] theorem length_beBytes (k n : Nat) : (beBytes k n).length = k := by
  rw [beBytes, List.length_reverse, length_leBytes]

@[simp] theorem length_leIntBytes (k : Nat) (n : Int) : (leIntBytes k n).length = k :=
  length_leBytes ..

theorem leNat_cons (b : UInt8) (bytes : Bytes) : leNat (b :: bytes) = b.toNat + 256 * leNat bytes :=
  rfl

theorem leNat_lt (bytes : Bytes) : leNat bytes < 256 ^ bytes.length := by
  induction bytes with
  | nil => decide
  | cons b bytes ih =>
    have hb := b.toNat_lt
    rw [leNat_cons, List.length_cons, Nat.pow_succ]
    omega

theorem leNat_leBytes {k n : Nat} (h : n < 256 ^ k) : leNat (leBytes k n) = n := by
  induction k generalizing n with
  | zero =>
    rw [Nat.pow_zero] at h
    exact (Nat.lt_one_iff.1 h).symm
  | succ k ih =>
    have hlow : (UInt8.ofNat (n % 256)).toNat = n % 256 :=
      UInt8.toNat_ofNat_of_lt' (Nat.mod_lt n (by decide))
    have hhigh : n / 256 < 256 ^ k := by
      rw [Nat.div_lt_iff_lt_mul (by decide), ← Nat.pow_succ]
      exact h
    rw [leBytes, leNat_cons, hlow, ih hhigh]
    omega

theorem leNat_inj {bytes bytes' : Bytes} (hlength : bytes.length = bytes'.length)
    (h : leNat bytes = leNat bytes') : bytes = bytes' := by
  induction bytes generalizing bytes' with
  | nil => exact (List.length_eq_zero_iff.1 hlength.symm).symm
  | cons b bytes ih =>
    cases bytes' with
    | nil => cases hlength
    | cons b' bytes' =>
      rw [leNat_cons, leNat_cons] at h
      have hb := b.toNat_lt
      have hb' := b'.toNat_lt
      have hhead : b = b' := UInt8.toNat_inj.1 (by omega)
      rw [hhead, ih (Nat.succ.inj hlength) (by omega)]

/-- The low bytes and the high ones. -/
theorem leBytes_add (k m n : Nat) : leBytes (k + m) n = leBytes k n ++ leBytes m (n / 256 ^ k) := by
  induction k generalizing n with
  | zero => rw [Nat.zero_add, Nat.pow_zero, Nat.div_one, leBytes, List.nil_append]
  | succ k ih =>
    rw [Nat.add_right_comm, leBytes, leBytes, List.cons_append, ih, Nat.div_div_eq_div_mul,
      Nat.pow_succ']

/-- What does not fit is cut off. -/
theorem leBytes_mod (k n : Nat) : leBytes k (n % 256 ^ k) = leBytes k n := by
  induction k generalizing n with
  | zero => rfl
  | succ k ih =>
    rw [leBytes, leBytes, Nat.pow_succ', Nat.mod_mul_right_mod, Nat.mod_mul_right_div_self, ih]

theorem beNat_beBytes {k n : Nat} (h : n < 256 ^ k) : beNat (beBytes k n) = n := by
  rw [beNat, beBytes, List.foldl_reverse]
  refine Eq.trans ?_ (leNat_leBytes h)
  rw [leNat]
  congr 1
  funext b m
  omega

/-- What a signed integer of `k` bytes can hold. -/
def FitsInt (k : Nat) (n : Int) : Prop := -(256 ^ k : Nat) ≤ 2 * n ∧ 2 * n < (256 ^ k : Nat)

instance (k : Nat) (n : Int) : Decidable (FitsInt k n) := inferInstanceAs (Decidable (_ ∧ _))

theorem leInt_leIntBytes {k : Nat} {n : Int} (h : FitsInt k n) : leInt (leIntBytes k n) = n := by
  obtain ⟨hlow, hhigh⟩ := h
  have hpos : (0 : Int) < (256 ^ k : Nat) := Int.natCast_pos.2 (Nat.pow_pos (by decide))
  have hmod : 0 ≤ n % (256 ^ k : Nat) ∧ n % (256 ^ k : Nat) < (256 ^ k : Nat) :=
    ⟨Int.emod_nonneg _ (by omega), Int.emod_lt_of_pos _ hpos⟩
  have hcast : n % (256 : Int) ^ k = n % (256 ^ k : Nat) := by push_cast; rfl
  have hnat : leNat (leIntBytes k n) = (n % (256 ^ k : Nat)).toNat := by
    rw [leIntBytes, hcast]
    exact leNat_leBytes (by omega)
  rw [leInt, hnat, length_leIntBytes]
  rcases Int.lt_or_le n 0 with hneg | hnonneg
  · have hval : n % (256 ^ k : Nat) = n + (256 ^ k : Nat) := by
      rw [← Int.add_emod_right]
      exact Int.emod_eq_of_lt (by omega) (by omega)
    rw [if_neg (by omega)]
    push_cast at hval ⊢
    omega
  · have hval : n % (256 ^ k : Nat) = n := Int.emod_eq_of_lt hnonneg (by omega)
    rw [if_pos (by omega)]
    omega

/-! ### Text -/

/-- The bytes of a code point. -/
def encodeUtf8 (c : Nat) : Bytes :=
  if c < 0x80 then [UInt8.ofNat c]
  else if c < 0x800 then [UInt8.ofNat (0xC0 + c / 0x40), UInt8.ofNat (0x80 + c % 0x40)]
  else if c < 0x10000 then
    [UInt8.ofNat (0xE0 + c / 0x1000), UInt8.ofNat (0x80 + c / 0x40 % 0x40),
      UInt8.ofNat (0x80 + c % 0x40)]
  else
    [UInt8.ofNat (0xF0 + c / 0x40000), UInt8.ofNat (0x80 + c / 0x1000 % 0x40),
      UInt8.ofNat (0x80 + c / 0x40 % 0x40), UInt8.ofNat (0x80 + c % 0x40)]

/-- A code unit by itself: a surrogate is replaced by U+FFFD. -/
def loneUnit (c : UInt16) : Nat := if 0xD800 ≤ c ∧ c ≤ 0xDFFF then 0xFFFD else c.toNat

/-- `Buffer.from(s, 'utf8')`. -/
def utf8Bytes : JsString → Bytes
  | [] => []
  | [c] => encodeUtf8 (loneUnit c)
  | c :: d :: s =>
    if (0xD800 ≤ c ∧ c ≤ 0xDBFF) ∧ (0xDC00 ≤ d ∧ d ≤ 0xDFFF) then
      encodeUtf8 (0x10000 + (c.toNat - 0xD800) * 0x400 + (d.toNat - 0xDC00)) ++ utf8Bytes s
    else encodeUtf8 (loneUnit c) ++ utf8Bytes (d :: s)

example : utf8 (utf8Bytes [0x4E, 0xE4, 0x20AC, 0xD83D, 0xDE00, 0xDC00]) =
    [0x4E, 0xE4, 0x20AC, 0xD83D, 0xDE00, 0xFFFD] := by decide

/-- `Buffer.from(s, 'ucs2')`. -/
def ucs2Bytes (s : JsString) : Bytes := s.flatMap fun c => leBytes 2 c.toNat

@[simp] theorem length_ucs2Bytes (s : JsString) : (ucs2Bytes s).length = 2 * s.length := by
  induction s with
  | nil => rfl
  | cons c s ih =>
    rw [ucs2Bytes, List.flatMap_cons, List.length_append, length_leBytes, ← ucs2Bytes, ih,
      List.length_cons]
    omega

theorem ucs2_ucs2Bytes (s : JsString) : ucs2 (ucs2Bytes s) = s := by
  induction s with
  | nil => rfl
  | cons c s ih =>
    have hunit : UInt16.ofNat ((UInt8.ofNat (c.toNat % 256)).toNat +
        256 * (UInt8.ofNat (c.toNat / 256 % 256)).toNat) = c := by
      have := leNat_leBytes (k := 2) c.toNat_lt
      simp only [leBytes, leNat_cons] at this
      rw [show leNat [] = 0 from rfl, Nat.mul_zero, Nat.add_zero] at this
      rw [this, UInt16.ofNat_toNat]
    rw [ucs2Bytes, List.flatMap_cons, ← ucs2Bytes]
    show UInt16.ofNat _ :: ucs2 (ucs2Bytes s) = c :: s
    rw [hunit, ih]

/-! ### Length-prefixed fields -/

def bVarChar (s : JsString) : Bytes := leBytes 1 s.length ++ ucs2Bytes s

def usVarChar (s : JsString) : Bytes := leBytes 2 s.length ++ ucs2Bytes s

def bVarByte (bytes : Bytes) : Bytes := leBytes 1 bytes.length ++ bytes

def usVarByte (bytes : Bytes) : Bytes := leBytes 2 bytes.length ++ bytes

@[simp] theorem length_bVarChar (s : JsString) : (bVarChar s).length = 1 + 2 * s.length := by
  simp [bVarChar]

/-! ### The readers -/

namespace Reader

theorem number_reads (decode : Bytes → α) (bytes : Bytes) :
    Reads (number decode bytes.length) bytes (decode bytes) :=
  (Reads.fixed JsError.rangeError bytes).map decode

theorem number_le {k n : Nat} (h : n < 256 ^ k) : Reads (number leNat k) (leBytes k n) n := by
  have hreads := number_reads leNat (leBytes k n)
  rwa [length_leBytes, leNat_leBytes h] at hreads

theorem number_be {k n : Nat} (h : n < 256 ^ k) : Reads (number beNat k) (beBytes k n) n := by
  have hreads := number_reads beNat (beBytes k n)
  rwa [length_beBytes, beNat_beBytes h] at hreads

theorem number_int {k : Nat} {n : Int} (h : FitsInt k n) :
    Reads (number leInt k) (leIntBytes k n) n := by
  have hreads := number_reads leInt (leIntBytes k n)
  rwa [length_leIntBytes, leInt_leIntBytes h] at hreads

end Reader

theorem readUInt8_reads {n : Nat} (h : n < 256) : Reads readUInt8 (leBytes 1 n) n :=
  Reader.number_le h

theorem readUInt16LE_reads {n : Nat} (h : n < 65536) : Reads readUInt16LE (leBytes 2 n) n :=
  Reader.number_le h

theorem readUInt32LE_reads {n : Nat} (h : n < 4294967296) : Reads readUInt32LE (leBytes 4 n) n :=
  Reader.number_le h

theorem readUInt32BE_reads {n : Nat} (h : n < 4294967296) : Reads readUInt32BE (beBytes 4 n) n :=
  Reader.number_be h

/-- The bytes of an integer that has two of them before TDS 7.2 and four since. -/
def ParserOptions.width (options : ParserOptions) : Nat := if options.before72 then 2 else 4

theorem ParserOptions.select_reads {options : ParserOptions} {n : Nat} (h : n < 256 ^ options.width) :
    Reads (options.select readUInt16LE readUInt32LE) (leBytes options.width n) n := by
  rw [ParserOptions.select]
  rw [ParserOptions.width] at h ⊢
  split
  · next hbefore =>
    rw [if_pos hbefore] at h
    exact readUInt16LE_reads h
  · next hsince =>
    rw [if_neg hsince] at h
    exact readUInt32LE_reads h

theorem readUcs2_reads (s : JsString) : Reads (readUcs2 (s.length * 2)) (ucs2Bytes s) s := by
  have hreads := Reads.window (ε := JsError) toUcs2_windowed (ucs2Bytes s)
  have hcut : toUcs2 (ucs2Bytes s) 0 ((ucs2Bytes s).length : Nat) = s := by
    rw [toUcs2, Int.toNat_natCast, List.take_length]
    exact ucs2_ucs2Bytes s
  rw [hcut, length_ucs2Bytes, Nat.mul_comm] at hreads
  exact hreads

theorem readSlice_reads (bytes : Bytes) : Reads (readSlice bytes.length) bytes bytes := by
  have hreads := Reads.window (ε := JsError) slice_windowed bytes
  have hcut : Bytes.slice bytes 0 (bytes.length : Nat) = bytes :=
    Bytes.slice_to_end bytes (Int.le_refl 0) (Int.natCast_nonneg _)
  rwa [hcut] at hreads

theorem readBVarChar_reads {s : JsString} (h : s.length < 256) :
    Reads readBVarChar (bVarChar s) s :=
  (readUInt8_reads h).bind (readUcs2_reads s)

theorem readUsVarChar_reads {s : JsString} (h : s.length < 65536) :
    Reads readUsVarChar (usVarChar s) s :=
  (readUInt16LE_reads h).bind (readUcs2_reads s)

theorem readBVarByte_reads {bytes : Bytes} (h : bytes.length < 256) :
    Reads readBVarByte (bVarByte bytes) bytes :=
  (readUInt8_reads h).bind (readSlice_reads bytes)

theorem readUsVarByte_reads {bytes : Bytes} (h : bytes.length < 65536) :
    Reads readUsVarByte (usVarByte bytes) bytes :=
  (readUInt16LE_reads h).bind (readSlice_reads bytes)

end Tedious
