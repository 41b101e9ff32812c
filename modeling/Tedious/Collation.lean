import Tedious.Js

/-!
# Tedious.Collation

Collations (`collation.ts`): the five bytes of a collation, and the code page that
text under it is encoded in. A UTF-8 flag wins over the sort id, and a sort id wins
over the language id.
-/

namespace Tedious

open Chunked

/-- The encodings a collation may name. -/
inductive Encoding
  | utf8
  | CP437 | CP850 | CP874 | CP932 | CP936 | CP949 | CP950
  | CP1250 | CP1251 | CP1252 | CP1253 | CP1254 | CP1255 | CP1256 | CP1257 | CP1258
  deriving DecidableEq, Repr

/-- The name under which `iconv-lite` knows an encoding. -/
def Encoding.name : Encoding → String
  | .utf8 => "utf-8"
  | .CP437 => "CP437"
  | .CP850 => "CP850"
  | .CP874 => "CP874"
  | .CP932 => "CP932"
  | .CP936 => "CP936"
  | .CP949 => "CP949"
  | .CP950 => "CP950"
  | .CP1250 => "CP1250"
  | .CP1251 => "CP1251"
  | .CP1252 => "CP1252"
  | .CP1253 => "CP1253"
  | .CP1254 => "CP1254"
  | .CP1255 => "CP1255"
  | .CP1256 => "CP1256"
  | .CP1257 => "CP1257"
  | .CP1258 => "CP1258"

def codepageByLanguageId : List (Nat × Encoding) :=
  [(0x0401, .CP1256), (0x0404, .CP950), (0x0405, .CP1250), (0x0406, .CP1252), (0x0408, .CP1253),
    (0x0409, .CP1252), (0x040A, .CP1252), (0x040B, .CP1252), (0x040C, .CP1252),
    (0x040D, .CP1255), (0x040E, .CP1250), (0x040F, .CP1252), (0x0411, .CP932), (0x0412, .CP949),
    (0x0414, .CP1252), (0x0415, .CP1250), (0x0417, .CP1252), (0x0418, .CP1250),
    (0x0419, .CP1251), (0x041A, .CP1250), (0x041B, .CP1250), (0x041C, .CP1250), (0x041E, .CP874),
    (0x041F, .CP1254), (0x0420, .CP1256), (0x0422, .CP1251), (0x0424, .CP1250),
    (0x0425, .CP1257), (0x0426, .CP1257), (0x0427, .CP1257), (0x0429, .CP1256),
    (0x042A, .CP1258), (0x042C, .CP1254), (0x042E, .CP1252), (0x042F, .CP1251),
    (0x043B, .CP1252), (0x043F, .CP1251), (0x0442, .CP1250), (0x0443, .CP1254),
    (0x0444, .CP1251), (0x0452, .CP1252), (0x0462, .CP1252), (0x046D, .CP1251),
    (0x047A, .CP1252), (0x047C, .CP1252), (0x047E, .CP1252), (0x0480, .CP1256),
    (0x0483, .CP1252), (0x0485, .CP1251), (0x048C, .CP1256), (0x0804, .CP936), (0x081A, .CP1250),
    (0x082C, .CP1251), (0x083B, .CP1252), (0x085F, .CP1252), (0x0C04, .CP950), (0x0C0A, .CP1252),
    (0x0C1A, .CP1251), (0x1404, .CP950), (0x141A, .CP1250), (0x201A, .CP1251), (0x0407, .CP1252),
    (0x0437, .CP1252)]

def codepageBySortId : List (Nat × Encoding) :=
  [(30, .CP437), (31, .CP437), (32, .CP437), (33, .CP437), (34, .CP437), (40, .CP850),
    (41, .CP850), (42, .CP850), (43, .CP850), (44, .CP850), (49, .CP850), (51, .CP1252),
    (52, .CP1252), (53, .CP1252), (54, .CP1252), (55, .CP850), (56, .CP850), (57, .CP850),
    (58, .CP850), (59, .CP850), (60, .CP850), (61, .CP850), (80, .CP1250), (81, .CP1250),
    (82, .CP1250), (83, .CP1250), (84, .CP1250), (85, .CP1250), (86, .CP1250), (87, .CP1250),
    (88, .CP1250), (89, .CP1250), (90, .CP1250), (91, .CP1250), (92, .CP1250), (93, .CP1250),
    (94, .CP1250), (95, .CP1250), (96, .CP1250), (104, .CP1251), (105, .CP1251), (106, .CP1251),
    (107, .CP1251), (108, .CP1251), (112, .CP1253), (113, .CP1253), (114, .CP1253),
    (120, .CP1253), (121, .CP1253), (122, .CP1253), (124, .CP1253), (128, .CP1254),
    (129, .CP1254), (130, .CP1254), (136, .CP1255), (137, .CP1255), (138, .CP1255),
    (144, .CP1256), (145, .CP1256), (146, .CP1256), (152, .CP1257), (153, .CP1257),
    (154, .CP1257), (155, .CP1257), (156, .CP1257), (157, .CP1257), (158, .CP1257),
    (159, .CP1257), (160, .CP1257), (183, .CP1252), (184, .CP1252), (185, .CP1252),
    (186, .CP1252)]

/-- `Flags.UTF8`. -/
def flagUTF8 : Nat := 1 <<< 6

/-- A collation. The sort id is missing when the buffer it came from was too short. -/
structure Collation where
  lcid : Nat
  flags : Nat
  version : Nat
  sortId : Option Nat
  deriving DecidableEq, Repr

namespace Collation

/-- Byte `i` of a buffer; a missing byte counts as 0 in the bit operations. -/
def byteAt (buffer : Bytes) (i : Nat) : Nat := (buffer[i]?.map UInt8.toNat).getD 0

def fromBuffer (buffer : Bytes) : Collation where
  lcid := (byteAt buffer 2 &&& 0x0F) <<< 16 ||| byteAt buffer 1 <<< 8 ||| byteAt buffer 0
  flags := (byteAt buffer 3 &&& 0x0F) <<< 4 ||| (byteAt buffer 2 &&& 0xF0) >>> 4
  version := (byteAt buffer 3 &&& 0xF0) >>> 4
  sortId := buffer[4]?.map UInt8.toNat

/-- `fromBuffer(buffer, offset)`. -/
def fromBufferAt (buffer : Bytes) (offset : Nat) : Collation where
  lcid := (byteAt buffer (offset + 2) &&& 0x0F) <<< 16 ||| byteAt buffer (offset + 1) <<< 8 |||
    byteAt buffer (offset + 0)
  flags := (byteAt buffer (offset + 3) &&& 0x0F) <<< 4 |||
    (byteAt buffer (offset + 2) &&& 0xF0) >>> 4
  version := (byteAt buffer (offset + 3) &&& 0xF0) >>> 4
  sortId := buffer[offset + 4]?.map UInt8.toNat

def codepage (c : Collation) : Option Encoding :=
  if c.flags &&& flagUTF8 ≠ 0 then some .utf8
  else if c.sortId.getD 0 ≠ 0 then codepageBySortId.lookup (c.sortId.getD 0)
  else codepageByLanguageId.lookup (c.lcid &&& 0xFFFF)

def toBuffer (c : Collation) : Bytes :=
  [UInt8.ofNat (c.lcid &&& 0xFF), UInt8.ofNat ((c.lcid >>> 8) &&& 0xFF),
    UInt8.ofNat (((c.lcid >>> 16) &&& 0x0F) ||| ((c.flags &&& 0x0F) <<< 4)),
    UInt8.ofNat (((c.flags &&& 0xF0) >>> 4) ||| ((c.version &&& 0x0F) <<< 4)),
    UInt8.ofNat (c.sortId.getD 0 &&& 0xFF)]

@[simp] theorem length_toBuffer (c : Collation) : c.toBuffer.length = 5 := rfl

/-! ### Five bytes of a collation -/

/-- What five bytes have room for: 20 bits of LCID, 8 of flags, 4 of version and a sort id. -/
structure Fits (c : Collation) : Prop where
  lcid : c.lcid < 1048576
  flags : c.flags < 256
  version : c.version < 16
  sortId : ∃ id < 256, c.sortId = some id

theorem nibbles : ∀ low < 16, ∀ high < 16,
    (low ||| high <<< 4) &&& 0x0F = low ∧ ((low ||| high <<< 4) &&& 0xF0) >>> 4 = high ∧
      low ||| high <<< 4 < 256 := by
  decide

/-- The low nibble and the high one. -/
theorem nibbles_eq {n : Nat} (hn : n < 256) :
    n &&& 0x0F = n % 16 ∧ (n &&& 0xF0) >>> 4 = n / 16 := by
  refine ⟨Nat.and_two_pow_sub_one_eq_mod n 4, ?_⟩
  rw [Nat.shiftRight_and_distrib, Nat.shiftRight_eq_div_pow, show 0xF0 >>> 4 = 2 ^ 4 - 1 from rfl,
    Nat.and_two_pow_sub_one_eq_mod]
  omega

theorem flags_nibbles {n : Nat} (hn : n < 256) :
    n &&& 0x0F < 16 ∧ (n &&& 0xF0) >>> 4 < 16 ∧
      ((n &&& 0xF0) >>> 4) <<< 4 ||| (n &&& 0x0F) = n := by
  obtain ⟨hlow, hhigh⟩ := nibbles_eq hn
  rw [hlow, hhigh, ← Nat.shiftLeft_add_eq_or_of_lt (by omega : n % 16 < 2 ^ 4), Nat.shiftLeft_eq]
  omega

theorem lcid_bytes {n : Nat} (hn : n < 1048576) :
    ((n >>> 16) &&& 0x0F) <<< 16 ||| ((n >>> 8) &&& 0xFF) <<< 8 ||| (n &&& 0xFF) = n := by
  have h4 : (n >>> 16) &&& 0x0F = n / 65536 := by
    rw [Nat.and_two_pow_sub_one_eq_mod _ 4, Nat.shiftRight_eq_div_pow]
    omega
  have h8 : (n >>> 8) &&& 0xFF = n / 256 % 256 := by
    rw [Nat.and_two_pow_sub_one_eq_mod _ 8, Nat.shiftRight_eq_div_pow]
  have h0 : n &&& 0xFF = n % 256 := Nat.and_two_pow_sub_one_eq_mod _ 8
  rw [h4, h8, h0, Nat.or_assoc, ← Nat.shiftLeft_add_eq_or_of_lt (by omega : n % 256 < 2 ^ 8),
    ← Nat.shiftLeft_add_eq_or_of_lt (by rw [Nat.shiftLeft_eq]; omega), Nat.shiftLeft_eq,
    Nat.shiftLeft_eq]
  omega

/-- A collation that fits comes back from its bytes. -/
theorem fromBuffer_toBuffer {c : Collation} (h : c.Fits) : fromBuffer c.toBuffer = c := by
  obtain ⟨lcid, flags, version, sortId⟩ := c
  obtain ⟨hlcid, hflags, hversion, id, hid, hsort⟩ := h
  dsimp only at hlcid hflags hversion hsort
  subst hsort
  have hbyte : ∀ n, n &&& 0xFF < 256 := fun n =>
    (Nat.and_two_pow_sub_one_eq_mod n 8).trans_lt (Nat.mod_lt _ (by decide))
  have htop : (lcid >>> 16) &&& 0x0F < 16 :=
    (Nat.and_two_pow_sub_one_eq_mod _ 4).trans_lt (Nat.mod_lt _ (by decide))
  have hversion' : version &&& 0x0F = version :=
    (Nat.and_two_pow_sub_one_eq_mod _ 4).trans (Nat.mod_eq_of_lt hversion)
  obtain ⟨hlow, hhigh, hflags'⟩ := flags_nibbles hflags
  obtain ⟨h2low, h2high, h2⟩ := nibbles _ htop _ hlow
  obtain ⟨h3low, h3high, h3⟩ := nibbles _ hhigh _ hversion
  have h4 : id &&& 0xFF = id := (Nat.and_two_pow_sub_one_eq_mod _ 8).trans (Nat.mod_eq_of_lt hid)
  have hnat : ∀ n < 256, (UInt8.ofNat n).toNat = n := fun n hn => UInt8.toNat_ofNat_of_lt' hn
  rw [fromBuffer, toBuffer, hversion']
  simp only [byteAt, List.getElem?_cons_zero, List.getElem?_cons_succ, Option.map_some,
    Option.getD_some, hnat _ (hbyte _), hnat _ h2, hnat _ h3, h2low, h2high, h3low, h3high, h4,
    hnat _ hid, hflags', lcid_bytes hlcid]

theorem fromBufferAt_eq (buffer : Bytes) (offset : Nat) :
    fromBufferAt buffer offset = fromBuffer (buffer.drop offset) := by
  simp only [fromBufferAt, fromBuffer, byteAt, List.getElem?_drop]

/-- Only five bytes are looked at. -/
theorem fromBuffer_take (buffer : Bytes) : fromBuffer (buffer.take 5) = fromBuffer buffer := by
  simp [fromBuffer, byteAt]

/-- The fields of a collation, byte by byte. -/
theorem fromBuffer_bytes (b₀ b₁ b₂ b₃ b₄ : UInt8) :
    fromBuffer [b₀, b₁, b₂, b₃, b₄] =
      { lcid := b₂.toNat % 16 * 65536 + (b₁.toNat * 256 + b₀.toNat)
        flags := b₃.toNat % 16 * 16 + b₂.toNat / 16
        version := b₃.toNat / 16
        sortId := some b₄.toNat } := by
  have h₀ : b₀.toNat < 2 ^ 8 := b₀.toNat_lt
  have h₁ : b₁.toNat <<< 8 + b₀.toNat < 2 ^ 16 := by
    have := b₁.toNat_lt
    rw [Nat.shiftLeft_eq]
    omega
  have h₂ : b₂.toNat / 16 < 2 ^ 4 := by
    have := b₂.toNat_lt
    omega
  obtain ⟨hlow₂, hhigh₂⟩ := nibbles_eq b₂.toNat_lt
  obtain ⟨hlow₃, hhigh₃⟩ := nibbles_eq b₃.toNat_lt
  simp only [fromBuffer, byteAt, List.getElem?_cons_zero, List.getElem?_cons_succ, Option.map_some,
    Option.getD_some, hlow₂, hhigh₂, hlow₃, hhigh₃]
  rw [Nat.or_assoc, ← Nat.shiftLeft_add_eq_or_of_lt h₀, ← Nat.shiftLeft_add_eq_or_of_lt h₁,
    ← Nat.shiftLeft_add_eq_or_of_lt h₂]
  simp only [Nat.shiftLeft_eq]

/-- The bytes of a collation, field by field. -/
theorem toBuffer_eq (c : Collation) :
    c.toBuffer = [UInt8.ofNat (c.lcid % 256), UInt8.ofNat (c.lcid / 256 % 256),
      UInt8.ofNat (c.flags % 16 * 16 + c.lcid / 65536 % 16),
      UInt8.ofNat (c.version % 16 * 16 + c.flags / 16 % 16),
      UInt8.ofNat (c.sortId.getD 0 % 256)] := by
  have hbyte : ∀ n, n &&& 0xFF = n % 256 := fun n => Nat.and_two_pow_sub_one_eq_mod n 8
  have hnibble : ∀ n, n &&& 0x0F = n % 16 := fun n => Nat.and_two_pow_sub_one_eq_mod n 4
  have hhigh : (c.flags &&& 0xF0) >>> 4 = c.flags / 16 % 16 := by
    rw [Nat.shiftRight_and_distrib, show 0xF0 >>> 4 = 0x0F from rfl, hnibble,
      Nat.shiftRight_eq_div_pow]
  have hjoin : ∀ high low, low % 16 ||| (high % 16) <<< 4 = high % 16 * 16 + low % 16 := by
    intro high low
    rw [Nat.or_comm, ← Nat.shiftLeft_add_eq_or_of_lt (by omega), Nat.shiftLeft_eq]
  rw [toBuffer, hhigh]
  simp only [hbyte, hnibble, hjoin, Nat.shiftRight_eq_div_pow]

/-- Five bytes come back from the collation they stand for. -/
theorem toBuffer_fromBuffer {buffer : Bytes} (h : buffer.length = 5) :
    (fromBuffer buffer).toBuffer = buffer := by
  match buffer, h with
  | [b₀, b₁, b₂, b₃, b₄], _ =>
    have h₀ := b₀.toNat_lt
    have h₁ := b₁.toNat_lt
    have h₂ := b₂.toNat_lt
    have h₃ := b₃.toNat_lt
    have hbyte : ∀ (n : Nat) (b : UInt8), n = b.toNat → UInt8.ofNat n = b := by
      intro n b hn
      rw [hn, UInt8.ofNat_toNat]
    rw [fromBuffer_bytes, toBuffer_eq]
    dsimp only [Option.getD_some]
    congr 1
    · exact hbyte _ _ (by omega)
    congr 1
    · exact hbyte _ _ (by omega)
    congr 1
    · exact hbyte _ _ (by omega)
    congr 1
    · exact hbyte _ _ (by omega)
    congr 1
    exact hbyte _ _ (Nat.mod_eq_of_lt b₄.toNat_lt)

/-- **Collations survive re-encoding**: the bytes of one, wherever they stand in a buffer, and the
fields of one for which five bytes have room. -/
theorem survives_reencoding :
    (∀ buffer : Bytes, buffer.length = 5 → (fromBuffer buffer).toBuffer = buffer) ∧
      (∀ (buffer : Bytes) (offset : Nat), offset + 5 ≤ buffer.length →
        (fromBufferAt buffer offset).toBuffer = (buffer.drop offset).take 5) ∧
      ∀ c : Collation, c.Fits →
        (fromBuffer c.toBuffer).lcid = c.lcid ∧ (fromBuffer c.toBuffer).flags = c.flags ∧
          (fromBuffer c.toBuffer).version = c.version ∧
          (fromBuffer c.toBuffer).sortId = c.sortId := by
  refine ⟨fun _ => toBuffer_fromBuffer, ?_, ?_⟩
  · intro buffer offset h
    have hlength : ((buffer.drop offset).take 5).length = 5 := by
      rw [List.length_take, List.length_drop]
      omega
    rw [fromBufferAt_eq, ← fromBuffer_take, toBuffer_fromBuffer hlength]
  · intro c hc
    rw [fromBuffer_toBuffer hc]
    exact ⟨rfl, rfl, rfl, rfl⟩

/-- A collation of US English, in front of whose bytes something else may stand. -/
theorem survives_reencoding_english :
    (fromBuffer [0x09, 0x04, 0xD0, 0x00, 0x34]).toBuffer = [0x09, 0x04, 0xD0, 0x00, 0x34] ∧
      (fromBufferAt [0xFF, 0x09, 0x04, 0xD0, 0x00, 0x34] 1).toBuffer =
        [0x09, 0x04, 0xD0, 0x00, 0x34] ∧
      (fromBuffer (fromBuffer [0x09, 0x04, 0xD0, 0x00, 0x34]).toBuffer).lcid = 0x0409 := by
  obtain ⟨hbytes, hbuffer, hfields⟩ := survives_reencoding
  have hfits : (fromBuffer [0x09, 0x04, 0xD0, 0x00, 0x34]).Fits :=
    { lcid := by decide
      flags := by decide
      version := by decide
      sortId := ⟨0x34, by decide, rfl⟩ }
  exact ⟨hbytes _ rfl, hbuffer _ 1 (by decide), (hfields _ hfits).1⟩

theorem byteAt_lt (buffer : Bytes) (i : Nat) : byteAt buffer i < 256 := by
  rw [byteAt]
  cases buffer[i]? with
  | none => decide
  | some b => exact b.toNat_lt

/-- A buffer that is too short counts as one with a sort id of 0 behind it. -/
theorem fits_fromBuffer (buffer : Bytes) :
    ({ fromBuffer buffer with sortId := some ((fromBuffer buffer).sortId.getD 0) } :
      Collation).Fits where
  lcid := by
    have h2 : byteAt buffer 2 &&& 0x0F < 2 ^ 4 :=
      (Nat.and_two_pow_sub_one_eq_mod _ 4).trans_lt (Nat.mod_lt _ (by decide))
    refine Nat.or_lt_two_pow (n := 20) (Nat.or_lt_two_pow ?_ ?_) ?_
    · rw [Nat.shiftLeft_eq]
      omega
    · have := byteAt_lt buffer 1
      rw [Nat.shiftLeft_eq]
      omega
    · exact (byteAt_lt buffer 0).trans (by decide)
  flags := by
    have h3 : byteAt buffer 3 &&& 0x0F < 2 ^ 4 :=
      (Nat.and_two_pow_sub_one_eq_mod _ 4).trans_lt (Nat.mod_lt _ (by decide))
    refine Nat.or_lt_two_pow (n := 8) ?_ ?_
    · rw [Nat.shiftLeft_eq]
      omega
    · exact (flags_nibbles (byteAt_lt buffer 2)).2.1.trans (by decide)
  version := (flags_nibbles (byteAt_lt buffer 3)).2.1
  sortId := by
    refine ⟨_, ?_, rfl⟩
    show (buffer[4]?.map UInt8.toNat).getD 0 < 256
    exact byteAt_lt buffer 4

/-- Text keeps its code page when the collation is sent along with it. -/
theorem codepage_fromBuffer_toBuffer (buffer : Bytes) :
    (fromBuffer (fromBuffer buffer).toBuffer).codepage = (fromBuffer buffer).codepage := by
  have h := congrArg codepage (fromBuffer_toBuffer (fits_fromBuffer buffer))
  exact h

end Collation

end Tedious
