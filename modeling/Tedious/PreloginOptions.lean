import Mathlib.Data.List.Nodup
import Tedious.Lib.While
import Tedious.PreloginPayload
import Tedious.WritableTrackingBuffer

/-!
# Tedious.PreloginOptions

The table of options in a `PRELOGIN` message (`prelogin-payload.ts`): the loop over it always ends,
what it reads off a well-formed table is what the options point to, wherever that is, and
the options that are sent are read as they were given (`prelogin_decodes`).
-/

namespace Tedious

open Chunked While Appending

namespace PreloginPayload

/-! ### The loop -/

/-- What a round does with the option at an offset. -/
def optionBody (data : Bytes) (offset : Nat) (p : PreloginPayload) :
    Except JsError (Nat × PreloginPayload) := do
  let dataOffset ← Buffer.readUInt16BE data (offset + 1)
  let dataLength ← Buffer.readUInt16BE data (offset + 3)
  let p ← extractOption data (data[offset]?.getD 0) dataOffset dataLength p
  return (offset + 5, p)

/-- A round of `while (this.data[offset] !== TOKEN.TERMINATOR)`. -/
def optionRound (data : Bytes) :
    Nat × PreloginPayload → Option (Except JsError (Nat × PreloginPayload))
  | (offset, p) => if data[offset]? = some 0xFF then none else some (optionBody data offset p)

/-- A computation that throws nothing else than a `RangeError`. -/
def ThrowsRange {α : Type} (x : Except JsError α) : Prop := ∀ e, x = .error e → e = .rangeError

theorem ThrowsRange.ok {α : Type} (a : α) : ThrowsRange (.ok a : Except JsError α) := nofun

theorem ThrowsRange.bind {α β : Type} {x : Except JsError α} {f : α → Except JsError β}
    (hx : ThrowsRange x) (hf : ∀ a, ThrowsRange (f a)) : ThrowsRange (x >>= f) := by
  intro e h
  cases x with
  | error e' =>
    cases h
    exact hx e rfl
  | ok a => exact hf a e h

theorem readUInt8_throws (data : Bytes) (offset : Nat) :
    ThrowsRange (Buffer.readUInt8 data offset) := by
  intro e h
  rw [Buffer.readUInt8] at h
  split at h
  · cases h
  · exact (Except.error.inj h).symm

theorem readUInt16BE_throws (data : Bytes) (offset : Nat) :
    ThrowsRange (Buffer.readUInt16BE data offset) := by
  intro e h
  rw [Buffer.readUInt16BE] at h
  split at h
  · cases h
  · exact (Except.error.inj h).symm

theorem readUInt32BE_throws (data : Bytes) (offset : Nat) :
    ThrowsRange (Buffer.readUInt32BE data offset) := by
  intro e h
  rw [Buffer.readUInt32BE] at h
  split at h
  · cases h
  · exact (Except.error.inj h).symm

theorem extractOption_throws (data : Bytes) (token : UInt8) (dataOffset dataLength : Nat)
    (p : PreloginPayload) : ThrowsRange (extractOption data token dataOffset dataLength p) := by
  unfold extractOption
  split
  · exact (readUInt8_throws _ _).bind fun _ => (readUInt8_throws _ _).bind fun _ =>
      (readUInt16BE_throws _ _).bind fun _ => (readUInt16BE_throws _ _).bind fun _ => .ok _
  · exact (readUInt8_throws _ _).bind fun _ => .ok _
  · exact (readUInt8_throws _ _).bind fun _ => .ok _
  · split
    · exact (readUInt32BE_throws _ _).bind fun _ => .ok _
    · exact .ok _
  · exact (readUInt8_throws _ _).bind fun _ => .ok _
  · exact (readUInt8_throws _ _).bind fun _ => .ok _
  · exact .ok _

theorem optionBody_throws (data : Bytes) (offset : Nat) (p : PreloginPayload) :
    ThrowsRange (optionBody data offset p) :=
  (readUInt16BE_throws _ _).bind fun _ => (readUInt16BE_throws _ _).bind fun _ =>
    (extractOption_throws _ _ _ _ _).bind fun _ => .ok _

theorem optionRound_end {data : Bytes} {offset : Nat} (hend : data[offset]? = some 0xFF)
    (p : PreloginPayload) : optionRound data (offset, p) = none :=
  if_pos hend

theorem optionRound_next {data : Bytes} {offset : Nat} (hend : data[offset]? ≠ some 0xFF)
    {p : PreloginPayload} {next : Except JsError (Nat × PreloginPayload)}
    (hbody : optionBody data offset p = next) : optionRound data (offset, p) = some next :=
  (if_neg hend).trans (congrArg some hbody)

/-- A round moves on by one option. -/
theorem optionBody_ok {data : Bytes} {offset : Nat} {p : PreloginPayload}
    {next : Nat × PreloginPayload} (h : optionBody data offset p = .ok next) :
    next.1 = offset + 5 := by
  obtain ⟨dataOffset, -, h⟩ := Except.bind_ok h
  obtain ⟨dataLength, -, h⟩ := Except.bind_ok h
  obtain ⟨p', -, h⟩ := Except.bind_ok h
  cases h
  rfl

theorem extractOptionsFrom_succ (data : Bytes) (rounds offset : Nat) (p : PreloginPayload) :
    extractOptionsFrom data (rounds + 1) offset p =
      if data[offset]? = some 0xFF then .ok p
      else optionBody data offset p >>= fun next =>
        extractOptionsFrom data rounds next.1 next.2 := by
  rw [extractOptionsFrom]
  simp only [optionBody, bind_assoc, pure_bind]

/-- `extractOptionsFrom` is the loop, when its rounds suffice. -/
theorem extractOptionsFrom_of_loop {data : Bytes} {rounds offset : Nat} {p : PreloginPayload}
    {r : Except JsError (Nat × PreloginPayload)}
    (h : whileLoop (optionRound data) rounds (offset, p) = some r) :
    extractOptionsFrom data rounds offset p = r.map Prod.snd := by
  induction rounds generalizing offset p with
  | zero => cases h
  | succ rounds ih =>
    rw [extractOptionsFrom_succ]
    by_cases hend : data[offset]? = some 0xFF
    · rw [whileLoop_done (optionRound_end hend p)] at h
      rw [if_pos hend]
      cases h
      rfl
    · rw [if_neg hend]
      cases hbody : optionBody data offset p with
      | error e =>
        rw [whileLoop_throw (optionRound_next hend hbody)] at h
        cases h
        rfl
      | ok next =>
        rw [whileLoop_round (optionRound_next hend hbody)] at h
        exact ih h

/-- Every round moves on, and behind the end of the buffer there is no option to read. -/
theorem optionLoop_ends (data : Bytes) {rounds offset : Nat} (h : data.length < rounds + offset)
    (p : PreloginPayload) :
    ∃ r, whileLoop (optionRound data) (rounds + 1) (offset, p) = some r ∧ ThrowsRange r := by
  induction rounds generalizing offset p with
  | zero =>
    have hnone : data[offset]? = none := List.getElem?_eq_none (by omega)
    have hread : Buffer.readUInt16BE data (offset + 1) = .error .rangeError := by
      rw [Buffer.readUInt16BE, if_neg (by omega)]
    have hbody : optionBody data offset p = .error .rangeError := by
      rw [optionBody, hread]
      rfl
    have hend : data[offset]? ≠ some 0xFF := by
      rw [hnone]
      exact (Option.some_ne_none _).symm
    exact ⟨_, whileLoop_throw (optionRound_next hend hbody), fun e he =>
      (Except.error.inj he).symm⟩
  | succ rounds ih =>
    by_cases hend : data[offset]? = some 0xFF
    · exact ⟨_, whileLoop_done (optionRound_end hend p), .ok _⟩
    · cases hbody : optionBody data offset p with
      | error e =>
        exact ⟨_, whileLoop_throw (optionRound_next hend hbody),
          hbody ▸ optionBody_throws data offset p⟩
      | ok next =>
        have hnext := optionBody_ok hbody
        rw [whileLoop_round (optionRound_next hend hbody)]
        exact ih (by omega) next.2

/-- **Every buffer** is decoded in finitely many rounds, or a `RangeError` is thrown. -/
theorem extractOptions_ends (data : Bytes) :
    ∃ rounds r, whileLoop (optionRound data) rounds (0, empty) = some r ∧ ThrowsRange r ∧
      ofBuffer data = r.map Prod.snd := by
  have hrounds : data.length < data.length + 1 + 0 := Nat.lt_succ_self _
  obtain ⟨r, hloop, hthrows⟩ := optionLoop_ends data hrounds empty
  refine ⟨_, r, hloop, hthrows, ?_⟩
  rw [← extractOptionsFrom_of_loop hloop, ofBuffer_eq data (by omega)]

/-! ### Well-formed messages -/

/-- An entry of the table: the token of an option, where its data begin and how long they are. -/
structure Entry where
  token : UInt8
  offset : Nat
  length : Nat
  deriving DecidableEq, Repr

namespace Entry

def bytes (entry : Entry) : Bytes :=
  entry.token :: (beBytes 2 entry.offset ++ beBytes 2 entry.length)

@[simp] theorem length_bytes (entry : Entry) : entry.bytes.length = 5 := rfl

/-- The data of an entry are in the buffer, and long enough for an option that is known. A thread
id may be left out. -/
def Points (data : Bytes) (entry : Entry) : Prop :=
  let holds := fun size => size ≤ entry.length ∧ entry.offset + entry.length ≤ data.length
  match entry.token with
  | 0x00 => holds 6
  | 0x01 | 0x02 | 0x04 | 0x06 => holds 1
  | 0x03 => entry.length = 0 ∨ holds 4
  | _ => True

end Entry

/-- The tokens of the options that are known. -/
def knownTokens : List UInt8 := [0x00, 0x01, 0x02, 0x03, 0x04, 0x06]

/-- A message that begins with a table of these entries: every known option is there at most once,
and its data are somewhere in the message. -/
structure WellFormed (data : Bytes) (entries : List Entry) : Prop where
  table : ∃ rest, data = entries.flatMap Entry.bytes ++ 0xFF :: rest
  fits : ∀ entry ∈ entries,
    entry.token ≠ 0xFF ∧ entry.offset < 65536 ∧ entry.length < 65536
  once : ((entries.map Entry.token).filter (· ∈ knownTokens)).Nodup
  points : ∀ entry ∈ entries, entry.Points data

/-- The entry with a token. -/
def find (entries : List Entry) (token : UInt8) : Option Entry :=
  entries.find? fun entry => entry.token = token

/-- The number that some bytes in the buffer stand for. -/
def numberAt (data : Bytes) (offset size : Nat) : Nat := beNat ((data.drop offset).take size)

/-- What the entries point to. -/
def pointedTo (data : Bytes) (entries : List Entry) : PreloginPayload where
  version := (find entries 0x00).map fun entry =>
    { major := numberAt data entry.offset 1
      minor := numberAt data (entry.offset + 1) 1
      build := numberAt data (entry.offset + 2) 2
      subbuild := numberAt data (entry.offset + 4) 2 }
  encryption := (find entries 0x01).map fun entry => numberAt data entry.offset 1
  instance' := (find entries 0x02).map fun entry => numberAt data entry.offset 1
  threadId := ((find entries 0x03).filter fun entry => 0 < entry.length).map fun entry =>
    numberAt data entry.offset 4
  mars := (find entries 0x04).map fun entry => numberAt data entry.offset 1
  fedAuthRequired := (find entries 0x06).map fun entry => numberAt data entry.offset 1

theorem readUInt8_eq {data : Bytes} {offset : Nat} (h : offset + 1 ≤ data.length) :
    Buffer.readUInt8 data offset = .ok (numberAt data offset 1) := by
  have hget := List.getElem?_eq_getElem (Nat.lt_of_succ_le h)
  rw [Buffer.readUInt8, hget, numberAt, List.drop_eq_getElem_cons (Nat.lt_of_succ_le h)]
  show _ = Except.ok (256 * 0 + data[offset].toNat)
  rw [Nat.mul_zero, Nat.zero_add]

theorem readUInt16BE_eq {data : Bytes} {offset : Nat} (h : offset + 2 ≤ data.length) :
    Buffer.readUInt16BE data offset = .ok (numberAt data offset 2) :=
  if_pos h

theorem readUInt32BE_eq {data : Bytes} {offset : Nat} (h : offset + 4 ≤ data.length) :
    Buffer.readUInt32BE data offset = .ok (numberAt data offset 4) :=
  if_pos h

theorem find_append (before : List Entry) (entry : Entry) (token : UInt8) :
    find (before ++ [entry]) token =
      (find before token).or (if entry.token = token then some entry else none) := by
  rw [find, List.find?_append]
  congr 1
  rw [List.find?_cons, List.find?_nil]
  by_cases h : entry.token = token <;> simp [h]

/-- **One option**: what is read is what its entry points to. -/
theorem extractOption_eq {data : Bytes} {before : List Entry} {entry : Entry}
    (hpoints : entry.Points data)
    (hnew : entry.token ∈ knownTokens → find before entry.token = none) :
    extractOption data entry.token entry.offset entry.length (pointedTo data before) =
      .ok (pointedTo data (before ++ [entry])) := by
  obtain ⟨token, offset, length⟩ := entry
  unfold extractOption
  unfold Entry.Points at hpoints
  dsimp only at hpoints hnew ⊢
  split
  case h_1 =>
    obtain ⟨hsize, hbounds⟩ := hpoints
    rw [extractVersion, readUInt8_eq (by omega), readUInt8_eq (by omega),
      readUInt16BE_eq (by omega), readUInt16BE_eq (by omega)]
    simp [pointedTo, find_append, hnew (by decide)]
    rfl
  case h_2 | h_3 | h_5 | h_6 =>
    obtain ⟨hsize, hbounds⟩ := hpoints
    rw [readUInt8_eq (by omega)]
    simp [pointedTo, find_append, hnew (by decide)]
  case h_4 =>
    have hnone := hnew (by decide)
    split
    · next hpos =>
      obtain hzero | ⟨hsize, hbounds⟩ := hpoints
      · omega
      · rw [readUInt32BE_eq (by omega)]
        simp [pointedTo, find_append, hnone, Option.filter_some, hpos]
    · next hzero =>
      simp [pointedTo, find_append, hnone, Option.filter_some, hzero]
      rfl
  case h_7 h₀ h₁ h₂ h₃ h₄ h₆ =>
    have hother : ∀ t, token ≠ t →
        find (before ++ [⟨token, offset, length⟩]) t = find before t := by
      intro t ht
      rw [find_append, if_neg ht, Option.or_none]
    rw [pointedTo, pointedTo, hother _ h₀, hother _ h₁, hother _ h₂, hother _ h₃, hother _ h₄,
      hother _ h₆]
    rfl

theorem length_table (entries : List Entry) :
    (entries.flatMap Entry.bytes).length = 5 * entries.length := by
  induction entries with
  | nil => rfl
  | cons entry entries ih =>
    rw [List.flatMap_cons, List.length_append, Entry.length_bytes, ih, List.length_cons]
    omega

/-- Entries behind others in the table. -/
theorem drop_table {data rest : Bytes} {before after : List Entry}
    (h : data = (before ++ after).flatMap Entry.bytes ++ rest) :
    data.drop (5 * before.length) = after.flatMap Entry.bytes ++ rest := by
  rw [h, List.flatMap_append, List.append_assoc, List.drop_left' (length_table before)]

theorem readUInt16BE_of_drop {data rest : Bytes} {offset n : Nat}
    (h : data.drop offset = beBytes 2 n ++ rest) (hn : n < 65536) :
    Buffer.readUInt16BE data offset = .ok n := by
  have hlength := congrArg List.length h
  rw [List.length_drop, List.length_append, length_beBytes] at hlength
  rw [Buffer.readUInt16BE, if_pos (by omega), h, List.take_left' (length_beBytes ..),
    beNat_beBytes (k := 2) hn]

/-- A round at an entry of the table. -/
theorem optionBody_eq {data rest : Bytes} {offset : Nat} {entry : Entry} {p p' : PreloginPayload}
    (h : data.drop offset = entry.bytes ++ rest) (hoffset : entry.offset < 65536)
    (hlength : entry.length < 65536)
    (hoption : extractOption data entry.token entry.offset entry.length p = .ok p') :
    data[offset]? = some entry.token ∧ optionBody data offset p = .ok (offset + 5, p') := by
  have htoken : data[offset]? = some entry.token := by
    have hget := congrArg (·[0]?) h
    rwa [List.getElem?_drop, Nat.add_zero] at hget
  have hread : Buffer.readUInt16BE data (offset + 1) = .ok entry.offset := by
    have hdrop : data.drop (offset + 1) =
        beBytes 2 entry.offset ++ (beBytes 2 entry.length ++ rest) := by
      rw [← List.drop_drop, h]
      rfl
    exact readUInt16BE_of_drop hdrop hoffset
  have hread' : Buffer.readUInt16BE data (offset + 3) = .ok entry.length := by
    have hdrop : data.drop (offset + 3) = beBytes 2 entry.length ++ rest := by
      rw [← List.drop_drop, h]
      rfl
    exact readUInt16BE_of_drop hdrop hlength
  refine ⟨htoken, ?_⟩
  rw [optionBody, hread, hread', htoken]
  show (extractOption data entry.token entry.offset entry.length p >>= _) = _
  rw [hoption]
  rfl

/-- A known option has not been read before. -/
theorem WellFormed.find_eq_none {data : Bytes} {before after : List Entry} {entry : Entry}
    (h : WellFormed data (before ++ entry :: after)) (hknown : entry.token ∈ knownTokens) :
    find before entry.token = none := by
  have honce := h.once
  rw [List.map_append, List.filter_append, List.map_cons,
    List.filter_cons, if_pos (decide_eq_true hknown), List.nodup_append] at honce
  refine List.find?_eq_none.2 fun earlier hearlier htoken => ?_
  have hsame : earlier.token = entry.token := of_decide_eq_true htoken
  refine honce.2.2 earlier.token ?_ entry.token List.mem_cons_self hsame
  rw [List.mem_filter]
  exact ⟨List.mem_map_of_mem hearlier, decide_eq_true (hsame ▸ hknown)⟩

/-- **The rest of the table**, with what is read of it so far. -/
theorem extractOptionsFrom_eq {data : Bytes} {before after : List Entry} {rounds : Nat}
    (h : WellFormed data (before ++ after)) (hrounds : after.length < rounds) :
    extractOptionsFrom data rounds (5 * before.length) (pointedTo data before) =
      .ok (pointedTo data (before ++ after)) := by
  obtain ⟨rest, htable⟩ := h.table
  induction after generalizing before rounds with
  | nil =>
    obtain ⟨rounds, rfl⟩ := Nat.exists_eq_succ_of_ne_zero (Nat.ne_zero_of_lt hrounds)
    have hend : data[5 * before.length]? = some 0xFF := by
      have hget := congrArg (·[0]?) (drop_table htable)
      rwa [List.getElem?_drop, Nat.add_zero] at hget
    rw [extractOptionsFrom_succ, if_pos hend, List.append_nil]
  | cons entry after ih =>
    obtain ⟨rounds, rfl⟩ := Nat.exists_eq_succ_of_ne_zero (Nat.ne_zero_of_lt hrounds)
    have hmem : entry ∈ before ++ entry :: after := List.mem_append_right _ List.mem_cons_self
    obtain ⟨hterminator, hoffset, hlength⟩ := h.fits entry hmem
    obtain ⟨htoken, hbody⟩ := optionBody_eq (drop_table htable) hoffset hlength
      (extractOption_eq (h.points entry hmem) h.find_eq_none)
    have hcontinue : data[5 * before.length]? ≠ some 0xFF := by
      rw [htoken]
      exact fun heq => hterminator (Option.some.inj heq)
    have happend : before ++ entry :: after = (before ++ [entry]) ++ after := by
      rw [List.append_assoc, List.singleton_append]
    rw [happend] at h htable ⊢
    have hrest := ih h (Nat.lt_of_succ_lt_succ hrounds) htable
    rw [extractOptionsFrom_succ, if_neg hcontinue, hbody]
    rwa [List.length_append] at hrest

/-- **A well-formed message** is read as what its entries point to. -/
theorem ofBuffer_wellFormed {data : Bytes} {entries : List Entry} (h : WellFormed data entries) :
    ofBuffer data = .ok (pointedTo data entries) := by
  have hlength : entries.length < data.length + 1 := by
    obtain ⟨rest, htable⟩ := h.table
    have hdata := congrArg List.length htable
    rw [List.length_append, length_table] at hdata
    omega
  exact extractOptionsFrom_eq (List.nil_append entries ▸ h) hlength

/-! ### The options that are sent -/

/-- `marsByValue`. -/
inductive MarsString
  | OFF | ON
  deriving DecidableEq, Repr

def marsByValue : Nat → Option MarsString
  | 0x00 => some .OFF
  | 0x01 => some .ON
  | _ => none

def marsString (p : PreloginPayload) : Option MarsString := p.mars.bind marsByValue

end PreloginPayload

structure PreloginOptions where
  encrypt : Bool
  version : Version

namespace PreloginOptions

open PreloginPayload WritableTrackingBuffer

/-- An option that is sent: its token and its data. -/
abbrev Sent : Type := UInt8 × Bytes

def optionBufferSize : Nat := 20

/-- An option whose data are written with a buffer of their own. -/
def createOption (token : UInt8)
    (write : WritableTrackingBuffer → Except JsError WritableTrackingBuffer) :
    Except JsError Sent := do
  let buffer := WritableTrackingBuffer.new optionBufferSize none false
  let buffer ← write buffer
  return (token, buffer.data.2)

variable (options : PreloginOptions)

def createVersionOption : Except JsError Sent :=
  createOption 0x00 fun buffer => do
    let buffer ← buffer.writeUInt8 (.ofNat options.version.major)
    let buffer ← buffer.writeUInt8 (.ofNat options.version.minor)
    let buffer ← buffer.writeUInt16BE (.ofNat options.version.build)
    buffer.writeUInt16BE (.ofNat options.version.subbuild)

/-- `ENCRYPT.ON` or `ENCRYPT.NOT_SUP`. -/
def createEncryptionOption : Except JsError Sent :=
  createOption 0x01 fun buffer =>
    if options.encrypt then buffer.writeUInt8 (.ofNat 0x01) else buffer.writeUInt8 (.ofNat 0x02)

def createInstanceOption : Except JsError Sent :=
  createOption 0x02 fun buffer => buffer.writeUInt8 (.ofNat 0x00)

def createThreadIdOption : Except JsError Sent :=
  createOption 0x03 fun buffer => buffer.writeUInt32BE (.ofNat 0x00)

/-- `MARS.OFF`. -/
def createMarsOption : Except JsError Sent :=
  createOption 0x04 fun buffer => buffer.writeUInt8 (.ofNat 0x00)

def createFedAuthOption : Except JsError Sent :=
  createOption 0x06 fun buffer => buffer.writeUInt8 (.ofNat 0x01)

/-- `data.write…(value, offset)`. -/
def writeAt (data : Bytes) (value : Except JsError Bytes) (offset : Nat) :
    Except JsError Bytes := do
  let bytes ← value
  if offset + bytes.length ≤ data.length then return overwrite data offset bytes
  else .error .rangeError

/-- The loop over the options: an entry of the table, and the data it points to. -/
def writeOptions (data : Bytes) (optionOffset optionDataOffset : Nat) :
    List Sent → Except JsError (Bytes × Nat)
  | [] => .ok (data, optionOffset)
  | (token, optionData) :: rest => do
    let data ← writeAt data (writeUIntLE 1 (.ofNat token.toNat)) (optionOffset + 0)
    let data ← writeAt data ((writeUIntLE 2 (.ofNat optionDataOffset)).map List.reverse)
      (optionOffset + 1)
    let data ← writeAt data ((writeUIntLE 2 (.ofNat optionData.length)).map List.reverse)
      (optionOffset + 3)
    let optionOffset := optionOffset + 5
    let data := overwrite data optionDataOffset optionData
    writeOptions data optionOffset (optionDataOffset + optionData.length) rest

def createOptions : Except JsError Bytes := do
  let version ← createVersionOption options
  let encryption ← createEncryptionOption options
  let instance' ← createInstanceOption
  let threadId ← createThreadIdOption
  let mars ← createMarsOption
  let fedAuth ← createFedAuthOption
  let sent := [version, encryption, instance', threadId, mars, fedAuth]
  let length := sent.foldl (fun length option => length + (5 + option.2.length)) 0 + 1
  let data := List.replicate length 0
  let (data, optionOffset) ← writeOptions data 0 (5 * sent.length + 1) sent
  writeAt data (writeUIntLE 1 (.ofNat 0xFF)) optionOffset

theorem createOption_of_appends
    {write : WritableTrackingBuffer → Except JsError WritableTrackingBuffer} {bytes : Bytes}
    (h : (view .ucs2).Appends write bytes) (token : UInt8) :
    createOption token write = .ok (token, bytes) := by
  obtain ⟨buffer, hwrite, -, hcontents⟩ := h _ (valid_new optionBufferSize none false)
  rw [createOption, hwrite]
  show Except.ok (token, (view .ucs2).contents buffer) = _
  rw [hcontents]
  rfl

theorem createOption_of_throws
    {write : WritableTrackingBuffer → Except JsError WritableTrackingBuffer} {e : JsError}
    (h : (view .ucs2).Throws write e) (token : UInt8) : createOption token write = .error e := by
  rw [createOption, h _ (valid_new optionBufferSize none false)]
  rfl

/-- A value in place of others of its length. -/
theorem writeAt_middle {front : Bytes} (old : Bytes) {bytes behind : Bytes} {offset : Nat}
    {value : Except JsError Bytes} (hvalue : value = .ok bytes) (hfront : front.length = offset)
    (hold : old.length = bytes.length) :
    writeAt (front ++ (old ++ behind)) value offset = .ok (front ++ (bytes ++ behind)) := by
  have hroom : offset + bytes.length ≤ (front ++ (old ++ behind)).length := by
    rw [List.length_append, List.length_append, hfront, hold]
    omega
  rw [writeAt, hvalue, ← overwrite_middle hfront hold]
  exact if_pos hroom

/-- The entries of the table, for data that begin at an offset. -/
def tableOf (offset : Nat) : List Sent → List Entry
  | [] => []
  | (token, data) :: rest => ⟨token, offset, data.length⟩ :: tableOf (offset + data.length) rest

/-- How long the data of some options are. -/
def dataLength (sent : List Sent) : Nat := (sent.map fun option => option.2.length).sum

/-- An entry of the table is written. -/
theorem writeOptions_cons {table back : Bytes} {optionDataOffset : Nat} {token : UInt8}
    {optionData : Bytes} (rest : List Sent) (hoffset : optionDataOffset < 65536)
    (hlength : optionData.length < 65536) :
    writeOptions (table ++ (List.replicate 5 0 ++ back)) table.length optionDataOffset
        ((token, optionData) :: rest) =
      writeOptions (overwrite
        (table ++ ((⟨token, optionDataOffset, optionData.length⟩ : Entry).bytes ++ back))
        optionDataOffset optionData) (table.length + 5) (optionDataOffset + optionData.length)
        rest := by
  have hbyte : leBytes 1 token.toNat = [token] := by
    show [UInt8.ofNat (token.toNat % 256)] = [token]
    rw [Nat.mod_eq_of_lt token.toNat_lt, UInt8.ofNat_toNat]
  have hbe : ∀ n < 65536, (writeUIntLE 2 (.ofNat n)).map List.reverse = .ok (beBytes 2 n) :=
    fun n hn => congrArg (Except.map List.reverse) (writeUIntLE_ofNat hn)
  have htoken : writeAt (table ++ (List.replicate 5 0 ++ back))
      (writeUIntLE 1 (.ofNat token.toNat)) (table.length + 0) =
        .ok ((table ++ [token]) ++ ([0, 0] ++ ([0, 0] ++ back))) := by
    refine (writeAt_middle [0] (writeUIntLE_ofNat token.toNat_lt) rfl rfl).trans ?_
    rw [hbyte, List.append_assoc]
    rfl
  have hstart : writeAt ((table ++ [token]) ++ ([0, 0] ++ ([0, 0] ++ back)))
      ((writeUIntLE 2 (.ofNat optionDataOffset)).map List.reverse) (table.length + 1) =
        .ok ((table ++ [token] ++ beBytes 2 optionDataOffset) ++ ([0, 0] ++ back)) := by
    have hfront : (table ++ [token]).length = table.length + 1 := List.length_append
    rw [writeAt_middle [0, 0] (hbe _ hoffset) hfront rfl, ← List.append_assoc (table ++ [token])]
  have hsize : writeAt ((table ++ [token] ++ beBytes 2 optionDataOffset) ++ ([0, 0] ++ back))
      ((writeUIntLE 2 (.ofNat optionData.length)).map List.reverse) (table.length + 3) =
        .ok (table ++ ((⟨token, optionDataOffset, optionData.length⟩ : Entry).bytes ++ back)) := by
    rw [writeAt_middle [0, 0] (hbe _ hlength) (by simp) rfl]
    simp [Entry.bytes]
  rw [writeOptions]
  simp only [htoken, hstart, hsize, bind, Except.bind]

/-- **The loop over the options**, in a buffer that ends with the data written so far. -/
theorem writeOptions_eq (table datas : Bytes) {sent : List Sent} {offset : Nat}
    (hoffset : offset = table.length + 5 * sent.length + 1 + datas.length)
    (hsize : offset + dataLength sent < 65536) :
    writeOptions (table ++ (List.replicate (5 * sent.length) 0 ++
        (0 :: (datas ++ List.replicate (dataLength sent) 0)))) table.length offset sent =
      .ok (table ++ ((tableOf offset sent).flatMap Entry.bytes ++
        (0 :: (datas ++ sent.flatMap Prod.snd))), table.length + 5 * sent.length) := by
  induction sent generalizing table datas offset with
  | nil => rfl
  | cons option sent ih =>
    obtain ⟨token, data⟩ := option
    have hlength : dataLength ((token, data) :: sent) = data.length + dataLength sent :=
      List.sum_cons
    rw [hlength] at hsize
    rw [List.length_cons] at hoffset
    have htable : List.replicate (5 * (sent.length + 1)) (0 : UInt8) =
        List.replicate 5 0 ++ List.replicate (5 * sent.length) 0 := by
      rw [← List.replicate_add, Nat.mul_succ, Nat.add_comm]
    let entry : Entry := ⟨token, offset, data.length⟩
    have hdata : overwrite (table ++ (entry.bytes ++ (List.replicate (5 * sent.length) 0 ++
        (0 :: (datas ++ List.replicate (data.length + dataLength sent) 0))))) offset data =
        (table ++ entry.bytes) ++ (List.replicate (5 * sent.length) 0 ++
          (0 :: ((datas ++ data) ++ List.replicate (dataLength sent) 0))) := by
      have hfilled : (table ++ entry.bytes ++ List.replicate (5 * sent.length) 0 ++
          0 :: datas).length = offset := by
        simp only [List.length_append, List.length_cons, List.length_replicate,
          Entry.length_bytes]
        omega
      simpa only [List.append_assoc, List.cons_append] using
        overwrite_zeros hfilled rfl (dataLength sent)
    have hnext : offset + data.length =
        (table ++ entry.bytes).length + 5 * sent.length + 1 + (datas ++ data).length := by
      simp only [List.length_append, Entry.length_bytes]
      omega
    have hrest := ih (table ++ entry.bytes) (datas ++ data) hnext (by omega)
    rw [List.length_append, Entry.length_bytes] at hrest
    rw [hlength, List.length_cons, htable, List.append_assoc (List.replicate 5 0),
      writeOptions_cons sent (by omega) (by omega), hdata, hrest]
    simp [tableOf, entry]
    omega

theorem length_tableOf (offset : Nat) (sent : List Sent) :
    (tableOf offset sent).length = sent.length := by
  induction sent generalizing offset with
  | nil => rfl
  | cons option sent ih =>
    rw [tableOf, List.length_cons, ih, List.length_cons]

theorem foldl_length (n : Nat) (sent : List Sent) :
    sent.foldl (fun length (option : Sent) => length + (5 + option.2.length)) n =
      n + (5 * sent.length + dataLength sent) := by
  induction sent generalizing n with
  | nil => rfl
  | cons option sent ih =>
    have hlength : dataLength (option :: sent) = option.2.length + dataLength sent := List.sum_cons
    rw [List.foldl_cons, ih, List.length_cons, hlength]
    omega

/-- **The message**: the table of some options, the terminator and their data. -/
def messageOf (sent : List Sent) : Bytes :=
  (tableOf (5 * sent.length + 1) sent).flatMap Entry.bytes ++ (0xFF :: sent.flatMap Prod.snd)

theorem writeMessage_eq {sent : List Sent}
    (hsize : 5 * sent.length + 1 + dataLength sent < 65536) :
    (do
      let length :=
        sent.foldl (fun length (option : Sent) => length + (5 + option.2.length)) 0 + 1
      let data := List.replicate length 0
      let (data, optionOffset) ← writeOptions data 0 (5 * sent.length + 1) sent
      writeAt data (writeUIntLE 1 (.ofNat 0xFF)) optionOffset) = .ok (messageOf sent) := by
  have hoffset : 5 * sent.length + 1 = 0 + 5 * sent.length + 1 + 0 := by omega
  have hloop := writeOptions_eq [] [] hoffset hsize
  have hzeros : List.replicate (0 + (5 * sent.length + dataLength sent) + 1) (0 : UInt8) =
      [] ++ (List.replicate (5 * sent.length) 0 ++
        (0 :: ([] ++ List.replicate (dataLength sent) 0))) := by
    rw [List.nil_append, List.nil_append, ← List.replicate_succ, ← List.replicate_add, Nat.zero_add,
      Nat.add_assoc]
  have htable : ((tableOf (5 * sent.length + 1) sent).flatMap Entry.bytes).length =
      0 + 5 * sent.length := by
    rw [length_table, length_tableOf, Nat.zero_add]
  dsimp only
  rw [foldl_length, hzeros]
  simp only [List.length_nil] at hloop
  rw [hloop]
  exact writeAt_middle [0] (writeUIntLE_ofNat (by decide : 0xFF < 256 ^ 1)) htable rfl

/-! ### The message that is sent -/

/-- Every number of a version has room in its field. -/
def VersionFits (version : Version) : Prop :=
  version.major < 256 ∧ version.minor < 256 ∧ version.build < 65536 ∧ version.subbuild < 65536

instance (version : Version) : Decidable (VersionFits version) :=
  inferInstanceAs (Decidable (_ ∧ _))

def versionBytes (version : Version) : Bytes :=
  leBytes 1 version.major ++ (leBytes 1 version.minor ++
    (beBytes 2 version.build ++ beBytes 2 version.subbuild))

def sent : List Sent :=
  [(0x00, versionBytes options.version), (0x01, [if options.encrypt then 0x01 else 0x02]),
    (0x02, [0x00]), (0x03, [0x00, 0x00, 0x00, 0x00]), (0x04, [0x00]), (0x06, [0x01])]

variable {options}

theorem createVersionOption_eq (h : VersionFits options.version) :
    createVersionOption options = .ok (0x00, versionBytes options.version) := by
  obtain ⟨hmajor, hminor, hbuild, hsubbuild⟩ := h
  exact createOption_of_appends ((writeUInt8_ofNat_appends hmajor).bind
    ((writeUInt8_ofNat_appends hminor).bind ((writeUInt16BE_ofNat_appends hbuild).bind
      (writeUInt16BE_ofNat_appends hsubbuild)))) _

theorem createVersionOption_throws (h : ¬ VersionFits options.version) :
    createVersionOption options = .error .rangeError := by
  refine createOption_of_throws ?_ _
  by_cases hmajor : options.version.major < 256
  · refine (writeUInt8_ofNat_appends hmajor).throws ?_
    by_cases hminor : options.version.minor < 256
    · refine (writeUInt8_ofNat_appends hminor).throws ?_
      by_cases hbuild : options.version.build < 65536
      · refine (writeUInt16BE_ofNat_appends hbuild).throws (writeUInt16BE_ofNat_throws ?_)
        exact Nat.not_lt.1 fun hsubbuild => h ⟨hmajor, hminor, hbuild, hsubbuild⟩
      · exact (writeUInt16BE_ofNat_throws (Nat.not_lt.1 hbuild)).bind
    · exact (writeUInt8_ofNat_throws (Nat.not_lt.1 hminor)).bind
  · exact (writeUInt8_ofNat_throws (Nat.not_lt.1 hmajor)).bind

theorem createEncryptionOption_eq :
    createEncryptionOption options = .ok (0x01, [if options.encrypt then 0x01 else 0x02]) := by
  refine createOption_of_appends ?_ _
  cases options.encrypt with
  | true => exact writeUInt8_ofNat_appends (by decide : 1 < 256)
  | false => exact writeUInt8_ofNat_appends (by decide : 2 < 256)

theorem createThreadIdOption_eq : createThreadIdOption = .ok (0x03, [0x00, 0x00, 0x00, 0x00]) :=
  createOption_of_appends (appendNumber_appends
    (congrArg (Except.map List.reverse) (writeUIntLE_ofNat (by decide))) rfl) _

theorem createOptions_eq (h : VersionFits options.version) :
    createOptions options = .ok (messageOf options.sent) := by
  have hinstance : createInstanceOption = .ok (0x02, [0x00]) :=
    createOption_of_appends (writeUInt8_ofNat_appends (by decide)) _
  have hmars : createMarsOption = .ok (0x04, [0x00]) :=
    createOption_of_appends (writeUInt8_ofNat_appends (by decide)) _
  have hfedAuth : createFedAuthOption = .ok (0x06, [0x01]) :=
    createOption_of_appends (writeUInt8_ofNat_appends (by decide)) _
  rw [createOptions, createVersionOption_eq h, createEncryptionOption_eq, hinstance,
    createThreadIdOption_eq, hmars, hfedAuth]
  have hcount : options.sent.length = 6 := rfl
  have hlength : dataLength options.sent = 14 := rfl
  have hsize : 5 * options.sent.length + 1 + dataLength options.sent < 65536 := by
    rw [hcount, hlength]
    decide
  simpa only [sent, bind, Except.bind] using writeMessage_eq hsize

theorem createOptions_throws (h : ¬ VersionFits options.version) :
    createOptions options = .error .rangeError := by
  rw [createOptions, createVersionOption_throws h]
  rfl

/-! ### Reading it back -/

/-- The data behind the terminator. -/
theorem numberAt_messageOf (sent : List Sent) (offset size : Nat) :
    numberAt (messageOf sent) (5 * sent.length + 1 + offset) size =
      beNat (((sent.flatMap Prod.snd).drop offset).take size) := by
  have hfront : ((tableOf (5 * sent.length + 1) sent).flatMap Entry.bytes ++ [0xFF]).length =
      5 * sent.length + 1 := by
    rw [List.length_append, length_table, length_tableOf, List.length_singleton]
  have hmessage : messageOf sent = ((tableOf (5 * sent.length + 1) sent).flatMap Entry.bytes ++
      [0xFF]) ++ sent.flatMap Prod.snd :=
    List.append_cons ..
  rw [numberAt, hmessage, ← List.drop_drop, List.drop_left' hfront]

/-- The table of the options. -/
def entries : List Entry :=
  [⟨0x00, 31, 6⟩, ⟨0x01, 37, 1⟩, ⟨0x02, 38, 1⟩, ⟨0x03, 39, 4⟩, ⟨0x04, 43, 1⟩, ⟨0x06, 44, 1⟩]

theorem wellFormed_sent (options : PreloginOptions) :
    WellFormed (messageOf options.sent) entries where
  table := ⟨options.sent.flatMap Prod.snd, rfl⟩
  fits := by decide
  once := by decide
  points := by
    have hlength : (messageOf options.sent).length = 45 := rfl
    have hbound : ∀ entry ∈ entries,
        entry.offset + entry.length ≤ (messageOf options.sent).length := by
      rw [hlength]
      decide
    intro entry hentry
    have hentry' := hentry
    simp only [entries, List.mem_cons, List.not_mem_nil, or_false] at hentry'
    rcases hentry' with rfl | rfl | rfl | rfl | rfl | rfl
    case inr.inr.inr.inl => exact Or.inr ⟨by decide, hbound _ hentry⟩
    all_goals exact ⟨by decide, hbound _ hentry⟩

/-- **What is sent is read** as it was given. -/
theorem ofBuffer_sent (h : VersionFits options.version) :
    ofBuffer (messageOf options.sent) = .ok
      { version := some options.version
        encryption := some (if options.encrypt then 0x01 else 0x02)
        instance' := some 0
        threadId := some 0
        mars := some 0
        fedAuthRequired := some 1 } := by
  obtain ⟨hmajor, hminor, hbuild, hsubbuild⟩ := h
  have hnumber : ∀ offset size, numberAt (messageOf options.sent) (31 + offset) size =
      beNat (((options.sent.flatMap Prod.snd).drop offset).take size) :=
    numberAt_messageOf options.sent
  have hversion : (⟨numberAt (messageOf options.sent) 31 1, numberAt (messageOf options.sent) 32 1,
      numberAt (messageOf options.sent) 33 2, numberAt (messageOf options.sent) 35 2⟩ : Version) =
      options.version := by
    have hmajor' := (hnumber 0 1).trans (beNat_beBytes (k := 1) hmajor)
    have hminor' := (hnumber 1 1).trans (beNat_beBytes (k := 1) hminor)
    have hbuild' := (hnumber 2 2).trans (beNat_beBytes (k := 2) hbuild)
    have hsubbuild' := (hnumber 4 2).trans (beNat_beBytes (k := 2) hsubbuild)
    rw [hmajor', hminor', hbuild', hsubbuild']
  have hencryption : numberAt (messageOf options.sent) 37 1 =
      if options.encrypt then 0x01 else 0x02 := by
    have hbyte : ((options.sent.flatMap Prod.snd).drop 6).take 1 =
        [if options.encrypt then 0x01 else 0x02] := rfl
    rw [hnumber 6 1, hbyte]
    cases options.encrypt <;> rfl
  have hread : pointedTo (messageOf options.sent) entries =
      { version := some ⟨numberAt (messageOf options.sent) 31 1,
          numberAt (messageOf options.sent) 32 1, numberAt (messageOf options.sent) 33 2,
          numberAt (messageOf options.sent) 35 2⟩
        encryption := some (numberAt (messageOf options.sent) 37 1)
        instance' := some (numberAt (messageOf options.sent) 38 1)
        threadId := some (numberAt (messageOf options.sent) 39 4)
        mars := some (numberAt (messageOf options.sent) 43 1)
        fedAuthRequired := some (numberAt (messageOf options.sent) 44 1) } := rfl
  rw [ofBuffer_wellFormed (wellFormed_sent options), hread, hversion, hencryption, hnumber 7 1,
    hnumber 8 4, hnumber 12 1, hnumber 13 1]
  rfl

/-- **Decoding** a `PRELOGIN` message ends for every buffer, with a `RangeError` if it fails; reads
of a well-formed message what its entries point to, and nothing else; and recovers from the message
that is sent, for a version that has room in it, what was put in. -/
theorem prelogin_decodes :
    (∀ data, ∃ rounds r, whileLoop (optionRound data) rounds (0, empty) = some r ∧ ThrowsRange r ∧
      ofBuffer data = r.map Prod.snd) ∧
    (∀ data entries, WellFormed data entries → ofBuffer data = .ok (pointedTo data entries)) ∧
    ∀ options, if VersionFits options.version then
      ∃ data p, createOptions options = .ok data ∧ ofBuffer data = .ok p ∧
        p.version = some options.version ∧
        p.encryption = some (if options.encrypt then 0x01 else 0x02) ∧
        p.encryptionString = some (if options.encrypt then .ON else .NOT_SUP) ∧
        p.instance' = some 0 ∧ p.threadId = some 0 ∧ p.mars = some 0 ∧
        p.marsString = some .OFF ∧ p.fedAuthRequired = some 1
    else createOptions options = .error .rangeError := by
  refine ⟨extractOptions_ends, fun _ _ h => ofBuffer_wellFormed h, fun options => ?_⟩
  split
  · next h =>
    refine ⟨_, _, createOptions_eq h, ofBuffer_sent h, rfl, rfl, ?_, rfl, rfl, rfl, rfl, rfl⟩
    cases options.encrypt <;> rfl
  · next h => exact createOptions_throws h

/-- An option that is not known, data in front of those of another option, and a gap. -/
theorem prelogin_decodes_gap :
    WellFormed [0x01, 0x00, 0x13, 0x00, 0x01, 0x7F, 0xFF, 0x00, 0x00, 0x09, 0x06, 0x00, 0x10, 0x00,
        0x01, 0xFF, 0x01, 0x00, 0x00, 0x03]
      [⟨0x01, 19, 1⟩, ⟨0x7F, 65280, 9⟩, ⟨0x06, 16, 1⟩] ∧
    ofBuffer [0x01, 0x00, 0x13, 0x00, 0x01, 0x7F, 0xFF, 0x00, 0x00, 0x09, 0x06, 0x00, 0x10, 0x00,
        0x01, 0xFF, 0x01, 0x00, 0x00, 0x03] =
      .ok { empty with encryption := some 3, fedAuthRequired := some 1 } := by
  have h : WellFormed [0x01, 0x00, 0x13, 0x00, 0x01, 0x7F, 0xFF, 0x00, 0x00, 0x09, 0x06, 0x00,
      0x10, 0x00, 0x01, 0xFF, 0x01, 0x00, 0x00, 0x03]
      [⟨0x01, 19, 1⟩, ⟨0x7F, 65280, 9⟩, ⟨0x06, 16, 1⟩] := by
    refine ⟨⟨_, rfl⟩, by decide, by decide, ?_⟩
    simp only [List.forall_mem_cons]
    exact ⟨⟨by decide, by decide⟩, trivial, ⟨by decide, by decide⟩, nofun⟩
  exact ⟨h, prelogin_decodes.2.1 _ _ h⟩

end PreloginOptions

end Tedious
