import Tedious.DataTypes.JsValue

/-!
# Tedious.Login7Payload

Encoding a `LOGIN7` message (`login7-payload.ts`): a fixed part of 94 bytes with an offset and a
length for each field, and the fields behind it. `toBuffer` keeps the offset of the next field by
hand while it collects the fields.

`login7_readsBack_iff` says which payloads a reader that follows the offsets gets back: the host
name must be there, and no field may stand behind SSPI data.
-/

namespace Tedious

open Chunked

/-! ### The payload -/

inductive FedAuth
  | ADAL (echo integrated : Bool)
  | SECURITYTOKEN (echo : Bool) (fedAuthToken : JsString)
  deriving DecidableEq, Repr

structure Login7Payload where
  tdsVersion : JsNumber
  packetSize : JsNumber
  clientProgVer : JsNumber
  clientPid : JsNumber
  connectionId : JsNumber
  clientTimeZone : JsNumber
  clientLcid : JsNumber
  readOnlyIntent : Bool
  initDbFatal : Bool
  userName : Option JsString
  password : Option JsString
  serverName : Option JsString
  appName : Option JsString
  hostname : Option JsString
  libraryName : Option JsString
  language : Option JsString
  database : Option JsString
  clientId : Option Bytes
  sspi : Option Bytes
  attachDbFile : Option JsString
  changePassword : Option JsString
  fedAuth : Option FedAuth

/-- A byte of a password: its nibbles change places, and the bits of `0xA5` are flipped. -/
def scrambleByte (byte : UInt8) : UInt8 := ((byte &&& 0x0F) <<< 4 ||| byte >>> 4) ^^^ 0xA5

def scramblePassword (password : Bytes) : Bytes := password.map scrambleByte

/-- `FEATURE_EXT_TERMINATOR`. -/
def FEATURE_EXT_TERMINATOR : Bytes := [0xFF]

/-- `versions['7_4']`. -/
def version74 : Rat := 0x74000004

namespace Login7Payload

variable (payload : Login7Payload)

/-- `BCP_DUMPLOAD_OFF`, `USE_DB_OFF` and `SET_LANG_WARN_ON`; the other flags are zero. -/
def buildOptionFlags1 : Nat :=
  let flags1 := 0x10 ||| 0x20 ||| 0x80
  if payload.initDbFatal then flags1 ||| 0x40 else flags1

def buildOptionFlags2 : Nat := if payload.sspi.isSome then 0x80 else 0x00

def buildTypeFlags : Nat := if payload.readOnlyIntent then 0x20 else 0x00

/-- Unknown collations are handled, and the extension is used. -/
def buildOptionFlags3 : Nat := 0x08 ||| 0x10

/-- The `FEDAUTH` feature. -/
def fedAuthFeature : Option FedAuth → Except JsError Bytes
  | none => .ok []
  | some (.ADAL echo integrated) =>
    .ok (leBytes 1 0x02 ++ (leBytes 4 2 ++ (leBytes 1 (0x02 <<< 1 ||| if echo then 1 else 0) ++
      leBytes 1 (if integrated then 0x02 else 0x01))))
  | some (.SECURITYTOKEN echo fedAuthToken) => do
    let token := ucs2Bytes fedAuthToken
    let length ← writeUIntLE 4 (.ofNat (token.length + 4 + 1))
    let tokenLength ← writeIntLE 4 (.ofNat token.length)
    pure (leBytes 1 0x02 ++ (length ++ (leBytes 1 (0x01 <<< 1 ||| if echo then 1 else 0) ++
      (tokenLength ++ token))))

/-- `this.tdsVersion >= versions['7_4']`. -/
def since74 : Bool :=
  match payload.tdsVersion with
  | .finite q => version74 ≤ q
  | .infinity => true
  | .negInfinity | .nan => false

def buildFeatureExt : Except JsError Bytes := do
  let fedAuth ← fedAuthFeature payload.fedAuth
  let utf8Support :=
    if payload.since74 then leBytes 1 0x0A ++ (leBytes 4 1 ++ leBytes 1 0x01) else []
  pure (fedAuth ++ (utf8Support ++ FEATURE_EXT_TERMINATOR))

/-- The fixed part up to the first offset; the length of the message is still missing. -/
def fixedFields : Except JsError Bytes := do
  let tdsVersion ← writeUIntLE 4 payload.tdsVersion
  let packetSize ← writeUIntLE 4 payload.packetSize
  let clientProgVer ← writeUIntLE 4 payload.clientProgVer
  let clientPid ← writeUIntLE 4 payload.clientPid
  let connectionId ← writeUIntLE 4 payload.connectionId
  let clientTimeZone ← writeIntLE 4 payload.clientTimeZone
  let clientLcid ← writeUIntLE 4 payload.clientLcid
  pure (leBytes 4 0 ++ (tdsVersion ++ (packetSize ++ (clientProgVer ++ (clientPid ++
    (connectionId ++ (leBytes 1 payload.buildOptionFlags1 ++ (leBytes 1 payload.buildOptionFlags2 ++
    (leBytes 1 payload.buildTypeFlags ++ (leBytes 1 buildOptionFlags3 ++
    (clientTimeZone ++ clientLcid)))))))))))

end Login7Payload

/-! ### The layout -/

/-- `toBuffer` at work: the fixed part as far as it is written, the offset of the next field, and
the fields so far. -/
structure Layout where
  fixedData : Bytes
  dataOffset : Nat
  buffers : List Bytes

namespace Layout

/-- `offset = fixedData.writeUInt16LE(n, offset)`. -/
def writeUInt16LE (n : Nat) (l : Layout) : Except JsError Layout := do
  let bytes ← writeUIntLE 2 (.ofNat n)
  pure { l with fixedData := l.fixedData ++ bytes }

/-- A field, and where the next one begins. -/
def push (buffer : Bytes) (l : Layout) : Layout :=
  { l with dataOffset := l.dataOffset + buffer.length, buffers := l.buffers ++ [buffer] }

/-- The offset, the length and the data of a text; an empty text is none. -/
def writeText (encode : Bytes → Bytes) (text : Option JsString) (l : Layout) :
    Except JsError Layout := do
  let l ← l.writeUInt16LE l.dataOffset
  match text.getD [] with
  | [] => l.writeUInt16LE 0
  | c :: text => do
    let buffer := ucs2Bytes (c :: text)
    let l ← l.writeUInt16LE (buffer.length / 2)
    pure (l.push (encode buffer))

/-- Without a host name, its offset is written once more in the place of its length. -/
def writeHostname (text : Option JsString) (l : Layout) : Except JsError Layout := do
  let l ← l.writeUInt16LE l.dataOffset
  match text.getD [] with
  | [] => l.writeUInt16LE l.dataOffset
  | c :: text => do
    let buffer := ucs2Bytes (c :: text)
    let l ← l.writeUInt16LE (buffer.length / 2)
    pure (l.push buffer)

/-- Four bytes that point to the extensions, which stand right behind them. -/
def writeExtensions (extensions : Bytes) (l : Layout) : Except JsError Layout := do
  let l ← l.writeUInt16LE l.dataOffset
  let l ← l.writeUInt16LE 4
  let extensionOffset ← writeUIntLE 4 (.ofNat (l.dataOffset + 4))
  pure ((l.push extensionOffset).push extensions)

/-- Six bytes of a client id, as far as it has them. -/
def writeClientId (clientId : Option Bytes) (l : Layout) : Layout :=
  let bytes := (clientId.getD []).take 6
  { l with fixedData := l.fixedData ++ (bytes ++ List.replicate (6 - bytes.length) 0) }

/-- The offset of the next field stays where it is. -/
def writeSspi (sspi : Option Bytes) (l : Layout) : Except JsError Layout := do
  let l ← l.writeUInt16LE l.dataOffset
  match sspi with
  | some sspi => do
    let l ← l.writeUInt16LE (if 65535 < sspi.length then 65535 else sspi.length)
    pure { l with buffers := l.buffers ++ [sspi] }
  | none => l.writeUInt16LE 0

def writeSspiLong (sspi : Option Bytes) (l : Layout) : Except JsError Layout := do
  let length := (sspi.getD []).length
  let bytes ← writeUIntLE 4 (.ofNat (if 65535 < length then length else 0))
  pure { l with fixedData := l.fixedData ++ bytes }

end Layout

namespace Login7Payload

variable (payload : Login7Payload)

def layout : Except JsError Layout := do
  let fixedData ← payload.fixedFields
  let l : Layout := { fixedData, dataOffset := 94, buffers := [] }
  let l ← l.writeHostname payload.hostname
  let l ← l.writeText id payload.userName
  let l ← l.writeText scramblePassword payload.password
  let l ← l.writeText id payload.appName
  let l ← l.writeText id payload.serverName
  let extensions ← payload.buildFeatureExt
  let l ← l.writeExtensions extensions
  let l ← l.writeText id payload.libraryName
  let l ← l.writeText id payload.language
  let l ← l.writeText id payload.database
  let l := l.writeClientId payload.clientId
  let l ← l.writeSspi payload.sspi
  let l ← l.writeText id payload.attachDbFile
  let l ← l.writeText id payload.changePassword
  l.writeSspiLong payload.sspi

def toBuffer : Except JsError Bytes := do
  let l ← payload.layout
  let data := l.fixedData ++ l.buffers.flatten
  let length ← writeUIntLE 4 (.ofNat data.length)
  pure (length ++ data.drop 4)

end Login7Payload

/-! ### A reader -/

/-- Some bytes of a message. -/
structure Span where
  start : Nat
  length : Nat

namespace Span

/-- The bytes between the start and the end of a span. -/
def bytes (data : Bytes) (span : Span) : Bytes := (data.drop span.start).take span.length

/-- One of two spans is empty, or they do not overlap. -/
def Disjoint (span span' : Span) : Prop :=
  span.length = 0 ∨ span'.length = 0 ∨ span.start + span.length ≤ span'.start ∨
    span'.start + span'.length ≤ span.start

/-- A span ends where another one begins, or in front of it. -/
def Before (span span' : Span) : Prop := span.start + span.length ≤ span'.start

theorem Before.trans {span span' span'' : Span} (h : span.Before span')
    (h' : span'.Before span'') : span.Before span'' := by
  rw [Before] at h h' ⊢
  omega

theorem pairwise_disjoint {spans : List Span} (h : spans.IsChain Before) :
    spans.Pairwise Disjoint := by
  have : IsTrans Span Before := ⟨fun _ _ _ => Before.trans⟩
  exact h.pairwise.imp fun hbefore => .inr (.inr (.inl hbefore))

/-- The field that an offset and a length in the fixed part announce, in units of `unit` bytes. -/
def ofEntry (data : Bytes) (position unit : Nat) : Span where
  start := leNat ((data.drop position).take 2)
  length := unit * leNat ((data.drop (position + 2)).take 2)

/-- The SSPI data: a length of 65535 gives way to the long one at the end of the fixed part. -/
def ofSspi (data : Bytes) : Span where
  start := leNat ((data.drop 78).take 2)
  length :=
    let length := leNat ((data.drop 80).take 2)
    let long := leNat ((data.drop 90).take 4)
    if length = 65535 ∧ 0 < long then long else length

/-- What the extension field points to. -/
def ofExtensions (data : Bytes) (length : Nat) : Span where
  start := leNat ((ofEntry data 56 1).bytes data)
  length := length

/-- A span holds these bytes, and no others. -/
structure Holds (data : Bytes) (span : Span) (content : Bytes) : Prop where
  length : span.length = content.length
  bytes : span.bytes data = content

end Span

/-- The inverse of `scrambleByte`. -/
def unscrambleByte (byte : UInt8) : UInt8 :=
  let byte := byte ^^^ 0xA5
  (byte &&& 0x0F) <<< 4 ||| byte >>> 4

namespace Login7Payload

/-- The text of a field; an absent field has none. -/
def content (text : Option JsString) : Bytes := ucs2Bytes (text.getD [])

/-- The fields, in the order in which they are announced, and the extensions. -/
def spans (data : Bytes) (extensions : Nat) : List Span :=
  [.ofEntry data 36 2, .ofEntry data 40 2, .ofEntry data 44 2, .ofEntry data 48 2,
    .ofEntry data 52 2, .ofEntry data 56 1, .ofExtensions data extensions, .ofEntry data 60 2,
    .ofEntry data 64 2, .ofEntry data 68 2, .ofSspi data, .ofEntry data 82 2, .ofEntry data 86 2]

/-- A reader that follows the offsets finds every field. -/
structure ReadsBack (payload : Login7Payload) (data : Bytes) : Prop where
  length : leNat (data.take 4) = data.length
  hostname : (Span.ofEntry data 36 2).Holds data (content payload.hostname)
  userName : (Span.ofEntry data 40 2).Holds data (content payload.userName)
  password : ∃ scrambled, (Span.ofEntry data 44 2).Holds data scrambled ∧
    scrambled.map unscrambleByte = content payload.password
  appName : (Span.ofEntry data 48 2).Holds data (content payload.appName)
  serverName : (Span.ofEntry data 52 2).Holds data (content payload.serverName)
  libraryName : (Span.ofEntry data 60 2).Holds data (content payload.libraryName)
  language : (Span.ofEntry data 64 2).Holds data (content payload.language)
  database : (Span.ofEntry data 68 2).Holds data (content payload.database)
  sspi : (Span.ofSspi data).Holds data (payload.sspi.getD [])
  attachDbFile : (Span.ofEntry data 82 2).Holds data (content payload.attachDbFile)
  changePassword : (Span.ofEntry data 86 2).Holds data (content payload.changePassword)
  extensions : ∃ extensions, payload.buildFeatureExt = .ok extensions ∧
    (Span.ofEntry data 56 1).length = 4 ∧
    (Span.ofExtensions data extensions.length).Holds data extensions ∧
    (spans data extensions.length).Pairwise Span.Disjoint

/-- No field stands behind SSPI data. -/
def NothingBehindSspi (payload : Login7Payload) : Prop :=
  payload.sspi.getD [] = [] ∨
    payload.attachDbFile.getD [] = [] ∧ payload.changePassword.getD [] = []

end Login7Payload

/-! ### What a step writes -/

namespace Layout

/-- The next field begins where the fields so far end. -/
def InStep (l : Layout) : Prop := l.dataOffset = 94 + l.buffers.flatten.length

/-- Behind `l` the fixed part and the fields have only grown. -/
structure Grows (l l' : Layout) : Prop where
  fixedData : l.fixedData <+: l'.fixedData
  buffers : l.buffers.flatten <+: l'.buffers.flatten

theorem Grows.trans {l l' l'' : Layout} (h : l.Grows l') (h' : l'.Grows l'') : l.Grows l'' :=
  ⟨h.fixedData.trans h'.fixedData, h.buffers.trans h'.buffers⟩

/-- A step writes the current offset and a length, and adds `bytes` to the fields. -/
structure Adds (l l' : Layout) (length : Nat) (bytes : Bytes) : Prop where
  fixedData : l'.fixedData = l.fixedData ++ (leBytes 2 l.dataOffset ++ leBytes 2 length)
  buffers : l'.buffers.flatten = l.buffers.flatten ++ bytes
  offset_lt : l.dataOffset < 65536
  length_lt : length < 65536

theorem Adds.grows {l l' : Layout} {length : Nat} {bytes : Bytes} (h : l.Adds l' length bytes) :
    l.Grows l' where
  fixedData := by
    rw [h.fixedData]
    exact List.prefix_append ..
  buffers := by
    rw [h.buffers]
    exact List.prefix_append ..

theorem Adds.length_fixedData {l l' : Layout} {length : Nat} {bytes : Bytes}
    (h : l.Adds l' length bytes) : l'.fixedData.length = l.fixedData.length + 4 := by
  rw [h.fixedData, List.length_append, List.length_append, length_leBytes, length_leBytes]

theorem writeUInt16LE_ok {n : Nat} {l l' : Layout} (h : l.writeUInt16LE n = .ok l') :
    n < 65536 ∧ l' = { l with fixedData := l.fixedData ++ leBytes 2 n } := by
  obtain ⟨bytes, hbytes, h⟩ := Except.bind_ok h
  rw [writeUIntLE_ofNat_eq] at hbytes
  split at hbytes
  · next hlt =>
    cases hbytes
    cases h
    exact ⟨hlt, rfl⟩
  · cases hbytes

/-- The offset and the length, one behind the other. -/
theorem writeUInt16LE_twice {m n : Nat} {l l₁ l₂ : Layout} (h₁ : l.writeUInt16LE m = .ok l₁)
    (h₂ : l₁.writeUInt16LE n = .ok l₂) :
    m < 65536 ∧ n < 65536 ∧
      l₂ = { l with fixedData := l.fixedData ++ (leBytes 2 m ++ leBytes 2 n) } := by
  obtain ⟨hm, rfl⟩ := writeUInt16LE_ok h₁
  obtain ⟨hn, rfl⟩ := writeUInt16LE_ok h₂
  rw [List.append_assoc]
  exact ⟨hm, hn, rfl⟩

/-- A text that is there. -/
theorem push_adds {encode : Bytes → Bytes} (hencode : ∀ bytes, (encode bytes).length = bytes.length)
    {text : JsString} {l l₁ l₂ : Layout} (h₁ : l.writeUInt16LE l.dataOffset = .ok l₁)
    (h₂ : l₁.writeUInt16LE ((ucs2Bytes text).length / 2) = .ok l₂) :
    l.Adds (l₂.push (encode (ucs2Bytes text))) text.length (encode (ucs2Bytes text)) ∧
      (l₂.push (encode (ucs2Bytes text))).dataOffset = l.dataOffset + (ucs2Bytes text).length := by
  have hhalf : (ucs2Bytes text).length / 2 = text.length := by
    rw [length_ucs2Bytes]
    omega
  rw [hhalf] at h₂
  obtain ⟨hoffset, hlength, rfl⟩ := writeUInt16LE_twice h₁ h₂
  refine ⟨⟨rfl, ?_, hoffset, hlength⟩, ?_⟩
  · rw [push, List.flatten_append, List.flatten_singleton]
  · rw [push, hencode]

theorem writeText_adds {encode : Bytes → Bytes} {text : Option JsString} {l l' : Layout}
    (hencode : ∀ bytes, (encode bytes).length = bytes.length)
    (h : l.writeText encode text = .ok l') :
    l.Adds l' (text.getD []).length (encode (ucs2Bytes (text.getD []))) ∧
      l'.dataOffset = l.dataOffset + (ucs2Bytes (text.getD [])).length := by
  obtain ⟨l₁, h₁, h⟩ := Except.bind_ok h
  cases htext : text.getD [] with
  | nil =>
    rw [htext] at h
    obtain ⟨hoffset, hlength, rfl⟩ := writeUInt16LE_twice h₁ h
    have hnil : encode (ucs2Bytes []) = [] := List.eq_nil_of_length_eq_zero (hencode [])
    refine ⟨⟨rfl, ?_, hoffset, hlength⟩, rfl⟩
    rw [hnil, List.append_nil]
  | cons c text =>
    rw [htext] at h
    obtain ⟨l₂, h₂, h⟩ := Except.bind_ok h
    cases h
    exact push_adds hencode h₁ h₂

/-- A host name that is there is a text like any other; without one its length is the offset. -/
theorem writeHostname_adds {text : Option JsString} {l l' : Layout}
    (h : l.writeHostname text = .ok l') :
    l.Adds l' (if text.getD [] = [] then l.dataOffset else (text.getD []).length)
        (ucs2Bytes (text.getD [])) ∧
      l'.dataOffset = l.dataOffset + (ucs2Bytes (text.getD [])).length := by
  obtain ⟨l₁, h₁, h⟩ := Except.bind_ok h
  cases htext : text.getD [] with
  | nil =>
    rw [htext] at h
    obtain ⟨-, rfl⟩ := writeUInt16LE_ok h₁
    obtain ⟨hoffset, hlength, rfl⟩ := writeUInt16LE_twice h₁ h
    rw [if_pos rfl]
    refine ⟨⟨rfl, ?_, hoffset, hlength⟩, rfl⟩
    exact (List.append_nil _).symm
  | cons c text =>
    rw [htext] at h
    obtain ⟨l₂, h₂, h⟩ := Except.bind_ok h
    cases h
    rw [if_neg (List.cons_ne_nil c text)]
    exact push_adds (fun _ => rfl) h₁ h₂

theorem writeExtensions_adds {extensions : Bytes} {l l' : Layout}
    (h : l.writeExtensions extensions = .ok l') :
    l.Adds l' 4 (leBytes 4 (l.dataOffset + 4) ++ extensions) ∧
      l'.dataOffset = l.dataOffset + (4 + extensions.length) := by
  obtain ⟨l₁, h₁, h⟩ := Except.bind_ok h
  obtain ⟨l₂, h₂, h⟩ := Except.bind_ok h
  obtain ⟨bytes, hbytes, h⟩ := Except.bind_ok h
  cases h
  obtain ⟨hoffset, hlength, rfl⟩ := writeUInt16LE_twice h₁ h₂
  rw [writeUIntLE_ofNat (by simp; omega)] at hbytes
  cases hbytes
  refine ⟨⟨rfl, ?_, hoffset, hlength⟩, ?_⟩
  · simp [push]
  · simp [push, Nat.add_assoc]

theorem writeSspi_adds {sspi : Option Bytes} {l l' : Layout} (h : l.writeSspi sspi = .ok l') :
    l.Adds l' (min (sspi.getD []).length 65535) (sspi.getD []) ∧ l'.dataOffset = l.dataOffset := by
  obtain ⟨l₁, h₁, h⟩ := Except.bind_ok h
  cases sspi with
  | none =>
    obtain ⟨hoffset, hlength, rfl⟩ := writeUInt16LE_twice h₁ h
    exact ⟨⟨rfl, (List.append_nil _).symm, hoffset, hlength⟩, rfl⟩
  | some sspi =>
    obtain ⟨l₂, h₂, h⟩ := Except.bind_ok h
    cases h
    have hmin : (if 65535 < sspi.length then 65535 else sspi.length) = min sspi.length 65535 := by
      split <;> omega
    rw [hmin] at h₂
    obtain ⟨hoffset, hlength, rfl⟩ := writeUInt16LE_twice h₁ h₂
    refine ⟨⟨rfl, ?_, hoffset, hlength⟩, rfl⟩
    rw [List.flatten_append, List.flatten_singleton]
    rfl

theorem writeClientId_fixedData (clientId : Option Bytes) (l : Layout) :
    ∃ bytes : Bytes, bytes.length = 6 ∧
      (l.writeClientId clientId).fixedData = l.fixedData ++ bytes := by
  refine ⟨_, ?_, rfl⟩
  rw [List.length_append, List.length_replicate, List.length_take]
  omega

theorem writeSspiLong_ok {sspi : Option Bytes} {l l' : Layout} (h : l.writeSspiLong sspi = .ok l') :
    (sspi.getD []).length < 256 ^ 4 ∧ l' = { l with
      fixedData := l.fixedData ++
        leBytes 4 (if 65535 < (sspi.getD []).length then (sspi.getD []).length else 0) } := by
  obtain ⟨bytes, hbytes, h⟩ := Except.bind_ok h
  cases h
  rw [writeUIntLE_ofNat_eq] at hbytes
  by_cases hlt : (if 65535 < (sspi.getD []).length then (sspi.getD []).length else 0) < 256 ^ 4
  · rw [if_pos hlt] at hbytes
    cases hbytes
    refine ⟨?_, rfl⟩
    split at hlt <;> omega
  · rw [if_neg hlt] at hbytes
    cases hbytes

/-! ### Reading it back -/

/-- The message `data` was made of the layout `l`, with the total length in front. -/
structure Makes (l : Layout) (data : Bytes) : Prop where
  fixedData : l.fixedData.length = 94
  drop : data.drop 4 = (l.fixedData ++ l.buffers.flatten).drop 4

variable {l l' last : Layout} {data bytes : Bytes} {length : Nat}

/-- What `data` has behind the total length. -/
theorem Makes.drop_of_le {n : Nat} (h : last.Makes data) (hn : 4 ≤ n) :
    data.drop n = (last.fixedData ++ last.buffers.flatten).drop n := by
  obtain ⟨n, rfl⟩ := Nat.exists_eq_add_of_le hn
  rw [← List.drop_drop, h.drop, List.drop_drop]

/-- Some bytes of the fixed part. -/
theorem Makes.fixed_take (pre : Bytes) {more : Bytes} (h : last.Makes data)
    (hle : 4 ≤ pre.length) (hbegins : pre ++ more <+: last.fixedData) :
    (data.drop pre.length).take more.length = more := by
  obtain ⟨behind, hbehind⟩ := hbegins
  rw [h.drop_of_le hle, ← hbehind, List.append_assoc, List.append_assoc, List.drop_left,
    List.take_left]

/-- Some bytes of the fields. -/
theorem Makes.buffer_take {pre more : Bytes} (h : last.Makes data)
    (hbegins : pre ++ more <+: last.buffers.flatten) :
    (data.drop (94 + pre.length)).take more.length = more := by
  obtain ⟨behind, hbehind⟩ := hbegins
  rw [h.drop_of_le (by omega), ← h.fixedData, ← List.drop_drop, List.drop_left, ← hbehind,
    List.append_assoc, List.drop_left, List.take_left]

/-- The entry of a field. -/
theorem Adds.entry (h : l.Adds l' length bytes) (hgrows : l'.Grows last) (hmakes : last.Makes data)
    (hle : 4 ≤ l.fixedData.length) (unit : Nat) :
    Span.ofEntry data l.fixedData.length unit =
      { start := l.dataOffset, length := unit * length } := by
  have hprefix := hgrows.fixedData
  rw [h.fixedData, ← List.append_assoc] at hprefix
  have hoffset := hmakes.fixed_take l.fixedData hle ((List.prefix_append _ _).trans hprefix)
  have hlength := hmakes.fixed_take (l.fixedData ++ leBytes 2 l.dataOffset)
    (by rw [List.length_append]; omega) hprefix
  rw [length_leBytes] at hoffset hlength
  rw [List.length_append, length_leBytes] at hlength
  rw [Span.ofEntry, hoffset, hlength, leNat_leBytes h.offset_lt, leNat_leBytes h.length_lt]

/-- The data of a field, when the offset is in step. -/
theorem Adds.take (h : l.Adds l' length bytes) (hgrows : l'.Grows last) (hmakes : last.Makes data)
    (hstep : l.InStep) : (data.drop l.dataOffset).take bytes.length = bytes := by
  have hprefix := hgrows.buffers
  rw [h.buffers] at hprefix
  rw [hstep]
  exact hmakes.buffer_take hprefix

theorem Adds.inStep (h : l.Adds l' length bytes)
    (hmove : l'.dataOffset = l.dataOffset + bytes.length) (hstep : l.InStep) : l'.InStep := by
  rw [InStep] at hstep ⊢
  rw [hmove, hstep, h.buffers, List.length_append, Nat.add_assoc]

/-- A field whose entry has the length of its data holds them. -/
theorem Adds.holds (h : l.Adds l' length bytes) (hgrows : l'.Grows last) (hmakes : last.Makes data)
    (hle : 4 ≤ l.fixedData.length) (hstep : l.InStep ∨ bytes = []) {unit : Nat}
    (hunit : unit * length = bytes.length) :
    (Span.ofEntry data l.fixedData.length unit).Holds data bytes := by
  rw [h.entry hgrows hmakes hle]
  refine ⟨hunit, ?_⟩
  rw [Span.bytes]
  dsimp only
  rw [hunit]
  rcases hstep with hstep | rfl
  · exact h.take hgrows hmakes hstep
  · exact List.take_zero ..

/-- A text is added, and the next field begins behind it. -/
structure AddsText (l l' : Layout) (encode : Bytes → Bytes) (text : Option JsString) : Prop where
  adds : l.Adds l' (text.getD []).length (encode (Login7Payload.content text))
  moved : l'.dataOffset = l.dataOffset + (encode (Login7Payload.content text)).length

theorem writeText_addsText {encode : Bytes → Bytes} {text : Option JsString}
    (hencode : ∀ bytes, (encode bytes).length = bytes.length)
    (h : l.writeText encode text = .ok l') : l.AddsText l' encode text where
  adds := (writeText_adds hencode h).1
  moved := by
    rw [(writeText_adds hencode h).2, hencode]
    rfl

theorem AddsText.inStep {encode : Bytes → Bytes} {text : Option JsString}
    (h : l.AddsText l' encode text) (hstep : l.InStep) : l'.InStep :=
  h.adds.inStep h.moved hstep

theorem AddsText.holds {encode : Bytes → Bytes} {text : Option JsString}
    (h : l.AddsText l' encode text) (hencode : ∀ bytes, (encode bytes).length = bytes.length)
    (hgrows : l'.Grows last) (hmakes : last.Makes data) {position : Nat}
    (hposition : l.fixedData.length = position) (hle : 4 ≤ position)
    (hstep : l.InStep ∨ text.getD [] = []) :
    (Span.ofEntry data position 2).Holds data (encode (Login7Payload.content text)) := by
  subst hposition
  refine h.adds.holds hgrows hmakes hle (hstep.imp_right fun hnil => ?_) ?_
  · refine List.eq_nil_of_length_eq_zero ?_
    rw [hencode, Login7Payload.content, hnil]
    rfl
  · rw [hencode, Login7Payload.content, length_ucs2Bytes]

/-- The entry of a text. -/
theorem AddsText.entry {encode : Bytes → Bytes} {text : Option JsString}
    (h : l.AddsText l' encode text) (hencode : ∀ bytes, (encode bytes).length = bytes.length)
    (hgrows : l'.Grows last) (hmakes : last.Makes data) {position : Nat}
    (hposition : l.fixedData.length = position) (hle : 4 ≤ position) :
    Span.ofEntry data position 2 = {
      start := l.dataOffset, length := (encode (Login7Payload.content text)).length } := by
  subst hposition
  rw [h.adds.entry hgrows hmakes hle, hencode, Login7Payload.content, length_ucs2Bytes]

end Layout

namespace Login7Payload

/-- The layouts that `toBuffer` goes through. -/
structure Trace (payload : Login7Payload) (last : Layout) where
  (start hostname userName password appName serverName libraryName language database clientId
    sspi attachDbFile changePassword : Layout)
  extended : Layout
  extensions : Bytes
  fixedFields : start.fixedData.length = 36
  dataOffset : start.dataOffset = 94
  buffers : start.buffers = []
  built : payload.buildFeatureExt = .ok extensions
  addsHostname : start.Adds hostname
    (if payload.hostname.getD [] = [] then start.dataOffset else (payload.hostname.getD []).length)
    (content payload.hostname)
  movesHostname : hostname.dataOffset = start.dataOffset + (content payload.hostname).length
  addsUserName : hostname.AddsText userName id payload.userName
  addsPassword : userName.AddsText password scramblePassword payload.password
  addsAppName : password.AddsText appName id payload.appName
  addsServerName : appName.AddsText serverName id payload.serverName
  addsExtensions : serverName.Adds extended 4 (leBytes 4 (serverName.dataOffset + 4) ++ extensions)
  movesExtensions : extended.dataOffset = serverName.dataOffset + (4 + extensions.length)
  addsLibraryName : extended.AddsText libraryName id payload.libraryName
  addsLanguage : libraryName.AddsText language id payload.language
  addsDatabase : language.AddsText database id payload.database
  sixBytes : ∃ bytes : Bytes, bytes.length = 6 ∧ clientId.fixedData = database.fixedData ++ bytes
  sameOffset : clientId.dataOffset = database.dataOffset
  sameBuffers : clientId.buffers = database.buffers
  addsSspi : clientId.Adds sspi (min (payload.sspi.getD []).length 65535) (payload.sspi.getD [])
  staysSspi : sspi.dataOffset = clientId.dataOffset
  addsAttachDbFile : sspi.AddsText attachDbFile id payload.attachDbFile
  addsChangePassword : attachDbFile.AddsText changePassword id payload.changePassword
  sspi_lt : (payload.sspi.getD []).length < 256 ^ 4
  fixedLast : last.fixedData = changePassword.fixedData ++ leBytes 4
    (if 65535 < (payload.sspi.getD []).length then (payload.sspi.getD []).length else 0)
  sameLast : last.buffers = changePassword.buffers

variable {payload : Login7Payload} {last : Layout}

theorem length_fixedFields {bytes : Bytes} (h : payload.fixedFields = .ok bytes) :
    bytes.length = 36 := by
  obtain ⟨tdsVersion, h₁, h⟩ := Except.bind_ok h
  obtain ⟨packetSize, h₂, h⟩ := Except.bind_ok h
  obtain ⟨clientProgVer, h₃, h⟩ := Except.bind_ok h
  obtain ⟨clientPid, h₄, h⟩ := Except.bind_ok h
  obtain ⟨connectionId, h₅, h⟩ := Except.bind_ok h
  obtain ⟨clientTimeZone, h₆, h⟩ := Except.bind_ok h
  obtain ⟨clientLcid, h₇, h⟩ := Except.bind_ok h
  cases h
  simp only [List.length_append, length_leBytes, length_writeUIntLE h₁, length_writeUIntLE h₂,
    length_writeUIntLE h₃, length_writeUIntLE h₄, length_writeUIntLE h₅, length_writeIntLE h₆,
    length_writeUIntLE h₇]

theorem length_scramblePassword (bytes : Bytes) : (scramblePassword bytes).length = bytes.length :=
  List.length_map ..

/-- What `layout` returns is the last of these layouts. -/
theorem layout_trace (h : payload.layout = .ok last) : Nonempty (payload.Trace last) := by
  obtain ⟨fixedData, hfixed, h⟩ := Except.bind_ok h
  obtain ⟨hostname, hhostname, h⟩ := Except.bind_ok h
  obtain ⟨userName, huserName, h⟩ := Except.bind_ok h
  obtain ⟨password, hpassword, h⟩ := Except.bind_ok h
  obtain ⟨appName, happName, h⟩ := Except.bind_ok h
  obtain ⟨serverName, hserverName, h⟩ := Except.bind_ok h
  obtain ⟨extensions, hbuilt, h⟩ := Except.bind_ok h
  obtain ⟨extended, hextended, h⟩ := Except.bind_ok h
  obtain ⟨libraryName, hlibraryName, h⟩ := Except.bind_ok h
  obtain ⟨language, hlanguage, h⟩ := Except.bind_ok h
  obtain ⟨database, hdatabase, h⟩ := Except.bind_ok h
  obtain ⟨sspi, hsspi, h⟩ := Except.bind_ok h
  obtain ⟨attachDbFile, hattachDbFile, h⟩ := Except.bind_ok h
  obtain ⟨changePassword, hchangePassword, h⟩ := Except.bind_ok h
  obtain ⟨hlt, rfl⟩ := Layout.writeSspiLong_ok h
  obtain ⟨haddsHostname, hmovesHostname⟩ := Layout.writeHostname_adds hhostname
  obtain ⟨haddsExtensions, hmovesExtensions⟩ := Layout.writeExtensions_adds hextended
  obtain ⟨haddsSspi, hstaysSspi⟩ := Layout.writeSspi_adds hsspi
  have hid (bytes : Bytes) : (id bytes).length = bytes.length := rfl
  exact ⟨{
    start := { fixedData, dataOffset := 94, buffers := [] }
    hostname, userName, password, appName, serverName, libraryName, language, database, sspi
    attachDbFile, changePassword, extended, extensions
    clientId := database.writeClientId payload.clientId
    fixedFields := length_fixedFields hfixed
    dataOffset := rfl
    buffers := rfl
    built := hbuilt
    addsHostname := haddsHostname
    movesHostname := hmovesHostname
    addsUserName := Layout.writeText_addsText hid huserName
    addsPassword := Layout.writeText_addsText length_scramblePassword hpassword
    addsAppName := Layout.writeText_addsText hid happName
    addsServerName := Layout.writeText_addsText hid hserverName
    addsExtensions := haddsExtensions
    movesExtensions := hmovesExtensions
    addsLibraryName := Layout.writeText_addsText hid hlibraryName
    addsLanguage := Layout.writeText_addsText hid hlanguage
    addsDatabase := Layout.writeText_addsText hid hdatabase
    sixBytes := Layout.writeClientId_fixedData _ _
    sameOffset := rfl
    sameBuffers := rfl
    addsSspi := haddsSspi
    staysSspi := hstaysSspi
    addsAttachDbFile := Layout.writeText_addsText hid hattachDbFile
    addsChangePassword := Layout.writeText_addsText hid hchangePassword
    sspi_lt := hlt
    fixedLast := rfl
    sameLast := rfl }⟩

theorem unscrambleByte_scrambleByte (byte : UInt8) : unscrambleByte (scrambleByte byte) = byte := by
  have h : ∀ n : Fin 256, unscrambleByte (scrambleByte (.ofFin n)) = .ofFin n := by
    decide +kernel
  exact h byte.toFin

/-! ### Where the fields stand -/

namespace Trace

variable (t : payload.Trace last)

theorem length_start : t.start.fixedData.length = 36 := t.fixedFields

theorem length_hostname : t.hostname.fixedData.length = 40 := by
  rw [t.addsHostname.length_fixedData, t.length_start]

theorem length_userName : t.userName.fixedData.length = 44 := by
  rw [t.addsUserName.adds.length_fixedData, t.length_hostname]

theorem length_password : t.password.fixedData.length = 48 := by
  rw [t.addsPassword.adds.length_fixedData, t.length_userName]

theorem length_appName : t.appName.fixedData.length = 52 := by
  rw [t.addsAppName.adds.length_fixedData, t.length_password]

theorem length_serverName : t.serverName.fixedData.length = 56 := by
  rw [t.addsServerName.adds.length_fixedData, t.length_appName]

theorem length_extended : t.extended.fixedData.length = 60 := by
  rw [t.addsExtensions.length_fixedData, t.length_serverName]

theorem length_libraryName : t.libraryName.fixedData.length = 64 := by
  rw [t.addsLibraryName.adds.length_fixedData, t.length_extended]

theorem length_language : t.language.fixedData.length = 68 := by
  rw [t.addsLanguage.adds.length_fixedData, t.length_libraryName]

theorem length_database : t.database.fixedData.length = 72 := by
  rw [t.addsDatabase.adds.length_fixedData, t.length_language]

/-- Six bytes are the client id's. -/
theorem length_clientId : t.clientId.fixedData.length = 78 := by
  obtain ⟨bytes, hsix, hfixed⟩ := t.sixBytes
  rw [hfixed, List.length_append, t.length_database, hsix]

theorem length_sspi : t.sspi.fixedData.length = 82 := by
  rw [t.addsSspi.length_fixedData, t.length_clientId]

theorem length_attachDbFile : t.attachDbFile.fixedData.length = 86 := by
  rw [t.addsAttachDbFile.adds.length_fixedData, t.length_sspi]

theorem length_changePassword : t.changePassword.fixedData.length = 90 := by
  rw [t.addsChangePassword.adds.length_fixedData, t.length_attachDbFile]

include t in
theorem length_last : last.fixedData.length = 94 := by
  rw [t.fixedLast, List.length_append, t.length_changePassword, length_leBytes]

/-! The steps behind a layout only add to it. -/

theorem grows_changePassword : t.changePassword.Grows last where
  fixedData := by
    rw [t.fixedLast]
    exact List.prefix_append ..
  buffers := t.sameLast ▸ List.prefix_rfl

theorem grows_attachDbFile : t.attachDbFile.Grows last :=
  t.addsChangePassword.adds.grows.trans t.grows_changePassword

theorem grows_sspi : t.sspi.Grows last :=
  t.addsAttachDbFile.adds.grows.trans t.grows_attachDbFile

theorem grows_clientId : t.clientId.Grows last := t.addsSspi.grows.trans t.grows_sspi

theorem grows_database : t.database.Grows last := by
  refine Layout.Grows.trans ⟨?_, ?_⟩ t.grows_clientId
  · obtain ⟨bytes, -, hfixed⟩ := t.sixBytes
    rw [hfixed]
    exact List.prefix_append ..
  · exact t.sameBuffers ▸ List.prefix_rfl

theorem grows_language : t.language.Grows last :=
  t.addsDatabase.adds.grows.trans t.grows_database

theorem grows_libraryName : t.libraryName.Grows last :=
  t.addsLanguage.adds.grows.trans t.grows_language

theorem grows_extended : t.extended.Grows last :=
  t.addsLibraryName.adds.grows.trans t.grows_libraryName

theorem grows_serverName : t.serverName.Grows last :=
  t.addsExtensions.grows.trans t.grows_extended

theorem grows_appName : t.appName.Grows last :=
  t.addsServerName.adds.grows.trans t.grows_serverName

theorem grows_password : t.password.Grows last :=
  t.addsAppName.adds.grows.trans t.grows_appName

theorem grows_userName : t.userName.Grows last :=
  t.addsPassword.adds.grows.trans t.grows_password

theorem grows_hostname : t.hostname.Grows last :=
  t.addsUserName.adds.grows.trans t.grows_userName

/-! Up to the SSPI data the offset is in step with the fields. -/

theorem inStep_start : t.start.InStep := by
  rw [Layout.InStep, t.dataOffset, t.buffers]
  rfl

theorem inStep_hostname : t.hostname.InStep := t.addsHostname.inStep t.movesHostname t.inStep_start

theorem inStep_userName : t.userName.InStep := t.addsUserName.inStep t.inStep_hostname

theorem inStep_password : t.password.InStep := t.addsPassword.inStep t.inStep_userName

theorem inStep_appName : t.appName.InStep := t.addsAppName.inStep t.inStep_password

theorem inStep_serverName : t.serverName.InStep := t.addsServerName.inStep t.inStep_appName

theorem inStep_extended : t.extended.InStep := by
  refine t.addsExtensions.inStep ?_ t.inStep_serverName
  rw [t.movesExtensions, List.length_append, length_leBytes]

theorem inStep_libraryName : t.libraryName.InStep := t.addsLibraryName.inStep t.inStep_extended

theorem inStep_language : t.language.InStep := t.addsLanguage.inStep t.inStep_libraryName

theorem inStep_database : t.database.InStep := t.addsDatabase.inStep t.inStep_language

theorem inStep_clientId : t.clientId.InStep := by
  rw [Layout.InStep, t.sameOffset, t.sameBuffers]
  exact t.inStep_database

/-! Behind them it is so when they are empty. -/

theorem inStep_sspi (hbehind : payload.NothingBehindSspi) :
    t.sspi.InStep ∨ payload.attachDbFile.getD [] = [] := by
  rcases hbehind with hsspi | ⟨hattach, -⟩
  · refine .inl (t.addsSspi.inStep ?_ t.inStep_clientId)
    rw [t.staysSspi, hsspi]
    rfl
  · exact .inr hattach

theorem inStep_attachDbFile (hbehind : payload.NothingBehindSspi) :
    t.attachDbFile.InStep ∨ payload.changePassword.getD [] = [] := by
  rcases hbehind with hsspi | ⟨-, hchange⟩
  · refine .inl (t.addsAttachDbFile.inStep (t.addsSspi.inStep ?_ t.inStep_clientId))
    rw [t.staysSspi, hsspi]
    rfl
  · exact .inr hchange

/-! ### What a reader finds -/

variable {data : Bytes} (hmakes : last.Makes data)

include t hmakes

theorem hostname_entry :
    Span.ofEntry data 36 2 = {
      start := t.start.dataOffset
      length := 2 * if payload.hostname.getD [] = [] then t.start.dataOffset
        else (payload.hostname.getD []).length } := by
  have h := t.addsHostname.entry t.grows_hostname hmakes (by rw [t.length_start]; decide) 2
  rwa [t.length_start] at h

/-- The host name is read back when there is one; its length is never zero. -/
theorem hostname_holds_iff :
    (Span.ofEntry data 36 2).Holds data (content payload.hostname) ↔
      payload.hostname.getD [] ≠ [] := by
  constructor
  · intro hholds hnil
    have hlength := hholds.length
    rw [t.hostname_entry hmakes, if_pos hnil, content, hnil] at hlength
    have hzero : 2 * t.start.dataOffset = 0 := hlength
    rw [t.dataOffset] at hzero
    omega
  · intro hne
    have h := t.addsHostname
    rw [if_neg hne] at h
    have hunit : 2 * (payload.hostname.getD []).length = (content payload.hostname).length := by
      rw [content, length_ucs2Bytes]
    have hholds := h.holds t.grows_hostname hmakes (by rw [t.length_start]; decide)
      (.inl t.inStep_start) hunit
    rwa [t.length_start] at hholds

/-- The entry of the SSPI data, with the long length behind it. -/
theorem ofSspi_eq :
    Span.ofSspi data =
      { start := t.clientId.dataOffset, length := (payload.sspi.getD []).length } := by
  have hentry := t.addsSspi.entry t.grows_sspi hmakes (by rw [t.length_clientId]; decide) 1
  rw [t.length_clientId, Nat.one_mul] at hentry
  have hlast : last.fixedData <+: last.fixedData := List.prefix_rfl
  nth_rewrite 1 [t.fixedLast] at hlast
  have hlong := hmakes.fixed_take _ (by rw [t.length_changePassword]; decide) hlast
  rw [t.length_changePassword, length_leBytes] at hlong
  have hlength := congrArg Span.length hentry
  rw [Span.ofEntry, Nat.one_mul] at hlength
  rw [Span.ofSspi, hlong, leNat_leBytes (by have := t.sspi_lt; split <;> omega)]
  dsimp only at hlength ⊢
  rw [hlength]
  congr 1
  · exact congrArg Span.start hentry
  · split_ifs <;> omega

theorem sspi_holds : (Span.ofSspi data).Holds data (payload.sspi.getD []) := by
  rw [t.ofSspi_eq hmakes]
  exact ⟨rfl, t.addsSspi.take t.grows_sspi hmakes t.inStep_clientId⟩

/-- The password, once its bytes are unscrambled. -/
theorem password_holds :
    ∃ scrambled, (Span.ofEntry data 44 2).Holds data scrambled ∧
      scrambled.map unscrambleByte = content payload.password := by
  refine ⟨_, t.addsPassword.holds length_scramblePassword t.grows_password hmakes
    t.length_userName (by decide) (.inl t.inStep_userName), ?_⟩
  rw [scramblePassword, List.map_map]
  exact List.map_id'' unscrambleByte_scrambleByte _

theorem extensions_entry :
    Span.ofEntry data 56 1 = { start := t.serverName.dataOffset, length := 4 } := by
  have h := t.addsExtensions.entry t.grows_extended hmakes (by rw [t.length_serverName]; decide) 1
  rwa [t.length_serverName] at h

/-- The four bytes that the entry announces lead to the extensions right behind them. -/
theorem ofExtensions_eq (length : Nat) :
    Span.ofExtensions data length = { start := t.serverName.dataOffset + 4, length } := by
  have htake := t.addsExtensions.take t.grows_extended hmakes t.inStep_serverName
  have hfour := congrArg (List.take 4) htake
  rw [List.take_take, List.length_append, length_leBytes, Nat.min_eq_left (Nat.le_add_right ..),
    List.take_left' (length_leBytes ..)] at hfour
  have hlt := t.addsExtensions.offset_lt
  rw [Span.ofExtensions, t.extensions_entry hmakes, Span.bytes]
  dsimp only
  rw [hfour, leNat_leBytes (by omega)]

theorem extensions_holds :
    (Span.ofExtensions data t.extensions.length).Holds data t.extensions := by
  have htake := t.addsExtensions.take t.grows_extended hmakes t.inStep_serverName
  have hdrop := congrArg (List.drop 4) htake
  rw [List.drop_take, List.drop_drop, List.length_append, length_leBytes, Nat.add_sub_cancel_left,
    List.drop_left' (length_leBytes ..)] at hdrop
  rw [t.ofExtensions_eq hmakes]
  exact ⟨rfl, hdrop⟩

/-! ### Which fields overlap -/

/-- The spans, as the layouts have them. -/
theorem spans_eq (length : Nat) : spans data length = [
    { start := t.start.dataOffset
      length := 2 * if payload.hostname.getD [] = [] then t.start.dataOffset
        else (payload.hostname.getD []).length },
    { start := t.hostname.dataOffset, length := (content payload.userName).length },
    { start := t.userName.dataOffset
      length := (scramblePassword (content payload.password)).length },
    { start := t.password.dataOffset, length := (content payload.appName).length },
    { start := t.appName.dataOffset, length := (content payload.serverName).length },
    { start := t.serverName.dataOffset, length := 4 },
    { start := t.serverName.dataOffset + 4, length },
    { start := t.extended.dataOffset, length := (content payload.libraryName).length },
    { start := t.libraryName.dataOffset, length := (content payload.language).length },
    { start := t.language.dataOffset, length := (content payload.database).length },
    { start := t.clientId.dataOffset, length := (payload.sspi.getD []).length },
    { start := t.sspi.dataOffset, length := (content payload.attachDbFile).length },
    { start := t.attachDbFile.dataOffset, length := (content payload.changePassword).length }] := by
  have hid (bytes : Bytes) : (id bytes).length = bytes.length := rfl
  rw [spans, t.hostname_entry hmakes, t.extensions_entry hmakes, t.ofExtensions_eq hmakes,
    t.ofSspi_eq hmakes,
    t.addsUserName.entry hid t.grows_userName hmakes t.length_hostname (by decide),
    t.addsPassword.entry length_scramblePassword t.grows_password hmakes t.length_userName
      (by decide),
    t.addsAppName.entry hid t.grows_appName hmakes t.length_password (by decide),
    t.addsServerName.entry hid t.grows_serverName hmakes t.length_appName (by decide),
    t.addsLibraryName.entry hid t.grows_libraryName hmakes t.length_extended (by decide),
    t.addsLanguage.entry hid t.grows_language hmakes t.length_libraryName (by decide),
    t.addsDatabase.entry hid t.grows_database hmakes t.length_language (by decide),
    t.addsAttachDbFile.entry hid t.grows_attachDbFile hmakes t.length_sspi (by decide),
    t.addsChangePassword.entry hid t.grows_changePassword hmakes t.length_attachDbFile (by decide)]
  rfl

/-- Up to the SSPI data every field stands behind the ones before it. -/
theorem spans_take (hhostname : payload.hostname.getD [] ≠ []) :
    ((spans data t.extensions.length).take 11).IsChain Span.Before := by
  have hhost := t.movesHostname
  have huser := t.addsUserName.moved
  have hpassword := t.addsPassword.moved
  have happ := t.addsAppName.moved
  have hserver := t.addsServerName.moved
  have hextensions := t.movesExtensions
  have hlibrary := t.addsLibraryName.moved
  have hlanguage := t.addsLanguage.moved
  have hdatabase := t.addsDatabase.moved
  have hclient := t.sameOffset
  rw [content, length_ucs2Bytes] at hhost
  rw [id] at huser happ hserver hlibrary hlanguage hdatabase
  rw [t.spans_eq hmakes, if_neg hhostname]
  simp only [List.take_succ_cons, List.take_zero, List.isChain_cons_cons, List.IsChain.singleton,
    and_true, Span.Before]
  omega

/-- The two fields behind the SSPI data: they are empty, or the SSPI data are. -/
theorem spans_disjoint (hhostname : payload.hostname.getD [] ≠ [])
    (hbehind : payload.NothingBehindSspi) :
    (spans data t.extensions.length).Pairwise Span.Disjoint := by
  have hfront := t.spans_take hmakes hhostname
  have hstays := t.staysSspi
  have hattach := t.addsAttachDbFile.moved
  rw [id] at hattach
  rw [t.spans_eq hmakes] at hfront ⊢
  rcases hbehind with hsspi | ⟨hattachNil, hchangeNil⟩
  · have hempty : (payload.sspi.getD []).length = 0 := by rw [hsspi]; rfl
    refine Span.pairwise_disjoint ?_
    simp only [List.take_succ_cons, List.take_zero, List.isChain_cons_cons, List.IsChain.singleton,
      and_true, Span.Before] at hfront ⊢
    omega
  · have hattachLength : (content payload.attachDbFile).length = 0 := by
      rw [content, hattachNil]; rfl
    have hchangeLength : (content payload.changePassword).length = 0 := by
      rw [content, hchangeNil]; rfl
    rw [hattachLength, hchangeLength]
    refine List.pairwise_append.2 ⟨Span.pairwise_disjoint hfront, ?_, ?_⟩
    · exact List.pairwise_pair.2 (.inl rfl)
    · intro span _ span' hmem
      right; left
      rcases List.mem_pair.1 hmem with rfl | rfl <;> rfl

/-- Two fields at one offset overlap. -/
theorem nothingBehindSspi
    (hdisjoint : (spans data t.extensions.length).Pairwise Span.Disjoint) :
    payload.NothingBehindSspi := by
  have hlast := hdisjoint.drop (i := 10)
  rw [t.spans_eq hmakes] at hlast
  obtain ⟨hsspi, -⟩ := List.pairwise_cons.1 hlast
  have hstays := t.staysSspi
  have hmoved := t.addsAttachDbFile.moved
  have hattach := hsspi _ (.head _)
  have hchange := hsspi _ (.tail _ (.head _))
  rw [Span.Disjoint] at hattach hchange
  dsimp only at hattach hchange
  rw [id] at hmoved
  rw [content, length_ucs2Bytes] at hattach hchange hmoved
  rw [NothingBehindSspi, ← List.length_eq_zero_iff, ← List.length_eq_zero_iff,
    ← List.length_eq_zero_iff]
  omega

end Trace

/-- The length in front of a message is its own. -/
theorem toBuffer_makes {data : Bytes} (h : payload.toBuffer = .ok data) :
    ∃ last, Nonempty (payload.Trace last) ∧ last.Makes data ∧
      leNat (data.take 4) = data.length := by
  obtain ⟨last, hlast, h⟩ := Except.bind_ok h
  obtain ⟨length, hlength, h⟩ := Except.bind_ok h
  cases h
  obtain ⟨t⟩ := layout_trace hlast
  rw [writeUIntLE_ofNat_eq] at hlength
  split at hlength
  · next hlt =>
    cases hlength
    refine ⟨last, ⟨t⟩, ⟨t.length_last, List.drop_left' (length_leBytes ..)⟩, ?_⟩
    have hfixed := t.length_last
    rw [List.take_left' (length_leBytes ..), leNat_leBytes hlt]
    simp only [List.length_append, length_leBytes, List.length_drop, hfixed]
    omega
  · cases hlength

end Login7Payload

/-! ### Which messages are read back -/

open Login7Payload in
/-- A reader that follows the offsets gets every field back if there is a host name, and no field
behind SSPI data. Without a host name the length of that field is its offset; and the fields behind
the SSPI data are announced where these begin. -/
theorem login7_readsBack_iff {payload : Login7Payload} {data : Bytes}
    (h : payload.toBuffer = .ok data) :
    payload.ReadsBack data ↔ payload.hostname.getD [] ≠ [] ∧ payload.NothingBehindSspi := by
  obtain ⟨last, ⟨t⟩, hmakes, hlength⟩ := toBuffer_makes h
  constructor
  · intro hreads
    obtain ⟨extensions, hbuilt, -, -, hdisjoint⟩ := hreads.extensions
    cases t.built.symm.trans hbuilt
    exact ⟨(t.hostname_holds_iff hmakes).1 hreads.hostname, t.nothingBehindSspi hmakes hdisjoint⟩
  · rintro ⟨hhostname, hbehind⟩
    have hid (bytes : Bytes) : (id bytes).length = bytes.length := rfl
    exact {
      length := hlength
      hostname := (t.hostname_holds_iff hmakes).2 hhostname
      userName := t.addsUserName.holds hid t.grows_userName hmakes t.length_hostname (by decide)
        (.inl t.inStep_hostname)
      password := t.password_holds hmakes
      appName := t.addsAppName.holds hid t.grows_appName hmakes t.length_password (by decide)
        (.inl t.inStep_password)
      serverName := t.addsServerName.holds hid t.grows_serverName hmakes t.length_appName
        (by decide) (.inl t.inStep_appName)
      libraryName := t.addsLibraryName.holds hid t.grows_libraryName hmakes t.length_extended
        (by decide) (.inl t.inStep_extended)
      language := t.addsLanguage.holds hid t.grows_language hmakes t.length_libraryName
        (by decide) (.inl t.inStep_libraryName)
      database := t.addsDatabase.holds hid t.grows_database hmakes t.length_language
        (by decide) (.inl t.inStep_language)
      sspi := t.sspi_holds hmakes
      attachDbFile := t.addsAttachDbFile.holds hid t.grows_attachDbFile hmakes t.length_sspi
        (by decide) (t.inStep_sspi hbehind)
      changePassword := t.addsChangePassword.holds hid t.grows_changePassword hmakes
        t.length_attachDbFile (by decide) (t.inStep_attachDbFile hbehind)
      extensions := ⟨t.extensions, t.built, by rw [t.extensions_entry hmakes],
        t.extensions_holds hmakes, t.spans_disjoint hmakes hhostname hbehind⟩ }

/-- The default payload of a connection, with this host name and these fields behind it. -/
def samplePayload (hostname : Option JsString) (sspi : Option Bytes)
    (attachDbFile : Option JsString) : Login7Payload where
  tdsVersion := .finite version74
  packetSize := .ofNat 4096
  clientProgVer := .ofNat 0
  clientPid := .ofNat 12345
  connectionId := .ofNat 0
  clientTimeZone := .finite (-120)
  clientLcid := .ofNat 0x409
  readOnlyIntent := false
  initDbFatal := true
  userName := some [0x75]
  password := some [0x70]
  serverName := none
  appName := none
  hostname := hostname
  libraryName := none
  language := none
  database := none
  clientId := none
  sspi := sspi
  attachDbFile := attachDbFile
  changePassword := none
  fedAuth := none

set_option maxRecDepth 4000 in
theorem login7_sample : ∃ data, (samplePayload (some [0x68]) none none).toBuffer = .ok data ∧
    (samplePayload (some [0x68]) none none).ReadsBack data :=
  ⟨_, rfl, (login7_readsBack_iff rfl).2 ⟨by decide, .inl rfl⟩⟩

set_option maxRecDepth 4000 in
/-- Without a host name the field has the length 94: a message that is not read back. -/
theorem not_login7_readsBack : ¬ ∀ (payload : Login7Payload) (data : Bytes),
    payload.toBuffer = .ok data → payload.ReadsBack data := by
  intro h
  have hdata : ∃ data, (samplePayload none none none).toBuffer = .ok data := ⟨_, rfl⟩
  obtain ⟨data, hdata⟩ := hdata
  obtain ⟨last, ⟨t⟩, hmakes, -⟩ := Login7Payload.toBuffer_makes hdata
  exact (t.hostname_holds_iff hmakes).1 (h _ data hdata).hostname rfl

end Tedious
