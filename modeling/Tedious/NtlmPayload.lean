import Tedious.Login7Payload
import Tedious.WritableTrackingBuffer

/-!
# Tedious.NtlmPayload

The answer to an NTLM challenge (`ntlm-payload.ts`): descriptors with the length and the offset of
each field, the fields, a proof, and behind the proof what it was computed over. The latter is built
twice: once for the digest, with fixed offsets, and once field by field in the message.

They are the same bytes (`createResponse_signs`), but the time stamp among them is not the time
(`timestamp_iff`).
-/

namespace Tedious

open Chunked Appending WritableTrackingBuffer

/-- What a descriptor says: a length, and an offset. -/
def Span.ofDescriptor (data : Bytes) (position : Nat) : Span where
  start := leNat ((data.drop (position + 4)).take 4)
  length := leNat ((data.drop position).take 2)

/-! ### The payload -/

/-- Eight bytes of a server or a client. -/
abbrev Nonce : Type := { bytes : Bytes // bytes.length = 8 }

/-- MD4, HMAC-MD5, whose digests have 16 bytes, and `toUpperCase`. -/
structure NtlmRuntime where
  md4 : Bytes → Bytes
  hmacMD5 : (data key : Bytes) → { digest : Bytes // digest.length = 16 }
  toUpperCase : JsString → JsString

/-- The data of the login, and the challenge of the server (`ntlmpacket`). -/
structure NtlmOptions where
  domain : JsString
  userName : JsString
  password : JsString
  target : Bytes
  nonce : Nonce

namespace NTLMResponsePayload

/-- `BigInt(time)` is split into two words, each of them masked. -/
def createTimestamp (time : Int) : Bytes :=
  let tenthsOfAMicrosecond := (time + 11644473600) * 10000000
  let lo := (tenthsOfAMicrosecond % 0x100000000).toNat
  let hi := (tenthsOfAMicrosecond / 0x100000000 % 0x100000000).toNat
  leBytes 4 lo ++ leBytes 4 hi

/-- `source.copy(target, targetStart, 0, sourceEnd)`. -/
def copy (target : Bytes) (targetStart : Nat) (source : Bytes) (sourceEnd : Nat) : Bytes :=
  overwrite target targetStart (source.take sourceEnd)

variable (js : NtlmRuntime)

def ntHash (text : JsString) : Bytes := js.md4 (ucs2Bytes text)

def ntv2Hash (domain user password : JsString) : Bytes :=
  let hash := ntHash js password
  let identity := ucs2Bytes (js.toUpperCase user ++ js.toUpperCase domain)
  js.hmacMD5 identity hash

def lmv2Response (domain user password : JsString) (serverNonce clientNonce : Nonce) : Bytes :=
  let hash := ntv2Hash js domain user password
  let data := List.replicate (serverNonce.1.length + clientNonce.1.length) 0
  let data := overwrite data 0 serverNonce
  let data := copy data serverNonce.1.length clientNonce clientNonce.1.length
  let newhash := (js.hmacMD5 data hash).1
  let response := List.replicate (newhash.length + clientNonce.1.length) 0
  let response := overwrite response 0 newhash
  copy response newhash.length clientNonce clientNonce.1.length

/-- What the proof is computed over. -/
def ntlmv2Data (serverNonce : Nonce) (targetInfo : Bytes) (clientNonce : Nonce) (mytime : Int) :
    Bytes :=
  let timestamp := createTimestamp mytime
  let dataLength := 40 + targetInfo.length
  let data := List.replicate dataLength 0
  let data := copy data 0 serverNonce 8
  let data := overwrite data 8 (leBytes 4 0x101)
  let data := overwrite data 12 (leBytes 4 0x0)
  let data := copy data 16 timestamp 8
  let data := copy data 24 clientNonce 8
  let data := overwrite data 32 (leBytes 4 0x0)
  let data := copy data 36 targetInfo targetInfo.length
  overwrite data (36 + targetInfo.length) (leBytes 4 0x0)

def ntlmv2Response (domain user password : JsString) (serverNonce : Nonce) (targetInfo : Bytes)
    (clientNonce : Nonce) (mytime : Int) : Bytes :=
  let hash := ntv2Hash js domain user password
  js.hmacMD5 (ntlmv2Data serverNonce targetInfo clientNonce mytime) hash

/-- A length, the same length again, and an offset. -/
def writeDescriptor (length offset : Nat) (data : WritableTrackingBuffer) :
    Except JsError WritableTrackingBuffer := do
  let data ← data.writeUInt16LE (.ofNat length)
  let data ← data.writeUInt16LE (.ofNat length)
  data.writeUInt32LE (.ofNat offset)

def signature : JsString := JsString.ofString "NTLMSSP\u0000"

/-- The fixed part of the response. -/
def writeHeader (challenge : NtlmOptions) (data : WritableTrackingBuffer) :
    Except JsError WritableTrackingBuffer := do
  let lmv2len := 24
  let ntlmv2len := 16
  let domain := challenge.domain
  let username := challenge.userName
  let data := data.writeString (some .utf8) signature
  let data ← data.writeUInt32LE (.ofNat 0x03)
  let baseIdx := 64
  let dnIdx := baseIdx
  let unIdx := dnIdx + domain.length * 2
  let l2Idx := unIdx + username.length * 2
  let ntIdx := l2Idx + lmv2len
  let data ← writeDescriptor lmv2len l2Idx data
  let data ← writeDescriptor ntlmv2len ntIdx data
  let data ← writeDescriptor (domain.length * 2) dnIdx data
  let data ← writeDescriptor (username.length * 2) unIdx data
  let data ← writeDescriptor 0 baseIdx data
  let data ← writeDescriptor 0 baseIdx data
  let data ← data.writeUInt16LE (.ofNat 0x8201)
  data.writeUInt16LE (.ofNat 0x08)

/-- The fields behind it. The client nonce and the time are those that `createResponse` draws and
looks up. -/
def writeFields (challenge : NtlmOptions) (clientNonce : Nonce) (genTime : Int)
    (data : WritableTrackingBuffer) : Except JsError WritableTrackingBuffer := do
  let domain := challenge.domain
  let username := challenge.userName
  let password := challenge.password
  let serverData := challenge.target
  let serverNonce := challenge.nonce
  let data := data.writeString (some .ucs2) domain
  let data := data.writeString (some .ucs2) username
  let data := data.copyFrom (lmv2Response js domain username password serverNonce clientNonce)
  let data := data.copyFrom
    (ntlmv2Response js domain username password serverNonce serverData clientNonce genTime)
  let data ← data.writeUInt32LE (.ofNat 0x0101)
  let data ← data.writeUInt32LE (.ofNat 0x0000)
  let data := data.copyFrom (createTimestamp genTime)
  let data := data.copyFrom clientNonce
  let data ← data.writeUInt32LE (.ofNat 0x0000)
  let data := data.copyFrom serverData
  data.writeUInt32LE (.ofNat 0x0000)

def createResponse (challenge : NtlmOptions) (clientNonce : Nonce) (genTime : Int) :
    Except JsError Bytes := do
  let bufferLength := 64 + challenge.domain.length * 2 + challenge.userName.length * 2 + 24 + 16 +
    8 + 8 + 8 + 4 + challenge.target.length + 4
  let data := WritableTrackingBuffer.new bufferLength none false
  let data ← writeHeader challenge data
  let data ← writeFields js challenge clientNonce genTime data
  return data.data.2

/-! ### Filling a buffer -/

@[simp] theorem length_createTimestamp (time : Int) : (createTimestamp time).length = 8 := rfl

/-- Behind the nonce of the server: what is signed besides. -/
def signedFields (targetInfo : Bytes) (clientNonce : Nonce) (time : Int) : Bytes :=
  leBytes 4 0x101 ++ (leBytes 4 0 ++ (createTimestamp time ++ (clientNonce.1 ++ (leBytes 4 0 ++
    (targetInfo ++ leBytes 4 0)))))

theorem ntlmv2Data_eq (serverNonce : Nonce) (targetInfo : Bytes) (clientNonce : Nonce)
    (time : Int) :
    ntlmv2Data serverNonce targetInfo clientNonce time =
      serverNonce.1 ++ signedFields targetInfo clientNonce time := by
  obtain ⟨serverNonce, hserver⟩ := serverNonce
  obtain ⟨clientNonce, hclient⟩ := clientNonce
  have hzeros : List.replicate (40 + targetInfo.length) (0 : UInt8) =
      [] ++ List.replicate (8 + (4 + (4 + (8 + (8 + (4 + (targetInfo.length + (4 + 0)))))))) 0 := by
    rw [List.nil_append]
    congr 1
    omega
  rw [ntlmv2Data, hzeros]
  simp only [copy, List.take_of_length_le hserver.le, List.take_of_length_le hclient.le,
    List.take_of_length_le (length_createTimestamp time).le, List.take_length]
  rw [overwrite_zeros List.length_nil hserver,
    overwrite_zeros (by simp [hserver]) (length_leBytes ..),
    overwrite_zeros (by simp [hserver]) (length_leBytes ..),
    overwrite_zeros (by simp [hserver]) (length_createTimestamp time),
    overwrite_zeros (by simp [hserver]) hclient,
    overwrite_zeros (by simp [hserver, hclient]) (length_leBytes ..),
    overwrite_zeros (by simp [hserver, hclient]) rfl,
    overwrite_zeros (by simp [hserver, hclient]; omega) (length_leBytes ..)]
  simp only [signedFields, List.nil_append, List.append_assoc, List.replicate_zero, List.append_nil]

theorem length_lmv2Response (domain user password : JsString) (serverNonce clientNonce : Nonce) :
    (lmv2Response js domain user password serverNonce clientNonce).length = 24 := by
  obtain ⟨clientNonce, hclient⟩ := clientNonce
  rw [lmv2Response]
  generalize js.hmacMD5 _ _ = newhash
  obtain ⟨newhash, hhash⟩ := newhash
  have hzeros : List.replicate (newhash.length + clientNonce.length) (0 : UInt8) =
      [] ++ List.replicate (newhash.length + (clientNonce.length + 0)) 0 := rfl
  simp only [copy, List.take_length]
  rw [hzeros, overwrite_zeros List.length_nil rfl, overwrite_zeros (by simp) rfl]
  simp [hhash, hclient]

theorem length_ntlmv2Response (domain user password : JsString) (serverNonce : Nonce)
    (targetInfo : Bytes) (clientNonce : Nonce) (time : Int) :
    (ntlmv2Response js domain user password serverNonce targetInfo clientNonce time).length = 16 :=
  (js.hmacMD5 _ _).2

/-! ### The message -/

def descriptor (length offset : Nat) : Bytes :=
  leBytes 2 length ++ (leBytes 2 length ++ leBytes 4 offset)

theorem writeDescriptor_appends (length offset : Nat) (hlength : length < 65536)
    (hoffset : offset < 4294967296) :
    (view .ucs2).Appends (writeDescriptor length offset) (descriptor length offset) :=
  (writeUInt16LE_ofNat_appends hlength).bind ((writeUInt16LE_ofNat_appends hlength).bind
    (writeUInt32LE_ofNat_appends hoffset))

/-- A length that does not fit is not written. -/
theorem writeDescriptor_throws {length : Nat} (hlength : 65536 ≤ length) (offset : Nat) :
    (view .ucs2).Throws (writeDescriptor length offset) .rangeError :=
  (writeUInt16LE_ofNat_throws hlength).bind

theorem writeDescriptor_settles (length offset : Nat) :
    (view .ucs2).Appends (writeDescriptor length offset) (descriptor length offset) ∨
      (view .ucs2).Throws (writeDescriptor length offset) .rangeError := by
  rcases Nat.lt_or_ge length 65536 with hlength | hlength
  · rcases Nat.lt_or_ge offset 4294967296 with hoffset | hoffset
    · exact .inl (writeDescriptor_appends length offset hlength hoffset)
    · exact .inr ((writeUInt16LE_ofNat_appends hlength).throws
        ((writeUInt16LE_ofNat_appends hlength).throws (writeUInt32LE_ofNat_throws hoffset)))
  · exact .inr (writeDescriptor_throws hlength offset)

section Message

variable (challenge : NtlmOptions) (clientNonce : Nonce) (genTime : Int)

/-- The LM response of a message. -/
def lmResponse : Bytes :=
  lmv2Response js challenge.domain challenge.userName challenge.password challenge.nonce clientNonce

/-- The NT proof of a message. -/
def ntProof : Bytes :=
  ntlmv2Response js challenge.domain challenge.userName challenge.password challenge.nonce
    challenge.target clientNonce genTime

/-- The part of a message in front of the fields. -/
def header : Bytes :=
  let domainLength := challenge.domain.length * 2
  let userLength := challenge.userName.length * 2
  utf8Bytes signature ++ (leBytes 4 0x03 ++
    (descriptor 24 (64 + domainLength + userLength) ++
    (descriptor 16 (64 + domainLength + userLength + 24) ++
    (descriptor domainLength 64 ++ (descriptor userLength (64 + domainLength) ++
    (descriptor 0 64 ++ (descriptor 0 64 ++ (leBytes 2 0x8201 ++ leBytes 2 0x08))))))))

/-- The fields, and behind them what the proof signs. -/
def fields : Bytes :=
  ucs2Bytes challenge.domain ++ (ucs2Bytes challenge.userName ++
    (lmResponse js challenge clientNonce ++ (ntProof js challenge clientNonce genTime ++
    signedFields challenge.target clientNonce genTime)))

theorem length_header : (header challenge).length = 64 := rfl

variable {challenge}

theorem writeHeader_appends (hdomain : challenge.domain.length < 32768)
    (huser : challenge.userName.length < 32768) :
    (view .ucs2).Appends (writeHeader challenge) (header challenge) := by
  have hsignature : (view .ucs2).Appends
      (fun data => (.ok (data.writeString (some .utf8) signature) : Except JsError _))
      (utf8Bytes signature) := writeString_appends (some .utf8) signature
  exact hsignature.comp <|
    (writeUInt32LE_ofNat_appends (n := 0x03) (by decide)).bind <|
    (writeDescriptor_appends _ _ (by decide) (by omega)).bind <|
    (writeDescriptor_appends _ _ (by decide) (by omega)).bind <|
    (writeDescriptor_appends _ _ (by omega) (by decide)).bind <|
    (writeDescriptor_appends _ _ (by omega) (by omega)).bind <|
    (writeDescriptor_appends _ _ (by decide) (by decide)).bind <|
    (writeDescriptor_appends _ _ (by decide) (by decide)).bind <|
    (writeUInt16LE_ofNat_appends (n := 0x8201) (by decide)).bind <|
    writeUInt16LE_ofNat_appends (n := 0x08) (by decide)

theorem writeHeader_throws
    (h : ¬ (challenge.domain.length < 32768 ∧ challenge.userName.length < 32768)) :
    (view .ucs2).Throws (writeHeader challenge) .rangeError := by
  have hsignature : (view .ucs2).Appends
      (fun data => (.ok (data.writeString (some .utf8) signature) : Except JsError _)) _ :=
    writeString_appends (some .utf8) signature
  refine hsignature.throws_comp <| (writeUInt32LE_ofNat_appends (n := 0x03) (by decide)).throws <|
    .after (writeDescriptor_settles _ _) <| .after (writeDescriptor_settles _ _) ?_
  rcases Nat.lt_or_ge challenge.domain.length 32768 with hdomain | hdomain
  · have huser : 32768 ≤ challenge.userName.length := by omega
    exact .after (writeDescriptor_settles _ _) (writeDescriptor_throws (by omega) _).bind
  · exact (writeDescriptor_throws (by omega) _).bind

theorem writeFields_appends :
    (view .ucs2).Appends (writeFields js challenge clientNonce genTime)
      (fields js challenge clientNonce genTime) :=
  (writeString_appends (some .ucs2) challenge.domain).comp <|
    (writeString_appends (some .ucs2) challenge.userName).comp <|
    (append_appends (lmResponse js challenge clientNonce)).comp <|
    (append_appends (ntProof js challenge clientNonce genTime)).comp <|
    (writeUInt32LE_ofNat_appends (n := 0x0101) (by decide)).bind <|
    (writeUInt32LE_ofNat_appends (n := 0) (by decide)).bind <|
    (append_appends (createTimestamp genTime)).comp <| (append_appends clientNonce.1).comp <|
    (writeUInt32LE_ofNat_appends (n := 0) (by decide)).bind <|
    (append_appends challenge.target).comp <| writeUInt32LE_ofNat_appends (n := 0) (by decide)

variable (challenge)

/-- **What is sent**, if it is sent at all. -/
theorem createResponse_eq :
    createResponse js challenge clientNonce genTime =
      if challenge.domain.length < 32768 ∧ challenge.userName.length < 32768 then
        .ok (header challenge ++ fields js challenge clientNonce genTime)
      else .error .rangeError := by
  rw [createResponse]
  generalize 64 + challenge.domain.length * 2 + challenge.userName.length * 2 + 24 + 16 + 8 + 8 +
    8 + 4 + challenge.target.length + 4 = bufferLength
  have hvalid := valid_new bufferLength none false
  split
  · next h =>
    obtain ⟨data, hdata, -, hcontents⟩ := ((writeHeader_appends h.1 h.2).bind
      (writeFields_appends js clientNonce genTime)) _ hvalid
    obtain ⟨data₁, hheader, hfields⟩ := Except.bind_ok hdata
    rw [hheader]
    show (writeFields js challenge clientNonce genTime data₁ >>= fun data => .ok data.data.2) = _
    rw [hfields]
    exact congrArg Except.ok hcontents
  · next h =>
    rw [writeHeader_throws h _ hvalid]
    rfl

/-! ### What is signed -/

/-- What stands behind the proof in a message. -/
def behindProof (data : Bytes) : Bytes :=
  let proof := Span.ofDescriptor data 20
  data.drop (proof.start + proof.length)

/-- A message in which every descriptor delimits its field, and whose proof is the digest of the
nonce of the server and everything behind the proof. -/
structure Signs (data : Bytes) : Prop where
  lmResponse : (Span.ofDescriptor data 12).Holds data (lmv2Response js challenge.domain
    challenge.userName challenge.password challenge.nonce clientNonce)
  ntProof : (Span.ofDescriptor data 20).Holds data (ntlmv2Response js challenge.domain
    challenge.userName challenge.password challenge.nonce challenge.target clientNonce genTime)
  domain : (Span.ofDescriptor data 28).Holds data (ucs2Bytes challenge.domain)
  userName : (Span.ofDescriptor data 36).Holds data (ucs2Bytes challenge.userName)
  signed : ntlmv2Data challenge.nonce challenge.target clientNonce genTime =
    challenge.nonce.1 ++ behindProof data
  proof : (Span.ofDescriptor data 20).Holds data (js.hmacMD5 (challenge.nonce.1 ++ behindProof data)
    (ntv2Hash js challenge.domain challenge.userName challenge.password)).1

end Message

theorem ofDescriptor_eq {data rest : Bytes} {position length offset : Nat}
    (h : data.drop position = descriptor length offset ++ rest) (hlength : length < 65536)
    (hoffset : offset < 4294967296) : Span.ofDescriptor data position = ⟨offset, length⟩ := by
  have hstart : leNat (((descriptor length offset ++ rest).drop 4).take 4) = offset :=
    leNat_leBytes (k := 4) hoffset
  have hlen : leNat ((descriptor length offset ++ rest).take 2) = length :=
    leNat_leBytes (k := 2) hlength
  rw [Span.ofDescriptor, ← List.drop_drop, h, hstart, hlen]

/-- A span that begins behind some bytes and is as long as what stands there. -/
theorem holds_of_prefix (front : Bytes) {data content : Bytes} {start length : Nat}
    (hdata : front ++ content <+: data) (hstart : front.length = start)
    (hlength : content.length = length) : (⟨start, length⟩ : Span).Holds data content := by
  obtain ⟨rest, rfl⟩ := hdata
  subst hstart hlength
  refine ⟨rfl, ?_⟩
  rw [Span.bytes, List.append_assoc, List.drop_left, List.take_left]

theorem header_descriptors {challenge : NtlmOptions} (hdomain : challenge.domain.length < 32768)
    (huser : challenge.userName.length < 32768) (rest : Bytes) :
    let data := header challenge ++ rest
    let domainLength := challenge.domain.length * 2
    let userLength := challenge.userName.length * 2
    Span.ofDescriptor data 12 = ⟨64 + domainLength + userLength, 24⟩ ∧
      Span.ofDescriptor data 20 = ⟨64 + domainLength + userLength + 24, 16⟩ ∧
      Span.ofDescriptor data 28 = ⟨64, domainLength⟩ ∧
      Span.ofDescriptor data 36 = ⟨64 + domainLength, userLength⟩ :=
  ⟨ofDescriptor_eq rfl (by decide) (by omega), ofDescriptor_eq rfl (by decide) (by omega),
    ofDescriptor_eq rfl (by omega) (by decide), ofDescriptor_eq rfl (by omega) (by omega)⟩

/-- **What is signed is what is sent.** Either a length does not fit and the constructor throws, or
the descriptors delimit their fields, and the proof was computed over the nonce of the server
and what follows the proof. -/
theorem createResponse_signs (challenge : NtlmOptions) (clientNonce : Nonce) (genTime : Int) :
    createResponse js challenge clientNonce genTime = .error .rangeError ∨
      ∃ data, createResponse js challenge clientNonce genTime = .ok data ∧
        Signs js challenge clientNonce genTime data := by
  rw [createResponse_eq]
  split
  swap
  · exact .inl rfl
  next h =>
  refine .inr ⟨header challenge ++ fields js challenge clientNonce genTime, rfl, ?_⟩
  obtain ⟨hlm, hproof, hdomain, huser⟩ :=
    header_descriptors h.1 h.2 (fields js challenge clientNonce genTime)
  have hdomainLength := length_ucs2Bytes challenge.domain
  have huserLength := length_ucs2Bytes challenge.userName
  have hlmLength : (lmResponse js challenge clientNonce).length = 24 := length_lmv2Response ..
  have hproofLength : (ntProof js challenge clientNonce genTime).length = 16 :=
    length_ntlmv2Response ..
  have hfront := length_header challenge
  -- Every field stands behind those before it.
  let front := header challenge ++ (ucs2Bytes challenge.domain ++ (ucs2Bytes challenge.userName ++
    lmResponse js challenge clientNonce))
  have hfrontLength : front.length =
      64 + challenge.domain.length * 2 + challenge.userName.length * 2 + 24 := by
    simp only [front, List.length_append]
    omega
  have hdata : header challenge ++ fields js challenge clientNonce genTime =
      front ++ (ntProof js challenge clientNonce genTime ++
        signedFields challenge.target clientNonce genTime) := by
    simp only [front, fields, List.append_assoc]
  have hbehind : challenge.nonce.1 ++
      behindProof (header challenge ++ fields js challenge clientNonce genTime) =
        ntlmv2Data challenge.nonce challenge.target clientNonce genTime := by
    rw [behindProof, hproof, ntlmv2Data_eq, hdata, ← List.append_assoc]
    refine congrArg _ (List.drop_left' ?_)
    rw [List.length_append, hfrontLength, hproofLength]
  have hholds : (⟨64 + challenge.domain.length * 2 + challenge.userName.length * 2 + 24, 16⟩ :
      Span).Holds (header challenge ++ fields js challenge clientNonce genTime)
        (ntProof js challenge clientNonce genTime) := by
    rw [hdata, ← List.append_assoc]
    exact holds_of_prefix _ (List.prefix_append ..) hfrontLength hproofLength
  constructor
  · rw [hlm]
    refine holds_of_prefix (header challenge ++ (ucs2Bytes challenge.domain ++
      ucs2Bytes challenge.userName)) ?_ ?_ hlmLength
    · rw [hdata]
      exact ⟨_, by simp only [front, List.append_assoc]; rfl⟩
    · simp only [List.length_append]
      omega
  · rw [hproof]
    exact hholds
  · rw [hdomain]
    refine holds_of_prefix (header challenge) ?_ hfront (by omega)
    exact (List.prefix_append_right_inj _).2 (List.prefix_append ..)
  · rw [huser]
    refine holds_of_prefix (header challenge ++ ucs2Bytes challenge.domain) ?_ ?_ (by omega)
    · rw [hdata]
      exact ⟨_, by simp only [front, List.append_assoc]; rfl⟩
    · rw [List.length_append]
      omega
  · exact hbehind.symm
  · rw [hproof, hbehind]
    exact hholds

/-- Digests of zeros. -/
def zeroDigests : NtlmRuntime where
  md4 _ := List.replicate 16 0
  hmacMD5 _ _ := ⟨List.replicate 16 0, rfl⟩
  toUpperCase s := s

/-- A challenge of the tests. -/
def sampleChallenge : NtlmOptions where
  domain := JsString.ofString "domain"
  userName := JsString.ofString "username"
  password := JsString.ofString "password"
  target := [0xAA, 0xAA, 0xAA, 0xAA]
  nonce := ⟨List.replicate 8 0xBB, rfl⟩

theorem createResponse_signs_sample :
    ∃ data, createResponse zeroDigests sampleChallenge ⟨List.replicate 8 1, rfl⟩ 0 = .ok data ∧
      Signs zeroDigests sampleChallenge ⟨List.replicate 8 1, rfl⟩ 0 data := by
  have hsent := createResponse_eq zeroDigests sampleChallenge ⟨List.replicate 8 1, rfl⟩ 0
  rw [if_pos (by decide)] at hsent
  obtain herror | hsigns :=
    createResponse_signs zeroDigests sampleChallenge ⟨List.replicate 8 1, rfl⟩ 0
  · rw [hsent] at herror
    cases herror
  · exact hsigns

/-! ### The time stamp -/

/-- A time value as a Windows file time: the tenths of a microsecond since 1601. -/
def fileTime (t : Int) : Int := (t + 11644473600000) * 10000

/-- The eight bytes that `createTimestamp` makes. -/
theorem createTimestamp_eq (time : Int) :
    createTimestamp time = leIntBytes 8 ((time + 11644473600) * 10000000) := by
  rw [leIntBytes_words, leIntBytes]
  rfl

/-- Numbers with the same eight bytes. -/
theorem mod_eq_of_leIntBytes_eq {n m : Int} (h : leIntBytes 8 n = leIntBytes 8 m) :
    n % 18446744073709551616 = m % 18446744073709551616 := by
  have hnat : ∀ i : Int, (leNat (leIntBytes 8 i) : Int) = i % 18446744073709551616 := by
    intro i
    have hlt : (i % 18446744073709551616).toNat < 256 ^ 8 := by norm_num; omega
    rw [leIntBytes, show (256 : Int) ^ 8 = 18446744073709551616 by norm_num, leNat_leBytes hlt]
    omega
  rw [← hnat, ← hnat, h]

/-- Some bytes that are the file time of an instant, which up to the year 30000 has room in them. -/
structure IsFileTime (t : Int) (timestamp : Bytes) : Prop where
  bytes : timestamp = leIntBytes 8 (fileTime t)
  unwrapped : t < dayFromYear 30000 * msPerDay → (leNat timestamp : Int) = fileTime t

/-- The time stamp in a message. -/
def sentTimestamp (data : Bytes) : Bytes :=
  let proof := Span.ofDescriptor data 20
  (data.drop (proof.start + proof.length + 8)).take 8

/-- The time stamp in what the proof is computed over. -/
def signedTimestamp (data : Bytes) : Bytes := (data.drop 16).take 8

theorem signedTimestamp_eq (serverNonce : Nonce) (targetInfo : Bytes) (clientNonce : Nonce)
    (time : Int) :
    signedTimestamp (ntlmv2Data serverNonce targetInfo clientNonce time) =
      createTimestamp time := by
  rw [ntlmv2Data_eq, signedTimestamp, ← List.drop_drop (i := 8), List.drop_left' serverNonce.2]
  exact List.take_left' (length_createTimestamp time)

/-- `2 ^ 64` divides the difference only when `2 ^ 60` divides the time. -/
theorem eq_zero_of_dvd {t : Nat} (h : 18446744073709551616 ∣ 9990000 * t)
    (hlt : t < 1152921504606846976) : t = 0 := by
  have hdvd : 16 * 1152921504606846976 ∣ 16 * (624375 * t) := by
    rwa [← Nat.mul_assoc]
  have hcoprime : Nat.Coprime 1152921504606846976 624375 := by decide
  have hdvd' := hcoprime.dvd_of_dvd_mul_left (Nat.dvd_of_mul_dvd_mul_left (by decide) hdvd)
  exact Nat.eq_zero_of_dvd_of_lt hdvd' hlt

/-- The time stamp is right at one instant only. -/
theorem isFileTime_createTimestamp_iff {t : Int} (hlow : 0 ≤ t) (hhigh : t ≤ 8640000000000000) :
    IsFileTime t (createTimestamp t) ↔ t = 0 := by
  constructor
  · intro h
    have hmod := mod_eq_of_leIntBytes_eq ((createTimestamp_eq t).symm.trans h.bytes)
    have hdiff := Int.emod_eq_emod_iff_emod_sub_eq_zero.1 hmod
    have hfactor : (t + 11644473600) * 10000000 - fileTime t = 9990000 * t := by
      rw [fileTime]
      ring
    rw [hfactor] at hdiff
    have hlt : t < 1152921504606846976 := hhigh.trans_lt (by decide)
    lift t to ℕ using hlow
    have hdvd : 18446744073709551616 ∣ 9990000 * t := by
      exact_mod_cast Int.dvd_of_emod_eq_zero hdiff
    rw [eq_zero_of_dvd hdvd (by exact_mod_cast hlt), Nat.cast_zero]
  · rintro rfl
    refine ⟨createTimestamp_eq 0, fun _ => ?_⟩
    decide

theorem sentTimestamp_eq {challenge : NtlmOptions} {clientNonce : Nonce} {genTime : Int}
    {data : Bytes} (h : Signs js challenge clientNonce genTime data) :
    sentTimestamp data = createTimestamp genTime := by
  have hsigned := h.signed
  rw [ntlmv2Data_eq] at hsigned
  have hdrop := List.append_cancel_left hsigned
  rw [behindProof] at hdrop
  rw [sentTimestamp, ← List.drop_drop, ← hdrop]
  exact List.take_left' (length_createTimestamp genTime)

/-- **The time stamp is not the time.** `createTimestamp` expects seconds and is given
milliseconds: in the message and in what is signed it is right at the beginning of 1970 only. -/
theorem timestamp_iff {challenge : NtlmOptions} {clientNonce : Nonce} {t : Int} {data : Bytes}
    (hsent : createResponse js challenge clientNonce t = .ok data) (hlow : 0 ≤ t)
    (hhigh : t ≤ 8640000000000000) :
    IsFileTime t (sentTimestamp data) ∧
        IsFileTime t (signedTimestamp
          (ntlmv2Data challenge.nonce challenge.target clientNonce t)) ↔
      t = 0 := by
  obtain herror | ⟨data', hdata', hsigns⟩ := createResponse_signs js challenge clientNonce t
  · rw [hsent] at herror
    cases herror
  · rw [hsent] at hdata'
    cases hdata'
    rw [sentTimestamp_eq js hsigns, signedTimestamp_eq, and_self]
    exact isFileTime_createTimestamp_iff hlow hhigh

/-- In November 2023. -/
theorem timestamp_iff_2023 :
    ∃ data, createResponse zeroDigests sampleChallenge ⟨List.replicate 8 1, rfl⟩ 1700000000000 =
        .ok data ∧
      (IsFileTime 1700000000000 (sentTimestamp data) ∧
          IsFileTime 1700000000000 (signedTimestamp (ntlmv2Data sampleChallenge.nonce
            sampleChallenge.target ⟨List.replicate 8 1, rfl⟩ 1700000000000)) ↔
        (1700000000000 : Int) = 0) := by
  have hsent := createResponse_eq zeroDigests sampleChallenge
    ⟨List.replicate 8 1, rfl⟩ 1700000000000
  rw [if_pos (by decide)] at hsent
  exact ⟨_, hsent, timestamp_iff zeroDigests hsent (by decide) (by decide)⟩

/-- In November 2023, the time stamp is the one of an instant in the year 55840. -/
theorem not_timestamp :
    ¬ ∀ (js : NtlmRuntime) (challenge : NtlmOptions) (clientNonce : Nonce) (t : Int) (data : Bytes),
      0 ≤ t → t ≤ 8640000000000000 → createResponse js challenge clientNonce t = .ok data →
      IsFileTime t (sentTimestamp data) ∧
        IsFileTime t (signedTimestamp
          (ntlmv2Data challenge.nonce challenge.target clientNonce t)) := by
  intro h
  have hsent := createResponse_eq zeroDigests sampleChallenge
    ⟨List.replicate 8 1, rfl⟩ 1700000000000
  rw [if_pos (by decide)] at hsent
  have hsigned := (h _ _ _ _ _ (by decide) (by decide) hsent).2
  rw [signedTimestamp_eq] at hsigned
  have hzero := (isFileTime_createTimestamp_iff (by decide) (by decide)).1 hsigned
  cases hzero

end NTLMResponsePayload

end Tedious
