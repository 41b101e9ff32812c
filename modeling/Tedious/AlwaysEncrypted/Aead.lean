import Tedious.Encode

/-!
# Tedious.AlwaysEncrypted.Aead

The encryption of column values (`always-encrypted/aead-aes-256-cbc-hmac-*.ts`): a version byte,
an authentication tag, an initialization vector and the encrypted value.

The tag is compared up to the length of the encrypted value, so that values of less than two blocks
are not authenticated by the whole of it (`decryptData_iff`).
-/

namespace Tedious.AlwaysEncrypted

open Tedious Chunked

/-! ### Cryptography -/

/-- The functions of `crypto`, on whole messages. -/
structure Crypto where
  /-- `createHmac('sha256', key)`. -/
  hmac : Bytes → Bytes → Bytes
  /-- `createCipheriv('aes-256-cbc', key, iv)`, with `update` and `final`. -/
  encrypt : Bytes → Bytes → Bytes → Bytes
  /-- `createDecipheriv('aes-256-cbc', key, iv)`, with `update` and `final`. -/
  decrypt : Bytes → Bytes → Bytes → Except String Bytes

/-- What is expected of them: a digest has 32 bytes, a padded message has a block or more, and
what is encrypted is decrypted again. -/
structure Crypto.Lawful (crypto : Crypto) : Prop where
  length_hmac : ∀ key message, (crypto.hmac key message).length = 32
  length_encrypt : ∀ key iv plainText, 16 ≤ (crypto.encrypt key iv plainText).length
  decrypt_encrypt : ∀ key iv plainText, key.length = 32 → iv.length = 16 →
    crypto.decrypt key iv (crypto.encrypt key iv plainText) = .ok plainText

/-! ### Keys -/

def keySize : Nat := 256

def keySizeInBytes : Nat := keySize / 8

def deriveKey (crypto : Crypto) (rootKey : Bytes) (salt : String) : Bytes :=
  crypto.hmac rootKey (ucs2Bytes (JsString.ofString salt))

def generateKeySalt (keyType algorithmName : String) (keySize : Nat) : String :=
  s!"Microsoft SQL Server cell {keyType} key " ++
    s!"with encryption algorithm:{algorithmName} and key length:{keySize}"

/-- `AeadAes256CbcHmac256EncryptionKey`. -/
structure EncryptionKey where
  rootKey : Bytes
  encryptionKey : Bytes
  macKey : Bytes
  ivKey : Bytes
  deriving DecidableEq, Repr

/-- The constructor. -/
def EncryptionKey.new (crypto : Crypto) (rootKey : Bytes) (algorithmName : String) :
    Except String EncryptionKey :=
  if rootKey.length = 0 then .error "Empty column encryption key specified."
  else if rootKey.length ≠ keySizeInBytes then
    .error <| "The column encryption key has been successfully decrypted but it's length: " ++
      s!"{rootKey.length} does not match the length: {keySizeInBytes} for algorithm " ++
      s!"\"{algorithmName}\". Verify the encrypted value of the column encryption key in " ++
      "the database."
  else .ok
    { rootKey
      encryptionKey := deriveKey crypto rootKey (generateKeySalt "encryption" algorithmName keySize)
      macKey := deriveKey crypto rootKey (generateKeySalt "MAC" algorithmName keySize)
      ivKey := deriveKey crypto rootKey (generateKeySalt "IV" algorithmName keySize) }

/-! ### The algorithm -/

inductive SQLServerEncryptionType
  | PlainText
  | Deterministic
  | Randomized
  deriving DecidableEq, Repr

def algorithmName : String := "AEAD_AES_256_CBC_HMAC_SHA256"

def algorithmVersion : UInt8 := 0x1

def blockSizeInBytes : Nat := 16

def minimumCipherTextLengthInBytesNoAuthenticationTag : Nat :=
  1 + blockSizeInBytes + blockSizeInBytes

def minimumCipherTextLengthInBytesWithAuthenticationTag : Nat :=
  minimumCipherTextLengthInBytesNoAuthenticationTag + keySizeInBytes

section Algorithm

variable (crypto : Crypto) (key : EncryptionKey)

/-- `_prepareAuthenticationTag`. The last part is `versionSize`. -/
def prepareAuthenticationTag (iv cipherText : Bytes) (offset length : Nat) : Bytes :=
  crypto.hmac key.macKey
    ([algorithmVersion] ++ (iv ++ (cipherText.extract offset (offset + length) ++ [1])))

/-- `encryptData`, with what `randomBytes` would return. -/
def encryptData (encryptionType : SQLServerEncryptionType) (random plainText : Bytes) : Bytes :=
  let iv := if encryptionType = .Deterministic then
      (crypto.hmac key.ivKey plainText).take blockSizeInBytes
    else random
  let encryptedBuffer := crypto.encrypt key.encryptionKey iv plainText
  let authenticationTag :=
    prepareAuthenticationTag crypto key iv encryptedBuffer 0 encryptedBuffer.length
  [algorithmVersion] ++ (authenticationTag ++ (iv ++ encryptedBuffer))

/-- `toString('hex')` of one byte. -/
def hexString (byte : UInt8) : String :=
  String.ofList [Nat.digitChar (byte.toNat / 16), Nat.digitChar (byte.toNat % 16)]

/-- `decryptData` up to the decryption: the initialization vector and what is to be decrypted. -/
def authenticate (cipherText : Bytes) : Except String (Bytes × Bytes) :=
  if cipherText.length < minimumCipherTextLengthInBytesWithAuthenticationTag then
    .error <| s!"Specified ciphertext has an invalid size of {cipherText.length} bytes, which is " ++
      s!"below the minimum {minimumCipherTextLengthInBytesWithAuthenticationTag} bytes required " ++
      "for decryption."
  else if cipherText.head? ≠ some algorithmVersion then
    .error <| "The specified ciphertext's encryption algorithm version " ++
      s!"{hexString (cipherText.headD 0)} does not match the expected encryption algorithm " ++
      s!"version {algorithmVersion.toNat}."
  else
    let authenticationTagOffset := 1
    let startIndex := authenticationTagOffset + keySizeInBytes
    let iv := cipherText.extract startIndex (startIndex + blockSizeInBytes)
    let cipherTextOffset := startIndex + blockSizeInBytes
    let cipherTextCount := cipherText.length - cipherTextOffset
    let authenticationTag :=
      prepareAuthenticationTag crypto key iv cipherText cipherTextOffset cipherTextCount
    -- The bounds of `authenticationTag.compare`.
    let sent := cipherText.extract authenticationTagOffset
      (min (authenticationTagOffset + cipherTextCount)
        (authenticationTagOffset + authenticationTag.length))
    let expected := authenticationTag.extract 0 (min cipherTextCount authenticationTag.length)
    if expected ≠ sent then .error "Specified ciphertext has an invalid authentication tag."
    else .ok (iv, cipherText.extract cipherTextOffset (cipherTextOffset + cipherTextCount))

def decryptData (cipherText : Bytes) : Except String Bytes := do
  let (iv, data) ← authenticate crypto key cipherText
  match crypto.decrypt key.encryptionKey iv data with
  | .ok plainText => pure plainText
  | .error message => .error s!"Internal error while decryption: {message}"

end Algorithm

/-! ### Taking the message apart -/

/-- A part, by the sizes of what is in front of it and of itself. -/
theorem extract_append {front middle back : Bytes} {start stop : Nat}
    (hstart : front.length = start) (hstop : start + middle.length = stop) :
    (front ++ (middle ++ back)).extract start stop = middle := by
  rw [List.extract_eq_take_drop, ← hstart, List.drop_left, ← hstop, ← hstart,
    Nat.add_sub_cancel_left, List.take_left]

/-- The beginning of a part. -/
theorem extract_append_take {front middle back : Bytes} {start n : Nat}
    (hstart : front.length = start) :
    (front ++ (middle ++ back)).extract start (min (start + n) (start + middle.length)) =
      middle.take n := by
  rw [List.extract_eq_take_drop, ← hstart, List.drop_left, Nat.add_min_add_left,
    Nat.add_sub_cancel_left, List.take_append_of_le_length (Nat.min_le_right ..), ← List.take_take,
    List.take_length]

section Parts

variable {crypto : Crypto} (hcrypto : crypto.Lawful) (key : EncryptionKey)

/-- The tag of a message. -/
def tagOf (crypto : Crypto) (key : EncryptionKey) (iv data : Bytes) : Bytes :=
  crypto.hmac key.macKey ([algorithmVersion] ++ (iv ++ (data ++ [1])))

/-- A message: the version, a tag, an initialization vector and the encrypted value. -/
def message (tag iv data : Bytes) : Bytes := [algorithmVersion] ++ (tag ++ (iv ++ data))

theorem length_message (tag iv data : Bytes) :
    (message tag iv data).length = 1 + tag.length + iv.length + data.length := by
  simp only [message, List.length_append, List.length_singleton]
  omega

include hcrypto in
variable {key} in
theorem length_key {rootKey : Bytes} {name : String}
    (h : EncryptionKey.new crypto rootKey name = .ok key) : key.encryptionKey.length = 32 := by
  rw [EncryptionKey.new] at h
  split at h
  · cases h
  · split at h
    · cases h
    · cases h
      exact hcrypto.length_hmac _ _

/-- What is long enough and has the version is a message. -/
theorem exists_message {bytes : Bytes} (hlength : 65 ≤ bytes.length)
    (hversion : bytes.head? = some algorithmVersion) :
    ∃ tag iv data, tag.length = 32 ∧ iv.length = 16 ∧ 16 ≤ data.length ∧
      bytes = message tag iv data := by
  obtain ⟨rest, rfl⟩ := List.head?_eq_some_iff.1 hversion
  rw [List.length_cons] at hlength
  refine ⟨rest.take 32, (rest.drop 32).take 16, (rest.drop 32).drop 16, ?_, ?_, ?_, ?_⟩
  · rw [List.length_take]
    omega
  · rw [List.length_take, List.length_drop]
    omega
  · rw [List.length_drop, List.length_drop]
    omega
  · rw [message, List.take_append_drop, List.take_append_drop, List.singleton_append]

include hcrypto

/-- A message is let pass when its tag is right as far as the encrypted value is long. -/
theorem authenticate_message {tag iv data : Bytes} (htag : tag.length = 32) (hiv : iv.length = 16)
    (hdata : 16 ≤ data.length) :
    authenticate crypto key (message tag iv data) =
      if (tagOf crypto key iv data).take data.length = tag.take data.length then .ok (iv, data)
      else .error "Specified ciphertext has an invalid authentication tag." := by
  have hlength : (message tag iv data).length = 49 + data.length := by
    rw [length_message, htag, hiv]
  have hsplit : message tag iv data = ([algorithmVersion] ++ tag) ++ (iv ++ data) := by
    rw [message, List.append_assoc]
  have hsplit' : message tag iv data = ([algorithmVersion] ++ tag ++ iv) ++ (data ++ []) := by
    rw [hsplit, List.append_nil, List.append_assoc _ iv]
  have hiv' : (message tag iv data).extract 33 49 = iv := by
    rw [hsplit]
    exact extract_append (by rw [List.length_append, htag]; rfl) (by rw [hiv])
  have hdata' : (message tag iv data).extract 49 (49 + data.length) = data := by
    rw [hsplit']
    exact extract_append (by rw [List.length_append, List.length_append, htag, hiv]; rfl) rfl
  have htag' : prepareAuthenticationTag crypto key iv (message tag iv data) 49 data.length =
      tagOf crypto key iv data := by
    rw [prepareAuthenticationTag, hdata', tagOf]
  have hsent : (message tag iv data).extract 1 (min (1 + data.length) (1 + 32)) =
      tag.take data.length := by
    rw [← htag]
    exact extract_append_take rfl
  have hexpected : (tagOf crypto key iv data).extract 0 (min data.length 32) =
      (tagOf crypto key iv data).take data.length := by
    rw [← hcrypto.length_hmac key.macKey ([algorithmVersion] ++ (iv ++ (data ++ [1]))),
      List.extract_eq_take_drop, List.drop_zero, Nat.sub_zero, ← List.take_take]
    exact congrArg _ (List.take_length ..)
  have hsize : ∀ iv cipherText offset length,
      (prepareAuthenticationTag crypto key iv cipherText offset length).length = 32 :=
    fun _ _ _ _ => hcrypto.length_hmac _ _
  have hcount : 49 + data.length - 49 = data.length := Nat.add_sub_cancel_left ..
  have hhead : (message tag iv data).head? = some algorithmVersion := rfl
  show (if (message tag iv data).length < 65 then _
    else if (message tag iv data).head? ≠ some algorithmVersion then _
    else if (prepareAuthenticationTag crypto key ((message tag iv data).extract 33 49)
        (message tag iv data) 49 ((message tag iv data).length - 49)).extract 0
          (min ((message tag iv data).length - 49) (List.length (prepareAuthenticationTag ..))) ≠
        (message tag iv data).extract 1 (min (1 + ((message tag iv data).length - 49))
          (1 + List.length (prepareAuthenticationTag ..))) then _
    else Except.ok ((message tag iv data).extract 33 49,
      (message tag iv data).extract 49 (49 + ((message tag iv data).length - 49)))) = _
  rw [hsize, hlength, hcount, hiv', htag', hexpected, hsent, hdata', if_neg (by omega),
    if_neg (not_not_intro hhead), ite_not]

/-- What is let pass is long enough and has the version. -/
theorem message_of_authenticate {bytes : Bytes} {parts : Bytes × Bytes}
    (h : authenticate crypto key bytes = .ok parts) :
    ∃ tag iv data, tag.length = 32 ∧ iv.length = 16 ∧ 16 ≤ data.length ∧
      bytes = message tag iv data ∧
      (tagOf crypto key iv data).take data.length = tag.take data.length := by
  have hlength : minimumCipherTextLengthInBytesWithAuthenticationTag ≤ bytes.length := by
    by_contra hshort
    rw [authenticate, if_pos (not_le.1 hshort)] at h
    cases h
  have hversion : bytes.head? = some algorithmVersion := by
    by_contra hother
    rw [authenticate, if_neg (not_lt.2 hlength), if_pos hother] at h
    cases h
  obtain ⟨tag, iv, data, htag, hiv, hdata, rfl⟩ := exists_message hlength hversion
  refine ⟨tag, iv, data, htag, hiv, hdata, rfl, ?_⟩
  rw [authenticate_message hcrypto key htag hiv hdata] at h
  split at h
  · assumption
  · cases h

end Parts

theorem message_inj {tag tag' iv iv' data data' : Bytes} (htag : tag.length = tag'.length)
    (hiv : iv.length = iv'.length) (h : message tag iv data = message tag' iv' data') :
    tag = tag' ∧ iv = iv' ∧ data = data' := by
  obtain ⟨htags, h⟩ := List.append_inj (List.append_cancel_left h) htag
  obtain ⟨hivs, hdata⟩ := List.append_inj h hiv
  exact ⟨htags, hivs, hdata⟩

/-! ### Authentication -/

section Authentication

variable (crypto : Crypto) (key : EncryptionKey)

/-- The version, and the whole tag of what follows it. -/
def Authentic (bytes : Bytes) : Prop :=
  ∃ iv data, iv.length = 16 ∧ bytes = message (tagOf crypto key iv data) iv data

/-- One block and no second one, whose tag is right as far as the block is long, and no further. -/
def HalfAuthentic (bytes : Bytes) : Prop :=
  ∃ tag iv data, tag.length = 32 ∧ iv.length = 16 ∧ 16 ≤ data.length ∧ data.length < 32 ∧
    bytes = message tag iv data ∧
    (tagOf crypto key iv data).take data.length = tag.take data.length ∧
    tag ≠ tagOf crypto key iv data

variable {crypto} (hcrypto : crypto.Lawful)

include hcrypto

theorem length_tagOf (iv data : Bytes) : (tagOf crypto key iv data).length = 32 :=
  hcrypto.length_hmac _ _

variable {key}

theorem decryptData_encryptData (hkey : key.encryptionKey.length = 32)
    (encryptionType : SQLServerEncryptionType) {random : Bytes} (hrandom : random.length = 16)
    (plainText : Bytes) :
    decryptData crypto key (encryptData crypto key encryptionType random plainText) =
      .ok plainText := by
  set iv := if encryptionType = .Deterministic then
      (crypto.hmac key.ivKey plainText).take blockSizeInBytes
    else random with hiv
  have hlength : iv.length = 16 := by
    rw [hiv]
    split
    · rw [List.length_take, hcrypto.length_hmac]
      rfl
    · exact hrandom
  set data := crypto.encrypt key.encryptionKey iv plainText with hdata
  have htag : prepareAuthenticationTag crypto key iv data 0 data.length =
      tagOf crypto key iv data := by
    rw [prepareAuthenticationTag, Nat.zero_add, List.extract_eq_take_drop, List.drop_zero,
      Nat.sub_zero, List.take_length, tagOf]
  have hmessage : encryptData crypto key encryptionType random plainText =
      message (tagOf crypto key iv data) iv data := by
    rw [← htag]
    rfl
  have hpass := authenticate_message hcrypto key (length_tagOf key hcrypto iv data) hlength
    (hcrypto.length_encrypt key.encryptionKey iv plainText)
  rw [if_pos rfl] at hpass
  rw [decryptData, hmessage, hpass]
  show (match crypto.decrypt key.encryptionKey iv data with
    | .ok plainText => pure plainText
    | .error message => .error _ : Except String Bytes) = _
  rw [hcrypto.decrypt_encrypt _ _ _ hkey hlength]
  rfl

theorem authenticate_iff (bytes : Bytes) :
    ((∃ parts, authenticate crypto key bytes = .ok parts) → Authentic crypto key bytes) ↔
      ¬ HalfAuthentic crypto key bytes := by
  constructor
  · rintro h ⟨tag, iv, data, htag, hiv, hdata, -, rfl, hprefix, hother⟩
    have hpass := authenticate_message hcrypto key htag hiv hdata
    rw [if_pos hprefix] at hpass
    obtain ⟨iv', data', hiv', hsame⟩ := h ⟨_, hpass⟩
    obtain ⟨rfl, rfl, rfl⟩ :=
      message_inj (htag.trans (length_tagOf key hcrypto iv' data').symm) (hiv.trans hiv'.symm) hsame
    exact hother rfl
  · rintro h ⟨parts, hpass⟩
    obtain ⟨tag, iv, data, htag, hiv, hdata, rfl, hprefix⟩ :=
      message_of_authenticate hcrypto key hpass
    have htags : tag = tagOf crypto key iv data := by
      rcases lt_or_ge data.length 32 with hshort | hlong
      · by_contra hother
        exact h ⟨tag, iv, data, htag, hiv, hdata, hshort, rfl, hprefix, hother⟩
      · rwa [List.take_of_length_le (by rw [length_tagOf key hcrypto]; exact hlong),
          List.take_of_length_le (by rw [htag]; exact hlong), eq_comm] at hprefix
    exact ⟨iv, data, hiv, by rw [← htags]⟩

/-- **Authenticated encryption.** What is encrypted is decrypted again. Only what is authentic is
decrypted, but for a single block whose tag is right in as many bytes as the block has. -/
theorem decryptData_iff {rootKey : Bytes} {name : String}
    (hkey : EncryptionKey.new crypto rootKey name = .ok key) :
    (∀ encryptionType random plainText, List.length random = 16 →
      decryptData crypto key (encryptData crypto key encryptionType random plainText) =
        .ok plainText) ∧
    ∀ bytes, ((∃ parts, authenticate crypto key bytes = .ok parts) → Authentic crypto key bytes) ↔
      ¬ HalfAuthentic crypto key bytes :=
  ⟨fun encryptionType _ plainText hrandom =>
    decryptData_encryptData hcrypto (length_key hcrypto hkey) encryptionType hrandom plainText,
    authenticate_iff hcrypto⟩

end Authentication

/-! ### A toy -/

/-- Digests of 32 bytes and blocks of 16, with the padding of the real ones. -/
def toyCrypto : Crypto where
  hmac _ message := List.replicate 32 (message.foldl (· + ·) 0)
  encrypt _ _ plainText :=
    plainText ++ List.replicate (16 - plainText.length % 16)
      (UInt8.ofNat (16 - plainText.length % 16))
  decrypt _ _ data := .ok (data.take (data.length - (data.getLastD 0).toNat))

theorem toyCrypto_lawful : toyCrypto.Lawful where
  length_hmac _ _ := List.length_replicate ..
  length_encrypt _ _ plainText := by
    show 16 ≤ (plainText ++ List.replicate _ _).length
    rw [List.length_append, List.length_replicate]
    omega
  decrypt_encrypt key iv plainText _ _ := by
    set n := 16 - plainText.length % 16 with hn
    have hpos : n ≠ 0 := by omega
    have hlast : (plainText ++ List.replicate n (UInt8.ofNat n)).getLastD 0 = UInt8.ofNat n := by
      rw [List.getLastD_eq_getLast?, List.getLast?_append, List.getLast?_replicate, if_neg hpos]
      rfl
    have hsize : (UInt8.ofNat n).toNat = n := by
      rw [UInt8.toNat_ofNat']
      omega
    show Except.ok ((plainText ++ List.replicate n (UInt8.ofNat n)).take
      ((plainText ++ List.replicate n (UInt8.ofNat n)).length -
        ((plainText ++ List.replicate n (UInt8.ofNat n)).getLastD 0).toNat)) = _
    rw [hlast, hsize, List.length_append, List.length_replicate, Nat.add_sub_cancel, List.take_left]

/-- A key of zeros. -/
def toyKey : EncryptionKey where
  rootKey := List.replicate 32 0
  encryptionKey :=
    deriveKey toyCrypto (List.replicate 32 0) (generateKeySalt "encryption" algorithmName keySize)
  macKey := deriveKey toyCrypto (List.replicate 32 0) (generateKeySalt "MAC" algorithmName keySize)
  ivKey := deriveKey toyCrypto (List.replicate 32 0) (generateKeySalt "IV" algorithmName keySize)

theorem toyKey_new :
    EncryptionKey.new toyCrypto (List.replicate 32 0) algorithmName = .ok toyKey := rfl

/-- One block and the padding, which are two blocks. -/
theorem decryptData_block :
    decryptData toyCrypto toyKey (encryptData toyCrypto toyKey .Randomized (List.replicate 16 0)
        (List.replicate 16 7)) = .ok (List.replicate 16 7) ∧
      ((∃ parts, authenticate toyCrypto toyKey (encryptData toyCrypto toyKey .Randomized
          (List.replicate 16 0) (List.replicate 16 7)) = .ok parts) →
        Authentic toyCrypto toyKey (encryptData toyCrypto toyKey .Randomized
          (List.replicate 16 0) (List.replicate 16 7))) := by
  obtain ⟨hround, hpass⟩ := decryptData_iff toyCrypto_lawful toyKey_new
  refine ⟨hround _ _ _ rfl, (hpass _).2 ?_⟩
  rintro ⟨tag, iv, data, htag, hiv, -, hshort, hbytes, -⟩
  have hlength := congrArg List.length hbytes
  rw [length_message, htag, hiv] at hlength
  have hlong : List.length (encryptData toyCrypto toyKey .Randomized (List.replicate 16 0)
      (List.replicate 16 7)) = 81 := rfl
  omega

/-- One block of zeros, and a tag of which only the first half is right. -/
theorem not_authentic :
    ¬ ∀ (crypto : Crypto) (rootKey : Bytes) (name : String) (key : EncryptionKey), crypto.Lawful →
      EncryptionKey.new crypto rootKey name = .ok key →
      (∀ encryptionType random plainText, List.length random = 16 →
        decryptData crypto key (encryptData crypto key encryptionType random plainText) =
          .ok plainText) ∧
      ∀ bytes, (∃ parts, authenticate crypto key bytes = .ok parts) →
        Authentic crypto key bytes := by
  intro h
  obtain ⟨-, hpass⟩ := h toyCrypto (List.replicate 32 0) algorithmName toyKey toyCrypto_lawful
    toyKey_new
  refine (authenticate_iff toyCrypto_lawful _).1 (hpass
    (message (List.replicate 16 2 ++ List.replicate 16 3) (List.replicate 16 0)
      (List.replicate 16 0))) ?_
  exact ⟨_, _, _, rfl, rfl, by decide, by decide, rfl, by decide, by decide⟩

end Tedious.AlwaysEncrypted
