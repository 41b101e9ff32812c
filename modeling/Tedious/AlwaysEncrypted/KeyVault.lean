import Tedious.AlwaysEncrypted.Aead
import Tedious.Errors
import Tedious.Lib.Machine

/-!
# Tedious.AlwaysEncrypted.KeyVault

The provider of column encryption keys (`always-encrypted/keystore-provider-azure-key-vault.ts`). It
asks a vault for the master key that a path names, and wraps a column encryption key with it, or
unwraps one.

The provider keeps the client of the first vault it has asked, and asks no other vault after that
(`usesNamedKey_iff`).
-/

namespace Tedious.AlwaysEncrypted

open Tedious Chunked

/-! ### Code that is not the provider's -/

/-- What `url.parse` makes of a path, as far as it is read. -/
structure Url where
  protocol : Option JsString
  host : Option JsString
  hostname : Option JsString
  pathname : Option JsString
  deriving DecidableEq, Repr

/-- The functions of the platform that depend on Unicode tables, and `url.parse`. -/
structure Runtime where
  toLowerCase : JsString → JsString
  toUpperCase : JsString → JsString
  /-- `a.localeCompare(b, 'en')`. -/
  localeCompare : JsString → JsString → Int
  /-- `parse(path, true, true)`, if it does not throw. -/
  parse : JsString → Option Url

structure JsonWebKey where
  kty : Option JsString
  n : Option Bytes
  deriving DecidableEq, Repr

/-- A key that a vault has returned. -/
structure KeyVaultKey where
  id : JsString
  name : JsString
  key : Option JsonWebKey
  deriving DecidableEq, Repr

/-- `getKey(name, { version })` of the client of a vault. -/
structure KeyRequest where
  vaultUrl : JsString
  name : JsString
  version : Option JsString
  deriving DecidableEq, Repr

/-- The clients of Azure, with the credentials of the provider, and `createHash('sha256')`. -/
structure Azure where
  getKey : KeyRequest → Except Failure KeyVaultKey
  /-- With the random bytes of the padding. -/
  wrapKey : KeyVaultKey → JsString → Bytes → Bytes → Except Failure Bytes
  unwrapKey : KeyVaultKey → JsString → Bytes → Except Failure Bytes
  /-- `sign('RS256', digest)`. -/
  sign : KeyVaultKey → Bytes → Except Failure Bytes
  /-- `verify('RS256', digest, signature)`. -/
  verify : KeyVaultKey → Bytes → Bytes → Except Failure Bool
  sha256 : Bytes → Bytes

/-- `new Error(message)`. -/
def error (message : JsString) : Failure where
  name := some (JsString.ofString "Error")
  message := message

/-- An error of `Buffer`. -/
def rangeError (message : String) : Failure where
  name := some (JsString.ofString "RangeError")
  message := JsString.ofString message

/-- `s.trim()`. -/
def trim (s : JsString) : JsString :=
  ((s.dropWhile isStrWhiteSpace).reverse.dropWhile isStrWhiteSpace).reverse

/-- `readInt16LE`. -/
def readInt16LE (buffer : Bytes) (offset : Nat) : Except Failure Int :=
  if offset + 2 ≤ buffer.length then .ok (leInt (buffer.extract offset (offset + 2)))
  else if buffer.length < 2 then
    .error (rangeError "Attempt to access memory outside buffer bounds")
  else .error <| rangeError <| "The value of \"offset\" is out of range. It must be >= 0 and <= " ++
    s!"{buffer.length - 2}. Received {offset}"

/-- `copy(target, 0, start, start + length)` into a new buffer of that length. -/
def copy (buffer : Bytes) (start : Int) (length : Nat) : Except Failure Bytes :=
  if start < 0 then .error <| rangeError <|
    s!"The value of \"sourceStart\" is out of range. It must be >= 0. Received {start}"
  else
    let copied := buffer.extract start.toNat (start.toNat + length)
    .ok (copied ++ List.replicate (length - copied.length) 0)

/-! ### Paths -/

/-- What a path names. -/
structure ParsedKeyPath where
  vaultUrl : JsString
  name : JsString
  version : Option JsString
  deriving DecidableEq, Repr

def azureKeyVaultDomainName : JsString := JsString.ofString "vault.azure.net"

section Provider

variable (runtime : Runtime) (azure : Azure)

def parsePath (masterKeyPath : JsString) : Except Failure ParsedKeyPath :=
  if masterKeyPath = [] ∨ trim masterKeyPath = [] then
    .error (error (JsString.ofString "Azure Key Vault key path cannot be null."))
  else match runtime.parse masterKeyPath with
    | none => .error <| error <| JsString.ofString "Invalid keys identifier: " ++ masterKeyPath ++
        JsString.ofString ". Not a valid URI"
    | some baseUri =>
      let hostname := baseUri.hostname.getD []
      if hostname = [] ∨ ¬ azureKeyVaultDomainName <:+ runtime.toLowerCase hostname then
        .error <| error <| JsString.ofString "Invalid Azure Key Vault key path specified: " ++
          masterKeyPath ++ JsString.ofString "."
      else
        let segments := (baseUri.pathname.getD []).splitOn 0x2F
        if segments.length ≠ 3 ∧ segments.length ≠ 4 then
          .error <| error <| JsString.ofString "Invalid keys identifier: " ++ masterKeyPath ++
            JsString.ofString s!". Bad number of segments: {segments.length}"
        else if segments.getD 1 [] ≠ JsString.ofString "keys" then
          .error <| error <| JsString.ofString "Invalid keys identifier: " ++ masterKeyPath ++
            JsString.ofString ". segment [1] should be \"keys\", found \"" ++ segments.getD 1 [] ++
            JsString.ofString "\""
        else .ok
          { vaultUrl := baseUri.protocol.getD (JsString.ofString "null") ++
              JsString.ofString "//" ++ baseUri.host.getD (JsString.ofString "null")
            name := segments.getD 2 []
            version := if segments.length = 4 then segments[3]? else none }

/-- The provider, with the vault of its client if it has one. -/
structure ColumnEncryptionAzureKeyVaultProvider where
  keyClient : Option JsString
  deriving DecidableEq, Repr

/-- The constructor. -/
def ColumnEncryptionAzureKeyVaultProvider.new : ColumnEncryptionAzureKeyVaultProvider where
  keyClient := none

/-- A call: the provider after it, what a vault was asked for, and the result. The provider changes
only before the call first waits, so that calls may overlap. -/
structure Outcome (α : Type) where
  provider : ColumnEncryptionAzureKeyVaultProvider
  asked : Option KeyRequest
  result : Except Failure α

namespace ColumnEncryptionAzureKeyVaultProvider

variable (s : ColumnEncryptionAzureKeyVaultProvider)

/-- `createKeyClient`: the vault of the client, which is a new one only if there was none. -/
def createKeyClient (keyVaultUrl : JsString) : Except Failure JsString :=
  if keyVaultUrl = [] then
    .error <| error <| JsString.ofString
      "Cannot create key client with null or undefined keyVaultUrl"
  else .ok (s.keyClient.getD keyVaultUrl)

def getMasterKey (masterKeyPath : JsString) : Outcome KeyVaultKey :=
  if masterKeyPath = [] then
    ⟨s, none, .error (error (JsString.ofString "Master key path cannot be null or undefined"))⟩
  else match parsePath runtime masterKeyPath with
    | .error e => ⟨s, none, .error e⟩
    | .ok keyParts =>
      match s.createKeyClient keyParts.vaultUrl with
      | .error e => ⟨s, none, .error e⟩
      | .ok keyClient =>
        let request : KeyRequest :=
          { vaultUrl := keyClient
            name := keyParts.name
            version := keyParts.version.filter (· ≠ []) }
        ⟨{ keyClient := some keyClient }, some request, azure.getKey request⟩

end ColumnEncryptionAzureKeyVaultProvider

/-! ### Keys -/

def getAKVKeySize (retrievedKey : KeyVaultKey) : Except Failure Nat :=
  match retrievedKey.key with
  | none => .error (error (JsString.ofString "Key does not exist " ++ retrievedKey.name))
  | some key =>
    let kty := key.kty.map fun kty => if kty = [] then [] else runtime.toUpperCase kty
    if kty.getD [] = [] ∨ runtime.localeCompare (JsString.ofString "RSA") (kty.getD []) ≠ 0 then
      .error <| error <| JsString.ofString "Cannot use a non-RSA key: " ++
        kty.getD (JsString.ofString "undefined") ++ JsString.ofString "."
    else .ok ((key.n.map List.length).getD 0)

def validateEncryptionAlgorithm (encryptionAlgorithm : JsString) : Except Failure JsString :=
  if encryptionAlgorithm = [] then
    .error (error (JsString.ofString "Key encryption algorithm cannot be null."))
  else
    let rsaOaep := JsString.ofString "RSA-OAEP"
    let encryptionAlgorithm :=
      if runtime.localeCompare (JsString.ofString "RSA_OAEP")
        (runtime.toUpperCase encryptionAlgorithm) = 0 then rsaOaep
      else encryptionAlgorithm
    if runtime.localeCompare rsaOaep (runtime.toUpperCase (trim encryptionAlgorithm)) ≠ 0 then
      .error <| error <| JsString.ofString "Invalid key encryption algorithm specified: " ++
        encryptionAlgorithm ++ JsString.ofString ". Expected value: " ++ rsaOaep ++
        JsString.ofString "."
    else .ok encryptionAlgorithm

def firstVersion : UInt8 := 0x01

def azureKeyVaultUnWrap (masterKey : KeyVaultKey) (encryptionAlgorithm : JsString)
    (encryptedColumnEncryptionKey : Bytes) : Except Failure Bytes :=
  if encryptionAlgorithm = [] then
    .error (error (JsString.ofString "Encryption Algorithm cannot be null or undefined"))
  else if encryptedColumnEncryptionKey = [] then
    .error (error (JsString.ofString "Encrypted Column Encryption Key length should not be zero."))
  else azure.unwrapKey masterKey encryptionAlgorithm encryptedColumnEncryptionKey

/-- `encryptColumnEncryptionKey`, with the master key. -/
def encryptWith (masterKey : KeyVaultKey) (masterKeyPath encryptionAlgorithm : JsString)
    (columnEncryptionKey random : Bytes) : Except Failure Bytes := do
  let keySizeInBytes ← getAKVKeySize runtime masterKey
  let masterKeyPathBytes := utf8Bytes (runtime.toLowerCase masterKeyPath)
  let keyPathLength := leBytes 2 masterKeyPathBytes.length
  let cipherText ← azure.wrapKey masterKey encryptionAlgorithm columnEncryptionKey random
  let cipherTextLength := leBytes 2 cipherText.length
  if cipherText.length ≠ keySizeInBytes then
    .error (error (JsString.ofString "CipherText length does not match the RSA key size."))
  else
    let dataToHash := [firstVersion] ++ (keyPathLength ++ (cipherTextLength ++
      (masterKeyPathBytes ++ cipherText)))
    let dataToSign := azure.sha256 dataToHash
    let signedHash ← azure.sign masterKey dataToSign
    if signedHash.length ≠ keySizeInBytes then
      .error (error (JsString.ofString "Signed hash length does not match the RSA key size."))
    else
      let verifyKey ← azure.verify masterKey dataToSign signedHash
      if verifyKey then
        .ok ([firstVersion] ++ (keyPathLength ++ (cipherTextLength ++
          (masterKeyPathBytes ++ (cipherText ++ signedHash)))))
      else
        .error <| error <| JsString.ofString
          "Invalid signature of the encrypted column encryption key computed."

/-- `decryptColumnEncryptionKey`, with the master key. -/
def decryptWith (masterKey : KeyVaultKey) (masterKeyPath encryptionAlgorithm : JsString)
    (encryptedColumnEncryptionKey : Bytes) : Except Failure Bytes := do
  let keySizeInBytes ← getAKVKeySize runtime masterKey
  if encryptedColumnEncryptionKey.head? ≠ some firstVersion then
    .error <| error <| JsString.ofString <|
      "Specified encrypted column encryption key contains an invalid encryption algorithm " ++
      s!"version {hexString (encryptedColumnEncryptionKey.headD 0)}. Expected version is " ++
      s!"{hexString firstVersion}."
  else
    let keyPathLength ← readInt16LE encryptedColumnEncryptionKey 1
    let cipherTextLength ← readInt16LE encryptedColumnEncryptionKey 3
    let currentIndex := 5 + keyPathLength
    let corrupt := JsString.ofString <| s!"{keySizeInBytes} when using column master key " ++
      "(Azure Key Vault key) in "
    let hint := JsString.ofString <| ". The encrypted column encryption key may be corrupt, or " ++
      "the specified Azure Key Vault key path may be incorrect."
    if cipherTextLength ≠ keySizeInBytes then
      .error <| error <| JsString.ofString
        ("The specified encrypted column encryption key's ciphertext length: " ++
          s!"{cipherTextLength} does not match the ciphertext length: ") ++
        corrupt ++ masterKeyPath ++ hint
    else
      let signatureLength := encryptedColumnEncryptionKey.length - currentIndex - cipherTextLength
      if signatureLength ≠ keySizeInBytes then
        .error <| error <| JsString.ofString
          ("The specified encrypted column encryption key's signature length: " ++
            s!"{signatureLength} does not match the signature length: ") ++
          corrupt ++ masterKeyPath ++ hint
      else
        let cipherText ← copy encryptedColumnEncryptionKey currentIndex keySizeInBytes
        let signature ← copy encryptedColumnEncryptionKey (currentIndex + keySizeInBytes)
          keySizeInBytes
        let hash ← copy encryptedColumnEncryptionKey 0
          (encryptedColumnEncryptionKey.length - signature.length)
        let verifyKey ← azure.verify masterKey (azure.sha256 hash) signature
        if verifyKey then azureKeyVaultUnWrap azure masterKey encryptionAlgorithm cipherText
        else
          .error <| error <| JsString.ofString
            ("The specified encrypted column encryption key signature does not match the " ++
              "signature computed with the column master key (Asymmetric key in Azure Key " ++
              "Vault) in ") ++ masterKeyPath ++ JsString.ofString
            (". The encrypted column encryption key may be corrupt, or the specified path may " ++
              "be incorrect.")

/-! ### Calls -/

inductive Call
  | encrypt (masterKeyPath encryptionAlgorithm : JsString) (columnEncryptionKey random : Bytes)
  | decrypt (masterKeyPath encryptionAlgorithm : JsString) (encryptedColumnEncryptionKey : Bytes)

namespace ColumnEncryptionAzureKeyVaultProvider

variable (s : ColumnEncryptionAzureKeyVaultProvider)

def encryptColumnEncryptionKey (masterKeyPath encryptionAlgorithm : JsString)
    (columnEncryptionKey random : Bytes) : Outcome Bytes :=
  if columnEncryptionKey = [] then
    ⟨s, none, .error (error (JsString.ofString "Empty column encryption key specified."))⟩
  else match validateEncryptionAlgorithm runtime encryptionAlgorithm with
    | .error e => ⟨s, none, .error e⟩
    | .ok encryptionAlgorithm =>
      let outcome := s.getMasterKey runtime azure masterKeyPath
      ⟨outcome.provider, outcome.asked, outcome.result.bind fun masterKey =>
        encryptWith runtime azure masterKey masterKeyPath encryptionAlgorithm columnEncryptionKey
          random⟩

def decryptColumnEncryptionKey (masterKeyPath encryptionAlgorithm : JsString)
    (encryptedColumnEncryptionKey : Bytes) : Outcome Bytes :=
  if encryptedColumnEncryptionKey = [] then
    ⟨s, none, .error <| error <| JsString.ofString
      "Internal error. Empty encrypted column encryption key specified."⟩
  else match validateEncryptionAlgorithm runtime encryptionAlgorithm with
    | .error e => ⟨s, none, .error e⟩
    | .ok encryptionAlgorithm =>
      let outcome := s.getMasterKey runtime azure masterKeyPath
      ⟨outcome.provider, outcome.asked, outcome.result.bind fun masterKey =>
        decryptWith runtime azure masterKey masterKeyPath encryptionAlgorithm
          encryptedColumnEncryptionKey⟩

def call : Call → Outcome Bytes
  | .encrypt path algorithm key random =>
    s.encryptColumnEncryptionKey runtime azure path algorithm key random
  | .decrypt path algorithm encrypted =>
    s.decryptColumnEncryptionKey runtime azure path algorithm encrypted

def machine : Machine ColumnEncryptionAzureKeyVaultProvider Call where
  step s c := some (s.call runtime azure c).provider

end ColumnEncryptionAzureKeyVaultProvider

end Provider

/-! ### What is expected of the others -/

/-- Comparing a string with itself, and a string in capitals. -/
structure Runtime.Lawful (runtime : Runtime) : Prop where
  localeCompare_self : ∀ a, runtime.localeCompare a a = 0
  toUpperCase_rsa : runtime.toUpperCase (JsString.ofString "RSA") = JsString.ofString "RSA"

/-- An RSA key with its modulus. -/
def KeyVaultKey.HasModulus (masterKey : KeyVaultKey) (n : Bytes) : Prop :=
  masterKey.key = some { kty := some (JsString.ofString "RSA"), n := some n }

/-- RSA: what is wrapped is unwrapped again, a signature is accepted, and both are as long as the
modulus, of 512 bytes at most. -/
structure Azure.Lawful (azure : Azure) : Prop where
  unwrapKey_wrapKey : ∀ {masterKey algorithm key random cipherText},
    azure.wrapKey masterKey algorithm key random = .ok cipherText →
      azure.unwrapKey masterKey algorithm cipherText = .ok key
  verify_sign : ∀ {masterKey digest signature}, azure.sign masterKey digest = .ok signature →
    azure.verify masterKey digest signature = .ok true
  length_wrapKey : ∀ {masterKey n algorithm key random cipherText}, masterKey.HasModulus n →
    azure.wrapKey masterKey algorithm key random = .ok cipherText → cipherText.length = n.length
  length_sign : ∀ {masterKey n digest signature}, masterKey.HasModulus n →
    azure.sign masterKey digest = .ok signature → signature.length = n.length
  length_modulus : ∀ {request masterKey n}, azure.getKey request = .ok masterKey →
    masterKey.HasModulus n → 0 < n.length ∧ n.length ≤ 512

/-- A vault has the key it is asked for, an RSA key, and uses it. -/
def Azure.Serves (azure : Azure) (request : KeyRequest) (algorithm : JsString)
    (columnEncryptionKey random : Bytes) : Prop :=
  ∃ masterKey n cipherText, azure.getKey request = .ok masterKey ∧ masterKey.HasModulus n ∧
    azure.wrapKey masterKey algorithm columnEncryptionKey random = .ok cipherText ∧
    ∀ digest, ∃ signature, azure.sign masterKey digest = .ok signature

/-! ### The envelope -/

/-- What is signed: the version, the path and the wrapped key. -/
def signedPart (path cipherText : Bytes) : Bytes :=
  [firstVersion] ++ (leBytes 2 path.length ++ (leBytes 2 cipherText.length ++ (path ++ cipherText)))

/-- What is stored of a column encryption key. -/
def envelope (path cipherText signature : Bytes) : Bytes :=
  [firstVersion] ++ (leBytes 2 path.length ++ (leBytes 2 cipherText.length ++
    (path ++ (cipherText ++ signature))))

theorem envelope_eq_signedPart (path cipherText signature : Bytes) :
    envelope path cipherText signature = signedPart path cipherText ++ signature := by
  simp only [envelope, signedPart, List.append_assoc]

theorem length_signedPart (path cipherText : Bytes) :
    (signedPart path cipherText).length = 5 + path.length + cipherText.length := by
  simp only [signedPart, List.length_append, List.length_singleton, length_leBytes]
  omega

theorem length_envelope (path cipherText signature : Bytes) :
    (envelope path cipherText signature).length =
      5 + path.length + cipherText.length + signature.length := by
  rw [envelope_eq_signedPart, List.length_append, length_signedPart]

/-- A length is read again as long as it fits into 15 bits. -/
theorem leInt_leBytes_two {n : Nat} : leInt (leBytes 2 n) = n ↔ n ≤ 32767 := by
  constructor
  · intro h
    have hlt := leNat_lt (leBytes 2 n)
    rw [leInt, length_leBytes] at h
    rw [length_leBytes] at hlt
    split at h <;> omega
  · intro h
    have hnat : (((n : Int) % 256 ^ 2).toNat) = n := by omega
    have hbytes : leBytes 2 n = leIntBytes 2 n := by rw [leIntBytes, hnat]
    rw [hbytes]
    refine leInt_leIntBytes ⟨?_, ?_⟩ <;> push_cast <;> omega

theorem readInt16LE_append {front middle back : Bytes} {offset : Nat}
    (hoffset : front.length = offset) (hmiddle : middle.length = 2) :
    readInt16LE (front ++ (middle ++ back)) offset = .ok (leInt middle) := by
  rw [readInt16LE, extract_append hoffset (by rw [hmiddle]), if_pos]
  rw [List.length_append, List.length_append, hoffset, hmiddle]
  omega

theorem copy_append {front middle back : Bytes} {start : Int} {length : Nat}
    (hstart : front.length = start) (hlength : middle.length = length) :
    copy (front ++ (middle ++ back)) start length = .ok middle := by
  have hextract : (front ++ (middle ++ back)).extract start.toNat (start.toNat + length) =
      middle := extract_append (by omega) (by rw [hlength])
  rw [copy, if_neg (by omega), hextract]
  show Except.ok (middle ++ List.replicate (length - middle.length) 0) = _
  rw [hlength, Nat.sub_self, List.replicate_zero, List.append_nil]

section Envelope

variable {runtime : Runtime} {azure : Azure} {masterKey : KeyVaultKey} {n : Bytes}

theorem getAKVKeySize_modulus (hruntime : runtime.Lawful) (hkey : masterKey.HasModulus n) :
    getAKVKeySize runtime masterKey = .ok n.length := by
  have hrsa : JsString.ofString "RSA" ≠ [] := by decide
  rw [getAKVKeySize, hkey]
  simp only [Option.map_some, Option.getD_some, if_neg hrsa, hruntime.toUpperCase_rsa]
  rw [if_neg]
  exact not_or.2 ⟨hrsa, not_not_intro (hruntime.localeCompare_self _)⟩

theorem encryptWith_eq_envelope (hruntime : runtime.Lawful) (hazure : azure.Lawful)
    (hkey : masterKey.HasModulus n) {algorithm path : JsString}
    {key random cipherText signature : Bytes}
    (hwrap : azure.wrapKey masterKey algorithm key random = .ok cipherText)
    (hsign : azure.sign masterKey (azure.sha256
      (signedPart (utf8Bytes (runtime.toLowerCase path)) cipherText)) = .ok signature) :
    encryptWith runtime azure masterKey path algorithm key random =
      .ok (envelope (utf8Bytes (runtime.toLowerCase path)) cipherText signature) := by
  have hcipherText := hazure.length_wrapKey hkey hwrap
  have hsignature := hazure.length_sign hkey hsign
  have hverify := hazure.verify_sign hsign
  rw [signedPart, hcipherText] at hsign hverify
  unfold encryptWith
  simp only [getAKVKeySize_modulus hruntime hkey, hwrap, hsign, hverify, hcipherText, hsignature,
    bind, Except.bind, ne_eq, not_true_eq_false, if_false, if_true]
  rw [envelope, hcipherText]

/-- The envelope is taken apart again if the path fits into the 15 bits of its length. -/
theorem decryptWith_envelope (hruntime : runtime.Lawful) (hazure : azure.Lawful)
    (hkey : masterKey.HasModulus n) (hn : 0 < n.length ∧ n.length ≤ 512)
    {algorithm masterKeyPath : JsString} (halgorithm : algorithm ≠ [])
    {path key random cipherText signature : Bytes}
    (hwrap : azure.wrapKey masterKey algorithm key random = .ok cipherText)
    (hsign : azure.sign masterKey (azure.sha256 (signedPart path cipherText)) = .ok signature) :
    decryptWith runtime azure masterKey masterKeyPath algorithm
        (envelope path cipherText signature) = .ok key ↔ path.length ≤ 32767 := by
  have hcipherText := hazure.length_wrapKey hkey hwrap
  have hsignature := hazure.length_sign hkey hsign
  have hlength : ((envelope path cipherText signature).length : Int) =
      5 + path.length + n.length + n.length := by
    rw [length_envelope, hcipherText, hsignature]
    push_cast
    rfl
  have hpathLength : readInt16LE (envelope path cipherText signature) 1 =
      .ok (leInt (leBytes 2 path.length)) := readInt16LE_append rfl (length_leBytes ..)
  have hcipherTextLength : readInt16LE (envelope path cipherText signature) 3 = .ok n.length := by
    have hsplit : envelope path cipherText signature =
        ([firstVersion] ++ leBytes 2 path.length) ++ (leBytes 2 cipherText.length ++
          (path ++ (cipherText ++ signature))) := by
      rw [envelope, List.append_assoc]
    rw [hsplit, readInt16LE_append (by simp) (length_leBytes ..), hcipherText,
      leInt_leBytes_two.2 (by omega)]
  have hhead : (envelope path cipherText signature).head? = some firstVersion := rfl
  -- The parts, when the index is where the wrapped key begins.
  have hcipher : copy (envelope path cipherText signature) (5 + path.length) n.length =
      .ok cipherText := by
    have hsplit : envelope path cipherText signature = ([firstVersion] ++ (leBytes 2 path.length ++
        (leBytes 2 cipherText.length ++ path))) ++ (cipherText ++ signature) := by
      simp only [envelope, List.append_assoc]
    rw [hsplit]
    refine copy_append ?_ hcipherText
    simp only [List.length_append, List.length_singleton, length_leBytes]
    omega
  have hsigned : copy (envelope path cipherText signature) (5 + path.length + n.length) n.length =
      .ok signature := by
    have hsplit : envelope path cipherText signature =
        signedPart path cipherText ++ (signature ++ []) := by
      rw [envelope_eq_signedPart, List.append_nil]
    rw [hsplit]
    refine copy_append ?_ hsignature
    rw [length_signedPart, hcipherText]
    push_cast
    rfl
  have hhash : copy (envelope path cipherText signature) 0
      ((envelope path cipherText signature).length - signature.length) =
        .ok (signedPart path cipherText) := by
    have hrest : (envelope path cipherText signature).length - signature.length =
        (signedPart path cipherText).length := by
      rw [envelope_eq_signedPart, List.length_append, Nat.add_sub_cancel]
    rw [hrest, envelope_eq_signedPart, ← List.nil_append (signedPart path cipherText ++ signature)]
    exact copy_append rfl rfl
  unfold decryptWith
  simp only [getAKVKeySize_modulus hruntime hkey, hhead, hpathLength, hcipherTextLength, hlength,
    bind, Except.bind, ne_eq, not_true_eq_false, if_false]
  by_cases hpath : path.length ≤ 32767
  · rw [leInt_leBytes_two.2 hpath]
    rw [if_neg (by omega), hcipher, hsigned]
    dsimp only
    rw [hhash]
    dsimp only
    rw [hazure.verify_sign hsign]
    dsimp only
    have hne : cipherText ≠ [] := by
      rintro rfl
      rw [List.length_nil] at hcipherText
      omega
    rw [if_pos rfl, azureKeyVaultUnWrap, if_neg halgorithm, if_neg hne,
      hazure.unwrapKey_wrapKey hwrap]
    exact iff_of_true rfl hpath
  · have hother : leInt (leBytes 2 path.length) ≠ path.length := mt leInt_leBytes_two.1 hpath
    rw [if_pos (by omega)]
    exact iff_of_false nofun hpath

end Envelope

/-! ### Histories -/

section Named

variable (runtime : Runtime)

def ParsedKeyPath.request (keyParts : ParsedKeyPath) : KeyRequest where
  vaultUrl := keyParts.vaultUrl
  name := keyParts.name
  version := keyParts.version.filter (· ≠ [])

/-- The key that a path names, if the path and the algorithm are valid. -/
def namedKey (masterKeyPath encryptionAlgorithm : JsString) : Option KeyRequest :=
  match validateEncryptionAlgorithm runtime encryptionAlgorithm,
    parsePath runtime masterKeyPath with
  | .ok _, .ok keyParts => some keyParts.request
  | _, _ => none

/-- The key that the path of a call names, if the arguments are valid. -/
def Call.named : Call → Option KeyRequest
  | .encrypt path algorithm key _ => if key = [] then none else namedKey runtime path algorithm
  | .decrypt path algorithm encrypted =>
    if encrypted = [] then none else namedKey runtime path algorithm

/-- All valid calls name the same vault. -/
def SameVault (calls : List Call) : Prop :=
  Machine.Unanimous (fun c => (c.named runtime).map KeyRequest.vaultUrl) calls

instance (calls : List Call) : Decidable (SameVault runtime calls) :=
  inferInstanceAs (Decidable (Machine.Unanimous _ calls))

end Named

namespace ColumnEncryptionAzureKeyVaultProvider

section Histories

variable (runtime : Runtime) (azure : Azure)

/-- A provider after some calls. -/
def after (calls : List Call) : ColumnEncryptionAzureKeyVaultProvider :=
  calls.foldl (fun s c => (s.call runtime azure c).provider) .new

/-- Each call asks the vault that its path names, for the key named there. -/
def AsksNamedKey (calls : List Call) : Prop :=
  ∀ before c rest, calls = before ++ c :: rest →
    ((after runtime azure before).call runtime azure c).asked = c.named runtime

/-- What a provider is for: each call asks for its own key, and an encrypted key is decrypted again
after any other calls. -/
structure UsesNamedKey (before : List Call) (path algorithm : JsString) (key random : Bytes)
    (between : List Call) : Prop where
  asks : AsksNamedKey runtime azure (before ++ .encrypt path algorithm key random :: between)
  decrypts : ∃ encrypted,
    ((after runtime azure before).encryptColumnEncryptionKey runtime azure path algorithm key
      random).result = .ok encrypted ∧
    ((after runtime azure (before ++ .encrypt path algorithm key random :: between))
      |>.decryptColumnEncryptionKey runtime azure path algorithm encrypted).asked =
        namedKey runtime path algorithm ∧
    ((after runtime azure (before ++ .encrypt path algorithm key random :: between))
      |>.decryptColumnEncryptionKey runtime azure path algorithm encrypted).result = .ok key

/-- The arguments are valid, and the vault that the path names has the key and uses it. -/
def Encrypts (path algorithm : JsString) (key random : Bytes) : Prop :=
  key ≠ [] ∧ ∃ request validated, namedKey runtime path algorithm = some request ∧
    validateEncryptionAlgorithm runtime algorithm = .ok validated ∧
    azure.Serves request validated key random

variable {runtime azure} {s : ColumnEncryptionAzureKeyVaultProvider}

theorem parsePath_ok {path : JsString} {keyParts : ParsedKeyPath}
    (h : parsePath runtime path = .ok keyParts) : path ≠ [] ∧ keyParts.vaultUrl ≠ [] := by
  constructor
  · rintro rfl
    cases h
  · unfold parsePath at h
    split at h
    · cases h
    · split at h
      · cases h
      · dsimp only at h
        split at h
        · cases h
        · split at h
          · cases h
          · split at h
            · cases h
            · cases h
              have hslashes : JsString.ofString "//" ≠ [] := by decide
              exact List.append_ne_nil_of_left_ne_nil
                (List.append_ne_nil_of_right_ne_nil _ hslashes) _

theorem validateEncryptionAlgorithm_ne_nil {algorithm validated : JsString}
    (h : validateEncryptionAlgorithm runtime algorithm = .ok validated) : validated ≠ [] := by
  unfold validateEncryptionAlgorithm at h
  split at h
  · cases h
  · next hne =>
    dsimp only at h
    split at h
    · split at h
      · cases h
      · cases h
        decide
    · split at h
      · cases h
      · cases h
        exact hne

/-- The vault that is asked is the one of the client, once there is a client. -/
theorem getMasterKey_of_ok {path : JsString} {keyParts : ParsedKeyPath}
    (h : parsePath runtime path = .ok keyParts) :
    s.getMasterKey runtime azure path =
      ⟨⟨some (s.keyClient.getD keyParts.vaultUrl)⟩,
        some { keyParts.request with vaultUrl := s.keyClient.getD keyParts.vaultUrl },
        azure.getKey { keyParts.request with vaultUrl := s.keyClient.getD keyParts.vaultUrl }⟩ := by
  obtain ⟨hpath, hurl⟩ := parsePath_ok h
  rw [getMasterKey, if_neg hpath, h]
  dsimp only
  rw [createKeyClient, if_neg hurl]
  rfl

theorem getMasterKey_of_error {path : JsString} {e : Failure}
    (h : parsePath runtime path = .error e) :
    (s.getMasterKey runtime azure path).provider = s ∧
      (s.getMasterKey runtime azure path).asked = none := by
  rw [getMasterKey, h]
  split <;> exact ⟨rfl, rfl⟩

theorem namedKey_eq_some {path algorithm : JsString} {request : KeyRequest}
    (h : namedKey runtime path algorithm = some request) :
    ∃ validated keyParts, validateEncryptionAlgorithm runtime algorithm = .ok validated ∧
      parsePath runtime path = .ok keyParts ∧ request = keyParts.request := by
  unfold namedKey at h
  split at h
  · next validated keyParts hvalidated hparsed =>
    cases h
    exact ⟨validated, keyParts, hvalidated, hparsed, rfl⟩
  · cases h

/-- The client after a call, and what it was asked for. -/
theorem call_of_named {c : Call} {request : KeyRequest} (h : c.named runtime = some request) :
    (s.call runtime azure c).provider = ⟨some (s.keyClient.getD request.vaultUrl)⟩ ∧
      (s.call runtime azure c).asked =
        some { request with vaultUrl := s.keyClient.getD request.vaultUrl } := by
  cases c with
  | encrypt path algorithm key random =>
    rw [Call.named] at h
    split at h
    · cases h
    · next hkey =>
      obtain ⟨validated, keyParts, hvalidated, hparsed, rfl⟩ := namedKey_eq_some h
      rw [call, encryptColumnEncryptionKey, if_neg hkey, hvalidated]
      dsimp only
      rw [getMasterKey_of_ok hparsed]
      exact ⟨rfl, rfl⟩
  | decrypt path algorithm encrypted =>
    rw [Call.named] at h
    split at h
    · cases h
    · next hencrypted =>
      obtain ⟨validated, keyParts, hvalidated, hparsed, rfl⟩ := namedKey_eq_some h
      rw [call, decryptColumnEncryptionKey, if_neg hencrypted, hvalidated]
      dsimp only
      rw [getMasterKey_of_ok hparsed]
      exact ⟨rfl, rfl⟩

/-- A call with arguments that are not valid asks nothing. -/
theorem call_of_not_named {c : Call} (h : c.named runtime = none) :
    (s.call runtime azure c).provider = s ∧ (s.call runtime azure c).asked = none := by
  cases c with
  | encrypt path algorithm key random =>
    rw [Call.named] at h
    rw [call, encryptColumnEncryptionKey]
    split
    · exact ⟨rfl, rfl⟩
    · next hkey =>
      rw [if_neg hkey, namedKey] at h
      cases hvalidated : validateEncryptionAlgorithm runtime algorithm with
      | error e => exact ⟨rfl, rfl⟩
      | ok validated =>
        cases hparsed : parsePath runtime path with
        | error e => exact getMasterKey_of_error hparsed
        | ok keyParts =>
          rw [hvalidated, hparsed] at h
          cases h
  | decrypt path algorithm encrypted =>
    rw [Call.named] at h
    rw [call, decryptColumnEncryptionKey]
    split
    · exact ⟨rfl, rfl⟩
    · next hencrypted =>
      rw [if_neg hencrypted, namedKey] at h
      cases hvalidated : validateEncryptionAlgorithm runtime algorithm with
      | error e => exact ⟨rfl, rfl⟩
      | ok validated =>
        cases hparsed : parsePath runtime path with
        | error e => exact getMasterKey_of_error hparsed
        | ok keyParts =>
          rw [hvalidated, hparsed] at h
          cases h

/-- The provider keeps its first client. -/
theorem machine_keepsFirst : (machine runtime azure).KeepsFirst keyClient
    fun c => (c.named runtime).map KeyRequest.vaultUrl := by
  intro s c s' hstep
  cases hstep
  show _ = s.keyClient.or ((c.named runtime).map KeyRequest.vaultUrl)
  cases hnamed : c.named runtime with
  | none =>
    rw [(call_of_not_named hnamed).1]
    exact Option.or_none.symm
  | some request =>
    rw [(call_of_named hnamed).1]
    cases s.keyClient <;> rfl

variable (runtime azure) in
theorem runs_after (calls : List Call) :
    (machine runtime azure).Runs .new calls (after runtime azure calls) := by
  have hruns : ∀ s, (machine runtime azure).Runs s calls
      (calls.foldl (fun s c => (s.call runtime azure c).provider) s) := by
    induction calls with
    | nil => exact fun s => .nil s
    | cons c calls ih => exact fun s => .cons trivial rfl (ih _)
  exact hruns .new

/-- A call that asks for its own key finds no client, or the one of its own vault. -/
theorem getD_of_asked {c : Call} {request : KeyRequest} (hnamed : c.named runtime = some request)
    (hasked : (s.call runtime azure c).asked = c.named runtime) :
    s.keyClient.getD request.vaultUrl = request.vaultUrl := by
  rw [(call_of_named hnamed).2, hnamed] at hasked
  exact congrArg KeyRequest.vaultUrl (Option.some.inj hasked)

/-- A call asks for its own key when the client is the one of its own vault. -/
theorem asked_eq_named_iff {c : Call} : (s.call runtime azure c).asked = c.named runtime ↔
    ∀ vaultUrl, (c.named runtime).map KeyRequest.vaultUrl = some vaultUrl →
      (s.call runtime azure c).provider.keyClient = some vaultUrl := by
  cases hnamed : c.named runtime with
  | none => exact iff_of_true (call_of_not_named hnamed).2 nofun
  | some request =>
    rw [← hnamed]
    constructor
    · intro hasked vaultUrl hvaultUrl
      rw [(call_of_named hnamed).1, getD_of_asked hnamed hasked, ← hvaultUrl, hnamed]
      rfl
    · intro hclient
      rw [(call_of_named hnamed).1, hnamed] at hclient
      rw [(call_of_named hnamed).2, Option.some.inj (hclient _ rfl), hnamed]

/-- **The vault of the first call.** Each call asks for its own key if and only if all of them name
the same vault. -/
theorem asksNamedKey_iff_sameVault (calls : List Call) :
    AsksNamedKey runtime azure calls ↔ SameVault runtime calls := by
  rw [SameVault, ← machine_keepsFirst.serves_iff rfl (runs_after runtime azure calls)]
  refine forall_congr' fun before => forall_congr' fun c => forall_congr' fun rest => ?_
  have hlast : (machine runtime azure).Runs .new (before ++ [c])
      ((after runtime azure before).call runtime azure c).provider :=
    (runs_after runtime azure before).append (.cons trivial rfl (.nil _))
  constructor
  · intro hasks s hcalls hruns vaultUrl hvaultUrl
    rw [hruns.eq hlast]
    exact asked_eq_named_iff.1 (hasks hcalls) vaultUrl hvaultUrl
  · intro hserves hcalls
    exact asked_eq_named_iff.2 (hserves _ hcalls hlast)

theorem encryptColumnEncryptionKey_result {path algorithm validated : JsString} {key random : Bytes}
    {keyParts : ParsedKeyPath} (hkey : key ≠ [])
    (hvalidated : validateEncryptionAlgorithm runtime algorithm = .ok validated)
    (hparsed : parsePath runtime path = .ok keyParts)
    (hclient : s.keyClient.getD keyParts.vaultUrl = keyParts.vaultUrl) :
    (s.encryptColumnEncryptionKey runtime azure path algorithm key random).result =
      (azure.getKey keyParts.request).bind fun masterKey =>
        encryptWith runtime azure masterKey path validated key random := by
  rw [encryptColumnEncryptionKey, if_neg hkey, hvalidated]
  dsimp only
  rw [getMasterKey_of_ok hparsed, hclient]
  rfl

variable (azure) in
theorem decryptColumnEncryptionKey_result {path algorithm validated : JsString} {encrypted : Bytes}
    {keyParts : ParsedKeyPath} (hencrypted : encrypted ≠ [])
    (hvalidated : validateEncryptionAlgorithm runtime algorithm = .ok validated)
    (hparsed : parsePath runtime path = .ok keyParts)
    (hclient : s.keyClient.getD keyParts.vaultUrl = keyParts.vaultUrl) :
    (s.decryptColumnEncryptionKey runtime azure path algorithm encrypted).asked =
        some keyParts.request ∧
      (s.decryptColumnEncryptionKey runtime azure path algorithm encrypted).result =
        (azure.getKey keyParts.request).bind fun masterKey =>
          decryptWith runtime azure masterKey path validated encrypted := by
  rw [decryptColumnEncryptionKey, if_neg hencrypted, hvalidated]
  dsimp only
  rw [getMasterKey_of_ok hparsed, hclient]
  exact ⟨rfl, rfl⟩

/-- **The key that the path names.** The provider asks for it in all calls if and only if all valid
calls name the same vault; and what it encrypts in such a history it decrypts again if and only if
the path in lower case has no more than 32767 bytes. -/
theorem usesNamedKey_iff (hruntime : runtime.Lawful) (hazure : azure.Lawful) :
    (∀ calls, AsksNamedKey runtime azure calls ↔ SameVault runtime calls) ∧
    ∀ before path algorithm key random between, Encrypts runtime azure path algorithm key random →
      (UsesNamedKey runtime azure before path algorithm key random between ↔
        SameVault runtime (before ++ .encrypt path algorithm key random :: between) ∧
          (utf8Bytes (runtime.toLowerCase path)).length ≤ 32767) := by
  refine ⟨asksNamedKey_iff_sameVault, ?_⟩
  rintro before path algorithm key random between ⟨hkey, request, validated, hnamed, hvalidated,
    masterKey, n, cipherText, hgetKey, hmodulus, hwrap, hsigns⟩
  obtain ⟨-, keyParts, -, hparsed, rfl⟩ := namedKey_eq_some hnamed
  obtain ⟨signature, hsign⟩ := hsigns
    (azure.sha256 (signedPart (utf8Bytes (runtime.toLowerCase path)) cipherText))
  set encrypt : Call := .encrypt path algorithm key random with hencrypt
  have hcall : encrypt.named runtime = some keyParts.request := by
    rw [hencrypt, Call.named, if_neg hkey, hnamed]
  have hencrypts : AsksNamedKey runtime azure (before ++ encrypt :: between) →
      ((after runtime azure before).encryptColumnEncryptionKey runtime azure path algorithm key
        random).result = .ok (envelope (utf8Bytes (runtime.toLowerCase path)) cipherText
          signature) := by
    intro hasks
    have hclient := getD_of_asked hcall (hasks before encrypt between rfl)
    rw [encryptColumnEncryptionKey_result hkey hvalidated hparsed hclient, hgetKey]
    exact encryptWith_eq_envelope hruntime hazure hmodulus hwrap hsign
  have hdecrypts : SameVault runtime (before ++ encrypt :: between) → ∀ encrypted, encrypted ≠ [] →
      ((after runtime azure (before ++ encrypt :: between)).decryptColumnEncryptionKey runtime azure
          path algorithm encrypted).asked = some keyParts.request ∧
        ((after runtime azure (before ++ encrypt :: between)).decryptColumnEncryptionKey runtime
          azure path algorithm encrypted).result =
            decryptWith runtime azure masterKey path validated encrypted := by
    intro hsame encrypted hencrypted
    have hslot : (after runtime azure (before ++ encrypt :: between)).keyClient =
        some keyParts.vaultUrl :=
      machine_keepsFirst.slot_eq rfl (runs_after runtime azure _) hsame
        (List.mem_append_right _ List.mem_cons_self) (by rw [hcall]; rfl)
    obtain ⟨hasked, hresult⟩ := decryptColumnEncryptionKey_result azure hencrypted
      hvalidated hparsed (by rw [hslot]; rfl)
    exact ⟨hasked, by rw [hresult, hgetKey]; rfl⟩
  have henvelope : decryptWith runtime azure masterKey path validated
      (envelope (utf8Bytes (runtime.toLowerCase path)) cipherText signature) = .ok key ↔
        (utf8Bytes (runtime.toLowerCase path)).length ≤ 32767 :=
    decryptWith_envelope hruntime hazure hmodulus (hazure.length_modulus hgetKey hmodulus)
      (validateEncryptionAlgorithm_ne_nil hvalidated) hwrap hsign
  have hne : envelope (utf8Bytes (runtime.toLowerCase path)) cipherText signature ≠ [] :=
    List.cons_ne_nil _ _
  constructor
  · rintro ⟨hasks, encrypted, hencrypted, -, hdecrypted⟩
    have hsame := (asksNamedKey_iff_sameVault _).1 hasks
    obtain rfl := Except.ok.inj ((hencrypts hasks).symm.trans hencrypted)
    rw [(hdecrypts hsame _ hne).2] at hdecrypted
    exact ⟨hsame, henvelope.1 hdecrypted⟩
  · rintro ⟨hsame, hpath⟩
    have hasks : AsksNamedKey runtime azure (before ++ encrypt :: between) :=
      (asksNamedKey_iff_sameVault _).2 hsame
    obtain ⟨hasked, hresult⟩ := hdecrypts hsame _ hne
    exact ⟨hasks, _, hencrypts hasks, hasked.trans hnamed.symm, hresult.trans (henvelope.2 hpath)⟩

end Histories

/-- The platform on strings of ASCII characters and URLs of the form `https://host/path`. -/
def asciiRuntime : Runtime where
  toLowerCase s := s.map fun c => if 0x41 ≤ c ∧ c ≤ 0x5A then c + 0x20 else c
  toUpperCase s := s.map fun c => if 0x61 ≤ c ∧ c ≤ 0x7A then c - 0x20 else c
  localeCompare a b := if a = b then 0 else 1
  parse path :=
    let https := JsString.ofString "https:"
    let rest := path.drop 8
    let host := rest.takeWhile (· ≠ 0x2F)
    if path.take 8 = https ++ JsString.ofString "//" then some
      { protocol := some https, host := some host, hostname := some host
        pathname := some (rest.dropWhile (· ≠ 0x2F)) }
    else none

theorem asciiRuntime_lawful : asciiRuntime.Lawful where
  localeCompare_self _ := if_pos rfl
  toUpperCase_rsa := by decide

/-- The number of bytes of the modulus. -/
def modulusSize (masterKey : KeyVaultKey) : Nat :=
  ((masterKey.key.bind JsonWebKey.n).map List.length).getD 0

/-- Vaults that have every key, each of 2048 bits; a key is wrapped with its length in front, and
signed with the digest itself. -/
def paddingAzure : Azure where
  getKey request := .ok
    { id := request.vaultUrl ++ request.name
      name := request.name
      key := some
        { kty := some (JsString.ofString "RSA"), n := some (List.replicate 256 0xFF) } }
  wrapKey masterKey _ key _ :=
    if key.length < 256 ∧ key.length < modulusSize masterKey then
      .ok ([UInt8.ofNat key.length] ++ (key ++
        List.replicate (modulusSize masterKey - key.length - 1) 0))
    else .error (error (JsString.ofString "BadParameter"))
  unwrapKey _ _ cipherText := .ok ((cipherText.drop 1).take (cipherText.headD 0).toNat)
  sign masterKey digest :=
    .ok ((digest ++ List.replicate (modulusSize masterKey) 0).take (modulusSize masterKey))
  verify masterKey digest signature :=
    .ok ((digest ++ List.replicate (modulusSize masterKey) 0).take (modulusSize masterKey) =
      signature)
  sha256 message := message.take 32

theorem modulusSize_eq {masterKey : KeyVaultKey} {n : Bytes} (h : masterKey.HasModulus n) :
    modulusSize masterKey = n.length := by
  rw [modulusSize, h]
  rfl

theorem paddingAzure_hasModulus {request : KeyRequest} {masterKey : KeyVaultKey}
    (h : paddingAzure.getKey request = .ok masterKey) :
    masterKey.HasModulus (List.replicate 256 0xFF) := by
  cases h
  rfl

theorem paddingAzure_lawful : paddingAzure.Lawful where
  unwrapKey_wrapKey := by
    intro masterKey algorithm key random cipherText h
    change (if _ then _ else _) = _ at h
    split at h
    · next hkey =>
      cases h
      have hlength : (UInt8.ofNat key.length).toNat = key.length :=
        UInt8.toNat_ofNat_of_lt' hkey.1
      show Except.ok ((key ++ _).take (UInt8.ofNat key.length).toNat) = _
      rw [hlength, List.take_left]
    · cases h
  verify_sign := by
    intro masterKey digest signature h
    cases h
    exact congrArg Except.ok (decide_eq_true rfl)
  length_wrapKey := by
    intro masterKey n algorithm key random cipherText hmodulus h
    change (if _ then _ else _) = _ at h
    split at h
    · next hkey =>
      cases h
      rw [modulusSize_eq hmodulus] at hkey ⊢
      simp only [List.length_append, List.length_singleton, List.length_replicate]
      omega
    · cases h
  length_sign := by
    intro masterKey n digest signature hmodulus h
    cases h
    rw [modulusSize_eq hmodulus, List.length_take, List.length_append, List.length_replicate]
    omega
  length_modulus := by
    intro request masterKey n h hmodulus
    cases h
    cases hmodulus
    rw [List.length_replicate]
    omega

theorem paddingAzure_serves (request : KeyRequest) (algorithm : JsString) {key : Bytes}
    (hkey : key.length < 256) (random : Bytes) :
    paddingAzure.Serves request algorithm key random := by
  obtain ⟨masterKey, hgetKey⟩ : ∃ masterKey, paddingAzure.getKey request = .ok masterKey :=
    ⟨_, rfl⟩
  have hmodulus := paddingAzure_hasModulus hgetKey
  have hfits : key.length < 256 ∧ key.length < modulusSize masterKey := by
    rw [modulusSize_eq hmodulus, List.length_replicate]
    exact ⟨hkey, hkey⟩
  exact ⟨masterKey, _, _, hgetKey, hmodulus, if_pos hfits, fun digest => ⟨_, rfl⟩⟩

def pathA : JsString := JsString.ofString "https://a.vault.azure.net/keys/k"

def pathB : JsString := JsString.ofString "https://b.vault.azure.net/keys/k"

theorem encrypts_pathA :
    Encrypts asciiRuntime paddingAzure pathA (JsString.ofString "RSA_OAEP") [1, 2, 3] [] := by
  have hnamed : namedKey asciiRuntime pathA (JsString.ofString "RSA_OAEP") = some
      { vaultUrl := JsString.ofString "https://a.vault.azure.net"
        name := JsString.ofString "k"
        version := none } := by decide
  exact ⟨by decide, _, JsString.ofString "RSA-OAEP", hnamed, by decide,
    paddingAzure_serves _ _ (by decide) []⟩

theorem usesNamedKey_iff_pathA : UsesNamedKey asciiRuntime paddingAzure [] pathA
    (JsString.ofString "RSA_OAEP") [1, 2, 3] []
    [.decrypt pathA (JsString.ofString "RSA-OAEP") [0x01]] :=
  ((usesNamedKey_iff asciiRuntime_lawful paddingAzure_lawful).2 _ _ _ _ _ _ encrypts_pathA).2
    ⟨by decide, by decide⟩

/-- A call for a second vault asks the first one. -/
theorem not_usesNamedKey : ¬ ∀ (runtime : Runtime) (azure : Azure), runtime.Lawful → azure.Lawful →
    ∀ before path algorithm key random between, Encrypts runtime azure path algorithm key random →
      (utf8Bytes path).length ≤ 32767 →
        UsesNamedKey runtime azure before path algorithm key random between := by
  intro h
  have huses := h asciiRuntime paddingAzure asciiRuntime_lawful paddingAzure_lawful
    [.encrypt pathB (JsString.ofString "RSA_OAEP") [1, 2, 3] []] pathA
    (JsString.ofString "RSA_OAEP") [1, 2, 3] [] [] encrypts_pathA (by decide)
  exact absurd (huses.asks [_] _ [] rfl) (by decide)

end ColumnEncryptionAzureKeyVaultProvider

end Tedious.AlwaysEncrypted
