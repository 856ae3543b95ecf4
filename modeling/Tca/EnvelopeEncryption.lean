import Tca.Base64
import Tca.PythonJson
import Mathlib.Data.List.Sort

/-!
# Envelope encryption of session strings

A payload is encrypted with a random key of its own, which is wrapped by the
key-encryption key and travels with the payload in a JSON document.  The file
embeds both directions with their checks and proves that decrypting inverts
encrypting, and which payloads escape the one exception that callers expect.
-/

namespace Tca

/-- `ENVELOPE_VERSION`. -/
def envelopeVersion : Int :=
  1

/-- `DATA_ENCRYPTION_KEY_BYTES`. -/
def dataEncryptionKeyBytes : Nat :=
  32

/-- `AES_GCM_NONCE_BYTES`. -/
def aesGcmNonceBytes : Nat :=
  12

/-- `_AES_KEY_SIZES_BYTES`, sorted. -/
def aesKeySizesBytes : List Nat :=
  [16, 24, 32]

/-- `EnvelopeDecryptionError(_DECRYPTION_ERROR_MESSAGE)`. -/
def decryptionError : PyError :=
  .envelopeDecryptionError
    "unable to decrypt payload with provided key-encryption key"

/-- Why `AESGCM.decrypt` raises. -/
inductive GcmFailure where
  | invalidTag
  | valueError
  deriving DecidableEq

/-- The AES key wrap, whose unwrapping may raise `InvalidUnwrap`, and AES-GCM
without associated data. -/
structure AesLibrary where
  keyWrap (wrappingKey keyToWrap : List UInt8) : List UInt8
  keyUnwrap (wrappingKey wrappedKey : List UInt8) : Option (List UInt8)
  gcmEncrypt (key nonce data : List UInt8) : List UInt8
  gcmDecrypt (key nonce data : List UInt8) : Except GcmFailure (List UInt8)

/-- `secrets.token_bytes(size)`. -/
structure TokenBytes (size : Nat) where
  bytes : List UInt8
  length_eq : bytes.length = size

/-- `_validate_aes_key`. -/
def validateAesKey (name : String) (key : List UInt8) : Except PyError Unit :=
  if key.length ∈ aesKeySizesBytes then .ok ()
  else
    .error (.valueError (name ++ " must be an AES key length (" ++
      ", ".intercalate (aesKeySizesBytes.map toString) ++ " bytes)."))

/-- `_validate_dek`. -/
def validateDek (dataEncryptionKey : List UInt8) : Except PyError Unit :=
  if dataEncryptionKey.length = dataEncryptionKeyBytes then .ok ()
  else
    .error (.valueError ("data_encryption_key must be exactly " ++
      toString dataEncryptionKeyBytes ++ " bytes."))

/-- `_encode_bytes`. -/
def encodeBytes (value : List UInt8) : Json.Value (List Char) :=
  .str (.ofChars (Base64.encode value))

/-- `encoded.encode("ascii")`, with no result for `UnicodeEncodeError`. -/
def encodeAscii (encoded : Json.Text) : Option (List Char) := do
  let chars ← encoded.chars?
  if chars.all fun char => char.toNat < 128 then some chars else none

/-- `_decode_bytes` of what a key of the payload has. -/
def decodeBytes (encoded : Option (Json.Value (List Char))) :
    Except PyError (List UInt8) :=
  match encoded with
  | some (.str text) =>
      match (encodeAscii text).bind Base64.decode with
      | some bytes => .ok bytes
      | none => .error decryptionError
  | _ => .error decryptionError

/-- `text.encode("utf-8")`. -/
def encodeUtf8 (text : List Char) : List UInt8 :=
  (String.ofList text).toUTF8.data.toList

/-- `payload.decode("utf-8")`, with no result for `UnicodeDecodeError`. -/
def decodeUtf8 (payload : List UInt8) : Option (List Char) :=
  (String.fromUTF8? ⟨payload.toArray⟩).map String.toList

/-- `_decode_payload`. -/
def decodePayload (recursionLimit : Nat) (ciphertextPayload : List UInt8) :
    Except PyError (List (Json.Text × Json.Value (List Char))) :=
  match decodeUtf8 ciphertextPayload with
  | none => .error decryptionError
  | some text =>
      match (jsonDecoder .ok recursionLimit).loads text with
      | .error .malformed => .error decryptionError
      | .error (.tooDeep container) => .error (jsonRecursionError container)
      | .error (.raised error) => .error error
      | .ok (.object members) => .ok members
      | .ok _ => .error decryptionError

/-- `sort_keys=True`, with the keys as they stand in a decoded document. -/
def sortKeys (payload : List (String × Json.Value (List Char))) :
    List (Json.Text × Json.Value (List Char)) :=
  (payload.insertionSort fun first second => first.1 ≤ second.1).map
    fun (key, value) => (.ofChars key.toList, value)

section Aes

variable (aes : AesLibrary)

/-- `wrap_data_encryption_key`. -/
def wrapDataEncryptionKey (dataEncryptionKey keyEncryptionKey : List UInt8) :
    Except PyError (List UInt8) := do
  validateDek dataEncryptionKey
  validateAesKey "key_encryption_key" keyEncryptionKey
  return aes.keyWrap keyEncryptionKey dataEncryptionKey

/-- `unwrap_data_encryption_key`. -/
def unwrapDataEncryptionKey
    (wrappedDataEncryptionKey keyEncryptionKey : List UInt8) :
    Except PyError (List UInt8) := do
  validateAesKey "key_encryption_key" keyEncryptionKey
  match aes.keyUnwrap keyEncryptionKey wrappedDataEncryptionKey with
  | none => .error decryptionError
  | some unwrapped =>
      if unwrapped.length ≠ dataEncryptionKeyBytes then .error decryptionError
      else return unwrapped

/-- `encrypt_with_envelope` with what `secrets` draws. -/
def encryptWithEnvelope
    (dataEncryptionKey : TokenBytes dataEncryptionKeyBytes)
    (nonce : TokenBytes aesGcmNonceBytes)
    (plaintext keyEncryptionKey : List UInt8) :
    Except PyError (List UInt8) := do
  validateAesKey "key_encryption_key" keyEncryptionKey
  let wrappedDek ← wrapDataEncryptionKey aes dataEncryptionKey.bytes
    keyEncryptionKey
  let ciphertext :=
    aes.gcmEncrypt dataEncryptionKey.bytes nonce.bytes plaintext
  let payload := [("version", .int envelopeVersion),
    ("wrapped_data_encryption_key", encodeBytes wrappedDek),
    ("nonce", encodeBytes nonce.bytes), ("ciphertext", encodeBytes ciphertext)]
  let serialized ← jsonEncoder.dumps (.object (sortKeys payload))
  return encodeUtf8 serialized

/-- `decrypt_with_envelope`. -/
def decryptWithEnvelope (recursionLimit : Nat)
    (ciphertextPayload keyEncryptionKey : List UInt8) :
    Except PyError (List UInt8) := do
  validateAesKey "key_encryption_key" keyEncryptionKey
  let payload ← decodePayload recursionLimit ciphertextPayload
  match Json.member? payload "version" with
  | some (.int version) =>
      if version ≠ envelopeVersion then .error decryptionError
      else do
        let wrappedDek ←
          decodeBytes (Json.member? payload "wrapped_data_encryption_key")
        let nonce ← decodeBytes (Json.member? payload "nonce")
        let ciphertext ← decodeBytes (Json.member? payload "ciphertext")
        if nonce.length ≠ aesGcmNonceBytes then .error decryptionError
        else do
          let dataEncryptionKey ←
            unwrapDataEncryptionKey aes wrappedDek keyEncryptionKey
          match aes.gcmDecrypt dataEncryptionKey nonce ciphertext with
          | .ok plaintext => return plaintext
          | .error _ => .error decryptionError
  | _ => .error decryptionError

end Aes

section RoundTrip

theorem decodeUtf8_encodeUtf8 (text : List Char) :
    decodeUtf8 (encodeUtf8 text) = some text := by
  have valid : (String.ofList text).toByteArray.IsValidUTF8 :=
    (String.ofList text).isValidUTF8
  have bytes : (⟨(encodeUtf8 text).toArray⟩ : ByteArray) =
      (String.ofList text).toByteArray := by
    rw [encodeUtf8, Array.toArray_toList]
    rfl
  rw [decodeUtf8, bytes, String.fromUTF8?, dif_pos valid]
  exact congrArg some String.toList_ofList

theorem sortKeys_payload (version wrappedDek nonce ciphertext :
      Json.Value (List Char)) :
    sortKeys [("version", version), ("wrapped_data_encryption_key", wrappedDek),
      ("nonce", nonce), ("ciphertext", ciphertext)] =
      [(.ofChars "ciphertext".toList, ciphertext),
        (.ofChars "nonce".toList, nonce), (.ofChars "version".toList, version),
        (.ofChars "wrapped_data_encryption_key".toList, wrappedDek)] := by
  simp [sortKeys]

theorem decodeBytes_encodeBytes (value : List UInt8) :
    decodeBytes (some (encodeBytes value)) = .ok value := by
  have isAscii : (Base64.encode value).all (fun char => char.toNat < 128) =
      true := by
    rw [List.all_eq_true]
    intro char member
    exact decide_eq_true (Base64.encode_ascii value char member)
  have encoded : encodeAscii (.ofChars (Base64.encode value)) =
      some (Base64.encode value) := by
    rw [encodeAscii, Json.Text.chars?_ofChars, Option.bind_eq_bind,
      Option.bind_some, if_pos isAscii]
  simp only [decodeBytes, encodeBytes, encoded, Option.bind_some,
    Base64.decode_encode]

/-- The document of a payload, as it is printed. -/
def envelopeMembers (wrappedDek nonce ciphertext : List UInt8) :
    List (Json.Text × Json.Value (List Char)) :=
  [(.ofChars "ciphertext".toList, encodeBytes ciphertext),
    (.ofChars "nonce".toList, encodeBytes nonce),
    (.ofChars "version".toList, .int envelopeVersion),
    (.ofChars "wrapped_data_encryption_key".toList, encodeBytes wrappedDek)]

variable {wrappedDek nonce ciphertext : List UInt8} {recursionLimit : Nat}

theorem plain_envelopeMembers (deepEnough : 0 < recursionLimit) :
    Json.Plain recursionLimit
      (.object (envelopeMembers wrappedDek nonce ciphertext)) := by
  obtain ⟨depth, rfl⟩ := Nat.exists_eq_add_one.mpr deepEnough
  intro member isMember
  simp only [envelopeMembers, List.mem_cons, List.not_mem_nil, or_false]
    at isMember
  have plainBytes : ∀ value, Json.Plain depth (encodeBytes value) := by
    intro value
    have plain : Json.Plain 0 (encodeBytes value) := ⟨_, rfl⟩
    exact plain.atDepth depth
  have plainVersion : Json.Plain 0
      (.int envelopeVersion : Json.Value (List Char)) := trivial
  rcases isMember with rfl | rfl | rfl | rfl
  · exact ⟨⟨_, rfl⟩, plainBytes ciphertext⟩
  · exact ⟨⟨_, rfl⟩, plainBytes nonce⟩
  · exact ⟨⟨_, rfl⟩, plainVersion.atDepth depth⟩
  · exact ⟨⟨_, rfl⟩, plainBytes wrappedDek⟩

/-- The decoder reads the document that the encoder prints. -/
theorem decodePayload_envelope (deepEnough : 0 < recursionLimit)
    {serialized : List Char}
    (printed : jsonEncoder.dumps
      (.object (envelopeMembers wrappedDek nonce ciphertext)) =
        .ok serialized) :
    decodePayload recursionLimit (encodeUtf8 serialized) =
      .ok (envelopeMembers wrappedDek nonce ciphertext) := by
  have loaded : (jsonDecoder .ok recursionLimit).loads serialized =
      .ok (.object (envelopeMembers wrappedDek nonce ciphertext)) :=
    Json.loads_dumps jsonEncoder_readBy (plain_envelopeMembers deepEnough)
      printed
  simp only [decodePayload, decodeUtf8_encodeUtf8, loaded]

variable {aes : AesLibrary}

theorem validateAesKey_of_mem {name : String} {key : List UInt8}
    (valid : key.length ∈ aesKeySizesBytes) :
    validateAesKey name key = .ok () :=
  if_pos valid

/-- What the encryption returns. -/
theorem encryptWithEnvelope_eq
    (dataEncryptionKey : TokenBytes dataEncryptionKeyBytes)
    (nonce : TokenBytes aesGcmNonceBytes) (plaintext : List UInt8)
    {keyEncryptionKey : List UInt8}
    (valid : keyEncryptionKey.length ∈ aesKeySizesBytes) :
    ∃ serialized,
      jsonEncoder.dumps (.object (envelopeMembers
        (aes.keyWrap keyEncryptionKey dataEncryptionKey.bytes) nonce.bytes
        (aes.gcmEncrypt dataEncryptionKey.bytes nonce.bytes plaintext))) =
          .ok serialized ∧
      encryptWithEnvelope aes dataEncryptionKey nonce plaintext
        keyEncryptionKey = .ok (encodeUtf8 serialized) := by
  have wrapped : wrapDataEncryptionKey aes dataEncryptionKey.bytes
      keyEncryptionKey =
        .ok (aes.keyWrap keyEncryptionKey dataEncryptionKey.bytes) := by
    rw [wrapDataEncryptionKey, validateDek,
      if_pos dataEncryptionKey.length_eq, validateAesKey_of_mem valid]
    rfl
  refine ⟨_, rfl, ?_⟩
  rw [encryptWithEnvelope, validateAesKey_of_mem valid, wrapped]
  dsimp only [bind, Except.bind]
  rw [sortKeys_payload]
  rfl

/-- The decryption of a payload with the key of its document unwrapped. -/
theorem decryptWithEnvelope_eq {payload keyEncryptionKey : List UInt8}
    (valid : keyEncryptionKey.length ∈ aesKeySizesBytes)
    (decoded : decodePayload recursionLimit payload =
      .ok (envelopeMembers wrappedDek nonce ciphertext))
    (nonceLength : nonce.length = aesGcmNonceBytes) :
    decryptWithEnvelope aes recursionLimit payload keyEncryptionKey =
      (do
        let dataEncryptionKey ←
          unwrapDataEncryptionKey aes wrappedDek keyEncryptionKey
        match aes.gcmDecrypt dataEncryptionKey nonce ciphertext with
        | .ok plaintext => return plaintext
        | .error _ => .error decryptionError) := by
  have version : Json.member? (envelopeMembers wrappedDek nonce ciphertext)
      "version" = some (.int envelopeVersion) := rfl
  have wrappedRead : Json.member?
      (envelopeMembers wrappedDek nonce ciphertext)
      "wrapped_data_encryption_key" = some (encodeBytes wrappedDek) := rfl
  have nonceRead : Json.member? (envelopeMembers wrappedDek nonce ciphertext)
      "nonce" = some (encodeBytes nonce) := rfl
  have ciphertextRead : Json.member?
      (envelopeMembers wrappedDek nonce ciphertext) "ciphertext" =
        some (encodeBytes ciphertext) := rfl
  rw [decryptWithEnvelope, validateAesKey_of_mem valid, decoded]
  dsimp only [bind, Except.bind]
  simp only [version, wrappedRead, nonceRead, ciphertextRead,
    decodeBytes_encodeBytes, ne_eq, not_true_eq_false, if_false, nonceLength]

/-- What the AES library promises: unwrapping inverts wrapping, and decrypting
inverts encrypting. -/
structure AesLibrary.Lawful (aes : AesLibrary) : Prop where
  unwrap_wrap : ∀ wrappingKey keyToWrap,
    wrappingKey.length ∈ aesKeySizesBytes →
    keyToWrap.length = dataEncryptionKeyBytes →
    aes.keyUnwrap wrappingKey (aes.keyWrap wrappingKey keyToWrap) =
      some keyToWrap
  decrypt_encrypt : ∀ key nonce data, key.length = dataEncryptionKeyBytes →
    nonce.length = aesGcmNonceBytes →
    aes.gcmDecrypt key nonce (aes.gcmEncrypt key nonce data) = .ok data

/-- Every plaintext can be encrypted under a key of valid length, whatever is
drawn.  The payload decrypts to it under the same key, and to an
`EnvelopeDecryptionError` under a key that does not unwrap. -/
theorem decrypt_encrypt_with_envelope (lawful : aes.Lawful)
    (deepEnough : 0 < recursionLimit)
    (dataEncryptionKey : TokenBytes dataEncryptionKeyBytes)
    (nonce : TokenBytes aesGcmNonceBytes)
    (plaintext keyEncryptionKey : List UInt8)
    (valid : keyEncryptionKey.length ∈ aesKeySizesBytes) :
    ∃ payload,
      encryptWithEnvelope aes dataEncryptionKey nonce plaintext
        keyEncryptionKey = .ok payload ∧
      decryptWithEnvelope aes recursionLimit payload keyEncryptionKey =
        .ok plaintext ∧
      ∀ otherKey : List UInt8, otherKey.length ∈ aesKeySizesBytes →
        aes.keyUnwrap otherKey
          (aes.keyWrap keyEncryptionKey dataEncryptionKey.bytes) = none →
        decryptWithEnvelope aes recursionLimit payload otherKey =
          .error decryptionError := by
  obtain ⟨serialized, printed, encrypted⟩ := @encryptWithEnvelope_eq aes
    dataEncryptionKey nonce plaintext keyEncryptionKey valid
  have decoded := decodePayload_envelope deepEnough printed
  refine ⟨encodeUtf8 serialized, encrypted, ?_, ?_⟩
  · rw [decryptWithEnvelope_eq valid decoded nonce.length_eq,
      unwrapDataEncryptionKey, validateAesKey_of_mem valid]
    dsimp only [bind, Except.bind]
    rw [lawful.unwrap_wrap _ _ valid dataEncryptionKey.length_eq]
    simp only [dataEncryptionKey.length_eq, ne_eq, not_true_eq_false, if_false]
    show (match aes.gcmDecrypt _ _ _ with | .ok plaintext => _ | .error _ => _)
      = _
    rw [lawful.decrypt_encrypt _ _ _ dataEncryptionKey.length_eq
      nonce.length_eq]
    rfl
  · intro otherKey otherValid locked
    rw [decryptWithEnvelope_eq otherValid decoded nonce.length_eq,
      unwrapDataEncryptionKey, validateAesKey_of_mem otherValid]
    dsimp only [bind, Except.bind]
    rw [locked]

/-- The key-encryption key of a known wrapping. -/
def sampleKek : List UInt8 :=
  (List.range 32).map UInt8.ofNat

def sampleDek : TokenBytes dataEncryptionKeyBytes where
  bytes := [0, 17, 34, 51, 68, 85, 102, 119, 136, 153, 170, 187, 204, 221, 238,
    255, 0, 1, 2, 3, 4, 5, 6, 7, 8, 9, 10, 11, 12, 13, 14, 15]
  length_eq := rfl

def sampleNonce : TokenBytes aesGcmNonceBytes where
  bytes := List.replicate 12 0
  length_eq := rfl

def samplePlaintext : List UInt8 :=
  [107, 101, 107]

/-- The wrapping of `sampleDek` under `sampleKek`. -/
def sampleWrapped : List UInt8 :=
  [40, 201, 244, 4, 196, 184, 16, 244, 203, 204, 179, 92, 251, 135, 248,
    38, 63, 87, 134, 226, 216, 14, 211, 38, 203, 199, 240, 231, 26, 153,
    244, 59, 251, 152, 139, 155, 122, 2, 221, 33]

/-- `samplePlaintext` under `sampleDek`, with its tag. -/
def sampleCiphertext : List UInt8 :=
  [32, 63, 91, 181, 80, 176, 230, 26, 128, 212, 203, 68, 34, 47, 135, 159,
    201, 248, 165]

/-- The AES functions on the sample keys and texts.  Elsewhere they are a
stand-in with the same laws: it hides nothing and checks lengths only. -/
def sampleAes : AesLibrary where
  keyWrap wrappingKey keyToWrap :=
    if wrappingKey = sampleKek ∧ keyToWrap = sampleDek.bytes then sampleWrapped
    else keyToWrap
  keyUnwrap wrappingKey wrappedKey :=
    if wrappingKey = sampleKek ∧ wrappedKey = sampleWrapped then
      some sampleDek.bytes
    else if wrappedKey.length = dataEncryptionKeyBytes then some wrappedKey
    else none
  gcmEncrypt key nonce data :=
    if key = sampleDek.bytes ∧ nonce = sampleNonce.bytes ∧
        data = samplePlaintext then sampleCiphertext
    else data ++ List.replicate 16 0
  gcmDecrypt key nonce data :=
    if key = sampleDek.bytes ∧ nonce = sampleNonce.bytes ∧
        data = sampleCiphertext then .ok samplePlaintext
    else if data.length < 16 then .error .invalidTag
    else .ok (data.take (data.length - 16))

theorem sampleAes_lawful : sampleAes.Lawful where
  unwrap_wrap := by
    intro wrappingKey keyToWrap valid length
    by_cases sample : wrappingKey = sampleKek ∧ keyToWrap = sampleDek.bytes
    · simp only [sampleAes, sample, and_self, if_true]
    · have notWrapped : keyToWrap ≠ sampleWrapped := by
        rintro rfl
        cases length
      simp only [sampleAes, if_neg sample, notWrapped, and_false, if_false,
        length, if_true]
  decrypt_encrypt := by
    intro key nonce data keyLength nonceLength
    by_cases sample : key = sampleDek.bytes ∧ nonce = sampleNonce.bytes ∧
      data = samplePlaintext
    · simp only [sampleAes, sample, and_self, if_true]
    · have notSample : data ++ List.replicate 16 0 ≠ sampleCiphertext := by
        intro same
        have last := congrArg List.getLast? same
        rw [List.getLast?_append] at last
        cases last
      have long : ¬(data ++ List.replicate 16 (0 : UInt8)).length < 16 := by
        rw [List.length_append, List.length_replicate]
        omega
      simp only [sampleAes, if_neg sample, notSample, and_false, if_false,
        if_neg long]
      simp

/-- The sample text under the sample key, and under a key that does not unwrap
it. -/
theorem sample_decrypt_encrypt_with_envelope :
    ∃ payload,
      encryptWithEnvelope sampleAes sampleDek sampleNonce samplePlaintext
        sampleKek = .ok payload ∧
      decryptWithEnvelope sampleAes 1000 payload sampleKek =
        .ok samplePlaintext ∧
      decryptWithEnvelope sampleAes 1000 payload (List.replicate 16 0) =
        .error decryptionError := by
  obtain ⟨payload, encrypted, decrypted, locked⟩ :=
    @decrypt_encrypt_with_envelope 1000 sampleAes sampleAes_lawful (by decide)
      sampleDek sampleNonce samplePlaintext sampleKek (by decide)
  exact ⟨payload, encrypted, decrypted,
    locked (List.replicate 16 0) (by decide) (by decide)⟩

end RoundTrip

section Failures

variable {Value Output : Type}

/-- A call that returns or raises `EnvelopeDecryptionError`. -/
def EndsCleanly (outcome : Except PyError Value) : Prop :=
  ∀ error, outcome = .error error →
    ∃ message, error = .envelopeDecryptionError message

theorem endsCleanly_ok (value : Value) :
    EndsCleanly (.ok value : Except PyError Value) := by
  intro error failed
  cases failed

theorem endsCleanly_decryptionError :
    EndsCleanly (.error decryptionError : Except PyError Value) := by
  intro error failed
  obtain rfl := Except.error.inj failed
  exact ⟨_, rfl⟩

theorem EndsCleanly.bind {first : Except PyError Value}
    {next : Value → Except PyError Output} (clean : EndsCleanly first)
    (cleanNext : ∀ value, EndsCleanly (next value)) :
    EndsCleanly (first >>= next) := by
  cases first with
  | ok value => exact cleanNext value
  | error problem =>
      intro error failed
      obtain rfl := Except.error.inj failed
      exact clean _ rfl

/-- An exception of the first step is one of the call. -/
theorem EndsCleanly.of_bind {first : Except PyError Value}
    {next : Value → Except PyError Output}
    (clean : EndsCleanly (first >>= next)) : EndsCleanly first := by
  intro error failed
  rw [failed] at clean
  exact clean error rfl

theorem decodeBytes_endsCleanly (encoded : Option (Json.Value (List Char))) :
    EndsCleanly (decodeBytes encoded) := by
  unfold decodeBytes
  split
  · split
    · exact endsCleanly_ok _
    · exact endsCleanly_decryptionError
  · exact endsCleanly_decryptionError

theorem unwrapDataEncryptionKey_endsCleanly (aes : AesLibrary)
    (wrappedDek : List UInt8) {keyEncryptionKey : List UInt8}
    (valid : keyEncryptionKey.length ∈ aesKeySizesBytes) :
    EndsCleanly (unwrapDataEncryptionKey aes wrappedDek keyEncryptionKey) := by
  rw [unwrapDataEncryptionKey, validateAesKey_of_mem valid]
  refine (endsCleanly_ok ()).bind fun _ => ?_
  split
  · exact endsCleanly_decryptionError
  · split
    · exact endsCleanly_decryptionError
    · exact endsCleanly_ok _

/-- Only the decoding of the document decides whether a decryption raises
anything else. -/
theorem decryptWithEnvelope_endsCleanly_iff (aes : AesLibrary)
    {recursionLimit : Nat} {payload keyEncryptionKey : List UInt8}
    (valid : keyEncryptionKey.length ∈ aesKeySizesBytes) :
    EndsCleanly
        (decryptWithEnvelope aes recursionLimit payload keyEncryptionKey) ↔
      EndsCleanly (decodePayload recursionLimit payload) := by
  rw [decryptWithEnvelope, validateAesKey_of_mem valid]
  show EndsCleanly (decodePayload recursionLimit payload >>= _) ↔ _
  constructor
  · exact EndsCleanly.of_bind
  · intro clean
    refine clean.bind fun members => ?_
    split
    · split
      · exact endsCleanly_decryptionError
      refine (decodeBytes_endsCleanly _).bind fun wrappedDek => ?_
      refine (decodeBytes_endsCleanly _).bind fun nonce => ?_
      refine (decodeBytes_endsCleanly _).bind fun ciphertext => ?_
      split
      · exact endsCleanly_decryptionError
      refine (unwrapDataEncryptionKey_endsCleanly aes wrappedDek valid).bind
        fun dataEncryptionKey => ?_
      split
      · exact endsCleanly_ok _
      · exact endsCleanly_decryptionError
    · exact endsCleanly_decryptionError

/-- `json.loads` reads a text or finds it malformed; it meets neither an integer
with too many digits nor containers that nest too deep before. -/
def WithinJsonLimits (recursionLimit : Nat) (text : List Char) : Prop :=
  ∀ failure, (jsonDecoder .ok recursionLimit).loads text = .error failure →
    failure = .malformed

theorem decodePayload_endsCleanly_iff {recursionLimit : Nat}
    {payload : List UInt8} :
    EndsCleanly (decodePayload recursionLimit payload) ↔
      ∀ text ∈ decodeUtf8 payload, WithinJsonLimits recursionLimit text := by
  cases decoded : decodeUtf8 payload with
  | none =>
      simp only [decodePayload, decoded]
      apply iff_of_true endsCleanly_decryptionError
      intro text absent
      cases absent
  | some text =>
      simp only [decodePayload, decoded, Option.mem_some_iff, forall_eq']
      unfold WithinJsonLimits
      split
      · rename_i failed
        apply iff_of_true endsCleanly_decryptionError
        intro failure same
        rw [failed] at same
        exact (Except.error.inj same).symm
      · rename_i container failed
        constructor
        · intro clean
          obtain ⟨message, same⟩ := clean _ rfl
          cases same
        · intro within
          cases within _ failed
      · rename_i error failed
        constructor
        · intro clean
          obtain ⟨message, same⟩ := clean _ rfl
          obtain ⟨other, rfl⟩ := json_raised (by
            intro name problem refused
            cases refused) failed
          cases same
        · intro within
          cases within _ failed
      · rename_i members read
        apply iff_of_true (endsCleanly_ok members)
        intro failure same
        rw [read] at same
        cases same
      · rename_i value noObject read
        apply iff_of_true endsCleanly_decryptionError
        intro failure same
        rw [read] at same
        cases same

theorem endsCleanly_iff {outcome : Except PyError Value} :
    EndsCleanly outcome ↔ (∃ value, outcome = .ok value) ∨
      ∃ message, outcome = .error (.envelopeDecryptionError message) := by
  cases outcome with
  | ok value => simp [endsCleanly_ok]
  | error error => simp [EndsCleanly]

/-- A decryption under a key of valid length ends cleanly just when the payload
is no UTF-8, or its text is within the limits of the JSON decoder. -/
theorem decrypt_with_envelope_clean_iff (aes : AesLibrary)
    (recursionLimit : Nat) (ciphertextPayload keyEncryptionKey : List UInt8)
    (valid : keyEncryptionKey.length ∈ aesKeySizesBytes) :
    ((∃ plaintext, decryptWithEnvelope aes recursionLimit ciphertextPayload
        keyEncryptionKey = .ok plaintext) ∨
      ∃ message, decryptWithEnvelope aes recursionLimit ciphertextPayload
        keyEncryptionKey = .error (.envelopeDecryptionError message)) ↔
      ∀ text ∈ decodeUtf8 ciphertextPayload,
        WithinJsonLimits recursionLimit text := by
  rw [← decodePayload_endsCleanly_iff,
    ← decryptWithEnvelope_endsCleanly_iff aes valid, endsCleanly_iff]

/-- An empty document is within the limits, and is turned away cleanly. -/
theorem empty_document_decrypts_cleanly :
    (∃ plaintext, decryptWithEnvelope sampleAes 1000
        (encodeUtf8 ['{', '}']) sampleKek = .ok plaintext) ∨
      ∃ message, decryptWithEnvelope sampleAes 1000 (encodeUtf8 ['{', '}'])
        sampleKek = .error (.envelopeDecryptionError message) := by
  rw [decrypt_with_envelope_clean_iff sampleAes 1000 (encodeUtf8 ['{', '}'])
    sampleKek (by decide), decodeUtf8_encodeUtf8]
  intro text isText failure failed
  obtain rfl := Option.some.inj isText
  cases failed

/-- A payload that is an integer with too many digits raises the `ValueError` of
the conversion. -/
theorem decrypt_long_integer (aes : AesLibrary) (recursionLimit : Nat)
    {keyEncryptionKey : List UInt8} {numeral : List Char}
    (valid : keyEncryptionKey.length ∈ aesKeySizesBytes)
    (isDigits : ∀ digit ∈ numeral, digit.isDigit = true)
    (noZero : numeral.head? ≠ some '0')
    (long : maxStrDigits < numeral.length) :
    ∃ message, decryptWithEnvelope aes recursionLimit (encodeUtf8 numeral)
      keyEncryptionKey = .error (.valueError message) := by
  have nonempty : numeral ≠ [] := by
    rintro rfl
    cases long
  have whole : Json.Whole numeral := .inr ⟨nonempty, noZero, isDigits⟩
  have unsigned : takeSign numeral = (false, numeral) := by
    obtain ⟨first, others, rfl⟩ := List.exists_cons_of_ne_nil nonempty
    have isDigit := isDigits first List.mem_cons_self
    have noMinus : first ≠ '-' := by
      rintro rfl
      cases isDigit
    have noPlus : first ≠ '+' := by
      rintro rfl
      cases isDigit
    rw [takeSign, if_neg noMinus, if_neg noPlus]
  obtain ⟨message, refused⟩ : ∃ message,
      jsonInt numeral = .error (.valueError message) := by
    rw [jsonInt, unsigned]
    simp only [if_neg (Nat.not_le.mpr long)]
    exact ⟨_, rfl⟩
  have failed : (jsonDecoder .ok recursionLimit).loads numeral =
      .error (.raised (.valueError message)) :=
    Json.loads_refused (.positive whole) refused
  refine ⟨message, ?_⟩
  rw [decryptWithEnvelope, validateAesKey_of_mem valid, decodePayload,
    decodeUtf8_encodeUtf8]
  simp only [failed]
  rfl

/-- The payload `111…1` of 4301 digits is refused with another exception. -/
theorem long_integer_escapes :
    ¬((∃ plaintext, decryptWithEnvelope sampleAes 1000
        (encodeUtf8 (List.replicate 4301 '1')) sampleKek = .ok plaintext) ∨
      ∃ message, decryptWithEnvelope sampleAes 1000
        (encodeUtf8 (List.replicate 4301 '1')) sampleKek =
          .error (.envelopeDecryptionError message)) := by
  have ones : ∀ digit ∈ List.replicate 4301 '1', digit.isDigit = true := by
    intro digit member
    rw [List.eq_of_mem_replicate member]
    decide
  obtain ⟨message, raised⟩ := decrypt_long_integer sampleAes 1000
    (show sampleKek.length ∈ aesKeySizesBytes by decide) ones (by
      rw [List.head?_replicate]
      decide) (by
      rw [List.length_replicate]
      decide)
  rw [raised]
  rintro (⟨plaintext, returned⟩ | ⟨other, same⟩)
  · cases returned
  · cases same

end Failures

end Tca
