import Tca.EnvelopeEncryption
import Tca.TelegramLogin
import Tca.RowRanking
import Tca.GuardedRuns

/-!
# Stored Telegram credentials

Accounts are stored with their API hash and their session encrypted under a
key-encryption key.  The account loader decrypts all of them with one key, in
the order of their ids.  The file embeds both directions and says which tables
a key opens: those whose columns were all sealed under that key.
-/

namespace Tca

open TableRows Transaction RowRanking GuardedRuns

/-- What the credential stores raise. -/
inductive VaultError where
  | raised (error : PyError)
  | telegramAccountStorageError (message : String)
  | telegramSessionStorageError (message : String)
  deriving DecidableEq

/-- `TelegramAccountStorageError.invalid_payload` for an API hash. -/
def undecodableApiHash : VaultError :=
  .telegramAccountStorageError ("Telegram account payload invalid: " ++
    "api_hash payload is not valid UTF-8 text")

/-- `TelegramSessionStorageError.non_utf8_payload`. -/
def undecodableSession : VaultError :=
  .telegramSessionStorageError
    "Stored Telegram session payload is not valid UTF-8 text."

/-- `TelegramAccountNotFoundError.for_account_id`. -/
def telegramAccountNotFound (accountId : Int) : VaultError :=
  .raised (.telegramAccountNotFoundError
    s!"Unable to access Telegram session: no account row exists for id={accountId}.")

/-- Typed Telegram account credentials payload. -/
structure TelegramAccountRecord where
  accountId : Int
  apiId : Int
  apiHash : String
  phoneNumber : Option String
  deriving DecidableEq

/-- The account payload from which a client is constructed. -/
structure TelegramAccount where
  accountId : Int
  apiId : Int
  apiHash : String
  stringSession : Option String
  deriving DecidableEq

/-- What `secrets` draws for one encryption. -/
structure EnvelopeDraw where
  dataEncryptionKey : TokenBytes dataEncryptionKeyBytes
  nonce : TokenBytes aesGcmNonceBytes

section Stores

variable (aes : AesLibrary)

/-- `encrypt_with_envelope(plaintext=text.encode("utf-8"), ...)`. -/
def sealText (draw : EnvelopeDraw) (text : String)
    (keyEncryptionKey : List UInt8) : Except PyError (List UInt8) :=
  encryptWithEnvelope aes draw.dataEncryptionKey draw.nonce
    (encodeUtf8 text.toList) keyEncryptionKey

/-- `TelegramAccountStorage.upsert_account`. -/
def storeAccount (draw : EnvelopeDraw) (apiId : Int)
    (apiHash phoneNumber : String) (keyEncryptionKey : List UInt8) :
    LoginTransaction Int :=
  match sealText aes draw apiHash keyEncryptionKey with
  | .error error => raise error
  | .ok apiHashEncrypted => upsertAccount apiId apiHashEncrypted phoneNumber

/-- `TelegramSessionStorage.persist_session`. -/
def storeSession (draw : EnvelopeDraw) (accountId : Int)
    (stringSession : String) (keyEncryptionKey : List UInt8) :
    LoginTransaction Unit :=
  match sealText aes draw stringSession keyEncryptionKey with
  | .error error => raise error
  | .ok sessionEncrypted => persistSession accountId sessionEncrypted

variable (recursionLimit : Nat) (keyEncryptionKey : List UInt8)

/-- Decrypt a column and decode its text. -/
def openText (undecodable : VaultError) (ciphertextPayload : List UInt8) :
    Except VaultError String :=
  match decryptWithEnvelope aes recursionLimit ciphertextPayload
      keyEncryptionKey with
  | .error error => .error (.raised error)
  | .ok plaintext =>
      match decodeUtf8 plaintext with
      | none => .error undecodable
      | some text => .ok (String.ofList text)

/-- `_decode_account_row`. -/
def decodeAccountRow (row : AccountRow) :
    Except VaultError TelegramAccountRecord := do
  let apiHash ← openText aes recursionLimit keyEncryptionKey
    undecodableApiHash row.apiHashEncrypted
  return ⟨row.id, row.apiId, apiHash, row.phoneNumber⟩

/-- `TelegramAccountStorage.list_accounts`. -/
def listAccounts (accounts : AccountTable) :
    Except VaultError (List TelegramAccountRecord) :=
  (orderBy AccountRow.id accounts.rows).mapM
    (decodeAccountRow aes recursionLimit keyEncryptionKey)

/-- `TelegramSessionStorage.load_session`. -/
def loadSession (accounts : AccountTable) (accountId : Int) :
    Except VaultError (Option String) :=
  match accounts.find? accountId with
  | none => .error (telegramAccountNotFound accountId)
  | some row =>
      match row.sessionEncrypted with
      | none => .ok none
      | some ciphertextPayload => do
          let text ← openText aes recursionLimit keyEncryptionKey
            undecodableSession ciphertextPayload
          return some text

/-- `TelegramAccountLoader.__call__`. -/
def loadTelegramAccounts (accounts : AccountTable) :
    Except VaultError (List TelegramAccount) := do
  let records ← listAccounts aes recursionLimit keyEncryptionKey accounts
  records.mapM fun account => do
    let sessionString ← loadSession aes recursionLimit keyEncryptionKey
      accounts account.accountId
    return ⟨account.accountId, account.apiId, account.apiHash, sessionString⟩

end Stores

section Sealing

variable {aes : AesLibrary} {recursionLimit : Nat}
  {keyEncryptionKey otherKey ciphertextPayload : List UInt8} {text : String}

/-- The payload is the text encrypted under the key. -/
def Sealed (aes : AesLibrary) (keyEncryptionKey : List UInt8) (text : String)
    (ciphertextPayload : List UInt8) : Prop :=
  ∃ draw, sealText aes draw text keyEncryptionKey = .ok ciphertextPayload

/-- Unwrapping under another key than the one that wrapped fails. -/
def AesLibrary.Hides (aes : AesLibrary) : Prop :=
  ∀ wrappingKey otherKey keyToWrap,
    wrappingKey.length ∈ aesKeySizesBytes →
    otherKey.length ∈ aesKeySizesBytes →
    keyToWrap.length = dataEncryptionKeyBytes → wrappingKey ≠ otherKey →
      aes.keyUnwrap otherKey (aes.keyWrap wrappingKey keyToWrap) = none

/-- Only a key of valid length seals. -/
theorem Sealed.valid
    (isSealed : Sealed aes keyEncryptionKey text ciphertextPayload) :
    keyEncryptionKey.length ∈ aesKeySizesBytes := by
  obtain ⟨draw, encrypted⟩ := isSealed
  by_contra invalid
  rw [sealText, encryptWithEnvelope, validateAesKey, if_neg invalid]
    at encrypted
  cases encrypted

/-- Every text can be sealed under a key of valid length. -/
theorem sealText_returns (draw : EnvelopeDraw) (text : String)
    (valid : keyEncryptionKey.length ∈ aesKeySizesBytes) :
    ∃ payload, sealText aes draw text keyEncryptionKey = .ok payload := by
  obtain ⟨serialized, -, encrypted⟩ := @encryptWithEnvelope_eq aes
    draw.dataEncryptionKey draw.nonce (encodeUtf8 text.toList)
    keyEncryptionKey valid
  exact ⟨_, encrypted⟩

/-- What was sealed is opened by the same key. -/
theorem Sealed.openText (lawful : aes.Lawful) (deepEnough : 0 < recursionLimit)
    (isSealed : Sealed aes keyEncryptionKey text ciphertextPayload)
    (undecodable : VaultError) :
    openText aes recursionLimit keyEncryptionKey undecodable
      ciphertextPayload = .ok text := by
  have valid := isSealed.valid
  obtain ⟨draw, encrypted⟩ := isSealed
  obtain ⟨payload, encryptedAgain, decrypted, -⟩ :=
    decrypt_encrypt_with_envelope lawful deepEnough draw.dataEncryptionKey
      draw.nonce (encodeUtf8 text.toList) keyEncryptionKey valid
  obtain rfl := Except.ok.inj (encrypted.symm.trans encryptedAgain)
  rw [Tca.openText, decrypted]
  simp only [decodeUtf8_encodeUtf8, String.ofList_toList]

/-- What was sealed is not opened by another key. -/
theorem Sealed.locked (lawful : aes.Lawful) (hides : aes.Hides)
    (deepEnough : 0 < recursionLimit)
    (isSealed : Sealed aes keyEncryptionKey text ciphertextPayload)
    (otherValid : otherKey.length ∈ aesKeySizesBytes)
    (different : keyEncryptionKey ≠ otherKey) (undecodable : VaultError) :
    Tca.openText aes recursionLimit otherKey undecodable ciphertextPayload =
      .error (.raised decryptionError) := by
  have valid := isSealed.valid
  obtain ⟨draw, encrypted⟩ := isSealed
  obtain ⟨payload, encryptedAgain, -, locked⟩ :=
    decrypt_encrypt_with_envelope lawful deepEnough draw.dataEncryptionKey
      draw.nonce (encodeUtf8 text.toList) keyEncryptionKey valid
  obtain rfl := Except.ok.inj (encrypted.symm.trans encryptedAgain)
  have failed := locked otherKey otherValid
    (hides _ _ _ valid otherValid draw.dataEncryptionKey.length_eq different)
  rw [Tca.openText, failed]

end Sealing

/-- A stored session with the key that sealed it. -/
structure SealedSession where
  text : String
  key : List UInt8
  deriving DecidableEq

/-- The credentials that an account was given last, with the keys that sealed
them. -/
structure VaultEntry where
  apiId : Int
  apiHash : String
  phoneNumber : String
  hashKey : List UInt8
  session : Option SealedSession
  deriving DecidableEq

namespace VaultEntry

variable (entry : VaultEntry) (keyEncryptionKey : List UInt8)

/-- Everything that the account was given was sealed under the key. -/
def OpensWith : Prop :=
  entry.hashKey = keyEncryptionKey ∧
    ∀ session ∈ entry.session, session.key = keyEncryptionKey

/-- What the loader makes of the account. -/
def account (accountId : Int) : TelegramAccount :=
  ⟨accountId, entry.apiId, entry.apiHash, entry.session.map SealedSession.text⟩

/-- The row stores the entry. -/
structure StoredAs (aes : AesLibrary) (row : AccountRow) : Prop where
  apiId : row.apiId = entry.apiId
  phoneNumber : row.phoneNumber = some entry.phoneNumber
  apiHash : Sealed aes entry.hashKey entry.apiHash row.apiHashEncrypted
  session : Option.Rel
    (fun session payload => Sealed aes session.key session.text payload)
    entry.session row.sessionEncrypted

end VaultEntry

section Loading

variable {aes : AesLibrary} {recursionLimit : Nat}
  {keyEncryptionKey : List UInt8} {accounts : AccountTable} {row : AccountRow}
  {entry : VaultEntry}

theorem mapM_eq_map {Row Problem Value : Type*}
    {decode : Row → Except Problem Value} {value : Row → Value}
    {rows : List Row}
    (decodes : ∀ row ∈ rows, decode row = .ok (value row)) :
    rows.mapM decode = .ok (rows.map value) := by
  induction rows with
  | nil => rfl
  | cons row rows ih =>
      obtain ⟨first, later⟩ := List.forall_mem_cons.mp decodes
      rw [List.mapM_cons, first, ih later]
      rfl

theorem decodeAccountRow_of_opens (lawful : aes.Lawful)
    (deepEnough : 0 < recursionLimit) (stored : entry.StoredAs aes row)
    (opens : entry.hashKey = keyEncryptionKey) :
    decodeAccountRow aes recursionLimit keyEncryptionKey row =
      .ok ⟨row.id, entry.apiId, entry.apiHash, some entry.phoneNumber⟩ := by
  have opened := stored.apiHash.openText lawful deepEnough undecodableApiHash
  rw [opens] at opened
  rw [decodeAccountRow, opened, ← stored.apiId, ← stored.phoneNumber]
  rfl

theorem loadSession_of_opens (lawful : aes.Lawful)
    (deepEnough : 0 < recursionLimit)
    (found : accounts.find? row.id = some row)
    (stored : entry.StoredAs aes row)
    (opens : ∀ session ∈ entry.session, session.key = keyEncryptionKey) :
    loadSession aes recursionLimit keyEncryptionKey accounts row.id =
      .ok (entry.session.map SealedSession.text) := by
  rw [loadSession, found]
  dsimp only
  have sessions := stored.session
  cases encrypted : row.sessionEncrypted with
  | none =>
      rw [encrypted] at sessions
      cases isSession : entry.session with
      | none => rfl
      | some session =>
          rw [isSession] at sessions
          cases sessions
  | some payload =>
      rw [encrypted] at sessions
      cases isSession : entry.session with
      | none =>
          rw [isSession] at sessions
          cases sessions
      | some session =>
          rw [isSession] at sessions
          obtain ⟨isSealed⟩ := sessions
          have sameKey := opens session isSession
          rw [sameKey] at isSealed
          dsimp only
          rw [isSealed.openText lawful deepEnough undecodableSession]
          rfl

/-- The rows of the table store what is known of their accounts. -/
structure TracksVault (aes : AesLibrary) (vault : Int → Option VaultEntry)
    (accounts : AccountTable) : Prop where
  stored : ∀ row ∈ accounts.rows, ∃ entry, vault row.id = some entry ∧
    entry.StoredAs aes row
  known : ∀ accountId entry, vault accountId = some entry →
    accountId ∈ accounts.ids

variable {vault : Int → Option VaultEntry}

/-- What is known of an account, as the loader returns it. -/
def vaultAccount (vault : Int → Option VaultEntry) (accountId : Int) :
    TelegramAccount :=
  match vault accountId with
  | some entry => entry.account accountId
  | none => ⟨accountId, 0, "", none⟩

theorem orderBy_id_strict (accounts : AccountTable) :
    (orderBy AccountRow.id accounts.rows).Pairwise
      fun first second => first.id < second.id := by
  have ordered := orderBy_pairwise AccountRow.id accounts.rows
  have distinct : (orderBy AccountRow.id accounts.rows).Pairwise
      fun first second => first.id ≠ second.id := by
    apply List.pairwise_map.mp
    exact ((orderBy_perm AccountRow.id accounts.rows).map _).nodup_iff.mpr
      accounts.uniqueKeys
  exact (ordered.and distinct).imp fun both => lt_of_le_of_ne both.1 both.2

/-- A key that sealed every API hash lists the accounts. -/
theorem listAccounts_of_opens (lawful : aes.Lawful)
    (deepEnough : 0 < recursionLimit) (tracks : TracksVault aes vault accounts)
    (opens : ∀ row ∈ accounts.rows, ∀ entry, vault row.id = some entry →
      entry.hashKey = keyEncryptionKey) :
    listAccounts aes recursionLimit keyEncryptionKey accounts =
      .ok ((orderBy AccountRow.id accounts.rows).map fun row =>
        ⟨row.id, (vaultAccount vault row.id).apiId,
          (vaultAccount vault row.id).apiHash, row.phoneNumber⟩) := by
  apply mapM_eq_map
  intro row isRow
  have isStored := (mem_orderBy AccountRow.id).mp isRow
  obtain ⟨entry, isEntry, stored⟩ := tracks.stored row isStored
  rw [decodeAccountRow_of_opens lawful deepEnough stored
    (opens row isStored entry isEntry), vaultAccount, isEntry,
    stored.phoneNumber]
  rfl

/-- A key that sealed everything opens everything. -/
theorem loadTelegramAccounts_of_opens (lawful : aes.Lawful)
    (deepEnough : 0 < recursionLimit) (tracks : TracksVault aes vault accounts)
    (opens : ∀ accountId entry, vault accountId = some entry →
      entry.OpensWith keyEncryptionKey) :
    loadTelegramAccounts aes recursionLimit keyEncryptionKey accounts =
      .ok ((orderBy AccountRow.id accounts.rows).map fun row =>
        vaultAccount vault row.id) := by
  have listed := listAccounts_of_opens lawful deepEnough tracks
    fun row _ entry isEntry => (opens row.id entry isEntry).1
  rw [loadTelegramAccounts, listed]
  show List.mapM _ (List.map _ _) = _
  rw [List.mapM_map]
  apply mapM_eq_map
  intro row isRow
  have isStored := (mem_orderBy AccountRow.id).mp isRow
  obtain ⟨entry, isEntry, stored⟩ := tracks.stored row isStored
  have found : accounts.find? row.id = some row :=
    KeyedTable.find?_eq_some_iff.mpr ⟨isStored, rfl⟩
  dsimp only [Function.comp_apply]
  rw [loadSession_of_opens lawful deepEnough found stored
    (opens _ _ isEntry).2, vaultAccount, isEntry]
  rfl

section Locked

variable (lawful : aes.Lawful) (hides : aes.Hides)
  (deepEnough : 0 < recursionLimit)
  (valid : keyEncryptionKey.length ∈ aesKeySizesBytes)

include lawful hides deepEnough valid

end Locked

end Loading

/-- An update of account columns that hold no credentials: pauses, key
versions. -/
structure OtherColumns where
  condition : AccountRow → Bool
  set : AccountRow → AccountRow
  keepsId : ∀ row, (set row).id = row.id
  keepsApiId : ∀ row, (set row).apiId = row.apiId
  keepsApiHash : ∀ row, (set row).apiHashEncrypted = row.apiHashEncrypted
  keepsPhoneNumber : ∀ row, (set row).phoneNumber = row.phoneNumber
  keepsSession : ∀ row, (set row).sessionEncrypted = row.sessionEncrypted

/-- The statements on the table of accounts. -/
inductive VaultOperation where
  | upsertAccount (draw : EnvelopeDraw) (apiId : Int)
      (apiHash phoneNumber : String) (keyEncryptionKey : List UInt8)
  | persistSession (draw : EnvelopeDraw) (accountId : Int)
      (stringSession : String) (keyEncryptionKey : List UInt8)
  | updateOthers (columns : OtherColumns)

/-- The operation encrypts under no other key. -/
def VaultOperation.SealsUnder (keyEncryptionKey : List UInt8) :
    VaultOperation → Prop
  | .upsertAccount _ _ _ _ key => key = keyEncryptionKey
  | .persistSession _ _ _ key => key = keyEncryptionKey
  | .updateOthers _ => True

instance (keyEncryptionKey : List UInt8) :
    DecidablePred (VaultOperation.SealsUnder keyEncryptionKey)
  | .upsertAccount _ _ _ _ key =>
      inferInstanceAs (Decidable (key = keyEncryptionKey))
  | .persistSession _ _ _ key =>
      inferInstanceAs (Decidable (key = keyEncryptionKey))
  | .updateOthers _ => .isTrue trivial

/-- The store with what callers were told that it holds. -/
structure TrackedVault where
  store : LoginStore
  vault : Int → Option VaultEntry

namespace TrackedVault

/-- Nothing is stored and nothing is known. -/
def empty (now : Int) : TrackedVault :=
  ⟨⟨⟨[], List.nodup_nil⟩, .empty, now⟩, fun _ => none⟩

/-- New credentials of an account; its session stays. -/
def renew (vault : Int → Option VaultEntry) (accountId apiId : Int)
    (apiHash phoneNumber : String) (keyEncryptionKey : List UInt8) :
    Int → Option VaultEntry :=
  Function.update vault accountId (some ⟨apiId, apiHash, phoneNumber,
    keyEncryptionKey, (vault accountId).bind VaultEntry.session⟩)

/-- A new session of an account. -/
def resume (vault : Int → Option VaultEntry) (accountId : Int)
    (stringSession : String) (keyEncryptionKey : List UInt8) :
    Int → Option VaultEntry :=
  Function.update vault accountId ((vault accountId).map fun entry =>
    { entry with session := some ⟨stringSession, keyEncryptionKey⟩ })

/-- Only calls that return tell their callers anything. -/
def execute (aes : AesLibrary) : VaultOperation → TrackedVault → TrackedVault
  | .upsertAccount draw apiId apiHash phoneNumber keyEncryptionKey, tracked =>
      match atomically (storeAccount aes draw apiId apiHash phoneNumber
          keyEncryptionKey) tracked.store with
      | (.ok accountId, later) =>
          ⟨later, renew tracked.vault accountId apiId apiHash phoneNumber
            keyEncryptionKey⟩
      | (.error _, later) => ⟨later, tracked.vault⟩
  | .persistSession draw accountId stringSession keyEncryptionKey, tracked =>
      match atomically (storeSession aes draw accountId stringSession
          keyEncryptionKey) tracked.store with
      | (.ok _, later) =>
          ⟨later, resume tracked.vault accountId stringSession
            keyEncryptionKey⟩
      | (.error _, later) => ⟨later, tracked.vault⟩
  | .updateOthers columns, tracked =>
      { tracked with
        store := { tracked.store with
          accounts := tracked.store.accounts.updateWhere columns.condition
            columns.set columns.keepsId } }

section Steps

variable {aes : AesLibrary} {vault : Int → Option VaultEntry}
  {accounts : AccountTable} {store : LoginStore}

/-- No two accounts share a phone number. -/
def OnePerPhone (accounts : AccountTable) : Prop :=
  ∀ row ∈ accounts.rows, ∀ other ∈ accounts.rows,
    row.phoneNumber = other.phoneNumber → row = other

theorem tracks_insert (tracks : TracksVault aes vault accounts)
    {newRow : AccountRow} {entry : VaultEntry}
    (fresh : newRow.id ∉ accounts.ids) (sqlId : IsSqlInteger newRow.id)
    (stored : entry.StoredAs aes newRow) :
    TracksVault aes (Function.update vault newRow.id (some entry))
      (accounts.insert newRow fresh sqlId) := by
  have unused : ∀ row ∈ accounts.rows, row.id ≠ newRow.id := by
    intro row isRow same
    exact fresh (KeyedTable.mem_keys.mpr ⟨row, isRow, same⟩)
  constructor
  · intro row isRow
    rcases List.mem_append.mp isRow with isOld | isNew
    · rw [Function.update_of_ne (unused row isOld)]
      exact tracks.stored row isOld
    · obtain rfl := List.mem_singleton.mp isNew
      exact ⟨entry, Function.update_self .., stored⟩
  · intro accountId other isOther
    by_cases isNew : accountId = newRow.id
    · subst isNew
      exact KeyedTable.mem_keys.mpr
        ⟨newRow, List.mem_append_right _ List.mem_cons_self, rfl⟩
    · rw [Function.update_of_ne isNew] at isOther
      obtain ⟨row, isRow, same⟩ :=
        KeyedTable.mem_keys.mp (tracks.known accountId other isOther)
      exact KeyedTable.mem_keys.mpr
        ⟨row, List.mem_append_left _ isRow, same⟩

theorem tracks_updateWhere {later : Int → Option VaultEntry}
    (tracks : TracksVault aes vault accounts) {condition : AccountRow → Bool}
    {set : AccountRow → AccountRow} {keepsId : ∀ row, (set row).id = row.id}
    (updates : ∀ row ∈ accounts.rows, ∀ entry, vault row.id = some entry →
      entry.StoredAs aes row → ∃ newEntry, later row.id = some newEntry ∧
        newEntry.StoredAs aes (if condition row then set row else row))
    (known : ∀ accountId entry, later accountId = some entry →
      ∃ earlier, vault accountId = some earlier) :
    TracksVault aes later (accounts.updateWhere condition set keepsId) := by
  constructor
  · intro row isRow
    obtain ⟨old, isOld, rfl⟩ := AccountTable.mem_updateWhere.mp isRow
    have sameId : (if condition old then set old else old).id = old.id := by
      split
      · exact keepsId old
      · rfl
    obtain ⟨entry, isEntry, stored⟩ := tracks.stored old isOld
    rw [sameId]
    exact updates old isOld entry isEntry stored
  · intro accountId entry isEntry
    obtain ⟨earlier, isEarlier⟩ := known accountId entry isEntry
    rw [AccountTable.ids_updateWhere]
    exact tracks.known accountId earlier isEarlier

/-- Credentials under a new phone number make a new account. -/
theorem tracks_insertAccount (tracks : TracksVault aes vault store.accounts)
    {keyEncryptionKey payload : List UInt8} {apiHash : String}
    (isSealed : Sealed aes keyEncryptionKey apiHash payload) (apiId : Int)
    (phoneNumber : String)
    (sqlId : IsSqlInteger (nextRowid store.accounts.ids)) :
    TracksVault aes (renew vault (nextRowid store.accounts.ids) apiId apiHash
        phoneNumber keyEncryptionKey)
      (store.insertAccount apiId payload phoneNumber).accounts := by
  have unknown : vault (nextRowid store.accounts.ids) = none := by
    by_contra isKnown
    obtain ⟨entry, isEntry⟩ := Option.ne_none_iff_exists'.mp isKnown
    exact nextRowid_notMem _ (tracks.known _ entry isEntry)
  rw [renew, unknown, LoginStore.insertAccount, dif_pos sqlId]
  have stored : (⟨apiId, apiHash, phoneNumber, keyEncryptionKey, none⟩ :
      VaultEntry).StoredAs aes (store.newAccount apiId payload phoneNumber) :=
    ⟨rfl, rfl, isSealed, .none⟩
  exact @tracks_insert _ _ _ tracks (store.newAccount apiId payload phoneNumber)
    _ (nextRowid_notMem _) sqlId stored

/-- Credentials under a known phone number renew its account. -/
theorem tracks_writeCredentials (tracks : TracksVault aes vault store.accounts)
    {keyEncryptionKey payload : List UInt8} {apiHash phoneNumber : String}
    (isSealed : Sealed aes keyEncryptionKey apiHash payload) (apiId : Int)
    {row : AccountRow} (found : store.accountsOf phoneNumber = [row]) :
    TracksVault aes
      (renew vault row.id apiId apiHash phoneNumber keyEncryptionKey)
      (store.writeCredentials apiId payload phoneNumber).accounts := by
  have selected : ∀ other ∈ store.accounts.rows,
      other.phoneNumber = some phoneNumber ↔ other = row := by
    intro other isOther
    have listed : other ∈ store.accountsOf phoneNumber ↔ other = row := by
      rw [found, List.mem_singleton]
    rw [← listed, LoginStore.accountsOf, List.mem_filter]
    simp [isOther]
  have isRow : row ∈ store.accounts.rows := by
    have listed : row ∈ store.accountsOf phoneNumber := by
      rw [found]
      exact List.mem_cons_self
    exact List.mem_of_mem_filter listed
  apply tracks_updateWhere tracks
  · intro other isOther entry isEntry stored
    by_cases same : other = row
    · subst same
      refine ⟨_, Function.update_self .., ?_⟩
      rw [if_pos (decide_eq_true ((selected other isOther).mpr rfl)), isEntry]
      constructor
      · rfl
      · rfl
      · exact isSealed
      · exact stored.session
    · have otherId : other.id ≠ row.id := fun sameId =>
        same (KeyedTable.eq_of_key_eq isOther isRow sameId)
      have notSelected : ¬ other.phoneNumber = some phoneNumber :=
        fun samePhone => same ((selected other isOther).mp samePhone)
      refine ⟨entry, ?_, ?_⟩
      · rw [renew, Function.update_of_ne otherId]
        exact isEntry
      · rw [if_neg (by simpa using notSelected)]
        exact stored
  · intro accountId entry isEntry
    by_cases same : accountId = row.id
    · obtain ⟨earlier, isEarlier, -⟩ := tracks.stored row isRow
      exact ⟨earlier, same ▸ isEarlier⟩
    · rw [renew, Function.update_of_ne same] at isEntry
      exact ⟨entry, isEntry⟩

/-- A session is stored for its account. -/
theorem tracks_writeSession (tracks : TracksVault aes vault store.accounts)
    {keyEncryptionKey payload : List UInt8} {stringSession : String}
    (isSealed : Sealed aes keyEncryptionKey stringSession payload)
    (accountId : Int) :
    TracksVault aes (resume vault accountId stringSession keyEncryptionKey)
      (store.writeSession accountId payload).accounts := by
  apply tracks_updateWhere tracks
  · intro row isRow entry isEntry stored
    by_cases same : row.id = accountId
    · refine ⟨{ entry with session := some ⟨stringSession, keyEncryptionKey⟩ },
        ?_, ?_⟩
      · rw [resume, same, Function.update_self, ← same, isEntry]
        rfl
      · rw [if_pos (decide_eq_true same)]
        constructor
        · exact stored.apiId
        · exact stored.phoneNumber
        · exact stored.apiHash
        · exact .some isSealed
    · refine ⟨entry, ?_, ?_⟩
      · rw [resume, Function.update_of_ne same]
        exact isEntry
      · rw [if_neg (by simpa using same)]
        exact stored
  · intro other entry isEntry
    by_cases same : other = accountId
    · subst same
      rw [resume, Function.update_self, Option.map_eq_some_iff] at isEntry
      obtain ⟨earlier, isEarlier, -⟩ := isEntry
      exact ⟨earlier, isEarlier⟩
    · rw [resume, Function.update_of_ne same] at isEntry
      exact ⟨entry, isEntry⟩

theorem onePerPhone_insertAccount (onePerPhone : OnePerPhone store.accounts)
    {phoneNumber : String} (free : store.accountsOf phoneNumber = [])
    (apiId : Int) (payload : List UInt8)
    (sqlId : IsSqlInteger (nextRowid store.accounts.ids)) :
    OnePerPhone (store.insertAccount apiId payload phoneNumber).accounts := by
  have unused : ∀ row ∈ store.accounts.rows,
      row.phoneNumber ≠ some phoneNumber := by
    intro row isRow same
    have listed : row ∈ store.accountsOf phoneNumber :=
      List.mem_filter.mpr ⟨isRow, decide_eq_true same⟩
    rw [free] at listed
    cases listed
  intro row isRow other isOther samePhone
  rw [LoginStore.insertAccount_rows _ sqlId, List.mem_append,
    List.mem_singleton] at isRow isOther
  rcases isRow with isRow | rfl
  · rcases isOther with isOther | rfl
    · exact onePerPhone row isRow other isOther samePhone
    · exact absurd samePhone (unused row isRow)
  · rcases isOther with isOther | rfl
    · exact absurd samePhone.symm (unused other isOther)
    · rfl

theorem onePerPhone_updateWhere (onePerPhone : OnePerPhone accounts)
    {condition : AccountRow → Bool} {set : AccountRow → AccountRow}
    {keepsId : ∀ row, (set row).id = row.id}
    (keepsPhone : ∀ row ∈ accounts.rows, condition row = true →
      (set row).phoneNumber = row.phoneNumber) :
    OnePerPhone (accounts.updateWhere condition set keepsId) := by
  have kept : ∀ row ∈ accounts.rows,
      (if condition row then set row else row).phoneNumber =
        row.phoneNumber := by
    intro row isRow
    split
    · rename_i selected
      exact keepsPhone row isRow selected
    · rfl
  intro row isRow other isOther samePhone
  obtain ⟨old, isOld, rfl⟩ := AccountTable.mem_updateWhere.mp isRow
  obtain ⟨second, isSecond, rfl⟩ := AccountTable.mem_updateWhere.mp isOther
  rw [kept old isOld, kept second isSecond] at samePhone
  rw [onePerPhone old isOld second isSecond samePhone]

theorem onePerPhone_writeCredentials (onePerPhone : OnePerPhone store.accounts)
    (apiId : Int) (payload : List UInt8) (phoneNumber : String) :
    OnePerPhone (store.writeCredentials apiId payload phoneNumber).accounts :=
  onePerPhone_updateWhere onePerPhone fun _ _ selected =>
    (of_decide_eq_true selected).symm

theorem onePerPhone_writeSession (onePerPhone : OnePerPhone store.accounts)
    (accountId : Int) (payload : List UInt8) :
    OnePerPhone (store.writeSession accountId payload).accounts :=
  onePerPhone_updateWhere onePerPhone fun _ _ _ => rfl

/-- What is known of the accounts is stored, once for each phone number. -/
structure Sound (aes : AesLibrary) (tracked : TrackedVault) : Prop where
  tracks : TracksVault aes tracked.vault tracked.store.accounts
  onePerPhone : OnePerPhone tracked.store.accounts

theorem sound_empty (now : Int) : Sound aes (empty now) := by
  constructor
  · constructor
    · intro row absent
      cases absent
    · intro accountId entry absent
      cases absent
  · intro row absent
    cases absent

/-- What the storage of credentials can do. -/
theorem atomically_storeAccount_cases (draw : EnvelopeDraw) (apiId : Int)
    (apiHash phoneNumber : String) (keyEncryptionKey : List UInt8)
    (store : LoginStore) :
    (∃ error, atomically (storeAccount aes draw apiId apiHash phoneNumber
        keyEncryptionKey) store = (.error error, store)) ∨
      ∃ payload, Sealed aes keyEncryptionKey apiHash payload ∧
        ((store.accountsOf phoneNumber = [] ∧
            IsSqlInteger (nextRowid store.accounts.ids) ∧
            atomically (storeAccount aes draw apiId apiHash phoneNumber
              keyEncryptionKey) store =
                (.ok (nextRowid store.accounts.ids),
                  store.insertAccount apiId payload phoneNumber)) ∨
          ∃ row, store.accountsOf phoneNumber = [row] ∧
            atomically (storeAccount aes draw apiId apiHash phoneNumber
              keyEncryptionKey) store =
                (.ok row.id,
                  store.writeCredentials apiId payload phoneNumber)) := by
  unfold storeAccount
  cases encrypted : sealText aes draw apiHash keyEncryptionKey with
  | error error => exact .inl ⟨error, rfl⟩
  | ok payload =>
      have isSealed : Sealed aes keyEncryptionKey apiHash payload :=
        ⟨draw, encrypted⟩
      dsimp only
      rw [atomically_upsertAccount]
      by_cases sqlApiId : IsSqlInteger apiId
      · rw [if_pos sqlApiId]
        cases found : store.accountsOf phoneNumber with
        | nil =>
            by_cases sqlId : IsSqlInteger (nextRowid store.accounts.ids)
            · refine .inr ⟨payload, isSealed, .inl ⟨rfl, sqlId, ?_⟩⟩
              exact if_pos sqlId
            · exact .inl ⟨_, if_neg sqlId⟩
        | cons row rows =>
            cases rows with
            | nil => exact .inr ⟨payload, isSealed, .inr ⟨row, rfl, rfl⟩⟩
            | cons second rows => exact .inl ⟨_, rfl⟩
      · rw [if_neg sqlApiId]
        exact .inl ⟨_, rfl⟩

/-- What the storage of a session can do.  For an unknown account the update
is committed before the error, and has changed nothing. -/
theorem atomically_storeSession_cases (draw : EnvelopeDraw) (accountId : Int)
    (stringSession : String) (keyEncryptionKey : List UInt8)
    (store : LoginStore) :
    (∃ error, atomically (storeSession aes draw accountId stringSession
        keyEncryptionKey) store = (.error error, store)) ∨
      ∃ payload, Sealed aes keyEncryptionKey stringSession payload ∧
        ((accountId ∈ store.accounts.ids ∧
            atomically (storeSession aes draw accountId stringSession
              keyEncryptionKey) store =
                (.ok (), store.writeSession accountId payload)) ∨
          ∃ error, accountId ∉ store.accounts.ids ∧
            atomically (storeSession aes draw accountId stringSession
              keyEncryptionKey) store =
                (.error error, store.writeSession accountId payload)) := by
  unfold storeSession
  cases encrypted : sealText aes draw stringSession keyEncryptionKey with
  | error error => exact .inl ⟨error, rfl⟩
  | ok payload =>
      right
      refine ⟨payload, ⟨draw, encrypted⟩, ?_⟩
      dsimp only
      rw [atomically_persistSession]
      by_cases isAccount : accountId ∈ store.accounts.ids
      · left
        rw [if_pos isAccount]
        exact ⟨isAccount, rfl⟩
      · right
        rw [if_neg isAccount]
        exact ⟨_, isAccount, rfl⟩

/-- Every operation keeps what is known. -/
theorem Sound.execute {tracked : TrackedVault} (sound : Sound aes tracked)
    (operation : VaultOperation) :
    Sound aes (tracked.execute aes operation) := by
  cases operation with
  | upsertAccount draw apiId apiHash phoneNumber keyEncryptionKey =>
      unfold TrackedVault.execute
      dsimp only
      rcases @atomically_storeAccount_cases aes draw apiId apiHash phoneNumber
        keyEncryptionKey tracked.store with
        ⟨error, ended⟩ | ⟨payload, isSealed, inserted | updated⟩
      · rw [ended]
        exact sound
      · obtain ⟨free, sqlId, ended⟩ := inserted
        rw [ended]
        exact ⟨tracks_insertAccount sound.tracks isSealed apiId phoneNumber
          sqlId, onePerPhone_insertAccount sound.onePerPhone free apiId
            payload sqlId⟩
      · obtain ⟨row, found, ended⟩ := updated
        rw [ended]
        exact ⟨tracks_writeCredentials sound.tracks isSealed apiId found,
          onePerPhone_writeCredentials sound.onePerPhone apiId payload
            phoneNumber⟩
  | persistSession draw accountId stringSession keyEncryptionKey =>
      unfold TrackedVault.execute
      dsimp only
      rcases @atomically_storeSession_cases aes draw accountId stringSession
        keyEncryptionKey tracked.store with
        ⟨error, ended⟩ | ⟨payload, isSealed, stored | unknown⟩
      · rw [ended]
        exact sound
      · obtain ⟨-, ended⟩ := stored
        rw [ended]
        exact ⟨tracks_writeSession sound.tracks isSealed accountId,
          onePerPhone_writeSession sound.onePerPhone accountId payload⟩
      · obtain ⟨error, isUnknown, ended⟩ := unknown
        rw [ended]
        have unchanged : resume tracked.vault accountId stringSession
            keyEncryptionKey = tracked.vault := by
          have absent : tracked.vault accountId = none := by
            by_contra isKnown
            obtain ⟨entry, isEntry⟩ := Option.ne_none_iff_exists'.mp isKnown
            exact isUnknown (sound.tracks.known accountId entry isEntry)
          rw [resume, absent]
          exact Function.update_eq_self_iff.mpr absent.symm
        have tracks := tracks_writeSession sound.tracks isSealed accountId
        rw [unchanged] at tracks
        exact ⟨tracks, onePerPhone_writeSession sound.onePerPhone accountId
          payload⟩
  | updateOthers columns =>
      constructor
      · apply tracks_updateWhere sound.tracks
        · intro row isRow entry isEntry stored
          refine ⟨entry, isEntry, ?_⟩
          split
          · constructor
            · rw [columns.keepsApiId]
              exact stored.apiId
            · rw [columns.keepsPhoneNumber]
              exact stored.phoneNumber
            · rw [columns.keepsApiHash]
              exact stored.apiHash
            · rw [columns.keepsSession]
              exact stored.session
          · exact stored
        · intro accountId entry isEntry
          exact ⟨entry, isEntry⟩
      · exact onePerPhone_updateWhere sound.onePerPhone
          fun row _ _ => columns.keepsPhoneNumber row

/-- The store and what is known of it after a run from the empty tables. -/
def after (aes : AesLibrary) (operations : List VaultOperation) (now : Int) :
    TrackedVault :=
  run (fun operation tracked => tracked.execute aes operation) operations
    (empty now)

/-- Everything that is known was sealed under the key. -/
def OpensWith (keyEncryptionKey : List UInt8) (tracked : TrackedVault) : Prop :=
  ∀ accountId entry, tracked.vault accountId = some entry →
    entry.OpensWith keyEncryptionKey

theorem opensWith_renew {keyEncryptionKey : List UInt8}
    (opens : ∀ accountId entry, vault accountId = some entry →
      entry.OpensWith keyEncryptionKey)
    (accountId apiId : Int) (apiHash phoneNumber : String) :
    ∀ otherId entry, renew vault accountId apiId apiHash phoneNumber
        keyEncryptionKey otherId = some entry →
      entry.OpensWith keyEncryptionKey := by
  intro otherId entry isEntry
  by_cases same : otherId = accountId
  · subst same
    rw [renew, Function.update_self] at isEntry
    obtain rfl := Option.some.inj isEntry
    refine ⟨rfl, fun session isSession => ?_⟩
    obtain ⟨earlier, isEarlier, isSession⟩ :=
      Option.bind_eq_some_iff.mp isSession
    exact (opens _ _ isEarlier).2 session isSession
  · rw [renew, Function.update_of_ne same] at isEntry
    exact opens otherId entry isEntry

theorem opensWith_resume {keyEncryptionKey : List UInt8}
    (opens : ∀ accountId entry, vault accountId = some entry →
      entry.OpensWith keyEncryptionKey)
    (accountId : Int) (stringSession : String) :
    ∀ otherId entry, resume vault accountId stringSession keyEncryptionKey
        otherId = some entry →
      entry.OpensWith keyEncryptionKey := by
  intro otherId entry isEntry
  by_cases same : otherId = accountId
  · subst same
    rw [resume, Function.update_self, Option.map_eq_some_iff] at isEntry
    obtain ⟨earlier, isEarlier, rfl⟩ := isEntry
    refine ⟨(opens _ _ isEarlier).1, fun session isSession => ?_⟩
    obtain rfl := Option.some.inj isSession
    rfl
  · rw [resume, Function.update_of_ne same] at isEntry
    exact opens otherId entry isEntry

theorem OpensWith.execute {keyEncryptionKey : List UInt8}
    {tracked : TrackedVault} (opens : tracked.OpensWith keyEncryptionKey)
    {operation : VaultOperation}
    (sealsUnder : operation.SealsUnder keyEncryptionKey) :
    (tracked.execute aes operation).OpensWith keyEncryptionKey := by
  cases operation with
  | upsertAccount draw apiId apiHash phoneNumber key =>
      cases sealsUnder
      unfold TrackedVault.execute
      dsimp only
      split
      · exact opensWith_renew opens _ apiId apiHash phoneNumber
      · exact opens
  | persistSession draw accountId stringSession key =>
      cases sealsUnder
      unfold TrackedVault.execute
      dsimp only
      split
      · exact opensWith_resume opens accountId stringSession
      · exact opens
  | updateOthers columns => exact opens

/-- The loader has returned what is known of every account, in the order of
their ids. -/
structure ListsVault (vault : Int → Option VaultEntry)
    (loaded : List TelegramAccount) : Prop where
  ascending : loaded.Pairwise fun first second =>
    first.accountId < second.accountId
  mem_iff : ∀ account, account ∈ loaded ↔
    ∃ entry, vault account.accountId = some entry ∧
      entry.account account.accountId = account

/-- The rows in order of their ids list what is known. -/
theorem listsVault_of_tracks (tracks : TracksVault aes vault accounts) :
    ListsVault vault ((orderBy AccountRow.id accounts.rows).map fun row =>
      vaultAccount vault row.id) := by
  have account : ∀ row ∈ accounts.rows, ∃ entry,
      vault row.id = some entry ∧
        vaultAccount vault row.id = entry.account row.id := by
    intro row isRow
    obtain ⟨entry, isEntry, -⟩ := tracks.stored row isRow
    refine ⟨entry, isEntry, ?_⟩
    rw [vaultAccount, isEntry]
  constructor
  · rw [List.pairwise_map]
    refine List.Pairwise.imp_of_mem ?_ (orderBy_id_strict accounts)
    intro first second isFirst isSecond before
    obtain ⟨_, -, same⟩ := account first ((mem_orderBy _).mp isFirst)
    obtain ⟨_, -, sameSecond⟩ := account second ((mem_orderBy _).mp isSecond)
    rw [same, sameSecond]
    exact before
  · intro loaded
    rw [List.mem_map]
    constructor
    · rintro ⟨row, isRow, rfl⟩
      obtain ⟨entry, isEntry, same⟩ := account row ((mem_orderBy _).mp isRow)
      rw [same]
      exact ⟨entry, isEntry, rfl⟩
    · rintro ⟨entry, isEntry, same⟩
      obtain ⟨row, isRow, sameId⟩ :=
        KeyedTable.mem_keys.mp (tracks.known _ _ isEntry)
      obtain ⟨other, isOther, sameAccount⟩ := account row isRow
      refine ⟨row, (mem_orderBy _).mpr isRow, ?_⟩
      rw [sameAccount, ← same]
      change row.id = loaded.accountId at sameId
      rw [sameId] at isOther ⊢
      rw [Option.some.inj (isOther.symm.trans isEntry)]

end Steps

end TrackedVault

open TrackedVault

def sampleEnvelopeDraw : EnvelopeDraw :=
  ⟨sampleDek, sampleNonce⟩

/-- A stand-in that agrees with AES on one wrapping of the sample key and on the
sample texts.  Elsewhere a wrapped key shows the key that wrapped it. -/
def markedAes (kek wrapped : List UInt8) : AesLibrary where
  keyWrap wrappingKey keyToWrap :=
    if wrappingKey = kek ∧ keyToWrap = sampleDek.bytes then wrapped
    else wrappingKey ++ keyToWrap
  keyUnwrap wrappingKey wrappedKey :=
    if wrappingKey = kek ∧ wrappedKey = wrapped then some sampleDek.bytes
    else if wrappedKey.length = wrappingKey.length + dataEncryptionKeyBytes ∧
        wrappedKey.take wrappingKey.length = wrappingKey then
      some (wrappedKey.drop wrappingKey.length)
    else none
  gcmEncrypt := sampleAes.gcmEncrypt
  gcmDecrypt := sampleAes.gcmDecrypt

section MarkedAes

variable {kek wrapped : List UInt8} (wrappedLength : wrapped.length = 40)

include wrappedLength

theorem markedAes_not_wrapped {key : List UInt8}
    (valid : key.length ∈ aesKeySizesBytes) :
    wrapped.length ≠ key.length + dataEncryptionKeyBytes := by
  intro same
  have short : key.length = 8 := by
    rw [wrappedLength] at same
    change 40 = key.length + 32 at same
    omega
  rw [short] at valid
  revert valid
  decide

theorem markedAes_lawful : (markedAes kek wrapped).Lawful where
  unwrap_wrap := by
    intro wrappingKey keyToWrap valid length
    by_cases sample : wrappingKey = kek ∧ keyToWrap = sampleDek.bytes
    · simp only [markedAes, sample, and_self, if_true]
    · have notWrapped : ¬ (wrappingKey = kek ∧
          wrappingKey ++ keyToWrap = wrapped) := by
        rintro ⟨-, same⟩
        have lengths := congrArg List.length same
        rw [List.length_append, length] at lengths
        exact markedAes_not_wrapped wrappedLength valid lengths.symm
      simp only [markedAes, if_neg sample, if_neg notWrapped]
      simp [length]
  decrypt_encrypt := sampleAes_lawful.decrypt_encrypt

end MarkedAes

end Tca
