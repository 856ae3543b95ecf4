import Tca.CredentialVault
import Tca.KekSalt

/-!
# The passphrase behind the stored credentials

The setup wizard unlocks sensitive operations with a passphrase while no
account is stored, or the application unlocks itself from a secret file when it
starts.  A verified login derives the key-encryption key from that passphrase
and the stored salt and seals its credentials under it.  The file follows the
requests through all interleavings and restarts and shows that one passphrase
opens every account that was ever stored.
-/

namespace Tca

open Transaction InterleavedCalls GuardedRuns

/-- `TCA_MODE`. -/
inductive UnlockMode where
  | secureInteractive
  | autoUnlock
  deriving DecidableEq

/-- What reading the secret file comes to. -/
inductive SecretFile where
  | missing
  | unreadable (reason : String)
  | undecodable
  | text (secret : String)
  deriving DecidableEq

inductive StartupUnlockError where
  | startupUnlockModeError (message : String)
  | unicodeDecodeError
  deriving DecidableEq

def envSecretFile : String :=
  "TCA_SECRET_FILE"

namespace StartupUnlockError

def missingSecretFileSetting : StartupUnlockError :=
  .startupUnlockModeError ("Startup unlock failed: TCA_MODE='auto-unlock' " ++
    "requires " ++ envSecretFile ++ " to point at a mounted secret file.")

def missingSecretFilePath (path : String) : StartupUnlockError :=
  .startupUnlockModeError ("Startup unlock failed: configured auto-unlock " ++
    "secret file was not found at '" ++ path ++
    "'. Ensure the file is mounted and " ++ envSecretFile ++ " is set.")

def unreadableSecretFile (path reason : String) : StartupUnlockError :=
  .startupUnlockModeError ("Startup unlock failed: unable to read " ++
    "auto-unlock secret file '" ++ path ++ "' (" ++ reason ++
    "). Ensure the file is mounted and readable by TCA.")

def emptySecretFile (path : String) : StartupUnlockError :=
  .startupUnlockModeError ("Startup unlock failed: auto-unlock secret file '" ++
    path ++ "' is empty. Write the secret to the file or switch TCA_MODE to " ++
    "'secure-interactive'.")

end StartupUnlockError

/-- `_read_auto_unlock_secret_file`. -/
def readAutoUnlockSecretFile (path : String) :
    SecretFile → Except StartupUnlockError String
  | .missing => .error (.missingSecretFilePath path)
  | .unreadable reason => .error (.unreadableSecretFile path reason)
  | .undecodable => .error .unicodeDecodeError
  | .text secret =>
      if pythonStrip secret = "" then .error (.emptySecretFile path)
      else .ok (pythonStrip secret)

/-- `initialize_startup_unlock_mode`: the secret that the unlock state holds
afterwards. -/
def initializeStartupUnlockMode (mode : UnlockMode)
    (secretFile : Option String) (contents : SecretFile) :
    Except StartupUnlockError (Option String) :=
  match mode, secretFile with
  | .secureInteractive, _ => .ok none
  | .autoUnlock, none => .error .missingSecretFileSetting
  | .autoUnlock, some path => do
      let secret ← readAutoUnlockSecretFile path contents
      return some secret

/-- `derive_key_encryption_key`; `argon2id` is the library's function at the
costs of the design. -/
def deriveKeyEncryptionKey (argon2id : List UInt8 → List UInt8 → List UInt8)
    (passphrase : String) (salt : List UInt8) :
    Except PyError (List UInt8) :=
  if salt.length ≠ argon2idSaltBytes then
    .error (.valueError s!"salt must be exactly {argon2idSaltBytes} bytes.")
  else .ok (argon2id (encodeUtf8 passphrase.toList) salt)

/-- The unlock secret of the process, the settings table, and the account table
with what is known of it. -/
structure KeyStore where
  unlockSecret : Option String
  settings : List SettingRow
  tracked : TrackedVault

/-- The arguments of `_persist_authenticated_session`. -/
structure AuthenticatedSession where
  apiId : Int
  apiHash : String
  phoneNumber : String
  sessionString : String
  deriving DecidableEq

inductive KeyRequest where
  | postSetupUnlock (passphrase : String)
  | persistAuthenticatedSession (login : AuthenticatedSession)
  deriving DecidableEq

/-- What a request is about to do next. -/
inductive KeyPhase where
  | accountCheck (passphrase : String)
  | unlock (passphrase : String)
  | readSecret (login : AuthenticatedSession)
  | resolveSalt (login : AuthenticatedSession) (passphrase : String)
      (phase : SaltPhase)
  | upsertAccount (login : AuthenticatedSession)
      (keyEncryptionKey : List UInt8)
  | persistSession (login : AuthenticatedSession)
      (keyEncryptionKey : List UInt8) (accountId : Int)
  deriving DecidableEq

inductive KeyResult where
  | redirected
  | emptyPassphrase
  | authStart
  | sensitiveOperationLocked
  | persisted
  | raised (error : PyError)
  deriving DecidableEq

/-- What a step is given from outside: the draws of `secrets`, and the error
with which the database refuses the step, if it does. -/
structure KeyInput where
  drawnSalt : Salt
  draw : EnvelopeDraw
  problem : Option PyError := none

def KeyInput.salt (input : KeyInput) : SaltInput :=
  ⟨input.drawnSalt, input.problem⟩

abbrev KeyProgress : Type :=
  Progress KeyPhase KeyResult

section Requests

variable (aes : AesLibrary) (argon2id : List UInt8 → List UInt8 → List UInt8)

/-- What follows the resolution of the salt. -/
def saltResolved (login : AuthenticatedSession) (passphrase : String) :
    Progress SaltPhase SaltResult → KeyProgress
  | .suspended phase => .suspended (.resolveSalt login passphrase phase)
  | .ended (.returned salt) =>
      match deriveKeyEncryptionKey argon2id passphrase salt with
      | .ok keyEncryptionKey =>
          .suspended (.upsertAccount login keyEncryptionKey)
      | .error error => .ended (.raised error)
  | .ended (.raised error) => .ended (.raised error)
  | .abandoned => .abandoned

/-- The atomic steps of `post_setup_unlock` and of
`_persist_authenticated_session`. -/
def keyAdvance : KeyPhase → KeyInput → KeyStore → KeyProgress × KeyStore
  | .accountCheck passphrase, input, store =>
      match input.problem with
      | some problem => (.ended (.raised problem), store)
      | none =>
          if store.tracked.store.HasPersistedAccount then
            (.ended .redirected, store)
          else (.suspended (.unlock passphrase), store)
  | .unlock passphrase, _, store =>
      let candidate := pythonStrip passphrase
      if candidate = "" then (.ended .emptyPassphrase, store)
      else
        match store.unlockSecret with
        | some _ => (.ended .authStart, store)
        | none => (.ended .authStart, { store with unlockSecret := candidate })
  | .readSecret login, _, store =>
      match store.unlockSecret with
      | none => (.ended .sensitiveOperationLocked, store)
      | some passphrase =>
          (.suspended (.resolveSalt login passphrase .read), store)
  | .resolveSalt login passphrase phase, input, store =>
      let (progress, settings) := saltAdvance phase input.salt store.settings
      (saltResolved argon2id login passphrase progress, { store with settings })
  | .upsertAccount login keyEncryptionKey, input, store =>
      match input.problem with
      | some problem => (.ended (.raised problem), store)
      | none =>
          let outcome := (atomically (storeAccount aes input.draw login.apiId
            login.apiHash login.phoneNumber keyEncryptionKey)
              store.tracked.store).1
          let later := { store with
            tracked := store.tracked.execute aes (.upsertAccount input.draw
              login.apiId login.apiHash login.phoneNumber keyEncryptionKey) }
          match outcome with
          | .ok accountId =>
              (.suspended (.persistSession login keyEncryptionKey accountId),
                later)
          | .error error => (.ended (.raised error), later)
  | .persistSession login keyEncryptionKey accountId, input, store =>
      match input.problem with
      | some problem => (.ended (.raised problem), store)
      | none =>
          let outcome := (atomically (storeSession aes input.draw accountId
            login.sessionString keyEncryptionKey) store.tracked.store).1
          let later := { store with
            tracked := store.tracked.execute aes (.persistSession input.draw
              accountId login.sessionString keyEncryptionKey) }
          match outcome with
          | .ok _ => (.ended .persisted, later)
          | .error error => (.ended (.raised error), later)

def keyCalls : Protocol KeyStore KeyRequest KeyPhase KeyInput KeyResult where
  enter
    | .postSetupUnlock passphrase => .accountCheck passphrase
    | .persistAuthenticatedSession login => .readSecret login
  advance := keyAdvance aes argon2id

abbrev KeyEvent : Type :=
  Event KeyRequest KeyInput

/-- One process: how it starts and what it serves.  Its requests end with it. -/
structure Lifetime where
  mode : UnlockMode
  secretFile : Option String
  contents : SecretFile
  events : List KeyEvent

/-- The secret that unlocks the process when it starts, or why it does not
start. -/
def Lifetime.startup (lifetime : Lifetime) :
    Except StartupUnlockError (Option String) :=
  initializeStartupUnlockMode lifetime.mode lifetime.secretFile
    lifetime.contents

/-- What a process leaves behind, at whatever event it stops. -/
def Lifetime.serve (lifetime : Lifetime) (store : KeyStore) : KeyStore :=
  match lifetime.startup with
  | .error _ => { store with unlockSecret := none }
  | .ok unlockSecret =>
      (run (keyCalls aes argon2id).step lifetime.events
        (System.idle { store with unlockSecret })).store

end Requests

/-- A process that starts is unlocked by this secret, or locked if it is
`none`. -/
def Lifetime.StartsWith (secret : Option String) (lifetime : Lifetime) : Prop :=
  ∀ unlocked, lifetime.startup = .ok unlocked → unlocked = secret

/-- The tables of a fresh installation, apart from other settings. -/
def KeyStore.fresh (settings : List SettingRow) (now : Int) : KeyStore :=
  ⟨none, settings, .empty now⟩

section Effects

variable {aes : AesLibrary} {argon2id : List UInt8 → List UInt8 → List UInt8}

/-- All that a step can do to the store. -/
theorem keyAdvance_store (phase : KeyPhase) (input : KeyInput)
    (store : KeyStore) :
    (keyAdvance aes argon2id phase input store).2 = store ∨
    (∃ passphrase, phase = .unlock passphrase ∧ store.unlockSecret = none ∧
      (keyAdvance aes argon2id phase input store).2 =
        { store with unlockSecret := pythonStrip passphrase }) ∨
    (∃ login passphrase saltPhase,
      phase = .resolveSalt login passphrase saltPhase ∧
      (keyAdvance aes argon2id phase input store).2 =
        { store with settings :=
            (saltAdvance saltPhase input.salt store.settings).2 }) ∨
    ∃ login keyEncryptionKey operation,
      (phase = .upsertAccount login keyEncryptionKey ∨
        ∃ accountId, phase = .persistSession login keyEncryptionKey accountId) ∧
      VaultOperation.SealsUnder keyEncryptionKey operation ∧
      (keyAdvance aes argon2id phase input store).2 =
        { store with tracked := store.tracked.execute aes operation } := by
  cases phase with
  | accountCheck passphrase =>
      left
      unfold keyAdvance
      dsimp only
      split
      · rfl
      · split <;> rfl
  | unlock passphrase =>
      by_cases empty : pythonStrip passphrase = ""
      · left
        simp only [keyAdvance, empty, if_true]
      · cases held : store.unlockSecret with
        | some secret =>
            left
            simp only [keyAdvance, if_neg empty, held]
        | none =>
            right
            left
            refine ⟨passphrase, rfl, rfl, ?_⟩
            simp only [keyAdvance, if_neg empty, held]
  | readSecret login =>
      left
      unfold keyAdvance
      dsimp only
      split <;> rfl
  | resolveSalt login passphrase saltPhase =>
      exact .inr (.inr (.inl ⟨login, passphrase, saltPhase, rfl, rfl⟩))
  | upsertAccount login keyEncryptionKey =>
      cases refused : input.problem with
      | some problem =>
          left
          simp only [keyAdvance, refused]
      | none =>
          right
          right
          right
          refine ⟨login, keyEncryptionKey, .upsertAccount input.draw login.apiId
            login.apiHash login.phoneNumber keyEncryptionKey, .inl rfl, rfl, ?_⟩
          simp only [keyAdvance, refused]
          split <;> rfl
  | persistSession login keyEncryptionKey accountId =>
      cases refused : input.problem with
      | some problem =>
          left
          simp only [keyAdvance, refused]
      | none =>
          right
          right
          right
          refine ⟨login, keyEncryptionKey, .persistSession input.draw accountId
            login.sessionString keyEncryptionKey, .inr ⟨accountId, rfl⟩, rfl,
            ?_⟩
          simp only [keyAdvance, refused]
          split <;> rfl

end Effects

section Invariant

variable (aes : AesLibrary) (argon2id : List UInt8 → List UInt8 → List UInt8)
  (settings : List SettingRow) (secret : Option String)

/-- The key that a passphrase and the stored salt derive. -/
def Derives (passphrase : String) (keyEncryptionKey : List UInt8)
    (store : KeyStore) : Prop :=
  ∃ salt, store.settings = settings ++ [saltRow salt] ∧
    deriveKeyEncryptionKey argon2id passphrase salt.bytes =
      .ok keyEncryptionKey

/-- One passphrase derives a key under which everything that is known was
sealed.  The process holds this passphrase or none, and processes that unlock
themselves hold this one. -/
def SealedByOne (store : KeyStore) : Prop :=
  ∃ passphrase keyEncryptionKey,
    Derives argon2id settings passphrase keyEncryptionKey store ∧
    store.tracked.OpensWith keyEncryptionKey ∧
    (∀ held ∈ store.unlockSecret, held = passphrase) ∧
    ∀ deployed ∈ secret, deployed = passphrase

/-- What holds between the steps of the requests and between the processes. -/
structure KeyStore.Sound (store : KeyStore) : Prop where
  tracked : store.tracked.Sound aes
  saltOnce : SaltAddedOnce settings store.settings
  sealed : (∀ accountId, store.tracked.vault accountId = none) ∨
    SealedByOne argon2id settings secret store

/-- A process that unlocked itself stays unlocked. -/
structure KeyStore.Serving (store : KeyStore) : Prop where
  sound : store.Sound aes argon2id settings secret
  held : ∀ deployed ∈ secret, store.unlockSecret = some deployed

/-- What a request can rely on: while the process is locked, a request that may
unlock it knows that no account is stored; a request on its way to the
accounts knows that its passphrase is held. -/
def KnowsPassphrase : KeyProgress → KeyStore → Prop
  | .suspended (.unlock _), store => store.unlockSecret = none →
      ∀ accountId, store.tracked.vault accountId = none
  | .suspended (.resolveSalt _ passphrase _), store =>
      store.unlockSecret = some passphrase
  | .suspended (.upsertAccount _ keyEncryptionKey), store
  | .suspended (.persistSession _ keyEncryptionKey _), store =>
      ∃ passphrase, store.unlockSecret = some passphrase ∧
        Derives argon2id settings passphrase keyEncryptionKey store
  | _, _ => True

end Invariant

section Steps

variable {aes : AesLibrary} {argon2id : List UInt8 → List UInt8 → List UInt8}
  {settings : List SettingRow} {secret : Option String} {store : KeyStore}
  {passphrase : String} {keyEncryptionKey otherKey : List UInt8}

/-- The stored salt and the passphrase determine the key. -/
theorem Derives.key_unique
    (derives : Derives argon2id settings passphrase keyEncryptionKey store)
    (derivesOther : Derives argon2id settings passphrase otherKey store) :
    keyEncryptionKey = otherKey := by
  obtain ⟨salt, stored, derived⟩ := derives
  obtain ⟨otherSalt, storedOther, derivedOther⟩ := derivesOther
  have sameBytes : salt.bytes = otherSalt.bytes := by
    apply bytes_eq_of_saltRow_eq
    simpa using stored.symm.trans storedOther
  rw [sameBytes, derivedOther] at derived
  exact (Except.ok.inj derived).symm

/-- A stored salt stays. -/
theorem Derives.of_saltAdvance
    (missing : SettingMissing settings authKeySaltSetting)
    (derives : Derives argon2id settings passphrase keyEncryptionKey store)
    (phase : SaltPhase) (input : SaltInput) :
    Derives argon2id settings passphrase keyEncryptionKey
      { store with settings := (saltAdvance phase input store.settings).2 } := by
  obtain ⟨salt, stored, derived⟩ := derives
  refine ⟨salt, ?_, derived⟩
  dsimp only
  rw [stored]
  exact saltAdvance_keeps missing salt phase input

theorem TrackedVault.opensWith_of_empty {tracked : TrackedVault}
    (empty : ∀ accountId, tracked.vault accountId = none)
    (keyEncryptionKey : List UInt8) : tracked.OpensWith keyEncryptionKey := by
  intro accountId entry isEntry
  rw [empty accountId] at isEntry
  cases isEntry

/-- Unlocking an empty installation. -/
theorem KeyStore.Sound.unlock (sound : store.Sound aes argon2id settings secret)
    (empty : ∀ accountId, store.tracked.vault accountId = none)
    (unlockSecret : Option String) :
    KeyStore.Sound aes argon2id settings secret
      { store with unlockSecret } where
  tracked := sound.tracked
  saltOnce := sound.saltOnce
  sealed := .inl empty

/-- Looking for the salt, or creating it. -/
theorem KeyStore.Sound.resolveSalt
    (missing : SettingMissing settings authKeySaltSetting)
    (sound : store.Sound aes argon2id settings secret)
    (phase : SaltPhase) (input : SaltInput) :
    KeyStore.Sound aes argon2id settings secret
      { store with settings := (saltAdvance phase input store.settings).2 } := by
  constructor
  · exact sound.tracked
  · exact (saltAdvance_own missing phase input store.settings
      sound.saltOnce).1
  · rcases sound.sealed with empty | ⟨passphrase, key, derives, sealedByOne⟩
    · exact .inl empty
    · exact .inr ⟨passphrase, key, derives.of_saltAdvance missing phase input,
        sealedByOne⟩

/-- Sealing under the key that the held passphrase derives. -/
theorem KeyStore.Serving.execute
    (serving : store.Serving aes argon2id settings secret)
    (held : store.unlockSecret = some passphrase)
    (derives : Derives argon2id settings passphrase keyEncryptionKey store)
    {operation : VaultOperation}
    (sealsUnder : operation.SealsUnder keyEncryptionKey) :
    KeyStore.Sound aes argon2id settings secret
      { store with tracked := store.tracked.execute aes operation } := by
  have opens : store.tracked.OpensWith keyEncryptionKey := by
    rcases serving.sound.sealed with empty |
      ⟨other, otherKey, derivesOther, opensOther, heldOther, -⟩
    · exact TrackedVault.opensWith_of_empty empty keyEncryptionKey
    · obtain rfl := heldOther passphrase held
      rw [derives.key_unique derivesOther]
      exact opensOther
  constructor
  · exact serving.sound.tracked.execute operation
  · exact serving.sound.saltOnce
  · refine .inr ⟨passphrase, keyEncryptionKey, derives,
      opens.execute sealsUnder, ?_, ?_⟩
    · intro other heldOther
      exact Option.some.inj (heldOther.symm.trans held)
    · intro deployed isDeployed
      exact Option.some.inj ((serving.held deployed isDeployed).symm.trans held)

/-- Every step keeps the credentials under one passphrase. -/
theorem serving_keyAdvance
    (missing : SettingMissing settings authKeySaltSetting)
    (serving : store.Serving aes argon2id settings secret) {phase : KeyPhase}
    (known : KnowsPassphrase argon2id settings (.suspended phase) store)
    (input : KeyInput) :
    (keyAdvance aes argon2id phase input store).2.Serving aes argon2id settings
      secret := by
  rcases @keyAdvance_store aes argon2id phase input store with same |
    ⟨passphrase, rfl, locked, unlocked⟩ |
    ⟨login, passphrase, saltPhase, rfl, resolved⟩ |
    ⟨login, key, operation, isPhase, sealsUnder, executed⟩
  · rw [same]
    exact serving
  · rw [unlocked]
    refine ⟨serving.sound.unlock (known locked) _, ?_⟩
    intro deployed isDeployed
    have held := serving.held deployed isDeployed
    rw [locked] at held
    cases held
  · rw [resolved]
    exact ⟨serving.sound.resolveSalt missing saltPhase input.salt,
      serving.held⟩
  · have derives : ∃ passphrase, store.unlockSecret = some passphrase ∧
        Derives argon2id settings passphrase key store := by
      rcases isPhase with rfl | ⟨accountId, rfl⟩
      · exact known
      · exact known
    obtain ⟨passphrase, held, derives⟩ := derives
    rw [executed]
    exact ⟨serving.execute held derives sealsUnder, serving.held⟩

/-- No step disturbs what another request knows. -/
theorem knowsPassphrase_keyAdvance
    (missing : SettingMissing settings authKeySaltSetting) {phase : KeyPhase}
    (known : KnowsPassphrase argon2id settings (.suspended phase) store)
    (input : KeyInput) {other : KeyProgress}
    (knownOther : KnowsPassphrase argon2id settings other store) :
    KnowsPassphrase argon2id settings other
      (keyAdvance aes argon2id phase input store).2 := by
  rcases @keyAdvance_store aes argon2id phase input store with same |
    ⟨passphrase, rfl, locked, unlocked⟩ |
    ⟨login, passphrase, saltPhase, rfl, resolved⟩ |
    ⟨login, key, operation, isPhase, sealsUnder, executed⟩
  · rw [same]
    exact knownOther
  · rw [unlocked]
    match other with
    | .suspended (.unlock _) => exact fun _ => knownOther locked
    | .suspended (.resolveSalt _ _ _) =>
        rw [KnowsPassphrase, locked] at knownOther
        cases knownOther
    | .suspended (.upsertAccount _ _) | .suspended (.persistSession _ _ _) =>
        obtain ⟨_, held, -⟩ := knownOther
        rw [locked] at held
        cases held
    | .suspended (.accountCheck _) | .suspended (.readSecret _) | .ended _
    | .abandoned => trivial
  · rw [resolved]
    match other with
    | .suspended (.unlock _) => exact knownOther
    | .suspended (.resolveSalt _ _ _) => exact knownOther
    | .suspended (.upsertAccount _ _) | .suspended (.persistSession _ _ _) =>
        obtain ⟨held, isHeld, derives⟩ := knownOther
        exact ⟨held, isHeld,
          derives.of_saltAdvance missing saltPhase input.salt⟩
    | .suspended (.accountCheck _) | .suspended (.readSecret _) | .ended _
    | .abandoned => trivial
  · rw [executed]
    have unlocked : store.unlockSecret ≠ none := by
      rcases isPhase with rfl | ⟨accountId, rfl⟩
      · obtain ⟨_, held, -⟩ := known
        rw [held]
        exact Option.some_ne_none _
      · obtain ⟨_, held, -⟩ := known
        rw [held]
        exact Option.some_ne_none _
    match other with
    | .suspended (.unlock _) => exact fun locked => absurd locked unlocked
    | .suspended (.resolveSalt _ _ _) => exact knownOther
    | .suspended (.upsertAccount _ _) | .suspended (.persistSession _ _ _) =>
        exact knownOther
    | .suspended (.accountCheck _) | .suspended (.readSecret _) | .ended _
    | .abandoned => trivial

/-- A request knows what it should after each of its steps. -/
theorem knowsPassphrase_own
    (missing : SettingMissing settings authKeySaltSetting)
    (serving : store.Serving aes argon2id settings secret) {phase : KeyPhase}
    (known : KnowsPassphrase argon2id settings (.suspended phase) store)
    (input : KeyInput) :
    KnowsPassphrase argon2id settings
      (keyAdvance aes argon2id phase input store).1
      (keyAdvance aes argon2id phase input store).2 := by
  cases phase with
  | accountCheck passphrase =>
      unfold keyAdvance
      dsimp only
      split
      · trivial
      · split
        · trivial
        · rename_i noAccount
          intro _ accountId
          by_contra isKnown
          obtain ⟨entry, isEntry⟩ := Option.ne_none_iff_exists'.mp isKnown
          have isAccount :=
            serving.sound.tracked.tracks.known accountId entry isEntry
          obtain ⟨row, isRow, -⟩ := KeyedTable.mem_keys.mp isAccount
          apply noAccount
          intro noRows
          rw [noRows] at isRow
          cases isRow
  | unlock passphrase =>
      unfold keyAdvance
      dsimp only
      split
      · trivial
      · split <;> trivial
  | readSecret login =>
      unfold keyAdvance
      dsimp only
      split
      · trivial
      · assumption
  | resolveSalt login passphrase saltPhase =>
      have next := (saltAdvance_own missing saltPhase input.salt store.settings
        serving.sound.saltOnce).2
      unfold keyAdvance
      dsimp only
      cases progress : (saltAdvance saltPhase input.salt store.settings).1 with
      | suspended later => exact known
      | abandoned => trivial
      | ended result =>
          rw [progress] at next
          cases result with
          | raised error => trivial
          | returned bytes =>
              obtain ⟨salt, rfl, stored⟩ := next
              rw [saltResolved]
              split
              · rename_i key derived
                exact ⟨passphrase, known, salt, stored, derived⟩
              · trivial
  | upsertAccount login key =>
      have knownAfter := @knowsPassphrase_keyAdvance aes _ _ store missing
        (.upsertAccount login key) known input (.suspended
          (.upsertAccount login key)) known
      revert knownAfter
      unfold keyAdvance
      dsimp only
      split
      · intro _
        trivial
      · split
        · exact fun knownAfter => knownAfter
        · intro _
          trivial
  | persistSession login key accountId =>
      unfold keyAdvance
      dsimp only
      split
      · trivial
      · split <;> trivial

/-- One process keeps the credentials under one passphrase. -/
theorem KeyStore.Sound.serve
    (missing : SettingMissing settings authKeySaltSetting)
    (sound : store.Sound aes argon2id settings secret) {lifetime : Lifetime}
    (starts : lifetime.StartsWith secret) :
    (lifetime.serve aes argon2id store).Sound aes argon2id settings secret := by
  have restarted (unlockSecret : Option String)
      (deployed : ∀ held ∈ unlockSecret, secret = some held) :
      KeyStore.Sound aes argon2id settings secret
        { store with unlockSecret } := by
    constructor
    · exact sound.tracked
    · exact sound.saltOnce
    · rcases sound.sealed with empty |
        ⟨passphrase, key, derives, opens, -, agrees⟩
      · exact .inl empty
      · exact .inr ⟨passphrase, key, derives, opens,
          fun held isHeld => agrees held (deployed held isHeld), agrees⟩
  unfold Lifetime.serve
  cases startup : lifetime.startup with
  | error error =>
      apply restarted
      intro held absent
      cases absent
  | ok unlockSecret =>
      obtain rfl := starts unlockSecret startup
      have serving : KeyStore.Serving aes argon2id settings unlockSecret
          { store with unlockSecret } :=
        ⟨restarted unlockSecret fun _ isHeld => isHeld, fun _ isHeld => isHeld⟩
      have entered : ∀ request (store : KeyStore),
          store.Serving aes argon2id settings unlockSecret →
          KnowsPassphrase argon2id settings
            (.suspended ((keyCalls aes argon2id).enter request)) store := by
        intro request store _
        cases request with
        | postSetupUnlock passphrase => trivial
        | persistAuthenticatedSession login => trivial
      have annotated := (keyCalls aes argon2id).always_annotated entered
        (fun _ => trivial)
        (fun _ input _ serving known =>
          ⟨serving_keyAdvance missing serving known input,
            knowsPassphrase_own missing serving known input⟩)
        (fun _ input _ _ _ known knownOther =>
          knowsPassphrase_keyAdvance missing known input knownOther)
        lifetime.events serving
      exact (annotated lifetime.events List.prefix_rfl).1.sound

theorem sound_lifetimes
    (missing : SettingMissing settings authKeySaltSetting)
    {lifetimes : List Lifetime}
    (starts : ∀ lifetime ∈ lifetimes, lifetime.StartsWith secret) (now : Int) :
    (run (Lifetime.serve aes argon2id) lifetimes
      (.fresh settings now)).Sound aes argon2id settings secret := by
  have initially : (KeyStore.fresh settings now).Sound aes argon2id settings
      secret :=
    ⟨TrackedVault.sound_empty now, .inl rfl, .inl fun _ => rfl⟩
  have preserved : ∀ (lifetime : Lifetime) store,
      KeyStore.Sound aes argon2id settings secret store →
      lifetime.StartsWith secret →
      KeyStore.Sound aes argon2id settings secret
        (lifetime.serve aes argon2id store) :=
    fun _ _ sound allowed => sound.serve missing allowed
  exact always_of_guarded _ preserved initially
    (guarded_of_forall_mem _ (fun lifetime member _ =>
      starts lifetime member) _) lifetimes List.prefix_rfl

end Steps

/-- One passphrase opens everything.  Take any processes one after the other,
each with any interleaving of wizard requests that carry any passphrases and of
verified logins, cut off anywhere; let them all start locked, or all unlock
themselves with one secret.  Then no account is known, or one passphrase and
the stored salt derive the key with which the loader returns every account as
it was given last, and a process that is unlocked holds this passphrase. -/
theorem one_passphrase_opens {aes : AesLibrary} (lawful : aes.Lawful)
    (argon2id : List UInt8 → List UInt8 → List UInt8)
    {recursionLimit : Nat} (deepEnough : 0 < recursionLimit)
    {settings : List SettingRow}
    (missing : SettingMissing settings authKeySaltSetting)
    {secret : Option String} {lifetimes : List Lifetime}
    (starts : ∀ lifetime ∈ lifetimes, lifetime.StartsWith secret) (now : Int) :
    let store := run (Lifetime.serve aes argon2id) lifetimes
      (.fresh settings now)
    (∀ accountId, store.tracked.vault accountId = none) ∨
    ∃ passphrase salt key loaded,
      getSetting store.settings authKeySaltSetting =
        .ok (some (.str (encodeSalt salt))) ∧
      deriveKeyEncryptionKey argon2id passphrase salt = .ok key ∧
      loadTelegramAccounts aes recursionLimit key
        store.tracked.store.accounts = .ok loaded ∧
      TrackedVault.ListsVault store.tracked.vault loaded ∧
      ∀ held ∈ store.unlockSecret, held = passphrase := by
  intro store
  have sound : store.Sound aes argon2id settings secret :=
    sound_lifetimes missing starts now
  rcases sound.sealed with empty |
    ⟨passphrase, key, ⟨salt, stored, derived⟩, opens, held, -⟩
  · exact .inl empty
  · right
    refine ⟨passphrase, salt.bytes, key, _, ?_, derived,
      loadTelegramAccounts_of_opens lawful deepEnough sound.tracked.tracks
        opens,
      TrackedVault.listsVault_of_tracks sound.tracked.tracks, held⟩
    rw [stored]
    exact getSetting_salt missing salt

/-- The key of the passphrase "open sesame" and a salt of twos. -/
def sampleDerivedKey : List UInt8 :=
  [119, 95, 122, 7, 210, 243, 228, 125, 113, 114, 80, 250, 125, 26, 166, 232,
    161, 240, 38, 38, 245, 182, 64, 121, 97, 38, 104, 61, 42, 114, 136, 145]

/-- The wrapping of `sampleDek` under `sampleDerivedKey`. -/
def sampleDerivedWrapped : List UInt8 :=
  [158, 102, 232, 184, 47, 143, 85, 61, 31, 40, 16, 153, 44, 160, 219, 25, 206,
    161, 247, 26, 156, 107, 107, 64, 188, 142, 234, 22, 215, 176, 16, 49, 182,
    40, 253, 133, 142, 5, 206, 54]

def sampleDerivingAes : AesLibrary :=
  markedAes sampleDerivedKey sampleDerivedWrapped

/-- Argon2id on the sample passphrase and salt. -/
def sampleArgon2id (secret salt : List UInt8) : List UInt8 :=
  if secret = encodeUtf8 "open sesame".toList ∧ salt = (uniformSalt 2).bytes
  then sampleDerivedKey
  else List.replicate 32 0

def sampleKeyInput : KeyInput where
  drawnSalt := uniformSalt 2
  draw := sampleEnvelopeDraw

/-- Two visitors of the wizard unlock at once; the first one's passphrase
counts and seals a login.  After a restart the wizard is closed. -/
def sampleLifetimes : List Lifetime :=
  [{ mode := .secureInteractive
     secretFile := none
     contents := .missing
     events :=
      [.start (.postSetupUnlock " open sesame "),
        .start (.postSetupUnlock "another"),
        .resume 0 sampleKeyInput, .resume 1 sampleKeyInput,
        .resume 0 sampleKeyInput, .resume 1 sampleKeyInput,
        .start (.persistAuthenticatedSession
          ⟨12345, "kek", "+15550100", "kek"⟩),
        .resume 2 sampleKeyInput, .resume 2 sampleKeyInput,
        .resume 2 sampleKeyInput, .resume 2 sampleKeyInput,
        .resume 2 sampleKeyInput] },
   { mode := .secureInteractive
     secretFile := none
     contents := .missing
     events :=
      [.start (.postSetupUnlock "another"), .resume 0 sampleKeyInput] }]

theorem one_passphrase_opens_sample :
    ∃ passphrase salt key loaded,
      deriveKeyEncryptionKey sampleArgon2id passphrase salt = .ok key ∧
      loadTelegramAccounts sampleDerivingAes 1000 key
        (run (Lifetime.serve sampleDerivingAes sampleArgon2id) sampleLifetimes
          (.fresh [] 0)).tracked.store.accounts = .ok loaded ∧
      (⟨1, 12345, "kek", some "kek"⟩ : TelegramAccount) ∈ loaded := by
  have starts : ∀ lifetime ∈ sampleLifetimes, lifetime.StartsWith none := by
    intro lifetime member unlocked startup
    simp only [sampleLifetimes, List.mem_cons, List.not_mem_nil,
      or_false] at member
    rcases member with rfl | rfl
    · exact (Except.ok.inj startup).symm
    · exact (Except.ok.inj startup).symm
  have known : (run (Lifetime.serve sampleDerivingAes sampleArgon2id)
      sampleLifetimes (.fresh [] 0)).tracked.vault 1 =
        some ⟨12345, "kek", "+15550100", sampleDerivedKey,
          some ⟨"kek", sampleDerivedKey⟩⟩ := by
    decide
  rcases @one_passphrase_opens sampleDerivingAes (markedAes_lawful rfl)
      sampleArgon2id 1000 (by decide) [] (by simp [SettingMissing]) none
      sampleLifetimes starts 0 with
    empty | ⟨passphrase, salt, key, loaded, -, derived, returned, lists, -⟩
  · rw [empty 1] at known
    cases known
  · exact ⟨passphrase, salt, key, loaded, derived, returned,
      (lists.mem_iff _).mpr ⟨_, known, rfl⟩⟩

end Tca
