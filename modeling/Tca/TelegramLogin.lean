import Tca.AccountTable
import Tca.InterleavedCalls

/-!
# The Telegram login wizard

The requests that verify a login code or a password on an auth session.  A
request reads the session row, asks Telegram to sign in, stores the account and
its session in two commits, and writes the new status.  Between these steps
other requests may take theirs, and a request may be cut off before any of
them by an exception or because the process stops.
-/

namespace Tca

open TableRows Transaction InterleavedCalls

inductive AuthStatus where
  | codeSent
  | passwordRequired
  | authenticated
  deriving DecidableEq

/-- The text stored in the `status` column. -/
def AuthStatus.text : AuthStatus → String
  | .codeSent => "code_sent"
  | .passwordRequired => "password_required"
  | .authenticated => "authenticated"

/-- Persisted auth session state for multi-step login. -/
structure AuthSessionState where
  sessionId : String
  phoneNumber : String
  status : AuthStatus
  expiresAt : Int
  telegramSession : Option String
  deriving DecidableEq

abbrev AuthSessionTable : Type :=
  KeyedTable AuthSessionState AuthSessionState.sessionId

/-- The tables that a login touches and the clock in whole seconds. -/
structure LoginStore where
  sessions : AuthSessionTable
  accounts : AccountTable
  now : Int

abbrev LoginTransaction (Value : Type) : Type :=
  Transaction LoginStore PyError Value

/-- How Telegram answers a sign-in.  A rejected phone number may be blocked
(banned or flooded) or merely not usable. -/
inductive SignInReply where
  | success
  | sessionPasswordNeeded
  | phoneCodeInvalid
  | phoneCodeExpired
  | passwordHashInvalid
  | phoneNumberRejected (blocked : Bool)
  | apiIdInvalid
  | otherError (message : String)
  deriving DecidableEq

/-- What a step may learn from outside the store: Telegram's answer, the text
that the client's session saves to, whether sensitive operations are unlocked,
the output of `encrypt_with_envelope`, and whether a recorded breach pauses the
account. -/
structure LoginInput where
  reply : SignInReply := .success
  savedSession : Option String := none
  unlocked : Bool := true
  ciphertext : List UInt8 := []
  riskPause : Option Instant := none
  deriving DecidableEq

/-- The part of a verification payload that reaches the store. -/
structure VerifyRequest where
  sessionId : String
  apiId : Int
  deriving DecidableEq

inductive LoginRequest where
  | verifyTelegramCode (payload : VerifyRequest)
  | verifyTelegramPassword (payload : VerifyRequest)
  | passTime (seconds : Nat)
  deriving DecidableEq

/-- A sign-in that Telegram accepted.  `clearsSession` tells whether the final
status write also clears the stored session text. -/
structure AcceptedLogin where
  sessionId : String
  apiId : Int
  phoneNumber : String
  sessionString : String
  clearsSession : Bool
  deriving DecidableEq

/-- What a request is about to do next.  `telegramSession` of a status write is
the new column value, if the write sets the column. -/
inductive LoginPhase where
  | codeRead (payload : VerifyRequest)
  | codeCheck (payload : VerifyRequest) (state : AuthSessionState)
  | codeSignIn (payload : VerifyRequest) (phoneNumber : String)
  | passwordRead (payload : VerifyRequest)
  | passwordCheck (payload : VerifyRequest) (state : AuthSessionState)
  | passwordSignIn (payload : VerifyRequest) (phoneNumber : String)
  | deleteExpired (sessionId : String)
  | deleteAuthSession (sessionId : String)
  | recordFailure (phoneNumber : String) (blocked : Bool)
  | resolveKey (login : AcceptedLogin)
  | upsertAccount (login : AcceptedLogin)
  | persistSession (login : AcceptedLogin) (accountId : Int)
  | updateStatus (sessionId : String) (status : AuthStatus)
      (telegramSession : Option (Option String))
  | statusCheck (state : AuthSessionState)
  | passTime (seconds : Nat)
  deriving DecidableEq

inductive LoginResult where
  | verified (sessionId : String) (status : AuthStatus)
  | httpError (statusCode : Nat) (detail : String)
  | raised (problem : PyError)
  | timePassed
  deriving DecidableEq

abbrev LoginProgress : Type :=
  Progress LoginPhase LoginResult

namespace LoginResult

def authSessionNotFound (sessionId : String) : LoginResult :=
  .httpError 404 s!"Auth session state not found for session_id='{sessionId}'."

def authSessionExpired (sessionId : String) : LoginResult :=
  .httpError 410 s!"Auth session state expired for session_id='{sessionId}'."

def codeStatusConflict (status : AuthStatus) : LoginResult :=
  .httpError 409
    s!"Auth session cannot accept login code when status is '{status.text}'."

def passwordStatusConflict (status : AuthStatus) : LoginResult :=
  .httpError 409
    s!"Auth session cannot accept password when status is '{status.text}'."

def missingPasswordSession : LoginResult :=
  .httpError 409 "Auth session missing Telegram session state."

def sensitiveOperationLocked : LoginResult :=
  .httpError 423 "Sensitive operations are locked. Run an unlock action first."

def passwordSessionCapture : LoginResult :=
  .httpError 500 "Unable to capture Telegram auth session."

def invalidLoginCode : LoginResult :=
  .httpError 400 "Invalid Telegram login code."

def expiredLoginCode : LoginResult :=
  .httpError 410 "Telegram login code expired."

def invalidPassword : LoginResult :=
  .httpError 400 "Invalid Telegram password."

def invalidApiCredentials : LoginResult :=
  .httpError 400 "Invalid Telegram API credentials."

/-- `_auth_failure_http_error` for the notification that was recorded. -/
def authFailure (blocked : Bool) : LoginResult :=
  if blocked then
    .httpError 403 "Telegram registration/login is blocked. Retry later."
  else
    .httpError 400
      "Telegram login failed. Retry after verifying credentials."

/-- An exception of the client that no handler of the route catches. -/
def unhandled (message : String) : LoginResult :=
  .raised (.rpcError message)

end LoginResult

namespace LoginStore

variable (store : LoginStore)

/-- `_is_expired`. -/
def IsExpired (expiresAt : Int) : Prop :=
  expiresAt ≤ store.now

instance (expiresAt : Int) : Decidable (store.IsExpired expiresAt) :=
  inferInstanceAs (Decidable (_ ≤ _))

/-- `UPDATE auth_session_state ... WHERE session_id = :session_id`. -/
def writeStatus (sessionId : String) (status : AuthStatus)
    (telegramSession : Option (Option String)) : LoginStore :=
  { store with
    sessions := store.sessions.updateWhere
      (fun row => row.sessionId = sessionId)
      (fun row =>
        { row with
          status := status
          telegramSession := telegramSession.getD row.telegramSession })
      fun _ => rfl }

/-- `DELETE FROM auth_session_state WHERE session_id = :session_id`. -/
def deleteSession (sessionId : String) : LoginStore :=
  { store with
    sessions := store.sessions.deleteWhere fun row => row.sessionId = sessionId }

/-- The accounts with a phone number. -/
def accountsOf (phoneNumber : String) : List AccountRow :=
  store.accounts.rows.filter fun row => row.phoneNumber = some phoneNumber

/-- Update the credentials of the accounts with a phone number. -/
def writeCredentials (apiId : Int) (apiHashEncrypted : List UInt8)
    (phoneNumber : String) : LoginStore :=
  { store with
    accounts := store.accounts.updateWhere
      (fun row => row.phoneNumber = some phoneNumber)
      (fun row =>
        { row with
          apiId := apiId
          apiHashEncrypted := apiHashEncrypted
          phoneNumber := some phoneNumber })
      fun _ => rfl }

/-- The row of a new account; the other columns have their defaults. -/
def newAccount (apiId : Int) (apiHashEncrypted : List UInt8)
    (phoneNumber : String) : AccountRow where
  id := nextRowid store.accounts.ids
  apiId := apiId
  apiHashEncrypted := apiHashEncrypted
  phoneNumber := some phoneNumber
  sessionEncrypted := none
  keyVersion := 1
  pausedAt := none
  pauseReason := none

/-- Insert a new account if a row id is left for it. -/
def insertAccount (apiId : Int) (apiHashEncrypted : List UInt8)
    (phoneNumber : String) : LoginStore :=
  if sqlId : IsSqlInteger (nextRowid store.accounts.ids) then
    { store with
      accounts := store.accounts.insert
        (store.newAccount apiId apiHashEncrypted phoneNumber)
        (nextRowid_notMem _) sqlId }
  else store

/-- Store the encrypted session of an account. -/
def writeSession (accountId : Int) (sessionEncrypted : List UInt8) :
    LoginStore :=
  { store with
    accounts := store.accounts.updateWhere (fun row => row.id = accountId)
      (fun row => { row with sessionEncrypted := some sessionEncrypted })
      fun _ => rfl }

/-- Pause the accounts with a phone number that are not paused yet. -/
def pauseAccounts (phoneNumber : String) (pausedAt : Instant) : LoginStore :=
  { store with
    accounts := store.accounts.updateWhere
      (fun row => row.phoneNumber = some phoneNumber ∧ row.pausedAt = none)
      (fun row =>
        { row with
          pausedAt := some pausedAt
          pauseReason := some "account-risk" })
      fun _ => rfl }

/-- A login reaches an account table without its phone number and can add a row
to it. -/
def CreatesAccount (login : AcceptedLogin) : Prop :=
  IsSqlInteger login.apiId ∧ store.accountsOf login.phoneNumber = [] ∧
    IsSqlInteger (nextRowid store.accounts.ids)

instance (login : AcceptedLogin) : Decidable (store.CreatesAccount login) :=
  inferInstanceAs (Decidable (_ ∧ _ ∧ _))

/-- `_has_persisted_account`: the setup wizard takes any account row for a
finished setup. -/
def HasPersistedAccount : Prop :=
  store.accounts.rows ≠ []

instance : Decidable store.HasPersistedAccount :=
  inferInstanceAs (Decidable (_ ≠ _))

variable {store} in
theorem mem_writeStatus {sessionId : String} {status : AuthStatus}
    {telegramSession : Option (Option String)} {row : AuthSessionState} :
    row ∈ (store.writeStatus sessionId status telegramSession).sessions.rows ↔
      ∃ old ∈ store.sessions.rows,
        (if old.sessionId = sessionId then
          { old with
            status := status
            telegramSession := telegramSession.getD old.telegramSession }
        else old) = row := by
  simp [writeStatus, KeyedTable.updateWhere]

variable {store} in
theorem mem_deleteSession {sessionId : String} {row : AuthSessionState} :
    row ∈ (store.deleteSession sessionId).sessions.rows ↔
      row ∈ store.sessions.rows ∧ row.sessionId ≠ sessionId := by
  simp [deleteSession, KeyedTable.deleteWhere]

theorem insertAccount_rows {apiId : Int} {apiHashEncrypted : List UInt8}
    {phoneNumber : String}
    (sqlId : IsSqlInteger (nextRowid store.accounts.ids)) :
    (store.insertAccount apiId apiHashEncrypted phoneNumber).accounts.rows =
      store.accounts.rows ++
        [store.newAccount apiId apiHashEncrypted phoneNumber] := by
  rw [insertAccount, dif_pos sqlId]
  rfl

theorem insertAccount_sessions (apiId : Int) (apiHashEncrypted : List UInt8)
    (phoneNumber : String) :
    (store.insertAccount apiId apiHashEncrypted phoneNumber).sessions =
      store.sessions := by
  unfold insertAccount
  split <;> rfl

theorem insertAccount_now (apiId : Int) (apiHashEncrypted : List UInt8)
    (phoneNumber : String) :
    (store.insertAccount apiId apiHashEncrypted phoneNumber).now =
      store.now := by
  unfold insertAccount
  split <;> rfl

end LoginStore

/-- What the ORM raises when a phone number is stored twice. -/
def multipleAccounts : PyError :=
  .multipleResultsFound
    "Multiple rows were found when one or none was required"

/-- Create or update a Telegram account row and return the account id. -/
def upsertAccount (apiId : Int) (apiHashEncrypted : List UInt8)
    (phoneNumber : String) : LoginTransaction Int := do
  require (IsSqlInteger apiId) integerOverflow
  let store ← query fun store => store
  match store.accountsOf phoneNumber with
  | [] => do
      require (IsSqlInteger (nextRowid store.accounts.ids))
        (.operationalError "database or disk is full")
      update fun current =>
        current.insertAccount apiId apiHashEncrypted phoneNumber
      commit
      return nextRowid store.accounts.ids
  | [row] => do
      update fun current =>
        current.writeCredentials apiId apiHashEncrypted phoneNumber
      commit
      return row.id
  | _ => raise multipleAccounts

/-- Persist StringSession material for a Telegram account row. -/
def persistSession (accountId : Int) (sessionEncrypted : List UInt8) :
    LoginTransaction Unit := do
  let store ← query fun store => store
  update fun current => current.writeSession accountId sessionEncrypted
  commit
  require (accountId ∈ store.accounts.ids)
    (.telegramAccountNotFoundError
      s!"Unable to access Telegram session: no account row exists for id={accountId}.")

/-- `_extract_session_string`. -/
def extractSessionString (saved : Option String) : Option String :=
  saved.filter fun text => text ≠ ""

/-- The checks of `verify_telegram_code` on the row that it read. -/
def codeCheck (payload : VerifyRequest) (state : AuthSessionState)
    (unlocked : Bool) (store : LoginStore) : LoginProgress :=
  if store.IsExpired state.expiresAt then
    .suspended (.deleteExpired payload.sessionId)
  else if state.status ≠ .codeSent then
    .ended (.codeStatusConflict state.status)
  else if unlocked then .suspended (.codeSignIn payload state.phoneNumber)
  else .ended .sensitiveOperationLocked

/-- The checks of `verify_telegram_password` on the row that it read. -/
def passwordCheck (payload : VerifyRequest) (state : AuthSessionState)
    (unlocked : Bool) (store : LoginStore) : LoginProgress :=
  if store.IsExpired state.expiresAt then
    .suspended (.deleteExpired payload.sessionId)
  else if state.status ≠ .passwordRequired then
    .ended (.passwordStatusConflict state.status)
  else if extractSessionString state.telegramSession = none then
    .ended .missingPasswordSession
  else if unlocked then .suspended (.passwordSignIn payload state.phoneNumber)
  else .ended .sensitiveOperationLocked

/-- What follows an accepted sign-in. -/
def signedIn (payload : VerifyRequest) (phoneNumber : String)
    (clearsSession : Bool) (saved : Option String) : LoginProgress :=
  match extractSessionString saved with
  | none => .ended .passwordSessionCapture
  | some sessionString =>
      .suspended (.resolveKey
        ⟨payload.sessionId, payload.apiId, phoneNumber, sessionString,
          clearsSession⟩)

/-- `verify_telegram_code` from Telegram's answer on. -/
def codeReply (payload : VerifyRequest) (phoneNumber : String)
    (input : LoginInput) : LoginProgress :=
  match input.reply with
  | .success => signedIn payload phoneNumber false input.savedSession
  | .sessionPasswordNeeded =>
      match extractSessionString input.savedSession with
      | none => .ended .passwordSessionCapture
      | some sessionString =>
          .suspended (.updateStatus payload.sessionId .passwordRequired
            (some (some sessionString)))
  | .phoneCodeInvalid => .ended .invalidLoginCode
  | .phoneCodeExpired => .suspended (.deleteAuthSession payload.sessionId)
  | .phoneNumberRejected blocked =>
      .suspended (.recordFailure phoneNumber blocked)
  | .apiIdInvalid => .ended .invalidApiCredentials
  | .passwordHashInvalid => .ended (.unhandled "PasswordHashInvalidError")
  | .otherError message => .ended (.unhandled message)

/-- `verify_telegram_password` from Telegram's answer on. -/
def passwordReply (payload : VerifyRequest) (phoneNumber : String)
    (input : LoginInput) : LoginProgress :=
  match input.reply with
  | .success => signedIn payload phoneNumber true input.savedSession
  | .passwordHashInvalid => .ended .invalidPassword
  | .phoneNumberRejected blocked =>
      .suspended (.recordFailure phoneNumber blocked)
  | .apiIdInvalid => .ended .invalidApiCredentials
  | .sessionPasswordNeeded => .ended (.unhandled "SessionPasswordNeededError")
  | .phoneCodeInvalid => .ended (.unhandled "PhoneCodeInvalidError")
  | .phoneCodeExpired => .ended (.unhandled "PhoneCodeExpiredError")
  | .otherError message => .ended (.unhandled message)

/-- `get_session`: the row read by a request, on which it goes on. -/
def readSession (sessionId : String)
    (next : AuthSessionState → LoginPhase) (store : LoginStore) :
    LoginProgress :=
  match store.sessions.find? sessionId with
  | none => .ended (.authSessionNotFound sessionId)
  | some state => .suspended (next state)

/-- The notification of a rejected phone number, the breach recorded for its
account, and the error that the request ends with. -/
def recordFailure (phoneNumber : String) (blocked : Bool)
    (riskPause : Option Instant) (store : LoginStore) :
    LoginProgress × LoginStore :=
  if phoneNumber = "" then (.ended (.authFailure blocked), store)
  else if 1 < (store.accountsOf phoneNumber).length then
    (.ended (.raised multipleAccounts), store)
  else
    match riskPause with
    | none => (.ended (.authFailure blocked), store)
    | some pausedAt =>
        (.ended (.authFailure blocked),
          store.pauseAccounts phoneNumber pausedAt)

/-- The atomic step of each phase. -/
def loginAdvance : LoginPhase → LoginInput → LoginStore →
    LoginProgress × LoginStore
  | .codeRead payload, _, store =>
      (readSession payload.sessionId (.codeCheck payload) store, store)
  | .codeCheck payload state, input, store =>
      (codeCheck payload state input.unlocked store, store)
  | .codeSignIn payload phoneNumber, input, store =>
      (codeReply payload phoneNumber input, store)
  | .passwordRead payload, _, store =>
      (readSession payload.sessionId (.passwordCheck payload) store, store)
  | .passwordCheck payload state, input, store =>
      (passwordCheck payload state input.unlocked store, store)
  | .passwordSignIn payload phoneNumber, input, store =>
      (passwordReply payload phoneNumber input, store)
  | .deleteExpired sessionId, _, store =>
      (.ended (.authSessionExpired sessionId), store.deleteSession sessionId)
  | .deleteAuthSession sessionId, _, store =>
      (.ended .expiredLoginCode, store.deleteSession sessionId)
  | .recordFailure phoneNumber blocked, input, store =>
      recordFailure phoneNumber blocked input.riskPause store
  | .resolveKey login, input, store =>
      if input.unlocked then (.suspended (.upsertAccount login), store)
      else (.ended .sensitiveOperationLocked, store)
  | .upsertAccount login, input, store =>
      let (outcome, later) := atomically
        (upsertAccount login.apiId input.ciphertext login.phoneNumber) store
      match outcome with
      | .ok accountId => (.suspended (.persistSession login accountId), later)
      | .error problem => (.ended (.raised problem), later)
  | .persistSession login accountId, input, store =>
      let (outcome, later) :=
        atomically (persistSession accountId input.ciphertext) store
      match outcome with
      | .ok _ =>
          (.suspended (.updateStatus login.sessionId .authenticated
            (if login.clearsSession then some none else none)), later)
      | .error problem => (.ended (.raised problem), later)
  | .updateStatus sessionId status telegramSession, _, store =>
      let later := store.writeStatus sessionId status telegramSession
      match later.sessions.find? sessionId with
      | none => (.ended (.authSessionNotFound sessionId), later)
      | some state => (.suspended (.statusCheck state), later)
  | .statusCheck state, _, store =>
      if store.IsExpired state.expiresAt then
        (.suspended (.deleteExpired state.sessionId), store)
      else (.ended (.verified state.sessionId state.status), store)
  | .passTime seconds, _, store =>
      (.ended .timePassed, { store with now := store.now + seconds })

/-- The requests of the login wizard. -/
def loginCalls : Protocol LoginStore LoginRequest LoginPhase LoginInput
    LoginResult where
  enter
    | .verifyTelegramCode payload => .codeRead payload
    | .verifyTelegramPassword payload => .passwordRead payload
    | .passTime seconds => .passTime seconds
  advance := loginAdvance

@[simp]
theorem loginCalls_advance : loginCalls.advance = loginAdvance :=
  rfl

abbrev LoginSystem : Type :=
  System LoginStore LoginPhase LoginResult

abbrev LoginEvent : Type :=
  Event LoginRequest LoginInput

section Transactions

variable {store : LoginStore}

/-- An account is inserted for a new phone number, updated for a known one,
and left alone if the phone number is stored twice. -/
theorem atomically_upsertAccount (apiId : Int) (apiHash : List UInt8)
    (phoneNumber : String) :
    atomically (upsertAccount apiId apiHash phoneNumber) store =
      if IsSqlInteger apiId then
        match store.accountsOf phoneNumber with
        | [] =>
            if IsSqlInteger (nextRowid store.accounts.ids) then
              (.ok (nextRowid store.accounts.ids),
                store.insertAccount apiId apiHash phoneNumber)
            else (.error (.operationalError "database or disk is full"), store)
        | [row] =>
            (.ok row.id, store.writeCredentials apiId apiHash phoneNumber)
        | _ => (.error multipleAccounts, store)
      else (.error integerOverflow, store) := by
  simp only [atomically, upsertAccount, run_require_bind, run_query_bind]
  split
  · split
    · simp only [run_require_bind]
      split <;> rfl
    · rfl
    · rfl
  · rfl

/-- A session is stored exactly for the accounts of the table. -/
theorem atomically_persistSession (accountId : Int) (session : List UInt8) :
    atomically (persistSession accountId session) store =
      (if accountId ∈ store.accounts.ids then .ok ()
        else .error (.telegramAccountNotFoundError
          s!"Unable to access Telegram session: no account row exists for id={accountId}."),
        store.writeSession accountId session) := by
  simp only [atomically, persistSession, run_query_bind, run_update_bind,
    run_commit_bind, require]
  split <;> rfl

/-- A login for a new phone number creates an account. -/
theorem loginAdvance_upsertAccount_of_creates {login : AcceptedLogin}
    (input : LoginInput) (creates : store.CreatesAccount login) :
    loginAdvance (.upsertAccount login) input store =
      (.suspended (.persistSession login (nextRowid store.accounts.ids)),
        store.insertAccount login.apiId input.ciphertext
          login.phoneNumber) := by
  obtain ⟨sqlApiId, unknown, sqlId⟩ := creates
  simp [loginAdvance, atomically_upsertAccount, sqlApiId, unknown, sqlId]

/-- What the step that stores the credentials can do. -/
theorem loginAdvance_upsertAccount_cases (login : AcceptedLogin)
    (input : LoginInput) (store : LoginStore) :
    (∃ problem, loginAdvance (.upsertAccount login) input store =
        (.ended (.raised problem), store)) ∨
      (store.CreatesAccount login ∧
        loginAdvance (.upsertAccount login) input store =
          (.suspended (.persistSession login (nextRowid store.accounts.ids)),
            store.insertAccount login.apiId input.ciphertext
              login.phoneNumber)) ∨
      ∃ row, store.accountsOf login.phoneNumber = [row] ∧
        loginAdvance (.upsertAccount login) input store =
          (.suspended (.persistSession login row.id),
            store.writeCredentials login.apiId input.ciphertext
              login.phoneNumber) := by
  by_cases creates : store.CreatesAccount login
  · exact .inr (.inl ⟨creates,
      loginAdvance_upsertAccount_of_creates input creates⟩)
  simp only [loginAdvance, atomically_upsertAccount]
  by_cases sqlApiId : IsSqlInteger login.apiId
  · simp only [if_pos sqlApiId]
    cases found : store.accountsOf login.phoneNumber with
    | nil =>
        have exhausted : ¬ IsSqlInteger (nextRowid store.accounts.ids) :=
          fun sqlId => creates ⟨sqlApiId, found, sqlId⟩
        simp [exhausted]
    | cons row rows =>
        cases rows with
        | nil => simp
        | cons second rows => simp
  · simp [sqlApiId]

end Transactions

section Checks

variable (payload : VerifyRequest) (state : AuthSessionState)
  (unlocked : Bool) (store : LoginStore)

/-- A login code is refused, or goes on to the deletion of an expired session
or to Telegram. -/
theorem codeCheck_cases :
    (∃ result, codeCheck payload state unlocked store = .ended result) ∨
      (store.IsExpired state.expiresAt ∧
        codeCheck payload state unlocked store =
          .suspended (.deleteExpired payload.sessionId)) ∨
      codeCheck payload state unlocked store =
        .suspended (.codeSignIn payload state.phoneNumber) := by
  unfold codeCheck
  split
  · rename_i expired
    exact .inr (.inl ⟨expired, rfl⟩)
  split
  · exact .inl ⟨_, rfl⟩
  split
  · exact .inr (.inr rfl)
  · exact .inl ⟨_, rfl⟩

/-- A password is refused, or goes on to the deletion of an expired session or
to Telegram. -/
theorem passwordCheck_cases :
    (∃ result, passwordCheck payload state unlocked store = .ended result) ∨
      (store.IsExpired state.expiresAt ∧
        passwordCheck payload state unlocked store =
          .suspended (.deleteExpired payload.sessionId)) ∨
      passwordCheck payload state unlocked store =
        .suspended (.passwordSignIn payload state.phoneNumber) := by
  unfold passwordCheck
  split
  · rename_i expired
    exact .inr (.inl ⟨expired, rfl⟩)
  split
  · exact .inl ⟨_, rfl⟩
  split
  · exact .inl ⟨_, rfl⟩
  split
  · exact .inr (.inr rfl)
  · exact .inl ⟨_, rfl⟩

end Checks

/-- A recorded failure ends the request and pauses accounts at most. -/
theorem recordFailure_cases (phoneNumber : String) (blocked : Bool)
    (riskPause : Option Instant) (store : LoginStore) :
    ∃ result,
      recordFailure phoneNumber blocked riskPause store =
          (.ended result, store) ∨
        ∃ pausedAt, recordFailure phoneNumber blocked riskPause store =
          (.ended result, store.pauseAccounts phoneNumber pausedAt) := by
  unfold recordFailure
  split
  · exact ⟨_, .inl rfl⟩
  split
  · exact ⟨_, .inl rfl⟩
  split
  · exact ⟨_, .inl rfl⟩
  · exact ⟨_, .inr ⟨_, rfl⟩⟩

theorem loginAdvance_persistSession_store (login : AcceptedLogin)
    (accountId : Int) (input : LoginInput) (store : LoginStore) :
    (loginAdvance (.persistSession login accountId) input store).2 =
      store.writeSession accountId input.ciphertext := by
  simp only [loginAdvance, atomically_persistSession]
  split <;> rfl

theorem loginAdvance_updateStatus_store (sessionId : String)
    (status : AuthStatus) (telegramSession : Option (Option String))
    (input : LoginInput) (store : LoginStore) :
    (loginAdvance (.updateStatus sessionId status telegramSession) input
        store).2 =
      store.writeStatus sessionId status telegramSession := by
  simp only [loginAdvance]
  split <;> rfl

/-- All that a step can do to the auth sessions. -/
theorem loginAdvance_sessions (phase : LoginPhase) (input : LoginInput)
    (store : LoginStore) :
    (loginAdvance phase input store).2.sessions = store.sessions ∨
      (∃ sessionId status telegramSession,
        phase = .updateStatus sessionId status telegramSession ∧
        (loginAdvance phase input store).2 =
          store.writeStatus sessionId status telegramSession) ∨
      ∃ sessionId,
        (phase = .deleteExpired sessionId ∨
          phase = .deleteAuthSession sessionId) ∧
        (loginAdvance phase input store).2 = store.deleteSession sessionId := by
  cases phase with
  | codeRead payload => exact .inl rfl
  | codeCheck payload state => exact .inl rfl
  | codeSignIn payload phoneNumber => exact .inl rfl
  | passwordRead payload => exact .inl rfl
  | passwordCheck payload state => exact .inl rfl
  | passwordSignIn payload phoneNumber => exact .inl rfl
  | deleteExpired sessionId =>
      exact .inr (.inr ⟨sessionId, .inl rfl, rfl⟩)
  | deleteAuthSession sessionId =>
      exact .inr (.inr ⟨sessionId, .inr rfl, rfl⟩)
  | recordFailure phoneNumber blocked =>
      left
      obtain ⟨result, ended | ⟨pausedAt, paused⟩⟩ :=
        recordFailure_cases phoneNumber blocked input.riskPause store
      · rw [loginAdvance, ended]
      · rw [loginAdvance, paused]
        rfl
  | resolveKey login =>
      left
      simp only [loginAdvance]
      split <;> rfl
  | upsertAccount login =>
      left
      rcases loginAdvance_upsertAccount_cases login input store with
        ⟨problem, failed⟩ | ⟨-, inserted⟩ | ⟨row, -, updated⟩
      · rw [failed]
      · rw [inserted, LoginStore.insertAccount_sessions]
      · rw [updated]
        rfl
  | persistSession login accountId =>
      left
      rw [loginAdvance_persistSession_store]
      rfl
  | updateStatus sessionId status telegramSession =>
      exact .inr (.inl ⟨sessionId, status, telegramSession, rfl,
        loginAdvance_updateStatus_store sessionId status telegramSession input
          store⟩)
  | statusCheck state =>
      left
      simp only [loginAdvance]
      split <;> rfl
  | passTime seconds => exact .inl rfl

/-- All that a step can do to the accounts. -/
theorem loginAdvance_accounts (phase : LoginPhase) (input : LoginInput)
    (store : LoginStore) :
    (loginAdvance phase input store).2.accounts = store.accounts ∨
      (∃ login, phase = .upsertAccount login ∧ store.CreatesAccount login ∧
        loginAdvance phase input store =
          (.suspended (.persistSession login (nextRowid store.accounts.ids)),
            store.insertAccount login.apiId input.ciphertext
              login.phoneNumber)) ∨
      (∃ apiId apiHash phoneNumber, (loginAdvance phase input store).2 =
        store.writeCredentials apiId apiHash phoneNumber) ∨
      (∃ login accountId, phase = .persistSession login accountId ∧
        (loginAdvance phase input store).2 =
          store.writeSession accountId input.ciphertext) ∨
      ∃ phoneNumber pausedAt, (loginAdvance phase input store).2 =
        store.pauseAccounts phoneNumber pausedAt := by
  cases phase with
  | codeRead payload => exact .inl rfl
  | codeCheck payload state => exact .inl rfl
  | codeSignIn payload phoneNumber => exact .inl rfl
  | passwordRead payload => exact .inl rfl
  | passwordCheck payload state => exact .inl rfl
  | passwordSignIn payload phoneNumber => exact .inl rfl
  | deleteExpired sessionId => exact .inl rfl
  | deleteAuthSession sessionId => exact .inl rfl
  | recordFailure phoneNumber blocked =>
      obtain ⟨result, ended | ⟨pausedAt, paused⟩⟩ :=
        recordFailure_cases phoneNumber blocked input.riskPause store
      · exact .inl (by rw [loginAdvance, ended])
      · exact .inr (.inr (.inr (.inr ⟨phoneNumber, pausedAt,
          by rw [loginAdvance, paused]⟩)))
  | resolveKey login =>
      left
      simp only [loginAdvance]
      split <;> rfl
  | upsertAccount login =>
      rcases loginAdvance_upsertAccount_cases login input store with
        ⟨problem, failed⟩ | ⟨creates, inserted⟩ | ⟨row, -, updated⟩
      · exact .inl (by rw [failed])
      · exact .inr (.inl ⟨login, rfl, creates, inserted⟩)
      · exact .inr (.inr (.inl ⟨_, _, _, by rw [updated]⟩))
  | persistSession login accountId =>
      exact .inr (.inr (.inr (.inl ⟨login, accountId, rfl,
        loginAdvance_persistSession_store login accountId input store⟩)))
  | updateStatus sessionId status telegramSession =>
      left
      rw [loginAdvance_updateStatus_store]
      rfl
  | statusCheck state =>
      left
      simp only [loginAdvance]
      split <;> rfl
  | passTime seconds => exact .inl rfl

/-- The clock does not run backwards. -/
theorem loginAdvance_now_le (phase : LoginPhase) (input : LoginInput)
    (store : LoginStore) :
    store.now ≤ (loginAdvance phase input store).2.now := by
  cases phase with
  | passTime seconds => simp [loginAdvance]
  | upsertAccount login =>
      rcases loginAdvance_upsertAccount_cases login input store with
        ⟨problem, failed⟩ | ⟨-, inserted⟩ | ⟨row, -, updated⟩
      · rw [failed]
      · rw [inserted, LoginStore.insertAccount_now]
      · rw [updated]
        rfl
  | recordFailure phoneNumber blocked =>
      obtain ⟨result, ended | ⟨pausedAt, paused⟩⟩ :=
        recordFailure_cases phoneNumber blocked input.riskPause store
      · rw [loginAdvance, ended]
      · rw [loginAdvance, paused]
        rfl
  | persistSession login accountId =>
      rw [loginAdvance_persistSession_store]
      rfl
  | updateStatus sessionId status telegramSession =>
      rw [loginAdvance_updateStatus_store]
      rfl
  | resolveKey login =>
      simp only [loginAdvance]
      split <;> rfl
  | statusCheck state =>
      simp only [loginAdvance]
      split <;> rfl
  | _ => rfl

/-- Every auth session after a step was there before it.  Only its status and
its Telegram session can be new, and the status only by a status write. -/
theorem loginAdvance_session_origin {phase : LoginPhase} {input : LoginInput}
    {store : LoginStore} {later : AuthSessionState}
    (stored : later ∈ (loginAdvance phase input store).2.sessions.rows) :
    ∃ row ∈ store.sessions.rows, row.sessionId = later.sessionId ∧
      row.phoneNumber = later.phoneNumber ∧ row.expiresAt = later.expiresAt ∧
      (row.status = later.status ∨ ∃ telegramSession,
        phase = .updateStatus later.sessionId later.status telegramSession) := by
  rcases loginAdvance_sessions phase input store with same |
    ⟨sessionId, status, telegramSession, rfl, written⟩ |
    ⟨sessionId, -, deleted⟩
  · rw [same] at stored
    exact ⟨later, stored, rfl, rfl, rfl, .inl rfl⟩
  · rw [written] at stored
    obtain ⟨row, rowStored, rfl⟩ := LoginStore.mem_writeStatus.mp stored
    refine ⟨row, rowStored, ?_⟩
    by_cases addressed : row.sessionId = sessionId
    · simp [addressed]
    · simp [addressed]
  · rw [deleted] at stored
    exact ⟨later, (LoginStore.mem_deleteSession.mp stored).1, rfl, rfl, rfl,
      .inl rfl⟩

/-- No step deletes an account, changes its phone number or drops its session. -/
theorem loginAdvance_account_kept (phase : LoginPhase) (input : LoginInput)
    {store : LoginStore} {row : AccountRow}
    (stored : row ∈ store.accounts.rows) :
    ∃ later ∈ (loginAdvance phase input store).2.accounts.rows,
      later.id = row.id ∧ later.phoneNumber = row.phoneNumber ∧
      (row.sessionEncrypted ≠ none → later.sessionEncrypted ≠ none) := by
  rcases loginAdvance_accounts phase input store with same |
    ⟨login, rfl, ⟨-, -, sqlId⟩, inserted⟩ | ⟨apiId, apiHash, phoneNumber, updated⟩ |
    ⟨login, accountId, rfl, written⟩ | ⟨phoneNumber, pausedAt, paused⟩
  · exact ⟨row, by rwa [same], rfl, rfl, id⟩
  · refine ⟨row, ?_, rfl, rfl, id⟩
    rw [inserted, store.insertAccount_rows sqlId]
    exact List.mem_append_left _ stored
  · rw [updated]
    refine ⟨_, AccountTable.mem_updateWhere.mpr ⟨row, stored, rfl⟩, ?_⟩
    by_cases addressed : row.phoneNumber = some phoneNumber
    · simp [addressed]
    · simp [addressed]
  · rw [written]
    refine ⟨_, AccountTable.mem_updateWhere.mpr ⟨row, stored, rfl⟩, ?_⟩
    by_cases addressed : row.id = accountId
    · simp [addressed]
    · simp [addressed]
  · rw [paused]
    refine ⟨_, AccountTable.mem_updateWhere.mpr ⟨row, stored, rfl⟩, ?_⟩
    by_cases addressed :
        row.phoneNumber = some phoneNumber ∧ row.pausedAt = none
    · simp [addressed]
    · simp [addressed]

/-- An account without a session after a step had none before, and its session
was not about to be stored, or the step has just created it. -/
theorem loginAdvance_account_origin {phase : LoginPhase} {input : LoginInput}
    {store : LoginStore} {later : AccountRow}
    (stored : later ∈ (loginAdvance phase input store).2.accounts.rows)
    (noSession : later.sessionEncrypted = none) :
    (∃ row ∈ store.accounts.rows, row.id = later.id ∧
        row.sessionEncrypted = none ∧
        ∀ login, phase ≠ .persistSession login later.id) ∨
      ∃ login, phase = .upsertAccount login ∧ store.CreatesAccount login ∧
        (loginAdvance phase input store).1 =
          .suspended (.persistSession login later.id) := by
  have notStoring : ∀ login, phase ≠ .persistSession login later.id := by
    rintro login rfl
    rw [loginAdvance_persistSession_store] at stored
    obtain ⟨row, -, written⟩ := AccountTable.mem_updateWhere.mp stored
    split at written
    · simp [← written] at noSession
    · rename_i other
      exact other (by simp [written])
  rcases loginAdvance_accounts phase input store with same |
    ⟨login, rfl, creates, inserted⟩ | ⟨apiId, apiHash, phoneNumber, updated⟩ |
    ⟨login, accountId, rfl, written⟩ | ⟨phoneNumber, pausedAt, paused⟩
  · rw [same] at stored
    exact .inl ⟨later, stored, rfl, noSession, notStoring⟩
  · rw [inserted] at stored ⊢
    rw [store.insertAccount_rows creates.2.2] at stored
    rcases List.mem_append.mp stored with earlier | new
    · exact .inl ⟨later, earlier, rfl, noSession, notStoring⟩
    · rw [List.mem_singleton.mp new]
      exact .inr ⟨login, rfl, creates, rfl⟩
  · rw [updated] at stored
    obtain ⟨row, rowStored, rfl⟩ := AccountTable.mem_updateWhere.mp stored
    refine .inl ⟨row, rowStored, ?_, ?_, notStoring⟩
    · split <;> rfl
    · split at noSession <;> exact noSession
  · rw [written] at stored
    obtain ⟨row, rowStored, rfl⟩ := AccountTable.mem_updateWhere.mp stored
    refine .inl ⟨row, rowStored, ?_, ?_, notStoring⟩
    · split <;> rfl
    · split at noSession
      · simp at noSession
      · exact noSession
  · rw [paused] at stored
    obtain ⟨row, rowStored, rfl⟩ := AccountTable.mem_updateWhere.mp stored
    refine .inl ⟨row, rowStored, ?_, ?_, notStoring⟩
    · split <;> rfl
    · split at noSession <;> exact noSession

/-- An auth session whose code has been sent, and no account yet. -/
def sampleLoginStore : LoginStore where
  sessions := ⟨[⟨"s1", "+15550100", .codeSent, 600, none⟩], by decide⟩
  accounts := .empty
  now := 0

/-- The login code of the sample session is submitted and accepted. -/
def sampleLoginEvents : List LoginEvent :=
  [.start (.verifyTelegramCode ⟨"s1", 12345⟩), .resume 0 {},
    .resume 0 {}, .resume 0 { savedSession := some "1AgA" }, .resume 0 {},
    .resume 0 { ciphertext := [1] }, .resume 0 { ciphertext := [2] },
    .resume 0 {}, .resume 0 {}]

end Tca
