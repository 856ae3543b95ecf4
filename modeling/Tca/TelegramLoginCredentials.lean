import Tca.TelegramLogin

/-!
# What a finished login leaves behind

An auth session is marked as authenticated only after the account and its
session have been stored, whatever other requests do in between and wherever a
request is cut off.
-/

namespace Tca

open TableRows GuardedRuns InterleavedCalls Protocol

namespace LoginStore

variable (store : LoginStore)

/-- An account with the phone number has a stored session. -/
def HasCredentials (phoneNumber : String) : Prop :=
  ∃ row ∈ store.accounts.rows,
    row.phoneNumber = some phoneNumber ∧ row.sessionEncrypted ≠ none

/-- Every authenticated auth session has stored credentials. -/
def AuthenticatedHasCredentials : Prop :=
  ∀ row ∈ store.sessions.rows, row.status = .authenticated →
    store.HasCredentials row.phoneNumber

instance (phoneNumber : String) : Decidable (store.HasCredentials phoneNumber) :=
  inferInstanceAs (Decidable (∃ row ∈ store.accounts.rows, _))

instance : Decidable store.AuthenticatedHasCredentials :=
  inferInstanceAs (Decidable (∀ row ∈ store.sessions.rows, _))

/-- The auth session, if it still exists, is for the phone number. -/
def IsForPhone (sessionId phoneNumber : String) : Prop :=
  ∀ row ∈ store.sessions.rows, row.sessionId = sessionId →
    row.phoneNumber = phoneNumber

/-- The account exists and has the phone number. -/
def HasAccount (accountId : Int) (phoneNumber : String) : Prop :=
  ∃ row ∈ store.accounts.rows, row.id = accountId ∧
    row.phoneNumber = some phoneNumber

variable {store}

theorem isForPhone_of_find? {sessionId : String} {state : AuthSessionState}
    (found : store.sessions.find? sessionId = some state) :
    store.IsForPhone sessionId state.phoneNumber := by
  intro row stored sameId
  obtain ⟨stateStored, rfl⟩ := KeyedTable.find?_eq_some_iff.mp found
  rw [KeyedTable.eq_of_key_eq stored stateStored sameId]

theorem hasCredentials_writeSession {accountId : Int} {phoneNumber : String}
    (account : store.HasAccount accountId phoneNumber) (session : List UInt8) :
    (store.writeSession accountId session).HasCredentials phoneNumber := by
  obtain ⟨row, stored, sameId, samePhone⟩ := account
  exact ⟨_, AccountTable.mem_updateWhere.mpr ⟨row, stored, rfl⟩, by
    simp [sameId, samePhone]⟩

end LoginStore

section Stability

variable {phase : LoginPhase} {input : LoginInput} {store : LoginStore}

theorem hasCredentials_advance {phoneNumber : String}
    (credentials : store.HasCredentials phoneNumber) :
    (loginAdvance phase input store).2.HasCredentials phoneNumber := by
  obtain ⟨row, stored, samePhone, hasSession⟩ := credentials
  obtain ⟨later, laterStored, -, keepsPhone, keepsSession⟩ :=
    loginAdvance_account_kept phase input stored
  exact ⟨later, laterStored, keepsPhone.trans samePhone,
    keepsSession hasSession⟩

theorem hasAccount_advance {accountId : Int} {phoneNumber : String}
    (account : store.HasAccount accountId phoneNumber) :
    (loginAdvance phase input store).2.HasAccount accountId phoneNumber := by
  obtain ⟨row, stored, sameId, samePhone⟩ := account
  obtain ⟨later, laterStored, keepsId, keepsPhone, -⟩ :=
    loginAdvance_account_kept phase input stored
  exact ⟨later, laterStored, keepsId.trans sameId, keepsPhone.trans samePhone⟩

theorem isForPhone_advance {sessionId phoneNumber : String}
    (forPhone : store.IsForPhone sessionId phoneNumber) :
    (loginAdvance phase input store).2.IsForPhone sessionId phoneNumber := by
  intro later laterStored sameId
  obtain ⟨row, stored, keepsId, keepsPhone, -⟩ :=
    loginAdvance_session_origin laterStored
  rw [← keepsPhone]
  exact forPhone row stored (keepsId.trans sameId)

end Stability

/-- What a request knows about the store before its next step: whose auth
session it works on, that the account it is about to give a session exists, and
that the credentials are stored once it is about to report success. -/
def LoginKnows : LoginProgress → LoginStore → Prop
  | .suspended (.codeCheck payload state), store =>
      store.IsForPhone payload.sessionId state.phoneNumber
  | .suspended (.codeSignIn payload phoneNumber), store =>
      store.IsForPhone payload.sessionId phoneNumber
  | .suspended (.passwordCheck payload state), store =>
      store.IsForPhone payload.sessionId state.phoneNumber
  | .suspended (.passwordSignIn payload phoneNumber), store =>
      store.IsForPhone payload.sessionId phoneNumber
  | .suspended (.resolveKey login), store =>
      store.IsForPhone login.sessionId login.phoneNumber
  | .suspended (.upsertAccount login), store =>
      store.IsForPhone login.sessionId login.phoneNumber
  | .suspended (.persistSession login accountId), store =>
      store.IsForPhone login.sessionId login.phoneNumber ∧
        store.HasAccount accountId login.phoneNumber
  | .suspended (.updateStatus sessionId .authenticated _), store =>
      ∃ phoneNumber, store.IsForPhone sessionId phoneNumber ∧
        store.HasCredentials phoneNumber
  | _, _ => True

/-- What another request knows survives every step. -/
theorem loginKnows_stable (phase : LoginPhase) (input : LoginInput)
    {store : LoginStore} {other : LoginProgress}
    (knows : LoginKnows other store) :
    LoginKnows other (loginAdvance phase input store).2 := by
  cases other with
  | suspended otherPhase =>
      cases otherPhase with
      | codeCheck payload state => exact isForPhone_advance knows
      | codeSignIn payload phoneNumber => exact isForPhone_advance knows
      | passwordCheck payload state => exact isForPhone_advance knows
      | passwordSignIn payload phoneNumber => exact isForPhone_advance knows
      | resolveKey login => exact isForPhone_advance knows
      | upsertAccount login => exact isForPhone_advance knows
      | persistSession login accountId =>
          exact ⟨isForPhone_advance knows.1, hasAccount_advance knows.2⟩
      | updateStatus sessionId status telegramSession =>
          cases status with
          | authenticated =>
              obtain ⟨phoneNumber, forPhone, credentials⟩ := knows
              exact ⟨phoneNumber, isForPhone_advance forPhone,
                hasCredentials_advance credentials⟩
          | codeSent => trivial
          | passwordRequired => trivial
      | _ => trivial
  | ended result => trivial
  | abandoned => trivial

theorem loginKnows_readSession {store : LoginStore} {sessionId : String}
    {next : AuthSessionState → LoginPhase}
    (learns : ∀ state, store.IsForPhone sessionId state.phoneNumber →
      LoginKnows (.suspended (next state)) store) :
    LoginKnows (readSession sessionId next store) store := by
  unfold readSession
  split
  · trivial
  · rename_i state found
    exact learns state (LoginStore.isForPhone_of_find? found)

theorem loginKnows_signedIn {store : LoginStore} {payload : VerifyRequest}
    {phoneNumber : String} (clearsSession : Bool) (saved : Option String)
    (forPhone : store.IsForPhone payload.sessionId phoneNumber) :
    LoginKnows (signedIn payload phoneNumber clearsSession saved) store := by
  unfold signedIn
  split
  · trivial
  · exact forPhone

/-- The step that stores the credentials tells its request the account. -/
theorem loginKnows_upsertAccount {login : AcceptedLogin} (input : LoginInput)
    {store : LoginStore}
    (forPhone : store.IsForPhone login.sessionId login.phoneNumber) :
    LoginKnows (loginAdvance (.upsertAccount login) input store).1
      (loginAdvance (.upsertAccount login) input store).2 := by
  have forPhoneAfter : (loginAdvance (.upsertAccount login) input
      store).2.IsForPhone login.sessionId login.phoneNumber :=
    isForPhone_advance forPhone
  rcases loginAdvance_upsertAccount_cases login input store with
    ⟨problem, failed⟩ | ⟨⟨-, -, sqlId⟩, inserted⟩ | ⟨row, found, updated⟩
  · rw [failed]
    trivial
  · rw [inserted] at forPhoneAfter ⊢
    refine ⟨forPhoneAfter,
      store.newAccount login.apiId input.ciphertext login.phoneNumber, ?_, rfl,
      rfl⟩
    rw [store.insertAccount_rows sqlId]
    exact List.mem_append_right _ (List.mem_singleton.mpr rfl)
  · obtain ⟨stored, samePhone⟩ : row ∈ store.accounts.rows ∧
        row.phoneNumber = some login.phoneNumber := by
      have member : row ∈ store.accountsOf login.phoneNumber := by
        rw [found]
        exact List.mem_singleton.mpr rfl
      simpa [LoginStore.accountsOf] using member
    have account : (loginAdvance (.upsertAccount login) input
        store).2.HasAccount row.id login.phoneNumber :=
      hasAccount_advance ⟨row, stored, rfl, samePhone⟩
    rw [updated] at forPhoneAfter account ⊢
    exact ⟨forPhoneAfter, account⟩

/-- Each step of a request establishes what the request knows next. -/
theorem loginKnows_advance {phase : LoginPhase} (input : LoginInput)
    {store : LoginStore} (knows : LoginKnows (.suspended phase) store) :
    LoginKnows (loginAdvance phase input store).1
      (loginAdvance phase input store).2 := by
  cases phase with
  | codeRead payload =>
      exact loginKnows_readSession fun state forPhone => forPhone
  | codeCheck payload state =>
      rcases codeCheck_cases payload state input.unlocked store with
        ⟨result, ended⟩ | ⟨-, goesOn⟩ | goesOn
      · rw [loginAdvance, ended]
        trivial
      · rw [loginAdvance, goesOn]
        trivial
      · rw [loginAdvance, goesOn]
        exact knows
  | codeSignIn payload phoneNumber =>
      simp only [loginAdvance, codeReply]
      split
      · exact loginKnows_signedIn false input.savedSession knows
      · split <;> trivial
      all_goals trivial
  | passwordRead payload =>
      exact loginKnows_readSession fun state forPhone => forPhone
  | passwordCheck payload state =>
      rcases passwordCheck_cases payload state input.unlocked store with
        ⟨result, ended⟩ | ⟨-, goesOn⟩ | goesOn
      · rw [loginAdvance, ended]
        trivial
      · rw [loginAdvance, goesOn]
        trivial
      · rw [loginAdvance, goesOn]
        exact knows
  | passwordSignIn payload phoneNumber =>
      simp only [loginAdvance, passwordReply]
      split
      · exact loginKnows_signedIn true input.savedSession knows
      all_goals trivial
  | deleteExpired sessionId => trivial
  | deleteAuthSession sessionId => trivial
  | recordFailure phoneNumber blocked =>
      obtain ⟨result, ended | ⟨pausedAt, paused⟩⟩ :=
        recordFailure_cases phoneNumber blocked input.riskPause store
      · rw [loginAdvance, ended]
        trivial
      · rw [loginAdvance, paused]
        trivial
  | resolveKey login =>
      simp only [loginAdvance]
      split
      · exact knows
      · trivial
  | upsertAccount login => exact loginKnows_upsertAccount input knows
  | persistSession login accountId =>
      have forPhoneAfter : (store.writeSession accountId
          input.ciphertext).IsForPhone login.sessionId login.phoneNumber :=
        knows.1
      have credentials :=
        LoginStore.hasCredentials_writeSession knows.2 input.ciphertext
      simp only [loginAdvance, atomically_persistSession]
      split
      · exact ⟨login.phoneNumber, forPhoneAfter, credentials⟩
      · trivial
  | updateStatus sessionId status telegramSession =>
      simp only [loginAdvance]
      split <;> trivial
  | statusCheck state =>
      simp only [loginAdvance]
      split <;> trivial
  | passTime seconds => trivial

/-- A step marks an auth session as authenticated only with credentials. -/
theorem authenticatedHasCredentials_advance {phase : LoginPhase}
    (input : LoginInput) {store : LoginStore}
    (holds : store.AuthenticatedHasCredentials)
    (knows : LoginKnows (.suspended phase) store) :
    (loginAdvance phase input store).2.AuthenticatedHasCredentials := by
  intro later laterStored authenticated
  obtain ⟨row, stored, sameId, samePhone, -, sameStatus | written⟩ :=
    loginAdvance_session_origin laterStored
  · rw [← samePhone]
    exact hasCredentials_advance
      (holds row stored (sameStatus.trans authenticated))
  · obtain ⟨telegramSession, rfl⟩ := written
    rw [authenticated] at knows ⊢
    obtain ⟨phoneNumber, forPhone, credentials⟩ := knows
    have ownPhone : later.phoneNumber = phoneNumber :=
      samePhone.symm.trans (forPhone row stored sameId)
    rw [ownPhone]
    exact hasCredentials_advance credentials

/-- In a run of any interleaved requests, each answered by Telegram in any way
and cut off anywhere, every auth session marked as authenticated has an account
for its phone number with a stored session. -/
theorem authenticated_has_credentials (events : List LoginEvent)
    (store : LoginStore) (initially : store.AuthenticatedHasCredentials) :
    Always loginCalls.step
      (fun system => system.store.AuthenticatedHasCredentials) events
      (System.idle store) := by
  have annotated : Always loginCalls.step
      (Annotated LoginStore.AuthenticatedHasCredentials LoginKnows) events
      (System.idle store) := by
    refine loginCalls.always_annotated ?_ ?_ ?_ ?_ events initially
    · intro request current _
      cases request <;> trivial
    · intro current
      trivial
    · intro phase input current holds knows
      exact ⟨authenticatedHasCredentials_advance input holds knows,
        loginKnows_advance input knows⟩
    · intro phase input current other _ _ otherKnows
      exact loginKnows_stable phase input otherKnows
  exact fun executed isInitial => (annotated executed isInitial).1

theorem authenticated_has_credentials_sample :
    sampleLoginStore.AuthenticatedHasCredentials ∧
      Always loginCalls.step
        (fun system => system.store.AuthenticatedHasCredentials)
        sampleLoginEvents (System.idle sampleLoginStore) :=
  ⟨by decide, authenticated_has_credentials sampleLoginEvents sampleLoginStore
    (by decide)⟩

/-- The account whose session a request is about to store. -/
def storedAccount? : LoginProgress → Option Int
  | .suspended (.persistSession _ accountId) => some accountId
  | _ => none

/-- A request stands between the commit of the account and the commit of the
account's session. -/
def IsStoring (calls : List LoginProgress) (accountId : Int) : Prop :=
  ∃ call ∈ calls, storedAccount? call = some accountId

instance (calls : List LoginProgress) (accountId : Int) :
    Decidable (IsStoring calls accountId) :=
  inferInstanceAs (Decidable (∃ call ∈ calls, _))

namespace LoginStore

/-- The account was not among the known ones and has no session. -/
def IsUnfinished (known : List Int) (row : AccountRow) : Prop :=
  row.id ∉ known ∧ row.sessionEncrypted = none

instance (known : List Int) (row : AccountRow) :
    Decidable (IsUnfinished known row) :=
  inferInstanceAs (Decidable (_ ∧ _))

/-- Every account created since has a stored session. -/
def CreatedHaveSessions (known : List Int) (store : LoginStore) : Prop :=
  ∀ row ∈ store.accounts.rows, ¬ IsUnfinished known row

instance (known : List Int) (store : LoginStore) :
    Decidable (CreatedHaveSessions known store) :=
  inferInstanceAs (Decidable (∀ row ∈ store.accounts.rows, _))

/-- The known accounts still exist and have stored sessions. -/
def KnownHaveSessions (known : List Int) (store : LoginStore) : Prop :=
  (∀ accountId ∈ known, accountId ∈ store.accounts.ids) ∧
    ∀ row ∈ store.accounts.rows, row.sessionEncrypted = none → row.id ∉ known

end LoginStore

open LoginStore

/-- Every account created since has a stored session, or its request stands
between the two commits. -/
def NoneLeftBehind (known : List Int) (system : LoginSystem) : Prop :=
  ∀ row ∈ system.store.accounts.rows, IsUnfinished known row →
    IsStoring system.calls row.id

/-- No request is cut off between the commit that created an account and the
commit of its session, unless another request is about to store one. -/
def NotCutOff (known : List Int) : LoginEvent → LoginSystem → Prop
  | .abandon call, system =>
      ∀ row ∈ system.store.accounts.rows, IsUnfinished known row →
        (system.calls[call]?.bind storedAccount?) = some row.id →
          IsStoring (system.calls.eraseIdx call) row.id
  | _, _ => True

instance (known : List Int) :
    ∀ event system, Decidable (NotCutOff known event system)
  | .start _, _ => .isTrue trivial
  | .resume _ _, _ => .isTrue trivial
  | .abandon _, system =>
      inferInstanceAs (Decidable (∀ row ∈ system.store.accounts.rows, _))

/-- The step does not create an account. -/
def CreatesNone : LoginPhase → LoginInput → LoginStore → Prop
  | .upsertAccount login, _, store => ¬ store.CreatesAccount login
  | _, _, _ => True

theorem isStoring_iff {calls : List LoginProgress} {accountId : Int} :
    IsStoring calls accountId ↔
      ∃ index : Nat, (calls[index]?.bind storedAccount?) = some accountId := by
  constructor
  · rintro ⟨call, member, storing⟩
    obtain ⟨index, found⟩ := List.mem_iff_getElem?.mp member
    exact ⟨index, by simpa [found] using storing⟩
  · rintro ⟨index, storing⟩
    obtain ⟨call, found, storing⟩ := Option.bind_eq_some_iff.mp storing
    exact ⟨call, List.mem_of_getElem? found, storing⟩

/-- Replacing a call leaves the other calls as they are. -/
theorem isStoring_set {calls : List LoginProgress} {index : Nat}
    {progress : LoginProgress} {accountId : Int}
    (storing : IsStoring calls accountId)
    (other : (calls[index]?.bind storedAccount?) ≠ some accountId) :
    IsStoring (calls.set index progress) accountId := by
  obtain ⟨position, storing⟩ := isStoring_iff.mp storing
  refine isStoring_iff.mpr ⟨position, ?_⟩
  have distinct : index ≠ position := by
    rintro rfl
    exact other storing
  rwa [List.getElem?_set_ne distinct]

/-- Abandoning a call amounts to leaving it out. -/
theorem isStoring_set_abandoned {calls : List LoginProgress} {index : Nat}
    {accountId : Int} :
    IsStoring (calls.set index .abandoned) accountId ↔
      IsStoring (calls.eraseIdx index) accountId := by
  induction calls generalizing index with
  | nil => rfl
  | cons call calls ih =>
      cases index with
      | zero => simp [IsStoring, storedAccount?]
      | succ index =>
          unfold IsStoring at ih
          simp [IsStoring, ih]

/-- A step of a request never leaves an account behind. -/
theorem noneLeftBehind_resume {known : List Int} {system : LoginSystem}
    {call : Nat} {phase : LoginPhase} {input : LoginInput}
    (running : system.phase? call = some phase)
    (holds : NoneLeftBehind known system) :
    NoneLeftBehind known (loginCalls.step (.resume call input) system) := by
  have found := System.phase?_eq_some_iff.mp running
  rw [step_resume_of_some loginCalls running]
  rintro later stored ⟨created, noSession⟩
  rcases loginAdvance_account_origin stored noSession with
    ⟨row, rowStored, sameId, rowNoSession, notStoring⟩ | ⟨login, -, -, next⟩
  · have storing := holds row rowStored ⟨by rwa [sameId], rowNoSession⟩
    rw [sameId] at storing
    refine isStoring_set storing ?_
    rw [found, Option.bind_some]
    intro ownAccount
    cases phase with
    | persistSession login accountId =>
        exact notStoring login (by simpa [storedAccount?] using ownAccount)
    | _ => cases ownAccount
  · refine isStoring_iff.mpr ⟨call, ?_⟩
    have inRange := (List.getElem?_eq_some_iff.mp found).1
    rw [List.getElem?_set_self inRange, loginCalls_advance, next]
    rfl

/-- Abandoning a call leaves no account behind exactly if it does not cut the
call off. -/
theorem noneLeftBehind_abandon_iff {known : List Int} {system : LoginSystem}
    {call : Nat} (holds : NoneLeftBehind known system) :
    NoneLeftBehind known (loginCalls.step (.abandon call) system) ↔
      NotCutOff known (.abandon call) system := by
  cases running : system.phase? call with
  | none =>
      have same : loginCalls.step (.abandon call) system = system := by
        simp [step, running]
      rw [same]
      refine iff_of_true holds ?_
      intro row _ _ storing
      obtain ⟨progress, found, own⟩ := Option.bind_eq_some_iff.mp storing
      cases progress with
      | suspended phase =>
          rw [System.phase?_eq_some_iff.mpr found] at running
          cases running
      | ended result => cases own
      | abandoned => cases own
  | some phase =>
      have same : loginCalls.step (.abandon call) system =
          ⟨system.store, system.calls.set call .abandoned⟩ := by
        simp [step, running]
      rw [same]
      constructor
      · intro holdsAfter row stored unfinished _
        exact isStoring_set_abandoned.mp (holdsAfter row stored unfinished)
      · intro allowed row stored unfinished
        by_cases own : (system.calls[call]?.bind storedAccount?) = some row.id
        · exact isStoring_set_abandoned.mpr
            (allowed row stored unfinished own)
        · exact isStoring_set (holds row stored unfinished) own

/-- Which events leave no account behind. -/
theorem noneLeftBehind_step_iff {known : List Int} (event : LoginEvent)
    {system : LoginSystem} (holds : NoneLeftBehind known system) :
    NoneLeftBehind known (loginCalls.step event system) ↔
      NotCutOff known event system := by
  cases event with
  | start request =>
      refine iff_of_true ?_ trivial
      intro row stored unfinished
      obtain ⟨call, member, storing⟩ := holds row stored unfinished
      exact ⟨call, List.mem_append_left _ member, storing⟩
  | resume call input =>
      refine iff_of_true ?_ trivial
      cases running : system.phase? call with
      | none => rwa [step_resume_of_none loginCalls running]
      | some phase => exact noneLeftBehind_resume running holds
  | abandon call => exact noneLeftBehind_abandon_iff holds

/-- A step keeps the created accounts complete exactly if it creates none. -/
theorem createdHaveSessions_advance_iff {known : List Int} {phase : LoginPhase}
    {input : LoginInput} {store : LoginStore}
    (included : ∀ accountId ∈ known, accountId ∈ store.accounts.ids)
    (complete : CreatedHaveSessions known store) :
    CreatedHaveSessions known (loginAdvance phase input store).2 ↔
      CreatesNone phase input store := by
  constructor
  · intro completeAfter
    cases phase with
    | upsertAccount login =>
        intro creates
        rw [loginAdvance_upsertAccount_of_creates input creates] at completeAfter
        refine completeAfter
          (store.newAccount login.apiId input.ciphertext login.phoneNumber) ?_
          ⟨fun isKnown => nextRowid_notMem _ (included _ isKnown), rfl⟩
        rw [store.insertAccount_rows creates.2.2]
        exact List.mem_append_right _ (List.mem_singleton.mpr rfl)
    | _ => trivial
  · rintro createsNone later stored ⟨created, noSession⟩
    rcases loginAdvance_account_origin stored noSession with
      ⟨row, rowStored, sameId, rowNoSession, -⟩ | ⟨login, rfl, creates, -⟩
    · exact complete row rowStored ⟨by rwa [sameId], rowNoSession⟩
    · exact createsNone creates

/-- No step removes an account id. -/
theorem ids_subset_advance {known : List Int} (phase : LoginPhase)
    (input : LoginInput) {store : LoginStore}
    (included : ∀ accountId ∈ known, accountId ∈ store.accounts.ids) :
    ∀ accountId ∈ known,
      accountId ∈ (loginAdvance phase input store).2.accounts.ids := by
  intro accountId isKnown
  obtain ⟨row, stored, rfl⟩ := KeyedTable.mem_keys.mp (included _ isKnown)
  obtain ⟨later, laterStored, sameId, -⟩ :=
    loginAdvance_account_kept phase input stored
  exact KeyedTable.mem_keys.mpr ⟨later, laterStored, sameId⟩

/-- Accounts that had a session keep one. -/
theorem knownHaveSessions_advance {known : List Int} (phase : LoginPhase)
    (input : LoginInput) {store : LoginStore}
    (complete : KnownHaveSessions known store) :
    KnownHaveSessions known (loginAdvance phase input store).2 := by
  obtain ⟨included, haveSessions⟩ := complete
  refine ⟨ids_subset_advance phase input included, ?_⟩
  intro later stored noSession
  rcases loginAdvance_account_origin stored noSession with
    ⟨row, rowStored, sameId, rowNoSession, -⟩ | ⟨login, rfl, creates, next⟩
  · rw [← sameId]
    exact haveSessions row rowStored rowNoSession
  · rw [loginAdvance_upsertAccount_of_creates input creates] at next
    obtain ⟨-, fresh⟩ := LoginPhase.persistSession.inj
      (Progress.suspended.inj next)
    rw [← fresh]
    exact fun isKnown => nextRowid_notMem _ (included _ isKnown)

/-- In a run of any interleaved requests, cut off anywhere, every created
account has a stored session in every state exactly if none is created: the row
is visible before its session is.  Apart from accounts whose request stands
between the two commits, every created account has a stored session in every
state exactly if no request is cut off there; then, once no request stands
there, an account row means a usable session, provided that the accounts at the
start have theirs. -/
theorem persistedLogin_allOrNothing_iff (events : List LoginEvent)
    (store : LoginStore) :
    (Always loginCalls.step
        (fun system => CreatedHaveSessions store.accounts.ids system.store)
        events (System.idle store) ↔
      Guarded loginCalls.step (Permits (fun _ => True) CreatesNone) events
        (System.idle store)) ∧
    (Always loginCalls.step (NoneLeftBehind store.accounts.ids) events
        (System.idle store) ↔
      Guarded loginCalls.step (NotCutOff store.accounts.ids) events
        (System.idle store)) ∧
    ((∀ row ∈ store.accounts.rows, row.sessionEncrypted ≠ none) →
      Guarded loginCalls.step (NotCutOff store.accounts.ids) events
        (System.idle store) →
      Always loginCalls.step
        (fun system => (∀ accountId, ¬ IsStoring system.calls accountId) →
          system.store.HasPersistedAccount →
          ∃ row ∈ system.store.accounts.rows, row.sessionEncrypted ≠ none)
        events (System.idle store)) := by
  have complete : CreatedHaveSessions store.accounts.ids store :=
    fun row stored unfinished =>
      unfinished.1 (KeyedTable.mem_keys.mpr ⟨row, stored, rfl⟩)
  have noneLeft : NoneLeftBehind store.accounts.ids (System.idle store) :=
    fun row stored unfinished => (complete row stored unfinished).elim
  have noneLeftIff := always_iff_guarded_of_exact loginCalls.step
    (fun event system => noneLeftBehind_step_iff event) events noneLeft
  refine ⟨?_, noneLeftIff, ?_⟩
  · exact loginCalls.always_store_iff_guarded
      (fun phase input _ => ids_subset_advance phase input)
      (fun phase input _ => createdHaveSessions_advance_iff) events
      (fun _ isKnown => isKnown) complete
  · intro haveSessions guarded executed isInitial settled persisted
    have initially : KnownHaveSessions store.accounts.ids store :=
      ⟨fun _ isKnown => isKnown, fun row stored noSession =>
        (haveSessions row stored noSession).elim⟩
    have throughout : Always loginCalls.step
        (fun system => KnownHaveSessions store.accounts.ids system.store)
        events (System.idle store) :=
      always_of_preserved loginCalls.step
        (loginCalls.step_store_preserved fun phase input _ =>
          knownHaveSessions_advance phase input) events initially
    obtain ⟨-, knownComplete⟩ := throughout executed isInitial
    obtain ⟨row, stored⟩ := List.exists_mem_of_ne_nil _ persisted
    refine ⟨row, stored, fun noSession => ?_⟩
    exact settled row.id (noneLeftIff.mpr guarded executed isInitial row stored
      ⟨knownComplete row stored noSession, noSession⟩)

/-- The sample login creates an account and is not cut off. -/
theorem persistedLogin_allOrNothing_iff_sample :
    Always loginCalls.step (NoneLeftBehind sampleLoginStore.accounts.ids)
        sampleLoginEvents (System.idle sampleLoginStore) ∧
      Guarded loginCalls.step (NotCutOff sampleLoginStore.accounts.ids)
        sampleLoginEvents (System.idle sampleLoginStore) :=
  ⟨(persistedLogin_allOrNothing_iff sampleLoginEvents
    sampleLoginStore).2.1.mpr (by decide), by decide⟩

/-- A login that is cut off between the two commits leaves an account without a
session, which the setup wizard takes for a finished setup. -/
theorem cut_off_login_leaves_account_without_session :
    let system := run loginCalls.step (sampleLoginEvents.take 6 ++ [.abandon 0])
      (System.idle sampleLoginStore)
    system.store.HasPersistedAccount ∧
      (∀ progress ∈ system.calls, progress = .abandoned) ∧
      ¬ CreatedHaveSessions sampleLoginStore.accounts.ids system.store ∧
      ∀ row ∈ system.store.accounts.rows, row.sessionEncrypted = none := by
  decide

end Tca
