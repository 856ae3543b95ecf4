import Tca.TelegramLogin

/-!
# How long an auth session stays authenticated

A request checks the status of its auth session before it asks Telegram and
writes afterwards without looking again.  The file says exactly when an
authenticated auth session stays so until it expires.
-/

namespace Tca

open TableRows GuardedRuns InterleavedCalls Protocol

namespace LoginStore

/-- The clock has not gone back, and every auth session that was authenticated
and has not expired since still is. -/
def StaysAuthenticated (earlier later : LoginStore) : Prop :=
  earlier.now ≤ later.now ∧
    ∀ row ∈ earlier.sessions.rows, row.status = .authenticated →
      ¬ later.IsExpired row.expiresAt →
      ∃ kept ∈ later.sessions.rows, kept.sessionId = row.sessionId ∧
        kept.status = .authenticated ∧ kept.expiresAt = row.expiresAt

instance (earlier later : LoginStore) :
    Decidable (StaysAuthenticated earlier later) :=
  inferInstanceAs (Decidable (_ ∧ _))

variable (store : LoginStore)

/-- The auth session is authenticated and has not expired. -/
def IsAuthenticated (sessionId : String) : Prop :=
  ∃ row ∈ store.sessions.rows, row.sessionId = sessionId ∧
    row.status = .authenticated ∧ ¬ store.IsExpired row.expiresAt

instance (sessionId : String) : Decidable (store.IsAuthenticated sessionId) :=
  inferInstanceAs (Decidable (∃ row ∈ store.sessions.rows, _))

/-- The auth session, if it still exists, expires at the time. -/
def Expires (sessionId : String) (expiresAt : Int) : Prop :=
  ∀ row ∈ store.sessions.rows, row.sessionId = sessionId →
    row.expiresAt = expiresAt

/-- The auth session, if it still exists, has expired. -/
def HasExpired (sessionId : String) : Prop :=
  ∀ row ∈ store.sessions.rows, row.sessionId = sessionId →
    store.IsExpired row.expiresAt

variable {store}

theorem staysAuthenticated_refl (store : LoginStore) :
    StaysAuthenticated store store :=
  ⟨le_rfl, fun row stored authenticated _ =>
    ⟨row, stored, rfl, authenticated, rfl⟩⟩

theorem StaysAuthenticated.trans {first second third : LoginStore}
    (early : StaysAuthenticated first second)
    (late : StaysAuthenticated second third) :
    StaysAuthenticated first third := by
  refine ⟨early.1.trans late.1, fun row stored authenticated unexpired => ?_⟩
  have unexpiredEarly : ¬ second.IsExpired row.expiresAt :=
    fun expired => unexpired (le_trans expired late.1)
  obtain ⟨kept, keptStored, sameId, stillAuthenticated, sameExpiry⟩ :=
    early.2 row stored authenticated unexpiredEarly
  rw [← sameId, ← sameExpiry]
  exact late.2 kept keptStored stillAuthenticated (by rwa [sameExpiry])

theorem expires_of_find? {sessionId : String} {state : AuthSessionState}
    (found : store.sessions.find? sessionId = some state) :
    store.Expires sessionId state.expiresAt := by
  intro row stored sameId
  obtain ⟨stateStored, rfl⟩ := KeyedTable.find?_eq_some_iff.mp found
  rw [KeyedTable.eq_of_key_eq stored stateStored sameId]

theorem Expires.hasExpired {sessionId : String} {expiresAt : Int}
    (expires : store.Expires sessionId expiresAt)
    (expired : store.IsExpired expiresAt) : store.HasExpired sessionId := by
  intro row stored sameId
  rw [expires row stored sameId]
  exact expired

end LoginStore

open LoginStore

/-- A request that is about to write another status or to delete the auth
session finds it not authenticated, or expired. -/
def StatusAllowed : LoginPhase → LoginInput → LoginStore → Prop
  | .updateStatus sessionId status _, _, store =>
      status ≠ .authenticated → ¬ store.IsAuthenticated sessionId
  | .deleteAuthSession sessionId, _, store =>
      ¬ store.IsAuthenticated sessionId
  | _, _, _ => True

instance : ∀ phase input store, Decidable (StatusAllowed phase input store)
  | .updateStatus sessionId status _, _, store =>
      inferInstanceAs (Decidable (status ≠ .authenticated →
        ¬ store.IsAuthenticated sessionId))
  | .deleteAuthSession sessionId, _, store =>
      inferInstanceAs (Decidable (¬ store.IsAuthenticated sessionId))
  | .codeRead _, _, _ => .isTrue trivial
  | .codeCheck _ _, _, _ => .isTrue trivial
  | .codeSignIn _ _, _, _ => .isTrue trivial
  | .passwordRead _, _, _ => .isTrue trivial
  | .passwordCheck _ _, _, _ => .isTrue trivial
  | .passwordSignIn _ _, _, _ => .isTrue trivial
  | .deleteExpired _, _, _ => .isTrue trivial
  | .recordFailure _ _, _, _ => .isTrue trivial
  | .resolveKey _, _, _ => .isTrue trivial
  | .upsertAccount _, _, _ => .isTrue trivial
  | .persistSession _ _, _, _ => .isTrue trivial
  | .statusCheck _, _, _ => .isTrue trivial
  | .passTime _, _, _ => .isTrue trivial

/-- What a request knows about the expiry of its auth session. -/
def ExpiryKnows : LoginProgress → LoginStore → Prop
  | .suspended (.codeCheck payload state), store =>
      store.Expires payload.sessionId state.expiresAt
  | .suspended (.passwordCheck payload state), store =>
      store.Expires payload.sessionId state.expiresAt
  | .suspended (.statusCheck state), store =>
      store.Expires state.sessionId state.expiresAt
  | .suspended (.deleteExpired sessionId), store =>
      store.HasExpired sessionId
  | _, _ => True

section Stability

variable {phase : LoginPhase} {input : LoginInput} {store : LoginStore}

theorem expires_advance {sessionId : String} {expiresAt : Int}
    (expires : store.Expires sessionId expiresAt) :
    (loginAdvance phase input store).2.Expires sessionId expiresAt := by
  intro later laterStored sameId
  obtain ⟨row, stored, keepsId, -, keepsExpiry, -⟩ :=
    loginAdvance_session_origin laterStored
  rw [← keepsExpiry]
  exact expires row stored (keepsId.trans sameId)

theorem hasExpired_advance {sessionId : String}
    (expired : store.HasExpired sessionId) :
    (loginAdvance phase input store).2.HasExpired sessionId := by
  intro later laterStored sameId
  obtain ⟨row, stored, keepsId, -, keepsExpiry, -⟩ :=
    loginAdvance_session_origin laterStored
  rw [← keepsExpiry]
  exact le_trans (expired row stored (keepsId.trans sameId))
    (loginAdvance_now_le phase input store)

/-- What another request knows survives every step. -/
theorem expiryKnows_stable {other : LoginProgress}
    (knows : ExpiryKnows other store) :
    ExpiryKnows other (loginAdvance phase input store).2 := by
  cases other with
  | suspended otherPhase =>
      cases otherPhase with
      | codeCheck payload state => exact expires_advance knows
      | passwordCheck payload state => exact expires_advance knows
      | statusCheck state => exact expires_advance knows
      | deleteExpired sessionId => exact hasExpired_advance knows
      | _ => trivial
  | ended result => trivial
  | abandoned => trivial

end Stability

theorem expiryKnows_readSession {store : LoginStore} {sessionId : String}
    {next : AuthSessionState → LoginPhase}
    (learns : ∀ state, store.Expires sessionId state.expiresAt →
      ExpiryKnows (.suspended (next state)) store) :
    ExpiryKnows (readSession sessionId next store) store := by
  unfold readSession
  split
  · trivial
  · rename_i state found
    exact learns state (expires_of_find? found)

/-- Each step of a request establishes what the request knows next. -/
theorem expiryKnows_advance {phase : LoginPhase} (input : LoginInput)
    {store : LoginStore} (knows : ExpiryKnows (.suspended phase) store) :
    ExpiryKnows (loginAdvance phase input store).1
      (loginAdvance phase input store).2 := by
  cases phase with
  | codeRead payload =>
      exact expiryKnows_readSession fun state expires => expires
  | codeCheck payload state =>
      rcases codeCheck_cases payload state input.unlocked store with
        ⟨result, ended⟩ | ⟨expired, goesOn⟩ | goesOn
      · rw [loginAdvance, ended]
        trivial
      · rw [loginAdvance, goesOn]
        exact knows.hasExpired expired
      · rw [loginAdvance, goesOn]
        trivial
  | codeSignIn payload phoneNumber =>
      simp only [loginAdvance, codeReply, signedIn]
      split
      · split <;> trivial
      · split <;> trivial
      all_goals trivial
  | passwordRead payload =>
      exact expiryKnows_readSession fun state expires => expires
  | passwordCheck payload state =>
      rcases passwordCheck_cases payload state input.unlocked store with
        ⟨result, ended⟩ | ⟨expired, goesOn⟩ | goesOn
      · rw [loginAdvance, ended]
        trivial
      · rw [loginAdvance, goesOn]
        exact knows.hasExpired expired
      · rw [loginAdvance, goesOn]
        trivial
  | passwordSignIn payload phoneNumber =>
      simp only [loginAdvance, passwordReply, signedIn]
      split
      · split <;> trivial
      all_goals trivial
  | deleteExpired sessionId => trivial
  | deleteAuthSession sessionId => trivial
  | recordFailure phoneNumber blocked =>
      obtain ⟨result, ended | ⟨pausedAt, paused⟩⟩ :=
        recordFailure_cases phoneNumber blocked input.riskPause store
      · rw [loginAdvance, ended]
        trivial
      · rw [loginAdvance, paused]
        trivial
  | resolveKey login =>
      simp only [loginAdvance]
      split <;> trivial
  | upsertAccount login =>
      rcases loginAdvance_upsertAccount_cases login input store with
        ⟨problem, failed⟩ | ⟨-, inserted⟩ | ⟨row, -, updated⟩
      · rw [failed]
        trivial
      · rw [inserted]
        trivial
      · rw [updated]
        trivial
  | persistSession login accountId =>
      simp only [loginAdvance, atomically_persistSession]
      split <;> trivial
  | updateStatus sessionId status telegramSession =>
      simp only [loginAdvance]
      split
      · trivial
      · rename_i state found
        have sameId := (KeyedTable.find?_eq_some_iff.mp found).2
        dsimp only [ExpiryKnows]
        rw [sameId]
        exact expires_of_find? found
  | statusCheck state =>
      simp only [loginAdvance]
      split
      · rename_i expired
        exact knows.hasExpired expired
      · trivial
  | passTime seconds => trivial

/-- A status write keeps the authenticated auth sessions exactly if it writes
that status or addresses no such session. -/
theorem staysAuthenticated_writeStatus_iff {store : LoginStore}
    {sessionId : String} {status : AuthStatus}
    {telegramSession : Option (Option String)} :
    StaysAuthenticated store
        (store.writeStatus sessionId status telegramSession) ↔
      (status ≠ .authenticated → ¬ store.IsAuthenticated sessionId) := by
  constructor
  · rintro ⟨-, stays⟩ otherStatus ⟨row, stored, rfl, authenticated, unexpired⟩
    obtain ⟨kept, keptStored, sameId, stillAuthenticated, -⟩ :=
      stays row stored authenticated unexpired
    obtain ⟨old, -, rfl⟩ := mem_writeStatus.mp keptStored
    split at stillAuthenticated
    · exact otherStatus stillAuthenticated
    · rename_i other
      rw [if_neg other] at sameId
      exact other sameId
  · intro allowed
    refine ⟨le_rfl, fun row stored authenticated unexpired => ?_⟩
    refine ⟨_, mem_writeStatus.mpr ⟨row, stored, rfl⟩, ?_⟩
    by_cases addressed : row.sessionId = sessionId
    · have sameStatus : status = .authenticated := by
        by_contra otherStatus
        exact allowed otherStatus
          ⟨row, stored, addressed, authenticated, unexpired⟩
      simp [addressed, sameStatus]
    · simp [addressed, authenticated]

/-- A deletion keeps the authenticated auth sessions exactly if it addresses
none. -/
theorem staysAuthenticated_deleteSession_iff {store : LoginStore}
    {sessionId : String} :
    StaysAuthenticated store (store.deleteSession sessionId) ↔
      ¬ store.IsAuthenticated sessionId := by
  constructor
  · rintro ⟨-, stays⟩ ⟨row, stored, rfl, authenticated, unexpired⟩
    obtain ⟨kept, keptStored, sameId, -⟩ :=
      stays row stored authenticated unexpired
    exact (mem_deleteSession.mp keptStored).2 sameId
  · intro notAuthenticated
    refine ⟨le_rfl, fun row stored authenticated unexpired => ?_⟩
    refine ⟨row, mem_deleteSession.mpr ⟨stored, fun addressed => ?_⟩, rfl,
      authenticated, rfl⟩
    exact notAuthenticated ⟨row, stored, addressed, authenticated, unexpired⟩

theorem staysAuthenticated_of_sessions_eq {phase : LoginPhase}
    {input : LoginInput} {store : LoginStore}
    (same : (loginAdvance phase input store).2.sessions = store.sessions) :
    StaysAuthenticated store (loginAdvance phase input store).2 :=
  ⟨loginAdvance_now_le phase input store, fun row stored authenticated _ =>
    ⟨row, by rwa [same], rfl, authenticated, rfl⟩⟩

/-- A step keeps the authenticated auth sessions exactly if it is allowed. -/
theorem loginAdvance_staysAuthenticated_iff {phase : LoginPhase}
    (input : LoginInput) {store : LoginStore}
    (knows : ExpiryKnows (.suspended phase) store) :
    StaysAuthenticated store (loginAdvance phase input store).2 ↔
      StatusAllowed phase input store := by
  cases phase with
  | updateStatus sessionId status telegramSession =>
      rw [loginAdvance_updateStatus_store, staysAuthenticated_writeStatus_iff,
        StatusAllowed]
  | deleteAuthSession sessionId => exact staysAuthenticated_deleteSession_iff
  | deleteExpired sessionId =>
      refine iff_of_true (staysAuthenticated_deleteSession_iff.mpr ?_) trivial
      rintro ⟨row, stored, sameId, -, unexpired⟩
      exact unexpired (knows row stored sameId)
  | _ =>
      refine iff_of_true (staysAuthenticated_of_sessions_eq ?_) trivial
      rcases loginAdvance_sessions _ input store with same |
        ⟨_, _, _, impossible, -⟩ | ⟨_, impossible | impossible, -⟩
      · exact same
      all_goals cases impossible

/-- In a run of any interleaved requests, each answered by Telegram in any way
and cut off anywhere, authenticated auth sessions stay so until they expire
exactly if no request asks for the password of a session, or deletes it because
the code has expired, after another request has completed the login. -/
theorem authenticated_terminal_iff (events : List LoginEvent)
    (store : LoginStore) :
    Throughout loginCalls.step
        (fun earlier later => StaysAuthenticated earlier.store later.store)
        events (System.idle store) ↔
      Guarded loginCalls.step (Permits (fun _ => True) StatusAllowed) events
        (System.idle store) := by
  refine (throughout_iff_guarded loginCalls.step
    (fun system => staysAuthenticated_refl system.store)
    (fun early late => early.trans late) events _).trans ?_
  have annotatedStep : ∀ event system,
      Annotated (fun _ => True) ExpiryKnows system →
      Annotated (fun _ => True) ExpiryKnows (loginCalls.step event system) := by
    refine loginCalls.annotated_step_unrestricted ?_ ?_ ?_ ?_
    · intro request current _
      cases request <;> trivial
    · intro current
      trivial
    · intro phase input current _ knows
      exact ⟨trivial, expiryKnows_advance input knows⟩
    · intro phase input current other _ _ otherKnows
      exact expiryKnows_stable otherKnows
  have noCalls : Annotated (fun _ => True) ExpiryKnows
      (System.idle store : LoginSystem) :=
    ⟨trivial, by simp [System.idle]⟩
  refine guarded_congr loginCalls.step annotatedStep
    (fun event system annotated => ?_) events noCalls
  cases event with
  | start request =>
      exact iff_of_true (staysAuthenticated_refl system.store) trivial
  | resume call input =>
      cases running : system.phase? call with
      | none =>
          rw [step_resume_of_none loginCalls running]
          simpa [Permits, running] using staysAuthenticated_refl system.store
      | some phase =>
          have knows := annotated.2 _ (System.mem_calls_of_phase? running)
          rw [step_resume_of_some loginCalls running]
          simpa [Permits, running] using
            loginAdvance_staysAuthenticated_iff input knows
  | abandon call =>
      refine iff_of_true ?_ trivial
      simp only [step]
      split <;> exact staysAuthenticated_refl system.store

theorem authenticated_terminal_iff_sample :
    Throughout loginCalls.step
      (fun earlier later => StaysAuthenticated earlier.store later.store)
      sampleLoginEvents (System.idle sampleLoginStore) :=
  (authenticated_terminal_iff sampleLoginEvents sampleLoginStore).mpr (by decide)

/-- A form that is submitted twice: both requests check the session before the
first of them completes the login. -/
def doubleSubmission : List LoginEvent :=
  sampleLoginEvents.take 3 ++
    [.start (.verifyTelegramCode ⟨"s1", 12345⟩), .resume 1 {}, .resume 1 {}] ++
    sampleLoginEvents.drop 3

/-- Telegram answers the second request that the code has expired, and the
authenticated session is deleted. -/
theorem second_submission_deletes_authenticated_session :
    ¬ Throughout loginCalls.step
      (fun earlier later => StaysAuthenticated earlier.store later.store)
      (doubleSubmission ++
        [.resume 1 { reply := .phoneCodeExpired }, .resume 1 {}])
      (System.idle sampleLoginStore) := by
  intro throughout
  have atEnd := throughout doubleSubmission _ List.prefix_rfl
  revert atEnd
  decide

end Tca
