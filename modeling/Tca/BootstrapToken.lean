import Tca.InterleavedCalls
import Tca.SettingsTable

/-!
# The bootstrap bearer token

A call draws a token, stores its digest under a unique key and writes the token
to a file.  If the file cannot be written, it deletes the digest again.  Only
the call whose digest is stored writes the file, so that calls of several
startups, however they are interleaved, leave a digest and a file that agree.
-/

namespace Tca

open GuardedRuns InterleavedCalls

def bootstrapBearerTokenDigestKey : String :=
  "auth.bootstrap_bearer_token_sha256"

/-- The settings table and the content of the output file, if it exists. -/
structure BootstrapStore where
  settings : List SettingRow
  file : Option String

/-- Where a call of `ensure_bootstrap_bearer_token` is suspended. -/
inductive BootstrapPhase where
  | read
  | create (token : String)
  | makeDirectory (token : String)
  | openFile (token : String)
  | writeText (token : String)
  | changeMode (token : String)
  | rollBack (token : String) (error : PyError)
  deriving DecidableEq

/-- How a call ends.  It returns `True` with a token of its own, it returns
`False`, or it raises; an error in writing the file comes with the token that
was to be written. -/
inductive BootstrapResult where
  | generated (token : String)
  | skipped
  | failed (token : String) (error : PyError)
  | raised (error : PyError)
  deriving DecidableEq

/-- An `OSError` of a step on the file, and how much of the text had been
written by then. -/
structure FileFailure where
  message : String
  written : Nat := 0
  deriving DecidableEq

/-- What a step is given from outside: the token that a draw yields and the
failure of a step on the file. -/
structure BootstrapInput where
  drawn : String
  failure : Option FileFailure := none
  deriving DecidableEq

/-- The text of the output file. -/
def tokenText (token : String) : String :=
  token ++ "\n"

/-- A step on the file: it succeeds and the call goes on, or it fails and the
call goes on to roll the digest back. -/
def fileStep (store : BootstrapStore) (input : BootstrapInput) (token : String)
    (succeeded : Progress BootstrapPhase BootstrapResult × Option String)
    (left : Nat → Option String) :
    Progress BootstrapPhase BootstrapResult × BootstrapStore :=
  match input.failure with
  | none => (succeeded.1, { store with file := succeeded.2 })
  | some failure =>
      (.suspended (.rollBack token (.osError failure.message)),
        { store with file := left failure.written })

section Calls

-- `compute_token_sha256_digest` is given; nothing here depends on what it
-- computes.
variable (computeTokenSha256Digest : String → String)

/-- The atomic steps of `ensure_bootstrap_bearer_token` and of the
`_write_bootstrap_token` it calls.  Opening the file empties it, and a text
that cannot be written to its end leaves a part of it. -/
def bootstrapAdvance (phase : BootstrapPhase) (input : BootstrapInput)
    (store : BootstrapStore) :
    Progress BootstrapPhase BootstrapResult × BootstrapStore :=
  match phase with
  | .read =>
      match getSetting store.settings bootstrapBearerTokenDigestKey with
      | .error error => (.ended (.raised error), store)
      | .ok (some _) => (.ended .skipped, store)
      | .ok none => (.suspended (.create input.drawn), store)
  | .create token =>
      match createSetting store.settings bootstrapBearerTokenDigestKey
          (.str (computeTokenSha256Digest token)) with
      | .ok settings =>
          (.suspended (.makeDirectory token), { store with settings := settings })
      | .error (.settingAlreadyExistsError _) => (.ended .skipped, store)
      | .error error => (.ended (.raised error), store)
  | .makeDirectory token =>
      fileStep store input token (.suspended (.openFile token), store.file)
        fun _ => store.file
  | .openFile token =>
      fileStep store input token (.suspended (.writeText token), some "")
        fun _ => store.file
  | .writeText token =>
      fileStep store input token
        (.suspended (.changeMode token), some (tokenText token))
        fun written =>
          some (String.ofList ((tokenText token).toList.take written))
  | .changeMode token =>
      fileStep store input token (.ended (.generated token), store.file)
        fun _ => store.file
  | .rollBack token error =>
      let deleted := deleteIfValueMatches store.settings
        bootstrapBearerTokenDigestKey (computeTokenSha256Digest token)
      (.ended (.failed token error), { store with settings := deleted.2 })

/-- Calls of `ensure_bootstrap_bearer_token` on one table and one file. -/
def bootstrapCalls : Protocol BootstrapStore Unit BootstrapPhase
    BootstrapInput BootstrapResult where
  enter _ := .read
  advance := bootstrapAdvance computeTokenSha256Digest

/-- A stored digest is the digest of the token in the file. -/
def BootstrapStore.Agrees (store : BootstrapStore) : Prop :=
  ∀ value,
    getSetting store.settings bootstrapBearerTokenDigestKey = .ok (some value) →
      ∃ token, store.file = some (tokenText token) ∧
        value = .str (computeTokenSha256Digest token)

/-- The row that stores the digest of a token. -/
def digestRow (token : String) : SettingRow :=
  ⟨bootstrapBearerTokenDigestKey, .ok (.str (computeTokenSha256Digest token))⟩

end Calls

abbrev BootstrapEvent :=
  Event Unit BootstrapInput

abbrev BootstrapSystem :=
  System BootstrapStore BootstrapPhase BootstrapResult

section Claims

/-- The token whose digest a call in this phase has stored. -/
def BootstrapPhase.claim? : BootstrapPhase → Option String
  | .read | .create _ => none
  | .makeDirectory token | .openFile token | .writeText token
  | .changeMode token | .rollBack token _ => some token

/-- The token whose digest a call has stored and not deleted again. -/
def claim? : Progress BootstrapPhase BootstrapResult → Option String
  | .suspended phase => phase.claim?
  | .ended (.generated token) => some token
  | _ => none

/-- The token whose digest a call has stored, if only for a while. -/
def ownToken? : Progress BootstrapPhase BootstrapResult → Option String
  | .suspended phase => phase.claim?
  | .ended (.generated token) | .ended (.failed token _) => some token
  | _ => none

theorem claim?_of_ownToken? {progress : Progress BootstrapPhase BootstrapResult}
    (nothing : ownToken? progress = none) : claim? progress = none := by
  match progress with
  | .suspended phase => exact nothing
  | .ended (.generated token) => cases nothing
  | .ended (.failed _ _) | .ended .skipped | .ended (.raised _)
  | .abandoned => rfl

/-- A call that has written its text finds it in the file. -/
def FileFits (store : BootstrapStore) :
    Progress BootstrapPhase BootstrapResult → Prop
  | .suspended (.changeMode token) | .ended (.generated token) =>
      store.file = some (tokenText token)
  | _ => True

variable {digestOf : String → String} {base : List SettingRow}
  {store : BootstrapStore} {phase : BootstrapPhase}

/-- While the key is taken, a call without a claim changes nothing. -/
theorem bootstrapAdvance_taken (input : BootstrapInput) {row : SettingRow}
    (stored : row ∈ store.settings)
    (isKey : row.key = bootstrapBearerTokenDigestKey)
    (unclaimed : phase.claim? = none) :
    (bootstrapAdvance digestOf phase input store).2 = store ∧
      ownToken? (bootstrapAdvance digestOf phase input store).1 = none := by
  cases phase with
  | read =>
      rw [bootstrapAdvance]
      cases getSetting store.settings bootstrapBearerTokenDigestKey with
      | error error => exact ⟨rfl, rfl⟩
      | ok value => cases value <;> exact ⟨rfl, rfl⟩
  | create token =>
      have refused := createSetting_of_present stored (.str (digestOf token))
      rw [isKey] at refused
      simp only [bootstrapAdvance, refused, ownToken?, and_self]
  | _ => exact nomatch unclaimed

/-- While the key is free, a call without a claim changes nothing or makes its
claim. -/
theorem bootstrapAdvance_free (input : BootstrapInput)
    (missing : SettingMissing store.settings bootstrapBearerTokenDigestKey)
    (unclaimed : phase.claim? = none) :
    ((bootstrapAdvance digestOf phase input store).2 = store ∧
        claim? (bootstrapAdvance digestOf phase input store).1 = none) ∨
      ∃ token, bootstrapAdvance digestOf phase input store =
        (.suspended (.makeDirectory token),
          { store with
            settings := store.settings ++ [digestRow digestOf token] }) := by
  cases phase with
  | read =>
      refine .inl ?_
      simp only [bootstrapAdvance, getSetting_of_missing missing]
      exact ⟨trivial, rfl⟩
  | create token =>
      refine .inr ⟨token, ?_⟩
      simp only [bootstrapAdvance, createSetting_of_missing missing]
      rfl
  | _ => exact nomatch unclaimed

/-- A call with a claim keeps it, with the settings as they are, or gives it up
and leaves the settings that were there before. -/
theorem bootstrapAdvance_claimed (input : BootstrapInput) {token : String}
    (missing : SettingMissing base bootstrapBearerTokenDigestKey)
    (claimed : phase.claim? = some token)
    (stored : store.settings = base ++ [digestRow digestOf token])
    (fits : FileFits store (.suspended phase)) :
    (claim? (bootstrapAdvance digestOf phase input store).1 = some token ∧
        (bootstrapAdvance digestOf phase input store).2.settings =
          store.settings ∧
        FileFits (bootstrapAdvance digestOf phase input store).2
          (bootstrapAdvance digestOf phase input store).1) ∨
      (claim? (bootstrapAdvance digestOf phase input store).1 = none ∧
        (bootstrapAdvance digestOf phase input store).2.settings = base) := by
  cases phase with
  | read => cases claimed
  | create drawn => cases claimed
  | rollBack drawn error =>
      obtain rfl := Option.some.inj claimed
      refine .inr ⟨rfl, ?_⟩
      simp only [bootstrapAdvance, stored]
      rw [digestRow, deleteIfValueMatches_created missing]
  | makeDirectory drawn | openFile drawn =>
      obtain rfl := Option.some.inj claimed
      refine .inl ?_
      simp only [bootstrapAdvance, fileStep]
      cases input.failure with
      | none => exact ⟨rfl, rfl, trivial⟩
      | some failure => exact ⟨rfl, rfl, trivial⟩
  | writeText drawn =>
      obtain rfl := Option.some.inj claimed
      refine .inl ?_
      simp only [bootstrapAdvance, fileStep]
      cases input.failure with
      | none => exact ⟨rfl, rfl, rfl⟩
      | some failure => exact ⟨rfl, rfl, trivial⟩
  | changeMode drawn =>
      obtain rfl := Option.some.inj claimed
      refine .inl ?_
      simp only [bootstrapAdvance, fileStep]
      cases input.failure with
      | none => exact ⟨rfl, rfl, fits⟩
      | some failure => exact ⟨rfl, rfl, trivial⟩

end Claims

section Runs

variable (digestOf : String → String) (base : List SettingRow)

/-- No call other than this one has a claim. -/
def ClaimsAlone (calls : List (Progress BootstrapPhase BootstrapResult))
    (call : Nat) : Prop :=
  ∀ other progress, other ≠ call → calls[other]? = some progress →
    claim? progress = none

/-- Who has stored a digest: no call, exactly one call, or, if a process has
stopped in the middle of a call, possibly an abandoned one. -/
inductive TokenClaims (system : BootstrapSystem) : Prop where
  | free (settings : system.store.settings = base)
      (unclaimed : ∀ call ∈ system.calls, claim? call = none)
  | claimed (call : Nat) (progress : Progress BootstrapPhase BootstrapResult)
      (token : String) (found : system.calls[call]? = some progress)
      (claims : claim? progress = some token)
      (fits : FileFits system.store progress)
      (settings : system.store.settings = base ++ [digestRow digestOf token])
      (alone : ClaimsAlone system.calls call)
  | abandoned (stopped : .abandoned ∈ system.calls)

variable {digestOf : String → String} {base : List SettingRow}
  {system : BootstrapSystem} {call : Nat}
  {progress : Progress BootstrapPhase BootstrapResult}

/-- The call that has the claim may go on. -/
theorem ClaimsAlone.set_self (alone : ClaimsAlone system.calls call)
    (progress : Progress BootstrapPhase BootstrapResult) :
    ClaimsAlone (system.calls.set call progress) call := by
  intro other later different found
  rw [List.getElem?_set_ne different.symm] at found
  exact alone other later different found

/-- Another call may go on if it makes no claim. -/
theorem ClaimsAlone.set_other (alone : ClaimsAlone system.calls call)
    (other : Nat) (unclaimed : claim? progress = none) :
    ClaimsAlone (system.calls.set other progress) call := by
  intro index later different found
  rcases getElem?_set_cases found with ⟨-, rfl⟩ | ⟨-, found⟩
  · exact unclaimed
  · exact alone index later different found

/-- Once the call that has the claim gives it up, no call has one. -/
theorem ClaimsAlone.unclaimed_set (alone : ClaimsAlone system.calls call)
    (unclaimed : claim? progress = none) :
    ∀ later ∈ system.calls.set call progress, claim? later = none := by
  intro later member
  obtain ⟨index, found⟩ := List.mem_iff_getElem?.mp member
  rcases getElem?_set_cases found with ⟨-, rfl⟩ | ⟨different, found⟩
  · exact unclaimed
  · exact alone index later different.symm found

/-- A call that has taken a step. -/
theorem TokenClaims.resume (input : BootstrapInput) {phase : BootstrapPhase}
    (missing : SettingMissing base bootstrapBearerTokenDigestKey)
    (running : system.phase? call = some phase)
    (claims : TokenClaims digestOf base system) :
    TokenClaims digestOf base
      ((bootstrapCalls digestOf).step (.resume call input) system) := by
  have here := System.phase?_eq_some_iff.mp running
  have inRange : call < system.calls.length :=
    (List.getElem?_eq_some_iff.mp here).1
  have after : (bootstrapCalls digestOf).step (.resume call input) system =
      ⟨(bootstrapAdvance digestOf phase input system.store).2,
        system.calls.set call
          (bootstrapAdvance digestOf phase input system.store).1⟩ :=
    (bootstrapCalls digestOf).step_resume_of_some running
  cases claims with
  | abandoned stopped =>
      exact .abandoned ((bootstrapCalls digestOf).abandoned_mem_step _ stopped)
  | free settings unclaimed =>
      have isMissing : SettingMissing system.store.settings
          bootstrapBearerTokenDigestKey := settings ▸ missing
      rcases @bootstrapAdvance_free digestOf _ _ input isMissing
          (unclaimed _ (List.mem_of_getElem? here)) with
        ⟨same, next⟩ | ⟨token, made⟩
      · refine .free (by rw [after]; rw [same]; exact settings) ?_
        rw [after]
        intro later member
        rcases List.mem_or_eq_of_mem_set member with old | rfl
        · exact unclaimed later old
        · exact next
      · rw [made] at after
        refine .claimed call (.suspended (.makeDirectory token)) token ?_ rfl
          trivial ?_ ?_
        · rw [after]
          exact List.getElem?_set_self inRange
        · rw [after]
          exact congrArg (· ++ [digestRow digestOf token]) settings
        · rw [after]
          have alone : ClaimsAlone system.calls call :=
            fun _ _ _ found => unclaimed _ (List.mem_of_getElem? found)
          exact alone.set_self _
  | claimed holder progress token found claims fits settings alone =>
      by_cases own : call = holder
      · subst own
        obtain rfl := Option.some.inj (here.symm.trans found)
        rcases bootstrapAdvance_claimed input missing claims settings fits with
          ⟨stays, sameSettings, fitsNext⟩ | ⟨gone, restored⟩
        · refine .claimed call _ token ?_ stays ?_ ?_ ?_
          · rw [after]
            exact List.getElem?_set_self inRange
          · rw [after]
            exact fitsNext
          · rw [after]
            exact sameSettings.trans settings
          · rw [after]
            exact alone.set_self _
        · refine .free (by rw [after]; exact restored) ?_
          rw [after]
          exact alone.unclaimed_set gone
      · have isStored : digestRow digestOf token ∈ system.store.settings := by
          rw [settings]
          exact List.mem_append_right _ (List.mem_singleton_self _)
        obtain ⟨same, next⟩ := @bootstrapAdvance_taken digestOf _ _
          input _ isStored rfl (alone call _ own here)
        rw [same] at after
        refine .claimed holder progress token ?_ claims ?_ ?_ ?_
        · rw [after]
          exact (List.getElem?_set_ne own).trans found
        · rw [after]
          exact fits
        · rw [after]
          exact settings
        · rw [after]
          exact alone.set_other call (claim?_of_ownToken? next)

/-- Every event keeps the claims in order. -/
theorem TokenClaims.step
    (missing : SettingMissing base bootstrapBearerTokenDigestKey)
    (event : BootstrapEvent) (system : BootstrapSystem)
    (claims : TokenClaims digestOf base system) :
    TokenClaims digestOf base ((bootstrapCalls digestOf).step event system) := by
  cases event with
  | start request =>
      have entered : claim? (.suspended ((bootstrapCalls digestOf).enter
          request)) = none := rfl
      cases claims with
      | free settings unclaimed =>
          refine .free settings fun later member => ?_
          rcases List.mem_append.mp member with old | new
          · exact unclaimed later old
          · rw [List.mem_singleton.mp new]
            exact entered
      | claimed call progress token found claims fits settings alone =>
          refine .claimed call progress token ?_ claims fits settings ?_
          · exact List.getElem?_append_left
              (List.getElem?_eq_some_iff.mp found).1 |>.trans found
          · intro other later different foundOther
            simp only [Protocol.step] at foundOther
            rcases Nat.lt_or_ge other system.calls.length with old | new
            · rw [List.getElem?_append_left old] at foundOther
              exact alone other later different foundOther
            · rw [List.getElem?_append_right new] at foundOther
              rw [List.mem_singleton.mp (List.mem_of_getElem? foundOther)]
              exact entered
      | abandoned stopped =>
          exact .abandoned (List.mem_append_left _ stopped)
  | resume call input =>
      cases running : system.phase? call with
      | none =>
          rwa [(bootstrapCalls digestOf).step_resume_of_none running]
      | some phase => exact claims.resume input missing running
  | abandon call =>
      simp only [Protocol.step]
      split
      · exact claims
      · rename_i phase running
        have inRange := (List.getElem?_eq_some_iff.mp
          (System.phase?_eq_some_iff.mp running)).1
        exact .abandoned (List.mem_set inRange _)

/-- What is left when all calls have ended. -/
theorem TokenClaims.finished (claims : TokenClaims digestOf base system)
    (finished : ∀ call ∈ system.calls, call.isEnded) :
    (system.store.settings = base ∧
        ∀ token, .ended (.generated token) ∉ system.calls) ∨
      ∃ (call : Nat) (token : String),
        system.calls[call]? = some (.ended (.generated token)) ∧
        system.store.settings = base ++ [digestRow digestOf token] ∧
        system.store.file = some (tokenText token) ∧
        ∀ (other : Nat) (later : String), system.calls[other]? =
          some (.ended (.generated later)) → other = call := by
  cases claims with
  | free settings unclaimed =>
      refine .inl ⟨settings, fun token generated => ?_⟩
      exact nomatch unclaimed _ generated
  | claimed call progress token found claims fits settings alone =>
      have ended := finished _ (List.mem_of_getElem? found)
      match progress, claims, ended with
      | .ended (.generated drawn), claims, _ =>
          obtain rfl := Option.some.inj claims
          refine .inr ⟨call, drawn, found, settings, fits, ?_⟩
          intro other later foundOther
          by_contra different
          exact nomatch alone other _ different foundOther
  | abandoned stopped => exact nomatch finished _ stopped

/-- While the key is taken by a setting from before, nothing is changed. -/
theorem bootstrap_untouched {initial : BootstrapStore} {row : SettingRow}
    (stored : row ∈ initial.settings)
    (isKey : row.key = bootstrapBearerTokenDigestKey)
    (events : List BootstrapEvent) :
    Always (bootstrapCalls digestOf).step
      (Protocol.Annotated (fun store => store = initial)
        (fun call _ => ownToken? call = none))
      events (System.idle initial) := by
  refine (bootstrapCalls digestOf).always_annotated (fun _ _ _ => rfl)
    (fun _ => rfl) ?_ (fun _ _ _ _ _ _ known => known) events rfl
  rintro phase input store rfl unowned
  exact bootstrapAdvance_taken input stored isKey unowned

end Runs

/-- The digests that calls have stored, if only for a while, are different. -/
def DistinctDigests (digestOf : String → String)
    (calls : List (Progress BootstrapPhase BootstrapResult)) : Prop :=
  ∀ (first second : Nat) (firstToken secondToken : String), first ≠ second →
    calls[first]?.bind ownToken? = some firstToken →
    calls[second]?.bind ownToken? = some secondToken →
    digestOf firstToken ≠ digestOf secondToken

/-- The token agrees with its digest.  When all calls have ended, a stored
digest is that of the token in the file, unless it was there from the
beginning, in which case nothing has been changed.  No call that failed has
left its digest.  If a digest was newly stored, exactly one call has returned
`True`, and otherwise none has. -/
theorem bootstrap_token_agrees (digestOf : String → String)
    (initial : BootstrapStore) (events : List BootstrapEvent)
    (finished : ∀ call ∈ (run (bootstrapCalls digestOf).step events
      (System.idle initial)).calls, call.isEnded) :
    let after := run (bootstrapCalls digestOf).step events (System.idle initial)
    (initial.Agrees digestOf → after.store.Agrees digestOf) ∧
      (¬ SettingMissing initial.settings bootstrapBearerTokenDigestKey →
        after.store = initial) ∧
      (DistinctDigests digestOf after.calls → ∀ token error,
        .ended (.failed token error) ∈ after.calls →
        getSetting after.store.settings bootstrapBearerTokenDigestKey ≠
          .ok (some (.str (digestOf token)))) ∧
      (after.store.settings ≠ initial.settings →
        ∃! call : Nat, ∃ token,
          after.calls[call]? = some (.ended (.generated token))) ∧
      (after.store.settings = initial.settings →
        ∀ token, .ended (.generated token) ∉ after.calls) := by
  intro after
  by_cases missing :
      SettingMissing initial.settings bootstrapBearerTokenDigestKey
  · have claims : TokenClaims digestOf initial.settings after :=
      always_of_preserved _ (TokenClaims.step missing) events
        (.free rfl (by simp [System.idle])) events List.prefix_rfl
    rcases claims.finished finished with ⟨settings, nobody⟩ |
      ⟨call, token, found, settings, file, only⟩
    · have nothing : getSetting after.store.settings
          bootstrapBearerTokenDigestKey = .ok none := by
        rw [settings]
        exact getSetting_of_missing missing
      refine ⟨fun _ value stored => ?_, fun present => absurd missing present,
        fun _ failed error _ stored => ?_, fun changed => absurd settings changed,
        fun _ => nobody⟩
      · rw [nothing] at stored
        cases stored
      · rw [nothing] at stored
        cases stored
    · have isStored : getSetting after.store.settings
          bootstrapBearerTokenDigestKey =
          .ok (some (.str (digestOf token))) := by
        rw [settings]
        exact getSetting_created missing rfl
      refine ⟨fun _ value stored => ⟨token, file, ?_⟩,
        fun present => absurd missing present,
        fun distinct other error failed stored => ?_,
        fun _ => ⟨call, ⟨token, found⟩, ?_⟩, fun same => ?_⟩
      · rw [isStored] at stored
        exact (Option.some.inj (Except.ok.inj stored)).symm
      · obtain ⟨index, foundFailed⟩ := List.mem_iff_getElem?.mp failed
        have different : call ≠ index := by
          rintro rfl
          cases found.symm.trans foundFailed
        have differs := distinct call index token other different
          (by rw [found]; rfl) (by rw [foundFailed]; rfl)
        rw [isStored] at stored
        injection Option.some.inj (Except.ok.inj stored) with sameDigest
        exact differs sameDigest
      · rintro other ⟨later, foundOther⟩
        exact only other later foundOther
      · rw [settings] at same
        simp at same
  · obtain ⟨row, stored, isKey⟩ : ∃ row ∈ initial.settings,
        row.key = bootstrapBearerTokenDigestKey := by
      simpa [SettingMissing] using missing
    obtain ⟨unchanged, unowned⟩ := (@bootstrap_untouched digestOf
      initial row stored isKey events) events List.prefix_rfl
    refine ⟨fun agrees => ?_, fun _ => unchanged, fun _ token error failed => ?_,
      fun changed => absurd (congrArg (·.settings) unchanged) changed,
      fun _ token generated => ?_⟩
    · rw [unchanged]
      exact agrees
    · cases unowned _ failed
    · cases unowned _ generated

/-- The digests of two short tokens. -/
def sampleDigest (token : String) : String :=
  if token = "a" then
    "ca978112ca1bbdcafac231b39a23dc4da786eff8147c4e72b9807785afee48bb"
  else "3e23e8160039594a33894f6564e1b1348bbd7a0088d42c4acb73eeaed59c009d"

/-- The first call cannot write its token to the end.  The second call finds
the first one's digest still stored and gives up.  After the digest has been
deleted, a third call succeeds. -/
def sampleStartups : List BootstrapEvent :=
  [.start (), .start (), .start (), .resume 0 ⟨"a", none⟩,
    .resume 1 ⟨"a", none⟩, .resume 0 ⟨"", none⟩, .resume 0 ⟨"", none⟩,
    .resume 0 ⟨"", none⟩, .resume 0 ⟨"", some ⟨"No space left on device", 1⟩⟩,
    .resume 1 ⟨"", none⟩, .resume 0 ⟨"", none⟩, .resume 2 ⟨"b", none⟩,
    .resume 2 ⟨"", none⟩, .resume 2 ⟨"", none⟩, .resume 2 ⟨"", none⟩,
    .resume 2 ⟨"", none⟩, .resume 2 ⟨"", none⟩]

theorem bootstrap_token_sample :
    (run (bootstrapCalls sampleDigest).step sampleStartups
        (System.idle ⟨[], none⟩)).calls =
        [.ended (.failed "a" (.osError "No space left on device")),
          .ended .skipped, .ended (.generated "b")] ∧
      (run (bootstrapCalls sampleDigest).step sampleStartups
        (System.idle ⟨[], none⟩)).store.Agrees sampleDigest :=
  ⟨by decide, (bootstrap_token_agrees sampleDigest ⟨[], none⟩
    sampleStartups (by decide)).1 nofun⟩

end Tca
