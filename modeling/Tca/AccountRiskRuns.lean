import Tca.AccountRisk
import Tca.GuardedRuns
import Tca.SlidingWindows

/-!
# Runs of account risk breaches

Breaches are recorded and accounts are resumed one after the other.  Next to
the store, a run keeps the times of all breaches that were recorded for an
account since its last pause.  The stored list forgets what is older than an
hour, and still the account is paused exactly when the whole history has three
breaches within the last hour.
-/

namespace Tca

open AccountRisk SlidingWindows

/-- The account exists and is paused. -/
def IngestStore.Paused (store : IngestStore) (accountId : Int) : Prop :=
  ∃ record ∈ store.pauseState accountId, record.pausedAt ≠ none

/-- The account exists and is not paused. -/
def IngestStore.Unpaused (store : IngestStore) (accountId : Int) : Prop :=
  ∃ record ∈ store.pauseState accountId, record.pausedAt = none

instance (store : IngestStore) (accountId : Int) :
    Decidable (store.Paused accountId) :=
  match found : store.pauseState accountId with
  | none => .isFalse (by simp [IngestStore.Paused, found])
  | some record =>
      decidable_of_iff (record.pausedAt ≠ none)
        (by simp [IngestStore.Paused, found])

instance (store : IngestStore) (accountId : Int) :
    Decidable (store.Unpaused accountId) :=
  match found : store.pauseState accountId with
  | none => .isFalse (by simp [IngestStore.Unpaused, found])
  | some record =>
      decidable_of_iff (record.pausedAt = none)
        (by simp [IngestStore.Unpaused, found])

/-- Calls on accounts that the writer queue runs one at a time. -/
inductive RiskCall where
  | breach (accountId : Int) (breachReason : String) (time : Timestamp)
  | resume (accountId : Int)
  deriving DecidableEq

/-- When a breach happens. -/
def RiskCall.instant : RiskCall → Option Instant
  | .breach _ _ time => some time.instant
  | .resume _ => none

/-- The account that a call is about. -/
def RiskCall.accountId : RiskCall → Int
  | .breach accountId _ _ => accountId
  | .resume accountId => accountId

/-- The store, and the breaches recorded for each account since its last
pause. -/
structure RiskRun where
  store : IngestStore
  recorded : Int → List Instant

namespace RiskRun

/-- Nothing has been recorded yet. -/
def start (store : IngestStore) : RiskRun :=
  ⟨store, fun _ => []⟩

variable (run : RiskRun)

/-- The breaches that count when a call has been answered. -/
def counted (accountId : Int) (time : Timestamp)
    (answer : Except PyError (Option AccountPauseRecord)) : List Instant :=
  run.recorded accountId ++ if answer.isOk then [time.instant] else []

theorem counted_ok (accountId : Int) (time : Timestamp)
    (paused : Option AccountPauseRecord) :
    run.counted accountId time (.ok paused) =
      run.recorded accountId ++ [time.instant] :=
  rfl

theorem counted_error (accountId : Int) (time : Timestamp)
    (problem : PyError) :
    run.counted accountId time (.error problem) = run.recorded accountId :=
  List.append_nil _

/-- A call on the store.  A breach is recorded if the account is not paused and
the call does not raise; a pause starts a new record. -/
def step : RiskCall → RiskRun → RiskRun
  | .breach accountId breachReason time, run =>
      let answer :=
        run.store.recordAccountRiskBreach accountId breachReason time
      if run.store.Unpaused accountId then
        ⟨answer.2, Function.update run.recorded accountId
          (if answer.2.Paused accountId then []
            else run.counted accountId time answer.1)⟩
      else ⟨answer.2, run.recorded⟩
  | .resume accountId, run =>
      ⟨(run.store.resumeAccount accountId).2, run.recorded⟩

/-- The number of counted breaches in the closed window that ends now. -/
def windowCount (now : Instant) (counted : List Instant) : Nat :=
  (inWindow (now - windowSeconds * 1000000) now counted).length

theorem windowCount_nil (now : Instant) : windowCount now [] < threshold :=
  Nat.zero_lt_succ 2

/-- The stored breaches serve for every window that ends now or later, no
breach lies ahead, and the current window is below the threshold. -/
structure Tracks (now : Instant) : Prop where
  kept : ∀ accountId, ∃ stored,
    run.store.storedBreaches accountId = .ok stored ∧
      SameFrom (now - windowSeconds * 1000000)
        (stored.map Timestamp.instant) (run.recorded accountId)
  past : ∀ accountId, ∀ breach ∈ run.recorded accountId, breach ≤ now
  below : ∀ accountId, windowCount now (run.recorded accountId) < threshold

variable {run}

theorem Tracks.mono {now later : Instant} (tracks : run.Tracks now)
    (ordered : now ≤ later) : run.Tracks later where
  kept accountId := by
    obtain ⟨stored, read, same⟩ := tracks.kept accountId
    exact ⟨stored, read, same.mono (Int.sub_le_sub_right ordered _)⟩
  past accountId breach member :=
    (tracks.past accountId breach member).trans ordered
  below accountId := by
    refine lt_of_le_of_lt ?_ (tracks.below accountId)
    exact length_inWindow_le (Int.sub_le_sub_right ordered _)
      (tracks.past accountId)

theorem tracks_start {store : IngestStore}
    (noBreaches : ∀ accountId, store.storedBreaches accountId = .ok [])
    (now : Instant) : (start store).Tracks now where
  kept accountId := ⟨[], noBreaches accountId, SameFrom.refl _ _⟩
  past _ := by simp [start]
  below _ := windowCount_nil now

variable {accountId : Int} {breachReason : String} {time : Timestamp}

/-- The stored breaches of the last hour, with the current one, are as many as
the counted breaches in the window. -/
theorem Tracks.length_recent (tracks : run.Tracks time.instant)
    {stored : List Timestamp} {cutoff : Timestamp}
    (same : SameFrom (time.instant - windowSeconds * 1000000)
      (stored.map Timestamp.instant) (run.recorded accountId))
    (cutoffIs : cutoff.instant = time.instant - windowSeconds * 1000000) :
    ((stored.filter fun breach => cutoff.instant ≤ breach.instant) ++
        [time.readAsUtc]).length =
      windowCount time.instant (run.recorded accountId ++ [time.instant]) := by
  have recent := same.length_inWindow le_rfl (tracks.past accountId)
  have inside : time.instant - windowSeconds * 1000000 ≤ time.instant := by
    simp [windowSeconds]
  rw [List.filter_map, List.length_map] at recent
  rw [windowCount, length_inWindow_append _ ⟨inside, le_rfl⟩, recent,
    List.length_append, cutoffIs]
  rfl

/-- What a breach of an account that is not paused does. -/
inductive BreachEffect (run : RiskRun) (accountId : Int)
    (breachReason : String) (time : Timestamp) : Prop where
  | raised (problem : PyError)
      (answer : run.store.recordAccountRiskBreach accountId breachReason time =
        (.error problem, run.store))
  | recorded (breaches : List Timestamp)
      (answer : run.store.recordAccountRiskBreach accountId breachReason time =
        (.ok none, run.store.upsertBreaches accountId breaches))
      (few : windowCount time.instant
        (run.recorded accountId ++ [time.instant]) < threshold)
      (same : SameFrom (time.instant - windowSeconds * 1000000)
        (breaches.map Timestamp.instant)
        (run.recorded accountId ++ [time.instant]))
  | paused (breachCount : Nat) (record : AccountPauseRecord)
      (isPaused : record.pausedAt ≠ none)
      (answer : run.store.recordAccountRiskBreach accountId breachReason time =
        (.ok (some record),
          ({ run.store with
              polling := run.store.polling.setPause accountId
                (some time.instant) (some "account-risk") }.upsertBreaches
              accountId []).reportRisk
            accountId breachCount breachReason time.readAsUtc))
      (enough : threshold ≤ windowCount time.instant
        (run.recorded accountId ++ [time.instant]))

theorem Tracks.breachEffect (tracks : run.Tracks time.instant)
    (active : run.store.Unpaused accountId) (breachReason : String) :
    BreachEffect run accountId breachReason time := by
  obtain ⟨record, found, notPaused⟩ := active
  obtain ⟨stored, read, same⟩ := tracks.kept accountId
  cases cutoffIs : time.readAsUtc.addMicros (-(windowSeconds * 1000000)) with
  | error problem =>
      exact .raised problem (IngestStore.recordAccountRiskBreach_raised found
        notPaused read cutoffIs)
  | ok cutoff =>
      have cutoffInstant : cutoff.instant =
          time.instant - windowSeconds * 1000000 := by
        rw [Timestamp.instant_addMicros cutoffIs, Timestamp.instant_readAsUtc]
        exact Int.sub_eq_add_neg.symm
      have counted := tracks.length_recent same cutoffInstant
      have answer := @IngestStore.recordAccountRiskBreach_counted run.store
        accountId breachReason time record stored cutoff found notPaused read
        cutoffIs
      by_cases few : ((stored.filter fun breach =>
          cutoff.instant ≤ breach.instant) ++
            [time.readAsUtc]).length < threshold
      · rw [IngestStore.persistBreach, if_pos few] at answer
        refine .recorded _ answer (counted ▸ few) ?_
        have forgotten := same.forget_append le_rfl time.instant
        rw [List.filter_map] at forgotten
        simpa [Function.comp_def, cutoffInstant,
          Timestamp.instant_readAsUtc] using forgotten
      · rw [IngestStore.persistBreach_pauses found few] at answer
        exact .paused _ _ (by simp) answer (counted ▸ Nat.le_of_not_lt few)

/-- A call on one account leaves the pause state and the breaches of the
others alone. -/
def SparesOthers (before after : RiskRun) (accountId : Int) : Prop :=
  ∀ other, other ≠ accountId →
    after.store.pauseState other = before.store.pauseState other ∧
      after.store.storedBreaches other = before.store.storedBreaches other ∧
      after.recorded other = before.recorded other

/-- A breach of an account that is not paused. -/
structure CountsBreach (before : RiskRun) (accountId : Int)
    (breachReason : String) (time : Timestamp) (after : RiskRun) : Prop where
  pausesExactly : after.store.Paused accountId ↔
    threshold ≤ windowCount time.instant (before.counted accountId time
      (before.store.recordAccountRiskBreach accountId breachReason time).1)
  reportsPause : after.store.Paused accountId → ∃ report : NotificationRow,
    report.type = "ingest.account_risk" ∧ report.severity = "high" ∧
      after.store.notifications = before.store.notifications ++ [report]
  reportsOnlyPause : ¬ after.store.Paused accountId →
    after.store.notifications = before.store.notifications

theorem not_paused_of_unpaused {store : IngestStore}
    (active : store.Unpaused accountId) : ¬ store.Paused accountId := by
  rintro ⟨record, found, paused⟩
  obtain ⟨other, otherFound, notPaused⟩ := active
  rw [Option.mem_def] at found otherFound
  rw [found, Option.some.injEq] at otherFound
  exact paused (otherFound ▸ notPaused)

/-- The pause writes of a breach. -/
theorem paused_after_pause {store : IngestStore} {breachCount : Nat}
    {pausedAt : Instant} (active : store.Unpaused accountId) :
    (({ store with
        polling := store.polling.setPause accountId (some pausedAt)
          (some "account-risk") }.upsertBreaches accountId []).reportRisk
      accountId breachCount breachReason time).Paused accountId := by
  obtain ⟨record, found, -⟩ := active
  rw [Option.mem_def] at found
  refine ⟨⟨accountId, some pausedAt, some "account-risk"⟩, ?_, by simp⟩
  have written := @IngestStore.pauseState_setPause store accountId accountId
    (some pausedAt) (some "account-risk")
  rw [found, Option.map_some, if_pos rfl] at written
  exact written

theorem Tracks.countsBreach (tracks : run.Tracks time.instant)
    (active : run.store.Unpaused accountId) :
    CountsBreach run accountId breachReason time
      (step (.breach accountId breachReason time) run) := by
  have notPaused := not_paused_of_unpaused active
  cases tracks.breachEffect active breachReason with
  | raised problem answer =>
      -- Nothing is recorded, and the window was below the threshold before.
      have below := tracks.below accountId
      simp only [step, if_pos active, answer]
      refine ⟨?_, fun paused => absurd paused notPaused, fun _ => rfl⟩
      rw [answer, counted_error]
      simpa [notPaused] using below
  | recorded breaches answer few same =>
      have stillActive : ¬ (run.store.upsertBreaches accountId
          breaches).Paused accountId :=
        notPaused
      simp only [step, if_pos active, answer]
      refine ⟨?_, fun paused => absurd paused stillActive, fun _ => rfl⟩
      rw [answer, counted_ok]
      simpa [stillActive] using few
  | paused breachCount record isPaused answer enough =>
      have pausedNow := @paused_after_pause accountId breachReason
        time.readAsUtc run.store breachCount time.instant active
      simp only [step, if_pos active, answer]
      refine ⟨?_, fun _ => ⟨_, rfl, rfl, rfl⟩, fun stillActive =>
        absurd pausedNow stillActive⟩
      rw [answer, counted_ok]
      simpa [pausedNow] using enough

/-- A breach of an account that is missing or paused changes nothing. -/
theorem step_breach_idle (idle : ¬ run.store.Unpaused accountId) :
    step (.breach accountId breachReason time) run = run := by
  have unchanged := @IngestStore.recordAccountRiskBreach_idle run.store
    accountId breachReason time
    (fun record found notPaused => idle ⟨record, found, notPaused⟩)
  simp only [step, if_neg idle, unchanged]

/-- Writing the breaches of one account. -/
theorem Tracks.replace {now : Instant} (tracks : run.Tracks now)
    {store : IngestStore} {stored : List Timestamp} {history : List Instant}
    (readHere : store.storedBreaches accountId = .ok stored)
    (readOthers : ∀ other, other ≠ accountId →
      store.storedBreaches other = run.store.storedBreaches other)
    (same : SameFrom (now - windowSeconds * 1000000)
      (stored.map Timestamp.instant) history)
    (past : ∀ breach ∈ history, breach ≤ now)
    (below : windowCount now history < threshold) :
    Tracks ⟨store, Function.update run.recorded accountId history⟩ now where
  kept other := by
    by_cases here : other = accountId
    · subst here
      exact ⟨stored, readHere, by simpa using same⟩
    · obtain ⟨otherStored, read, otherSame⟩ := tracks.kept other
      refine ⟨otherStored, (readOthers other here).trans read, ?_⟩
      simpa [here] using otherSame
  past other := by
    by_cases here : other = accountId
    · subst here
      simpa using past
    · simpa [here] using tracks.past other
  below other := by
    by_cases here : other = accountId
    · subst here
      simpa using below
    · simpa [here] using tracks.below other

theorem Tracks.step_breach (tracks : run.Tracks time.instant) :
    (step (.breach accountId breachReason time) run).Tracks time.instant := by
  by_cases active : run.store.Unpaused accountId
  · have notPaused := not_paused_of_unpaused active
    cases tracks.breachEffect active breachReason with
    | raised problem answer =>
        simp only [step, if_pos active, answer, if_neg notPaused,
          counted_error, Function.update_eq_self]
        exact tracks
    | recorded breaches answer few same =>
        have stillActive : ¬ (run.store.upsertBreaches accountId
            breaches).Paused accountId :=
          notPaused
        simp only [step, if_pos active, answer, if_neg stillActive, counted_ok]
        refine tracks.replace IngestStore.storedBreaches_upsertBreaches_same
          (fun other different =>
            IngestStore.storedBreaches_upsertBreaches_other different)
          ?_ ?_ few
        · simpa [Function.comp_def, Timestamp.instant_readAsUtc] using same
        · simpa [or_imp, forall_and] using tracks.past accountId
    | paused breachCount record isPaused answer enough =>
        have pausedNow := @paused_after_pause accountId breachReason
          time.readAsUtc run.store breachCount time.instant active
        simp only [step, if_pos active, answer, if_pos pausedNow]
        exact tracks.replace IngestStore.storedBreaches_upsertBreaches_same
          (fun other different =>
            IngestStore.storedBreaches_upsertBreaches_other different)
          (SameFrom.refl _ _) (by simp) (windowCount_nil _)
  · rwa [step_breach_idle active]

/-- Resuming an account leaves its breaches alone. -/
theorem Tracks.step_resume {now : Instant} (tracks : run.Tracks now) :
    (step (.resume accountId) run).Tracks now :=
  ⟨tracks.kept, tracks.past, tracks.below⟩

/-- Until the next breach, the stored breaches serve for its window. -/
theorem tracks_run {store : IngestStore}
    (noBreaches : ∀ accountId, store.storedBreaches accountId = .ok [])
    (calls : List RiskCall) {now : Instant}
    (ordered : (calls.filterMap RiskCall.instant ++ [now]).Pairwise (· ≤ ·)) :
    (GuardedRuns.run step calls (start store)).Tracks now := by
  induction calls using List.reverseRecOn generalizing now with
  | nil => exact tracks_start noBreaches now
  | append_singleton calls call ih =>
      rw [GuardedRuns.run_append, GuardedRuns.run_cons, GuardedRuns.run_nil]
      rw [List.filterMap_append] at ordered
      cases call with
      | breach accountId breachReason time =>
          obtain ⟨before, -, last⟩ := List.pairwise_append.mp ordered
          have notLater : time.instant ≤ now :=
            last time.instant (by simp [RiskCall.instant]) now (by simp)
          exact ((ih before).step_breach).mono notLater
      | resume accountId =>
          have timeless : [RiskCall.resume accountId].filterMap
              RiskCall.instant = [] :=
            rfl
          rw [timeless, List.append_nil] at ordered
          exact (ih ordered).step_resume

/-- Pausing or resuming one account leaves the others alone. -/
theorem pauseState_setPause_other {store : IngestStore} {other : Int}
    (pausedAt : Option Instant) (pauseReason : Option String)
    (different : other ≠ accountId) :
    { store with
      polling := store.polling.setPause accountId pausedAt
        pauseReason }.pauseState other = store.pauseState other := by
  have written := @IngestStore.pauseState_setPause store accountId other
    pausedAt pauseReason
  simp only [if_neg different, Option.map_id'] at written
  exact written

theorem Tracks.sparesOthers_breach (tracks : run.Tracks time.instant) :
    SparesOthers run (step (.breach accountId breachReason time) run)
      accountId := by
  by_cases active : run.store.Unpaused accountId
  · intro other different
    have otherRecord : (step (.breach accountId breachReason time)
        run).recorded other = run.recorded other := by
      simp [step, if_pos active, different]
    have storeIs : (step (.breach accountId breachReason time) run).store =
        (run.store.recordAccountRiskBreach accountId breachReason time).2 := by
      simp only [step, if_pos active]
    rw [otherRecord, storeIs]
    cases tracks.breachEffect active breachReason with
    | raised problem answer =>
        rw [answer]
        exact ⟨rfl, rfl, rfl⟩
    | recorded breaches answer few same =>
        rw [answer]
        exact ⟨rfl, IngestStore.storedBreaches_upsertBreaches_other different,
          rfl⟩
    | paused breachCount record isPaused answer enough =>
        rw [answer]
        exact ⟨pauseState_setPause_other _ _ different,
          IngestStore.storedBreaches_upsertBreaches_other different, rfl⟩
  · rw [step_breach_idle active]
    exact fun _ _ => ⟨rfl, rfl, rfl⟩

theorem sparesOthers_resume :
    SparesOthers run (step (.resume accountId) run) accountId := by
  intro other different
  refine ⟨?_, rfl, rfl⟩
  simp only [step, IngestStore.resumeAccount, PollingStore.resumeAccount]
  rcases @PollingStore.writePause_store run.store.polling accountId none none
    with same | written
  · rw [same]
  · rw [written]
    exact pauseState_setPause_other none none different

/-- A resumed account is not paused. -/
theorem not_paused_resume :
    ¬ (step (.resume accountId) run).store.Paused accountId := by
  rintro ⟨record, found, paused⟩
  rw [Option.mem_def] at found
  have sqlId := IngestStore.isSqlInteger_of_pauseState found
  have written := @IngestStore.pauseState_setPause run.store accountId
    accountId none none
  simp only [step, IngestStore.resumeAccount, PollingStore.resumeAccount,
    PollingStore.writePause, sqlId, not_true_eq_false, if_false] at found
  rw [IngestStore.pauseState, written] at found
  obtain ⟨old, -, rfl⟩ := Option.map_eq_some_iff.mp found
  simp at paused

end RiskRun

/-- From a store without recorded breaches, and for breaches in the order of
time: a breach of an account that is not paused pauses it exactly if the
breaches recorded since the last pause have three in the last hour, and each
pause is reported once, with high severity.  Breaches of paused or missing
accounts change nothing, a resumed account is not paused and keeps its record,
no call touches another account, and the stored breaches survive their
encoding. -/
theorem breaches_pause_by_sliding_window {store : IngestStore}
    (noBreaches : ∀ accountId, store.storedBreaches accountId = .ok [])
    (calls : List RiskCall) (call : RiskCall)
    (ordered : ((calls ++ [call]).filterMap RiskCall.instant).Pairwise
      (· ≤ ·)) :
    let before := GuardedRuns.run RiskRun.step calls (RiskRun.start store)
    let after := RiskRun.step call before
    (∀ accountId breachReason time,
        call = .breach accountId breachReason time →
          (before.store.Unpaused accountId →
            RiskRun.CountsBreach before accountId breachReason time after) ∧
          (¬ before.store.Unpaused accountId → after = before)) ∧
      (∀ accountId, call = .resume accountId →
        ¬ after.store.Paused accountId ∧
          after.recorded = before.recorded ∧
          after.store.settings = before.store.settings ∧
          after.store.notifications = before.store.notifications) ∧
      RiskRun.SparesOthers before after call.accountId ∧
      ∀ breaches : List Timestamp,
        decodeState (some (encodeState breaches)) =
            breaches.map Timestamp.readAsUtc ∧
          ((∀ breach ∈ breaches, breach.offset.isSome) →
            decodeState (some (encodeState breaches)) = breaches) := by
  intro before after
  have roundTrip : ∀ breaches : List Timestamp,
      decodeState (some (encodeState breaches)) =
          breaches.map Timestamp.readAsUtc ∧
        ((∀ breach ∈ breaches, breach.offset.isSome) →
          decodeState (some (encodeState breaches)) = breaches) := by
    intro breaches
    refine ⟨decodeState_encodeState breaches, fun aware => ?_⟩
    rw [decodeState_encodeState]
    calc breaches.map Timestamp.readAsUtc
        = breaches.map id := List.map_congr_left fun breach member =>
          Timestamp.readAsUtc_of_aware (aware breach member)
      _ = breaches := List.map_id breaches
  rw [List.filterMap_append] at ordered
  cases call with
  | breach accountId breachReason time =>
      have tracks : before.Tracks time.instant :=
        RiskRun.tracks_run noBreaches calls ordered
      refine ⟨?_, fun _ different => RiskCall.noConfusion different,
        tracks.sparesOthers_breach, roundTrip⟩
      rintro _ _ _ ⟨⟩
      exact ⟨tracks.countsBreach, RiskRun.step_breach_idle⟩
  | resume accountId =>
      refine ⟨fun _ _ _ different => RiskCall.noConfusion different, ?_,
        RiskRun.sparesOthers_resume, roundTrip⟩
      rintro _ ⟨⟩
      exact ⟨RiskRun.not_paused_resume, rfl, rfl, rfl⟩

/-- Two accounts, one of them paused. -/
def sampleIngestStore : IngestStore where
  polling := {
    accounts := ⟨⟨[⟨1, 12345, [], none, none, 1, none, none⟩,
      ⟨2, 12345, [], none, none, 1, some 0, some "account-risk"⟩],
      by decide⟩, by decide⟩
    channels := ⟨[⟨1, 1, 100, "first", none, true⟩], by decide⟩
    states := ⟨[], List.nodup_nil⟩
    jobs := ⟨[], List.nodup_nil⟩
    now := 0
    writing := false
    channelAccounts := by decide
    stateChannels := by decide
    jobChannels := by decide }
  settings := []
  notifications := []

/-- Some minutes into the year 2025. -/
def sampleBreachTime (minutes : Fin 60) : Timestamp :=
  ⟨⟨63871286400000000 + minutes * 60000000, by
    unfold wallLimit
    omega⟩, some UtcOffset.utc⟩

def sampleBreach (minutes : Fin 60) : RiskCall :=
  .breach 1 "flood-wait" (sampleBreachTime minutes)

/-- The third breach within an hour pauses the account. -/
theorem third_breach_pauses_sample :
    (∀ accountId, sampleIngestStore.storedBreaches accountId = .ok []) ∧
      (([sampleBreach 0, sampleBreach 1] ++ [sampleBreach 59]).filterMap
        RiskCall.instant).Pairwise (· ≤ ·) ∧
      (GuardedRuns.run RiskRun.step [sampleBreach 0, sampleBreach 1]
        (RiskRun.start sampleIngestStore)).store.Unpaused 1 ∧
      RiskRun.CountsBreach
        (GuardedRuns.run RiskRun.step [sampleBreach 0, sampleBreach 1]
          (RiskRun.start sampleIngestStore))
        1 "flood-wait" (sampleBreachTime 59)
        (GuardedRuns.run RiskRun.step
          [sampleBreach 0, sampleBreach 1, sampleBreach 59]
          (RiskRun.start sampleIngestStore)) ∧
      (GuardedRuns.run RiskRun.step
        [sampleBreach 0, sampleBreach 1, sampleBreach 59]
        (RiskRun.start sampleIngestStore)).store.Paused 1 := by
  have noBreaches : ∀ accountId,
      sampleIngestStore.storedBreaches accountId = .ok [] :=
    fun _ => rfl
  have ordered : (([sampleBreach 0, sampleBreach 1] ++
      [sampleBreach 59]).filterMap RiskCall.instant).Pairwise (· ≤ ·) := by
    decide
  have active : (GuardedRuns.run RiskRun.step [sampleBreach 0, sampleBreach 1]
      (RiskRun.start sampleIngestStore)).store.Unpaused 1 := by
    decide
  have counts := (breaches_pause_by_sliding_window noBreaches
    [sampleBreach 0, sampleBreach 1] (sampleBreach 59) ordered).1 1
    "flood-wait" (sampleBreachTime 59) rfl
  exact ⟨noBreaches, ordered, active, counts.1 active, by decide⟩

end Tca
