import Tca.SchedulerTicks
import Tca.PollingCalls
import Tca.SettingsTable
import Tca.GuardedRuns

/-!
# Dates that stop a scheduler tick

A tick computes the next run of every schedulable channel that is not paused
and has a last success.  A date out of range raises, and then the tick queues
no job at all.  The file follows channel requests, setting requests, starts of
the scheduler service and ticks, and says when every tick serves all channels
that are due.
-/

namespace Tca

open GuardedRuns PollingStore TableRows

/-- `POLL_INTERVAL_SETTING_KEY`. -/
def pollIntervalSettingKey : String :=
  "scheduler.default_poll_interval_seconds"

/-- `_resolve_poll_interval_seconds`. -/
def resolvePollIntervalSeconds (settings : List SettingRow)
    (defaultValue : Int) : Except PyError Int := do
  let record ← getSetting settings pollIntervalSettingKey
  match record with
  | some (.int value) => return if 0 < value then value else defaultValue
  | some (.float (.finite value)) =>
      if value ≤ 0 then return defaultValue
      else
        let resolved := (PyFloat.finite value).truncate
        return if 0 < resolved then resolved else defaultValue
  | some (.float (.infinite negative)) =>
      if negative then return defaultValue
      else .error (.overflowError "cannot convert float infinity to integer")
  | some (.float .notANumber) =>
      .error (.valueError "cannot convert float NaN to integer")
  | _ => return defaultValue

/-- The two commits of `patch_channel`, one after the other. -/
def applyPatch (channelId : Int) (payload : ChannelPatchRequest)
    (store : PollingStore) : PollingStore :=
  match patchChannel channelId payload store with
  | (.suspended (.patchState channel payload), later) =>
      (patchState channel payload none later).2
  | (_, later) => later

/-- The tables, and the interval of the scheduler loop while it runs. -/
structure SchedulerSystem where
  store : PollingStore
  settings : List SettingRow
  pollIntervalSeconds : Option Int

inductive SchedulerEvent where
  | patchChannel (channelId : Int) (payload : ChannelPatchRequest)
  | putSetting (value : PyValue)
  | startup (defaultValue : Int)
  | shutdown
  | tick (tick : SchedulerTick)

namespace SchedulerSystem

/-- The events.  A value that JSON cannot hold is refused, a running service is
not started again, and without a running service there are no ticks. -/
def step : SchedulerEvent → SchedulerSystem → SchedulerSystem
  | .patchChannel channelId payload, system =>
      { system with store := applyPatch channelId payload system.store }
  | .putSetting value, system =>
      if isJsonValue value then
        { system with
          settings :=
            upsertSetting system.settings pollIntervalSettingKey value }
      else system
  | .startup defaultValue, system =>
      match system.pollIntervalSeconds with
      | some _ => system
      | none =>
          { system with
            pollIntervalSeconds := (resolvePollIntervalSeconds system.settings
              defaultValue).toOption }
  | .shutdown, system => { system with pollIntervalSeconds := none }
  | .tick tick, system =>
      match system.pollIntervalSeconds with
      | none => system
      | some pollIntervalSeconds =>
          { system with
            store := (system.store.runOnce pollIntervalSeconds tick).2 }

/-- Starts find an interval, and ticks return and queue a job for every channel
that is due. -/
def Serves : SchedulerEvent → SchedulerSystem → Prop
  | .startup defaultValue, system => ∃ pollIntervalSeconds,
      resolvePollIntervalSeconds system.settings defaultValue =
        .ok pollIntervalSeconds
  | .tick tick, system =>
      ∀ pollIntervalSeconds ∈ system.pollIntervalSeconds,
        (∃ jobs, (system.store.runOnce pollIntervalSeconds tick).1 =
            .ok jobs) ∧
          ∀ channelId ∈ system.store.listSchedulableChannels,
            takesChannel tick.now pollIntervalSeconds tick.jitter
                system.store.states.find? channelId = .ok true →
              system.store.GainsJob
                (system.store.runOnce pollIntervalSeconds tick).2 channelId
  | _, _ => True

/-- The next run falls into the years one to 9999. -/
def NextRunInRange (lastSuccess : Timestamp) (pollIntervalSeconds : Int)
    (jitterSeconds : ℚ) : Prop :=
  let nextRun := (lastSuccess.wall.micros : Int) +
    roundHalfEven ((pollIntervalSeconds + jitterSeconds) * 1000000)
  0 ≤ nextRun ∧ nextRun < wallLimit

instance (lastSuccess : Timestamp) (pollIntervalSeconds : Int)
    (jitterSeconds : ℚ) :
    Decidable (NextRunInRange lastSuccess pollIntervalSeconds jitterSeconds) :=
  inferInstanceAs (Decidable (_ ∧ _))

/-- Every schedulable channel that is not paused has a next run in range. -/
def DatesInRange : SchedulerEvent → SchedulerSystem → Prop
  | .tick tick, system =>
      ∀ pollIntervalSeconds ∈ system.pollIntervalSeconds,
        ∀ channelId ∈ system.store.listSchedulableChannels,
          ¬ IsPaused ((system.store.states.find? channelId).bind
              (·.pausedUntil)) tick.now →
            ∀ lastSuccess ∈ (system.store.states.find? channelId).bind
                (·.lastSuccessAt),
              NextRunInRange lastSuccess pollIntervalSeconds
                (tick.jitter channelId)
  | _, _ => True

/-- The table takes a job for every schedulable channel: the ids are integers
that SQLite stores, correlation ids are fresh and different, and row ids are
left. -/
def QueueTakesJobs : SchedulerEvent → SchedulerSystem → Prop
  | .tick tick, system =>
      (∀ channelId ∈ system.store.listSchedulableChannels,
          IsSqlInteger channelId) ∧
        tick.correlationIds.Nodup ∧
        (∀ correlationId ∈ tick.correlationIds,
          correlationId ∉ system.store.jobs.rows.map (·.correlationId)) ∧
        system.store.listSchedulableChannels.length ≤
          tick.correlationIds.length ∧
        IsSqlInteger (nextRowid system.store.jobs.keys) ∧
        nextRowid system.store.jobs.keys +
          system.store.listSchedulableChannels.length ≤ 9223372036854775808
  | _, _ => True

/-- The next run can be computed exactly if it is in range; longer time spans
than the range of dates are then excluded already. -/
theorem computeNextRunAt_ok_iff {lastSuccess : Timestamp}
    {pollIntervalSeconds : Int} {jitterSeconds : ℚ} :
    (∃ nextRunAt, computeNextRunAt lastSuccess pollIntervalSeconds
        jitterSeconds = .ok nextRunAt) ↔
      NextRunInRange lastSuccess pollIntervalSeconds jitterSeconds := by
  unfold computeNextRunAt NextRunInRange timedeltaSeconds
  generalize roundHalfEven ((pollIntervalSeconds + jitterSeconds) * 1000000) =
    micros
  constructor
  · rintro ⟨nextRunAt, computed⟩
    obtain ⟨delay, delayIs, added⟩ := bind_eq_ok computed
    simp only at delayIs
    split at delayIs
    · cases delayIs
    split at delayIs
    · cases delayIs
    obtain rfl := Except.ok.inj delayIs
    unfold Timestamp.addMicros at added
    simp only at added
    split at added
    · assumption
    · cases added
  · intro inRange
    have wallInRange := lastSuccess.wall.inRange
    obtain ⟨notBefore, notAfter⟩ := inRange
    have shortEnough : ¬ (2147483647 < micros / 86400000000 ∨
        micros / 86400000000 < -2147483648) := by
      unfold wallLimit at wallInRange notAfter
      omega
    have inTimedelta : ¬ (999999999 < micros / 86400000000 ∨
        micros / 86400000000 < -999999999) := by
      unfold wallLimit at wallInRange notAfter
      omega
    simp only [if_neg shortEnough, if_neg inTimedelta]
    exact ⟨_, dif_pos ⟨notBefore, notAfter⟩⟩

/-- Jobs are written for all channels of a list if the table takes them. -/
theorem enqueueJobs_ok {store : PollingStore} {channelIds : List Int}
    {correlationIds : List String}
    (known : ∀ channelId ∈ channelIds,
      IsSqlInteger channelId ∧ channelId ∈ store.channels.keys)
    (different : correlationIds.Nodup)
    (fresh : ∀ correlationId ∈ correlationIds,
      correlationId ∉ store.jobs.rows.map (·.correlationId))
    (enough : channelIds.length ≤ correlationIds.length)
    (lowest : -9223372036854775808 ≤ nextRowid store.jobs.keys)
    (room : nextRowid store.jobs.keys + channelIds.length ≤
      9223372036854775808) :
    ∃ jobs, (store.enqueueJobs channelIds correlationIds).1 = .ok jobs := by
  induction channelIds generalizing store correlationIds with
  | nil => exact ⟨[], rfl⟩
  | cons channelId channelIds ih =>
      cases correlationIds with
      | nil => simp at enough
      | cons correlationId correlationIds =>
          obtain ⟨⟨sqlId, listed⟩, knownLater⟩ := List.forall_mem_cons.mp known
          obtain ⟨freshHere, freshLater⟩ := List.forall_mem_cons.mp fresh
          rw [List.nodup_cons] at different
          simp only [List.length_cons, Nat.cast_add, Nat.cast_one] at room
          have insertable : store.CanInsertJob channelId correlationId :=
            ⟨sqlId, ⟨lowest, by omega⟩, freshHere, listed⟩
          have nextId : nextRowid (store.insertJob channelId correlationId
              listed).jobs.keys = nextRowid store.jobs.keys + 1 := by
            rw [PollingStore.jobKeys_insertJob, nextRowid_append]
          have stillFresh : ∀ later ∈ correlationIds, later ∉
              (store.insertJob channelId correlationId listed).jobs.rows.map
                (·.correlationId) := by
            intro later member
            rw [PollingStore.correlationIds_insertJob, List.mem_append,
              List.mem_singleton]
            rintro (earlier | rfl)
            · exact freshLater later member earlier
            · exact different.1 member
          obtain ⟨jobs, written⟩ := @ih
            (store.insertJob channelId correlationId listed) correlationIds
            knownLater different.2 stillFresh (by simpa using enough)
            (by omega) (by omega)
          refine ⟨store.newJob channelId correlationId :: jobs, ?_⟩
          simp only [PollingStore.enqueueJobs, List.headD_cons, List.tail_cons,
            enqueuePollJob_of_canInsert insertable]
          rw [written]
          rfl

/-- The stored interval can be read. -/
def Readable (system : SchedulerSystem) : Prop :=
  ∃ record, getSetting system.settings pollIntervalSettingKey = .ok record

theorem readable_step (event : SchedulerEvent) (system : SchedulerSystem)
    (readable : system.Readable) : (step event system).Readable := by
  cases event with
  | patchChannel channelId payload => exact readable
  | putSetting value =>
      simp only [step]
      split
      · rename_i json
        exact ⟨some value, getSetting_upsertSetting_same _ _ json⟩
      · exact readable
  | startup defaultValue =>
      simp only [step]
      split <;> exact readable
  | shutdown => exact readable
  | tick tick =>
      simp only [step]
      split <;> exact readable

/-- What can be read is a JSON value. -/
theorem isJsonValue_of_getSetting {settings : List SettingRow} {key : String}
    {value : PyValue} (read : getSetting settings key = .ok (some value)) :
    isJsonValue value = true := by
  unfold getSetting at read
  split at read
  · cases read
  · rename_i row _
    unfold decodeValueJson at read
    split at read
    · cases read
    · split at read
      · rename_i decoded _ json
        have same : decoded = value := by
          simpa [Except.map] using read
        rwa [← same]
      · cases read

/-- A start resolves an interval from every JSON value. -/
theorem resolvePollIntervalSeconds_ok {system : SchedulerSystem}
    (readable : system.Readable) (defaultValue : Int) :
    ∃ pollIntervalSeconds,
      resolvePollIntervalSeconds system.settings defaultValue =
        .ok pollIntervalSeconds := by
  obtain ⟨record, read⟩ := readable
  unfold resolvePollIntervalSeconds
  rw [read]
  simp only [Bind.bind, Except.bind]
  split
  · exact ⟨_, rfl⟩
  · split <;> exact ⟨_, rfl⟩
  · exact absurd (isJsonValue_of_getSetting read)
      (by simp [isJsonValue, PyFloat.isFinite])
  · exact absurd (isJsonValue_of_getSetting read)
      (by simp [isJsonValue, PyFloat.isFinite])
  · exact ⟨_, rfl⟩

variable {system : SchedulerSystem} {pollIntervalSeconds : Int}
  {tick : SchedulerTick}

/-- The selection of a tick succeeds exactly if its dates are in range. -/
theorem selection_ok_iff (store : PollingStore) :
    (∃ eligible, selectEligible tick.now pollIntervalSeconds
        store.states.find? store.listSchedulableChannels
        (drawnJitter tick.now tick.jitter store.states.find?
          store.listSchedulableChannels) = .ok eligible) ↔
      ∀ channelId ∈ store.listSchedulableChannels,
        ¬ IsPaused ((store.states.find? channelId).bind (·.pausedUntil))
            tick.now →
          ∀ lastSuccess ∈ (store.states.find? channelId).bind
              (·.lastSuccessAt),
            NextRunInRange lastSuccess pollIntervalSeconds
              (tick.jitter channelId) := by
  simp only [selectEligible_ok_iff, takesChannel_ok_iff,
    computeNextRunAt_ok_iff]

/-- A tick whose selection succeeds writes all its jobs. -/
theorem runOnce_ok_of_selection
    (takes : QueueTakesJobs (.tick tick) system) {eligible : List Int}
    (selected : selectEligible tick.now pollIntervalSeconds
      system.store.states.find? system.store.listSchedulableChannels
      (drawnJitter tick.now tick.jitter system.store.states.find?
        system.store.listSchedulableChannels) = .ok eligible) :
    ∃ jobs, (system.store.runOnce pollIntervalSeconds tick).1 = .ok jobs := by
  obtain ⟨sqlIds, different, fresh, enough, sqlNext, room⟩ := takes
  have fewer := (eligible_sublist selected).length_le
  simp only [PollingStore.runOnce, selected]
  apply enqueueJobs_ok _ different fresh (fewer.trans enough) sqlNext.1
  · omega
  · intro channelId chosen
    have listed := ((mem_eligible_iff selected).mp chosen).1
    obtain ⟨channel, stored, -, -, isChannel⟩ :=
      mem_listSchedulableChannels.mp listed
    exact ⟨sqlIds channelId listed,
      KeyedTable.mem_keys.mpr ⟨channel, stored, isChannel⟩⟩

/-- An event serves all channels exactly if its dates are in range. -/
theorem serves_iff (event : SchedulerEvent) (system : SchedulerSystem)
    (readable : system.Readable) (takes : QueueTakesJobs event system) :
    Serves event system ↔ DatesInRange event system := by
  cases event with
  | patchChannel channelId payload => exact Iff.rfl
  | putSetting value => exact Iff.rfl
  | shutdown => exact Iff.rfl
  | startup defaultValue =>
      exact iff_of_true (resolvePollIntervalSeconds_ok readable defaultValue)
        trivial
  | tick tick =>
      refine forall₂_congr fun pollIntervalSeconds _ => ?_
      rw [← selection_ok_iff]
      constructor
      · rintro ⟨⟨jobs, returned⟩, -⟩
        by_contra failed
        push Not at failed
        cases selection : selectEligible tick.now pollIntervalSeconds
            system.store.states.find? system.store.listSchedulableChannels
            (drawnJitter tick.now tick.jitter system.store.states.find?
              system.store.listSchedulableChannels) with
        | ok eligible => exact failed eligible selection
        | error problem =>
            simp [PollingStore.runOnce, selection] at returned
      · rintro ⟨eligible, selected⟩
        obtain ⟨jobs, returned⟩ := runOnce_ok_of_selection takes selected
        refine ⟨⟨jobs, returned⟩, fun channelId listed due => ?_⟩
        exact ((system.store.runOnce_adds pollIntervalSeconds tick).2
          channelId).2 jobs returned listed due

end SchedulerSystem

/-- In a run of channel and setting requests, starts of the service and ticks,
every start finds an interval, and every tick returns and serves all channels
that are due, exactly if at every tick all schedulable channels that are not
paused have a next run within the range of dates. -/
theorem scheduler_serves_iff_dates_in_range {start : SchedulerSystem}
    (readable : start.Readable) {events : List SchedulerEvent}
    (takes : Guarded SchedulerSystem.step SchedulerSystem.QueueTakesJobs events
      start) :
    Guarded SchedulerSystem.step SchedulerSystem.Serves events start ↔
      Guarded SchedulerSystem.step SchedulerSystem.DatesInRange events start :=
  guarded_congr_of_assumed SchedulerSystem.step SchedulerSystem.readable_step
    SchedulerSystem.serves_iff readable takes

/-- The sample tables before the service is started. -/
def sampleScheduler : SchedulerSystem :=
  ⟨sampleSchedulerStore, [], none⟩

/-- The last microsecond of the year 9999 in UTC. -/
def lastMoment : Timestamp :=
  ⟨⟨wallLimit - 1, by decide⟩, some UtcOffset.utc⟩

/-- A start from a setting of ten minutes, and a tick. -/
def sampleStart : List SchedulerEvent :=
  [.putSetting (.int 600), .startup 300, .tick (sampleTick 600 ["a", "b"])]

theorem scheduler_serves_sample :
    sampleScheduler.Readable ∧
      Guarded SchedulerSystem.step SchedulerSystem.QueueTakesJobs sampleStart
        sampleScheduler ∧
      Guarded SchedulerSystem.step SchedulerSystem.Serves sampleStart
        sampleScheduler := by
  have readable : sampleScheduler.Readable := ⟨none, rfl⟩
  have takes : Guarded SchedulerSystem.step SchedulerSystem.QueueTakesJobs
      sampleStart sampleScheduler := by
    refine ⟨trivial, trivial, ⟨?_, ?_, ?_, ?_, ?_, ?_⟩, trivial⟩ <;>
      decide
  refine ⟨readable, takes, ?_⟩
  rw [scheduler_serves_iff_dates_in_range readable takes]
  refine ⟨trivial, trivial, ?_, trivial⟩
  intro pollIntervalSeconds running channelId listed _
  have isTenMinutes : pollIntervalSeconds = 600 := by
    have running600 : (run SchedulerSystem.step
        [.putSetting (.int 600), .startup 300]
        sampleScheduler).pollIntervalSeconds = some 600 := by
      decide
    exact (Option.some.inj (running600.symm.trans running)).symm
  subst isTenMinutes
  have inRange : ∀ channelId ∈
      sampleSchedulerStore.listSchedulableChannels,
      ∀ lastSuccess ∈ (sampleSchedulerStore.states.find? channelId).bind
          (·.lastSuccessAt),
        SchedulerSystem.NextRunInRange lastSuccess 600 0 := by
    decide +kernel
  exact inRange channelId listed

/-- A last success at the end of the year 9999 makes the tick raise, and the
other channel, which is due, gets no job.  So does a long interval that the
settings accept. -/
theorem one_channel_stops_the_tick :
    (sampleScheduler.Readable ∧
      Guarded SchedulerSystem.step SchedulerSystem.QueueTakesJobs
        [.startup 300,
          .patchChannel 2 { lastSuccessAt := some (some lastMoment) },
          .tick (sampleTick 600 ["a", "b"])] sampleScheduler) ∧
      ¬ Guarded SchedulerSystem.step SchedulerSystem.Serves
        [.startup 300,
          .patchChannel 2 { lastSuccessAt := some (some lastMoment) },
          .tick (sampleTick 600 ["a", "b"])] sampleScheduler ∧
      ¬ Guarded SchedulerSystem.step SchedulerSystem.Serves
        [.putSetting (.int 1000000000000), .startup 300,
          .tick (sampleTick 600 ["a", "b"])] sampleScheduler := by
  refine ⟨⟨⟨none, rfl⟩, ?_⟩, ?_, ?_⟩
  · refine ⟨trivial, trivial, ⟨?_, ?_, ?_, ?_, ?_, ?_⟩, trivial⟩ <;>
      decide
  · rintro ⟨-, -, serves, -⟩
    obtain ⟨-, due⟩ := serves 300 (by decide)
    exact absurd (due 1 (by decide) (by decide))
      (by decide +kernel)
  · rintro ⟨-, -, serves, -⟩
    obtain ⟨-, due⟩ := serves 1000000000000 (by decide)
    exact absurd (due 1 (by decide) (by decide))
      (by decide +kernel)

end Tca
