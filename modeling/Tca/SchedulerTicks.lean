import Tca.PollingStore

/-!
# Whole scheduler ticks

A tick selects the channels that are due and inserts a poll job for each of
them.  The file embeds `run_once` as one step on the store and says, channel by
channel, when the tick selects it and which dates it has to compute for that.
-/

namespace Tca

open PollingStore

/-- What a tick learns from outside: the time, the jitter drawn for each
channel, and the correlation ids in the order in which they are made. -/
structure SchedulerTick where
  now : Instant
  jitter : Int → ℚ
  correlationIds : List String

section Selection

variable (now : Instant) (pollIntervalSeconds : Int) (jitter : Int → ℚ)
  (stateOf : Int → Option ChannelStateRecord)

/-- The jitter is drawn for channels that are not paused and have a last
success. -/
def drawsJitter (channelId : Int) : Bool :=
  ¬ IsPaused ((stateOf channelId).bind (·.pausedUntil)) now ∧
    ((stateOf channelId).bind (·.lastSuccessAt)).isSome

/-- The values that the generator returns, in the order of the draws. -/
def drawnJitter (channelIds : List Int) : List ℚ :=
  (channelIds.filter (drawsJitter now stateOf)).map jitter

/-- Whether the loop of `_select_eligible_channels` takes a channel. -/
def takesChannel (channelId : Int) : Except PyError Bool :=
  if IsPaused ((stateOf channelId).bind (·.pausedUntil)) now then .ok false
  else
    match (stateOf channelId).bind (·.lastSuccessAt) with
    | none => .ok true
    | some lastSuccess => do
        let nextRunAt ← computeNextRunAt lastSuccess pollIntervalSeconds
          (jitter channelId)
        return nextRunAt.instant ≤ now

/-- The loop decides channel by channel. -/
theorem selectEligible_cons (channelId : Int) (channelIds : List Int) :
    selectEligible now pollIntervalSeconds stateOf (channelId :: channelIds)
        (drawnJitter now jitter stateOf (channelId :: channelIds)) = do
      let taken ← takesChannel now pollIntervalSeconds jitter stateOf channelId
      let eligible ← selectEligible now pollIntervalSeconds stateOf channelIds
        (drawnJitter now jitter stateOf channelIds)
      return if taken then channelId :: eligible else eligible := by
  by_cases paused : IsPaused ((stateOf channelId).bind (·.pausedUntil)) now
  · have noDraw : drawsJitter now stateOf channelId = false := by
      simp [drawsJitter, paused]
    have draws : drawnJitter now jitter stateOf (channelId :: channelIds) =
        drawnJitter now jitter stateOf channelIds := by
      simp [drawnJitter, noDraw]
    simp only [selectEligible, takesChannel, if_pos paused, draws]
    cases selectEligible now pollIntervalSeconds stateOf channelIds
      (drawnJitter now jitter stateOf channelIds) <;> rfl
  · cases success : (stateOf channelId).bind (·.lastSuccessAt) with
    | none =>
        have noDraw : drawsJitter now stateOf channelId = false := by
          simp [drawsJitter, success]
        have draws : drawnJitter now jitter stateOf
            (channelId :: channelIds) =
              drawnJitter now jitter stateOf channelIds := by
          simp [drawnJitter, noDraw]
        simp only [selectEligible, takesChannel, if_neg paused, success, draws]
        cases selectEligible now pollIntervalSeconds stateOf channelIds
          (drawnJitter now jitter stateOf channelIds) <;> rfl
    | some lastSuccess =>
        have draw : drawsJitter now stateOf channelId = true := by
          simp [drawsJitter, paused, success]
        have draws : drawnJitter now jitter stateOf
            (channelId :: channelIds) =
              jitter channelId :: drawnJitter now jitter stateOf channelIds := by
          simp [drawnJitter, draw]
        simp only [selectEligible, takesChannel, if_neg paused, success, draws,
          List.headD_cons, List.tail_cons]
        cases computeNextRunAt lastSuccess pollIntervalSeconds
          (jitter channelId) with
        | error problem => rfl
        | ok nextRunAt =>
            cases selectEligible now pollIntervalSeconds stateOf channelIds
              (drawnJitter now jitter stateOf channelIds) with
            | error problem => rfl
            | ok eligible =>
                simp [Bind.bind, Except.bind, Pure.pure, Except.pure]

variable {now pollIntervalSeconds jitter stateOf} {channelId : Int}
  {channelIds eligible : List Int}

/-- A channel is taken if its pause is over and it has no last success, or its
next run has come. -/
theorem takesChannel_true_iff :
    takesChannel now pollIntervalSeconds jitter stateOf channelId = .ok true ↔
      ¬ IsPaused ((stateOf channelId).bind (·.pausedUntil)) now ∧
        ∀ lastSuccess ∈ (stateOf channelId).bind (·.lastSuccessAt),
          ∃ nextRunAt, computeNextRunAt lastSuccess pollIntervalSeconds
              (jitter channelId) = .ok nextRunAt ∧
            nextRunAt.instant ≤ now := by
  unfold takesChannel
  by_cases paused : IsPaused ((stateOf channelId).bind (·.pausedUntil)) now
  · simp [paused]
  · rw [if_neg paused]
    cases success : (stateOf channelId).bind (·.lastSuccessAt) with
    | none => simp [paused]
    | some lastSuccess =>
        cases next : computeNextRunAt lastSuccess pollIntervalSeconds
            (jitter channelId) with
        | error problem =>
            simp [paused, next, Bind.bind, Except.bind]
        | ok nextRunAt =>
            simp [paused, next, Bind.bind, Except.bind, Pure.pure, Except.pure]

/-- A channel can be decided if its pause is not over or its next run can be
computed. -/
theorem takesChannel_ok_iff :
    (∃ taken, takesChannel now pollIntervalSeconds jitter stateOf channelId =
        .ok taken) ↔
      (¬ IsPaused ((stateOf channelId).bind (·.pausedUntil)) now →
        ∀ lastSuccess ∈ (stateOf channelId).bind (·.lastSuccessAt),
          ∃ nextRunAt, computeNextRunAt lastSuccess pollIntervalSeconds
            (jitter channelId) = .ok nextRunAt) := by
  unfold takesChannel
  by_cases paused : IsPaused ((stateOf channelId).bind (·.pausedUntil)) now
  · simp [paused]
  · rw [if_neg paused]
    cases success : (stateOf channelId).bind (·.lastSuccessAt) with
    | none => simp
    | some lastSuccess =>
        cases next : computeNextRunAt lastSuccess pollIntervalSeconds
            (jitter channelId) with
        | error problem =>
            simp [paused, next, Bind.bind, Except.bind]
        | ok nextRunAt =>
            simp [next, Bind.bind, Except.bind, Pure.pure, Except.pure]

/-- A tick selects the listed channels that it takes. -/
theorem mem_eligible_iff
    (selected : selectEligible now pollIntervalSeconds stateOf channelIds
      (drawnJitter now jitter stateOf channelIds) = .ok eligible) :
    channelId ∈ eligible ↔ channelId ∈ channelIds ∧
      takesChannel now pollIntervalSeconds jitter stateOf channelId =
        .ok true := by
  induction channelIds generalizing eligible with
  | nil =>
      simp only [selectEligible, Except.ok.injEq] at selected
      simp [← selected]
  | cons first channelIds ih =>
      rw [selectEligible_cons] at selected
      obtain ⟨taken, takes, selected⟩ := bind_eq_ok selected
      obtain ⟨rest, restSelected, returned⟩ := bind_eq_ok selected
      have shape : (if taken then first :: rest else rest) = eligible :=
        Except.ok.inj returned
      have later := ih restSelected
      rw [← shape]
      cases taken with
      | true =>
          simp only [if_true, List.mem_cons, later]
          constructor
          · rintro (rfl | ⟨listed, takesIt⟩)
            · exact ⟨.inl rfl, takes⟩
            · exact ⟨.inr listed, takesIt⟩
          · rintro ⟨rfl | listed, takesIt⟩
            · exact .inl rfl
            · exact .inr ⟨listed, takesIt⟩
      | false =>
          simp only [Bool.false_eq_true, if_false, List.mem_cons, later]
          constructor
          · rintro ⟨listed, takesIt⟩
            exact ⟨.inr listed, takesIt⟩
          · rintro ⟨rfl | listed, takesIt⟩
            · rw [takes] at takesIt
              cases takesIt
            · exact ⟨listed, takesIt⟩

/-- The selection keeps the order of the list. -/
theorem eligible_sublist
    (selected : selectEligible now pollIntervalSeconds stateOf channelIds
      (drawnJitter now jitter stateOf channelIds) = .ok eligible) :
    eligible.Sublist channelIds := by
  induction channelIds generalizing eligible with
  | nil =>
      simp only [selectEligible, Except.ok.injEq] at selected
      simp [← selected]
  | cons first channelIds ih =>
      rw [selectEligible_cons] at selected
      obtain ⟨taken, -, selected⟩ := bind_eq_ok selected
      obtain ⟨rest, restSelected, returned⟩ := bind_eq_ok selected
      have shape : (if taken then first :: rest else rest) = eligible :=
        Except.ok.inj returned
      rw [← shape]
      split
      · exact (ih restSelected).cons_cons first
      · exact (ih restSelected).cons first

/-- The selection succeeds if every listed channel can be decided. -/
theorem selectEligible_ok_iff :
    (∃ eligible, selectEligible now pollIntervalSeconds stateOf channelIds
        (drawnJitter now jitter stateOf channelIds) = .ok eligible) ↔
      ∀ channelId ∈ channelIds, ∃ taken,
        takesChannel now pollIntervalSeconds jitter stateOf channelId =
          .ok taken := by
  induction channelIds with
  | nil => simp [selectEligible]
  | cons first channelIds ih =>
      rw [List.forall_mem_cons, ← ih, selectEligible_cons]
      constructor
      · rintro ⟨eligible, selected⟩
        obtain ⟨taken, takes, selected⟩ := bind_eq_ok selected
        obtain ⟨rest, restSelected, -⟩ := bind_eq_ok selected
        exact ⟨⟨taken, takes⟩, ⟨rest, restSelected⟩⟩
      · rintro ⟨⟨taken, takes⟩, ⟨rest, restSelected⟩⟩
        rw [takes, restSelected]
        exact ⟨_, rfl⟩

end Selection

namespace PollingStore

variable (store : PollingStore)

/-- The jobs that `run_once` writes one after the other. -/
def enqueueJobs (store : PollingStore) :
    List Int → List String → Except PyError (List PollJobRow) × PollingStore
  | [], _ => (.ok [], store)
  | channelId :: channelIds, correlationIds =>
      match store.enqueuePollJob channelId (correlationIds.headD "") with
      | (.error problem, later) => (.error problem, later)
      | (.ok job, later) =>
          let rest := later.enqueueJobs channelIds correlationIds.tail
          (rest.1.map (job :: ·), rest.2)

/-- Run one scheduler tick and enqueue eligible channel jobs. -/
def runOnce (pollIntervalSeconds : Int) (tick : SchedulerTick) :
    Except PyError (List PollJobRow) × PollingStore :=
  let channelIds := store.listSchedulableChannels
  match selectEligible tick.now pollIntervalSeconds store.states.find?
      channelIds
      (drawnJitter tick.now tick.jitter store.states.find? channelIds) with
  | .error problem => (.error problem, store)
  | .ok eligible => store.enqueueJobs eligible tick.correlationIds

/-- A row of the later store is new and for the channel. -/
def GainsJob (later : PollingStore) (channelId : Int) : Prop :=
  ∃ job ∈ later.jobs.rows, job ∉ store.jobs.rows ∧ job.channelId = channelId

instance (later : PollingStore) (channelId : Int) :
    Decidable (store.GainsJob later channelId) :=
  inferInstanceAs (Decidable (∃ job ∈ _, _ ∧ _))

/-- Nothing but jobs differs, and the jobs of the first store are kept. -/
structure OnlyAddsJobs (later : PollingStore) : Prop where
  accounts : later.accounts = store.accounts
  channels : later.channels = store.channels
  states : later.states = store.states
  jobs : ∀ job ∈ store.jobs.rows, job ∈ later.jobs.rows

theorem OnlyAddsJobs.refl : store.OnlyAddsJobs store :=
  ⟨rfl, rfl, rfl, fun _ stored => stored⟩

variable {store}

theorem OnlyAddsJobs.trans {middle later : PollingStore}
    (first : store.OnlyAddsJobs middle) (second : middle.OnlyAddsJobs later) :
    store.OnlyAddsJobs later :=
  ⟨second.accounts.trans first.accounts, second.channels.trans first.channels,
    second.states.trans first.states,
    fun job stored => second.jobs job (first.jobs job stored)⟩

theorem onlyAddsJobs_insertJob {channelId : Int} {correlationId : String}
    {known : channelId ∈ store.channels.keys} :
    store.OnlyAddsJobs (store.insertJob channelId correlationId known) :=
  ⟨rfl, rfl, rfl, fun _ stored => (mem_insertJob known).mpr (.inl stored)⟩

theorem not_gainsJob_self (store : PollingStore) (channelId : Int) :
    ¬ store.GainsJob store channelId :=
  fun ⟨_, stored, fresh, _⟩ => fresh stored

/-- A job gained after an insertion is gained in all, and only the inserted
job is gained before. -/
theorem gainsJob_of_insertJob {first : Int} {correlationId : String}
    {known : first ∈ store.channels.keys} {later : PollingStore}
    (adds : (store.insertJob first correlationId known).OnlyAddsJobs later)
    (channelId : Int) :
    store.GainsJob later channelId ↔ channelId = first ∨
      (store.insertJob first correlationId known).GainsJob later
        channelId := by
  constructor
  · rintro ⟨job, stored, fresh, forChannel⟩
    by_cases isFirst : job = store.newJob first correlationId
    · rw [isFirst] at forChannel
      exact Or.inl forChannel.symm
    · refine Or.inr ⟨job, stored, ?_, forChannel⟩
      rw [mem_insertJob known]
      rintro (earlier | new)
      · exact fresh earlier
      · exact isFirst new
  · rintro (rfl | ⟨job, stored, fresh, forChannel⟩)
    · exact ⟨store.newJob channelId correlationId,
        adds.jobs _ ((mem_insertJob known).mpr (.inr rfl)),
        newJob_notMem _ _, rfl⟩
    · refine ⟨job, stored, fun earlier => fresh ?_, forChannel⟩
      exact (mem_insertJob known).mpr (.inl earlier)

/-- Jobs are added for channels of the list only, and for all of them unless
the writes fail. -/
theorem enqueueJobs_adds (store : PollingStore) (channelIds : List Int)
    (correlationIds : List String) :
    store.OnlyAddsJobs (store.enqueueJobs channelIds correlationIds).2 ∧
      (∀ channelId, store.GainsJob
          (store.enqueueJobs channelIds correlationIds).2 channelId →
        channelId ∈ channelIds) ∧
      (∀ jobs, (store.enqueueJobs channelIds correlationIds).1 = .ok jobs →
        ∀ channelId ∈ channelIds, store.GainsJob
          (store.enqueueJobs channelIds correlationIds).2 channelId) := by
  induction channelIds generalizing store correlationIds with
  | nil =>
      refine ⟨OnlyAddsJobs.refl store, fun channelId gains => ?_, by simp⟩
      exact absurd gains (store.not_gainsJob_self channelId)
  | cons first channelIds ih =>
      rcases @enqueuePollJob_cases store first (correlationIds.headD "") with
        ⟨problem, failed⟩ | ⟨known, inserted⟩
      · simp only [enqueueJobs, failed]
        refine ⟨OnlyAddsJobs.refl store, fun channelId gains => ?_, by simp⟩
        exact absurd gains (store.not_gainsJob_self channelId)
      · obtain ⟨adds, onlyListed, allListed⟩ := ih
          (store.insertJob first (correlationIds.headD "") known)
          correlationIds.tail
        simp only [enqueueJobs, inserted]
        refine ⟨onlyAddsJobs_insertJob.trans adds, ?_, ?_⟩
        · intro channelId gains
          rw [List.mem_cons]
          exact ((gainsJob_of_insertJob adds channelId).mp gains).imp_right
            (onlyListed channelId)
        · intro jobs written channelId listed
          refine (gainsJob_of_insertJob adds channelId).mpr
            ((List.mem_cons.mp listed).imp_right fun later => ?_)
          cases result : ((store.insertJob first (correlationIds.headD "")
              known).enqueueJobs channelIds correlationIds.tail).1 with
          | error problem =>
              rw [result] at written
              cases written
          | ok rest => exact allListed rest result channelId later

/-- A tick adds jobs for channels that it takes, and for all of them if it
returns. -/
theorem runOnce_adds (store : PollingStore) (pollIntervalSeconds : Int)
    (tick : SchedulerTick) :
    store.OnlyAddsJobs (store.runOnce pollIntervalSeconds tick).2 ∧
      ∀ channelId,
        (store.GainsJob (store.runOnce pollIntervalSeconds tick).2 channelId →
          channelId ∈ store.listSchedulableChannels ∧
            takesChannel tick.now pollIntervalSeconds tick.jitter
              store.states.find? channelId = .ok true) ∧
        (∀ jobs, (store.runOnce pollIntervalSeconds tick).1 = .ok jobs →
          channelId ∈ store.listSchedulableChannels →
          takesChannel tick.now pollIntervalSeconds tick.jitter
              store.states.find? channelId = .ok true →
          store.GainsJob (store.runOnce pollIntervalSeconds tick).2
            channelId) := by
  unfold runOnce
  dsimp only
  split
  · refine ⟨OnlyAddsJobs.refl store, fun channelId => ⟨?_, by simp⟩⟩
    rintro ⟨job, stored, fresh, -⟩
    exact absurd stored fresh
  · rename_i eligible selected
    obtain ⟨adds, onlyListed, allListed⟩ :=
      store.enqueueJobs_adds eligible tick.correlationIds
    refine ⟨adds, fun channelId => ⟨fun gains => ?_, ?_⟩⟩
    · exact (mem_eligible_iff selected).mp (onlyListed channelId gains)
    · intro jobs returned listed takes
      exact allListed jobs returned channelId
        ((mem_eligible_iff selected).mpr ⟨listed, takes⟩)

end PollingStore

theorem sampleSuccess_inRange : 63871286400000000 < wallLimit := by
  decide

/-- The start of the year 2025 in UTC. -/
def sampleSuccess : Timestamp :=
  ⟨⟨63871286400000000, sampleSuccess_inRange⟩, some UtcOffset.utc⟩

/-- Two channels of an account, of which the second has a last success. -/
def sampleSchedulerStore : PollingStore where
  accounts := ⟨⟨[⟨1, 12345, [], none, none, 1, none, none⟩], by decide⟩,
    by decide⟩
  channels := ⟨[⟨1, 1, 100, "first", none, true⟩,
    ⟨2, 1, 200, "second", none, true⟩], by decide⟩
  states := ⟨[⟨2, none, none, some sampleSuccess⟩], by decide⟩
  jobs := ⟨[], List.nodup_nil⟩
  now := 0
  writing := false
  channelAccounts := by decide
  stateChannels := by decide
  jobChannels := by decide

/-- A tick some seconds after the last success, without jitter. -/
def sampleTick (seconds : Int) (correlationIds : List String) :
    SchedulerTick :=
  ⟨sampleSuccess.instant + seconds * 1000000, fun _ => 0, correlationIds⟩

end Tca
