import Tca.PollingCalls

/-!
# What a scheduler tick may rely on

A channel may be polled if it is enabled, its pause is over and its account is
not paused.  A tick learns this by reads and acts on it later.  The file says
for every step on the polling tables from which channels it can take this away:
all other channels keep what a tick has read about them.
-/

namespace Tca

open TableRows InterleavedCalls

namespace PollingStore

variable (store : PollingStore)

/-- The account has `paused_at` set. -/
def AccountPaused (accountId : Int) : Prop :=
  ∃ account ∈ store.accounts.rows, account.id = accountId ∧
    account.pausedAt ≠ none

instance (accountId : Int) : Decidable (store.AccountPaused accountId) :=
  inferInstanceAs (Decidable (∃ account ∈ store.accounts.rows, _))

/-- The channel has a `paused_until` later than now. -/
def ChannelPaused (channelId : Int) : Prop :=
  ∃ state ∈ store.states.rows, state.channelId = channelId ∧
    IsPaused state.pausedUntil store.now

instance (channelId : Int) : Decidable (store.ChannelPaused channelId) :=
  inferInstanceAs (Decidable (∃ state ∈ store.states.rows, _))

/-- The channel exists, is enabled and not paused, and its account is not
paused either. -/
def MayBePolled (channelId : Int) : Prop :=
  ∃ channel ∈ store.channels.rows, channel.id = channelId ∧
    channel.isEnabled = true ∧ ¬ store.ChannelPaused channelId ∧
    ¬ store.AccountPaused channel.accountId

instance (channelId : Int) : Decidable (store.MayBePolled channelId) :=
  inferInstanceAs (Decidable (∃ channel ∈ store.channels.rows, _))

/-- Unless the channel is gone, it is enabled and its account not paused. -/
def Schedulable (channelId : Int) : Prop :=
  ∀ channel ∈ store.channels.rows, channel.id = channelId →
    channel.isEnabled = true ∧ ¬ store.AccountPaused channel.accountId

variable {store}

theorem mayBePolled_of_schedulable {channelId : Int}
    (known : channelId ∈ store.channels.keys)
    (schedulable : store.Schedulable channelId)
    (unpaused : ¬ store.ChannelPaused channelId) :
    store.MayBePolled channelId := by
  obtain ⟨channel, stored, rfl⟩ := KeyedTable.mem_keys.mp known
  obtain ⟨enabled, running⟩ := schedulable channel stored rfl
  exact ⟨channel, stored, rfl, enabled, unpaused, running⟩

/-- The pause of a channel is read off the state that is found for it. -/
theorem channelPaused_iff {channelId : Int} :
    store.ChannelPaused channelId ↔
      IsPaused ((store.states.find? channelId).bind (·.pausedUntil))
        store.now := by
  constructor
  · rintro ⟨state, stored, rfl, paused⟩
    rw [KeyedTable.find?_eq_some_iff.mpr ⟨stored, rfl⟩]
    exact paused
  · intro paused
    cases found : store.states.find? channelId with
    | none => simp [found, IsPaused] at paused
    | some state =>
        obtain ⟨stored, addressed⟩ := KeyedTable.find?_eq_some_iff.mp found
        rw [found] at paused
        exact ⟨state, stored, addressed, paused⟩

/-- The channels that the scheduler lists are schedulable. -/
theorem schedulable_of_listed {channelId : Int}
    (listed : channelId ∈ store.listSchedulableChannels) :
    store.Schedulable channelId := by
  obtain ⟨channel, stored, enabled, ⟨account, accountStored, owner, running⟩,
    rfl⟩ := mem_listSchedulableChannels.mp listed
  intro other otherStored sameId
  obtain rfl := KeyedTable.eq_of_key_eq otherStored stored sameId
  refine ⟨enabled, ?_⟩
  rintro ⟨other, otherAccountStored, otherOwner, paused⟩
  obtain rfl := KeyedTable.eq_of_key_eq otherAccountStored accountStored
    (otherOwner.trans owner.symm)
  exact paused running

/-- A step from one store to a later one takes the readiness from the barred
channels and the end of the pause from the paused channels at most, and adds
no jobs but the inserted ones. -/
structure Frame (barred paused : Int → Prop) (inserted : PollJobRow → Prop)
    (store later : PollingStore) : Prop where
  schedulable : ∀ channelId, ¬ barred channelId →
    store.Schedulable channelId → later.Schedulable channelId
  unpaused : ∀ channelId, ¬ paused channelId →
    ¬ store.ChannelPaused channelId → ¬ later.ChannelPaused channelId
  clock : store.now ≤ later.now
  jobs : ∀ job ∈ later.jobs.rows, job ∈ store.jobs.rows ∨ inserted job

namespace Frame

variable {barred paused : Int → Prop} {inserted : PollJobRow → Prop}
  {later : PollingStore}

/-- A step that changes neither channels nor accounts nor states. -/
theorem of_same (sameChannels : later.channels = store.channels)
    (sameAccounts : later.accounts = store.accounts)
    (sameStates : later.states = store.states)
    (clock : store.now ≤ later.now)
    (jobs : ∀ job ∈ later.jobs.rows, job ∈ store.jobs.rows ∨ inserted job) :
    Frame barred paused inserted store later where
  schedulable := by
    intro channelId _ schedulable
    simpa only [Schedulable, AccountPaused, sameChannels, sameAccounts]
      using schedulable
  unpaused := by
    rintro channelId _ unpaused ⟨state, stored, addressed, stillPaused⟩
    rw [sameStates] at stored
    exact unpaused ⟨state, stored, addressed, stillPaused.of_later clock⟩
  clock := clock
  jobs := jobs

theorem refl : Frame barred paused inserted store store :=
  of_same rfl rfl rfl le_rfl fun _ => .inl

theorem trans {middle : PollingStore}
    (first : Frame barred paused inserted store middle)
    (second : Frame barred paused inserted middle later) :
    Frame barred paused inserted store later where
  schedulable := fun channelId spared schedulable =>
    second.schedulable channelId spared
      (first.schedulable channelId spared schedulable)
  unpaused := fun channelId spared unpaused =>
    second.unpaused channelId spared (first.unpaused channelId spared unpaused)
  clock := first.clock.trans second.clock
  jobs := fun job stored =>
    (second.jobs job stored).elim (first.jobs job) .inr

theorem setWriting {writing : Bool} :
    Frame barred paused inserted store (store.setWriting writing) :=
  of_same rfl rfl rfl le_rfl fun _ => .inl

theorem insertJob {channelId : Int} {correlationId : String}
    (known : channelId ∈ store.channels.keys)
    (isInserted : inserted (store.newJob channelId correlationId)) :
    Frame barred paused inserted store
      (store.insertJob channelId correlationId known) := by
  refine of_same rfl rfl rfl le_rfl fun job stored => ?_
  rcases (mem_insertJob known).mp stored with earlier | rfl
  · exact .inl earlier
  · exact .inr isInserted

/-- A channel update takes readiness from the channel only, and only if it can
disable it. -/
theorem updateChannel {updatedId : Int} (set : ChannelRow → ChannelRow)
    (keepsId : ∀ row, (set row).id = row.id)
    (keepsAccount : ∀ row, (set row).accountId = row.accountId)
    (keepsEnabled : ¬ barred updatedId → ∀ row, row.isEnabled = true →
      (set row).isEnabled = true) :
    Frame barred paused inserted store
      (store.updateChannel updatedId set keepsId keepsAccount) where
  schedulable := by
    intro channelId spared schedulable row stored addressed
    obtain ⟨old, oldStored, rfl⟩ := mem_updateChannel.mp stored
    by_cases updated : old.id = updatedId
    · rw [if_pos updated] at addressed ⊢
      rw [keepsId, updated] at addressed
      subst addressed
      obtain ⟨enabled, running⟩ := schedulable old oldStored updated
      exact ⟨keepsEnabled spared old enabled, by rwa [keepsAccount]⟩
    · rw [if_neg updated] at addressed ⊢
      exact schedulable old oldStored addressed
  unpaused := fun _ _ unpaused => unpaused
  clock := le_rfl
  jobs := fun _ => .inl

/-- A new channel is ready unless its account is paused.  It has no state, so
it is not paused. -/
theorem insertChannel {payload : ChannelCreateRequest}
    (known : payload.accountId ∈ store.accounts.ids)
    (accountRuns : ¬ barred (nextRowid store.channels.keys) →
      ¬ store.AccountPaused payload.accountId) :
    Frame barred paused inserted store (store.insertChannel payload known) where
  schedulable := by
    intro channelId spared schedulable row stored addressed
    rcases mem_insertChannel.mp stored with earlier | rfl
    · exact schedulable row earlier addressed
    · obtain rfl : nextRowid store.channels.keys = channelId := addressed
      exact ⟨rfl, accountRuns spared⟩
  unpaused := fun _ _ unpaused => unpaused
  clock := le_rfl
  jobs := fun _ => .inl

theorem deleteChannel {deletedId : Int} :
    Frame barred paused inserted store (store.deleteChannel deletedId) where
  schedulable := by
    intro channelId _ schedulable row stored addressed
    exact schedulable row (KeyedTable.mem_deleteWhere.mp stored).1 addressed
  unpaused := by
    rintro channelId _ unpaused ⟨state, stored, addressed, stillPaused⟩
    exact unpaused ⟨state, (KeyedTable.mem_deleteWhere.mp stored).1, addressed,
      stillPaused⟩
  clock := le_rfl
  jobs := fun _ stored => .inl (KeyedTable.mem_deleteWhere.mp stored).1

/-- A state write can pause its channel only. -/
theorem putState {writtenId : Int}
    {set : ChannelStateRecord → ChannelStateRecord}
    (keepsChannel : ∀ row, (set row).channelId = row.channelId)
    (known : writtenId ∈ store.channels.keys)
    (keepsRunning : ¬ paused writtenId → ¬ store.ChannelPaused writtenId →
      ¬ IsPaused (set ((store.states.find? writtenId).getD
        (blankState writtenId))).pausedUntil store.now) :
    Frame barred paused inserted store
      (store.putState writtenId set keepsChannel known) where
  schedulable := fun _ _ schedulable => schedulable
  unpaused := by
    rintro channelId spared unpaused ⟨state, stored, addressed, isPaused⟩
    rcases KeyedTable.mem_upsert.mp stored with ⟨earlier, -⟩ | rfl
    · exact unpaused ⟨state, earlier, addressed, isPaused⟩
    · obtain rfl : channelId = writtenId := by
        rw [← addressed, keepsChannel]
        cases found : store.states.find? (blankState writtenId).channelId with
        | none => rfl
        | some old => exact (KeyedTable.find?_eq_some_iff.mp found).2
      exact keepsRunning spared unpaused isPaused
  clock := le_rfl
  jobs := fun _ => .inl

/-- Pausing an account takes readiness from its channels only. -/
theorem setPause {accountId : Int} {pausedAt : Option Instant}
    {pauseReason : Option String}
    (barredChannels : pausedAt ≠ none → ∀ channel ∈ store.channels.rows,
      channel.accountId = accountId → barred channel.id) :
    Frame barred paused inserted store
      (store.setPause accountId pausedAt pauseReason) where
  schedulable := by
    intro channelId spared schedulable channel stored addressed
    obtain ⟨enabled, running⟩ := schedulable channel stored addressed
    refine ⟨enabled, ?_⟩
    rintro ⟨account, accountStored, owner, isPaused⟩
    obtain ⟨old, oldStored, rfl⟩ := mem_setPause.mp accountStored
    by_cases updated : old.id = accountId
    · rw [if_pos updated] at owner isPaused
      rw [← addressed] at spared
      exact spared (barredChannels isPaused channel stored
        (owner.symm.trans updated))
    · rw [if_neg updated] at owner isPaused
      exact running ⟨old, oldStored, owner, isPaused⟩
  unpaused := fun _ _ unpaused => unpaused
  clock := le_rfl
  jobs := fun _ => .inl

end Frame

end PollingStore

namespace PollingPhase

/-- The channels that the step disables, whose account it pauses, or that it
creates for a paused account. -/
def channelsBarred (store : PollingStore) : PollingPhase → List Int
  | .createChannel payload =>
      if store.CanInsertChannel payload ∧
          store.AccountPaused payload.accountId then
        [nextRowid store.channels.keys]
      else []
  | .patchChannel channelId payload =>
      if channelId ∈ store.channels.keys ∧ payload.refusal = none ∧
          payload.isEnabled = some (some false) then
        [channelId]
      else []
  | .deleteChannel channelId purge =>
      if channelId ∈ store.channels.keys ∧ purge = false then [channelId]
      else []
  | .pauseAccount accountId _ _ =>
      (store.channels.rows.filter fun channel =>
        channel.accountId = accountId).map ChannelRow.id
  | _ => []

/-- The channels for which the step stores a pause that is not over yet. -/
def channelsPaused (input : PollingInput) (store : PollingStore) :
    PollingPhase → List Int
  | .patchState channel payload =>
      if channel.id ∈ store.channels.keys ∧ input.commitProblem = none ∧
          ∃ pausedUntil ∈ payload.pausedUntil,
            IsPaused pausedUntil store.now then
        [channel.id]
      else []
  | .updatePause channelId pausedUntil =>
      if channelId ∈ store.channels.keys ∧
          IsPaused (some pausedUntil) store.now then
        [channelId]
      else []
  | _ => []

/-- The job may be inserted by the step: a tick inserts jobs for the first of
its channels, a manual poll for a channel it finds enabled and not paused. -/
def Inserts (store : PollingStore) (job : PollJobRow) : PollingPhase → Prop
  | .enqueueJobs channelIds _ => channelIds.head? = some job.channelId ∧
      job.channelId ∈ store.channels.keys
  | .pollNow channelId => job.channelId = channelId ∧
      ∃ channel ∈ store.channels.rows, channel.id = channelId ∧
        channel.isEnabled = true ∧ ¬ store.ChannelPaused channelId
  | _ => False

end PollingPhase

/-- A request that does not disable a channel leaves an enabled one enabled. -/
theorem ChannelPatchRequest.applyTo_isEnabled {payload : ChannelPatchRequest}
    (notDisabled : payload.isEnabled ≠ some (some false)) {row : ChannelRow}
    (enabled : row.isEnabled = true) :
    (payload.applyTo row).isEnabled = true := by
  simp only [applyTo]
  cases field : payload.isEnabled with
  | none => exact enabled
  | some value =>
      cases value with
      | none => exact enabled
      | some flag =>
          cases flag with
          | false => exact absurd field notDisabled
          | true => rfl

open PollingStore

section Steps

variable {store : PollingStore} {barred paused : Int → Prop}
  {inserted : PollJobRow → Prop}

theorem writeState_frame {channelId : Int}
    {set : ChannelStateRecord → ChannelStateRecord}
    {keepsChannel : ∀ row, (set row).channelId = row.channelId}
    (keepsRunning : channelId ∈ store.channels.keys → ¬ paused channelId →
      ¬ store.ChannelPaused channelId →
      ¬ IsPaused (set ((store.states.find? channelId).getD
        (blankState channelId))).pausedUntil store.now) :
    Frame barred paused inserted store
      (store.writeState channelId set keepsChannel).2 := by
  rcases store.writeState_cases channelId set keepsChannel with
    ⟨problem, failed⟩ | ⟨known, written⟩
  · rw [failed]
    exact .refl
  · rw [written]
    exact .putState keepsChannel known (keepsRunning known)

theorem writePause_frame {accountId : Int} {pausedAt : Option Instant}
    {pauseReason : Option String}
    (barredChannels : pausedAt ≠ none → ∀ channel ∈ store.channels.rows,
      channel.accountId = accountId → barred channel.id) :
    Frame barred paused inserted store
      (store.writePause accountId pausedAt pauseReason).2 := by
  rcases store.writePause_store accountId pausedAt pauseReason with
    failed | written
  · rw [failed]
    exact .refl
  · rw [written]
    exact .setPause barredChannels

theorem patchChannel_frame {channelId : Int} {payload : ChannelPatchRequest}
    (barredChannel : channelId ∈ store.channels.keys →
      payload.refusal = none → payload.isEnabled = some (some false) →
      barred channelId) :
    Frame barred paused inserted store (patchChannel channelId payload store).2 := by
  rcases patchChannel_cases channelId payload with
    ⟨result, refused⟩ | ⟨known, accepted, progress, writing, -, written⟩
  · rw [refused]
    exact .refl
  · rw [written]
    have updated : Frame barred paused inserted store
        (store.updateChannel channelId payload.applyTo (fun _ => rfl)
          fun _ => rfl) := by
      refine .updateChannel _ _ _ fun spared row enabled => ?_
      have notDisabled : payload.isEnabled ≠ some (some false) :=
        fun disabled => spared (barredChannel known accepted disabled)
      exact ChannelPatchRequest.applyTo_isEnabled notDisabled enabled
    exact updated.trans .setWriting

theorem patchState_frame {channel : ChannelRow}
    {payload : ChannelPatchRequest} {commitProblem : Option PyError}
    (pausedChannel : channel.id ∈ store.channels.keys →
      commitProblem = none →
      (∃ pausedUntil ∈ payload.pausedUntil, IsPaused pausedUntil store.now) →
      paused channel.id) :
    Frame barred paused inserted store
      (patchState channel payload commitProblem store).2 := by
  have released : Frame barred paused inserted store (store.setWriting false) :=
    .setWriting
  unfold patchState
  cases commitProblem with
  | some problem => exact released
  | none =>
      rw [endWith_store]
      refine released.trans
        (writeState_frame fun known spared unpaused isPaused => ?_)
      cases field : payload.pausedUntil with
      | some pausedUntil =>
          rw [field] at isPaused
          exact spared (pausedChannel known rfl ⟨pausedUntil, field, isPaused⟩)
      | none =>
          rw [field] at isPaused
          exact unpaused (channelPaused_iff.mpr
            (isPaused_coerceOptionalDatetime.mp isPaused))

theorem deleteChannel_frame {channelId : Int} {purge : Bool}
    (barredChannel : channelId ∈ store.channels.keys → purge = false →
      barred channelId) :
    Frame barred paused inserted store (deleteChannel channelId purge store).2 := by
  obtain ⟨result, refused | ⟨-, purged⟩ | ⟨known, disables, disabled⟩⟩ :=
    deleteChannel_cases channelId purge
  · rw [refused]
    exact .refl
  · rw [purged]
    exact .deleteChannel
  · rw [disabled]
    exact .updateChannel (fun row => { row with isEnabled := false })
      (fun _ => rfl) (fun _ => rfl)
      fun spared => absurd (barredChannel known disables) spared

theorem createChannel_frame {payload : ChannelCreateRequest}
    (barredChannel : store.CanInsertChannel payload →
      store.AccountPaused payload.accountId →
      barred (nextRowid store.channels.keys)) :
    Frame barred paused inserted store (store.createChannel payload).2 := by
  rcases store.createChannel_cases payload with ⟨problem, failed⟩ |
    ⟨insertable, created⟩
  · rw [failed]
    exact .refl
  · rw [created]
    exact .insertChannel insertable.2.2.2 fun spared accountPaused =>
      spared (barredChannel insertable accountPaused)

end Steps

/-- A step takes away what a tick relies on only from the channels that it bars
or pauses, and inserts the jobs of ticks and manual polls only. -/
theorem pollingStep_frame (phase : PollingPhase) (input : PollingInput)
    (store : PollingStore) :
    Frame (· ∈ phase.channelsBarred store)
      (· ∈ phase.channelsPaused input store) (phase.Inserts store ·) store
      (pollingStep phase input store).2 := by
  cases phase with
  | readClock pollIntervalSeconds => exact .refl
  | listChannels now pollIntervalSeconds => exact .refl
  | listStates now pollIntervalSeconds channelIds => exact .refl
  | enqueueJobs channelIds enqueued =>
      rcases enqueueJob_cases channelIds enqueued input.correlationId with
        ⟨result, ended⟩ | ⟨channelId, later, rfl, known, inserted⟩
      · rw [pollingStep, ended]
        exact .refl
      · rw [pollingStep, inserted]
        exact .insertJob known ⟨rfl, known⟩
  | pollNow channelId =>
      rcases pollNow_cases channelId input.correlationId with
        ⟨result, refused⟩ | ⟨channel, stored, addressed, enabled, running,
          known, inserted⟩
      · rw [pollingStep, refused]
        exact .refl
      · rw [pollingStep, inserted]
        rw [← channelPaused_iff] at running
        exact .insertJob known
          ⟨rfl, channel, stored, addressed, enabled, running⟩
  | createChannel payload =>
      rw [pollingStep, endWith_store]
      apply createChannel_frame
      intro insertable accountPaused
      simp [PollingPhase.channelsBarred, insertable, accountPaused]
  | patchChannel channelId payload =>
      apply patchChannel_frame
      intro known accepted disabled
      simp [PollingPhase.channelsBarred, known, accepted, disabled]
  | patchState channel payload =>
      apply patchState_frame
      intro known commits pausing
      rw [PollingPhase.channelsPaused, if_pos ⟨known, commits, pausing⟩]
      exact List.mem_singleton_self channel.id
  | deleteChannel channelId purge =>
      apply deleteChannel_frame
      intro known disables
      simp [PollingPhase.channelsBarred, known, disables]
  | floodWait channelId waitSeconds => exact .refl
  | updatePause channelId pausedUntil =>
      rw [pollingStep, endWith_store]
      refine writeState_frame fun known spared _ isPaused => spared ?_
      rw [PollingPhase.channelsPaused, if_pos ⟨known, isPaused⟩]
      exact List.mem_singleton_self channelId
  | updateCursor channelId cursor =>
      rw [pollingStep, endWith_store, updateCursor]
      split
      · exact .refl
      apply writeState_frame
      intro _ _ unpaused isPaused
      rw [channelPaused_iff] at unpaused
      cases found : store.states.find? channelId with
      | none => simp [found, blankState, IsPaused] at isPaused
      | some state =>
          rw [found] at unpaused isPaused
          exact unpaused isPaused
  | pauseAccount accountId reason pausedAt =>
      rw [pollingStep, endWith_store]
      apply writePause_frame
      intro _ channel stored owner
      exact List.mem_map_of_mem
        (List.mem_filter.mpr ⟨stored, decide_eq_true owner⟩)
  | resumeAccount accountId =>
      rw [pollingStep, endWith_store]
      exact writePause_frame fun pausing => absurd rfl pausing
  | passTime micros =>
      refine .of_same rfl rfl rfl ?_ fun _ => .inl
      simp [pollingStep]

/-- Waiting for the queue changes nothing. -/
theorem pollingAdvance_frame (phase : PollingPhase) (input : PollingInput)
    (store : PollingStore) :
    Frame (· ∈ phase.channelsBarred store)
      (· ∈ phase.channelsPaused input store) (phase.Inserts store ·) store
      (pollingAdvance phase input store).2 := by
  unfold pollingAdvance
  split
  · exact .refl
  · exact pollingStep_frame phase input store

end Tca
