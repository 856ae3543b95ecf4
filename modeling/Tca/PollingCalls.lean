import Tca.InterleavedCalls
import Tca.PollingStore

/-!
# Scheduler ticks, poll requests and channel requests

A scheduler tick reads the clock, reads the channels, reads their polling
states, and then writes one job after the other through the writer queue.  The
requests that change channels, states and accounts are jobs of that queue: a
job waits while another one is running.  Only the reads of a tick do not wait.
An exception or a stop of the process outside the modelled checks abandons the
call.
-/

namespace Tca

open TableRows InterleavedCalls

/-- `datetime` in UTC for an instant of the clock. -/
def Timestamp.ofInstant (instant : Instant) : Except PyError Timestamp :=
  let micros : Int := instant + epochMicros
  if inRange : 0 ≤ micros ∧ micros < wallLimit then
    .ok ⟨⟨micros.toNat, by omega⟩, some UtcOffset.utc⟩
  else .error (.overflowError "date value out of range")

/-- Payload of `PATCH /channels/{channel_id}`.  A field is absent, null or
given. -/
structure ChannelPatchRequest where
  name : Option (Option String) := none
  username : Option (Option String) := none
  isEnabled : Option (Option Bool) := none
  pausedUntil : Option (Option Timestamp) := none
  lastSuccessAt : Option (Option Timestamp) := none
  deriving DecidableEq

/-- Response payload for channel operations. -/
structure ChannelResponse where
  channel : ChannelRow
  pausedUntil : Option Timestamp
  lastSuccessAt : Option Timestamp
  deriving DecidableEq

inductive PollingRequest where
  | runOnce (pollIntervalSeconds : Int)
  | pollNow (channelId : Int)
  | createChannel (payload : ChannelCreateRequest)
  | patchChannel (channelId : Int) (payload : ChannelPatchRequest)
  | deleteChannel (channelId : Int) (purge : Bool)
  | handleFloodWait (channelId waitSeconds : Int)
  | updateCursor (channelId : Int) (cursor : Option ChannelCursor)
  | pauseAccount (accountId : Int) (reason : String)
      (pausedAt : Option Instant)
  | resumeAccount (accountId : Int)
  | passTime (micros : Nat)
  deriving DecidableEq

/-- What a call is about to do next. -/
inductive PollingPhase where
  | readClock (pollIntervalSeconds : Int)
  | listChannels (now : Instant) (pollIntervalSeconds : Int)
  | listStates (now : Instant) (pollIntervalSeconds : Int)
      (channelIds : List Int)
  | enqueueJobs (channelIds : List Int) (enqueued : List PollJobRow)
  | pollNow (channelId : Int)
  | createChannel (payload : ChannelCreateRequest)
  | patchChannel (channelId : Int) (payload : ChannelPatchRequest)
  | patchState (channel : ChannelRow) (payload : ChannelPatchRequest)
  | deleteChannel (channelId : Int) (purge : Bool)
  | floodWait (channelId waitSeconds : Int)
  | updatePause (channelId : Int) (pausedUntil : Timestamp)
  | updateCursor (channelId : Int) (cursor : Option ChannelCursor)
  | pauseAccount (accountId : Int) (reason : String)
      (pausedAt : Option Instant)
  | resumeAccount (accountId : Int)
  | passTime (micros : Nat)
  deriving DecidableEq

/-- What a step learns from outside the store: a fresh correlation id, the
jitter values, and the problem that makes a second commit fail. -/
structure PollingInput where
  correlationId : String := ""
  draws : List ℚ := []
  commitProblem : Option PyError := none

inductive PollingResult where
  | tick (enqueued : List PollJobRow)
  | pollQueued (job : PollJobRow)
  | channel (response : ChannelResponse)
  | state (record : ChannelStateRecord)
  | accountPause (record : Option AccountPauseRecord)
  | httpError (statusCode : Nat) (detail : String)
  | raised (problem : PyError)
  | timePassed
  deriving DecidableEq

abbrev PollingProgress : Type :=
  Progress PollingPhase PollingResult

namespace PollingResult

def channelNotFound (channelId : Int) : PollingResult :=
  .httpError 404 s!"Channel '{channelId}' was not found."

def channelDisabled (channelId : Int) : PollingResult :=
  .httpError 409 s!"Channel '{channelId}' is disabled."

def channelPaused (channelId : Int) (pausedUntil : Timestamp) :
    PollingResult :=
  .httpError 409
    s!"Channel '{channelId}' is paused until {pausedUntil.isoformatT}."

def fieldNull (field : String) : PollingResult :=
  .httpError 400 s!"Field `{field}` cannot be null."

end PollingResult

/-- `_to_channel_response`. -/
def toChannelResponse (channel : ChannelRow)
    (state : Option ChannelStateRecord) : ChannelResponse where
  channel := channel
  pausedUntil := coerceOptionalDatetime (state.bind (·.pausedUntil))
  lastSuccessAt := coerceOptionalDatetime (state.bind (·.lastSuccessAt))

/-- How a call ends whose last action is a repository call. -/
def endWith {Value : Type} (result : Value → PollingResult)
    (outcome : Except PyError Value × PollingStore) :
    PollingProgress × PollingStore :=
  match outcome.1 with
  | .ok value => (.ended (result value), outcome.2)
  | .error problem => (.ended (.raised problem), outcome.2)

/-- `get_channel_by_id`, and what is done with the row. -/
def withChannel (channelId : Int) (store : PollingStore)
    (next : ChannelRow → PollingProgress × PollingStore) :
    PollingProgress × PollingStore :=
  if ¬ IsSqlInteger channelId then (.ended (.raised integerOverflow), store)
  else
    match store.channels.find? channelId with
    | none => (.ended (.channelNotFound channelId), store)
    | some channel => next channel

/-- The job of `poll_now`. -/
def pollNow (channelId : Int) (correlationId : String)
    (store : PollingStore) : PollingProgress × PollingStore :=
  withChannel channelId store fun channel =>
    if channel.isEnabled then
      match (store.states.find? channelId).bind (·.pausedUntil) with
      | none => endWith .pollQueued
          (store.enqueuePollJob channelId correlationId)
      | some pausedUntil =>
          if store.now < pausedUntil.instant then
            (.ended (.channelPaused channelId pausedUntil.readAsUtc), store)
          else endWith .pollQueued
            (store.enqueuePollJob channelId correlationId)
    else (.ended (.channelDisabled channelId), store)

/-- What a tick does after a job, or after the selection. -/
def continueTick (channelIds : List Int) (enqueued : List PollJobRow) :
    PollingProgress :=
  if channelIds = [] then .ended (.tick enqueued)
  else .suspended (.enqueueJobs channelIds enqueued)

/-- `_enqueue_job` for the next channel of a tick. -/
def enqueueJob (channelIds : List Int) (enqueued : List PollJobRow)
    (correlationId : String) (store : PollingStore) :
    PollingProgress × PollingStore :=
  match channelIds with
  | [] => (.ended (.tick enqueued), store)
  | channelId :: later =>
      match store.enqueuePollJob channelId correlationId with
      | (.ok job, written) => (continueTick later (enqueued ++ [job]), written)
      | (.error problem, written) => (.ended (.raised problem), written)

/-- `_select_eligible_channels` from the states on. -/
def selectFromStates (now : Instant) (pollIntervalSeconds : Int)
    (channelIds : List Int) (draws : List ℚ) (store : PollingStore) :
    PollingProgress :=
  match selectEligible now pollIntervalSeconds (fun id => store.states.find? id)
      channelIds draws with
  | .ok eligible => continueTick eligible []
  | .error problem => .ended (.raised problem)

namespace ChannelPatchRequest

variable (payload : ChannelPatchRequest)

/-- The request sets a column of the polling state. -/
def SetsState : Prop :=
  payload.pausedUntil ≠ none ∨ payload.lastSuccessAt ≠ none

instance : Decidable payload.SetsState :=
  inferInstanceAs (Decidable (_ ∨ _))

/-- The request is answered with an error before it writes. -/
def refusal : Option PollingResult :=
  if payload.name = some none then some (.fieldNull "name")
  else if payload.isEnabled = some none then some (.fieldNull "is_enabled")
  else none

/-- The columns of a channel after the request. -/
def applyTo (row : ChannelRow) : ChannelRow :=
  { row with
    name := (payload.name.bind id).getD row.name
    username := payload.username.getD row.username
    isEnabled := (payload.isEnabled.bind id).getD row.isEnabled }

end ChannelPatchRequest

/-- The first commit of `patch_channel`.  The queue stays busy if a second one
follows. -/
def patchChannel (channelId : Int) (payload : ChannelPatchRequest)
    (store : PollingStore) : PollingProgress × PollingStore :=
  withChannel channelId store fun current =>
    match payload.refusal with
    | some error => (.ended error, store)
    | none =>
        let updated := payload.applyTo current
        let later := store.updateChannel channelId payload.applyTo
          (fun _ => rfl) fun _ => rfl
        if payload.SetsState then
          (.suspended (.patchState updated payload),
            later.setWriting true)
        else
          (.ended (.channel
            (toChannelResponse updated (store.states.find? channelId))), later)

/-- The second commit of `patch_channel`, which ends the job. -/
def patchState (channel : ChannelRow) (payload : ChannelPatchRequest)
    (commitProblem : Option PyError) (store : PollingStore) :
    PollingProgress × PollingStore :=
  let released := store.setWriting false
  match commitProblem with
  | some problem => (.ended (.raised problem), released)
  | none =>
      let current := released.states.find? channel.id
      endWith (fun record => .channel (toChannelResponse channel (some record)))
        (released.upsertState channel.id
          (payload.pausedUntil.getD
            (coerceOptionalDatetime (current.bind (·.pausedUntil))))
          (payload.lastSuccessAt.getD
            (coerceOptionalDatetime (current.bind (·.lastSuccessAt)))))

/-- The job of `delete_channel`. -/
def deleteChannel (channelId : Int) (purge : Bool) (store : PollingStore) :
    PollingProgress × PollingStore :=
  withChannel channelId store fun channel =>
    if purge then
      (.ended (.channel (toChannelResponse channel none)),
        store.deleteChannel channelId)
    else
      (.ended (.channel (toChannelResponse
          { channel with isEnabled := false }
          (store.states.find? channelId))),
        store.setEnabled channelId false)

/-- `handle_flood_wait` up to the submission of its job. -/
def floodWait (channelId waitSeconds : Int) (store : PollingStore) :
    PollingProgress :=
  if waitSeconds ≤ 0 then
    .ended (.raised (.valueError "Flood wait error missing wait seconds."))
  else
    match timedeltaSeconds waitSeconds with
    | .error problem => .ended (.raised problem)
    | .ok delay =>
        match Timestamp.ofInstant (store.now + delay) with
        | .error problem => .ended (.raised problem)
        | .ok resumeAt => .suspended (.updatePause channelId resumeAt)

namespace PollingPhase

/-- The phase is a job that waits in the writer queue. -/
def queued : PollingPhase → Bool
  | .readClock _ => false
  | .listChannels _ _ => false
  | .listStates _ _ _ => false
  | .patchState _ _ => false
  | .floodWait _ _ => false
  | .passTime _ => false
  | _ => true

end PollingPhase

/-- The atomic step of a phase whose turn it is. -/
def pollingStep : PollingPhase → PollingInput → PollingStore →
    PollingProgress × PollingStore
  | .readClock pollIntervalSeconds, _, store =>
      (.suspended (.listChannels store.now pollIntervalSeconds), store)
  | .listChannels now pollIntervalSeconds, _, store =>
      (.suspended (.listStates now pollIntervalSeconds
        store.listSchedulableChannels), store)
  | .listStates now pollIntervalSeconds channelIds, input, store =>
      (selectFromStates now pollIntervalSeconds channelIds input.draws store,
        store)
  | .enqueueJobs channelIds enqueued, input, store =>
      enqueueJob channelIds enqueued input.correlationId store
  | .pollNow channelId, input, store =>
      pollNow channelId input.correlationId store
  | .createChannel payload, _, store =>
      endWith (fun channel => .channel (toChannelResponse channel none))
        (store.createChannel payload)
  | .patchChannel channelId payload, _, store =>
      patchChannel channelId payload store
  | .patchState channel payload, input, store =>
      patchState channel payload input.commitProblem store
  | .deleteChannel channelId purge, _, store =>
      deleteChannel channelId purge store
  | .floodWait channelId waitSeconds, _, store =>
      (floodWait channelId waitSeconds store, store)
  | .updatePause channelId pausedUntil, _, store =>
      endWith .state (store.updatePause channelId pausedUntil)
  | .updateCursor channelId cursor, _, store =>
      endWith .state (store.updateCursor channelId cursor)
  | .pauseAccount accountId reason pausedAt, _, store =>
      endWith .accountPause (store.pauseAccount accountId reason pausedAt)
  | .resumeAccount accountId, _, store =>
      endWith .accountPause (store.resumeAccount accountId)
  | .passTime micros, _, store =>
      (.ended .timePassed, { store with now := store.now + micros })

/-- The atomic step of each phase: a queued job waits while the queue is
busy. -/
def pollingAdvance (phase : PollingPhase) (input : PollingInput)
    (store : PollingStore) : PollingProgress × PollingStore :=
  if phase.queued ∧ store.writing then (.suspended phase, store)
  else pollingStep phase input store

/-- The calls on the polling tables. -/
def pollingCalls : Protocol PollingStore PollingRequest PollingPhase
    PollingInput PollingResult where
  enter
    | .runOnce pollIntervalSeconds => .readClock pollIntervalSeconds
    | .pollNow channelId => .pollNow channelId
    | .createChannel payload => .createChannel payload
    | .patchChannel channelId payload => .patchChannel channelId payload
    | .deleteChannel channelId purge => .deleteChannel channelId purge
    | .handleFloodWait channelId waitSeconds =>
        .floodWait channelId waitSeconds
    | .updateCursor channelId cursor => .updateCursor channelId cursor
    | .pauseAccount accountId reason pausedAt =>
        .pauseAccount accountId reason pausedAt
    | .resumeAccount accountId => .resumeAccount accountId
    | .passTime micros => .passTime micros
  advance := pollingAdvance

abbrev PollingSystem : Type :=
  System PollingStore PollingPhase PollingResult

abbrev PollingEvent : Type :=
  Event PollingRequest PollingInput

section Effects

variable {store : PollingStore}

@[simp]
theorem endWith_store {Value : Type} (result : Value → PollingResult)
    (outcome : Except PyError Value × PollingStore) :
    (endWith result outcome).2 = outcome.2 := by
  unfold endWith
  split <;> rfl

/-- A job on a channel ends with an error or goes on with its row. -/
theorem withChannel_cases (store : PollingStore) (channelId : Int)
    (next : ChannelRow → PollingProgress × PollingStore) :
    (∃ result, withChannel channelId store next = (.ended result, store)) ∨
      ∃ channel ∈ store.channels.rows, channel.id = channelId ∧
        withChannel channelId store next = next channel := by
  unfold withChannel
  split
  · exact .inl ⟨_, rfl⟩
  cases found : store.channels.find? channelId with
  | none => exact .inl ⟨_, rfl⟩
  | some channel =>
      obtain ⟨stored, addressed⟩ := KeyedTable.find?_eq_some_iff.mp found
      exact .inr ⟨channel, stored, addressed, rfl⟩

/-- A manual poll is refused or queued for an enabled channel whose pause is
over.  The account is not looked at. -/
theorem pollNow_cases (channelId : Int) (correlationId : String) :
    (∃ result, pollNow channelId correlationId store =
        (.ended result, store)) ∨
      ∃ channel ∈ store.channels.rows, channel.id = channelId ∧
        channel.isEnabled = true ∧
        ¬ IsPaused ((store.states.find? channelId).bind (·.pausedUntil))
          store.now ∧
        ∃ known : channelId ∈ store.channels.keys,
          pollNow channelId correlationId store =
            (.ended (.pollQueued (store.newJob channelId correlationId)),
              store.insertJob channelId correlationId known) := by
  have enqueued : (∃ result, endWith .pollQueued
        (store.enqueuePollJob channelId correlationId) =
          (.ended result, store)) ∨
      ∃ known : channelId ∈ store.channels.keys, endWith .pollQueued
        (store.enqueuePollJob channelId correlationId) =
          (.ended (.pollQueued (store.newJob channelId correlationId)),
            store.insertJob channelId correlationId known) := by
    rcases store.enqueuePollJob_cases channelId correlationId with
      ⟨problem, failed⟩ | ⟨known, inserted⟩
    · exact .inl ⟨_, by rw [failed]; rfl⟩
    · exact .inr ⟨known, by rw [inserted]; rfl⟩
  unfold pollNow
  rcases withChannel_cases store channelId _ with
    ⟨result, refused⟩ | ⟨channel, stored, addressed, found⟩
  · exact .inl ⟨result, refused⟩
  rw [found]
  split
  · rename_i enabled
    cases pauseEnd : (store.states.find? channelId).bind (·.pausedUntil) with
    | none =>
        refine enqueued.imp_right fun queued => ⟨channel, stored, addressed,
          enabled, ?_, queued⟩
        simp [IsPaused]
    | some pausedUntil =>
        by_cases ahead : store.now < pausedUntil.instant
        · exact .inl ⟨_, if_pos ahead⟩
        · simp only [if_neg ahead]
          refine enqueued.imp_right fun queued => ⟨channel, stored, addressed,
            enabled, ?_, queued⟩
          simpa [IsPaused] using ahead
  · exact .inl ⟨_, rfl⟩

/-- What a manual poll of an enabled channel does once its pause is over. -/
theorem pollNow_of_accepts {channel : ChannelRow} (correlationId : String)
    (stored : channel ∈ store.channels.rows)
    (sqlChannel : IsSqlInteger channel.id) (enabled : channel.isEnabled = true)
    (running : ¬ IsPaused ((store.states.find? channel.id).bind
      (·.pausedUntil)) store.now) :
    pollNow channel.id correlationId store =
      endWith .pollQueued
        (store.enqueuePollJob channel.id correlationId) := by
  have found : store.channels.find? channel.id = some channel :=
    KeyedTable.find?_eq_some_iff.mpr ⟨stored, rfl⟩
  rw [pollNow, withChannel, if_neg (not_not.mpr sqlChannel), found]
  simp only [enabled, if_true]
  split
  · rfl
  · rename_i pausedUntil pauseEnd
    rw [pauseEnd] at running
    exact if_neg fun ahead => running ⟨pausedUntil, rfl, ahead⟩

/-- A tick inserts a job for the first of its remaining channels, or ends. -/
theorem enqueueJob_cases (channelIds : List Int) (enqueued : List PollJobRow)
    (correlationId : String) :
    (∃ result, enqueueJob channelIds enqueued correlationId store =
        (.ended result, store)) ∨
      ∃ channelId later, channelIds = channelId :: later ∧
        ∃ known : channelId ∈ store.channels.keys,
          enqueueJob channelIds enqueued correlationId store =
            (continueTick later
                (enqueued ++ [store.newJob channelId correlationId]),
              store.insertJob channelId correlationId known) := by
  cases channelIds with
  | nil => exact .inl ⟨_, rfl⟩
  | cons channelId later =>
      rcases store.enqueuePollJob_cases channelId correlationId with
        ⟨problem, failed⟩ | ⟨known, inserted⟩
      · exact .inl ⟨.raised problem, by simp only [enqueueJob, failed]⟩
      · exact .inr ⟨channelId, later, rfl, known,
          by simp only [enqueueJob, inserted]⟩

/-- A patch writes the channel row unless it is refused. -/
theorem patchChannel_cases (channelId : Int) (payload : ChannelPatchRequest) :
    (∃ result, patchChannel channelId payload store =
        (.ended result, store)) ∨
      (channelId ∈ store.channels.keys ∧ payload.refusal = none ∧
        ∃ progress writing, (∀ phase, progress = .suspended phase →
          ∃ channel, phase = .patchState channel payload) ∧
        patchChannel channelId payload store =
          (progress, (store.updateChannel channelId payload.applyTo
            (fun _ => rfl) fun _ => rfl).setWriting writing)) := by
  unfold patchChannel
  rcases withChannel_cases store channelId _ with
    ⟨result, refused⟩ | ⟨channel, stored, addressed, found⟩
  · exact .inl ⟨result, refused⟩
  rw [found]
  cases refusal : payload.refusal with
  | some error => exact .inl ⟨error, rfl⟩
  | none =>
      refine .inr ⟨KeyedTable.mem_keys.mpr ⟨channel, stored, addressed⟩, rfl,
        ?_⟩
      simp only
      split
      · exact ⟨_, true, by simp, rfl⟩
      · exact ⟨_, store.writing, by simp, rfl⟩

/-- A deletion removes or disables the channel, or is refused. -/
theorem deleteChannel_cases (channelId : Int) (purge : Bool) :
    ∃ result, deleteChannel channelId purge store = (.ended result, store) ∨
      (purge = true ∧ deleteChannel channelId purge store =
        (.ended result, store.deleteChannel channelId)) ∨
      (channelId ∈ store.channels.keys ∧ purge = false ∧
        deleteChannel channelId purge store =
          (.ended result, store.setEnabled channelId false)) := by
  unfold deleteChannel
  rcases withChannel_cases store channelId _ with
    ⟨result, refused⟩ | ⟨channel, stored, addressed, found⟩
  · exact ⟨result, .inl refused⟩
  rw [found]
  cases purge with
  | true => exact ⟨_, .inr (.inl ⟨rfl, rfl⟩)⟩
  | false =>
      have known := KeyedTable.mem_keys.mpr ⟨channel, stored, addressed⟩
      exact ⟨_, .inr (.inr ⟨known, rfl, rfl⟩)⟩

end Effects

end Tca
