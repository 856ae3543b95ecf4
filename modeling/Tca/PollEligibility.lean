import Tca.PollReadiness

/-!
# Poll jobs only for channels that may be polled

A poll job should be inserted only for a channel that is enabled and not paused
and whose account is not paused.  The scheduler decides this by reads and
inserts its jobs later, and a manual poll does not look at the account.  The
file proves that these are the only ways to miss the aim: jobs are inserted for
channels that may be polled in every run in which manual polls are made for
accounts that are not paused, and in which no channel is disabled or paused,
and no account paused, while a tick still relies on having read the opposite.
-/

namespace Tca

open GuardedRuns InterleavedCalls PollingStore

/-- Every job row that the event inserts is for a channel that may be polled
at that moment. -/
def InsertsPollable (event : PollingEvent) (system : PollingSystem) : Prop :=
  ∀ job ∈ (pollingCalls.step event system).store.jobs.rows,
    job ∉ system.store.jobs.rows → system.store.MayBePolled job.channelId

instance (event : PollingEvent) (system : PollingSystem) :
    Decidable (InsertsPollable event system) :=
  inferInstanceAs (Decidable (∀ job ∈ _, _))

namespace PollingPhase

/-- The phase is a job that waits for the end of another one. -/
def Waits (store : PollingStore) (phase : PollingPhase) : Prop :=
  phase.queued = true ∧ store.writing = true

instance (store : PollingStore) (phase : PollingPhase) :
    Decidable (phase.Waits store) :=
  inferInstanceAs (Decidable (_ ∧ _))

/-- The clock reading of a tick. -/
def clockRead : PollingPhase → Option Instant
  | .listChannels now _ => some now
  | .listStates now _ _ => some now
  | _ => none

/-- The channels that a tick has read and may still enqueue. -/
def channelsRead : PollingPhase → List Int
  | .listStates _ _ channelIds => channelIds
  | .enqueueJobs channelIds _ => channelIds
  | _ => []

/-- The channels whose states a tick has read as well. -/
def channelsSelected : PollingPhase → List Int
  | .enqueueJobs channelIds _ => channelIds
  | _ => []

/-- The channel of a manual poll. -/
def manualPoll : PollingPhase → Option Int
  | .pollNow channelId => some channelId
  | _ => none

/-- A manual poll that the route accepts is for an account that is not
paused. -/
def PollsRunningAccount (store : PollingStore) (phase : PollingPhase) : Prop :=
  ∀ channelId ∈ phase.manualPoll, ∀ channel ∈ store.channels.rows,
    channel.id = channelId → channel.isEnabled = true →
    ¬ store.ChannelPaused channelId → ¬ store.AccountPaused channel.accountId

instance (store : PollingStore) (phase : PollingPhase) :
    Decidable (phase.PollsRunningAccount store) :=
  inferInstanceAs (Decidable (∀ channelId ∈ phase.manualPoll, _))

/-- The step bars no channel that the other call has read, and pauses none that
it has selected. -/
def SparesCall (phase : PollingPhase) (input : PollingInput)
    (store : PollingStore) : PollingProgress → Prop
  | .suspended other =>
      (∀ channelId ∈ other.channelsRead,
          channelId ∉ phase.channelsBarred store) ∧
        ∀ channelId ∈ other.channelsSelected,
          channelId ∉ phase.channelsPaused input store
  | .ended _ => True
  | .abandoned => True

instance (phase : PollingPhase) (input : PollingInput)
    (store : PollingStore) :
    ∀ other : PollingProgress, Decidable (phase.SparesCall input store other)
  | .suspended _ => inferInstanceAs (Decidable (_ ∧ _))
  | .ended _ => .isTrue trivial
  | .abandoned => .isTrue trivial

end PollingPhase

/-- Manual polls are for accounts that are not paused, and no step takes from a
tick what it has read.  A job that waits for the queue is not restricted. -/
def LeavesTicksAlone : PollingEvent → PollingSystem → Prop :=
  Protocol.PermitsBeside (fun _ => True)
    (fun phase _ store =>
      ¬ phase.Waits store → phase.PollsRunningAccount store)
    fun phase input store other =>
      ¬ phase.Waits store → phase.SparesCall input store other

instance (event : PollingEvent) (system : PollingSystem) :
    Decidable (LeavesTicksAlone event system) :=
  inferInstanceAs (Decidable (Protocol.PermitsBeside _ _ _ event system))

/-- What a suspended tick knows: its clock reading has passed, the channels it
has read are ready, and those it has selected are not paused. -/
structure TickKnowledge (phase : PollingPhase) (store : PollingStore) :
    Prop where
  clock : ∀ now ∈ phase.clockRead, now ≤ store.now
  ready : ∀ channelId ∈ phase.channelsRead, store.Schedulable channelId
  running : ∀ channelId ∈ phase.channelsSelected,
    ¬ store.ChannelPaused channelId

/-- What a call knows. -/
def CallKnows : PollingProgress → PollingStore → Prop
  | .suspended phase, store => TickKnowledge phase store
  | .ended _, _ => True
  | .abandoned, _ => True

section Knowledge

variable {store : PollingStore} {phase : PollingPhase} {input : PollingInput}

/-- A call that has read nothing knows nothing. -/
theorem tickKnowledge_of_unread (noClock : phase.clockRead = none)
    (noneRead : phase.channelsRead = [])
    (noneSelected : phase.channelsSelected = []) :
    TickKnowledge phase store where
  clock := by simp [noClock]
  ready := by simp [noneRead]
  running := by simp [noneSelected]

theorem callKnows_endWith {Value : Type} {result : Value → PollingResult}
    {outcome : Except PyError Value × PollingStore} {later : PollingStore} :
    CallKnows (endWith result outcome).1 later := by
  unfold endWith
  split <;> trivial

theorem callKnows_continueTick {channelIds : List Int}
    {enqueued : List PollJobRow}
    (ready : ∀ channelId ∈ channelIds, store.Schedulable channelId)
    (running : ∀ channelId ∈ channelIds, ¬ store.ChannelPaused channelId) :
    CallKnows (continueTick channelIds enqueued) store := by
  unfold continueTick
  split
  · trivial
  · exact ⟨by simp [PollingPhase.clockRead], ready, running⟩

/-- A tick keeps its knowledge across a step that spares it. -/
theorem callKnows_of_frame {barred paused : Int → Prop}
    {inserted : PollJobRow → Prop} {later : PollingStore}
    (frame : Frame barred paused inserted store later) {other : PollingProgress}
    (spared : ∀ tick, other = .suspended tick →
      (∀ channelId ∈ tick.channelsRead, ¬ barred channelId) ∧
        ∀ channelId ∈ tick.channelsSelected, ¬ paused channelId)
    (known : CallKnows other store) : CallKnows other later := by
  cases other with
  | ended result => trivial
  | abandoned => trivial
  | suspended tick =>
      obtain ⟨notBarred, notPaused⟩ := spared tick rfl
      obtain ⟨clock, ready, running⟩ := known
      refine ⟨fun now read => (clock now read).trans frame.clock,
        fun channelId read => ?_, fun channelId selected => ?_⟩
      · exact frame.schedulable channelId (notBarred channelId read)
          (ready channelId read)
      · exact frame.unpaused channelId (notPaused channelId selected)
          (running channelId selected)

theorem pollingAdvance_of_waits (waits : phase.Waits store) :
    pollingAdvance phase input store = (.suspended phase, store) :=
  if_pos waits

theorem pollingAdvance_of_not_waits (turn : ¬ phase.Waits store) :
    pollingAdvance phase input store = pollingStep phase input store :=
  if_neg turn

/-- A step keeps the knowledge of the calls that it spares. -/
theorem callKnows_stable {other : PollingProgress}
    (spared : ¬ phase.Waits store → phase.SparesCall input store other)
    (known : CallKnows other store) :
    CallKnows other (pollingAdvance phase input store).2 := by
  by_cases waits : phase.Waits store
  · rwa [pollingAdvance_of_waits waits]
  · refine callKnows_of_frame (pollingAdvance_frame phase input store) ?_ known
    rintro tick rfl
    exact spared waits

/-- What a tick selects is neither barred nor paused: a pause in force now was
in force at the earlier clock reading, when the tick would have seen it. -/
theorem callKnows_selectFromStates {now : Instant} {pollIntervalSeconds : Int}
    {channelIds : List Int} {draws : List ℚ} (notEarlier : now ≤ store.now)
    (ready : ∀ channelId ∈ channelIds, store.Schedulable channelId) :
    CallKnows (selectFromStates now pollIntervalSeconds channelIds draws store)
      store := by
  unfold selectFromStates
  split
  · rename_i eligible selected
    apply callKnows_continueTick
    · intro channelId member
      exact ready channelId (mem_selectEligible selected member).1
    · intro channelId member paused
      exact (mem_selectEligible selected member).2
        ((channelPaused_iff.mp paused).of_later notEarlier)
  · trivial

/-- A tick still knows about its remaining channels what it knew before. -/
theorem callKnows_enqueueJob {channelIds : List Int}
    {enqueued : List PollJobRow} {correlationId : String}
    (ready : ∀ channelId ∈ channelIds, store.Schedulable channelId)
    (running : ∀ channelId ∈ channelIds, ¬ store.ChannelPaused channelId) :
    CallKnows (enqueueJob channelIds enqueued correlationId store).1
      (enqueueJob channelIds enqueued correlationId store).2 := by
  rcases enqueueJob_cases channelIds enqueued correlationId with
    ⟨result, ended⟩ | ⟨channelId, later, rfl, known, inserted⟩
  · rw [ended]
    trivial
  · rw [inserted]
    apply callKnows_continueTick
    · intro other member
      exact ready other (List.mem_cons_of_mem channelId member)
    · intro other member
      exact running other (List.mem_cons_of_mem channelId member)

theorem callKnows_floodWait {channelId waitSeconds : Int} :
    CallKnows (floodWait channelId waitSeconds store) store := by
  unfold floodWait
  split
  · trivial
  split
  · trivial
  split
  · trivial
  · exact tickKnowledge_of_unread rfl rfl rfl

/-- The reads of a tick establish what it knows; no other call needs any. -/
theorem callKnows_pollingStep (known : TickKnowledge phase store) :
    CallKnows (pollingStep phase input store).1
      (pollingStep phase input store).2 := by
  cases phase with
  | readClock pollIntervalSeconds =>
      exact ⟨by simp [PollingPhase.clockRead, pollingStep],
        by simp [PollingPhase.channelsRead],
        by simp [PollingPhase.channelsSelected]⟩
  | listChannels now pollIntervalSeconds =>
      exact ⟨known.clock, fun channelId => schedulable_of_listed,
        by simp [PollingPhase.channelsSelected]⟩
  | listStates now pollIntervalSeconds channelIds =>
      exact callKnows_selectFromStates (known.clock now rfl) known.ready
  | enqueueJobs channelIds enqueued =>
      exact callKnows_enqueueJob known.ready known.running
  | pollNow channelId =>
      rcases pollNow_cases channelId input.correlationId with
        ⟨result, refused⟩ | ⟨channel, -, -, -, -, stored, inserted⟩
      · rw [pollingStep, refused]
        trivial
      · rw [pollingStep, inserted]
        trivial
  | createChannel payload => exact callKnows_endWith
  | patchChannel channelId payload =>
      rcases patchChannel_cases channelId payload with
        ⟨result, refused⟩ | ⟨-, -, progress, writing, next, written⟩
      · rw [pollingStep, refused]
        trivial
      · rw [pollingStep, written]
        cases progress with
        | ended result => trivial
        | abandoned => trivial
        | suspended later =>
            obtain ⟨channel, rfl⟩ := next later rfl
            exact tickKnowledge_of_unread rfl rfl rfl
  | patchState channel payload =>
      simp only [pollingStep, patchState]
      split
      · trivial
      · exact callKnows_endWith
  | deleteChannel channelId purge =>
      obtain ⟨result, refused | ⟨-, purged⟩ | ⟨-, -, disabled⟩⟩ :=
        deleteChannel_cases channelId purge
      · rw [pollingStep, refused]
        trivial
      · rw [pollingStep, purged]
        trivial
      · rw [pollingStep, disabled]
        trivial
  | floodWait channelId waitSeconds => exact callKnows_floodWait
  | updatePause channelId pausedUntil => exact callKnows_endWith
  | updateCursor channelId cursor => exact callKnows_endWith
  | pauseAccount accountId reason pausedAt => exact callKnows_endWith
  | resumeAccount accountId => exact callKnows_endWith
  | passTime micros => trivial

end Knowledge

section Insertions

variable {store : PollingStore} {phase : PollingPhase} {input : PollingInput}

/-- A step of a call that knows what a tick relies on inserts jobs only for
channels that may be polled. -/
theorem pollingAdvance_inserts_pollable (known : TickKnowledge phase store)
    (allowed : ¬ phase.Waits store → phase.PollsRunningAccount store)
    {job : PollJobRow}
    (stored : job ∈ (pollingAdvance phase input store).2.jobs.rows)
    (new : job ∉ store.jobs.rows) : store.MayBePolled job.channelId := by
  have inserts : phase.Inserts store job :=
    ((pollingAdvance_frame phase input store).jobs job stored).resolve_left new
  have turn : ¬ phase.Waits store := by
    intro waits
    rw [pollingAdvance_of_waits waits] at stored
    exact new stored
  cases phase with
  | enqueueJobs channelIds enqueued =>
      obtain ⟨first, channelKnown⟩ := inserts
      have member := List.mem_of_head? first
      exact mayBePolled_of_schedulable channelKnown (known.ready _ member)
        (known.running _ member)
  | pollNow channelId =>
      obtain ⟨rfl, channel, channelStored, addressed, enabled, running⟩ :=
        inserts
      exact ⟨channel, channelStored, addressed, enabled, running,
        allowed turn _ rfl channel channelStored addressed enabled running⟩
  | _ => exact inserts.elim

end Insertions

section Exactness

variable {system : PollingSystem} {call : Nat} {input : PollingInput}
  {channelId : Int}

/-- The jobs that a resumed call inserts are those of its step. -/
theorem insertsPollable_resume_iff {phase : PollingPhase}
    (suspended : system.phase? call = some phase) :
    InsertsPollable (.resume call input) system ↔
      ∀ job ∈ (pollingAdvance phase input system.store).2.jobs.rows,
        job ∉ system.store.jobs.rows →
          system.store.MayBePolled job.channelId := by
  rw [InsertsPollable, pollingCalls.step_resume_of_some suspended]
  rfl

variable (turn : system.store.writing = false)
  (insertable : system.store.CanInsertJob channelId input.correlationId)

include turn insertable

/-- A job of a tick is inserted whatever has become of its channel since. -/
theorem insertsPollable_enqueueJobs_iff {later : List Int}
    {enqueued : List PollJobRow}
    (suspended : system.phase? call =
      some (.enqueueJobs (channelId :: later) enqueued)) :
    InsertsPollable (.resume call input) system ↔
      system.store.MayBePolled channelId := by
  rw [insertsPollable_resume_iff suspended,
    pollingAdvance_of_not_waits (by simp [PollingPhase.Waits, turn])]
  constructor
  · intro pollable
    refine pollable (system.store.newJob channelId input.correlationId) ?_
      (newJob_notMem _ _)
    simp only [pollingStep, enqueueJob, enqueuePollJob_of_canInsert insertable]
    exact (mem_insertJob insertable.2.2.2).mpr (.inr rfl)
  · intro mayBePolled job stored new
    obtain ⟨first, -⟩ :=
      ((pollingStep_frame _ _ _).jobs job stored).resolve_left new
    rwa [← Option.some.inj first]

/-- A manual poll inserts a job for a channel that may be polled, or none,
exactly if the account of the channel it accepts is not paused. -/
theorem insertsPollable_pollNow_iff
    (suspended : system.phase? call = some (.pollNow channelId)) :
    InsertsPollable (.resume call input) system ↔
      (PollingPhase.pollNow channelId).PollsRunningAccount system.store := by
  have free : ¬ (PollingPhase.pollNow channelId).Waits system.store := by
    simp [PollingPhase.Waits, turn]
  rw [insertsPollable_resume_iff suspended]
  constructor
  · rintro pollable _ ⟨⟩ channel stored rfl enabled running accountPaused
    rw [pollingAdvance_of_not_waits free, pollingStep,
      pollNow_of_accepts _ stored insertable.1 enabled
        (fun paused => running (channelPaused_iff.mpr paused)),
      endWith_store, enqueuePollJob_of_canInsert insertable] at pollable
    obtain ⟨other, otherStored, sameId, -, -, accountRuns⟩ :=
      pollable (system.store.newJob channel.id input.correlationId)
        ((mem_insertJob insertable.2.2.2).mpr (.inr rfl)) (newJob_notMem _ _)
    obtain rfl := KeyedTable.eq_of_key_eq otherStored stored sameId
    exact accountRuns accountPaused
  · intro allowed job stored new
    exact pollingAdvance_inserts_pollable (tickKnowledge_of_unread rfl rfl rfl)
      (fun _ => allowed) stored new

end Exactness

abbrev PollingAnnotated : PollingSystem → Prop :=
  Protocol.Annotated (fun _ => True) CallKnows

/-- Events that leave the ticks alone keep their knowledge. -/
theorem pollingAnnotated_step (event : PollingEvent) (system : PollingSystem)
    (annotated : PollingAnnotated system)
    (leaves : LeavesTicksAlone event system) :
    PollingAnnotated (pollingCalls.step event system) := by
  refine pollingCalls.annotated_step_beside ?_ ?_ ?_ ?_ event system annotated
    leaves
  · intro request store _ _
    cases request <;> exact tickKnowledge_of_unread rfl rfl rfl
  · exact fun _ => trivial
  · intro phase input store _ known _
    refine ⟨trivial, ?_⟩
    change CallKnows (pollingAdvance phase input store).1
      (pollingAdvance phase input store).2
    by_cases waits : phase.Waits store
    · rw [pollingAdvance_of_waits waits]
      exact known
    · rw [pollingAdvance_of_not_waits waits]
      exact callKnows_pollingStep known
  · intro phase input store other _ _ _ spared known
    exact callKnows_stable spared known

theorem insertsPollable_of_annotated (event : PollingEvent)
    (system : PollingSystem) (annotated : PollingAnnotated system)
    (leaves : LeavesTicksAlone event system) :
    InsertsPollable event system := by
  intro job stored new
  rcases pollingCalls.step_store event system with same |
    ⟨call, input, phase, rfl, running, advanced⟩
  · rw [same] at stored
    exact absurd stored new
  · rw [advanced] at stored
    have known := annotated.2 _ (System.mem_calls_of_phase? running)
    exact pollingAdvance_inserts_pollable known (leaves phase running).1
      stored new

/-- In every run in which manual polls are made for accounts that are not
paused and no step takes from a tick what it has read, every poll job is
inserted for a channel that may be polled at that moment. -/
theorem poll_jobs_inserted_for_pollable_channels (store : PollingStore)
    (events : List PollingEvent)
    (leaves : Guarded pollingCalls.step LeavesTicksAlone events
      (System.idle store)) :
    Guarded pollingCalls.step InsertsPollable events (System.idle store) :=
  guarded_of_guarded pollingCalls.step pollingAnnotated_step
    insertsPollable_of_annotated ⟨trivial, by simp [System.idle]⟩ leaves

/-- A tick of the sample store, during which the third channel is disabled and
the second one polled by hand, and after which the account is paused. -/
def samplePollingEvents : List PollingEvent :=
  [.start (.runOnce 300), .resume 0 {}, .resume 0 {}, .resume 0 {},
    .start (.patchChannel 3 { isEnabled := some (some false) }), .resume 1 {},
    .resume 0 { correlationId := "c1" }, .start (.pollNow 2),
    .resume 2 { correlationId := "c2" }, .resume 0 { correlationId := "c3" },
    .start (.pauseAccount 1 "account-risk" none), .resume 3 {}]

theorem poll_jobs_inserted_for_pollable_channels_sample :
    Guarded pollingCalls.step LeavesTicksAlone samplePollingEvents
        (System.idle samplePollingStore) ∧
      (run pollingCalls.step samplePollingEvents
        (System.idle samplePollingStore)).store.jobs.rows =
          [⟨1, 1, "c1"⟩, ⟨2, 2, "c2"⟩, ⟨3, 2, "c3"⟩] ∧
      Guarded pollingCalls.step InsertsPollable samplePollingEvents
        (System.idle samplePollingStore) :=
  ⟨by decide, by decide,
    poll_jobs_inserted_for_pollable_channels samplePollingStore
      samplePollingEvents (by decide)⟩

/-- A manual poll of a channel whose account is paused inserts a job, and so
does a tick whose account is paused after it has selected the channel. -/
theorem poll_job_inserted_for_paused_account :
    ¬ Guarded pollingCalls.step InsertsPollable
        [.start (.pollNow 3), .resume 0 { correlationId := "c1" }]
        (System.idle samplePollingStore) ∧
      ¬ Guarded pollingCalls.step InsertsPollable
        [.start (.runOnce 300), .resume 0 {}, .resume 0 {}, .resume 0 {},
          .start (.pauseAccount 1 "account-risk" none), .resume 1 {},
          .resume 0 { correlationId := "c1" }]
        (System.idle samplePollingStore) := by
  decide

end Tca
