import Tca.WriterQueueCompletions

/-!
# What callers of the writer queue can rely on

A job is rejected only if a worker is cancelled or interrupted, so a cancelled
caller does no harm to other jobs.  Together with the earlier results this gives
the guarantees of the queue over all runs.
-/

namespace Tca

open GuardedRuns

variable {Value Failure : Type}

namespace WriteJob

variable {job : WriteJob Value Failure}

/-- The end of an operation settles an open job unless it concerns the worker. -/
theorem exists_executeQueuedJob_ok (isOpen : job.IsOpen)
    {ending : OperationEnd Value Failure}
    (notInterrupted : ending ≠ .interrupted) :
    ∃ completion, job.executeQueuedJob 0 ending = .ok completion ∧
      ∀ message, completion ≠ .closedError message := by
  have settles : ∀ completion, (∀ message,
      completion ≠ .closedError message) →
      ∃ settled, job.settle completion = .ok settled ∧
        ∀ message, settled ≠ .closedError message := by
    intro completion notClosed
    obtain ⟨-, pending | cancelled⟩ := isOpen
    · exact ⟨completion, by simp [settle, pending], notClosed⟩
    · exact ⟨.cancelled, by simp [settle, cancelled], by simp⟩
  cases ending with
  | returned value => exact settles (.result value) (by simp)
  | raised failure => exact settles (.exception failure) (by simp)
  | cancelled => exact settles .cancelledError (by simp)
  | interrupted => exact absurd rfl notInterrupted

end WriteJob

namespace WriterQueue

open WriterState

variable {queue : WriterQueue Value Failure}

/-- Nobody cancels a worker and no operation interrupts one. -/
def WorkerLeftAlone : QueueEvent Value Failure → WriterQueue Value Failure →
    Prop
  | .cancelWorker _, _ => False
  | .cancelClose _, _ => False
  | .turn _ .interrupted _, _ => False
  | _, _ => True

/-- No job has been rejected. -/
def NoneRejected (queue : WriterQueue Value Failure) : Prop :=
  ∀ job ∈ queue.jobs, ∀ message, job.completion ≠ .closedError message

/-- Nobody has cancelled a worker, nothing is queued behind the sentinel, and no
job has been rejected. -/
structure IsCalm (state : WriterState Value Failure) : Prop where
  notCancelled : ∀ task ∈ state.workers,
    task.cancelling = 0 ∧ task.mustCancel = false
  stopLast : ∀ before after, state.queue = before ++ .stop :: after →
    after = []
  noneRejected : ∀ job ∈ state.jobs, ∀ message,
    job.completion ≠ .closedError message

/-- The invariant of runs in which the workers are left alone. -/
structure Calm (queue : WriterQueue Value Failure) : Prop where
  sound : queue.Sound
  isCalm : IsCalm queue.toWriterState
  stopClosed : .stop ∈ queue.queue → queue.closed = true

theorem calm_initial : (initial : WriterQueue Value Failure).Calm where
  sound := sound_initial
  isCalm := by constructor <;> simp [initial, WriterState.initial]
  stopClosed := by simp [initial, WriterState.initial]

/-- What is left of a queue after entries were taken from its front. -/
theorem IsCalm.stopLast_of_suffix {state : WriterState Value Failure}
    (calm : IsCalm state) {rest : List QueuedItem}
    (suffix : ∃ taken, state.queue = taken ++ rest) :
    ∀ before after, rest = before ++ .stop :: after → after = [] := by
  rintro before after rfl
  obtain ⟨taken, split⟩ := suffix
  exact calm.stopLast (taken ++ before) after (by rw [split, List.append_assoc])

/-- A turn of a worker that is left alone takes entries from the front of the
queue only, and rejects no job. -/
theorem Calm.turn (calm : queue.Calm) (worker : Nat)
    {ending : OperationEnd Value Failure}
    (notInterrupted : ending ≠ .interrupted) (absorbed : Bool) :
    (∀ task ∈ (queue.turn worker ending absorbed).workers,
        task.cancelling = 0 ∧ task.mustCancel = false) ∧
      (∃ taken, queue.queue =
        taken ++ (queue.turn worker ending absorbed).queue) ∧
      ∀ job ∈ (queue.turn worker ending absorbed).jobs,
        ∀ message, job.completion ≠ .closedError message := by
  have coherent := calm.sound.coherent
  obtain ⟨allNotCancelled, stopLast, noneRejected⟩ := calm.isCalm
  have unchanged : (∀ task ∈ queue.workers,
        task.cancelling = 0 ∧ task.mustCancel = false) ∧
      (∃ taken, queue.queue = taken ++ queue.queue) ∧
      ∀ job ∈ queue.jobs, ∀ message, job.completion ≠ .closedError message :=
    ⟨allNotCancelled, ⟨[], rfl⟩, noneRejected⟩
  unfold WriterState.turn
  split
  · exact unchanged
  · rename_i task found
    obtain ⟨noRequests, notCancelled⟩ :=
      allNotCancelled task (List.mem_of_getElem? found)
    have set : ∀ {next : WorkerTask}, next.cancelling = 0 →
        next.mustCancel = false → ∀ other ∈ queue.workers.set worker next,
        other.cancelling = 0 ∧ other.mustCancel = false := by
      intro next noRequests notCancelled other member
      rcases List.mem_or_eq_of_mem_set member with old | rfl
      · exact allNotCancelled other old
      · exact ⟨noRequests, notCancelled⟩
    split
    · exact ⟨set noRequests notCancelled, ⟨[], rfl⟩, noneRejected⟩
    · rw [if_neg (by simp [notCancelled])]
      unfold takeNext
      split
      · exact unchanged
      · rename_i index items nextItem
        exact ⟨set noRequests notCancelled, ⟨[.job index], nextItem⟩,
          noneRejected⟩
      · rename_i items nextItem
        have noneBehind := stopLast [] items nextItem
        subst noneBehind
        split
        · exact ⟨set noRequests notCancelled, ⟨[.stop], nextItem⟩,
            noneRejected⟩
        · exact ⟨set noRequests notCancelled, ⟨[.stop], nextItem⟩,
            noneRejected⟩
    · rename_i index executing
      have live : task.isLive := by simp [WorkerTask.isLive, executing]
      have executes : queue.Executes index :=
        (executes_iff coherent.onlyCurrentLive found live).mpr executing
      have counted := coherent.countedExecuting index executes
      unfold endOperation
      split
      · exact unchanged
      · rename_i job stored
        have isOpen := coherent.isOpen index job stored (.inr executes)
        obtain ⟨completion, settled, notClosed⟩ :=
          WriteJob.exists_executeQueuedJob_ok isOpen notInterrupted
        simp only [noRequests, settled]
        split
        · omega
        · refine ⟨set rfl (by simp [notCancelled]), ⟨[], rfl⟩, ?_⟩
          intro other member
          rcases List.mem_or_eq_of_mem_set member with old | rfl
          · exact noneRejected other old
          · exact notClosed
    · exact unchanged

/-- A queue with an entry added at its end, to which no sentinel was sent. -/
theorem stopLast_append {items : List QueuedItem} (item : QueuedItem)
    (noStop : .stop ∉ items) :
    ∀ before after, items ++ [item] = before ++ .stop :: after →
      after = [] := by
  intro before after split
  rcases List.eq_nil_or_concat after with empty | ⟨rest, last, rfl⟩
  · exact empty
  · rw [List.concat_eq_append, ← List.cons_append, ← List.append_assoc] at split
    have sameItems := (List.append_inj' split rfl).1
    exact absurd (by simp [sameItems]) noStop

/-- An event that leaves the workers alone keeps them calm. -/
theorem StateChange.isCalm {event : QueueEvent Value Failure}
    {later : WriterState Value Failure} (calm : queue.Calm)
    (leftAlone : WorkerLeftAlone event queue)
    (change : StateChange queue event later) :
    IsCalm later ∧ (.stop ∈ later.queue →
      .stop ∈ queue.queue ∨ (step event queue).closed = true) := by
  obtain ⟨notCancelled, stopLast, noneRejected⟩ := calm.isCalm
  have noStop : queue.closed = false → .stop ∉ queue.queue := by
    intro notClosed queued
    simp [calm.stopClosed queued] at notClosed
  cases change with
  | same => exact ⟨calm.isCalm, .inl⟩
  | accepts call notClosed =>
      have ready : (∀ task ∈ queue.ensureWorkerLocked.workers,
          task.cancelling = 0 ∧ task.mustCancel = false) ∧
          queue.ensureWorkerLocked.queue = queue.queue := by
        unfold ensureWorkerLocked
        split
        · exact ⟨notCancelled, rfl⟩
        · refine ⟨fun task member => ?_, rfl⟩
          rcases List.mem_append.mp member with old | new
          · exact notCancelled task old
          · rw [List.mem_singleton.mp new]
            exact ⟨rfl, rfl⟩
      have queued : queue.acceptJob.queue = queue.queue ++
          [.job queue.ensureWorkerLocked.jobs.length] := by
        rw [← ready.2]
        rfl
      refine ⟨⟨ready.1, ?_, ?_⟩, ?_⟩
      · rw [queued]
        exact stopLast_append _ (noStop notClosed)
      · intro job member
        rw [jobs_acceptJob] at member
        rcases List.mem_append.mp member with old | new
        · exact noneRejected job old
        · rw [List.mem_singleton.mp new]
          simp [WriteJob.fresh]
      · intro member
        rw [queued] at member
        exact .inl (by simpa using member)
  | cancelsCaller call index =>
      refine ⟨⟨notCancelled, stopLast, ?_⟩, .inl⟩
      intro job member message
      obtain ⟨position, stored⟩ := List.mem_iff_getElem?.mp member
      simp only [WriterState.cancelCaller, List.getElem?_modify] at stored
      obtain ⟨old, found, rfl⟩ := Option.map_eq_some_iff.mp stored
      have notClosed := noneRejected old (List.mem_of_getElem? found) message
      split
      · unfold WriteJob.cancelCaller
        split
        · simp
        · exact notClosed
      · exact notClosed
  | closes call notClosed closed =>
      exact ⟨⟨notCancelled, stopLast_append .stop (noStop notClosed),
        noneRejected⟩, fun _ => .inr closed⟩
  | forgets => exact ⟨⟨notCancelled, stopLast, noneRejected⟩, .inl⟩
  | cancelsWorker event worker cancels =>
      rcases cancels with rfl | ⟨call, rfl⟩ <;> exact leftAlone.elim
  | turns worker ending absorbed =>
      have notInterrupted : ending ≠ .interrupted := by
        rintro rfl
        exact leftAlone
      obtain ⟨notCancelledNow, suffix, noneRejectedNow⟩ :=
        calm.turn worker notInterrupted absorbed
      refine ⟨⟨notCancelledNow, calm.isCalm.stopLast_of_suffix suffix,
        noneRejectedNow⟩, fun queued => .inl ?_⟩
      obtain ⟨taken, split⟩ := suffix
      rw [split]
      exact List.mem_append_right taken queued

theorem Calm.step (calm : queue.Calm) {event : QueueEvent Value Failure}
    (leftAlone : WorkerLeftAlone event queue) : (step event queue).Calm := by
  obtain ⟨isCalm, stop⟩ :=
    (stateChange_step event queue).isCalm calm leftAlone
  refine ⟨calm.sound.step event, isCalm, fun queued => ?_⟩
  rcases stop queued with earlier | closed
  · exact closed_step event (calm.stopClosed earlier)
  · exact closed

/-- What the queue promises in every run: operations are started in the order of
acceptance and at most once, they run one at a time, and each completion is the
operation's own result or exception, a rejection, or the caller's cancellation;
a completion that is done never changes; jobs are rejected only if a worker is
cancelled or interrupted, whatever happens to callers; a stopped worker leaves no
job behind exactly if no worker that was cancelled before its first step takes
its turn while a queued job waits; and under that condition every accepted job
has its completion after a bounded number of turns of the live worker, whatever
else happens in between. -/
theorem writerQueue_completes_iff
    (events : List (QueueEvent Value Failure)) :
    Always step (fun queue => queue.Serialized) events initial ∧
    Throughout step
      (fun earlier later => KeepsResolved earlier.jobs later.jobs) events
      initial ∧
    (Guarded step WorkerLeftAlone events initial →
      Always step NoneRejected events initial) ∧
    (Always step (fun queue => queue.NothingLeft) events initial ↔
      Guarded step NotLostAtStart events initial) ∧
    (Guarded step NotLostAtStart events initial →
      ∀ earlier later, earlier ++ later <+: events →
      ∀ index < (run step earlier initial).jobs.length,
        2 * (run step earlier initial).queue.length + 1 ≤
          liveTurns later (run step earlier initial) →
        (run step (earlier ++ later) initial).IsResolved index) := by
  have soundStep : ∀ (event : QueueEvent Value Failure) queue, Sound queue →
      Sound (step event queue) := fun event _ sound => sound.step event
  have nothingLeft : (initial : WriterQueue Value Failure).NothingLeft := by
    simp [NothingLeft, initial, WriterState.initial]
  have nothingLeftIff : Always step (fun queue => queue.NothingLeft) events
      initial ↔ Guarded step NotLostAtStart events initial :=
    always_iff_guarded step soundStep
      (fun event queue sound holds => nothingLeft_step_iff sound holds event)
      events sound_initial nothingLeft
  refine ⟨?_, ?_, ?_, nothingLeftIff, ?_⟩
  · exact fun executed isInitial =>
      (always_sound events executed isInitial).coherent.serialized
  · refine (throughout_iff_guarded step
      (fun queue => keepsResolved_refl queue.jobs)
      (fun early late => early.trans late) events initial).mpr ?_
    exact guarded_of_invariant step soundStep
      (fun event queue sound =>
        (stateChange_step event queue).keepsResolved sound) events sound_initial
  · intro leftAlone executed isInitial
    have calm := always_of_guarded step
      (fun event queue (calm : Calm queue) allowed => calm.step allowed)
      calm_initial leftAlone executed isInitial
    exact calm.isCalm.noneRejected
  · rintro guarded earlier later isInitial index accepted enough
    obtain ⟨rest, rfl⟩ := isInitial
    have sound := always_sound _ earlier
      ⟨later ++ rest, (List.append_assoc _ _ _).symm⟩
    have left := nothingLeftIff.mpr guarded earlier
      ⟨later ++ rest, (List.append_assoc _ _ _).symm⟩
    rw [guarded_append, guarded_append] at guarded
    rw [run_append]
    exact isResolved_of_liveTurns sound
      (sound.coherent.resolvedWithin left accepted) accepted guarded.1.2 enough

/-- Four jobs: the first caller is cancelled, the second operation raises, the
third job is rejected by a cancelled worker, and the fourth is executed by the
worker that replaces it. -/
def sampleQueueEvents : List (QueueEvent Nat String) :=
  [.submit, .submit, .submit, .submit, .acquireSubmit 0, .acquireSubmit 1,
    .turn 0 (.returned 0) false, .turn 0 (.returned 0) false, .cancelSubmit 0,
    .turn 0 (.returned 7) false, .turn 0 (.returned 0) false,
    .turn 0 (.raised "boom") false, .cancelWorker 0, .acquireSubmit 2,
    .turn 0 (.returned 0) false, .acquireSubmit 3, .turn 1 (.returned 0) false,
    .turn 1 (.returned 0) false, .turn 1 (.returned 9) false]

theorem writerQueue_completes_iff_sample :
    Always step (fun queue => queue.NothingLeft) sampleQueueEvents initial ∧
      (run step sampleQueueEvents initial).jobs.map WriteJob.completion =
        [.cancelled, .exception "boom",
          .closedError "Writer queue worker crashed or stopped.",
          .result 9] :=
  ⟨(writerQueue_completes_iff sampleQueueEvents).2.2.2.1.mpr (by decide),
    by decide⟩

/-- A worker is cancelled after its job was accepted and before its first step;
then the queue is closed. -/
def unstartedWorkerEvents : List (QueueEvent Nat String) :=
  [.submit, .acquireSubmit 0, .cancelWorker 0, .turn 0 (.returned 0) false,
    .close, .acquireClose 0, .resumeClose 0]

/-- The job is left without a completion, and the closed queue will start no
other worker. -/
theorem unstarted_worker_loses_job :
    (run step unstartedWorkerEvents initial).closed = true ∧
      ¬ Always step (fun queue => queue.NothingLeft) unstartedWorkerEvents
        initial := by
  refine ⟨by decide, fun always => ?_⟩
  have atEnd := always _ List.prefix_rfl
  revert atEnd
  unfold NothingLeft
  decide

end WriterQueue

end Tca
