import Tca.WriterQueueTurns
import Tca.GuardedRuns

/-!
# Runs of the writer queue

Any interleaving of submitting and closing calls, ends of operations and
cancellations executes the accepted operations one at a time and in order, and
never changes a completion that is done.
-/

namespace Tca

open GuardedRuns

variable {Value Failure : Type}

namespace WriterQueue

open WriterState

variable {queue : WriterQueue Value Failure}

/-- All that an event can do to the queue, its workers and its jobs. -/
inductive StateChange (queue : WriterQueue Value Failure) :
    QueueEvent Value Failure → WriterState Value Failure → Prop
  | same (event : QueueEvent Value Failure)
      (notTurn : ∀ worker ending absorbed,
        event ≠ .turn worker ending absorbed) :
      StateChange queue event queue.toWriterState
  | accepts (call : Nat) (notClosed : queue.closed = false) :
      StateChange queue (.acquireSubmit call) queue.acceptJob
  | cancelsCaller (call index : Nat) :
      StateChange queue (.cancelSubmit call) (queue.cancelCaller index)
  | closes (call : Nat) (notClosed : queue.closed = false)
      (closed : (step (.acquireClose call) queue).closed = true) :
      StateChange queue (.acquireClose call) (queue.put .stop)
  | forgets (call : Nat) {close : CloseCall} {worker : Nat}
      (member : close ∈ queue.closes)
      (awaits : close.phase = .awaiting worker)
      (returned : queue.outcome? worker = some .returned) :
      StateChange queue (.resumeClose call)
        { queue.toWriterState with workerTask := none }
  | cancelsWorker (event : QueueEvent Value Failure) (worker : Nat)
      (cancels : event = .cancelWorker worker ∨
        ∃ call, event = .cancelClose call) :
      StateChange queue event (queue.cancelWorker worker)
  | turns (worker : Nat) (ending : OperationEnd Value Failure)
      (absorbed : Bool) :
      StateChange queue (.turn worker ending absorbed)
        (queue.turn worker ending absorbed)

theorem close_of_phase {call : Nat} {phase : ClosePhase}
    (found : (queue.closes[call]?).map CloseCall.phase = some phase) :
    ∃ close ∈ queue.closes, close.phase = phase := by
  obtain ⟨close, stored, samePhase⟩ := Option.map_eq_some_iff.mp found
  exact ⟨close, List.mem_of_getElem? stored, samePhase⟩

theorem stateChange_step (event : QueueEvent Value Failure)
    (queue : WriterQueue Value Failure) :
    StateChange queue event (step event queue).toWriterState := by
  cases event with
  | submit => exact .same _ (by simp)
  | acquireSubmit call =>
      simp only [step]
      split
      · unfold acquireSubmit
        split
        · exact .same _ (by simp)
        · rename_i notClosed
          exact .accepts call (by simpa using notClosed)
      · exact .same _ (by simp)
  | cancelSubmit call =>
      simp only [step]
      split
      · exact .same _ (by simp)
      · exact .cancelsCaller call _
      · exact .same _ (by simp)
  | close => exact .same _ (by simp)
  | acquireClose call =>
      simp only [step]
      split
      · rename_i waiting
        unfold acquireClose
        split
        · exact .same _ (by simp)
        · rename_i notClosed
          split
          · exact .same _ (by simp)
          · rename_i worker current
            refine .closes call (by simpa using notClosed) ?_
            simp [step, waiting, acquireClose, notClosed, current, setClose,
              change]
      · exact .same _ (by simp)
  | resumeClose call =>
      simp only [step]
      split
      · rename_i worker awaits
        obtain ⟨close, member, samePhase⟩ := close_of_phase awaits
        split
        · rename_i outcome done
          unfold resumeClose
          split
          · rename_i returned
            rw [returned] at done
            exact .forgets call member samePhase done
          · exact .same _ (by simp)
        · exact .same _ (by simp)
      · exact .same _ (by simp)
  | cancelClose call =>
      simp only [step]
      split
      · exact .same _ (by simp)
      · split
        · exact .same _ (by simp)
        · exact .cancelsWorker _ _ (.inr ⟨call, rfl⟩)
      · exact .same _ (by simp)
  | cancelWorker worker => exact .cancelsWorker _ worker (.inl rfl)
  | turn worker ending absorbed => exact .turns worker ending absorbed

/-- The invariant of the queue with its calls. -/
structure Sound (queue : WriterQueue Value Failure) : Prop where
  coherent : queue.toWriterState.Coherent
  awaited : ∀ close ∈ queue.closes, ∀ worker,
    close.phase = .awaiting worker → queue.closed = true ∧
      ∀ position, queue.LiveAt position → position = worker
  unused : queue.closed = false → queue.workerTask = none →
    queue.workers = [] ∧ queue.jobs = []

theorem sound_initial : (initial : WriterQueue Value Failure).Sound where
  coherent := coherent_initial
  awaited := by simp [initial]
  unused := fun _ _ => ⟨rfl, rfl⟩

theorem not_liveAt_of_outcome {worker : Nat} {outcome : WorkerOutcome}
    (done : queue.outcome? worker = some outcome) : ¬ queue.LiveAt worker := by
  rintro ⟨task, found, live⟩
  unfold outcome? at done
  split at done
  · rename_i finished phase
    rw [found] at phase
    have isDone : task.phase = .done finished := by simpa using phase
    simp [WorkerTask.isLive, isDone] at live
  · cases done

theorem isLive_eq_false_of_none (noneLive : ∀ worker, ¬ queue.LiveAt worker) :
    ∀ task ∈ queue.workers, task.isLive = false := by
  intro task member
  obtain ⟨worker, found⟩ := List.mem_iff_getElem?.mp member
  by_contra live
  exact noneLive worker ⟨task, found, by simpa using live⟩

section Changes

variable {event : QueueEvent Value Failure}
  {later : WriterState Value Failure}

/-- Every change keeps the invariant of the queue. -/
theorem StateChange.coherent (sound : queue.Sound)
    (change : StateChange queue event later) : later.Coherent := by
  have coherent := sound.coherent
  cases change with
  | same => exact coherent
  | accepts => exact coherent.acceptJob
  | cancelsCaller call index => exact coherent.cancelCaller index
  | closes => exact coherent.putStop
  | forgets call member awaits returned =>
      obtain ⟨-, onlyAwaited⟩ := sound.awaited _ member _ awaits
      refine coherent.forgetWorker (isLive_eq_false_of_none ?_)
      intro position live
      rw [onlyAwaited position live] at live
      exact not_liveAt_of_outcome returned live
  | cancelsWorker event worker => exact coherent.cancelWorker worker
  | turns worker ending absorbed =>
      exact (coherent.turnEffect worker ending absorbed).coherent coherent

theorem liveAt_cancelWorker {worker position : Nat}
    (live : (queue.cancelWorker worker).LiveAt position) :
    queue.LiveAt position := by
  unfold WriterState.cancelWorker at live
  split at live
  · exact live
  · rename_i task found
    split at live
    · rename_i taskLive
      exact liveAt_of_setWorker found taskLive live
    · exact live

/-- No worker is started once the queue is closed. -/
theorem StateChange.liveAt (sound : queue.Sound)
    (change : StateChange queue event later) (closed : queue.closed = true)
    {position : Nat} (live : later.LiveAt position) :
    queue.LiveAt position := by
  cases change with
  | accepts call notClosed => simp [closed] at notClosed
  | cancelsWorker event worker => exact liveAt_cancelWorker live
  | turns worker ending absorbed =>
      exact (sound.coherent.turnEffect worker ending absorbed).liveAt live
  | _ => exact live

theorem acceptJob_workerTask_ne_none (state : WriterState Value Failure) :
    state.acceptJob.workerTask ≠ none := by
  change state.ensureWorkerLocked.workerTask ≠ none
  unfold ensureWorkerLocked
  split
  · rename_i live
    intro noWorker
    simp [hasLiveWorker, noWorker] at live
  · simp

theorem cancelWorker_workerTask (state : WriterState Value Failure)
    (worker : Nat) :
    (state.cancelWorker worker).workerTask = state.workerTask := by
  unfold WriterState.cancelWorker
  split
  · rfl
  · split <;> rfl

/-- A queue that is not closed has a worker as soon as it has a job. -/
theorem StateChange.unused (sound : queue.Sound)
    (change : StateChange queue event later) (notClosed : queue.closed = false)
    (noWorker : later.workerTask = none) :
    later.workers = [] ∧ later.jobs = [] := by
  have unused := sound.unused notClosed
  cases change with
  | same => exact unused noWorker
  | accepts => exact absurd noWorker (acceptJob_workerTask_ne_none _)
  | cancelsCaller call index =>
      obtain ⟨noWorkers, noJobs⟩ := unused noWorker
      exact ⟨noWorkers, by simp [WriterState.cancelCaller, noJobs]⟩
  | closes => exact unused noWorker
  | forgets call member awaits returned =>
      obtain ⟨closed, -⟩ := sound.awaited _ member _ awaits
      simp [closed] at notClosed
  | cancelsWorker event worker =>
      rw [cancelWorker_workerTask] at noWorker
      obtain ⟨noWorkers, noJobs⟩ := unused noWorker
      simp [WriterState.cancelWorker, noWorkers, noJobs]
  | turns worker ending absorbed =>
      have effect := sound.coherent.turnEffect worker ending absorbed
      rw [effect.workerTask] at noWorker
      obtain ⟨noWorkers, noJobs⟩ := unused noWorker
      simp [turn, noWorkers, noJobs]

end Changes

/-- A queue stays closed. -/
theorem closed_step (event : QueueEvent Value Failure)
    (closed : queue.closed = true) : (step event queue).closed = true := by
  cases event with
  | acquireSubmit call =>
      simp only [step]
      split
      · simp [acquireSubmit, closed, setSubmit]
      · exact closed
  | cancelSubmit call =>
      simp only [step]
      split <;> exact closed
  | acquireClose call =>
      simp only [step]
      split
      · simp [acquireClose, closed, setClose]
      · exact closed
  | resumeClose call =>
      simp only [step, resumeClose]
      split
      · split
        · split <;> exact closed
        · exact closed
      · exact closed
  | cancelClose call =>
      simp only [step]
      split
      · exact closed
      · split <;> exact closed
      · exact closed
  | _ => exact closed

/-- A call of `close` waits for the lock. -/
def WaitsToClose (queue : WriterQueue Value Failure) (call : Nat) : Prop :=
  (queue.closes[call]?).map CloseCall.phase = some .waiting

instance (call : Nat) : Decidable (queue.WaitsToClose call) :=
  inferInstanceAs (Decidable (_ = _))

theorem mem_setClose {call : Nat} {phase : ClosePhase} {close : CloseCall}
    (member : close ∈ (queue.setClose call phase).closes) :
    close ∈ queue.closes ∨ ∃ old, queue.closes[call]? = some old ∧
      close = { old with phase := phase } := by
  obtain ⟨position, found⟩ := List.mem_iff_getElem?.mp member
  simp only [setClose, List.getElem?_modify] at found
  obtain ⟨old, stored, rfl⟩ := Option.map_eq_some_iff.mp found
  split
  · rename_i same
    subst same
    exact .inr ⟨old, stored, rfl⟩
  · exact .inl (List.mem_of_getElem? stored)

/-- How a call of `close` moves on. -/
inductive CloseMove (queue : WriterQueue Value Failure) :
    QueueEvent Value Failure → CloseCall → ClosePhase → Prop
  | findsClosed (call : Nat) (close : CloseCall)
      (waits : queue.WaitsToClose call) (closed : queue.closed = true) :
      CloseMove queue (.acquireClose call) close .returned
  | findsNoWorker (call : Nat) (close : CloseCall)
      (notClosed : queue.closed = false) (noWorker : queue.workerTask = none)
      (closed : (step (.acquireClose call) queue).closed = true) :
      CloseMove queue (.acquireClose call) close .returned
  | awaits (call : Nat) (close : CloseCall) {worker : Nat}
      (current : queue.workerTask = some worker)
      (closed : (step (.acquireClose call) queue).closed = true)
      (enqueued : (step (.acquireClose call) queue).toWriterState =
        queue.put .stop) :
      CloseMove queue (.acquireClose call) close (.awaiting worker)
  | returns (call : Nat) {close : CloseCall} {worker : Nat}
      (awaits : close.phase = .awaiting worker)
      (returned : queue.outcome? worker = some .returned) :
      CloseMove queue (.resumeClose call) close .returned
  | raises (event : QueueEvent Value Failure) (close : CloseCall) :
      CloseMove queue event close .raised

/-- Where the calls of `close` come from: they stand as before, they are new, or
they have moved on. -/
theorem close_step {event : QueueEvent Value Failure} {close : CloseCall}
    (member : close ∈ (step event queue).closes) :
    close ∈ queue.closes ∨ close = ⟨queue.jobs.length, .waiting⟩ ∨
      ∃ old ∈ queue.closes, old.acceptedBefore = close.acceptedBefore ∧
        CloseMove queue event old close.phase := by
  have ofSetClose : ∀ {current : WriterQueue Value Failure} {call : Nat}
      {phase : ClosePhase}, current.closes = queue.closes →
      close ∈ (current.setClose call phase).closes →
      (∀ old, queue.closes[call]? = some old →
        CloseMove queue event old phase) →
      close ∈ queue.closes ∨ close = ⟨queue.jobs.length, .waiting⟩ ∨
        ∃ old ∈ queue.closes, old.acceptedBefore = close.acceptedBefore ∧
          CloseMove queue event old close.phase := by
    intro current call phase sameCloses set moves
    rcases mem_setClose set with old | ⟨old, stored, rfl⟩
    · exact .inl (sameCloses ▸ old)
    · rw [sameCloses] at stored
      exact .inr (.inr ⟨old, List.mem_of_getElem? stored, rfl,
        moves old stored⟩)
  cases event with
  | close =>
      rcases List.mem_append.mp member with old | new
      · exact .inl old
      · exact .inr (.inl (List.mem_singleton.mp new))
  | acquireSubmit call =>
      simp only [step, acquireSubmit] at member
      split at member
      · split at member <;> exact .inl member
      · exact .inl member
  | cancelSubmit call =>
      simp only [step] at member
      split at member <;> exact .inl member
  | acquireClose call =>
      simp only [step, acquireClose] at member
      split at member
      · rename_i waits
        split at member
        · rename_i closed
          exact ofSetClose rfl member fun old _ =>
            .findsClosed call old waits closed
        · rename_i notClosed
          split at member
          · rename_i noWorker
            refine ofSetClose rfl member fun old _ =>
              .findsNoWorker call old (by simpa using notClosed) noWorker ?_
            simp [step, waits, acquireClose, notClosed, noWorker, setClose]
          · rename_i worker current
            refine ofSetClose rfl member fun old _ =>
              .awaits call old current ?_ ?_
            · simp [step, waits, acquireClose, notClosed, current, setClose,
                change]
            · simp [step, waits, acquireClose, notClosed, current, setClose,
                change]
      · exact .inl member
  | resumeClose call =>
      simp only [step, resumeClose] at member
      split at member
      · rename_i worker awaits
        split at member
        · rename_i outcome done
          split at member
          · rename_i isReturned
            refine ofSetClose rfl member fun old stored => ?_
            have awaitsWorker : old.phase = .awaiting worker := by
              simpa [stored] using awaits
            exact .returns call awaitsWorker (isReturned ▸ done)
          · exact ofSetClose rfl member fun old _ => .raises _ old
        · exact .inl member
      · exact .inl member
  | cancelClose call =>
      simp only [step] at member
      split at member
      · exact ofSetClose rfl member fun old _ => .raises _ old
      · split at member
        · exact ofSetClose rfl member fun old _ => .raises _ old
        · exact .inl member
      · exact .inl member
  | _ => exact .inl member

/-- Every event keeps the invariant. -/
theorem Sound.step (sound : queue.Sound) (event : QueueEvent Value Failure) :
    (step event queue).Sound := by
  have change := stateChange_step event queue
  refine ⟨change.coherent sound, ?_, ?_⟩
  · intro close member worker awaits
    rcases close_step member with old | rfl | ⟨old, -, -, moves⟩
    · obtain ⟨closed, onlyAwaited⟩ := sound.awaited close old worker awaits
      exact ⟨closed_step event closed, fun position live =>
        onlyAwaited position (change.liveAt sound closed live)⟩
    · cases awaits
    · rw [awaits] at moves
      cases moves with | awaits call close current closed enqueued =>
      refine ⟨closed, fun position live => ?_⟩
      rw [enqueued] at live
      obtain ⟨task, found, taskLive⟩ := live
      have isCurrent :=
        sound.coherent.onlyCurrentLive position task found taskLive
      exact Option.some.inj (isCurrent.symm.trans current)
  · intro notClosed noWorker
    have notClosedBefore : queue.closed = false := by
      by_contra closed
      have stillClosed := closed_step event (by simpa using closed)
      simp [stillClosed] at notClosed
    exact change.unused sound notClosedBefore noWorker

theorem always_sound (events : List (QueueEvent Value Failure)) :
    Always step Sound events (initial : WriterQueue Value Failure) :=
  always_of_preserved step (fun event _ sound => sound.step event) events
    sound_initial

theorem jobs_acceptJob (state : WriterState Value Failure) :
    state.acceptJob.jobs = state.jobs ++ [.fresh] := by
  change state.ensureWorkerLocked.jobs ++ [.fresh] = state.jobs ++ [.fresh]
  unfold ensureWorkerLocked
  split <;> rfl

theorem jobs_cancelWorker (state : WriterState Value Failure) (worker : Nat) :
    (state.cancelWorker worker).jobs = state.jobs := by
  unfold WriterState.cancelWorker
  split
  · rfl
  · split <;> rfl

/-- No change touches a completion that is done. -/
theorem StateChange.keepsResolved {event : QueueEvent Value Failure}
    {later : WriterState Value Failure} (sound : queue.Sound) (change : StateChange queue event later) :
    KeepsResolved queue.jobs later.jobs := by
  cases change with
  | accepts =>
      intro index job stored
      have inRange := (List.getElem?_eq_some_iff.mp stored).1
      refine ⟨job, ?_, fun _ => rfl⟩
      rw [jobs_acceptJob, List.getElem?_append_left inRange]
      exact stored
  | cancelsCaller call cancelled =>
      intro index job stored
      simp only [WriterState.cancelCaller, List.getElem?_modify, stored]
      refine ⟨_, rfl, fun resolved => ?_⟩
      split
      · exact congrArg WriteJob.completion
          (WriteJob.cancelCaller_of_ne_pending resolved)
      · rfl
  | cancelsWorker event worker =>
      rw [jobs_cancelWorker]
      exact keepsResolved_refl queue.jobs
  | turns worker ending absorbed =>
      exact (sound.coherent.turnEffect worker ending absorbed).keepsResolved
  | _ => exact keepsResolved_refl queue.jobs

end WriterQueue

namespace WriterState

variable {state : WriterState Value Failure}

/-- The operation of the job has been started and has not ended. -/
def IsRunning (state : WriterState Value Failure) (index : Nat) : Prop :=
  index ∈ state.started ∧
    ∃ job, state.jobs[index]? = some job ∧ job.ended = none

/-- Operations are started in the order in which they were accepted and at most
once, they run one at a time, and each completion agrees with what happened to
the operation and its caller. -/
structure Serialized (state : WriterState Value Failure) : Prop where
  inOrder : state.started.Pairwise (· < ·)
  oneAtATime : ∀ first second, state.IsRunning first →
    state.IsRunning second → first = second
  consistent : ∀ job ∈ state.jobs, job.Consistent

theorem Coherent.executes_unique (coherent : state.Coherent)
    {first second : Nat} (executesFirst : state.Executes first)
    (executesSecond : state.Executes second) : first = second := by
  obtain ⟨task, member, executing⟩ := executesFirst
  obtain ⟨worker, found⟩ := List.mem_iff_getElem?.mp member
  have live : task.isLive := by simp [WorkerTask.isLive, executing]
  have same := (executes_iff coherent.onlyCurrentLive found live).mp
    executesSecond
  exact WorkerPhase.executing.inj (executing.symm.trans same)

theorem Coherent.serialized (coherent : state.Coherent) :
    state.Serialized := by
  refine ⟨(List.pairwise_append.mp coherent.ordered).1, ?_,
    coherent.consistent⟩
  rintro first second ⟨firstStarted, job, stored, notEnded⟩
    ⟨secondStarted, other, otherStored, otherNotEnded⟩
  exact coherent.executes_unique
    (coherent.running first job stored firstStarted notEnded)
    (coherent.running second other otherStored secondStarted otherNotEnded)

end WriterState

end Tca
