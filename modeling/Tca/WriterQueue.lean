import Mathlib.Data.List.Basic

/-!
# The writer queue

Write operations are submitted to a queue and executed by one worker task at a
time.  The model follows the tasks from one suspension to the next: a caller
that submits an operation acquires the lifecycle lock, enqueues its job and
waits for the job's completion; the worker takes jobs and executes them; a
closer enqueues a sentinel and waits for the worker.  Each of these tasks can be
cancelled while it is suspended.  The lock is held only between suspensions,
because putting into an unbounded queue does not wait.
-/

namespace Tca

/-- How an operation ends. -/
inductive OperationEnd (Value Failure : Type) where
  | returned (value : Value)
  | raised (failure : Failure)
  | cancelled
  | interrupted
  deriving DecidableEq

/-- The completion future of a job.  `cancelledError` is an operation's own
`CancelledError`, set as the exception of the future. -/
inductive Completion (Value Failure : Type) where
  | pending
  | result (value : Value)
  | exception (failure : Failure)
  | cancelledError
  | closedError (message : String)
  | cancelled
  deriving DecidableEq

/-- A job together with how its operation ended and whether its caller was
cancelled while it waited. -/
structure WriteJob (Value Failure : Type) where
  completion : Completion Value Failure
  ended : Option (OperationEnd Value Failure)
  callerCancelled : Bool
  deriving DecidableEq

/-- An entry of the queue: a job, by its place in the order of acceptance, or
the sentinel of `close`. -/
inductive QueuedItem where
  | job (index : Nat)
  | stop
  deriving DecidableEq

def QueuedItem.job? : QueuedItem → Option Nat
  | .job index => some index
  | .stop => none

/-- How a worker task is done. -/
inductive WorkerOutcome where
  | returned
  | cancelled
  | interrupted
  | invalidState
  | valueError
  deriving DecidableEq

inductive WorkerPhase where
  | notStarted
  | waiting
  | executing (index : Nat)
  | done (outcome : WorkerOutcome)
  deriving DecidableEq

/-- A worker task.  `cancelling` counts the requests to cancel it; a request is
delivered at the task's next suspension point. -/
structure WorkerTask where
  phase : WorkerPhase
  cancelling : Nat
  mustCancel : Bool
  deriving DecidableEq

/-- The task is not done. -/
def WorkerTask.isLive (worker : WorkerTask) : Bool :=
  match worker.phase with
  | .done _ => false
  | _ => true

/-- The queue, its workers and its jobs.  `started` lists the jobs whose
operations were started, in order. -/
structure WriterState (Value Failure : Type) where
  queue : List QueuedItem
  unfinishedTasks : Nat
  workers : List WorkerTask
  workerTask : Option Nat
  jobs : List (WriteJob Value Failure)
  started : List Nat
  deriving DecidableEq

variable {Value Failure : Type}

namespace WriteJob

/-- A job whose caller waits for it. -/
def fresh : WriteJob Value Failure :=
  ⟨.pending, none, false⟩

/-- The caller of a waiting job is cancelled. -/
def cancelCaller (job : WriteJob Value Failure) : WriteJob Value Failure :=
  match job.completion with
  | .pending => { job with completion := .cancelled, callerCancelled := true }
  | _ => job

/-- Reject the job unless its completion is done. -/
def reject (job : WriteJob Value Failure) : WriteJob Value Failure :=
  match job.completion with
  | .pending =>
      { job with
        completion := .closedError "Writer queue worker crashed or stopped." }
  | _ => job

/-- Set the completion unless it was cancelled.  A future that is done
otherwise cannot be set. -/
def settle (job : WriteJob Value Failure)
    (completion : Completion Value Failure) :
    Except WorkerOutcome (Completion Value Failure) :=
  match job.completion with
  | .pending => .ok completion
  | .cancelled => .ok .cancelled
  | _ => .error .invalidState

/-- `_execute_queued_job` from the end of the operation on: the completion of
the job, or what the worker stops with. -/
def executeQueuedJob (job : WriteJob Value Failure) (cancelling : Nat) :
    OperationEnd Value Failure →
      Except WorkerOutcome (Completion Value Failure)
  | .interrupted => .error .interrupted
  | .cancelled =>
      if 0 < cancelling then .error .cancelled else job.settle .cancelledError
  | .raised failure => job.settle (.exception failure)
  | .returned value => job.settle (.result value)

end WriteJob

namespace WriterState

variable (state : WriterState Value Failure)

def initial : WriterState Value Failure :=
  ⟨[], 0, [], none, [], []⟩

/-- The queued jobs in order. -/
def queuedJobs : List Nat :=
  state.queue.filterMap QueuedItem.job?

def setWorker (index : Nat) (task : WorkerTask) : WriterState Value Failure :=
  { state with workers := state.workers.set index task }

def setJob (index : Nat) (job : WriteJob Value Failure) :
    WriterState Value Failure :=
  { state with jobs := state.jobs.set index job }

/-- There is a worker and its task is not done. -/
def hasLiveWorker : Bool :=
  (state.workerTask.bind fun index => state.workers[index]?).any
    WorkerTask.isLive

/-- `_ensure_worker_locked`. -/
def ensureWorkerLocked : WriterState Value Failure :=
  if state.hasLiveWorker then state
  else
    { state with
      workers := state.workers ++ [⟨.notStarted, 0, false⟩]
      workerTask := some state.workers.length }

def put (item : QueuedItem) : WriterState Value Failure :=
  { state with
    queue := state.queue ++ [item]
    unfinishedTasks := state.unfinishedTasks + 1 }

/-- `submit` within the lifecycle lock, when the queue is not closed. -/
def acceptJob : WriterState Value Failure :=
  let ready := state.ensureWorkerLocked
  { ready.put (.job ready.jobs.length) with jobs := ready.jobs ++ [.fresh] }

/-- The caller of an accepted job is cancelled. -/
def cancelCaller (index : Nat) : WriterState Value Failure :=
  { state with jobs := state.jobs.modify index .cancelCaller }

/-- `Task.cancel` on a worker; a task that is done ignores it. -/
def cancelWorker (index : Nat) : WriterState Value Failure :=
  match state.workers[index]? with
  | none => state
  | some task =>
      if task.isLive then
        state.setWorker index
          { task with
            cancelling := task.cancelling + 1
            mustCancel := true }
      else state

end WriterState

/-- What the rejection of the queued jobs leaves behind. -/
structure Drained (Value Failure : Type) where
  queue : List QueuedItem
  unfinishedTasks : Nat
  jobs : List (WriteJob Value Failure)
  failed : Bool

/-- Reject a queued job. -/
def QueuedItem.rejectIn (jobs : List (WriteJob Value Failure)) :
    QueuedItem → List (WriteJob Value Failure)
  | .job index => jobs.modify index .reject
  | .stop => jobs

/-- The loop that rejects the queued jobs when a worker stops.  A superfluous
`task_done` raises and leaves the loop. -/
def drain : List QueuedItem → Nat → List (WriteJob Value Failure) →
    Drained Value Failure
  | [], unfinished, jobs => ⟨[], unfinished, jobs, false⟩
  | item :: items, 0, jobs => ⟨items, 0, item.rejectIn jobs, true⟩
  | item :: items, unfinished + 1, jobs =>
      drain items unfinished (item.rejectIn jobs)

namespace WriterState

variable (state : WriterState Value Failure)

/-- The rejection of the job that the worker was executing.  The error of a
superfluous `task_done` is swallowed here. -/
def rejectCurrent (index : Nat) (job : WriteJob Value Failure) :
    WriterState Value Failure :=
  match job.completion with
  | .pending =>
      { state.setJob index job.reject with
        unfinishedTasks := state.unfinishedTasks - 1 }
  | _ => state.setJob index job

/-- The rejection of all queued jobs, after which the worker is done. -/
def drainQueue (worker : Nat) (task : WorkerTask) (outcome : WorkerOutcome) :
    WriterState Value Failure :=
  let drained := drain state.queue state.unfinishedTasks state.jobs
  { state.setWorker worker
      { task with
        phase := .done (if drained.failed then .valueError else outcome) } with
    queue := drained.queue
    unfinishedTasks := drained.unfinishedTasks
    jobs := drained.jobs }

/-- The worker takes the next entry of the queue. -/
def takeNext (worker : Nat) (task : WorkerTask) : WriterState Value Failure :=
  match state.queue with
  | [] => state
  | .job index :: items =>
      { state.setWorker worker { task with phase := .executing index } with
        queue := items
        started := state.started ++ [index] }
  | .stop :: items =>
      let taken := { state with queue := items }
      match state.unfinishedTasks with
      | 0 => taken.drainQueue worker task .valueError
      | unfinished + 1 =>
          drainQueue { taken with unfinishedTasks := unfinished } worker task
            .returned

/-- The operation of the worker's job ends.  `absorbed` tells whether it has
received a cancellation that was still to be delivered. -/
def endOperation (worker : Nat) (task : WorkerTask) (index : Nat)
    (ending : OperationEnd Value Failure) (absorbed : Bool) :
    WriterState Value Failure :=
  match state.jobs[index]? with
  | none => state
  | some job =>
      match job.executeQueuedJob task.cancelling ending with
      | .error outcome =>
          (state.rejectCurrent index { job with ended := some ending }).drainQueue
            worker task outcome
      | .ok completion =>
          let settled := state.setJob index
            { job with ended := some ending, completion := completion }
          match state.unfinishedTasks with
          | 0 => settled.drainQueue worker task .valueError
          | unfinished + 1 =>
              { settled.setWorker worker
                  { task with
                    phase := .waiting
                    mustCancel := task.mustCancel && !absorbed } with
                unfinishedTasks := unfinished }

/-- The worker runs until it is suspended again.  A task that is cancelled
before its first step never enters `_run_worker`. -/
def turn (worker : Nat) (ending : OperationEnd Value Failure)
    (absorbed : Bool) : WriterState Value Failure :=
  match state.workers[worker]? with
  | none => state
  | some task =>
      match task.phase with
      | .notStarted =>
          state.setWorker worker
            { task with
              phase := if task.mustCancel then .done .cancelled else .waiting }
      | .waiting =>
          if task.mustCancel then state.drainQueue worker task .cancelled
          else state.takeNext worker task
      | .executing index =>
          state.endOperation worker task index ending absorbed
      | .done _ => state

end WriterState

/-- A call of `submit`.  An accepted call waits for the completion of its
job. -/
inductive SubmitCall where
  | waiting
  | accepted (index : Nat)
  | refused (message : String)
  | cancelled
  deriving DecidableEq

inductive ClosePhase where
  | waiting
  | awaiting (worker : Nat)
  | returned
  | raised
  deriving DecidableEq

/-- A call of `close` and the number of jobs accepted before it. -/
structure CloseCall where
  acceptedBefore : Nat
  phase : ClosePhase
  deriving DecidableEq

/-- The writer queue with the calls made so far. -/
structure WriterQueue (Value Failure : Type) extends
    WriterState Value Failure where
  closed : Bool
  submits : List SubmitCall
  closes : List CloseCall
  deriving DecidableEq

/-- What the event loop may do next.  A call first waits for the lifecycle
lock. -/
inductive QueueEvent (Value Failure : Type) where
  | submit
  | acquireSubmit (call : Nat)
  | cancelSubmit (call : Nat)
  | close
  | acquireClose (call : Nat)
  | resumeClose (call : Nat)
  | cancelClose (call : Nat)
  | cancelWorker (worker : Nat)
  | turn (worker : Nat) (ending : OperationEnd Value Failure) (absorbed : Bool)
  deriving DecidableEq

namespace WriterQueue

variable (queue : WriterQueue Value Failure)

/-- `WriterQueue.__init__`. -/
def initial : WriterQueue Value Failure :=
  ⟨.initial, false, [], []⟩

def setSubmit (call : Nat) (submit : SubmitCall) : WriterQueue Value Failure :=
  { queue with submits := queue.submits.set call submit }

def setClose (call : Nat) (phase : ClosePhase) : WriterQueue Value Failure :=
  { queue with
    closes := queue.closes.modify call fun close => { close with phase := phase } }

/-- Change the queue, its workers or its jobs. -/
def change (state : WriterState Value Failure) : WriterQueue Value Failure :=
  { queue with toWriterState := state }

/-- `submit` once it holds the lock. -/
def acquireSubmit (call : Nat) : WriterQueue Value Failure :=
  if queue.closed then
    queue.setSubmit call
      (.refused "Writer queue is closed and cannot accept new jobs.")
  else
    (queue.change queue.acceptJob).setSubmit call (.accepted queue.jobs.length)

/-- `close` once it holds the lock. -/
def acquireClose (call : Nat) : WriterQueue Value Failure :=
  if queue.closed then queue.setClose call .returned
  else
    let closing := { queue with closed := true }
    match queue.workerTask with
    | none => closing.setClose call .returned
    | some worker =>
        (closing.change (closing.put .stop)).setClose call (.awaiting worker)

/-- `close` when the worker that it awaits is done. -/
def resumeClose (call : Nat) (outcome : WorkerOutcome) :
    WriterQueue Value Failure :=
  if outcome = .returned then
    (queue.change { queue.toWriterState with workerTask := none }).setClose call
      .returned
  else queue.setClose call .raised

/-- The outcome of a worker that is done. -/
def outcome? (worker : Nat) : Option WorkerOutcome :=
  match (queue.workers[worker]?).map WorkerTask.phase with
  | some (.done outcome) => some outcome
  | _ => none

def step : QueueEvent Value Failure → WriterQueue Value Failure →
    WriterQueue Value Failure
  | .submit, queue => { queue with submits := queue.submits ++ [.waiting] }
  | .acquireSubmit call, queue =>
      match queue.submits[call]? with
      | some .waiting => queue.acquireSubmit call
      | _ => queue
  | .cancelSubmit call, queue =>
      match queue.submits[call]? with
      | some .waiting => queue.setSubmit call .cancelled
      | some (.accepted index) => queue.change (queue.cancelCaller index)
      | _ => queue
  | .close, queue =>
      { queue with
        closes := queue.closes ++ [⟨queue.jobs.length, .waiting⟩] }
  | .acquireClose call, queue =>
      match (queue.closes[call]?).map CloseCall.phase with
      | some .waiting => queue.acquireClose call
      | _ => queue
  | .resumeClose call, queue =>
      match (queue.closes[call]?).map CloseCall.phase with
      | some (.awaiting worker) =>
          match queue.outcome? worker with
          | some outcome => queue.resumeClose call outcome
          | none => queue
      | _ => queue
  | .cancelClose call, queue =>
      match (queue.closes[call]?).map CloseCall.phase with
      | some .waiting => queue.setClose call .raised
      | some (.awaiting worker) =>
          -- cancelling a task cancels the task that it awaits
          match queue.outcome? worker with
          | some _ => queue.setClose call .raised
          | none => queue.change (queue.cancelWorker worker)
      | _ => queue
  | .cancelWorker worker, queue => queue.change (queue.cancelWorker worker)
  | .turn worker ending absorbed, queue =>
      queue.change (queue.turn worker ending absorbed)

end WriterQueue

end Tca
