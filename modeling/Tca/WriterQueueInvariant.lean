import Tca.WriterQueue

/-!
# What the writer queue keeps

At most one worker is live, it executes the jobs in the order in which they
were accepted, and every job without a completion is queued or being executed.
The file states these facts as one invariant and shows that every change of the
queue keeps it.
-/

namespace Tca

variable {Value Failure : Type}

namespace WriteJob

variable {job : WriteJob Value Failure}

/-- The operation has not returned and has not raised an exception of its
own. -/
def IsUnanswered (job : WriteJob Value Failure) : Prop :=
  job.ended = none ∨ job.ended = some .cancelled ∨
    job.ended = some .interrupted

/-- The completion agrees with how the operation ended and with what happened to
the caller. -/
def Consistent (job : WriteJob Value Failure) : Prop :=
  match job.completion with
  | .pending => job.IsUnanswered
  | .result value => job.ended = some (.returned value)
  | .exception failure => job.ended = some (.raised failure)
  | .cancelledError => job.ended = some .cancelled
  | .closedError _ => job.IsUnanswered
  | .cancelled => job.callerCancelled = true

/-- The operation has not ended, and the completion is pending or was cancelled
by the caller. -/
def IsOpen (job : WriteJob Value Failure) : Prop :=
  job.ended = none ∧
    (job.completion = .pending ∨ job.completion = .cancelled)

theorem isOpen_fresh : (fresh : WriteJob Value Failure).IsOpen :=
  ⟨rfl, .inl rfl⟩

theorem consistent_fresh : (fresh : WriteJob Value Failure).Consistent :=
  .inl rfl

theorem Consistent.reject (consistent : job.Consistent) :
    job.reject.Consistent := by
  unfold WriteJob.reject
  split
  · rename_i pending
    simpa [Consistent, IsUnanswered, pending] using consistent
  · exact consistent

theorem reject_completion_ne_pending : job.reject.completion ≠ .pending := by
  unfold reject
  split
  · simp
  · assumption

theorem reject_of_ne_pending (resolved : job.completion ≠ .pending) :
    job.reject = job := by
  unfold reject
  split
  · contradiction
  · rfl

@[simp]
theorem reject_reject : job.reject.reject = job.reject :=
  reject_of_ne_pending reject_completion_ne_pending

@[simp]
theorem reject_ended : job.reject.ended = job.ended := by
  unfold reject
  split <;> rfl

theorem Consistent.cancelCaller (consistent : job.Consistent) :
    job.cancelCaller.Consistent := by
  unfold WriteJob.cancelCaller
  split
  · rfl
  · exact consistent

theorem cancelCaller_of_ne_pending (resolved : job.completion ≠ .pending) :
    job.cancelCaller = job := by
  unfold cancelCaller
  split
  · contradiction
  · rfl

theorem cancelCaller_completion_ne_pending :
    job.cancelCaller.completion ≠ .pending := by
  unfold cancelCaller
  split
  · simp
  · assumption

@[simp]
theorem cancelCaller_ended : job.cancelCaller.ended = job.ended := by
  unfold cancelCaller
  split <;> rfl

theorem IsOpen.cancelCaller (isOpen : job.IsOpen) : job.cancelCaller.IsOpen := by
  obtain ⟨notEnded, pending | cancelled⟩ := isOpen
  · exact ⟨by rwa [cancelCaller_ended], .inr (by simp [WriteJob.cancelCaller, pending])⟩
  · rw [cancelCaller_of_ne_pending (by simp [cancelled])]
    exact ⟨notEnded, .inr cancelled⟩

theorem settle_eq_ok {completion settled : Completion Value Failure}
    (set : job.settle completion = .ok settled) :
    job.completion = .pending ∧ settled = completion ∨
      job.completion = .cancelled ∧ settled = .cancelled := by
  unfold settle at set
  split at set
  · exact .inl ⟨by assumption, (Except.ok.inj set).symm⟩
  · exact .inr ⟨by assumption, (Except.ok.inj set).symm⟩
  · cases set

/-- A completion that is set agrees with the end of the operation. -/
theorem consistent_settled {completion settled : Completion Value Failure}
    {ending : OperationEnd Value Failure} (consistent : job.Consistent)
    (set : job.settle completion = .ok settled)
    (agrees : { job with
      ended := some ending, completion := completion }.Consistent) :
    { job with ended := some ending, completion := settled }.Consistent := by
  rcases settle_eq_ok set with ⟨-, rfl⟩ | ⟨cancelled, rfl⟩
  · exact agrees
  · simpa [Consistent, cancelled] using consistent

/-- The end of an operation that settles its job. -/
theorem executeQueuedJob_ok {cancelling : Nat}
    {ending : OperationEnd Value Failure}
    {completion : Completion Value Failure} (consistent : job.Consistent)
    (settled : job.executeQueuedJob cancelling ending = .ok completion) :
    completion ≠ .pending ∧
      (job.completion ≠ .pending → completion = job.completion) ∧
      { job with ended := some ending, completion := completion }.Consistent := by
  have spec : ∃ proposed, proposed ≠ .pending ∧
      job.settle proposed = .ok completion ∧
      { job with
        ended := some ending, completion := proposed }.Consistent := by
    cases ending with
    | returned value => exact ⟨_, by simp, settled, rfl⟩
    | raised failure => exact ⟨_, by simp, settled, rfl⟩
    | cancelled =>
        simp only [executeQueuedJob] at settled
        split at settled
        · cases settled
        · exact ⟨_, by simp, settled, rfl⟩
    | interrupted => cases settled
  obtain ⟨proposed, notPending, set, agrees⟩ := spec
  refine ⟨?_, ?_, consistent_settled consistent set agrees⟩
  · rcases settle_eq_ok set with ⟨-, rfl⟩ | ⟨-, rfl⟩
    · exact notPending
    · simp
  · intro resolved
    rcases settle_eq_ok set with ⟨pending, -⟩ | ⟨cancelled, rfl⟩
    · contradiction
    · exact cancelled.symm

/-- The end of an operation that stops the worker. -/
theorem executeQueuedJob_error {cancelling : Nat}
    {ending : OperationEnd Value Failure} {outcome : WorkerOutcome}
    (consistent : job.Consistent) (isOpen : job.IsOpen)
    (stops : job.executeQueuedJob cancelling ending = .error outcome) :
    { job with ended := some ending }.Consistent := by
  obtain ⟨-, pending | cancelled⟩ := isOpen
  · cases ending with
    | returned value => simp [executeQueuedJob, settle, pending] at stops
    | raised failure => simp [executeQueuedJob, settle, pending] at stops
    | cancelled => simp [Consistent, IsUnanswered, pending]
    | interrupted => simp [Consistent, IsUnanswered, pending]
  · simpa [Consistent, cancelled] using consistent

end WriteJob

/-- Reject all queued jobs. -/
def rejectAll (items : List QueuedItem) (jobs : List (WriteJob Value Failure)) :
    List (WriteJob Value Failure) :=
  items.foldl QueuedItem.rejectIn jobs

theorem rejectAll_cons (item : QueuedItem) (items : List QueuedItem)
    (jobs : List (WriteJob Value Failure)) :
    rejectAll (item :: items) jobs = rejectAll items (item.rejectIn jobs) :=
  rfl

section Drain

variable {items : List QueuedItem} {jobs : List (WriteJob Value Failure)}

/-- The loop rejects every queued job if each has been counted. -/
theorem drain_eq {unfinished : Nat} (counted : items.length ≤ unfinished) :
    drain items unfinished jobs =
      ⟨[], unfinished - items.length, rejectAll items jobs, false⟩ := by
  induction items generalizing unfinished jobs with
  | nil => rfl
  | cons item items ih =>
      cases unfinished with
      | zero => simp at counted
      | succ unfinished =>
          have countedRest : items.length ≤ unfinished := by simpa using counted
          rw [drain, ih countedRest, rejectAll_cons, List.length_cons,
            Nat.succ_sub_succ]

/-- A rejection changes the queued jobs only. -/
theorem getElem?_rejectAll (index : Nat) :
    (rejectAll items jobs)[index]? =
      if index ∈ items.filterMap QueuedItem.job? then
        (jobs[index]?).map WriteJob.reject
      else jobs[index]? := by
  induction items generalizing jobs with
  | nil => rfl
  | cons item items ih =>
      rw [rejectAll_cons, ih]
      cases item with
      | stop => simp [QueuedItem.rejectIn, QueuedItem.job?]
      | job first =>
          by_cases own : first = index
          · subst own
            by_cases again : first ∈ items.filterMap QueuedItem.job?
            · simp [QueuedItem.rejectIn, QueuedItem.job?, again,
                Function.comp_def]
            · simp [QueuedItem.rejectIn, QueuedItem.job?, again]
          · have other : index ≠ first := fun same => own same.symm
            simp [QueuedItem.rejectIn, QueuedItem.job?, own, other]

@[simp]
theorem length_rejectAll : (rejectAll items jobs).length = jobs.length := by
  induction items generalizing jobs with
  | nil => rfl
  | cons item items ih =>
      rw [rejectAll_cons, ih]
      cases item with
      | stop => rfl
      | job index => simp [QueuedItem.rejectIn]

end Drain

namespace WriterState

variable {state : WriterState Value Failure}

/-- A worker is executing the operation of the job. -/
def Executes (state : WriterState Value Failure) (index : Nat) : Prop :=
  ∃ task ∈ state.workers, task.phase = .executing index

/-- Only the current worker can be live. -/
def OnlyCurrentLive (state : WriterState Value Failure) : Prop :=
  ∀ worker task, state.workers[worker]? = some task → task.isLive →
    state.workerTask = some worker

/-- The invariant of the writer queue. -/
structure Coherent (state : WriterState Value Failure) : Prop where
  ordered : (state.started ++ state.queuedJobs).Pairwise (· < ·)
  accepted : ∀ index ∈ state.started ++ state.queuedJobs,
    index < state.jobs.length
  consistent : ∀ job ∈ state.jobs, job.Consistent
  onlyCurrentLive : state.OnlyCurrentLive
  executing : ∀ index, state.Executes index → index ∈ state.started
  isOpen : ∀ index job, state.jobs[index]? = some job →
    index ∈ state.queuedJobs ∨ state.Executes index → job.IsOpen
  located : ∀ index job, state.jobs[index]? = some job →
    job.completion = .pending →
    index ∈ state.queuedJobs ∨ state.Executes index
  running : ∀ index job, state.jobs[index]? = some job →
    index ∈ state.started → job.ended = none → state.Executes index
  counted : state.queue.length ≤ state.unfinishedTasks
  countedExecuting : ∀ index, state.Executes index →
    state.queue.length < state.unfinishedTasks

theorem coherent_initial :
    (WriterState.initial : WriterState Value Failure).Coherent where
  ordered := .nil
  accepted := by simp [initial, queuedJobs]
  consistent := by simp [initial]
  onlyCurrentLive := by simp [OnlyCurrentLive, initial]
  executing := by simp [Executes, initial]
  isOpen := by simp [initial]
  located := by simp [initial]
  running := by simp [initial]
  counted := Nat.le_refl 0
  countedExecuting := by simp [Executes, initial]

section OneWorker

variable {worker : Nat} {task next : WorkerTask}

/-- After a live worker has moved on, it alone decides what live workers do. -/
theorem exists_mem_set_iff (only : state.OnlyCurrentLive)
    (found : state.workers[worker]? = some task) (live : task.isLive)
    {property : WorkerTask → Prop}
    (isLive : ∀ other, property other → other.isLive) :
    (∃ other ∈ state.workers.set worker next, property other) ↔
      property next := by
  have inRange := (List.getElem?_eq_some_iff.mp found).1
  constructor
  · rintro ⟨other, member, holds⟩
    obtain ⟨position, foundOther⟩ := List.mem_iff_getElem?.mp member
    by_cases same : worker = position
    · subst same
      rw [List.getElem?_set_self inRange] at foundOther
      rwa [Option.some.inj foundOther]
    · rw [List.getElem?_set_ne same] at foundOther
      have current := only worker task found live
      have otherCurrent := only position other foundOther (isLive other holds)
      exact absurd (Option.some.inj (current.symm.trans otherCurrent)) same
  · intro holds
    exact ⟨next, List.mem_set inRange next, holds⟩

theorem executes_iff (only : state.OnlyCurrentLive)
    (found : state.workers[worker]? = some task) (live : task.isLive)
    {index : Nat} :
    state.Executes index ↔ task.phase = .executing index := by
  have unchanged : state.workers.set worker task = state.workers := by
    obtain ⟨inRange, rfl⟩ := List.getElem?_eq_some_iff.mp found
    exact List.set_getElem_self inRange
  have decided : (∃ other ∈ state.workers.set worker task,
      other.phase = .executing index) ↔ task.phase = .executing index :=
    exists_mem_set_iff only found live
      (fun other executes => by simp [WorkerTask.isLive, executes])
  rwa [unchanged] at decided

theorem executes_setWorker_iff (only : state.OnlyCurrentLive)
    (found : state.workers[worker]? = some task) (live : task.isLive)
    {index : Nat} :
    (state.setWorker worker next).Executes index ↔
      next.phase = .executing index :=
  exists_mem_set_iff only found live
    (fun other executes => by simp [WorkerTask.isLive, executes])

theorem OnlyCurrentLive.setWorker (only : state.OnlyCurrentLive)
    (found : state.workers[worker]? = some task) (live : task.isLive) :
    (state.setWorker worker next).OnlyCurrentLive := by
  intro position other foundOther otherLive
  by_cases same : worker = position
  · subst same
    exact only worker task found live
  · have unchanged : state.workers[position]? = some other := by
      simpa [WriterState.setWorker, List.getElem?_set_ne same] using foundOther
    exact only position other unchanged otherLive

end OneWorker

section Changes

variable {worker : Nat} {task next : WorkerTask}

/-- A change of the workers after which the same jobs are executed. -/
theorem Coherent.withWorkers (coherent : state.Coherent)
    {workers : List WorkerTask} {workerTask : Option Nat}
    (only : OnlyCurrentLive
      { state with workers := workers, workerTask := workerTask })
    (sameExecutes : ∀ index, (∃ task ∈ workers,
      task.phase = .executing index) ↔ state.Executes index) :
    ({ state with
      workers := workers
      workerTask := workerTask } : WriterState Value Failure).Coherent where
  ordered := coherent.ordered
  accepted := coherent.accepted
  consistent := coherent.consistent
  onlyCurrentLive := only
  executing index executes :=
    coherent.executing index ((sameExecutes index).mp executes)
  isOpen index job stored place :=
    coherent.isOpen index job stored (place.imp_right (sameExecutes index).mp)
  located index job stored pending :=
    (coherent.located index job stored pending).imp_right
      (sameExecutes index).mpr
  running index job stored isStarted notEnded :=
    (sameExecutes index).mpr
      (coherent.running index job stored isStarted notEnded)
  counted := coherent.counted
  countedExecuting index executes :=
    coherent.countedExecuting index ((sameExecutes index).mp executes)

/-- A worker that goes on without starting or ending an operation. -/
theorem Coherent.setWorker (coherent : state.Coherent)
    (found : state.workers[worker]? = some task) (live : task.isLive)
    (sameJob : ∀ index, next.phase = .executing index ↔
      task.phase = .executing index) :
    (state.setWorker worker next).Coherent := by
  have only := coherent.onlyCurrentLive
  refine coherent.withWorkers (only.setWorker found live) fun index => ?_
  rw [exists_mem_set_iff only found live
    (fun other executes => by simp [WorkerTask.isLive, executes]),
    executes_iff only found live]
  exact sameJob index

/-- A cancelled worker keeps its place. -/
theorem Coherent.cancelWorker (coherent : state.Coherent) (worker : Nat) :
    (state.cancelWorker worker).Coherent := by
  unfold WriterState.cancelWorker
  split
  · exact coherent
  · rename_i task found
    split
    · rename_i live
      exact coherent.setWorker found live fun _ => Iff.rfl
    · exact coherent

/-- A new worker starts out with the jobs that are queued. -/
theorem Coherent.ensureWorkerLocked (coherent : state.Coherent) :
    state.ensureWorkerLocked.Coherent := by
  unfold WriterState.ensureWorkerLocked
  split
  · exact coherent
  · rename_i noLive
    refine coherent.withWorkers ?_ (by simp [Executes])
    intro position other found live
    rcases Nat.lt_trichotomy position state.workers.length with
      earlier | rfl | later
    · rw [List.getElem?_append_left earlier] at found
      have current := coherent.onlyCurrentLive position other found live
      exact absurd (by simp [hasLiveWorker, current, found, live]) noLive
    · rfl
    · rw [List.getElem?_eq_none (by simp; omega)] at found
      cases found

/-- The current worker may be forgotten once it is done. -/
theorem Coherent.forgetWorker (coherent : state.Coherent)
    (noneLive : ∀ task ∈ state.workers, task.isLive = false) :
    ({ state with workerTask := none } :
      WriterState Value Failure).Coherent := by
  refine coherent.withWorkers ?_ fun _ => Iff.rfl
  intro position other found live
  rw [noneLive other (List.mem_of_getElem? found)] at live
  cases live

/-- A sentinel counts as a task but not as a job. -/
theorem Coherent.putStop (coherent : state.Coherent) :
    (state.put .stop).Coherent := by
  have sameQueued : (state.put .stop).queuedJobs = state.queuedJobs := by
    simp [queuedJobs, put, QueuedItem.job?]
  exact
    { ordered := by rw [sameQueued]; exact coherent.ordered
      accepted := by rw [sameQueued]; exact coherent.accepted
      consistent := coherent.consistent
      onlyCurrentLive := coherent.onlyCurrentLive
      executing := coherent.executing
      isOpen := by rw [sameQueued]; exact coherent.isOpen
      located := by rw [sameQueued]; exact coherent.located
      running := coherent.running
      counted := by simpa [put] using coherent.counted
      countedExecuting := fun index executes => by
        simpa [put] using coherent.countedExecuting index executes }

/-- A new job goes to the end of the queue. -/
theorem Coherent.enqueue (coherent : state.Coherent) :
    ({ state.put (.job state.jobs.length) with
      jobs := state.jobs ++ [.fresh] } : WriterState Value Failure).Coherent := by
  have newQueued : (state.put (.job state.jobs.length)).queuedJobs =
      state.queuedJobs ++ [state.jobs.length] := by
    simp [queuedJobs, put, QueuedItem.job?]
  have oldOrNew : ∀ {index : Nat} {job : WriteJob Value Failure},
      (state.jobs ++ [.fresh])[index]? = some job →
      state.jobs[index]? = some job ∨
        index = state.jobs.length ∧ job = .fresh := by
    intro index job stored
    rcases Nat.lt_trichotomy index state.jobs.length with
      earlier | rfl | later
    · exact .inl (by rwa [List.getElem?_append_left earlier] at stored)
    · exact .inr ⟨rfl, by simpa using stored.symm⟩
    · rw [List.getElem?_eq_none (by simp; omega)] at stored
      cases stored
  have newPlace : ∀ {index}, index ∈ state.queuedJobs ∨ state.Executes index →
      index < state.jobs.length := by
    intro index place
    rcases place with queued | executes
    · exact coherent.accepted index (List.mem_append_right _ queued)
    · exact coherent.accepted index
        (List.mem_append_left _ (coherent.executing index executes))
  refine
    { ordered := ?_
      accepted := ?_
      consistent := ?_
      onlyCurrentLive := coherent.onlyCurrentLive
      executing := coherent.executing
      isOpen := ?_
      located := ?_
      running := ?_
      counted := by simpa [put] using coherent.counted
      countedExecuting := fun index executes => by
        simpa [put] using coherent.countedExecuting index executes }
  · change (state.started ++ (state.put _).queuedJobs).Pairwise (· < ·)
    rw [newQueued, ← List.append_assoc]
    refine List.pairwise_append.mpr
      ⟨coherent.ordered, List.pairwise_singleton _ _, ?_⟩
    intro index member newIndex isNew
    rw [List.mem_singleton.mp isNew]
    exact coherent.accepted index member
  · change ∀ index ∈ state.started ++ (state.put _).queuedJobs,
      index < (state.jobs ++ [WriteJob.fresh]).length
    rw [newQueued, ← List.append_assoc, List.length_append]
    intro index member
    rcases List.mem_append.mp member with old | new
    · have := coherent.accepted index old
      omega
    · simp [List.mem_singleton.mp new]
  · intro job member
    rcases List.mem_append.mp member with old | new
    · exact coherent.consistent job old
    · rw [List.mem_singleton.mp new]
      exact WriteJob.consistent_fresh
  · intro index job stored place
    rcases oldOrNew stored with old | ⟨-, rfl⟩
    · have inRange := (List.getElem?_eq_some_iff.mp old).1
      refine coherent.isOpen index job old (place.imp_left fun queued => ?_)
      change index ∈ (state.put _).queuedJobs at queued
      rw [newQueued] at queued
      rcases List.mem_append.mp queued with oldQueued | new
      · exact oldQueued
      · have := List.mem_singleton.mp new
        omega
    · exact WriteJob.isOpen_fresh
  · intro index job stored pending
    change index ∈ (state.put _).queuedJobs ∨ state.Executes index
    rw [newQueued]
    rcases oldOrNew stored with old | ⟨rfl, -⟩
    · exact (coherent.located index job old pending).imp_left
        (List.mem_append_left _)
    · exact .inl (List.mem_append_right _ (List.mem_singleton.mpr rfl))
  · intro index job stored isStarted notEnded
    rcases oldOrNew stored with old | ⟨rfl, -⟩
    · exact coherent.running index job old isStarted notEnded
    · have := coherent.accepted _ (List.mem_append_left _ isStarted)
      omega

/-- `submit` within the lock keeps the invariant. -/
theorem Coherent.acceptJob (coherent : state.Coherent) :
    state.acceptJob.Coherent :=
  coherent.ensureWorkerLocked.enqueue

/-- A cancelled caller leaves its job where it is. -/
theorem Coherent.cancelCaller (coherent : state.Coherent) (index : Nat) :
    (state.cancelCaller index).Coherent := by
  have origin : ∀ {position : Nat} {job : WriteJob Value Failure},
      (state.jobs.modify index .cancelCaller)[position]? = some job →
      ∃ old : WriteJob Value Failure, state.jobs[position]? = some old ∧
        (job = old ∨ job = old.cancelCaller) := by
    intro position job stored
    rw [List.getElem?_modify] at stored
    obtain ⟨old, found, rfl⟩ := Option.map_eq_some_iff.mp stored
    refine ⟨old, found, ?_⟩
    split
    · exact .inr rfl
    · exact .inl rfl
  refine
    { ordered := coherent.ordered
      accepted := by
        simpa [WriterState.cancelCaller, queuedJobs] using coherent.accepted
      consistent := ?_
      onlyCurrentLive := coherent.onlyCurrentLive
      executing := coherent.executing
      isOpen := ?_
      located := ?_
      running := ?_
      counted := coherent.counted
      countedExecuting := coherent.countedExecuting }
  · intro job member
    obtain ⟨position, stored⟩ := List.mem_iff_getElem?.mp member
    obtain ⟨old, found, rfl | rfl⟩ := origin stored
    · exact coherent.consistent _ (List.mem_of_getElem? found)
    · exact (coherent.consistent _ (List.mem_of_getElem? found)).cancelCaller
  · intro position job stored place
    obtain ⟨old, found, rfl | rfl⟩ := origin stored
    · exact coherent.isOpen position _ found place
    · exact (coherent.isOpen position old found place).cancelCaller
  · intro position job stored pending
    obtain ⟨old, found, rfl | rfl⟩ := origin stored
    · exact coherent.located position _ found pending
    · exact absurd pending WriteJob.cancelCaller_completion_ne_pending
  · intro position job stored isStarted notEnded
    obtain ⟨old, found, rfl | rfl⟩ := origin stored
    · exact coherent.running position _ found isStarted notEnded
    · exact coherent.running position old found isStarted
        (by simpa using notEnded)

end Changes

end WriterState

end Tca
