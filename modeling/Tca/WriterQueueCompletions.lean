import Tca.WriterQueueRuns

/-!
# Completions of the accepted jobs

A worker that stops rejects the jobs that are left, unless it was cancelled
before its first step.  The file says exactly when a stopped worker leaves no
job behind, and bounds the number of turns after which a job has its completion.
-/

namespace Tca

open GuardedRuns

variable {Value Failure : Type}

namespace WriterState

variable {state : WriterState Value Failure}

/-- When no worker is live, every accepted job has its completion. -/
def NothingLeft (state : WriterState Value Failure) : Prop :=
  (∀ task ∈ state.workers, task.isLive = false) →
    ∀ job ∈ state.jobs, job.completion ≠ .pending

/-- The worker has been cancelled before its first step. -/
def NeverStarts (state : WriterState Value Failure) (worker : Nat) : Prop :=
  ∃ task ∈ state.workers[worker]?, task.phase = .notStarted ∧ task.mustCancel

instance (worker : Nat) : Decidable (state.NeverStarts worker) :=
  inferInstanceAs (Decidable (∃ task ∈ state.workers[worker]?, _))

/-- A queued job waits for its completion. -/
def HasWaiting (state : WriterState Value Failure) : Prop :=
  ∃ index ∈ state.queuedJobs, ∃ job ∈ state.jobs[index]?,
    job.completion = .pending

instance [DecidableEq Value] [DecidableEq Failure] :
    Decidable state.HasWaiting :=
  inferInstanceAs (Decidable (∃ index ∈ state.queuedJobs, _))

theorem not_neverStarts {worker : Nat} {task : WorkerTask}
    (found : state.workers[worker]? = some task)
    (hasStarted : task.phase ≠ .notStarted) : ¬ state.NeverStarts worker := by
  rintro ⟨other, foundOther, notStarted, -⟩
  rw [found] at foundOther
  cases foundOther
  exact hasStarted notStarted

theorem nothingLeft_of_liveAt {worker : Nat} (live : state.LiveAt worker) :
    state.NothingLeft := by
  intro noneLive
  obtain ⟨task, found, taskLive⟩ := live
  rw [noneLive task (List.mem_of_getElem? found)] at taskLive
  cases taskLive

theorem liveAt_setWorker {worker : Nat} {task next : WorkerTask}
    (found : state.workers[worker]? = some task) (live : next.isLive) :
    (state.setWorker worker next).LiveAt worker := by
  have inRange := (List.getElem?_eq_some_iff.mp found).1
  exact ⟨next, List.getElem?_set_self inRange, live⟩

/-- Accepting a job leaves a live worker. -/
theorem exists_liveAt_acceptJob (state : WriterState Value Failure) :
    ∃ worker, state.acceptJob.LiveAt worker := by
  suffices ready : ∃ worker, state.ensureWorkerLocked.LiveAt worker from ready
  unfold ensureWorkerLocked
  split
  · rename_i live
    obtain ⟨task, found, taskLive⟩ := (Option.any_eq_true _ _).mp live
    obtain ⟨worker, -, stored⟩ := Option.bind_eq_some_iff.mp found
    exact ⟨worker, task, stored, taskLive⟩
  · exact ⟨state.workers.length, ⟨.notStarted, 0, false⟩, by simp, rfl⟩

/-- A turn leaves nothing behind exactly if it is not the first and last turn of
a cancelled worker with jobs in the queue. -/
theorem nothingLeft_turn_iff {worker : Nat} {later : WriterState Value Failure}
    (coherent : state.Coherent) (holds : state.NothingLeft)
    (effect : TurnEffect state worker later) :
    later.NothingLeft ↔ (state.NeverStarts worker → ¬ state.HasWaiting) := by
  cases effect with
  | rests nothing =>
      refine iff_of_true holds ?_
      rintro ⟨task, found, notStarted, -⟩
      have live : task.isLive := by simp [WorkerTask.isLive, notStarted]
      have waiting := (nothing task found live).1
      rw [notStarted] at waiting
      cases waiting
  | @neverStarts task found notStarted cancelled =>
      have live : task.isLive := by simp [WorkerTask.isLive, notStarted]
      have between := coherent.betweenJobs found live (by simp [notStarted])
      have noneLive : ∀ other ∈ state.workers.set worker
          { task with phase := .done .cancelled }, other.isLive = false := by
        intro other member
        by_contra otherLive
        have ownLive := (exists_mem_set_iff coherent.onlyCurrentLive found live
          (fun _ isLive => isLive)).mp ⟨other, member, by simpa using otherLive⟩
        cases ownLive
      constructor
      · rintro nothingLeft - ⟨index, -, job, stored, pending⟩
        exact nothingLeft noneLive job (List.mem_of_getElem? stored) pending
      · intro nothingWaits _ job member pending
        obtain ⟨index, stored⟩ := List.mem_iff_getElem?.mp member
        exact nothingWaits ⟨task, found, notStarted, cancelled⟩
          ⟨index, between.located index job stored pending, job, stored,
            pending⟩
  | starts found notStarted notCancelled =>
      refine iff_of_true
        (nothingLeft_of_liveAt (liveAt_setWorker found rfl)) ?_
      rintro ⟨task, foundTask, -, cancelled⟩
      rw [found] at foundTask
      cases foundTask
      simp [notCancelled] at cancelled
  | takes found waiting nextItem =>
      refine iff_of_true
        (nothingLeft_of_liveAt (liveAt_setWorker found rfl)) ?_
      exact fun never =>
        absurd never (not_neverStarts found (by simp [waiting]))
  | settles absorbed found executing resolved between keeps =>
      refine iff_of_true
        (nothingLeft_of_liveAt (liveAt_setWorker found rfl)) ?_
      exact fun never =>
        absurd never (not_neverStarts found (by simp [executing]))
  | stops outcome between hasStarted sameStarted sameWorkers sameTask keeps =>
      refine iff_of_true (fun _ => between.resolved_drainQueue outcome) ?_
      have found := between.found
      rw [sameWorkers] at found
      exact fun never => absurd never (not_neverStarts found hasStarted)

end WriterState

namespace WriterQueue

open WriterState

variable {queue : WriterQueue Value Failure}

/-- No worker that was cancelled before its first step takes its turn while a
queued job waits. -/
def NotLostAtStart : QueueEvent Value Failure → WriterQueue Value Failure →
    Prop
  | .turn worker _ _, queue => queue.NeverStarts worker → ¬ queue.HasWaiting
  | _, _ => True

instance [DecidableEq Value] [DecidableEq Failure] :
    ∀ (event : QueueEvent Value Failure) (queue : WriterQueue Value Failure),
      Decidable (NotLostAtStart event queue)
  | .turn worker _ _, queue =>
      inferInstanceAs (Decidable (queue.NeverStarts worker → ¬ queue.HasWaiting))
  | .submit, _ => .isTrue trivial
  | .acquireSubmit _, _ => .isTrue trivial
  | .cancelSubmit _, _ => .isTrue trivial
  | .close, _ => .isTrue trivial
  | .acquireClose _, _ => .isTrue trivial
  | .resumeClose _, _ => .isTrue trivial
  | .cancelClose _, _ => .isTrue trivial
  | .cancelWorker _, _ => .isTrue trivial

theorem notLostAtStart_of_notTurn {event : QueueEvent Value Failure}
    (notTurn : ∀ worker ending absorbed,
      event ≠ .turn worker ending absorbed) : NotLostAtStart event queue := by
  cases event with
  | turn worker ending absorbed => exact absurd rfl (notTurn _ _ _)
  | _ => trivial

/-- A cancelled worker stays in its phase. -/
theorem cancelWorker_found {worker position : Nat} {task : WorkerTask}
    (found : queue.workers[position]? = some task) :
    ∃ kept, (queue.cancelWorker worker).workers[position]? = some kept ∧
      kept.phase = task.phase := by
  unfold WriterState.cancelWorker
  split
  · exact ⟨task, found, rfl⟩
  · rename_i cancelled foundCancelled
    split
    · by_cases own : worker = position
      · subst own
        rw [foundCancelled] at found
        cases found
        have inRange := (List.getElem?_eq_some_iff.mp foundCancelled).1
        exact ⟨_, List.getElem?_set_self inRange, rfl⟩
      · exact ⟨task, by simpa [setWorker, List.getElem?_set_ne own] using found,
          rfl⟩
    · exact ⟨task, found, rfl⟩

theorem queue_cancelWorker (worker : Nat) :
    (queue.cancelWorker worker).queue = queue.queue := by
  unfold WriterState.cancelWorker
  split
  · rfl
  · split <;> rfl

theorem nothingLeft_cancelWorker (holds : queue.NothingLeft) (worker : Nat) :
    (queue.cancelWorker worker).NothingLeft := by
  intro noneLive
  rw [jobs_cancelWorker]
  refine holds (isLive_eq_false_of_none ?_)
  rintro position ⟨task, found, live⟩
  obtain ⟨kept, foundKept, samePhase⟩ := cancelWorker_found found
  have keptDone := noneLive kept (List.mem_of_getElem? foundKept)
  simp only [WorkerTask.isLive, samePhase] at keptDone live
  simp [keptDone] at live

theorem nothingLeft_cancelCaller (holds : queue.NothingLeft) (index : Nat) :
    (queue.cancelCaller index).NothingLeft := by
  intro noneLive job member
  obtain ⟨position, stored⟩ := List.mem_iff_getElem?.mp member
  simp only [WriterState.cancelCaller, List.getElem?_modify] at stored
  obtain ⟨old, found, rfl⟩ := Option.map_eq_some_iff.mp stored
  split
  · exact WriteJob.cancelCaller_completion_ne_pending
  · exact holds noneLive old (List.mem_of_getElem? found)

/-- Which events leave nothing behind. -/
theorem nothingLeft_step_iff (sound : queue.Sound) (holds : queue.NothingLeft)
    (event : QueueEvent Value Failure) :
    (step event queue).NothingLeft ↔ NotLostAtStart event queue := by
  have change := stateChange_step event queue
  generalize (step event queue).toWriterState = later at change
  cases change with
  | same event notTurn =>
      exact iff_of_true holds (notLostAtStart_of_notTurn notTurn)
  | accepts call notClosed =>
      obtain ⟨worker, live⟩ := exists_liveAt_acceptJob queue.toWriterState
      exact iff_of_true (nothingLeft_of_liveAt live) trivial
  | cancelsCaller call index =>
      exact iff_of_true (nothingLeft_cancelCaller holds index) trivial
  | closes call notClosed closed => exact iff_of_true holds trivial
  | forgets call member awaits returned => exact iff_of_true holds trivial
  | cancelsWorker event worker cancels =>
      refine iff_of_true (nothingLeft_cancelWorker holds worker) ?_
      rcases cancels with rfl | ⟨call, rfl⟩ <;> trivial
  | turns worker ending absorbed =>
      exact nothingLeft_turn_iff sound.coherent holds
        (sound.coherent.turnEffect worker ending absorbed)

end WriterQueue

/-- The turns that a worker needs before it takes the next entry. -/
def WorkerPhase.delay : WorkerPhase → Nat
  | .notStarted => 1
  | .waiting => 0
  | .executing _ => 1
  | .done _ => 0

namespace WriterState

variable {state : WriterState Value Failure} {index turns : Nat}

/-- The job has been accepted and has its completion. -/
def IsResolved (state : WriterState Value Failure) (index : Nat) : Prop :=
  ∃ job, state.jobs[index]? = some job ∧ job.completion ≠ .pending

/-- A live worker executes the job, or will have started it and ended it after
the given number of turns. -/
inductive InProgress (state : WriterState Value Failure) (index : Nat) :
    Nat → Prop
  | executing {worker turns : Nat} {task : WorkerTask}
      (found : state.workers[worker]? = some task)
      (phase : task.phase = .executing index) (enough : 1 ≤ turns) :
      InProgress state index turns
  | queued {worker turns : Nat} {task : WorkerTask}
      {before after : List QueuedItem}
      (found : state.workers[worker]? = some task) (live : task.isLive)
      (split : state.queue = before ++ .job index :: after)
      (enough : 2 * (before.length + 1) + task.phase.delay ≤ turns) :
      InProgress state index turns

/-- The job has its completion after the given number of turns. -/
def ResolvedWithin (state : WriterState Value Failure) (index turns : Nat) :
    Prop :=
  state.IsResolved index ∨ state.InProgress index turns

theorem IsResolved.keep {later : WriterState Value Failure}
    (resolved : state.IsResolved index)
    (keeps : KeepsResolved state.jobs later.jobs) : later.IsResolved index := by
  obtain ⟨job, stored, done⟩ := resolved
  obtain ⟨kept, keptStored, same⟩ := keeps index job stored
  exact ⟨kept, keptStored, by rwa [same done]⟩

theorem InProgress.pos (inProgress : state.InProgress index turns) :
    0 < turns := by
  cases inProgress with
  | executing found phase enough => exact enough
  | queued found live split enough => omega

/-- Work goes on if the workers stay in their phases and entries are only added
at the end of the queue. -/
theorem InProgress.extend {later : WriterState Value Failure}
    (inProgress : state.InProgress index turns)
    (workers : ∀ (worker : Nat) task, state.workers[worker]? = some task →
      ∃ kept, later.workers[worker]? = some kept ∧ kept.phase = task.phase)
    (queue : ∃ added, later.queue = state.queue ++ added) :
    later.InProgress index turns := by
  cases inProgress with
  | executing found phase enough =>
      obtain ⟨kept, foundKept, samePhase⟩ := workers _ _ found
      exact .executing foundKept (samePhase.trans phase) enough
  | @queued worker turns task before after found live split enough =>
      obtain ⟨kept, foundKept, samePhase⟩ := workers worker task found
      obtain ⟨added, appended⟩ := queue
      have keptLive : kept.isLive := by
        simpa only [WorkerTask.isLive, samePhase] using live
      have splitLater : later.queue =
          before ++ .job index :: (after ++ added) := by
        rw [appended, split, List.append_assoc, List.cons_append]
      exact .queued foundKept keptLive splitLater (by rwa [samePhase])

/-- A job without a completion is resolved within two turns for each entry of
the queue and one more. -/
theorem Coherent.resolvedWithin (coherent : state.Coherent)
    (nothingLeft : state.NothingLeft) (accepted : index < state.jobs.length) :
    state.ResolvedWithin index (2 * state.queue.length + 1) := by
  obtain ⟨job, stored⟩ : ∃ job, state.jobs[index]? = some job :=
    ⟨_, List.getElem?_eq_getElem accepted⟩
  by_cases pending : job.completion = .pending
  · right
    rcases coherent.located index job stored pending with queued | executes
    · obtain ⟨task, member, live⟩ : ∃ task ∈ state.workers, task.isLive := by
        by_contra noneLive
        refine nothingLeft (fun task member => ?_) job
          (List.mem_of_getElem? stored) pending
        by_contra live
        exact noneLive ⟨task, member, by simpa using live⟩
      obtain ⟨worker, found⟩ := List.mem_iff_getElem?.mp member
      obtain ⟨item, itemQueued, isJob⟩ := List.mem_filterMap.mp queued
      have sameItem : item = .job index := by
        cases item with
        | job other => simpa [QueuedItem.job?] using isJob
        | stop => cases isJob
      rw [sameItem] at itemQueued
      obtain ⟨before, after, split⟩ := List.append_of_mem itemQueued
      refine .queued found live split ?_
      have short : before.length + 1 ≤ state.queue.length := by
        rw [split, List.length_append, List.length_cons]
        omega
      have delayed : task.phase.delay ≤ 1 := by
        cases task.phase <;> simp [WorkerPhase.delay]
      omega
    · obtain ⟨task, member, phase⟩ := executes
      obtain ⟨worker, found⟩ := List.mem_iff_getElem?.mp member
      exact .executing found phase (by omega)
  · exact .inl ⟨job, stored, pending⟩

theorem InProgress.exists_liveAt (inProgress : state.InProgress index turns) :
    ∃ worker, state.LiveAt worker := by
  cases inProgress with
  | executing found phase enough =>
      exact ⟨_, _, found, by simp [WorkerTask.isLive, phase]⟩
  | queued found live split enough => exact ⟨_, _, found, live⟩

theorem Coherent.ensureWorkerLocked_eq (coherent : state.Coherent)
    {worker : Nat} (live : state.LiveAt worker) :
    state.ensureWorkerLocked = state := by
  obtain ⟨task, found, taskLive⟩ := live
  have current := coherent.onlyCurrentLive worker task found taskLive
  simp [WriterState.ensureWorkerLocked, hasLiveWorker, current, found, taskLive]

/-- Only a live worker can change anything in its turn. -/
theorem TurnEffect.eq_of_not_liveAt {worker : Nat}
    {later : WriterState Value Failure}
    (effect : TurnEffect state worker later)
    (notLive : ¬ state.LiveAt worker) : later = state := by
  cases effect with
  | rests => rfl
  | neverStarts found notStarted cancelled =>
      exact absurd ⟨_, found, by simp [WorkerTask.isLive, notStarted]⟩ notLive
  | starts found notStarted notCancelled =>
      exact absurd ⟨_, found, by simp [WorkerTask.isLive, notStarted]⟩ notLive
  | takes found waiting nextItem =>
      exact absurd ⟨_, found, by simp [WorkerTask.isLive, waiting]⟩ notLive
  | settles absorbed found executing resolved between keeps =>
      exact absurd ⟨_, found, between.live⟩ notLive
  | stops outcome between hasStarted sameStarted sameWorkers sameTask keeps =>
      exact absurd ⟨_, sameWorkers ▸ between.found, between.live⟩ notLive

/-- The live worker stands at the job, or has entries to take before it. -/
theorem InProgress.cases_of_found {worker : Nat} {task : WorkerTask}
    (coherent : state.Coherent) (inProgress : state.InProgress index turns)
    (found : state.workers[worker]? = some task) (live : task.isLive) :
    task.phase = .executing index ∧ 1 ≤ turns ∨
      ∃ before after, state.queue = before ++ .job index :: after ∧
        2 * (before.length + 1) + task.phase.delay ≤ turns := by
  have only := coherent.onlyCurrentLive
  have same : ∀ {other : Nat} {otherTask : WorkerTask},
      state.workers[other]? = some otherTask → otherTask.isLive →
      otherTask = task := by
    intro other otherTask foundOther otherLive
    have current := only worker task found live
    rw [only other otherTask foundOther otherLive] at current
    rw [Option.some.inj current, found] at foundOther
    exact (Option.some.inj foundOther).symm
  cases inProgress with
  | executing foundHere phase enough =>
      rw [same foundHere (by simp [WorkerTask.isLive, phase])] at phase
      exact .inl ⟨phase, enough⟩
  | queued foundHere liveHere split enough =>
      rw [same foundHere liveHere] at enough
      exact .inr ⟨_, _, split, enough⟩

/-- A turn of the live worker brings a job one turn closer to its completion. -/
theorem InProgress.turn {worker : Nat} {later : WriterState Value Failure}
    (coherent : state.Coherent) (inProgress : state.InProgress index turns)
    (started : state.NeverStarts worker → ¬ state.HasWaiting)
    (accepted : index < state.jobs.length) (live : state.LiveAt worker)
    (effect : TurnEffect state worker later) :
    later.ResolvedWithin index (turns - 1) := by
  obtain ⟨task, found, taskLive⟩ := live
  have inRange := (List.getElem?_eq_some_iff.mp found).1
  have place := inProgress.cases_of_found coherent found taskLive
  have keeps := effect.keepsResolved
  obtain ⟨job, stored⟩ : ∃ job, state.jobs[index]? = some job :=
    ⟨_, List.getElem?_eq_getElem accepted⟩
  cases effect with
  | rests nothing =>
      obtain ⟨waiting, empty⟩ := nothing task found taskLive
      rcases place with ⟨executing, -⟩ | ⟨before, after, split, -⟩
      · rw [waiting] at executing
        cases executing
      · simp [empty] at split
  | neverStarts foundHere notStarted cancelled =>
      cases found.symm.trans foundHere
      rcases place with ⟨executing, -⟩ | ⟨before, after, split, -⟩
      · rw [notStarted] at executing
        cases executing
      · refine .inl ⟨job, stored, fun pending => ?_⟩
        refine started ⟨task, found, notStarted, cancelled⟩
          ⟨index, ?_, job, stored, pending⟩
        exact List.mem_filterMap.mpr ⟨.job index, by simp [split], rfl⟩
  | starts foundHere notStarted notCancelled =>
      cases found.symm.trans foundHere
      rcases place with ⟨executing, -⟩ | ⟨before, after, split, enough⟩
      · rw [notStarted] at executing
        cases executing
      · refine .inr (.queued (List.getElem?_set_self inRange) rfl split ?_)
        simp only [notStarted, WorkerPhase.delay] at enough ⊢
        omega
  | @takes _ first items foundHere waiting nextItem =>
      cases found.symm.trans foundHere
      rcases place with ⟨executing, -⟩ | ⟨before, after, split, enough⟩
      · rw [waiting] at executing
        cases executing
      · rw [nextItem] at split
        simp only [waiting, WorkerPhase.delay] at enough
        cases before with
        | nil =>
            have same : first = index := by simpa using (List.cons.inj split).1
            refine .inr (.executing (List.getElem?_set_self inRange) ?_ ?_)
            · rw [same]
            · simp only [List.length_nil] at enough
              omega
        | cons head before =>
            refine .inr (.queued (List.getElem?_set_self inRange) rfl
              (List.cons.inj split).2 ?_)
            simp only [List.length_cons, WorkerPhase.delay] at enough ⊢
            omega
  | @settles _ ended unfinished settled absorbed foundHere executing resolved
      between kept =>
      cases found.symm.trans foundHere
      rcases place with ⟨executingIndex, -⟩ | ⟨before, after, split, enough⟩
      · have same : ended = index :=
          WorkerPhase.executing.inj (executing.symm.trans executingIndex)
        subst same
        exact .inl ⟨settled, List.getElem?_set_self accepted, resolved⟩
      · refine .inr (.queued (List.getElem?_set_self inRange) rfl split ?_)
        simp only [executing, WorkerPhase.delay] at enough ⊢
        omega
  | stops outcome between hasStarted sameStarted sameWorkers sameTask kept =>
      obtain ⟨last, lastStored, -⟩ := keeps index job stored
      exact .inl ⟨last, lastStored, between.resolved_drainQueue outcome last
        (List.mem_of_getElem? lastStored)⟩

end WriterState

namespace WriterQueue

open WriterState

variable {queue : WriterQueue Value Failure}

/-- One for a turn of a live worker. -/
def liveTurn : QueueEvent Value Failure → WriterQueue Value Failure → Nat
  | .turn worker _ _, queue =>
      if (queue.workers[worker]?).any WorkerTask.isLive then 1 else 0
  | _, _ => 0

/-- The number of turns that live workers take in a run. -/
def liveTurns : List (QueueEvent Value Failure) → WriterQueue Value Failure →
    Nat
  | [], _ => 0
  | event :: events, queue =>
      liveTurn event queue + liveTurns events (step event queue)

theorem liveTurn_of_notTurn {event : QueueEvent Value Failure}
    (notTurn : ∀ worker ending absorbed,
      event ≠ .turn worker ending absorbed) : liveTurn event queue = 0 := by
  cases event with
  | turn worker ending absorbed => exact absurd rfl (notTurn _ _ _)
  | _ => rfl

/-- Every event leaves a job at least as close to its completion, and every turn
of a live worker brings it closer. -/
theorem resolvedWithin_step {index turns : Nat} (sound : queue.Sound)
    (within : queue.ResolvedWithin index turns)
    (accepted : index < queue.jobs.length)
    {event : QueueEvent Value Failure} (allowed : NotLostAtStart event queue) :
    (step event queue).ResolvedWithin index (turns - liveTurn event queue) := by
  have change := stateChange_step event queue
  rcases within with resolved | inProgress
  · exact .inl (resolved.keep (change.keepsResolved sound))
  generalize (step event queue).toWriterState = later at change
  have keep : ∀ (worker : Nat) task, queue.workers[worker]? = some task →
      ∃ kept, queue.workers[worker]? = some kept ∧ kept.phase = task.phase :=
    fun _ task found => ⟨task, found, rfl⟩
  cases change with
  | same event notTurn =>
      rw [liveTurn_of_notTurn notTurn]
      exact .inr inProgress
  | accepts call notClosed =>
      obtain ⟨worker, live⟩ := inProgress.exists_liveAt
      have ready := sound.coherent.ensureWorkerLocked_eq live
      refine .inr (inProgress.extend ?_ ⟨[.job queue.jobs.length], ?_⟩)
      · simpa [acceptJob, ready, put] using keep
      · simp [acceptJob, ready, put]
  | cancelsCaller call index =>
      exact .inr (inProgress.extend keep ⟨[], by simp [WriterState.cancelCaller]⟩)
  | closes call notClosed closed => exact .inr (inProgress.extend keep ⟨_, rfl⟩)
  | forgets call member awaits returned =>
      exact .inr (inProgress.extend keep ⟨[], by simp⟩)
  | cancelsWorker event worker cancels =>
      have notCounted : liveTurn event queue = 0 := by
        rcases cancels with rfl | ⟨call, rfl⟩ <;> rfl
      rw [notCounted]
      refine .inr (inProgress.extend (fun _ _ => cancelWorker_found) ⟨[], ?_⟩)
      rw [queue_cancelWorker, List.append_nil]
  | turns worker ending absorbed =>
      have effect := sound.coherent.turnEffect worker ending absorbed
      by_cases live : queue.LiveAt worker
      · have counted : liveTurn (.turn worker ending absorbed) queue = 1 := by
          obtain ⟨task, found, taskLive⟩ := live
          simp [liveTurn, found, taskLive]
        rw [counted]
        exact inProgress.turn sound.coherent allowed accepted live effect
      · have notCounted : liveTurn (.turn worker ending absorbed) queue = 0 := by
          have none : (queue.workers[worker]?).any WorkerTask.isLive = false := by
            by_contra any
            obtain ⟨task, found, taskLive⟩ :=
              (Option.any_eq_true _ _).mp (by simpa using any)
            exact live ⟨task, found, taskLive⟩
          simp [liveTurn, none]
        rw [notCounted, effect.eq_of_not_liveAt live]
        exact .inr inProgress

/-- A job is resolved once the live workers have taken enough turns. -/
theorem isResolved_of_liveTurns {events : List (QueueEvent Value Failure)}
    {index turns : Nat} (sound : queue.Sound)
    (within : queue.ResolvedWithin index turns)
    (accepted : index < queue.jobs.length)
    (guarded : Guarded step NotLostAtStart events queue)
    (enough : turns ≤ liveTurns events queue) :
    (run step events queue).IsResolved index := by
  induction events generalizing queue turns with
  | nil =>
      rcases within with resolved | inProgress
      · exact resolved
      · have positive := inProgress.pos
        simp only [liveTurns] at enough
        omega
  | cons event events ih =>
      obtain ⟨allowed, rest⟩ := guarded
      rw [run_cons]
      obtain ⟨job, stored⟩ : ∃ job, queue.jobs[index]? = some job :=
        ⟨_, List.getElem?_eq_getElem accepted⟩
      obtain ⟨kept, keptStored, -⟩ :=
        (stateChange_step event queue).keepsResolved sound index job stored
      refine ih (sound.step event)
        (resolvedWithin_step sound within accepted allowed)
        (List.getElem?_eq_some_iff.mp keptStored).1 rest ?_
      simp only [liveTurns] at enough
      omega

end WriterQueue

end Tca
