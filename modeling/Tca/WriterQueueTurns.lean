import Tca.WriterQueueInvariant

/-!
# Turns of the worker

A turn of the worker takes a job, ends an operation or stops the worker.  The
file shows that a turn keeps the invariant of the queue and the completions
that are done, and that a worker that stops leaves no job without a completion.
-/

namespace Tca

variable {Value Failure : Type}

namespace WriterState

variable {state : WriterState Value Failure} {worker : Nat}
  {task next : WorkerTask}

/-- The invariant while the live worker has no operation in hand. -/
structure BetweenJobs (state : WriterState Value Failure) (worker : Nat)
    (task : WorkerTask) : Prop where
  found : state.workers[worker]? = some task
  live : task.isLive
  ordered : (state.started ++ state.queuedJobs).Pairwise (· < ·)
  accepted : ∀ index ∈ state.started ++ state.queuedJobs,
    index < state.jobs.length
  consistent : ∀ job ∈ state.jobs, job.Consistent
  onlyCurrentLive : state.OnlyCurrentLive
  isOpen : ∀ index job, state.jobs[index]? = some job →
    index ∈ state.queuedJobs → job.IsOpen
  located : ∀ index job, state.jobs[index]? = some job →
    job.completion = .pending → index ∈ state.queuedJobs
  ended : ∀ index job, state.jobs[index]? = some job →
    index ∈ state.started → job.ended ≠ none
  counted : state.queue.length ≤ state.unfinishedTasks

theorem Coherent.betweenJobs (coherent : state.Coherent)
    (found : state.workers[worker]? = some task) (live : task.isLive)
    (notExecuting : ∀ index, task.phase ≠ .executing index) :
    state.BetweenJobs worker task := by
  have noJob : ∀ index, ¬ state.Executes index := fun index executes =>
    notExecuting index
      ((executes_iff coherent.onlyCurrentLive found live).mp executes)
  exact
    { found := found
      live := live
      ordered := coherent.ordered
      accepted := coherent.accepted
      consistent := coherent.consistent
      onlyCurrentLive := coherent.onlyCurrentLive
      isOpen := fun index job stored queued =>
        coherent.isOpen index job stored (.inl queued)
      located := fun index job stored pending =>
        (coherent.located index job stored pending).resolve_right (noJob index)
      ended := fun index job stored isStarted notEnded =>
        noJob index (coherent.running index job stored isStarted notEnded)
      counted := coherent.counted }

/-- The worker moves on without an operation. -/
theorem BetweenJobs.coherent_setWorker (between : state.BetweenJobs worker task)
    (notExecuting : ∀ index, next.phase ≠ .executing index) :
    (state.setWorker worker next).Coherent := by
  have noJob : ∀ index, ¬ (state.setWorker worker next).Executes index := by
    intro index executes
    exact notExecuting index ((executes_setWorker_iff between.onlyCurrentLive
      between.found between.live).mp executes)
  exact
    { ordered := between.ordered
      accepted := between.accepted
      consistent := between.consistent
      onlyCurrentLive :=
        between.onlyCurrentLive.setWorker between.found between.live
      executing := fun index executes => absurd executes (noJob index)
      isOpen := fun index job stored place =>
        between.isOpen index job stored (place.resolve_right (noJob index))
      located := fun index job stored pending =>
        .inl (between.located index job stored pending)
      running := fun index job stored isStarted notEnded =>
        absurd notEnded (between.ended index job stored isStarted)
      counted := between.counted
      countedExecuting := fun index executes => absurd executes (noJob index) }

/-- What the rejection of the queued jobs leaves. -/
def emptied (state : WriterState Value Failure) : WriterState Value Failure :=
  { state with
    queue := []
    unfinishedTasks := state.unfinishedTasks - state.queue.length
    jobs := rejectAll state.queue state.jobs }

theorem BetweenJobs.drainQueue_eq (between : state.BetweenJobs worker task)
    (outcome : WorkerOutcome) :
    state.drainQueue worker task outcome =
      state.emptied.setWorker worker { task with phase := .done outcome } := by
  simp only [drainQueue, drain_eq between.counted]
  rfl

theorem emptied_job {index : Nat} {job : WriteJob Value Failure}
    (stored : state.emptied.jobs[index]? = some job) :
    ∃ old, state.jobs[index]? = some old ∧
      (index ∈ state.queuedJobs ∧ job = old.reject ∨
        index ∉ state.queuedJobs ∧ job = old) := by
  simp only [emptied, getElem?_rejectAll] at stored
  split at stored
  · rename_i queued
    obtain ⟨old, found, rfl⟩ := Option.map_eq_some_iff.mp stored
    exact ⟨old, found, .inl ⟨queued, rfl⟩⟩
  · rename_i notQueued
    exact ⟨job, stored, .inr ⟨notQueued, rfl⟩⟩

/-- Once the queued jobs are rejected, every completion is done. -/
theorem BetweenJobs.emptied_resolved (between : state.BetweenJobs worker task)
    {job : WriteJob Value Failure} (member : job ∈ state.emptied.jobs) :
    job.completion ≠ .pending := by
  obtain ⟨index, stored⟩ := List.mem_iff_getElem?.mp member
  obtain ⟨old, found, ⟨-, rfl⟩ | ⟨notQueued, rfl⟩⟩ := emptied_job stored
  · exact WriteJob.reject_completion_ne_pending
  · exact fun pending => notQueued (between.located index _ found pending)

theorem BetweenJobs.emptied (between : state.BetweenJobs worker task) :
    state.emptied.BetweenJobs worker task where
  found := between.found
  live := between.live
  ordered := by
    have startedOrdered := (List.pairwise_append.mp between.ordered).1
    simpa [WriterState.emptied, queuedJobs] using startedOrdered
  accepted := by
    intro index member
    have isStarted : index ∈ state.started := by
      simpa [WriterState.emptied, queuedJobs] using member
    simpa [WriterState.emptied] using
      between.accepted index (List.mem_append_left _ isStarted)
  consistent := by
    intro job member
    obtain ⟨index, stored⟩ := List.mem_iff_getElem?.mp member
    obtain ⟨old, found, ⟨-, rfl⟩ | ⟨-, rfl⟩⟩ := emptied_job stored
    · exact (between.consistent old (List.mem_of_getElem? found)).reject
    · exact between.consistent _ (List.mem_of_getElem? found)
  onlyCurrentLive := between.onlyCurrentLive
  isOpen := by simp [WriterState.emptied, queuedJobs]
  located := by
    intro index job stored pending
    exact absurd pending
      (between.emptied_resolved (List.mem_of_getElem? stored))
  ended := by
    intro index job stored isStarted
    obtain ⟨old, found, ⟨-, rfl⟩ | ⟨-, rfl⟩⟩ := emptied_job stored
    · rw [WriteJob.reject_ended]
      exact between.ended index old found isStarted
    · exact between.ended index _ found isStarted
  counted := Nat.zero_le _

/-- A worker that stops keeps the invariant. -/
theorem BetweenJobs.coherent_drainQueue (between : state.BetweenJobs worker task)
    (outcome : WorkerOutcome) :
    (state.drainQueue worker task outcome).Coherent := by
  rw [between.drainQueue_eq]
  exact between.emptied.coherent_setWorker (by simp)

/-- A worker that stops leaves no job without a completion. -/
theorem BetweenJobs.resolved_drainQueue (between : state.BetweenJobs worker task)
    (outcome : WorkerOutcome) :
    ∀ job ∈ (state.drainQueue worker task outcome).jobs,
      job.completion ≠ .pending := by
  rw [between.drainQueue_eq]
  exact fun job => between.emptied_resolved

/-- The worker takes the sentinel from the queue. -/
theorem BetweenJobs.takeStop (between : state.BetweenJobs worker task)
    {items : List QueuedItem} {unfinished : Nat}
    (nextItem : state.queue = .stop :: items)
    (counter : state.unfinishedTasks = unfinished + 1) :
    BetweenJobs
      ({ state with queue := items, unfinishedTasks := unfinished } :
        WriterState Value Failure) worker task := by
  have sameQueued : queuedJobs
      ({ state with queue := items, unfinishedTasks := unfinished } :
        WriterState Value Failure) = state.queuedJobs := by
    simp only [queuedJobs, nextItem]
    rfl
  exact
    { found := between.found
      live := between.live
      ordered := by rw [sameQueued]; exact between.ordered
      accepted := by rw [sameQueued]; exact between.accepted
      consistent := between.consistent
      onlyCurrentLive := between.onlyCurrentLive
      isOpen := by rw [sameQueued]; exact between.isOpen
      located := by rw [sameQueued]; exact between.located
      ended := between.ended
      counted := by
        have counted := between.counted
        rw [nextItem, counter, List.length_cons] at counted
        exact Nat.le_of_succ_le_succ counted }

/-- The worker ends an operation in a way that resolves its job. -/
theorem Coherent.betweenJobs_setJob (coherent : state.Coherent)
    (found : state.workers[worker]? = some task) {index unfinished : Nat}
    (executing : task.phase = .executing index)
    {job : WriteJob Value Failure} (consistent : job.Consistent)
    (resolved : job.completion ≠ .pending) (ended : job.ended ≠ none)
    (counted : state.queue.length ≤ unfinished) :
    BetweenJobs ({ state.setJob index job with unfinishedTasks := unfinished } :
      WriterState Value Failure) worker task := by
  have live : task.isLive := by simp [WorkerTask.isLive, executing]
  have only := coherent.onlyCurrentLive
  have executes : ∀ {position}, state.Executes position ↔
      position = index := by
    intro position
    rw [executes_iff only found live, executing]
    exact ⟨fun same => (WorkerPhase.executing.inj same).symm, fun same => by rw [same]⟩
  have isStarted : index ∈ state.started :=
    coherent.executing index (executes.mpr rfl)
  have inRange := coherent.accepted index (List.mem_append_left _ isStarted)
  have queuedLater : ∀ position ∈ state.queuedJobs, index ≠ position := by
    intro position queued same
    have before := (List.pairwise_append.mp coherent.ordered).2.2 index
      isStarted position queued
    omega
  have otherJob : ∀ {position : Nat} {other : WriteJob Value Failure},
      index ≠ position → (state.jobs.set index job)[position]? = some other →
      state.jobs[position]? = some other := by
    intro position other different stored
    rwa [List.getElem?_set_ne different] at stored
  have ownJob : (state.jobs.set index job)[index]? = some job :=
    List.getElem?_set_self inRange
  refine
    { found := found
      live := live
      ordered := coherent.ordered
      accepted := by
        simpa [setJob, queuedJobs] using coherent.accepted
      consistent := ?_
      onlyCurrentLive := only
      isOpen := fun position other stored queued =>
        coherent.isOpen position other
          (otherJob (queuedLater position queued) stored) (.inl queued)
      located := ?_
      ended := ?_
      counted := counted }
  · intro other member
    rcases List.mem_or_eq_of_mem_set member with old | rfl
    · exact coherent.consistent other old
    · exact consistent
  · intro position other stored pending
    by_cases own : index = position
    · subst own
      rw [Option.some.inj (stored.symm.trans ownJob)] at pending
      exact absurd pending resolved
    · refine (coherent.located position other (otherJob own stored)
        pending).resolve_right fun executing => own (executes.mp executing).symm
  · intro position other stored wasStarted notEnded
    by_cases own : index = position
    · subst own
      rw [Option.some.inj (stored.symm.trans ownJob)] at notEnded
      exact ended notEnded
    · have running := coherent.running position other (otherJob own stored)
        wasStarted notEnded
      exact own (executes.mp running).symm

/-- The worker starts the next job. -/
theorem BetweenJobs.coherent_takeJob (between : state.BetweenJobs worker task)
    {items : List QueuedItem} {index : Nat}
    (nextItem : state.queue = .job index :: items) :
    ({ state.setWorker worker { task with phase := .executing index } with
      queue := items
      started := state.started ++ [index] } :
        WriterState Value Failure).Coherent := by
  have queuedNow : state.queuedJobs =
      index :: items.filterMap QueuedItem.job? := by
    simp only [queuedJobs, nextItem]
    rfl
  have sameJobs : state.started ++ [index] ++
      items.filterMap QueuedItem.job? = state.started ++ state.queuedJobs := by
    simp [queuedNow]
  have executes : ∀ {position}, (state.setWorker worker
      { task with phase := .executing index }).Executes position ↔
      position = index := by
    intro position
    rw [executes_setWorker_iff between.onlyCurrentLive between.found
      between.live]
    exact ⟨fun same => (WorkerPhase.executing.inj same).symm,
      fun same => by rw [same]⟩
  have queuedBefore : ∀ {position},
      position ∈ items.filterMap QueuedItem.job? ∨ position = index →
      position ∈ state.queuedJobs := by
    intro position place
    rw [queuedNow]
    exact List.mem_cons.mpr place.symm
  refine
    { ordered := ?_
      accepted := ?_
      consistent := between.consistent
      onlyCurrentLive :=
        between.onlyCurrentLive.setWorker between.found between.live
      executing := ?_
      isOpen := ?_
      located := ?_
      running := ?_
      counted := ?_
      countedExecuting := ?_ }
  · change (state.started ++ [index] ++
      items.filterMap QueuedItem.job?).Pairwise (· < ·)
    rw [sameJobs]
    exact between.ordered
  · change ∀ position ∈ state.started ++ [index] ++
      items.filterMap QueuedItem.job?, position < state.jobs.length
    rw [sameJobs]
    exact between.accepted
  · intro position executing
    rw [executes.mp executing]
    exact List.mem_append_right _ (List.mem_singleton.mpr rfl)
  · intro position job stored place
    exact between.isOpen position job stored
      (queuedBefore (place.imp_right executes.mp))
  · intro position job stored pending
    have queued := between.located position job stored pending
    rw [queuedNow] at queued
    exact (List.mem_cons.mp queued).symm.imp_right executes.mpr
  · intro position job stored wasStarted notEnded
    rcases List.mem_append.mp wasStarted with earlier | new
    · exact absurd notEnded (between.ended position job stored earlier)
    · exact executes.mpr (List.mem_singleton.mp new)
  · have counted := between.counted
    rw [nextItem, List.length_cons] at counted
    exact Nat.le_of_succ_le counted
  · intro _ _
    have counted := between.counted
    rwa [nextItem, List.length_cons] at counted

/-- No completion that is done has been changed. -/
def KeepsResolved (earlier later : List (WriteJob Value Failure)) : Prop :=
  ∀ (index : Nat) job, earlier[index]? = some job →
    ∃ kept, later[index]? = some kept ∧
      (job.completion ≠ .pending → kept.completion = job.completion)

/-- All that a turn of a worker can do. -/
inductive TurnEffect (state : WriterState Value Failure) (worker : Nat) :
    WriterState Value Failure → Prop
  | rests (nothing : ∀ task, state.workers[worker]? = some task →
      task.isLive → task.phase = .waiting ∧ state.queue = []) :
      TurnEffect state worker state
  | neverStarts {task : WorkerTask}
      (found : state.workers[worker]? = some task)
      (notStarted : task.phase = .notStarted) (cancelled : task.mustCancel) :
      TurnEffect state worker
        (state.setWorker worker { task with phase := .done .cancelled })
  | starts {task : WorkerTask} (found : state.workers[worker]? = some task)
      (notStarted : task.phase = .notStarted)
      (notCancelled : task.mustCancel = false) :
      TurnEffect state worker
        (state.setWorker worker { task with phase := .waiting })
  | takes {task : WorkerTask} {index : Nat} {items : List QueuedItem}
      (found : state.workers[worker]? = some task)
      (waiting : task.phase = .waiting)
      (nextItem : state.queue = .job index :: items) :
      TurnEffect state worker
        { state.setWorker worker { task with phase := .executing index } with
          queue := items
          started := state.started ++ [index] }
  | settles {task : WorkerTask} {index unfinished : Nat}
      {job : WriteJob Value Failure} (absorbed : Bool)
      (found : state.workers[worker]? = some task)
      (executing : task.phase = .executing index)
      (resolved : job.completion ≠ .pending)
      (between : BetweenJobs
        ({ state.setJob index job with unfinishedTasks := unfinished } :
          WriterState Value Failure) worker task)
      (keeps : KeepsResolved state.jobs (state.setJob index job).jobs) :
      TurnEffect state worker
        { (state.setJob index job).setWorker worker
            { task with
              phase := .waiting
              mustCancel := task.mustCancel && !absorbed } with
          unfinishedTasks := unfinished }
  | stops {task : WorkerTask} {last : WriterState Value Failure}
      (outcome : WorkerOutcome) (between : last.BetweenJobs worker task)
      (hasStarted : task.phase ≠ .notStarted)
      (sameStarted : last.started = state.started)
      (sameWorkers : last.workers = state.workers)
      (sameTask : last.workerTask = state.workerTask)
      (keeps : KeepsResolved state.jobs last.jobs) :
      TurnEffect state worker (last.drainQueue worker task outcome)

theorem keepsResolved_refl (jobs : List (WriteJob Value Failure)) :
    KeepsResolved jobs jobs :=
  fun _ job stored => ⟨job, stored, fun _ => rfl⟩

/-- Setting the completion of a job to what it was, if that was done. -/
theorem keepsResolved_set {jobs : List (WriteJob Value Failure)} {index : Nat}
    {old new : WriteJob Value Failure} (stored : jobs[index]? = some old)
    (kept : old.completion ≠ .pending → new.completion = old.completion) :
    KeepsResolved jobs (jobs.set index new) := by
  intro position job found
  by_cases own : index = position
  · subst own
    rw [stored] at found
    cases found
    have inRange := (List.getElem?_eq_some_iff.mp stored).1
    exact ⟨new, List.getElem?_set_self inRange, kept⟩
  · exact ⟨job, by rwa [List.getElem?_set_ne own], fun _ => rfl⟩

section RejectCurrent

variable {index : Nat} {job : WriteJob Value Failure}

theorem rejectCurrent_started :
    (state.rejectCurrent index job).started = state.started := by
  unfold rejectCurrent
  split <;> rfl

theorem rejectCurrent_workers :
    (state.rejectCurrent index job).workers = state.workers := by
  unfold rejectCurrent
  split <;> rfl

theorem rejectCurrent_workerTask :
    (state.rejectCurrent index job).workerTask = state.workerTask := by
  unfold rejectCurrent
  split <;> rfl

theorem rejectCurrent_jobs :
    (state.rejectCurrent index job).jobs = state.jobs.set index job.reject := by
  unfold rejectCurrent
  split
  · rfl
  · rename_i resolved
    rw [WriteJob.reject_of_ne_pending resolved]
    rfl

/-- A worker that stops in the middle of an operation rejects its job. -/
theorem Coherent.betweenJobs_rejectCurrent (coherent : state.Coherent)
    (found : state.workers[worker]? = some task)
    (executing : task.phase = .executing index) (consistent : job.Consistent)
    (ended : job.ended ≠ none)
    (counted : state.queue.length < state.unfinishedTasks) :
    (state.rejectCurrent index job).BetweenJobs worker task := by
  have rejected : state.rejectCurrent index job =
      { state.setJob index job.reject with
        unfinishedTasks :=
          (state.rejectCurrent index job).unfinishedTasks } := by
    unfold rejectCurrent
    split
    · rfl
    · rename_i resolved
      rw [WriteJob.reject_of_ne_pending resolved]
  rw [rejected]
  refine coherent.betweenJobs_setJob found executing consistent.reject
    WriteJob.reject_completion_ne_pending (by simpa using ended) ?_
  unfold rejectCurrent
  split
  · exact Nat.le_sub_one_of_lt counted
  · exact Nat.le_of_lt counted

end RejectCurrent

/-- A waiting worker takes the next entry. -/
theorem Coherent.turnEffect_takeNext (coherent : state.Coherent)
    (found : state.workers[worker]? = some task)
    (waiting : task.phase = .waiting) :
    TurnEffect state worker (state.takeNext worker task) := by
  have live : task.isLive := by simp [WorkerTask.isLive, waiting]
  have between := coherent.betweenJobs found live (by simp [waiting])
  unfold takeNext
  split
  · rename_i empty
    refine .rests fun other foundOther _ => ?_
    rw [found] at foundOther
    cases foundOther
    exact ⟨waiting, empty⟩
  · rename_i index items nextItem
    exact .takes found waiting nextItem
  · rename_i items nextItem
    have counted := between.counted
    rw [nextItem, List.length_cons] at counted
    cases counter : state.unfinishedTasks with
    | zero => omega
    | succ unfinished =>
        exact .stops .returned (between.takeStop nextItem counter)
          (by simp [waiting]) rfl rfl rfl (keepsResolved_refl state.jobs)

/-- An operation ends. -/
theorem Coherent.turnEffect_endOperation (coherent : state.Coherent)
    (found : state.workers[worker]? = some task) {index : Nat}
    (executing : task.phase = .executing index)
    (ending : OperationEnd Value Failure) (absorbed : Bool) :
    TurnEffect state worker
      (state.endOperation worker task index ending absorbed) := by
  have live : task.isLive := by simp [WorkerTask.isLive, executing]
  have executes : state.Executes index :=
    (executes_iff coherent.onlyCurrentLive found live).mpr executing
  have inRange := coherent.accepted index
    (List.mem_append_left _ (coherent.executing index executes))
  obtain ⟨job, stored⟩ : ∃ job, state.jobs[index]? = some job :=
    ⟨_, List.getElem?_eq_getElem inRange⟩
  have consistent := coherent.consistent job (List.mem_of_getElem? stored)
  have isOpen := coherent.isOpen index job stored (.inr executes)
  have counted := coherent.countedExecuting index executes
  simp only [endOperation, stored]
  cases exit : job.executeQueuedJob task.cancelling ending with
  | ok completion =>
      obtain ⟨resolved, kept, agrees⟩ :=
        WriteJob.executeQueuedJob_ok consistent exit
      cases counter : state.unfinishedTasks with
      | zero => omega
      | succ unfinished =>
          refine .settles absorbed found executing resolved ?_
            (keepsResolved_set stored kept)
          exact coherent.betweenJobs_setJob found executing agrees resolved
            (by simp) (by omega)
  | error outcome =>
      have agrees := WriteJob.executeQueuedJob_error consistent isOpen exit
      refine .stops outcome
        (coherent.betweenJobs_rejectCurrent found executing agrees (by simp)
          counted) (by simp [executing]) ?_ ?_ ?_ ?_
      · exact rejectCurrent_started
      · exact rejectCurrent_workers
      · exact rejectCurrent_workerTask
      · rw [rejectCurrent_jobs]
        refine keepsResolved_set stored fun done => ?_
        have endedDone :
            ({ job with ended := some ending } : WriteJob Value
              Failure).completion ≠ .pending := done
        rw [WriteJob.reject_of_ne_pending endedDone]

/-- Every turn has one of the listed effects. -/
theorem Coherent.turnEffect (coherent : state.Coherent) (worker : Nat)
    (ending : OperationEnd Value Failure) (absorbed : Bool) :
    TurnEffect state worker (state.turn worker ending absorbed) := by
  cases found : state.workers[worker]? with
  | none =>
      simp only [turn, found]
      exact .rests fun task foundTask => by simp [found] at foundTask
  | some task =>
      simp only [turn, found]
      cases phase : task.phase with
      | notStarted =>
          dsimp only
          split
          · exact .neverStarts found phase (by assumption)
          · rename_i notCancelled
            exact .starts found phase (by simpa using notCancelled)
      | waiting =>
          dsimp only
          split
          · have live : task.isLive := by simp [WorkerTask.isLive, phase]
            exact .stops .cancelled
              (coherent.betweenJobs found live (by simp [phase]))
              (by simp [phase]) rfl rfl rfl (keepsResolved_refl state.jobs)
          · exact coherent.turnEffect_takeNext found phase
      | executing index =>
          exact coherent.turnEffect_endOperation found phase ending absorbed
      | done outcome =>
          refine .rests fun other foundOther live => ?_
          rw [found] at foundOther
          cases foundOther
          simp [WorkerTask.isLive, phase] at live

/-- Every job of a drained queue keeps the completion that it had. -/
theorem keepsResolved_emptied :
    KeepsResolved state.jobs state.emptied.jobs := by
  intro index job stored
  simp only [emptied, getElem?_rejectAll, stored]
  split
  · refine ⟨job.reject, rfl, fun resolved => ?_⟩
    rw [WriteJob.reject_of_ne_pending resolved]
  · exact ⟨job, rfl, fun _ => rfl⟩

theorem KeepsResolved.trans {first second third : List (WriteJob Value Failure)}
    (early : KeepsResolved first second) (late : KeepsResolved second third) :
    KeepsResolved first third := by
  intro index job stored
  obtain ⟨kept, keptStored, same⟩ := early index job stored
  obtain ⟨last, lastStored, sameLast⟩ := late index kept keptStored
  refine ⟨last, lastStored, fun resolved => ?_⟩
  rw [sameLast (by rwa [same resolved]), same resolved]

/-- The worker is not done. -/
def LiveAt (state : WriterState Value Failure) (worker : Nat) : Prop :=
  ∃ task, state.workers[worker]? = some task ∧ task.isLive

theorem liveAt_of_setWorker (found : state.workers[worker]? = some task)
    (live : task.isLive) {position : Nat}
    (later : (state.setWorker worker next).LiveAt position) :
    state.LiveAt position := by
  obtain ⟨other, foundOther, otherLive⟩ := later
  by_cases own : worker = position
  · subst own
    exact ⟨task, found, live⟩
  · refine ⟨other, ?_, otherLive⟩
    simpa [setWorker, List.getElem?_set_ne own] using foundOther

section Effects

variable {later : WriterState Value Failure}

theorem TurnEffect.coherent (coherent : state.Coherent)
    (effect : TurnEffect state worker later) : later.Coherent := by
  cases effect with
  | rests => exact coherent
  | neverStarts found notStarted cancelled =>
      exact coherent.setWorker found (by simp [WorkerTask.isLive, notStarted])
        (by simp [notStarted])
  | starts found notStarted notCancelled =>
      exact coherent.setWorker found (by simp [WorkerTask.isLive, notStarted])
        (by simp [notStarted])
  | @takes task index items found waiting nextItem =>
      have live : task.isLive := by simp [WorkerTask.isLive, waiting]
      have between := coherent.betweenJobs found live (by simp [waiting])
      exact between.coherent_takeJob nextItem
  | settles absorbed found executing resolved between keeps =>
      exact between.coherent_setWorker (by simp)
  | stops outcome between => exact between.coherent_drainQueue outcome

theorem TurnEffect.keepsResolved (effect : TurnEffect state worker later) :
    KeepsResolved state.jobs later.jobs := by
  cases effect with
  | rests => exact keepsResolved_refl state.jobs
  | neverStarts => exact keepsResolved_refl state.jobs
  | starts => exact keepsResolved_refl state.jobs
  | takes => exact keepsResolved_refl state.jobs
  | settles absorbed found executing resolved between keeps => exact keeps
  | stops outcome between hasStarted sameStarted sameWorkers sameTask keeps =>
      rw [between.drainQueue_eq]
      exact keeps.trans keepsResolved_emptied

/-- A turn starts no worker. -/
theorem TurnEffect.liveAt (effect : TurnEffect state worker later)
    {position : Nat} (live : later.LiveAt position) :
    state.LiveAt position := by
  cases effect with
  | rests => exact live
  | neverStarts found notStarted cancelled =>
      exact liveAt_of_setWorker found (by simp [WorkerTask.isLive, notStarted])
        live
  | starts found notStarted notCancelled =>
      exact liveAt_of_setWorker found (by simp [WorkerTask.isLive, notStarted])
        live
  | takes found waiting nextItem =>
      exact liveAt_of_setWorker found (by simp [WorkerTask.isLive, waiting])
        live
  | settles absorbed found executing resolved between keeps =>
      exact liveAt_of_setWorker between.found between.live live
  | stops outcome between hasStarted sameStarted sameWorkers sameTask keeps =>
      rw [between.drainQueue_eq] at live
      have lastLive := liveAt_of_setWorker between.found between.live live
      simpa only [LiveAt, emptied, sameWorkers] using lastLive

theorem TurnEffect.workerTask (effect : TurnEffect state worker later) :
    later.workerTask = state.workerTask := by
  cases effect with
  | stops outcome between hasStarted sameStarted sameWorkers sameTask keeps =>
      rw [between.drainQueue_eq]
      exact sameTask
  | _ => rfl

end Effects

end WriterState

end Tca
