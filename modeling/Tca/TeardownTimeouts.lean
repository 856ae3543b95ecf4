import Tca.AppTeardown

/-!
# Timeouts of the teardown

A loop that does not stop in time is cancelled, and the cancellation is caught
where the timeout is waited for.  The file shows that it goes no further: as
long as nobody else cancels anything, the teardown is complete.
-/

namespace Tca

open GuardedRuns

variable {Failure : Type}

/-- The task was cancelled or is about to be. -/
def LoopTask.Disturbed (task : LoopTask) : Prop :=
  task.phase = .cancelled ∨ task.cancelRequested = true

namespace Lifespan

section Calm

variable {app : Lifespan Failure}

/-- Nobody but a timeout cancels anything. -/
def IsCalm : LifespanEvent Failure → Lifespan Failure → Prop
  | .awaited ending _, _ => ending ≠ .cancelled
  | .cancelLifespan, _ | .cancelLoop _, _ => False
  | .loopTurn loop ending _, app => ending = .cancelled →
      (app.loops loop).all LoopTask.cancelRequested = true
  | _, _ => True

instance [DecidableEq Failure] (event : LifespanEvent Failure)
    (app : Lifespan Failure) : Decidable (IsCalm event app) :=
  match event with
  | .awaited ending _ => inferInstanceAs (Decidable (ending ≠ .cancelled))
  | .cancelLifespan | .cancelLoop _ => .isFalse id
  | .loopTurn loop ending _ =>
      inferInstanceAs (Decidable (ending = .cancelled →
        (app.loops loop).all LoopTask.cancelRequested = true))
  | .shutdownTurn | .expire | .resume | .submit _ => .isTrue trivial

/-- Only the loops that are being shut down or have been are cancelled, and only
when the time is over. -/
structure Calm (app : Lifespan Failure) : Prop where
  uncancelled : app.log.Uncancelled
  disturbed : ∀ loop task, app.loops loop = some task → task.Disturbed →
    .shutdownLoop loop ∈ app.begun
  expired : ∀ loop later wait,
    app.phase = .tearingDown (.shutdownLoop loop) later wait →
    wait.cancelled = false ∧ (wait.late = true → wait.expired = true) ∧
      ∀ task, app.loops loop = some task → task.Disturbed → wait.expired = true

/-- The next step begins calmly. -/
theorem Calm.beginSteps {later : List TeardownStep}
    (uncancelled : app.log.Uncancelled)
    (disturbed : ∀ loop task, app.loops loop = some task → task.Disturbed →
      .shutdownLoop loop ∈ app.log.steps)
    (planned : app.log.steps ++ later = app.teardownSteps) :
    (app.beginSteps later).Calm := by
  cases later with
  | nil =>
      rw [Lifespan.beginSteps, finish]
      split
      · exact ⟨uncancelled, fun loop task found isDisturbed =>
          List.mem_append_left _ (disturbed loop task found isDisturbed),
          fun _ _ _ phase => by cases phase⟩
      · exact ⟨uncancelled, fun loop task found isDisturbed =>
          List.mem_append_left _ (disturbed loop task found isDisturbed),
          fun _ _ _ phase => by cases phase⟩
  | cons step later =>
      constructor
      · exact uncancelled
      · intro loop task found isDisturbed
        exact List.mem_append_left _ (disturbed loop task found isDisturbed)
      · intro loop others wait phase
        obtain ⟨rfl, rfl, rfl⟩ := LifespanPhase.tearingDown.inj phase
        refine ⟨rfl, Bool.noConfusion, ?_⟩
        intro task found isDisturbed
        have nodup : app.teardownSteps.Nodup := by
          apply List.Pairwise.filter
          decide
        rw [← planned] at nodup
        have ended := disturbed loop task found isDisturbed
        exact absurd rfl ((List.nodup_append.mp nodup).2.2 _ ended _
          List.mem_cons_self)

theorem Calm.endStep (calm : app.Calm) (sound : app.Sound) {step : TeardownStep}
    {later : List TeardownStep} {wait : LoopWait}
    (phase : app.phase = .tearingDown step later wait) {ending : Ending Failure}
    (notCancelled : ending ≠ .cancelled) :
    (app.endStep step later ending).Calm := by
  have fits := sound.fits
  rw [Fits, phase] at fits
  have isBegun : app.begun = app.log.steps ++ [step] := by
    rw [begun, phase]
  have steps_append :
      (app.log.history ++ [(step, ending)]).map Prod.fst = app.begun := by
    rw [List.map_append, isBegun]
    rfl
  have uncancelled :
      ∀ entry ∈ app.log.history ++ [(step, ending)], entry.2 ≠ .cancelled := by
    intro entry member
    rcases List.mem_append.mp member with earlier | last
    · exact calm.uncancelled entry earlier
    · rw [List.mem_singleton.mp last]
      exact notCancelled
  have planned : app.begun ++ later = app.teardownSteps := by
    rw [isBegun, List.append_assoc]
    exact fits.1
  cases ending with
  | returned =>
      apply Calm.beginSteps
      · exact uncancelled
      · rw [TeardownLog.steps, steps_append]
        exact calm.disturbed
      · rw [TeardownLog.steps, steps_append]
        exact planned
  | raised failure =>
      apply Calm.beginSteps
      · exact uncancelled
      · rw [TeardownLog.steps, steps_append]
        exact calm.disturbed
      · rw [TeardownLog.steps, steps_append]
        exact planned
  | cancelled => exact absurd rfl notCancelled

/-- Before the teardown no task is disturbed. -/
theorem Calm.undisturbed (calm : app.Calm) (untouched : app.log = {})
    (early : app.IsEarly) {loop : BackgroundLoop} {task : LoopTask}
    (found : app.loops loop = some task) : ¬task.Disturbed := by
  intro isDisturbed
  have member := calm.disturbed loop task found isDisturbed
  rw [begun_eq_nil untouched early] at member
  cases member

theorem Calm.tearDown (calm : app.Calm) (untouched : app.log = {})
    (early : app.IsEarly) (ending : Ending Failure) :
    (app.tearDown ending).Calm := by
  apply Calm.beginSteps
  · exact calm.uncancelled
  · intro loop task found isDisturbed
    exact absurd isDisturbed (calm.undisturbed untouched early found)
  · show app.log.steps ++ _ = _
    rw [untouched]
    rfl

/-- Another early phase, in which the tasks are those of before or fresh. -/
theorem Calm.early {next : Lifespan Failure} (untouched : next.log = {})
    (undisturbed : ∀ loop task, next.loops loop = some task → ¬task.Disturbed)
    (early : next.IsEarly) : next.Calm where
  uncancelled := by
    rw [untouched]
    exact fun _ absent => absurd absent List.not_mem_nil
  disturbed loop task found isDisturbed :=
    absurd isDisturbed (undisturbed loop task found)
  expired loop later wait phase := absurd phase early.phase_ne

theorem Calm.changeLoops (calm : app.Calm)
    {loops : BackgroundLoop → Option LoopTask}
    (undisturbed : ∀ loop next, loops loop = some next → next.Disturbed →
      ∃ task, app.loops loop = some task ∧ task.Disturbed) :
    { app with loops }.Calm where
  uncancelled := calm.uncancelled
  disturbed loop next found isDisturbed := by
    obtain ⟨task, before, wasDisturbed⟩ :=
      undisturbed loop next found isDisturbed
    exact calm.disturbed loop task before wasDisturbed
  expired loop later wait phase := by
    obtain ⟨notCancelled, late, expired⟩ := calm.expired loop later wait phase
    refine ⟨notCancelled, late, fun next found isDisturbed => ?_⟩
    obtain ⟨task, before, wasDisturbed⟩ :=
      undisturbed loop next found isDisturbed
    exact expired task before wasDisturbed

theorem Calm.changeWait (calm : app.Calm) {loop : BackgroundLoop}
    {later : List TeardownStep} {wait : LoopWait}
    (phase : app.phase = .tearingDown (.shutdownLoop loop) later wait)
    {changed : LoopWait} (notCancelled : changed.cancelled = false)
    (late : changed.late = true → changed.expired = true)
    (expired : ∀ task, app.loops loop = some task → task.Disturbed →
      changed.expired = true) :
    { app with
      phase := .tearingDown (.shutdownLoop loop) later changed }.Calm where
  uncancelled := calm.uncancelled
  disturbed other task found isDisturbed := by
    have member := calm.disturbed other task found isDisturbed
    rwa [begun, phase] at member
  expired other others wait isPhase := by
    obtain ⟨same, rfl, rfl⟩ := LifespanPhase.tearingDown.inj isPhase
    obtain rfl := TeardownStep.shutdownLoop.inj same
    exact ⟨notCancelled, late, expired⟩

theorem setLoop_cases {loop other : BackgroundLoop}
    {change : LoopTask → LoopTask} {next : LoopTask}
    (found : app.setLoop loop change other = some next) :
    (other = loop ∧ ∃ task, app.loops loop = some task ∧ change task = next) ∨
      (other ≠ loop ∧ app.loops other = some next) := by
  by_cases same : other = loop
  · subst same
    rw [setLoop, Function.update_self] at found
    exact .inl ⟨rfl, Option.map_eq_some_iff.mp found⟩
  · rw [setLoop, Function.update_of_ne same] at found
    exact .inr ⟨same, found⟩

/-- A turn disturbs no task. -/
theorem disturbed_of_turn {task : LoopTask} {ending : Ending Failure} {now : ℚ}
    (requested : ending = .cancelled → task.cancelRequested = true)
    (isDisturbed : (task.turn ending now).Disturbed) : task.Disturbed := by
  by_contra calm
  obtain ⟨notCancelled, notRequested⟩ := not_or.mp calm
  have noRequest : task.cancelRequested = false := by simpa using notRequested
  have paused (lastRunAt : ℚ) :
      ¬(LoopTask.pause { task with
        cancelRequested := false, lastRunAt }).Disturbed := by
    rw [LoopTask.pause]
    split <;> simp [LoopTask.Disturbed]
  have entered : ¬(task.enterRound now).Disturbed := by
    rw [LoopTask.enterRound]
    split
    · simp [LoopTask.Disturbed, noRequest]
    · split
      · simp [LoopTask.Disturbed, noRequest]
      · rw [LoopTask.pause]
        split <;> simp [LoopTask.Disturbed, noRequest]
  rw [LoopTask.turn, noRequest] at isDisturbed
  split at isDisturbed
  · exact entered isDisturbed
  · exact entered isDisturbed
  · cases ending with
    | returned => exact paused _ isDisturbed
    | raised failure => exact paused _ isDisturbed
    | cancelled => exact notRequested (requested rfl)
  · exact calm isDisturbed
  · exact calm isDisturbed

theorem Calm.orTearDown (calm : app.Calm) (untouched : app.log = {})
    (early : app.IsEarly) {next : Lifespan Failure} (calmNext : next.Calm)
    {ending : Ending Failure} (notCancelled : ending ≠ .cancelled) :
    (app.orTearDown next ending).Calm := by
  cases ending with
  | returned => exact calmNext
  | raised failure => exact calm.tearDown untouched early _
  | cancelled => exact absurd rfl notCancelled

theorem Calm.finishAwaited (calm : app.Calm) (sound : app.Sound)
    {ending : Ending Failure} (notCancelled : ending ≠ .cancelled)
    (setting : Option PyValue) : (app.finishAwaited ending setting).Calm := by
  have fits := sound.fits
  unfold Fits at fits
  rw [Lifespan.finishAwaited]
  split
  · rename_i phase
    rw [phase] at fits
    have early : app.IsEarly := by
      rw [IsEarly, phase]
      trivial
    apply calm.orTearDown fits.2 early _ notCancelled
    exact Calm.early fits.2 (fun _ _ => calm.undisturbed fits.2 early) trivial
  · rename_i phase
    rw [phase] at fits
    have early : app.IsEarly := by
      rw [IsEarly, phase]
      trivial
    apply calm.orTearDown fits.2 early _ notCancelled
    exact Calm.early fits.2 (fun _ _ => calm.undisturbed fits.2 early) trivial
  · rename_i dependency later phase
    rw [phase] at fits
    have early : app.IsEarly := by
      rw [IsEarly, phase]
      trivial
    have untouched := fits.2.2
    apply calm.orTearDown untouched early _ notCancelled
    obtain ⟨sameLog, -⟩ := app.launch_frame dependency setting
    apply Calm.early
    · cases later <;> exact sameLog.trans untouched
    · intro loop task found
      rw [loops_startNext] at found
      rcases app.launch_loops dependency setting loop with
        ⟨-, intervalSeconds, isFresh⟩ | ⟨-, same⟩
      · obtain rfl := Option.some.inj (isFresh.symm.trans found)
        simp [LoopTask.Disturbed, LoopTask.fresh]
      · exact calm.undisturbed untouched early (same.symm.trans found)
    · cases later <;> trivial
  · rename_i phase
    rw [phase] at fits
    have early : app.IsEarly := by
      rw [IsEarly, phase]
      trivial
    apply calm.orTearDown fits.2 early _ notCancelled
    exact Calm.early fits.2 (fun _ _ => calm.undisturbed fits.2 early) trivial
  · rename_i phase
    rw [phase] at fits
    apply calm.tearDown fits.2
    rw [IsEarly, phase]
    trivial
  · exact calm
  · rename_i step later wait notLoop phase
    exact calm.endStep sound phase notCancelled
  · exact calm

/-- A task that is told to stop is not disturbed by it. -/
theorem Calm.shutdownTurn (calm : app.Calm) : app.shutdownTurn.Calm := by
  rw [Lifespan.shutdownTurn]
  split
  · rename_i loop later wait phase
    obtain ⟨notCancelled, late, expired⟩ := calm.expired loop later wait phase
    split
    · exact calm
    · split
      · rename_i isCancelled
        rw [notCancelled] at isCancelled
        cases isCancelled
      · have waiting : Calm { app with
            phase := .tearingDown (.shutdownLoop loop) later
              { wait with begun := true } } :=
          calm.changeWait phase notCancelled late expired
        apply waiting.changeLoops
        intro other next found isDisturbed
        rcases setLoop_cases found with ⟨rfl, task, before, rfl⟩ | ⟨-, same⟩
        · exact ⟨task, before, isDisturbed⟩
        · exact ⟨next, same, isDisturbed⟩
  · exact calm

/-- The timeout cancels the loop that is being shut down. -/
theorem Calm.expire (calm : app.Calm) : app.expire.Calm := by
  rw [Lifespan.expire]
  split
  · rename_i loop later wait phase
    obtain ⟨notCancelled, -, -⟩ := calm.expired loop later wait phase
    split
    · constructor
      · exact calm.uncancelled
      · intro other next found isDisturbed
        rcases setLoop_cases found with ⟨rfl, -⟩ | ⟨-, same⟩
        · exact List.mem_append_right _ (List.mem_singleton.mpr rfl)
        · have member := calm.disturbed other next same isDisturbed
          rwa [begun, phase] at member
      · intro other others changed isPhase
        obtain ⟨-, -, rfl⟩ := LifespanPhase.tearingDown.inj isPhase
        exact ⟨notCancelled, fun _ => rfl, fun _ _ _ => rfl⟩
    · exact calm
  · exact calm

theorem Calm.resume (calm : app.Calm) (sound : app.Sound) :
    app.resume.Calm := by
  rw [Lifespan.resume]
  split
  · rename_i loop later wait phase
    obtain ⟨notCancelled, late, expired⟩ := calm.expired loop later wait phase
    split
    · exact calm
    · rename_i task found
      split
      · apply calm.endStep sound phase
        rw [LoopWait.ending, notCancelled, Bool.false_or]
        split
        · rename_i interrupted
          have inTime : wait.expired = false := by simp_all
          have isLate : task.phase = .cancelled ∨ wait.late = true := by
            simp_all
          rcases isLate with isCancelled | isLate
          · rw [expired task found (.inl isCancelled)] at inTime
            cases inTime
          · rw [late isLate] at inTime
            cases inTime
        · intro same
          cases same
      · exact calm
  · exact calm

/-- Calm events keep the application calm. -/
theorem Calm.step (calm : app.Calm) (sound : app.Sound)
    {event : LifespanEvent Failure} (isCalm : IsCalm event app) :
    (Lifespan.step event app).Calm := by
  cases event with
  | awaited ending setting => exact calm.finishAwaited sound isCalm setting
  | shutdownTurn => exact calm.shutdownTurn
  | expire => exact calm.expire
  | cancelLifespan => cases isCalm
  | resume => exact calm.resume sound
  | loopTurn loop ending now =>
      apply calm.changeLoops
      intro other next found isDisturbed
      rcases setLoop_cases found with ⟨rfl, task, before, rfl⟩ | ⟨-, same⟩
      · refine ⟨task, before, disturbed_of_turn (fun ended => ?_) isDisturbed⟩
        have requested := isCalm ended
        rwa [before] at requested
      · exact ⟨next, same, isDisturbed⟩
  | cancelLoop loop => cases isCalm
  | submit loop =>
      show (app.submit loop).Calm
      rw [Lifespan.submit]
      split
      · split
        · exact calm
        · exact ⟨calm.uncancelled, calm.disturbed, calm.expired⟩
      · exact calm

end Calm

/-- Timeouts cost no step of the teardown.  If nobody cancels anything but the
timeouts of the teardown, then whatever fails and however long the loops take,
an application that has ended has torn everything down and raises the first
error of the teardown or ends as its body did. -/
theorem timeouts_complete {events : List (LifespanEvent Failure)}
    (isCalm : Guarded step IsCalm events initial) {ending : Ending Failure}
    (ended : (run step events initial).phase = .ended ending) :
    let app := run step events initial
    app.log.Complete app.teardownSteps app.bodyEnding ending ∧
      ∀ loop task, app.loops loop = some task → task.isDone = true := by
  intro app
  have always : Always step (fun app => app.Sound ∧ app.Calm) events
      (initial : Lifespan Failure) := by
    refine always_of_guarded step ?_ ?_ isCalm
    · intro event app holds isCalm
      exact ⟨holds.1.move (move_step event app), holds.2.step holds.1 isCalm⟩
    · exact ⟨sound_initial,
        Calm.early rfl (fun _ _ found => by cases found) trivial⟩
  have calm : app.Sound ∧ app.Calm := always events List.prefix_rfl
  have fits := calm.1.fits
  rw [Fits, ended] at fits
  rcases fits with complete | cutShort
  · exact ⟨complete, fun loop task found =>
      calm.1.done_of_complete complete ended found⟩
  · obtain ⟨earlier, step, history, -⟩ := cutShort.history
    have notCancelled := calm.2.uncancelled (step, .cancelled)
      (by rw [history]; simp)
    exact absurd rfl notCancelled

/-- The scheduler does not stop in time, and a client does not disconnect. -/
def sampleTeardown : List (LifespanEvent String) :=
  List.replicate 9 (.awaited .returned none) ++
    [.loopTurn .scheduler .returned 5, .awaited .returned none, .shutdownTurn,
      .loopTurn .botDelivery .returned 6, .resume, .shutdownTurn, .expire,
      .loopTurn .scheduler .cancelled 14, .resume, .awaited .returned none,
      .awaited (.raised "disconnect failed") none] ++
    List.replicate 4 (.awaited .returned none)

theorem timeouts_complete_sample :
    let app := run step sampleTeardown initial
    app.phase = .ended (.raised "disconnect failed") ∧
      app.log.Complete app.teardownSteps app.bodyEnding
        (.raised "disconnect failed") := by
  have ended : (run step sampleTeardown initial).phase =
      .ended (.raised "disconnect failed") := by decide
  exact ⟨ended, (timeouts_complete (by decide) ended).1⟩

end Lifespan

end Tca
