import Tca.AppLifespan

/-!
# Tearing the application down

The teardown stops the loops, closes the writer queue, shuts down what else was
started and disposes of the storage.  The file describes what an event can do,
derives an invariant from it, and shows that no loop outlives the queue and that
the teardown reverses the startup, whatever fails in between.
-/

namespace Tca

open GuardedRuns

variable {Failure : Type}

namespace TeardownLog

variable (log : TeardownLog Failure)

/-- The steps that have ended. -/
def steps : List TeardownStep :=
  log.history.map Prod.fst

/-- What the steps have raised. -/
def failures : List Failure :=
  log.history.filterMap fun entry =>
    match entry.2 with
    | .raised failure => some failure
    | _ => none

/-- No step was cancelled. -/
def Uncancelled : Prop :=
  ∀ entry ∈ log.history, entry.2 ≠ .cancelled

/-- The teardown is under way. -/
structure Tidy : Prop where
  uncancelled : log.Uncancelled
  shutdownErrors : log.shutdownErrors = log.failures
  stateCleared : log.stateCleared = false

/-- The teardown is complete.  It raises the first error of its own, or else
the application ends as its body did. -/
structure Complete (planned : List TeardownStep)
    (bodyEnding ending : Ending Failure) : Prop where
  steps : log.steps = planned
  uncancelled : log.Uncancelled
  ending : ending = (log.failures.head?.map .raised).getD bodyEnding
  stateCleared : log.stateCleared = log.failures.isEmpty

/-- A cancellation has cut the teardown short. -/
structure CutShort (planned : List TeardownStep) (ending : Ending Failure) :
    Prop where
  steps : log.steps <+: planned
  history : ∃ earlier step, log.history = earlier ++ [(step, .cancelled)] ∧
    ∀ entry ∈ earlier, entry.2 ≠ .cancelled
  ending : ending = .cancelled
  stateCleared : log.stateCleared = false

end TeardownLog

namespace Lifespan

/-- The steps of the teardown that have begun. -/
def begun (app : Lifespan Failure) : List TeardownStep :=
  app.log.steps ++
    match app.phase with
    | .tearingDown step _ _ => [step]
    | _ => []

/-- What holds in each phase. -/
def Fits (app : Lifespan Failure) : Prop :=
  match app.phase with
  | .creatingRuntime | .buildingQueue => app.started = [] ∧ app.log = {}
  | .starting dependency later =>
      app.started ++ dependency :: later = startupOrder ∧
        app.hasQueue = true ∧ app.log = {}
  | .resolvingKey | .serving => app.started = startupOrder ∧ app.log = {}
  | .tearingDown step later _ =>
      app.log.steps ++ step :: later = app.teardownSteps ∧ app.log.Tidy
  | .ended ending =>
      app.log.Complete app.teardownSteps app.bodyEnding ending ∨
        app.log.CutShort app.teardownSteps ending

/-- The started dependencies, their tasks, and what the teardown has done about
them. -/
structure Grounded (app : Lifespan Failure) : Prop where
  started : app.started <+: startupOrder
  equipped : app.hasQueue = false → app.started = []
  tasks : ∀ loop, (app.loops loop).isSome = true ↔
    loop.dependency ∈ app.started
  stopped : ∀ loop ending, (.shutdownLoop loop, ending) ∈ app.log.history →
    ending ≠ .cancelled → app.loopDone loop = true
  spaced : ∀ loop task, app.loops loop = some task → task.Spaced
  refused : app.refused = 0

structure Sound (app : Lifespan Failure) : Prop extends Grounded app where
  fits : app.Fits
  closed : app.queueClosed = true → .closeQueue ∈ app.begun
  loopsFirst : ∀ step ∈ app.begun, step.isLoop = false →
    ∀ loop task, app.loops loop = some task → task.isDone = true

/-- The tasks of one state become those of another. -/
def LoopsFollow (loops later : BackgroundLoop → Option LoopTask) : Prop :=
  ∀ loop, match loops loop with
    | none => later loop = none
    | some task => ∃ next, later loop = some next ∧ task.Follows next

/-- No step of the teardown is under way. -/
def IsEarly (app : Lifespan Failure) : Prop :=
  match app.phase with
  | .tearingDown _ _ _ => False
  | _ => True

/-- What an event does. -/
inductive Move (app : Lifespan Failure) : Lifespan Failure → Prop
  | stays : Move app app
  | loops {loops : BackgroundLoop → Option LoopTask}
      (follows : LoopsFollow app.loops loops) : Move app { app with loops }
  | waits {loop : BackgroundLoop} {later : List TeardownStep}
      {wait changed : LoopWait} {loops : BackgroundLoop → Option LoopTask}
      (phase : app.phase = .tearingDown (.shutdownLoop loop) later wait)
      (follows : LoopsFollow app.loops loops) :
      Move app { app with
        phase := .tearingDown (.shutdownLoop loop) later changed
        loops }
  | refuses {loop : BackgroundLoop} {task : LoopTask}
      (found : app.loops loop = some task) (live : task.isDone = false)
      (notOpen : app.hasQueue = true → app.queueClosed = true) :
      Move app { app with refused := app.refused + 1 }
  | createsRuntime (phase : app.phase = .creatingRuntime) :
      Move app { app with hasRuntime := true, phase := .buildingQueue }
  | buildsQueue (phase : app.phase = .buildingQueue) :
      Move app ({ app with hasQueue := true }.startNext startupOrder)
  | starts {dependency : Dependency} {later : List Dependency}
      (phase : app.phase = .starting dependency later)
      (setting : Option PyValue) :
      Move app ((app.launch dependency setting).startNext later)
  | serves (phase : app.phase = .resolvingKey) :
      Move app { app with phase := .serving }
  | tearsDown (untouched : app.Fits → app.log = {}) (early : app.IsEarly)
      (ending : Ending Failure) : Move app (app.tearDown ending)
  | ends {step : TeardownStep} {later : List TeardownStep} {wait : LoopWait}
      (phase : app.phase = .tearingDown step later wait)
      (ending : Ending Failure)
      (loopEnds : ∀ loop, step = .shutdownLoop loop → ending ≠ .cancelled →
        app.loopDone loop = true) :
      Move app (app.endStep step later ending)

section Moves

variable {app : Lifespan Failure}

theorem loopsFollow_refl (loops : BackgroundLoop → Option LoopTask) :
    LoopsFollow loops loops := by
  intro loop
  cases loops loop with
  | none => rfl
  | some task => exact ⟨task, rfl, .refl task⟩

theorem loopsFollow_setLoop (loop : BackgroundLoop)
    {change : LoopTask → LoopTask}
    (follows : ∀ task, LoopTask.Follows task (change task)) :
    LoopsFollow app.loops (app.setLoop loop change) := by
  intro other
  by_cases same : other = loop
  · subst same
    rw [setLoop, Function.update_self]
    cases app.loops other with
    | none => rfl
    | some task => exact ⟨change task, rfl, follows task⟩
  · rw [setLoop, Function.update_of_ne same]
    exact loopsFollow_refl app.loops other

theorem move_orTearDown {next : Lifespan Failure} (goesOn : Move app next)
    (untouched : app.Fits → app.log = {}) (early : app.IsEarly)
    (ending : Ending Failure) : Move app (app.orTearDown next ending) := by
  cases ending with
  | returned => exact goesOn
  | raised failure => exact .tearsDown untouched early _
  | cancelled => exact .tearsDown untouched early _

theorem IsEarly.phase_ne (early : app.IsEarly) {step : TeardownStep}
    {later : List TeardownStep} {wait : LoopWait} :
    app.phase ≠ .tearingDown step later wait := by
  intro phase
  rw [IsEarly, phase] at early
  exact early

theorem move_finishAwaited (ending : Ending Failure)
    (setting : Option PyValue) :
    Move app (app.finishAwaited ending setting) := by
  rw [finishAwaited]
  split
  · rename_i phase
    apply move_orTearDown (.createsRuntime phase)
    · rw [Fits, phase]
      exact And.right
    · rw [IsEarly, phase]
      trivial
  · rename_i phase
    apply move_orTearDown (.buildsQueue phase)
    · rw [Fits, phase]
      exact And.right
    · rw [IsEarly, phase]
      trivial
  · rename_i dependency later phase
    apply move_orTearDown (.starts phase setting)
    · rw [Fits, phase]
      exact fun fits => fits.2.2
    · rw [IsEarly, phase]
      trivial
  · rename_i phase
    apply move_orTearDown (.serves phase)
    · rw [Fits, phase]
      exact And.right
    · rw [IsEarly, phase]
      trivial
  · rename_i phase
    apply Move.tearsDown
    · rw [Fits, phase]
      exact And.right
    · rw [IsEarly, phase]
      trivial
  · exact .stays
  · rename_i step later wait notLoop phase
    apply Move.ends phase
    intro loop same
    exact absurd same (notLoop loop)
  · exact .stays

theorem move_shutdownTurn : Move app app.shutdownTurn := by
  rw [shutdownTurn]
  split
  · rename_i loop later wait phase
    split
    · exact .stays
    · split
      · apply Move.ends phase
        intro _ _ notCancelled
        exact absurd rfl notCancelled
      · exact .waits phase (loopsFollow_setLoop loop fun _ =>
          LoopTask.follows_stop)
  · exact .stays

theorem move_expire : Move app app.expire := by
  rw [expire]
  split
  · rename_i loop later wait phase
    split
    · exact .waits phase (loopsFollow_setLoop loop fun _ =>
        LoopTask.follows_cancel)
    · exact .stays
  · exact .stays

theorem move_cancelLifespan : Move app app.cancelLifespan := by
  rw [cancelLifespan]
  split
  · rename_i loop later wait phase
    split
    · exact .waits phase (loopsFollow_setLoop loop fun _ =>
        LoopTask.follows_cancel)
    · exact .waits phase (loopsFollow_refl app.loops)
  · exact .stays

theorem move_resume : Move app app.resume := by
  rw [resume]
  split
  · rename_i loop later wait phase
    split
    · exact .stays
    · rename_i task found
      split
      · rename_i finished
        apply Move.ends phase
        intro other same _
        obtain rfl := TeardownStep.shutdownLoop.inj same
        rw [loopDone, found]
        exact (Bool.and_eq_true _ _ ▸ finished).2
      · exact .stays
  · exact .stays

theorem move_submit (loop : BackgroundLoop) : Move app (app.submit loop) := by
  rw [submit]
  split
  · rename_i found
    split
    · exact .stays
    · rename_i notOpen
      apply Move.refuses found (by simp [LoopTask.isDone])
      intro hasQueue
      simpa [hasQueue] using notOpen
  · exact .stays

/-- Every event is one of the moves. -/
theorem move_step (event : LifespanEvent Failure) (app : Lifespan Failure) :
    Move app (step event app) := by
  cases event with
  | awaited ending setting => exact move_finishAwaited ending setting
  | shutdownTurn => exact move_shutdownTurn
  | expire => exact move_expire
  | cancelLifespan => exact move_cancelLifespan
  | resume => exact move_resume
  | loopTurn loop ending now =>
      exact .loops (loopsFollow_setLoop loop fun _ =>
        LoopTask.follows_turn ending now)
  | cancelLoop loop =>
      exact .loops (loopsFollow_setLoop loop fun _ => LoopTask.follows_cancel)
  | submit loop => exact move_submit loop

end Moves

section Preservation

variable {app : Lifespan Failure}

theorem loopDone_of_follow {loops : BackgroundLoop → Option LoopTask}
    (follows : LoopsFollow app.loops loops) {loop : BackgroundLoop}
    (finished : app.loopDone loop = true) :
    (loops loop).any LoopTask.isDone = true := by
  have follow := follows loop
  rw [loopDone] at finished
  cases found : app.loops loop with
  | none =>
      rw [found] at finished
      cases finished
  | some task =>
      rw [found] at follow finished
      obtain ⟨next, found, nextFollows⟩ := follow
      rw [found]
      exact (nextFollows.done finished).1

theorem isSome_of_follow {loops : BackgroundLoop → Option LoopTask}
    (follows : LoopsFollow app.loops loops) (loop : BackgroundLoop) :
    (loops loop).isSome = (app.loops loop).isSome := by
  have follow := follows loop
  cases found : app.loops loop with
  | none =>
      rw [found] at follow
      rw [follow]
  | some task =>
      rw [found] at follow
      obtain ⟨next, found, -⟩ := follow
      rw [found]
      rfl

theorem spaced_of_follow {loops : BackgroundLoop → Option LoopTask}
    (follows : LoopsFollow app.loops loops)
    (spaced : ∀ loop task, app.loops loop = some task → task.Spaced)
    (loop : BackgroundLoop) (task : LoopTask) (found : loops loop = some task) :
    task.Spaced := by
  have follow := follows loop
  cases earlier : app.loops loop with
  | none =>
      rw [earlier] at follow
      rw [follow] at found
      cases found
  | some before =>
      rw [earlier] at follow
      obtain ⟨next, same, nextFollows⟩ := follow
      obtain rfl := Option.some.inj (same.symm.trans found)
      exact nextFollows.spaced (spaced loop before earlier)

/-- Done tasks stay done. -/
theorem done_of_follow {loops : BackgroundLoop → Option LoopTask}
    (follows : LoopsFollow app.loops loops) {loop : BackgroundLoop}
    {task : LoopTask} (found : loops loop = some task)
    (finished : ∀ task, app.loops loop = some task → task.isDone = true) :
    task.isDone = true := by
  have follow := follows loop
  cases earlier : app.loops loop with
  | none =>
      rw [earlier] at follow
      rw [follow] at found
      cases found
  | some before =>
      rw [earlier] at follow
      obtain ⟨next, same, nextFollows⟩ := follow
      obtain rfl := Option.some.inj (same.symm.trans found)
      exact (nextFollows.done (finished before earlier)).1

theorem Grounded.changeLoops (grounded : app.Grounded)
    {loops : BackgroundLoop → Option LoopTask}
    (follows : LoopsFollow app.loops loops) : { app with loops }.Grounded where
  started := grounded.started
  equipped := grounded.equipped
  tasks loop := by
    rw [isSome_of_follow follows]
    exact grounded.tasks loop
  stopped loop ending member notCancelled :=
    loopDone_of_follow follows
      (grounded.stopped loop ending member notCancelled)
  spaced := spaced_of_follow follows grounded.spaced
  refused := grounded.refused

theorem Sound.changeLoops (sound : app.Sound)
    {loops : BackgroundLoop → Option LoopTask}
    (follows : LoopsFollow app.loops loops) : { app with loops }.Sound where
  toGrounded := sound.toGrounded.changeLoops follows
  fits := sound.fits
  closed := sound.closed
  loopsFirst step member notLoop loop _ found :=
    done_of_follow follows found (sound.loopsFirst step member notLoop loop)

theorem Sound.changeWait (sound : app.Sound) {step : TeardownStep}
    {later : List TeardownStep} {wait : LoopWait}
    (phase : app.phase = .tearingDown step later wait) (changed : LoopWait) :
    { app with phase := .tearingDown step later changed }.Sound := by
  have sameBegun : begun { app with phase := .tearingDown step later changed } =
      app.begun := by
    simp only [begun, phase]
  constructor
  · exact ⟨sound.started, sound.equipped, sound.tasks, sound.stopped,
      sound.spaced, sound.refused⟩
  · have fits := sound.fits
    unfold Fits at fits ⊢
    rw [phase] at fits
    exact fits
  · rw [sameBegun]
    exact sound.closed
  · rw [sameBegun]
    exact sound.loopsFirst

/-- The loops come first in the teardown. -/
theorem teardownSteps_loopsFirst (app : Lifespan Failure) :
    app.teardownSteps.Pairwise fun first second =>
      second.isLoop = true → first.isLoop = true := by
  apply List.Pairwise.filter
  decide

/-- If the next step is no loop, then every loop is done. -/
theorem Grounded.loops_done (grounded : app.Grounded)
    (uncancelled : app.log.Uncancelled) {later : List TeardownStep}
    (planned : app.log.steps ++ later = app.teardownSteps)
    (noLoop : ∀ step ∈ later.head?, step.isLoop = false) {loop : BackgroundLoop}
    {task : LoopTask} (found : app.loops loop = some task) :
    task.isDone = true := by
  have isStarted : loop.dependency ∈ app.started := by
    rw [← grounded.tasks, found]
    rfl
  have isPlanned : .shutdownLoop loop ∈ app.teardownSteps := by
    apply List.mem_filter.mpr
    constructor
    · cases loop <;> decide
    · exact decide_eq_true isStarted
  have ordered := app.teardownSteps_loopsFirst
  rw [← planned] at isPlanned ordered
  have ended : .shutdownLoop loop ∈ app.log.steps := by
    rcases List.mem_append.mp isPlanned with ended | remains
    · exact ended
    · exfalso
      cases later with
      | nil => cases remains
      | cons next later =>
          have notLoop := noLoop next rfl
          rcases List.mem_cons.mp remains with rfl | remains
          · cases notLoop
          · have before := List.rel_of_pairwise_cons
              (List.pairwise_append.mp ordered).2.1 remains rfl
            rw [notLoop] at before
            cases before
  obtain ⟨⟨step, ending⟩, member, same⟩ := List.mem_map.mp ended
  obtain rfl : step = .shutdownLoop loop := same
  have finished := grounded.stopped loop ending member
    (uncancelled _ member)
  rwa [loopDone, found] at finished

/-- The lifespan goes on with the next step. -/
theorem Grounded.beginSteps (grounded : app.Grounded) (tidy : app.log.Tidy)
    {later : List TeardownStep}
    (planned : app.log.steps ++ later = app.teardownSteps)
    (closed : app.queueClosed = true → .closeQueue ∈ app.log.steps)
    (loopsFirst : ∀ step ∈ app.log.steps, step.isLoop = false →
      ∀ loop task, app.loops loop = some task → task.isDone = true) :
    (app.beginSteps later).Sound := by
  cases later with
  | nil =>
      rw [List.append_nil] at planned
      rw [Lifespan.beginSteps, finish]
      have errors := tidy.shutdownErrors
      split
      · rename_i failure others kept
        rw [kept] at errors
        constructor
        · exact ⟨grounded.started, grounded.equipped, grounded.tasks,
            grounded.stopped, grounded.spaced, grounded.refused⟩
        · left
          constructor
          · exact planned
          · exact tidy.uncancelled
          · rw [← errors]
            rfl
          · rw [← errors]
            exact tidy.stateCleared
        · exact fun isClosed => List.mem_append_left _ (closed isClosed)
        · intro step member
          exact loopsFirst step
            ((List.mem_append.mp member).resolve_right List.not_mem_nil)
      · rename_i kept
        rw [kept] at errors
        constructor
        · exact ⟨grounded.started, grounded.equipped, grounded.tasks,
            grounded.stopped, grounded.spaced, grounded.refused⟩
        · left
          have noFailures : app.log.failures = [] := errors.symm
          constructor
          · exact planned
          · exact tidy.uncancelled
          · show _ = (app.log.failures.head?.map _).getD _
            rw [noFailures]
            rfl
          · show true = app.log.failures.isEmpty
            rw [noFailures]
            rfl
        · exact fun isClosed => List.mem_append_left _ (closed isClosed)
        · intro step member
          exact loopsFirst step
            ((List.mem_append.mp member).resolve_right List.not_mem_nil)
  | cons step later =>
      constructor
      · exact ⟨grounded.started, grounded.equipped, grounded.tasks,
          grounded.stopped, grounded.spaced, grounded.refused⟩
      · exact ⟨planned, tidy⟩
      · intro isClosed
        apply List.mem_append.mpr
        by_cases isClose : step = .closeQueue
        · right
          exact List.mem_singleton.mpr isClose.symm
        · left
          apply closed
          rwa [Lifespan.beginSteps, if_neg isClose] at isClosed
      · intro other member notLoop loop task found
        rcases List.mem_append.mp member with ended | current
        · exact loopsFirst other ended notLoop loop task found
        · obtain rfl := List.mem_singleton.mp current
          apply grounded.loops_done tidy.uncancelled planned _ found
          intro next isNext
          obtain rfl := Option.some.inj isNext
          exact notLoop

theorem begun_eq_nil (untouched : app.log = {})
    (early : app.IsEarly) :
    app.begun = [] := by
  rw [begun, untouched]
  split
  · rename_i step later wait phase
    exact absurd phase early.phase_ne
  · rfl

/-- Nothing has been torn down before the teardown. -/
theorem Sound.queueClosed_eq_false (sound : app.Sound)
    (untouched : app.log = {})
    (early : app.IsEarly) :
    app.queueClosed = false := by
  by_contra isClosed
  have member := sound.closed (by simpa using isClosed)
  rw [begun_eq_nil untouched early] at member
  cases member

theorem Sound.tearDown (sound : app.Sound) (untouched : app.log = {})
    (early : app.IsEarly) (ending : Ending Failure) :
    (app.tearDown ending).Sound := by
  have noSteps : app.log.steps = [] := by
    rw [untouched]
    rfl
  apply Grounded.beginSteps
  · exact ⟨sound.started, sound.equipped, sound.tasks, sound.stopped,
      sound.spaced, sound.refused⟩
  · show app.log.Tidy
    rw [untouched]
    exact ⟨fun _ absent => absurd absent List.not_mem_nil, rfl, rfl⟩
  · show app.log.steps ++ _ = _
    rw [noSteps]
    rfl
  · intro isClosed
    rw [sound.queueClosed_eq_false untouched early] at isClosed
    cases isClosed
  · intro step member
    replace member : step ∈ app.log.steps := member
    rw [noSteps] at member
    cases member

theorem mem_history_append {history : List (TeardownStep × Ending Failure)}
    {step other : TeardownStep} {ending otherEnding : Ending Failure}
    (member : (other, otherEnding) ∈ history ++ [(step, ending)]) :
    (other, otherEnding) ∈ history ∨ (step = other ∧ ending = otherEnding) := by
  rcases List.mem_append.mp member with earlier | last
  · exact .inl earlier
  · have same := List.mem_singleton.mp last
    exact .inr ⟨(congrArg Prod.fst same).symm, (congrArg Prod.snd same).symm⟩

theorem Sound.endStep (sound : app.Sound) {step : TeardownStep}
    {later : List TeardownStep} {wait : LoopWait}
    (phase : app.phase = .tearingDown step later wait)
    (ending : Ending Failure)
    (loopEnds : ∀ loop, step = .shutdownLoop loop → ending ≠ .cancelled →
      app.loopDone loop = true) : (app.endStep step later ending).Sound := by
  have fits := sound.fits
  rw [Fits, phase] at fits
  obtain ⟨planned, tidy⟩ := fits
  have isBegun : app.begun = app.log.steps ++ [step] := by
    rw [begun, phase]
  have steps_append (ending : Ending Failure) :
      (app.log.history ++ [(step, ending)]).map Prod.fst = app.begun := by
    rw [List.map_append, isBegun]
    rfl
  have stopped : ∀ loop other,
      (.shutdownLoop loop, other) ∈ app.log.history ++ [(step, ending)] →
      other ≠ .cancelled → app.loopDone loop = true := by
    intro loop other member notCancelled
    rcases mem_history_append member with earlier | ⟨same, rfl⟩
    · exact sound.stopped loop other earlier notCancelled
    · exact loopEnds loop same notCancelled
  have plannedAfter : app.begun ++ later = app.teardownSteps := by
    rw [isBegun, List.append_assoc]
    exact planned
  have uncancelled (notCancelled : ending ≠ .cancelled) :
      ∀ entry ∈ app.log.history ++ [(step, ending)], entry.2 ≠ .cancelled := by
    intro entry member
    rcases List.mem_append.mp member with earlier | last
    · exact tidy.uncancelled entry earlier
    · rw [List.mem_singleton.mp last]
      exact notCancelled
  cases ending with
  | returned =>
      apply Grounded.beginSteps
      · exact ⟨sound.started, sound.equipped, sound.tasks, stopped,
          sound.spaced, sound.refused⟩
      · constructor
        · exact uncancelled nofun
        · simpa [TeardownLog.failures] using tidy.shutdownErrors
        · exact tidy.stateCleared
      · rw [TeardownLog.steps, steps_append]
        exact plannedAfter
      · rw [TeardownLog.steps, steps_append]
        exact sound.closed
      · rw [TeardownLog.steps, steps_append]
        exact sound.loopsFirst
  | raised failure =>
      apply Grounded.beginSteps
      · exact ⟨sound.started, sound.equipped, sound.tasks, stopped,
          sound.spaced, sound.refused⟩
      · constructor
        · exact uncancelled nofun
        · rw [TeardownLog.failures, List.filterMap_append]
          show app.log.shutdownErrors ++ [failure] = _
          rw [tidy.shutdownErrors]
          rfl
        · exact tidy.stateCleared
      · rw [TeardownLog.steps, steps_append]
        exact plannedAfter
      · rw [TeardownLog.steps, steps_append]
        exact sound.closed
      · rw [TeardownLog.steps, steps_append]
        exact sound.loopsFirst
  | cancelled =>
      have sameBegun : (app.endStep step later .cancelled).begun =
          app.begun := by
        rw [Lifespan.endStep, begun, TeardownLog.steps, steps_append,
          List.append_nil]
      constructor
      · exact ⟨sound.started, sound.equipped, sound.tasks, stopped,
          sound.spaced, sound.refused⟩
      · right
        constructor
        · show (app.log.history ++
            [(step, Ending.cancelled)]).map Prod.fst <+: _
          rw [steps_append]
          exact ⟨later, plannedAfter⟩
        · exact ⟨app.log.history, step, rfl, tidy.uncancelled⟩
        · rfl
        · exact tidy.stateCleared
      · rw [sameBegun]
        exact sound.closed
      · rw [sameBegun]
        exact sound.loopsFirst

/-- A loop that is alive finds the writer queue open, and of the teardown at
most the shutdown of loops has begun. -/
theorem Sound.live_loop (sound : app.Sound) {loop : BackgroundLoop}
    {task : LoopTask} (found : app.loops loop = some task)
    (live : task.isDone = false) :
    app.hasQueue = true ∧ app.queueClosed = false ∧
      ∀ step ∈ app.begun, step.isLoop = true := by
  have onlyLoops : ∀ step ∈ app.begun, step.isLoop = true := by
    intro step member
    by_contra notLoop
    have finished := sound.loopsFirst step member (by simpa using notLoop)
      loop task found
    rw [live] at finished
    cases finished
  refine ⟨?_, ?_, onlyLoops⟩
  · by_contra noQueue
    have isStarted : loop.dependency ∈ app.started := by
      rw [← sound.tasks, found]
      rfl
    rw [sound.equipped (by simpa using noQueue)] at isStarted
    cases isStarted
  · by_contra isClosed
    have isLoop := onlyLoops _ (sound.closed (by simpa using isClosed))
    cases isLoop

/-- A service that starts creates its task. -/
theorem launch_loops (app : Lifespan Failure) (dependency : Dependency)
    (setting : Option PyValue) (loop : BackgroundLoop) :
    (loop.dependency = dependency ∧ ∃ intervalSeconds,
        (app.launch dependency setting).loops loop =
          some (.fresh intervalSeconds)) ∨
      (loop.dependency ≠ dependency ∧
        (app.launch dependency setting).loops loop = app.loops loop) := by
  cases dependency with
  | scheduler =>
      cases loop with
      | scheduler => exact .inl ⟨rfl, none, rfl⟩
      | botDelivery => exact .inr ⟨nofun, rfl⟩
  | botDelivery =>
      cases loop with
      | scheduler => exact .inr ⟨nofun, rfl⟩
      | botDelivery => exact .inl ⟨rfl, _, rfl⟩
  | db | settings | auth | telethonManager =>
      right
      constructor
      · cases loop <;> exact nofun
      · rfl

theorem launch_started (app : Lifespan Failure) (dependency : Dependency)
    (setting : Option PyValue) :
    (app.launch dependency setting).started = app.started ++ [dependency] := by
  cases dependency <;> rfl

theorem launch_frame (app : Lifespan Failure) (dependency : Dependency)
    (setting : Option PyValue) :
    (app.launch dependency setting).log = app.log ∧
      (app.launch dependency setting).hasQueue = app.hasQueue ∧
      (app.launch dependency setting).queueClosed = app.queueClosed ∧
      (app.launch dependency setting).refused = app.refused := by
  cases dependency <;> exact ⟨rfl, rfl, rfl, rfl⟩

/-- A dependency that starts is the next one of the startup. -/
theorem Grounded.launch (grounded : app.Grounded) {dependency : Dependency}
    {later : List Dependency}
    (inOrder : app.started ++ dependency :: later = startupOrder)
    (untouched : app.log = {}) (hasQueue : app.hasQueue = true)
    (setting : Option PyValue) : (app.launch dependency setting).Grounded := by
  obtain ⟨sameLog, sameQueue, -, sameRefused⟩ :=
    app.launch_frame dependency setting
  constructor
  · rw [launch_started]
    refine ⟨later, ?_⟩
    rw [List.append_assoc]
    exact inOrder
  · intro noQueue
    rw [sameQueue, hasQueue] at noQueue
    cases noQueue
  · intro loop
    rw [launch_started, List.mem_append, List.mem_singleton]
    rcases app.launch_loops dependency setting loop with
      ⟨same, intervalSeconds, found⟩ | ⟨different, found⟩
    · rw [found]
      simp [same]
    · rw [found, grounded.tasks]
      simp [different]
  · intro loop ending member
    rw [sameLog, untouched] at member
    cases member
  · intro loop task found
    rcases app.launch_loops dependency setting loop with
      ⟨-, intervalSeconds, isFresh⟩ | ⟨-, same⟩
    · obtain rfl := Option.some.inj (isFresh.symm.trans found)
      exact LoopTask.spaced_fresh intervalSeconds
    · exact grounded.spaced loop task (same.symm.trans found)
  · rw [sameRefused]
    exact grounded.refused

/-- The startup goes on. -/
theorem Grounded.startNext (grounded : app.Grounded) {later : List Dependency}
    (inOrder : app.started ++ later = startupOrder)
    (hasQueue : app.hasQueue = true) (untouched : app.log = {})
    (queueOpen : app.queueClosed = false) : (app.startNext later).Sound := by
  have frame : (app.startNext later).Grounded ∧
      (app.startNext later).begun = [] ∧ (app.startNext later).Fits ∧
      (app.startNext later).queueClosed = false := by
    cases later with
    | nil =>
        rw [List.append_nil] at inOrder
        refine ⟨⟨grounded.started, grounded.equipped, grounded.tasks,
          grounded.stopped, grounded.spaced, grounded.refused⟩, ?_,
          ⟨inOrder, untouched⟩, queueOpen⟩
        rw [Lifespan.startNext, begun, untouched]
        rfl
    | cons dependency later =>
        refine ⟨⟨grounded.started, grounded.equipped, grounded.tasks,
          grounded.stopped, grounded.spaced, grounded.refused⟩, ?_,
          ⟨inOrder, hasQueue, untouched⟩, queueOpen⟩
        rw [Lifespan.startNext, begun, untouched]
        rfl
  obtain ⟨groundedNext, noneBegun, fits, notClosed⟩ := frame
  constructor
  · exact groundedNext
  · exact fits
  · intro isClosed
    rw [notClosed] at isClosed
    cases isClosed
  · intro step member
    rw [noneBegun] at member
    cases member

/-- Another early phase. -/
theorem Grounded.earlyPhase (grounded : app.Grounded) (fits : app.Fits)
    (untouched : app.log = {}) (queueOpen : app.queueClosed = false)
    (early : app.IsEarly) : app.Sound where
  toGrounded := grounded
  fits := fits
  closed isClosed := by
    rw [queueOpen] at isClosed
    cases isClosed
  loopsFirst step member := by
    rw [begun_eq_nil untouched early] at member
    cases member

/-- Every move keeps the invariant. -/
theorem Sound.move (sound : app.Sound) {next : Lifespan Failure}
    (move : Move app next) : next.Sound := by
  have fits := sound.fits
  cases move with
  | stays => exact sound
  | loops follows => exact sound.changeLoops follows
  | waits phase follows =>
      exact (sound.changeWait phase _).changeLoops follows
  | refuses found live notOpen =>
      obtain ⟨hasQueue, notClosed, -⟩ := sound.live_loop found live
      rw [notOpen hasQueue] at notClosed
      cases notClosed
  | createsRuntime phase =>
      rw [Fits, phase] at fits
      have early : app.IsEarly := by
        rw [IsEarly, phase]
        trivial
      apply Grounded.earlyPhase
      · exact ⟨sound.started, sound.equipped, sound.tasks, sound.stopped,
          sound.spaced, sound.refused⟩
      · exact fits
      · exact fits.2
      · exact sound.queueClosed_eq_false fits.2 early
      · trivial
  | buildsQueue phase =>
      rw [Fits, phase] at fits
      have early : app.IsEarly := by
        rw [IsEarly, phase]
        trivial
      apply Grounded.startNext
      · exact ⟨sound.started, fun _ => fits.1, sound.tasks, sound.stopped,
          sound.spaced, sound.refused⟩
      · show app.started ++ startupOrder = startupOrder
        rw [fits.1]
        rfl
      · rfl
      · exact fits.2
      · exact sound.queueClosed_eq_false fits.2 early
  | starts phase setting =>
      rw [Fits, phase] at fits
      obtain ⟨inOrder, hasQueue, untouched⟩ := fits
      have early : app.IsEarly := by
        rw [IsEarly, phase]
        trivial
      obtain ⟨sameLog, sameQueue, sameClosed, -⟩ := app.launch_frame _ setting
      apply Grounded.startNext
      · exact sound.toGrounded.launch inOrder untouched hasQueue setting
      · rw [launch_started, List.append_assoc]
        exact inOrder
      · rw [sameQueue, hasQueue]
      · rw [sameLog, untouched]
      · rw [sameClosed]
        exact sound.queueClosed_eq_false untouched early
  | serves phase =>
      rw [Fits, phase] at fits
      have early : app.IsEarly := by
        rw [IsEarly, phase]
        trivial
      apply Grounded.earlyPhase
      · exact ⟨sound.started, sound.equipped, sound.tasks, sound.stopped,
          sound.spaced, sound.refused⟩
      · exact fits
      · exact fits.2
      · exact sound.queueClosed_eq_false fits.2 early
      · trivial
  | tearsDown untouched early ending =>
      exact sound.tearDown (untouched sound.fits) early ending
  | ends phase ending loopEnds => exact sound.endStep phase ending loopEnds

theorem sound_initial : (initial : Lifespan Failure).Sound where
  started := List.nil_prefix
  equipped _ := rfl
  tasks loop := by simp [initial]
  stopped _ _ member := by cases member
  spaced _ _ found := by cases found
  refused := rfl
  fits := ⟨rfl, rfl⟩
  closed isClosed := by cases isClosed
  loopsFirst _ member := by cases member

theorem always_sound (events : List (LifespanEvent Failure)) :
    Always step Sound events initial :=
  always_of_preserved step
    (fun event app sound => sound.move (move_step event app)) events
    sound_initial

/-- Tasks stay, and those that are stopped or done tick no more. -/
def KeepsTasks (earlier later : Lifespan Failure) : Prop :=
  ∀ loop task, earlier.loops loop = some task →
    ∃ same, later.loops loop = some same ∧
      (task.stopSet = true → same.stopSet = true) ∧
      (task.isDone = true → same.isDone = true) ∧
      (task.stopSet = true ∨ task.isDone = true → same.ticks = task.ticks)

theorem KeepsTasks.refl (app : Lifespan Failure) : KeepsTasks app app :=
  fun _ task found => ⟨task, found, id, id, fun _ => rfl⟩

theorem KeepsTasks.trans {first second third : Lifespan Failure}
    (earlier : KeepsTasks first second) (later : KeepsTasks second third) :
    KeepsTasks first third := by
  intro loop task found
  obtain ⟨middle, foundMiddle, stopped, done, ticks⟩ := earlier loop task found
  obtain ⟨last, foundLast, stoppedLast, doneLast, ticksLast⟩ :=
    later loop middle foundMiddle
  refine ⟨last, foundLast, stoppedLast ∘ stopped, doneLast ∘ done, ?_⟩
  intro ended
  rw [ticksLast (ended.imp stopped done), ticks ended]

theorem keepsTasks_of_loops_eq {next : Lifespan Failure}
    (same : next.loops = app.loops) : KeepsTasks app next := by
  intro loop task found
  exact ⟨task, same ▸ found, id, id, fun _ => rfl⟩

theorem keepsTasks_of_follow {next : Lifespan Failure}
    (follows : LoopsFollow app.loops next.loops) : KeepsTasks app next := by
  intro loop task found
  have follow := follows loop
  rw [found] at follow
  obtain ⟨later, foundLater, taskFollows⟩ := follow
  refine ⟨later, foundLater, fun stopped => (taskFollows.stopped stopped).1,
    fun done => (taskFollows.done done).1, ?_⟩
  rintro (stopped | done)
  · exact (taskFollows.stopped stopped).2
  · exact (taskFollows.done done).2

theorem loops_beginSteps (app : Lifespan Failure) (later : List TeardownStep) :
    (app.beginSteps later).loops = app.loops := by
  cases later with
  | nil =>
      rw [Lifespan.beginSteps, finish]
      split <;> rfl
  | cons step later => rfl

theorem loops_endStep (app : Lifespan Failure) (step : TeardownStep)
    (later : List TeardownStep) (ending : Ending Failure) :
    (app.endStep step later ending).loops = app.loops := by
  cases ending with
  | returned => exact loops_beginSteps _ later
  | raised failure => exact loops_beginSteps _ later
  | cancelled => rfl

theorem loops_startNext (app : Lifespan Failure) (later : List Dependency) :
    (app.startNext later).loops = app.loops := by
  cases later <;> rfl

theorem Sound.keepsTasks (sound : app.Sound) {next : Lifespan Failure}
    (move : Move app next) : KeepsTasks app next := by
  cases move with
  | stays => exact .refl app
  | loops follows => exact keepsTasks_of_follow follows
  | waits phase follows => exact keepsTasks_of_follow follows
  | refuses found live notOpen => exact keepsTasks_of_loops_eq rfl
  | createsRuntime phase => exact keepsTasks_of_loops_eq rfl
  | buildsQueue phase => exact keepsTasks_of_loops_eq rfl
  | serves phase => exact keepsTasks_of_loops_eq rfl
  | tearsDown untouched early ending =>
      exact keepsTasks_of_loops_eq (loops_beginSteps _ _)
  | ends phase ending loopEnds =>
      exact keepsTasks_of_loops_eq (loops_endStep app _ _ ending)
  | @starts dependency later phase setting =>
      intro loop task found
      have fits := sound.fits
      rw [Fits, phase] at fits
      -- A dependency that is being started has no task yet.
      have isStarted : loop.dependency ∈ app.started := by
        rw [← sound.tasks, found]
        rfl
      have ordered : startupOrder.Nodup := by decide
      rw [← fits.1] at ordered
      rw [loops_startNext]
      rcases app.launch_loops dependency setting loop with
        ⟨rfl, -⟩ | ⟨-, same⟩
      · exact absurd rfl (List.nodup_append.mp ordered |>.2.2 _ isStarted _
          List.mem_cons_self)
      · exact ⟨task, same.trans found, id, id, fun _ => rfl⟩

/-- The teardown keeps to its plan. -/
theorem Sound.begun_prefix (sound : app.Sound) :
    app.begun <+: app.teardownSteps := by
  have fits := sound.fits
  rw [begun]
  unfold Fits at fits
  split at fits
  · rename_i phase
    rw [fits.2, phase]
    exact List.nil_prefix
  · rename_i phase
    rw [fits.2, phase]
    exact List.nil_prefix
  · rename_i phase
    rw [fits.2.2, phase]
    exact List.nil_prefix
  · rename_i phase
    rw [fits.2, phase]
    exact List.nil_prefix
  · rename_i phase
    rw [fits.2, phase]
    exact List.nil_prefix
  · rename_i step later wait phase
    rw [phase]
    refine ⟨later, ?_⟩
    rw [List.append_assoc]
    exact fits.1
  · rename_i ending phase
    rw [phase, List.append_nil]
    rcases fits with complete | cutShort
    · rw [complete.steps]
    · exact cutShort.steps

/-- A prefix of a list without repetitions is what the list has of it. -/
theorem filter_mem_prefix {Element : Type} [DecidableEq Element]
    {first whole : List Element} (isPrefix : first <+: whole)
    (nodup : whole.Nodup) : whole.filter (· ∈ first) = first := by
  obtain ⟨rest, rfl⟩ := isPrefix
  have apart := (List.nodup_append.mp nodup).2.2
  rw [List.filter_append, List.filter_eq_self.mpr fun element member =>
    decide_eq_true member, List.filter_eq_nil_iff.mpr, List.append_nil]
  intro element inRest inFirst
  exact apart element (of_decide_eq_true inFirst) element inRest rfl

theorem dependencies_filter (app : Lifespan Failure)
    (steps : List TeardownStep) :
    (steps.filter app.applies).filterMap TeardownStep.dependency? =
      (steps.filterMap TeardownStep.dependency?).filter (· ∈ app.started) := by
  induction steps with
  | nil => rfl
  | cons step steps ih =>
      cases step with
      | shutdownLoop loop =>
          by_cases isStarted : loop.dependency ∈ app.started <;>
            simp [applies, TeardownStep.dependency?, isStarted, ih]
      | shutdown dependency =>
          by_cases isStarted : dependency ∈ app.started <;>
            simp [applies, TeardownStep.dependency?, isStarted, ih]
      | closeQueue =>
          cases hasQueue : app.hasQueue <;>
            simp [List.filterMap_cons, applies, TeardownStep.dependency?,
              hasQueue, ih]
      | disposeRuntime =>
          cases hasRuntime : app.hasRuntime <;>
            simp [List.filterMap_cons, applies, TeardownStep.dependency?,
              hasRuntime, ih]

/-- What was started is shut down in the reverse order. -/
theorem dependencies_teardownSteps (started : app.started <+: startupOrder) :
    app.teardownSteps.filterMap TeardownStep.dependency? =
      app.started.reverse := by
  have reversed : shutdownOrder.filterMap TeardownStep.dependency? =
      startupOrder.reverse := by decide
  rw [teardownSteps, dependencies_filter, reversed, List.filter_reverse,
    filter_mem_prefix started (by decide)]

/-- A complete teardown leaves no loop alive. -/
theorem Sound.done_of_complete (sound : app.Sound) {ending : Ending Failure}
    (complete : app.log.Complete app.teardownSteps app.bodyEnding ending)
    (phase : app.phase = .ended ending) {loop : BackgroundLoop}
    {task : LoopTask} (found : app.loops loop = some task) :
    task.isDone = true := by
  by_contra live
  obtain ⟨hasQueue, -, onlyLoops⟩ := sound.live_loop found (by simpa using live)
  have closes : .closeQueue ∈ app.begun := by
    rw [begun, phase, List.append_nil, complete.steps]
    apply List.mem_filter.mpr
    exact ⟨by decide, hasQueue⟩
  have isLoop := onlyLoops _ closes
  cases isLoop

end Preservation

/-- No loop outlives the writer queue.  In every state of every run, a loop that
is alive finds the queue open, and of the teardown nothing but the shutdown of
loops has begun; so no tick is ever refused by the queue.  Deliveries start an
interval apart, and a loop that was told to stop, or is done, ticks no more. -/
theorem loops_end_before_queue (events : List (LifespanEvent Failure)) :
    Always step (fun app => app.refused = 0 ∧
      ∀ loop task, app.loops loop = some task → task.Apart ∧
        (task.isDone = false → app.hasQueue = true ∧ app.queueClosed = false ∧
          ∀ step ∈ app.begun, step.isLoop = true)) events initial ∧
    Throughout step KeepsTasks events initial := by
  constructor
  · intro executed isInitial
    have sound : (run step executed (initial : Lifespan Failure)).Sound :=
      always_sound events executed isInitial
    refine ⟨sound.refused, fun loop task found => ⟨?_, ?_⟩⟩
    · exact (sound.spaced loop task found).apart
    · exact sound.live_loop found
  · rw [throughout_iff_guarded step KeepsTasks.refl KeepsTasks.trans]
    exact guarded_of_invariant step
      (fun event app sound => sound.move (move_step event app))
      (fun event app sound => sound.keepsTasks (move_step event app)) events
      sound_initial

/-- The teardown reverses the startup.  In every run the dependencies start in
their order, and the steps of the teardown are those that apply, in theirs: it
shuts down what was started in the reverse order, closes the queue after the
loops and disposes of the storage at the end.  When the application has ended,
either every step has ended, whatever they raised, no loop is alive, and the
first error of the teardown is raised, if there is one; or the last step was
cancelled, and so is the application. -/
theorem teardown_reverses_startup (events : List (LifespanEvent Failure)) :
    let app := run step events initial
    app.started <+: startupOrder ∧
    app.teardownSteps.filterMap TeardownStep.dependency? =
      app.started.reverse ∧
    app.begun <+: app.teardownSteps ∧
    ∀ ending, app.phase = .ended ending →
      (app.log.Complete app.teardownSteps app.bodyEnding ending ∧
        ∀ loop task, app.loops loop = some task → task.isDone = true) ∨
      app.log.CutShort app.teardownSteps ending := by
  intro app
  have sound : app.Sound := always_sound events events List.prefix_rfl
  refine ⟨sound.started, dependencies_teardownSteps sound.started,
    sound.begun_prefix, fun ending phase => ?_⟩
  have fits := sound.fits
  rw [Fits, phase] at fits
  rcases fits with complete | cutShort
  · exact .inl ⟨complete, fun loop task found =>
      sound.done_of_complete complete phase found⟩
  · exact .inr cutShort

end Lifespan

end Tca
