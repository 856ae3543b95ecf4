import Tca.GuardedRuns
import Tca.PythonValues
import Mathlib.Algebra.Order.Ring.Rat
import Mathlib.Data.List.Chain

/-!
# The lifespan of the application

The application starts its dependencies one after the other, serves requests
and tears everything down again.  Two of the dependencies run a loop in a task,
which is given some time to stop and is then cancelled.  The file follows the
lifespan and both loops from one suspension to the next, with failures,
timeouts and cancellations anywhere.  No loop outlives the writer queue, and
the teardown reverses the startup.
-/

namespace Tca

open GuardedRuns

/-- How something that is awaited ends. -/
inductive Ending (Failure : Type) where
  | returned
  | raised (failure : Failure)
  | cancelled
  deriving DecidableEq

/-- Where `_run_loop` is suspended, or how its task is done. -/
inductive LoopPhase where
  | created
  | ticking (startedAt : ℚ)
  | waiting
  | returned
  | cancelled
  deriving DecidableEq

/-- The task of a service with its stop event.  Deliveries are made at an
interval, while the scheduler ticks in every round.  `ticks` are the times at
which `run_once` was called. -/
structure LoopTask where
  phase : LoopPhase
  stopSet : Bool
  cancelRequested : Bool
  lastRunAt : ℚ
  intervalSeconds : Option Int
  ticks : List ℚ
  deriving DecidableEq

namespace LoopTask

/-- The task that `startup` creates. -/
def fresh (intervalSeconds : Option Int) : LoopTask :=
  ⟨.created, false, false, 0, intervalSeconds, []⟩

def isDone (task : LoopTask) : Bool :=
  task.phase = .returned ∨ task.phase = .cancelled

/-- `now - last_run_at >= self.delivery_interval_seconds`. -/
def isDue (task : LoopTask) (now : ℚ) : Bool :=
  match task.intervalSeconds with
  | none => true
  | some seconds => seconds ≤ now - task.lastRunAt

/-- Waiting for the stop event.  If it is set, the loop is left. -/
def pause (task : LoopTask) : LoopTask :=
  if task.stopSet then { task with phase := .returned }
  else { task with phase := .waiting }

/-- A round of the loop up to its first suspension. -/
def enterRound (task : LoopTask) (now : ℚ) : LoopTask :=
  if task.stopSet then { task with phase := .returned }
  else if task.isDue now then
    { task with phase := .ticking now, ticks := task.ticks ++ [now] }
  else task.pause

/-- The next turn of the task.  `ending` tells how `run_once` ends; a
cancellation may have been swallowed in it. -/
def turn {Failure : Type} (ending : Ending Failure) (now : ℚ)
    (task : LoopTask) : LoopTask :=
  match task.phase with
  | .created | .waiting =>
      if task.cancelRequested then { task with phase := .cancelled }
      else task.enterRound now
  | .ticking startedAt =>
      match ending with
      | .cancelled => { task with phase := .cancelled }
      | .returned | .raised _ =>
          pause { task with cancelRequested := false, lastRunAt := startedAt }
  | .returned | .cancelled => task

/-- `Task.cancel`. -/
def cancel (task : LoopTask) : LoopTask :=
  if task.isDone then task else { task with cancelRequested := true }

/-- `Event.set` of the stop event. -/
def stop (task : LoopTask) : LoopTask :=
  { task with stopSet := true }

end LoopTask

/-- The interval that `BotDeliveryService.startup` resolves. -/
def resolveDeliveryInterval : Option PyValue → Int
  | some (.int value) => if 0 < value then value else 60
  | some (.bool true) => 1
  | _ => 60

/-- The services with a loop. -/
inductive BackgroundLoop where
  | scheduler
  | botDelivery
  deriving DecidableEq

inductive Dependency where
  | db
  | settings
  | auth
  | telethonManager
  | scheduler
  | botDelivery
  deriving DecidableEq

def BackgroundLoop.dependency : BackgroundLoop → Dependency
  | .scheduler => .scheduler
  | .botDelivery => .botDelivery

def startupOrder : List Dependency :=
  [.db, .settings, .auth, .telethonManager, .scheduler, .botDelivery]

inductive TeardownStep where
  | shutdownLoop (loop : BackgroundLoop)
  | closeQueue
  | shutdown (dependency : Dependency)
  | disposeRuntime
  deriving DecidableEq

namespace TeardownStep

def isLoop : TeardownStep → Bool
  | .shutdownLoop _ => true
  | _ => false

/-- The dependency that the step shuts down. -/
def dependency? : TeardownStep → Option Dependency
  | .shutdownLoop loop => some loop.dependency
  | .shutdown dependency => some dependency
  | .closeQueue | .disposeRuntime => none

end TeardownStep

/-- The steps of `_shutdown_in_order`. -/
def shutdownOrder : List TeardownStep :=
  [.shutdownLoop .botDelivery, .shutdownLoop .scheduler, .closeQueue,
    .shutdown .telethonManager, .shutdown .auth, .shutdown .settings,
    .shutdown .db, .disposeRuntime]

/-- What `_shutdown_scheduler_with_timeout` has seen: the first turn of the task
of `shutdown`, its timeout, a cancellation of the application, and whether one
of these came when the loop was done already. -/
structure LoopWait where
  begun : Bool := false
  expired : Bool := false
  cancelled : Bool := false
  late : Bool := false
  deriving DecidableEq

/-- How `_shutdown_scheduler_with_timeout` ends, from whether the loop returned.
A timeout of its own is swallowed, any other cancellation goes on. -/
def LoopWait.ending {Failure : Type} (wait : LoopWait) (interrupted : Bool) :
    Ending Failure :=
  if (interrupted || wait.late) && (wait.cancelled || !wait.expired) then
    .cancelled
  else .returned

/-- What `lifespan` awaits. -/
inductive LifespanPhase (Failure : Type) where
  | creatingRuntime
  | buildingQueue
  | starting (dependency : Dependency) (later : List Dependency)
  | resolvingKey
  | serving
  | tearingDown (step : TeardownStep) (later : List TeardownStep)
      (wait : LoopWait)
  | ended (ending : Ending Failure)
  deriving DecidableEq

/-- What the teardown has done: the errors that it keeps, the steps that have
ended, and whether `_clear_runtime_state` was called. -/
structure TeardownLog (Failure : Type) where
  shutdownErrors : List Failure := []
  history : List (TeardownStep × Ending Failure) := []
  stateCleared : Bool := false

/-- The application.  `bodyEnding` is how startup and serving ended, and
`refused` counts what the loops submitted to a queue that was not open. -/
structure Lifespan (Failure : Type) where
  phase : LifespanPhase Failure
  hasRuntime : Bool
  hasQueue : Bool
  queueClosed : Bool
  started : List Dependency
  loops : BackgroundLoop → Option LoopTask
  bodyEnding : Ending Failure
  log : TeardownLog Failure
  refused : Nat

inductive LifespanEvent (Failure : Type) where
  | awaited (ending : Ending Failure) (setting : Option PyValue)
  | shutdownTurn
  | expire
  | cancelLifespan
  | resume
  | loopTurn (loop : BackgroundLoop) (ending : Ending Failure) (now : ℚ)
  | cancelLoop (loop : BackgroundLoop)
  | submit (loop : BackgroundLoop)

variable {Failure : Type}

namespace Lifespan

def initial : Lifespan Failure where
  phase := .creatingRuntime
  hasRuntime := false
  hasQueue := false
  queueClosed := false
  started := []
  loops _ := none
  bodyEnding := .returned
  log := {}
  refused := 0

section Steps

variable (app : Lifespan Failure)

def setLoop (loop : BackgroundLoop) (change : LoopTask → LoopTask) :
    BackgroundLoop → Option LoopTask :=
  Function.update app.loops loop ((app.loops loop).map change)

def loopDone (loop : BackgroundLoop) : Bool :=
  (app.loops loop).any LoopTask.isDone

/-- What there is to tear down. -/
def applies : TeardownStep → Bool
  | .shutdownLoop loop => loop.dependency ∈ app.started
  | .closeQueue => app.hasQueue
  | .shutdown dependency => dependency ∈ app.started
  | .disposeRuntime => app.hasRuntime

def teardownSteps : List TeardownStep :=
  shutdownOrder.filter app.applies

/-- The end of `_shutdown_in_order` and of `lifespan`.  The runtime state is
cleared only if nothing was raised. -/
def finish : Lifespan Failure :=
  match app.log.shutdownErrors with
  | failure :: _ => { app with phase := .ended (.raised failure) }
  | [] =>
      { app with
        phase := .ended app.bodyEnding
        log := { app.log with stateCleared := true } }

/-- The lifespan goes on with the next step of the teardown.  The queue refuses
jobs as soon as `close` is called. -/
def beginSteps : List TeardownStep → Lifespan Failure
  | [] => app.finish
  | step :: later =>
      { app with
        phase := .tearingDown step later {}
        queueClosed := if step = .closeQueue then true else app.queueClosed }

def tearDown (ending : Ending Failure) : Lifespan Failure :=
  { app with bodyEnding := ending }.beginSteps app.teardownSteps

/-- A step of the teardown has ended.  What it raised is kept for the end,
unless it is a `CancelledError`, which is no `Exception`. -/
def endStep (step : TeardownStep) (later : List TeardownStep)
    (ending : Ending Failure) : Lifespan Failure :=
  let log := { app.log with history := app.log.history ++ [(step, ending)] }
  match ending with
  | .returned => { app with log }.beginSteps later
  | .raised failure =>
      { app with
        log := { log with
          shutdownErrors := log.shutdownErrors ++ [failure] } }.beginSteps later
  | .cancelled => { app with phase := .ended .cancelled, log }

/-- The dependency has started. -/
def launch (dependency : Dependency) (setting : Option PyValue) :
    Lifespan Failure :=
  let app := { app with started := app.started ++ [dependency] }
  match dependency with
  | .scheduler =>
      { app with
        loops := Function.update app.loops .scheduler (some (.fresh none)) }
  | .botDelivery =>
      { app with
        loops := Function.update app.loops .botDelivery
          (some (.fresh (some (resolveDeliveryInterval setting)))) }
  | _ => app

def startNext : List Dependency → Lifespan Failure
  | [] => { app with phase := .resolvingKey }
  | dependency :: later => { app with phase := .starting dependency later }

/-- Startup and serving go on, or the teardown begins. -/
def orTearDown (next : Lifespan Failure) (ending : Ending Failure) :
    Lifespan Failure :=
  match ending with
  | .returned => next
  | .raised _ | .cancelled => app.tearDown ending

/-- What the lifespan awaits has ended.  The loops are awaited in `resume`. -/
def finishAwaited (ending : Ending Failure) (setting : Option PyValue) :
    Lifespan Failure :=
  match app.phase with
  | .creatingRuntime =>
      app.orTearDown { app with hasRuntime := true, phase := .buildingQueue }
        ending
  | .buildingQueue =>
      app.orTearDown ({ app with hasQueue := true }.startNext startupOrder)
        ending
  | .starting dependency later =>
      app.orTearDown ((app.launch dependency setting).startNext later) ending
  | .resolvingKey => app.orTearDown { app with phase := .serving } ending
  | .serving => app.tearDown ending
  | .tearingDown (.shutdownLoop _) _ _ => app
  | .tearingDown step later _ => app.endStep step later ending
  | .ended _ => app

/-- The first turn of the task of `shutdown`.  If it was cancelled before, it
does nothing. -/
def shutdownTurn : Lifespan Failure :=
  match app.phase with
  | .tearingDown (.shutdownLoop loop) later wait =>
      if wait.begun then app
      else if wait.cancelled then
        app.endStep (.shutdownLoop loop) later .cancelled
      else
        { app with
          phase := .tearingDown (.shutdownLoop loop) later
            { wait with begun := true }
          loops := app.setLoop loop .stop }
  | _ => app

/-- The timeout of `asyncio.wait_for`.  It cancels the task of `shutdown` and,
through it, the loop.  The first turn of the former was due before. -/
def expire : Lifespan Failure :=
  match app.phase with
  | .tearingDown (.shutdownLoop loop) later wait =>
      if wait.begun && !wait.expired then
        { app with
          phase := .tearingDown (.shutdownLoop loop) later
            { wait with
              expired := true
              late := wait.late || app.loopDone loop }
          loops := app.setLoop loop .cancel }
      else app
  | _ => app

/-- The task of the application is cancelled while it waits for a loop.  In
other phases what is awaited ends with the cancellation. -/
def cancelLifespan : Lifespan Failure :=
  match app.phase with
  | .tearingDown (.shutdownLoop loop) later wait =>
      if wait.begun then
        { app with
          phase := .tearingDown (.shutdownLoop loop) later
            { wait with
              cancelled := true
              late := wait.late || app.loopDone loop }
          loops := app.setLoop loop .cancel }
      else
        { app with
          phase := .tearingDown (.shutdownLoop loop) later
            { wait with cancelled := true } }
  | _ => app

/-- The lifespan goes on when the loop is done. -/
def resume : Lifespan Failure :=
  match app.phase with
  | .tearingDown (.shutdownLoop loop) later wait =>
      match app.loops loop with
      | none => app
      | some task =>
          if wait.begun && task.isDone then
            app.endStep (.shutdownLoop loop) later
              (wait.ending (task.phase = .cancelled))
          else app
  | _ => app

/-- A tick submits a job to the writer queue. -/
def submit (loop : BackgroundLoop) : Lifespan Failure :=
  match app.loops loop with
  | some ⟨.ticking _, _, _, _, _, _⟩ =>
      if app.hasQueue && !app.queueClosed then app
      else { app with refused := app.refused + 1 }
  | _ => app

end Steps

def step : LifespanEvent Failure → Lifespan Failure → Lifespan Failure
  | .awaited ending setting, app => app.finishAwaited ending setting
  | .shutdownTurn, app => app.shutdownTurn
  | .expire, app => app.expire
  | .cancelLifespan, app => app.cancelLifespan
  | .resume, app => app.resume
  | .loopTurn loop ending now, app =>
      { app with loops := app.setLoop loop (LoopTask.turn ending now) }
  | .cancelLoop loop, app => { app with loops := app.setLoop loop .cancel }
  | .submit loop, app => app.submit loop

end Lifespan

namespace LoopTask

variable {task : LoopTask}

/-- The latest time at which a live loop has called `run_once`, if it ever
has. -/
def latestTick (task : LoopTask) : ℚ :=
  match task.phase with
  | .ticking startedAt => startedAt
  | _ => task.lastRunAt

/-- Deliveries are at least an interval apart. -/
def Apart (task : LoopTask) : Prop :=
  ∀ seconds, task.intervalSeconds = some seconds →
    task.ticks.IsChain fun first second : ℚ => first + seconds ≤ second

/-- Moreover, the last one is remembered while the loop lives. -/
structure Spaced (task : LoopTask) : Prop where
  apart : task.Apart
  latest : task.isDone = false →
    ∀ last ∈ task.ticks.getLast?, last = task.latestTick

/-- What a task can become: done and stopped tasks stay so and tick no more. -/
structure Follows (task later : LoopTask) : Prop where
  done : task.isDone = true → later.isDone = true ∧ later.ticks = task.ticks
  stopped : task.stopSet = true →
    later.stopSet = true ∧ later.ticks = task.ticks
  spaced : task.Spaced → later.Spaced

theorem Follows.refl (task : LoopTask) : task.Follows task :=
  ⟨fun done => ⟨done, rfl⟩, fun stopped => ⟨stopped, rfl⟩, id⟩

theorem spaced_fresh (intervalSeconds : Option Int) :
    (fresh intervalSeconds).Spaced where
  apart _ _ := List.isChain_nil
  latest _ _ absent := by cases absent

theorem isDone_of_phase_ne (notReturned : task.phase ≠ .returned)
    (notCancelled : task.phase ≠ .cancelled) : task.isDone = false := by
  simp [isDone, notReturned, notCancelled]

theorem follows_cancel : task.Follows task.cancel := by
  rw [cancel]
  split
  · exact .refl task
  · rename_i live
    constructor
    · intro done
      exact absurd done live
    · intro stopped
      exact ⟨stopped, rfl⟩
    · intro spaced
      exact ⟨spaced.apart, spaced.latest⟩

theorem follows_stop : task.Follows task.stop where
  done done := ⟨done, rfl⟩
  stopped _ := ⟨rfl, rfl⟩
  spaced spaced := ⟨spaced.apart, spaced.latest⟩

theorem stopSet_pause : task.pause.stopSet = task.stopSet := by
  rw [pause]
  split <;> rfl

theorem ticks_pause : task.pause.ticks = task.ticks := by
  rw [pause]
  split <;> rfl

/-- A task that waits is spaced as it was before. -/
theorem spaced_pause
    (apart : task.Apart)
    (latest : ∀ last ∈ task.ticks.getLast?, last = task.lastRunAt) :
    task.pause.Spaced := by
  rw [pause]
  split
  · exact ⟨apart, fun _ => latest⟩
  · exact ⟨apart, fun _ => latest⟩

theorem spaced_enterRound (now : ℚ)
    (apart : task.Apart)
    (latest : ∀ last ∈ task.ticks.getLast?, last = task.lastRunAt) :
    (task.enterRound now).Spaced := by
  rw [enterRound]
  split
  · exact ⟨apart, fun _ => latest⟩
  · split
    · rename_i due
      constructor
      · intro seconds interval
        apply (apart seconds interval).append (List.isChain_singleton now)
        intro last isLast first isFirst
        obtain rfl := latest last isLast
        obtain rfl := Option.some.inj isFirst
        replace interval : task.intervalSeconds = some seconds := interval
        rw [isDue, interval] at due
        exact le_sub_iff_add_le'.mp (of_decide_eq_true due)
      · intro _ last isLast
        rw [List.getLast?_concat] at isLast
        exact (Option.some.inj isLast).symm
    · exact spaced_pause apart latest

theorem enterRound_of_stopSet (stopped : task.stopSet = true) (now : ℚ) :
    task.enterRound now = { task with phase := .returned } :=
  if_pos stopped

/-- A task that is about to begin a round. -/
theorem follows_enterRound (live : task.isDone = false)
    (notTicking : task.latestTick = task.lastRunAt) (now : ℚ) :
    task.Follows
      (if task.cancelRequested then { task with phase := .cancelled }
      else task.enterRound now) := by
  constructor
  · intro done
    rw [live] at done
    cases done
  · intro stopped
    rw [enterRound_of_stopSet stopped]
    split <;> exact ⟨stopped, rfl⟩
  · intro spaced
    have latest := spaced.latest live
    rw [notTicking] at latest
    split
    · exact ⟨spaced.apart, fun _ => latest⟩
    · exact spaced_enterRound now spaced.apart latest

theorem follows_turn (ending : Ending Failure) (now : ℚ) :
    task.Follows (task.turn ending now) := by
  rw [turn]
  split
  · rename_i phase
    exact follows_enterRound (by simp [isDone, phase])
      (by simp [latestTick, phase]) now
  · rename_i phase
    exact follows_enterRound (by simp [isDone, phase])
      (by simp [latestTick, phase]) now
  · rename_i startedAt phase
    have live : task.isDone = false := by simp [isDone, phase]
    have latestStart (spaced : task.Spaced) :
        ∀ last ∈ task.ticks.getLast?, last = startedAt := by
      have latest := spaced.latest live
      rwa [latestTick, phase] at latest
    have paused : task.Follows (pause
        { task with cancelRequested := false, lastRunAt := startedAt }) := by
      constructor
      · intro done
        rw [live] at done
        cases done
      · intro stopped
        rw [stopSet_pause, ticks_pause]
        exact ⟨stopped, rfl⟩
      · intro spaced
        exact spaced_pause spaced.apart (latestStart spaced)
    cases ending with
    | returned => exact paused
    | raised failure => exact paused
    | cancelled =>
        constructor
        · intro done
          rw [live] at done
          cases done
        · intro stopped
          exact ⟨stopped, rfl⟩
        · intro spaced
          exact ⟨spaced.apart, fun live => by simp [isDone] at live⟩
  · exact .refl task
  · exact .refl task

end LoopTask

end Tca
