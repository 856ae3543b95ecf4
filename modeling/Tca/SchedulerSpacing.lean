import Tca.SchedulerTicks
import Tca.GuardedRuns

/-!
# The time between two poll jobs of a channel

Due-ness is measured from the last success of a channel, not from the last job
that was queued for it.  While a channel has no success to report, every tick
may queue another job.  The file follows the ticks that queued a job since the
last success changed, and says when they keep the distance of a poll interval.
-/

namespace Tca

open GuardedRuns PollingStore

/-- The stored last success of a channel. -/
def PollingStore.lastSuccess (store : PollingStore) (channelId : Int) :
    Option Timestamp :=
  (store.states.find? channelId).bind (·.lastSuccessAt)

/-- A tick of the scheduler, or anything else that happens to the store. -/
inductive SpacingEvent where
  | tick (tick : SchedulerTick)
  | elsewhere (store : PollingStore)

/-- The store, and the times of the ticks that queued a job for the channel
since its last success changed. -/
structure SpacingRun where
  store : PollingStore
  queuedAt : List Instant

namespace SpacingRun

variable (channelId pollIntervalSeconds : Int) (jitterRatio : ℚ)

def step : SpacingEvent → SpacingRun → SpacingRun
  | .tick tick, run =>
      let later := (run.store.runOnce pollIntervalSeconds tick).2
      ⟨later, if run.store.GainsJob later channelId then
          run.queuedAt ++ [tick.now]
        else run.queuedAt⟩
  | .elsewhere store, run =>
      ⟨store, if store.lastSuccess channelId =
          run.store.lastSuccess channelId then run.queuedAt
        else []⟩

/-- The shortest interval that the jitter allows lies between the times. -/
def Apart (earlier later : Instant) : Prop :=
  (1 - jitterRatio) * pollIntervalSeconds * 1000000 ≤
    ((later - earlier : Int) : ℚ)

instance (earlier later : Instant) :
    Decidable (Apart pollIntervalSeconds jitterRatio earlier later) :=
  inferInstanceAs (Decidable (_ ≤ _))

/-- Any two ticks that queued a job while the last success stayed the same are
apart. -/
def Spaced (run : SpacingRun) : Prop :=
  run.queuedAt.Pairwise (Apart pollIntervalSeconds jitterRatio)

/-- The channel is not schedulable, or paused, or has a last success after
which the next run has not come. -/
def Barred (store : PollingStore) (tick : SchedulerTick) : Prop :=
  channelId ∉ store.listSchedulableChannels ∨
    IsPaused ((store.states.find? channelId).bind (·.pausedUntil)) tick.now ∨
    ∃ lastSuccess ∈ store.lastSuccess channelId,
      ∀ nextRunAt, computeNextRunAt lastSuccess pollIntervalSeconds
          (tick.jitter channelId) = .ok nextRunAt →
        tick.now < nextRunAt.instant

/-- A tick that comes too soon after one that queued a job finds the channel
barred. -/
def KeepsApart : SpacingEvent → SpacingRun → Prop
  | .tick tick, run => ∀ earlier ∈ run.queuedAt,
      ¬ Apart pollIntervalSeconds jitterRatio earlier tick.now →
        Barred channelId pollIntervalSeconds run.store tick
  | .elsewhere _, _ => True

/-- Ticks do not raise. -/
def TicksReturn : SpacingEvent → SpacingRun → Prop
  | .tick tick, run =>
      ∃ jobs, (run.store.runOnce pollIntervalSeconds tick).1 = .ok jobs
  | .elsewhere _, _ => True

variable {channelId pollIntervalSeconds jitterRatio}

theorem barred_iff {store : PollingStore} {tick : SchedulerTick} :
    Barred channelId pollIntervalSeconds store tick ↔
      ¬ (channelId ∈ store.listSchedulableChannels ∧
        takesChannel tick.now pollIntervalSeconds tick.jitter
          store.states.find? channelId = .ok true) := by
  rw [takesChannel_true_iff, Barred, not_and_or, not_and_or, not_not]
  refine or_congr_right (or_congr_right ?_)
  simp only [not_forall, not_exists, not_and, not_le, lastSuccess, exists_prop]

/-- A tick that keeps apart keeps the jobs spaced. -/
theorem spaced_step (event : SpacingEvent) (run : SpacingRun)
    (spaced : run.Spaced pollIntervalSeconds jitterRatio)
    (apart : KeepsApart channelId pollIntervalSeconds jitterRatio event run) :
    (step channelId pollIntervalSeconds event run).Spaced pollIntervalSeconds
      jitterRatio := by
  cases event with
  | tick tick =>
      simp only [step, Spaced]
      split
      · rename_i gains
        have takes := ((run.store.runOnce_adds pollIntervalSeconds tick).2
          channelId).1 gains
        refine List.pairwise_append.mpr ⟨spaced, by simp, ?_⟩
        intro earlier queued later isNow
        obtain rfl := List.mem_singleton.mp isNow
        by_contra tooSoon
        exact barred_iff.mp (apart earlier queued tooSoon) takes
      · exact spaced
  | elsewhere store =>
      simp only [step, Spaced]
      split
      · exact spaced
      · exact List.Pairwise.nil

/-- If ticks return, nothing less keeps the jobs spaced. -/
theorem spaced_step_iff (event : SpacingEvent) (run : SpacingRun)
    (returns : TicksReturn pollIntervalSeconds event run)
    (spaced : run.Spaced pollIntervalSeconds jitterRatio) :
    (step channelId pollIntervalSeconds event run).Spaced pollIntervalSeconds
        jitterRatio ↔
      KeepsApart channelId pollIntervalSeconds jitterRatio event run := by
  refine ⟨fun spacedLater => ?_, spaced_step event run spaced⟩
  cases event with
  | tick tick =>
      obtain ⟨jobs, returned⟩ := returns
      intro earlier queued tooSoon
      rw [barred_iff]
      rintro ⟨listed, takes⟩
      have gains := ((run.store.runOnce_adds pollIntervalSeconds tick).2
        channelId).2 jobs returned listed takes
      simp only [step, Spaced, if_pos gains] at spacedLater
      exact tooSoon ((List.pairwise_append.mp spacedLater).2.2 earlier queued
        tick.now (by simp))
  | elsewhere store => trivial

end SpacingRun

/-- Throughout a run, the ticks that queue jobs for a channel while its last
success stays the same are apart, if every tick that comes too soon after such
a tick finds the channel barred.  In runs whose ticks return, they are apart
only then. -/
theorem queued_jobs_spaced_by_bars (channelId pollIntervalSeconds : Int)
    (jitterRatio : ℚ) (store : PollingStore) (events : List SpacingEvent) :
    (Guarded (SpacingRun.step channelId pollIntervalSeconds)
          (SpacingRun.KeepsApart channelId pollIntervalSeconds jitterRatio)
          events ⟨store, []⟩ →
        Always (SpacingRun.step channelId pollIntervalSeconds)
          (SpacingRun.Spaced pollIntervalSeconds jitterRatio) events
          ⟨store, []⟩) ∧
      (Guarded (SpacingRun.step channelId pollIntervalSeconds)
          (SpacingRun.TicksReturn pollIntervalSeconds) events ⟨store, []⟩ →
        (Always (SpacingRun.step channelId pollIntervalSeconds)
            (SpacingRun.Spaced pollIntervalSeconds jitterRatio) events
            ⟨store, []⟩ ↔
          Guarded (SpacingRun.step channelId pollIntervalSeconds)
            (SpacingRun.KeepsApart channelId pollIntervalSeconds jitterRatio)
            events ⟨store, []⟩)) := by
  have initially : SpacingRun.Spaced pollIntervalSeconds jitterRatio
      ⟨store, []⟩ :=
    List.Pairwise.nil
  constructor
  · exact always_of_guarded _ SpacingRun.spaced_step initially
  · exact @always_iff_guarded_of_assumed _ _
      (SpacingRun.step channelId pollIntervalSeconds)
      (SpacingRun.TicksReturn pollIntervalSeconds)
      (SpacingRun.KeepsApart channelId pollIntervalSeconds jitterRatio)
      (fun _ => True) (SpacingRun.Spaced pollIntervalSeconds jitterRatio)
      (fun _ _ _ _ => trivial)
      (fun event run _ => SpacingRun.spaced_step_iff event run) events _
      trivial initially

/-- Two ticks at the shortest distance. -/
def sampleSpacedTicks : List SpacingEvent :=
  [.tick (sampleTick 0 ["a"]), .tick (sampleTick 240 ["b"])]

theorem ticks_at_shortest_interval_sample :
    Guarded (SpacingRun.step 1 300) (SpacingRun.KeepsApart 1 300 (1 / 5))
        sampleSpacedTicks ⟨sampleSchedulerStore, []⟩ ∧
      (run (SpacingRun.step 1 300) sampleSpacedTicks
        ⟨sampleSchedulerStore, []⟩).queuedAt.length = 2 ∧
      Always (SpacingRun.step 1 300) (SpacingRun.Spaced 300 (1 / 5))
        sampleSpacedTicks ⟨sampleSchedulerStore, []⟩ := by
  have apart : Guarded (SpacingRun.step 1 300)
      (SpacingRun.KeepsApart 1 300 (1 / 5)) sampleSpacedTicks
      ⟨sampleSchedulerStore, []⟩ := by
    refine ⟨fun earlier queued => by simp at queued, ?_, trivial⟩
    intro earlier queued tooSoon
    have isFirst : (SpacingRun.step 1 300 (.tick (sampleTick 0 ["a"]))
        ⟨sampleSchedulerStore, []⟩).queuedAt = [(sampleTick 0 ["a"]).now] := by
      decide +kernel
    rw [isFirst, List.mem_singleton] at queued
    subst queued
    exact absurd (by decide +kernel) tooSoon
  exact ⟨apart, by decide +kernel,
    (queued_jobs_spaced_by_bars 1 300 (1 / 5) sampleSchedulerStore
      sampleSpacedTicks).1 apart⟩

/-- A channel without a success gets a job at each of two ticks that are one
second apart. -/
theorem unsuccessful_channel_queued_every_second :
    ¬ Always (SpacingRun.step 1 300) (SpacingRun.Spaced 300 (1 / 5))
      [.tick (sampleTick 0 ["a"]), .tick (sampleTick 1 ["b"])]
      ⟨sampleSchedulerStore, []⟩ := by
  intro always
  have spaced := always _ List.prefix_rfl
  have queued : (run (SpacingRun.step 1 300)
      [.tick (sampleTick 0 ["a"]), .tick (sampleTick 1 ["b"])]
      ⟨sampleSchedulerStore, []⟩).queuedAt =
        [(sampleTick 0 ["a"]).now, (sampleTick 1 ["b"]).now] := by
    decide +kernel
  rw [SpacingRun.Spaced, queued] at spaced
  have apart := List.rel_of_pairwise_cons spaced (List.mem_singleton_self _)
  exact absurd apart (by decide +kernel)

end Tca
