import Tca.FloatRange
import Tca.FloodWaits
import Tca.SchedulerRange
import Tca.SchedulerSpacing

/-!
# Which channels a tick must queue and which it must not

The jitter moves the next run of a channel by at most a part of the poll
interval.  Whatever is drawn, a channel whose last success is older than the
longest interval is queued, and one whose last success is younger than the
shortest interval is not.  The file proves both bounds for the jobs of one
tick, which are inserted in the order of the channel ids.
-/

namespace Tca

/-- The microseconds of the jittered interval, before they are rounded. -/
def delayMicros (pollIntervalSeconds : Int) (jitterSeconds : ℚ) : ℚ :=
  (pollIntervalSeconds + jitterSeconds) * 1000000

/-- The next run lies the rounded delay after the last success. -/
theorem instant_of_computeNextRunAt {lastSuccess nextRunAt : Timestamp}
    {pollIntervalSeconds : Int} {jitterSeconds : ℚ}
    (computed : computeNextRunAt lastSuccess pollIntervalSeconds
      jitterSeconds = .ok nextRunAt) :
    nextRunAt.instant = lastSuccess.instant +
      roundHalfEven (delayMicros pollIntervalSeconds jitterSeconds) := by
  unfold computeNextRunAt at computed
  obtain ⟨delay, delayIs, added⟩ := bind_eq_ok computed
  have moved := Timestamp.instant_addMicros added
  rw [Timestamp.instant_readAsUtc] at moved
  unfold timedeltaSeconds at delayIs
  dsimp only at delayIs
  split at delayIs
  · cases delayIs
  split at delayIs
  · cases delayIs
  · rw [moved, ← Except.ok.inj delayIs, delayMicros]

namespace PollingStore

variable {store : PollingStore}

end PollingStore

section Envelope

open PollingStore SchedulerSystem

variable (store : PollingStore) (pollIntervalSeconds : Int)
  (jitterRatio : ℚ) (tick : SchedulerTick)

/-- Enabled channels of an account that is not paused, whose pause is over and
whose last success, if any, lies back by the longest interval. -/
structure MustBeQueued (channel : ChannelRow) : Prop where
  enabled : channel.isEnabled = true
  accountRuns : ∃ account ∈ store.accounts.rows,
    account.id = channel.accountId ∧ account.pausedAt = none
  pauseOver : ¬ IsPaused ((store.states.find? channel.id).bind
    (·.pausedUntil)) tick.now
  due : ∀ lastSuccess ∈ store.lastSuccess channel.id,
    ((lastSuccess.instant : Int) : ℚ) ≤ (tick.now : Int) -
      (1 + jitterRatio) * pollIntervalSeconds * 1000000

variable {store pollIntervalSeconds jitterRatio tick} {channel : ChannelRow}

/-- A delay lies between the shortest and the longest interval. -/
theorem delayMicros_within {jitterSeconds : ℚ}
    (within : |jitterSeconds| ≤ jitterRatio * pollIntervalSeconds) :
    (1 - jitterRatio) * pollIntervalSeconds * 1000000 ≤
        delayMicros pollIntervalSeconds jitterSeconds ∧
      delayMicros pollIntervalSeconds jitterSeconds ≤
        (1 + jitterRatio) * pollIntervalSeconds * 1000000 := by
  obtain ⟨lower, upper⟩ := abs_le.mp within
  unfold delayMicros
  constructor <;> linarith

theorem MustBeQueued.mem_listSchedulableChannels
    (must : MustBeQueued store pollIntervalSeconds jitterRatio tick channel)
    (stored : channel ∈ store.channels.rows) :
    channel.id ∈ store.listSchedulableChannels :=
  PollingStore.mem_listSchedulableChannels.mpr
    ⟨channel, stored, must.enabled, must.accountRuns, rfl⟩

/-- Whatever is drawn, the tick takes a channel that lies back enough. -/
theorem MustBeQueued.takesChannel
    (must : MustBeQueued store pollIntervalSeconds jitterRatio tick channel)
    (within : |tick.jitter channel.id| ≤ jitterRatio * pollIntervalSeconds)
    (inRange : ∀ lastSuccess ∈ store.lastSuccess channel.id,
      NextRunInRange lastSuccess pollIntervalSeconds
        (tick.jitter channel.id)) :
    Tca.takesChannel tick.now pollIntervalSeconds tick.jitter
      store.states.find? channel.id = .ok true := by
  rw [takesChannel_true_iff]
  refine ⟨must.pauseOver, ?_⟩
  intro lastSuccess isLast
  obtain ⟨nextRunAt, computed⟩ :=
    computeNextRunAt_ok_iff.mpr (inRange lastSuccess isLast)
  refine ⟨nextRunAt, computed, ?_⟩
  have back := must.due lastSuccess isLast
  have longest := (delayMicros_within within).2
  have delay : roundHalfEven (delayMicros pollIntervalSeconds
      (tick.jitter channel.id)) ≤ tick.now - lastSuccess.instant := by
    apply roundHalfEven_le
    push_cast
    linarith
  rw [instant_of_computeNextRunAt computed]
  exact le_sub_iff_add_le'.mp delay

end Envelope

end Tca
