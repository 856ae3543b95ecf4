import Tca.AccountTable
import Tca.ThreadQuery

/-!
# Which channels a scheduler tick selects

A channel is paused until a stored time and due a jittered interval after its
last success.  The file embeds this decision of the scheduler, with the range
errors of the dates it computes on the way, and proves that a tick selects only
channels of the list it is given whose pause is over.
-/

namespace Tca

/-- Microseconds from the start of year one to the epoch. -/
def epochMicros : Int :=
  719162 * 86400000000

/-- The instant that a stored time denotes; a naive one is read as UTC. -/
def Timestamp.instant (timestamp : Timestamp) : Instant :=
  timestamp.wall.micros - epochMicros -
    (timestamp.offset.getD UtcOffset.utc).micros

/-- `timestamp + timedelta(microseconds=micros)`. -/
def Timestamp.addMicros (timestamp : Timestamp) (micros : Int) :
    Except PyError Timestamp :=
  let shifted := (timestamp.wall.micros : Int) + micros
  if inRange : 0 ≤ shifted ∧ shifted < wallLimit then
    .ok { timestamp with wall := ⟨shifted.toNat, by omega⟩ }
  else .error (.overflowError "date value out of range")

/-- A shift moves the instant by as much. -/
theorem Timestamp.instant_addMicros {timestamp shifted : Timestamp}
    {micros : Int} (added : timestamp.addMicros micros = .ok shifted) :
    shifted.instant = timestamp.instant + micros := by
  unfold addMicros at added
  simp only at added
  split at added
  · rename_i inRange
    obtain rfl := Except.ok.inj added
    have moved : ∀ wall epoch offset : Int,
        wall + micros - epoch - offset = wall - epoch - offset + micros := by
      omega
    simp only [instant, Int.toNat_of_nonneg inRange.1]
    exact moved _ _ _
  · cases added

/-- `isoformat()` of an aware datetime, whose separator is a letter. -/
def Timestamp.isoformatT (timestamp : Timestamp) : String :=
  String.ofList (timestamp.isoformat.toList.set 10 'T')

/-- Round to the nearest integer, halves to the even one. -/
def roundHalfEven (value : ℚ) : Int :=
  let rest := value - value.floor
  if rest < 1 / 2 ∨ (rest = 1 / 2 ∧ value.floor % 2 = 0) then value.floor
  else value.floor + 1

/-- The microseconds of `timedelta(seconds=seconds)`. -/
def timedeltaSeconds (seconds : ℚ) : Except PyError Int :=
  let micros := roundHalfEven (seconds * 1000000)
  let days := micros / 86400000000
  if 2147483647 < days ∨ days < -2147483648 then
    .error (.overflowError "Python int too large to convert to C int")
  else if 999999999 < days ∨ days < -999999999 then
    .error (.overflowError
      s!"days={days}; must have magnitude <= 999999999")
  else .ok micros

/-- Typed cursor payload for channel ingest progress. -/
structure ChannelCursor where
  lastMessageId : Option Int
  nextOffsetId : Option Int
  lastPolledAt : Timestamp
  deriving DecidableEq

/-- Typed polling state payload for one channel. -/
structure ChannelStateRecord where
  channelId : Int
  cursor : Option ChannelCursor
  pausedUntil : Option Timestamp
  lastSuccessAt : Option Timestamp
  deriving DecidableEq

/-- `_is_paused`. -/
def IsPaused (pausedUntil : Option Timestamp) (now : Instant) : Prop :=
  ∃ pauseEnd ∈ pausedUntil, now < pauseEnd.instant

instance (pausedUntil : Option Timestamp) (now : Instant) :
    Decidable (IsPaused pausedUntil now) :=
  match pausedUntil with
  | none => .isFalse (by simp [IsPaused])
  | some pauseEnd =>
      decidable_of_iff (now < pauseEnd.instant) (by simp [IsPaused])

/-- A pause that is over stays over. -/
theorem IsPaused.of_later {pausedUntil : Option Timestamp}
    {now later : Instant} (notEarlier : now ≤ later)
    (paused : IsPaused pausedUntil later) : IsPaused pausedUntil now := by
  obtain ⟨pauseEnd, stored, ahead⟩ := paused
  exact ⟨pauseEnd, stored, lt_of_le_of_lt notEarlier ahead⟩

/-- Reading a naive time as UTC does not change the instant it denotes. -/
theorem Timestamp.instant_readAsUtc (timestamp : Timestamp) :
    timestamp.readAsUtc.instant = timestamp.instant :=
  rfl

theorem Timestamp.readAsUtc_of_aware {timestamp : Timestamp}
    (aware : timestamp.offset.isSome) : timestamp.readAsUtc = timestamp := by
  obtain ⟨wall, offset⟩ := timestamp
  obtain ⟨offset, rfl⟩ := Option.isSome_iff_exists.mp aware
  rfl

theorem isPaused_coerceOptionalDatetime {pausedUntil : Option Timestamp}
    {now : Instant} :
    IsPaused (coerceOptionalDatetime pausedUntil) now ↔
      IsPaused pausedUntil now := by
  simp [IsPaused, coerceOptionalDatetime, Timestamp.instant_readAsUtc]

/-- `_compute_next_run_at` for the value that `_compute_jitter_seconds`
draws. -/
def computeNextRunAt (lastSuccess : Timestamp) (pollIntervalSeconds : Int)
    (jitterSeconds : ℚ) : Except PyError Timestamp := do
  let delay ← timedeltaSeconds (pollIntervalSeconds + jitterSeconds)
  lastSuccess.readAsUtc.addMicros delay

/-- The loop of `_select_eligible_channels`.  A jitter value is drawn for each
channel that is not paused and has a last success. -/
def selectEligible (now : Instant) (pollIntervalSeconds : Int)
    (stateOf : Int → Option ChannelStateRecord) :
    List Int → List ℚ → Except PyError (List Int)
  | [], _ => .ok []
  | channelId :: channelIds, draws =>
      let state := stateOf channelId
      if IsPaused (state.bind (·.pausedUntil)) now then
        selectEligible now pollIntervalSeconds stateOf channelIds draws
      else
        match state.bind (·.lastSuccessAt) with
        | none => do
            let eligible ←
              selectEligible now pollIntervalSeconds stateOf channelIds draws
            return channelId :: eligible
        | some lastSuccess => do
            let nextRunAt ← computeNextRunAt lastSuccess pollIntervalSeconds
              (draws.headD 0)
            let eligible ← selectEligible now pollIntervalSeconds stateOf
              channelIds draws.tail
            return if nextRunAt.instant ≤ now then channelId :: eligible
              else eligible

/-- A tick selects channels of its list whose pause is over. -/
theorem mem_selectEligible {now : Instant} {pollIntervalSeconds : Int}
    {stateOf : Int → Option ChannelStateRecord} {channelIds : List Int}
    {draws : List ℚ} {eligible : List Int}
    (selected : selectEligible now pollIntervalSeconds stateOf channelIds
      draws = .ok eligible) {channelId : Int} (member : channelId ∈ eligible) :
    channelId ∈ channelIds ∧
      ¬ IsPaused ((stateOf channelId).bind (·.pausedUntil)) now := by
  induction channelIds generalizing draws eligible with
  | nil =>
      simp only [selectEligible, Except.ok.injEq] at selected
      simp [← selected] at member
  | cons first channelIds ih =>
      have fromRest : ∀ {draws rest}, selectEligible now pollIntervalSeconds
            stateOf channelIds draws = .ok rest → channelId ∈ rest →
          channelId ∈ first :: channelIds ∧
            ¬ IsPaused ((stateOf channelId).bind (·.pausedUntil)) now := by
        intro draws rest restSelected restMember
        obtain ⟨listed, notPaused⟩ := ih restSelected restMember
        exact ⟨List.mem_cons_of_mem first listed, notPaused⟩
      simp only [selectEligible] at selected
      split at selected
      · exact fromRest selected member
      · rename_i notPaused
        have head : channelId = first → channelId ∈ first :: channelIds ∧
            ¬ IsPaused ((stateOf channelId).bind (·.pausedUntil)) now := by
          rintro rfl
          exact ⟨List.mem_cons_self, notPaused⟩
        split at selected
        · obtain ⟨rest, restSelected, returned⟩ := bind_eq_ok selected
          obtain rfl : first :: rest = eligible := Except.ok.inj returned
          rcases List.mem_cons.mp member with isFirst | later
          · exact head isFirst
          · exact fromRest restSelected later
        · obtain ⟨nextRunAt, -, selected⟩ := bind_eq_ok selected
          obtain ⟨rest, restSelected, returned⟩ := bind_eq_ok selected
          have shape : (if nextRunAt.instant ≤ now then first :: rest
              else rest) = eligible :=
            Except.ok.inj returned
          rw [← shape] at member
          split at member
          · rcases List.mem_cons.mp member with isFirst | later
            · exact head isFirst
            · exact fromRest restSelected later
          · exact fromRest restSelected member

end Tca
