import Tca.AccountRiskRuns

/-!
# Flood waits

When the provider asks for a pause, the channel is paused for as long, a long
wait is reported, and the account may get a risk breach.  Each call overwrites
the stored end of the pause.  A run of calls keeps all deadlines of a channel
exactly if none of them comes before an earlier one.
-/

namespace Tca

open GuardedRuns

/-- `_extract_wait_seconds`.  The value is the attribute `seconds` of the
error, if it has one. -/
def extractWaitSeconds : Option PyValue → Option Int
  | some (.int seconds) => if 0 < seconds then some seconds else none
  | some (.bool true) => some 1
  | _ => none

namespace IngestStore

variable (store : IngestStore)

/-- The job that `handle_flood_wait` submits. -/
def persistFloodWait (channelId waitSeconds : Int) (resumeAt : Timestamp) :
    Except PyError ChannelStateRecord × IngestStore :=
  match store.polling.updatePause channelId (some resumeAt) with
  | (.error problem, polling) =>
      (.error problem, { store with polling := polling })
  | (.ok record, polling) =>
      let later := { store with polling := polling }
      (.ok record,
        if 300 ≤ waitSeconds then
          later.createNotification "ingest.flood_wait" "medium"
            (s!"Flood wait enforced for channel {channelId}; " ++
              s!"paused until {resumeAt.isoformatT}.")
            (.dict
              [("channel_id", .int channelId),
                ("resume_at", .str resumeAt.isoformatT),
                ("wait_seconds", .int waitSeconds)])
        else later)

/-- Pause channel and optionally emit notification for flood wait errors.  The
times are what the time provider returns at its two calls; the account is given
if the caller passes it together with both repositories. -/
def handleFloodWait (channelId : Int) (seconds : Option PyValue)
    (accountId : Option Int) (time breachTime : Timestamp) :
    Except PyError ChannelStateRecord × IngestStore :=
  match extractWaitSeconds seconds with
  | none =>
      (.error (.valueError "Flood wait error missing wait seconds."), store)
  | some waitSeconds =>
      match (timedeltaSeconds waitSeconds).bind time.readAsUtc.addMicros with
      | .error problem => (.error problem, store)
      | .ok resumeAt =>
          match store.persistFloodWait channelId waitSeconds resumeAt with
          | (.error problem, later) => (.error problem, later)
          | (.ok record, later) =>
              match accountId with
              | none => (.ok record, later)
              | some accountId =>
                  -- An exception of the second job is logged and dropped.
                  (.ok record, (later.recordAccountRiskBreach accountId
                    "flood-wait" breachTime).2)

/-- The stored end of the pause of a channel. -/
def pausedUntil (channelId : Int) : Option Timestamp :=
  (store.polling.states.find? channelId).bind (·.pausedUntil)

end IngestStore

section Delays

theorem roundHalfEven_intCast (value : Int) : roundHalfEven value = value := by
  simp [roundHalfEven]

theorem roundHalfEven_seconds (seconds : Int) :
    roundHalfEven ((seconds : ℚ) * 1000000) = seconds * 1000000 := by
  have asInt : (seconds : ℚ) * 1000000 = ((seconds * 1000000 : Int) : ℚ) := by
    push_cast
    rfl
  rw [asInt, roundHalfEven_intCast]

/-- A whole number of seconds within the range of time spans. -/
theorem timedeltaSeconds_intCast {seconds : Int}
    (inRange : 0 ≤ seconds ∧ seconds < 86400 * 1000000000) :
    timedeltaSeconds seconds = .ok (seconds * 1000000) := by
  unfold timedeltaSeconds
  simp only [roundHalfEven_seconds]
  rw [if_neg (by omega), if_neg (by omega)]

theorem eq_of_timedeltaSeconds_intCast {seconds micros : Int}
    (delay : timedeltaSeconds seconds = .ok micros) :
    micros = seconds * 1000000 := by
  unfold timedeltaSeconds at delay
  simp only [roundHalfEven_seconds] at delay
  split at delay
  · cases delay
  split at delay
  · cases delay
  · exact (Except.ok.inj delay).symm

/-- The wait ends within the range of dates. -/
def EndsInRange (time : Timestamp) (waitSeconds : Int) : Prop :=
  time.wall.micros + waitSeconds * 1000000 < wallLimit

instance (time : Timestamp) (waitSeconds : Int) :
    Decidable (EndsInRange time waitSeconds) :=
  inferInstanceAs (Decidable (_ < _))

/-- When the wait ends. -/
def waitEnd (time : Timestamp) (waitSeconds : Int) : Instant :=
  time.instant + waitSeconds * 1000000

theorem resumeAt_of_inRange {time : Timestamp} {waitSeconds : Int}
    (positive : 0 < waitSeconds) (inRange : EndsInRange time waitSeconds) :
    ∃ resumeAt, (timedeltaSeconds waitSeconds).bind time.readAsUtc.addMicros =
        .ok resumeAt ∧ resumeAt.instant = waitEnd time waitSeconds := by
  unfold EndsInRange wallLimit at inRange
  have delay : timedeltaSeconds waitSeconds = .ok (waitSeconds * 1000000) :=
    timedeltaSeconds_intCast (by omega)
  rw [delay, Except.bind]
  cases added : time.readAsUtc.addMicros (waitSeconds * 1000000) with
  | ok resumeAt =>
      have moved := Timestamp.instant_addMicros added
      rw [Timestamp.instant_readAsUtc] at moved
      exact ⟨resumeAt, rfl, moved⟩
  | error problem =>
      exfalso
      unfold Timestamp.addMicros at added
      rw [dif_pos] at added
      · cases added
      · change 0 ≤ (time.wall.micros : Int) + waitSeconds * 1000000 ∧
          (time.wall.micros : Int) + waitSeconds * 1000000 < wallLimit
        unfold wallLimit
        omega

theorem resumeAt_of_not_inRange {time : Timestamp} {waitSeconds : Int}
    (outside : ¬ EndsInRange time waitSeconds) :
    ∃ problem, (timedeltaSeconds waitSeconds).bind time.readAsUtc.addMicros =
      .error problem := by
  cases delay : timedeltaSeconds waitSeconds with
  | error problem => exact ⟨problem, rfl⟩
  | ok micros =>
      obtain rfl := eq_of_timedeltaSeconds_intCast delay
      refine ⟨.overflowError "date value out of range", ?_⟩
      rw [Except.bind, Timestamp.addMicros, dif_neg]
      exact fun inRange => outside inRange.2

end Delays

theorem extractWaitSeconds_pos {seconds : Option PyValue} {waitSeconds : Int}
    (extracted : extractWaitSeconds seconds = some waitSeconds) :
    0 < waitSeconds := by
  unfold extractWaitSeconds at extracted
  split at extracted
  · split at extracted
    · obtain rfl := Option.some.inj extracted
      assumption
    · cases extracted
  · obtain rfl := Option.some.inj extracted
    decide
  · cases extracted

namespace IngestStore

variable {store : IngestStore} {channelId : Int} {seconds : Option PyValue}
  {accountId : Option Int} {time breachTime : Timestamp}

/-- The channel is in the table, under an id that SQLite stores. -/
def HasChannel (store : IngestStore) (channelId : Int) : Prop :=
  IsSqlInteger channelId ∧ channelId ∈ store.polling.channels.keys

/-- A new pause end replaces the stored one. -/
theorem persistFloodWait_pausedUntil (known : store.HasChannel channelId)
    (waitSeconds : Int) (resumeAt : Timestamp) :
    ∃ record later,
      store.persistFloodWait channelId waitSeconds resumeAt =
          (.ok record, later) ∧
        later.polling.channels = store.polling.channels ∧
        later.pausedUntil channelId = some resumeAt := by
  obtain ⟨sqlId, listed⟩ := known
  have found := @KeyedTable.find?_upsert _ _ ChannelStateRecord.channelId
    store.polling.states
    (fun row => { row with pausedUntil := some resumeAt }) (fun _ => rfl) _
    channelId (PollingStore.blankState channelId)
  rw [if_pos (show channelId =
    (PollingStore.blankState channelId).channelId from rfl)] at found
  unfold persistFloodWait PollingStore.updatePause PollingStore.writeState
  rw [if_neg (not_not.mpr sqlId), dif_pos listed]
  refine ⟨_, _, rfl, ?_, ?_⟩
  · split <;> rfl
  · have paused : ((store.polling.putState channelId
        (fun row => { row with pausedUntil := some resumeAt }) (fun _ => rfl)
        listed).states.find? channelId).bind (·.pausedUntil) =
          some resumeAt := by
      rw [PollingStore.putState, found]
      rfl
    split <;> exact paused

/-- A call without a usable wait, or with an end out of range, changes
nothing. -/
theorem handleFloodWait_unchanged
    (unusable : ∀ waitSeconds, extractWaitSeconds seconds = some waitSeconds →
      ¬ EndsInRange time waitSeconds) :
    (store.handleFloodWait channelId seconds accountId time breachTime).2 =
      store := by
  unfold handleFloodWait
  split
  · rfl
  · rename_i waitSeconds extracted
    obtain ⟨problem, raised⟩ := resumeAt_of_not_inRange
      (unusable waitSeconds extracted)
    rw [raised]

/-- Otherwise the channel is paused up to the end of the wait. -/
theorem handleFloodWait_pauses (known : store.HasChannel channelId)
    {waitSeconds : Int}
    (extracted : extractWaitSeconds seconds = some waitSeconds)
    (inRange : EndsInRange time waitSeconds) :
    ∃ resumeAt, resumeAt.instant = waitEnd time waitSeconds ∧
      (store.handleFloodWait channelId seconds accountId time
        breachTime).2.pausedUntil channelId = some resumeAt ∧
      (store.handleFloodWait channelId seconds accountId time
        breachTime).2.polling.channels = store.polling.channels := by
  obtain ⟨resumeAt, resumeIs, endIs⟩ := resumeAt_of_inRange
    (extractWaitSeconds_pos extracted) inRange
  obtain ⟨record, later, written, sameChannels, pausedIs⟩ :=
    persistFloodWait_pausedUntil known waitSeconds resumeAt
  refine ⟨resumeAt, endIs, ?_⟩
  unfold handleFloodWait
  simp only [extracted, resumeIs, written]
  cases accountId with
  | none => exact ⟨pausedIs, sameChannels⟩
  | some accountId =>
      obtain ⟨keptChannels, keptStates⟩ :=
        @recordAccountRiskBreach_channels later accountId "flood-wait"
          breachTime
      simp only [pausedUntil, keptStates, keptChannels]
      exact ⟨pausedIs, sameChannels⟩

end IngestStore

/-- A call for the channel, or anything else that happens to the store. -/
inductive FloodEvent where
  | floodWait (seconds : Option PyValue) (accountId : Option Int)
      (time breachTime : Timestamp)
  | elsewhere (store : IngestStore)

/-- The store, and the deadlines imposed on the channel so far. -/
structure FloodRun where
  store : IngestStore
  deadlines : List Instant

namespace FloodRun

/-- The deadline that a call imposes, if its error has wait seconds. -/
def deadlineOf (seconds : Option PyValue) (time : Timestamp) :
    Option Instant :=
  (extractWaitSeconds seconds).map (waitEnd time)

variable (channelId : Int)

def step : FloodEvent → FloodRun → FloodRun
  | .floodWait seconds accountId time breachTime, run =>
      ⟨(run.store.handleFloodWait channelId seconds accountId time
          breachTime).2,
        run.deadlines ++ (deadlineOf seconds time).toList⟩
  | .elsewhere store, run => ⟨store, run.deadlines⟩

/-- Nobody else edits the pause or removes the channel. -/
def LeavesPause : FloodEvent → FloodRun → Prop
  | .floodWait _ _ _ _, _ => True
  | .elsewhere store, run =>
      store.HasChannel channelId ∧
        store.pausedUntil channelId = run.store.pausedUntil channelId

/-- The pause that is stored lasts up to the deadline at least. -/
def Covers (pausedUntil : Option Timestamp) (deadline : Instant) : Prop :=
  ∃ pauseEnd ∈ pausedUntil, deadline ≤ pauseEnd.instant

instance (pausedUntil : Option Timestamp) (deadline : Instant) :
    Decidable (Covers pausedUntil deadline) :=
  match pausedUntil with
  | none => .isFalse (by simp [Covers])
  | some pauseEnd =>
      decidable_of_iff (deadline ≤ pauseEnd.instant) (by simp [Covers])

/-- Every deadline so far is covered by the stored pause, and no tick of the
scheduler before it selects the channel. -/
def Respects (run : FloodRun) : Prop :=
  ∀ deadline ∈ run.deadlines,
    Covers (run.store.pausedUntil channelId) deadline ∧
      ∀ now interval channelIds draws eligible,
        selectEligible now interval run.store.polling.states.find? channelIds
            draws = .ok eligible →
          now < deadline → channelId ∉ eligible

/-- The deadline of a call does not come before an earlier one.  A call whose
deadline is out of range raises, and then its deadline must be covered by what
is stored before. -/
def KeepsDeadlines : FloodEvent → FloodRun → Prop
  | .floodWait seconds _ time _, run =>
      ∀ waitSeconds ∈ extractWaitSeconds seconds,
        if EndsInRange time waitSeconds then
          ∀ earlier ∈ run.deadlines, earlier ≤ waitEnd time waitSeconds
        else Covers (run.store.pausedUntil channelId)
          (waitEnd time waitSeconds)
  | .elsewhere _, _ => True

variable {channelId}

/-- A covered deadline keeps the scheduler away. -/
theorem not_selected_of_covers {run : FloodRun} {deadline : Instant}
    (covered : Covers (run.store.pausedUntil channelId) deadline)
    {now : Instant} {interval : Int} {channelIds : List Int} {draws : List ℚ}
    {eligible : List Int}
    (selected : selectEligible now interval run.store.polling.states.find?
      channelIds draws = .ok eligible)
    (early : now < deadline) : channelId ∉ eligible := by
  intro member
  obtain ⟨pauseEnd, stored, late⟩ := covered
  exact (mem_selectEligible selected member).2
    ⟨pauseEnd, stored, lt_of_lt_of_le early late⟩

theorem respects_iff {run : FloodRun} :
    run.Respects channelId ↔ ∀ deadline ∈ run.deadlines,
      Covers (run.store.pausedUntil channelId) deadline := by
  constructor
  · intro respects deadline imposed
    exact (respects deadline imposed).1
  · intro covered deadline imposed
    refine ⟨covered deadline imposed, ?_⟩
    intro now interval channelIds draws eligible selected early
    exact not_selected_of_covers (covered deadline imposed) selected early

theorem step_hasChannel (event : FloodEvent) (run : FloodRun)
    (known : run.store.HasChannel channelId)
    (leaves : LeavesPause channelId event run) :
    (step channelId event run).store.HasChannel channelId := by
  cases event with
  | floodWait seconds accountId time breachTime =>
      by_cases unusable : ∀ waitSeconds,
          extractWaitSeconds seconds = some waitSeconds →
            ¬ EndsInRange time waitSeconds
      · simpa only [step, IngestStore.handleFloodWait_unchanged unusable]
          using known
      · push Not at unusable
        obtain ⟨waitSeconds, extracted, inRange⟩ := unusable
        obtain ⟨-, -, -, sameChannels⟩ :=
          @IngestStore.handleFloodWait_pauses run.store channelId seconds
            accountId time breachTime known waitSeconds extracted inRange
        refine ⟨known.1, ?_⟩
        simp only [step, sameChannels]
        exact known.2
  | elsewhere store => exact leaves.1

/-- A step respects all deadlines exactly if it keeps them in order. -/
theorem step_respects_iff (event : FloodEvent) (run : FloodRun)
    (known : run.store.HasChannel channelId)
    (leaves : LeavesPause channelId event run)
    (respects : run.Respects channelId) :
    (step channelId event run).Respects channelId ↔
      KeepsDeadlines channelId event run := by
  rw [respects_iff] at respects ⊢
  cases event with
  | floodWait seconds accountId time breachTime =>
      cases extracted : extractWaitSeconds seconds with
      | none =>
          have unchanged := @IngestStore.handleFloodWait_unchanged run.store
            channelId seconds accountId time breachTime (by simp [extracted])
          simp only [step, unchanged, deadlineOf, extracted, KeepsDeadlines]
          simpa using respects
      | some waitSeconds =>
          have imposed : (step channelId
              (.floodWait seconds accountId time breachTime) run).deadlines =
                run.deadlines ++ [waitEnd time waitSeconds] := by
            simp [step, deadlineOf, extracted]
          have guardIs : KeepsDeadlines channelId
              (.floodWait seconds accountId time breachTime) run ↔
                if EndsInRange time waitSeconds then
                  ∀ earlier ∈ run.deadlines, earlier ≤ waitEnd time waitSeconds
                else Covers (run.store.pausedUntil channelId)
                  (waitEnd time waitSeconds) := by
            simp [KeepsDeadlines, extracted]
          rw [imposed, guardIs]
          by_cases inRange : EndsInRange time waitSeconds
          · obtain ⟨resumeAt, endIs, pausedIs, -⟩ :=
              @IngestStore.handleFloodWait_pauses run.store channelId seconds
                accountId time breachTime known waitSeconds extracted inRange
            rw [if_pos inRange]
            simp only [step, pausedIs]
            simp [Covers, endIs, or_imp, forall_and]
          · have unchanged := @IngestStore.handleFloodWait_unchanged run.store
              channelId seconds accountId time breachTime
              (by simpa [extracted] using inRange)
            rw [if_neg inRange]
            simp only [step, unchanged]
            simp only [List.mem_append, List.mem_singleton, or_imp,
              forall_and, forall_eq]
            exact and_iff_right respects
  | elsewhere store =>
      simp only [step, leaves.2, KeepsDeadlines, iff_true]
      exact respects

end FloodRun

/-- While nobody else edits the pause of a channel, all its flood waits are
respected throughout a run of calls exactly if no call has a deadline before an
earlier one, or a deadline out of range that is not covered already. -/
theorem flood_waits_respected_iff_ordered {channelId : Int}
    {store : IngestStore} (known : store.HasChannel channelId)
    {events : List FloodEvent}
    (undisturbed : Guarded (FloodRun.step channelId)
      (FloodRun.LeavesPause channelId) events ⟨store, []⟩) :
    Always (FloodRun.step channelId) (FloodRun.Respects channelId) events
        ⟨store, []⟩ ↔
      Guarded (FloodRun.step channelId) (FloodRun.KeepsDeadlines channelId)
        events ⟨store, []⟩ := by
  have initially : FloodRun.Respects channelId ⟨store, []⟩ := by
    simp [FloodRun.Respects]
  exact always_iff_guarded_of_assumed (FloodRun.step channelId)
    FloodRun.step_hasChannel FloodRun.step_respects_iff known initially
    undisturbed

/-- A flood wait for the first channel, some minutes into the year 2025. -/
def sampleFloodWait (minutes : Fin 60) (seconds : Int) : FloodEvent :=
  .floodWait (some (.int seconds)) (some 1) (sampleBreachTime minutes)
    (sampleBreachTime minutes)

/-- A minute of waiting, followed by an hour. -/
theorem longer_wait_extends_pause_sample :
    sampleIngestStore.HasChannel 1 ∧
      Guarded (FloodRun.step 1) (FloodRun.LeavesPause 1)
        [sampleFloodWait 0 60, sampleFloodWait 1 3600]
        ⟨sampleIngestStore, []⟩ ∧
      Always (FloodRun.step 1) (FloodRun.Respects 1)
        [sampleFloodWait 0 60, sampleFloodWait 1 3600]
        ⟨sampleIngestStore, []⟩ := by
  have known : sampleIngestStore.HasChannel 1 :=
    ⟨by decide, by decide⟩
  have undisturbed : Guarded (FloodRun.step 1) (FloodRun.LeavesPause 1)
      [sampleFloodWait 0 60, sampleFloodWait 1 3600]
      ⟨sampleIngestStore, []⟩ :=
    ⟨trivial, trivial, trivial⟩
  refine ⟨known, undisturbed, ?_⟩
  rw [flood_waits_respected_iff_ordered known undisturbed]
  refine ⟨?_, ?_, trivial⟩
  · rintro waitSeconds ⟨⟩
    decide
  · rintro waitSeconds ⟨⟩
    decide

/-- An hour of waiting, and a minute later a minute of waiting: the hour is
forgotten, and after ten minutes the channel is polled again. -/
theorem shorter_wait_cuts_pause_short :
    sampleIngestStore.HasChannel 1 ∧
      Guarded (FloodRun.step 1) (FloodRun.LeavesPause 1)
        [sampleFloodWait 0 3600, sampleFloodWait 1 60]
        ⟨sampleIngestStore, []⟩ ∧
      ¬ Always (FloodRun.step 1) (FloodRun.Respects 1)
        [sampleFloodWait 0 3600, sampleFloodWait 1 60]
        ⟨sampleIngestStore, []⟩ ∧
      (sampleBreachTime 10).instant < waitEnd (sampleBreachTime 0) 3600 ∧
      selectEligible (sampleBreachTime 10).instant 300
        (run (FloodRun.step 1)
          [sampleFloodWait 0 3600, sampleFloodWait 1 60]
          ⟨sampleIngestStore, []⟩).store.polling.states.find? [1] [] =
        .ok [1] := by
  refine ⟨⟨by decide, by decide⟩, ⟨trivial, trivial, trivial⟩, ?_, by decide,
    by decide +kernel⟩
  intro always
  have respects := FloodRun.respects_iff.mp (always _ List.prefix_rfl)
  have covered := respects (waitEnd (sampleBreachTime 0) 3600)
    (by decide)
  exact absurd covered (by decide +kernel)

end Tca
