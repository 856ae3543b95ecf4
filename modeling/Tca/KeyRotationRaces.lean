import Tca.KeyRotation

/-!
# Concurrent key rotation calls

A call of the repository writes on the strength of a row it read earlier.
The file says exactly when the completion marker stays truthful under any
interleaving of calls, and gives the condition under which concurrent calls
that begin a rotation agree on its target.
-/

namespace Tca

open GuardedRuns InterleavedCalls Protocol

namespace RotationStore

/-- A stored completion marker means that every account has reached the stored
target. -/
def Truthful (store : RotationStore) : Prop :=
  ∀ state ∈ store.rotation, state.completedAt ≠ none →
    ∀ row ∈ store.accounts.rows, state.targetKeyVersion ≤ row.keyVersion

instance (store : RotationStore) : Decidable store.Truthful :=
  inferInstanceAs (Decidable (∀ state ∈ store.rotation, _))

/-- A rotation to the target is in progress. -/
def InProgress (store : RotationStore) (target : Int) : Prop :=
  ∃ state ∈ store.rotation, state.targetKeyVersion = target ∧
    state.completedAt = none

instance (store : RotationStore) (target : Int) :
    Decidable (store.InProgress target) :=
  inferInstanceAs (Decidable (∃ state ∈ store.rotation, _))

variable {store : RotationStore}

theorem not_hasPending_iff {target : Int} :
    ¬ store.HasPending target ↔
      ∀ row ∈ store.accounts.rows, target ≤ row.keyVersion := by
  simp [HasPending]

theorem truthful_iff :
    store.Truthful ↔ ∀ state ∈ store.rotation, state.completedAt ≠ none →
      ¬ store.HasPending state.targetKeyVersion := by
  simp only [Truthful, not_hasPending_iff]

/-- Raising a key version leaves no account lower than it was. -/
theorem HasPending.of_raiseKeyVersion {accountId target version : Int}
    (pending : (store.raiseKeyVersion accountId target).HasPending version) :
    store.HasPending version := by
  obtain ⟨row, stored, below⟩ := pending
  obtain ⟨old, oldStored, rfl⟩ := mem_raiseKeyVersion.mp stored
  refine ⟨old, oldStored, ?_⟩
  split at below
  · rename_i raised
    exact raised.2.trans below
  · exact below

theorem Truthful.applyMark (truthful : store.Truthful) (accountId : Int)
    (state : KeyRotationState) : (store.applyMark accountId state).Truthful := by
  rw [truthful_iff] at truthful ⊢
  intro row stored completed pending
  have pendingRaised : (store.raiseKeyVersion accountId
      state.targetKeyVersion).HasPending row.targetKeyVersion := by
    simpa [HasPending] using pending
  have pendingBefore := pendingRaised.of_raiseKeyVersion
  rw [applyMark_rotation] at stored
  split at stored
  · obtain ⟨old, oldStored, rfl⟩ := Option.map_eq_some_iff.mp stored
    exact truthful old oldStored completed pendingBefore
  · exact truthful row stored completed pendingBefore

/-- Setting the marker keeps it truthful exactly if it was set before or no
account is below the stored target. -/
theorem truthful_setCompleted_iff (truthful : store.Truthful) (now : Instant) :
    (store.setCompleted now).Truthful ↔
      ∀ state ∈ store.rotation, state.completedAt = none →
        ¬ store.HasPending state.targetKeyVersion := by
  rw [truthful_iff] at truthful ⊢
  cases stored : store.rotation with
  | none => simp [setCompleted, stored]
  | some state =>
      by_cases running : state.completedAt = none
      · simp [setCompleted, stored, running, HasPending]
      · have truthfulState := truthful state stored running
        simpa [setCompleted, stored, running, HasPending] using truthfulState

end RotationStore

/-- The completion call that is about to set the marker finds no account below
the stored target, which may not be the one it read. -/
def MarkerAllowed : RotationPhase → Instant → RotationStore → Prop
  | .completeWrite state, _, store =>
      ∀ row ∈ store.rotation, row.completedAt = none →
        ¬ store.HasPending state.targetKeyVersion →
          ¬ store.HasPending row.targetKeyVersion
  | _, _, _ => True

instance : ∀ phase now store, Decidable (MarkerAllowed phase now store)
  | .completeWrite state, _, store =>
      inferInstanceAs (Decidable (∀ row ∈ store.rotation,
        row.completedAt = none → ¬ store.HasPending state.targetKeyVersion →
          ¬ store.HasPending row.targetKeyVersion))
  | .beginRead _, _, _ => .isTrue trivial
  | .beginInsert _, _, _ => .isTrue trivial
  | .beginReset _, _, _ => .isTrue trivial
  | .beginReread _ _, _, _ => .isTrue trivial
  | .nextRead, _, _ => .isTrue trivial
  | .nextSelect _, _, _ => .isTrue trivial
  | .markRead _, _, _ => .isTrue trivial
  | .markWrite _ _, _, _ => .isTrue trivial
  | .completeRead, _, _ => .isTrue trivial

/-- A step keeps the marker truthful exactly if it is allowed. -/
theorem rotationAdvance_truthful_iff {store : RotationStore}
    (truthful : store.Truthful) (phase : RotationPhase) (now : Instant) :
    (rotationAdvance phase now store).2.Truthful ↔
      MarkerAllowed phase now store := by
  rcases rotationAdvance_store_cases phase now store with same |
    ⟨target, rfl, -, started⟩ | ⟨target, rfl, reset⟩ |
    ⟨accountId, state, rfl, marked⟩ | ⟨state, rfl, finished, completed⟩
  · rw [same]
    refine iff_of_true truthful ?_
    cases phase with
    | completeWrite state =>
        intro row stored running finished
        have completed : store.setCompleted now = store := by
          simpa [rotationAdvance, atomically_completeWrite, finished] using same
        exact (RotationStore.truthful_setCompleted_iff truthful now).mp
          (completed.symm ▸ truthful) row stored running
    | _ => trivial
  · rw [started]
    refine iff_of_true ?_ trivial
    intro state stored completed
    cases stored
    exact absurd rfl completed
  · rw [reset]
    refine iff_of_true ?_ trivial
    intro state stored completed
    obtain ⟨old, -, rfl⟩ := Option.map_eq_some_iff.mp stored
    exact absurd rfl completed
  · rw [marked]
    exact iff_of_true (truthful.applyMark accountId state) trivial
  · rw [completed, RotationStore.truthful_setCompleted_iff truthful now]
    simp only [MarkerAllowed]
    constructor
    · intro allowed row stored running _
      exact allowed row stored running
    · intro allowed row stored running
      exact allowed row stored running finished

/-- In a run of any interleaved calls the completion marker is truthful
throughout exactly if no completion call sets it on the strength of a stale
target: whenever the marker is about to be set because no account is below the
target that was read, none is below the target that is stored by then. -/
theorem completionMarker_truthful_iff (events : List RotationEvent)
    (system : RotationSystem) (truthful : system.store.Truthful) :
    Always rotationCalls.step (fun later => later.store.Truthful) events
        system ↔
      Guarded rotationCalls.step (Permits (fun _ => True) MarkerAllowed)
        events system := by
  have exactStep : ∀ phase now (store : RotationStore), True →
      store.Truthful → ((rotationCalls.advance phase now store).2.Truthful ↔
        MarkerAllowed phase now store) :=
    fun phase now _ _ truthfulNow =>
      rotationAdvance_truthful_iff truthfulNow phase now
  exact rotationCalls.always_store_iff_guarded (fun _ _ _ _ => trivial)
    exactStep events trivial truthful

/-- A rotation to version 2 that is carried out call by call. -/
def sampleRotationEvents : List RotationEvent :=
  [.start (.beginRotation 2), .resume 0 10, .resume 0 10, .resume 0 10,
    .start (.markAccountRotated 1), .resume 1 20, .resume 1 20,
    .start (.markAccountRotated 2), .resume 2 30, .resume 2 30,
    .start .completeIfFinished, .resume 3 40,
    .start .completeIfFinished, .resume 4 50, .resume 4 50]

theorem completionMarker_truthful_iff_sample :
    sampleRotationStore.Truthful ∧
      Always rotationCalls.step (fun later => later.store.Truthful)
        sampleRotationEvents (System.idle sampleRotationStore) :=
  ⟨by decide, (completionMarker_truthful_iff sampleRotationEvents
    (System.idle sampleRotationStore) (by decide)).mpr (by decide)⟩

/-- The overtaken completion call of the rotation to version 2 marks the
rotation to version 3 as complete although no account has been rotated. -/
theorem overtaken_completion_marks_next_rotation :
    ¬ Always rotationCalls.step (fun later => later.store.Truthful)
      (sampleRotationEvents ++ [.start (.beginRotation 3), .resume 5 60,
        .resume 5 60, .resume 5 60, .resume 3 70])
      (System.idle sampleRotationStore) := by
  intro always
  have atEnd := always _ List.prefix_rfl
  revert atEnd
  decide

/-- Only calls that begin a rotation. -/
def IsBeginRotation : RotationRequest → Prop
  | .beginRotation _ => True
  | .nextPendingAccountId => False
  | .markAccountRotated _ => False
  | .completeIfFinished => False

instance : DecidablePred IsBeginRotation
  | .beginRotation _ => .isTrue trivial
  | .nextPendingAccountId => .isFalse not_false
  | .markAccountRotated _ => .isFalse not_false
  | .completeIfFinished => .isFalse not_false

/-- No rotation to another target is in progress. -/
def NoOtherInProgress (target : Int) (store : RotationStore) : Prop :=
  ∀ state ∈ store.rotation, state.completedAt = none →
    state.targetKeyVersion = target

/-- A call that begins a rotation reaches its write while no rotation to
another target is in progress. -/
def TargetAllowed : RotationPhase → Instant → RotationStore → Prop
  | .beginInsert target, _, store => NoOtherInProgress target store
  | .beginReset target, _, store => NoOtherInProgress target store
  | _, _, _ => True

/-- What a call that begins a rotation knows between its steps. -/
def BeginKnows : RotationProgress → RotationStore → Prop
  | .suspended (.beginRead _), _ => True
  | .suspended (.beginInsert _), store =>
      ∀ state ∈ store.rotation, state.completedAt = none
  | .suspended (.beginReset _), store => store.rotation ≠ none
  | .suspended (.beginReread target _), store => store.InProgress target
  | .suspended _, _ => False
  | .ended (.began target (.ok state)), _ => state.targetKeyVersion = target
  | .ended _, _ => True
  | .abandoned, _ => True

namespace RotationStore

variable {store : RotationStore} {target : Int}

theorem inProgress_startRotation :
    (store.startRotation target).InProgress target :=
  ⟨_, rfl, rfl, rfl⟩

theorem inProgress_resetRow (stored : store.rotation ≠ none) :
    (store.resetRow target).InProgress target := by
  obtain ⟨state, stored⟩ := Option.ne_none_iff_exists'.mp stored
  exact ⟨⟨target, 0, none⟩, by simp [resetRow, stored], rfl, rfl⟩

end RotationStore

/-- Each step of a beginning call establishes what the call knows next. -/
theorem beginKnows_advance {phase : RotationPhase} {now : Instant}
    {store : RotationStore} (knows : BeginKnows (.suspended phase) store)
    (allowed : TargetAllowed phase now store) :
    BeginKnows (rotationAdvance phase now store).1
      (rotationAdvance phase now store).2 := by
  cases phase with
  | beginRead target =>
      simp only [rotationAdvance, beginRead]
      split
      · trivial
      · cases stored : store.rotation with
        | none => simp [BeginKnows, stored]
        | some state =>
            dsimp only
            split
            · rename_i sameTarget
              exact sameTarget
            · split
              · trivial
              · split
                · trivial
                · simp [BeginKnows, stored]
  | beginInsert target =>
      simp only [rotationAdvance, atomically_beginInsert]
      split
      · split
        · exact RotationStore.inProgress_startRotation
        · rename_i stored
          obtain ⟨state, stored⟩ := Option.ne_none_iff_exists'.mp stored
          have running := knows state stored
          exact ⟨state, stored, allowed state stored running, running⟩
      · trivial
  | beginReset target =>
      simp only [rotationAdvance, atomically_beginReset]
      split
      · exact RotationStore.inProgress_resetRow knows
      · trivial
  | beginReread target conflict =>
      obtain ⟨state, stored, sameTarget, -⟩ := knows
      simp only [rotationAdvance, beginReread, Option.mem_def.mp stored]
      exact sameTarget
  | nextRead => exact knows.elim
  | nextSelect state => exact knows.elim
  | markRead accountId => exact knows.elim
  | markWrite accountId state => exact knows.elim
  | completeRead => exact knows.elim
  | completeWrite state => exact knows.elim

/-- A rotation in progress is not replaced by an allowed step of a beginning
call. -/
theorem inProgress_advance {phase : RotationPhase} {now : Instant}
    {store : RotationStore} {target : Int}
    (knows : BeginKnows (.suspended phase) store)
    (allowed : TargetAllowed phase now store)
    (inProgress : store.InProgress target) :
    (rotationAdvance phase now store).2.InProgress target := by
  obtain ⟨state, stored, sameTarget, running⟩ := inProgress
  rcases rotationAdvance_store_cases phase now store with same |
    ⟨other, rfl, absent, -⟩ | ⟨other, rfl, reset⟩ |
    ⟨accountId, other, rfl, -⟩ | ⟨other, rfl, -, -⟩
  · rw [same]
    exact ⟨state, stored, sameTarget, running⟩
  · simp [absent] at stored
  · rw [reset, ← sameTarget, allowed state stored running]
    exact RotationStore.inProgress_resetRow knows
  · exact knows.elim
  · exact knows.elim

/-- All that an allowed step of a beginning call can do to the row. -/
theorem beginAdvance_rotation {phase : RotationPhase} (now : Instant)
    {store : RotationStore} (knows : BeginKnows (.suspended phase) store) :
    (rotationAdvance phase now store).2.rotation = store.rotation ∨
      ∃ target, (rotationAdvance phase now store).2.rotation =
        some ⟨target, 0, none⟩ := by
  rcases rotationAdvance_store_cases phase now store with same |
    ⟨target, rfl, -, started⟩ | ⟨target, rfl, reset⟩ |
    ⟨accountId, other, rfl, -⟩ | ⟨other, rfl, -, -⟩
  · exact .inl (by rw [same])
  · exact .inr ⟨target, by rw [started]; rfl⟩
  · obtain ⟨state, stored⟩ := Option.ne_none_iff_exists'.mp knows
    exact .inr ⟨target, by rw [reset, RotationStore.resetRow, stored]; rfl⟩
  · exact knows.elim
  · exact knows.elim

/-- What another call knows survives an allowed step of a beginning call. -/
theorem beginKnows_stable {phase : RotationPhase} {now : Instant}
    {store : RotationStore} {other : RotationProgress}
    (knows : BeginKnows (.suspended phase) store)
    (allowed : TargetAllowed phase now store)
    (otherKnows : BeginKnows other store) :
    BeginKnows other (rotationAdvance phase now store).2 := by
  have row := beginAdvance_rotation now knows
  cases other with
  | suspended otherPhase =>
      cases otherPhase with
      | beginRead _ => trivial
      | beginInsert _ =>
          rcases row with same | ⟨target, fresh⟩
          · simpa only [BeginKnows, same] using otherKnows
          · simp [BeginKnows, fresh]
      | beginReset _ =>
          rcases row with same | ⟨target, fresh⟩
          · simpa only [BeginKnows, same] using otherKnows
          · simp [BeginKnows, fresh]
      | beginReread _ _ => exact inProgress_advance knows allowed otherKnows
      | nextRead => exact otherKnows
      | nextSelect _ => exact otherKnows
      | markRead _ => exact otherKnows
      | markWrite _ _ => exact otherKnows
      | completeRead => exact otherKnows
      | completeWrite _ => exact otherKnows
  | ended result =>
      cases result with
      | began _ outcome => cases outcome <;> exact otherKnows
      | offered _ => trivial
      | marked _ _ => trivial
      | completed _ => trivial
  | abandoned => trivial

theorem beginKnows_enter {request : RotationRequest} {store : RotationStore}
    (begins : IsBeginRotation request) :
    BeginKnows (.suspended (rotationCalls.enter request)) store := by
  cases request with
  | beginRotation target => trivial
  | nextPendingAccountId => exact begins.elim
  | markAccountRotated accountId => exact begins.elim
  | completeIfFinished => exact begins.elim

/-- An allowed run of beginning calls keeps their knowledge and everything
about the store that their steps keep. -/
private theorem always_beginKnows {invariant : RotationStore → Prop}
    (kept : ∀ phase now store, invariant store →
      BeginKnows (.suspended phase) store → TargetAllowed phase now store →
      invariant (rotationAdvance phase now store).2)
    {events : List RotationEvent} {system : RotationSystem}
    (annotated : Annotated invariant BeginKnows system)
    (guarded : Guarded rotationCalls.step
      (Permits IsBeginRotation TargetAllowed) events system) :
    Always rotationCalls.step (Annotated invariant BeginKnows) events
      system := by
  refine always_of_guarded rotationCalls.step ?_ annotated guarded
  intro event current annotatedNow permitted
  refine rotationCalls.annotated_step ?_ ?_ ?_ ?_ event current annotatedNow
    permitted
  · intro request store begins _
    exact beginKnows_enter begins
  · intro store
    trivial
  · intro phase now store holds knows allowed
    exact ⟨kept phase now store holds knows allowed,
      beginKnows_advance knows allowed⟩
  · intro phase now store other _ knows allowed otherKnows
    exact beginKnows_stable knows allowed otherKnows

/-- In every run of concurrent beginning calls in which none of them reaches
its write while a rotation to another target is in progress, each call that
returns a state returns its own target, and a rotation once in progress stays
in progress with its target. -/
theorem rotationTarget_agreed (store : RotationStore)
    (events : List RotationEvent)
    (guarded : Guarded rotationCalls.step
      (Permits IsBeginRotation TargetAllowed) events (System.idle store)) :
    (∀ target state, .ended (.began target (.ok state)) ∈
        (run rotationCalls.step events (System.idle store)).calls →
      state.targetKeyVersion = target) ∧
    ∀ earlier later, earlier <+: later → later <+: events → ∀ target,
      (run rotationCalls.step earlier (System.idle store)).store.InProgress
        target →
      (run rotationCalls.step later (System.idle store)).store.InProgress
        target := by
  have idleKnows : Annotated (fun _ => True) BeginKnows
      (System.idle store : RotationSystem) :=
    ⟨trivial, fun call member => absurd member List.not_mem_nil⟩
  have known := always_beginKnows (fun _ _ _ _ _ _ => trivial) idleKnows guarded
  constructor
  · intro target state returned
    exact (known events List.prefix_rfl).2 _ returned
  · intro earlier later earlierFirst laterFirst target inProgress
    obtain ⟨between, rfl⟩ := earlierFirst
    obtain ⟨rest, rfl⟩ := laterFirst
    rw [List.append_assoc, guarded_append, guarded_append] at guarded
    obtain ⟨-, guardedBetween, -⟩ := guarded
    have knownEarlier := known earlier
      ((List.prefix_append earlier between).trans (List.prefix_append _ rest))
    have keptBetween := always_beginKnows
      (fun _ _ _ holds knows allowed => inProgress_advance knows allowed holds)
      ⟨inProgress, knownEarlier.2⟩ guardedBetween
    rw [run_append]
    exact (keptBetween between List.prefix_rfl).1

instance : ∀ phase now store, Decidable (TargetAllowed phase now store)
  | .beginInsert target, _, store =>
      inferInstanceAs (Decidable (∀ state ∈ store.rotation,
        state.completedAt = none → state.targetKeyVersion = target))
  | .beginReset target, _, store =>
      inferInstanceAs (Decidable (∀ state ∈ store.rotation,
        state.completedAt = none → state.targetKeyVersion = target))
  | .beginRead _, _, _ => .isTrue trivial
  | .beginReread _ _, _, _ => .isTrue trivial
  | .nextRead, _, _ => .isTrue trivial
  | .nextSelect _, _, _ => .isTrue trivial
  | .markRead _, _, _ => .isTrue trivial
  | .markWrite _ _, _, _ => .isTrue trivial
  | .completeRead, _, _ => .isTrue trivial
  | .completeWrite _, _, _ => .isTrue trivial

/-- Two calls that race for the same target. -/
def sampleBeginRace : List RotationEvent :=
  [.start (.beginRotation 2), .start (.beginRotation 2), .resume 0 10,
    .resume 1 10, .resume 0 20, .resume 1 20, .resume 0 30, .resume 1 30]

theorem rotationTarget_agreed_sample :
    Guarded rotationCalls.step (Permits IsBeginRotation TargetAllowed)
        sampleBeginRace (System.idle sampleRotationStore) ∧
      ∀ target state, .ended (.began target (.ok state)) ∈
          (run rotationCalls.step sampleBeginRace
            (System.idle sampleRotationStore)).calls →
        state.targetKeyVersion = target :=
  ⟨by decide,
    (rotationTarget_agreed sampleRotationStore sampleBeginRace (by decide)).1⟩

/-- Of two calls that race to insert the row, the loser returns the winner's
target as if it were its own; of two that race to reset a completed row, the
second replaces the target of the rotation that the first began. -/
theorem racing_begins_disagree :
    .ended (.began 3 (.ok ⟨2, 0, none⟩)) ∈
      (run rotationCalls.step
        [.start (.beginRotation 2), .start (.beginRotation 3), .resume 0 10,
          .resume 1 10, .resume 0 20, .resume 1 20, .resume 1 30]
        (System.idle sampleRotationStore)).calls ∧
    (run rotationCalls.step
      [.start (.beginRotation 2), .start (.beginRotation 3), .resume 0 10,
        .resume 1 10, .resume 0 20]
      (System.idle
        { sampleRotationStore with rotation := some ⟨1, 2, some 0⟩ })
      ).store.InProgress 2 ∧
    ¬ (run rotationCalls.step
      [.start (.beginRotation 2), .start (.beginRotation 3), .resume 0 10,
        .resume 1 10, .resume 0 20, .resume 1 20]
      (System.idle
        { sampleRotationStore with rotation := some ⟨1, 2, some 0⟩ })
      ).store.InProgress 2 := by
  decide

end Tca
