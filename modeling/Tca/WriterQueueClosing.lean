import Tca.WriterQueueCompletions

/-!
# Closing the writer queue

The first call of `close` waits for the worker to drain the queue.  A call that
finds the queue closed returns at once.  The file gives the condition under
which every call returns only after the jobs accepted before it are done, and
shows that no job is accepted after a call has returned.
-/

namespace Tca

open GuardedRuns

variable {Value Failure : Type}

instance [DecidableEq Value] [DecidableEq Failure]
    (state : WriterState Value Failure) (index : Nat) :
    Decidable (state.IsResolved index) :=
  decidable_of_iff
    (∃ job ∈ state.jobs[index]?, job.completion ≠ .pending) Iff.rfl

namespace WriterQueue

open WriterState

variable {queue : WriterQueue Value Failure}

/-- The jobs that were accepted before a call of `close` have their completions
once the call has returned. -/
def CloseDrained (queue : WriterQueue Value Failure) : Prop :=
  ∀ close ∈ queue.closes, close.phase = .returned →
    ∀ index < close.acceptedBefore, queue.IsResolved index

instance [DecidableEq Value] [DecidableEq Failure] :
    Decidable queue.CloseDrained :=
  inferInstanceAs (Decidable (∀ close ∈ queue.closes, _))

/-- Once a call of `close` has returned, a call of `submit` that acquires the
lock is refused and nothing else changes. -/
def RefusesAfterClose (queue : WriterQueue Value Failure) : Prop :=
  (∃ close ∈ queue.closes, close.phase = .returned) →
    ∀ call, queue.submits[call]? = some .waiting →
      step (.acquireSubmit call) queue = queue.setSubmit call
        (.refused "Writer queue is closed and cannot accept new jobs.")

/-- A call of `close` that finds the queue closed also finds the worker done,
and no worker is lost before its first step. -/
def ClosesAlone : QueueEvent Value Failure → WriterQueue Value Failure → Prop
  | .acquireClose call, queue =>
      queue.WaitsToClose call → queue.closed = true →
        ∀ task ∈ queue.workers, task.isLive = false
  | event, queue => NotLostAtStart event queue

instance [DecidableEq Value] [DecidableEq Failure] :
    ∀ (event : QueueEvent Value Failure) (queue : WriterQueue Value Failure),
      Decidable (ClosesAlone event queue)
  | .acquireClose call, queue =>
      inferInstanceAs (Decidable (queue.WaitsToClose call →
        queue.closed = true → ∀ task ∈ queue.workers, task.isLive = false))
  | .submit, _ => .isTrue trivial
  | .acquireSubmit _, _ => .isTrue trivial
  | .cancelSubmit _, _ => .isTrue trivial
  | .close, _ => .isTrue trivial
  | .resumeClose _, _ => .isTrue trivial
  | .cancelClose _, _ => .isTrue trivial
  | .cancelWorker _, _ => .isTrue trivial
  | .turn worker ending absorbed, queue =>
      inferInstanceAs
        (Decidable (NotLostAtStart (.turn worker ending absorbed) queue))

theorem ClosesAlone.notLostAtStart {event : QueueEvent Value Failure}
    (alone : ClosesAlone event queue) : NotLostAtStart event queue := by
  cases event with
  | acquireClose call => trivial
  | _ => exact alone

/-- Every call of `close` counts jobs that have been accepted. -/
def CountsAccepted (queue : WriterQueue Value Failure) : Prop :=
  ∀ close ∈ queue.closes, close.acceptedBefore ≤ queue.jobs.length

theorem jobs_length_le_step (sound : queue.Sound)
    (event : QueueEvent Value Failure) :
    queue.jobs.length ≤ (step event queue).jobs.length := by
  by_contra shorter
  have inRange : (step event queue).jobs.length < queue.jobs.length := by omega
  obtain ⟨kept, found, -⟩ :=
    (stateChange_step event queue).keepsResolved sound _ _
      (List.getElem?_eq_getElem inRange)
  have bound := (List.getElem?_eq_some_iff.mp found).1
  omega

theorem CountsAccepted.step (counts : queue.CountsAccepted)
    (sound : queue.Sound) (event : QueueEvent Value Failure) :
    (step event queue).CountsAccepted := by
  have longer := jobs_length_le_step sound event
  intro close member
  rcases close_step member with old | rfl | ⟨old, stored, sameBefore, -⟩
  · exact Nat.le_trans (counts close old) longer
  · exact longer
  · rw [← sameBefore]
    exact Nat.le_trans (counts old stored) longer

/-- When no worker is live and nothing is left, every accepted job has its
completion. -/
theorem isResolved_of_noneLive (nothingLeft : queue.NothingLeft)
    (noneLive : ∀ task ∈ queue.workers, task.isLive = false) {index : Nat}
    (accepted : index < queue.jobs.length) : queue.IsResolved index :=
  ⟨_, List.getElem?_eq_getElem accepted,
    nothingLeft noneLive _ (List.getElem_mem accepted)⟩

/-- A call that returns finds the jobs accepted before it done. -/
theorem isResolved_of_returns (sound : queue.Sound)
    (nothingLeft : queue.NothingLeft) (counts : queue.CountsAccepted)
    {event : QueueEvent Value Failure} (alone : ClosesAlone event queue)
    {close : CloseCall} (member : close ∈ queue.closes)
    (moves : CloseMove queue event close .returned) {index : Nat}
    (before : index < close.acceptedBefore) : queue.IsResolved index := by
  have accepted := Nat.lt_of_lt_of_le before (counts close member)
  cases moves with
  | findsClosed call close waits closed =>
      exact isResolved_of_noneLive nothingLeft (alone waits closed) accepted
  | findsNoWorker call close notClosed noWorker closed =>
      rw [(sound.unused notClosed noWorker).2] at accepted
      cases accepted
  | returns call awaits returned =>
      obtain ⟨-, onlyAwaited⟩ := sound.awaited close member _ awaits
      refine isResolved_of_noneLive nothingLeft
        (isLive_eq_false_of_none fun position live => ?_) accepted
      rw [onlyAwaited position live] at live
      exact not_liveAt_of_outcome returned live

/-- An allowed event keeps what returned calls of `close` promise. -/
theorem CloseDrained.step (drained : queue.CloseDrained) (sound : queue.Sound)
    (nothingLeft : queue.NothingLeft) (counts : queue.CountsAccepted)
    {event : QueueEvent Value Failure} (alone : ClosesAlone event queue) :
    (step event queue).CloseDrained := by
  have keeps := (stateChange_step event queue).keepsResolved sound
  intro close member returned index before
  rcases close_step member with old | rfl | ⟨old, stored, sameBefore, moves⟩
  · exact (drained close old returned index before).keep keeps
  · cases returned
  · rw [returned] at moves
    rw [← sameBefore] at before
    exact (isResolved_of_returns sound nothingLeft counts alone stored moves
      before).keep keeps

/-- A queue on which a call of `close` has returned is closed. -/
def ReturnedIsClosed (queue : WriterQueue Value Failure) : Prop :=
  ∀ close ∈ queue.closes, close.phase = .returned → queue.closed = true

theorem ReturnedIsClosed.step (isClosed : queue.ReturnedIsClosed)
    (sound : queue.Sound) (event : QueueEvent Value Failure) :
    (step event queue).ReturnedIsClosed := by
  intro close member returned
  rcases close_step member with old | rfl | ⟨old, stored, -, moves⟩
  · exact closed_step event (isClosed close old returned)
  · cases returned
  · rw [returned] at moves
    cases moves with
    | findsClosed call close waits closed => exact closed_step _ closed
    | findsNoWorker call close notClosed noWorker closed => exact closed
    | returns call awaits returned =>
        exact closed_step _ (sound.awaited old stored _ awaits).1

theorem ReturnedIsClosed.refuses (isClosed : queue.ReturnedIsClosed) :
    queue.RefusesAfterClose := by
  rintro ⟨close, member, returned⟩ call waiting
  simp [WriterQueue.step, waiting, acquireSubmit,
    isClosed close member returned]

/-- The invariant of runs in which the queue is closed by one call at a time. -/
structure ClosedInTurn (queue : WriterQueue Value Failure) : Prop where
  sound : queue.Sound
  nothingLeft : queue.NothingLeft
  counts : queue.CountsAccepted
  drained : queue.CloseDrained

theorem closedInTurn_initial :
    (initial : WriterQueue Value Failure).ClosedInTurn where
  sound := sound_initial
  nothingLeft := by simp [NothingLeft, initial, WriterState.initial]
  counts := by simp [CountsAccepted, initial]
  drained := by simp [CloseDrained, initial]

theorem ClosedInTurn.step (inTurn : queue.ClosedInTurn)
    {event : QueueEvent Value Failure} (alone : ClosesAlone event queue) :
    (step event queue).ClosedInTurn where
  sound := inTurn.sound.step event
  nothingLeft := (nothingLeft_step_iff inTurn.sound inTurn.nothingLeft
    event).mpr alone.notLostAtStart
  counts := inTurn.counts.step inTurn.sound event
  drained := inTurn.drained.step inTurn.sound inTurn.nothingLeft inTurn.counts
    alone

/-- In every run, a call of `submit` that acquires the lock after a call of
`close` has returned is refused.  If, moreover, every call of `close` that finds
the queue closed finds the worker done, and no worker is lost before its first
step, then every call of `close` that has returned has left no job accepted
before it without a completion. -/
theorem close_drains (events : List (QueueEvent Value Failure)) :
    Always step RefusesAfterClose events initial ∧
      (Guarded step ClosesAlone events initial →
        Always step CloseDrained events initial) := by
  constructor
  · intro executed isInitial
    have isClosed := always_of_preserved step
      (fun event queue (holds : Sound queue ∧ ReturnedIsClosed queue) =>
        And.intro (holds.1.step event) (holds.2.step holds.1 event))
      events ⟨sound_initial, by simp [ReturnedIsClosed, initial]⟩ executed
      isInitial
    exact isClosed.2.refuses
  · intro guarded executed isInitial
    have inTurn := always_of_guarded step
      (fun event queue (inTurn : ClosedInTurn queue) alone =>
        inTurn.step alone) closedInTurn_initial guarded executed isInitial
    exact inTurn.drained

/-- A job is submitted and executed while a first call of `close` waits; a
second call comes when the worker is done. -/
def sampleClosingEvents : List (QueueEvent Nat String) :=
  [.submit, .acquireSubmit 0, .turn 0 (.returned 0) false, .close,
    .acquireClose 0, .turn 0 (.returned 0) false, .turn 0 (.returned 7) false,
    .turn 0 (.returned 0) false, .resumeClose 0, .close, .acquireClose 1,
    .submit, .acquireSubmit 1]

theorem close_drains_sample :
    Always step CloseDrained sampleClosingEvents initial ∧
      (run step sampleClosingEvents initial).closes =
        [⟨1, .returned⟩, ⟨1, .returned⟩] ∧
      (run step sampleClosingEvents initial).submits = [.accepted 0,
        .refused "Writer queue is closed and cannot accept new jobs."] :=
  ⟨(close_drains sampleClosingEvents).2 (by decide), by decide, by decide⟩

/-- A second call of `close` returns while the first still waits for the worker
to execute the job. -/
theorem second_close_returns_early :
    ¬ Always step CloseDrained
      ([.submit, .acquireSubmit 0, .close, .close, .acquireClose 0,
        .acquireClose 1] : List (QueueEvent Nat String)) initial := by
  intro always
  have atEnd := always _ List.prefix_rfl
  revert atEnd
  decide

end WriterQueue

end Tca
