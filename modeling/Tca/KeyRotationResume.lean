import Tca.KeyRotationMarks
import Tca.GuardedRuns

/-!
# Resuming a key rotation

The driver of a rotation begins it, marks the accounts that it is offered one
by one and completes it.  The driver may be stopped between any two calls and
started again.  The file proves that the accounts below the target are marked
once each and in order, whatever the stops, and that a driver which is left
alone comes to its end.
-/

namespace Tca

open GuardedRuns InterleavedCalls

/-- The next call of the driver, or how it stopped. -/
inductive DriverPhase where
  | starting
  | scanning
  | marking (accountId : Int)
  | finishing
  | finished (completed : Bool)
  | failed (problem : PyError)
  deriving DecidableEq

/-- The store, the driver's position, and the accounts it has marked since the
very first start. -/
structure Driver where
  store : RotationStore
  phase : DriverPhase
  marked : List Int

/-- The driver makes its next call, or it is stopped and restarted. -/
inductive DriverEvent where
  | call (now : Instant)
  | restart
  deriving DecidableEq

namespace Driver

def start (store : RotationStore) : Driver :=
  ⟨store, .starting, []⟩

/-- Begin the rotation, then mark what is offered until nothing is, then
complete. -/
def call (target : Int) (now : Instant) (driver : Driver) : Driver :=
  match driver.phase with
  | .starting =>
      let (progress, store) :=
        performRotation (.beginRotation target) now driver.store
      match progress with
      | .ended (.began _ (.ok _)) =>
          { driver with store := store, phase := .scanning }
      | .ended (.began _ (.error problem)) =>
          { driver with store := store, phase := .failed problem }
      | _ => { driver with store := store }
  | .scanning =>
      let (progress, store) :=
        performRotation .nextPendingAccountId now driver.store
      match progress with
      | .ended (.offered (some accountId)) =>
          { driver with store := store, phase := .marking accountId }
      | .ended (.offered none) =>
          { driver with store := store, phase := .finishing }
      | _ => { driver with store := store }
  | .marking accountId =>
      let (progress, store) :=
        performRotation (.markAccountRotated accountId) now driver.store
      match progress with
      | .ended (.marked _ (.ok _)) =>
          { store := store
            phase := .scanning
            marked := driver.marked ++ [accountId] }
      | .ended (.marked _ (.error problem)) =>
          { driver with store := store, phase := .failed problem }
      | _ => { driver with store := store }
  | .finishing =>
      let (progress, store) :=
        performRotation .completeIfFinished now driver.store
      match progress with
      | .ended (.completed (.ok completed)) =>
          { driver with store := store, phase := .finished completed }
      | .ended (.completed (.error problem)) =>
          { driver with store := store, phase := .failed problem }
      | _ => { driver with store := store }
  | .finished _ => driver
  | .failed _ => driver

def step (target : Int) : DriverEvent → Driver → Driver
  | .call now, driver => driver.call target now
  | .restart, driver => { driver with phase := .starting }

/-- Where a started driver may stand, given the rotation row. -/
def PhaseFits (store : RotationStore) (state : KeyRotationState) :
    DriverPhase → Prop
  | .starting => True
  | .scanning => True
  | .marking accountId => store.nextPending state = some accountId
  | .finishing => store.nextPending state = none
  | .finished completed => completed = true ∧ state.completedAt ≠ none
  | .failed _ => False

/-- What holds from the first call on.  The marks are the accounts initially
below the target up to the high-water mark. -/
structure Rotating (initial : RotationStore) (target : Int)
    (driver : Driver) (state : KeyRotationState) : Prop where
  stored : driver.store.rotation = some state
  sameTarget : state.targetKeyVersion = target
  hasMarked : HasMarked initial target driver.marked driver.store
  ascending : driver.marked.Pairwise (· < ·)
  mem_marked_iff : ∀ id, id ∈ driver.marked ↔
    (∃ row ∈ initial.accounts.rows, row.id = id ∧ row.keyVersion < target) ∧
      id ≤ state.lastRotatedAccountId
  truthful : state.completedAt ≠ none → ¬ driver.store.HasPending target
  phaseFits : PhaseFits driver.store state driver.phase

/-- The driver has not made a call yet, or it is rotating. -/
def Invariant (initial : RotationStore) (target : Int) (driver : Driver) :
    Prop :=
  driver = start initial ∨ ∃ state, driver.Rotating initial target state

section Calls

variable {initial : RotationStore} {target : Int} {driver : Driver}
  {state : KeyRotationState}

theorem call_start (positive : 1 ≤ target) (sqlTarget : IsSqlInteger target)
    (ready : ReadyFor initial target) (now : Instant) :
    (start initial).call target now =
      ⟨initial.startRotation target, .scanning, []⟩ := by
  simp only [call, start,
    perform_beginRotation_ready positive sqlTarget ready now]

namespace Rotating

/-- An account below the target that has not been marked lies above the
high-water mark. -/
theorem lt_of_unmarked (rotating : driver.Rotating initial target state)
    {row : AccountRow} (stored : row ∈ initial.accounts.rows)
    (below : row.keyVersion < target) (unmarked : row.id ∉ driver.marked) :
    state.lastRotatedAccountId < row.id := by
  by_contra notAbove
  exact unmarked ((rotating.mem_marked_iff row.id).mpr
    ⟨⟨row, stored, rfl, below⟩, not_lt.mp notAbove⟩)

/-- The two records of progress agree: the query offers nothing exactly when
no account is below the target. -/
theorem nextPending_eq_none_iff
    (rotating : driver.Rotating initial target state) :
    driver.store.nextPending state = none ↔
      ¬ driver.store.HasPending target := by
  rw [RotationStore.nextPending_eq_none_iff, rotating.sameTarget,
    rotating.hasMarked.forall_pending_iff
      fun id => id ≤ state.lastRotatedAccountId,
    rotating.hasMarked.hasPending_iff]
  constructor
  · rintro noneAbove ⟨row, stored, below, unmarked⟩
    exact (rotating.lt_of_unmarked stored below unmarked).not_ge
      (noneAbove row stored below unmarked)
  · intro nonePending row stored below unmarked
    exact absurd ⟨row, stored, below, unmarked⟩ nonePending

/-- What the query offers is the lowest unmarked account below the target. -/
theorem offered (rotating : driver.Rotating initial target state)
    {accountId : Int}
    (isNext : driver.store.nextPending state = some accountId) :
    (∃ row ∈ initial.accounts.rows, row.id = accountId ∧
        row.keyVersion < target) ∧
      state.lastRotatedAccountId < accountId ∧
      ∀ row ∈ initial.accounts.rows, row.keyVersion < target →
        row.id ∉ driver.marked → accountId ≤ row.id := by
  rw [RotationStore.nextPending_eq_some_iff, rotating.sameTarget] at isNext
  obtain ⟨⟨row, stored, below, above, rfl⟩, least⟩ := isNext
  rw [rotating.hasMarked] at stored
  obtain ⟨old, oldStored, rfl⟩ := List.mem_map.mp stored
  rw [raiseMarked_id] at above least ⊢
  obtain ⟨oldBelow, -⟩ := keyVersion_raiseMarked_lt_iff.mp below
  refine ⟨⟨old, oldStored, rfl, oldBelow⟩, above, ?_⟩
  intro other otherStored otherBelow unmarked
  have stays : raiseMarked target driver.marked other = other :=
    if_neg fun raised => unmarked raised.2
  have member : other ∈ driver.store.accounts.rows := by
    rw [rotating.hasMarked]
    exact List.mem_map.mpr ⟨other, otherStored, stays⟩
  exact least other member otherBelow
    (rotating.lt_of_unmarked otherStored otherBelow unmarked)

theorem call_starting (rotating : driver.Rotating initial target state)
    (positive : 1 ≤ target) (atStart : driver.phase = .starting)
    (now : Instant) :
    driver.call target now = { driver with phase := .scanning } := by
  have begun := perform_beginRotation_same now
    (rotating.sameTarget ▸ positive) rotating.stored
  rw [rotating.sameTarget] at begun
  simp only [call, atStart, begun]

theorem call_scanning (rotating : driver.Rotating initial target state)
    (scanning : driver.phase = .scanning) (now : Instant) :
    driver.call target now =
      { driver with
        phase := (driver.store.nextPending state).elim .finishing .marking } := by
  simp only [call, scanning, perform_nextPendingAccountId now rotating.stored]
  cases driver.store.nextPending state <;> rfl

theorem call_marking (rotating : driver.Rotating initial target state)
    {accountId : Int} (marking : driver.phase = .marking accountId)
    (now : Instant) :
    driver.call target now =
      { store := driver.store.applyMark accountId state
        phase := .scanning
        marked := driver.marked ++ [accountId] } := by
  have isNext : driver.store.nextPending state = some accountId := by
    simpa [PhaseFits, marking] using rotating.phaseFits
  obtain ⟨⟨row, stored, sameId, -⟩, -, -⟩ := rotating.offered isNext
  have known : accountId ∈ driver.store.accounts.ids := by
    rw [rotating.hasMarked.ids_eq]
    exact KeyedTable.mem_keys.mpr ⟨row, stored, sameId⟩
  simp only [call, marking,
    perform_markAccountRotated now rotating.stored known]

theorem call_finishing (rotating : driver.Rotating initial target state)
    (finishing : driver.phase = .finishing) (now : Instant) :
    driver.call target now =
      { driver with
        store := if state.completedAt = none then
          driver.store.setCompleted now else driver.store
        phase := .finished true } := by
  have noneNext : driver.store.nextPending state = none := by
    simpa [PhaseFits, finishing] using rotating.phaseFits
  have nonePending := rotating.nextPending_eq_none_iff.mp noneNext
  by_cases running : state.completedAt = none
  · have done := perform_completeIfFinished now rotating.stored running
    rw [rotating.sameTarget, if_neg nonePending] at done
    simp only [call, finishing, done, running, if_true]
  · have done := perform_completeIfFinished_again now rotating.stored running
    simp only [call, finishing, done, running, if_false]

/-- Marking the offered account extends the marks by one, in order. -/
theorem after_marking (rotating : driver.Rotating initial target state)
    {accountId : Int} (marking : driver.phase = .marking accountId) :
    Rotating initial target
      { store := driver.store.applyMark accountId state
        phase := .scanning
        marked := driver.marked ++ [accountId] }
      { state with lastRotatedAccountId := accountId } := by
  have isNext : driver.store.nextPending state = some accountId := by
    simpa [PhaseFits, marking] using rotating.phaseFits
  obtain ⟨⟨row, rowStored, sameId, below⟩, above, least⟩ :=
    rotating.offered isNext
  have marksBelow : ∀ id ∈ driver.marked, id < accountId := fun id member =>
    ((rotating.mem_marked_iff id).mp member).2.trans_lt above
  refine
    { stored := ?_
      sameTarget := rotating.sameTarget
      hasMarked := rotating.hasMarked.applyMark rotating.sameTarget accountId
      ascending := ?_
      mem_marked_iff := ?_
      truthful := ?_
      phaseFits := trivial }
  · rw [RotationStore.applyMark_rotation, if_pos above, rotating.stored]
    rfl
  · rw [List.pairwise_append]
    refine ⟨rotating.ascending, List.pairwise_singleton _ _, ?_⟩
    intro id member other isNew
    rw [List.mem_singleton.mp isNew]
    exact marksBelow id member
  · intro id
    rw [List.mem_append, List.mem_singleton]
    constructor
    · rintro (member | rfl)
      · exact ⟨((rotating.mem_marked_iff id).mp member).1,
          (marksBelow id member).le⟩
      · exact ⟨⟨row, rowStored, sameId, below⟩, le_rfl⟩
    · rintro ⟨⟨other, otherStored, rfl, otherBelow⟩, upTo⟩
      by_cases member : other.id ∈ driver.marked
      · exact .inl member
      · exact .inr (le_antisymm upTo
          (least other otherStored otherBelow member))
  · intro completed
    have pending : driver.store.HasPending target := by
      by_contra nonePending
      rw [rotating.nextPending_eq_none_iff.mpr nonePending] at isNext
      exact absurd isNext (by simp)
    exact absurd pending (rotating.truthful completed)

/-- Completing changes nothing but the marker, which is then truthful. -/
theorem after_finishing (rotating : driver.Rotating initial target state)
    (finishing : driver.phase = .finishing) (now : Instant) :
    ∃ completed, Rotating initial target
      { driver with
        store := if state.completedAt = none then
          driver.store.setCompleted now else driver.store
        phase := .finished true }
      { state with completedAt := some completed } := by
  have noneNext : driver.store.nextPending state = none := by
    simpa [PhaseFits, finishing] using rotating.phaseFits
  have nonePending := rotating.nextPending_eq_none_iff.mp noneNext
  cases marker : state.completedAt with
  | none =>
      refine ⟨now, { rotating with
        stored := ?_
        hasMarked := rotating.hasMarked
        truthful := fun _ => nonePending
        phaseFits := ⟨rfl, by simp⟩ }⟩
      simp [RotationStore.setCompleted, rotating.stored, marker]
  | some completed =>
      have sameState : { state with completedAt := some completed } = state := by
        rw [← marker]
      refine ⟨completed, ?_⟩
      rw [sameState]
      exact { rotating with
        phaseFits := ⟨rfl, by simp [marker]⟩ }

/-- Every call of a started driver keeps the invariant. -/
theorem call (rotating : driver.Rotating initial target state)
    (positive : 1 ≤ target) (now : Instant) :
    ∃ later, (driver.call target now).Rotating initial target later := by
  cases atPhase : driver.phase with
  | starting =>
      rw [rotating.call_starting positive atPhase now]
      exact ⟨state, { rotating with phaseFits := trivial }⟩
  | scanning =>
      rw [rotating.call_scanning atPhase now]
      refine ⟨state, { rotating with phaseFits := ?_ }⟩
      cases isNext : driver.store.nextPending state with
      | none => exact isNext
      | some accountId => exact isNext
  | marking accountId =>
      rw [rotating.call_marking atPhase now]
      exact ⟨_, rotating.after_marking atPhase⟩
  | finishing =>
      rw [rotating.call_finishing atPhase now]
      obtain ⟨completed, after⟩ := rotating.after_finishing atPhase now
      exact ⟨_, after⟩
  | finished completed =>
      simp only [Driver.call, atPhase]
      exact ⟨state, rotating⟩
  | failed problem =>
      have impossible := rotating.phaseFits
      rw [atPhase] at impossible
      exact impossible.elim

end Rotating

end Calls

section Runs

variable {initial : RotationStore} {target : Int}

/-- The first call starts the rotation with no marks. -/
theorem rotating_startRotation (initial : RotationStore) (target : Int)
    (positiveIds : ∀ row ∈ initial.accounts.rows, 0 < row.id) :
    Rotating initial target ⟨initial.startRotation target, .scanning, []⟩
      ⟨target, 0, none⟩ where
  stored := rfl
  sameTarget := rfl
  hasMarked := hasMarked_startRotation initial target
  ascending := List.Pairwise.nil
  mem_marked_iff := by
    intro id
    refine iff_of_false List.not_mem_nil ?_
    rintro ⟨⟨row, stored, rfl, -⟩, notPositive⟩
    exact notPositive.not_gt (positiveIds row stored)
  truthful := fun completed => absurd rfl completed
  phaseFits := trivial

/-- Calls and restarts keep the invariant. -/
theorem invariant_step (positive : 1 ≤ target)
    (sqlTarget : IsSqlInteger target)
    (positiveIds : ∀ row ∈ initial.accounts.rows, 0 < row.id)
    (ready : ReadyFor initial target) (event : DriverEvent) (driver : Driver)
    (invariant : driver.Invariant initial target) :
    (step target event driver).Invariant initial target := by
  cases event with
  | call now =>
      rcases invariant with rfl | ⟨state, rotating⟩
      · simp only [step, call_start positive sqlTarget ready now]
        exact .inr ⟨_, rotating_startRotation initial target positiveIds⟩
      · exact .inr (rotating.call positive now)
  | restart =>
      rcases invariant with rfl | ⟨state, rotating⟩
      · exact .inl rfl
      · exact .inr ⟨state, { rotating with phaseFits := trivial }⟩

/-- The number of accounts below the target that have not been marked. -/
def unmarkedCount (initial : RotationStore) (target : Int)
    (marked : List Int) : Nat :=
  (initial.accounts.rows.filter fun row =>
    row.keyVersion < target ∧ row.id ∉ marked).length

/-- The number of calls that the driver makes if nobody stops it. -/
def callsLeft (initial : RotationStore) (target : Int) (driver : Driver) :
    Nat :=
  match driver.phase with
  | .starting => 2 * unmarkedCount initial target driver.marked + 3
  | .scanning => 2 * unmarkedCount initial target driver.marked + 2
  | .marking _ => 2 * unmarkedCount initial target driver.marked + 1
  | .finishing => 1
  | .finished _ => 0
  | .failed _ => 0

theorem callsLeft_le (driver : Driver) :
    driver.callsLeft initial target ≤
      2 * initial.accounts.rows.length + 3 := by
  have bounded : unmarkedCount initial target driver.marked ≤
      initial.accounts.rows.length := List.length_filter_le _ _
  unfold callsLeft
  split <;> omega

/-- Marking an unmarked account leaves fewer of them. -/
theorem unmarkedCount_append_lt {marked : List Int} {row : AccountRow}
    (stored : row ∈ initial.accounts.rows) (below : row.keyVersion < target)
    (unmarked : row.id ∉ marked) :
    unmarkedCount initial target (marked ++ [row.id]) <
      unmarkedCount initial target marked := by
  have nested : (initial.accounts.rows.filter fun other =>
      other.keyVersion < target ∧ other.id ∉ marked ++ [row.id]) =
      (initial.accounts.rows.filter fun other =>
        other.keyVersion < target ∧ other.id ∉ marked).filter
          fun other => other.id ≠ row.id := by
    rw [List.filter_filter]
    apply List.filter_congr
    intro other _
    simp only [List.mem_append, List.mem_singleton, not_or, ne_eq,
      Bool.decide_and]
    cases decide (other.keyVersion < target) <;>
      cases decide (other.id ∉ marked) <;> simp
  rw [unmarkedCount, unmarkedCount, nested,
    List.length_filter_lt_length_iff_exists]
  exact ⟨row, List.mem_filter.mpr ⟨stored, by simp [below, unmarked]⟩,
    by simp⟩

/-- A call brings a started driver nearer to its end. -/
theorem Rotating.callsLeft_call {driver : Driver} {state : KeyRotationState}
    (rotating : driver.Rotating initial target state) (positive : 1 ≤ target)
    (now : Instant) :
    (driver.call target now).callsLeft initial target ≤
      driver.callsLeft initial target - 1 := by
  cases atPhase : driver.phase with
  | starting =>
      rw [rotating.call_starting positive atPhase now]
      simp only [callsLeft, atPhase]
      omega
  | scanning =>
      rw [rotating.call_scanning atPhase now]
      cases driver.store.nextPending state <;>
        simp only [callsLeft, atPhase, Option.elim] <;> omega
  | marking accountId =>
      have isNext : driver.store.nextPending state = some accountId := by
        simpa [PhaseFits, atPhase] using rotating.phaseFits
      obtain ⟨⟨row, stored, rfl, below⟩, above, -⟩ := rotating.offered isNext
      have unmarked : row.id ∉ driver.marked := fun member =>
        above.not_ge ((rotating.mem_marked_iff row.id).mp member).2
      have fewer := unmarkedCount_append_lt stored below unmarked
      rw [rotating.call_marking atPhase now]
      simp only [callsLeft, atPhase]
      omega
  | finishing =>
      rw [rotating.call_finishing atPhase now]
      simp [callsLeft]
  | finished completed => simp [Driver.call, callsLeft, atPhase]
  | failed problem => simp [Driver.call, callsLeft, atPhase]

/-- With enough calls and no further stop the driver comes to its end. -/
theorem callsLeft_run (positive : 1 ≤ target) {driver : Driver}
    {state : KeyRotationState}
    (rotating : driver.Rotating initial target state) (times : List Instant)
    (enough : driver.callsLeft initial target ≤ times.length) :
    (run (step target) (times.map .call) driver).callsLeft initial target =
      0 := by
  induction times generalizing driver state with
  | nil => simpa using enough
  | cons now times ih =>
      obtain ⟨later, rotatingLater⟩ := rotating.call positive now
      have nearer := rotating.callsLeft_call positive now
      rw [List.length_cons] at enough
      rw [List.map_cons, run_cons]
      exact ih rotatingLater (by simp only [step]; omega)

theorem Rotating.run_calls (positive : 1 ≤ target) {driver : Driver}
    {state : KeyRotationState}
    (rotating : driver.Rotating initial target state)
    (times : List Instant) :
    ∃ later, (run (step target) (times.map .call) driver).Rotating initial
      target later := by
  induction times generalizing driver state with
  | nil => exact ⟨state, rotating⟩
  | cons now times ih =>
      obtain ⟨later, rotatingLater⟩ := rotating.call positive now
      exact ih rotatingLater

/-- A started driver without calls left has finished with every account
marked. -/
theorem Rotating.finished {driver : Driver} {state : KeyRotationState}
    (rotating : driver.Rotating initial target state)
    (atEnd : driver.callsLeft initial target = 0) :
    driver.phase = .finished true ∧ ∀ row ∈ initial.accounts.rows,
      row.keyVersion < target → row.id ∈ driver.marked := by
  have fits := rotating.phaseFits
  cases atPhase : driver.phase with
  | starting => simp [callsLeft, atPhase] at atEnd
  | scanning => simp [callsLeft, atPhase] at atEnd
  | marking accountId => simp [callsLeft, atPhase] at atEnd
  | finishing => simp [callsLeft, atPhase] at atEnd
  | finished completed =>
      rw [atPhase] at fits
      obtain ⟨rfl, completedAt⟩ := fits
      refine ⟨rfl, ?_⟩
      intro row stored below
      by_contra unmarked
      exact rotating.truthful completedAt (rotating.hasMarked.hasPending_iff.mpr
        ⟨row, stored, below, unmarked⟩)
  | failed problem =>
      rw [atPhase] at fits
      exact fits.elim

theorem marked_subset_step (event : DriverEvent) (driver : Driver) :
    driver.marked ⊆ (step target event driver).marked := by
  cases event with
  | call now =>
      simp only [step, call]
      split
      · split <;> exact List.Subset.refl _
      · split <;> exact List.Subset.refl _
      · split
        · exact List.subset_append_left _ _
        · exact List.Subset.refl _
        · exact List.Subset.refl _
      · split <;> exact List.Subset.refl _
      · exact List.Subset.refl _
      · exact List.Subset.refl _
  | restart => exact List.Subset.refl _

/-- No mark is ever taken back. -/
theorem marked_subset_run (events : List DriverEvent) (driver : Driver) :
    driver.marked ⊆ (run (step target) events driver).marked := by
  induction events generalizing driver with
  | nil => exact List.Subset.refl _
  | cons event events ih =>
      exact List.Subset.trans (marked_subset_step event driver) (ih _)

end Runs

/-- What is asked of the driver after any calls and restarts. -/
structure SurvivesRestarts (initial : RotationStore) (target : Int)
    (events : List DriverEvent) : Prop where
  /-- Every account is marked once at most, in ascending order of ids. -/
  ascending : (run (step target) events (start initial)).marked.Pairwise
    (· < ·)
  /-- Only accounts below the target are marked. -/
  onlyPending : ∀ id ∈ (run (step target) events (start initial)).marked,
    ∃ row ∈ initial.accounts.rows, row.id = id ∧ row.keyVersion < target
  /-- Marked accounts have reached the target; no other row is touched. -/
  accounts : HasMarked initial target
    (run (step target) events (start initial)).marked
    (run (step target) events (start initial)).store
  /-- No key version is lower than it was after an earlier call. -/
  neverDecreases : ∀ earlier, earlier <+: events →
    ∀ row ∈ (run (step target) earlier (start initial)).store.accounts.rows,
      ∃ later ∈ (run (step target) events (start initial)).store.accounts.rows,
        later.id = row.id ∧ row.keyVersion ≤ later.keyVersion
  /-- A completion marker is that of an earlier rotation or means that every
  account has reached the target. -/
  truthful : ∀ state ∈
      (run (step target) events (start initial)).store.rotation,
    state.completedAt ≠ none → state ∈ initial.rotation ∨
      ∀ row ∈ (run (step target) events (start initial)).store.accounts.rows,
        target ≤ row.keyVersion
  /-- No call raises. -/
  neverFails : ∀ problem,
    (run (step target) events (start initial)).phase ≠ .failed problem
  /-- The final check is never answered by `False`. -/
  neverUnfinished :
    (run (step target) events (start initial)).phase ≠ .finished false
  /-- Left alone for long enough, the driver ends with `True` and every account
  that was below the target has been marked. -/
  ends : ∀ times : List Instant,
    2 * initial.accounts.rows.length + 3 ≤ times.length →
    (run (step target) (events ++ times.map .call)
        (start initial)).phase = .finished true ∧
      ∀ row ∈ initial.accounts.rows, row.keyVersion < target →
        row.id ∈ (run (step target) (events ++ times.map .call)
          (start initial)).marked

section Survival

variable {initial : RotationStore} {target : Int}

private theorem invariant_run (positive : 1 ≤ target)
    (sqlTarget : IsSqlInteger target)
    (positiveIds : ∀ row ∈ initial.accounts.rows, 0 < row.id)
    (ready : ReadyFor initial target) (events : List DriverEvent) :
    (run (step target) events (start initial)).Invariant initial target :=
  always_of_preserved (step target)
    (invariant_step positive sqlTarget positiveIds ready) events (.inl rfl)
    events List.prefix_rfl

theorem Invariant.hasMarked {driver : Driver}
    (invariant : driver.Invariant initial target) :
    HasMarked initial target driver.marked driver.store := by
  rcases invariant with rfl | ⟨state, rotating⟩
  · exact HasMarked.refl initial target
  · exact rotating.hasMarked

private theorem neverDecreases_of_invariant {earlier events : List DriverEvent}
    (isEarlier : earlier <+: events)
    (before : (run (step target) earlier (start initial)).Invariant initial
      target)
    (after : (run (step target) events (start initial)).Invariant initial
      target) :
    ∀ row ∈ (run (step target) earlier (start initial)).store.accounts.rows,
      ∃ later ∈ (run (step target) events (start initial)).store.accounts.rows,
        later.id = row.id ∧ row.keyVersion ≤ later.keyVersion := by
  intro row stored
  rw [before.hasMarked] at stored
  obtain ⟨old, oldStored, rfl⟩ := List.mem_map.mp stored
  obtain ⟨rest, rfl⟩ := isEarlier
  rw [after.hasMarked, run_append]
  refine ⟨_, List.mem_map_of_mem oldStored, by simp, ?_⟩
  exact keyVersion_raiseMarked_mono (marked_subset_run rest _) old

/-- Wherever the driver stands, enough further calls bring it to its end. -/
private theorem ends_of_invariant (positive : 1 ≤ target)
    (sqlTarget : IsSqlInteger target)
    (positiveIds : ∀ row ∈ initial.accounts.rows, 0 < row.id)
    (ready : ReadyFor initial target) {driver : Driver}
    (invariant : driver.Invariant initial target) (times : List Instant)
    (enough : 2 * initial.accounts.rows.length + 3 ≤ times.length) :
    (run (step target) (times.map .call) driver).phase = .finished true ∧
      ∀ row ∈ initial.accounts.rows, row.keyVersion < target →
        row.id ∈ (run (step target) (times.map .call) driver).marked := by
  have finishedFrom : ∀ (first : Driver) state (later : List Instant),
      first.Rotating initial target state →
      first.callsLeft initial target ≤ later.length →
      (run (step target) (later.map .call) first).phase = .finished true ∧
        ∀ row ∈ initial.accounts.rows, row.keyVersion < target →
          row.id ∈ (run (step target) (later.map .call) first).marked := by
    intro first state later rotating enoughLeft
    have atEnd := callsLeft_run positive rotating later enoughLeft
    obtain ⟨last, rotatingAtEnd⟩ := rotating.run_calls positive later
    exact rotatingAtEnd.finished atEnd
  rcases invariant with rfl | ⟨state, rotating⟩
  · cases times with
    | nil => simp at enough
    | cons now later =>
        rw [List.map_cons, run_cons]
        simp only [step, call_start positive sqlTarget ready now]
        refine finishedFrom _ _ later
          (rotating_startRotation initial target positiveIds) ?_
        have bounded : unmarkedCount initial target [] ≤
            initial.accounts.rows.length := List.length_filter_le _ _
        rw [List.length_cons] at enough
        simp only [callsLeft]
        omega
  · exact finishedFrom driver state times rotating
      ((callsLeft_le driver).trans enough)

/-- Key rotation survives restarts: for every store of accounts with positive
ids that has no rotation or a completed one with a smaller target, and every
target that SQLite can hold, any sequence of calls and restarts of the driver
marks accounts below the target only, once each and in ascending order, leaves
the others untouched, lowers no key version, sets the completion marker only
when every account has reached the target, and ends with `True` once the driver
is left alone. -/
theorem rotation_survives_restarts (initial : RotationStore) (target : Int)
    (positive : 1 ≤ target) (sqlTarget : IsSqlInteger target)
    (positiveIds : ∀ row ∈ initial.accounts.rows, 0 < row.id)
    (ready : ReadyFor initial target) (events : List DriverEvent) :
    SurvivesRestarts initial target events := by
  have reached := invariant_run positive sqlTarget positiveIds ready
  have here := reached events
  refine
    { ascending := ?_
      onlyPending := ?_
      accounts := here.hasMarked
      neverDecreases := fun earlier isEarlier =>
        neverDecreases_of_invariant isEarlier (reached earlier) here
      truthful := ?_
      neverFails := ?_
      neverUnfinished := ?_
      ends := ?_ }
  · rcases here with unstarted | ⟨state, rotating⟩
    · rw [unstarted]
      exact List.Pairwise.nil
    · exact rotating.ascending
  · rcases here with unstarted | ⟨state, rotating⟩
    · rw [unstarted]
      simp [start]
    · intro id member
      exact ((rotating.mem_marked_iff id).mp member).1
  · intro state stored completed
    rcases here with unstarted | ⟨current, rotating⟩
    · rw [unstarted] at stored
      exact .inl stored
    · have sameState : current = state :=
        Option.some.inj (rotating.stored.symm.trans stored)
      subst sameState
      refine .inr (fun row member => ?_)
      by_contra below
      exact rotating.truthful completed ⟨row, member, not_le.mp below⟩
  · intro problem failed
    rcases here with unstarted | ⟨state, rotating⟩
    · rw [unstarted] at failed
      exact absurd failed (by simp [start])
    · have fits := rotating.phaseFits
      rw [failed] at fits
      exact fits
  · intro unfinished
    rcases here with unstarted | ⟨state, rotating⟩
    · rw [unstarted] at unfinished
      exact absurd unfinished (by simp [start])
    · have fits := rotating.phaseFits
      rw [unfinished] at fits
      exact absurd fits.1 (by simp)
  · intro times enough
    rw [run_append]
    exact ends_of_invariant positive sqlTarget positiveIds ready here times
      enough

theorem rotation_survives_restarts_sample :
    SurvivesRestarts sampleRotationStore 2
      [.call 1, .call 2, .restart, .call 3, .call 4, .call 5, .restart] :=
  rotation_survives_restarts sampleRotationStore 2 (by decide) (by decide)
    (by decide) (by decide) _

/-- The driver's only outcomes once the target was refused. -/
private def Refused (driver : Driver) : Prop :=
  driver.store = sampleRotationStore ∧
    (driver.phase = .starting ∨ driver.phase = .failed integerOverflow)

private theorem refused_step (event : DriverEvent) (driver : Driver)
    (refused : driver.Refused) :
    (step 9223372036854775808 event driver).Refused := by
  obtain ⟨sameStore, phases⟩ := refused
  cases event with
  | call now =>
      rcases phases with starting | failed
      · have overflow : performRotation (.beginRotation 9223372036854775808)
            now sampleRotationStore = _ :=
          perform_beginRotation_overflow now (by decide) (by decide) (by decide)
        simp [Refused, step, call, starting, sameStore, overflow]
      · simp [Refused, step, call, failed, sameStore]
  | restart => exact ⟨sameStore, .inl rfl⟩

/-- A target above the integers of SQLite is at least 1, but the rotation never
starts, so that no run of the driver ends with `True`. -/
theorem oversized_target_never_finishes :
    (1 : Int) ≤ 9223372036854775808 ∧
      ReadyFor sampleRotationStore 9223372036854775808 ∧
      (∀ row ∈ sampleRotationStore.accounts.rows, 0 < row.id) ∧
      ∀ events, (run (step 9223372036854775808) events
        (start sampleRotationStore)).phase ≠ .finished true := by
  refine ⟨by decide, by decide, by decide, fun events finished => ?_⟩
  have refused : (run (step 9223372036854775808) events
      (start sampleRotationStore)).Refused :=
    always_of_preserved _ refused_step events ⟨rfl, .inl rfl⟩ events
      List.prefix_rfl
  rcases refused.2 with starting | failed
  · rw [starting] at finished
    exact absurd finished (by simp)
  · rw [failed] at finished
    exact absurd finished (by simp)

end Survival

end Driver

end Tca
