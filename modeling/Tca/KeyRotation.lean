import Tca.AccountTable
import Tca.InterleavedCalls

/-!
# Key rotation metadata

The calls of `KeyRotationRepository` on the accounts and on the single row of
`auth_key_rotation`.  Every call starts with a read in a session of its own and
decides on what it read; a write follows in a later transaction.  Each of these
is one atomic step, so other calls may come in between.
-/

namespace Tca

open Transaction InterleavedCalls

/-- Persisted rotation metadata for crash-safe resume. -/
structure KeyRotationState where
  targetKeyVersion : Int
  lastRotatedAccountId : Int
  completedAt : Option Instant
  deriving DecidableEq

/-- The accounts and the rotation row with id 1, if there is one. -/
@[ext]
structure RotationStore where
  accounts : AccountTable
  rotation : Option KeyRotationState

abbrev RotationTransaction (Value : Type) : Type :=
  Transaction RotationStore PyError Value

inductive RotationRequest where
  | beginRotation (target : Int)
  | nextPendingAccountId
  | markAccountRotated (accountId : Int)
  | completeIfFinished
  deriving DecidableEq

/-- What a call is about to do next, with what it has read so far. -/
inductive RotationPhase where
  | beginRead (target : Int)
  | beginInsert (target : Int)
  | beginReset (target : Int)
  | beginReread (target : Int) (conflict : Option PyError)
  | nextRead
  | nextSelect (state : KeyRotationState)
  | markRead (accountId : Int)
  | markWrite (accountId : Int) (state : KeyRotationState)
  | completeRead
  | completeWrite (state : KeyRotationState)
  deriving DecidableEq

inductive RotationResult where
  | began (target : Int) (outcome : Except PyError KeyRotationState)
  | offered (accountId : Option Int)
  | marked (accountId : Int) (outcome : Except PyError Unit)
  | completed (outcome : Except PyError Bool)
  deriving DecidableEq

abbrev RotationProgress : Type :=
  Progress RotationPhase RotationResult

namespace RotationStore

/-- The account's row is below the target version. -/
def HasPending (store : RotationStore) (target : Int) : Prop :=
  ∃ row ∈ store.accounts.rows, row.keyVersion < target

instance (store : RotationStore) (target : Int) :
    Decidable (store.HasPending target) :=
  inferInstanceAs (Decidable (∃ row ∈ store.accounts.rows, _))

/-- The pending query of `next_pending_account_id`. -/
def nextPending (store : RotationStore) (state : KeyRotationState) :
    Option Int :=
  ((store.accounts.rows.filter fun row =>
    row.keyVersion < state.targetKeyVersion ∧
      state.lastRotatedAccountId < row.id).map (·.id)).min?

/-- Write the row of a rotation that starts now. -/
def startRotation (store : RotationStore) (target : Int) : RotationStore :=
  { store with rotation := some ⟨target, 0, none⟩ }

/-- `UPDATE auth_key_rotation SET ... WHERE id = 1` for a new rotation. -/
def resetRow (store : RotationStore) (target : Int) : RotationStore :=
  { store with rotation := store.rotation.map fun _ => ⟨target, 0, none⟩ }

/-- Raise the account's key version to the target unless it is there. -/
def raiseKeyVersion (store : RotationStore) (accountId target : Int) :
    RotationStore :=
  { store with
    accounts := store.accounts.updateWhere
      (fun row => row.id = accountId ∧ row.keyVersion < target)
      (fun row => { row with keyVersion := target }) fun _ => rfl }

/-- Store the high-water mark. -/
def setLastRotated (store : RotationStore) (accountId : Int) :
    RotationStore :=
  { store with
    rotation := store.rotation.map fun row =>
      { row with lastRotatedAccountId := accountId } }

/-- Set `completed_at` of a row that does not have it. -/
def setCompleted (store : RotationStore) (now : Instant) : RotationStore :=
  { store with
    rotation := store.rotation.map fun row =>
      if row.completedAt = none then { row with completedAt := some now }
      else row }

end RotationStore

/-- `KeyRotationStateMissingError.default`. -/
def rotationStateMissing : PyError :=
  .keyRotationStateMissingError "Key rotation metadata is missing."

/-- `KeyRotationAccountNotFoundError.for_account_id`. -/
def rotationAccountNotFound (accountId : Int) : PyError :=
  .keyRotationAccountNotFoundError
    s!"Unable to rotate keys: no account row exists for id={accountId}."

/-- `begin_rotation` up to the decision taken on the row it reads. -/
def beginRead (target : Int) (existing : Option KeyRotationState) :
    RotationProgress :=
  if target < 1 then
    .ended (.began target (.error
      (.keyRotationError "Key rotation target version must be >= 1.")))
  else
    match existing with
    | none => .suspended (.beginInsert target)
    | some existing =>
        if existing.targetKeyVersion = target then
          .ended (.began target (.ok existing))
        else if existing.completedAt = none then
          .ended (.began target (.error (.keyRotationError
            s!"Key rotation already in progress for target version {existing.targetKeyVersion}.")))
        else if target ≤ existing.targetKeyVersion then
          .ended (.began target (.error (.keyRotationError
            ("Key rotation target version must be greater than the " ++
              "completed target version."))))
        else .suspended (.beginReset target)

/-- The transaction that overwrites the row of a completed rotation. -/
def beginReset (target : Int) : RotationTransaction Unit := do
  require (IsSqlInteger target) integerOverflow
  update fun store => store.resetRow target
  commit

/-- The transaction that inserts the row. -/
def beginInsert (target : Int) : RotationTransaction Unit := do
  require (IsSqlInteger target) integerOverflow
  let store ← query fun store => store
  require (store.rotation = none)
    (.integrityError "UNIQUE constraint failed: auth_key_rotation.id")
  update fun store => store.startRotation target
  commit

/-- Where `begin_rotation` goes on after its transaction.  An integrity error
is caught, and the row is read again all the same. -/
def beginWritten (target : Int) : Except PyError Unit → RotationProgress
  | .ok _ => .suspended (.beginReread target none)
  | .error (.integrityError message) =>
      .suspended (.beginReread target (some (.integrityError message)))
  | .error problem => .ended (.began target (.error problem))

/-- The state that `begin_rotation` returns. -/
def beginReread (target : Int) (conflict : Option PyError) :
    Option KeyRotationState → RotationProgress
  | some state => .ended (.began target (.ok state))
  | none => .ended (.began target (.error (conflict.getD rotationStateMissing)))

/-- The transaction of `mark_account_rotated`, with the state read before. -/
def markWrite (accountId : Int) (state : KeyRotationState) :
    RotationTransaction Unit := do
  require (IsSqlInteger accountId) integerOverflow
  let row ← query fun store => store.accounts.find? accountId
  match row with
  | none => raise (rotationAccountNotFound accountId)
  | some row => do
      updateWhen (row.keyVersion < state.targetKeyVersion) fun store =>
        store.raiseKeyVersion accountId state.targetKeyVersion
      updateWhen (max state.lastRotatedAccountId accountId ≠
          state.lastRotatedAccountId) fun store =>
        store.setLastRotated (max state.lastRotatedAccountId accountId)
      commit

/-- The transaction of `complete_if_finished`, with the state read before. -/
def completeWrite (now : Instant) (state : KeyRotationState) :
    RotationTransaction Bool := do
  let store ← query fun store => store
  if store.HasPending state.targetKeyVersion then
    return false
  else do
    update fun store => store.setCompleted now
    commit
    return true

/-- The atomic step of each phase.  The input is `CURRENT_TIMESTAMP`. -/
def rotationAdvance : RotationPhase → Instant → RotationStore →
    RotationProgress × RotationStore
  | .beginRead target, _, store => (beginRead target store.rotation, store)
  | .beginInsert target, _, store =>
      let (outcome, later) := atomically (beginInsert target) store
      (beginWritten target outcome, later)
  | .beginReset target, _, store =>
      let (outcome, later) := atomically (beginReset target) store
      (beginWritten target outcome, later)
  | .beginReread target conflict, _, store =>
      (beginReread target conflict store.rotation, store)
  | .nextRead, _, store =>
      match store.rotation with
      | none => (.ended (.offered none), store)
      | some state => (.suspended (.nextSelect state), store)
  | .nextSelect state, _, store =>
      (.ended (.offered (store.nextPending state)), store)
  | .markRead accountId, _, store =>
      match store.rotation with
      | none => (.ended (.marked accountId (.error rotationStateMissing)), store)
      | some state => (.suspended (.markWrite accountId state), store)
  | .markWrite accountId state, _, store =>
      let (outcome, later) := atomically (markWrite accountId state) store
      (.ended (.marked accountId outcome), later)
  | .completeRead, _, store =>
      match store.rotation with
      | none => (.ended (.completed (.error rotationStateMissing)), store)
      | some state =>
          if state.completedAt = none then
            (.suspended (.completeWrite state), store)
          else (.ended (.completed (.ok true)), store)
  | .completeWrite state, now, store =>
      let (outcome, later) := atomically (completeWrite now state) store
      (.ended (.completed outcome), later)

/-- The calls of the repository. -/
def rotationCalls : Protocol RotationStore RotationRequest RotationPhase
    Instant RotationResult where
  enter
    | .beginRotation target => .beginRead target
    | .nextPendingAccountId => .nextRead
    | .markAccountRotated accountId => .markRead accountId
    | .completeIfFinished => .completeRead
  advance := rotationAdvance

@[simp]
theorem rotationCalls_advance : rotationCalls.advance = rotationAdvance :=
  rfl

abbrev RotationSystem : Type :=
  System RotationStore RotationPhase RotationResult

abbrev RotationEvent : Type :=
  Event RotationRequest Instant

/-- A call that nothing disturbs; no call takes more than three steps. -/
def performRotation (request : RotationRequest) (now : Instant)
    (store : RotationStore) : RotationProgress × RotationStore :=
  rotationCalls.undisturbed (List.replicate 3 now)
    (.suspended (rotationCalls.enter request)) store

namespace RotationStore

variable {store : RotationStore}

/-- The accounts below a version are offered by the query, lowest id first,
as far as they lie above the high-water mark. -/
theorem nextPending_eq_some_iff {state : KeyRotationState} {accountId : Int} :
    store.nextPending state = some accountId ↔
      (∃ row ∈ store.accounts.rows, row.keyVersion < state.targetKeyVersion ∧
        state.lastRotatedAccountId < row.id ∧ row.id = accountId) ∧
      ∀ row ∈ store.accounts.rows, row.keyVersion < state.targetKeyVersion →
        state.lastRotatedAccountId < row.id → accountId ≤ row.id := by
  rw [nextPending, List.min?_eq_some_iff]
  simp only [List.mem_map, List.mem_filter, decide_eq_true_eq]
  constructor
  · rintro ⟨⟨row, ⟨stored, below, above⟩, sameId⟩, least⟩
    exact ⟨⟨row, stored, below, above, sameId⟩,
      fun other member otherBelow otherAbove =>
        least other.id ⟨other, ⟨member, otherBelow, otherAbove⟩, rfl⟩⟩
  · rintro ⟨⟨row, stored, below, above, sameId⟩, least⟩
    refine ⟨⟨row, ⟨stored, below, above⟩, sameId⟩, ?_⟩
    rintro id ⟨other, ⟨member, otherBelow, otherAbove⟩, rfl⟩
    exact least other member otherBelow otherAbove

theorem nextPending_eq_none_iff {state : KeyRotationState} :
    store.nextPending state = none ↔
      ∀ row ∈ store.accounts.rows, row.keyVersion < state.targetKeyVersion →
        row.id ≤ state.lastRotatedAccountId := by
  simp [nextPending, List.min?_eq_none_iff]

/-- What a committed mark leaves behind.  The guard in the source around the
account update repeats the condition of the statement. -/
def applyMark (store : RotationStore) (accountId : Int)
    (state : KeyRotationState) : RotationStore :=
  if max state.lastRotatedAccountId accountId ≠ state.lastRotatedAccountId then
    (store.raiseKeyVersion accountId state.targetKeyVersion).setLastRotated
      (max state.lastRotatedAccountId accountId)
  else store.raiseKeyVersion accountId state.targetKeyVersion

@[simp]
theorem applyMark_accounts (accountId : Int) (state : KeyRotationState) :
    (store.applyMark accountId state).accounts =
      (store.raiseKeyVersion accountId state.targetKeyVersion).accounts := by
  unfold applyMark
  split <;> rfl

@[simp]
theorem applyMark_rotation (accountId : Int) (state : KeyRotationState) :
    (store.applyMark accountId state).rotation =
      if state.lastRotatedAccountId < accountId then
        store.rotation.map fun row =>
          { row with lastRotatedAccountId := accountId }
      else store.rotation := by
  unfold applyMark
  by_cases above : state.lastRotatedAccountId < accountId
  · rw [if_pos above, max_eq_right above.le, if_pos above.ne']
    rfl
  · rw [if_neg above, max_eq_left (not_lt.mp above), if_neg (by simp)]
    rfl

theorem rows_raiseKeyVersion (accountId target : Int) :
    (store.raiseKeyVersion accountId target).accounts.rows =
      store.accounts.rows.map fun row =>
        if row.id = accountId ∧ row.keyVersion < target then
          { row with keyVersion := target } else row := by
  simp [raiseKeyVersion, AccountTable.rows_updateWhere]

theorem mem_raiseKeyVersion {accountId target : Int} {row : AccountRow} :
    row ∈ (store.raiseKeyVersion accountId target).accounts.rows ↔
      ∃ old ∈ store.accounts.rows,
        (if old.id = accountId ∧ old.keyVersion < target then
          { old with keyVersion := target } else old) = row := by
  rw [rows_raiseKeyVersion, List.mem_map]

/-- An account at the target is not touched. -/
theorem raiseKeyVersion_eq_self {accountId target : Int}
    (reached : ∀ row ∈ store.accounts.rows, row.id = accountId →
      target ≤ row.keyVersion) :
    store.raiseKeyVersion accountId target = store := by
  have sameRows : (store.raiseKeyVersion accountId target).accounts.rows =
      store.accounts.rows := by
    rw [rows_raiseKeyVersion]
    nth_rewrite 2 [← List.map_id store.accounts.rows]
    apply List.map_congr_left
    intro row stored
    have notBelow : ¬ (row.id = accountId ∧ row.keyVersion < target) :=
      fun ⟨sameId, below⟩ => (reached row stored sameId).not_gt below
    simp [notBelow]
  exact RotationStore.ext (AccountTable.ext_rows sameRows) rfl

end RotationStore

section Transactions

variable (store : RotationStore)

theorem atomically_beginReset (target : Int) :
    atomically (beginReset target) store =
      if IsSqlInteger target then (.ok (), store.resetRow target)
      else (.error integerOverflow, store) := by
  simp only [atomically, beginReset, run_require_bind, run_update_bind]
  split <;> rfl

theorem atomically_beginInsert (target : Int) :
    atomically (beginInsert target) store =
      if IsSqlInteger target then
        if store.rotation = none then (.ok (), store.startRotation target)
        else (.error (.integrityError
          "UNIQUE constraint failed: auth_key_rotation.id"), store)
      else (.error integerOverflow, store) := by
  simp only [atomically, beginInsert, run_require_bind, run_query_bind,
    run_update_bind]
  split
  · split <;> rfl
  · rfl

theorem atomically_completeWrite (now : Instant) (state : KeyRotationState) :
    atomically (completeWrite now state) store =
      if store.HasPending state.targetKeyVersion then (.ok false, store)
      else (.ok true, store.setCompleted now) := by
  simp only [atomically, completeWrite, run_query_bind]
  split <;> rfl

/-- A mark succeeds exactly on the accounts of the table. -/
theorem atomically_markWrite (accountId : Int) (state : KeyRotationState) :
    atomically (markWrite accountId state) store =
      if accountId ∈ store.accounts.ids then
        (.ok (), store.applyMark accountId state)
      else if IsSqlInteger accountId then
        (.error (rotationAccountNotFound accountId), store)
      else (.error integerOverflow, store) := by
  simp only [atomically, markWrite, run_require_bind, run_query_bind]
  by_cases stored : accountId ∈ store.accounts.ids
  · obtain ⟨row, member, rfl⟩ := KeyedTable.mem_keys.mp stored
    have found : store.accounts.find? row.id = some row :=
      KeyedTable.find?_eq_some_iff.mpr ⟨member, rfl⟩
    rw [if_pos stored, if_pos (store.accounts.sqlIds row member), found]
    have raised : (if row.keyVersion < state.targetKeyVersion then
        store.raiseKeyVersion row.id state.targetKeyVersion else store) =
        store.raiseKeyVersion row.id state.targetKeyVersion := by
      split
      · rfl
      · rename_i reached
        refine (RotationStore.raiseKeyVersion_eq_self ?_).symm
        intro other otherStored sameId
        rw [KeyedTable.eq_of_key_eq otherStored member sameId]
        exact not_lt.mp reached
    simp only [run_updateWhen_bind, raised]
    rfl
  · rw [if_neg stored, KeyedTable.find?_eq_none_iff.mpr stored]
    split <;> rfl

end Transactions

/-- All that a step of a call can do to the store. -/
theorem rotationAdvance_store_cases (phase : RotationPhase) (now : Instant)
    (store : RotationStore) :
    (rotationAdvance phase now store).2 = store ∨
    (∃ target, phase = .beginInsert target ∧ store.rotation = none ∧
      (rotationAdvance phase now store).2 = store.startRotation target) ∨
    (∃ target, phase = .beginReset target ∧
      (rotationAdvance phase now store).2 = store.resetRow target) ∨
    (∃ accountId state, phase = .markWrite accountId state ∧
      (rotationAdvance phase now store).2 = store.applyMark accountId state) ∨
    ∃ state, phase = .completeWrite state ∧
      ¬ store.HasPending state.targetKeyVersion ∧
      (rotationAdvance phase now store).2 = store.setCompleted now := by
  cases phase with
  | beginRead target => exact .inl rfl
  | beginInsert target =>
      simp only [rotationAdvance, atomically_beginInsert]
      split
      · split
        · rename_i absent
          exact .inr (.inl ⟨target, rfl, absent, rfl⟩)
        · exact .inl rfl
      · exact .inl rfl
  | beginReset target =>
      simp only [rotationAdvance, atomically_beginReset]
      split
      · exact .inr (.inr (.inl ⟨target, rfl, rfl⟩))
      · exact .inl rfl
  | beginReread target conflict => exact .inl rfl
  | nextRead =>
      simp only [rotationAdvance]
      split <;> exact .inl rfl
  | nextSelect state => exact .inl rfl
  | markRead accountId =>
      simp only [rotationAdvance]
      split <;> exact .inl rfl
  | markWrite accountId state =>
      simp only [rotationAdvance, atomically_markWrite]
      split
      · exact .inr (.inr (.inr (.inl ⟨accountId, state, rfl, rfl⟩)))
      · split <;> exact .inl rfl
  | completeRead =>
      simp only [rotationAdvance]
      split
      · exact .inl rfl
      · split <;> exact .inl rfl
  | completeWrite state =>
      simp only [rotationAdvance, atomically_completeWrite]
      split
      · exact .inl rfl
      · rename_i finished
        exact .inr (.inr (.inr (.inr ⟨state, rfl, finished, rfl⟩)))

section UndisturbedCalls

variable {store : RotationStore} {state : KeyRotationState} (now : Instant)

/-- A call left alone is a run of the shared system without other events. -/
theorem run_performRotation (request : RotationRequest)
    (system : RotationSystem) :
    GuardedRuns.run rotationCalls.step
        (.start request ::
          (List.replicate 3 now).map (.resume system.calls.length)) system =
      ⟨(performRotation request now system.store).2,
        system.calls ++ [(performRotation request now system.store).1]⟩ :=
  rotationCalls.run_start_undisturbed request (List.replicate 3 now) system

/-- A rotation is begun where there is none. -/
theorem perform_beginRotation_insert {target : Int} (positive : 1 ≤ target)
    (sqlTarget : IsSqlInteger target) (absent : store.rotation = none) :
    performRotation (.beginRotation target) now store =
      (.ended (.began target (.ok ⟨target, 0, none⟩)),
        store.startRotation target) := by
  simp [performRotation, rotationCalls, Protocol.undisturbed, rotationAdvance,
    beginRead, not_lt.mpr positive, absent, atomically_beginInsert, sqlTarget,
    beginWritten, beginReread, RotationStore.startRotation]

/-- A rotation cannot be begun with a target below 1. -/
theorem perform_beginRotation_invalid {target : Int} (tooSmall : target < 1) :
    performRotation (.beginRotation target) now store =
      (.ended (.began target (.error (.keyRotationError
        "Key rotation target version must be >= 1."))), store) := by
  simp [performRotation, rotationCalls, Protocol.undisturbed, rotationAdvance,
    beginRead, tooSmall]

/-- A target that SQLite cannot hold is refused by the driver. -/
theorem perform_beginRotation_overflow {target : Int} (positive : 1 ≤ target)
    (tooLarge : ¬ IsSqlInteger target)
    (ready : ∀ state ∈ store.rotation, state.completedAt ≠ none ∧
      state.targetKeyVersion < target) :
    performRotation (.beginRotation target) now store =
      (.ended (.began target (.error integerOverflow)), store) := by
  cases stored : store.rotation with
  | none =>
      simp [performRotation, rotationCalls, Protocol.undisturbed,
        rotationAdvance, beginRead, not_lt.mpr positive, stored,
        atomically_beginInsert, tooLarge, beginWritten, integerOverflow]
  | some state =>
      obtain ⟨completed, smaller⟩ := ready state stored
      simp [performRotation, rotationCalls, Protocol.undisturbed,
        rotationAdvance, beginRead, not_lt.mpr positive, stored, smaller.ne,
        completed, not_le.mpr smaller, atomically_beginReset, tooLarge,
        beginWritten, integerOverflow]

/-- A rotation is begun after a completed one with a smaller target. -/
theorem perform_beginRotation_reset {target : Int} (positive : 1 ≤ target)
    (sqlTarget : IsSqlInteger target) (stored : store.rotation = some state)
    (completed : state.completedAt ≠ none)
    (smaller : state.targetKeyVersion < target) :
    performRotation (.beginRotation target) now store =
      (.ended (.began target (.ok ⟨target, 0, none⟩)),
        store.startRotation target) := by
  have reset : store.resetRow target = store.startRotation target := by
    simp [RotationStore.resetRow, RotationStore.startRotation, stored]
  simp [performRotation, rotationCalls, Protocol.undisturbed, rotationAdvance,
    beginRead, not_lt.mpr positive, stored, smaller.ne, completed,
    not_le.mpr smaller, atomically_beginReset, sqlTarget, beginWritten, reset,
    beginReread, RotationStore.startRotation]

/-- A rotation that is there already is taken up again. -/
theorem perform_beginRotation_same (positive : 1 ≤ state.targetKeyVersion)
    (stored : store.rotation = some state) :
    performRotation (.beginRotation state.targetKeyVersion) now store =
      (.ended (.began state.targetKeyVersion (.ok state)), store) := by
  simp [performRotation, rotationCalls, Protocol.undisturbed, rotationAdvance,
    beginRead, not_lt.mpr positive, stored]

theorem perform_nextPendingAccountId (stored : store.rotation = some state) :
    performRotation .nextPendingAccountId now store =
      (.ended (.offered (store.nextPending state)), store) := by
  simp [performRotation, rotationCalls, Protocol.undisturbed, rotationAdvance,
    stored]

theorem perform_markAccountRotated (stored : store.rotation = some state)
    {accountId : Int} (known : accountId ∈ store.accounts.ids) :
    performRotation (.markAccountRotated accountId) now store =
      (.ended (.marked accountId (.ok ())),
        store.applyMark accountId state) := by
  simp [performRotation, rotationCalls, Protocol.undisturbed, rotationAdvance,
    stored, atomically_markWrite, known]

theorem perform_completeIfFinished (stored : store.rotation = some state)
    (running : state.completedAt = none) :
    performRotation .completeIfFinished now store =
      if store.HasPending state.targetKeyVersion then
        (.ended (.completed (.ok false)), store)
      else (.ended (.completed (.ok true)), store.setCompleted now) := by
  simp only [performRotation, rotationCalls, List.replicate,
    Protocol.undisturbed, rotationAdvance, stored, running, if_true,
    atomically_completeWrite]
  split <;> rfl

theorem perform_completeIfFinished_again (stored : store.rotation = some state)
    (completed : state.completedAt ≠ none) :
    performRotation .completeIfFinished now store =
      (.ended (.completed (.ok true)), store) := by
  simp [performRotation, rotationCalls, Protocol.undisturbed, rotationAdvance,
    stored, completed]

end UndisturbedCalls

/-- An account row without a session at a key version. -/
def sampleAccount (id keyVersion : Int) : AccountRow :=
  ⟨id, 1000 + id, [7], none, none, keyVersion, none, none⟩

/-- Two accounts at version 1 and no rotation. -/
def sampleRotationStore : RotationStore where
  accounts :=
    { rows := [sampleAccount 1 1, sampleAccount 2 1]
      uniqueKeys := by decide
      sqlIds := by decide }
  rotation := none

end Tca
