import Tca.KeyRotation

/-!
# Marking rotated accounts

Progress of a rotation is kept twice: in the key version of each account and
in the high-water mark of account ids.  The file describes the store after
accounts have been marked in any order and says exactly when the two records
agree on whether an account is still pending.
-/

namespace Tca

open InterleavedCalls

/-- A row of the accounts once the marked ones have reached the target. -/
def raiseMarked (target : Int) (marked : List Int) (row : AccountRow) :
    AccountRow :=
  if row.keyVersion < target ∧ row.id ∈ marked then
    { row with keyVersion := target }
  else row

/-- The store has the initial accounts, of which the marked ones have reached
the target. -/
def HasMarked (initial : RotationStore) (target : Int) (marked : List Int)
    (store : RotationStore) : Prop :=
  store.accounts.rows = initial.accounts.rows.map (raiseMarked target marked)

@[simp]
theorem raiseMarked_id (target : Int) (marked : List Int) (row : AccountRow) :
    (raiseMarked target marked row).id = row.id := by
  unfold raiseMarked
  split <;> rfl

@[simp]
theorem raiseMarked_nil (target : Int) (row : AccountRow) :
    raiseMarked target [] row = row := by
  simp [raiseMarked]

theorem keyVersion_raiseMarked_lt_iff {target : Int} {marked : List Int}
    {row : AccountRow} :
    (raiseMarked target marked row).keyVersion < target ↔
      row.keyVersion < target ∧ row.id ∉ marked := by
  unfold raiseMarked
  split
  · rename_i raised
    simp [raised.2]
  · rename_i kept
    simp only [not_and] at kept
    exact ⟨fun below => ⟨below, kept below⟩, And.left⟩

/-- Marking more accounts lowers no key version. -/
theorem keyVersion_raiseMarked_mono {target : Int} {fewer more : List Int}
    (included : fewer ⊆ more) (row : AccountRow) :
    (raiseMarked target fewer row).keyVersion ≤
      (raiseMarked target more row).keyVersion := by
  unfold raiseMarked
  split
  · rename_i raised
    rw [if_pos ⟨raised.1, included raised.2⟩]
  · split
    · rename_i raised
      exact raised.1.le
    · exact le_rfl

/-- The update of one account on top of earlier marks. -/
theorem raise_raiseMarked (target : Int) (marked : List Int) (accountId : Int)
    (row : AccountRow) :
    (if (raiseMarked target marked row).id = accountId ∧
        (raiseMarked target marked row).keyVersion < target then
      { raiseMarked target marked row with keyVersion := target }
    else raiseMarked target marked row) =
      raiseMarked target (marked ++ [accountId]) row := by
  simp only [raiseMarked, List.mem_append, List.mem_singleton]
  by_cases below : row.keyVersion < target
  · by_cases earlier : row.id ∈ marked
    · simp [below, earlier]
    · by_cases now : accountId = row.id
      · subst now
        simp [below, earlier]
      · simp [below, earlier, Ne.symm now]
  · simp [below]

namespace HasMarked

variable {initial store : RotationStore} {target : Int} {marked : List Int}

theorem refl (initial : RotationStore) (target : Int) :
    HasMarked initial target [] initial := by
  rw [HasMarked, funext (raiseMarked_nil target), List.map_id']

theorem ids_eq (hasMarked : HasMarked initial target marked store) :
    store.accounts.ids = initial.accounts.ids := by
  rw [AccountTable.ids, AccountTable.ids, KeyedTable.keys, hasMarked,
    List.map_map, KeyedTable.keys]
  apply List.map_congr_left
  intro row _
  exact raiseMarked_id target marked row

/-- A condition on the accounts that are still below the target. -/
theorem forall_pending_iff (hasMarked : HasMarked initial target marked store)
    (condition : Int → Prop) :
    (∀ row ∈ store.accounts.rows, row.keyVersion < target →
        condition row.id) ↔
      ∀ row ∈ initial.accounts.rows, row.keyVersion < target →
        row.id ∉ marked → condition row.id := by
  rw [hasMarked, List.forall_mem_map]
  simp only [keyVersion_raiseMarked_lt_iff, raiseMarked_id, and_imp]

theorem hasPending_iff (hasMarked : HasMarked initial target marked store) :
    store.HasPending target ↔
      ∃ row ∈ initial.accounts.rows, row.keyVersion < target ∧
        row.id ∉ marked := by
  rw [RotationStore.HasPending, hasMarked]
  simp only [List.mem_map, exists_exists_and_eq_and,
    keyVersion_raiseMarked_lt_iff]

theorem applyMark (hasMarked : HasMarked initial target marked store)
    {state : KeyRotationState} (sameTarget : state.targetKeyVersion = target)
    (accountId : Int) :
    HasMarked initial target (marked ++ [accountId])
      (store.applyMark accountId state) := by
  rw [HasMarked, RotationStore.applyMark_accounts, sameTarget,
    RotationStore.rows_raiseKeyVersion, hasMarked, List.map_map]
  apply List.map_congr_left
  intro row _
  exact raise_raiseMarked target marked accountId row

end HasMarked

/-- There is no rotation, or a completed one with a smaller target. -/
def ReadyFor (initial : RotationStore) (target : Int) : Prop :=
  ∀ state ∈ initial.rotation, state.completedAt ≠ none ∧
    state.targetKeyVersion < target

instance (initial : RotationStore) (target : Int) :
    Decidable (ReadyFor initial target) :=
  inferInstanceAs (Decidable (∀ state ∈ initial.rotation, _))

theorem perform_beginRotation_ready {initial : RotationStore} {target : Int}
    (positive : 1 ≤ target) (sqlTarget : IsSqlInteger target)
    (ready : ReadyFor initial target) (now : Instant) :
    performRotation (.beginRotation target) now initial =
      (.ended (.began target (.ok ⟨target, 0, none⟩)),
        initial.startRotation target) := by
  cases stored : initial.rotation with
  | none => exact perform_beginRotation_insert now positive sqlTarget stored
  | some state =>
      obtain ⟨completed, smaller⟩ := ready state stored
      exact perform_beginRotation_reset now positive sqlTarget stored completed
        smaller

/-- A call that begins a rotation returns normally for valid targets only. -/
theorem valid_of_begun {initial : RotationStore} {target : Int}
    (ready : ReadyFor initial target) {now : Instant}
    {state : KeyRotationState}
    (begun : (performRotation (.beginRotation target) now initial).1 =
      .ended (.began target (.ok state))) :
    1 ≤ target ∧ IsSqlInteger target := by
  by_cases positive : 1 ≤ target
  · refine ⟨positive, ?_⟩
    by_contra tooLarge
    rw [perform_beginRotation_overflow now positive tooLarge ready] at begun
    simp at begun
  · rw [perform_beginRotation_invalid now (not_le.mp positive)] at begun
    simp at begun

/-- A begun rotation without marks. -/
theorem hasMarked_startRotation (initial : RotationStore) (target : Int) :
    HasMarked initial target [] (initial.startRotation target) :=
  HasMarked.refl initial target

/-- Mark accounts one after the other, each call atomic. -/
def markAccounts (now : Instant) (marks : List Int) (store : RotationStore) :
    RotationStore :=
  marks.foldl (fun current accountId =>
    (performRotation (.markAccountRotated accountId) now current).2) store

/-- The store after marking existing accounts in any order. -/
theorem markAccounts_startRotation {initial : RotationStore} {target : Int}
    (now : Instant) {marks : List Int}
    (existing : ∀ id ∈ marks, id ∈ initial.accounts.ids) :
    HasMarked initial target marks
        (markAccounts now marks (initial.startRotation target)) ∧
      (markAccounts now marks (initial.startRotation target)).rotation =
        some ⟨target, marks.foldl max 0, none⟩ := by
  induction marks using List.reverseRecOn with
  | nil => exact ⟨hasMarked_startRotation initial target, rfl⟩
  | append_singleton marks accountId ih =>
      obtain ⟨hasMarked, stored⟩ := ih fun id member =>
        existing id (List.mem_append_left _ member)
      have known : accountId ∈ (markAccounts now marks
          (initial.startRotation target)).accounts.ids := by
        rw [hasMarked.ids_eq]
        exact existing accountId (by simp)
      have marked : markAccounts now (marks ++ [accountId])
          (initial.startRotation target) =
          (markAccounts now marks (initial.startRotation target)).applyMark
            accountId ⟨target, marks.foldl max 0, none⟩ := by
        rw [markAccounts, List.foldl_concat, ← markAccounts,
          perform_markAccountRotated now stored known]
      rw [marked]
      refine ⟨hasMarked.applyMark rfl accountId, ?_⟩
      rw [RotationStore.applyMark_rotation, stored, List.foldl_concat]
      dsimp only
      split
      · rename_i above
        rw [max_eq_right above.le]
        rfl
      · rename_i notAbove
        rw [max_eq_left (not_lt.mp notAbove)]

theorem foldl_max_lt_iff {marks : List Int} {least bound : Int} :
    marks.foldl max least < bound ↔
      least < bound ∧ ∀ mark ∈ marks, mark < bound := by
  induction marks generalizing least with
  | nil => simp
  | cons mark marks ih => simp [ih, and_assoc]

section MarkedStore

variable {initial store : RotationStore} {target : Int} {marks : List Int}
  {state : KeyRotationState}

/-- The query offers nothing when every account that is still below the target
lies at or under the high-water mark. -/
theorem offers_none_iff (now : Instant)
    (hasMarked : HasMarked initial target marks store)
    (stored : store.rotation = some state)
    (sameTarget : state.targetKeyVersion = target) :
    (performRotation .nextPendingAccountId now store).1 =
        .ended (.offered none) ↔
      ∀ row ∈ initial.accounts.rows, row.keyVersion < target →
        row.id ∉ marks → row.id ≤ state.lastRotatedAccountId := by
  rw [perform_nextPendingAccountId now stored]
  simp only [Progress.ended.injEq, RotationResult.offered.injEq,
    RotationStore.nextPending_eq_none_iff, sameTarget]
  exact hasMarked.forall_pending_iff fun id => id ≤ state.lastRotatedAccountId

/-- The completion check looks at the key versions only. -/
theorem completes_iff (now : Instant)
    (hasMarked : HasMarked initial target marks store)
    (stored : store.rotation = some state)
    (sameTarget : state.targetKeyVersion = target)
    (running : state.completedAt = none) :
    (performRotation .completeIfFinished now store).1 =
        .ended (.completed (.ok true)) ↔
      ∀ row ∈ initial.accounts.rows, row.keyVersion < target →
        row.id ∈ marks := by
  have pending := hasMarked.hasPending_iff
  rw [perform_completeIfFinished now stored running, sameTarget]
  split
  · rename_i below
    obtain ⟨row, rowStored, rowBelow, unmarked⟩ := pending.mp below
    refine iff_of_false (by simp) ?_
    intro allMarked
    exact unmarked (allMarked row rowStored rowBelow)
  · rename_i noneBelow
    refine iff_of_true rfl ?_
    intro row rowStored rowBelow
    by_contra unmarked
    exact noneBelow (pending.mpr ⟨row, rowStored, rowBelow, unmarked⟩)

end MarkedStore

/-- After a rotation was begun and existing accounts were marked in any order,
`next_pending_account_id` and `complete_if_finished` agree on whether the
rotation is finished exactly if every account below the target was marked or
one of them has an id above all marks. -/
theorem pendingOffered_iff (initial : RotationStore) (target : Int)
    (ready : ReadyFor initial target) (now : Instant)
    (begun : ∃ state, (performRotation (.beginRotation target) now initial).1 =
      .ended (.began target (.ok state)))
    (marks : List Int)
    (existing : ∀ id ∈ marks, id ∈ initial.accounts.ids) :
    ((performRotation .nextPendingAccountId now (markAccounts now marks
          (performRotation (.beginRotation target) now initial).2)).1 =
        .ended (.offered none) ↔
      (performRotation .completeIfFinished now (markAccounts now marks
          (performRotation (.beginRotation target) now initial).2)).1 =
        .ended (.completed (.ok true))) ↔
    ((∀ row ∈ initial.accounts.rows, row.keyVersion < target →
        row.id ∈ marks) ∨
      ∃ row ∈ initial.accounts.rows, row.keyVersion < target ∧ 0 < row.id ∧
        ∀ mark ∈ marks, mark < row.id) := by
  obtain ⟨state, begun⟩ := begun
  obtain ⟨positive, sqlTarget⟩ := valid_of_begun ready begun
  rw [perform_beginRotation_ready positive sqlTarget ready now]
  obtain ⟨hasMarked, stored⟩ :
      HasMarked initial target marks
        (markAccounts now marks (initial.startRotation target)) ∧ _ :=
    markAccounts_startRotation now existing
  rw [offers_none_iff now hasMarked stored rfl,
    completes_iff now hasMarked stored rfl rfl]
  constructor
  · intro agree
    by_contra neither
    obtain ⟨someUnmarked, noneAbove⟩ := not_or.mp neither
    apply someUnmarked
    apply agree.mp
    intro row rowStored rowBelow _
    by_contra above
    obtain ⟨positiveId, aboveMarks⟩ := foldl_max_lt_iff.mp (not_le.mp above)
    exact noneAbove ⟨row, rowStored, rowBelow, positiveId, aboveMarks⟩
  · rintro (allMarked | ⟨row, rowStored, rowBelow, positiveId, aboveMarks⟩)
    · refine iff_of_true ?_ allMarked
      intro row rowStored rowBelow unmarked
      exact absurd (allMarked row rowStored rowBelow) unmarked
    · have unmarked : row.id ∉ marks := fun member =>
        lt_irrefl _ (aboveMarks row.id member)
      have above := foldl_max_lt_iff.mpr ⟨positiveId, aboveMarks⟩
      refine iff_of_false ?_ ?_
      · intro noneOffered
        exact above.not_ge (noneOffered row rowStored rowBelow unmarked)
      · intro allMarked
        exact unmarked (allMarked row rowStored rowBelow)

theorem pendingOffered_iff_sample :
    (performRotation .nextPendingAccountId 5 (markAccounts 5 [1]
        (performRotation (.beginRotation 2) 5 sampleRotationStore).2)).1 =
      .ended (.offered none) ↔
    (performRotation .completeIfFinished 5 (markAccounts 5 [1]
        (performRotation (.beginRotation 2) 5 sampleRotationStore).2)).1 =
      .ended (.completed (.ok true)) :=
  (pendingOffered_iff sampleRotationStore 2 (by decide) 5
    ⟨⟨2, 0, none⟩, by decide⟩ [1] (by decide)).mpr
    (.inr ⟨sampleAccount 2 1, by decide, by decide, by decide, by decide⟩)

/-- Marking account 2 before account 1 moves the high-water mark past account
1: nothing is offered any more, and the rotation is never finished. -/
theorem marking_out_of_order_gets_stuck :
    ¬ ((performRotation .nextPendingAccountId 5 (markAccounts 5 [2]
          (performRotation (.beginRotation 2) 5 sampleRotationStore).2)).1 =
        .ended (.offered none) ↔
      (performRotation .completeIfFinished 5 (markAccounts 5 [2]
          (performRotation (.beginRotation 2) 5 sampleRotationStore).2)).1 =
        .ended (.completed (.ok true))) := by
  decide

end Tca
