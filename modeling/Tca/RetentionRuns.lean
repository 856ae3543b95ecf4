import Tca.RetentionPrune

/-!
# Runs of the prune job

Two facts about whole runs.  A retention period of zero days makes the time of
the run itself the cutoff, so it keeps the archive exactly when no item is
older than the run.  And for UTC times in order, a run at the earlier time
adds nothing to a run at the later one.
-/

namespace Tca

open TableRows Transaction

namespace Database

/-- The store after one run of the job. -/
def pruneStore (now : PyDateTime) (db : Database) : Database :=
  (atomically (runOnce now) db).2

section Outcome

variable {db : Database} {now : PyDateTime}

theorem pruneStore_of_error {problem : PyError}
    (unresolved : resolveCutoffs db.settings now = .error problem) :
    db.pruneStore now = db := by
  rw [pruneStore, runOnce_eq, unresolved]

theorem Consistent.pruneStore_of_ok (consistent : db.Consistent)
    {cutoffs : PruneCutoffs}
    (resolved : resolveCutoffs db.settings now = .ok cutoffs) :
    db.pruneStore now = db.pruneTables cutoffs := by
  obtain ⟨summary, executed, -⟩ := consistent.pruneExpired_eq cutoffs
  rw [Database.pruneStore, runOnce_eq, resolved]
  exact congrArg Prod.snd executed

/-- A run leaves a consistent store consistent. -/
theorem Consistent.pruneStore (consistent : db.Consistent)
    (now : PyDateTime) : (db.pruneStore now).Consistent := by
  cases resolved : resolveCutoffs db.settings now with
  | error problem =>
      rw [pruneStore_of_error resolved]
      exact consistent
  | ok cutoffs =>
      rw [consistent.pruneStore_of_ok resolved]
      exact consistent.pruneTables cutoffs

end Outcome

section ZeroRetention

/-- No item, membership or cluster is gone and every representative is as it
was. -/
def KeepsArchive (before after : Database) : Prop :=
  after.itemIds = before.itemIds ∧
    after.dedupeMembers = before.dedupeMembers ∧
    after.dedupeClusters = before.dedupeClusters

variable {db : Database} {now : PyDateTime}

theorem KeepsArchive.refl (db : Database) : db.KeepsArchive db :=
  ⟨rfl, rfl, rfl⟩

/-- With a period of zero days the cutoff is the time of the run. -/
theorem items_cutoff_of_zero {settings : List SettingRow}
    {cutoffs : PruneCutoffs} (zero : resolveItemsDays settings = .ok 0)
    (resolved : resolveCutoffs settings now = .ok cutoffs) :
    cutoffs.items = normalizeDatetime now := by
  obtain ⟨periods, periodsEq, -, itemsEq, -⟩ :=
    resolveCutoffs_eq_ok_iff.mp resolved
  have noDays : periods.itemsDays = 0 := by
    have returned := resolveRetentionSettings_itemsDays periodsEq
    rw [zero] at returned
    exact (Except.ok.inj returned).symm
  rw [noDays, subtractDays_zero] at itemsEq
  exact (Except.ok.inj itemsEq).symm

/-- A prune keeps the archive exactly when no item is expired. -/
theorem keepsArchive_pruneTables_iff (cutoffs : PruneCutoffs) :
    db.KeepsArchive (db.pruneTables cutoffs) ↔
      ∀ item ∈ db.items, ¬ item.createdAt < cutoffs.items.boundText := by
  constructor
  · rintro ⟨sameIds, -, -⟩ item stored expired
    have sameCount := congrArg List.length sameIds
    simp only [itemIds, List.length_map] at sameCount
    have split := @pruneTables_itemCount db cutoffs
    have positive : 0 < (db.items.filter
        (ItemRow.expired cutoffs.items.boundText)).length :=
      List.length_pos_of_mem (List.mem_filter.mpr
        ⟨stored, decide_eq_true expired⟩)
    omega
  · intro noneExpired
    have noneSelected : (db.deleteRawMessages (RawMessageRow.expired
        cutoffs.rawMessages.boundText)).items.filter
          (ItemRow.expired cutoffs.items.boundText) = [] := by
      apply List.filter_eq_nil_iff.mpr
      intro row stored expired
      obtain ⟨item, itemStored, rfl⟩ := List.mem_map.mp stored
      exact noneExpired item itemStored (of_decide_eq_true expired)
    have onlyRaw : db.pruneTables cutoffs =
        (db.deleteRawMessages (RawMessageRow.expired
          cutoffs.rawMessages.boundText)).deleteIngestErrors
            (IngestErrorRow.expired cutoffs.ingestErrors.boundText) := by
      rw [pruneTables, removeItems_none _ noneSelected]
    rw [onlyRaw]
    refine ⟨?_, rfl, rfl⟩
    change (db.items.map _).map _ = db.items.map _
    rw [List.map_map]
    rfl

/-- With a retention of zero days, a run keeps the archive exactly when it
raises before it touches the store or no item was created before the run. -/
theorem zeroRetention_keepsArchive_iff (consistent : db.Consistent)
    (now : PyDateTime) (zero : resolveItemsDays db.settings = .ok 0) :
    db.KeepsArchive (db.pruneStore now) ↔
      (∃ problem, resolveCutoffs db.settings now = .error problem) ∨
        ∀ item ∈ db.items,
          ¬ item.createdAt < (normalizeDatetime now).boundText := by
  cases resolved : resolveCutoffs db.settings now with
  | error problem =>
      rw [pruneStore_of_error resolved]
      exact iff_of_true (KeepsArchive.refl db) (Or.inl ⟨problem, rfl⟩)
  | ok cutoffs =>
      rw [consistent.pruneStore_of_ok resolved,
        keepsArchive_pruneTables_iff, items_cutoff_of_zero zero resolved]
      simp

/-- The sample store with a retention of zero days. -/
def zeroRetentionStore : Database :=
  { sampleStore with
    settings := [⟨"retention.items_days", .ok (.int 0)⟩] }

theorem zeroRetentionStore_consistent : zeroRetentionStore.Consistent := by
  decide

theorem zeroRetention_keepsArchive_iff_sample :
    zeroRetentionStore.Consistent ∧
      resolveItemsDays zeroRetentionStore.settings = .ok 0 ∧
      (zeroRetentionStore.KeepsArchive
          (zeroRetentionStore.pruneStore sampleTime) ↔
        (∃ problem, resolveCutoffs zeroRetentionStore.settings sampleTime =
            .error problem) ∨
          ∀ item ∈ zeroRetentionStore.items,
            ¬ item.createdAt < (normalizeDatetime sampleTime).boundText) :=
  ⟨zeroRetentionStore_consistent, rfl,
    zeroRetention_keepsArchive_iff zeroRetentionStore_consistent sampleTime
      rfl⟩

/-- A nightly run with a retention of zero days deletes the whole archive. -/
theorem zeroRetention_deletes_archive :
    ¬ ∀ (db : Database) (now : PyDateTime), db.Consistent →
      resolveItemsDays db.settings = .ok 0 →
        db.KeepsArchive (db.pruneStore now) := by
  intro keeps
  have kept := keeps zeroRetentionStore sampleTime
    zeroRetentionStore_consistent rfl
  have periods : resolveRetentionSettings zeroRetentionStore.settings =
      .ok ⟨30, 0, 90⟩ :=
    rfl
  obtain ⟨rawMessages, rawEq⟩ := @subtractDays_isOk
    (normalizeDatetime sampleTime) 30 (by decide) (by decide)
  obtain ⟨ingestErrors, errorsEq⟩ := @subtractDays_isOk
    (normalizeDatetime sampleTime) 90 (by decide) (by decide)
  have resolved : resolveCutoffs zeroRetentionStore.settings sampleTime =
      .ok ⟨rawMessages, normalizeDatetime sampleTime, ingestErrors⟩ :=
    resolveCutoffs_eq_ok_iff.mpr
      ⟨_, periods, rawEq, subtractDays_zero _, errorsEq⟩
  rw [zeroRetentionStore_consistent.pruneStore_of_ok resolved,
    keepsArchive_pruneTables_iff, items_cutoff_of_zero rfl resolved] at kept
  exact kept (sampleItem 1 1 none) (by decide) (by decide)

end ZeroRetention

section Replay

variable {db : Database}

/-- None of the cutoff texts gets smaller. -/
structure NotAfter (first second : PruneCutoffs) : Prop where
  rawMessages :
    first.rawMessages.boundText ≤ second.rawMessages.boundText
  items : first.items.boundText ≤ second.items.boundText
  ingestErrors :
    first.ingestErrors.boundText ≤ second.ingestErrors.boundText

theorem deleteIngestErrors_deleteRawMessages
    (expired : IngestErrorRow → Bool) (chosen : RawMessageRow → Bool) :
    (db.deleteIngestErrors expired).deleteRawMessages chosen =
      (db.deleteRawMessages chosen).deleteIngestErrors expired :=
  rfl

theorem deleteIngestErrors_removeItems (expired : IngestErrorRow → Bool)
    (selected : ItemRow → Bool) :
    (db.deleteIngestErrors expired).removeItems selected =
      (db.removeItems selected).deleteIngestErrors expired :=
  rfl

theorem deleteIngestErrors_absorbed {first second : IngestErrorRow → Bool}
    (covered : ∀ row ∈ db.ingestErrors, first row = true →
      second row = true) :
    (db.deleteIngestErrors first).deleteIngestErrors second =
      db.deleteIngestErrors second := by
  have keptEq : (db.ingestErrors.filter fun row => !first row).filter
      (fun row => !second row) =
        db.ingestErrors.filter fun row => !second row := by
    rw [List.filter_filter]
    apply List.filter_congr
    intro row stored
    cases chosen : first row with
    | false => simp
    | true => simp [covered row stored chosen]
  simp only [deleteIngestErrors, keptEq]

/-- What an earlier prune removes, a later one removes as well. -/
theorem Consistent.pruneTables_absorbed (consistent : db.Consistent)
    {first second : PruneCutoffs} (ordered : NotAfter first second) :
    (db.pruneTables first).pruneTables second = db.pruneTables second := by
  have rawCovered : ∀ row ∈ db.rawMessages,
      RawMessageRow.expired first.rawMessages.boundText row = true →
        RawMessageRow.expired second.rawMessages.boundText row = true :=
    fun row _ expired => decide_eq_true
      (lt_of_lt_of_le (of_decide_eq_true expired) ordered.rawMessages)
  have itemsCovered : ∀ row : ItemRow,
      ItemRow.expired first.items.boundText row = true →
        ItemRow.expired second.items.boundText row = true :=
    fun row expired => decide_eq_true
      (lt_of_lt_of_le (of_decide_eq_true expired) ordered.items)
  have errorsCovered : ∀ row : IngestErrorRow,
      IngestErrorRow.expired first.ingestErrors.boundText row = true →
        IngestErrorRow.expired second.ingestErrors.boundText row = true :=
    fun row expired => decide_eq_true
      (lt_of_lt_of_le (of_decide_eq_true expired) ordered.ingestErrors)
  have nodup := (consistent.deleteRawMessages
    (RawMessageRow.expired second.rawMessages.boundText)).itemIdsNodup
  -- Bring the two prunes into the order raw messages, items, errors.
  rw [Database.pruneTables, Database.pruneTables,
    deleteIngestErrors_deleteRawMessages,
    ← deleteRawMessages_removeItems _
      (expired_ignoresRawMessage first.items.boundText),
    deleteIngestErrors_removeItems, deleteRawMessages_absorbed db rawCovered,
    removeItems_absorbed _ _ _ nodup fun row _ => itemsCovered row,
    deleteIngestErrors_absorbed fun row _ => errorsCovered row,
    Database.pruneTables]

/-- Pruning composes: for UTC times in order, a run at the earlier time
followed by a run at the later one leaves the store of the later run alone. -/
theorem pruneStore_pruneStore (consistent : db.Consistent)
    {first second : PyDateTime}
    (firstUtc : (normalizeDatetime first).tzinfo = some utcTimezone)
    (secondUtc : (normalizeDatetime second).tzinfo = some utcTimezone)
    (ordered : first.wall.micros ≤ second.wall.micros) :
    (db.pruneStore first).pruneStore second = db.pruneStore second := by
  cases resolved : resolveCutoffs db.settings first with
  | error problem => rw [pruneStore_of_error resolved]
  | ok cutoffs =>
      obtain ⟨later, laterResolved, rawLe, itemsLe, errorsLe⟩ :=
        resolveCutoffs_mono firstUtc secondUtc ordered resolved
      have stillResolved : resolveCutoffs
          (db.pruneTables cutoffs).settings second = .ok later :=
        laterResolved
      rw [consistent.pruneStore_of_ok resolved,
        (consistent.pruneTables cutoffs).pruneStore_of_ok stillResolved,
        consistent.pruneStore_of_ok laterResolved]
      exact consistent.pruneTables_absorbed ⟨rawLe, itemsLe, errorsLe⟩

theorem pruneStore_pruneStore_sample :
    sampleStore.Consistent ∧
      (sampleStore.pruneStore sampleTime).pruneStore sampleTime =
        sampleStore.pruneStore sampleTime :=
  ⟨sampleStore_consistent,
    pruneStore_pruneStore sampleStore_consistent rfl rfl le_rfl⟩

end Replay

end Database

end Tca
