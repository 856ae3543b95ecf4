import Tca.DedupeOperations

/-!
# What becomes of recorded decisions

Decisions go with their items and lose references to clusters and candidates
that are deleted; a merge adds one.  The file says what every operation on the
dedupe state leaves of the recorded decisions, in one form for all of them.
-/

namespace Tca

open TableRows

section Rows

/-- The later row is the earlier one, perhaps without its references to
clusters and candidates that are gone. -/
structure DecisionRow.Continues (row later : DecisionRow) : Prop where
  id : later.id = row.id
  itemId : later.itemId = row.itemId
  clusterId : later.clusterId = row.clusterId ∨ later.clusterId = none
  candidateItemId : later.candidateItemId = row.candidateItemId ∨
    later.candidateItemId = none
  strategyName : later.strategyName = row.strategyName
  outcome : later.outcome = row.outcome
  reasonCode : later.reasonCode = row.reasonCode
  score : later.score = row.score
  metadataJson : later.metadataJson = row.metadataJson

theorem DecisionRow.Continues.refl (row : DecisionRow) : row.Continues row :=
  ⟨rfl, rfl, Or.inl rfl, Or.inl rfl, rfl, rfl, rfl, rfl, rfl⟩

private theorem kept_or_cleared {first second third : Option Int}
    (earlier : second = first ∨ second = none)
    (later : third = second ∨ third = none) :
    third = first ∨ third = none := by
  rcases later with rfl | cleared
  · exact earlier
  · exact Or.inr cleared

theorem DecisionRow.Continues.trans {row later latest : DecisionRow}
    (earlier : row.Continues later) (next : later.Continues latest) :
    row.Continues latest where
  id := next.id.trans earlier.id
  itemId := next.itemId.trans earlier.itemId
  clusterId := kept_or_cleared earlier.clusterId next.clusterId
  candidateItemId :=
    kept_or_cleared earlier.candidateItemId next.candidateItemId
  strategyName := next.strategyName.trans earlier.strategyName
  outcome := next.outcome.trans earlier.outcome
  reasonCode := next.reasonCode.trans earlier.reasonCode
  score := next.score.trans earlier.score
  metadataJson := next.metadataJson.trans earlier.metadataJson

private theorem clearReference_kept_or_cleared (gone : Int → Bool)
    (reference : Option Int) :
    clearReference gone reference = reference ∨
      clearReference gone reference = none := by
  cases cleared : clearReference gone reference with
  | none => exact Or.inr rfl
  | some id => exact Or.inl (clearReference_eq_some_iff.mp cleared).1.symm

theorem DecisionRow.Continues.clearCluster (gone : Int → Bool)
    (row : DecisionRow) : row.Continues (row.clearCluster gone) :=
  { DecisionRow.Continues.refl row with
    clusterId := clearReference_kept_or_cleared gone row.clusterId }

theorem DecisionRow.Continues.clearCandidate (gone : Int → Bool)
    (row : DecisionRow) : row.Continues (row.clearCandidate gone) :=
  { DecisionRow.Continues.refl row with
    candidateItemId :=
      clearReference_kept_or_cleared gone row.candidateItemId }

end Rows

namespace Database

section Effects

/-- Decisions whose item is still there are continued, and some are added. -/
def DecisionsContinue (before after : Database) (added : List DecisionRow) :
    Prop :=
  ∃ change : DecisionRow → DecisionRow,
    (∀ row : DecisionRow, row.Continues (change row)) ∧
    after.dedupeDecisions =
      (before.dedupeDecisions.filter
        fun row => row.itemId ∈ after.itemIds).map change ++ added

/-- The row records a merge under a new id. -/
structure IsEvent (db : Database) (row : DecisionRow) : Prop where
  id : row.id = nextRowid (db.dedupeDecisions.map (·.id))
  score : row.score = none

variable {db after : Database}

/-- While all items stay, so do all decisions. -/
theorem Consistent.decisionsContinue_of_items (consistent : db.Consistent)
    {change : DecisionRow → DecisionRow} {added : List DecisionRow}
    (continues : ∀ row : DecisionRow, row.Continues (change row))
    (decisionsEq : after.dedupeDecisions =
      db.dedupeDecisions.map change ++ added)
    (itemsKept : ∀ id ∈ db.itemIds, id ∈ after.itemIds) :
    db.DecisionsContinue after added := by
  have allKept : db.dedupeDecisions.filter
      (fun row => row.itemId ∈ after.itemIds) = db.dedupeDecisions := by
    apply List.filter_eq_self.mpr
    intro row stored
    exact decide_eq_true (itemsKept _ (consistent.decisionItems row stored))
  refine ⟨change, continues, ?_⟩
  rw [allKept, decisionsEq]

theorem Consistent.decisionsContinue_of_same (consistent : db.Consistent)
    (sameDecisions : after.dedupeDecisions = db.dedupeDecisions)
    (itemsKept : ∀ id ∈ db.itemIds, id ∈ after.itemIds) :
    db.DecisionsContinue after [] := by
  refine consistent.decisionsContinue_of_items DecisionRow.Continues.refl ?_
    itemsKept
  rw [sameDecisions, List.map_id', List.append_nil]

/-- An item is still there unless it was selected. -/
private theorem mem_itemIds_removeItems (nodup : db.itemIds.Nodup)
    {selected : ItemRow → Bool} {itemId : Int} (stored : itemId ∈ db.itemIds) :
    itemId ∈ (db.removeItems selected).itemIds ↔
      itemId ∉ db.removedItemIds selected := by
  constructor
  · intro remains removed
    obtain ⟨row, kept, rfl⟩ := List.mem_map.mp remains
    obtain ⟨other, gone, sameId⟩ := List.mem_map.mp removed
    obtain ⟨rowStored, notSelected⟩ := List.mem_filter.mp kept
    obtain ⟨otherStored, isSelected⟩ := List.mem_filter.mp gone
    obtain rfl := eq_of_key_eq nodup otherStored rowStored sameId
    simp [isSelected] at notSelected
  · exact mem_map_filter_not stored

theorem Consistent.decisionsContinue_removeItems (consistent : db.Consistent)
    (selected : ItemRow → Bool) :
    db.DecisionsContinue (db.removeItems selected) [] := by
  refine ⟨fun row => (row.clearCandidate
      fun id => id ∈ db.removedItemIds selected).clearCluster
        (db.droppedCluster selected),
    fun row => (DecisionRow.Continues.clearCandidate _ row).trans
      (.clearCluster _ _), ?_⟩
  rw [List.append_nil, removeItems_dedupeDecisions, map_filter_eq_filterMap]
  apply List.filterMap_congr
  intro row stored
  simp only [remainingDecision, decide_eq_true_eq,
    mem_itemIds_removeItems consistent.itemIdsNodup
      (consistent.decisionItems row stored), ite_not]

/-- Deleting raw messages first does not touch the decisions. -/
private theorem Consistent.decisionsContinue_deleteRawMessages
    (consistent : db.Consistent) (chosen : RawMessageRow → Bool)
    (selected : ItemRow → Bool) :
    db.DecisionsContinue ((db.deleteRawMessages chosen).removeItems selected)
      [] :=
  (consistent.deleteRawMessages chosen).decisionsContinue_removeItems selected

theorem Consistent.decisionsContinue_purge (consistent : db.Consistent)
    (channelId : Int) : db.DecisionsContinue (db.purgeStore channelId) [] := by
  by_cases stored : channelId ∈ db.channelIds
  · obtain ⟨channel, -, -, executed⟩ :=
      consistent.purgeChannel_existing stored
    rw [Database.purgeStore, executed]
    exact consistent.decisionsContinue_deleteRawMessages _ _
  · rw [Database.purgeStore, purgeChannel_missing stored]
    exact consistent.decisionsContinue_of_same rfl fun _ => id

theorem Consistent.decisionsContinue_prune (consistent : db.Consistent)
    (now : PyDateTime) : db.DecisionsContinue (db.pruneStore now) [] := by
  cases resolved : resolveCutoffs db.settings now with
  | error problem =>
      rw [pruneStore_of_error resolved]
      exact consistent.decisionsContinue_of_same rfl fun _ => id
  | ok cutoffs =>
      rw [consistent.pruneStore_of_ok resolved]
      exact consistent.decisionsContinue_deleteRawMessages _ _

/-- A merge clears references to the clusters it deletes and adds its
event. -/
theorem Consistent.decisionsContinue_merge (consistent : db.Consistent)
    (matchedClusterIds : List PyValue) :
    ∃ added, db.DecisionsContinue (db.mergeStore matchedClusterIds) added ∧
      (added = [] ∨ ∃ event, added = [event] ∧ db.IsEvent event) := by
  rcases consistent.mergeStore_cases matchedClusterIds with
    ⟨unchanged, -⟩ |
    ⟨listed, target, sources, itemId, -, -, -, executed⟩
  · rw [unchanged]
    exact ⟨[], consistent.decisionsContinue_of_same rfl fun _ => id,
      Or.inl rfl⟩
  · rw [executed]
    have sameIds : (db.absorbClusters target sources).dedupeDecisions.map
        (·.id) = db.dedupeDecisions.map (·.id) :=
      List.map_map
    refine ⟨[(db.absorbClusters target sources).mergeEvent itemId target
      sources], ?_, Or.inr ⟨_, rfl, congrArg nextRowid sameIds, rfl⟩⟩
    exact consistent.decisionsContinue_of_items
      (DecisionRow.Continues.clearCluster _) rfl fun _ => id

/-- Everything that an operation on the dedupe state does to the
decisions. -/
theorem Consistent.decisionsContinue_execute (consistent : db.Consistent)
    (operation : DedupeOperation) :
    ∃ added, db.DecisionsContinue (operation.execute db) added ∧
      (added = [] ∨ ∃ event, added = [event] ∧ db.IsEvent event) := by
  have nothingAdded : ∀ {after : Database}, db.DecisionsContinue after [] →
      ∃ added, db.DecisionsContinue after added ∧
        (added = [] ∨ ∃ event, added = [event] ∧ db.IsEvent event) :=
    fun continues => ⟨[], continues, Or.inl rfl⟩
  have untouched : db.DecisionsContinue db [] :=
    consistent.decisionsContinue_of_same rfl fun _ => id
  cases operation with
  | assign itemId matchedClusterId clusterKey =>
      apply nothingAdded
      cases matchedClusterId with
      | none =>
          rw [DedupeOperation.execute, assign_unmatched consistent]
          split
          · exact consistent.decisionsContinue_of_same rfl fun _ => id
          · exact untouched
      | some clusterId =>
          rw [DedupeOperation.execute, assign_matched consistent]
          split
          · exact consistent.decisionsContinue_of_same rfl fun _ => id
          · exact untouched
  | merge matchedClusterIds =>
      exact consistent.decisionsContinue_merge matchedClusterIds
  | purge channelId =>
      exact nothingAdded (consistent.decisionsContinue_purge channelId)
  | prune now => exact nothingAdded (consistent.decisionsContinue_prune now)
  | insertItem row =>
      apply nothingAdded
      rw [DedupeOperation.execute, insertItem]
      split
      · refine consistent.decisionsContinue_of_same rfl fun id stored => ?_
        rw [itemIds_addItem]
        exact List.mem_append_left _ stored
      · exact untouched
  | insertChannel row =>
      apply nothingAdded
      rw [DedupeOperation.execute, insertChannel]
      split <;> exact consistent.decisionsContinue_of_same rfl fun _ => id
  | insertRawMessage row =>
      apply nothingAdded
      rw [DedupeOperation.execute, insertRawMessage]
      split <;> exact consistent.decisionsContinue_of_same rfl fun _ => id
  | saveSettings settings =>
      exact nothingAdded
        (consistent.decisionsContinue_of_same rfl fun _ => id)

end Effects

end Database

/-- Appending decisions whose references resolve keeps the store
consistent. -/
theorem Database.Consistent.addDecisions {db : Database}
    (consistent : db.Consistent) {added : List DecisionRow}
    (itemsStored : ∀ row ∈ added, row.itemId ∈ db.itemIds)
    (clustersResolve : ∀ row ∈ added,
      Database.ResolvesIn db.clusterIds row.clusterId)
    (candidatesResolve : ∀ row ∈ added,
      Database.ResolvesIn db.itemIds row.candidateItemId) :
    Database.Consistent
      { db with dedupeDecisions := db.dedupeDecisions ++ added } :=
  { consistent with
    decisionItems :=
      List.forall_mem_append.mpr ⟨consistent.decisionItems, itemsStored⟩
    decisionClusters := List.forall_mem_append.mpr
      ⟨consistent.decisionClusters, clustersResolve⟩
    decisionCandidates := List.forall_mem_append.mpr
      ⟨consistent.decisionCandidates, candidatesResolve⟩ }

end Tca
