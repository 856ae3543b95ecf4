import Tca.ItemRemovalRounds
import Tca.RetentionSettings
import Tca.SortedSets

/-!
# The retention prune job

`run_once` deletes expired raw messages and items in batches, repairs the
clusters that lost a member, sweeps rows whose references are gone and deletes
expired ingest errors.  The file embeds the job with its batch loops and shows
that it equals the unbatched removal of all expired rows.
-/

namespace Tca

open TableRows Transaction SortedSets

def deleteBatchSize : Nat := 500

/-- Result details for one prune job execution. -/
structure PruneJobRunSummary where
  executedSteps : List String
  rawMessagesDeleted : Nat
  itemsDeleted : Nat
  rawMessageBatchSizes : List Nat
  itemBatchSizes : List Nat
  recomputedClusterCount : Nat
  deletedEmptyClusterCount : Nat
  orphanedMembersDeleted : Nat
  orphanedDecisionsDeleted : Nat
  ingestErrorsDeleted : Nat
  affectedClusterIds : List Int
  deriving DecidableEq

namespace RawMessageRow

/-- `created_at < :cutoff`, compared as text. -/
def expired (cutoff : String) (row : RawMessageRow) : Bool :=
  row.createdAt < cutoff

end RawMessageRow

namespace ItemRow

/-- `created_at < :cutoff`, compared as text. -/
def expired (cutoff : String) (row : ItemRow) : Bool :=
  row.createdAt < cutoff

end ItemRow

namespace IngestErrorRow

/-- `created_at < :cutoff`, compared as text. -/
def expired (cutoff : String) (row : IngestErrorRow) : Bool :=
  row.createdAt < cutoff

end IngestErrorRow

namespace Database

/-- `SELECT id FROM raw_messages ... ORDER BY id ASC LIMIT :batch_size`. -/
def expiredRawMessageIds (cutoff : String) (db : Database) : List Int :=
  keyBatch (·.id) (RawMessageRow.expired cutoff) deleteBatchSize
    db.rawMessages

/-- `SELECT id FROM items ... ORDER BY id ASC LIMIT :batch_size`. -/
def expiredItemIds (cutoff : String) (db : Database) : List Int :=
  keyBatch (·.id) (ItemRow.expired cutoff) deleteBatchSize db.items

/-- The raw messages that a deletion by id returns. -/
def rawMessagesWithIds (ids : List Int) (db : Database) :
    List RawMessageRow :=
  db.rawMessages.filter fun row => row.id ∈ ids

/-- The items that a deletion by id returns. -/
def itemsWithIds (ids : List Int) (db : Database) : List ItemRow :=
  db.items.filter fun row => row.id ∈ ids

/-- The batch loop over raw messages, from given accumulators on. -/
def deleteExpiredRawMessagesInBatches (cutoff : String) (db : Database)
    (deletedTotal : Nat) (batchSizes : List Nat) :
    (Nat × List Nat) × Database :=
  let rawMessageIds := db.expiredRawMessageIds cutoff
  if _exhausted : rawMessageIds = [] then ((deletedTotal, batchSizes), db)
  else
    let deletedCount := (db.rawMessagesWithIds rawMessageIds).length
    deleteExpiredRawMessagesInBatches cutoff
      (db.deleteRawMessages fun row => row.id ∈ rawMessageIds)
      (deletedTotal + deletedCount) (batchSizes ++ [deletedCount])
termination_by
  (db.rawMessages.filter (RawMessageRow.expired cutoff)).length
decreasing_by exact remaining_lt ‹_›

/-- The batch loop over items, from given accumulators on.  Clusters of the
items of a batch are collected before the batch is deleted. -/
def deleteExpiredItemsInBatches (cutoff : String) (db : Database)
    (deletedTotal : Nat) (batchSizes : List Nat)
    (affectedClusterIds : List Int) :
    (Nat × List Nat × List Int) × Database :=
  let itemIds := db.expiredItemIds cutoff
  if _exhausted : itemIds = [] then
    ((deletedTotal, batchSizes, affectedClusterIds), db)
  else
    let deletedCount := (db.itemsWithIds itemIds).length
    deleteExpiredItemsInBatches cutoff
      (db.deleteItems fun row => row.id ∈ itemIds)
      (deletedTotal + deletedCount) (batchSizes ++ [deletedCount])
      (insertAllOrIgnore affectedClusterIds (db.clustersOfItems itemIds))
termination_by (db.items.filter (ItemRow.expired cutoff)).length
decreasing_by exact remaining_lt ‹_›

/-- `_recompute_cluster_representatives`. -/
def recomputeClusterRepresentatives (clusterIds : List Int) (db : Database) :
    Nat × Database :=
  if clusterIds.isEmpty then (0, db)
  else (clusterIds.length,
    db.recomputeRepresentatives (sortedSet clusterIds))

/-- `_delete_empty_clusters`. -/
def deleteEmptyClustersCounted (clusterIds : List Int) (db : Database) :
    Nat × Database :=
  if clusterIds.isEmpty then (0, db)
  else ((db.dedupeClusters.filter fun row =>
      row.id ∈ sortedSet clusterIds && db.isEmptyCluster row.id).length,
    db.deleteEmptyClusters (sortedSet clusterIds))

/-- A membership whose cluster or item is missing. -/
def isOrphanedMember (db : Database) (row : MemberRow) : Bool :=
  row.clusterId ∉ db.clusterIds ∨ row.itemId ∉ db.itemIds

/-- A decision one of whose references is dangling. -/
def isOrphanedDecision (db : Database) (row : DecisionRow) : Bool :=
  row.itemId ∉ db.itemIds ∨ ¬ ResolvesIn db.clusterIds row.clusterId ∨
    ¬ ResolvesIn db.itemIds row.candidateItemId

/-- `_delete_orphaned_rows`. -/
def deleteOrphanedRows (db : Database) : (Nat × Nat) × Database :=
  (((db.dedupeMembers.filter db.isOrphanedMember).length,
      (db.dedupeDecisions.filter db.isOrphanedDecision).length),
    { db with
      dedupeMembers :=
        db.dedupeMembers.filter fun row => !db.isOrphanedMember row
      dedupeDecisions :=
        db.dedupeDecisions.filter fun row => !db.isOrphanedDecision row })

/-- `_delete_expired_ingest_errors`. -/
def deleteExpiredIngestErrors (cutoff : String) (db : Database) :
    Nat × Database :=
  ((db.ingestErrors.filter (IngestErrorRow.expired cutoff)).length,
    db.deleteIngestErrors (IngestErrorRow.expired cutoff))

end Database

/-- The write session of `run_once`, for given cutoffs. -/
def pruneExpired (cutoffs : PruneCutoffs) :
    StorageTransaction PruneJobRunSummary := do
  let (rawMessagesDeleted, rawMessageBatchSizes) ← modify fun db =>
    db.deleteExpiredRawMessagesInBatches cutoffs.rawMessages.boundText 0 []
  let (itemsDeleted, itemBatchSizes, affectedClusterIds) ← modify fun db =>
    db.deleteExpiredItemsInBatches cutoffs.items.boundText 0 [] []
  let recomputedClusterCount ← modify fun db =>
    db.recomputeClusterRepresentatives affectedClusterIds
  let deletedEmptyClusterCount ← modify fun db =>
    db.deleteEmptyClustersCounted affectedClusterIds
  let (orphanedMembersDeleted, orphanedDecisionsDeleted) ←
    modify fun db => db.deleteOrphanedRows
  let ingestErrorsDeleted ← modify fun db =>
    db.deleteExpiredIngestErrors cutoffs.ingestErrors.boundText
  commit
  return {
    executedSteps := ["delete_expired_raw_messages", "delete_expired_items",
      "recompute_cluster_representatives", "delete_empty_clusters",
      "delete_orphaned_rows", "delete_expired_ingest_errors"]
    rawMessagesDeleted, itemsDeleted, rawMessageBatchSizes, itemBatchSizes,
    recomputedClusterCount, deletedEmptyClusterCount, orphanedMembersDeleted,
    orphanedDecisionsDeleted, ingestErrorsDeleted
    affectedClusterIds := sortedSet affectedClusterIds }

/-- Execute all six prune steps in required deterministic order.  Settings
and cutoffs are resolved before the write session opens. -/
def runOnce (now : PyDateTime) : StorageTransaction PruneJobRunSummary := do
  let settings ← query fun db => db.settings
  match resolveCutoffs settings now with
  | .error problem => raise problem
  | .ok cutoffs => pruneExpired cutoffs

namespace Database

section Loops

variable {db : Database} {cutoff : String}

private theorem min_add_sub_eq (limit count : Nat) :
    min limit count + (count - limit) = count := by
  omega

/-- The loop over raw messages deletes all expired ones. -/
theorem deleteExpiredRawMessagesInBatches_eq
    (nodup : db.rawMessageIds.Nodup) (deletedTotal : Nat)
    (sizes : List Nat) :
    db.deleteExpiredRawMessagesInBatches cutoff deletedTotal sizes =
      ((deletedTotal +
          (db.rawMessages.filter (RawMessageRow.expired cutoff)).length,
        sizes ++ batchSizes deleteBatchSize
          (db.rawMessages.filter (RawMessageRow.expired cutoff)).length),
        db.deleteRawMessages (RawMessageRow.expired cutoff)) := by
  induction db, deletedTotal, sizes using
    deleteExpiredRawMessagesInBatches.induct cutoff with
  | case1 db deletedTotal sizes ids exhausted =>
      have noneExpired := (keyBatch_eq_nil_iff (by decide)).mp exhausted
      rw [deleteExpiredRawMessagesInBatches, dif_pos exhausted, noneExpired,
        deleteRawMessages_none db noneExpired, List.length_nil,
        batchSizes_zero, List.append_nil]
      rfl
  | case2 db deletedTotal sizes ids more count ih =>
      have nextNodup :
          (db.deleteRawMessages fun row => row.id ∈ ids).rawMessageIds.Nodup :=
        nodup_map_filter nodup _
      have countEq : count = min deleteBatchSize
          (db.rawMessages.filter (RawMessageRow.expired cutoff)).length :=
        deleted_length nodup
      have remainingEq :
          ((db.deleteRawMessages fun row => row.id ∈ ids).rawMessages.filter
            (RawMessageRow.expired cutoff)).length =
              (db.rawMessages.filter (RawMessageRow.expired cutoff)).length -
                deleteBatchSize :=
        remaining_length nodup
      have absorbed : (db.deleteRawMessages
          fun row => row.id ∈ ids).deleteRawMessages
            (RawMessageRow.expired cutoff) =
              db.deleteRawMessages (RawMessageRow.expired cutoff) :=
        deleteRawMessages_absorbed db fun row stored inBatch =>
          chosen_of_mem_keyBatch nodup stored (of_decide_eq_true inBatch)
      have positive :
          0 < (db.rawMessages.filter (RawMessageRow.expired cutoff)).length :=
        Nat.lt_of_le_of_lt (Nat.zero_le _) (remaining_lt more)
      rw [deleteExpiredRawMessagesInBatches, dif_neg more]
      apply (ih nextNodup).trans
      rw [remainingEq, absorbed, countEq,
        batchSizes_step (by decide) positive, List.append_assoc,
        List.singleton_append, Nat.add_assoc, min_add_sub_eq]

/-- The clusters collected from a batch and from the items left by it are
those of all expired items. -/
private theorem mem_clustersOfItems_batch (nodup : db.itemIds.Nodup)
    {clusterId : Int} :
    clusterId ∈ db.clustersOfItems (db.expiredItemIds cutoff) ∨
        clusterId ∈ (db.deleteItems fun row =>
          row.id ∈ db.expiredItemIds cutoff).clustersOfItems
            ((db.deleteItems fun row =>
              row.id ∈ db.expiredItemIds cutoff).removedItemIds
                (ItemRow.expired cutoff)) ↔
      clusterId ∈ db.clustersOfItems
        (db.removedItemIds (ItemRow.expired cutoff)) := by
  have batchIff : ∀ itemId,
      itemId ∈ db.removedItemIds (fun row =>
        row.id ∈ db.expiredItemIds cutoff) ↔
          itemId ∈ db.expiredItemIds cutoff := by
    intro itemId
    constructor
    · intro removed
      obtain ⟨row, selected, rfl⟩ := List.mem_map.mp removed
      simpa using (List.mem_filter.mp selected).2
    · intro inBatch
      obtain ⟨row, stored, -, rfl⟩ := mem_of_mem_keyBatch inBatch
      exact List.mem_map_of_mem
        (List.mem_filter.mpr ⟨stored, by simpa using inBatch⟩)
  have covered : ∀ row ∈ db.items,
      decide (row.id ∈ db.expiredItemIds cutoff) = true →
        ItemRow.expired cutoff row = true :=
    fun row stored inBatch =>
      chosen_of_mem_keyBatch nodup stored (of_decide_eq_true inBatch)
  have removedIff : ∀ itemId,
      itemId ∈ db.removedItemIds (ItemRow.expired cutoff) ↔
        itemId ∈ db.expiredItemIds cutoff ∨
          itemId ∈ (db.deleteItems fun row =>
            row.id ∈ db.expiredItemIds cutoff).removedItemIds
              (ItemRow.expired cutoff) := by
    intro itemId
    rw [← batchIff]
    refine Iff.trans ?_ (mem_removedItemIds_either db _ _)
    rw [removedItemIds, removedItemIds,
      List.filter_congr (eitherSelected_of_covered covered)]
  simp only [mem_clustersOfItems, removedIff, member_deleteItems, batchIff]
  constructor
  · rintro (⟨itemId, inBatch, member⟩ | ⟨itemId, later, member, -⟩)
    · exact ⟨itemId, Or.inl inBatch, member⟩
    · exact ⟨itemId, Or.inr later, member⟩
  · rintro ⟨itemId, inBatch | later, member⟩
    · exact Or.inl ⟨itemId, inBatch, member⟩
    · by_cases inBatch : itemId ∈ db.expiredItemIds cutoff
      · exact Or.inl ⟨itemId, inBatch, member⟩
      · exact Or.inr ⟨itemId, later, member, inBatch⟩

/-- The loop over items deletes all expired ones and collects exactly the
clusters that had one of them as a member. -/
theorem deleteExpiredItemsInBatches_eq (nodup : db.itemIds.Nodup)
    (deletedTotal : Nat) (sizes : List Nat) (affected : List Int) :
    ∃ collected : List Int,
      db.deleteExpiredItemsInBatches cutoff deletedTotal sizes affected =
        ((deletedTotal +
            (db.items.filter (ItemRow.expired cutoff)).length,
          sizes ++ batchSizes deleteBatchSize
            (db.items.filter (ItemRow.expired cutoff)).length,
          collected),
          db.deleteItems (ItemRow.expired cutoff)) ∧
      (affected.Nodup → collected.Nodup) ∧
      ∀ clusterId, clusterId ∈ collected ↔
        clusterId ∈ affected ∨ clusterId ∈ db.clustersOfItems
          (db.removedItemIds (ItemRow.expired cutoff)) := by
  induction db, deletedTotal, sizes, affected using
    deleteExpiredItemsInBatches.induct cutoff with
  | case1 db deletedTotal sizes affected ids exhausted =>
      have noneExpired := (keyBatch_eq_nil_iff (by decide)).mp exhausted
      refine ⟨affected, ?_, id, ?_⟩
      · rw [deleteExpiredItemsInBatches, dif_pos exhausted, noneExpired,
          deleteItems_none db noneExpired, List.length_nil,
          batchSizes_zero, List.append_nil]
        rfl
      · intro clusterId
        rw [mem_clustersOfItems, removedItemIds, noneExpired]
        simp
  | case2 db deletedTotal sizes affected ids more count ih =>
      have nextNodup :
          (db.deleteItems fun row => row.id ∈ ids).itemIds.Nodup :=
        nodup_map_filter nodup _
      have countEq : count = min deleteBatchSize
          (db.items.filter (ItemRow.expired cutoff)).length :=
        deleted_length nodup
      have remainingEq :
          ((db.deleteItems fun row => row.id ∈ ids).items.filter
            (ItemRow.expired cutoff)).length =
              (db.items.filter (ItemRow.expired cutoff)).length -
                deleteBatchSize :=
        remaining_length nodup
      have absorbed : (db.deleteItems fun row => row.id ∈ ids).deleteItems
          (ItemRow.expired cutoff) =
            db.deleteItems (ItemRow.expired cutoff) :=
        deleteItems_absorbed db _ _ fun row stored inBatch =>
          chosen_of_mem_keyBatch nodup stored (of_decide_eq_true inBatch)
      have positive :
          0 < (db.items.filter (ItemRow.expired cutoff)).length :=
        Nat.lt_of_le_of_lt (Nat.zero_le _) (remaining_lt more)
      obtain ⟨collected, looped, keepsNodup, collectedIff⟩ := ih nextNodup
      refine ⟨collected, ?_, ?_, ?_⟩
      · rw [deleteExpiredItemsInBatches, dif_neg more]
        apply looped.trans
        rw [remainingEq, absorbed, countEq,
          batchSizes_step (by decide) positive, List.append_assoc,
          List.singleton_append, Nat.add_assoc, min_add_sub_eq]
      · intro affectedNodup
        exact keepsNodup (insertAllOrIgnore_nodup affectedNodup _)
      · intro clusterId
        rw [collectedIff, mem_insertAllOrIgnore, or_assoc,
          mem_clustersOfItems_batch nodup]

end Loops

section Effect

variable {db : Database}

/-- The unbatched reference: delete all expired raw messages, remove all
expired items, delete all expired ingest errors. -/
def pruneTables (cutoffs : PruneCutoffs) (db : Database) : Database :=
  ((db.deleteRawMessages
    (RawMessageRow.expired cutoffs.rawMessages.boundText)).removeItems
      (ItemRow.expired cutoffs.items.boundText)).deleteIngestErrors
        (IngestErrorRow.expired cutoffs.ingestErrors.boundText)

theorem Consistent.pruneTables (consistent : db.Consistent)
    (cutoffs : PruneCutoffs) : (db.pruneTables cutoffs).Consistent :=
  ((consistent.deleteRawMessages _).removeItems _).deleteIngestErrors _

/-- The two repair steps of the job are one repair. -/
theorem repair_steps (clusterIds : List Int) :
    (deleteEmptyClustersCounted clusterIds
        (db.recomputeClusterRepresentatives clusterIds).2).2 =
      db.repairClusters clusterIds := by
  cases clusterIds with
  | nil => exact db.repairClusters_nil.symm
  | cons clusterId clusterIds =>
      exact db.repairClusters_congr fun id => mem_sortedSet

/-- A consistent store has no orphaned rows. -/
theorem Consistent.deleteOrphanedRows_eq (consistent : db.Consistent) :
    db.deleteOrphanedRows = ((0, 0), db) := by
  have members : ∀ row ∈ db.dedupeMembers, db.isOrphanedMember row = false := by
    intro row stored
    simp [isOrphanedMember, consistent.memberClusters row stored,
      consistent.memberItems row stored]
  have decisions : ∀ row ∈ db.dedupeDecisions,
      db.isOrphanedDecision row = false := by
    intro row stored
    have cluster : ResolvesIn db.clusterIds row.clusterId :=
      consistent.decisionClusters row stored
    have candidate : ResolvesIn db.itemIds row.candidateItemId :=
      consistent.decisionCandidates row stored
    simp [isOrphanedDecision, consistent.decisionItems row stored, cluster,
      candidate]
  have noMembers : db.dedupeMembers.filter db.isOrphanedMember = [] :=
    List.filter_eq_nil_iff.mpr fun row stored => by simp [members row stored]
  have noDecisions : db.dedupeDecisions.filter db.isOrphanedDecision = [] :=
    List.filter_eq_nil_iff.mpr fun row stored => by
      simp [decisions row stored]
  have keptMembers : db.dedupeMembers.filter
      (fun row => !db.isOrphanedMember row) = db.dedupeMembers :=
    List.filter_eq_self.mpr fun row stored => by simp [members row stored]
  have keptDecisions : db.dedupeDecisions.filter
      (fun row => !db.isOrphanedDecision row) = db.dedupeDecisions :=
    List.filter_eq_self.mpr fun row stored => by simp [decisions row stored]
  simp only [deleteOrphanedRows, noMembers, noDecisions, keptMembers,
    keptDecisions, List.length_nil]

/-- The summary tells what was deleted. -/
structure SummaryMatches (db : Database) (cutoffs : PruneCutoffs)
    (summary : PruneJobRunSummary) : Prop where
  rawMessagesDeleted : summary.rawMessagesDeleted = (db.rawMessages.filter
    (RawMessageRow.expired cutoffs.rawMessages.boundText)).length
  rawMessageBatchSizes : summary.rawMessageBatchSizes =
    batchSizes deleteBatchSize summary.rawMessagesDeleted
  itemsDeleted : summary.itemsDeleted = (db.items.filter
    (ItemRow.expired cutoffs.items.boundText)).length
  itemBatchSizes : summary.itemBatchSizes =
    batchSizes deleteBatchSize summary.itemsDeleted
  affectedClusterIds : ∀ clusterId,
    clusterId ∈ summary.affectedClusterIds ↔
      clusterId ∈ db.clustersOfItems
        (db.removedItemIds (ItemRow.expired cutoffs.items.boundText))

/-- Clearing references to raw messages changes no item's expiry. -/
theorem expired_ignoresRawMessage (cutoff : String) :
    IgnoresRawMessage (ItemRow.expired cutoff) :=
  fun _ _ => rfl

/-- The batched job is the unbatched reference. -/
theorem Consistent.pruneExpired_eq (consistent : db.Consistent)
    (cutoffs : PruneCutoffs) :
    ∃ summary, atomically (pruneExpired cutoffs) db =
        (.ok summary, db.pruneTables cutoffs) ∧
      db.SummaryMatches cutoffs summary := by
  have afterRaw := consistent.deleteRawMessages
    (RawMessageRow.expired cutoffs.rawMessages.boundText)
  obtain ⟨collected, looped, -, collectedIff⟩ :=
    @deleteExpiredItemsInBatches_eq _ cutoffs.items.boundText
      afterRaw.itemIdsNodup 0 [] []
  have repaired : ((db.deleteRawMessages (RawMessageRow.expired
      cutoffs.rawMessages.boundText)).deleteItems
        (ItemRow.expired cutoffs.items.boundText)).repairClusters collected =
      (db.deleteRawMessages (RawMessageRow.expired
        cutoffs.rawMessages.boundText)).removeItems
          (ItemRow.expired cutoffs.items.boundText) :=
    repairClusters_congr _ fun id => by simpa using collectedIff id
  have orphans := (afterRaw.removeItems
    (ItemRow.expired cutoffs.items.boundText)).deleteOrphanedRows_eq
  simp only [atomically, pruneExpired, run_modify_bind, run_commit_bind,
    run_pure, deleteExpiredRawMessagesInBatches_eq
      consistent.rawMessageIdsNodup, looped, repair_steps, repaired, orphans]
  have sameIds := removedItemIds_deleteRawMessages db
    (expired_ignoresRawMessage cutoffs.items.boundText)
    (RawMessageRow.expired cutoffs.rawMessages.boundText)
  have sameCount := congrArg List.length sameIds
  simp only [removedItemIds, List.length_map] at sameCount
  refine ⟨_, rfl, ?_⟩
  exact
    { rawMessagesDeleted := Nat.zero_add _
      rawMessageBatchSizes := by simp
      itemsDeleted := (Nat.zero_add _).trans sameCount
      itemBatchSizes := by simp
      affectedClusterIds := fun clusterId => by
        rw [mem_sortedSet, collectedIff, sameIds]
        exact or_iff_right List.not_mem_nil }

/-- An item whose `created_at` text is below the cutoff. -/
def ItemExpired (db : Database) (cutoff : String) (itemId : Int) : Prop :=
  ∃ item ∈ db.items, item.id = itemId ∧ item.createdAt < cutoff

theorem mem_removedItemIds_expired {cutoff : String} {itemId : Int} :
    itemId ∈ db.removedItemIds (ItemRow.expired cutoff) ↔
      db.ItemExpired cutoff itemId := by
  simp only [removedItemIds, List.mem_map, List.mem_filter, ItemRow.expired,
    decide_eq_true_eq, ItemExpired]
  constructor
  · rintro ⟨item, ⟨stored, expired⟩, rfl⟩
    exact ⟨item, stored, rfl, expired⟩
  · rintro ⟨item, stored, rfl, expired⟩
    exact ⟨item, ⟨stored, expired⟩, rfl⟩

/-- The batch sizes account for the deleted rows: no batch exceeds the limit,
all but the last are full, and together they are the rows that are gone. -/
structure BatchesAccountFor (sizes : List Nat) (deleted rowsBefore rowsAfter :
    Nat) : Prop where
  bounded : ∀ size ∈ sizes, size ≤ 500
  full : ∀ size ∈ sizes.dropLast, size = 500
  total : sizes.sum = deleted
  gone : rowsAfter + deleted = rowsBefore

/-- What one prune run promises. -/
structure PruneOutcome (before : Database) (cutoffs : PruneCutoffs)
    (summary : PruneJobRunSummary) (after : Database) : Prop where
  rawMessages : after.rawMessages = before.rawMessages.filter fun row =>
    ¬ row.createdAt < cutoffs.rawMessages.boundText
  items : after.items = (before.items.filter fun row =>
    ¬ row.createdAt < cutoffs.items.boundText).map
      (·.clearRawMessage fun id => id ∈ (before.rawMessages.filter
        (RawMessageRow.expired cutoffs.rawMessages.boundText)).map (·.id))
  rawMessageBatches : BatchesAccountFor summary.rawMessageBatchSizes
    summary.rawMessagesDeleted before.rawMessages.length
    after.rawMessages.length
  itemBatches : BatchesAccountFor summary.itemBatchSizes
    summary.itemsDeleted before.items.length after.items.length
  affected : ∀ clusterId, clusterId ∈ summary.affectedClusterIds ↔
    before.LosesMember (before.ItemExpired cutoffs.items.boundText) clusterId
  clusters : before.ClustersRepaired
    (before.ItemExpired cutoffs.items.boundText) after
  occupied : ∀ clusterId ∈ after.clusterIds,
    ∃ itemId, after.Member clusterId itemId
  members : ∀ row ∈ after.dedupeMembers,
    row.clusterId ∈ after.clusterIds ∧ row.itemId ∈ after.itemIds
  decisions : ∀ row ∈ after.dedupeDecisions, row.itemId ∈ after.itemIds ∧
    ResolvesIn after.clusterIds row.clusterId ∧
    ResolvesIn after.itemIds row.candidateItemId

theorem batchSizes_accountFor {count rowsBefore rowsAfter : Nat}
    (gone : rowsAfter + count = rowsBefore) :
    BatchesAccountFor (batchSizes deleteBatchSize count) count rowsBefore
      rowsAfter where
  bounded _ member := le_of_mem_batchSizes (by decide) member
  full _ member := eq_of_mem_dropLast_batchSizes (by decide) member
  total := sum_batchSizes (by decide) count
  gone := gone

theorem pruneTables_repaired (consistent : db.Consistent)
    (sound : db.SoundClusters) (cutoffs : PruneCutoffs) :
    db.ClustersRepaired (db.ItemExpired cutoffs.items.boundText)
      (db.pruneTables cutoffs) := by
  have goneEq : (· ∈ db.removedItemIds
      (ItemRow.expired cutoffs.items.boundText)) =
        db.ItemExpired cutoffs.items.boundText :=
    funext fun _ => propext mem_removedItemIds_expired
  have repaired := deleteRawMessages_removeItems_repaired consistent sound
    (expired_ignoresRawMessage cutoffs.items.boundText)
    (RawMessageRow.expired cutoffs.rawMessages.boundText)
  rw [goneEq] at repaired
  exact repaired.congr rfl rfl rfl rfl rfl

theorem SoundClusters.pruneTables (sound : db.SoundClusters)
    (consistent : db.Consistent) (cutoffs : PruneCutoffs) :
    (db.pruneTables cutoffs).SoundClusters :=
  (pruneTables_repaired consistent sound cutoffs).soundClusters sound
    (consistent.pruneTables cutoffs).clusterIdsNodup

theorem pruneTables_items (cutoffs : PruneCutoffs) :
    (db.pruneTables cutoffs).items =
      (db.items.filter fun row =>
        !ItemRow.expired cutoffs.items.boundText row).map
          (·.clearRawMessage fun id => id ∈ (db.rawMessages.filter
            (RawMessageRow.expired cutoffs.rawMessages.boundText)).map
              (·.id)) := by
  change (db.items.map _).filter _ = _
  rw [List.filter_map]
  rfl

theorem pruneTables_itemCount (cutoffs : PruneCutoffs) :
    (db.pruneTables cutoffs).items.length +
        (db.items.filter
          (ItemRow.expired cutoffs.items.boundText)).length =
      db.items.length := by
  rw [pruneTables_items, List.length_map, Nat.add_comm]
  exact (List.length_eq_length_filter_add _).symm

/-- The reference keeps the promise of the job. -/
theorem SummaryMatches.outcome {cutoffs : PruneCutoffs}
    {summary : PruneJobRunSummary}
    (told : db.SummaryMatches cutoffs summary) (consistent : db.Consistent)
    (sound : db.SoundClusters) :
    db.PruneOutcome cutoffs summary (db.pruneTables cutoffs) := by
  have after := consistent.pruneTables cutoffs
  refine
    { rawMessages := ?_
      items := (pruneTables_items cutoffs).trans ?_
      rawMessageBatches := ?_
      itemBatches := ?_
      affected := ?_
      clusters := pruneTables_repaired consistent sound cutoffs
      occupied := ?_
      members := fun row stored =>
        ⟨after.memberClusters row stored, after.memberItems row stored⟩
      decisions := fun row stored =>
        ⟨after.decisionItems row stored, after.decisionClusters row stored,
          after.decisionCandidates row stored⟩ }
  · change db.rawMessages.filter _ = _
    exact List.filter_congr fun row _ => by simp [RawMessageRow.expired]
  · congr 1
    exact List.filter_congr fun row _ => by simp [ItemRow.expired]
  · rw [told.rawMessageBatchSizes]
    apply batchSizes_accountFor
    rw [told.rawMessagesDeleted, Nat.add_comm]
    exact (List.length_eq_length_filter_add _).symm
  · rw [told.itemBatchSizes]
    apply batchSizes_accountFor
    rw [told.itemsDeleted]
    exact pruneTables_itemCount cutoffs
  · intro clusterId
    rw [told.affectedClusterIds, mem_clustersOfItems_removed]
    simp only [LosesMember, mem_removedItemIds_expired]
  · intro clusterId stored
    obtain ⟨row, rowStored, rfl⟩ := List.mem_map.mp stored
    obtain ⟨itemId, -, member⟩ :=
      sound.pruneTables consistent cutoffs row rowStored
    exact ⟨itemId, member⟩

/-- A run either raises before it touches the store or prunes at the cutoffs
that the settings give. -/
theorem runOnce_eq (now : PyDateTime) :
    atomically (runOnce now) db =
      match resolveCutoffs db.settings now with
      | .error problem => (.error problem, db)
      | .ok cutoffs => atomically (pruneExpired cutoffs) db := by
  rw [atomically, runOnce, run_query_bind]
  cases resolveCutoffs db.settings now with
  | error problem => rfl
  | ok cutoffs => rfl

/-- The batched prune equals its unbatched reference, at every cutoff and in
particular at those of a run. -/
theorem prune_correct (consistent : db.Consistent)
    (sound : db.SoundClusters) (cutoffs : PruneCutoffs) :
    ∃ summary after,
      atomically (pruneExpired cutoffs) db = (.ok summary, after) ∧
      (∀ now, resolveCutoffs db.settings now = .ok cutoffs →
        atomically (runOnce now) db = (.ok summary, after)) ∧
      db.PruneOutcome cutoffs summary after := by
  obtain ⟨summary, executed, told⟩ := consistent.pruneExpired_eq cutoffs
  refine ⟨summary, _, executed, ?_, told.outcome consistent sound⟩
  intro now resolved
  rw [runOnce_eq, resolved]
  exact executed

end Effect

theorem prune_correct_sample :
    sampleStore.Consistent ∧ sampleStore.SoundClusters ∧
      sampleStore.ItemExpired sampleTime.boundText 1 ∧
      ∃ summary after,
        atomically (pruneExpired ⟨sampleTime, sampleTime, sampleTime⟩)
            sampleStore = (.ok summary, after) ∧
          after.rawMessages = [] ∧
          BatchesAccountFor summary.itemBatchSizes summary.itemsDeleted 3
            after.items.length := by
  have sound : sampleStore.SoundClusters := by
    decide
  have expired : sampleStore.ItemExpired sampleTime.boundText 1 :=
    ⟨sampleItem 1 1 none, by decide, rfl, by decide⟩
  obtain ⟨summary, after, executed, -, outcome⟩ := prune_correct
    sampleStore_consistent sound ⟨sampleTime, sampleTime, sampleTime⟩
  exact ⟨sampleStore_consistent, sound, expired, summary, after, executed,
    outcome.rawMessages, outcome.itemBatches⟩

end Database

end Tca
