import Tca.ChannelPurge
import Tca.GuardedRuns
import Tca.ItemUpserts
import Tca.RetentionPrune
import Tca.RowTriggers

/-!
# The full-text index of items

The triggers of the migration keep the entries of `items_fts` in step with the
rows of `items`.  The file repeats the statements that write items on a store
with its index, where each touched row fires a trigger: upserts, deletions of
items, and the cascades and cleared references that deleting channels and raw
messages entails.  On the tables alone they are the statements modelled before.
-/

namespace Tca

open TableRows Transaction SortedSets RowTriggers

/-- An entry of `items_fts`. -/
structure FtsEntry where
  rowid : Int
  title : Option String
  body : Option String
  deriving DecidableEq

/-- Clearing a reference to other raw messages changes nothing. -/
theorem ItemRow.clearRawMessage_eq_self {row : ItemRow} {gone : Int → Bool}
    (other : row.rawMessageId.any gone = false) :
    row.clearRawMessage gone = row := by
  rw [ItemRow.clearRawMessage, clearReference_eq_self]
  intro id reference
  simpa [reference] using other

/-- The entry that the triggers write for an item. -/
def ItemRow.ftsEntry (row : ItemRow) : FtsEntry :=
  ⟨row.id, row.title, row.body⟩

/-- The tables together with the entries that the index holds. -/
@[ext]
structure IndexedDatabase where
  db : Database
  itemsFts : List FtsEntry

namespace IndexedDatabase

/-- `INSERT INTO items_fts(items_fts) VALUES ('rebuild')`, with which the
migration fills the index. -/
def rebuilt (db : Database) : IndexedDatabase :=
  ⟨db, db.items.map ItemRow.ftsEntry⟩

variable (store : IndexedDatabase)

/-- A statement that does not write items. -/
def onTables (write : Database → Database) : IndexedDatabase :=
  { store with db := write store.db }

/-- A statement that goes through the items, firing the triggers. -/
def onItems (effect : ItemRow → RowEffect ItemRow)
    (write : Database → Database) : IndexedDatabase :=
  { db := write store.db
    itemsFts :=
      fireTriggers ItemRow.ftsEntry effect store.db.items store.itemsFts }

/-- `DELETE FROM raw_messages`.  The foreign key sets the reference of an item
to one of the rows to null, which is an update of the item. -/
def deleteRawMessages (selected : RawMessageRow → Bool) : IndexedDatabase :=
  let removed := (store.db.rawMessages.filter selected).map (·.id)
  store.onItems
    (fun row =>
      if row.rawMessageId.any (fun id => id ∈ removed) then
        .replaced (row.clearRawMessage fun id => id ∈ removed)
      else .untouched)
    (·.deleteRawMessages selected)

/-- `DELETE FROM items`. -/
def deleteItems (selected : ItemRow → Bool) : IndexedDatabase :=
  store.onItems
    (fun row => if selected row then .deleted else .untouched)
    (·.deleteItems selected)

/-- `DELETE FROM telegram_channels`.  The cascades delete the raw messages and
the items of the channels, each of which fires what a direct deletion fires. -/
def deleteChannels (selected : ChannelRow → Bool) : IndexedDatabase :=
  let removed := (store.db.telegramChannels.filter selected).map (·.id)
  let emptied :=
    (store.deleteRawMessages fun row => row.channelId ∈ removed).deleteItems
      fun row => row.channelId ∈ removed
  { emptied with db := store.db.deleteChannels selected }

/-- The write of an upsert.  An update by the conflict clause fires the update
trigger. -/
def writeItem : ItemWrite → IndexedDatabase
  | .insert row =>
      { db := store.db.writeItem (.insert row)
        itemsFts := afterInsert ItemRow.ftsEntry store.itemsFts row }
  | .replace old row =>
      store.onItems
        (fun stored => if stored.id = old.id then .replaced row else .untouched)
        (·.writeItem (.replace old row))

/-- The batch loop over raw messages. -/
def deleteExpiredRawMessagesInBatches (cutoff : String)
    (store : IndexedDatabase) (deletedTotal : Nat) (batchSizes : List Nat) :
    (Nat × List Nat) × IndexedDatabase :=
  let rawMessageIds := store.db.expiredRawMessageIds cutoff
  if _exhausted : rawMessageIds = [] then ((deletedTotal, batchSizes), store)
  else
    let deletedCount := (store.db.rawMessagesWithIds rawMessageIds).length
    deleteExpiredRawMessagesInBatches cutoff
      (store.deleteRawMessages fun row => row.id ∈ rawMessageIds)
      (deletedTotal + deletedCount) (batchSizes ++ [deletedCount])
termination_by
  (store.db.rawMessages.filter (RawMessageRow.expired cutoff)).length
decreasing_by exact remaining_lt ‹_›

/-- The batch loop over items. -/
def deleteExpiredItemsInBatches (cutoff : String) (store : IndexedDatabase)
    (deletedTotal : Nat) (batchSizes : List Nat)
    (affectedClusterIds : List Int) :
    (Nat × List Nat × List Int) × IndexedDatabase :=
  let itemIds := store.db.expiredItemIds cutoff
  if _exhausted : itemIds = [] then
    ((deletedTotal, batchSizes, affectedClusterIds), store)
  else
    let deletedCount := (store.db.itemsWithIds itemIds).length
    deleteExpiredItemsInBatches cutoff
      (store.deleteItems fun row => row.id ∈ itemIds)
      (deletedTotal + deletedCount) (batchSizes ++ [deletedCount])
      (insertAllOrIgnore affectedClusterIds (store.db.clustersOfItems itemIds))
termination_by (store.db.items.filter (ItemRow.expired cutoff)).length
decreasing_by exact remaining_lt ‹_›

end IndexedDatabase

/-- A write transaction on the store with its index. -/
abbrev IndexedTransaction (Value : Type) : Type :=
  Transaction IndexedDatabase PyError Value

/-- A step of a session that does not write items. -/
def modifyTables {Value : Type} (change : Database → Value × Database) :
    IndexedTransaction Value :=
  modify fun store =>
    ((change store.db).1, store.onTables fun db => (change db).2)

/-- The write session of `run_once`. -/
def pruneExpiredIndexed (cutoffs : PruneCutoffs) :
    IndexedTransaction PruneJobRunSummary := do
  let (rawMessagesDeleted, rawMessageBatchSizes) ← modify fun store =>
    store.deleteExpiredRawMessagesInBatches cutoffs.rawMessages.boundText 0 []
  let (itemsDeleted, itemBatchSizes, affectedClusterIds) ←
    modify fun store =>
      store.deleteExpiredItemsInBatches cutoffs.items.boundText 0 [] []
  let recomputedClusterCount ← modifyTables fun db =>
    db.recomputeClusterRepresentatives affectedClusterIds
  let deletedEmptyClusterCount ← modifyTables fun db =>
    db.deleteEmptyClustersCounted affectedClusterIds
  let (orphanedMembersDeleted, orphanedDecisionsDeleted) ←
    modifyTables fun db => db.deleteOrphanedRows
  let ingestErrorsDeleted ← modifyTables fun db =>
    db.deleteExpiredIngestErrors cutoffs.ingestErrors.boundText
  commit
  return {
    executedSteps := ["delete_expired_raw_messages", "delete_expired_items",
      "recompute_cluster_representatives", "delete_empty_clusters",
      "delete_orphaned_rows", "delete_expired_ingest_errors"]
    rawMessagesDeleted, itemsDeleted, rawMessageBatchSizes, itemBatchSizes,
    recomputedClusterCount, deletedEmptyClusterCount, orphanedMembersDeleted,
    orphanedDecisionsDeleted, ingestErrorsDeleted
    affectedClusterIds := sortedSet affectedClusterIds }

/-- `run_once`. -/
def runOnceIndexed (now : PyDateTime) :
    IndexedTransaction PruneJobRunSummary := do
  let settings ← query fun store => store.db.settings
  match resolveCutoffs settings now with
  | .error problem => raise problem
  | .ok cutoffs => pruneExpiredIndexed cutoffs

/-- `purge_channel`. -/
def purgeChannelIndexed (channelId : Int) :
    IndexedTransaction (Option ChannelRow) := do
  require (IsSqlInteger channelId) integerOverflow
  let before ← query fun store => store.db
  match before.telegramChannels.find? fun row => row.id = channelId with
  | none => return none
  | some channel =>
      let clusterIds := before.channelClusters channelId
      update fun store =>
        store.deleteChannels fun row => row.id = channelId
      update fun store => store.onTables fun db =>
        if clusterIds.isEmpty then db else db.repairClusters clusterIds
      update fun store => store.onTables fun db =>
        db.addNotification (before.purgeNotification channelId channel)
      commit
      return some channel

/-- `upsert_item`. -/
def upsertItemIndexed (values : ItemValues) (now : String) :
    IndexedTransaction ItemRow := do
  require (∀ value ∈ [values.channelId, values.messageId] ++
    values.rawMessageId.toList, IsSqlInteger value) integerOverflow
  let db ← query fun store => store.db
  let write := db.upsertWrite values now
  match db.checkItem write.row with
  | .error problem => raise problem
  | .ok _ =>
      update fun store => store.writeItem write
      commit
      return write.row

section Erasure

variable (store : IndexedDatabase)

/-- On the tables, the loop over raw messages is the one modelled before. -/
theorem db_deleteExpiredRawMessagesInBatches (cutoff : String)
    (deletedTotal : Nat) (sizes : List Nat) :
    store.db.deleteExpiredRawMessagesInBatches cutoff deletedTotal sizes =
      ((store.deleteExpiredRawMessagesInBatches cutoff deletedTotal sizes).1,
        (store.deleteExpiredRawMessagesInBatches cutoff deletedTotal
          sizes).2.db) := by
  induction store, deletedTotal, sizes using
    IndexedDatabase.deleteExpiredRawMessagesInBatches.induct cutoff with
  | case1 store deletedTotal sizes ids exhausted =>
      rw [Database.deleteExpiredRawMessagesInBatches,
        IndexedDatabase.deleteExpiredRawMessagesInBatches, dif_pos exhausted,
        dif_pos exhausted]
  | case2 store deletedTotal sizes ids more count ih =>
      rw [Database.deleteExpiredRawMessagesInBatches,
        IndexedDatabase.deleteExpiredRawMessagesInBatches, dif_neg more,
        dif_neg more]
      exact ih

/-- So is the loop over items. -/
theorem db_deleteExpiredItemsInBatches (cutoff : String)
    (deletedTotal : Nat) (sizes : List Nat) (affected : List Int) :
    store.db.deleteExpiredItemsInBatches cutoff deletedTotal sizes affected =
      ((store.deleteExpiredItemsInBatches cutoff deletedTotal sizes
          affected).1,
        (store.deleteExpiredItemsInBatches cutoff deletedTotal sizes
          affected).2.db) := by
  induction store, deletedTotal, sizes, affected using
    IndexedDatabase.deleteExpiredItemsInBatches.induct cutoff with
  | case1 store deletedTotal sizes affected ids exhausted =>
      rw [Database.deleteExpiredItemsInBatches,
        IndexedDatabase.deleteExpiredItemsInBatches, dif_pos exhausted,
        dif_pos exhausted]
  | case2 store deletedTotal sizes affected ids more count ih =>
      rw [Database.deleteExpiredItemsInBatches,
        IndexedDatabase.deleteExpiredItemsInBatches, dif_neg more,
        dif_neg more]
      exact ih

theorem db_writeItem (write : ItemWrite) :
    (store.writeItem write).db = store.db.writeItem write := by
  cases write <;> rfl

variable {store}

theorem projects_modifyTables {Value : Type}
    (change : Database → Value × Database) :
    Projects IndexedDatabase.db (modifyTables change)
      (modify change : StorageTransaction Value) :=
  projects_modify fun _ => rfl

/-- On the tables, the sessions are the ones modelled before. -/
theorem projects_pruneExpired (cutoffs : PruneCutoffs) :
    Projects IndexedDatabase.db (pruneExpiredIndexed cutoffs)
      (pruneExpired cutoffs) := by
  unfold pruneExpiredIndexed pruneExpired
  refine Projects.bind (projects_modify fun store =>
    db_deleteExpiredRawMessagesInBatches store _ 0 []) fun rawMessages => ?_
  refine Projects.bind (projects_modify fun store =>
    db_deleteExpiredItemsInBatches store _ 0 [] []) fun items => ?_
  refine (projects_modifyTables _).bind fun recomputed => ?_
  refine (projects_modifyTables _).bind fun emptied => ?_
  refine (projects_modifyTables _).bind fun orphaned => ?_
  refine (projects_modifyTables _).bind fun ingestErrors => ?_
  exact projects_commit.bind fun _ => projects_pure _

theorem projects_runOnce (now : PyDateTime) :
    Projects IndexedDatabase.db (runOnceIndexed now) (runOnce now) := by
  unfold runOnceIndexed runOnce
  refine (projects_query fun db : Database => db.settings).bind
    fun settings => ?_
  cases resolveCutoffs settings now with
  | error problem => exact projects_raise problem
  | ok cutoffs => exact projects_pruneExpired cutoffs

theorem projects_purgeChannel (channelId : Int) :
    Projects IndexedDatabase.db (purgeChannelIndexed channelId)
      (purgeChannel channelId) := by
  unfold purgeChannelIndexed purgeChannel
  refine (projects_require _ _).bind fun _ => ?_
  refine (projects_query fun db : Database => db).bind fun before => ?_
  cases before.telegramChannels.find? fun row => row.id = channelId with
  | none => exact projects_pure none
  | some channel =>
      refine Projects.bind (projects_update fun _ => rfl) fun _ => ?_
      refine Projects.bind (projects_update fun _ => rfl) fun _ => ?_
      refine Projects.bind (projects_update fun _ => rfl) fun _ => ?_
      exact projects_commit.bind fun _ => projects_pure _

theorem projects_upsertItem (values : ItemValues) (now : String) :
    Projects IndexedDatabase.db (upsertItemIndexed values now)
      (upsertItem values now) := by
  unfold upsertItemIndexed upsertItem
  refine (projects_require _ _).bind fun _ => ?_
  refine (projects_query fun db : Database => db).bind fun db => ?_
  dsimp only
  cases db.checkItem (db.upsertWrite values now).row with
  | error problem => exact projects_raise problem
  | ok _ =>
      refine Projects.bind (projects_update fun store =>
        db_writeItem store _) fun _ => ?_
      exact projects_commit.bind fun _ => projects_pure _

end Erasure

namespace IndexedDatabase

/-- The index holds one entry for each item and no others, and item ids are
unique. -/
structure Mirrored (store : IndexedDatabase) : Prop where
  mirrors : Mirrors ItemRow.ftsEntry store.itemsFts store.db.items
  itemIdsNodup : store.db.itemIds.Nodup

theorem rebuilt_mirrored {db : Database} (nodup : db.itemIds.Nodup) :
    (rebuilt db).Mirrored :=
  ⟨List.Perm.refl _, nodup⟩

/-- No entry is in a mirroring index twice. -/
theorem Mirrored.itemsFts_nodup {store : IndexedDatabase}
    (mirrored : store.Mirrored) : store.itemsFts.Nodup := by
  rw [mirrored.mirrors.nodup_iff]
  refine List.Nodup.of_map FtsEntry.rowid ?_
  rw [List.map_map]
  exact mirrored.itemIdsNodup

section Statements

variable {store : IndexedDatabase} (mirrored : store.Mirrored)

include mirrored

theorem Mirrored.onTables {write : Database → Database}
    (sameItems : (write store.db).items = store.db.items) :
    (store.onTables write).Mirrored := by
  refine ⟨?_, ?_⟩
  · change Mirrors _ store.itemsFts (write store.db).items
    rw [sameItems]
    exact mirrored.mirrors
  · change ((write store.db).items.map (·.id)).Nodup
    rw [sameItems]
    exact mirrored.itemIdsNodup

theorem Mirrored.onItems {effect : ItemRow → RowEffect ItemRow}
    {write : Database → Database}
    (swept : (write store.db).items = sweep effect store.db.items)
    (nodup : (write store.db).itemIds.Nodup) :
    (store.onItems effect write).Mirrored := by
  refine ⟨?_, nodup⟩
  change Mirrors _ _ (write store.db).items
  rw [swept]
  exact mirrored.mirrors.fireTriggers effect

theorem Mirrored.deleteRawMessages (selected : RawMessageRow → Bool) :
    (store.deleteRawMessages selected).Mirrored := by
  refine mirrored.onItems (sweep_eq_map (fun row => ?_) _).symm ?_
  · split
    · rfl
    · rename_i unreferenced
      rw [RowEffect.rowAfter, ItemRow.clearRawMessage_eq_self]
      simpa using unreferenced
  · have sameIds : (store.db.deleteRawMessages selected).itemIds =
        store.db.itemIds := by
      simp [Database.itemIds, Database.deleteRawMessages,
        ItemRow.clearRawMessage, Function.comp_def]
    rw [sameIds]
    exact mirrored.itemIdsNodup

theorem Mirrored.deleteItems (selected : ItemRow → Bool) :
    (store.deleteItems selected).Mirrored := by
  refine mirrored.onItems (sweep_eq_filter (fun row => ?_) _).symm
    (nodup_map_filter mirrored.itemIdsNodup _)
  split <;> rfl

theorem Mirrored.deleteChannels (selected : ChannelRow → Bool) :
    (store.deleteChannels selected).Mirrored := by
  have emptied := (mirrored.deleteRawMessages fun row =>
    row.channelId ∈ (store.db.telegramChannels.filter selected).map
      (·.id)).deleteItems fun row =>
        row.channelId ∈ (store.db.telegramChannels.filter selected).map (·.id)
  exact ⟨emptied.mirrors, emptied.itemIdsNodup⟩

theorem Mirrored.writeItem {values : ItemValues} {now : String} :
    (store.writeItem (store.db.upsertWrite values now)).Mirrored := by
  have nodup := @Database.itemIds_writeItem_nodup store.db values now
    mirrored.itemIdsNodup
  generalize store.db.upsertWrite values now = write at nodup ⊢
  cases write with
  | insert row => exact ⟨mirrored.mirrors.afterInsert row, nodup⟩
  | replace old row =>
      refine @Mirrored.onItems store mirrored _
        (·.writeItem (.replace old row))
        (sweep_eq_map (fun stored => ?_) _).symm nodup
      split <;> rfl

end Statements

section Loops

variable {store : IndexedDatabase} {cutoff : String}

theorem Mirrored.deleteExpiredRawMessagesInBatches (mirrored : store.Mirrored)
    (deletedTotal : Nat) (sizes : List Nat) :
    (store.deleteExpiredRawMessagesInBatches cutoff deletedTotal
      sizes).2.Mirrored := by
  induction store, deletedTotal, sizes using
    IndexedDatabase.deleteExpiredRawMessagesInBatches.induct cutoff with
  | case1 store deletedTotal sizes ids exhausted =>
      rw [IndexedDatabase.deleteExpiredRawMessagesInBatches, dif_pos exhausted]
      exact mirrored
  | case2 store deletedTotal sizes ids more count ih =>
      rw [IndexedDatabase.deleteExpiredRawMessagesInBatches, dif_neg more]
      exact ih (mirrored.deleteRawMessages _)

theorem Mirrored.deleteExpiredItemsInBatches (mirrored : store.Mirrored)
    (deletedTotal : Nat) (sizes : List Nat) (affected : List Int) :
    (store.deleteExpiredItemsInBatches cutoff deletedTotal sizes
      affected).2.Mirrored := by
  induction store, deletedTotal, sizes, affected using
    IndexedDatabase.deleteExpiredItemsInBatches.induct cutoff with
  | case1 store deletedTotal sizes affected ids exhausted =>
      rw [IndexedDatabase.deleteExpiredItemsInBatches, dif_pos exhausted]
      exact mirrored
  | case2 store deletedTotal sizes affected ids more count ih =>
      rw [IndexedDatabase.deleteExpiredItemsInBatches, dif_neg more]
      exact ih (mirrored.deleteItems _)

end Loops

end IndexedDatabase

section Sessions

open IndexedDatabase

theorem keeps_modifyTables {Value : Type}
    {change : Database → Value × Database}
    (sameItems : ∀ db, (change db).2.items = db.items) :
    Keeps Mirrored (modifyTables change) := by
  refine keeps_modify fun store mirrored => ?_
  exact @Mirrored.onTables store mirrored (fun db => (change db).2)
    (sameItems store.db)

theorem keeps_pruneExpired (cutoffs : PruneCutoffs) :
    Keeps Mirrored (pruneExpiredIndexed cutoffs) := by
  refine Keeps.bind (keeps_modify fun _ mirrored =>
    mirrored.deleteExpiredRawMessagesInBatches 0 []) fun rawMessages => ?_
  refine Keeps.bind (keeps_modify fun _ mirrored =>
    mirrored.deleteExpiredItemsInBatches 0 [] []) fun items => ?_
  refine Keeps.bind (keeps_modifyTables fun db => ?_) fun recomputed => ?_
  · unfold Database.recomputeClusterRepresentatives
    split <;> rfl
  refine Keeps.bind (keeps_modifyTables fun db => ?_) fun emptied => ?_
  · unfold Database.deleteEmptyClustersCounted
    split <;> rfl
  refine Keeps.bind (keeps_modifyTables fun _ => rfl) fun orphaned => ?_
  refine Keeps.bind (keeps_modifyTables fun _ => rfl) fun ingestErrors => ?_
  exact keeps_commit.bind fun _ => keeps_pure _

theorem keeps_runOnce (now : PyDateTime) :
    Keeps Mirrored (runOnceIndexed now) := by
  refine (keeps_query _).bind fun settings => ?_
  cases resolveCutoffs settings now with
  | error problem => exact keeps_raise problem
  | ok cutoffs => exact keeps_pruneExpired cutoffs

theorem keeps_purgeChannel (channelId : Int) :
    Keeps Mirrored (purgeChannelIndexed channelId) := by
  refine (keeps_require _ _).bind fun _ => ?_
  refine (keeps_query _).bind fun before => ?_
  cases before.telegramChannels.find? fun row => row.id = channelId with
  | none => exact keeps_pure none
  | some channel =>
      refine Keeps.bind (keeps_update fun _ mirrored =>
        mirrored.deleteChannels _) fun _ => ?_
      refine Keeps.bind (keeps_update fun _ mirrored =>
        mirrored.onTables ?_) fun _ => ?_
      · split <;> rfl
      refine Keeps.bind (keeps_update fun _ mirrored =>
        mirrored.onTables rfl) fun _ => ?_
      exact keeps_commit.bind fun _ => keeps_pure _

theorem keeps_upsertItem (values : ItemValues) (now : String) :
    Keeps Mirrored (upsertItemIndexed values now) := by
  intro session committed current
  simp only [upsertItemIndexed, run_require_bind, run_query_bind]
  split
  · cases session.current.db.checkItem
        (session.current.db.upsertWrite values now).row with
    | error problem => exact ⟨committed, current⟩
    | ok _ =>
        have written := @Mirrored.writeItem _ current values now
        exact ⟨written, written⟩
  · exact ⟨committed, current⟩

end Sessions

section Runs

/-- The operations that write items.  A deletion of raw messages is a bare
statement, for whatever rows it selects. -/
inductive ItemOperation where
  | upsertItem (values : ItemValues) (now : String)
  | runOnce (now : PyDateTime)
  | purgeChannel (channelId : Int)
  | deleteRawMessages (selected : RawMessageRow → Bool)

/-- The store after an operation, be it completed or rolled back. -/
def ItemOperation.apply : ItemOperation → IndexedDatabase → IndexedDatabase
  | .upsertItem values now, store =>
      (atomically (upsertItemIndexed values now) store).2
  | .runOnce now, store => (atomically (runOnceIndexed now) store).2
  | .purgeChannel channelId, store =>
      (atomically (purgeChannelIndexed channelId) store).2
  | .deleteRawMessages selected, store => store.deleteRawMessages selected

/-- The effect of an operation on the tables alone. -/
def ItemOperation.applyTables : ItemOperation → Database → Database
  | .upsertItem values now, db => (atomically (Tca.upsertItem values now) db).2
  | .runOnce now, db => (atomically (Tca.runOnce now) db).2
  | .purgeChannel channelId, db => (atomically (Tca.purgeChannel channelId) db).2
  | .deleteRawMessages selected, db => db.deleteRawMessages selected

theorem ItemOperation.db_apply (operation : ItemOperation)
    (store : IndexedDatabase) :
    (operation.apply store).db = operation.applyTables store.db := by
  cases operation with
  | upsertItem values now =>
      exact (congrArg Prod.snd
        ((projects_upsertItem values now).atomically store)).symm
  | runOnce now =>
      exact (congrArg Prod.snd ((projects_runOnce now).atomically store)).symm
  | purgeChannel channelId =>
      exact (congrArg Prod.snd
        ((projects_purgeChannel channelId).atomically store)).symm
  | deleteRawMessages selected => rfl

theorem ItemOperation.mirrored_apply (operation : ItemOperation)
    (store : IndexedDatabase) (mirrored : store.Mirrored) :
    (operation.apply store).Mirrored := by
  cases operation with
  | upsertItem values now => exact (keeps_upsertItem values now).atomically mirrored
  | runOnce now => exact (keeps_runOnce now).atomically mirrored
  | purgeChannel channelId =>
      exact (keeps_purgeChannel channelId).atomically mirrored
  | deleteRawMessages selected => exact mirrored.deleteRawMessages selected

/-- The index mirrors the items.  Along any run of operations it holds the
entries of the stored items, each once, and the tables are what the operations
make of them. -/
theorem full_text_index_mirrors {store : IndexedDatabase}
    (initially : Mirrors ItemRow.ftsEntry store.itemsFts store.db.items)
    (uniqueIds : store.db.itemIds.Nodup) (operations : List ItemOperation) :
    let after := GuardedRuns.run ItemOperation.apply operations store
    (∀ entry, entry ∈ after.itemsFts ↔
        ∃ row ∈ after.db.items, entry = ⟨row.id, row.title, row.body⟩) ∧
      after.itemsFts.Nodup ∧ after.itemsFts.length = after.db.items.length ∧
      after.db =
        GuardedRuns.run ItemOperation.applyTables operations store.db := by
  intro after
  have mirrored : after.Mirrored :=
    GuardedRuns.always_of_preserved ItemOperation.apply
      ItemOperation.mirrored_apply operations ⟨initially, uniqueIds⟩ operations
      List.prefix_rfl
  refine ⟨fun entry => ?_, mirrored.itemsFts_nodup, ?_, ?_⟩
  · rw [mirrored.mirrors.mem_iff, List.mem_map]
    simp only [ItemRow.ftsEntry, eq_comm]
  · rw [mirrored.mirrors.length_eq, List.length_map]
  · clear initially uniqueIds mirrored
    induction operations generalizing store with
    | nil => rfl
    | cons operation operations ih =>
        rw [GuardedRuns.run_cons, ← ItemOperation.db_apply]
        exact ih

/-- The values of a message of the first channel. -/
def sampleValues (title body : Option String) : ItemValues :=
  ⟨1, 7, none, none, title, body, none, none, none⟩

/-- A message is stored twice, the second time with another body, and the
second channel is purged. -/
def sampleItemOperations : List ItemOperation :=
  [.upsertItem (sampleValues (some "new") none) "2024-01-01 00:00:00",
    .upsertItem (sampleValues (some "new") (some "text")) "2024-01-01 00:00:01",
    .deleteRawMessages fun _ => true, .purgeChannel 2]

theorem full_text_index_sample :
    (∀ entry, entry ∈ (GuardedRuns.run ItemOperation.apply sampleItemOperations
        (IndexedDatabase.rebuilt Database.sampleStore)).itemsFts ↔
      ∃ row ∈ (GuardedRuns.run ItemOperation.apply sampleItemOperations
        (IndexedDatabase.rebuilt Database.sampleStore)).db.items,
        entry = ⟨row.id, row.title, row.body⟩) ∧
      (GuardedRuns.run ItemOperation.apply sampleItemOperations
        (IndexedDatabase.rebuilt Database.sampleStore)).itemsFts =
        [⟨4, some "new", some "text"⟩, ⟨1, some "title", none⟩] :=
  ⟨(@full_text_index_mirrors (IndexedDatabase.rebuilt Database.sampleStore)
    (IndexedDatabase.rebuilt_mirrored
      Database.sampleStore_consistent.itemIdsNodup).mirrors
    Database.sampleStore_consistent.itemIdsNodup sampleItemOperations).1,
    by decide⟩

end Runs

end Tca
