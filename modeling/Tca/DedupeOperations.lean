import Tca.DedupeClusterAssignment
import Tca.DedupeClusterMerge
import Tca.ChannelPurge
import Tca.RetentionRuns
import Tca.GuardedRuns
import Tca.ThreadQuery

/-!
# Runs of the dedupe operations

Assignments, merges, purges and prune runs are executed in any order, with
rows inserted in between.  Every operation keeps the store consistent and
every cluster represented by one of its members.  With that the timeline lists
every cluster in every state of a run.
-/

namespace Tca

open TableRows Transaction RowRanking GuardedRuns

namespace Database

section Insertions

/-- The store with one more item, under a new id. -/
def addItem (row : ItemRow) (db : Database) : Database :=
  { db with items := db.items ++ [{ row with id := nextRowid db.itemIds }] }

/-- The store with one more channel, under a new id. -/
def addChannel (row : ChannelRow) (db : Database) : Database :=
  { db with
    telegramChannels := db.telegramChannels ++
      [{ row with id := nextRowid db.channelIds }] }

/-- The store with one more raw message, under a new id. -/
def addRawMessage (row : RawMessageRow) (db : Database) : Database :=
  { db with
    rawMessages := db.rawMessages ++
      [{ row with id := nextRowid db.rawMessageIds }] }

/-- Insert an item of a new message.  The upsert of a known message, which
edits the stored item, is not among the operations. -/
def insertItem (row : ItemRow) (db : Database) : Database :=
  if row.channelId ∈ db.channelIds ∧
      ResolvesIn db.rawMessageIds row.rawMessageId ∧
      (∀ other ∈ db.items, ¬ (other.channelId = row.channelId ∧
        other.messageId = row.messageId)) ∧
      (row.rawMessageId = none ∨
        ∀ other ∈ db.items, other.rawMessageId ≠ row.rawMessageId) ∧
      IsSqlInteger (nextRowid db.itemIds) then
    db.addItem row
  else db

/-- Insert a channel that is not registered yet. -/
def insertChannel (row : ChannelRow) (db : Database) : Database :=
  if (∀ other ∈ db.telegramChannels,
      other.telegramChannelId ≠ row.telegramChannelId) ∧
      IsSqlInteger (nextRowid db.channelIds) then
    db.addChannel row
  else db

/-- Insert the raw message of a new message. -/
def insertRawMessage (row : RawMessageRow) (db : Database) : Database :=
  if row.channelId ∈ db.channelIds ∧
      ∀ other ∈ db.rawMessages, ¬ (other.channelId = row.channelId ∧
        other.messageId = row.messageId) then
    db.addRawMessage row
  else db

end Insertions

end Database

/-- The operations on the dedupe state, and the insertions and settings
changes between them. -/
inductive DedupeOperation where
  | assign (itemId : Int) (matchedClusterId : Option Int)
      (clusterKey : String)
  | merge (matchedClusterIds : List PyValue)
  | purge (channelId : Int)
  | prune (now : PyDateTime)
  | insertItem (row : ItemRow)
  | insertChannel (row : ChannelRow)
  | insertRawMessage (row : RawMessageRow)
  | saveSettings (settings : List SettingRow)

/-- The operation is a call of `assign_item_to_cluster`. -/
def DedupeOperation.isAssign : DedupeOperation → Bool
  | .assign _ _ _ => true
  | _ => false

/-- Execute one operation, whatever its result. -/
def DedupeOperation.execute : DedupeOperation → Database → Database
  | .assign itemId matchedClusterId clusterKey, db =>
      (atomically (assignItemToCluster itemId matchedClusterId clusterKey)
        db).2
  | .merge matchedClusterIds, db => db.mergeStore matchedClusterIds
  | .purge channelId, db => db.purgeStore channelId
  | .prune now, db => db.pruneStore now
  | .insertItem row, db => db.insertItem row
  | .insertChannel row, db => db.insertChannel row
  | .insertRawMessage row, db => db.insertRawMessage row
  | .saveSettings settings, db => { db with settings }

namespace Database

variable {db : Database}

section Insertions

@[simp]
theorem itemIds_addItem (row : ItemRow) :
    (db.addItem row).itemIds = db.itemIds ++ [nextRowid db.itemIds] := by
  simp [itemIds, addItem]

@[simp]
theorem channelIds_addChannel (row : ChannelRow) :
    (db.addChannel row).channelIds =
      db.channelIds ++ [nextRowid db.channelIds] := by
  simp [channelIds, addChannel]

@[simp]
theorem rawMessageIds_addRawMessage (row : RawMessageRow) :
    (db.addRawMessage row).rawMessageIds =
      db.rawMessageIds ++ [nextRowid db.rawMessageIds] := by
  simp [rawMessageIds, addRawMessage]

theorem Consistent.addItem (consistent : db.Consistent) {row : ItemRow}
    (channelStored : row.channelId ∈ db.channelIds)
    (rawMessageStored : ResolvesIn db.rawMessageIds row.rawMessageId)
    (idFree : IsSqlInteger (nextRowid db.itemIds)) :
    (db.addItem row).Consistent := by
  have idKept : ∀ id ∈ db.itemIds, id ∈ (db.addItem row).itemIds := by
    intro id stored
    rw [itemIds_addItem]
    exact List.mem_append_left _ stored
  refine
    { consistent with
      itemIdsNodup := by
        rw [itemIds_addItem]
        exact nodup_append_fresh consistent.itemIdsNodup
          (nextRowid_notMem db.itemIds)
      itemChannels := ?_
      itemRawMessages := ?_
      representatives := fun cluster stored id reference =>
        idKept id (consistent.representatives cluster stored id reference)
      memberItems := fun member stored =>
        idKept _ (consistent.memberItems member stored)
      decisionItems := fun decision stored =>
        idKept _ (consistent.decisionItems decision stored)
      decisionCandidates := fun decision stored id reference =>
        idKept id (consistent.decisionCandidates decision stored id reference)
      itemIdsSql := ?_ }
  · exact forall_mem_append_row consistent.itemChannels channelStored
  · exact forall_mem_append_row consistent.itemRawMessages rawMessageStored
  · rw [itemIds_addItem]
    exact forall_mem_append_row consistent.itemIdsSql idFree

theorem Consistent.addChannel (consistent : db.Consistent) (row : ChannelRow)
    (idFree : IsSqlInteger (nextRowid db.channelIds)) :
    (db.addChannel row).Consistent := by
  have idKept : ∀ id ∈ db.channelIds,
      id ∈ (db.addChannel row).channelIds := by
    intro id stored
    rw [channelIds_addChannel]
    exact List.mem_append_left _ stored
  refine
    { consistent with
      channelIdsNodup := by
        rw [channelIds_addChannel]
        exact nodup_append_fresh consistent.channelIdsNodup
          (nextRowid_notMem db.channelIds)
      channelStates := fun state stored =>
        idKept _ (consistent.channelStates state stored)
      channelGroupMembers := fun member stored =>
        idKept _ (consistent.channelGroupMembers member stored)
      pollJobs := fun job stored =>
        idKept _ (consistent.pollJobs job stored)
      rawMessages := fun message stored =>
        idKept _ (consistent.rawMessages message stored)
      itemChannels := fun item stored =>
        idKept _ (consistent.itemChannels item stored)
      ingestErrors := fun problem stored id reference =>
        idKept id (consistent.ingestErrors problem stored id reference)
      channelIdsSql := ?_ }
  rw [channelIds_addChannel]
  exact forall_mem_append_row consistent.channelIdsSql idFree

theorem Consistent.addRawMessage (consistent : db.Consistent)
    {row : RawMessageRow} (channelStored : row.channelId ∈ db.channelIds) :
    (db.addRawMessage row).Consistent := by
  refine
    { consistent with
      rawMessageIdsNodup := by
        rw [rawMessageIds_addRawMessage]
        exact nodup_append_fresh consistent.rawMessageIdsNodup
          (nextRowid_notMem db.rawMessageIds)
      rawMessages := ?_
      itemRawMessages := ?_ }
  · exact forall_mem_append_row consistent.rawMessages channelStored
  · intro item stored id reference
    rw [rawMessageIds_addRawMessage]
    exact List.mem_append_left _
      (consistent.itemRawMessages item stored id reference)

end Insertions

section Removals

/-- What both deletion paths do: some items go, their clusters are repaired,
and every item and channel that remains was there before. -/
structure RemovesItems (before : Database) (gone : Int → Prop)
    (after : Database) : Prop where
  repaired : before.ClustersRepaired gone after
  items : ∀ row ∈ after.items, ∃ original ∈ before.items,
    original.id = row.id ∧ original.rankKey = row.rankKey
  channels : ∀ id ∈ after.channelIds, id ∈ before.channelIds

theorem RemovesItems.refl (db : Database) :
    db.RemovesItems (fun _ => False) db where
  repaired :=
    { members := by simp
      unaffected := fun row stored _ => stored
      emptied := by simp [LosesMember]
      repaired := by simp [LosesMember]
      keptRows := fun row stored => ⟨row, stored, rfl, rfl⟩ }
  items := fun row stored => ⟨row, stored, rfl, rfl⟩
  channels := fun _ stored => stored

/-- Items that remain after a removal, with or without their reference to a
raw message. -/
private theorem mem_items_deleteRawMessages_removeItems
    {chosen : RawMessageRow → Bool} {selected : ItemRow → Bool}
    {row : ItemRow}
    (remains : row ∈ ((db.deleteRawMessages chosen).removeItems
      selected).items) :
    ∃ original ∈ db.items, original.id = row.id ∧
      original.rankKey = row.rankKey := by
  rw [removeItems_items] at remains
  obtain ⟨original, stored, rfl⟩ :=
    List.mem_map.mp (List.mem_filter.mp remains).1
  exact ⟨original, stored, rfl, rfl⟩

theorem Consistent.purgeStore_removesItems (consistent : db.Consistent)
    (sound : db.SoundClusters) (channelId : Int) :
    ∃ gone, db.RemovesItems gone (db.purgeStore channelId) := by
  by_cases stored : channelId ∈ db.channelIds
  · obtain ⟨channel, -, -, executed⟩ :=
      consistent.purgeChannel_existing stored
    rw [Database.purgeStore, executed]
    refine ⟨db.FromChannel channelId, ?_, fun row remains => ?_,
      fun id remains => ?_⟩
    · exact (purgeTables_repaired consistent sound).congr rfl rfl rfl rfl rfl
    · exact mem_items_deleteRawMessages_removeItems remains
    · exact mem_of_mem_map_filter remains
  · rw [Database.purgeStore, purgeChannel_missing stored]
    exact ⟨_, RemovesItems.refl db⟩

theorem Consistent.pruneStore_removesItems (consistent : db.Consistent)
    (sound : db.SoundClusters) (now : PyDateTime) :
    ∃ gone, db.RemovesItems gone (db.pruneStore now) := by
  cases resolved : resolveCutoffs db.settings now with
  | error problem =>
      rw [pruneStore_of_error resolved]
      exact ⟨_, RemovesItems.refl db⟩
  | ok cutoffs =>
      rw [consistent.pruneStore_of_ok resolved]
      refine ⟨_, pruneTables_repaired consistent sound cutoffs,
        fun row remains => ?_, fun _ stored => stored⟩
      exact mem_items_deleteRawMessages_removeItems remains

end Removals

section Effects

/-- The assignment adds a membership: to an existing cluster that does not
have the item, or to a new cluster. -/
def AddsMember (db : Database) (itemId : Int) :
    Option Int → String → Prop
  | none, clusterKey =>
      clusterKey ∉ db.dedupeClusters.map (·.clusterKey) ∧
        IsSqlInteger (nextRowid db.clusterIds) ∧ itemId ∈ db.itemIds
  | some clusterId, _ =>
      clusterId ∈ db.clusterIds ∧ itemId ∈ db.itemIds ∧
        ¬ db.Member clusterId itemId

instance (itemId : Int) :
    ∀ matchedClusterId clusterKey,
      Decidable (db.AddsMember itemId matchedClusterId clusterKey)
  | none, _ => inferInstanceAs (Decidable (_ ∧ _ ∧ _))
  | some _, _ => inferInstanceAs (Decidable (_ ∧ _ ∧ _))

/-- Everything an operation can do to the dedupe state. -/
inductive Effect (db : Database) : DedupeOperation → Database → Prop
  | assigned {itemId clusterId : Int} {clusterKey : String}
      (adds : db.AddsMember itemId (some clusterId) clusterKey) :
      Effect db (.assign itemId (some clusterId) clusterKey)
        (db.addMember clusterId itemId)
  | created {itemId : Int} {clusterKey : String}
      (adds : db.AddsMember itemId none clusterKey) :
      Effect db (.assign itemId none clusterKey)
        ((db.addCluster clusterKey itemId).addMember
          (nextRowid db.clusterIds) itemId)
  | notAssigned {itemId : Int} {matchedClusterId : Option Int}
      {clusterKey : String}
      (refused : ¬ db.AddsMember itemId matchedClusterId clusterKey) :
      Effect db (.assign itemId matchedClusterId clusterKey) db
  | merged {operation : DedupeOperation} {after : Database}
      {listed : List Int} {target : Int} {result : ClusterMergeResult}
      (other : operation.isAssign = false)
      (merged : db.MergedInto listed target result after)
      (targetListed : target ∈ listed)
      (sameChannels : after.telegramChannels = db.telegramChannels) :
      Effect db operation after
  | removed {operation : DedupeOperation} {after : Database}
      {gone : Int → Prop} (other : operation.isAssign = false)
      (removes : db.RemovesItems gone after) : Effect db operation after
  | itemAdded {operation : DedupeOperation} {row : ItemRow}
      (other : operation.isAssign = false) :
      Effect db operation (db.addItem row)
  | elsewhere {operation : DedupeOperation} {after : Database}
      (other : operation.isAssign = false)
      (sameItems : after.items = db.items)
      (sameClusters : after.dedupeClusters = db.dedupeClusters)
      (sameMembers : after.dedupeMembers = db.dedupeMembers)
      (channels : ∀ id ∈ after.channelIds, id ∈ db.channelIds ∨
        id = nextRowid db.channelIds) :
      Effect db operation after

/-- Nothing happened to the store. -/
private theorem Effect.idle {operation : DedupeOperation}
    (other : operation.isAssign = false) : db.Effect operation db :=
  .elsewhere other rfl rfl rfl fun _ stored => Or.inl stored

theorem Consistent.effect_assign (consistent : db.Consistent) (itemId : Int)
    (matchedClusterId : Option Int) (clusterKey : String) :
    db.Effect (.assign itemId matchedClusterId clusterKey)
      ((DedupeOperation.assign itemId matchedClusterId clusterKey).execute
        db) := by
  cases matchedClusterId with
  | none =>
      rw [DedupeOperation.execute, assign_unmatched consistent]
      split
      · rename_i adds
        exact .created adds
      · rename_i refused
        exact .notAssigned refused
  | some clusterId =>
      rw [DedupeOperation.execute, assign_matched consistent]
      split
      · rename_i adds
        exact .assigned adds
      · rename_i refused
        exact .notAssigned refused

theorem Consistent.effect_merge (consistent : db.Consistent)
    (matchedClusterIds : List PyValue) :
    db.Effect (.merge matchedClusterIds) (db.mergeStore matchedClusterIds) := by
  rcases consistent.mergeStore_cases matchedClusterIds with
    ⟨unchanged, -⟩ |
    ⟨listed, target, sources, itemId, accepts, isSource, ranked, executed⟩
  · rw [unchanged]
    exact .idle rfl
  · rw [executed]
    exact .merged rfl (consistent.mergedInto accepts.targetStored
      accepts.targetListed isSource ranked) accepts.targetListed rfl

/-- An operation on a consistent store with sound clusters has one of the
effects. -/
theorem Consistent.effect (consistent : db.Consistent)
    (sound : db.SoundClusters) (operation : DedupeOperation) :
    db.Effect operation (operation.execute db) := by
  cases operation with
  | assign itemId matchedClusterId clusterKey =>
      exact consistent.effect_assign itemId matchedClusterId clusterKey
  | merge matchedClusterIds => exact consistent.effect_merge matchedClusterIds
  | purge channelId =>
      obtain ⟨gone, removes⟩ :=
        consistent.purgeStore_removesItems sound channelId
      exact .removed rfl removes
  | prune now =>
      obtain ⟨gone, removes⟩ := consistent.pruneStore_removesItems sound now
      exact .removed rfl removes
  | insertItem row =>
      rw [DedupeOperation.execute, insertItem]
      split
      · exact .itemAdded rfl
      · exact .idle rfl
  | insertChannel row =>
      rw [DedupeOperation.execute, insertChannel]
      split
      · refine .elsewhere rfl rfl rfl rfl fun id stored => ?_
        simpa using stored
      · exact .idle rfl
  | insertRawMessage row =>
      rw [DedupeOperation.execute, insertRawMessage]
      split
      · exact .elsewhere rfl rfl rfl rfl fun _ stored => Or.inl stored
      · exact .idle rfl
  | saveSettings settings =>
      exact .elsewhere rfl rfl rfl rfl fun _ stored => Or.inl stored

/-- Every operation keeps the store consistent. -/
theorem Consistent.execute (consistent : db.Consistent)
    (operation : DedupeOperation) : (operation.execute db).Consistent := by
  cases operation with
  | assign itemId matchedClusterId clusterKey =>
      cases matchedClusterId with
      | none =>
          rw [DedupeOperation.execute, assign_unmatched consistent]
          split
          · rename_i adds
            obtain ⟨keyFree, idFree, itemStored⟩ := adds
            refine (consistent.addCluster keyFree idFree itemStored).addMember
              (by simp) itemStored (consistent.not_member_nextRowid itemId)
          · exact consistent
      | some clusterId =>
          rw [DedupeOperation.execute, assign_matched consistent]
          split
          · rename_i adds
            exact consistent.addMember adds.1 adds.2.1 adds.2.2
          · exact consistent
  | merge matchedClusterIds =>
      exact consistent.mergeStore matchedClusterIds
  | purge channelId => exact consistent.purgeStore channelId
  | prune now => exact consistent.pruneStore now
  | insertItem row =>
      rw [DedupeOperation.execute, insertItem]
      split
      · rename_i allowed
        exact consistent.addItem allowed.1 allowed.2.1 allowed.2.2.2.2
      · exact consistent
  | insertChannel row =>
      rw [DedupeOperation.execute, insertChannel]
      split
      · rename_i allowed
        exact consistent.addChannel row allowed.2
      · exact consistent
  | insertRawMessage row =>
      rw [DedupeOperation.execute, insertRawMessage]
      split
      · rename_i allowed
        exact consistent.addRawMessage allowed.1
      · exact consistent
  | saveSettings settings => exact { consistent with }

end Effects

section Invariants

variable {after : Database}

/-- The rows after a merge: the target under its new representative, and the
unlisted ones. -/
theorem MergedInto.cluster_cases {listed : List Int} {target : Int}
    {result : ClusterMergeResult}
    (merged : db.MergedInto listed target result after) {row : ClusterRow}
    (stored : row ∈ after.dedupeClusters) :
    (row.id ∉ listed ∧ row ∈ db.dedupeClusters) ∨
      row.id = target ∧ target ∈ db.clusterIds ∧
        ∃ best, row.representativeItemId = some best ∧
          after.Preferred (after.Member target) best := by
  by_cases inList : row.id ∈ listed
  · right
    have isTarget : row.id = target := by
      by_contra different
      exact merged.sourcesGone row.id inList different
        (List.mem_map_of_mem stored)
    obtain ⟨original, originalStored, sameId, best, preferred, changed⟩ :=
      merged.targetCluster
    obtain rfl := eq_of_key_eq merged.clusterIdsNodup changed stored
      (sameId.trans isTarget.symm)
    exact ⟨isTarget, sameId ▸ List.mem_map_of_mem originalStored, best, rfl,
      preferred⟩
  · exact Or.inl ⟨inList, (merged.unlistedKept row inList).mp stored⟩

theorem MergedInto.soundClusters {listed : List Int} {target : Int}
    {result : ClusterMergeResult}
    (merged : db.MergedInto listed target result after)
    (sound : db.SoundClusters) : after.SoundClusters := by
  intro row stored
  rcases merged.cluster_cases stored with
    ⟨unlisted, before⟩ | ⟨isTarget, -, best, represented, preferred⟩
  · obtain ⟨itemId, represented, member⟩ := sound row before
    exact ⟨itemId, represented,
      (merged.members row.id itemId).mpr (Or.inr ⟨unlisted, member⟩)⟩
  · obtain ⟨-, -, -, member, -⟩ := preferred
    exact ⟨best, represented, isTarget ▸ member⟩

theorem SoundClusters.congr {other : Database} (sound : db.SoundClusters)
    (sameClusters : other.dedupeClusters = db.dedupeClusters)
    (membersKept : ∀ clusterId itemId, db.Member clusterId itemId →
      other.Member clusterId itemId) : other.SoundClusters := by
  intro row stored
  rw [sameClusters] at stored
  obtain ⟨itemId, represented, member⟩ := sound row stored
  exact ⟨itemId, represented, membersKept row.id itemId member⟩

theorem SoundClusters.effect (sound : db.SoundClusters)
    {operation : DedupeOperation} (effect : db.Effect operation after)
    (nodup : after.clusterIds.Nodup) : after.SoundClusters := by
  cases effect with
  | assigned adds =>
      exact sound.congr rfl fun _ _ member =>
        member_addMember.mpr (Or.inl member)
  | @created itemId clusterKey adds =>
      intro row stored
      rcases List.mem_append.mp stored with before | added
      · obtain ⟨representative, represented, member⟩ := sound row before
        exact ⟨representative, represented,
          member_addMember.mpr (Or.inl member)⟩
      · obtain rfl := List.mem_singleton.mp added
        exact ⟨itemId, rfl, member_addMember.mpr (Or.inr ⟨rfl, rfl⟩)⟩
  | notAssigned refused => exact sound
  | merged other merged targetListed sameChannels =>
      exact merged.soundClusters sound
  | removed other removes => exact removes.repaired.soundClusters sound nodup
  | itemAdded other => exact sound.congr rfl fun _ _ member => member
  | elsewhere other sameItems sameClusters sameMembers channels =>
      apply sound.congr sameClusters
      intro _ _ member
      rw [Member, sameMembers]
      exact member

/-- Every operation leaves every cluster represented by one of its
members. -/
theorem SoundClusters.execute (sound : db.SoundClusters)
    (consistent : db.Consistent) (operation : DedupeOperation) :
    (operation.execute db).SoundClusters :=
  sound.effect (consistent.effect sound operation)
    (consistent.execute operation).clusterIdsNodup

/-- What holds in every state of a run: the store is consistent and every
cluster is represented by one of its members. -/
structure DedupeInvariant (db : Database) : Prop where
  consistent : db.Consistent
  sound : db.SoundClusters

theorem DedupeInvariant.execute (invariant : db.DedupeInvariant)
    (operation : DedupeOperation) :
    (operation.execute db).DedupeInvariant :=
  ⟨invariant.consistent.execute operation,
    invariant.sound.execute invariant.consistent operation⟩

theorem DedupeInvariant.effect (invariant : db.DedupeInvariant)
    (operation : DedupeOperation) :
    db.Effect operation (operation.execute db) :=
  invariant.consistent.effect invariant.sound operation

/-- Every operation keeps the ids positive. -/
theorem PositiveIds.effect (positive : db.PositiveIds)
    {operation : DedupeOperation} (effect : db.Effect operation after) :
    after.PositiveIds := by
  cases effect with
  | assigned adds => exact { positive with }
  | created adds =>
      refine { positive with clusters := ?_ }
      change ∀ id ∈ (db.addCluster _ _).clusterIds, 0 < id
      rw [clusterIds_addCluster]
      exact forall_mem_append_row positive.clusters
        (nextRowid_pos positive.clusters)
  | notAssigned refused => exact positive
  | merged other merged targetListed sameChannels =>
      refine ⟨?_, ?_, fun id stored => ?_⟩
      · rw [channelIds, sameChannels]
        exact positive.channels
      · rw [itemIds, merged.itemsKept]
        exact positive.items
      · obtain ⟨row, rowStored, rfl⟩ := List.mem_map.mp stored
        rcases merged.cluster_cases rowStored with
          ⟨-, before⟩ | ⟨isTarget, targetStored, -⟩
        · exact positive.clusters row.id (List.mem_map_of_mem before)
        · rw [isTarget]
          exact positive.clusters _ targetStored
  | removed other removes =>
      refine ⟨fun id stored => positive.channels id
        (removes.channels id stored), fun id stored => ?_,
        fun id stored => ?_⟩
      · obtain ⟨row, rowStored, rfl⟩ := List.mem_map.mp stored
        obtain ⟨original, before, sameId, -⟩ := removes.items row rowStored
        rw [← sameId]
        exact positive.items original.id (List.mem_map_of_mem before)
      · obtain ⟨row, rowStored, rfl⟩ := List.mem_map.mp stored
        obtain ⟨original, before, sameId, -⟩ :=
          removes.repaired.keptRows row rowStored
        rw [← sameId]
        exact positive.clusters original.id (List.mem_map_of_mem before)
  | itemAdded other =>
      refine { positive with items := ?_ }
      rw [itemIds_addItem]
      exact forall_mem_append_row positive.items
        (nextRowid_pos positive.items)
  | elsewhere other sameItems sameClusters sameMembers channels =>
      refine ⟨fun id stored => ?_, ?_, ?_⟩
      · rcases channels id stored with before | added
        · exact positive.channels id before
        · rw [added]
          exact nextRowid_pos positive.channels
      · rw [itemIds, sameItems]
        exact positive.items
      · rw [clusterIds, sameClusters]
        exact positive.clusters

end Invariants

/-- A consistent store without clusters. -/
structure EmptyDedupeState (db : Database) : Prop where
  consistent : db.Consistent
  noClusters : db.dedupeClusters = []

theorem EmptyDedupeState.invariant (start : db.EmptyDedupeState) :
    db.DedupeInvariant := by
  refine ⟨start.consistent, fun row stored => ?_⟩
  rw [start.noClusters] at stored
  cases stored

theorem EmptyDedupeState.not_member (start : db.EmptyDedupeState)
    (clusterId itemId : Int) : ¬ db.Member clusterId itemId := by
  intro member
  have stored := start.consistent.memberClusters _ member
  rw [clusterIds, start.noClusters] at stored
  cases stored

theorem empty_emptyDedupeState : empty.EmptyDedupeState :=
  ⟨empty_consistent, rfl⟩

/-- In every state of a run from an empty dedupe state the pages of the
timeline, as long as the page size and their offsets are SQLite integers, list
every cluster once. -/
theorem thread_complete (start : db.EmptyDedupeState)
    (positive : db.PositiveIds) (operations : List DedupeOperation)
    (size : Int) (sizePositive : 1 ≤ size) (sizeFits : IsSqlInteger size)
    (offsetFits : IsSqlInteger (pageCount size.toNat
      (run DedupeOperation.execute operations db).dedupeClusters * size)) :
    ∃ pages,
      (run DedupeOperation.execute operations db).ListsThread size pages := by
  have invariant := always_of_preserved DedupeOperation.execute
    (fun operation state
      (before : state.DedupeInvariant ∧ state.PositiveIds) =>
        ⟨before.1.execute operation,
          before.2.effect (before.1.effect operation)⟩)
    operations ⟨start.invariant, positive⟩ operations
    (List.prefix_refl operations)
  obtain ⟨count, rfl⟩ := Int.eq_ofNat_of_zero_le (by omega : 0 ≤ size)
  exact invariant.1.consistent.listsThread invariant.1.sound invariant.2
    (by omega) sizeFits offsetFits

/-- A channel, an item of it and the cluster of the item. -/
def sampleRun : List DedupeOperation :=
  [.insertChannel ⟨0, 1, 100, "first", none, true⟩,
    .insertItem (sampleItem 0 1 none),
    .assign 1 none "key"]

theorem thread_complete_sample :
    empty.EmptyDedupeState ∧ empty.PositiveIds ∧
      ∃ pages, (run DedupeOperation.execute sampleRun empty).ListsThread 1
        pages := by
  have positive : empty.PositiveIds := ⟨nofun, nofun, nofun⟩
  exact ⟨empty_emptyDedupeState, positive,
    thread_complete empty_emptyDedupeState positive sampleRun 1 (by decide)
      (by decide) (by decide)⟩

/-- A page size that SQLite cannot hold is refused. -/
theorem thread_pageSize_overflow :
    listEntries (run DedupeOperation.execute sampleRun empty) 1
        9223372036854775808 =
      .error (.overflowError
        "Python int too large to convert to SQLite INTEGER") ∧
      ¬ ∃ pages, (run DedupeOperation.execute sampleRun empty).ListsThread
        9223372036854775808 pages := by
  have refused : listEntries (run DedupeOperation.execute sampleRun empty) 1
      9223372036854775808 = .error (.overflowError
        "Python int too large to convert to SQLite INTEGER") := by
    rfl
  refine ⟨refused, ?_⟩
  rintro ⟨pages, lists⟩
  cases pages with
  | nil =>
      have exhausted := lists.exhausted
      rw [List.length_nil, Nat.cast_zero, zero_add, refused] at exhausted
      cases exhausted
  | cons first pages =>
      have listed := lists.listed ⟨0, by simp⟩
      rw [Nat.cast_zero, zero_add, refused] at listed
      cases listed

end Database

end Tca
