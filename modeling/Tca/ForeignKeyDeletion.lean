import Tca.StorageSchema

/-!
# Deletions and their foreign-key actions

Deleting rows of a referenced table runs the `ON DELETE` actions of the
migrations: members, decisions and deliveries of a deleted row are deleted
with it, nullable references to it are cleared.  Every such deletion leaves a
consistent store consistent.
-/

namespace Tca

open TableRows

def ItemRow.clearRawMessage (gone : Int → Bool) (row : ItemRow) : ItemRow :=
  { row with rawMessageId := clearReference gone row.rawMessageId }

def ClusterRow.clearRepresentative (gone : Int → Bool) (row : ClusterRow) :
    ClusterRow :=
  { row with
    representativeItemId := clearReference gone row.representativeItemId }

def DecisionRow.clearCluster (gone : Int → Bool) (row : DecisionRow) :
    DecisionRow :=
  { row with clusterId := clearReference gone row.clusterId }

def DecisionRow.clearCandidate (gone : Int → Bool) (row : DecisionRow) :
    DecisionRow :=
  { row with candidateItemId := clearReference gone row.candidateItemId }

def IngestErrorRow.clearChannel (gone : Int → Bool) (row : IngestErrorRow) :
    IngestErrorRow :=
  { row with channelId := clearReference gone row.channelId }

namespace Database

/-- `DELETE FROM raw_messages`; items lose their reference to the rows. -/
def deleteRawMessages (selected : RawMessageRow → Bool) (db : Database) :
    Database :=
  let removed := (db.rawMessages.filter selected).map (·.id)
  { db with
    rawMessages := db.rawMessages.filter fun row => !selected row
    items := db.items.map (·.clearRawMessage fun id => id ∈ removed) }

/-- `DELETE FROM items`; members and decisions of the items go with them, and
clusters and candidates lose their reference to them. -/
def deleteItems (selected : ItemRow → Bool) (db : Database) : Database :=
  let removed := (db.items.filter selected).map (·.id)
  { db with
    items := db.items.filter fun row => !selected row
    dedupeClusters :=
      db.dedupeClusters.map (·.clearRepresentative fun id => id ∈ removed)
    dedupeMembers := db.dedupeMembers.filter fun row => row.itemId ∉ removed
    dedupeDecisions :=
      (db.dedupeDecisions.filter fun row => row.itemId ∉ removed).map
        (·.clearCandidate fun id => id ∈ removed) }

/-- `DELETE FROM dedupe_clusters`; members and deliveries of the clusters go
with them, and decisions lose their reference to them. -/
def deleteClusters (selected : ClusterRow → Bool) (db : Database) :
    Database :=
  let removed := (db.dedupeClusters.filter selected).map (·.id)
  { db with
    dedupeClusters := db.dedupeClusters.filter fun row => !selected row
    dedupeMembers :=
      db.dedupeMembers.filter fun row => row.clusterId ∉ removed
    dedupeDecisions :=
      db.dedupeDecisions.map (·.clearCluster fun id => id ∈ removed)
    botDeliveries :=
      db.botDeliveries.filter fun row => row.clusterId ∉ removed }

/-- `DELETE FROM telegram_channels`; everything recorded for the channels goes
with them, and ingest errors lose their reference to them. -/
def deleteChannels (selected : ChannelRow → Bool) (db : Database) :
    Database :=
  let removed := (db.telegramChannels.filter selected).map (·.id)
  let emptied :=
    (db.deleteRawMessages fun row => row.channelId ∈ removed).deleteItems
      fun row => row.channelId ∈ removed
  { emptied with
    telegramChannels := db.telegramChannels.filter fun row => !selected row
    channelStates :=
      db.channelStates.filter fun row => row.channelId ∉ removed
    channelGroupMembers :=
      db.channelGroupMembers.filter fun row => row.channelId ∉ removed
    pollJobs := db.pollJobs.filter fun row => row.channelId ∉ removed
    ingestErrors :=
      db.ingestErrors.map (·.clearChannel fun id => id ∈ removed) }

/-- `DELETE FROM ingest_errors`. -/
def deleteIngestErrors (selected : IngestErrorRow → Bool) (db : Database) :
    Database :=
  { db with ingestErrors := db.ingestErrors.filter fun row => !selected row }

section Consistency

variable {db : Database}

theorem Consistent.deleteRawMessages (consistent : db.Consistent)
    (selected : RawMessageRow → Bool) :
    (db.deleteRawMessages selected).Consistent := by
  have itemIdsEq : (db.deleteRawMessages selected).itemIds = db.itemIds := by
    simp [itemIds, Database.deleteRawMessages, ItemRow.clearRawMessage,
      Function.comp_def]
  refine
    { consistent with
      rawMessageIdsNodup :=
        nodup_map_filter consistent.rawMessageIdsNodup _
      itemIdsNodup := by
        rw [itemIdsEq]
        exact consistent.itemIdsNodup
      rawMessages := fun row member =>
        consistent.rawMessages row (List.mem_filter.mp member).1
      itemChannels := ?_
      itemRawMessages := ?_
      representatives := by
        rw [itemIdsEq]
        exact consistent.representatives
      memberItems := by
        rw [itemIdsEq]
        exact consistent.memberItems
      decisionItems := by
        rw [itemIdsEq]
        exact consistent.decisionItems
      decisionCandidates := by
        rw [itemIdsEq]
        exact consistent.decisionCandidates
      itemIdsSql := by
        rw [itemIdsEq]
        exact consistent.itemIdsSql }
  · intro row member
    obtain ⟨original, originalMember, rfl⟩ := List.mem_map.mp member
    exact consistent.itemChannels original originalMember
  · intro row member id reference
    obtain ⟨original, originalMember, rfl⟩ := List.mem_map.mp member
    obtain ⟨stored, kept⟩ := clearReference_eq_some_iff.mp reference
    exact mem_map_filter_not
      (consistent.itemRawMessages original originalMember id stored)
      (by simpa using kept)

theorem Consistent.deleteItems (consistent : db.Consistent)
    (selected : ItemRow → Bool) :
    (db.deleteItems selected).Consistent := by
  have clusterIdsEq :
      (db.deleteItems selected).clusterIds = db.clusterIds := by
    simp [clusterIds, Database.deleteItems, ClusterRow.clearRepresentative,
      Function.comp_def]
  have clusterKeysEq :
      (db.deleteItems selected).dedupeClusters.map (·.clusterKey) =
        db.dedupeClusters.map (·.clusterKey) := by
    simp [Database.deleteItems, ClusterRow.clearRepresentative,
      Function.comp_def]
  -- References to items survive exactly when they avoid the deleted rows.
  have itemKept : ∀ id ∈ db.itemIds,
      id ∉ (db.items.filter selected).map (·.id) →
        id ∈ (db.deleteItems selected).itemIds :=
    fun id stored kept => mem_map_filter_not stored kept
  refine
    { consistent with
      itemIdsNodup := nodup_map_filter consistent.itemIdsNodup _
      clusterIdsNodup := by
        rw [clusterIdsEq]
        exact consistent.clusterIdsNodup
      clusterKeysNodup := by
        rw [clusterKeysEq]
        exact consistent.clusterKeysNodup
      membersNodup := consistent.membersNodup.filter _
      itemChannels := fun row member =>
        consistent.itemChannels row (List.mem_filter.mp member).1
      itemRawMessages := fun row member =>
        consistent.itemRawMessages row (List.mem_filter.mp member).1
      representatives := ?_
      memberClusters := ?_
      memberItems := ?_
      decisionItems := ?_
      decisionClusters := ?_
      decisionCandidates := ?_
      deliveries := by
        rw [clusterIdsEq]
        exact consistent.deliveries
      itemIdsSql := fun id member =>
        consistent.itemIdsSql id (mem_of_mem_map_filter member)
      clusterIdsSql := by
        rw [clusterIdsEq]
        exact consistent.clusterIdsSql }
  · intro row member id reference
    obtain ⟨original, originalMember, rfl⟩ := List.mem_map.mp member
    obtain ⟨stored, kept⟩ := clearReference_eq_some_iff.mp reference
    exact itemKept id
      (consistent.representatives original originalMember id stored)
      (by simpa using kept)
  · intro row member
    rw [clusterIdsEq]
    exact consistent.memberClusters row (List.mem_filter.mp member).1
  · intro row member
    obtain ⟨stored, kept⟩ := List.mem_filter.mp member
    exact itemKept _ (consistent.memberItems row stored) (by simpa using kept)
  · intro row member
    obtain ⟨original, originalMember, rfl⟩ := List.mem_map.mp member
    obtain ⟨stored, kept⟩ := List.mem_filter.mp originalMember
    exact itemKept original.itemId (consistent.decisionItems original stored)
      (by simpa using kept)
  · intro row member id reference
    obtain ⟨original, originalMember, rfl⟩ := List.mem_map.mp member
    rw [clusterIdsEq]
    exact consistent.decisionClusters original
      (List.mem_filter.mp originalMember).1 id reference
  · intro row member id reference
    obtain ⟨original, originalMember, rfl⟩ := List.mem_map.mp member
    obtain ⟨stored, kept⟩ := clearReference_eq_some_iff.mp reference
    exact itemKept id
      (consistent.decisionCandidates original
        (List.mem_filter.mp originalMember).1 id stored)
      (by simpa using kept)

theorem Consistent.deleteClusters (consistent : db.Consistent)
    (selected : ClusterRow → Bool) :
    (db.deleteClusters selected).Consistent := by
  have clusterKept : ∀ id ∈ db.clusterIds,
      id ∉ (db.dedupeClusters.filter selected).map (·.id) →
        id ∈ (db.deleteClusters selected).clusterIds :=
    fun id stored kept => mem_map_filter_not stored kept
  refine
    { consistent with
      clusterIdsNodup := nodup_map_filter consistent.clusterIdsNodup _
      clusterKeysNodup := nodup_map_filter consistent.clusterKeysNodup _
      membersNodup := consistent.membersNodup.filter _
      deliveriesNodup := nodup_map_filter consistent.deliveriesNodup _
      representatives := fun row member =>
        consistent.representatives row (List.mem_filter.mp member).1
      memberClusters := ?_
      memberItems := fun row member =>
        consistent.memberItems row (List.mem_filter.mp member).1
      decisionItems := ?_
      decisionClusters := ?_
      decisionCandidates := ?_
      deliveries := ?_
      clusterIdsSql := fun id member =>
        consistent.clusterIdsSql id (mem_of_mem_map_filter member) }
  · intro row member
    obtain ⟨stored, kept⟩ := List.mem_filter.mp member
    exact clusterKept _ (consistent.memberClusters row stored)
      (by simpa using kept)
  · intro row member
    obtain ⟨original, originalMember, rfl⟩ := List.mem_map.mp member
    exact consistent.decisionItems original originalMember
  · intro row member id reference
    obtain ⟨original, originalMember, rfl⟩ := List.mem_map.mp member
    obtain ⟨stored, kept⟩ := clearReference_eq_some_iff.mp reference
    exact clusterKept id
      (consistent.decisionClusters original originalMember id stored)
      (by simpa using kept)
  · intro row member id reference
    obtain ⟨original, originalMember, rfl⟩ := List.mem_map.mp member
    exact consistent.decisionCandidates original originalMember id reference
  · intro row member
    obtain ⟨stored, kept⟩ := List.mem_filter.mp member
    exact clusterKept _ (consistent.deliveries row stored)
      (by simpa using kept)

theorem Consistent.deleteChannels (consistent : db.Consistent)
    (selected : ChannelRow → Bool) :
    (db.deleteChannels selected).Consistent := by
  let removed := (db.telegramChannels.filter selected).map (·.id)
  have emptied := (consistent.deleteRawMessages
    fun row => row.channelId ∈ removed).deleteItems
      fun row => row.channelId ∈ removed
  have channelKept : ∀ id ∈ db.channelIds, id ∉ removed →
      id ∈ (db.deleteChannels selected).channelIds :=
    fun id stored kept => mem_map_filter_not stored kept
  refine
    { emptied with
      channelIdsNodup := nodup_map_filter consistent.channelIdsNodup _
      channelStates := ?_
      channelGroupMembers := ?_
      pollJobs := ?_
      rawMessages := ?_
      itemChannels := ?_
      ingestErrors := ?_
      channelIdsSql := fun id member =>
        consistent.channelIdsSql id (mem_of_mem_map_filter member) }
  · intro row member
    obtain ⟨stored, kept⟩ := List.mem_filter.mp member
    exact channelKept _ (consistent.channelStates row stored)
      (by simpa [removed] using kept)
  · intro row member
    obtain ⟨stored, kept⟩ := List.mem_filter.mp member
    exact channelKept _ (consistent.channelGroupMembers row stored)
      (by simpa [removed] using kept)
  · intro row member
    obtain ⟨stored, kept⟩ := List.mem_filter.mp member
    exact channelKept _ (consistent.pollJobs row stored)
      (by simpa [removed] using kept)
  · intro row member
    obtain ⟨stored, kept⟩ := List.mem_filter.mp member
    exact channelKept _ (consistent.rawMessages row stored)
      (by simpa [removed] using kept)
  · intro row member
    have channelStored := emptied.itemChannels row member
    obtain ⟨-, kept⟩ := List.mem_filter.mp member
    exact channelKept _ channelStored (by simpa [removed] using kept)
  · intro row member id reference
    obtain ⟨original, originalMember, rfl⟩ := List.mem_map.mp member
    obtain ⟨stored, kept⟩ := clearReference_eq_some_iff.mp reference
    exact channelKept id
      (consistent.ingestErrors original originalMember id stored)
      (by simpa [removed] using kept)

theorem Consistent.deleteIngestErrors (consistent : db.Consistent)
    (selected : IngestErrorRow → Bool) :
    (db.deleteIngestErrors selected).Consistent :=
  { consistent with
    ingestErrors := fun row member =>
      consistent.ingestErrors row (List.mem_filter.mp member).1 }

end Consistency

end Database

end Tca
