import Tca.RepresentativeRanking
import Mathlib.Data.List.Dedup

/-!
# Removing items and repairing their clusters

Both deletion paths of the store, the channel purge and the retention prune,
delete items and then repair the clusters that lost a member: representatives
are recomputed and emptied clusters are deleted.  This file describes the
combined effect row by row and states what it guarantees: the clusters that
lost a member are gone or represented by the preferred of their remaining
members, and the others are as they were.
-/

namespace Tca

open TableRows RowRanking

namespace Database

/-- The distinct clusters that have one of the items as a member. -/
def clustersOfItems (itemIds : List Int) (db : Database) : List Int :=
  ((db.dedupeMembers.filter fun row => row.itemId ∈ itemIds).map
    (·.clusterId)).dedup

/-- `NOT EXISTS (SELECT 1 FROM dedupe_members ...)`. -/
def isEmptyCluster (db : Database) (clusterId : Int) : Bool :=
  !db.dedupeMembers.any fun row => row.clusterId == clusterId

/-- Delete those of the listed clusters that have no members. -/
def deleteEmptyClusters (clusterIds : List Int) (db : Database) : Database :=
  db.deleteClusters fun row => row.id ∈ clusterIds && db.isEmptyCluster row.id

/-- Recompute the representatives of the listed clusters, then delete the
empty ones among them. -/
def repairClusters (clusterIds : List Int) (db : Database) : Database :=
  (db.recomputeRepresentatives clusterIds).deleteEmptyClusters clusterIds

/-- The ids of the selected items. -/
def removedItemIds (selected : ItemRow → Bool) (db : Database) : List Int :=
  (db.items.filter selected).map (·.id)

/-- Delete the selected items and repair the clusters they belonged to. -/
def removeItems (selected : ItemRow → Bool) (db : Database) : Database :=
  (db.deleteItems selected).repairClusters
    (db.clustersOfItems (db.removedItemIds selected))

theorem mem_clustersOfItems {itemIds : List Int} {db : Database}
    {clusterId : Int} :
    clusterId ∈ db.clustersOfItems itemIds ↔
      ∃ itemId ∈ itemIds, db.Member clusterId itemId := by
  simp only [clustersOfItems, List.mem_dedup, List.mem_map, List.mem_filter,
    decide_eq_true_eq]
  constructor
  · rintro ⟨row, ⟨member, chosen⟩, rfl⟩
    exact ⟨row.itemId, chosen, member⟩
  · rintro ⟨itemId, chosen, member⟩
    exact ⟨⟨clusterId, itemId⟩, ⟨member, chosen⟩, rfl⟩

theorem isEmptyCluster_iff {db : Database} {clusterId : Int} :
    db.isEmptyCluster clusterId = true ↔
      ∀ itemId, ¬ db.Member clusterId itemId := by
  simp only [isEmptyCluster, Bool.not_eq_true', List.any_eq_false,
    beq_iff_eq]
  constructor
  · intro noRow itemId member
    exact noRow ⟨clusterId, itemId⟩ member rfl
  · rintro noMember ⟨rowCluster, rowItem⟩ member rfl
    exact noMember rowItem member

section Repair

variable (db : Database) (clusterIds : List Int)

/-- What a repair leaves of one cluster. -/
def repairedCluster (row : ClusterRow) : Option ClusterRow :=
  if row.id ∈ clusterIds then
    if db.isEmptyCluster row.id then none
    else some { row with representativeItemId := db.rankedFirst row.id }
  else some row

/-- A listed cluster without members, which a repair drops. -/
def droppedByRepair (clusterId : Int) : Bool :=
  clusterId ∈ db.clusterIds ∧ clusterId ∈ clusterIds ∧
    db.isEmptyCluster clusterId

private theorem recompute_ids :
    (db.recomputeRepresentatives clusterIds).dedupeClusters.map (·.id) =
      db.clusterIds := by
  simp only [Database.clusterIds, recomputeRepresentatives, List.map_map]
  apply List.map_congr_left
  intro row _
  simp only [Function.comp_apply]
  split <;> rfl

private theorem mem_repair_removed {clusterId : Int} :
    clusterId ∈ ((db.recomputeRepresentatives clusterIds).dedupeClusters.filter
        fun row => row.id ∈ clusterIds &&
          (db.recomputeRepresentatives clusterIds).isEmptyCluster row.id).map
        (·.id) ↔ db.droppedByRepair clusterIds clusterId = true := by
  simp only [droppedByRepair, ← recompute_ids db clusterIds, List.mem_map,
    List.mem_filter, Bool.and_eq_true, decide_eq_true_eq]
  constructor
  · rintro ⟨row, ⟨stored, listed, empty⟩, rfl⟩
    exact ⟨⟨row, stored, rfl⟩, listed, empty⟩
  · rintro ⟨⟨row, stored, rfl⟩, listed, empty⟩
    exact ⟨row, ⟨stored, listed, empty⟩, rfl⟩

theorem repairClusters_dedupeClusters :
    (db.repairClusters clusterIds).dedupeClusters =
      db.dedupeClusters.filterMap (db.repairedCluster clusterIds) := by
  simp only [repairClusters, deleteEmptyClusters, deleteClusters,
    recomputeRepresentatives, filter_map_eq_filterMap]
  apply List.filterMap_congr
  intro row _
  by_cases listed : row.id ∈ clusterIds
  · simp only [repairedCluster, listed, if_true, decide_true, Bool.true_and]
    cases emptied : db.isEmptyCluster row.id <;>
      simp_all [isEmptyCluster]
  · simp [repairedCluster, listed]

/-- Only clusters without members are dropped, so every membership stays. -/
theorem repairClusters_dedupeMembers :
    (db.repairClusters clusterIds).dedupeMembers = db.dedupeMembers := by
  simp only [repairClusters, deleteEmptyClusters, deleteClusters]
  apply List.filter_eq_self.mpr
  intro row member
  simp only [mem_repair_removed, decide_eq_true_eq]
  intro dropped
  simp only [droppedByRepair, decide_eq_true_eq] at dropped
  exact isEmptyCluster_iff.mp dropped.2.2 row.itemId member

theorem repairClusters_dedupeDecisions :
    (db.repairClusters clusterIds).dedupeDecisions =
      db.dedupeDecisions.map (·.clearCluster (db.droppedByRepair clusterIds)) := by
  simp only [repairClusters, deleteEmptyClusters, deleteClusters,
    mem_repair_removed]
  simp [recomputeRepresentatives]

theorem repairClusters_botDeliveries :
    (db.repairClusters clusterIds).botDeliveries =
      db.botDeliveries.filter
        fun row => !db.droppedByRepair clusterIds row.clusterId := by
  simp only [repairClusters, deleteEmptyClusters, deleteClusters,
    mem_repair_removed]
  simp [recomputeRepresentatives]

variable {clusterIds} in
/-- A repair depends only on which clusters are listed. -/
theorem repairClusters_congr {others : List Int}
    (sameIds : ∀ id, id ∈ clusterIds ↔ id ∈ others) :
    db.repairClusters clusterIds = db.repairClusters others := by
  simp only [repairClusters, recomputeRepresentatives, deleteEmptyClusters,
    sameIds]

/-- Without listed clusters there is nothing to repair. -/
theorem repairClusters_nil : db.repairClusters [] = db := by
  simp [repairClusters, recomputeRepresentatives, deleteEmptyClusters,
    deleteClusters, DecisionRow.clearCluster]

end Repair

section Removal

variable (db : Database) (selected : ItemRow → Bool)

/-- What removing the selected items leaves of one cluster. -/
def remainingCluster (row : ClusterRow) : Option ClusterRow :=
  if row.id ∈ db.clustersOfItems (db.removedItemIds selected) then
    if (db.deleteItems selected).isEmptyCluster row.id then none
    else some
      { row with
        representativeItemId := (db.deleteItems selected).rankedFirst row.id }
  else some (row.clearRepresentative fun id => id ∈ db.removedItemIds selected)

variable {db selected} in
theorem remainingCluster_of_unaffected {row : ClusterRow}
    (unaffected :
      row.id ∉ db.clustersOfItems (db.removedItemIds selected)) :
    db.remainingCluster selected row = some (row.clearRepresentative
      fun id => id ∈ db.removedItemIds selected) :=
  if_neg unaffected

/-- The cluster loses a member to the removal and has no other. -/
def droppedCluster (clusterId : Int) : Bool :=
  clusterId ∈ db.clusterIds ∧
    clusterId ∈ db.clustersOfItems (db.removedItemIds selected) ∧
    (db.deleteItems selected).isEmptyCluster clusterId

@[simp]
theorem removeItems_items :
    (db.removeItems selected).items =
      db.items.filter fun row => !selected row :=
  rfl

@[simp]
theorem removeItems_dedupeMembers :
    (db.removeItems selected).dedupeMembers =
      db.dedupeMembers.filter
        fun row => row.itemId ∉ db.removedItemIds selected := by
  rw [removeItems, repairClusters_dedupeMembers]
  rfl

theorem member_removeItems {clusterId itemId : Int} :
    (db.removeItems selected).Member clusterId itemId ↔
      db.Member clusterId itemId ∧ itemId ∉ db.removedItemIds selected := by
  simp [Member, List.mem_filter]

theorem deleteItems_dedupeMembers :
    (db.deleteItems selected).dedupeMembers =
      db.dedupeMembers.filter
        fun row => row.itemId ∉ db.removedItemIds selected :=
  rfl

theorem member_deleteItems {clusterId itemId : Int} :
    (db.deleteItems selected).Member clusterId itemId ↔
      db.Member clusterId itemId ∧ itemId ∉ db.removedItemIds selected := by
  simp [Member, deleteItems, removedItemIds]

theorem removeItems_dedupeClusters :
    (db.removeItems selected).dedupeClusters =
      db.dedupeClusters.filterMap (db.remainingCluster selected) := by
  rw [removeItems, repairClusters_dedupeClusters]
  simp only [deleteItems, List.filterMap_map]
  rfl

@[simp]
theorem clusterIds_deleteItems :
    (db.deleteItems selected).clusterIds = db.clusterIds := by
  simp [clusterIds, deleteItems, ClusterRow.clearRepresentative,
    Function.comp_def]

private theorem droppedByRepair_deleteItems :
    (db.deleteItems selected).droppedByRepair
        (db.clustersOfItems (db.removedItemIds selected)) =
      db.droppedCluster selected := by
  funext clusterId
  simp only [droppedByRepair, droppedCluster, clusterIds_deleteItems]

/-- What removing the selected items leaves of one decision. -/
def remainingDecision (row : DecisionRow) : Option DecisionRow :=
  if row.itemId ∈ db.removedItemIds selected then none
  else some ((row.clearCandidate
    fun id => id ∈ db.removedItemIds selected).clearCluster
      (db.droppedCluster selected))

theorem removeItems_dedupeDecisions :
    (db.removeItems selected).dedupeDecisions =
      db.dedupeDecisions.filterMap (db.remainingDecision selected) := by
  rw [removeItems, repairClusters_dedupeDecisions,
    droppedByRepair_deleteItems, deleteItems, List.map_map,
    map_filter_eq_filterMap]
  apply List.filterMap_congr
  intro row _
  simp only [remainingDecision, removedItemIds, decide_not,
    Bool.not_eq_true', decide_eq_false_iff_not, ite_not]
  rfl

theorem removeItems_botDeliveries :
    (db.removeItems selected).botDeliveries =
      db.botDeliveries.filter
        fun row => !db.droppedCluster selected row.clusterId := by
  rw [removeItems, repairClusters_botDeliveries, droppedByRepair_deleteItems]
  rfl

end Removal

/-- The clusters that remain are those that are not dropped. -/
theorem mem_clusterIds_removeItems {db : Database}
    {selected : ItemRow → Bool} {clusterId : Int} :
    clusterId ∈ (db.removeItems selected).clusterIds ↔
      clusterId ∈ db.clusterIds ∧
        db.droppedCluster selected clusterId = false := by
  have remains : ∀ row : ClusterRow,
      db.droppedCluster selected row.id = false → row.id ∈ db.clusterIds →
        ∃ changed, db.remainingCluster selected row = some changed ∧
          changed.id = row.id := by
    intro row notDropped stored
    simp only [droppedCluster, stored, true_and, decide_eq_false_iff_not,
      not_and, Bool.not_eq_true] at notDropped
    unfold remainingCluster
    split
    · rename_i affected
      rw [notDropped affected]
      exact ⟨_, rfl, rfl⟩
    · exact ⟨_, rfl, rfl⟩
  simp only [clusterIds, removeItems_dedupeClusters, List.mem_map,
    List.mem_filterMap]
  constructor
  · rintro ⟨changed, ⟨row, stored, remaining⟩, rfl⟩
    unfold remainingCluster at remaining
    split at remaining
    · split at remaining
      · cases remaining
      · rename_i occupied
        obtain rfl := Option.some.inj remaining
        exact ⟨⟨row, stored, rfl⟩, by simp [droppedCluster, occupied]⟩
    · rename_i unaffected
      obtain rfl := Option.some.inj remaining
      refine ⟨⟨row, stored, rfl⟩, ?_⟩
      simp only [droppedCluster, decide_eq_false_iff_not, not_and]
      exact fun _ affected => (unaffected affected).elim
  · rintro ⟨⟨row, stored, rfl⟩, notDropped⟩
    obtain ⟨changed, remaining, sameId⟩ :=
      remains row notDropped (List.mem_map_of_mem stored)
    exact ⟨changed, ⟨row, stored, remaining⟩, sameId⟩

/-- Every cluster is represented by one of its members. -/
def SoundClusters (db : Database) : Prop :=
  ∀ row ∈ db.dedupeClusters, ∃ itemId,
    row.representativeItemId = some itemId ∧ db.Member row.id itemId

instance (db : Database) : Decidable db.SoundClusters :=
  decidable_of_iff
    (∀ row ∈ db.dedupeClusters, row.representativeItemId.any
      fun itemId => decide (db.Member row.id itemId))
    (by simp [SoundClusters, Option.any_eq_true])

/-- Some member of the cluster is among the items that are gone. -/
def LosesMember (db : Database) (gone : Int → Prop) (clusterId : Int) : Prop :=
  ∃ itemId, db.Member clusterId itemId ∧ gone itemId

/-- What the removal of items guarantees of the clusters: memberships of the
removed items are gone and all others are kept, a cluster that loses no member
keeps its row, a cluster that loses all members is gone, and a cluster that
loses some is represented by the preferred one of the others. -/
structure ClustersRepaired (before : Database) (gone : Int → Prop)
    (after : Database) : Prop where
  members : ∀ clusterId itemId, after.Member clusterId itemId ↔
    before.Member clusterId itemId ∧ ¬ gone itemId
  unaffected : ∀ row ∈ before.dedupeClusters,
    ¬ before.LosesMember gone row.id → row ∈ after.dedupeClusters
  emptied : ∀ clusterId, before.LosesMember gone clusterId →
    (∀ itemId, before.Member clusterId itemId → gone itemId) →
      clusterId ∉ after.clusterIds
  repaired : ∀ row ∈ before.dedupeClusters,
    before.LosesMember gone row.id →
      (∃ itemId, before.Member row.id itemId ∧ ¬ gone itemId) →
        ∃ best, after.Preferred (after.Member row.id) best ∧
          { row with representativeItemId := some best } ∈
            after.dedupeClusters
  keptRows : ∀ row ∈ after.dedupeClusters, ∃ original ∈ before.dedupeClusters,
    original.id = row.id ∧ original.clusterKey = row.clusterKey

section Guarantees

variable {db : Database}

theorem Consistent.repairClusters (consistent : db.Consistent)
    (clusterIds : List Int) : (db.repairClusters clusterIds).Consistent :=
  (consistent.recomputeRepresentatives clusterIds).deleteClusters _

theorem Consistent.removeItems (consistent : db.Consistent)
    (selected : ItemRow → Bool) : (db.removeItems selected).Consistent :=
  (consistent.deleteItems selected).repairClusters _

theorem mem_clustersOfItems_removed {selected : ItemRow → Bool}
    {clusterId : Int} :
    clusterId ∈ db.clustersOfItems (db.removedItemIds selected) ↔
      db.LosesMember (· ∈ db.removedItemIds selected) clusterId := by
  rw [mem_clustersOfItems]
  exact exists_congr fun itemId => and_comm

/-- Items that stay are ranked alike right after the deletion and after the
repair. -/
theorem preferred_removeItems {selected : ItemRow → Bool}
    {clusterId best : Int} :
    (db.removeItems selected).Preferred
        ((db.removeItems selected).Member clusterId) best ↔
      (db.deleteItems selected).Preferred
        ((db.deleteItems selected).Member clusterId) best := by
  unfold Preferred
  simp only [member_removeItems, member_deleteItems, removeItems_items]
  rfl

/-- A cluster row with a remaining member is kept with its preferred member. -/
private theorem remainingCluster_of_affected (consistent : db.Consistent)
    {selected : ItemRow → Bool} {row : ClusterRow}
    (affected : row.id ∈ db.clustersOfItems (db.removedItemIds selected))
    {itemId : Int} (member : db.Member row.id itemId)
    (kept : itemId ∉ db.removedItemIds selected) :
    ∃ best, (db.deleteItems selected).Preferred
        ((db.deleteItems selected).Member row.id) best ∧
      db.remainingCluster selected row =
        some { row with representativeItemId := some best } := by
  have remains : (db.deleteItems selected).Member row.id itemId :=
    (member_deleteItems db selected).mpr ⟨member, kept⟩
  have occupied :
      ¬ (db.deleteItems selected).isEmptyCluster row.id = true :=
    fun empty => isEmptyCluster_iff.mp empty itemId remains
  obtain ⟨best, ranked, preferred⟩ :=
    (consistent.deleteItems selected).rankedFirst_isSome remains
  refine ⟨best, preferred, ?_⟩
  rw [remainingCluster, if_pos affected, if_neg occupied, ranked]

/-- A cluster row that loses no member is kept as it is. -/
private theorem remainingCluster_of_sound {selected : ItemRow → Bool}
    {row : ClusterRow} {itemId : Int}
    (represented : row.representativeItemId = some itemId)
    (member : db.Member row.id itemId)
    (unaffected :
      row.id ∉ db.clustersOfItems (db.removedItemIds selected)) :
    db.remainingCluster selected row = some row := by
  have kept : itemId ∉ db.removedItemIds selected := fun removed =>
    unaffected (mem_clustersOfItems.mpr ⟨itemId, removed, member⟩)
  have unchanged : clearReference
      (fun id => decide (id ∈ db.removedItemIds selected))
      row.representativeItemId = row.representativeItemId :=
    clearReference_eq_self fun id reference => by
      obtain rfl := Option.some.inj (represented.symm.trans reference)
      simpa using kept
  rw [remainingCluster_of_unaffected unaffected,
    ClusterRow.clearRepresentative, unchanged]

/-- Removing items repairs the clusters of a consistent and sound store. -/
theorem removeItems_repaired (consistent : db.Consistent)
    (sound : db.SoundClusters) (selected : ItemRow → Bool) :
    db.ClustersRepaired (· ∈ db.removedItemIds selected)
      (db.removeItems selected) := by
  refine
    { members := fun clusterId itemId => member_removeItems db selected
      unaffected := ?_
      emptied := ?_
      repaired := ?_
      keptRows := ?_ }
  · intro row stored losesNone
    obtain ⟨itemId, represented, member⟩ := sound row stored
    rw [removeItems_dedupeClusters]
    refine List.mem_filterMap.mpr ⟨row, stored,
      remainingCluster_of_sound represented member fun affected => ?_⟩
    exact losesNone (mem_clustersOfItems_removed.mp affected)
  · intro clusterId loses losesAll remaining
    obtain ⟨stored, notDropped⟩ := mem_clusterIds_removeItems.mp remaining
    have empty : (db.deleteItems selected).isEmptyCluster clusterId = true :=
      isEmptyCluster_iff.mpr fun itemId member => by
        obtain ⟨earlier, kept⟩ := (member_deleteItems db selected).mp member
        exact kept (losesAll itemId earlier)
    have affected := mem_clustersOfItems_removed.mpr loses
    simp [droppedCluster, stored, affected, empty] at notDropped
  · rintro row stored loses ⟨itemId, member, kept⟩
    obtain ⟨best, preferred, remains⟩ := remainingCluster_of_affected
      consistent (mem_clustersOfItems_removed.mpr loses) member kept
    refine ⟨best, preferred_removeItems.mpr preferred, ?_⟩
    rw [removeItems_dedupeClusters]
    exact List.mem_filterMap.mpr ⟨row, stored, remains⟩
  · intro row remaining
    rw [removeItems_dedupeClusters] at remaining
    obtain ⟨original, stored, changed⟩ := List.mem_filterMap.mp remaining
    refine ⟨original, stored, ?_⟩
    unfold remainingCluster at changed
    split at changed
    · split at changed
      · cases changed
      · obtain rfl := Option.some.inj changed
        exact ⟨rfl, rfl⟩
    · obtain rfl := Option.some.inj changed
      exact ⟨rfl, rfl⟩

/-- The guarantee looks at the clusters and memberships on both sides and at
the items afterwards. -/
theorem ClustersRepaired.congr {other after result : Database}
    {gone : Int → Prop} (repaired : db.ClustersRepaired gone after)
    (sameClusters : other.dedupeClusters = db.dedupeClusters)
    (sameMembers : other.dedupeMembers = db.dedupeMembers)
    (resultItems : result.items = after.items)
    (resultClusters : result.dedupeClusters = after.dedupeClusters)
    (resultMembers : result.dedupeMembers = after.dedupeMembers) :
    other.ClustersRepaired gone result := by
  have memberEq : other.Member = db.Member := by
    funext clusterId itemId
    rw [Member, Member, sameMembers]
  have resultMemberEq : result.Member = after.Member := by
    funext clusterId itemId
    rw [Member, Member, resultMembers]
  refine
    { members := ?_
      unaffected := ?_
      emptied := ?_
      repaired := ?_
      keptRows := ?_ }
  · rw [memberEq, resultMemberEq]
    exact repaired.members
  · rw [sameClusters, resultClusters]
    simpa only [LosesMember, memberEq] using repaired.unaffected
  · simpa only [LosesMember, memberEq, clusterIds, resultClusters]
      using repaired.emptied
  · rw [sameClusters, resultClusters, resultMemberEq]
    simpa only [LosesMember, memberEq, Preferred, resultItems]
      using repaired.repaired
  · rw [sameClusters, resultClusters]
    exact repaired.keptRows

/-- A repair of a sound store leaves every remaining cluster sound. -/
theorem ClustersRepaired.soundClusters {after : Database}
    {gone : Int → Prop} (repaired : db.ClustersRepaired gone after)
    (sound : db.SoundClusters) (nodup : after.clusterIds.Nodup) :
    after.SoundClusters := by
  intro row remaining
  obtain ⟨original, stored, sameId, -⟩ := repaired.keptRows row remaining
  have idRemains : original.id ∈ after.clusterIds := by
    rw [sameId]
    exact List.mem_map_of_mem remaining
  by_cases loses : db.LosesMember gone original.id
  · -- The cluster still exists, so some member of it is left.
    have leftOver : ∃ itemId, db.Member original.id itemId ∧ ¬ gone itemId := by
      by_contra noneLeft
      push Not at noneLeft
      exact repaired.emptied original.id loses noneLeft idRemains
    obtain ⟨best, ⟨item, -, rfl, member, -⟩, changed⟩ :=
      repaired.repaired original stored loses leftOver
    obtain rfl := eq_of_key_eq nodup remaining changed sameId.symm
    exact ⟨item.id, rfl, member⟩
  · have unchanged := repaired.unaffected original stored loses
    obtain rfl := eq_of_key_eq nodup unchanged remaining sameId
    obtain ⟨itemId, represented, member⟩ := sound original stored
    exact ⟨itemId, represented, (repaired.members original.id itemId).mpr
      ⟨member, fun isGone => loses ⟨itemId, member, isGone⟩⟩⟩

end Guarantees

end Database

end Tca
