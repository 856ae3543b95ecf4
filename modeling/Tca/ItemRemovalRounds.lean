import Tca.ClusterRepair

/-!
# Rounds of item removal

Removing items in two rounds with a repair after each round is the same as
removing them in one round.  The order of the rounds is therefore irrelevant,
and a round whose items are all removed by the other one adds nothing.
-/

namespace Tca

open TableRows RowRanking

namespace Database

section Composition

variable (db : Database) (first second : ItemRow → Bool)

/-- A selection of either kind of item. -/
def eitherSelected (row : ItemRow) : Bool :=
  first row || second row

theorem mem_removedItemIds_either {itemId : Int} :
    itemId ∈ db.removedItemIds (eitherSelected first second) ↔
      itemId ∈ db.removedItemIds first ∨
        itemId ∈ (db.removeItems first).removedItemIds second := by
  simp only [removedItemIds, removeItems_items, List.mem_map,
    List.mem_filter, eitherSelected, Bool.or_eq_true, Bool.not_eq_true']
  constructor
  · rintro ⟨row, ⟨stored, chosen⟩, rfl⟩
    cases chosenFirst : first row with
    | true => exact Or.inl ⟨row, ⟨stored, chosenFirst⟩, rfl⟩
    | false =>
        have chosenSecond : second row = true := by simpa [chosenFirst] using chosen
        exact Or.inr ⟨row, ⟨⟨stored, chosenFirst⟩, chosenSecond⟩, rfl⟩
  · rintro (⟨row, ⟨stored, chosen⟩, rfl⟩ | ⟨row, ⟨⟨stored, -⟩, chosen⟩, rfl⟩)
    · exact ⟨row, ⟨stored, Or.inl chosen⟩, rfl⟩
    · exact ⟨row, ⟨stored, Or.inr chosen⟩, rfl⟩

private theorem twice_items :
    ((db.removeItems first).deleteItems second).items =
      (db.deleteItems (eitherSelected first second)).items := by
  simp only [deleteItems, removeItems_items, List.filter_filter]
  apply List.filter_congr
  intro row _
  simp [eitherSelected, Bool.and_comm]

private theorem twice_members :
    ((db.removeItems first).deleteItems second).dedupeMembers =
      (db.deleteItems (eitherSelected first second)).dedupeMembers := by
  rw [deleteItems_dedupeMembers, deleteItems_dedupeMembers,
    removeItems_dedupeMembers, List.filter_filter]
  apply List.filter_congr
  intro row _
  rw [Bool.eq_iff_iff]
  simp only [Bool.and_eq_true, decide_eq_true_eq, mem_removedItemIds_either,
    not_or]
  exact and_comm

/-- The ranking reads the items and the memberships only. -/
theorem rankedFirst_congr {db other : Database}
    (sameItems : db.items = other.items)
    (sameMembers : db.dedupeMembers = other.dedupeMembers)
    (clusterId : Int) :
    db.rankedFirst clusterId = other.rankedFirst clusterId := by
  simp only [rankedFirst, clusterItems, sameItems, sameMembers]

private theorem isEmptyCluster_congr {db other : Database}
    (sameMembers : db.dedupeMembers = other.dedupeMembers)
    (clusterId : Int) :
    db.isEmptyCluster clusterId = other.isEmptyCluster clusterId := by
  simp only [isEmptyCluster, sameMembers]

/-- A cluster that loses no member to a selection ranks the same items with
and without it. -/
private theorem rankedFirst_either_of_unaffected (nodup : db.itemIds.Nodup)
    {clusterId : Int}
    (unaffected : clusterId ∉ (db.removeItems first).clustersOfItems
      ((db.removeItems first).removedItemIds second)) :
    (db.deleteItems (eitherSelected first second)).rankedFirst clusterId =
      (db.deleteItems first).rankedFirst clusterId := by
  have keptNodup : (db.deleteItems first).itemIds.Nodup :=
    nodup_map_filter nodup _
  unfold rankedFirst
  congr 1
  refine (firstRanked_congr _ (clusterItems_separated keptNodup clusterId)
    fun row => ?_).symm
  rw [mem_clusterItems, mem_clusterItems, member_deleteItems,
    member_deleteItems, mem_removedItemIds_either]
  simp only [deleteItems, List.mem_filter, eitherSelected, Bool.not_eq_true',
    Bool.or_eq_false_iff]
  constructor
  · rintro ⟨⟨stored, notFirst⟩, member, keptFirst⟩
    have keptSecond :
        row.id ∉ (db.removeItems first).removedItemIds second := by
      intro removed
      exact unaffected (mem_clustersOfItems.mpr ⟨row.id, removed,
        (member_removeItems db first).mpr ⟨member, keptFirst⟩⟩)
    have notSecond : second row = false := by
      by_contra chosen
      exact keptSecond (List.mem_map_of_mem (List.mem_filter.mpr
        ⟨List.mem_filter.mpr ⟨stored, by simp [notFirst]⟩,
          by simpa using chosen⟩))
    exact ⟨⟨stored, notFirst, notSecond⟩, member,
      not_or.mpr ⟨keptFirst, keptSecond⟩⟩
  · rintro ⟨⟨stored, notFirst, -⟩, member, kept⟩
    exact ⟨⟨stored, notFirst⟩, member, (not_or.mp kept).1⟩

private theorem isEmptyCluster_either_of_unaffected {clusterId : Int}
    (unaffected : clusterId ∉ (db.removeItems first).clustersOfItems
      ((db.removeItems first).removedItemIds second)) :
    (db.deleteItems (eitherSelected first second)).isEmptyCluster clusterId =
      (db.deleteItems first).isEmptyCluster clusterId := by
  rw [Bool.eq_iff_iff, isEmptyCluster_iff, isEmptyCluster_iff]
  simp only [member_deleteItems, mem_removedItemIds_either]
  refine forall_congr' fun itemId => not_congr ?_
  constructor
  · rintro ⟨member, kept⟩
    exact ⟨member, (not_or.mp kept).1⟩
  · rintro ⟨member, keptFirst⟩
    refine ⟨member, not_or.mpr ⟨keptFirst, fun removed => unaffected ?_⟩⟩
    exact mem_clustersOfItems.mpr ⟨itemId, removed,
      (member_removeItems db first).mpr ⟨member, keptFirst⟩⟩

/-- A cluster is affected by either selection when the first round affects it
or the second one does afterwards. -/
private theorem mem_clustersOfItems_either (clusterId : Int) :
    clusterId ∈ db.clustersOfItems
        (db.removedItemIds (eitherSelected first second)) ↔
      clusterId ∈ db.clustersOfItems (db.removedItemIds first) ∨
        clusterId ∈ (db.removeItems first).clustersOfItems
          ((db.removeItems first).removedItemIds second) := by
  simp only [mem_clustersOfItems, mem_removedItemIds_either,
    member_removeItems]
  constructor
  · rintro ⟨itemId, removedFirst | removedSecond, member⟩
    · exact Or.inl ⟨itemId, removedFirst, member⟩
    · by_cases removedFirst : itemId ∈ db.removedItemIds first
      · exact Or.inl ⟨itemId, removedFirst, member⟩
      · exact Or.inr ⟨itemId, removedSecond, member, removedFirst⟩
  · rintro (⟨itemId, removed, member⟩ | ⟨itemId, removed, member, -⟩)
    · exact ⟨itemId, Or.inl removed, member⟩
    · exact ⟨itemId, Or.inr removed, member⟩

private theorem remainingCluster_twice (nodup : db.itemIds.Nodup)
    (row : ClusterRow) :
    (db.remainingCluster first row).bind
        ((db.removeItems first).remainingCluster second) =
      db.remainingCluster (eitherSelected first second) row := by
  have emptyEq := isEmptyCluster_congr (twice_members db first second) row.id
  have rankedEq := rankedFirst_congr (twice_items db first second)
    (twice_members db first second) row.id
  have affectedEq := mem_clustersOfItems_either db first second row.id
  by_cases laterAffected : row.id ∈ (db.removeItems first).clustersOfItems
      ((db.removeItems first).removedItemIds second)
  · -- The second round recomputes the cluster or drops it.
    have survives : ∃ changed, db.remainingCluster first row = some changed ∧
        changed.id = row.id ∧ changed.clusterKey = row.clusterKey := by
      obtain ⟨itemId, -, member⟩ := mem_clustersOfItems.mp laterAffected
      have occupied : (db.deleteItems first).isEmptyCluster row.id = false := by
        rw [Bool.eq_false_iff]
        intro empty
        exact isEmptyCluster_iff.mp empty itemId
          ((member_deleteItems db first).mpr
            ((member_removeItems db first).mp member))
      unfold remainingCluster
      split
      · rw [occupied]
        exact ⟨_, rfl, rfl, rfl⟩
      · exact ⟨_, rfl, rfl, rfl⟩
    obtain ⟨changed, changedEq, sameId, sameKey⟩ := survives
    rw [changedEq, Option.bind_some]
    unfold remainingCluster
    rw [sameId, if_pos laterAffected,
      if_pos (affectedEq.mpr (Or.inr laterAffected)), emptyEq, rankedEq]
    obtain ⟨id, clusterKey, representative⟩ := changed
    subst sameId sameKey
    rfl
  · by_cases affected :
        row.id ∈ db.clustersOfItems (db.removedItemIds first)
    · -- The first round decides; the second one leaves its result alone.
      have emptyKept := isEmptyCluster_either_of_unaffected db first second
        laterAffected
      have rankedKept := rankedFirst_either_of_unaffected db first second nodup
        laterAffected
      have keptNodup : (db.deleteItems first).itemIds.Nodup :=
        nodup_map_filter nodup _
      unfold remainingCluster
      rw [if_pos affected, if_pos (affectedEq.mpr (Or.inl affected)),
        emptyKept, rankedKept]
      split
      · rfl
      · rw [Option.bind_some, if_neg laterAffected]
        simp only [ClusterRow.clearRepresentative, Option.some.injEq,
          ClusterRow.mk.injEq, true_and]
        apply clearReference_eq_self
        intro itemId ranked
        obtain ⟨-, -, -, member, -⟩ :=
          (rankedFirst_eq_some_iff keptNodup).mp ranked
        rw [decide_eq_false_iff_not]
        intro removed
        exact laterAffected (mem_clustersOfItems.mpr ⟨itemId, removed,
          (member_removeItems db first).mpr
            ((member_deleteItems db first).mp member)⟩)
    · -- Neither round touches the cluster beyond clearing references.
      have clearedUnaffected :
          (row.clearRepresentative
            fun id => id ∈ db.removedItemIds first).id ∉
              (db.removeItems first).clustersOfItems
                ((db.removeItems first).removedItemIds second) :=
        laterAffected
      rw [remainingCluster_of_unaffected affected, Option.bind_some,
        remainingCluster_of_unaffected clearedUnaffected,
        remainingCluster_of_unaffected fun either =>
          (affectedEq.mp either).elim affected laterAffected]
      simp only [ClusterRow.clearRepresentative,
        clearReference_clearReference]
      congr 3
      funext itemId
      rw [Bool.eq_iff_iff]
      simp [mem_removedItemIds_either]

private theorem droppedCluster_either (clusterId : Int) :
    db.droppedCluster (eitherSelected first second) clusterId =
      (db.droppedCluster first clusterId ||
        (db.removeItems first).droppedCluster second clusterId) := by
  have emptyEq :=
    isEmptyCluster_congr (twice_members db first second) clusterId
  have affectedEq := mem_clustersOfItems_either db first second clusterId
  by_cases laterAffected : clusterId ∈ (db.removeItems first).clustersOfItems
      ((db.removeItems first).removedItemIds second)
  · -- A member outlives the first round, so only the second can drop it.
    obtain ⟨itemId, -, member⟩ := mem_clustersOfItems.mp laterAffected
    have occupied : (db.deleteItems first).isEmptyCluster clusterId = false := by
      rw [Bool.eq_false_iff]
      intro empty
      exact isEmptyCluster_iff.mp empty itemId
        ((member_deleteItems db first).mpr
          ((member_removeItems db first).mp member))
    have notDropped : db.droppedCluster first clusterId = false := by
      simp [droppedCluster, occupied]
    rw [notDropped, Bool.false_or, Bool.eq_iff_iff]
    simp only [droppedCluster, decide_eq_true_eq, affectedEq, laterAffected,
      or_true, true_and, emptyEq, mem_clusterIds_removeItems]
    simp [occupied]
  · have emptyKept := isEmptyCluster_either_of_unaffected db first second
      laterAffected
    rw [Bool.eq_iff_iff]
    simp [droppedCluster, affectedEq, laterAffected, emptyKept]

private theorem remainingDecision_twice (row : DecisionRow) :
    (db.remainingDecision first row).bind
        ((db.removeItems first).remainingDecision second) =
      db.remainingDecision (eitherSelected first second) row := by
  have droppedEq := funext (droppedCluster_either db first second)
  unfold remainingDecision
  by_cases removedFirst : row.itemId ∈ db.removedItemIds first
  · simp [removedFirst, mem_removedItemIds_either]
  · simp [removedFirst, mem_removedItemIds_either, droppedEq,
      DecisionRow.clearCandidate, DecisionRow.clearCluster,
      clearReference_clearReference]

/-- Removing items in two rounds, with a repair after each, is removing them
in one round. -/
theorem removeItems_removeItems (nodup : db.itemIds.Nodup) :
    (db.removeItems first).removeItems second =
      db.removeItems (eitherSelected first second) := by
  have itemsEq : ((db.removeItems first).removeItems second).items =
      (db.removeItems (eitherSelected first second)).items :=
    twice_items db first second
  have membersEq : ((db.removeItems first).removeItems second).dedupeMembers =
      (db.removeItems (eitherSelected first second)).dedupeMembers := by
    rw [removeItems_dedupeMembers, removeItems_dedupeMembers db
      (eitherSelected first second), ← deleteItems_dedupeMembers,
      ← deleteItems_dedupeMembers]
    exact twice_members db first second
  have clustersEq :
      ((db.removeItems first).removeItems second).dedupeClusters =
        (db.removeItems (eitherSelected first second)).dedupeClusters := by
    rw [removeItems_dedupeClusters, removeItems_dedupeClusters db first,
      List.filterMap_filterMap, removeItems_dedupeClusters]
    exact List.filterMap_congr fun row _ =>
      remainingCluster_twice db first second nodup row
  have deliveriesEq :
      ((db.removeItems first).removeItems second).botDeliveries =
        (db.removeItems (eitherSelected first second)).botDeliveries := by
    rw [removeItems_botDeliveries, removeItems_botDeliveries db first,
      List.filter_filter, removeItems_botDeliveries]
    apply List.filter_congr
    intro row _
    rw [droppedCluster_either, Bool.not_or, Bool.and_comm]
  have decisionsEq :
      ((db.removeItems first).removeItems second).dedupeDecisions =
        (db.removeItems (eitherSelected first second)).dedupeDecisions := by
    rw [removeItems_dedupeDecisions, removeItems_dedupeDecisions db first,
      removeItems_dedupeDecisions, List.filterMap_filterMap]
    exact List.filterMap_congr fun row _ =>
      remainingDecision_twice db first second row
  exact Database.ext rfl rfl rfl rfl rfl itemsEq clustersEq membersEq
    decisionsEq deliveriesEq rfl rfl rfl

variable {db first second} in
theorem eitherSelected_of_covered
    (covered : ∀ row ∈ db.items, first row = true → second row = true) :
    ∀ row ∈ db.items, eitherSelected first second row = second row := by
  intro row stored
  cases chosen : first row with
  | false => simp [eitherSelected, chosen]
  | true => simp [eitherSelected, chosen, covered row stored chosen]

/-- A selection matters only on the stored items. -/
theorem deleteItems_congr {db : Database} {first second : ItemRow → Bool}
    (same : ∀ row ∈ db.items, first row = second row) :
    db.deleteItems first = db.deleteItems second := by
  have keptEq : db.items.filter (fun row => !first row) =
      db.items.filter fun row => !second row :=
    List.filter_congr fun row stored => by rw [same row stored]
  simp only [deleteItems, List.filter_congr same, keptEq]

theorem removeItems_congr {db : Database} {first second : ItemRow → Bool}
    (same : ∀ row ∈ db.items, first row = second row) :
    db.removeItems first = db.removeItems second := by
  have removedEq : db.removedItemIds first = db.removedItemIds second := by
    rw [removedItemIds, removedItemIds, List.filter_congr same]
  rw [removeItems, removeItems, removedEq, deleteItems_congr same]

/-- A deletion of nothing. -/
theorem deleteItems_none {selected : ItemRow → Bool}
    (noneSelected : db.items.filter selected = []) :
    db.deleteItems selected = db := by
  have kept : db.items.filter (fun row => !selected row) = db.items := by
    apply List.filter_eq_self.mpr
    intro row stored
    simpa using List.filter_eq_nil_iff.mp noneSelected row stored
  simp only [deleteItems, noneSelected, kept]
  simp [ClusterRow.clearRepresentative, DecisionRow.clearCandidate]

theorem removeItems_none {selected : ItemRow → Bool}
    (noneSelected : db.items.filter selected = []) :
    db.removeItems selected = db := by
  have noneRemoved : db.removedItemIds selected = [] := by
    rw [removedItemIds, noneSelected, List.map_nil]
  have noClusters : db.clustersOfItems [] = [] := by
    simp [clustersOfItems]
  rw [removeItems, deleteItems_none db noneSelected, noneRemoved, noClusters,
    repairClusters_nil]

theorem removeItems_comm (nodup : db.itemIds.Nodup) :
    (db.removeItems first).removeItems second =
      (db.removeItems second).removeItems first := by
  rw [removeItems_removeItems db first second nodup,
    removeItems_removeItems db second first nodup]
  exact removeItems_congr fun row _ => Bool.or_comm _ _

/-- A round whose items the later round removes as well adds nothing. -/
theorem removeItems_absorbed (nodup : db.itemIds.Nodup)
    (covered : ∀ row ∈ db.items, first row = true → second row = true) :
    (db.removeItems first).removeItems second = db.removeItems second := by
  rw [removeItems_removeItems db first second nodup]
  exact removeItems_congr (eitherSelected_of_covered covered)

/-- What a deletion of items leaves of one decision. -/
private def clearedDecision (gone : Int → Bool) (row : DecisionRow) :
    Option DecisionRow :=
  if gone row.itemId then none else some (row.clearCandidate gone)

private theorem deleteItems_dedupeDecisions (selected : ItemRow → Bool) :
    (db.deleteItems selected).dedupeDecisions =
      db.dedupeDecisions.filterMap
        (clearedDecision fun id => id ∈ db.removedItemIds selected) := by
  have twoPasses : (db.deleteItems selected).dedupeDecisions =
      (db.dedupeDecisions.filter
        fun row => row.itemId ∉ db.removedItemIds selected).map
          (·.clearCandidate fun id => id ∈ db.removedItemIds selected) :=
    rfl
  rw [twoPasses, map_filter_eq_filterMap]
  apply List.filterMap_congr
  intro row _
  simp only [clearedDecision, decide_not, Bool.not_eq_true',
    decide_eq_false_iff_not, decide_eq_true_eq, ite_not]

private theorem clearedDecision_twice (gone goneLater : Int → Bool)
    (row : DecisionRow) :
    (clearedDecision gone row).bind (clearedDecision goneLater) =
      clearedDecision (fun id => gone id || goneLater id) row := by
  unfold clearedDecision
  cases goneFirst : gone row.itemId with
  | true => simp [goneFirst]
  | false =>
      simp [goneFirst, DecisionRow.clearCandidate,
        clearReference_clearReference]

/-- Deleting items in two rounds without a repair. -/
theorem deleteItems_deleteItems :
    (db.deleteItems first).deleteItems second =
      db.deleteItems (eitherSelected first second) := by
  have removedEq : (fun itemId => decide
      (itemId ∈ db.removedItemIds (eitherSelected first second))) =
        fun itemId => decide (itemId ∈ db.removedItemIds first) ||
          decide (itemId ∈ (db.deleteItems first).removedItemIds second) := by
    funext itemId
    rw [Bool.eq_iff_iff, Bool.or_eq_true]
    simp only [decide_eq_true_eq]
    exact mem_removedItemIds_either db first second
  have clustersEq :
      ((db.deleteItems first).deleteItems second).dedupeClusters =
        (db.deleteItems (eitherSelected first second)).dedupeClusters := by
    have cleared : ∀ selected, (db.deleteItems selected).dedupeClusters =
        db.dedupeClusters.map (·.clearRepresentative
          fun id => id ∈ db.removedItemIds selected) :=
      fun _ => rfl
    have clearedLater :
        ((db.deleteItems first).deleteItems second).dedupeClusters =
          (db.deleteItems first).dedupeClusters.map (·.clearRepresentative
            fun id => id ∈ (db.deleteItems first).removedItemIds second) :=
      rfl
    rw [clearedLater, cleared, cleared, List.map_map, removedEq]
    apply List.map_congr_left
    intro row _
    simp only [Function.comp_apply, ClusterRow.clearRepresentative,
      clearReference_clearReference]
  have decisionsEq :
      ((db.deleteItems first).deleteItems second).dedupeDecisions =
        (db.deleteItems (eitherSelected first second)).dedupeDecisions := by
    rw [deleteItems_dedupeDecisions, deleteItems_dedupeDecisions,
      deleteItems_dedupeDecisions, List.filterMap_filterMap, removedEq]
    exact List.filterMap_congr fun row _ => clearedDecision_twice _ _ row
  have membersEq :
      ((db.deleteItems first).deleteItems second).dedupeMembers =
        (db.deleteItems (eitherSelected first second)).dedupeMembers := by
    rw [← twice_members, deleteItems_dedupeMembers,
      deleteItems_dedupeMembers (db.removeItems first),
      deleteItems_dedupeMembers, removeItems_dedupeMembers]
    rfl
  exact Database.ext rfl rfl rfl rfl rfl (twice_items db first second)
    clustersEq membersEq decisionsEq rfl rfl rfl rfl

theorem deleteItems_absorbed
    (covered : ∀ row ∈ db.items, first row = true → second row = true) :
    (db.deleteItems first).deleteItems second = db.deleteItems second := by
  rw [deleteItems_deleteItems]
  exact deleteItems_congr (eitherSelected_of_covered covered)

end Composition

section RawMessages

/-- The selection does not look at the reference to the raw message. -/
def IgnoresRawMessage (selected : ItemRow → Bool) : Prop :=
  ∀ gone row, selected (ItemRow.clearRawMessage gone row) = selected row

variable (db : Database) (gone : Int → Bool) {selected : ItemRow → Bool}

/-- The store after clearing references to raw messages. -/
def clearRawMessages : Database :=
  { db with items := db.items.map (·.clearRawMessage gone) }

private theorem clearRawMessages_removedItemIds
    (ignores : IgnoresRawMessage selected) :
    (db.clearRawMessages gone).removedItemIds selected =
      db.removedItemIds selected := by
  simp only [removedItemIds, clearRawMessages, List.filter_map, List.map_map]
  have sameSelection :
      selected ∘ (ItemRow.clearRawMessage gone) = selected :=
    funext (ignores gone)
  rw [sameSelection]
  rfl

private theorem clearRawMessages_clusterItems (clusterId : Int) :
    (db.clearRawMessages gone).clusterItems clusterId =
      (db.clusterItems clusterId).map (·.clearRawMessage gone) := by
  simp only [clusterItems, clearRawMessages, List.map_flatMap,
    List.filter_map]
  rfl

private theorem clearRawMessages_rankedFirst (clusterId : Int) :
    (db.clearRawMessages gone).rankedFirst clusterId =
      db.rankedFirst clusterId := by
  have sameKey : ∀ row : ItemRow,
      (row.clearRawMessage gone).rankKey = row.rankKey :=
    fun _ => rfl
  rw [rankedFirst, clearRawMessages_clusterItems,
    firstRanked_map _ sameKey, Option.map_map]
  rfl

private theorem clearRawMessages_deleteItems
    (ignores : IgnoresRawMessage selected) :
    (db.clearRawMessages gone).deleteItems selected =
      (db.deleteItems selected).clearRawMessages gone := by
  have removedEq := clearRawMessages_removedItemIds db gone ignores
  have itemsEq : ((db.items.map (·.clearRawMessage gone)).filter
      fun row => !selected row) =
        (db.items.filter fun row => !selected row).map
          (·.clearRawMessage gone) := by
    rw [List.filter_map]
    congr 1
    exact List.filter_congr fun row _ => by simp [ignores gone row]
  unfold removedItemIds at removedEq
  simp only [deleteItems, removedEq]
  simp only [clearRawMessages, itemsEq]

private theorem clearRawMessages_repairClusters (clusterIds : List Int) :
    (db.clearRawMessages gone).repairClusters clusterIds =
      (db.repairClusters clusterIds).clearRawMessages gone := by
  have recomputed :
      (db.clearRawMessages gone).recomputeRepresentatives clusterIds =
        (db.recomputeRepresentatives clusterIds).clearRawMessages gone := by
    simp only [recomputeRepresentatives, clearRawMessages_rankedFirst]
    rfl
  rw [repairClusters, recomputed]
  rfl

private theorem clearRawMessages_removeItems
    (ignores : IgnoresRawMessage selected) :
    (db.clearRawMessages gone).removeItems selected =
      (db.removeItems selected).clearRawMessages gone := by
  rw [removeItems, clearRawMessages_deleteItems db gone ignores,
    clearRawMessages_repairClusters,
    clearRawMessages_removedItemIds db gone ignores]
  rfl

/-- Deleting raw messages does not change which items are selected. -/
theorem removedItemIds_deleteRawMessages
    (ignores : IgnoresRawMessage selected)
    (chosen : RawMessageRow → Bool) :
    (db.deleteRawMessages chosen).removedItemIds selected =
      db.removedItemIds selected :=
  clearRawMessages_removedItemIds db _ ignores

/-- Removing items after a deletion of raw messages repairs the clusters. -/
theorem deleteRawMessages_removeItems_repaired {db : Database}
    (consistent : db.Consistent) (sound : db.SoundClusters)
    (ignores : IgnoresRawMessage selected)
    (chosen : RawMessageRow → Bool) :
    db.ClustersRepaired (· ∈ db.removedItemIds selected)
      ((db.deleteRawMessages chosen).removeItems selected) := by
  have repaired := removeItems_repaired (consistent.deleteRawMessages chosen)
    (show (db.deleteRawMessages chosen).SoundClusters from sound) selected
  rw [removedItemIds_deleteRawMessages db ignores] at repaired
  exact repaired.congr rfl rfl rfl rfl rfl

/-- Deleting raw messages and removing items commute. -/
theorem deleteRawMessages_removeItems (ignores : IgnoresRawMessage selected)
    (chosen : RawMessageRow → Bool) :
    (db.deleteRawMessages chosen).removeItems selected =
      (db.removeItems selected).deleteRawMessages chosen := by
  let removed : Int → Bool :=
    fun id => id ∈ (db.rawMessages.filter chosen).map (·.id)
  have commuted := clearRawMessages_removeItems db removed ignores
  have keepsRest : (db.deleteRawMessages chosen).removeItems selected =
      { (db.clearRawMessages removed).removeItems selected with
        rawMessages := db.rawMessages.filter fun row => !chosen row } :=
    rfl
  rw [keepsRest, commuted]
  rfl

/-- Deleting raw messages in two rounds. -/
theorem deleteRawMessages_deleteRawMessages
    (first second : RawMessageRow → Bool) :
    (db.deleteRawMessages first).deleteRawMessages second =
      db.deleteRawMessages fun row => first row || second row := by
  simp only [deleteRawMessages, List.filter_filter, List.map_map]
  congr 1
  · apply List.filter_congr
    intro row _
    rw [Bool.not_or, Bool.and_comm]
  · apply List.map_congr_left
    intro row _
    simp only [Function.comp_apply, ItemRow.clearRawMessage,
      clearReference_clearReference]
    congr 2
    funext id
    rw [Bool.eq_iff_iff]
    simp only [Bool.or_eq_true, decide_eq_true_eq, List.mem_map,
      List.mem_filter, Bool.and_eq_true, Bool.not_eq_true']
    constructor
    · rintro (⟨raw, ⟨stored, chosen⟩, rfl⟩ | ⟨raw, ⟨stored, chosen, -⟩, rfl⟩)
      · exact ⟨raw, ⟨stored, Or.inl chosen⟩, rfl⟩
      · exact ⟨raw, ⟨stored, Or.inr chosen⟩, rfl⟩
    · rintro ⟨raw, ⟨stored, chosen⟩, rfl⟩
      cases chosenFirst : first raw with
      | true => exact Or.inl ⟨raw, ⟨stored, chosenFirst⟩, rfl⟩
      | false =>
          exact Or.inr ⟨raw, ⟨stored, by simpa [chosenFirst] using chosen,
            chosenFirst⟩, rfl⟩

/-- A deletion of nothing. -/
theorem deleteRawMessages_none {chosen : RawMessageRow → Bool}
    (noneChosen : db.rawMessages.filter chosen = []) :
    db.deleteRawMessages chosen = db := by
  have kept : db.rawMessages.filter (fun row => !chosen row) =
      db.rawMessages := by
    apply List.filter_eq_self.mpr
    intro row stored
    simpa using List.filter_eq_nil_iff.mp noneChosen row stored
  simp only [deleteRawMessages, noneChosen, kept]
  simp [ItemRow.clearRawMessage]

theorem deleteRawMessages_congr {first second : RawMessageRow → Bool}
    (same : ∀ row ∈ db.rawMessages, first row = second row) :
    db.deleteRawMessages first = db.deleteRawMessages second := by
  have keptEq : db.rawMessages.filter (fun row => !first row) =
      db.rawMessages.filter fun row => !second row :=
    List.filter_congr fun row stored => by rw [same row stored]
  simp only [deleteRawMessages, List.filter_congr same, keptEq]

theorem deleteRawMessages_absorbed {first second : RawMessageRow → Bool}
    (covered : ∀ row ∈ db.rawMessages, first row = true →
      second row = true) :
    (db.deleteRawMessages first).deleteRawMessages second =
      db.deleteRawMessages second := by
  rw [deleteRawMessages_deleteRawMessages]
  apply deleteRawMessages_congr db
  intro row stored
  cases chosen : first row with
  | false => simp
  | true => simp [covered row stored chosen]

end RawMessages

end Database

end Tca
