import Tca.DedupeClusterMerge
import Tca.Absorption

/-!
# Confluence of merges

A sequence of merges is described by the survivor map of the groups it joins:
each call names, in place of every cluster that was absorbed before, the one
it was absorbed into.  The store after such a sequence is a function of the
initial store and the survivor map, so sequences over connected groups end
with the same clusters as the single merge of all of them.
-/

namespace Tca

open TableRows RowRanking Transaction SortedSets Absorption

/-- The store after one merge call; a call that raises changes nothing. -/
def mergeOnce (clusterIds : List Int) (db : Database) : Database :=
  (atomically (mergeClusters (clusterIds.map .int)) db).2

/-- Merge the groups one after the other.  Each call names the survivors of
its group. -/
def mergeSequence (groups : List (List Int)) (db : Database) : Database :=
  (groups.foldl
    (fun (state : (Int → Int) × Database) group =>
      (absorb state.1 group, mergeOnce (group.map state.1) state.2))
    (id, db)).2

namespace Database

section Description

variable (base : Database) (survivor : Int → Int)

/-- The items that the survivor map puts into a cluster. -/
def pooledItems (clusterId : Int) : List ItemRow :=
  base.items.filter fun item => base.dedupeMembers.any fun row =>
    survivor row.clusterId == clusterId && row.itemId == item.id

/-- Some other cluster survives as this one. -/
def absorbsAnother (clusterId : Int) : Bool :=
  base.clusterIds.any fun id => id != clusterId && survivor id == clusterId

/-- What merges with the given survivor map leave of one cluster. -/
def survivingCluster (row : ClusterRow) : Option ClusterRow :=
  if survivor row.id = row.id then
    if base.absorbsAnother survivor row.id then
      some { row with
        representativeItemId :=
          (firstRanked ItemRow.rankKey
            (base.pooledItems survivor row.id)).map (·.id) }
    else some row
  else none

/-- The store holds the clusters and memberships that merges with the given
survivor map make of the base store. -/
structure MergesTo (db : Database) : Prop where
  consistent : db.Consistent
  items : db.items = base.items
  clusters : db.dedupeClusters =
    base.dedupeClusters.filterMap (base.survivingCluster survivor)
  members : ∀ clusterId itemId, db.Member clusterId itemId ↔
    ∃ id, survivor id = clusterId ∧ base.Member id itemId

end Description

section Simulation

variable {base db : Database} {survivor : Int → Int}

theorem mem_pooledItems {clusterId : Int} {item : ItemRow} :
    item ∈ base.pooledItems survivor clusterId ↔
      item ∈ base.items ∧
        ∃ id, survivor id = clusterId ∧ base.Member id item.id := by
  simp only [pooledItems, List.mem_filter, List.any_eq_true, Bool.and_eq_true,
    beq_iff_eq]
  refine and_congr_right fun _ => ⟨?_, ?_⟩
  · rintro ⟨⟨id, itemId⟩, stored, survives, rfl⟩
    exact ⟨id, survives, stored⟩
  · rintro ⟨id, survives, stored⟩
    exact ⟨⟨id, item.id⟩, stored, survives, rfl⟩

/-- The ranking of a cluster is the ranking of the items pooled in it. -/
theorem rankedFirst_eq_pooled (nodup : base.itemIds.Nodup)
    (sameItems : db.items = base.items) {clusterId : Int}
    (members : ∀ itemId, db.Member clusterId itemId ↔
      ∃ id, survivor id = clusterId ∧ base.Member id itemId) :
    db.rankedFirst clusterId =
      (firstRanked ItemRow.rankKey
        (base.pooledItems survivor clusterId)).map (·.id) := by
  have dbNodup : db.itemIds.Nodup := by
    rw [itemIds, sameItems]
    exact nodup
  rw [rankedFirst, firstRanked_congr ItemRow.rankKey
    (clusterItems_separated dbNodup clusterId) fun item => ?_]
  rw [mem_clusterItems, mem_pooledItems, sameItems, members]

theorem survivingCluster_alone {row : ClusterRow}
    (fixed : survivor row.id = row.id)
    (alone : base.absorbsAnother survivor row.id = false) :
    base.survivingCluster survivor row = some row := by
  rw [survivingCluster, if_pos fixed, if_neg (by simp [alone])]

theorem survivingCluster_pooled {row : ClusterRow}
    (fixed : survivor row.id = row.id)
    (absorbs : base.absorbsAnother survivor row.id = true) :
    base.survivingCluster survivor row = some { row with
      representativeItemId := (firstRanked ItemRow.rankKey
        (base.pooledItems survivor row.id)).map (·.id) } := by
  rw [survivingCluster, if_pos fixed, if_pos absorbs]

theorem survivingCluster_gone {row : ClusterRow}
    (moved : survivor row.id ≠ row.id) :
    base.survivingCluster survivor row = none :=
  if_neg moved

/-- Clusters with the same absorbed ids are described alike. -/
theorem survivingCluster_congr {other : Int → Int} {row : ClusterRow}
    (same : ∀ id, survivor id = row.id ↔ other id = row.id) :
    base.survivingCluster survivor row = base.survivingCluster other row := by
  have absorbsEq : base.absorbsAnother survivor row.id =
      base.absorbsAnother other row.id := by
    rw [Bool.eq_iff_iff]
    simp only [absorbsAnother, List.any_eq_true, Bool.and_eq_true,
      bne_iff_ne, beq_iff_eq, same]
  have pooledEq : base.pooledItems survivor row.id =
      base.pooledItems other row.id := by
    apply List.filter_congr
    intro item _
    rw [Bool.eq_iff_iff]
    simp only [List.any_eq_true, Bool.and_eq_true, beq_iff_eq, same]
  simp only [survivingCluster, same, absorbsEq, pooledEq]

theorem survivingCluster_id {row changed : ClusterRow}
    (survives : base.survivingCluster survivor row = some changed) :
    changed.id = row.id := by
  unfold survivingCluster at survives
  split at survives
  · split at survives
    · obtain rfl := Option.some.inj survives
      rfl
    · obtain rfl := Option.some.inj survives
      rfl
  · cases survives

/-- Without merges the store describes itself. -/
theorem Consistent.mergesTo_self (consistent : base.Consistent) :
    base.MergesTo id base where
  consistent := consistent
  items := rfl
  clusters := by
    have unmerged : ∀ row ∈ base.dedupeClusters,
        base.survivingCluster id row = some row := by
      intro row _
      have alone : base.absorbsAnother id row.id = false := by
        simp only [absorbsAnother, List.any_eq_false, id_eq,
          Bool.and_eq_true, bne_iff_ne, beq_iff_eq, not_and]
        exact fun other _ different same => different same
      exact survivingCluster_alone rfl alone
    rw [List.filterMap_congr unmerged, List.filterMap_some]
  members := by simp

/-- The clusters that exist are the survivors. -/
theorem MergesTo.mem_clusterIds (merges : base.MergesTo survivor db)
    {clusterId : Int} :
    clusterId ∈ db.clusterIds ↔
      clusterId ∈ base.clusterIds ∧ survivor clusterId = clusterId := by
  simp only [clusterIds, merges.clusters, List.mem_map, List.mem_filterMap]
  constructor
  · rintro ⟨changed, ⟨row, stored, survives⟩, rfl⟩
    have sameId := survivingCluster_id survives
    refine ⟨⟨row, stored, sameId.symm⟩, ?_⟩
    unfold survivingCluster at survives
    split at survives
    · rename_i fixed
      rw [sameId, fixed]
    · cases survives
  · rintro ⟨⟨row, stored, rfl⟩, fixed⟩
    cases absorbs : base.absorbsAnother survivor row.id with
    | false =>
        exact ⟨row, ⟨row, stored, survivingCluster_alone fixed absorbs⟩, rfl⟩
    | true =>
        exact ⟨_, ⟨row, stored, survivingCluster_pooled fixed absorbs⟩, rfl⟩

/-- A call that names fewer than two clusters raises. -/
private theorem mergeOnce_short {clusterIds : List Int}
    (short : (sortedSet clusterIds).length < 2) :
    mergeOnce clusterIds db = db := by
  rw [mergeOnce, mergeClusters, normalizeClusterIds_int]
  rcases sorted : sortedSet clusterIds with _ | ⟨first, _ | ⟨second, others⟩⟩
  · rfl
  · rfl
  · simp only [sorted, List.length_cons] at short
    omega

section Step

variable {group : List Int} {target : Int} {sources : List Int}

/-- One membership before and after a group is absorbed. -/
private theorem MergesTo.member_step (merges : base.MergesTo survivor db)
    (sorted : sortedSet (group.map survivor) = target :: sources)
    (targetStored : target ∈ db.clusterIds) (clusterId itemId : Int) :
    (db.absorbClusters target sources).Member clusterId itemId ↔
      ∃ id, absorb survivor group id = clusterId ∧ base.Member id itemId := by
  obtain ⟨targetListed, -, isSource⟩ := sortedSet_cons sorted
  have notSource : target ∉ sources := fun inSources =>
    ((isSource target).mp inSources).2 rfl
  have listedIff : ∀ id, id ∈ group.map survivor ↔
      id = target ∨ id ∈ sources := by
    intro id
    rw [isSource]
    by_cases isTarget : id = target
    · simp [isTarget, targetListed]
    · simp [isTarget]
  rw [merges.consistent.member_absorbClusters targetStored notSource]
  simp only [merges.members, absorb_apply sorted, listedIff]
  constructor
  · rintro (⟨rfl, listed, isListed, id, rfl, member⟩ |
      ⟨notTarget, kept, id, rfl, member⟩)
    · exact ⟨id, if_pos isListed, member⟩
    · exact ⟨id, if_neg (not_or.mpr ⟨notTarget, kept⟩), member⟩
  · rintro ⟨id, joined, member⟩
    split at joined
    · rename_i isListed
      exact Or.inl ⟨joined.symm, survivor id, isListed, id, rfl, member⟩
    · rename_i unlisted
      obtain ⟨notTarget, kept⟩ := not_or.mp unlisted
      exact Or.inr ⟨joined ▸ notTarget, joined ▸ kept, id, joined, member⟩

/-- One cluster before and after a group is absorbed. -/
private theorem MergesTo.cluster_step (baseConsistent : base.Consistent)
    (merges : base.MergesTo survivor db) {source : Int}
    (sorted : sortedSet (group.map survivor) = target :: source :: sources)
    (targetStored : target ∈ db.clusterIds)
    (sourceStored : source ∈ db.clusterIds) (row : ClusterRow) :
    (base.survivingCluster survivor row).bind
        (db.absorbedCluster target (source :: sources)) =
      base.survivingCluster (absorb survivor group) row := by
  obtain ⟨targetListed, -, isSource⟩ := sortedSet_cons sorted
  have targetFixed := (merges.mem_clusterIds.mp targetStored).2
  obtain ⟨sourceInBase, sourceFixed⟩ := merges.mem_clusterIds.mp sourceStored
  by_cases fixed : survivor row.id = row.id
  · obtain ⟨changed, survives⟩ :
        ∃ changed, base.survivingCluster survivor row = some changed := by
      cases absorbs : base.absorbsAnother survivor row.id with
      | false => exact ⟨_, survivingCluster_alone fixed absorbs⟩
      | true => exact ⟨_, survivingCluster_pooled fixed absorbs⟩
    have sameId := survivingCluster_id survives
    rw [survives, Option.bind_some, absorbedCluster, sameId]
    by_cases isTarget : row.id = target
    · -- The target pools the items of everything absorbed into it.
      have joinedFixed : absorb survivor group row.id = row.id := by
        rw [absorb_apply sorted, isTarget, targetFixed, if_pos targetListed]
      have absorbs :
          base.absorbsAnother (absorb survivor group) row.id = true := by
        obtain ⟨sourceListed, different⟩ :=
          (isSource source).mp List.mem_cons_self
        simp only [absorbsAnother, List.any_eq_true, Bool.and_eq_true,
          bne_iff_ne, beq_iff_eq]
        refine ⟨source, sourceInBase, isTarget ▸ different, ?_⟩
        rw [absorb_apply sorted, sourceFixed, if_pos sourceListed, isTarget]
      have pooled := rankedFirst_eq_pooled baseConsistent.itemIdsNodup
        (show (db.absorbClusters target (source :: sources)).items =
          base.items from merges.items)
        (merges.member_step sorted targetStored target)
      have sameKey : changed.clusterKey = row.clusterKey := by
        unfold survivingCluster at survives
        rw [if_pos fixed] at survives
        split at survives <;>
          · obtain rfl := Option.some.inj survives
            rfl
      have notSource : row.id ∉ source :: sources := fun inSources =>
        ((isSource row.id).mp inSources).2 isTarget
      rw [if_neg notSource, if_pos isTarget,
        survivingCluster_pooled joinedFixed absorbs, pooled, sameKey,
        isTarget]
    · by_cases inSources : row.id ∈ source :: sources
      · have joinedMoved : absorb survivor group row.id ≠ row.id := by
          rw [absorb_apply sorted, fixed,
            if_pos ((isSource row.id).mp inSources).1]
          exact fun same => isTarget same.symm
        rw [if_pos inSources, survivingCluster_gone joinedMoved]
      · -- A cluster outside the group absorbs what it absorbed before.
        have unlisted : row.id ∉ group.map survivor := fun listed =>
          inSources ((isSource row.id).mpr ⟨listed, isTarget⟩)
        rw [if_neg inSources, if_neg isTarget, ← survivingCluster_congr
          (absorb_eq_iff_of_unlisted sorted unlisted), survives]
  · have joinedMoved : absorb survivor group row.id ≠ row.id := by
      rw [absorb_apply sorted]
      split
      · rintro rfl
        exact fixed targetFixed
      · exact fixed
    rw [survivingCluster_gone fixed, survivingCluster_gone joinedMoved]
    rfl

/-- A group of existing clusters with members is merged without error. -/
private theorem MergesTo.executed_step
    (merges : base.MergesTo survivor db) {source : Int}
    (sorted : sortedSet (group.map survivor) = target :: source :: sources)
    (stored : ∀ id ∈ group.map survivor, id ∈ db.clusterIds)
    {itemId : Int} (member : db.Member target itemId) :
    ∃ best,
      (db.absorbClusters target (source :: sources)).rankedFirst target =
        some best ∧
      Tca.mergeOnce (group.map survivor) db =
        (db.absorbClusters target (source :: sources)).recordMergeEvent best
          target (source :: sources) := by
  obtain ⟨targetListed, -, isSource⟩ := sortedSet_cons sorted
  have targetStored := stored target targetListed
  have notSource : target ∉ source :: sources := fun inSources =>
    ((isSource target).mp inSources).2 rfl
  have sourceStored : ∀ id ∈ source :: sources, id ∈ db.clusterIds :=
    fun id inSources => stored id ((isSource id).mp inSources).1
  have merged : (db.absorbClusters target (source :: sources)).Consistent :=
    merges.consistent.absorbClusters targetStored
  obtain ⟨best, ranked, -⟩ := merged.rankedFirst_isSome
    ((merges.consistent.member_absorbClusters targetStored notSource).mpr
      (Or.inl ⟨rfl, target, Or.inl rfl, member⟩))
  have executed := merges.consistent.mergeInto_source targetStored notSource
    (fun id inSources =>
      merges.consistent.clusterIdsSql id (sourceStored id inSources))
    ⟨source, List.mem_cons_self, sourceStored source List.mem_cons_self⟩
  rw [ranked] at executed
  refine ⟨best, ranked, ?_⟩
  rw [Tca.mergeOnce, mergeClusters_of_sorted sorted, executed]

end Step

/-- Joining the survivors of a group in the map is merging them in the
store. -/
theorem MergesTo.mergeOnce (baseConsistent : base.Consistent)
    (idempotent : ∀ id, survivor (survivor id) = survivor id)
    (closed : ∀ id ∈ base.clusterIds, survivor id ∈ base.clusterIds)
    (merges : base.MergesTo survivor db) {group : List Int}
    (stored : ∀ id ∈ group, id ∈ base.clusterIds)
    (occupied : ∀ id ∈ group, ∃ itemId, base.Member id itemId) :
    base.MergesTo (absorb survivor group)
      (mergeOnce (group.map survivor) db) := by
  match sorted : sortedSet (group.map survivor) with
  | [] =>
      have empty : group = [] :=
        List.map_eq_nil_iff.mp (sortedSet_eq_nil_iff.mp sorted)
      subst empty
      exact merges
  | [target] =>
      obtain ⟨-, -, noOthers⟩ := sortedSet_cons sorted
      have unchanged : absorb survivor group = survivor := by
        funext id
        rw [absorb_apply sorted]
        split
        · rename_i inside
          by_contra different
          exact absurd ((noOthers (survivor id)).mpr
            ⟨inside, fun same => different same.symm⟩) List.not_mem_nil
        · rfl
      rw [unchanged, mergeOnce_short (by simp [sorted])]
      exact merges
  | target :: source :: sources =>
      obtain ⟨targetListed, -, isSource⟩ := sortedSet_cons sorted
      have survivorStored : ∀ id ∈ group.map survivor, id ∈ db.clusterIds := by
        intro id listed
        obtain ⟨origin, inGroup, rfl⟩ := List.mem_map.mp listed
        exact merges.mem_clusterIds.mpr
          ⟨closed origin (stored origin inGroup), idempotent origin⟩
      have targetStored := survivorStored target targetListed
      have sourceStored := survivorStored source
        ((isSource source).mp List.mem_cons_self).1
      obtain ⟨origin, inGroup, survives⟩ := List.mem_map.mp targetListed
      obtain ⟨itemId, baseMember⟩ := occupied origin inGroup
      have member : db.Member target itemId :=
        (merges.members target itemId).mpr ⟨origin, survives, baseMember⟩
      obtain ⟨best, ranked, executed⟩ :=
        merges.executed_step sorted survivorStored member
      rw [executed]
      have notSource : target ∉ source :: sources := fun inSources =>
        ((isSource target).mp inSources).2 rfl
      exact
        { consistent :=
            merges.consistent.merged targetStored notSource ranked
          items := merges.items
          clusters := by
            change (db.absorbClusters target
              (source :: sources)).dedupeClusters = _
            rw [absorbClusters_dedupeClusters, merges.clusters,
              List.filterMap_filterMap]
            exact List.filterMap_congr fun row _ =>
              merges.cluster_step baseConsistent sorted targetStored
                sourceStored row
          members := merges.member_step sorted targetStored }

/-- The store after a sequence of merges is described by the survivor map of
the groups. -/
theorem Consistent.mergeSequence_mergesTo (consistent : base.Consistent)
    (groups : List (List Int))
    (stored : ∀ id ∈ groups.flatten, id ∈ base.clusterIds)
    (occupied : ∀ id ∈ groups.flatten, ∃ itemId, base.Member id itemId) :
    base.MergesTo (survivors groups) (mergeSequence groups base) := by
  -- The fold carries the survivor map of the groups merged so far.
  have carried : ∀ earlier later : List (List Int),
      (∀ id ∈ (earlier ++ later).flatten, id ∈ base.clusterIds) →
      (∀ id ∈ (earlier ++ later).flatten, ∃ itemId, base.Member id itemId) →
      ∀ db, base.MergesTo (survivors earlier) db →
        base.MergesTo (survivors (earlier ++ later))
          (later.foldl
            (fun (state : (Int → Int) × Database) group =>
              (absorb state.1 group, Tca.mergeOnce (group.map state.1) state.2))
            (survivors earlier, db)).2 := by
    intro earlier later
    induction later generalizing earlier with
    | nil =>
        intro _ _ db merges
        simpa using merges
    | cons group later ih =>
        intro allStored allOccupied db merges
        have survives := survives_survivors earlier
        have inAll : ∀ id ∈ group, id ∈ (earlier ++ group :: later).flatten := by
          intro id inGroup
          rw [List.flatten_append, List.flatten_cons]
          exact List.mem_append_right _ (List.mem_append_left _ inGroup)
        have closed : ∀ id ∈ base.clusterIds,
            survivors earlier id ∈ base.clusterIds := by
          intro id idStored
          by_cases fixed : survivors earlier id = id
          · exact fixed.symm ▸ idStored
          · apply allStored _
            rw [List.flatten_append]
            exact List.mem_append_left _ (survives.mentioned id fixed).2
        have next := merges.mergeOnce consistent survives.idempotent closed
          (fun id inGroup => allStored id (inAll id inGroup))
          (fun id inGroup => allOccupied id (inAll id inGroup))
        have joined : absorb (survivors earlier) group =
            survivors (earlier ++ [group]) := by
          rw [survivors, survivors, List.foldl_append]
          rfl
        have regroup : earlier ++ group :: later =
            (earlier ++ [group]) ++ later := by
          simp
        rw [regroup] at allStored allOccupied ⊢
        rw [joined] at next
        rw [List.foldl_cons, joined]
        exact ih (earlier ++ [group]) allStored allOccupied _ next
  exact carried [] groups stored occupied base consistent.mergesTo_self

/-- Stores described by one survivor map have the same clusters and
memberships. -/
theorem MergesTo.agree {other : Database}
    (merges : base.MergesTo survivor db)
    (otherMerges : base.MergesTo survivor other) :
    db.dedupeClusters = other.dedupeClusters ∧
      ∀ clusterId itemId,
        db.Member clusterId itemId ↔ other.Member clusterId itemId :=
  ⟨merges.clusters.trans otherMerges.clusters.symm, fun clusterId itemId =>
    (merges.members clusterId itemId).trans
      (otherMerges.members clusterId itemId).symm⟩

end Simulation

/-- Repeating a merge finds no source any more. -/
theorem Consistent.mergeClusters_repeated {base : Database}
    (consistent : base.Consistent) {listed : List Int}
    (stored : ∀ id ∈ listed, id ∈ base.clusterIds)
    (occupied : ∀ id ∈ listed, ∃ itemId, base.Member id itemId)
    {target source : Int} {sources : List Int}
    (sorted : sortedSet listed = target :: source :: sources) :
    atomically (mergeClusters (listed.map .int)) (mergeOnce listed base) =
      (.ok ⟨target, source :: sources, 0, 0, false⟩,
        mergeOnce listed base) := by
  obtain ⟨targetListed, -, isSource⟩ := sortedSet_cons sorted
  have merges := consistent.mergeSequence_mergesTo [listed]
    (by simpa using stored) (by simpa using occupied)
  have sameMap : survivors [listed] = absorb id listed := rfl
  have sameStore : mergeSequence [listed] base = mergeOnce listed base := by
    simp [mergeSequence]
  rw [sameMap, sameStore] at merges
  have sortedId : sortedSet (listed.map id) = target :: source :: sources := by
    rw [List.map_id]
    exact sorted
  have survivorOf : ∀ clusterId ∈ listed,
      absorb id listed clusterId = target := by
    intro clusterId inList
    rw [absorb_apply sortedId, if_pos (List.mem_map_of_mem inList)]
  rw [mergeClusters_of_sorted sorted]
  refine merges.consistent.mergeInto_noSource ?_ ?_ ?_
  · exact merges.mem_clusterIds.mpr
      ⟨stored target targetListed, survivorOf target targetListed⟩
  · intro clusterId inSources
    exact consistent.clusterIdsSql clusterId
      (stored clusterId ((isSource clusterId).mp inSources).1)
  · intro clusterId inSources remains
    obtain ⟨inList, different⟩ := (isSource clusterId).mp inSources
    have fixed := (merges.mem_clusterIds.mp remains).2
    rw [survivorOf clusterId inList] at fixed
    exact different fixed.symm

/-- Merging is confluent.  A call depends only on the set of its ids;
repeating a merge changes nothing and records no event; and any sequence of
merges over connected groups, each call naming survivors in place of absorbed
clusters, ends with the clusters and memberships of the single merge of all
mentioned clusters. -/
theorem merges_confluent {base : Database} (consistent : base.Consistent)
    (groups : List (List Int))
    (stored : ∀ id ∈ groups.flatten, id ∈ base.clusterIds)
    (occupied : ∀ id ∈ groups.flatten, ∃ itemId, base.Member id itemId) :
    (∀ listed : List Int,
      (∀ id, id ∈ listed ↔ id ∈ groups.flatten) →
        mergeClusters (listed.map .int) =
          mergeClusters (groups.flatten.map .int)) ∧
    (∀ first ∈ groups.flatten, ∀ second ∈ groups.flatten, first ≠ second →
      ∃ result,
        atomically (mergeClusters (groups.flatten.map .int))
            (mergeOnce groups.flatten base) =
          (.ok result, mergeOnce groups.flatten base) ∧
        result.recordedEvent = false) ∧
    (Connected groups →
      (mergeSequence groups base).dedupeClusters =
          (mergeOnce groups.flatten base).dedupeClusters ∧
        ∀ clusterId itemId,
          (mergeSequence groups base).Member clusterId itemId ↔
            (mergeOnce groups.flatten base).Member clusterId itemId) := by
  refine ⟨?_, ?_, ?_⟩
  · intro listed sameIds
    rw [mergeClusters, mergeClusters, normalizeClusterIds_int,
      normalizeClusterIds_int, sortedSet_congr sameIds]
  · intro first firstListed second secondListed different
    rcases sorted : sortedSet groups.flatten with
      _ | ⟨target, _ | ⟨source, sources⟩⟩
    · rw [sortedSet_eq_nil_iff.mp sorted] at firstListed
      exact absurd firstListed List.not_mem_nil
    · have only : ∀ id ∈ groups.flatten, id = target := by
        intro id inList
        rw [← mem_sortedSet, sorted] at inList
        exact List.mem_singleton.mp inList
      exact (different ((only first firstListed).trans
        (only second secondListed).symm)).elim
    · exact ⟨_, consistent.mergeClusters_repeated stored occupied sorted, rfl⟩
  · intro connected
    have merges := consistent.mergeSequence_mergesTo groups stored occupied
    have single := consistent.mergeSequence_mergesTo [groups.flatten]
      (by simpa using stored) (by simpa using occupied)
    rw [survivors_eq_of_connected (connected_singleton groups.flatten)
      connected (by simp)] at single
    have sameStore : mergeSequence [groups.flatten] base =
        mergeOnce groups.flatten base := by
      simp [mergeSequence]
    rw [sameStore] at single
    exact merges.agree single

theorem merges_confluent_sample :
    sampleStore.Consistent ∧ Connected [[3, 2], [2, (1 : Int)]] ∧
      (mergeSequence [[3, 2], [2, 1]] sampleStore).dedupeClusters =
        (mergeOnce [3, 2, 2, 1] sampleStore).dedupeClusters := by
  have linked : ∀ id ∈ ([3, 2, 2, 1] : List Int),
      Linked [[3, 2], [2, 1]] id 2 ∧ Linked [[3, 2], [2, 1]] 2 id := by
    unfold Linked
    decide
  have connected : Connected [[3, 2], [2, (1 : Int)]] :=
    fun first firstListed second secondListed =>
      (Relation.ReflTransGen.single (linked first firstListed).1).tail
        (linked second secondListed).2
  have members : ∀ id ∈ ([[3, 2], [2, 1]] : List (List Int)).flatten,
      sampleStore.Member id id := by
    decide
  have confluent := merges_confluent sampleStore_consistent
    [[3, 2], [2, 1]] (by decide) fun id listed => ⟨id, members id listed⟩
  exact ⟨sampleStore_consistent, connected, (confluent.2.2 connected).1⟩

end Database

end Tca
