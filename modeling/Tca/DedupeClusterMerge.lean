import Tca.ClusterRepair
import Tca.SortedSets

/-!
# Merging clusters

`merge_clusters` moves the members of all listed clusters into the one with
the smallest id, deletes the others, recomputes the representative and records
a decision, in one transaction.  The file embeds the call and proves it
correct and atomic.
-/

namespace Tca

open TableRows Transaction SortedSets

/-- Result payload for merging multiple dedupe clusters. -/
structure ClusterMergeResult where
  targetClusterId : Int
  sourceClusterIds : List Int
  movedMemberCount : Nat
  removedClusterCount : Nat
  recordedEvent : Bool
  deriving DecidableEq

/-- `_coerce_int`; a Boolean is not accepted as an integer. -/
def coerceInt (value : PyValue) (field : String) : Except PyError Int :=
  match value with
  | .int number => .ok number
  | _ => .error (.typeError s!"missing integer `{field}`")

/-- The loop of `_normalize_cluster_ids`, from a given index on. -/
def coerceClusterIds : Nat → List PyValue → Except PyError (List Int)
  | _, [] => .ok []
  | index, value :: values => do
      let clusterId ← coerceInt value s!"matched_cluster_ids[{index}]"
      let clusterIds ← coerceClusterIds (index + 1) values
      return clusterId :: clusterIds

/-- The distinct ids in increasing order. -/
def normalizeClusterIds (matchedClusterIds : List PyValue) :
    Except PyError (List Int) := do
  let clusterIds ← coerceClusterIds 0 matchedClusterIds
  return sortedSet clusterIds

namespace Database

variable (db : Database)

/-- Membership rows of the listed clusters. -/
def countMembers (clusterIds : List Int) : Nat :=
  (db.dedupeMembers.filter fun row => row.clusterId ∈ clusterIds).length

/-- Cluster rows with one of the listed ids. -/
def countClusters (clusterIds : List Int) : Nat :=
  (db.dedupeClusters.filter fun row => row.id ∈ clusterIds).length

/-- Copy the memberships of the source clusters to the target cluster unless
they are there. -/
def moveMembers (target : Int) (sources : List Int) : Database :=
  { db with
    dedupeMembers := insertAllOrIgnore db.dedupeMembers
      ((db.dedupeMembers.filter fun row => row.clusterId ∈ sources).map
        fun row => ⟨target, row.itemId⟩) }

/-- The three statements that merge the source clusters into the target. -/
def absorbClusters (target : Int) (sources : List Int) : Database :=
  ((db.moveMembers target sources).deleteClusters
    fun row => row.id ∈ sources).recomputeRepresentatives [target]

/-- The item the merge event is recorded for: the representative, or else the
member with the lowest id. -/
def eventItem (target : Int) : Option Int :=
  match (db.dedupeClusters.find? fun row => row.id = target).bind
      (·.representativeItemId) with
  | some itemId => some itemId
  | none =>
      ((db.dedupeMembers.filter fun row => row.clusterId = target).map
        (·.itemId)).min?

/-- The decision row that records a merge. -/
def mergeEvent (itemId target : Int) (sources : List Int) : DecisionRow where
  id := nextRowid (db.dedupeDecisions.map (·.id))
  itemId := itemId
  clusterId := some target
  candidateItemId := none
  strategyName := "cluster_merge"
  outcome := "DUPLICATE"
  reasonCode := some "cluster_merge"
  score := none
  metadataJson := some (.dict
    [("source_cluster_ids", .list (sources.map .int)),
      ("target_cluster_id", .int target)])

def recordMergeEvent (itemId target : Int) (sources : List Int) : Database :=
  { db with
    dedupeDecisions :=
      db.dedupeDecisions ++ [db.mergeEvent itemId target sources] }

end Database

/-- The transaction of `merge_clusters` for a target and its sources. -/
def mergeInto (target : Int) (sources : List Int) :
    StorageTransaction ClusterMergeResult := do
  bindInteger target
  let before ← query fun db => db
  require (target ∈ before.clusterIds)
    (.valueError s!"target cluster `{target}` does not exist")
  bindIntegers sources
  let movedMemberCount := before.countMembers sources
  let removedClusterCount := before.countClusters sources
  if movedMemberCount = 0 ∧ removedClusterCount = 0 then
    return ⟨target, sources, 0, 0, false⟩
  else
    update fun db => db.absorbClusters target sources
    let merged ← query fun db => db
    match merged.eventItem target with
    | none =>
        raise (.valueError
          "cannot record merge event without target cluster item")
    | some itemId =>
        require (itemId ∈ merged.itemIds ∧ target ∈ merged.clusterIds)
          (.integrityError "FOREIGN KEY constraint failed")
        update fun db => db.recordMergeEvent itemId target sources
        commit
        return ⟨target, sources, movedMemberCount, removedClusterCount, true⟩

/-- Merge matched clusters into the smallest cluster id target. -/
def mergeClusters (matchedClusterIds : List PyValue) :
    StorageTransaction ClusterMergeResult :=
  match normalizeClusterIds matchedClusterIds with
  | .error problem => raise problem
  | .ok (target :: source :: sources) => mergeInto target (source :: sources)
  | .ok _ => raise (.valueError "need at least two clusters to merge")

section Normalization

theorem coerceClusterIds_int (index : Nat) (clusterIds : List Int) :
    coerceClusterIds index (clusterIds.map .int) = .ok clusterIds := by
  induction clusterIds generalizing index with
  | nil => rfl
  | cons clusterId clusterIds ih =>
      rw [List.map_cons, coerceClusterIds, ih]
      rfl

theorem coerceClusterIds_eq_ok {index : Nat} {values : List PyValue}
    {clusterIds : List Int}
    (coerced : coerceClusterIds index values = .ok clusterIds) :
    values = clusterIds.map .int := by
  induction values generalizing index clusterIds with
  | nil =>
      obtain rfl := Except.ok.inj coerced
      rfl
  | cons value values ih =>
      rw [coerceClusterIds] at coerced
      cases rest : coerceClusterIds (index + 1) values with
      | error problem =>
          rw [rest] at coerced
          cases value <;> cases coerced
      | ok others =>
          rw [rest] at coerced
          cases value with
          | int number =>
              obtain rfl := Except.ok.inj coerced
              rw [ih rest]
              rfl
          | none | bool | float | str | list | dict => cases coerced

theorem normalizeClusterIds_int (clusterIds : List Int) :
    normalizeClusterIds (clusterIds.map .int) = .ok (sortedSet clusterIds) := by
  rw [normalizeClusterIds, coerceClusterIds_int]
  rfl

/-- A call that gets past the coercion was given integers only. -/
theorem normalizeClusterIds_eq_ok {values : List PyValue}
    {normalized : List Int}
    (accepted : normalizeClusterIds values = .ok normalized) :
    ∃ clusterIds : List Int, values = clusterIds.map .int ∧
      normalized = sortedSet clusterIds := by
  rw [normalizeClusterIds] at accepted
  cases coerced : coerceClusterIds 0 values with
  | error problem =>
      rw [coerced] at accepted
      cases accepted
  | ok clusterIds =>
      rw [coerced] at accepted
      obtain rfl := Except.ok.inj accepted
      exact ⟨clusterIds, coerceClusterIds_eq_ok coerced, rfl⟩

end Normalization

namespace Database

section Absorption

variable {db : Database} {target : Int} {sources : List Int}

theorem Consistent.moveMembers (consistent : db.Consistent)
    (targetStored : target ∈ db.clusterIds) :
    (db.moveMembers target sources).Consistent :=
  { consistent with
    membersNodup := insertAllOrIgnore_nodup consistent.membersNodup _
    memberClusters := fun row member => by
      rcases mem_insertAllOrIgnore.mp member with stored | moved
      · exact consistent.memberClusters row stored
      · obtain ⟨original, -, rfl⟩ := List.mem_map.mp moved
        exact targetStored
    memberItems := fun row member => by
      rcases mem_insertAllOrIgnore.mp member with stored | moved
      · exact consistent.memberItems row stored
      · obtain ⟨original, chosen, rfl⟩ := List.mem_map.mp moved
        exact consistent.memberItems original (List.mem_filter.mp chosen).1 }

theorem Consistent.absorbClusters (consistent : db.Consistent)
    (targetStored : target ∈ db.clusterIds) :
    (db.absorbClusters target sources).Consistent :=
  ((consistent.moveMembers targetStored).deleteClusters
    _).recomputeRepresentatives _

theorem member_moveMembers {clusterId itemId : Int} :
    (db.moveMembers target sources).Member clusterId itemId ↔
      db.Member clusterId itemId ∨
        clusterId = target ∧ ∃ source ∈ sources, db.Member source itemId := by
  simp only [Member, moveMembers, mem_insertAllOrIgnore, List.mem_map,
    List.mem_filter, decide_eq_true_eq, MemberRow.mk.injEq]
  refine or_congr_right ⟨?_, ?_⟩
  · rintro ⟨⟨source, item⟩, ⟨stored, listed⟩, rfl, rfl⟩
    exact ⟨rfl, source, listed, stored⟩
  · rintro ⟨rfl, source, listed, stored⟩
    exact ⟨⟨source, itemId⟩, ⟨stored, listed⟩, rfl, rfl⟩

/-- The target ends up with the members of all clusters of the merge, and the
clusters outside of it keep theirs. -/
theorem Consistent.member_absorbClusters (consistent : db.Consistent)
    (targetStored : target ∈ db.clusterIds) (notSource : target ∉ sources)
    {clusterId itemId : Int} :
    (db.absorbClusters target sources).Member clusterId itemId ↔
      (clusterId = target ∧
        ∃ listed, (listed = target ∨ listed ∈ sources) ∧
          db.Member listed itemId) ∨
        clusterId ≠ target ∧ clusterId ∉ sources ∧
          db.Member clusterId itemId := by
  have clusterStored : ∀ id item,
      (db.moveMembers target sources).Member id item → id ∈ db.clusterIds :=
    fun id item member =>
      (consistent.moveMembers targetStored).memberClusters _ member
  -- A membership survives the deletion exactly when its cluster is no source.
  have survives : (db.absorbClusters target sources).Member clusterId itemId ↔
      (db.moveMembers target sources).Member clusterId itemId ∧
        clusterId ∉ sources := by
    simp only [Member, Database.absorbClusters,
      Database.recomputeRepresentatives, Database.deleteClusters,
      List.mem_filter, decide_eq_true_eq, List.mem_map,
      not_exists, not_and, and_imp]
    constructor
    · rintro ⟨member, kept⟩
      obtain ⟨row, stored, rfl⟩ :=
        List.mem_map.mp (clusterStored clusterId itemId member)
      exact ⟨member, fun isSource => kept row stored isSource rfl⟩
    · rintro ⟨member, kept⟩
      exact ⟨member, fun row _ isSource sameId => kept (sameId ▸ isSource)⟩
  rw [survives, member_moveMembers]
  constructor
  · rintro ⟨stored | ⟨rfl, source, listed, stored⟩, kept⟩
    · by_cases isTarget : clusterId = target
      · exact Or.inl ⟨isTarget, target, Or.inl rfl, isTarget ▸ stored⟩
      · exact Or.inr ⟨isTarget, kept, stored⟩
    · exact Or.inl ⟨rfl, source, Or.inr listed, stored⟩
  · rintro (⟨rfl, source, rfl | listed, stored⟩ | ⟨-, kept, stored⟩)
    · exact ⟨Or.inl stored, notSource⟩
    · exact ⟨Or.inr ⟨rfl, source, listed, stored⟩, notSource⟩
    · exact ⟨Or.inl stored, kept⟩

/-- What a merge leaves of one cluster. -/
def absorbedCluster (db : Database) (target : Int) (sources : List Int)
    (row : ClusterRow) : Option ClusterRow :=
  if row.id ∈ sources then none
  else if row.id = target then
    some { row with
      representativeItemId :=
        (db.absorbClusters target sources).rankedFirst target }
  else some row

theorem absorbedCluster_id {row changed : ClusterRow}
    (absorbed : db.absorbedCluster target sources row = some changed) :
    changed.id = row.id := by
  unfold absorbedCluster at absorbed
  split at absorbed
  · cases absorbed
  · split at absorbed
    · obtain rfl := Option.some.inj absorbed
      rfl
    · obtain rfl := Option.some.inj absorbed
      rfl

theorem absorbedCluster_outside {row : ClusterRow}
    (notSource : row.id ∉ sources) (notTarget : row.id ≠ target) :
    db.absorbedCluster target sources row = some row := by
  rw [absorbedCluster, if_neg notSource, if_neg notTarget]

theorem absorbedCluster_target {row : ClusterRow}
    (isTarget : row.id = target) (notSource : target ∉ sources) :
    db.absorbedCluster target sources row =
      some { row with
        representativeItemId :=
          (db.absorbClusters target sources).rankedFirst target } := by
  rw [absorbedCluster, isTarget, if_neg notSource, if_pos rfl]

theorem absorbClusters_dedupeClusters :
    (db.absorbClusters target sources).dedupeClusters =
      db.dedupeClusters.filterMap (db.absorbedCluster target sources) := by
  have twoPasses : (db.absorbClusters target sources).dedupeClusters =
      (db.dedupeClusters.filter fun row => !decide (row.id ∈ sources)).map
        fun row => if row.id ∈ [target] then
          { row with
            representativeItemId :=
              (db.absorbClusters target sources).rankedFirst row.id }
        else row :=
    rfl
  rw [twoPasses, map_filter_eq_filterMap]
  apply List.filterMap_congr
  intro row _
  simp only [absorbedCluster, List.mem_singleton, Bool.not_eq_true',
    decide_eq_false_iff_not, ite_not]
  split
  · rfl
  · split
    · rename_i isTarget
      rw [isTarget]
    · rfl

theorem clusterIds_absorbClusters :
    (db.absorbClusters target sources).clusterIds =
      db.clusterIds.filter fun id => id ∉ sources := by
  rw [clusterIds, absorbClusters_dedupeClusters, clusterIds, List.filter_map,
    List.map_filterMap]
  rw [map_filter_eq_filterMap]
  apply List.filterMap_congr
  intro row _
  by_cases isSource : row.id ∈ sources
  · simp [absorbedCluster, isSource]
  · rw [absorbedCluster, if_neg isSource]
    split <;> simp [isSource]

/-- The target row of a merge, as the lookups by id find it. -/
theorem find_absorbClusters (targetStored : target ∈ db.clusterIds)
    (notSource : target ∉ sources) :
    ((db.absorbClusters target sources).dedupeClusters.find?
        fun row => row.id = target).bind (·.representativeItemId) =
      (db.absorbClusters target sources).rankedFirst target := by
  have idStored :
      target ∈ (db.absorbClusters target sources).clusterIds := by
    rw [clusterIds_absorbClusters]
    exact List.mem_filter.mpr ⟨targetStored, by simpa using notSource⟩
  cases found : (db.absorbClusters target sources).dedupeClusters.find?
      fun row => row.id = target with
  | none =>
      obtain ⟨row, stored, sameId⟩ := List.mem_map.mp idStored
      have notFound := List.find?_eq_none.mp found row stored
      exact (notFound (by simpa using sameId)).elim
  | some row =>
      have isTarget : row.id = target := by
        simpa using List.find?_some found
      have stored := List.mem_of_find?_eq_some found
      rw [absorbClusters_dedupeClusters] at stored
      obtain ⟨original, -, changed⟩ := List.mem_filterMap.mp stored
      have wasTarget : original.id = target :=
        (absorbedCluster_id changed).symm.trans isTarget
      rw [absorbedCluster_target wasTarget notSource] at changed
      obtain rfl := Option.some.inj changed
      rfl

/-- With a member in one of the merged clusters the event item is the item
ranked first. -/
theorem Consistent.eventItem_absorbClusters (consistent : db.Consistent)
    (targetStored : target ∈ db.clusterIds) (notSource : target ∉ sources) :
    (db.absorbClusters target sources).eventItem target =
      (db.absorbClusters target sources).rankedFirst target := by
  have merged : (db.absorbClusters target sources).Consistent :=
    consistent.absorbClusters targetStored
  rw [eventItem, find_absorbClusters targetStored notSource]
  cases ranked : (db.absorbClusters target sources).rankedFirst target with
  | some itemId => rfl
  | none =>
      -- Every membership has its item, so there is no member to fall back on.
      have noMembers :
          (db.absorbClusters target sources).dedupeMembers.filter
            (fun row => row.clusterId = target) = [] := by
        apply List.filter_eq_nil_iff.mpr
        intro row member isTarget
        obtain ⟨item, stored, sameItem⟩ :=
          List.mem_map.mp (merged.memberItems row member)
        apply rankedFirst_eq_none_iff.mp ranked item stored
        obtain ⟨rowCluster, rowItem⟩ := row
        obtain rfl : rowCluster = target := by simpa using isTarget
        exact sameItem ▸ member
      rw [noMembers]
      rfl

theorem countClusters_eq_zero_iff :
    db.countClusters sources = 0 ↔ ∀ id ∈ sources, id ∉ db.clusterIds := by
  rw [countClusters, List.length_eq_zero_iff, List.filter_eq_nil_iff]
  simp only [decide_eq_true_eq]
  constructor
  · intro noRow id listed stored
    obtain ⟨row, rowStored, rfl⟩ := List.mem_map.mp stored
    exact noRow row rowStored listed
  · intro noneStored row stored listed
    exact noneStored row.id listed (List.mem_map_of_mem stored)

/-- Clusters that do not exist have no members. -/
theorem Consistent.countMembers_eq_zero (consistent : db.Consistent)
    (noneStored : ∀ id ∈ sources, id ∉ db.clusterIds) :
    db.countMembers sources = 0 := by
  rw [countMembers, List.length_eq_zero_iff, List.filter_eq_nil_iff]
  intro row member
  simp only [decide_eq_true_eq]
  exact fun listed => noneStored row.clusterId listed
    (consistent.memberClusters row member)

end Absorption

section Execution

variable {db : Database} {target : Int} {sources : List Int}

theorem mergeInto_missingTarget (missing : target ∉ db.clusterIds) :
    ∃ problem,
      atomically (mergeInto target sources) db = (.error problem, db) := by
  rw [atomically, mergeInto, bindInteger, run_require_bind]
  split
  · rw [run_query_bind, run_require_bind, if_neg missing]
    exact ⟨_, rfl⟩
  · exact ⟨_, rfl⟩

theorem mergeInto_unbound (notBound : ¬ ∀ id ∈ sources, IsSqlInteger id) :
    ∃ problem,
      atomically (mergeInto target sources) db = (.error problem, db) := by
  simp only [atomically, mergeInto, bindInteger, bindIntegers,
    run_require_bind, run_query_bind]
  split
  · split
    · exact ⟨_, rfl⟩
    · exact ⟨_, rfl⟩
  · exact ⟨_, rfl⟩

/-- Without any existing source the call returns before it writes. -/
theorem Consistent.mergeInto_noSource (consistent : db.Consistent)
    (targetStored : target ∈ db.clusterIds)
    (bound : ∀ id ∈ sources, IsSqlInteger id)
    (noneStored : ∀ id ∈ sources, id ∉ db.clusterIds) :
    atomically (mergeInto target sources) db =
      (.ok ⟨target, sources, 0, 0, false⟩, db) := by
  have nothing : db.countMembers sources = 0 ∧
      db.countClusters sources = 0 :=
    ⟨consistent.countMembers_eq_zero noneStored,
      countClusters_eq_zero_iff.mpr noneStored⟩
  rw [atomically, mergeInto, bindInteger, bindIntegers, run_require_bind,
    if_pos (consistent.clusterIdsSql target targetStored), run_query_bind,
    run_require_bind, if_pos targetStored, run_require_bind, if_pos bound,
    if_pos nothing]
  rfl

/-- With an existing source the call either finds no item to record the merge
for and raises, or commits the merge and its event. -/
theorem Consistent.mergeInto_source (consistent : db.Consistent)
    (targetStored : target ∈ db.clusterIds) (notSource : target ∉ sources)
    (bound : ∀ id ∈ sources, IsSqlInteger id)
    (someStored : ∃ id ∈ sources, id ∈ db.clusterIds) :
    atomically (mergeInto target sources) db =
      match (db.absorbClusters target sources).rankedFirst target with
      | none => (.error (.valueError
          "cannot record merge event without target cluster item"), db)
      | some itemId =>
          (.ok ⟨target, sources, db.countMembers sources,
              db.countClusters sources, true⟩,
            (db.absorbClusters target sources).recordMergeEvent itemId target
              sources) := by
  have merged : (db.absorbClusters target sources).Consistent :=
    consistent.absorbClusters targetStored
  have something : ¬ (db.countMembers sources = 0 ∧
      db.countClusters sources = 0) := by
    rintro ⟨-, noClusters⟩
    obtain ⟨id, listed, stored⟩ := someStored
    exact countClusters_eq_zero_iff.mp noClusters id listed stored
  have targetKept :
      target ∈ (db.absorbClusters target sources).clusterIds := by
    rw [clusterIds_absorbClusters]
    exact List.mem_filter.mpr ⟨targetStored, by simpa using notSource⟩
  rw [atomically, mergeInto, bindInteger, bindIntegers, run_require_bind,
    if_pos (consistent.clusterIdsSql target targetStored), run_query_bind,
    run_require_bind, if_pos targetStored, run_require_bind, if_pos bound,
    if_neg something, run_update_bind, run_query_bind]
  simp only [consistent.eventItem_absorbClusters targetStored notSource]
  cases ranked : (db.absorbClusters target sources).rankedFirst target with
  | none => rfl
  | some itemId =>
      have itemKept : itemId ∈ (db.absorbClusters target sources).itemIds := by
        obtain ⟨item, stored, rfl, -⟩ :=
          (rankedFirst_eq_some_iff merged.itemIdsNodup).mp ranked
        exact List.mem_map_of_mem stored
      simp only [run_require_bind]
      rw [if_pos ⟨itemKept, targetKept⟩]
      rfl

end Execution

/-- What a merge of the listed clusters into the target promises. -/
structure MergedInto (before : Database) (listed : List Int) (target : Int)
    (result : ClusterMergeResult) (after : Database) : Prop where
  members : ∀ clusterId itemId, after.Member clusterId itemId ↔
    (clusterId = target ∧ ∃ id ∈ listed, before.Member id itemId) ∨
      clusterId ∉ listed ∧ before.Member clusterId itemId
  membersNodup : after.dedupeMembers.Nodup
  targetCluster : ∃ row ∈ before.dedupeClusters, row.id = target ∧
    ∃ best, after.Preferred (after.Member target) best ∧
      { row with representativeItemId := some best } ∈ after.dedupeClusters
  sourcesGone : ∀ id ∈ listed, id ≠ target → id ∉ after.clusterIds
  unlistedKept : ∀ row : ClusterRow, row.id ∉ listed →
    (row ∈ after.dedupeClusters ↔ row ∈ before.dedupeClusters)
  clusterIdsNodup : after.clusterIds.Nodup
  itemsKept : after.items = before.items
  removedCount : result.removedClusterCount =
    (before.dedupeClusters.filter fun row =>
      row.id ∈ listed ∧ row.id ≠ target).length
  movedCount : result.movedMemberCount =
    (before.dedupeMembers.filter fun row =>
      row.clusterId ∈ listed ∧ row.clusterId ≠ target).length
  eventRecorded : result.recordedEvent = true
  decisions : ∃ event : DecisionRow, event.strategyName = "cluster_merge" ∧
    event.clusterId = some target ∧ after.Member target event.itemId ∧
    after.dedupeDecisions =
      before.dedupeDecisions.map (·.clearCluster fun id =>
        id ∈ listed ∧ id ≠ target) ++ [event]

section Correctness

variable {db : Database} {target : Int} {sources listed : List Int}

/-- Decisions of deleted clusters lose their reference; a decision refers to
existing clusters only. -/
private theorem Consistent.decisions_absorbClusters
    (consistent : db.Consistent)
    (isSource : ∀ id, id ∈ sources ↔ id ∈ listed ∧ id ≠ target) :
    (db.absorbClusters target sources).dedupeDecisions =
      db.dedupeDecisions.map (·.clearCluster fun id =>
        id ∈ listed ∧ id ≠ target) := by
  have afterDeletion :
      (db.absorbClusters target sources).dedupeDecisions =
        db.dedupeDecisions.map (·.clearCluster fun id =>
          id ∈ (db.dedupeClusters.filter
            fun row => row.id ∈ sources).map (·.id)) :=
    rfl
  rw [afterDeletion]
  apply List.map_congr_left
  intro row stored
  cases reference : row.clusterId with
  | none => simp [DecisionRow.clearCluster, clearReference, reference]
  | some id =>
      have clusterStored := consistent.decisionClusters row stored id reference
      have removedIff : id ∈ (db.dedupeClusters.filter
          fun cluster => cluster.id ∈ sources).map (·.id) ↔
            id ∈ listed ∧ id ≠ target := by
        rw [← isSource]
        constructor
        · intro removed
          obtain ⟨cluster, chosen, rfl⟩ := List.mem_map.mp removed
          simpa using (List.mem_filter.mp chosen).2
        · intro inSources
          obtain ⟨cluster, rowStored, rfl⟩ := List.mem_map.mp clusterStored
          exact List.mem_map_of_mem
            (List.mem_filter.mpr ⟨rowStored, by simpa using inSources⟩)
      simp only [DecisionRow.clearCluster, clearReference, reference,
        Option.filter_some, removedIff]

/-- The merge of a target with its sources keeps the promise for the list
they were taken from. -/
theorem Consistent.mergedInto (consistent : db.Consistent)
    (targetStored : target ∈ db.clusterIds) (targetListed : target ∈ listed)
    (isSource : ∀ id, id ∈ sources ↔ id ∈ listed ∧ id ≠ target)
    {itemId : Int}
    (ranked : (db.absorbClusters target sources).rankedFirst target =
      some itemId) :
    db.MergedInto listed target
      ⟨target, sources, db.countMembers sources, db.countClusters sources,
        true⟩
      ((db.absorbClusters target sources).recordMergeEvent itemId target
        sources) := by
  have notSource : target ∉ sources := fun inSources =>
    ((isSource target).mp inSources).2 rfl
  have merged : (db.absorbClusters target sources).Consistent :=
    consistent.absorbClusters targetStored
  have preferred := (rankedFirst_eq_some_iff merged.itemIdsNodup).mp ranked
  have rowKept : ∀ row : ClusterRow, row.id ∉ listed →
      db.absorbedCluster target sources row = some row := by
    intro row unlisted
    apply absorbedCluster_outside
    · intro inSources
      exact unlisted ((isSource row.id).mp inSources).1
    · intro isTarget
      exact unlisted (isTarget ▸ targetListed)
  refine
    { members := ?_
      membersNodup := merged.membersNodup
      targetCluster := ?_
      sourcesGone := ?_
      unlistedKept := ?_
      clusterIdsNodup := merged.clusterIdsNodup
      itemsKept := rfl
      removedCount := ?_
      movedCount := ?_
      eventRecorded := rfl
      decisions := ?_ }
  · intro clusterId item
    refine (consistent.member_absorbClusters targetStored notSource).trans
      (or_congr (and_congr_right fun _ => ?_) ?_)
    · refine exists_congr fun id => and_congr_left fun _ => ?_
      rw [isSource]
      by_cases isTarget : id = target
      · simp [isTarget, targetListed]
      · simp [isTarget]
    · rw [isSource, ← and_assoc]
      apply and_congr_left
      intro _
      by_cases isTarget : clusterId = target
      · simp [isTarget, targetListed]
      · simp [isTarget]
  · obtain ⟨row, stored, isTarget⟩ := List.mem_map.mp targetStored
    refine ⟨row, stored, isTarget, itemId, preferred, ?_⟩
    change _ ∈ (db.absorbClusters target sources).dedupeClusters
    rw [absorbClusters_dedupeClusters]
    refine List.mem_filterMap.mpr ⟨row, stored, ?_⟩
    rw [absorbedCluster_target isTarget notSource, ranked]
  · intro id inList different remaining
    have kept : id ∈ (db.absorbClusters target sources).clusterIds :=
      remaining
    rw [clusterIds_absorbClusters] at kept
    have notInSources := (List.mem_filter.mp kept).2
    simp [isSource, inList, different] at notInSources
  · intro row unlisted
    change row ∈ (db.absorbClusters target sources).dedupeClusters ↔ _
    rw [absorbClusters_dedupeClusters, List.mem_filterMap]
    constructor
    · rintro ⟨original, stored, changed⟩
      have unchanged := rowKept original
        (absorbedCluster_id changed ▸ unlisted)
      exact Option.some.inj (unchanged.symm.trans changed) ▸ stored
    · intro stored
      exact ⟨row, stored, rowKept row unlisted⟩
  · simp only [countClusters, isSource]
  · simp only [countMembers, isSource]
  · obtain ⟨-, -, -, member, -⟩ := preferred
    refine ⟨(db.absorbClusters target sources).mergeEvent itemId target
      sources, rfl, rfl, member, ?_⟩
    rw [recordMergeEvent, consistent.decisions_absorbClusters isSource]

theorem mergeClusters_of_sorted {source : Int}
    (sorted : sortedSet listed = target :: source :: sources) :
    mergeClusters (listed.map .int) = mergeInto target (source :: sources) := by
  rw [mergeClusters, normalizeClusterIds_int, sorted]

/-- A call either raises without effect, finds no source and returns without
effect, or merges the listed clusters into the one with the smallest id. -/
theorem Consistent.mergeClusters_cases (consistent : db.Consistent)
    (matchedClusterIds : List PyValue) :
    (∃ problem, atomically (mergeClusters matchedClusterIds) db =
      (.error problem, db)) ∨
    ∃ (listed : List Int) (target : Int) (sources : List Int),
      matchedClusterIds = listed.map .int ∧
      sortedSet listed = target :: sources ∧ target ∈ db.clusterIds ∧
      (∀ id ∈ sources, IsSqlInteger id) ∧
      (((∀ id ∈ sources, id ∉ db.clusterIds) ∧
        atomically (mergeClusters matchedClusterIds) db =
          (.ok ⟨target, sources, 0, 0, false⟩, db)) ∨
      ((∃ id ∈ sources, id ∈ db.clusterIds) ∧
        ∃ itemId,
          (db.absorbClusters target sources).rankedFirst target =
            some itemId ∧
          atomically (mergeClusters matchedClusterIds) db =
            (.ok ⟨target, sources, db.countMembers sources,
                db.countClusters sources, true⟩,
              (db.absorbClusters target sources).recordMergeEvent itemId
                target sources))) := by
  cases normalized : normalizeClusterIds matchedClusterIds with
  | error problem =>
      left
      rw [mergeClusters, normalized]
      exact ⟨problem, rfl⟩
  | ok unique =>
      obtain ⟨listed, rfl, rfl⟩ := normalizeClusterIds_eq_ok normalized
      match sorted : sortedSet listed with
      | [] | [_] =>
          left
          rw [mergeClusters, normalized, sorted]
          exact ⟨_, rfl⟩
      | target :: source :: sources =>
          rw [mergeClusters_of_sorted sorted]
          have notSource : target ∉ source :: sources := fun listedAgain =>
            ((sortedSet_cons sorted).2.2 target).mp listedAgain |>.2 rfl
          by_cases targetStored : target ∈ db.clusterIds
          · by_cases bound : ∀ id ∈ source :: sources, IsSqlInteger id
            · by_cases someStored :
                  ∃ id ∈ source :: sources, id ∈ db.clusterIds
              · have executed := consistent.mergeInto_source targetStored
                  notSource bound someStored
                cases ranked : (db.absorbClusters target
                    (source :: sources)).rankedFirst target with
                | none =>
                    rw [ranked] at executed
                    exact Or.inl ⟨_, executed⟩
                | some itemId =>
                    rw [ranked] at executed
                    exact Or.inr ⟨listed, target, source :: sources, rfl,
                      sorted, targetStored, bound,
                      Or.inr ⟨someStored, itemId, ranked, executed⟩⟩
              · push Not at someStored
                exact Or.inr ⟨listed, target, source :: sources, rfl, sorted,
                  targetStored, bound, Or.inl ⟨someStored,
                    consistent.mergeInto_noSource targetStored bound
                      someStored⟩⟩
            · exact Or.inl (mergeInto_unbound bound)
          · exact Or.inl (mergeInto_missingTarget targetStored)

theorem Consistent.recordMergeEvent (consistent : db.Consistent)
    {itemId : Int} (itemStored : itemId ∈ db.itemIds)
    (targetStored : target ∈ db.clusterIds) :
    (db.recordMergeEvent itemId target sources).Consistent := by
  refine
    { consistent with
      decisionItems := ?_
      decisionClusters := ?_
      decisionCandidates := ?_ }
  · exact forall_mem_append_row consistent.decisionItems itemStored
  · apply forall_mem_append_row consistent.decisionClusters
    intro id reference
    exact Option.some.inj reference ▸ targetStored
  · apply forall_mem_append_row consistent.decisionCandidates
    intro id reference
    cases reference

/-- The store after a committed merge is consistent. -/
theorem Consistent.merged (consistent : db.Consistent)
    (targetStored : target ∈ db.clusterIds) (notSource : target ∉ sources)
    {itemId : Int}
    (ranked : (db.absorbClusters target sources).rankedFirst target =
      some itemId) :
    ((db.absorbClusters target sources).recordMergeEvent itemId target
      sources).Consistent := by
  have merged : (db.absorbClusters target sources).Consistent :=
    consistent.absorbClusters targetStored
  apply merged.recordMergeEvent
  · obtain ⟨item, stored, rfl, -⟩ :=
      (rankedFirst_eq_some_iff merged.itemIdsNodup).mp ranked
    exact List.mem_map_of_mem stored
  · rw [clusterIds_absorbClusters]
    exact List.mem_filter.mpr ⟨targetStored, by simpa using notSource⟩

/-- The store after a call, whatever its result. -/
def mergeStore (matchedClusterIds : List PyValue) (db : Database) :
    Database :=
  (atomically (mergeClusters matchedClusterIds) db).2

/-- The call lists integers that SQLite can hold, the smallest of them names a
cluster, another one does too, and one of the clusters has an item. -/
structure AcceptsMerge (db : Database) (matchedClusterIds : List PyValue)
    (listed : List Int) (target : Int) : Prop where
  given : matchedClusterIds = listed.map .int
  targetListed : target ∈ listed
  least : ∀ id ∈ listed, target ≤ id
  bound : ∀ id ∈ listed, IsSqlInteger id
  targetStored : target ∈ db.clusterIds
  sourceStored : ∃ id ∈ listed, id ≠ target ∧ id ∈ db.clusterIds
  occupied : ∃ id ∈ listed, ∃ itemId, db.Member id itemId

/-- An accepted call sorts into its target and the sources. -/
private theorem AcceptsMerge.sorted {matchedClusterIds : List PyValue}
    (accepts : db.AcceptsMerge matchedClusterIds listed target) :
    ∃ source sources, sortedSet listed = target :: source :: sources := by
  obtain ⟨other, otherListed, different, -⟩ := accepts.sourceStored
  match sorted : sortedSet listed with
  | [] =>
      have member := mem_sortedSet.mpr otherListed
      rw [sorted] at member
      cases member
  | least :: sources =>
      obtain ⟨leastListed, below, isSource⟩ := sortedSet_cons sorted
      obtain rfl : least = target :=
        le_antisymm (below target accepts.targetListed)
          (accepts.least least leastListed)
      cases sources with
      | nil => cases (isSource other).mpr ⟨otherListed, different⟩
      | cons source sources => exact ⟨source, sources, rfl⟩

/-- An accepted call leaves the clusters absorbed and the event recorded. -/
theorem Consistent.mergeStore_of_accepts (consistent : db.Consistent)
    {matchedClusterIds : List PyValue}
    (accepts : db.AcceptsMerge matchedClusterIds listed target) :
    ∃ sources itemId, (∀ id, id ∈ sources ↔ id ∈ listed ∧ id ≠ target) ∧
      (db.absorbClusters target sources).rankedFirst target = some itemId ∧
      db.mergeStore matchedClusterIds =
        (db.absorbClusters target sources).recordMergeEvent itemId target
          sources := by
  obtain ⟨source, sources, sorted⟩ := accepts.sorted
  obtain ⟨-, -, isSource⟩ := sortedSet_cons sorted
  have notSource : target ∉ source :: sources := fun inSources =>
    ((isSource target).mp inSources).2 rfl
  have bound : ∀ id ∈ source :: sources, IsSqlInteger id :=
    fun id inSources => accepts.bound id ((isSource id).mp inSources).1
  have someStored : ∃ id ∈ source :: sources, id ∈ db.clusterIds := by
    obtain ⟨id, inList, different, stored⟩ := accepts.sourceStored
    exact ⟨id, (isSource id).mpr ⟨inList, different⟩, stored⟩
  obtain ⟨id, inList, itemId, member⟩ := accepts.occupied
  have joined : (db.absorbClusters target (source :: sources)).Member target
      itemId := by
    apply (consistent.member_absorbClusters accepts.targetStored
      notSource).mpr
    refine Or.inl ⟨rfl, id, ?_, member⟩
    by_cases isTarget : id = target
    · exact Or.inl isTarget
    · exact Or.inr ((isSource id).mpr ⟨inList, isTarget⟩)
  obtain ⟨best, ranked, -⟩ := (consistent.absorbClusters
    accepts.targetStored).rankedFirst_isSome joined
  have executed := consistent.mergeInto_source accepts.targetStored
    notSource bound someStored
  rw [ranked] at executed
  refine ⟨source :: sources, best, isSource, ranked, ?_⟩
  rw [Database.mergeStore, accepts.given, mergeClusters_of_sorted sorted,
    executed]

/-- A call that finds a source and an item to record was accepted. -/
private theorem Consistent.acceptsMerge (consistent : db.Consistent)
    {matchedClusterIds : List PyValue} {itemId : Int}
    (given : matchedClusterIds = listed.map .int)
    (sorted : sortedSet listed = target :: sources)
    (targetStored : target ∈ db.clusterIds)
    (bound : ∀ id ∈ sources, IsSqlInteger id)
    (someStored : ∃ id ∈ sources, id ∈ db.clusterIds)
    (ranked : (db.absorbClusters target sources).rankedFirst target =
      some itemId) :
    db.AcceptsMerge matchedClusterIds listed target := by
  obtain ⟨targetListed, least, isSource⟩ := sortedSet_cons sorted
  have notSource : target ∉ sources := fun inSources =>
    ((isSource target).mp inSources).2 rfl
  have listedBound : ∀ id ∈ listed, IsSqlInteger id := by
    intro id inList
    by_cases isTarget : id = target
    · rw [isTarget]
      exact consistent.clusterIdsSql target targetStored
    · exact bound id ((isSource id).mpr ⟨inList, isTarget⟩)
  have sourceStored : ∃ id ∈ listed, id ≠ target ∧ id ∈ db.clusterIds := by
    obtain ⟨id, inSources, stored⟩ := someStored
    obtain ⟨inList, different⟩ := (isSource id).mp inSources
    exact ⟨id, inList, different, stored⟩
  have occupied : ∃ id ∈ listed, ∃ itemId, db.Member id itemId := by
    obtain ⟨-, -, -, member, -⟩ := (rankedFirst_eq_some_iff
      (consistent.absorbClusters targetStored).itemIdsNodup).mp ranked
    rcases (consistent.member_absorbClusters targetStored notSource).mp
        member with
      ⟨-, id, rfl | inSources, before⟩ | ⟨different, -⟩
    · exact ⟨id, targetListed, itemId, before⟩
    · exact ⟨id, ((isSource id).mp inSources).1, itemId, before⟩
    · exact (different rfl).elim
  exact ⟨given, targetListed, least, listedBound, targetStored, sourceStored,
    occupied⟩

/-- A call changes the store exactly when it is accepted. -/
theorem Consistent.mergeStore_cases (consistent : db.Consistent)
    (matchedClusterIds : List PyValue) :
    (db.mergeStore matchedClusterIds = db ∧
      ∀ listed target, ¬ db.AcceptsMerge matchedClusterIds listed target) ∨
    ∃ listed target sources itemId,
      db.AcceptsMerge matchedClusterIds listed target ∧
      (∀ id, id ∈ sources ↔ id ∈ listed ∧ id ≠ target) ∧
      (db.absorbClusters target sources).rankedFirst target = some itemId ∧
      db.mergeStore matchedClusterIds =
        (db.absorbClusters target sources).recordMergeEvent itemId target
          sources := by
  by_cases accepted :
      ∃ listed target, db.AcceptsMerge matchedClusterIds listed target
  · right
    obtain ⟨listed, target, accepts⟩ := accepted
    obtain ⟨sources, itemId, outcome⟩ :=
      consistent.mergeStore_of_accepts accepts
    exact ⟨listed, target, sources, itemId, accepts, outcome⟩
  · left
    push Not at accepted
    refine ⟨?_, accepted⟩
    rcases consistent.mergeClusters_cases matchedClusterIds with
      ⟨problem, raised⟩ |
      ⟨listed, target, sources, given, sorted, targetStored, bound,
        ⟨-, executed⟩ | ⟨someStored, itemId, ranked, -⟩⟩
    · rw [Database.mergeStore, raised]
    · rw [Database.mergeStore, executed]
    · exact (accepted listed target (consistent.acceptsMerge given sorted
        targetStored bound someStored ranked)).elim

theorem Consistent.mergeStore (consistent : db.Consistent)
    (matchedClusterIds : List PyValue) :
    (db.mergeStore matchedClusterIds).Consistent := by
  rcases consistent.mergeStore_cases matchedClusterIds with
    ⟨unchanged, -⟩ |
    ⟨listed, target, sources, itemId, accepts, isSource, ranked, executed⟩
  · rw [unchanged]
    exact consistent
  · rw [executed]
    exact consistent.merged accepts.targetStored
      (fun inSources => ((isSource target).mp inSources).2 rfl) ranked

/-- A merge that raises leaves the store as it was.  A merge that succeeds was
given integers only and works on the smallest of them: it leaves the store as
it was when no other listed cluster exists, and merges all listed clusters
otherwise. -/
theorem mergeClusters_correct (consistent : db.Consistent)
    (matchedClusterIds : List PyValue) :
    match atomically (mergeClusters matchedClusterIds) db with
    | (.error _, after) => after = db
    | (.ok result, after) =>
        ∃ listed : List Int, matchedClusterIds = listed.map .int ∧
          result.targetClusterId ∈ listed ∧
          (∀ id ∈ listed, result.targetClusterId ≤ id) ∧
          ((∀ id ∈ listed, id ≠ result.targetClusterId →
              id ∉ db.clusterIds) →
            after = db ∧ result.recordedEvent = false) ∧
          ((∃ id ∈ listed, id ≠ result.targetClusterId ∧
              id ∈ db.clusterIds) →
            db.MergedInto listed result.targetClusterId result after) := by
  rcases consistent.mergeClusters_cases matchedClusterIds with
    ⟨problem, raised⟩ |
    ⟨listed, target, sources, given, sorted, targetStored, -, executed⟩
  · rw [raised]
  · obtain ⟨targetListed, least, isSource⟩ := sortedSet_cons sorted
    rcases executed with
      ⟨noneStored, executed⟩ | ⟨⟨id, inSources, stored⟩, itemId, ranked, executed⟩
    · rw [executed]
      refine ⟨listed, given, targetListed, least, fun _ => ⟨rfl, rfl⟩, ?_⟩
      rintro ⟨id, inList, different, stored⟩
      exact (noneStored id ((isSource id).mpr ⟨inList, different⟩)
        stored).elim
    · rw [executed]
      refine ⟨listed, given, targetListed, least, ?_, fun _ =>
        consistent.mergedInto targetStored targetListed isSource ranked⟩
      intro noneStored
      obtain ⟨inList, different⟩ := (isSource id).mp inSources
      exact (noneStored id inList different stored).elim

theorem mergeClusters_correct_sample :
    sampleStore.Consistent ∧
      ∃ result after,
        atomically (mergeClusters [.int 2, .int 1]) sampleStore =
          (.ok result, after) ∧
        sampleStore.MergedInto [2, 1] 1 result after := by
  have correct := mergeClusters_correct sampleStore_consistent
    [.int 2, .int 1]
  have executed : (atomically (mergeClusters [.int 2, .int 1])
      sampleStore).1 = .ok ⟨1, [2], 1, 1, true⟩ := by
    rfl
  rw [← Prod.eta (atomically (mergeClusters [.int 2, .int 1]) sampleStore),
    executed] at correct
  obtain ⟨listed, given, -, -, -, merges⟩ := correct
  have sameList : [2, 1] = listed :=
    List.map_injective_iff.mpr (fun _ _ => PyValue.int.inj) given
  subst sameList
  exact ⟨sampleStore_consistent, _, _,
    by rw [← executed, Prod.eta], merges ⟨2, by decide⟩⟩

end Correctness

end Database

end Tca
