import Tca.ClusterRepair

/-!
# Assignment of an item to a cluster

`assign_item_to_cluster` adds one membership: to the matched cluster, or to a
new cluster whose representative is the item.  The file embeds the call and
gives the store it leaves behind in closed form.
-/

namespace Tca

open TableRows Transaction

/-- Result payload for assigning one item to a dedupe cluster. -/
structure ClusterAssignmentResult where
  clusterId : Int
  createdCluster : Bool
  createdMembership : Bool
  deriving DecidableEq

namespace Database

/-- The store with one more membership. -/
def addMember (db : Database) (clusterId itemId : Int) : Database :=
  { db with dedupeMembers := db.dedupeMembers ++ [⟨clusterId, itemId⟩] }

/-- The store with a new cluster of one item. -/
def addCluster (db : Database) (clusterKey : String) (itemId : Int) :
    Database :=
  { db with
    dedupeClusters := db.dedupeClusters ++
      [⟨nextRowid db.clusterIds, clusterKey, some itemId⟩] }

end Database

/-- `INSERT INTO dedupe_clusters ... RETURNING id`.  Ids are allocated above
the largest one in use. -/
def insertCluster (clusterKey : String) (representativeItemId : Int) :
    StorageTransaction Int := do
  bindInteger representativeItemId
  let db ← query fun db => db
  require (clusterKey ∉ db.dedupeClusters.map (·.clusterKey))
    (.integrityError "UNIQUE constraint failed: dedupe_clusters.cluster_key")
  require (IsSqlInteger (nextRowid db.clusterIds))
    (.operationalError "database or disk is full")
  require (representativeItemId ∈ db.itemIds)
    (.integrityError "FOREIGN KEY constraint failed")
  update fun db => db.addCluster clusterKey representativeItemId
  return nextRowid db.clusterIds

/-- `INSERT INTO dedupe_members ... ON CONFLICT DO NOTHING RETURNING
cluster_id`; the result says whether a row came back. -/
def insertMember (clusterId itemId : Int) : StorageTransaction Bool := do
  bindIntegers [clusterId, itemId]
  let db ← query fun db => db
  if db.Member clusterId itemId then
    return false
  else
    require (clusterId ∈ db.clusterIds ∧ itemId ∈ db.itemIds)
      (.integrityError "FOREIGN KEY constraint failed")
    update fun db => db.addMember clusterId itemId
    return true

/-- Assign item to an existing cluster or create a new one when unmatched.
The cluster key is the text of a random UUID drawn by the call. -/
def assignItemToCluster (itemId : Int) (matchedClusterId : Option Int)
    (clusterKey : String) : StorageTransaction ClusterAssignmentResult := do
  let clusterId ←
    match matchedClusterId with
    | none => insertCluster clusterKey itemId
    | some clusterId => pure clusterId
  let createdMembership ← insertMember clusterId itemId
  commit
  return ⟨clusterId, matchedClusterId.isNone, createdMembership⟩

section Evaluation

variable (session : Session Database)

/-- An insertion of a membership in a view that holds both of its rows. -/
theorem insertMember_run {clusterId itemId : Int}
    (bound : IsSqlInteger clusterId ∧ IsSqlInteger itemId)
    (rowsExist : clusterId ∈ session.current.clusterIds ∧
      itemId ∈ session.current.itemIds) :
    (insertMember clusterId itemId).run session =
      if session.current.Member clusterId itemId then (.ok false, session)
      else (.ok true, ⟨session.committed,
        session.current.addMember clusterId itemId⟩) := by
  have allBound : ∀ value ∈ [clusterId, itemId], IsSqlInteger value := by
    simpa using bound
  rw [insertMember, bindIntegers, run_require_bind, if_pos allBound,
    run_query_bind]
  split
  · rfl
  · rw [run_require_bind, if_pos rowsExist]
    rfl

/-- An insertion of a membership is refused when one of its rows is missing,
provided no such membership is stored. -/
theorem insertMember_refused {clusterId itemId : Int}
    (missing : ¬ (clusterId ∈ session.current.clusterIds ∧
      itemId ∈ session.current.itemIds))
    (notMember : ¬ session.current.Member clusterId itemId) :
    ∃ problem, (insertMember clusterId itemId).run session =
      (.error problem, session) := by
  rw [insertMember, bindIntegers, run_require_bind]
  split
  · rw [run_query_bind, if_neg notMember, run_require_bind, if_neg missing]
    exact ⟨_, rfl⟩
  · exact ⟨_, rfl⟩

theorem insertCluster_run {clusterKey : String} {itemId : Int}
    (bound : IsSqlInteger itemId)
    (allowed : clusterKey ∉ session.current.dedupeClusters.map
        (·.clusterKey) ∧
      IsSqlInteger (nextRowid session.current.clusterIds) ∧
        itemId ∈ session.current.itemIds) :
    (insertCluster clusterKey itemId).run session =
      (.ok (nextRowid session.current.clusterIds),
        ⟨session.committed, session.current.addCluster clusterKey itemId⟩) := by
  rw [insertCluster, bindInteger, run_require_bind, if_pos bound,
    run_query_bind, run_require_bind, if_pos allowed.1, run_require_bind,
    if_pos allowed.2.1, run_require_bind, if_pos allowed.2.2]
  rfl

theorem insertCluster_refused {clusterKey : String} {itemId : Int}
    (refused : ¬ (clusterKey ∉ session.current.dedupeClusters.map
        (·.clusterKey) ∧
      IsSqlInteger (nextRowid session.current.clusterIds) ∧
        itemId ∈ session.current.itemIds)) :
    ∃ problem, (insertCluster clusterKey itemId).run session =
      (.error problem, session) := by
  simp only [insertCluster, bindInteger, run_require_bind, run_query_bind]
  split
  · split
    · rename_i keyFree
      split
      · rename_i idFree
        rw [if_neg fun itemStored => refused ⟨keyFree, idFree, itemStored⟩]
        exact ⟨_, rfl⟩
      · exact ⟨_, rfl⟩
    · exact ⟨_, rfl⟩
  · exact ⟨_, rfl⟩

end Evaluation

namespace Database

variable {db : Database}

@[simp]
theorem member_addMember {clusterId itemId otherCluster otherItem : Int} :
    (db.addMember clusterId itemId).Member otherCluster otherItem ↔
      db.Member otherCluster otherItem ∨
        otherCluster = clusterId ∧ otherItem = itemId := by
  simp [Member, addMember]

@[simp]
theorem clusterIds_addCluster {clusterKey : String} {itemId : Int} :
    (db.addCluster clusterKey itemId).clusterIds =
      db.clusterIds ++ [nextRowid db.clusterIds] := by
  simp [clusterIds, addCluster]

/-- A new cluster has no members yet. -/
theorem Consistent.not_member_nextRowid (consistent : db.Consistent)
    (itemId : Int) : ¬ db.Member (nextRowid db.clusterIds) itemId :=
  fun member => nextRowid_notMem db.clusterIds
    (consistent.memberClusters _ member)

/-- The store after an assignment to a matched cluster: one more membership
when both rows exist and the membership does not, and nothing otherwise. -/
theorem assign_matched (consistent : db.Consistent)
    (itemId clusterId : Int) (clusterKey : String) :
    (atomically (assignItemToCluster itemId (some clusterId) clusterKey)
        db).2 =
      if clusterId ∈ db.clusterIds ∧ itemId ∈ db.itemIds ∧
          ¬ db.Member clusterId itemId then
        db.addMember clusterId itemId
      else db := by
  have evaluated : ∀ outcome,
      (insertMember clusterId itemId).run ⟨db, db⟩ = outcome →
        (atomically (assignItemToCluster itemId (some clusterId) clusterKey)
          db).2 =
          match outcome with
          | (.ok _, later) => later.current
          | (.error _, later) => later.committed := by
    rintro ⟨value | value, later⟩ inserted
    · simp [atomically, assignItemToCluster, run_bind _ (insertMember _ _),
        inserted]
    · simp [atomically, assignItemToCluster, run_bind _ (insertMember _ _),
        inserted]
  by_cases rowsExist : clusterId ∈ db.clusterIds ∧ itemId ∈ db.itemIds
  · have bound : IsSqlInteger clusterId ∧ IsSqlInteger itemId :=
      ⟨consistent.clusterIdsSql clusterId rowsExist.1,
        consistent.itemIdsSql itemId rowsExist.2⟩
    rw [evaluated _ (insertMember_run ⟨db, db⟩ bound rowsExist)]
    by_cases member : db.Member clusterId itemId <;> simp [member, rowsExist]
  · have notMember : ¬ db.Member clusterId itemId := fun member =>
      rowsExist ⟨consistent.memberClusters _ member,
        consistent.memberItems _ member⟩
    obtain ⟨problem, raised⟩ :=
      insertMember_refused ⟨db, db⟩ rowsExist notMember
    rw [evaluated _ raised,
      if_neg fun allowed => rowsExist ⟨allowed.1, allowed.2.1⟩]

/-- The store after an assignment without a match: a new cluster of the one
item when the item exists and the key and an id are free, and nothing
otherwise. -/
theorem assign_unmatched (consistent : db.Consistent)
    (itemId : Int) (clusterKey : String) :
    (atomically (assignItemToCluster itemId none clusterKey) db).2 =
      if clusterKey ∉ db.dedupeClusters.map (·.clusterKey) ∧
          IsSqlInteger (nextRowid db.clusterIds) ∧ itemId ∈ db.itemIds then
        (db.addCluster clusterKey itemId).addMember
          (nextRowid db.clusterIds) itemId
      else db := by
  by_cases allowed : clusterKey ∉ db.dedupeClusters.map (·.clusterKey) ∧
      IsSqlInteger (nextRowid db.clusterIds) ∧ itemId ∈ db.itemIds
  · have bound : IsSqlInteger itemId :=
      consistent.itemIdsSql itemId allowed.2.2
    have created := insertCluster_run ⟨db, db⟩ bound allowed
    have stored : nextRowid db.clusterIds ∈
        (db.addCluster clusterKey itemId).clusterIds := by
      simp
    have newMember := insertMember_run
      ⟨db, db.addCluster clusterKey itemId⟩ ⟨allowed.2.1, bound⟩
      ⟨stored, allowed.2.2⟩
    have fresh : ¬ (db.addCluster clusterKey itemId).Member
        (nextRowid db.clusterIds) itemId :=
      consistent.not_member_nextRowid itemId
    rw [if_neg fresh] at newMember
    rw [if_pos allowed]
    simp [atomically, assignItemToCluster, run_bind _ (insertCluster _ _),
      run_bind _ (insertMember _ _), created, newMember]
  · obtain ⟨problem, raised⟩ := insertCluster_refused ⟨db, db⟩ allowed
    rw [if_neg allowed]
    simp [atomically, assignItemToCluster, run_bind _ (insertCluster _ _),
      raised]

theorem Consistent.addMember (consistent : db.Consistent)
    {clusterId itemId : Int} (clusterStored : clusterId ∈ db.clusterIds)
    (itemStored : itemId ∈ db.itemIds)
    (fresh : ¬ db.Member clusterId itemId) :
    (db.addMember clusterId itemId).Consistent :=
  { consistent with
    membersNodup := nodup_append_fresh consistent.membersNodup fresh
    memberClusters :=
      forall_mem_append_row consistent.memberClusters clusterStored
    memberItems :=
      forall_mem_append_row consistent.memberItems itemStored }

theorem Consistent.addCluster (consistent : db.Consistent)
    {clusterKey : String} {itemId : Int}
    (keyFree : clusterKey ∉ db.dedupeClusters.map (·.clusterKey))
    (idFree : IsSqlInteger (nextRowid db.clusterIds))
    (itemStored : itemId ∈ db.itemIds) :
    (db.addCluster clusterKey itemId).Consistent := by
  have idKept : ∀ id ∈ db.clusterIds,
      id ∈ (db.addCluster clusterKey itemId).clusterIds := by
    intro id stored
    rw [clusterIds_addCluster]
    exact List.mem_append_left _ stored
  refine
    { consistent with
      clusterIdsNodup := by
        rw [clusterIds_addCluster]
        exact nodup_append_fresh consistent.clusterIdsNodup
          (nextRowid_notMem db.clusterIds)
      clusterKeysNodup := by
        rw [Database.addCluster, List.map_append]
        exact nodup_append_fresh consistent.clusterKeysNodup keyFree
      representatives := ?_
      memberClusters := fun row member =>
        idKept _ (consistent.memberClusters row member)
      decisionClusters := fun row member id reference =>
        idKept _ (consistent.decisionClusters row member id reference)
      deliveries := fun row member =>
        idKept _ (consistent.deliveries row member)
      clusterIdsSql := ?_ }
  · apply forall_mem_append_row consistent.representatives
    intro id reference
    exact Option.some.inj reference ▸ itemStored
  · rw [clusterIds_addCluster]
    exact forall_mem_append_row consistent.clusterIdsSql idFree

end Database

end Tca
