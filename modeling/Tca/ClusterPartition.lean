import Tca.DedupeOperations

/-!
# Clusters as a partition of items

The key of a membership is the pair of cluster and item, so the schema allows
an item in several clusters.  Merges and deletions never put an item in a
second cluster; an assignment does when the item already has one.
-/

namespace Tca

open TableRows GuardedRuns

namespace Database

/-- No item is a member of two clusters. -/
def ClustersDisjoint (db : Database) : Prop :=
  ∀ firstCluster secondCluster itemId, db.Member firstCluster itemId →
    db.Member secondCluster itemId → firstCluster = secondCluster

/-- The item is a member of some cluster. -/
def IsAssigned (db : Database) (itemId : Int) : Prop :=
  itemId ∈ db.dedupeMembers.map (·.itemId)

instance (db : Database) (itemId : Int) : Decidable (db.IsAssigned itemId) :=
  inferInstanceAs (Decidable (_ ∈ db.dedupeMembers.map _))

theorem isAssigned_iff {db : Database} {itemId : Int} :
    db.IsAssigned itemId ↔ ∃ clusterId, db.Member clusterId itemId := by
  constructor
  · intro assigned
    obtain ⟨row, stored, rfl⟩ := List.mem_map.mp assigned
    exact ⟨row.clusterId, stored⟩
  · rintro ⟨clusterId, member⟩
    exact List.mem_map.mpr ⟨⟨clusterId, itemId⟩, member, rfl⟩

end Database

/-- An assignment adds a membership only for an item that has none. -/
def DedupeOperation.KeepsPartition : DedupeOperation → Database → Prop
  | .assign itemId matchedClusterId clusterKey, db =>
      db.AddsMember itemId matchedClusterId clusterKey → ¬ db.IsAssigned itemId
  | _, _ => True

instance : ∀ (operation : DedupeOperation) (db : Database),
    Decidable (operation.KeepsPartition db)
  | .assign itemId matchedClusterId clusterKey, db =>
      inferInstanceAs (Decidable
        (db.AddsMember itemId matchedClusterId clusterKey →
          ¬ db.IsAssigned itemId))
  | .merge _, _ => .isTrue trivial
  | .purge _, _ => .isTrue trivial
  | .prune _, _ => .isTrue trivial
  | .insertItem _, _ => .isTrue trivial
  | .insertChannel _, _ => .isTrue trivial
  | .insertRawMessage _, _ => .isTrue trivial
  | .saveSettings _, _ => .isTrue trivial

namespace Database

variable {db after : Database}

theorem keepsPartition_of_other {operation : DedupeOperation}
    (other : operation.isAssign = false) (db : Database) :
    operation.KeepsPartition db := by
  cases operation with
  | assign => cases other
  | _ => trivial

/-- Fewer memberships remain disjoint. -/
theorem ClustersDisjoint.mono (disjoint : db.ClustersDisjoint)
    (fewer : ∀ clusterId itemId, after.Member clusterId itemId →
      db.Member clusterId itemId) : after.ClustersDisjoint :=
  fun first second itemId firstMember secondMember =>
    disjoint first second itemId (fewer first itemId firstMember)
      (fewer second itemId secondMember)

/-- A merge pools whole clusters. -/
theorem ClustersDisjoint.merged (disjoint : db.ClustersDisjoint)
    {listed : List Int} {target : Int} {result : ClusterMergeResult}
    (merged : db.MergedInto listed target result after) :
    after.ClustersDisjoint := by
  intro first second itemId firstMember secondMember
  rcases (merged.members first itemId).mp firstMember with
    ⟨rfl, id, inList, member⟩ | ⟨unlisted, member⟩
  · rcases (merged.members second itemId).mp secondMember with
      ⟨rfl, -⟩ | ⟨otherUnlisted, otherMember⟩
    · rfl
    · have same := disjoint id second itemId member otherMember
      exact (otherUnlisted (same ▸ inList)).elim
  · rcases (merged.members second itemId).mp secondMember with
      ⟨rfl, id, inList, otherMember⟩ | ⟨-, otherMember⟩
    · have same := disjoint id first itemId otherMember member
      exact (unlisted (same ▸ inList)).elim
    · exact disjoint first second itemId member otherMember

/-- A new membership of an item keeps the clusters disjoint exactly when the
item had none. -/
theorem ClustersDisjoint.added_iff (disjoint : db.ClustersDisjoint)
    {clusterId itemId : Int} (fresh : ¬ db.Member clusterId itemId)
    (members : ∀ otherCluster otherItem,
      after.Member otherCluster otherItem ↔
        db.Member otherCluster otherItem ∨
          otherCluster = clusterId ∧ otherItem = itemId) :
    after.ClustersDisjoint ↔ ¬ db.IsAssigned itemId := by
  rw [isAssigned_iff]
  constructor
  · rintro disjointAfter ⟨holder, member⟩
    have same := disjointAfter holder clusterId itemId
      ((members _ _).mpr (Or.inl member))
      ((members _ _).mpr (Or.inr ⟨rfl, rfl⟩))
    exact fresh (same ▸ member)
  · intro unassigned first second item firstMember secondMember
    rcases (members _ _).mp firstMember with before | ⟨rfl, rfl⟩
    · rcases (members _ _).mp secondMember with otherBefore | ⟨rfl, rfl⟩
      · exact disjoint first second item before otherBefore
      · exact (unassigned ⟨first, before⟩).elim
    · rcases (members _ _).mp secondMember with otherBefore | ⟨rfl, -⟩
      · exact (unassigned ⟨second, otherBefore⟩).elim
      · rfl

/-- One operation keeps the clusters disjoint exactly when it is not an
assignment that adds a second membership. -/
theorem ClustersDisjoint.effect_iff (disjoint : db.ClustersDisjoint)
    (consistent : db.Consistent) {operation : DedupeOperation}
    (effect : db.Effect operation after) :
    after.ClustersDisjoint ↔ operation.KeepsPartition db := by
  cases effect with
  | assigned adds =>
      rw [disjoint.added_iff adds.2.2 fun _ _ => member_addMember]
      exact ⟨fun unassigned _ => unassigned, fun keeps => keeps adds⟩
  | @created itemId clusterKey adds =>
      have members : ∀ otherCluster otherItem,
          ((db.addCluster clusterKey itemId).addMember
            (nextRowid db.clusterIds) itemId).Member otherCluster otherItem ↔
              db.Member otherCluster otherItem ∨
                otherCluster = nextRowid db.clusterIds ∧ otherItem = itemId :=
        fun _ _ => member_addMember
      rw [disjoint.added_iff (consistent.not_member_nextRowid itemId) members]
      exact ⟨fun unassigned _ => unassigned, fun keeps => keeps adds⟩
  | notAssigned refused =>
      exact iff_of_true disjoint fun adds => (refused adds).elim
  | merged other merged targetListed sameChannels =>
      exact iff_of_true (disjoint.merged merged)
        (keepsPartition_of_other other db)
  | removed other removes =>
      exact iff_of_true
        (disjoint.mono fun clusterId itemId member =>
          ((removes.repaired.members clusterId itemId).mp member).1)
        (keepsPartition_of_other other db)
  | itemAdded other =>
      exact iff_of_true (disjoint.mono fun _ _ member => member)
        (keepsPartition_of_other other db)
  | elsewhere other sameItems sameClusters sameMembers channels =>
      refine iff_of_true (disjoint.mono fun clusterId itemId member => ?_)
        (keepsPartition_of_other other db)
      rwa [Member, sameMembers] at member

/-- A run from an empty dedupe state keeps every item in at most one cluster
at all times exactly when none of its assignments adds a membership for an
item that has one. -/
theorem clustersDisjoint_iff (start : db.EmptyDedupeState)
    (operations : List DedupeOperation) :
    Always DedupeOperation.execute ClustersDisjoint operations db ↔
      Guarded DedupeOperation.execute DedupeOperation.KeepsPartition
        operations db := by
  have initially : db.ClustersDisjoint := fun first _ itemId member =>
    (start.not_member first itemId member).elim
  refine always_iff_guarded DedupeOperation.execute
    (fun operation state (before : state.DedupeInvariant) =>
      before.execute operation)
    (fun operation state invariant disjoint => ?_) operations
    start.invariant initially
  exact disjoint.effect_iff invariant.consistent (invariant.effect operation)

theorem clustersDisjoint_iff_sample :
    empty.EmptyDedupeState ∧
      Always DedupeOperation.execute ClustersDisjoint sampleRun empty :=
  ⟨empty_emptyDedupeState,
    (clustersDisjoint_iff empty_emptyDedupeState _).mpr
      (by decide)⟩

/-- A repeated assignment without a match creates a second cluster for the
item. -/
theorem repeated_assignment_splits_item :
    ¬ Always DedupeOperation.execute ClustersDisjoint
      (sampleRun ++ [.assign 1 none "other key"]) empty := by
  intro always
  have same := always _ (List.prefix_refl _) 1 2 1 (by decide) (by decide)
  revert same
  decide

end Database

end Tca
