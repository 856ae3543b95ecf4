import Tca.DedupeOperations

/-!
# The representative over whole runs

Merges, purges and prune runs recompute the representatives of the clusters
they touch, an assignment does not.  A run from an empty dedupe state keeps
the preferred member as the representative of every cluster exactly when no
assignment adds to a cluster an item that outranks its representative.
-/

namespace Tca

open TableRows GuardedRuns

namespace Database

/-- Every cluster with members is represented by the preferred one. -/
def RepresentativesPreferred (db : Database) : Prop :=
  ∀ row ∈ db.dedupeClusters, (∃ itemId, db.Member row.id itemId) →
    ∃ best, row.representativeItemId = some best ∧
      db.Preferred (db.Member row.id) best

end Database

/-- An assignment adds to a cluster only an item that does not outrank the
representative of the cluster. -/
def DedupeOperation.KeepsRepresentatives : DedupeOperation → Database → Prop
  | .assign itemId (some clusterId) clusterKey, db =>
      db.AddsMember itemId (some clusterId) clusterKey →
        ∀ item ∈ db.items, item.id = itemId →
          ∀ cluster ∈ db.dedupeClusters, cluster.id = clusterId →
            ∀ representative ∈ db.items,
              cluster.representativeItemId = some representative.id →
                ¬ item.Outranks representative
  | _, _ => True

instance : ∀ (operation : DedupeOperation) (db : Database),
    Decidable (operation.KeepsRepresentatives db)
  | .assign itemId (some clusterId) clusterKey, db =>
      inferInstanceAs (Decidable
        (db.AddsMember itemId (some clusterId) clusterKey →
          ∀ item ∈ db.items, item.id = itemId →
            ∀ cluster ∈ db.dedupeClusters, cluster.id = clusterId →
              ∀ representative ∈ db.items,
                cluster.representativeItemId = some representative.id →
                  ¬ item.Outranks representative))
  | .assign _ none _, _ => .isTrue trivial
  | .merge _, _ => .isTrue trivial
  | .purge _, _ => .isTrue trivial
  | .prune _, _ => .isTrue trivial
  | .insertItem _, _ => .isTrue trivial
  | .insertChannel _, _ => .isTrue trivial
  | .insertRawMessage _, _ => .isTrue trivial
  | .saveSettings _, _ => .isTrue trivial

namespace Database

variable {db after : Database}

theorem keepsRepresentatives_of_other {operation : DedupeOperation}
    (other : operation.isAssign = false) (db : Database) :
    operation.KeepsRepresentatives db := by
  cases operation with
  | assign => cases other
  | _ => trivial

/-- Clusters whose members stay as they were stay represented by the
preferred one. -/
theorem RepresentativesPreferred.transfer
    (preferred : db.RepresentativesPreferred) (consistent : db.Consistent)
    (afterConsistent : after.Consistent) {row : ClusterRow}
    (stored : row ∈ db.dedupeClusters)
    (sameMembers : ∀ itemId, after.Member row.id itemId ↔
      db.Member row.id itemId)
    (originals : ∀ item ∈ after.items, db.Member row.id item.id →
      ∃ original ∈ db.items, original.id = item.id ∧
        original.rankKey = item.rankKey)
    (occupied : ∃ itemId, after.Member row.id itemId) :
    ∃ best, row.representativeItemId = some best ∧
      after.Preferred (after.Member row.id) best := by
  simp only [sameMembers] at occupied
  obtain ⟨best, represented, isPreferred⟩ := preferred row stored occupied
  refine ⟨best, represented, ?_⟩
  have member : after.Member row.id best := by
    obtain ⟨-, -, -, before, -⟩ := isPreferred
    exact (sameMembers best).mpr before
  refine isPreferred.transfer consistent.itemIdsNodup
    (afterConsistent.memberItems _ member) member ?_
  intro item itemStored itemMember
  have before := (sameMembers item.id).mp itemMember
  obtain ⟨original, originalStored, sameId, sameKey⟩ :=
    originals item itemStored before
  exact ⟨original, originalStored, sameId, sameKey, sameId ▸ before⟩

/-- A merge ranks the members of its target and leaves the others. -/
theorem RepresentativesPreferred.merged
    (preferred : db.RepresentativesPreferred) (consistent : db.Consistent)
    (afterConsistent : after.Consistent) {listed : List Int} {target : Int}
    {result : ClusterMergeResult} (targetListed : target ∈ listed)
    (merged : db.MergedInto listed target result after) :
    after.RepresentativesPreferred := by
  intro row stored occupied
  rcases merged.cluster_cases stored with
    ⟨unlisted, before⟩ | ⟨isTarget, -, best, represented, ranked⟩
  · have sameMembers : ∀ itemId, after.Member row.id itemId ↔
        db.Member row.id itemId := by
      intro itemId
      have notTarget : row.id ≠ target := by
        rintro isTarget
        exact unlisted (isTarget ▸ targetListed)
      rw [merged.members]
      simp [notTarget, unlisted]
    refine preferred.transfer consistent afterConsistent before sameMembers
      ?_ occupied
    rw [merged.itemsKept]
    exact fun item itemStored _ => ⟨item, itemStored, rfl, rfl⟩
  · exact ⟨best, represented, isTarget ▸ ranked⟩

/-- A removal ranks the members of the clusters that lose one and leaves the
others. -/
theorem RepresentativesPreferred.removed
    (preferred : db.RepresentativesPreferred) (consistent : db.Consistent)
    (afterConsistent : after.Consistent) {gone : Int → Prop}
    (removes : db.RemovesItems gone after) :
    after.RepresentativesPreferred := by
  intro row stored occupied
  obtain ⟨original, before, sameId, -⟩ := removes.repaired.keptRows row stored
  by_cases loses : db.LosesMember gone original.id
  · obtain ⟨itemId, member⟩ := occupied
    obtain ⟨best, ranked, changed⟩ := removes.repaired.repaired original before
      loses ⟨itemId, (removes.repaired.members _ _).mp (sameId ▸ member)⟩
    obtain rfl := eq_of_key_eq afterConsistent.clusterIdsNodup changed stored
      sameId
    exact ⟨best, rfl, ranked⟩
  · obtain rfl := eq_of_key_eq afterConsistent.clusterIdsNodup
      (removes.repaired.unaffected original before loses) stored sameId
    refine preferred.transfer consistent afterConsistent before
      (fun itemId => ?_) (fun item itemStored _ => removes.items item
        itemStored) occupied
    rw [removes.repaired.members]
    exact and_iff_left_of_imp fun member isGone =>
      loses ⟨itemId, member, isGone⟩

/-- The members that matter to other clusters do not change when a cluster
gets a new member. -/
theorem RepresentativesPreferred.other_cluster
    (preferred : db.RepresentativesPreferred) (consistent : db.Consistent)
    (afterConsistent : after.Consistent) {clusterId itemId : Int}
    (members : ∀ otherCluster otherItem,
      after.Member otherCluster otherItem ↔
        db.Member otherCluster otherItem ∨
          otherCluster = clusterId ∧ otherItem = itemId)
    (sameItems : after.items = db.items) {row : ClusterRow}
    (stored : row ∈ db.dedupeClusters) (different : row.id ≠ clusterId)
    (occupied : ∃ item, after.Member row.id item) :
    ∃ best, row.representativeItemId = some best ∧
      after.Preferred (after.Member row.id) best := by
  refine preferred.transfer consistent afterConsistent stored
    (fun item => ?_) ?_ occupied
  · rw [members]
    simp [different]
  · rw [sameItems]
    exact fun item itemStored _ => ⟨item, itemStored, rfl, rfl⟩

/-- A new cluster is represented by its only member. -/
theorem RepresentativesPreferred.created
    (preferred : db.RepresentativesPreferred) (consistent : db.Consistent)
    {itemId : Int} {clusterKey : String}
    (afterConsistent : ((db.addCluster clusterKey itemId).addMember
      (nextRowid db.clusterIds) itemId).Consistent)
    (itemStored : itemId ∈ db.itemIds) :
    ((db.addCluster clusterKey itemId).addMember (nextRowid db.clusterIds)
      itemId).RepresentativesPreferred := by
  have members : ∀ otherCluster otherItem,
      ((db.addCluster clusterKey itemId).addMember (nextRowid db.clusterIds)
        itemId).Member otherCluster otherItem ↔
          db.Member otherCluster otherItem ∨
            otherCluster = nextRowid db.clusterIds ∧ otherItem = itemId :=
    fun _ _ => member_addMember
  intro row stored occupied
  rcases List.mem_append.mp stored with before | added
  · have different : row.id ≠ nextRowid db.clusterIds := fun isNew =>
      nextRowid_notMem db.clusterIds (isNew ▸ List.mem_map_of_mem before)
    exact preferred.other_cluster consistent afterConsistent members rfl
      before different occupied
  · obtain rfl := List.mem_singleton.mp added
    obtain ⟨item, inItems, rfl⟩ := List.mem_map.mp itemStored
    refine ⟨item.id, rfl, item, inItems, rfl,
      (members _ _).mpr (Or.inr ⟨rfl, rfl⟩), ?_⟩
    intro other _ otherMember otherDifferent
    rcases (members _ _).mp otherMember with earlier | ⟨-, same⟩
    · exact (consistent.not_member_nextRowid _ earlier).elim
    · exact (otherDifferent same).elim

/-- An assignment to an existing cluster keeps its representative preferred
exactly when the item does not outrank it. -/
theorem RepresentativesPreferred.assigned_iff
    (preferred : db.RepresentativesPreferred) (consistent : db.Consistent)
    (sound : db.SoundClusters) {itemId clusterId : Int} {clusterKey : String}
    (adds : db.AddsMember itemId (some clusterId) clusterKey) :
    (db.addMember clusterId itemId).RepresentativesPreferred ↔
      (DedupeOperation.assign itemId (some clusterId)
        clusterKey).KeepsRepresentatives db := by
  obtain ⟨clusterStored, itemStored, fresh⟩ := adds
  have afterConsistent :=
    consistent.addMember clusterStored itemStored fresh
  constructor
  · rintro kept - item inItems rfl cluster inClusters rfl representative
      representativeStored represented
    obtain ⟨best, isBest, row, rowStored, rfl, -, outranks⟩ :=
      kept cluster inClusters
        ⟨item.id, member_addMember.mpr (Or.inr ⟨rfl, rfl⟩)⟩
    have sameId : row.id = representative.id :=
      Option.some.inj (isBest.symm.trans represented)
    obtain rfl := eq_of_key_eq consistent.itemIdsNodup rowStored
      representativeStored sameId
    -- The representative was a member before, so it is not the new item.
    have different : item.id ≠ row.id := by
      obtain ⟨itemId, isMember, member⟩ := sound cluster inClusters
      have same : itemId = row.id :=
        Option.some.inj (isMember.symm.trans represented)
      intro sameItem
      exact fresh (sameItem ▸ same ▸ member)
    exact ItemRow.not_outranks_of_outranks (outranks item inItems
      (member_addMember.mpr (Or.inr ⟨rfl, rfl⟩)) different)
  · intro keeps row stored occupied
    by_cases isCluster : row.id = clusterId
    · subst isCluster
      obtain ⟨itemId', -, member⟩ := sound row stored
      obtain ⟨best, represented, bestRow, bestStored, rfl, bestMember,
        outranks⟩ := preferred row stored ⟨itemId', member⟩
      refine ⟨bestRow.id, represented, bestRow, bestStored, rfl,
        member_addMember.mpr (Or.inl bestMember), ?_⟩
      intro other otherStored otherMember different
      rcases member_addMember.mp otherMember with before | ⟨-, isItem⟩
      · exact outranks other otherStored before different
      · have notAbove := keeps ⟨clusterStored, itemStored, fresh⟩ other
          otherStored isItem row stored rfl bestRow bestStored represented
        exact (ItemRow.outranks_or_outranks different).resolve_left notAbove
    · exact preferred.other_cluster consistent afterConsistent
        (fun _ _ => member_addMember) rfl stored isCluster occupied

/-- One operation keeps the representatives preferred exactly when it is not
an assignment of an item that outranks the representative. -/
theorem RepresentativesPreferred.effect_iff
    (preferred : db.RepresentativesPreferred) (consistent : db.Consistent)
    (sound : db.SoundClusters) (afterConsistent : after.Consistent)
    {operation : DedupeOperation} (effect : db.Effect operation after) :
    after.RepresentativesPreferred ↔ operation.KeepsRepresentatives db := by
  cases effect with
  | assigned adds => exact preferred.assigned_iff consistent sound adds
  | created adds =>
      exact iff_of_true
        (preferred.created consistent afterConsistent adds.2.2) trivial
  | @notAssigned itemId matchedClusterId clusterKey refused =>
      apply iff_of_true preferred
      cases matchedClusterId with
      | none => trivial
      | some clusterId => exact fun adds => (refused adds).elim
  | merged other merged targetListed sameChannels =>
      exact iff_of_true
        (preferred.merged consistent afterConsistent targetListed merged)
        (keepsRepresentatives_of_other other db)
  | removed other removes =>
      exact iff_of_true
        (preferred.removed consistent afterConsistent removes)
        (keepsRepresentatives_of_other other db)
  | itemAdded other =>
      refine iff_of_true (fun row stored occupied => ?_)
        (keepsRepresentatives_of_other other db)
      refine preferred.transfer consistent afterConsistent stored
        (fun _ => Iff.rfl) (fun item itemStored member => ?_) occupied
      -- The new item is no member yet, so every member is an old item.
      obtain ⟨original, originalStored, sameId⟩ :=
        List.mem_map.mp (consistent.memberItems _ member)
      obtain rfl := eq_of_key_eq afterConsistent.itemIdsNodup
        (List.mem_append_left _ originalStored) itemStored sameId
      exact ⟨original, originalStored, rfl, rfl⟩
  | elsewhere other sameItems sameClusters sameMembers channels =>
      refine iff_of_true (fun row stored occupied => ?_)
        (keepsRepresentatives_of_other other db)
      rw [sameClusters] at stored
      refine preferred.transfer consistent afterConsistent stored
        (fun itemId => by rw [Member, Member, sameMembers])
        (fun item itemStored _ => ?_) occupied
      rw [sameItems] at itemStored
      exact ⟨item, itemStored, rfl, rfl⟩

/-- A run from an empty dedupe state represents every cluster by its preferred
member at all times exactly when none of its assignments adds to a cluster an
item that outranks the representative. -/
theorem representativesPreferred_iff (start : db.EmptyDedupeState)
    (operations : List DedupeOperation) :
    Always DedupeOperation.execute RepresentativesPreferred operations db ↔
      Guarded DedupeOperation.execute DedupeOperation.KeepsRepresentatives
        operations db := by
  have initially : db.RepresentativesPreferred := by
    intro row stored
    rw [start.noClusters] at stored
    cases stored
  refine always_iff_guarded DedupeOperation.execute
    (fun operation state (before : state.DedupeInvariant) =>
      before.execute operation)
    (fun operation state invariant preferred => ?_) operations
    start.invariant initially
  exact preferred.effect_iff invariant.consistent invariant.sound
    (invariant.execute operation).consistent (invariant.effect operation)

/-- An item without and an item with a canonical URL. -/
def sampleInsertions : List DedupeOperation :=
  [.insertChannel ⟨0, 1, 100, "first", none, true⟩,
    .insertItem (sampleItem 1 1 none),
    .insertItem (sampleItem 2 1 (some "https://example.org"))]

theorem representativesPreferred_iff_sample :
    empty.EmptyDedupeState ∧
      Always DedupeOperation.execute RepresentativesPreferred
        (sampleInsertions ++
          [.assign 2 none "key", .assign 1 (some 1) "unused"]) empty :=
  ⟨empty_emptyDedupeState,
    (representativesPreferred_iff empty_emptyDedupeState _).mpr
      (by decide)⟩

/-- The item with the URL joins the cluster of the one without, which remains
the representative. -/
theorem assignment_leaves_outranked_representative :
    ¬ Always DedupeOperation.execute RepresentativesPreferred
      (sampleInsertions ++
        [.assign 1 none "key", .assign 2 (some 1) "unused"]) empty := by
  intro always
  have last := always _ (List.prefix_refl _)
  obtain ⟨best, represented, row, rowStored, rfl, -, outranks⟩ :=
    last ⟨1, "key", some 1⟩ (by decide) ⟨1, by decide⟩
  have isFirst : row.id = 1 := (Option.some.inj represented).symm
  have found : row = sampleItem 1 1 none :=
    eq_of_key_eq (by decide : (run DedupeOperation.execute (sampleInsertions ++
      [.assign 1 none "key", .assign 2 (some 1) "unused"]) empty).itemIds.Nodup)
      rowStored (by decide) isFirst
  have above := outranks (sampleItem 2 1 (some "https://example.org"))
    (by decide) (by decide) (by rw [isFirst]; decide)
  rw [found] at above
  revert above
  decide

end Database

end Tca
