import Tca.ChannelPurge
import Tca.RetentionCutoffs
import Tca.RetentionPrune

/-!
# How many parameters the statements bind

SQLite rejects statements with too many bound parameters, and a list that is
compared with `IN` binds one for each of its elements at each place.  The prune
job deletes in batches, but repairs all clusters that lost a member at once, as
the purge of a channel does.  The file lists the statements of both with what
they bind, and says for which databases all of them are accepted.
-/

namespace Tca

open SortedSets

/-- A parameter of a statement: one value, or a list that occurs at some
places. -/
inductive SqlParameter where
  | scalar
  | expanding (values : List Int) (places : Nat)
  deriving DecidableEq

namespace SqlParameter

/-- The parameters that SQLite binds for it. -/
def bound : SqlParameter → Nat
  | scalar => 1
  | expanding values places => values.length * places

end SqlParameter

abbrev SqlStatement : Type :=
  List SqlParameter

/-- The parameters that a statement binds. -/
def boundParameters (statement : SqlStatement) : Nat :=
  (statement.map SqlParameter.bound).sum

/-- The largest number of parameters that SQLite accepts. -/
def maxVariableNumber : Nat := 32766

/-- No statement is rejected. -/
def WithinLimit (statements : List SqlStatement) : Prop :=
  ∀ statement ∈ statements, boundParameters statement ≤ maxVariableNumber

instance (statements : List SqlStatement) :
    Decidable (WithinLimit statements) :=
  inferInstanceAs (Decidable (∀ statement ∈ statements, _))

/-- The statements that repair the clusters of a list: the recomputation,
which names the list twice, and the deletion of empty clusters. -/
def repairStatements (clusterIds : List Int) : List SqlStatement :=
  if clusterIds.isEmpty then []
  else [[.expanding clusterIds 2], [.expanding clusterIds 1]]

namespace Database

/-- The statements of `_delete_expired_raw_messages_in_batches`. -/
def rawMessageStatements (cutoff : String) (db : Database) :
    List SqlStatement :=
  let rawMessageIds := db.expiredRawMessageIds cutoff
  if _exhausted : rawMessageIds = [] then [[.scalar, .scalar]]
  else
    [.scalar, .scalar] :: [.expanding rawMessageIds 1] ::
      rawMessageStatements cutoff
        (db.deleteRawMessages fun row => row.id ∈ rawMessageIds)
termination_by
  (db.rawMessages.filter (RawMessageRow.expired cutoff)).length
decreasing_by exact TableRows.remaining_lt ‹_›

/-- The statements of `_delete_expired_items_in_batches`. -/
def itemStatements (cutoff : String) (db : Database) : List SqlStatement :=
  let itemIds := db.expiredItemIds cutoff
  if _exhausted : itemIds = [] then [[.scalar, .scalar]]
  else
    [.scalar, .scalar] :: [.expanding itemIds 1] :: [.expanding itemIds 1] ::
      itemStatements cutoff (db.deleteItems fun row => row.id ∈ itemIds)
termination_by (db.items.filter (ItemRow.expired cutoff)).length
decreasing_by exact TableRows.remaining_lt ‹_›

/-- The statements of the write session of `run_once`.  The orphan sweeps bind
nothing. -/
def pruneSessionStatements (cutoffs : PruneCutoffs) (db : Database) :
    List SqlStatement :=
  let afterRaw := (db.deleteExpiredRawMessagesInBatches
    cutoffs.rawMessages.boundText 0 []).2
  let affectedClusterIds := (afterRaw.deleteExpiredItemsInBatches
    cutoffs.items.boundText 0 [] []).1.2.2
  db.rawMessageStatements cutoffs.rawMessages.boundText ++
    afterRaw.itemStatements cutoffs.items.boundText ++
    repairStatements (sortedSet affectedClusterIds) ++ [[], []] ++ [[.scalar]]

/-- The statements of `purge_channel`. -/
def purgeStatements (channelId : Int) (db : Database) : List SqlStatement :=
  if channelId ∈ db.channelIds then
    [[.scalar], [.scalar], [.scalar], [.scalar], [.scalar]] ++
      repairStatements (db.channelClusters channelId) ++
      [[.scalar, .scalar, .scalar, .scalar]]
  else [[.scalar]]

end Database

/-- The settings that are read, up to one that cannot be decoded. -/
def settingStatements (settings : List SettingRow) :
    List String → List SqlStatement
  | [] => []
  | key :: keys =>
      [.scalar] ::
        match getSetting settings key with
        | .error _ => []
        | .ok _ => settingStatements settings keys

/-- The statements of the prune job's `run_once`. -/
def pruneStatements (now : PyDateTime) (db : Database) : List SqlStatement :=
  settingStatements db.settings ["retention.raw_messages_days",
      "retention.items_days", "retention.ingest_errors_days"] ++
    match resolveCutoffs db.settings now with
    | .error _ => []
    | .ok cutoffs => db.pruneSessionStatements cutoffs

section Limits

variable {first second : List SqlStatement}

theorem withinLimit_append :
    WithinLimit (first ++ second) ↔ WithinLimit first ∧ WithinLimit second := by
  simp only [WithinLimit, List.mem_append, or_imp, forall_and]

theorem withinLimit_cons {statement : SqlStatement} :
    WithinLimit (statement :: second) ↔
      boundParameters statement ≤ maxVariableNumber ∧ WithinLimit second := by
  rw [WithinLimit, List.forall_mem_cons]
  rfl

/-- The repair of a list of clusters is accepted up to half of the limit. -/
theorem withinLimit_repairStatements (clusterIds : List Int) :
    WithinLimit (repairStatements clusterIds) ↔
      clusterIds.length ≤ 16383 := by
  unfold repairStatements
  split
  · rename_i none
    rw [List.isEmpty_iff.mp none]
    exact iff_of_true (by decide) (by decide)
  · rw [withinLimit_cons, withinLimit_cons]
    simp only [boundParameters, List.map_cons, List.map_nil, List.sum_cons,
      List.sum_nil, SqlParameter.bound, maxVariableNumber]
    constructor
    · omega
    · intro few
      refine ⟨by omega, by omega, by decide⟩

theorem withinLimit_settingStatements (settings : List SettingRow)
    (keys : List String) : WithinLimit (settingStatements settings keys) := by
  induction keys with
  | nil =>
      intro statement member
      cases member
  | cons key keys ih =>
      rw [settingStatements, withinLimit_cons]
      refine ⟨by decide, ?_⟩
      split
      · decide
      · exact ih

namespace Database

variable {cutoff : String}

/-- A batch fits into one statement. -/
theorem boundParameters_batch {ids : List Int} (batch : ids.length ≤ 500) :
    boundParameters [.expanding ids 1] ≤ maxVariableNumber := by
  simp only [boundParameters, List.map_cons, List.map_nil, List.sum_cons,
    List.sum_nil, SqlParameter.bound, maxVariableNumber]
  omega

theorem withinLimit_rawMessageStatements (db : Database) :
    WithinLimit (db.rawMessageStatements cutoff) := by
  induction db using rawMessageStatements.induct cutoff with
  | case1 db ids exhausted =>
      rw [rawMessageStatements, dif_pos exhausted]
      decide
  | case2 db ids more ih =>
      have batch : ids.length ≤ 500 :=
        TableRows.keyBatch_length.trans_le (min_le_left _ _)
      rw [rawMessageStatements, dif_neg more, withinLimit_cons,
        withinLimit_cons]
      exact ⟨by decide, boundParameters_batch batch, ih⟩

theorem withinLimit_itemStatements (db : Database) :
    WithinLimit (db.itemStatements cutoff) := by
  induction db using itemStatements.induct cutoff with
  | case1 db ids exhausted =>
      rw [itemStatements, dif_pos exhausted]
      decide
  | case2 db ids more ih =>
      have batch : ids.length ≤ 500 :=
        TableRows.keyBatch_length.trans_le (min_le_left _ _)
      rw [itemStatements, dif_neg more, withinLimit_cons, withinLimit_cons,
        withinLimit_cons]
      exact ⟨by decide, boundParameters_batch batch,
        boundParameters_batch batch, ih⟩

/-- The clusters that have an expired item as a member. -/
def clustersLosingItems (cutoff : String) (db : Database) : List Int :=
  db.clustersOfItems (db.removedItemIds (ItemRow.expired cutoff))

/-- The clusters that the batches collect are those of the expired items. -/
theorem Consistent.length_affected {db : Database}
    (consistent : db.Consistent) (cutoffs : PruneCutoffs) :
    (sortedSet ((db.deleteExpiredRawMessagesInBatches
        cutoffs.rawMessages.boundText 0 []).2.deleteExpiredItemsInBatches
          cutoffs.items.boundText 0 [] []).1.2.2).length =
      (db.clustersLosingItems cutoffs.items.boundText).length := by
  have afterRaw := consistent.deleteRawMessages
    (RawMessageRow.expired cutoffs.rawMessages.boundText)
  obtain ⟨collected, looped, -, collectedIff⟩ :=
    @deleteExpiredItemsInBatches_eq _ cutoffs.items.boundText
      afterRaw.itemIdsNodup 0 [] []
  have sameIds := removedItemIds_deleteRawMessages db
    (expired_ignoresRawMessage cutoffs.items.boundText)
    (RawMessageRow.expired cutoffs.rawMessages.boundText)
  rw [deleteExpiredRawMessagesInBatches_eq consistent.rawMessageIdsNodup,
    looped]
  apply List.Perm.length_eq
  apply (List.perm_ext_iff_of_nodup (sortedSet_nodup _)
    (List.nodup_dedup _)).mpr
  intro clusterId
  rw [mem_sortedSet, collectedIff, sameIds]
  exact or_iff_right List.not_mem_nil

theorem Consistent.withinLimit_pruneSessionStatements {db : Database}
    (consistent : db.Consistent) (cutoffs : PruneCutoffs) :
    WithinLimit (db.pruneSessionStatements cutoffs) ↔
      (db.clustersLosingItems cutoffs.items.boundText).length ≤ 16383 := by
  have sweeps : WithinLimit [[], []] := by decide
  have errors : WithinLimit [[.scalar]] := by decide
  unfold pruneSessionStatements
  dsimp only
  rw [withinLimit_append, withinLimit_append, withinLimit_append,
    withinLimit_append, withinLimit_repairStatements,
    consistent.length_affected]
  simp only [withinLimit_rawMessageStatements, withinLimit_itemStatements,
    sweeps, errors, true_and, and_true]

theorem withinLimit_purgeStatements (channelId : Int) (db : Database) :
    WithinLimit (db.purgeStatements channelId) ↔
      channelId ∉ db.channelIds ∨
        (db.channelClusters channelId).length ≤ 16383 := by
  have before : WithinLimit [[.scalar], [.scalar], [.scalar], [.scalar],
      [.scalar]] := by decide
  have audit : WithinLimit [[.scalar, .scalar, .scalar, .scalar]] := by decide
  unfold purgeStatements
  split
  · rename_i stored
    rw [withinLimit_append, withinLimit_append, withinLimit_repairStatements]
    simp only [before, audit, true_and, and_true, stored, not_true_eq_false,
      false_or]
  · rename_i missing
    exact iff_of_true (by decide) (.inl missing)

end Database

theorem withinLimit_pruneStatements {db : Database}
    (consistent : db.Consistent) (now : PyDateTime) :
    WithinLimit (pruneStatements now db) ↔
      ∀ cutoffs, resolveCutoffs db.settings now = .ok cutoffs →
        (db.clustersLosingItems cutoffs.items.boundText).length ≤ 16383 := by
  unfold pruneStatements
  rw [withinLimit_append]
  simp only [withinLimit_settingStatements, true_and]
  cases resolved : resolveCutoffs db.settings now with
  | error problem =>
      constructor
      · intro _ cutoffs isCutoffs
        cases isCutoffs
      · intro _ statement member
        cases member
  | ok cutoffs =>
      rw [consistent.withinLimit_pruneSessionStatements]
      constructor
      · intro few other isOther
        obtain rfl := Except.ok.inj isOther
        exact few
      · intro few
        exact few cutoffs rfl

end Limits

/-- A prune run and a purge issue only statements that SQLite accepts exactly
if at most half as many clusters as it takes parameters lose a member. -/
theorem statements_within_limit_iff {db : Database}
    (consistent : db.Consistent) (now : PyDateTime) (channelId : Int) :
    (WithinLimit (pruneStatements now db) ↔
        ∀ cutoffs, resolveCutoffs db.settings now = .ok cutoffs →
          (db.clustersLosingItems cutoffs.items.boundText).length ≤ 16383) ∧
      (WithinLimit (db.purgeStatements channelId) ↔
        channelId ∉ db.channelIds ∨
          (db.channelClusters channelId).length ≤ 16383) :=
  ⟨withinLimit_pruneStatements consistent now,
    db.withinLimit_purgeStatements channelId⟩

section Crowded

variable (count : Nat)

/-- The ids of the sample rows. -/
def crowdedIds : List Int :=
  (List.range count).map Int.ofNat

def crowdedItem (id : Int) : ItemRow where
  id := id
  channelId := 1
  messageId := id
  rawMessageId := none
  publishedAt := none
  title := none
  body := none
  canonicalUrl := none
  canonicalUrlHash := none
  contentHash := none
  createdAt := ""

def crowdedKey (number : Nat) : String :=
  String.ofList (List.replicate number 'k')

/-- One channel with old items, each the only member of a cluster. -/
def crowdedDatabase : Database where
  telegramChannels := [⟨1, 1, 100, "n", none, true⟩]
  channelStates := []
  channelGroupMembers := []
  pollJobs := []
  rawMessages := []
  items := (crowdedIds count).map crowdedItem
  dedupeClusters := (crowdedIds count).map fun id =>
    ⟨id, crowdedKey id.toNat, some id⟩
  dedupeMembers := (crowdedIds count).map fun id => ⟨id, id⟩
  dedupeDecisions := []
  botDeliveries := []
  ingestErrors := []
  notifications := []
  settings := []

variable {count}

theorem crowdedIds_nodup : (crowdedIds count).Nodup :=
  List.nodup_range.map fun _ _ same => Int.ofNat.inj same

theorem crowdedIds_sql (small : count ≤ 1000000) :
    ∀ id ∈ crowdedIds count, IsSqlInteger id := by
  intro id member
  obtain ⟨number, listed, rfl⟩ := List.mem_map.mp member
  have below := List.mem_range.mp listed
  constructor <;> simp only [Int.ofNat_eq_natCast] <;> omega

theorem crowdedKey_injective : Function.Injective crowdedKey := by
  intro first second same
  have letters := String.ofList_injective same
  simpa using congrArg List.length letters

theorem itemIds_crowdedDatabase :
    (crowdedDatabase count).itemIds = crowdedIds count := by
  rw [Database.itemIds, crowdedDatabase, List.map_map]
  exact List.map_id' _

theorem clusterIds_crowdedDatabase :
    (crowdedDatabase count).clusterIds = crowdedIds count := by
  rw [Database.clusterIds, crowdedDatabase, List.map_map]
  exact List.map_id' _

theorem member_crowdedDatabase {clusterId itemId : Int} :
    (crowdedDatabase count).Member clusterId itemId ↔
      clusterId = itemId ∧ itemId ∈ crowdedIds count := by
  simp only [Database.Member, crowdedDatabase, List.mem_map,
    MemberRow.mk.injEq]
  constructor
  · rintro ⟨id, listed, rfl, rfl⟩
    exact ⟨rfl, listed⟩
  · rintro ⟨rfl, listed⟩
    exact ⟨clusterId, listed, rfl, rfl⟩

theorem crowdedDatabase_consistent (small : count ≤ 1000000) :
    (crowdedDatabase count).Consistent where
  channelIdsNodup := List.nodup_singleton 1
  rawMessageIdsNodup := List.nodup_nil
  itemIdsNodup := by
    rw [itemIds_crowdedDatabase]
    exact crowdedIds_nodup
  clusterIdsNodup := by
    rw [clusterIds_crowdedDatabase]
    exact crowdedIds_nodup
  clusterKeysNodup := by
    have keys : ((List.range count).map crowdedKey).Nodup :=
      List.nodup_range.map crowdedKey_injective
    rw [crowdedDatabase, List.map_map, crowdedIds, List.map_map]
    exact keys
  membersNodup := crowdedIds_nodup.map fun _ _ same =>
    (MemberRow.mk.inj same).1
  deliveriesNodup := List.nodup_nil
  channelStates := fun _ stored => absurd stored List.not_mem_nil
  channelGroupMembers := fun _ stored => absurd stored List.not_mem_nil
  pollJobs := fun _ stored => absurd stored List.not_mem_nil
  rawMessages := fun _ stored => absurd stored List.not_mem_nil
  itemChannels := by
    intro row stored
    obtain ⟨id, -, rfl⟩ := List.mem_map.mp stored
    exact List.mem_singleton_self 1
  itemRawMessages := by
    intro row stored id isMessage
    obtain ⟨itemId, -, rfl⟩ := List.mem_map.mp stored
    cases isMessage
  representatives := by
    intro row stored id isRepresentative
    obtain ⟨clusterId, listed, rfl⟩ := List.mem_map.mp stored
    obtain rfl := Option.some.inj isRepresentative
    rwa [itemIds_crowdedDatabase]
  memberClusters := by
    intro row stored
    obtain ⟨id, listed, rfl⟩ := List.mem_map.mp stored
    rwa [clusterIds_crowdedDatabase]
  memberItems := by
    intro row stored
    obtain ⟨id, listed, rfl⟩ := List.mem_map.mp stored
    rwa [itemIds_crowdedDatabase]
  decisionItems := fun _ stored => absurd stored List.not_mem_nil
  decisionClusters := fun _ stored => absurd stored List.not_mem_nil
  decisionCandidates := fun _ stored => absurd stored List.not_mem_nil
  deliveries := fun _ stored => absurd stored List.not_mem_nil
  ingestErrors := fun _ stored => absurd stored List.not_mem_nil
  channelIdsSql := by
    intro id member
    obtain rfl := List.mem_singleton.mp member
    decide
  itemIdsSql := by
    rw [itemIds_crowdedDatabase]
    exact crowdedIds_sql small
  clusterIdsSql := by
    rw [clusterIds_crowdedDatabase]
    exact crowdedIds_sql small

theorem fromChannel_crowdedDatabase {itemId : Int} :
    (crowdedDatabase count).FromChannel 1 itemId ↔
      itemId ∈ crowdedIds count := by
  simp only [Database.FromChannel, crowdedDatabase, List.mem_map]
  constructor
  · rintro ⟨_, ⟨id, listed, rfl⟩, rfl, -⟩
    exact listed
  · intro listed
    exact ⟨_, ⟨itemId, listed, rfl⟩, rfl, rfl⟩

theorem itemExpired_crowdedDatabase {cutoff : String} (later : "" < cutoff)
    {itemId : Int} :
    (crowdedDatabase count).ItemExpired cutoff itemId ↔
      itemId ∈ crowdedIds count := by
  simp only [Database.ItemExpired, crowdedDatabase, List.mem_map]
  constructor
  · rintro ⟨_, ⟨id, listed, rfl⟩, rfl, -⟩
    exact listed
  · intro listed
    exact ⟨_, ⟨itemId, listed, rfl⟩, rfl, later⟩

/-- A set of the sample clusters that has all of them is as large as they
are many. -/
theorem length_of_crowdedIds {ids : List Int} (nodup : ids.Nodup)
    (same : ∀ id, id ∈ ids ↔ id ∈ crowdedIds count) : ids.length = count := by
  have permuted := (List.perm_ext_iff_of_nodup nodup crowdedIds_nodup).mpr same
  rw [permuted.length_eq, crowdedIds, List.length_map, List.length_range]

theorem length_channelClusters_crowdedDatabase :
    ((crowdedDatabase count).channelClusters 1).length = count := by
  have distinct : ((crowdedDatabase count).channelClusters 1).Nodup :=
    List.nodup_dedup _
  apply length_of_crowdedIds distinct
  intro id
  simp only [Database.mem_channelClusters, fromChannel_crowdedDatabase,
    member_crowdedDatabase]
  constructor
  · rintro ⟨itemId, listed, rfl, -⟩
    exact listed
  · intro listed
    exact ⟨id, listed, rfl, listed⟩

theorem length_clustersLosingItems_crowdedDatabase {cutoff : String}
    (later : "" < cutoff) :
    ((crowdedDatabase count).clustersLosingItems cutoff).length = count := by
  have distinct : ((crowdedDatabase count).clustersLosingItems
      cutoff).Nodup :=
    List.nodup_dedup _
  apply length_of_crowdedIds distinct
  intro id
  rw [Database.clustersLosingItems, Database.mem_clustersOfItems]
  simp only [Database.mem_removedItemIds_expired,
    itemExpired_crowdedDatabase later, member_crowdedDatabase]
  constructor
  · rintro ⟨itemId, listed, rfl, -⟩
    exact listed
  · intro listed
    exact ⟨id, listed, rfl, listed⟩

end Crowded

/-- With one cluster more than half of the limit, the recomputation binds too
many parameters in both operations. -/
theorem crowded_repair_is_rejected :
    (crowdedDatabase 16384).Consistent ∧
      ¬ WithinLimit (pruneStatements sampleTime (crowdedDatabase 16384)) ∧
      ¬ WithinLimit ((crowdedDatabase 16384).purgeStatements 1) := by
  have consistent : (crowdedDatabase 16384).Consistent :=
    crowdedDatabase_consistent (by decide)
  refine ⟨consistent, ?_, ?_⟩
  · rw [withinLimit_pruneStatements consistent]
    intro few
    have resolved : resolveCutoffs [] sampleTime = .ok sampleCutoffs := rfl
    have atMost := few sampleCutoffs resolved
    rw [length_clustersLosingItems_crowdedDatabase (by decide)] at atMost
    omega
  · rw [Database.withinLimit_purgeStatements,
      length_channelClusters_crowdedDatabase]
    rintro (missing | few)
    · exact missing (List.mem_singleton_self 1)
    · omega

/-- A few clusters are repaired in one statement. -/
theorem statements_within_limit_sample :
    WithinLimit ((crowdedDatabase 3).purgeStatements 1) := by
  have consistent : (crowdedDatabase 3).Consistent :=
    crowdedDatabase_consistent (by decide)
  apply (statements_within_limit_iff consistent sampleTime 1).2.mpr
  right
  rw [length_channelClusters_crowdedDatabase]
  decide

end Tca
