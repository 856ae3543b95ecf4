import Tca.ItemRemovalRounds

/-!
# Purging a channel

`purge_channel` deletes the channel row, lets the foreign-key actions delete
everything recorded for it, and repairs the clusters that had one of its items
as a member.  The file embeds the call, shows that its effect is the removal
of the channel's items and raw messages with a repair of the clusters, and
derives the postcondition and that purges commute.
-/

namespace Tca

open TableRows Transaction

namespace Database

section Statements

variable (db : Database) (channelId : Int)

/-- `SELECT DISTINCT members.cluster_id` of the channel's items. -/
def channelClusters : List Int :=
  (db.dedupeMembers.flatMap fun member =>
    (db.items.filter fun item =>
      item.id = member.itemId ∧ item.channelId = channelId).map
        fun _ => member.clusterId).dedup

def channelItemCount : Nat :=
  (db.items.filter fun item => item.channelId = channelId).length

def channelRawMessageCount : Nat :=
  (db.rawMessages.filter fun row => row.channelId = channelId).length

/-- The audit notification of a purge. -/
def purgeNotification (channel : ChannelRow) : NotificationRow where
  id := nextRowid (db.notifications.map (·.id))
  type := "channel_purged"
  severity := "low"
  message := s!"Channel {channelId} purged."
  payloadJson := some (.dict
    [("affected_cluster_ids",
        .list ((db.channelClusters channelId).map .int)),
      ("channel_id", .int channelId),
      ("channel_name", .str channel.name),
      ("deleted_items", .int (db.channelItemCount channelId)),
      ("deleted_raw_messages", .int (db.channelRawMessageCount channelId))])

def addNotification (row : NotificationRow) : Database :=
  { db with notifications := db.notifications ++ [row] }

end Statements

end Database

/-- Hard-delete a channel and cleanup related dedupe state. -/
def purgeChannel (channelId : Int) :
    StorageTransaction (Option ChannelRow) := do
  bindInteger channelId
  let before ← query fun db => db
  match before.telegramChannels.find? fun row => row.id = channelId with
  | none => return none
  | some channel =>
      let clusterIds := before.channelClusters channelId
      update fun db => db.deleteChannels fun row => row.id = channelId
      update fun db =>
        if clusterIds.isEmpty then db else db.repairClusters clusterIds
      update fun db =>
        db.addNotification (before.purgeNotification channelId channel)
      commit
      return some channel

namespace Database

/-- The item belongs to the channel. -/
def FromChannel (db : Database) (channelId itemId : Int) : Prop :=
  ∃ item ∈ db.items, item.id = itemId ∧ item.channelId = channelId

/-- Delete what is recorded for a channel apart from its messages and
items. -/
def dropChannel (channelId : Int) (db : Database) : Database :=
  { db with
    telegramChannels := db.telegramChannels.filter (·.id ≠ channelId)
    channelStates := db.channelStates.filter (·.channelId ≠ channelId)
    channelGroupMembers :=
      db.channelGroupMembers.filter (·.channelId ≠ channelId)
    pollJobs := db.pollJobs.filter (·.channelId ≠ channelId)
    ingestErrors :=
      db.ingestErrors.map (·.clearChannel fun id => id = channelId) }

/-- The effect of a purge on all tables but the notifications. -/
def purgeTables (channelId : Int) (db : Database) : Database :=
  ((db.deleteRawMessages fun row => row.channelId = channelId).removeItems
    fun row => row.channelId = channelId).dropChannel channelId

section Effect

variable {db : Database} {channelId : Int}

theorem mem_channelClusters {clusterId : Int} :
    clusterId ∈ db.channelClusters channelId ↔
      ∃ itemId, db.FromChannel channelId itemId ∧
        db.Member clusterId itemId := by
  simp only [channelClusters, List.mem_dedup, List.mem_flatMap, List.mem_map,
    List.mem_filter, decide_eq_true_eq]
  constructor
  · rintro ⟨⟨cluster, itemId⟩, member, item, ⟨stored, rfl, fromChannel⟩, rfl⟩
    exact ⟨item.id, ⟨item, stored, rfl, fromChannel⟩, member⟩
  · rintro ⟨itemId, ⟨item, stored, rfl, fromChannel⟩, member⟩
    exact ⟨⟨clusterId, item.id⟩, member, item, ⟨stored, rfl, fromChannel⟩, rfl⟩

theorem channel_ignoresRawMessage (channelId : Int) :
    IgnoresRawMessage fun row => row.channelId = channelId :=
  fun _ _ => rfl

theorem mem_removedItemIds_channel {itemId : Int} :
    itemId ∈ db.removedItemIds (fun row => row.channelId = channelId) ↔
      db.FromChannel channelId itemId := by
  simp only [removedItemIds, List.mem_map, List.mem_filter,
    decide_eq_true_eq, FromChannel]
  constructor
  · rintro ⟨item, ⟨stored, fromChannel⟩, rfl⟩
    exact ⟨item, stored, rfl, fromChannel⟩
  · rintro ⟨item, stored, rfl, fromChannel⟩
    exact ⟨item, ⟨stored, fromChannel⟩, rfl⟩

/-- Deleting an existing channel deletes its messages and items and drops the
rest of its rows. -/
theorem deleteChannels_eq (stored : channelId ∈ db.channelIds) :
    (db.deleteChannels fun row => row.id = channelId) =
      ((db.deleteRawMessages fun row =>
        row.channelId = channelId).deleteItems
          fun row => row.channelId = channelId).dropChannel channelId := by
  have removedIff : ∀ id,
      id ∈ (db.telegramChannels.filter
        fun row => row.id = channelId).map (·.id) ↔ id = channelId := by
    intro id
    simp only [List.mem_map, List.mem_filter, decide_eq_true_eq]
    constructor
    · rintro ⟨row, ⟨-, sameId⟩, rfl⟩
      exact sameId
    · rintro rfl
      obtain ⟨row, rowStored, sameId⟩ := List.mem_map.mp stored
      exact ⟨row, ⟨rowStored, sameId⟩, sameId⟩
  simp only [deleteChannels, removedIff]
  simp only [dropChannel, ne_eq, decide_not]
  rfl

/-- The statements of a purge after the channel was found. -/
theorem purgeTables_eq (stored : channelId ∈ db.channelIds) :
    (if (db.channelClusters channelId).isEmpty then
        db.deleteChannels fun row => row.id = channelId
      else (db.deleteChannels fun row => row.id = channelId).repairClusters
        (db.channelClusters channelId)) =
      db.purgeTables channelId := by
  have sameClusters : ∀ id, id ∈ db.channelClusters channelId ↔
      id ∈ (db.deleteRawMessages fun row =>
        row.channelId = channelId).clustersOfItems
          ((db.deleteRawMessages fun row =>
            row.channelId = channelId).removedItemIds
              fun row => row.channelId = channelId) := by
    intro id
    rw [mem_channelClusters, mem_clustersOfItems,
      removedItemIds_deleteRawMessages db
        (channel_ignoresRawMessage channelId)]
    exact exists_congr fun itemId =>
      and_congr_left fun _ => mem_removedItemIds_channel.symm
  have withoutClusters : (if (db.channelClusters channelId).isEmpty then
        db.deleteChannels fun row => row.id = channelId
      else (db.deleteChannels fun row => row.id = channelId).repairClusters
        (db.channelClusters channelId)) =
      (db.deleteChannels fun row => row.id = channelId).repairClusters
        (db.channelClusters channelId) := by
    split
    · rename_i empty
      rw [List.isEmpty_iff.mp empty, repairClusters_nil]
    · rfl
  rw [withoutClusters, deleteChannels_eq stored,
    repairClusters_congr _ sameClusters]
  rfl

theorem purgeChannel_missing (missing : channelId ∉ db.channelIds) :
    (atomically (purgeChannel channelId) db).2 = db := by
  have notFound : db.telegramChannels.find?
      (fun row => row.id = channelId) = none := by
    refine List.find?_eq_none.mpr fun row stored sameId => ?_
    exact missing (of_decide_eq_true sameId ▸ List.mem_map_of_mem stored)
  rw [atomically, purgeChannel, bindInteger, run_require_bind]
  split
  · rw [run_query_bind]
    simp only [notFound]
    rfl
  · rfl

theorem Consistent.purgeChannel_existing (consistent : db.Consistent)
    (stored : channelId ∈ db.channelIds) :
    ∃ channel ∈ db.telegramChannels, channel.id = channelId ∧
      atomically (purgeChannel channelId) db =
        (.ok (some channel),
          (db.purgeTables channelId).addNotification
            (db.purgeNotification channelId channel)) := by
  obtain ⟨channel, found⟩ : ∃ channel, db.telegramChannels.find?
      (fun row => row.id = channelId) = some channel := by
    obtain ⟨row, rowStored, sameId⟩ := List.mem_map.mp stored
    exact Option.isSome_iff_exists.mp
      (List.find?_isSome.mpr ⟨row, rowStored, by simpa using sameId⟩)
  refine ⟨channel, List.mem_of_find?_eq_some found,
    by simpa using List.find?_some found, ?_⟩
  rw [atomically, purgeChannel, bindInteger, run_require_bind,
    if_pos (consistent.channelIdsSql channelId stored), run_query_bind]
  simp only [found, run_update_bind, run_commit_bind, run_pure]
  rw [purgeTables_eq stored]

theorem Consistent.dropChannel (consistent : db.Consistent)
    (noItems : ∀ row ∈ db.items, row.channelId ≠ channelId)
    (noRawMessages : ∀ row ∈ db.rawMessages, row.channelId ≠ channelId) :
    (db.dropChannel channelId).Consistent := by
  have idKept : ∀ id ∈ db.channelIds, id ≠ channelId →
      id ∈ (db.dropChannel channelId).channelIds := by
    intro id stored different
    obtain ⟨row, rowStored, rfl⟩ := List.mem_map.mp stored
    exact List.mem_map_of_mem
      (List.mem_filter.mpr ⟨rowStored, by simpa using different⟩)
  refine
    { consistent with
      channelIdsNodup := nodup_map_filter consistent.channelIdsNodup _
      channelStates := ?_
      channelGroupMembers := ?_
      pollJobs := ?_
      rawMessages := fun row stored =>
        idKept _ (consistent.rawMessages row stored) (noRawMessages row stored)
      itemChannels := fun row stored =>
        idKept _ (consistent.itemChannels row stored) (noItems row stored)
      ingestErrors := ?_
      channelIdsSql := fun id member =>
        consistent.channelIdsSql id (mem_of_mem_map_filter member) }
  · intro row member
    obtain ⟨stored, kept⟩ := List.mem_filter.mp member
    exact idKept _ (consistent.channelStates row stored) (by simpa using kept)
  · intro row member
    obtain ⟨stored, kept⟩ := List.mem_filter.mp member
    exact idKept _ (consistent.channelGroupMembers row stored)
      (by simpa using kept)
  · intro row member
    obtain ⟨stored, kept⟩ := List.mem_filter.mp member
    exact idKept _ (consistent.pollJobs row stored) (by simpa using kept)
  · intro row member id reference
    obtain ⟨original, originalMember, rfl⟩ := List.mem_map.mp member
    obtain ⟨stored, kept⟩ := clearReference_eq_some_iff.mp reference
    exact idKept id
      (consistent.ingestErrors original originalMember id stored)
      (by simpa using kept)

/-- A purge leaves no item of the channel. -/
theorem purgeTables_noItems :
    ∀ row ∈ (db.purgeTables channelId).items, row.channelId ≠ channelId := by
  intro row member
  have kept := (List.mem_filter.mp
    (show row ∈ ((db.deleteRawMessages _).items.filter _) from member)).2
  simpa using kept

theorem purgeTables_noRawMessages :
    ∀ row ∈ (db.purgeTables channelId).rawMessages,
      row.channelId ≠ channelId := by
  intro row member
  have kept := (List.mem_filter.mp
    (show row ∈ db.rawMessages.filter _ from member)).2
  simpa using kept

theorem purgeTables_itemCount :
    (db.purgeTables channelId).items.length + db.channelItemCount channelId =
      db.items.length := by
  have kept : (db.purgeTables channelId).items.length =
      (db.items.filter fun row => !decide (row.channelId = channelId)).length := by
    change ((db.items.map _).filter _).length = _
    rw [List.filter_map, List.length_map]
    rfl
  rw [kept, channelItemCount, Nat.add_comm]
  exact (List.length_eq_length_filter_add _).symm

theorem purgeTables_rawMessageCount :
    (db.purgeTables channelId).rawMessages.length +
        db.channelRawMessageCount channelId =
      db.rawMessages.length := by
  rw [channelRawMessageCount, Nat.add_comm]
  exact (List.length_eq_length_filter_add _).symm

theorem Consistent.purgeTables (consistent : db.Consistent)
    (channelId : Int) : (db.purgeTables channelId).Consistent :=
  ((consistent.deleteRawMessages _).removeItems _).dropChannel
    purgeTables_noItems purgeTables_noRawMessages

/-- A purge repairs the clusters of the channel's items. -/
theorem purgeTables_repaired (consistent : db.Consistent)
    (sound : db.SoundClusters) :
    db.ClustersRepaired (db.FromChannel channelId)
      (db.purgeTables channelId) := by
  have goneEq : (· ∈ db.removedItemIds fun row =>
      row.channelId = channelId) = db.FromChannel channelId :=
    funext fun _ => propext mem_removedItemIds_channel
  have repaired := deleteRawMessages_removeItems_repaired consistent sound
    (channel_ignoresRawMessage channelId)
    fun row => row.channelId = channelId
  rw [goneEq] at repaired
  exact repaired.congr rfl rfl rfl rfl rfl

end Effect

section Commutation

variable {db : Database}

theorem dropChannel_dropChannel (first second : Int) :
    (db.dropChannel first).dropChannel second =
      (db.dropChannel second).dropChannel first := by
  have clearChannel_comm : ∀ row : IngestErrorRow,
      (row.clearChannel fun id => id = first).clearChannel
          (fun id => id = second) =
        (row.clearChannel fun id => id = second).clearChannel
          fun id => id = first := by
    intro row
    simp only [IngestErrorRow.clearChannel, clearReference_clearReference,
      Bool.or_comm]
  have filterComm : ∀ {Row : Type} (rows : List Row) (idOf : Row → Int),
      (rows.filter fun row => idOf row ≠ first).filter
          (fun row => idOf row ≠ second) =
        (rows.filter fun row => idOf row ≠ second).filter
          fun row => idOf row ≠ first := by
    intro Row rows idOf
    simp only [List.filter_filter, Bool.and_comm]
  have errorsComm : (db.ingestErrors.map
        (·.clearChannel fun id => id = first)).map
          (·.clearChannel fun id => id = second) =
      (db.ingestErrors.map (·.clearChannel fun id => id = second)).map
        (·.clearChannel fun id => id = first) := by
    simp only [List.map_map]
    exact List.map_congr_left fun row _ => clearChannel_comm row
  simp only [dropChannel, filterComm, errorsComm]

/-- Purges of two channels commute. -/
theorem Consistent.purgeTables_comm (consistent : db.Consistent)
    (first second : Int) :
    (db.purgeTables first).purgeTables second =
      (db.purgeTables second).purgeTables first := by
  -- Bring a double purge into the order raw messages, items, other rows.
  have sorted : ∀ one two : Int,
      (db.purgeTables one).purgeTables two =
        (((((db.deleteRawMessages fun row =>
          row.channelId = one).deleteRawMessages fun row =>
            row.channelId = two).removeItems fun row =>
              row.channelId = one).removeItems fun row =>
                row.channelId = two).dropChannel one).dropChannel two := by
    intro one two
    rw [deleteRawMessages_removeItems _ (channel_ignoresRawMessage one) _]
    rfl
  have nodup : ((db.deleteRawMessages fun row =>
      row.channelId = first).deleteRawMessages fun row =>
        row.channelId = second).itemIds.Nodup :=
    ((consistent.deleteRawMessages _).deleteRawMessages _).itemIdsNodup
  rw [sorted, sorted, removeItems_comm _ _ _ nodup, dropChannel_dropChannel,
    deleteRawMessages_deleteRawMessages, deleteRawMessages_deleteRawMessages]
  congr 4
  exact deleteRawMessages_congr db fun row _ => Bool.or_comm _ _

/-- The tables other than the audit notifications. -/
def withoutNotifications (db : Database) : Database :=
  { db with notifications := [] }

/-- The store after a purge call. -/
def purgeStore (channelId : Int) (db : Database) : Database :=
  (atomically (purgeChannel channelId) db).2

theorem Consistent.addNotification (consistent : db.Consistent)
    (row : NotificationRow) : (db.addNotification row).Consistent :=
  { consistent with }

theorem Consistent.withoutNotifications_purgeStore
    (consistent : db.Consistent) {channelId : Int}
    (stored : channelId ∈ db.channelIds) :
    (db.purgeStore channelId).withoutNotifications =
      (db.purgeTables channelId).withoutNotifications := by
  obtain ⟨channel, -, -, executed⟩ := consistent.purgeChannel_existing stored
  rw [purgeStore, executed]
  rfl

theorem Consistent.purgeStore (consistent : db.Consistent)
    (channelId : Int) : (db.purgeStore channelId).Consistent := by
  by_cases stored : channelId ∈ db.channelIds
  · obtain ⟨channel, -, -, executed⟩ :=
      consistent.purgeChannel_existing stored
    rw [Database.purgeStore, executed]
    exact (consistent.purgeTables channelId).addNotification _
  · rw [Database.purgeStore, purgeChannel_missing stored]
    exact consistent

theorem channelIds_purgeStore (consistent : db.Consistent)
    {channelId other : Int} :
    other ∈ (db.purgeStore channelId).channelIds ↔
      other ∈ db.channelIds ∧ other ≠ channelId := by
  by_cases stored : channelId ∈ db.channelIds
  · obtain ⟨channel, -, -, executed⟩ :=
      consistent.purgeChannel_existing stored
    rw [Database.purgeStore, executed]
    change other ∈ (db.telegramChannels.filter
      (·.id ≠ channelId)).map (·.id) ↔ _
    simp only [channelIds, List.mem_map, List.mem_filter, decide_eq_true_eq]
    constructor
    · rintro ⟨row, ⟨rowStored, different⟩, rfl⟩
      exact ⟨⟨row, rowStored, rfl⟩, different⟩
    · rintro ⟨⟨row, rowStored, rfl⟩, different⟩
      exact ⟨row, ⟨rowStored, different⟩, rfl⟩
  · rw [Database.purgeStore, purgeChannel_missing stored]
    constructor
    · intro otherStored
      refine ⟨otherStored, ?_⟩
      rintro rfl
      exact stored otherStored
    · exact And.left

/-- Purge calls on two channels commute up to the audit trail. -/
theorem Consistent.purgeStore_comm (consistent : db.Consistent)
    (first second : Int) :
    ((db.purgeStore first).purgeStore second).withoutNotifications =
      ((db.purgeStore second).purgeStore first).withoutNotifications := by
  have twice : ∀ one two : Int, one ∈ db.channelIds → two ∈ db.channelIds →
      one ≠ two →
        ((db.purgeStore one).purgeStore two).withoutNotifications =
          ((db.purgeTables one).purgeTables two).withoutNotifications := by
    intro one two oneStored twoStored different
    rw [(consistent.purgeStore one).withoutNotifications_purgeStore
      ((channelIds_purgeStore consistent).mpr ⟨twoStored, different.symm⟩)]
    have sameTables := consistent.withoutNotifications_purgeStore oneStored
    exact congrArg (Database.purgeTables two) sameTables
  have missing : ∀ one two : Int, one ∉ db.channelIds →
      (db.purgeStore one).purgeStore two =
        (db.purgeStore two).purgeStore one := by
    intro one two oneMissing
    have first := purgeChannel_missing oneMissing
    have later : one ∉ (db.purgeStore two).channelIds := fun stored =>
      oneMissing ((channelIds_purgeStore consistent).mp stored).1
    have second := purgeChannel_missing later
    rw [← Database.purgeStore] at first second
    rw [first, second]
  by_cases same : first = second
  · rw [same]
  · by_cases firstStored : first ∈ db.channelIds
    · by_cases secondStored : second ∈ db.channelIds
      · rw [twice first second firstStored secondStored same,
          twice second first secondStored firstStored (Ne.symm same),
          consistent.purgeTables_comm]
      · rw [missing second first secondStored]
    · rw [missing first second firstStored]

end Commutation

/-- A purge of an existing channel removes its items, raw messages and
memberships, repairs the clusters they belonged to, leaves the others alone
and records the number of removed rows; two purges commute up to the audit
trail; and a purge of a missing channel changes nothing. -/
theorem purgeChannel_correct {db : Database} (consistent : db.Consistent)
    (sound : db.SoundClusters) (channelId : Int) :
    (channelId ∈ db.channelIds →
      ∃ channel ∈ db.telegramChannels, channel.id = channelId ∧
        ∃ after, atomically (purgeChannel channelId) db =
            (.ok (some channel), after) ∧
          (∀ row ∈ after.items, row.channelId ≠ channelId) ∧
          (∀ row ∈ after.rawMessages, row.channelId ≠ channelId) ∧
          (∀ row ∈ after.dedupeMembers,
            ¬ db.FromChannel channelId row.itemId) ∧
          db.ClustersRepaired (db.FromChannel channelId) after ∧
          ∃ audit deletedItems deletedRawMessages,
            after.notifications = db.notifications ++ [audit] ∧
            audit.payloadJson = some (.dict
              [("affected_cluster_ids",
                  .list ((db.channelClusters channelId).map .int)),
                ("channel_id", .int channelId),
                ("channel_name", .str channel.name),
                ("deleted_items", .int (Int.ofNat deletedItems)),
                ("deleted_raw_messages",
                  .int (Int.ofNat deletedRawMessages))]) ∧
            after.items.length + deletedItems = db.items.length ∧
            after.rawMessages.length + deletedRawMessages =
              db.rawMessages.length) ∧
    (∀ other, ((db.purgeStore channelId).purgeStore
        other).withoutNotifications =
      ((db.purgeStore other).purgeStore channelId).withoutNotifications) ∧
    (channelId ∉ db.channelIds → db.purgeStore channelId = db) := by
  refine ⟨?_, consistent.purgeStore_comm channelId, purgeChannel_missing⟩
  intro stored
  obtain ⟨channel, channelStored, sameId, executed⟩ :=
    consistent.purgeChannel_existing stored
  have repaired : db.ClustersRepaired (db.FromChannel channelId)
      (db.purgeTables channelId) :=
    purgeTables_repaired consistent sound
  refine ⟨channel, channelStored, sameId, _, executed, purgeTables_noItems,
    purgeTables_noRawMessages, ?_, ?_, _, db.channelItemCount channelId,
    db.channelRawMessageCount channelId, rfl, rfl, ?_, ?_⟩
  · rintro ⟨clusterId, itemId⟩ member
    exact ((repaired.members clusterId itemId).mp member).2
  · exact repaired.congr rfl rfl rfl rfl rfl
  · exact purgeTables_itemCount
  · exact purgeTables_rawMessageCount

theorem purgeChannel_correct_sample :
    sampleStore.Consistent ∧ sampleStore.SoundClusters ∧
      2 ∈ sampleStore.channelIds ∧
      ∃ channel after, atomically (purgeChannel 2) sampleStore =
          (.ok (some channel), after) ∧
        ∀ row ∈ after.items, row.channelId ≠ 2 := by
  have sound : sampleStore.SoundClusters := by
    decide
  have stored : 2 ∈ sampleStore.channelIds := by
    decide
  obtain ⟨channel, -, -, after, executed, noItems, -⟩ :=
    (purgeChannel_correct sampleStore_consistent sound 2).1 stored
  exact ⟨sampleStore_consistent, sound, stored, channel, after, executed,
    noItems⟩

end Database

end Tca
