import Tca.DedupeClusterMerge
import Tca.GuardedRuns
import Tca.ThreadQuery

/-!
# Bot deliveries and merges

A delivery is recorded for a cluster id and is deleted with the cluster.  The
file embeds the delivery repository and says exactly when runs of deliveries
and merges keep items that were delivered from being offered again: a merge
loses the delivery of a cluster that it merges into an undelivered one.
-/

namespace Tca

open TableRows Transaction RowRanking SortedSets GuardedRuns

/-- Record of a sent telegram bot delivery. -/
structure BotDeliveryRecord where
  deliveryId : Int
  clusterId : Int
  deliveredAt : Timestamp
  telegramMessageId : Option String
  deriving DecidableEq

/-- An undelivered cluster entry with representative item metadata. -/
structure BotDeliveryEntryRecord where
  clusterId : Int
  representativeTitle : Option String
  representativeBody : Option String
  representativeCanonicalUrl : Option String
  representativePublishedAt : Option Timestamp
  channelName : String
  channelUsername : Option String
  duplicateCount : Nat
  deriving DecidableEq

/-- `_coerce_datetime` on a stored time. -/
def coerceDatetime (value : Timestamp) : Timestamp :=
  value.readAsUtc

/-- `_decode_delivery_row`. -/
def decodeDeliveryRow (row : DeliveryRow) : BotDeliveryRecord where
  deliveryId := row.id
  clusterId := row.clusterId
  deliveredAt := coerceDatetime row.deliveredAt
  telegramMessageId := row.telegramMessageId

/-- `_decode_entry_row`. -/
def decodeEntryRow (db : Database) (row : ThreadRow) :
    BotDeliveryEntryRecord where
  clusterId := row.cluster.id
  representativeTitle := row.representative.title
  representativeBody := row.representative.body
  representativeCanonicalUrl := row.representative.canonicalUrl
  representativePublishedAt :=
    coerceOptionalDatetime row.representative.publishedAt
  channelName := row.channel.name
  channelUsername := row.channel.username
  duplicateCount := db.duplicateCount row.cluster.id

namespace Database

variable (db : Database)

/-- A delivery is recorded for the cluster. -/
def Delivered (clusterId : Int) : Prop :=
  clusterId ∈ db.botDeliveries.map (·.clusterId)

instance (clusterId : Int) : Decidable (db.Delivered clusterId) :=
  inferInstanceAs (Decidable (_ ∈ db.botDeliveries.map _))

/-- The row that records a delivery at the time `CURRENT_TIMESTAMP`. -/
def deliveryRow (clusterId : Int) (telegramMessageId : Option String)
    (now : Timestamp) : DeliveryRow :=
  ⟨nextRowid (db.botDeliveries.map (·.id)), clusterId, now, telegramMessageId⟩

def addDelivery (row : DeliveryRow) : Database :=
  { db with botDeliveries := db.botDeliveries ++ [row] }

end Database

/-- Record a successful delivery for a cluster, raising on duplicate. -/
def recordDelivery (clusterId : Int) (telegramMessageId : Option String)
    (now : Timestamp) : StorageTransaction BotDeliveryRecord := do
  bindInteger clusterId
  let db ← query fun db => db
  require (¬ db.Delivered clusterId) (.botDeliveryAlreadyExistsError
    s!"Delivery already recorded for cluster_id {clusterId}")
  require (clusterId ∈ db.clusterIds)
    (.integrityError "FOREIGN KEY constraint failed")
  let row := db.deliveryRow clusterId telegramMessageId now
  update fun db => db.addDelivery row
  commit
  return decodeDeliveryRow row

/-- Fetch oldest undelivered clusters ready to format and send.  A negative
limit is none. -/
def listUndeliveredEntries (db : Database) (limit : Int) :
    Except PyError (List BotDeliveryEntryRecord) :=
  let rows := orderBy (fun row => row.cluster.id)
    (db.threadRows.filter fun row => ¬ db.Delivered row.cluster.id)
  if IsSqlInteger limit then
    .ok ((if limit < 0 then rows else rows.take limit.toNat).map
      (decodeEntryRow db))
  else .error integerOverflow

/-- Check if a cluster has already been delivered. -/
def hasBeenDelivered (db : Database) (clusterId : Int) :
    Except PyError Bool :=
  if IsSqlInteger clusterId then .ok (db.Delivered clusterId)
  else .error integerOverflow

namespace Database

variable {db : Database}

theorem Consistent.hasBeenDelivered_iff (consistent : db.Consistent)
    {clusterId : Int} :
    hasBeenDelivered db clusterId = .ok true ↔ db.Delivered clusterId := by
  rw [hasBeenDelivered]
  split
  · simp
  · rename_i unbound
    refine ⟨nofun, fun delivered => ?_⟩
    obtain ⟨row, stored, rfl⟩ := List.mem_map.mp delivered
    exact (unbound (consistent.clusterIdsSql _
      (consistent.deliveries row stored))).elim

/-- The store after an attempt to record a delivery. -/
theorem Consistent.recordDelivery_store (consistent : db.Consistent)
    (clusterId : Int) (telegramMessageId : Option String) (now : Timestamp) :
    (atomically (recordDelivery clusterId telegramMessageId now) db).2 =
      if clusterId ∈ db.clusterIds ∧ ¬ db.Delivered clusterId then
        db.addDelivery (db.deliveryRow clusterId telegramMessageId now)
      else db := by
  simp only [atomically, recordDelivery, bindInteger, run_require_bind,
    run_query_bind]
  by_cases stored : clusterId ∈ db.clusterIds
  · rw [if_pos (consistent.clusterIdsSql clusterId stored)]
    by_cases delivered : db.Delivered clusterId
    · simp [delivered]
    · simp [delivered, stored]
  · have refused :
        ¬ (clusterId ∈ db.clusterIds ∧ ¬ db.Delivered clusterId) :=
      fun allowed => stored allowed.1
    rw [if_neg refused]
    split
    · split
      · rfl
      · rfl
    · rfl

/-- Recording the delivery of a stored cluster that has none succeeds. -/
theorem Consistent.recordDelivery_eq_ok (consistent : db.Consistent)
    {clusterId : Int} (stored : clusterId ∈ db.clusterIds)
    (undelivered : ¬ db.Delivered clusterId)
    (telegramMessageId : Option String) (now : Timestamp) :
    atomically (recordDelivery clusterId telegramMessageId now) db =
      (.ok (decodeDeliveryRow (db.deliveryRow clusterId telegramMessageId now)),
        db.addDelivery (db.deliveryRow clusterId telegramMessageId now)) := by
  have bound := consistent.clusterIdsSql clusterId stored
  simp [atomically, recordDelivery, bindInteger, bound, undelivered, stored]

/-- The cluster has a representative and no delivery. -/
def AwaitsDelivery (db : Database) (clusterId : Int) : Prop :=
  ¬ db.Delivered clusterId ∧
    ∃ row ∈ db.dedupeClusters, row.id = clusterId ∧
      row.representativeItemId ≠ none

/-- The listed clusters are those that await delivery. -/
theorem Consistent.mem_listUndeliveredEntries (consistent : db.Consistent)
    {clusterId : Int} :
    (∃ limit entries, listUndeliveredEntries db limit = .ok entries ∧
      ∃ entry ∈ entries, entry.clusterId = clusterId) ↔
      db.AwaitsDelivery clusterId := by
  constructor
  · rintro ⟨limit, entries, listed, entry, member, rfl⟩
    rw [listUndeliveredEntries] at listed
    split at listed
    · obtain rfl := Except.ok.inj listed
      obtain ⟨row, inRows, rfl⟩ := List.mem_map.mp member
      have joined : row ∈ db.threadRows.filter
          fun row => ¬ db.Delivered row.cluster.id := by
        split at inRows
        · exact (mem_orderBy _).mp inRows
        · exact (mem_orderBy _).mp (List.mem_of_mem_take inRows)
      obtain ⟨inJoin, undelivered⟩ := List.mem_filter.mp joined
      obtain ⟨stored, ⟨-, represented⟩, -⟩ := mem_threadRows.mp inJoin
      exact ⟨of_decide_eq_true undelivered, row.cluster, stored, rfl,
        by simp [represented]⟩
    · cases listed
  · rintro ⟨undelivered, cluster, stored, rfl, represented⟩
    obtain ⟨itemId, reference⟩ := Option.ne_none_iff_exists'.mp represented
    obtain ⟨item, itemStored, rfl⟩ := List.mem_map.mp
      (consistent.representatives cluster stored itemId reference)
    obtain ⟨channel, channelStored, channelEq⟩ :=
      List.mem_map.mp (consistent.itemChannels item itemStored)
    have joined : (⟨cluster, item, channel⟩ : ThreadRow) ∈ db.threadRows :=
      mem_threadRows.mpr
        ⟨stored, ⟨itemStored, reference⟩, channelStored, channelEq⟩
    refine ⟨-1, _, rfl, decodeEntryRow db ⟨cluster, item, channel⟩, ?_, rfl⟩
    refine List.mem_map_of_mem ((mem_orderBy _).mpr ?_)
    exact List.mem_filter.mpr ⟨joined, decide_eq_true undelivered⟩

/-- The item is in a delivered cluster. -/
def ItemDelivered (db : Database) (itemId : Int) : Prop :=
  ∃ clusterId, db.Delivered clusterId ∧ db.Member clusterId itemId

/-- No cluster that awaits delivery has an item of a delivered cluster. -/
def OffersNothingDelivered (db : Database) : Prop :=
  ∀ clusterId itemId, db.AwaitsDelivery clusterId →
    db.Member clusterId itemId → ¬ db.ItemDelivered itemId

theorem Consistent.addDelivery (consistent : db.Consistent) {row : DeliveryRow}
    (stored : row.clusterId ∈ db.clusterIds)
    (undelivered : ¬ db.Delivered row.clusterId) :
    (db.addDelivery row).Consistent :=
  { consistent with
    deliveriesNodup := by
      rw [Database.addDelivery, List.map_append]
      exact nodup_append_fresh consistent.deliveriesNodup undelivered
    deliveries := forall_mem_append_row consistent.deliveries stored }

theorem delivered_addDelivery {row : DeliveryRow} {clusterId : Int} :
    (db.addDelivery row).Delivered clusterId ↔
      db.Delivered clusterId ∨ clusterId = row.clusterId := by
  simp [Delivered, addDelivery]

/-- A merge deletes the deliveries of its sources. -/
theorem Consistent.delivered_absorbClusters (consistent : db.Consistent)
    {target : Int} {sources : List Int} {clusterId : Int} :
    (db.absorbClusters target sources).Delivered clusterId ↔
      db.Delivered clusterId ∧ clusterId ∉ sources := by
  have deliveries : (db.absorbClusters target sources).botDeliveries =
      db.botDeliveries.filter fun row => row.clusterId ∉
        (db.dedupeClusters.filter fun row => row.id ∈ sources).map (·.id) :=
    rfl
  simp only [Delivered, deliveries, List.mem_map, List.mem_filter,
    decide_eq_true_eq]
  constructor
  · rintro ⟨row, ⟨stored, kept⟩, rfl⟩
    refine ⟨⟨row, stored, rfl⟩, fun isSource => kept ?_⟩
    obtain ⟨cluster, clusterStored, sameId⟩ :=
      List.mem_map.mp (consistent.deliveries row stored)
    exact ⟨cluster, ⟨clusterStored, sameId ▸ isSource⟩, sameId⟩
  · rintro ⟨⟨row, stored, rfl⟩, notSource⟩
    refine ⟨row, ⟨stored, ?_⟩, rfl⟩
    rintro ⟨cluster, ⟨-, isSource⟩, sameId⟩
    exact notSource (sameId ▸ isSource)

/-- What an accepted merge does to the memberships, the deliveries and the
clusters that await delivery. -/
structure DeliveriesMerged (before : Database) (listed : List Int)
    (target : Int) (after : Database) : Prop where
  members : ∀ clusterId itemId, after.Member clusterId itemId ↔
    (clusterId = target ∧ ∃ id ∈ listed, before.Member id itemId) ∨
      clusterId ∉ listed ∧ before.Member clusterId itemId
  deliveredTarget : after.Delivered target ↔ before.Delivered target
  deliveredUnlisted : ∀ clusterId ∉ listed,
    (after.Delivered clusterId ↔ before.Delivered clusterId)
  awaitsTarget : after.AwaitsDelivery target ↔ ¬ before.Delivered target
  awaitsUnlisted : ∀ clusterId ∉ listed,
    (after.AwaitsDelivery clusterId ↔ before.AwaitsDelivery clusterId)

theorem Consistent.deliveriesMerged (consistent : db.Consistent)
    {target : Int} {listed sources : List Int}
    (targetStored : target ∈ db.clusterIds) (targetListed : target ∈ listed)
    (isSource : ∀ id, id ∈ sources ↔ id ∈ listed ∧ id ≠ target)
    {itemId : Int}
    (ranked : (db.absorbClusters target sources).rankedFirst target =
      some itemId) :
    db.DeliveriesMerged listed target
      ((db.absorbClusters target sources).recordMergeEvent itemId target
        sources) := by
  have merged := consistent.mergedInto targetStored targetListed isSource
    ranked
  have delivered : ∀ clusterId,
      ((db.absorbClusters target sources).recordMergeEvent itemId target
        sources).Delivered clusterId ↔
          db.Delivered clusterId ∧ clusterId ∉ sources :=
    fun clusterId => consistent.delivered_absorbClusters
  have deliveredTarget :
      ((db.absorbClusters target sources).recordMergeEvent itemId target
        sources).Delivered target ↔ db.Delivered target := by
    rw [delivered, isSource]
    simp
  have deliveredUnlisted : ∀ clusterId ∉ listed,
      (((db.absorbClusters target sources).recordMergeEvent itemId target
        sources).Delivered clusterId ↔ db.Delivered clusterId) := by
    intro clusterId unlisted
    rw [delivered, isSource]
    simp [unlisted]
  refine
    { members := merged.members
      deliveredTarget
      deliveredUnlisted
      awaitsTarget := ?_
      awaitsUnlisted := ?_ }
  · rw [AwaitsDelivery, deliveredTarget]
    apply and_iff_left
    obtain ⟨row, -, sameId, best, -, stored⟩ := merged.targetCluster
    exact ⟨_, stored, sameId, nofun⟩
  · intro clusterId unlisted
    rw [AwaitsDelivery, AwaitsDelivery, deliveredUnlisted clusterId unlisted]
    refine and_congr_right fun _ => exists_congr fun row => ?_
    constructor
    · rintro ⟨stored, rfl, represented⟩
      exact ⟨(merged.unlistedKept row unlisted).mp stored, rfl, represented⟩
    · rintro ⟨stored, rfl, represented⟩
      exact ⟨(merged.unlistedKept row unlisted).mpr stored, rfl, represented⟩

end Database

/-- What changes deliveries and clusters. -/
inductive DeliveryOperation where
  | deliver (clusterId : Int) (telegramMessageId : Option String)
      (now : Timestamp)
  | merge (matchedClusterIds : List PyValue)

/-- Execute one operation, whatever its result. -/
def DeliveryOperation.execute : DeliveryOperation → Database → Database
  | .deliver clusterId telegramMessageId now, db =>
      (atomically (recordDelivery clusterId telegramMessageId now) db).2
  | .merge matchedClusterIds, db => db.mergeStore matchedClusterIds

/-- The operation keeps delivered items apart from those on offer.  A recorded
delivery takes no item that another waiting cluster has.  A merge into a
delivered cluster takes no item that a waiting cluster outside of it has, and
a merge into an undelivered cluster takes no delivered item. -/
def DeliveryOperation.KeepsDeliveries :
    DeliveryOperation → Database → Prop
  | .deliver clusterId _ _, db =>
      clusterId ∈ db.clusterIds → ¬ db.Delivered clusterId →
        ∀ other itemId, other ≠ clusterId → db.AwaitsDelivery other →
          db.Member clusterId itemId → ¬ db.Member other itemId
  | .merge matchedClusterIds, db =>
      ∀ listed target, db.AcceptsMerge matchedClusterIds listed target →
        ∀ id ∈ listed, ∀ itemId, db.Member id itemId →
          if db.Delivered target then
            ∀ other ∉ listed, db.AwaitsDelivery other →
              ¬ db.Member other itemId
          else ¬ db.ItemDelivered itemId

namespace Database

variable {db : Database}

theorem Consistent.executeDelivery (consistent : db.Consistent)
    (operation : DeliveryOperation) :
    (operation.execute db).Consistent := by
  cases operation with
  | deliver clusterId telegramMessageId now =>
      rw [DeliveryOperation.execute, consistent.recordDelivery_store]
      split
      · rename_i allowed
        exact consistent.addDelivery allowed.1 allowed.2
      · exact consistent
  | merge matchedClusterIds => exact consistent.mergeStore matchedClusterIds

theorem awaitsDelivery_addDelivery {row : DeliveryRow} {clusterId : Int} :
    (db.addDelivery row).AwaitsDelivery clusterId ↔
      db.AwaitsDelivery clusterId ∧ clusterId ≠ row.clusterId := by
  have sameClusters :
      (db.addDelivery row).dedupeClusters = db.dedupeClusters :=
    rfl
  rw [AwaitsDelivery, AwaitsDelivery, delivered_addDelivery, sameClusters]
  tauto

section Merged

variable {after : Database} {listed : List Int} {target : Int}

/-- A delivered item stays delivered in a merge that keeps deliveries. -/
theorem DeliveriesMerged.itemDelivered
    (merged : db.DeliveriesMerged listed target after)
    (safe : ∀ id ∈ listed, ∀ itemId, db.Member id itemId →
      ¬ db.Delivered target → ¬ db.ItemDelivered itemId)
    {itemId : Int} (delivered : db.ItemDelivered itemId) :
    after.ItemDelivered itemId := by
  obtain ⟨clusterId, clusterDelivered, member⟩ := delivered
  by_cases inList : clusterId ∈ listed
  · refine ⟨target, merged.deliveredTarget.mpr ?_,
      (merged.members target itemId).mpr
        (Or.inl ⟨rfl, clusterId, inList, member⟩)⟩
    by_contra undelivered
    exact safe clusterId inList itemId member undelivered
      ⟨clusterId, clusterDelivered, member⟩
  · exact ⟨clusterId,
      (merged.deliveredUnlisted clusterId inList).mpr clusterDelivered,
      (merged.members clusterId itemId).mpr (Or.inr ⟨inList, member⟩)⟩

/-- An item delivered after a merge was delivered before or is in a merge
into a delivered target. -/
theorem DeliveriesMerged.itemDelivered_before
    (merged : db.DeliveriesMerged listed target after) {itemId : Int}
    (delivered : after.ItemDelivered itemId) :
    db.ItemDelivered itemId ∨
      db.Delivered target ∧ ∃ id ∈ listed, db.Member id itemId := by
  obtain ⟨clusterId, clusterDelivered, member⟩ := delivered
  rcases (merged.members clusterId itemId).mp member with
    ⟨rfl, id, inList, oldMember⟩ | ⟨unlisted, oldMember⟩
  · exact Or.inr ⟨merged.deliveredTarget.mp clusterDelivered, id, inList,
      oldMember⟩
  · exact Or.inl ⟨clusterId,
      (merged.deliveredUnlisted clusterId unlisted).mp clusterDelivered,
      oldMember⟩

/-- A merge keeps delivered items off the offer when no outside waiting
cluster has an item of a merge into a delivered target, and no delivered
cluster one of a merge into an undelivered target. -/
theorem DeliveriesMerged.offersNothingDelivered
    (merged : db.DeliveriesMerged listed target after)
    (offers : db.OffersNothingDelivered)
    (safe : ∀ id ∈ listed, ∀ itemId, db.Member id itemId →
      if db.Delivered target then
        ∀ other ∉ listed, db.AwaitsDelivery other → ¬ db.Member other itemId
      else ¬ db.ItemDelivered itemId) :
    after.OffersNothingDelivered := by
  intro clusterId itemId awaits member delivered
  rcases (merged.members clusterId itemId).mp member with
    ⟨rfl, id, inList, oldMember⟩ | ⟨unlisted, oldMember⟩
  · have undelivered := merged.awaitsTarget.mp awaits
    have notDelivered := safe id inList itemId oldMember
    rw [if_neg undelivered] at notDelivered
    rcases merged.itemDelivered_before delivered with before | ⟨reached, -⟩
    · exact notDelivered before
    · exact undelivered reached
  · have awaitsBefore := (merged.awaitsUnlisted clusterId unlisted).mp awaits
    rcases merged.itemDelivered_before delivered with
      before | ⟨reached, id, inList, otherMember⟩
    · exact offers clusterId itemId awaitsBefore oldMember before
    · have apart := safe id inList itemId otherMember
      rw [if_pos reached] at apart
      exact apart clusterId unlisted awaitsBefore oldMember

end Merged

/-- A step that keeps deliveries offers nothing delivered and forgets no
delivered item. -/
theorem Consistent.keepsDeliveries_step (consistent : db.Consistent)
    (offers : db.OffersNothingDelivered) {operation : DeliveryOperation}
    (keeps : operation.KeepsDeliveries db) :
    (operation.execute db).OffersNothingDelivered ∧
      ∀ itemId, db.ItemDelivered itemId →
        (operation.execute db).ItemDelivered itemId := by
  cases operation with
  | deliver clusterId telegramMessageId now =>
      rw [DeliveryOperation.execute, consistent.recordDelivery_store]
      split
      · rename_i allowed
        have apart := keeps allowed.1 allowed.2
        constructor
        · intro other itemId awaits member
          obtain ⟨awaitsBefore, different⟩ :=
            awaitsDelivery_addDelivery.mp awaits
          rintro ⟨holder, delivered, held⟩
          rcases delivered_addDelivery.mp delivered with before | rfl
          · exact offers other itemId awaitsBefore member
              ⟨holder, before, held⟩
          · exact apart other itemId different awaitsBefore held member
        · rintro itemId ⟨holder, delivered, held⟩
          exact ⟨holder, delivered_addDelivery.mpr (Or.inl delivered), held⟩
      · exact ⟨offers, fun _ delivered => delivered⟩
  | merge matchedClusterIds =>
      rcases consistent.mergeStore_cases matchedClusterIds with
        ⟨unchanged, -⟩ |
        ⟨listed, target, sources, itemId, accepts, isSource, ranked, executed⟩
      · rw [DeliveryOperation.execute, unchanged]
        exact ⟨offers, fun _ delivered => delivered⟩
      · have merged := consistent.deliveriesMerged accepts.targetStored
          accepts.targetListed isSource ranked
        have safe := keeps listed target accepts
        rw [DeliveryOperation.execute, executed]
        refine ⟨merged.offersNothingDelivered offers safe,
          fun _ delivered => merged.itemDelivered ?_ delivered⟩
        intro id inList item member undelivered
        have notDelivered := safe id inList item member
        rwa [if_neg undelivered] at notDelivered

/-- A step that does not keep deliveries offers an item that is delivered
before or after it. -/
theorem Consistent.keepsDeliveries_of_step (consistent : db.Consistent)
    {operation : DeliveryOperation}
    (offersAfter : (operation.execute db).OffersNothingDelivered)
    (noneRepeated : ∀ clusterId itemId,
      (operation.execute db).AwaitsDelivery clusterId →
        (operation.execute db).Member clusterId itemId →
          ¬ db.ItemDelivered itemId) :
    operation.KeepsDeliveries db := by
  cases operation with
  | deliver clusterId telegramMessageId now =>
      intro stored undelivered other itemId different awaits held member
      rw [DeliveryOperation.execute, consistent.recordDelivery_store,
        if_pos ⟨stored, undelivered⟩] at offersAfter
      exact offersAfter other itemId
        (awaitsDelivery_addDelivery.mpr ⟨awaits, different⟩) member
        ⟨clusterId, delivered_addDelivery.mpr (Or.inr rfl), held⟩
  | merge matchedClusterIds =>
      intro listed target accepts id inList itemId member
      rcases consistent.mergeStore_cases matchedClusterIds with
        ⟨-, refused⟩ |
        ⟨others, least, sources, best, accepted, isSource, ranked, executed⟩
      · exact (refused listed target accepts).elim
      · obtain rfl : listed = others :=
          List.map_injective_iff.mpr (fun _ _ => PyValue.int.inj)
            (accepts.given.symm.trans accepted.given)
        obtain rfl : target = least :=
          le_antisymm (accepts.least least accepted.targetListed)
            (accepted.least target accepts.targetListed)
        have merged := consistent.deliveriesMerged accepted.targetStored
          accepted.targetListed isSource ranked
        have joined := (merged.members target itemId).mpr
          (Or.inl ⟨rfl, id, inList, member⟩)
        rw [DeliveryOperation.execute, executed] at offersAfter noneRepeated
        split
        · rename_i delivered
          intro other unlisted awaits otherMember
          exact offersAfter other itemId
            ((merged.awaitsUnlisted other unlisted).mpr awaits)
            ((merged.members other itemId).mpr
              (Or.inr ⟨unlisted, otherMember⟩))
            ⟨target, merged.deliveredTarget.mpr delivered, joined⟩
        · rename_i undelivered
          exact noneRepeated target itemId
            (merged.awaitsTarget.mpr undelivered) joined

/-- At no time of the run does the listing return a cluster with an item
whose cluster was delivered by then. -/
def NeverOffersAgain (operations : List DeliveryOperation) (db : Database) :
    Prop :=
  ∀ earlier later, earlier <+: later → later <+: operations →
    ∀ clusterId itemId,
      hasBeenDelivered (run DeliveryOperation.execute earlier db) clusterId =
        .ok true →
      (run DeliveryOperation.execute earlier db).Member clusterId itemId →
      ∀ limit entries,
        listUndeliveredEntries (run DeliveryOperation.execute later db)
          limit = .ok entries →
        ∀ entry ∈ entries,
          ¬ (run DeliveryOperation.execute later db).Member entry.clusterId
            itemId

theorem Consistent.runDeliveries (consistent : db.Consistent)
    (operations : List DeliveryOperation) :
    (run DeliveryOperation.execute operations db).Consistent :=
  always_of_preserved DeliveryOperation.execute
    (fun operation _ before => before.executeDelivery operation)
    operations consistent operations (List.prefix_refl operations)

/-- The same in terms of delivered items and waiting clusters. -/
theorem Consistent.neverOffersAgain_iff (consistent : db.Consistent)
    {operations : List DeliveryOperation} :
    NeverOffersAgain operations db ↔
      ∀ earlier later, earlier <+: later → later <+: operations →
        ∀ clusterId itemId,
          (run DeliveryOperation.execute later db).AwaitsDelivery clusterId →
          (run DeliveryOperation.execute later db).Member clusterId itemId →
            ¬ (run DeliveryOperation.execute earlier db).ItemDelivered
              itemId := by
  constructor
  · rintro never earlier later first second clusterId itemId awaits member
      ⟨holder, delivered, held⟩
    obtain ⟨limit, entries, listed, entry, inEntries, rfl⟩ :=
      (consistent.runDeliveries later).mem_listUndeliveredEntries.mpr awaits
    exact never earlier later first second holder itemId
      ((consistent.runDeliveries earlier).hasBeenDelivered_iff.mpr delivered)
      held limit entries listed entry inEntries member
  · intro never earlier later first second holder itemId delivered held limit
      entries listed entry inEntries member
    have awaits := (consistent.runDeliveries later).mem_listUndeliveredEntries.mp
      ⟨limit, entries, listed, entry, inEntries, rfl⟩
    exact never earlier later first second entry.clusterId itemId awaits member
      ⟨holder,
        (consistent.runDeliveries earlier).hasBeenDelivered_iff.mp delivered,
        held⟩

/-- A run whose steps keep deliveries never offers an item again. -/
theorem Consistent.neverOffersAgain_of_guarded (consistent : db.Consistent)
    (offers : db.OffersNothingDelivered)
    {operations : List DeliveryOperation}
    (guarded : Guarded DeliveryOperation.execute
      DeliveryOperation.KeepsDeliveries operations db) :
    NeverOffersAgain operations db := by
  rw [consistent.neverOffersAgain_iff]
  rintro earlier _ ⟨between, rfl⟩ ⟨rest, rfl⟩ clusterId itemId awaits member
    delivered
  rw [guarded_append, guarded_append] at guarded
  obtain ⟨⟨guardedEarlier, guardedBetween⟩, -⟩ := guarded
  have atEarlier := always_of_guarded DeliveryOperation.execute
    (fun operation state
      (before : state.Consistent ∧ state.OffersNothingDelivered) keeps =>
        ⟨before.1.executeDelivery operation,
          (before.1.keepsDeliveries_step before.2 keeps).1⟩)
    ⟨consistent, offers⟩ guardedEarlier earlier (List.prefix_refl earlier)
  -- From here on the item remains in some delivered cluster.
  have atLater := always_of_guarded DeliveryOperation.execute
    (fun operation state
      (before : (state.Consistent ∧ state.OffersNothingDelivered) ∧
        state.ItemDelivered itemId) keeps =>
        have kept := before.1.1.keepsDeliveries_step before.1.2 keeps
        ⟨⟨before.1.1.executeDelivery operation, kept.1⟩,
          kept.2 itemId before.2⟩)
    ⟨atEarlier, delivered⟩ guardedBetween between (List.prefix_refl between)
  rw [← run_append] at atLater
  exact atLater.1.2 clusterId itemId awaits member atLater.2

/-- A run that never offers an item again keeps deliveries at each step. -/
theorem Consistent.guarded_of_neverOffersAgain (consistent : db.Consistent)
    {operations : List DeliveryOperation}
    (never : NeverOffersAgain operations db) :
    db.OffersNothingDelivered ∧
      Guarded DeliveryOperation.execute DeliveryOperation.KeepsDeliveries
        operations db := by
  rw [consistent.neverOffersAgain_iff] at never
  refine ⟨never [] [] (List.prefix_refl []) List.nil_prefix, ?_⟩
  induction operations generalizing db with
  | nil => trivial
  | cons operation operations ih =>
      have oneStep : [operation] <+: operation :: operations :=
        (List.prefix_cons_inj operation).mpr List.nil_prefix
      refine ⟨consistent.keepsDeliveries_of_step
        (never [operation] [operation] (List.prefix_refl _) oneStep)
        (never [] [operation] List.nil_prefix oneStep),
        ih (consistent.executeDelivery operation) ?_⟩
      intro earlier later first second
      exact never (operation :: earlier) (operation :: later)
        ((List.prefix_cons_inj operation).mpr first)
        ((List.prefix_cons_inj operation).mpr second)

/-- A successful call works on the smallest listed id, and neither adds nor
deletes a delivery of that cluster. -/
theorem Consistent.delivered_mergeTarget (consistent : db.Consistent)
    {matchedClusterIds : List PyValue} {result : ClusterMergeResult}
    {after : Database}
    (executed : atomically (mergeClusters matchedClusterIds) db =
      (.ok result, after)) :
    ∃ listed : List Int, matchedClusterIds = listed.map .int ∧
      result.targetClusterId ∈ listed ∧
      (∀ id ∈ listed, result.targetClusterId ≤ id) ∧
      (after.Delivered result.targetClusterId ↔
        db.Delivered result.targetClusterId) := by
  rcases consistent.mergeClusters_cases matchedClusterIds with
    ⟨problem, raised⟩ |
    ⟨listed, target, sources, given, sorted, targetStored, -, outcome⟩
  · rw [raised] at executed
    cases executed
  · obtain ⟨targetListed, least, isSource⟩ := sortedSet_cons sorted
    rcases outcome with ⟨-, unchanged⟩ | ⟨-, itemId, ranked, merged⟩
    · rw [unchanged] at executed
      cases executed
      exact ⟨listed, given, targetListed, least, Iff.rfl⟩
    · rw [merged] at executed
      cases executed
      exact ⟨listed, given, targetListed, least,
        (consistent.deliveriesMerged targetStored targetListed isSource
          ranked).deliveredTarget⟩

/-- A successful merge keeps the deliveries of the listed clusters exactly
when the smallest listed id is delivered or no other one is; and a run of
deliveries and merges never offers an item again exactly when it starts
without such an offer and each of its steps keeps deliveries. -/
theorem deliveries_kept_iff (consistent : db.Consistent) :
    (∀ matchedClusterIds result after,
      atomically (mergeClusters matchedClusterIds) db = (.ok result, after) →
        ∃ listed : List Int, matchedClusterIds = listed.map .int ∧
          result.targetClusterId ∈ listed ∧
          (∀ id ∈ listed, result.targetClusterId ≤ id) ∧
          (((∃ id ∈ listed, hasBeenDelivered db id = .ok true) →
              hasBeenDelivered after result.targetClusterId = .ok true) ↔
            hasBeenDelivered db result.targetClusterId = .ok true ∨
              ∀ id ∈ listed, id ≠ result.targetClusterId →
                hasBeenDelivered db id ≠ .ok true)) ∧
    ∀ operations, NeverOffersAgain operations db ↔
      db.OffersNothingDelivered ∧
        Guarded DeliveryOperation.execute DeliveryOperation.KeepsDeliveries
          operations db := by
  refine ⟨?_, fun operations =>
    ⟨consistent.guarded_of_neverOffersAgain, fun ⟨offers, guarded⟩ =>
      consistent.neverOffersAgain_of_guarded offers guarded⟩⟩
  intro matchedClusterIds result after executed
  have afterConsistent : after.Consistent := by
    have kept := consistent.executeDelivery (.merge matchedClusterIds)
    rw [DeliveryOperation.execute, mergeStore, executed] at kept
    exact kept
  obtain ⟨listed, given, targetListed, least, sameDelivery⟩ :=
    consistent.delivered_mergeTarget executed
  refine ⟨listed, given, targetListed, least, ?_⟩
  simp only [Ne, consistent.hasBeenDelivered_iff,
    afterConsistent.hasBeenDelivered_iff, sameDelivery]
  constructor
  · intro kept
    by_contra! lost
    obtain ⟨undelivered, id, inList, -, delivered⟩ := lost
    exact undelivered (kept ⟨id, inList, delivered⟩)
  · rintro (delivered | noneDelivered) ⟨id, inList, idDelivered⟩
    · exact delivered
    · by_contra undelivered
      apply noneDelivered id inList ?_ idDelivered
      rintro rfl
      exact undelivered idDelivered

/-- A time of delivery. -/
def sampleDeliveryTime : Timestamp :=
  ⟨⟨0, by decide⟩, none⟩

theorem deliveries_kept_iff_sample :
    sampleStore.Consistent ∧
      NeverOffersAgain [.deliver 1 none sampleDeliveryTime,
        .merge [.int 1, .int 2]] sampleStore := by
  refine ⟨sampleStore_consistent,
    ((deliveries_kept_iff sampleStore_consistent).2 _).mpr
      ⟨?_, ?_, ?_, trivial⟩⟩
  · rintro clusterId itemId - - ⟨holder, delivered, -⟩
    cases delivered
  · intro _ _ other itemId different _ held member
    simp only [Member, sampleStore, List.mem_cons, MemberRow.mk.injEq,
      List.not_mem_nil, or_false] at held member
    omega
  · intro listed target accepts id inList itemId member
    obtain rfl : [1, 2] = listed :=
      List.map_injective_iff.mpr (fun _ _ => PyValue.int.inj) accepts.given
    have isTarget : target = 1 := by
      have least := accepts.least 1 (by decide)
      have targetListed := accepts.targetListed
      simp only [List.mem_cons, List.not_mem_nil, or_false] at targetListed
      omega
    have delivered : (DeliveryOperation.execute
        (.deliver 1 none sampleDeliveryTime) sampleStore).Delivered
          target := by
      rw [isTarget]
      decide
    rw [if_pos delivered]
    intro other unlisted _ otherMember
    change sampleStore.Member id itemId at member
    change sampleStore.Member other itemId at otherMember
    simp only [Member, sampleStore, List.mem_cons, MemberRow.mk.injEq,
      List.not_mem_nil, or_false] at member otherMember inList unlisted
    omega

/-- Cluster 2 is delivered and then merged into the undelivered cluster 1,
which is offered with the item of cluster 2. -/
theorem merge_forgets_delivery :
    let delivered := DeliveryOperation.execute
      (.deliver 2 none sampleDeliveryTime) sampleStore
    let merged := DeliveryOperation.execute (.merge [.int 1, .int 2]) delivered
    (atomically (mergeClusters [.int 1, .int 2]) delivered).1 =
        .ok ⟨1, [2], 1, 1, true⟩ ∧
      hasBeenDelivered delivered 2 = .ok true ∧
      hasBeenDelivered merged 1 = .ok false ∧
      ¬ NeverOffersAgain [.deliver 2 none sampleDeliveryTime,
        .merge [.int 1, .int 2]] sampleStore := by
  refine ⟨rfl, rfl, rfl, fun never => ?_⟩
  refine never [.deliver 2 none sampleDeliveryTime] _
    ⟨[.merge [.int 1, .int 2]], rfl⟩ (List.prefix_refl _) 2 2 rfl (by decide)
    10 _ rfl ⟨1, some "title", none, some "https://example.org", none,
      "second", none, 2⟩ ?_ (by decide)
  decide

end Database

end Tca
