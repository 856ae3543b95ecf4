import Tca.PythonValues
import Tca.TimestampText
import Tca.TableRows
import Tca.Transactions

/-!
# The SQLite schema of the storage layer

Rows of the tables created by the migrations, restricted to the columns that
the modelled statements read or write, and the keys and foreign keys that
SQLite enforces on them.  Row ids are integers; timestamps bound by the driver
are stored as their `isoformat(' ')` text; JSON text columns hold the document
they encode.
-/

namespace Tca

open TableRows

structure ChannelRow where
  id : Int
  accountId : Int
  telegramChannelId : Int
  name : String
  username : Option String
  isEnabled : Bool
  deriving DecidableEq

structure ChannelStateRow where
  channelId : Int
  deriving DecidableEq

structure ChannelGroupMemberRow where
  groupId : Int
  channelId : Int
  deriving DecidableEq

structure PollJobRow where
  id : Int
  channelId : Int
  correlationId : String
  deriving DecidableEq

structure RawMessageRow where
  id : Int
  channelId : Int
  messageId : Int
  createdAt : String
  deriving DecidableEq

structure ItemRow where
  id : Int
  channelId : Int
  messageId : Int
  rawMessageId : Option Int
  publishedAt : Option Timestamp
  title : Option String
  body : Option String
  canonicalUrl : Option String
  canonicalUrlHash : Option String
  contentHash : Option String
  createdAt : String
  deriving DecidableEq

structure ClusterRow where
  id : Int
  clusterKey : String
  representativeItemId : Option Int
  deriving DecidableEq

structure MemberRow where
  clusterId : Int
  itemId : Int
  deriving DecidableEq

structure DecisionRow where
  id : Int
  itemId : Int
  clusterId : Option Int
  candidateItemId : Option Int
  strategyName : String
  outcome : String
  reasonCode : Option String
  score : Option PyFloat
  metadataJson : Option PyValue

structure DeliveryRow where
  id : Int
  clusterId : Int
  deliveredAt : Timestamp
  telegramMessageId : Option String
  deriving DecidableEq

structure IngestErrorRow where
  id : Int
  channelId : Option Int
  createdAt : String
  deriving DecidableEq

structure NotificationRow where
  id : Int
  type : String
  severity : String
  message : String
  payloadJson : Option PyValue

/-- A settings row.  The text of `value_json` is either a document or
something `json.loads` rejects, with the details of its complaint. -/
structure SettingRow where
  key : String
  valueJson : Except String PyValue

/-- The tables of the store. -/
@[ext]
structure Database where
  telegramChannels : List ChannelRow
  channelStates : List ChannelStateRow
  channelGroupMembers : List ChannelGroupMemberRow
  pollJobs : List PollJobRow
  rawMessages : List RawMessageRow
  items : List ItemRow
  dedupeClusters : List ClusterRow
  dedupeMembers : List MemberRow
  dedupeDecisions : List DecisionRow
  botDeliveries : List DeliveryRow
  ingestErrors : List IngestErrorRow
  notifications : List NotificationRow
  settings : List SettingRow

/-- The integers that SQLite stores; the driver refuses to bind others. -/
def IsSqlInteger (value : Int) : Prop :=
  -9223372036854775808 ≤ value ∧ value ≤ 9223372036854775807

instance (value : Int) : Decidable (IsSqlInteger value) :=
  inferInstanceAs (Decidable (_ ∧ _))

namespace Database

variable (db : Database)

def channelIds : List Int := db.telegramChannels.map (·.id)

def rawMessageIds : List Int := db.rawMessages.map (·.id)

def itemIds : List Int := db.items.map (·.id)

def clusterIds : List Int := db.dedupeClusters.map (·.id)

/-- The item is a member of the cluster. -/
def Member (clusterId itemId : Int) : Prop :=
  ⟨clusterId, itemId⟩ ∈ db.dedupeMembers

instance (clusterId itemId : Int) : Decidable (db.Member clusterId itemId) :=
  inferInstanceAs (Decidable (_ ∈ db.dedupeMembers))

/-- Primary keys and unique constraints. -/
structure UniqueKeys : Prop where
  channelIdsNodup : db.channelIds.Nodup
  rawMessageIdsNodup : db.rawMessageIds.Nodup
  itemIdsNodup : db.itemIds.Nodup
  clusterIdsNodup : db.clusterIds.Nodup
  clusterKeysNodup : (db.dedupeClusters.map (·.clusterKey)).Nodup
  membersNodup : db.dedupeMembers.Nodup
  deliveriesNodup : (db.botDeliveries.map (·.clusterId)).Nodup

/-- Foreign keys. -/
structure ForeignKeys : Prop where
  channelStates : ∀ row ∈ db.channelStates, row.channelId ∈ db.channelIds
  channelGroupMembers : ∀ row ∈ db.channelGroupMembers,
    row.channelId ∈ db.channelIds
  pollJobs : ∀ row ∈ db.pollJobs, row.channelId ∈ db.channelIds
  rawMessages : ∀ row ∈ db.rawMessages, row.channelId ∈ db.channelIds
  itemChannels : ∀ row ∈ db.items, row.channelId ∈ db.channelIds
  itemRawMessages : ∀ row ∈ db.items, ∀ id, row.rawMessageId = some id →
    id ∈ db.rawMessageIds
  representatives : ∀ row ∈ db.dedupeClusters, ∀ id,
    row.representativeItemId = some id → id ∈ db.itemIds
  memberClusters : ∀ row ∈ db.dedupeMembers, row.clusterId ∈ db.clusterIds
  memberItems : ∀ row ∈ db.dedupeMembers, row.itemId ∈ db.itemIds
  decisionItems : ∀ row ∈ db.dedupeDecisions, row.itemId ∈ db.itemIds
  decisionClusters : ∀ row ∈ db.dedupeDecisions, ∀ id,
    row.clusterId = some id → id ∈ db.clusterIds
  decisionCandidates : ∀ row ∈ db.dedupeDecisions, ∀ id,
    row.candidateItemId = some id → id ∈ db.itemIds
  deliveries : ∀ row ∈ db.botDeliveries, row.clusterId ∈ db.clusterIds
  ingestErrors : ∀ row ∈ db.ingestErrors, ∀ id, row.channelId = some id →
    id ∈ db.channelIds

/-- Row ids are SQLite integers. -/
structure SqlRowids : Prop where
  channelIdsSql : ∀ id ∈ db.channelIds, IsSqlInteger id
  itemIdsSql : ∀ id ∈ db.itemIds, IsSqlInteger id
  clusterIdsSql : ∀ id ∈ db.clusterIds, IsSqlInteger id

/-- A state SQLite can hold: its keys are unique, its references resolve and
its row ids are SQLite integers. -/
structure Consistent : Prop extends UniqueKeys db, ForeignKeys db, SqlRowids db

/-- The nullable reference, when set, points to one of the ids. -/
def ResolvesIn (ids : List Int) (reference : Option Int) : Prop :=
  ∀ id, reference = some id → id ∈ ids

instance (ids : List Int) (reference : Option Int) :
    Decidable (ResolvesIn ids reference) :=
  inferInstanceAs (Decidable (∀ id ∈ reference, id ∈ ids))

instance : Decidable db.UniqueKeys :=
  decidable_of_iff
    (db.channelIds.Nodup ∧ db.rawMessageIds.Nodup ∧ db.itemIds.Nodup ∧
      db.clusterIds.Nodup ∧ (db.dedupeClusters.map (·.clusterKey)).Nodup ∧
      db.dedupeMembers.Nodup ∧ (db.botDeliveries.map (·.clusterId)).Nodup)
    ⟨fun ⟨channels, rawMessages, items, clusters, keys, members,
        deliveries⟩ =>
      ⟨channels, rawMessages, items, clusters, keys, members, deliveries⟩,
    fun unique =>
      ⟨unique.channelIdsNodup, unique.rawMessageIdsNodup,
        unique.itemIdsNodup, unique.clusterIdsNodup,
        unique.clusterKeysNodup, unique.membersNodup,
        unique.deliveriesNodup⟩⟩

instance : Decidable db.ForeignKeys :=
  decidable_of_iff
    ((∀ row ∈ db.channelStates, row.channelId ∈ db.channelIds) ∧
      (∀ row ∈ db.channelGroupMembers, row.channelId ∈ db.channelIds) ∧
      (∀ row ∈ db.pollJobs, row.channelId ∈ db.channelIds) ∧
      (∀ row ∈ db.rawMessages, row.channelId ∈ db.channelIds) ∧
      (∀ row ∈ db.items, row.channelId ∈ db.channelIds) ∧
      (∀ row ∈ db.items, ResolvesIn db.rawMessageIds row.rawMessageId) ∧
      (∀ row ∈ db.dedupeClusters,
        ResolvesIn db.itemIds row.representativeItemId) ∧
      (∀ row ∈ db.dedupeMembers, row.clusterId ∈ db.clusterIds) ∧
      (∀ row ∈ db.dedupeMembers, row.itemId ∈ db.itemIds) ∧
      (∀ row ∈ db.dedupeDecisions, row.itemId ∈ db.itemIds) ∧
      (∀ row ∈ db.dedupeDecisions, ResolvesIn db.clusterIds row.clusterId) ∧
      (∀ row ∈ db.dedupeDecisions,
        ResolvesIn db.itemIds row.candidateItemId) ∧
      (∀ row ∈ db.botDeliveries, row.clusterId ∈ db.clusterIds) ∧
      ∀ row ∈ db.ingestErrors, ResolvesIn db.channelIds row.channelId)
    ⟨fun ⟨states, groups, jobs, rawMessages, itemChannels, itemRawMessages,
        representatives, memberClusters, memberItems, decisionItems,
        decisionClusters, decisionCandidates, deliveries, errors⟩ =>
      ⟨states, groups, jobs, rawMessages, itemChannels, itemRawMessages,
        representatives, memberClusters, memberItems, decisionItems,
        decisionClusters, decisionCandidates, deliveries, errors⟩,
    fun keys =>
      ⟨keys.channelStates, keys.channelGroupMembers, keys.pollJobs,
        keys.rawMessages, keys.itemChannels, keys.itemRawMessages,
        keys.representatives, keys.memberClusters, keys.memberItems,
        keys.decisionItems, keys.decisionClusters, keys.decisionCandidates,
        keys.deliveries, keys.ingestErrors⟩⟩

instance : Decidable db.SqlRowids :=
  decidable_of_iff
    ((∀ id ∈ db.channelIds, IsSqlInteger id) ∧
      (∀ id ∈ db.itemIds, IsSqlInteger id) ∧
      ∀ id ∈ db.clusterIds, IsSqlInteger id)
    ⟨fun ⟨channels, items, clusters⟩ => ⟨channels, items, clusters⟩,
    fun rowids =>
      ⟨rowids.channelIdsSql, rowids.itemIdsSql, rowids.clusterIdsSql⟩⟩

instance : Decidable db.Consistent :=
  decidable_of_iff (db.UniqueKeys ∧ db.ForeignKeys ∧ db.SqlRowids)
    ⟨fun ⟨unique, references, rowids⟩ =>
      { unique, references, rowids with },
    fun consistent => ⟨consistent.toUniqueKeys, consistent.toForeignKeys,
      consistent.toSqlRowids⟩⟩

/-- The store right after the migrations. -/
def empty : Database :=
  ⟨[], [], [], [], [], [], [], [], [], [], [], [], []⟩

theorem empty_consistent : empty.Consistent := by
  decide

/-- An item of the sample store. -/
def sampleItem (id channelId : Int) (canonicalUrl : Option String) :
    ItemRow where
  id := id
  channelId := channelId
  messageId := id
  rawMessageId := none
  publishedAt := none
  title := some "title"
  body := none
  canonicalUrl := canonicalUrl
  canonicalUrlHash := none
  contentHash := none
  createdAt := "2024-01-01 00:00:00"

/-- Three items of two channels, only the second one linked, and each item in
a cluster of its own. -/
def sampleStore : Database :=
  { empty with
    telegramChannels := [⟨1, 1, 100, "first", none, true⟩,
      ⟨2, 1, 200, "second", none, true⟩]
    items := [sampleItem 1 1 none,
      sampleItem 2 2 (some "https://example.org"), sampleItem 3 2 none]
    dedupeClusters := [⟨1, "key-1", some 1⟩, ⟨2, "key-2", some 2⟩,
      ⟨3, "key-3", some 3⟩]
    dedupeMembers := [⟨1, 1⟩, ⟨2, 2⟩, ⟨3, 3⟩] }

theorem sampleStore_consistent : sampleStore.Consistent := by
  decide

end Database

/-- A write transaction on the store. -/
abbrev StorageTransaction (Value : Type) : Type :=
  Transaction Database PyError Value

/-- What the driver raises for an integer that SQLite cannot hold. -/
def integerOverflow : PyError :=
  .overflowError "Python int too large to convert to SQLite INTEGER"

/-- Bind an integer parameter of a statement. -/
def bindInteger (value : Int) : StorageTransaction PUnit :=
  .require (IsSqlInteger value) integerOverflow

/-- Bind every element of an expanding parameter. -/
def bindIntegers (values : List Int) : StorageTransaction PUnit :=
  .require (∀ value ∈ values, IsSqlInteger value) integerOverflow

end Tca
