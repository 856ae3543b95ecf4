import Tca.ClusterRepair
import Tca.RetentionSettings

/-!
# The thread timeline

`list_entries` joins every cluster with its representative and the channel of
the representative, counts the members, and returns one page of the result in
publication order.  In a store whose clusters are all represented the pages
list every cluster once.
-/

namespace Tca

open TableRows RowRanking

/-- One timeline row representing a dedupe cluster representative item. -/
structure ThreadEntryRecord where
  clusterId : Int
  clusterKey : String
  representativeItemId : Int
  representativePublishedAt : Option Timestamp
  representativeTitle : Option String
  representativeBody : Option String
  representativeCanonicalUrl : Option String
  representativeChannelId : Int
  representativeChannelName : String
  representativeChannelUsername : Option String
  duplicateCount : Nat
  deriving DecidableEq

/-- A row of the join: a cluster, its representative and the channel of the
representative. -/
structure ThreadRow where
  cluster : ClusterRow
  representative : ItemRow
  channel : ChannelRow
  deriving DecidableEq

/-- The terms of the `ORDER BY` clause. -/
def ThreadRow.orderKey (row : ThreadRow) :
    Nat ×ₗ (WithBot String)ᵒᵈ ×ₗ Intᵒᵈ :=
  toLex (if row.representative.publishedText.isNone then 1 else 0,
    toLex (OrderDual.toDual (nullsFirst row.representative.publishedText),
      OrderDual.toDual row.cluster.id))

namespace Database

variable (db : Database)

/-- The inner joins of the statement. -/
def threadRows : List ThreadRow :=
  db.dedupeClusters.flatMap fun cluster =>
    (db.items.filter fun item =>
      cluster.representativeItemId = some item.id).flatMap fun item =>
        (db.telegramChannels.filter fun channel =>
          channel.id = item.channelId).map fun channel =>
            ⟨cluster, item, channel⟩

/-- `COUNT(members.item_id)`; the further joins are on primary keys and add no
rows. -/
def duplicateCount (clusterId : Int) : Nat :=
  (db.dedupeMembers.filter fun row => row.clusterId = clusterId).length

end Database

/-- `_coerce_positive_int` on an integer. -/
def coercePositiveInt (value : Int) (field : String) : Except PyError Int :=
  if 0 < value then .ok value
  else .error (.threadQueryRepositoryError s!"invalid `{field}` value")

/-- A stored time as the decoders return it: a naive one is read as UTC. -/
def Timestamp.readAsUtc (timestamp : Timestamp) : Timestamp :=
  { timestamp with offset := some (timestamp.offset.getD UtcOffset.utc) }

/-- `_coerce_optional_datetime` on a stored time. -/
def coerceOptionalDatetime (value : Option Timestamp) : Option Timestamp :=
  value.map Timestamp.readAsUtc

/-- `_decode_thread_entry_row`. -/
def decodeThreadEntryRow (db : Database) (row : ThreadRow) :
    Except PyError ThreadEntryRecord := do
  let clusterId ← coercePositiveInt row.cluster.id "cluster_id"
  let representativeItemId ←
    coercePositiveInt row.representative.id "representative_item_id"
  let representativeChannelId ←
    coercePositiveInt row.channel.id "representative_channel_id"
  return {
    clusterId
    clusterKey := row.cluster.clusterKey
    representativeItemId
    representativePublishedAt :=
      coerceOptionalDatetime row.representative.publishedAt
    representativeTitle := row.representative.title
    representativeBody := row.representative.body
    representativeCanonicalUrl := row.representative.canonicalUrl
    representativeChannelId
    representativeChannelName := row.channel.name
    representativeChannelUsername := row.channel.username
    duplicateCount := db.duplicateCount row.cluster.id }

/-- Decode the rows of a result in order. -/
def decodeThreadEntryRows (db : Database) :
    List ThreadRow → Except PyError (List ThreadEntryRecord)
  | [] => .ok []
  | row :: rows => do
      let entry ← decodeThreadEntryRow db row
      let entries ← decodeThreadEntryRows db rows
      return entry :: entries

/-- Return one deterministic page of representative thread entries. -/
def listEntries (db : Database) (page pageSize : Int) :
    Except PyError (List ThreadEntryRecord) := do
  let pageNumber ← coercePositiveInt page "page"
  let size ← coercePositiveInt pageSize "page_size"
  let offset := (pageNumber - 1) * size
  if IsSqlInteger size ∧ IsSqlInteger offset then
    decodeThreadEntryRows db
      (RowRanking.page size.toNat offset.toNat
        (orderBy ThreadRow.orderKey db.threadRows))
  else
    .error integerOverflow

namespace Database

/-- Row ids handed out by SQLite are positive. -/
structure PositiveIds (db : Database) : Prop where
  channels : ∀ id ∈ db.channelIds, 0 < id
  items : ∀ id ∈ db.itemIds, 0 < id
  clusters : ∀ id ∈ db.clusterIds, 0 < id

section Join

variable {db : Database}

theorem mem_threadRows {row : ThreadRow} :
    row ∈ db.threadRows ↔
      row.cluster ∈ db.dedupeClusters ∧
        (row.representative ∈ db.items ∧
          row.cluster.representativeItemId = some row.representative.id) ∧
        row.channel ∈ db.telegramChannels ∧
          row.channel.id = row.representative.channelId := by
  simp only [threadRows, List.mem_flatMap, List.mem_map, List.mem_filter,
    decide_eq_true_eq]
  constructor
  · rintro ⟨cluster, clusterStored, item, itemJoined, channel, channelJoined,
      rfl⟩
    exact ⟨clusterStored, itemJoined, channelJoined⟩
  · rintro ⟨clusterStored, itemJoined, channelJoined⟩
    exact ⟨row.cluster, clusterStored, row.representative, itemJoined,
      row.channel, channelJoined, rfl⟩

/-- No cluster appears in the join twice. -/
theorem threadRows_clusters_sublist (consistent : db.Consistent) :
    (db.threadRows.map (·.cluster)).Sublist db.dedupeClusters := by
  apply map_flatMap_sublist
  intro cluster _
  have fewItems : (db.items.filter fun item =>
      cluster.representativeItemId = some item.id).length ≤ 1 := by
    cases reference : cluster.representativeItemId with
    | none => simp
    | some itemId =>
        have oneItem := length_filter_key_le_one consistent.itemIdsNodup itemId
        simpa [eq_comm] using oneItem
  have fewChannels : ∀ item : ItemRow, (db.telegramChannels.filter fun channel =>
      channel.id = item.channelId).length ≤ 1 := fun item =>
    length_filter_key_le_one consistent.channelIdsNodup item.channelId
  generalize (db.items.filter fun item =>
    cluster.representativeItemId = some item.id) = items at fewItems ⊢
  rcases items with _ | ⟨item, _ | ⟨other, items⟩⟩
  · simp
  · have fewHere := fewChannels item
    rw [List.flatMap_singleton, List.map_map]
    generalize (db.telegramChannels.filter fun channel =>
      channel.id = item.channelId) = channels at fewHere ⊢
    rcases channels with _ | ⟨channel, _ | ⟨other, channels⟩⟩
    · simp
    · simp
    · simp at fewHere
  · simp at fewItems

/-- Every cluster appears in the join once. -/
theorem threadRows_clusters (consistent : db.Consistent)
    (sound : db.SoundClusters) :
    db.threadRows.map (·.cluster) = db.dedupeClusters := by
  apply map_flatMap_eq_self
  intro cluster stored
  obtain ⟨itemId, represented, member⟩ := sound cluster stored
  obtain ⟨item, itemStored, rfl⟩ :=
    List.mem_map.mp (consistent.memberItems _ member)
  obtain ⟨channel, channelStored, channelEq⟩ :=
    List.mem_map.mp (consistent.itemChannels item itemStored)
  have oneItem : (db.items.filter fun other =>
      cluster.representativeItemId = some other.id) = [item] := by
    rw [← filter_key_eq_singleton consistent.itemIdsNodup itemStored]
    apply List.filter_congr
    intro other _
    rw [represented, decide_eq_decide]
    constructor
    · intro same
      exact (Option.some.inj same).symm
    · intro same
      rw [same]
  have oneChannel : (db.telegramChannels.filter fun other =>
      other.id = item.channelId) = [channel] := by
    rw [← channelEq]
    exact filter_key_eq_singleton consistent.channelIdsNodup channelStored
  refine ⟨⟨cluster, item, channel⟩, ?_, rfl⟩
  rw [oneItem, List.flatMap_singleton, oneChannel, List.map_singleton]

end Join

end Database

/-- The entry of a joined row. -/
def ThreadRow.entry (db : Database) (row : ThreadRow) :
    ThreadEntryRecord where
  clusterId := row.cluster.id
  clusterKey := row.cluster.clusterKey
  representativeItemId := row.representative.id
  representativePublishedAt :=
    coerceOptionalDatetime row.representative.publishedAt
  representativeTitle := row.representative.title
  representativeBody := row.representative.body
  representativeCanonicalUrl := row.representative.canonicalUrl
  representativeChannelId := row.channel.id
  representativeChannelName := row.channel.name
  representativeChannelUsername := row.channel.username
  duplicateCount := db.duplicateCount row.cluster.id

/-- The cluster row that an entry stands for. -/
def ThreadEntryRecord.clusterRow (entry : ThreadEntryRecord) : ClusterRow :=
  ⟨entry.clusterId, entry.clusterKey, some entry.representativeItemId⟩

namespace Database

/-- The order of the timeline: a known publication time before an unknown one,
then the larger text of the time, then the larger cluster id. -/
def ListedBefore (db : Database) (first second : ThreadEntryRecord) : Prop :=
  ∃ one ∈ db.items, ∃ two ∈ db.items,
    one.id = first.representativeItemId ∧
    two.id = second.representativeItemId ∧
    match one.publishedText, two.publishedText with
    | some _, none => True
    | none, some _ => False
    | none, none => second.clusterId < first.clusterId
    | some oneText, some twoText => twoText < oneText ∨
        twoText = oneText ∧ second.clusterId < first.clusterId

/-- The pages up to the first empty one, what they list and in which order. -/
structure ListsThread (db : Database) (size : Int)
    (pages : List (List ThreadEntryRecord)) : Prop where
  listed : ∀ index : Fin pages.length,
    listEntries db (index.val + 1) size = .ok (pages.get index)
  nonempty : ∀ entries ∈ pages, entries ≠ []
  exhausted : listEntries db (pages.length + 1) size = .ok []
  everyCluster : (pages.flatten.map
    ThreadEntryRecord.clusterRow).Perm db.dedupeClusters
  ordered : pages.flatten.Pairwise db.ListedBefore
  counted : ∀ entry ∈ pages.flatten, entry.duplicateCount =
    (db.dedupeMembers.filter fun row => row.clusterId = entry.clusterId).length

section Pages

variable {db : Database}

theorem PositiveIds.decodeThreadEntryRow_eq (positive : db.PositiveIds)
    {row : ThreadRow} (joined : row ∈ db.threadRows) :
    decodeThreadEntryRow db row = .ok (row.entry db) := by
  obtain ⟨cluster, ⟨item, -⟩, channel, -⟩ := mem_threadRows.mp joined
  have clusterPositive := positive.clusters _ (List.mem_map_of_mem cluster)
  have itemPositive := positive.items _ (List.mem_map_of_mem item)
  have channelPositive := positive.channels _ (List.mem_map_of_mem channel)
  simp only [decodeThreadEntryRow, coercePositiveInt, clusterPositive,
    itemPositive, channelPositive, if_true]
  rfl

theorem PositiveIds.decodeThreadEntryRows_eq (positive : db.PositiveIds)
    {rows : List ThreadRow} (joined : ∀ row ∈ rows, row ∈ db.threadRows) :
    decodeThreadEntryRows db rows = .ok (rows.map (·.entry db)) := by
  induction rows with
  | nil => rfl
  | cons row rows ih =>
      rw [decodeThreadEntryRows,
        positive.decodeThreadEntryRow_eq (joined row List.mem_cons_self),
        ih fun other member => joined other (List.mem_cons_of_mem _ member)]
      rfl

/-- One page, when its size and offset can be bound. -/
theorem PositiveIds.listEntries_eq (positive : db.PositiveIds)
    {size index : Nat} (sizePositive : 0 < size)
    (sizeFits : IsSqlInteger size) (offsetFits : IsSqlInteger (index * size)) :
    listEntries db (index + 1) size =
      .ok ((page size (index * size)
        (orderBy ThreadRow.orderKey db.threadRows)).map (·.entry db)) := by
  have pagePositive : (0 : Int) < index + 1 := by
    omega
  have sizePositiveInt : (0 : Int) < size := by
    omega
  have offsetEq : ((index : Int) + 1 - 1) * size = index * size := by
    rw [Int.add_sub_cancel]
  have joined : ∀ row ∈ page size (index * size)
      (orderBy ThreadRow.orderKey db.threadRows), row ∈ db.threadRows :=
    fun row member => (mem_orderBy _).mp
      (List.mem_of_mem_drop (List.mem_of_mem_take member))
  have decoded := positive.decodeThreadEntryRows_eq joined
  rw [listEntries, coercePositiveInt, if_pos pagePositive, coercePositiveInt,
    if_pos sizePositiveInt]
  change (if IsSqlInteger size ∧
      IsSqlInteger (((index : Int) + 1 - 1) * size) then _ else _) = _
  rw [offsetEq, if_pos ⟨sizeFits, offsetFits⟩, ← decoded]
  rfl

/-- The rows in timeline order, each turned into its entry. -/
def threadEntries (db : Database) : List ThreadEntryRecord :=
  (orderBy ThreadRow.orderKey db.threadRows).map (·.entry db)

theorem mem_threadEntries {entry : ThreadEntryRecord} :
    entry ∈ db.threadEntries ↔ ∃ row ∈ db.threadRows, row.entry db = entry := by
  simp only [threadEntries, List.mem_map, mem_orderBy]

/-- The entries stand for the clusters, one for each. -/
theorem threadEntries_clusters (consistent : db.Consistent)
    (sound : db.SoundClusters) :
    (db.threadEntries.map ThreadEntryRecord.clusterRow).Perm
      db.dedupeClusters := by
  have sameRow : ∀ row ∈ orderBy ThreadRow.orderKey db.threadRows,
      (row.entry db).clusterRow = row.cluster := by
    intro row member
    obtain ⟨-, ⟨-, represented⟩, -⟩ :=
      mem_threadRows.mp ((mem_orderBy _).mp member)
    rw [ThreadEntryRecord.clusterRow, ThreadRow.entry, ← represented]
  have sameRows : db.threadEntries.map ThreadEntryRecord.clusterRow =
      (orderBy ThreadRow.orderKey db.threadRows).map (·.cluster) := by
    rw [threadEntries, List.map_map]
    exact List.map_congr_left sameRow
  rw [sameRows, ← threadRows_clusters consistent sound]
  exact (orderBy_perm _ _).map _

/-- Rows of different clusters are listed in the order of their keys. -/
theorem listedBefore_of_orderKey {first second : ThreadRow}
    (firstJoined : first ∈ db.threadRows)
    (secondJoined : second ∈ db.threadRows)
    (different : first.cluster.id ≠ second.cluster.id)
    (before : first.orderKey ≤ second.orderKey) :
    db.ListedBefore (first.entry db) (second.entry db) := by
  obtain ⟨-, ⟨firstItem, -⟩, -⟩ := mem_threadRows.mp firstJoined
  obtain ⟨-, ⟨secondItem, -⟩, -⟩ := mem_threadRows.mp secondJoined
  refine ⟨first.representative, firstItem, second.representative, secondItem,
    rfl, rfl, ?_⟩
  simp only [ThreadRow.orderKey, Prod.Lex.toLex_le_toLex,
    OrderDual.toDual_lt_toDual, OrderDual.toDual_le_toDual,
    OrderDual.toDual_inj] at before
  change match first.representative.publishedText,
      second.representative.publishedText with
    | some _, none => True
    | none, some _ => False
    | none, none => second.cluster.id < first.cluster.id
    | some oneText, some twoText => twoText < oneText ∨
        twoText = oneText ∧ second.cluster.id < first.cluster.id
  cases firstText : first.representative.publishedText <;>
    cases secondText : second.representative.publishedText <;>
    simp [firstText, secondText, nullsFirst] at before ⊢
  · omega
  · rcases before with earlier | ⟨sameText, lower⟩
    · exact Or.inl earlier
    · exact Or.inr ⟨sameText.symm, by omega⟩

theorem threadEntries_ordered (consistent : db.Consistent)
    (sound : db.SoundClusters) :
    db.threadEntries.Pairwise db.ListedBefore := by
  have distinct : (orderBy ThreadRow.orderKey db.threadRows).Pairwise
      fun first second => first.cluster.id ≠ second.cluster.id := by
    rw [← List.pairwise_map]
    have permuted := ((orderBy_perm ThreadRow.orderKey db.threadRows).map
      fun row => row.cluster.id).nodup_iff
    apply permuted.mpr
    have sameIds : db.threadRows.map (fun row => row.cluster.id) =
        db.clusterIds := by
      rw [clusterIds, ← threadRows_clusters consistent sound, List.map_map]
      rfl
    rw [sameIds]
    exact consistent.clusterIdsNodup
  have sorted := (orderBy_pairwise ThreadRow.orderKey db.threadRows).and
    distinct
  rw [threadEntries, List.pairwise_map]
  apply sorted.imp_of_mem
  rintro first second firstMember secondMember ⟨before, different⟩
  exact listedBefore_of_orderKey ((mem_orderBy _).mp firstMember)
    ((mem_orderBy _).mp secondMember) different before

/-- An offset below one that can be bound can be bound. -/
private theorem isSqlInteger_mul_of_le {first second size : Nat}
    (atMost : first * size ≤ second * size)
    (fits : IsSqlInteger (second * size)) : IsSqlInteger (first * size) := by
  have atMostInt : (first : Int) * size ≤ second * size := by
    exact_mod_cast atMost
  have nonnegative : 0 ≤ (first : Int) * size := by
    positivity
  unfold IsSqlInteger at fits ⊢
  omega

/-- The pages of a store with positive ids, as long as their offsets can be
bound, cut the timeline. -/
theorem Consistent.listsThread (consistent : db.Consistent)
    (sound : db.SoundClusters) (positive : db.PositiveIds) {size : Nat}
    (sizePositive : 0 < size) (sizeFits : IsSqlInteger size)
    (offsetFits : IsSqlInteger (pageCount size db.dedupeClusters * size)) :
    ∃ pages, db.ListsThread size pages := by
  let rows := orderBy ThreadRow.orderKey db.threadRows
  have rowCount : rows.length = db.dedupeClusters.length := by
    rw [← threadRows_clusters consistent sound, List.length_map]
    exact (orderBy_perm ThreadRow.orderKey db.threadRows).length_eq
  have count : pageCount size rows = pageCount size db.dedupeClusters := by
    rw [pageCount, pageCount, rowCount]
  rw [← count] at offsetFits
  have covers : rows.length ≤ pageCount size rows * size :=
    pageCount_covers sizePositive rows
  let pages := (List.range (pageCount size rows)).map fun index =>
    (page size (index * size) rows).map (·.entry db)
  have pageTotal : pages.length = pageCount size rows := by
    simp [pages]
  have flattened : pages.flatten = db.threadEntries := by
    have pieces : pages = ((List.range (pageCount size rows)).map
        fun index => page size (index * size) rows).map
          (List.map (·.entry db)) := by
      simp [pages]
    rw [pieces, ← List.map_flatten, flatten_pages,
      List.take_of_length_le covers]
    rfl
  refine ⟨pages, ?_, ?_, ?_, ?_, ?_, ?_⟩
  · intro index
    have early : index.val < pageCount size rows := by
      rw [← pageTotal]
      exact index.isLt
    have inside := lt_length_of_lt_pageCount sizePositive early
    have indexFits := isSqlInteger_mul_of_le (inside.le.trans covers)
      offsetFits
    rw [positive.listEntries_eq sizePositive sizeFits indexFits]
    simp [pages, rows]
  · intro entries member
    obtain ⟨index, early, rfl⟩ := List.mem_map.mp member
    have inside := lt_length_of_lt_pageCount sizePositive
      (List.mem_range.mp early)
    rw [Ne, List.map_eq_nil_iff, page_eq_nil_iff sizePositive]
    omega
  · rw [pageTotal, positive.listEntries_eq sizePositive sizeFits offsetFits,
      (page_eq_nil_iff sizePositive).mpr covers]
    rfl
  · rw [flattened]
    exact threadEntries_clusters consistent sound
  · rw [flattened]
    exact threadEntries_ordered consistent sound
  · intro entry member
    rw [flattened] at member
    obtain ⟨row, -, rfl⟩ := mem_threadEntries.mp member
    rfl

end Pages

end Database

end Tca
