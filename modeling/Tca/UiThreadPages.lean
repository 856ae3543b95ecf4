import Tca.ThreadQuery

/-!
# The thread page of the user interface

The page of the user interface has a statement of its own: it counts distinct
members, collects the names of their channels, may restrict the
representatives to one channel, and reads one row more than the page to learn
whether there is a next page.  The file shows that it pages through the same
timeline as `list_entries`.
-/

namespace Tca

open TableRows RowRanking

/-- Typed row payload used by thread UI template rendering. -/
structure UIThreadEntryRow where
  clusterId : Int
  clusterKey : String
  representativeItemId : Int
  representativePublishedAt : Option String
  representativeTitle : Option String
  representativeBody : Option String
  representativeCanonicalUrl : Option String
  representativeChannelId : Int
  representativeChannelName : String
  duplicateCount : Nat
  sourceChannelNames : List String
  deriving DecidableEq

/-- `_parse_source_channel_names`. -/
def parseSourceChannelNames (sourceChannelNames : String) : List String :=
  (((sourceChannelNames.splitOn ",").map pythonStrip).filter
    (· ≠ "")).dedup.insertionSort (· ≤ ·)

namespace Database

variable (db : Database)

/-- The members of a cluster. -/
def clusterMembers (clusterId : Int) : List MemberRow :=
  db.dedupeMembers.filter fun row => row.clusterId = clusterId

/-- `COUNT(DISTINCT members.item_id)`. -/
def distinctMemberCount (clusterId : Int) : Nat :=
  ((db.clusterMembers clusterId).map (·.itemId)).dedup.length

/-- The names of the channels of the members, through the outer joins. -/
def memberChannelNames (clusterId : Int) : List String :=
  (db.clusterMembers clusterId).flatMap fun member =>
    (db.items.filter fun item => item.id = member.itemId).flatMap fun item =>
      (db.telegramChannels.filter fun channel =>
        channel.id = item.channelId).map (·.name)

/-- `COALESCE(GROUP_CONCAT(DISTINCT member_channels.name), ...)`.  SQLite joins
the names in any order; the decoder sorts their parts. -/
def sourceChannelNames (row : ThreadRow) : String :=
  match (db.memberChannelNames row.cluster.id).dedup with
  | [] => row.channel.name
  | names => ",".intercalate names

end Database

/-- `_decode_ui_thread_entry_row`. -/
def decodeUiThreadEntryRow (db : Database) (row : ThreadRow) :
    UIThreadEntryRow where
  clusterId := row.cluster.id
  clusterKey := row.cluster.clusterKey
  representativeItemId := row.representative.id
  representativePublishedAt := row.representative.publishedText
  representativeTitle := row.representative.title
  representativeBody := row.representative.body
  representativeCanonicalUrl := row.representative.canonicalUrl
  representativeChannelId := row.channel.id
  representativeChannelName := row.channel.name
  duplicateCount := db.distinctMemberCount row.cluster.id
  sourceChannelNames := parseSourceChannelNames (db.sourceChannelNames row)

/-- `LIMIT :limit OFFSET :offset`; a negative limit is none, a negative offset
is zero. -/
def limitOffset {Row : Type} (limit offset : Int) (rows : List Row) :
    List Row :=
  if limit < 0 then rows.drop offset.toNat
  else page limit.toNat offset.toNat rows

/-- `rows[:size]`; a negative size drops rows from the end. -/
def sliceTo {Row : Type} (size : Int) (rows : List Row) : List Row :=
  if size < 0 then rows.take (rows.length - (-size).toNat)
  else rows.take size.toNat

/-- The row passes the channel filter of the statement. -/
def ThreadRow.shownFor (selectedChannelId : Option Int) (row : ThreadRow) :
    Bool :=
  match selectedChannelId with
  | none => true
  | some channelId => row.representative.channelId = channelId

/-- `_load_thread_entries`. -/
def loadThreadEntries (db : Database) (pageNumber size : Int)
    (selectedChannelId : Option Int) :
    Except PyError (List UIThreadEntryRow × Bool) :=
  let offset := (pageNumber - 1) * size
  let limit := size + 1
  if (∀ channelId ∈ selectedChannelId, IsSqlInteger channelId) ∧
      IsSqlInteger limit ∧ IsSqlInteger offset then
    let rows := limitOffset limit offset (orderBy ThreadRow.orderKey
      (db.threadRows.filter (ThreadRow.shownFor selectedChannelId)))
    .ok ((sliceTo size rows).map (decodeUiThreadEntryRow db),
      decide (size < rows.length))
  else .error integerOverflow

/-- The parts of an entry that both pages show. -/
def ThreadEntryRecord.summary (entry : ThreadEntryRecord) : Int × Int × Nat :=
  (entry.clusterId, entry.representativeItemId, entry.duplicateCount)

def UIThreadEntryRow.summary (entry : UIThreadEntryRow) : Int × Int × Nat :=
  (entry.clusterId, entry.representativeItemId, entry.duplicateCount)

namespace Database

variable {db : Database}

/-- Members are unique, so distinct ones are as many. -/
theorem Consistent.distinctMemberCount_eq (consistent : db.Consistent)
    (clusterId : Int) :
    db.distinctMemberCount clusterId = db.duplicateCount clusterId := by
  have distinct : ((db.clusterMembers clusterId).map
      (·.itemId)).Nodup := by
    refine List.Nodup.map_on ?_ (consistent.membersNodup.filter _)
    intro first firstMember second secondMember sameItem
    have firstCluster : first.clusterId = clusterId := by
      simpa using (List.mem_filter.mp firstMember).2
    have secondCluster : second.clusterId = clusterId := by
      simpa using (List.mem_filter.mp secondMember).2
    cases first
    cases second
    simp_all
  rw [distinctMemberCount, distinct.dedup, List.length_map, clusterMembers,
    duplicateCount]

/-- The cluster id separates the joined rows. -/
theorem Consistent.orderKey_separates (consistent : db.Consistent) :
    ∀ first ∈ db.threadRows, ∀ second ∈ db.threadRows,
      first.orderKey = second.orderKey → first = second := by
  intro first firstJoined second secondJoined sameKey
  obtain ⟨firstCluster, ⟨firstItem, firstRep⟩, firstChannel, firstId⟩ :=
    mem_threadRows.mp firstJoined
  obtain ⟨secondCluster, ⟨secondItem, secondRep⟩, secondChannel, secondId⟩ :=
    mem_threadRows.mp secondJoined
  have sameId : first.cluster.id = second.cluster.id := by
    simp only [ThreadRow.orderKey, toLex_inj, Prod.mk.injEq,
      OrderDual.toDual_inj] at sameKey
    exact sameKey.2.2
  have sameCluster := eq_of_key_eq consistent.clusterIdsNodup firstCluster
    secondCluster sameId
  have sameItem : first.representative = second.representative := by
    apply eq_of_key_eq consistent.itemIdsNodup firstItem secondItem
    rw [sameCluster, secondRep] at firstRep
    exact (Option.some.inj firstRep).symm
  have sameChannel : first.channel = second.channel := by
    apply eq_of_key_eq consistent.channelIdsNodup firstChannel secondChannel
    rw [firstId, secondId, sameItem]
  cases first
  cases second
  simp_all

end Database

section ApiPages

variable {db : Database}

theorem eq_of_coercePositiveInt {value result : Int} {field : String}
    (coerced : coercePositiveInt value field = .ok result) :
    0 < value ∧ result = value := by
  unfold coercePositiveInt at coerced
  split at coerced
  · rename_i positive
    exact ⟨positive, (Except.ok.inj coerced).symm⟩
  · cases coerced

theorem eq_of_decodeThreadEntryRow {row : ThreadRow}
    {entry : ThreadEntryRecord}
    (decoded : decodeThreadEntryRow db row = .ok entry) :
    entry = row.entry db := by
  unfold decodeThreadEntryRow at decoded
  obtain ⟨clusterId, clusterIs, decoded⟩ := bind_eq_ok decoded
  obtain ⟨itemId, itemIs, decoded⟩ := bind_eq_ok decoded
  obtain ⟨channelId, channelIs, decoded⟩ := bind_eq_ok decoded
  obtain ⟨-, rfl⟩ := eq_of_coercePositiveInt clusterIs
  obtain ⟨-, rfl⟩ := eq_of_coercePositiveInt itemIs
  obtain ⟨-, rfl⟩ := eq_of_coercePositiveInt channelIs
  exact (Except.ok.inj decoded).symm

theorem eq_of_decodeThreadEntryRows {rows : List ThreadRow}
    {entries : List ThreadEntryRecord}
    (decoded : decodeThreadEntryRows db rows = .ok entries) :
    entries = rows.map (·.entry db) := by
  induction rows generalizing entries with
  | nil =>
      simp only [decodeThreadEntryRows, Except.ok.injEq] at decoded
      simp [← decoded]
  | cons row rows ih =>
      rw [decodeThreadEntryRows] at decoded
      obtain ⟨entry, entryIs, decoded⟩ := bind_eq_ok decoded
      obtain ⟨rest, restIs, returned⟩ := bind_eq_ok decoded
      obtain rfl : entry :: rest = entries := Except.ok.inj returned
      rw [List.map_cons, ← ih restIs, ← eq_of_decodeThreadEntryRow entryIs]

/-- What `list_entries` returns is a page of the timeline. -/
theorem eq_of_listEntries {pageNumber size : Int}
    {entries : List ThreadEntryRecord}
    (listed : listEntries db pageNumber size = .ok entries) :
    entries = page size.toNat ((pageNumber - 1) * size).toNat
      db.threadEntries := by
  unfold listEntries at listed
  obtain ⟨number, numberIs, sized⟩ := bind_eq_ok listed
  obtain ⟨limit, limitIs, cut⟩ := bind_eq_ok sized
  obtain ⟨-, rfl⟩ := eq_of_coercePositiveInt numberIs
  obtain ⟨-, rfl⟩ := eq_of_coercePositiveInt limitIs
  simp only at cut
  split at cut
  · rw [Database.threadEntries, page_map]
    exact eq_of_decodeThreadEntryRows cut
  · cases cut

/-- With positive ids every page is returned whose bounds can be bound. -/
theorem Database.PositiveIds.listEntries_ok (positive : db.PositiveIds)
    {pageNumber size : Int} (firstPage : 1 ≤ pageNumber) (sizePositive : 1 ≤ size)
    (sizeFits : IsSqlInteger size)
    (offsetFits : IsSqlInteger ((pageNumber - 1) * size)) :
    ∃ entries, listEntries db pageNumber size = .ok entries := by
  obtain ⟨index, indexIs⟩ := Int.eq_ofNat_of_zero_le
    (show 0 ≤ pageNumber - 1 by omega)
  obtain ⟨count, rfl⟩ := Int.eq_ofNat_of_zero_le (show 0 ≤ size by omega)
  obtain rfl : pageNumber = index + 1 := by omega
  rw [Int.add_sub_cancel] at offsetFits
  exact ⟨_, positive.listEntries_eq (by omega) sizeFits offsetFits⟩

end ApiPages

section UiPages

variable {db : Database} {pageNumber size : Int}

/-- The bounds of a page and of the next one can be bound. -/
theorem pageBounds_fit (firstPage : 1 ≤ pageNumber) (sizePositive : 1 ≤ size)
    (fits : pageNumber * size + 1 < 9223372036854775808) :
    IsSqlInteger size ∧ IsSqlInteger (size + 1) ∧
      IsSqlInteger ((pageNumber - 1) * size) ∧
      IsSqlInteger ((pageNumber + 1 - 1) * size) := by
  have atLeastSize : 1 * size ≤ pageNumber * size :=
    Int.mul_le_mul_of_nonneg_right firstPage (by omega)
  have offset : (pageNumber - 1) * size = pageNumber * size - size := by
    rw [Int.sub_mul, Int.one_mul]
  have nextOffset : (pageNumber + 1 - 1) * size = pageNumber * size := by
    rw [Int.add_sub_cancel]
  rw [offset, nextOffset]
  unfold IsSqlInteger
  omega

/-- A page of the user interface is a page of the timeline, restricted to the
selected channel. -/
theorem loadThreadEntries_eq (consistent : db.Consistent)
    (firstPage : 1 ≤ pageNumber) (sizePositive : 1 ≤ size)
    (fits : pageNumber * size + 1 < 9223372036854775808)
    {selectedChannelId : Option Int}
    (selectable : ∀ channelId ∈ selectedChannelId, IsSqlInteger channelId) :
    ∃ rows hasNext,
      loadThreadEntries db pageNumber size selectedChannelId =
          .ok (rows.map (decodeUiThreadEntryRow db), hasNext) ∧
        rows = page size.toNat ((pageNumber - 1) * size).toNat
          ((orderBy ThreadRow.orderKey db.threadRows).filter
            (ThreadRow.shownFor selectedChannelId)) ∧
        (hasNext = true ↔ page size.toNat (pageNumber * size).toNat
          ((orderBy ThreadRow.orderKey db.threadRows).filter
            (ThreadRow.shownFor selectedChannelId)) ≠ []) := by
  obtain ⟨-, limitFits, offsetFits, -⟩ :=
    pageBounds_fit firstPage sizePositive fits
  obtain ⟨index, indexIs⟩ := Int.eq_ofNat_of_zero_le
    (show 0 ≤ pageNumber - 1 by omega)
  obtain ⟨count, rfl⟩ := Int.eq_ofNat_of_zero_le (show 0 ≤ size by omega)
  have offsetIs : ((pageNumber - 1) * (count : Int)).toNat = index * count := by
    rw [indexIs]
    norm_cast
  have nextIs : (pageNumber * (count : Int)).toNat =
      index * count + count := by
    have isNext : pageNumber = index + 1 := by omega
    rw [isNext, Int.add_mul, Int.one_mul]
    norm_cast
  have limitIs : ((count : Int) + 1).toNat = count + 1 := by
    omega
  have restricted := orderBy_filter ThreadRow.orderKey
    (ThreadRow.shownFor selectedChannelId) consistent.orderKey_separates
  have bindable : (∀ channelId ∈ selectedChannelId, IsSqlInteger channelId) ∧
      IsSqlInteger ((count : Int) + 1) ∧
      IsSqlInteger ((pageNumber - 1) * (count : Int)) :=
    ⟨selectable, limitFits, offsetFits⟩
  unfold loadThreadEntries
  simp only [if_pos bindable, restricted]
  refine ⟨_, _, rfl, ?_, ?_⟩
  · rw [sliceTo, if_neg (by omega), limitOffset, if_neg (by omega), limitIs,
      offsetIs, Int.toNat_natCast, take_page_succ]
  · rw [decide_eq_true_iff, limitOffset, if_neg (by omega), limitIs, offsetIs,
      nextIs, Int.toNat_natCast, ← lt_length_page_succ_iff (by omega)]
    omega

theorem summary_decodeUiThreadEntryRow (consistent : db.Consistent)
    (row : ThreadRow) :
    (decodeUiThreadEntryRow db row).summary = (row.entry db).summary := by
  simp only [UIThreadEntryRow.summary, ThreadEntryRecord.summary,
    decodeUiThreadEntryRow, ThreadRow.entry, consistent.distinctMemberCount_eq]

/-- Restricting the joined rows restricts the entries. -/
theorem threadEntries_filter (db : Database) (channelId : Int) :
    db.threadEntries.filter
        (fun entry => entry.representativeChannelId = channelId) =
      ((orderBy ThreadRow.orderKey db.threadRows).filter
        (ThreadRow.shownFor (some channelId))).map (·.entry db) := by
  rw [Database.threadEntries, List.filter_map]
  congr 1
  apply List.filter_congr
  intro row member
  obtain ⟨-, -, -, isChannel⟩ :=
    Database.mem_threadRows.mp ((mem_orderBy _).mp member)
  simp [ThreadRow.shownFor, ThreadRow.entry, isChannel]

end UiPages

/-- In every consistent store and for every page whose bounds can be bound, the
user interface shows the clusters, representatives and duplicate counts of the
page that `list_entries` returns, and announces a next page exactly if the next
one of `list_entries` is not empty.  With a selected channel it pages through
the same sequence restricted to representatives of the channel.  All pages that
`list_entries` returns are cut from that sequence, and with positive row ids it
returns them. -/
theorem ui_pages_agree_with_api_pages {db : Database}
    (consistent : db.Consistent) {pageNumber size : Int}
    (firstPage : 1 ≤ pageNumber) (sizePositive : 1 ≤ size)
    (fits : pageNumber * size + 1 < 9223372036854775808) :
    (∃ rows hasNext, loadThreadEntries db pageNumber size none =
        .ok (rows, hasNext) ∧
      (∀ entries, listEntries db pageNumber size = .ok entries →
        rows.map UIThreadEntryRow.summary =
          entries.map ThreadEntryRecord.summary) ∧
      (∀ entries, listEntries db (pageNumber + 1) size = .ok entries →
        (hasNext = true ↔ entries ≠ []))) ∧
    (∀ channelId, IsSqlInteger channelId → ∃ rows hasNext,
      loadThreadEntries db pageNumber size (some channelId) =
          .ok (rows, hasNext) ∧
        rows.map UIThreadEntryRow.summary =
          (page size.toNat ((pageNumber - 1) * size).toNat
            (db.threadEntries.filter fun entry =>
              entry.representativeChannelId = channelId)).map
              ThreadEntryRecord.summary ∧
        (hasNext = true ↔ page size.toNat (pageNumber * size).toNat
          (db.threadEntries.filter fun entry =>
            entry.representativeChannelId = channelId) ≠ [])) ∧
    (∀ anyPage anySize entries, listEntries db anyPage anySize = .ok entries →
      entries = page anySize.toNat ((anyPage - 1) * anySize).toNat
        db.threadEntries) ∧
    (db.PositiveIds →
      (∃ entries, listEntries db pageNumber size = .ok entries) ∧
        ∃ entries, listEntries db (pageNumber + 1) size = .ok entries) := by
  obtain ⟨sizeFits, -, offsetFits, nextFits⟩ :=
    pageBounds_fit firstPage sizePositive fits
  have summaries : ∀ rows : List ThreadRow,
      (rows.map (decodeUiThreadEntryRow db)).map UIThreadEntryRow.summary =
        (rows.map (·.entry db)).map ThreadEntryRecord.summary := by
    intro rows
    rw [List.map_map, List.map_map]
    exact List.map_congr_left fun row _ =>
      summary_decodeUiThreadEntryRow consistent row
  refine ⟨?_, ?_, fun _ _ _ => eq_of_listEntries, ?_⟩
  · obtain ⟨rows, hasNext, loaded, rowsAre, nextIff⟩ :=
      loadThreadEntries_eq consistent firstPage sizePositive fits
        (show ∀ channelId ∈ (none : Option Int), IsSqlInteger channelId by simp)
    have everyRow : (orderBy ThreadRow.orderKey db.threadRows).filter
        (ThreadRow.shownFor none) =
          orderBy ThreadRow.orderKey db.threadRows :=
      List.filter_true _
    rw [everyRow] at rowsAre nextIff
    refine ⟨_, hasNext, loaded, fun entries listed => ?_,
      fun entries listed => ?_⟩
    · rw [eq_of_listEntries listed, summaries, rowsAre,
        Database.threadEntries, page_map]
    · rw [nextIff, eq_of_listEntries listed, Database.threadEntries, page_map,
        Int.add_sub_cancel, Ne, Ne, List.map_eq_nil_iff]
  · intro channelId sqlId
    obtain ⟨rows, hasNext, loaded, rowsAre, nextIff⟩ :=
      loadThreadEntries_eq consistent firstPage sizePositive fits
        (show ∀ other ∈ some channelId, IsSqlInteger other by
          rintro _ ⟨⟩
          exact sqlId)
    refine ⟨_, hasNext, loaded, ?_, ?_⟩
    · rw [summaries, rowsAre, threadEntries_filter, page_map]
    · rw [nextIff, threadEntries_filter, page_map, Ne, Ne, List.map_eq_nil_iff]
  · intro positive
    exact ⟨positive.listEntries_ok firstPage sizePositive sizeFits offsetFits,
      positive.listEntries_ok (by omega) sizePositive sizeFits nextFits⟩

/-- The only page of the sample store. -/
theorem ui_page_agrees_sample :
    Database.sampleStore.Consistent ∧ Database.sampleStore.PositiveIds ∧
      ∃ rows hasNext entries,
        loadThreadEntries Database.sampleStore 1 10 none = .ok (rows, hasNext) ∧
          listEntries Database.sampleStore 1 10 = .ok entries ∧
          rows.map UIThreadEntryRow.summary =
            entries.map ThreadEntryRecord.summary := by
  have consistent : Database.sampleStore.Consistent := Database.sampleStore_consistent
  have positive : Database.sampleStore.PositiveIds :=
    ⟨by decide, by decide, by decide⟩
  obtain ⟨⟨rows, hasNext, loaded, same, -⟩, -, -, returns⟩ :=
    ui_pages_agree_with_api_pages consistent (show (1 : Int) ≤ 1 by decide)
      (show (1 : Int) ≤ 10 by decide) (by decide)
  obtain ⟨⟨entries, listed⟩, -⟩ := returns positive
  exact ⟨consistent, positive, rows, hasNext, entries, loaded, listed,
    same entries listed⟩

end Tca
