import Tca.PollSelection
import Tca.RepresentativeRanking

/-!
# Publication times and their texts

The store orders items by the text of `published_at`.  For times that are
naive or in UTC the text order is the order of the instants, so the timeline
and the ranking of representatives go by time.
-/

namespace Tca

open RowRanking

/-- A time that is naive, which is read as UTC, or in UTC. -/
def Timestamp.IsUtc (timestamp : Timestamp) : Prop :=
  ∀ offset ∈ timestamp.offset, offset = UtcOffset.utc

instance (timestamp : Timestamp) : Decidable timestamp.IsUtc :=
  match isOffset : timestamp.offset with
  | none => .isTrue (by simp [Timestamp.IsUtc, isOffset])
  | some offset =>
      decidable_of_iff (offset = UtcOffset.utc)
        (by simp [Timestamp.IsUtc, isOffset])

/-- All publication times are naive or in UTC. -/
def Database.PublishedInUtc (db : Database) : Prop :=
  ∀ item ∈ db.items, ∀ published ∈ item.publishedAt, published.IsUtc

/-- An entry of the timeline is not published before the next one; unknown
times come last. -/
def ThreadEntryRecord.NotEarlier (first second : ThreadEntryRecord) : Prop :=
  ∀ later ∈ second.representativePublishedAt,
    ∃ time ∈ first.representativePublishedAt, later.instant ≤ time.instant

section Texts

variable {first second : Timestamp}

theorem Timestamp.IsUtc.offset_eq (utc : first.IsUtc) :
    (first.offset.getD UtcOffset.utc) = UtcOffset.utc := by
  unfold IsUtc at utc
  cases isOffset : first.offset with
  | none => rfl
  | some offset =>
      rw [isOffset] at utc
      exact utc offset rfl

/-- The instant of a UTC time is its wall-clock time. -/
theorem Timestamp.IsUtc.instant_eq (utc : first.IsUtc) :
    first.instant = first.wall.micros - epochMicros := by
  rw [Timestamp.instant, utc.offset_eq]
  exact Int.sub_zero _

theorem Timestamp.IsUtc.isoformat_lt (firstUtc : first.IsUtc)
    (secondUtc : second.IsUtc) (earlier : first.instant < second.instant) :
    first.isoformat < second.isoformat := by
  apply Timestamp.isoformat_lt
  rw [firstUtc.instant_eq, secondUtc.instant_eq, sub_lt_sub_iff_right]
    at earlier
  exact Int.ofNat_lt.mp earlier

/-- A text that is not larger belongs to a time that is not later. -/
theorem Timestamp.IsUtc.instant_le (firstUtc : first.IsUtc)
    (secondUtc : second.IsUtc) (ordered : first.isoformat ≤ second.isoformat) :
    first.instant ≤ second.instant := by
  by_contra later
  exact absurd (secondUtc.isoformat_lt firstUtc (not_le.mp later))
    (not_lt.mpr ordered)

end Texts

section Timeline

variable {db : Database}

theorem decodeThreadEntryRow_eq_ok {row : ThreadRow}
    {entry : ThreadEntryRecord}
    (decoded : decodeThreadEntryRow db row = .ok entry) :
    entry = row.entry db := by
  unfold decodeThreadEntryRow at decoded
  obtain ⟨clusterId, clusterIs, decoded⟩ := bind_eq_ok decoded
  obtain ⟨itemId, itemIs, decoded⟩ := bind_eq_ok decoded
  obtain ⟨channelId, channelIs, decoded⟩ := bind_eq_ok decoded
  have same : ∀ {value result : Int} {field : String},
      coercePositiveInt value field = .ok result → result = value := by
    intro value result field coerced
    unfold coercePositiveInt at coerced
    split at coerced
    · exact (Except.ok.inj coerced).symm
    · cases coerced
  obtain rfl := same clusterIs
  obtain rfl := same itemIs
  obtain rfl := same channelIs
  exact (Except.ok.inj decoded).symm

theorem decodeThreadEntryRows_eq_ok {rows : List ThreadRow}
    {entries : List ThreadEntryRecord}
    (decoded : decodeThreadEntryRows db rows = .ok entries) :
    entries = rows.map (·.entry db) := by
  induction rows generalizing entries with
  | nil => exact (Except.ok.inj decoded).symm
  | cons row rows ih =>
      obtain ⟨entry, rowDecoded, decoded⟩ := bind_eq_ok decoded
      obtain ⟨later, rowsDecoded, decoded⟩ := bind_eq_ok decoded
      obtain rfl := Except.ok.inj decoded
      rw [decodeThreadEntryRow_eq_ok rowDecoded, ih rowsDecoded, List.map_cons]

/-- A returned page is cut from the ordered rows. -/
theorem listEntries_eq_ok {pageNumber pageSize : Int}
    {entries : List ThreadEntryRecord}
    (listed : listEntries db pageNumber pageSize = .ok entries) :
    ∃ limit offset, entries = (page limit offset
      (orderBy ThreadRow.orderKey db.threadRows)).map (·.entry db) := by
  obtain ⟨number, -, listed⟩ := bind_eq_ok listed
  obtain ⟨size, -, listed⟩ := bind_eq_ok listed
  dsimp only at listed
  split at listed
  · exact ⟨_, _, decodeThreadEntryRows_eq_ok listed⟩
  · cases listed

/-- Rows in the order of their keys are in the order of their times. -/
theorem notEarlier_of_orderKey {first second : ThreadRow}
    (utc : db.PublishedInUtc) (firstJoined : first ∈ db.threadRows)
    (secondJoined : second ∈ db.threadRows)
    (ordered : first.orderKey ≤ second.orderKey) :
    (first.entry db).NotEarlier (second.entry db) := by
  obtain ⟨-, ⟨firstStored, -⟩, -⟩ := Database.mem_threadRows.mp firstJoined
  obtain ⟨-, ⟨secondStored, -⟩, -⟩ := Database.mem_threadRows.mp secondJoined
  intro later published
  obtain ⟨secondTime, secondIs, rfl⟩ := Option.map_eq_some_iff.mp published
  simp only [ThreadRow.orderKey, ItemRow.publishedText, secondIs,
    Option.map_some, Prod.Lex.toLex_le_toLex] at ordered
  cases firstIs : first.representative.publishedAt with
  | none => simp [firstIs] at ordered
  | some firstTime =>
      refine ⟨firstTime.readAsUtc, by
        simp [ThreadRow.entry, coerceOptionalDatetime, firstIs], ?_⟩
      rw [Timestamp.instant_readAsUtc, Timestamp.instant_readAsUtc]
      apply (utc _ secondStored _ secondIs).instant_le
        (utc _ firstStored _ firstIs)
      simp only [firstIs, Option.map_some, Option.isNone_some, nullsFirst,
        OrderDual.toDual_lt_toDual, OrderDual.toDual_inj, WithBot.coe_lt_coe,
        WithBot.coe_inj] at ordered
      rcases ordered with different | ⟨-, larger | ⟨same, -⟩⟩
      · exact absurd different (lt_irrefl _)
      · exact le_of_lt larger
      · exact le_of_eq same.symm

end Timeline

/-- Where the store orders by the text of `published_at`, it orders by time. -/
theorem published_order_is_time_order :
    (∀ first second : Timestamp, first.IsUtc → second.IsUtc →
        first.instant < second.instant → first.isoformat < second.isoformat) ∧
      (∀ db : Database, db.PublishedInUtc → ∀ pageNumber pageSize entries,
        listEntries db pageNumber pageSize = .ok entries →
          entries.Pairwise ThreadEntryRecord.NotEarlier) ∧
      ∀ first second : ItemRow,
        first.hasCanonicalUrl = second.hasCanonicalUrl →
        first.textCompleteness = second.textCompleteness →
        ∀ time ∈ first.publishedAt, ∀ later ∈ second.publishedAt,
          time.IsUtc → later.IsUtc → time.instant < later.instant →
            first.rankKey < second.rankKey := by
  refine ⟨?_, ?_, ?_⟩
  · intro first second firstUtc secondUtc earlier
    exact firstUtc.isoformat_lt secondUtc earlier
  · intro db utc pageNumber pageSize entries listed
    obtain ⟨limit, offset, rfl⟩ := listEntries_eq_ok listed
    have whole := orderBy_pairwise ThreadRow.orderKey db.threadRows
    have cut : (page limit offset (orderBy ThreadRow.orderKey
        db.threadRows)).Sublist (orderBy ThreadRow.orderKey db.threadRows) :=
      (List.take_sublist _ _).trans (List.drop_sublist _ _)
    rw [List.pairwise_map]
    apply (whole.sublist cut).imp_of_mem
    intro first second firstMember secondMember ordered
    exact notEarlier_of_orderKey utc
      ((mem_orderBy _).mp (cut.subset firstMember))
      ((mem_orderBy _).mp (cut.subset secondMember)) ordered
  · intro first second sameUrl sameText time isTime later isLater timeUtc
      laterUtc earlier
    rw [ItemRow.rankKey_lt_iff]
    refine .inr ⟨sameUrl, .inr ⟨sameText, .inl ?_⟩⟩
    have texts := timeUtc.isoformat_lt laterUtc earlier
    rw [Option.mem_def] at isTime isLater
    simpa [ItemRow.PublishedBefore, ItemRow.publishedText, isTime, isLater]
      using texts

/-- The naive start of the year 2025, and half a second later in UTC. -/
theorem published_order_sample :
    Timestamp.isoformat ⟨⟨63871286400000000, by decide⟩, none⟩ <
      Timestamp.isoformat
        ⟨⟨63871286400500000, by decide⟩, some UtcOffset.utc⟩ :=
  published_order_is_time_order.1 ⟨⟨63871286400000000, by decide⟩, none⟩
    ⟨⟨63871286400500000, by decide⟩, some UtcOffset.utc⟩ (by decide)
    (by decide) (by decide)

end Tca
