import Tca.ForeignKeyDeletion
import Tca.RowRanking
import Mathlib.Data.List.TakeWhile

/-!
# Ranking of the items of a cluster

The representative of a cluster is the item ranked first by the `ORDER BY` of
the recompute statement.  This file states the statement's sort key and the
documented priority separately and shows that they agree, so the item the
statement stores is the one the priority prefers among the cluster's members.
-/

namespace Tca

open TableRows RowRanking

/-- SQLite's `LENGTH` of a text: its characters before the first NUL. -/
def sqlLength (text : String) : Nat :=
  (text.toList.takeWhile fun symbol => symbol ≠ Char.ofNat 0).length

theorem sqlLength_eq_length {text : String}
    (noNul : Char.ofNat 0 ∉ text.toList) : sqlLength text = text.length := by
  rw [sqlLength, List.takeWhile_eq_self_iff.mpr, String.length_toList]
  intro symbol member
  simp only [ne_eq, decide_eq_true_eq]
  rintro rfl
  exact noNul member

namespace ItemRow

/-- `COALESCE(canonical_url, '') != ''`. -/
def hasCanonicalUrl (row : ItemRow) : Bool :=
  row.canonicalUrl.getD "" != ""

/-- `COALESCE(LENGTH(title), 0) + COALESCE(LENGTH(body), 0)`. -/
def textCompleteness (row : ItemRow) : Nat :=
  (row.title.map sqlLength).getD 0 + (row.body.map sqlLength).getD 0

/-- For texts without NUL the completeness is `len(title) + len(body)`. -/
theorem textCompleteness_eq_length {row : ItemRow}
    (titlePlain : ∀ text ∈ row.title, Char.ofNat 0 ∉ text.toList)
    (bodyPlain : ∀ text ∈ row.body, Char.ofNat 0 ∉ text.toList) :
    row.textCompleteness = (row.title.map String.length).getD 0 +
      (row.body.map String.length).getD 0 := by
  have plainLength : ∀ text : Option String,
      (∀ value ∈ text, Char.ofNat 0 ∉ value.toList) →
        text.map sqlLength = text.map String.length := by
    intro text plain
    cases text with
    | none => rfl
    | some value =>
        rw [Option.map_some, Option.map_some,
          sqlLength_eq_length (plain value rfl)]
  rw [textCompleteness, plainLength row.title titlePlain,
    plainLength row.body bodyPlain]

/-- The stored text of `published_at`. -/
def publishedText (row : ItemRow) : Option String :=
  row.publishedAt.map Timestamp.isoformat

/-- The terms of the `ORDER BY` clause.  `NULL` sorts before every text. -/
def rankKey (row : ItemRow) : Nat ×ₗ Natᵒᵈ ×ₗ Nat ×ₗ WithBot String ×ₗ Int :=
  toLex (if row.hasCanonicalUrl then 0 else 1,
    toLex (OrderDual.toDual row.textCompleteness,
      toLex (if row.publishedText.isNone then 1 else 0,
        toLex (nullsFirst row.publishedText, row.id))))

/-- The publication time of the first item is known and the second's is
unknown or later. -/
def PublishedBefore (first second : ItemRow) : Prop :=
  match first.publishedText, second.publishedText with
  | none, _ => False
  | some _, none => True
  | some firstText, some secondText => firstText < secondText

instance (first second : ItemRow) : Decidable (PublishedBefore first second) := by
  unfold PublishedBefore
  split <;> infer_instance

/-- The documented priority: an item with a canonical URL first, then the more
complete text, then the earliest publication, then the lowest id. -/
def Outranks (first second : ItemRow) : Prop :=
  (first.hasCanonicalUrl = true ∧ second.hasCanonicalUrl = false) ∨
    first.hasCanonicalUrl = second.hasCanonicalUrl ∧
      (second.textCompleteness < first.textCompleteness ∨
        first.textCompleteness = second.textCompleteness ∧
          (PublishedBefore first second ∨
            first.publishedText = second.publishedText ∧
              first.id < second.id))

instance (first second : ItemRow) : Decidable (Outranks first second) := by
  unfold Outranks
  infer_instance

private theorem urlTerm_lt_iff (first second : ItemRow) :
    ((if first.hasCanonicalUrl then 0 else 1) <
        (if second.hasCanonicalUrl then 0 else 1)) ↔
      first.hasCanonicalUrl = true ∧ second.hasCanonicalUrl = false := by
  cases first.hasCanonicalUrl <;> cases second.hasCanonicalUrl <;> simp

private theorem urlTerm_eq_iff (first second : ItemRow) :
    ((if first.hasCanonicalUrl then 0 else 1) =
        (if second.hasCanonicalUrl then 0 else 1)) ↔
      first.hasCanonicalUrl = second.hasCanonicalUrl := by
  cases first.hasCanonicalUrl <;> cases second.hasCanonicalUrl <;> simp

private theorem publishedTerms_iff (first second : ItemRow) :
    ((if first.publishedText.isNone then 1 else 0) <
        (if second.publishedText.isNone then 1 else 0) ∨
      (if first.publishedText.isNone then 1 else 0) =
          (if second.publishedText.isNone then 1 else 0) ∧
        (nullsFirst first.publishedText < nullsFirst second.publishedText ∨
          nullsFirst first.publishedText = nullsFirst second.publishedText ∧
            first.id < second.id)) ↔
      PublishedBefore first second ∨
        first.publishedText = second.publishedText ∧
          first.id < second.id := by
  unfold PublishedBefore
  rw [nullsFirst_injective.eq_iff]
  cases first.publishedText <;> cases second.publishedText <;>
    simp [nullsFirst]

/-- The sort key puts one item before another exactly when the documented
priority does. -/
theorem rankKey_lt_iff (first second : ItemRow) :
    first.rankKey < second.rankKey ↔ Outranks first second := by
  simp only [rankKey, Outranks, Prod.Lex.toLex_lt_toLex,
    urlTerm_lt_iff, urlTerm_eq_iff, OrderDual.toDual_lt_toDual,
    OrderDual.toDual_inj, publishedTerms_iff]

theorem id_eq_of_rankKey_eq {first second : ItemRow}
    (sameKey : first.rankKey = second.rankKey) : first.id = second.id := by
  simp only [rankKey, toLex_inj, Prod.mk.injEq] at sameKey
  exact sameKey.2.2.2.2

theorem outranks_or_outranks {first second : ItemRow}
    (different : first.id ≠ second.id) :
    Outranks first second ∨ Outranks second first := by
  rw [← rankKey_lt_iff, ← rankKey_lt_iff]
  exact lt_or_gt_of_ne fun sameKey =>
    different (id_eq_of_rankKey_eq sameKey)

theorem not_outranks_of_outranks {first second : ItemRow}
    (outranks : Outranks first second) : ¬ Outranks second first := by
  rw [← rankKey_lt_iff] at outranks ⊢
  exact not_lt_of_gt outranks

end ItemRow

namespace Database

/-- The inner join of the cluster's members with their items. -/
def clusterItems (db : Database) (clusterId : Int) : List ItemRow :=
  (db.dedupeMembers.filter fun row => row.clusterId = clusterId).flatMap
    fun row => db.items.filter fun item => item.id = row.itemId

/-- The item with `row_rank = 1` in the cluster's partition. -/
def rankedFirst (db : Database) (clusterId : Int) : Option Int :=
  (firstRanked ItemRow.rankKey (db.clusterItems clusterId)).map (·.id)

/-- The recompute statement: store the item ranked first, or null for a
cluster without items, as the representative of each listed cluster. -/
def recomputeRepresentatives (clusterIds : List Int) (db : Database) :
    Database :=
  { db with
    dedupeClusters := db.dedupeClusters.map fun row =>
      if row.id ∈ clusterIds then
        { row with representativeItemId := db.rankedFirst row.id }
      else row }

/-- The item is, among those that satisfy the predicate, the one that outranks
all others. -/
def Preferred (db : Database) (candidate : Int → Prop) (itemId : Int) :
    Prop :=
  ∃ row ∈ db.items, row.id = itemId ∧ candidate itemId ∧
    ∀ other ∈ db.items, candidate other.id → other.id ≠ itemId →
      row.Outranks other

theorem mem_clusterItems {db : Database} {clusterId : Int} {item : ItemRow} :
    item ∈ db.clusterItems clusterId ↔
      item ∈ db.items ∧ db.Member clusterId item.id := by
  simp only [clusterItems, List.mem_flatMap, List.mem_filter,
    decide_eq_true_eq]
  constructor
  · rintro ⟨⟨_, _⟩, ⟨member, rfl⟩, stored, rfl⟩
    exact ⟨stored, member⟩
  · rintro ⟨stored, member⟩
    exact ⟨⟨clusterId, item.id⟩, ⟨member, rfl⟩, stored, rfl⟩

/-- Unique item ids make the sort key separate the joined items. -/
theorem clusterItems_separated {db : Database} (nodup : db.itemIds.Nodup)
    (clusterId : Int) :
    ∀ first ∈ db.clusterItems clusterId,
      ∀ second ∈ db.clusterItems clusterId,
        first.rankKey = second.rankKey → first = second :=
  fun _ firstMember _ secondMember sameKey =>
    eq_of_key_eq nodup (mem_clusterItems.mp firstMember).1
      (mem_clusterItems.mp secondMember).1
      (ItemRow.id_eq_of_rankKey_eq sameKey)

/-- The item ranked first is the one the documented priority prefers. -/
theorem rankedFirst_eq_some_iff {db : Database} (nodup : db.itemIds.Nodup)
    {clusterId itemId : Int} :
    db.rankedFirst clusterId = some itemId ↔
      db.Preferred (db.Member clusterId) itemId := by
  unfold rankedFirst Preferred
  simp only [Option.map_eq_some_iff,
    firstRanked_eq_some_iff ItemRow.rankKey
      (clusterItems_separated nodup clusterId), mem_clusterItems]
  constructor
  · rintro ⟨row, ⟨⟨stored, member⟩, least⟩, rfl⟩
    refine ⟨row, stored, rfl, member, fun other otherStored otherMember different => ?_⟩
    have notBelow := least other ⟨otherStored, otherMember⟩
    rw [← ItemRow.rankKey_lt_iff]
    exact lt_of_le_of_ne notBelow fun sameKey =>
      different (ItemRow.id_eq_of_rankKey_eq sameKey).symm
  · rintro ⟨row, stored, rfl, member, outranks⟩
    refine ⟨row, ⟨⟨stored, member⟩, fun other otherMember => ?_⟩, rfl⟩
    by_cases same : other.id = row.id
    · rw [eq_of_key_eq nodup otherMember.1 stored same]
    · exact ((ItemRow.rankKey_lt_iff row other).mpr
        (outranks other otherMember.1 otherMember.2 same)).le

/-- Without a stored member no item is ranked. -/
theorem rankedFirst_eq_none_iff {db : Database} {clusterId : Int} :
    db.rankedFirst clusterId = none ↔
      ∀ item ∈ db.items, ¬ db.Member clusterId item.id := by
  unfold rankedFirst
  rw [Option.map_eq_none_iff, firstRanked_eq_none_iff,
    List.eq_nil_iff_forall_not_mem]
  simp only [mem_clusterItems, not_and]

/-- The preferred item of a set of candidates is unique. -/
theorem Preferred.unique {db : Database} {candidate : Int → Prop}
    {first second : Int} (firstPreferred : db.Preferred candidate first)
    (secondPreferred : db.Preferred candidate second) : first = second := by
  obtain ⟨firstRow, firstStored, rfl, firstCandidate, firstOutranks⟩ :=
    firstPreferred
  obtain ⟨secondRow, secondStored, rfl, secondCandidate, secondOutranks⟩ :=
    secondPreferred
  by_contra different
  exact ItemRow.not_outranks_of_outranks
    (firstOutranks secondRow secondStored secondCandidate (Ne.symm different))
    (secondOutranks firstRow firstStored firstCandidate different)

/-- The preferred item stays preferred as long as it stays a candidate and
every candidate was one before, with the same rank. -/
theorem Preferred.transfer {db other : Database}
    {candidate remaining : Int → Prop} {itemId : Int}
    (preferred : db.Preferred candidate itemId) (nodup : db.itemIds.Nodup)
    (stored : itemId ∈ other.itemIds) (remains : remaining itemId)
    (originals : ∀ row ∈ other.items, remaining row.id →
      ∃ original ∈ db.items, original.id = row.id ∧
        original.rankKey = row.rankKey ∧ candidate original.id) :
    other.Preferred remaining itemId := by
  obtain ⟨best, bestStored, rfl, -, outranks⟩ := preferred
  obtain ⟨row, rowStored, sameId⟩ := List.mem_map.mp stored
  obtain ⟨original, originalStored, originalId, sameKey, -⟩ :=
    originals row rowStored (sameId ▸ remains)
  obtain rfl := eq_of_key_eq nodup originalStored bestStored
    (originalId.trans sameId)
  refine ⟨row, rowStored, sameId, remains,
    fun rival rivalStored rivalRemains different => ?_⟩
  obtain ⟨earlier, earlierStored, earlierId, earlierKey, wasCandidate⟩ :=
    originals rival rivalStored rivalRemains
  have before := outranks earlier earlierStored wasCandidate
    (earlierId ▸ different)
  rw [← ItemRow.rankKey_lt_iff, sameKey, earlierKey] at before
  exact (ItemRow.rankKey_lt_iff row rival).mp before

/-- In a consistent store a cluster with members has a ranked item. -/
theorem Consistent.rankedFirst_isSome {db : Database}
    (consistent : db.Consistent) {clusterId itemId : Int}
    (member : db.Member clusterId itemId) :
    ∃ best, db.rankedFirst clusterId = some best ∧
      db.Preferred (db.Member clusterId) best := by
  cases ranked : db.rankedFirst clusterId with
  | none =>
      obtain ⟨item, stored, sameId⟩ :=
        List.mem_map.mp (consistent.memberItems _ member)
      exact (rankedFirst_eq_none_iff.mp ranked item stored
        (sameId ▸ member)).elim
  | some best =>
      exact ⟨best, rfl,
        (rankedFirst_eq_some_iff consistent.itemIdsNodup).mp ranked⟩

theorem Consistent.recomputeRepresentatives {db : Database}
    (consistent : db.Consistent) (clusterIds : List Int) :
    (db.recomputeRepresentatives clusterIds).Consistent := by
  have idsEq : (db.recomputeRepresentatives clusterIds).clusterIds =
      db.clusterIds := by
    simp only [Database.clusterIds, Database.recomputeRepresentatives,
      List.map_map]
    apply List.map_congr_left
    intro row _
    simp only [Function.comp_apply]
    split <;> rfl
  have keysEq : (db.recomputeRepresentatives clusterIds).dedupeClusters.map
      (·.clusterKey) = db.dedupeClusters.map (·.clusterKey) := by
    simp only [Database.recomputeRepresentatives, List.map_map]
    apply List.map_congr_left
    intro row _
    simp only [Function.comp_apply]
    split <;> rfl
  refine
    { consistent with
      clusterIdsNodup := by
        rw [idsEq]
        exact consistent.clusterIdsNodup
      clusterKeysNodup := by
        rw [keysEq]
        exact consistent.clusterKeysNodup
      representatives := ?_
      memberClusters := by
        rw [idsEq]
        exact consistent.memberClusters
      decisionClusters := by
        rw [idsEq]
        exact consistent.decisionClusters
      deliveries := by
        rw [idsEq]
        exact consistent.deliveries
      clusterIdsSql := by
        rw [idsEq]
        exact consistent.clusterIdsSql }
  intro row member id reference
  obtain ⟨original, originalMember, rfl⟩ := List.mem_map.mp member
  split at reference
  · obtain ⟨best, stored, rfl, -⟩ :=
      (rankedFirst_eq_some_iff consistent.itemIdsNodup).mp reference
    exact List.mem_map_of_mem stored
  · exact consistent.representatives original originalMember id reference

end Database

end Tca
