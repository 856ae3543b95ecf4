import Tca.PollSelection
import Tca.SqlLike
import Tca.UrlCanonicalization

/-!
# Candidate selection

`select_candidates` asks the items table for rows near a new item in time that
match one of its blocking keys, by equality or by LIKE patterns, and rebuilds
the keys of each row that is returned.  The file embeds the query and compares
what it returns with the rows that share a key.
-/

namespace Tca

open PythonTexts UrlSplitting SqlLike RowRanking

section Definitions

/-- Minimal item fields required for candidate reduction.  The tokens are the
elements of a set. -/
structure CandidateRecord where
  itemId : Int
  publishedAt : Option Timestamp
  canonicalUrlHash : Option String
  urlDomain : Option String
  rareTitleTokens : List String
  deriving DecidableEq

/-- `strftime('%s', published_at)`, as a number. -/
def epochSeconds (published : Timestamp) : Int :=
  published.instant / 1000000

/-- The words of `title.split()`. -/
def titleWords (title : String) : List (List Char) :=
  runs (fun char => !isPythonSpace char) title.toList

variable (newItem : CandidateRecord)

/-- The condition on `published_at`. -/
def timeFilter (horizonSeconds : Int) (row : ItemRow) : Bool :=
  match row.publishedAt, newItem.publishedAt with
  | some published, some newPublished =>
      |epochSeconds published - epochSeconds newPublished| ≤ horizonSeconds
  | _, _ => true

def hashCondition (hash : String) (row : ItemRow) : Bool :=
  row.canonicalUrlHash = some hash

/-- The domain in `canonical_url`, before a path or at the end. -/
def domainCondition (domain : String) (row : ItemRow) : Bool :=
  row.canonicalUrl.any fun url =>
    like ("%//".toList ++ domain.toList ++ "/%".toList) url.toList ||
      like ("%//".toList ++ domain.toList) url.toList

def tokenCondition (token : String) (row : ItemRow) : Bool :=
  row.title.any fun title =>
    like ('%' :: (token.toList ++ ['%'])) title.toList

/-- The value, unless it is missing or empty. -/
def truthy : Option String → List String
  | none => []
  | some text => if text = "" then [] else [text]

/-- `blocking_conditions`. -/
def blockingConditions : List (ItemRow → Bool) :=
  (truthy newItem.canonicalUrlHash).map hashCondition ++
    (truthy newItem.urlDomain).map domainCondition ++
    newItem.rareTitleTokens.map tokenCondition

/-- The `WHERE` clause. -/
def isMatched (horizonSeconds : Int) (row : ItemRow) : Bool :=
  row.id ≠ newItem.itemId && timeFilter newItem horizonSeconds row &&
    (blockingConditions newItem).any fun condition => condition row

/-- The rows of the query. -/
def selectedRows (horizonSeconds maxCandidates : Int) (items : List ItemRow) :
    List ItemRow :=
  (orderBy (·.id) (items.filter (isMatched newItem horizonSeconds))).take
    maxCandidates.toNat

/-- The network location of a URL, if it has one.  There is no result where
`urlsplit` raises. -/
def urlDomainOf : Option String → Option (Option String)
  | none => some none
  | some url =>
      if url = "" then some none
      else (urlsplit url.toList).map fun split =>
        (nonempty split.netloc).map String.ofList

/-- The tokens of the new item that are words of the title. -/
def rareTokens (row : ItemRow) : List String :=
  newItem.rareTitleTokens.filter fun token =>
    row.title.any fun title => (titleWords title).contains token.toList

def candidateRecord (row : ItemRow) : Option CandidateRecord :=
  (urlDomainOf row.canonicalUrl).map fun urlDomain => {
    itemId := row.id
    publishedAt := coerceOptionalDatetime row.publishedAt
    canonicalUrlHash := row.canonicalUrlHash
    urlDomain := urlDomain
    rareTitleTokens := rareTokens newItem row }

/-- The loop over the rows. -/
def candidateRecords : List ItemRow → Option (List CandidateRecord)
  | [] => some []
  | row :: rows => do
      let record ← candidateRecord newItem row
      let records ← candidateRecords rows
      return record :: records

/-- Filter and cap candidate records using horizon and blocking keys via SQL.
The horizon is given by `int(horizon.total_seconds())`.  There is no result
where the call raises. -/
def selectCandidates (horizonSeconds maxCandidates : Int)
    (items : List ItemRow) : Option (List CandidateRecord) :=
  if maxCandidates ≤ 0 then some []
  else if (blockingConditions newItem).isEmpty then some []
  else if IsSqlInteger newItem.itemId ∧ IsSqlInteger maxCandidates then
    candidateRecords newItem
      (selectedRows newItem horizonSeconds maxCandidates items)
  else none

end Definitions

section Keys

/-- The times are at most as far apart as the horizon, or one is unknown. -/
def WithinHorizon (newItem : CandidateRecord) (horizonSeconds : Int)
    (row : ItemRow) : Prop :=
  ∀ published ∈ row.publishedAt, ∀ newPublished ∈ newItem.publishedAt,
    |published.instant - newPublished.instant| ≤ horizonSeconds * 1000000

/-- The same hash, which is not missing. -/
def SharesHash (newItem : CandidateRecord) (row : ItemRow) : Prop :=
  ∃ hash, row.canonicalUrlHash = some hash ∧
    newItem.canonicalUrlHash = some hash

/-- The network location of the row's URL is the domain of the new item. -/
def SharesDomain (newItem : CandidateRecord) (row : ItemRow) : Prop :=
  ∃ domain, urlDomainOf row.canonicalUrl = some (some domain) ∧
    newItem.urlDomain = some domain

/-- A rare token of the new item is a word of the row's title. -/
def SharesToken (newItem : CandidateRecord) (row : ItemRow) : Prop :=
  ∃ token ∈ newItem.rareTitleTokens, ∃ title, row.title = some title ∧
    token.toList ∈ titleWords title

/-- The row is another item within the horizon and shares a blocking key. -/
structure IsCandidate (newItem : CandidateRecord) (horizonSeconds : Int)
    (row : ItemRow) : Prop where
  other : row.id ≠ newItem.itemId
  within : WithinHorizon newItem horizonSeconds row
  shares : (SharesHash newItem row ∧ row.canonicalUrlHash ≠ some "") ∨
    SharesDomain newItem row ∨ SharesToken newItem row

/-- The record shares a key with the new item, by its own fields. -/
def CandidateRecord.SharesKey (newItem record : CandidateRecord) : Prop :=
  (record.canonicalUrlHash ≠ none ∧
      record.canonicalUrlHash = newItem.canonicalUrlHash) ∨
    (record.urlDomain ≠ none ∧ record.urlDomain = newItem.urlDomain) ∨
    record.rareTitleTokens ≠ []

variable {newItem : CandidateRecord} {horizonSeconds maxCandidates : Int}
  {row : ItemRow} {items : List ItemRow}

theorem mem_truthy {value : Option String} {text : String} :
    text ∈ truthy value ↔ value = some text ∧ text ≠ "" := by
  cases value with
  | none => simp [truthy]
  | some other =>
      simp only [truthy, Option.some_inj]
      split
      · rename_i isEmpty
        simp only [List.not_mem_nil, false_iff, not_and, not_not]
        intro same
        exact same ▸ isEmpty
      · rename_i visible
        rw [List.mem_singleton]
        constructor
        · intro same
          exact ⟨same.symm, same ▸ visible⟩
        · intro both
          exact both.1.symm

/-- A matched row fulfils one of the three kinds of conditions. -/
theorem blockingConditions_any_iff :
    ((blockingConditions newItem).any fun condition => condition row) = true ↔
      (∃ hash, newItem.canonicalUrlHash = some hash ∧ hash ≠ "" ∧
          row.canonicalUrlHash = some hash) ∨
        (∃ domain, newItem.urlDomain = some domain ∧ domain ≠ "" ∧
          domainCondition domain row = true) ∨
        ∃ token ∈ newItem.rareTitleTokens, tokenCondition token row = true := by
  simp only [blockingConditions, List.any_append, List.any_map, Bool.or_eq_true,
    List.any_eq_true, Function.comp_apply, mem_truthy, or_assoc, and_assoc,
    hashCondition, decide_eq_true_eq]

/-- Cut off to whole seconds, times are no further apart than a whole-second
horizon. -/
theorem seconds_near {first second horizon : Int}
    (near : |first - second| ≤ horizon * 1000000) :
    |first / 1000000 - second / 1000000| ≤ horizon := by
  rw [abs_le] at near ⊢
  omega

theorem timeFilter_of_within
    (within : WithinHorizon newItem horizonSeconds row) :
    timeFilter newItem horizonSeconds row = true := by
  unfold timeFilter
  split
  · rename_i published newPublished isRow isNew
    exact decide_eq_true
      (seconds_near (within published isRow newPublished isNew))
  · rfl

theorem tokenCondition_of_word {token title : String}
    (isTitle : row.title = some title)
    (isWord : token.toList ∈ titleWords title) :
    tokenCondition token row = true := by
  rw [tokenCondition, isTitle]
  exact like_contains (mem_runs isWord).2.2

end Keys

section Rows

variable {newItem : CandidateRecord} {horizonSeconds maxCandidates : Int}
  {row : ItemRow} {items rows : List ItemRow}
  {records selected : List CandidateRecord}

/-- What is known of a record that is built. -/
theorem candidateRecord_eq_some {record : CandidateRecord} :
    candidateRecord newItem row = some record ↔
      urlDomainOf row.canonicalUrl = some record.urlDomain ∧
        record.itemId = row.id ∧
        record.publishedAt = coerceOptionalDatetime row.publishedAt ∧
        record.canonicalUrlHash = row.canonicalUrlHash ∧
        record.rareTitleTokens = rareTokens newItem row := by
  rw [candidateRecord, Option.map_eq_some_iff]
  constructor
  · rintro ⟨urlDomain, read, rfl⟩
    exact ⟨read, rfl, rfl, rfl, rfl⟩
  · rintro ⟨read, itemId, publishedAt, canonicalUrlHash, rareTitleTokens⟩
    refine ⟨record.urlDomain, read, ?_⟩
    cases record
    simp_all

/-- The loop builds one record from each row, in order. -/
theorem candidateRecords_eq_some :
    candidateRecords newItem rows = some records ↔
      List.Forall₂ (fun row record =>
        candidateRecord newItem row = some record) rows records := by
  induction rows generalizing records with
  | nil =>
      rw [candidateRecords, List.forall₂_nil_left_iff, Option.some_inj]
      exact eq_comm
  | cons row rows ih =>
      simp only [candidateRecords, Option.bind_eq_bind, Option.bind_eq_some_iff,
        List.forall₂_cons_left_iff, ih, Option.pure_def, Option.some_inj]
      constructor
      · rintro ⟨record, built, later, rest, rfl⟩
        exact ⟨record, later, built, rest, rfl⟩
      · rintro ⟨record, later, built, rest, rfl⟩
        exact ⟨record, built, later, rest, rfl⟩

/-- The loop returns if all network locations can be read. -/
theorem candidateRecords_isSome_iff :
    (∃ records, candidateRecords newItem rows = some records) ↔
      ∀ row ∈ rows, urlDomainOf row.canonicalUrl ≠ none := by
  simp only [candidateRecords_eq_some]
  induction rows with
  | nil => simp
  | cons row rows ih =>
      rw [List.forall_mem_cons, ← ih]
      constructor
      · rintro ⟨records, built⟩
        obtain ⟨record, later, isRecord, rest, rfl⟩ :=
          List.forall₂_cons_left_iff.mp built
        rw [(candidateRecord_eq_some.mp isRecord).1]
        exact ⟨Option.some_ne_none _, later, rest⟩
      · rintro ⟨readable, later, rest⟩
        obtain ⟨urlDomain, read⟩ := Option.ne_none_iff_exists'.mp readable
        have built : candidateRecord newItem row = some
            ⟨row.id, coerceOptionalDatetime row.publishedAt,
              row.canonicalUrlHash, urlDomain, rareTokens newItem row⟩ :=
          candidateRecord_eq_some.mpr ⟨read, rfl, rfl, rfl, rfl⟩
        exact ⟨_, List.forall₂_cons_left_iff.mpr
          ⟨_, later, built, rest, rfl⟩⟩

theorem mem_selectedRows
    (member : row ∈ selectedRows newItem horizonSeconds maxCandidates items) :
    row ∈ items ∧ isMatched newItem horizonSeconds row = true :=
  List.mem_filter.mp ((mem_orderBy _).mp (List.mem_of_mem_take member))

/-- Without a cap that matters, all matched rows are selected. -/
theorem mem_selectedRows_iff (uncapped : items.length ≤ maxCandidates) :
    row ∈ selectedRows newItem horizonSeconds maxCandidates items ↔
      row ∈ items ∧ isMatched newItem horizonSeconds row = true := by
  have enough : (orderBy (·.id) (items.filter
      (isMatched newItem horizonSeconds))).length ≤ maxCandidates.toNat := by
    rw [(orderBy_perm _ _).length_eq]
    have shorter := List.length_filter_le (isMatched newItem horizonSeconds)
      items
    omega
  rw [selectedRows, List.take_of_length_le enough, mem_orderBy,
    List.mem_filter]

/-- The rows are selected in the order of their ids. -/
theorem selectedRows_pairwise (nodup : (items.map (·.id)).Nodup) :
    (selectedRows newItem horizonSeconds maxCandidates items).Pairwise
      fun first second => first.id < second.id := by
  have ordered := orderBy_pairwise (fun row : ItemRow => row.id)
    (items.filter (isMatched newItem horizonSeconds))
  have distinct : ((orderBy (fun row : ItemRow => row.id) (items.filter
      (isMatched newItem horizonSeconds))).map (·.id)).Nodup := by
    have same := (orderBy_perm (fun row : ItemRow => row.id) (items.filter
      (isMatched newItem horizonSeconds))).map (·.id)
    apply same.nodup_iff.mpr
    exact nodup.sublist ((List.filter_sublist).map _)
  rw [List.Nodup, List.pairwise_map] at distinct
  apply List.Pairwise.sublist (List.take_sublist _ _)
  exact (ordered.and distinct).imp fun both => lt_of_le_of_ne both.1 both.2

/-- The records have the ids of the rows. -/
theorem candidateRecords_ids
    (built : candidateRecords newItem rows = some records) :
    records.map (·.itemId) = rows.map (·.id) := by
  rw [candidateRecords_eq_some] at built
  induction built with
  | nil => rfl
  | cons isRecord _ ih =>
      rw [List.map_cons, List.map_cons, ih,
        (candidateRecord_eq_some.mp isRecord).2.1]

/-- A call returns nothing without asking, or what the query selects. -/
theorem selectCandidates_eq_some :
    selectCandidates newItem horizonSeconds maxCandidates items =
        some selected ↔
      ((maxCandidates ≤ 0 ∨ blockingConditions newItem = []) ∧
          selected = []) ∨
        ((0 < maxCandidates ∧ blockingConditions newItem ≠ []) ∧
          (IsSqlInteger newItem.itemId ∧ IsSqlInteger maxCandidates) ∧
          candidateRecords newItem (selectedRows newItem horizonSeconds
            maxCandidates items) = some selected) := by
  unfold selectCandidates
  by_cases none : maxCandidates ≤ 0
  · simp [none, not_lt.mpr none, eq_comm]
  by_cases noKeys : blockingConditions newItem = []
  · simp [none, noKeys, eq_comm]
  by_cases bound : IsSqlInteger newItem.itemId ∧ IsSqlInteger maxCandidates
  · simp [none, noKeys, bound, lt_of_not_ge none]
  · simp [none, noKeys, bound]

end Rows

end Tca
