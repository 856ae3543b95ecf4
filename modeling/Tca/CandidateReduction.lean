import Tca.CandidateSelection

/-!
# What candidate selection returns

Below its cap, `select_candidates` finds every row that shares a blocking key,
unless a URL that it reads back cannot be split.  Its LIKE patterns also find
rows that share no key, and its cap keeps the rows with the smallest ids,
whichever key they match.
-/

namespace Tca

open PythonTexts UrlSplitting SqlLike RowRanking

section Completeness

variable {tables : UnicodeTables} {newItem : CandidateRecord}
  {horizonSeconds maxCandidates : Int} {row : ItemRow} {items : List ItemRow}

/-- A canonical URL is written from its parts. -/
theorem exists_canonical (lawful : tables.LawfulCase)
    {value url : List Char}
    (canonicalized : canonicalizeUrl tables (some value) = some url) :
    ∃ scheme netloc path query, Canonical scheme netloc path query ∧
      url = canonicalText scheme netloc path query := by
  rw [canonicalizeUrl_eq_bind] at canonicalized
  obtain ⟨split, unwrapped, rewritten⟩ :=
    Option.bind_eq_some_iff.mp canonicalized
  obtain ⟨target, -, read⟩ := urlsplit_of_splitUnwrapped unwrapped
  have wellSplit := wellSplit_of_urlsplit read
  obtain ⟨supported, netloc, written, sameUrl⟩ :=
    (canonicalizeSplit_eq_some lawful wellSplit).mp rewritten
  exact ⟨_, _, _, _, canonical_of_netloc lawful wellSplit supported written,
    sameUrl⟩

/-- The network location of a canonical URL stands between two slashes and
one. -/
theorem Canonical.netloc_infix {scheme netloc path query : List Char}
    (canonical : Canonical scheme netloc path query) :
    '/' :: '/' :: (netloc ++ ['/']) <:+:
      canonicalText scheme netloc path query := by
  have begins := canonical.path_rooted
  cases isPath : path with
  | nil =>
      rw [isPath] at begins
      cases begins
  | cons slash rest =>
      rw [isPath] at begins
      obtain rfl := Option.some.inj begins
      exact ⟨scheme ++ [':'], rest ++ (marked '?' (nonempty query) ++
        marked '#' none), by simp [canonicalText, write]⟩

theorem domainCondition_of_shares (lawful : tables.LawfulCase)
    (canonical : ∀ url ∈ row.canonicalUrl, ∃ value,
      canonicalizeUrl tables (some value) = some url.toList)
    {domain : String} (read : urlDomainOf row.canonicalUrl =
      some (some domain)) :
    domainCondition domain row = true ∧ domain ≠ "" := by
  cases isUrl : row.canonicalUrl with
  | none => simp [isUrl, urlDomainOf] at read
  | some url =>
      rw [isUrl, urlDomainOf] at read
      split at read
      · cases read
      · obtain ⟨split, isSplit, named⟩ := Option.map_eq_some_iff.mp read
        obtain ⟨value, canonicalized⟩ := canonical url isUrl
        obtain ⟨scheme, netloc, path, query, parts, written⟩ :=
          exists_canonical lawful canonicalized
        rw [written, parts.urlsplit_text] at isSplit
        split at isSplit
        · obtain rfl := Option.some.inj isSplit
          obtain ⟨kept, isKept, rfl⟩ := Option.map_eq_some_iff.mp named
          obtain rfl := mem_nonempty isKept
          have inside := parts.netloc_infix
          rw [← written] at inside
          have found := like_contains inside
          constructor
          · rw [domainCondition, isUrl, Option.any_some, Bool.or_eq_true]
            refine .inl ?_
            simpa using found
          · intro isEmpty
            have nothing : kept = [] := by simpa using isEmpty
            simp [nothing, nonempty] at isKept
        · cases isSplit

/-- A row that shares a key within the horizon is matched by the query. -/
theorem IsCandidate.isMatched (lawful : tables.LawfulCase)
    (canonical : ∀ url ∈ row.canonicalUrl, ∃ value,
      canonicalizeUrl tables (some value) = some url.toList)
    (candidate : IsCandidate newItem horizonSeconds row) :
    isMatched newItem horizonSeconds row = true := by
  have keys : ((blockingConditions newItem).any
      fun condition => condition row) = true := by
    rw [blockingConditions_any_iff]
    rcases candidate.shares with ⟨⟨hash, isRow, isNew⟩, visible⟩ |
      ⟨domain, read, isNew⟩ | ⟨token, isToken, title, isTitle, isWord⟩
    · refine .inl ⟨hash, isNew, ?_, isRow⟩
      rintro rfl
      exact visible isRow
    · obtain ⟨found, visible⟩ :=
        domainCondition_of_shares lawful canonical read
      exact .inr (.inl ⟨domain, isNew, visible, found⟩)
    · exact .inr (.inr ⟨token, isToken, tokenCondition_of_word isTitle isWord⟩)
  simp [Tca.isMatched, candidate.other, timeFilter_of_within candidate.within,
    keys]

/-- Every row that shares a key is listed once, in the order of the ids. -/
def ListsCandidates (newItem : CandidateRecord) (horizonSeconds : Int)
    (items : List ItemRow) (selected : List CandidateRecord) : Prop :=
  (∀ row ∈ items, IsCandidate newItem horizonSeconds row →
    (selected.map (·.itemId)).count row.id = 1) ∧
    (selected.map (·.itemId)).Pairwise (· < ·)

theorem listsCandidates_of_records (lawful : tables.LawfulCase)
    (nodup : (items.map (·.id)).Nodup)
    (canonical : ∀ row ∈ items, ∀ url ∈ row.canonicalUrl, ∃ value,
      canonicalizeUrl tables (some value) = some url.toList)
    (uncapped : items.length ≤ maxCandidates)
    {selected : List CandidateRecord}
    (built : candidateRecords newItem (selectedRows newItem horizonSeconds
      maxCandidates items) = some selected) :
    ListsCandidates newItem horizonSeconds items selected := by
  unfold ListsCandidates
  rw [candidateRecords_ids built]
  have increasing : ((selectedRows newItem horizonSeconds maxCandidates
      items).map (·.id)).Pairwise (· < ·) := by
    rw [List.pairwise_map]
    exact selectedRows_pairwise nodup
  refine ⟨?_, increasing⟩
  intro row stored candidate
  apply List.count_eq_one_of_mem
  · exact increasing.imp fun less => ne_of_lt less
  · apply List.mem_map_of_mem
    exact (mem_selectedRows_iff uncapped).mpr
      ⟨stored, candidate.isMatched lawful (canonical row stored)⟩

/-- Below the cap all candidates are listed exactly if the numbers can be bound
and no matched row has a URL that cannot be split again. -/
theorem candidates_complete_iff (lawful : tables.LawfulCase)
    (nodup : (items.map (·.id)).Nodup)
    (canonical : ∀ row ∈ items, ∀ url ∈ row.canonicalUrl, ∃ value,
      canonicalizeUrl tables (some value) = some url.toList)
    (uncapped : items.length ≤ maxCandidates) :
    (∃ selected, selectCandidates newItem horizonSeconds maxCandidates items =
          some selected ∧
        ListsCandidates newItem horizonSeconds items selected) ↔
      maxCandidates ≤ 0 ∨ blockingConditions newItem = [] ∨
        ((IsSqlInteger newItem.itemId ∧ IsSqlInteger maxCandidates) ∧
          ∀ row ∈ items, isMatched newItem horizonSeconds row = true →
            urlDomainOf row.canonicalUrl ≠ none) := by
  constructor
  · rintro ⟨selected, returned, -⟩
    rcases selectCandidates_eq_some.mp returned with
      ⟨few | noKeys, -⟩ | ⟨-, bound, built⟩
    · exact .inl few
    · exact .inr (.inl noKeys)
    · have readable := candidateRecords_isSome_iff.mp ⟨selected, built⟩
      refine .inr (.inr ⟨bound, ?_⟩)
      intro row stored matched
      exact readable row
        ((mem_selectedRows_iff uncapped).mpr ⟨stored, matched⟩)
  · intro runs
    by_cases asks : maxCandidates ≤ 0 ∨ blockingConditions newItem = []
    · refine ⟨[], selectCandidates_eq_some.mpr (.inl ⟨asks, rfl⟩), ?_, .nil⟩
      intro row stored candidate
      rcases asks with few | noKeys
      · have none : items.length = 0 := by omega
        rw [List.length_eq_zero_iff.mp none] at stored
        cases stored
      · have matched := candidate.isMatched lawful (canonical row stored)
        simp [isMatched, noKeys] at matched
    · obtain ⟨asked, keys⟩ := not_or.mp asks
      rcases runs with few | noKeys | ⟨bound, readable⟩
      · exact absurd few asked
      · exact absurd noKeys keys
      · obtain ⟨selected, built⟩ := candidateRecords_isSome_iff.mpr
          fun row member => readable row (mem_selectedRows member).1
            (mem_selectedRows member).2
        exact ⟨selected, selectCandidates_eq_some.mpr
          (.inr ⟨⟨not_le.mp asked, keys⟩, bound, built⟩),
          listsCandidates_of_records lawful nodup canonical uncapped built⟩

/-- A row without text and times. -/
def sampleCandidateRow (id : Int) (title url hash : Option String) :
    ItemRow where
  id := id
  channelId := 1
  messageId := id
  rawMessageId := none
  publishedAt := none
  title := title
  body := none
  canonicalUrl := url
  canonicalUrlHash := hash
  contentHash := none
  createdAt := ""

/-- An item with a hash, a domain and a rare token. -/
def sampleNewItem : CandidateRecord :=
  ⟨100, none, some "a", some "h", ["rare"]⟩

/-- One row with the domain of the item is listed. -/
theorem candidates_complete_sample :
    ∃ selected, selectCandidates sampleNewItem 0 1
        [sampleCandidateRow 1 none (some "https://h/") none] = some selected ∧
      ListsCandidates sampleNewItem 0
        [sampleCandidateRow 1 none (some "https://h/") none] selected := by
  apply (candidates_complete_iff UnicodeTables.asciiTables_lawfulCase
    (by decide) ?_ (by decide)).mpr
  · exact .inr (.inr ⟨by decide, by decide⟩)
  · intro row stored url isUrl
    obtain rfl := List.mem_singleton.mp stored
    obtain rfl := Option.some.inj isUrl
    exact ⟨"https://h/".toList, by decide⟩

/-- A canonical URL with a bracket in its user information: the row has the
hash of the item, and the call raises. -/
theorem bracketed_user_stops_selection :
    canonicalizeUrl UnicodeTables.asciiTables
        (some "https://a[b@[::1]/".toList) = some "https://a[b@::1/".toList ∧
      IsCandidate sampleNewItem 0
        (sampleCandidateRow 1 none (some "https://a[b@::1/") (some "a")) ∧
      selectCandidates sampleNewItem 0 1
        [sampleCandidateRow 1 none (some "https://a[b@::1/") (some "a")] =
      none := by
  refine ⟨by decide, ⟨by decide, ?_, .inl ⟨⟨"a", rfl, rfl⟩, ?_⟩⟩,
    by decide⟩
  · intro published isPublished
    cases isPublished
  · decide

end Completeness

section Genuineness

variable {newItem record : CandidateRecord}
  {horizonSeconds maxCandidates : Int} {row : ItemRow} {items : List ItemRow}

end Genuineness

section Cap

variable {newItem : CandidateRecord} {horizonSeconds maxCandidates : Int}
  {row : ItemRow} {items : List ItemRow} {selected : List CandidateRecord}

/-- Another row within the horizon, in whole seconds, with the same hash. -/
def IsExactMatch (newItem : CandidateRecord) (horizonSeconds : Int)
    (row : ItemRow) : Prop :=
  row.id ≠ newItem.itemId ∧ timeFilter newItem horizonSeconds row = true ∧
    SharesHash newItem row

/-- The matched rows with smaller ids. -/
def matchedBefore (newItem : CandidateRecord) (horizonSeconds : Int)
    (items : List ItemRow) (row : ItemRow) : List ItemRow :=
  (items.filter (isMatched newItem horizonSeconds)).filter fun other =>
    other.id < row.id

theorem IsExactMatch.isMatched {hash : String}
    (isHash : newItem.canonicalUrlHash = some hash) (visible : hash ≠ "")
    (matching : IsExactMatch newItem horizonSeconds row) :
    isMatched newItem horizonSeconds row = true := by
  obtain ⟨other, within, same, isRow, isNew⟩ := matching
  have keys : ((blockingConditions newItem).any
      fun condition => condition row) = true := by
    rw [blockingConditions_any_iff]
    rw [isHash] at isNew
    obtain rfl := Option.some.inj isNew
    exact .inl ⟨hash, isHash, visible, isRow⟩
  simp [Tca.isMatched, other, within, keys]

/-- A matched row is selected if few matched rows have smaller ids. -/
theorem mem_selectedRows_iff_few (nodup : (items.map (·.id)).Nodup) :
    row ∈ selectedRows newItem horizonSeconds maxCandidates items ↔
      (row ∈ items ∧ isMatched newItem horizonSeconds row = true) ∧
        (matchedBefore newItem horizonSeconds items row).length <
          maxCandidates.toNat := by
  have whole := @selectedRows_pairwise newItem horizonSeconds items.length
    items nodup
  have all : selectedRows newItem horizonSeconds items.length items =
      orderBy (·.id) (items.filter (isMatched newItem horizonSeconds)) := by
    rw [selectedRows, List.take_of_length_le]
    rw [(orderBy_perm _ _).length_eq]
    exact List.length_filter_le _ _
  rw [all] at whole
  have counted := ((orderBy_perm (fun row : ItemRow => row.id)
    (items.filter (isMatched newItem horizonSeconds))).filter
      fun other => decide (other.id < row.id)).length_eq
  rw [selectedRows, mem_take_iff (fun row : ItemRow => row.id) whole,
    mem_orderBy, List.mem_filter, counted]
  rfl

/-- An item with the same hash is returned exactly if such an item has fewer
than `max_candidates` matched items with smaller ids. -/
theorem exact_match_returned_iff {hash : String}
    (nodup : (items.map (·.id)).Nodup)
    (isHash : newItem.canonicalUrlHash = some hash) (visible : hash ≠ "")
    (positive : 1 ≤ maxCandidates)
    (returned : selectCandidates newItem horizonSeconds maxCandidates items =
      some selected) :
    (∃ record ∈ selected, ∃ row ∈ items, record.itemId = row.id ∧
        IsExactMatch newItem horizonSeconds row) ↔
      ∃ row ∈ items, IsExactMatch newItem horizonSeconds row ∧
        (matchedBefore newItem horizonSeconds items row).length <
          maxCandidates := by
  have keys : blockingConditions newItem ≠ [] := by
    simp [blockingConditions, isHash, truthy, visible]
  rcases selectCandidates_eq_some.mp returned with
    ⟨few | noKeys, -⟩ | ⟨-, -, built⟩
  · omega
  · exact absurd noKeys keys
  have sameIds := candidateRecords_ids built
  constructor
  · rintro ⟨record, isRecord, row, stored, sameId, matching⟩
    refine ⟨row, stored, matching, ?_⟩
    have listed : row.id ∈ (selectedRows newItem horizonSeconds maxCandidates
        items).map (·.id) := by
      rw [← sameIds, ← sameId]
      exact List.mem_map_of_mem isRecord
    obtain ⟨other, member, otherId⟩ := List.mem_map.mp listed
    have isRow := List.inj_on_of_nodup_map nodup (mem_selectedRows member).1
      stored otherId
    rw [isRow] at member
    have few := ((mem_selectedRows_iff_few nodup).mp member).2
    omega
  · rintro ⟨row, stored, matching, few⟩
    have member : row ∈ selectedRows newItem horizonSeconds maxCandidates
        items := by
      apply (mem_selectedRows_iff_few nodup).mpr
      exact ⟨⟨stored, matching.isMatched isHash visible⟩, by omega⟩
    have listed : row.id ∈ selected.map (·.itemId) := by
      rw [sameIds]
      exact List.mem_map_of_mem member
    obtain ⟨record, isRecord, sameId⟩ := List.mem_map.mp listed
    exact ⟨record, isRecord, row, stored, sameId, matching⟩

/-- A row with the hash of the item is returned below the cap. -/
theorem exact_match_sample :
    ∃ record ∈ [(⟨1, none, some "a", none, []⟩ : CandidateRecord)],
      ∃ row ∈ [sampleCandidateRow 1 none none (some "a")],
        record.itemId = row.id ∧
        IsExactMatch sampleNewItem 0 row := by
  apply (exact_match_returned_iff (by decide) rfl (by decide) (le_refl 1)
    (by decide)).mpr
  exact ⟨_, List.mem_singleton_self _, ⟨by decide, rfl, "a", rfl, rfl⟩,
    by decide⟩

/-- A row of the same domain with a smaller id takes the only place, and an
empty hash is not asked for. -/
theorem capped_selection_misses_hash :
    selectCandidates sampleNewItem 0 1
        [sampleCandidateRow 1 none (some "https://h/") (some "b"),
          sampleCandidateRow 2 none none (some "a")] =
        some [⟨1, none, some "b", some "h", []⟩] ∧
      IsExactMatch sampleNewItem 0 (sampleCandidateRow 2 none none (some "a")) ∧
      selectCandidates ⟨100, none, some "", none, []⟩ 0 1
        [sampleCandidateRow 1 none none (some "")] = some [] ∧
      IsExactMatch ⟨100, none, some "", none, []⟩ 0
        (sampleCandidateRow 1 none none (some "")) := by
  refine ⟨by decide, ⟨by decide, rfl, "a", rfl, rfl⟩,
    by decide, ⟨by decide, rfl, "", rfl, rfl⟩⟩

end Cap

end Tca
