import Tca.StrategyChainSemantics
import Tca.TextNormalization
import Tca.FloodWaits
import Mathlib.Data.Int.Log
import Mathlib.Data.Rat.Floor

/-!
# The strategies of the dedupe chain

Two items are compared by their canonical URLs, by the hashes of their texts
and by their titles.  The file embeds the three strategies and describes what
the chain of them makes of titles that are similar: different texts decide
before titles are looked at.
-/

namespace Tca

/-- The fields of an item that strategies read. -/
structure DedupeItem where
  title : Option (List Char)
  body : Option (List Char)
  canonicalUrl : Option String
  canonicalUrlHash : Option String

/-- The mapping that `duplicate`, `distinct` or `abstain` builds. -/
def StrategyResult.asMapping : StrategyResult → PyObject
  | .duplicate score reason metadata =>
      .mapping ([(.str "status", .str "DUPLICATE"),
        (.str "score", .float score), (.str "reason", .str reason)] ++
        metadataEntry metadata)
  | .distinct reason metadata =>
      .mapping ([(.str "status", .str "DISTINCT"),
        (.str "reason", .str reason)] ++ metadataEntry metadata)
  | .abstain reason metadata =>
      .mapping ([(.str "status", .str "ABSTAIN"),
        (.str "reason", .str reason)] ++ metadataEntry metadata)
where
  metadataEntry :
      Option (List (String × PyObject)) → List (PyKey × PyObject)
    | none => []
    | some metadata => [(.str "metadata",
        .mapping (metadata.map fun entry => (.str entry.1, entry.2)))]

section ExactUrl

def exactUrlMatchReason : String :=
  "exact_url_match"

def exactUrlMismatchReason : String :=
  "exact_url_mismatch"

def exactUrlMissingReason : String :=
  "exact_url_missing"

/-- Two values are present, and they are the same or they are not. -/
def comparePresent (left right : Option String) : Option Bool :=
  match left, right with
  | some left, some right => some (left == right)
  | _, _ => none

/-- Compare two items by canonical URL hash/value and return strategy
result. -/
def evaluateExactUrl (leftCanonicalUrl rightCanonicalUrl leftCanonicalUrlHash
    rightCanonicalUrlHash : Option String) : StrategyResult :=
  let hashes := comparePresent leftCanonicalUrlHash rightCanonicalUrlHash
  let urls := comparePresent leftCanonicalUrl rightCanonicalUrl
  if hashes = some true then .duplicate (.finite 1) exactUrlMatchReason none
  else if urls = some true then .duplicate (.finite 1) exactUrlMatchReason none
  else if hashes.isSome || urls.isSome then
    .distinct exactUrlMismatchReason none
  else .abstain exactUrlMissingReason none

end ExactUrl

section ContentHash

def contentHashMatchReason : String :=
  "content_hash_match"

def contentHashMismatchReason : String :=
  "content_hash_mismatch"

def contentHashMissingReason : String :=
  "content_hash_missing"

variable (tables : UnicodeTables) (sha256Hex : List Char → String)

/-- The hash of a normalized text, if there is any text. -/
def contentHash (normalized : List Char) : Option String :=
  if normalized = [] then none else some (sha256Hex normalized)

/-- A hash in a mapping. -/
def hashObject : Option String → PyObject
  | none => .none
  | some hash => .str hash

/-- Compare two items by hash over normalized title + body content. -/
def evaluateContentHash (leftTitle leftBody rightTitle rightBody :
    Option (List Char)) : StrategyResult :=
  let leftNormalized := buildHashNormalizedInput tables leftTitle leftBody
  let rightNormalized := buildHashNormalizedInput tables rightTitle rightBody
  let leftHash := contentHash sha256Hex leftNormalized
  let rightHash := contentHash sha256Hex rightNormalized
  let metadata := [("left_content_hash", hashObject leftHash),
    ("right_content_hash", hashObject rightHash)]
  if leftHash = none ∨ rightHash = none then
    .abstain contentHashMissingReason (some metadata)
  else if leftHash = rightHash then
    .duplicate (.finite 1) contentHashMatchReason (some metadata)
  else .distinct contentHashMismatchReason (some metadata)

end ContentHash

section TitleSimilarity

def titleSimilarityMinTokenCount : Nat :=
  3

def titleSimilarityMatchReason : String :=
  "title_similarity_match"

def titleSimilarityMismatchReason : String :=
  "title_similarity_mismatch"

def titleSimilarityShortTitleReason : String :=
  "title_similarity_short_title"

/-- The float next to a number that is not too large for one; halfway between
two it is the one with an even significand. -/
def nearestDouble (value : ℚ) : ℚ :=
  let unit : ℚ := 2 ^ max (Int.log 2 |value| - 52) (-1074)
  roundHalfEven (value / unit) * unit

/-- `score >= threshold`. -/
def reachesThreshold (score : ℚ) : PyFloat → Bool
  | .finite threshold => decide (threshold ≤ score)
  | .infinite negative => negative
  | .notANumber => false

/-- `_token_count`. -/
def tokenCount (value : List Char) : Nat :=
  if value = [] then 0 else (splitWords value).length

variable (tables : UnicodeTables) (tokenSetRatio : List Char → List Char → ℚ)

/-- `token_set_ratio(left_normalized, right_normalized) / 100.0`. -/
def titleScore (leftTitle rightTitle : Option (List Char)) : ℚ :=
  nearestDouble (tokenSetRatio (normalizeSimilarityText tables leftTitle)
    (normalizeSimilarityText tables rightTitle) / 100)

/-- Compare two normalized titles with token_set_ratio and threshold
semantics. -/
def evaluateTitleSimilarity (leftTitle rightTitle : Option (List Char))
    (threshold : PyFloat) : StrategyResult :=
  let leftTokenCount := tokenCount (normalizeSimilarityText tables leftTitle)
  let rightTokenCount := tokenCount (normalizeSimilarityText tables rightTitle)
  let metadata := [("left_token_count", PyObject.int leftTokenCount),
    ("right_token_count", PyObject.int rightTokenCount),
    ("threshold", PyObject.float threshold)]
  if leftTokenCount < titleSimilarityMinTokenCount ∨
      rightTokenCount < titleSimilarityMinTokenCount then
    .abstain titleSimilarityShortTitleReason (some metadata)
  else
    let score := titleScore tables tokenSetRatio leftTitle rightTitle
    let metadata := metadata ++ [("score", .float (.finite score))]
    if reachesThreshold score threshold then
      .duplicate (.finite score) titleSimilarityMatchReason (some metadata)
    else .distinct titleSimilarityMismatchReason (some metadata)

end TitleSimilarity

section Chain

variable (tables : UnicodeTables) (sha256Hex : List Char → String)
  (tokenSetRatio : List Char → List Char → ℚ) (left right : DedupeItem)
  (threshold : PyFloat)

/-- The verdict of the first strategy on two items. -/
def DedupeItem.exactUrl : StrategyResult :=
  evaluateExactUrl left.canonicalUrl right.canonicalUrl left.canonicalUrlHash
    right.canonicalUrlHash

/-- The verdict of the second strategy on two items. -/
def DedupeItem.contentHash : StrategyResult :=
  evaluateContentHash tables sha256Hex left.title left.body right.title
    right.body

/-- The verdict of the third strategy on two items. -/
def DedupeItem.titleSimilarity : StrategyResult :=
  evaluateTitleSimilarity tables tokenSetRatio left.title right.title threshold

/-- The chain of the three strategies on two items. -/
def dedupeStrategies : List (String × StrategyCall) :=
  [("exact_url", .ok (left.exactUrl right).asMapping),
    ("content_hash",
      .ok (left.contentHash tables sha256Hex right).asMapping),
    ("title_similarity", .ok (left.titleSimilarity tables tokenSetRatio right
      threshold).asMapping)]

/-- The normalized text that is hashed for an item. -/
def DedupeItem.hashInput (item : DedupeItem) : List Char :=
  buildHashNormalizedInput tables item.title item.body

/-- Both items have the same canonical URL, or the same hash of it. -/
def SameUrl : Prop :=
  (∃ hash, left.canonicalUrlHash = some hash ∧
    right.canonicalUrlHash = some hash) ∨
  ∃ url, left.canonicalUrl = some url ∧ right.canonicalUrl = some url

/-- Both titles are long enough, and they are as similar as is asked for. -/
structure SimilarTitles : Prop where
  leftLong : 3 ≤ tokenCount (normalizeSimilarityText tables left.title)
  rightLong : 3 ≤ tokenCount (normalizeSimilarityText tables right.title)
  similar : reachesThreshold
    (titleScore tables tokenSetRatio left.title right.title) threshold = true

end Chain

section Contract

/-- What the helpers of the contract are given: a trimmed reason and a finite
score. -/
structure StrategyResult.WellFormed (result : StrategyResult) : Prop where
  trimmed : pythonStrip result.reason = result.reason
  visible : result.reason ≠ ""
  scoreFinite : ∀ score, result.score = some score → score.isFinite = true

variable {repr : String → String} {result : StrategyResult}

/-- A well formed result comes back from the contract as it is. -/
theorem StrategyResult.WellFormed.standsFor (formed : result.WellFormed) :
    StandsFor result.asMapping result := by
  have verdict : result.reason = pythonStrip result.reason ∧
      result.reason ≠ "" := ⟨formed.trimmed.symm, formed.visible⟩
  cases result with
  | duplicate score reason metadata =>
      have isFinite := formed.scoreFinite score rfl
      refine ⟨⟨rfl, reason, rfl, verdict⟩, ?_, .inr rfl, isFinite⟩
      cases metadata with
      | none => exact .inl rfl
      | some metadata => rfl
  | distinct reason metadata =>
      refine ⟨⟨rfl, reason, rfl, verdict⟩, ?_⟩
      cases metadata with
      | none => exact .inl rfl
      | some metadata => rfl
  | abstain reason metadata =>
      refine ⟨⟨rfl, reason, rfl, verdict⟩, ?_⟩
      cases metadata with
      | none => exact .inl rfl
      | some metadata => rfl

/-- The reasons that the three strategies give. -/
def strategyReasons : List String :=
  [exactUrlMatchReason, exactUrlMismatchReason, exactUrlMissingReason,
    contentHashMatchReason, contentHashMismatchReason, contentHashMissingReason,
    titleSimilarityMatchReason, titleSimilarityMismatchReason,
    titleSimilarityShortTitleReason]

theorem wellFormed_of_reason (result : StrategyResult)
    (known : result.reason ∈ strategyReasons)
    (scoreFinite : ∀ score, result.score = some score →
      score.isFinite = true) : result.WellFormed := by
  have checked : ∀ reason ∈ strategyReasons,
      pythonStrip reason = reason ∧ reason ≠ "" := by
    decide
  obtain ⟨trimmed, visible⟩ := checked result.reason known
  exact ⟨trimmed, visible, scoreFinite⟩

variable (tables : UnicodeTables) (sha256Hex : List Char → String)
  (tokenSetRatio : List Char → List Char → ℚ) (left right : DedupeItem)
  (threshold : PyFloat)

theorem exactUrl_wellFormed : (left.exactUrl right).WellFormed := by
  unfold DedupeItem.exactUrl evaluateExactUrl
  dsimp only
  split_ifs
  all_goals
    apply wellFormed_of_reason
    · simp [StrategyResult.reason, strategyReasons]
    · simp [StrategyResult.score, PyFloat.isFinite]

theorem contentHash_wellFormed :
    (left.contentHash tables sha256Hex right).WellFormed := by
  unfold DedupeItem.contentHash evaluateContentHash
  dsimp only
  split_ifs
  all_goals
    apply wellFormed_of_reason
    · simp [StrategyResult.reason, strategyReasons]
    · simp [StrategyResult.score, PyFloat.isFinite]

theorem titleSimilarity_wellFormed :
    (left.titleSimilarity tables tokenSetRatio right threshold).WellFormed := by
  unfold DedupeItem.titleSimilarity evaluateTitleSimilarity
  dsimp only
  split_ifs
  all_goals
    apply wellFormed_of_reason
    · simp [StrategyResult.reason, strategyReasons]
    · simp [StrategyResult.score, PyFloat.isFinite]

end Contract

section Verdicts

variable {tables : UnicodeTables} {sha256Hex : List Char → String}
  {tokenSetRatio : List Char → List Char → ℚ} {left right : DedupeItem}
  {threshold : PyFloat}

theorem comparePresent_eq_true_iff {first second : Option String} :
    comparePresent first second = some true ↔
      ∃ value, first = some value ∧ second = some value := by
  cases first with
  | none => simp [comparePresent]
  | some value =>
      cases second with
      | none => simp [comparePresent]
      | some other =>
          constructor
          · intro compared
            obtain rfl := beq_iff_eq.mp (Option.some.inj compared)
            exact ⟨value, rfl, rfl⟩
          · rintro ⟨common, sameFirst, sameSecond⟩
            rw [sameFirst, sameSecond, comparePresent, beq_self_eq_true]

/-- The first strategy finds duplicates by equal URLs only. -/
theorem exactUrl_duplicate_iff :
    (left.exactUrl right).status = "DUPLICATE" ↔ SameUrl left right := by
  unfold DedupeItem.exactUrl evaluateExactUrl SameUrl
  rw [← comparePresent_eq_true_iff, ← comparePresent_eq_true_iff]
  dsimp only
  split_ifs with sameHash sameUrl
  · simp [StrategyResult.status, sameHash]
  · simp [StrategyResult.status, sameUrl]
  · simp [StrategyResult.status, sameHash, sameUrl]
  · simp [StrategyResult.status, sameHash, sameUrl]

/-- Unless it finds the URLs equal or different the first strategy abstains. -/
theorem exactUrl_abstains
    (notDistinct : (left.exactUrl right).status ≠ "DISTINCT")
    (notSame : ¬ SameUrl left right) :
    (left.exactUrl right).status = "ABSTAIN" := by
  have noDuplicate := mt exactUrl_duplicate_iff.mp notSame
  cases verdict : left.exactUrl right with
  | duplicate score reason metadata =>
      rw [verdict] at noDuplicate
      exact absurd rfl noDuplicate
  | distinct reason metadata =>
      rw [verdict] at notDistinct
      exact absurd rfl notDistinct
  | abstain reason metadata => rfl

/-- Without any text the second strategy has nothing to say. -/
theorem contentHash_abstains (missing : left.hashInput tables = [] ∨
    right.hashInput tables = []) :
    (left.contentHash tables sha256Hex right).status = "ABSTAIN" := by
  unfold DedupeItem.contentHash evaluateContentHash
  dsimp only
  rw [if_pos]
  · rfl
  · exact missing.imp (fun empty => if_pos empty) fun empty => if_pos empty

/-- Equal texts have equal hashes. -/
theorem contentHash_duplicate (leftText : left.hashInput tables ≠ [])
    (same : left.hashInput tables = right.hashInput tables) :
    (left.contentHash tables sha256Hex right).status = "DUPLICATE" := by
  have rightText : right.hashInput tables ≠ [] := same ▸ leftText
  have leftHash : contentHash sha256Hex (left.hashInput tables) =
      some (sha256Hex (left.hashInput tables)) := if_neg leftText
  have rightHash : contentHash sha256Hex (right.hashInput tables) =
      some (sha256Hex (right.hashInput tables)) := if_neg rightText
  unfold DedupeItem.hashInput at leftHash rightHash same
  unfold DedupeItem.contentHash evaluateContentHash
  dsimp only
  rw [leftHash, rightHash, same, if_neg (by simp), if_pos rfl]
  rfl

/-- Different texts make two items distinct, whatever their titles are. -/
theorem contentHash_distinct (leftText : left.hashInput tables ≠ [])
    (rightText : right.hashInput tables ≠ [])
    (different : sha256Hex (left.hashInput tables) ≠
      sha256Hex (right.hashInput tables)) :
    (left.contentHash tables sha256Hex right).status = "DISTINCT" ∧
      (left.contentHash tables sha256Hex right).reason =
        contentHashMismatchReason := by
  have leftHash : contentHash sha256Hex (left.hashInput tables) =
      some (sha256Hex (left.hashInput tables)) := if_neg leftText
  have rightHash : contentHash sha256Hex (right.hashInput tables) =
      some (sha256Hex (right.hashInput tables)) := if_neg rightText
  unfold DedupeItem.hashInput at leftHash rightHash different
  unfold DedupeItem.contentHash evaluateContentHash
  dsimp only
  rw [leftHash, rightHash, if_neg (by simp), if_neg (by simpa using different)]
  exact ⟨rfl, rfl⟩

/-- Similar titles are duplicates for the third strategy. -/
theorem titleSimilarity_duplicate
    (titles : SimilarTitles tables tokenSetRatio left right threshold) :
    (left.titleSimilarity tables tokenSetRatio right threshold).status =
      "DUPLICATE" := by
  have long : ¬ (tokenCount (normalizeSimilarityText tables left.title) <
      titleSimilarityMinTokenCount ∨
      tokenCount (normalizeSimilarityText tables right.title) <
        titleSimilarityMinTokenCount) := by
    have leftLong := titles.leftLong
    have rightLong := titles.rightLong
    unfold titleSimilarityMinTokenCount
    omega
  unfold DedupeItem.titleSimilarity evaluateTitleSimilarity
  dsimp only
  rw [if_neg long, if_pos titles.similar]
  rfl

end Verdicts

section Runs

variable {repr : String → String}

/-- The chain goes on as long as strategies abstain. -/
theorem executeStrategies_cons {strategyName : String}
    {result : StrategyResult} (formed : result.WellFormed)
    (strategies : List (String × StrategyCall))
    (attempts : List StrategyDecisionAttempt) :
    executeStrategies repr ((strategyName, .ok result.asMapping) :: strategies)
        attempts =
      let traced := attempts ++
        [⟨strategyName, result.status, result.reason, result.score⟩]
      if result.status = "ABSTAIN" then
        executeStrategies repr strategies traced
      else .ok (result, traced) := by
  have ran : runStrategy repr strategyName (.ok result.asMapping) =
      .ok result := runStrategy_eq_ok_iff.mpr formed.standsFor
  simp only [executeStrategies, ran]
  rfl

variable {tables : UnicodeTables} {sha256Hex : List Char → String}
  {tokenSetRatio : List Char → List Char → ℚ} {left right : DedupeItem}
  {threshold : PyFloat}

/-- The first verdict of the three strategies stands that is not `ABSTAIN`. -/
theorem dedupeStrategies_run :
    ∃ traced, executeStrategyChainWithTrace repr (dedupeStrategies tables
        sha256Hex tokenSetRatio left right threshold) =
      .ok (if (left.exactUrl right).status ≠ "ABSTAIN" then
          left.exactUrl right
        else if (left.contentHash tables sha256Hex right).status ≠ "ABSTAIN"
          then left.contentHash tables sha256Hex right
        else if (left.titleSimilarity tables tokenSetRatio right
          threshold).status ≠ "ABSTAIN" then
          left.titleSimilarity tables tokenSetRatio right threshold
        else .distinct noStrategyMatchReason none, traced) := by
  unfold executeStrategyChainWithTrace dedupeStrategies
  rw [executeStrategies_cons (exactUrl_wellFormed left right)]
  dsimp only
  by_cases first : (left.exactUrl right).status = "ABSTAIN"
  · rw [if_pos first, if_neg (not_not.mpr first),
      executeStrategies_cons (contentHash_wellFormed tables sha256Hex left
        right)]
    dsimp only
    by_cases second :
        (left.contentHash tables sha256Hex right).status = "ABSTAIN"
    · rw [if_pos second, if_neg (not_not.mpr second),
        executeStrategies_cons (titleSimilarity_wellFormed tables tokenSetRatio
          left right threshold)]
      dsimp only
      by_cases third : (left.titleSimilarity tables tokenSetRatio right
          threshold).status = "ABSTAIN"
      · rw [if_pos third, if_neg (not_not.mpr third)]
        exact ⟨_, rfl⟩
      · rw [if_neg third, if_pos third]
        exact ⟨_, rfl⟩
    · rw [if_neg second, if_pos second]
      exact ⟨_, rfl⟩
  · rw [if_neg first, if_pos first]
    exact ⟨_, rfl⟩

/-- Similar titles make two items duplicates where their URLs or their
texts do, or one of the texts is empty.  Otherwise the different texts have
the last word. -/
theorem similar_titles_duplicate_iff (repr : String → String)
    (sameText : sha256Hex (left.hashInput tables) =
      sha256Hex (right.hashInput tables) →
        left.hashInput tables = right.hashInput tables)
    (notDistinct : (left.exactUrl right).status ≠ "DISTINCT")
    (titles : SimilarTitles tables tokenSetRatio left right threshold) :
    ∃ result traced, executeStrategyChainWithTrace repr (dedupeStrategies
        tables sha256Hex tokenSetRatio left right threshold) =
        .ok (result, traced) ∧
      (result.status = "DUPLICATE" ↔ SameUrl left right ∨
        left.hashInput tables = [] ∨ right.hashInput tables = [] ∨
        left.hashInput tables = right.hashInput tables) ∧
      (result.status ≠ "DUPLICATE" → result.status = "DISTINCT" ∧
        result.reason = contentHashMismatchReason) := by
  obtain ⟨traced, ran⟩ := @dedupeStrategies_run repr tables sha256Hex
    tokenSetRatio left right threshold
  refine ⟨_, traced, ran, ?_⟩
  by_cases sameUrl : SameUrl left right
  · have duplicate := exactUrl_duplicate_iff.mpr sameUrl
    rw [if_pos (by rw [duplicate]; decide)]
    exact ⟨iff_of_true duplicate (.inl sameUrl),
      fun other => absurd duplicate other⟩
  · have abstains := exactUrl_abstains notDistinct sameUrl
    rw [if_neg (not_not.mpr abstains)]
    by_cases missing : left.hashInput tables = [] ∨ right.hashInput tables = []
    · have duplicate := titleSimilarity_duplicate titles
      rw [if_neg (not_not.mpr (contentHash_abstains missing)),
        if_pos (by rw [duplicate]; decide)]
      refine ⟨iff_of_true duplicate (.inr ?_),
        fun other => absurd duplicate other⟩
      rcases missing with leftEmpty | rightEmpty
      · exact .inl leftEmpty
      · exact .inr (.inl rightEmpty)
    · obtain ⟨leftText, rightText⟩ := not_or.mp missing
      by_cases same : left.hashInput tables = right.hashInput tables
      · have duplicate := @contentHash_duplicate tables sha256Hex left right
          leftText same
        rw [if_pos (by rw [duplicate]; decide)]
        exact ⟨iff_of_true duplicate (.inr (.inr (.inr same))),
          fun other => absurd duplicate other⟩
      · have distinct := contentHash_distinct leftText rightText
          (mt sameText same)
        rw [if_pos (by rw [distinct.1]; decide)]
        refine ⟨iff_of_false (by rw [distinct.1]; decide) ?_,
          fun _ => distinct⟩
        simp only [sameUrl, leftText, rightText, same, or_self,
          not_false_eq_true]

end Runs

section Sample

/-- An item with a headline and a body, without a URL. -/
def sampleItem (body : String) : DedupeItem :=
  ⟨some "Breaking news today".toList, some body.toList, none, none⟩

/-- The SHA-256 digests of the texts of two items. -/
def sampleSha256 (text : List Char) : String :=
  if text = "breaking news today one".toList then
    "4cfc93e586b3fd328dbc61c0f7a3868d49739e8e1cfdf797a303f12ea90822c1"
  else "7fcf51e04888a39d832e632a5155f9d6078f9ceae1a56419bed9aaaf8ac8d82c"

/-- The ratio of a title with itself. -/
def sampleRatio (_ _ : List Char) : ℚ :=
  100

/-- The float 0.92. -/
def defaultThreshold : PyFloat :=
  .finite (8286623314361713 / 9007199254740992)

theorem nearestDouble_one : nearestDouble 1 = 1 := by
  have log : Int.log 2 (1 : ℚ) = 0 := Int.log_one_right 2
  have unit : max (0 - 52 : ℤ) (-1074) = -52 := rfl
  have scaled : (1 : ℚ) / 2 ^ (-52 : ℤ) = ((2 ^ 52 : Int) : ℚ) := by
    norm_num
  rw [nearestDouble, abs_one, log, unit, scaled, roundHalfEven_intCast]
  norm_num

theorem sampleTitles (leftBody rightBody : String) :
    SimilarTitles UnicodeTables.asciiTables sampleRatio (sampleItem leftBody)
      (sampleItem rightBody) defaultThreshold := by
  have long : ∀ body, 3 ≤ tokenCount (normalizeSimilarityText
      UnicodeTables.asciiTables (sampleItem body).title) := by
    intro body
    show 3 ≤ tokenCount (normalizeSimilarityText UnicodeTables.asciiTables
      (some "Breaking news today".toList))
    decide
  refine ⟨long leftBody, long rightBody, ?_⟩
  have score : titleScore UnicodeTables.asciiTables sampleRatio
      (sampleItem leftBody).title (sampleItem rightBody).title = 1 := by
    rw [titleScore, sampleRatio, div_self (by norm_num), nearestDouble_one]
  rw [score]
  decide +kernel

/-- A headline with two different bodies stays distinct. -/
theorem same_titles_stay_distinct :
    ((sampleItem "one").exactUrl (sampleItem "two")).status ≠ "DISTINCT" ∧
      SimilarTitles UnicodeTables.asciiTables sampleRatio (sampleItem "one")
        (sampleItem "two") defaultThreshold ∧
      sampleSha256 ((sampleItem "one").hashInput UnicodeTables.asciiTables) ≠
        sampleSha256
          ((sampleItem "two").hashInput UnicodeTables.asciiTables) ∧
      ∃ result traced, executeStrategyChainWithTrace id (dedupeStrategies
        UnicodeTables.asciiTables sampleSha256 sampleRatio (sampleItem "one")
        (sampleItem "two") defaultThreshold) = .ok (result, traced) ∧
        result.status = "DISTINCT" := by
  have abstains : ((sampleItem "one").exactUrl
      (sampleItem "two")).status = "ABSTAIN" := by decide
  have different : sampleSha256
      ((sampleItem "one").hashInput UnicodeTables.asciiTables) ≠
        sampleSha256
          ((sampleItem "two").hashInput UnicodeTables.asciiTables) := by
    decide
  have distinct := contentHash_distinct
    (show (sampleItem "one").hashInput UnicodeTables.asciiTables ≠ [] by
      decide)
    (show (sampleItem "two").hashInput UnicodeTables.asciiTables ≠ [] by
      decide) different
  refine ⟨by rw [abstains]; decide, sampleTitles "one" "two", different, ?_⟩
  obtain ⟨traced, ran⟩ := @dedupeStrategies_run id UnicodeTables.asciiTables
    sampleSha256 sampleRatio (sampleItem "one") (sampleItem "two")
    defaultThreshold
  refine ⟨_, traced, ran, ?_⟩
  rw [if_neg (not_not.mpr abstains), if_pos (by rw [distinct.1]; decide)]
  exact distinct.1

theorem same_titles_sample :
    ∃ result traced, executeStrategyChainWithTrace id (dedupeStrategies
        UnicodeTables.asciiTables sampleSha256 sampleRatio (sampleItem "one")
        (sampleItem "One!") defaultThreshold) = .ok (result, traced) ∧
      result.status = "DUPLICATE" := by
  have same : (sampleItem "one").hashInput UnicodeTables.asciiTables =
      (sampleItem "One!").hashInput UnicodeTables.asciiTables := by
    decide
  obtain ⟨result, traced, ran, duplicate, -⟩ :=
    @similar_titles_duplicate_iff UnicodeTables.asciiTables sampleSha256
      sampleRatio (sampleItem "one") (sampleItem "One!") defaultThreshold id
      (fun _ => same) (by decide) (sampleTitles "one" "One!")
  exact ⟨result, traced, ran, duplicate.mpr (.inr (.inr (.inr same)))⟩

end Sample

end Tca
