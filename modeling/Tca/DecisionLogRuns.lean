import Tca.DecisionPersistence
import Tca.DecisionRetention
import Tca.InsertionLogs

/-!
# Runs over the decision log

Attempts are persisted while clusters are merged, channels purged and the
archive pruned.  Decisions disappear with their items and lose references to
other rows, and row ids are used again.  The file follows a history of the
inserted decisions along any such run and shows that `list_for_item` reads
back what is left of it, in the order of insertion.
-/

namespace Tca

open TableRows Transaction RowRanking GuardedRuns InsertionLogs

section Entries

/-- A decision with the time of its insertion. -/
structure LoggedDecision where
  row : DecisionRow
  createdAt : String

/-- The later entry is the earlier one, perhaps without references. -/
structure LoggedDecision.Continues (entry later : LoggedDecision) :
    Prop where
  row : entry.row.Continues later.row
  createdAt : later.createdAt = entry.createdAt

theorem LoggedDecision.Continues.refl (entry : LoggedDecision) :
    entry.Continues entry :=
  ⟨.refl entry.row, rfl⟩

theorem LoggedDecision.Continues.trans {entry later latest : LoggedDecision}
    (earlier : entry.Continues later) (next : later.Continues latest) :
    entry.Continues latest :=
  ⟨earlier.row.trans next.row, next.createdAt.trans earlier.createdAt⟩

/-- The entry was made by the clock and has no score that cannot be read. -/
structure LoggedDecision.Readable (entry : LoggedDecision) : Prop where
  score : ∀ score, entry.row.score = some score → score.isFinite = true
  createdAt : ∃ now, entry.createdAt = currentTimestamp now

/-- A stored decision with its time of insertion. -/
def DecisionStore.stamp (store : DecisionStore) (row : DecisionRow) :
    LoggedDecision :=
  ⟨row, store.createdAt row.id⟩

/-- The decision table with the times of insertion. -/
def DecisionStore.log (store : DecisionStore) : List LoggedDecision :=
  store.database.dedupeDecisions.map store.stamp

end Entries

section Operations

/-- The calls that touch the decision log, and what happens between them. -/
inductive DecisionOperation where
  | persistAttempts (request : PersistRequest)
  | dedupe (operation : DedupeOperation)

/-- Execute one operation, whatever its result.  SQLite fills in the time of
every row that is inserted. -/
def DecisionOperation.execute (clock : Nat → WallTime) :
    DecisionOperation → DecisionStore → DecisionStore
  | .persistAttempts request, store =>
      (atomically (Tca.persistAttempts clock request) store).2
  | .dedupe operation, store =>
      let after := operation.execute store.database
      { database := after
        createdAt := fun id =>
          if id ∈ after.dedupeDecisions.map (·.id) ∧
              id ∉ store.decisionIds then currentTimestamp (clock 0)
          else store.createdAt id }

/-- A store, and the decisions inserted so far whose items are still there,
in the order of their insertion. -/
structure TrackedStore where
  store : DecisionStore
  history : List LoggedDecision

/-- Execute an operation at the times its clock shows.  Inserted decisions
join the history, those whose item is gone afterwards leave it. -/
def TrackedStore.execute (step : (Nat → WallTime) × DecisionOperation)
    (tracked : TrackedStore) : TrackedStore :=
  let after := step.2.execute step.1 tracked.store
  { store := after
    history := nextHistory (·.row.id)
      (fun entry => entry.row.itemId ∈ after.database.itemIds)
      tracked.store.log after.log tracked.history }

end Operations

namespace DecisionBatch

section Rows

variable {batch : DecisionBatch} {clock : Nat → WallTime}
  {attempts : List ValidatedAttempt}

theorem mem_rows {first : Int} {row : DecisionRow}
    (isRow : row ∈ batch.rows first attempts) :
    first ≤ row.id ∧ ∃ attempt ∈ attempts, row = batch.row row.id attempt := by
  induction attempts generalizing first with
  | nil => cases isRow
  | cons attempt attempts ih =>
      rcases List.mem_cons.mp isRow with rfl | later
      · exact ⟨le_refl _, attempt, List.mem_cons_self, rfl⟩
      · obtain ⟨above, other, isAttempt, rowIs⟩ := ih later
        exact ⟨by omega, other, List.mem_cons_of_mem _ isAttempt, rowIs⟩

theorem rows_increasing (first : Int) :
    Increasing (·.id) (batch.rows first attempts) := by
  induction attempts generalizing first with
  | nil => exact List.Pairwise.nil
  | cons attempt attempts ih =>
      refine List.pairwise_cons.mpr ⟨fun row later => ?_, ih (first + 1)⟩
      have above := (mem_rows later).1
      change first < row.id
      omega

/-- Times of earlier insertions stay. -/
theorem addAttempts_createdAt_of_lt {index : Nat} {store : DecisionStore}
    {id : Int} (earlier : id < nextRowid store.decisionIds) :
    (batch.addAttempts clock index attempts store).createdAt id =
      store.createdAt id := by
  induction attempts generalizing index store with
  | nil => rfl
  | cons attempt attempts ih =>
      rw [addAttempts, ih (by rw [nextRowid_addDecision]; omega)]
      exact Function.update_of_ne earlier.ne _ _

/-- Every inserted row carries the time of its insertion. -/
theorem addAttempts_createdAt_of_mem {index : Nat} {store : DecisionStore}
    {row : DecisionRow}
    (isRow : row ∈ batch.rows (nextRowid store.decisionIds) attempts) :
    ∃ now, (batch.addAttempts clock index attempts store).createdAt row.id =
      currentTimestamp now := by
  induction attempts generalizing index store with
  | nil => cases isRow
  | cons attempt attempts ih =>
      rw [addAttempts]
      rcases List.mem_cons.mp isRow with rfl | later
      · refine ⟨clock index, ?_⟩
        rw [addAttempts_createdAt_of_lt
          (by rw [nextRowid_addDecision]; exact Int.lt_succ _)]
        exact Function.update_self _ _ _
      · apply ih
        rwa [nextRowid_addDecision]

end Rows

end DecisionBatch

theorem storedScore_isFinite {value : PyObject} (finite : FiniteScore value)
    {score : PyFloat} (stored : storedScore value = some score) :
    score.isFinite = true := by
  cases value with
  | int number =>
      obtain rfl := Option.some.inj stored
      rfl
  | float number =>
      obtain rfl := Option.some.inj stored
      exact finite
  | none | bool | str | list | mapping | other => cases stored

theorem PersistRequest.Prepares.finiteScores {request : PersistRequest}
    {batch : DecisionBatch} (prepares : request.Prepares batch) :
    ∀ attempt ∈ batch.attempts, FiniteScore attempt.score :=
  forall_score_of_validated prepares.attempts fun attempt isGiven =>
    (prepares.acceptable attempt isGiven).scoreFinite

namespace DecisionStore

section Steps

/-- The log after a step, read off the decisions after it. -/
theorem grows_of_decisionsContinue {before after : DecisionStore}
    {added : List DecisionRow}
    (continues : before.database.DecisionsContinue after.database added)
    (timesKept : ∀ id ∈ before.decisionIds,
      after.createdAt id = before.createdAt id)
    (increasing : Increasing (·.id) added)
    (above : ∀ id ∈ before.decisionIds, ∀ row ∈ added, id < row.id) :
    Grows (·.row.id) LoggedDecision.Continues
      (fun entry => entry.row.itemId ∈ after.database.itemIds)
      before.log after.log (added.map after.stamp) where
  kept := by
    obtain ⟨change, changeContinues, decisionsEq⟩ := continues
    refine ⟨fun entry => ⟨change entry.row, entry.createdAt⟩,
      fun entry => ⟨changeContinues entry.row, rfl⟩, ?_⟩
    rw [log, decisionsEq, List.map_append, log, List.filter_map,
      List.map_map, List.map_map]
    congr 1
    apply List.map_congr_left
    intro row isKept
    have stored : row.id ∈ before.decisionIds :=
      List.mem_map_of_mem (List.mem_filter.mp isKept).1
    simp only [Function.comp_apply, stamp, (changeContinues row).id,
      timesKept row.id stored]
  increasing := List.pairwise_map.mpr increasing
  above := by
    intro entry isOld new isNew
    obtain ⟨row, stored, rfl⟩ := List.mem_map.mp isOld
    obtain ⟨other, isAdded, rfl⟩ := List.mem_map.mp isNew
    exact above row.id (List.mem_map_of_mem stored) other isAdded

/-- The operation added entries that can be read and left a consistent
store. -/
structure Logs (before after : DecisionStore) (added : List LoggedDecision) :
    Prop where
  grows : Grows (·.row.id) LoggedDecision.Continues
    (fun entry => entry.row.itemId ∈ after.database.itemIds)
    before.log after.log added
  readable : ∀ entry ∈ added, entry.Readable
  consistent : after.database.Consistent

variable {store : DecisionStore}

theorem logs_nothing (consistent : store.database.Consistent) :
    Logs store store [] where
  grows := grows_of_decisionsContinue
    (consistent.decisionsContinue_of_same rfl fun _ => id) (fun _ _ => rfl)
    List.Pairwise.nil (fun _ _ _ absent => absurd absent List.not_mem_nil)
  readable := fun _ absent => absurd absent List.not_mem_nil
  consistent := consistent

/-- Adding the rows of a batch continues the decisions there are. -/
theorem decisionsContinue_addAttempts
    (consistent : store.database.Consistent) (batch : DecisionBatch)
    (clock : Nat → WallTime) (attempts : List ValidatedAttempt) :
    store.database.DecisionsContinue
      (batch.addAttempts clock 0 attempts store).database
      (batch.rows (nextRowid store.decisionIds) attempts) := by
  rw [DecisionBatch.addAttempts_database]
  refine consistent.decisionsContinue_of_items DecisionRow.Continues.refl ?_
    fun _ => id
  rw [List.map_id']

/-- Adding the rows of a batch whose references resolve keeps the store
consistent. -/
theorem consistent_addAttempts (consistent : store.database.Consistent)
    {batch : DecisionBatch} (clock : Nat → WallTime)
    {attempts : List ValidatedAttempt}
    (inserts : ∀ attempt ∈ attempts, batch.Inserts store.database attempt) :
    (batch.addAttempts clock 0 attempts store).database.Consistent := by
  have resolves : ∀ row ∈ batch.rows (nextRowid store.decisionIds) attempts,
      row.itemId = batch.itemId ∧ row.clusterId = batch.clusterId ∧
        row.candidateItemId = batch.candidateItemId ∧
        batch.Resolves store.database := by
    intro row isRow
    obtain ⟨-, attempt, isAttempt, same⟩ := DecisionBatch.mem_rows isRow
    rw [same]
    exact ⟨rfl, rfl, rfl, (inserts attempt isAttempt).2⟩
  rw [DecisionBatch.addAttempts_database]
  refine consistent.addDecisions ?_ ?_ ?_
  · intro row isRow
    obtain ⟨same, -, -, resolved⟩ := resolves row isRow
    exact same ▸ resolved.1
  · intro row isRow
    obtain ⟨-, same, -, resolved⟩ := resolves row isRow
    exact same ▸ resolved.2.1
  · intro row isRow
    obtain ⟨-, -, same, resolved⟩ := resolves row isRow
    exact same ▸ resolved.2.2

/-- A call of `persist_attempts` logs all attempts or nothing. -/
theorem logs_persistAttempts (consistent : store.database.Consistent)
    (clock : Nat → WallTime) (request : PersistRequest) :
    ∃ added, Logs store
      (atomically (persistAttempts clock request) store).2 added := by
  rcases persistAttempts_cases clock request store with
    ⟨problem, raised⟩ | ⟨batch, prepares, inserts, executed⟩
  · rw [raised]
    exact ⟨[], logs_nothing consistent⟩
  · rw [executed]
    refine ⟨_, grows_of_decisionsContinue
      (decisionsContinue_addAttempts consistent batch clock batch.attempts) ?_
      (DecisionBatch.rows_increasing _) ?_, ?_,
      consistent_addAttempts consistent clock inserts⟩
    · intro id used
      exact DecisionBatch.addAttempts_createdAt_of_lt (lt_nextRowid used)
    · intro id used row isRow
      exact lt_of_lt_of_le (lt_nextRowid used)
        (DecisionBatch.mem_rows isRow).1
    · intro entry isEntry
      obtain ⟨row, isRow, rfl⟩ := List.mem_map.mp isEntry
      obtain ⟨-, attempt, isAttempt, same⟩ := DecisionBatch.mem_rows isRow
      refine ⟨fun score stored => ?_,
        DecisionBatch.addAttempts_createdAt_of_mem isRow⟩
      refine storedScore_isFinite (prepares.finiteScores attempt isAttempt) ?_
      rw [← stored]
      exact (congrArg DecisionRow.score same).symm

/-- An operation on the dedupe state logs a merge or nothing. -/
theorem logs_dedupe (consistent : store.database.Consistent)
    (clock : Nat → WallTime) (operation : DedupeOperation) :
    ∃ added, Logs store
      ((DecisionOperation.dedupe operation).execute clock store) added := by
  obtain ⟨added, continues, addedCases⟩ :=
    consistent.decisionsContinue_execute operation
  have isEvent : ∀ row ∈ added, store.database.IsEvent row := by
    intro row isRow
    rcases addedCases with rfl | ⟨event, rfl, isEvent⟩
    · cases isRow
    · rwa [List.mem_singleton.mp isRow]
  have increasing : Increasing (·.id) added := by
    rcases addedCases with rfl | ⟨event, rfl, -⟩
    · exact List.Pairwise.nil
    · exact List.pairwise_singleton _ _
  refine ⟨_, grows_of_decisionsContinue continues ?_ increasing ?_, ?_,
    consistent.execute operation⟩
  · intro id used
    exact if_neg fun new => new.2 used
  · intro id used row isRow
    rw [(isEvent row isRow).id]
    exact lt_nextRowid used
  · intro entry isEntry
    obtain ⟨row, isRow, rfl⟩ := List.mem_map.mp isEntry
    have event := isEvent row isRow
    have stored : row ∈ (operation.execute store.database).dedupeDecisions := by
      obtain ⟨change, -, decisionsEq⟩ := continues
      rw [show (operation.execute store.database).dedupeDecisions = _ from
        decisionsEq]
      exact List.mem_append_right _ isRow
    have fresh : row.id ∉ store.decisionIds := by
      rw [event.id]
      exact nextRowid_notMem _
    refine ⟨fun score isScore => ?_, clock 0,
      if_pos ⟨List.mem_map_of_mem stored, fresh⟩⟩
    change row.score = some score at isScore
    rw [event.score] at isScore
    cases isScore

theorem logs_execute (consistent : store.database.Consistent)
    (clock : Nat → WallTime) (operation : DecisionOperation) :
    ∃ added, Logs store (operation.execute clock store) added := by
  cases operation with
  | persistAttempts request =>
      exact logs_persistAttempts consistent clock request
  | dedupe operation => exact logs_dedupe consistent clock operation

end Steps

end DecisionStore

section Reading

/-- The record shows the entry, perhaps without its references to clusters
and candidates that are gone. -/
structure LoggedDecision.ShownBy (entry : LoggedDecision)
    (record : DedupeDecisionRecord) : Prop where
  decisionId : record.decisionId = entry.row.id
  itemId : record.itemId = entry.row.itemId
  clusterId : record.clusterId = entry.row.clusterId ∨
    record.clusterId = none
  candidateItemId : record.candidateItemId = entry.row.candidateItemId ∨
    record.candidateItemId = none
  strategyName : record.strategyName = entry.row.strategyName
  outcome : record.outcome = entry.row.outcome
  reasonCode : record.reasonCode = entry.row.reasonCode
  score : record.score = entry.row.score
  metadataJson : record.metadataJson = entry.row.metadataJson
  createdAt : parseDatetime entry.createdAt "created_at" =
    .ok record.createdAt

variable {store : DecisionStore} {row : DecisionRow}

theorem coerceOptionalFloat_eq_ok {value score : Option PyFloat}
    {field : String} (read : coerceOptionalFloat value field = .ok score) :
    score = value := by
  cases value with
  | none => exact (Except.ok.inj read).symm
  | some number =>
      rw [coerceOptionalFloat, coerceFinite] at read
      split at read
      · exact (Except.ok.inj read).symm
      · cases read

theorem parseDatetime_currentTimestamp (now : WallTime) (field : String) :
    ∃ time, parseDatetime (currentTimestamp now) field = .ok time := by
  rw [parseDatetime, currentTimestamp, fromisoformat_isoformat]
  exact ⟨_, rfl⟩

theorem LoggedDecision.Readable.decodes
    (readable : (store.stamp row).Readable) :
    ∃ record, store.decodeDecisionRow row = .ok record := by
  have scoreRead : coerceOptionalFloat row.score "score" = .ok row.score := by
    cases stored : row.score with
    | none => rfl
    | some score => exact if_pos (readable.score score stored)
  obtain ⟨now, stamped⟩ := readable.createdAt
  obtain ⟨time, parsed⟩ := parseDatetime_currentTimestamp now "created_at"
  rw [DecisionStore.decodeDecisionRow, scoreRead,
    show store.createdAt row.id = currentTimestamp now from stamped, parsed]
  exact ⟨_, rfl⟩

theorem LoggedDecision.Continues.shownBy {entry : LoggedDecision}
    (continues : entry.Continues (store.stamp row))
    {record : DedupeDecisionRecord}
    (decoded : store.decodeDecisionRow row = .ok record) :
    entry.ShownBy record := by
  unfold DecisionStore.decodeDecisionRow at decoded
  obtain ⟨score, scoreRead, decoded⟩ := bind_eq_ok decoded
  obtain ⟨createdAt, timeRead, decoded⟩ := bind_eq_ok decoded
  obtain rfl := Except.ok.inj decoded
  obtain rfl := coerceOptionalFloat_eq_ok scoreRead
  have same := continues.row
  exact ⟨same.id, same.itemId, same.clusterId, same.candidateItemId,
    same.strategyName, same.outcome, same.reasonCode, same.score,
    same.metadataJson, continues.createdAt ▸ timeRead⟩

end Reading

namespace TrackedStore

section Runs

/-- The store is consistent, its log can be read, and the log is what is left
of the history. -/
structure Sound (tracked : TrackedStore) : Prop where
  consistent : tracked.store.database.Consistent
  readable : ∀ entry ∈ tracked.store.log, entry.Readable
  tracks : Tracks (·.row.id) LoggedDecision.Continues tracked.history
    tracked.store.log

/-- `list_for_item` reads the stored decisions of the item, which show what is
left of its history in the order of insertion. -/
def ReadsBack (tracked : TrackedStore) (itemId : Int) : Prop :=
  ∃ records, tracked.store.listForItem itemId = .ok records ∧
    (tracked.store.database.dedupeDecisions.filter
      fun row => row.itemId = itemId).mapM
        tracked.store.decodeDecisionRow = .ok records ∧
    List.Forall₂ LoggedDecision.ShownBy
      (tracked.history.filter fun entry => entry.row.itemId = itemId)
      records

/-- A store without decisions, with an empty history. -/
theorem sound_of_empty {store : DecisionStore}
    (consistent : store.database.Consistent)
    (empty : store.database.dedupeDecisions = []) :
    Sound ⟨store, []⟩ where
  consistent := consistent
  readable := by
    rw [DecisionStore.log, empty]
    exact fun _ absent => absurd absent List.not_mem_nil
  tracks := by
    rw [DecisionStore.log, empty]
    exact ⟨List.Pairwise.nil, .nil⟩

variable {tracked : TrackedStore}

/-- Every operation keeps the log readable and in step with the history. -/
theorem Sound.execute (sound : tracked.Sound)
    (step : (Nat → WallTime) × DecisionOperation) :
    (tracked.execute step).Sound := by
  obtain ⟨added, logs⟩ :=
    DecisionStore.logs_execute sound.consistent step.1 step.2
  refine ⟨logs.consistent, ?_, ?_⟩
  · obtain ⟨change, continues, logEq⟩ := logs.grows.kept
    intro entry isEntry
    change entry ∈ (step.2.execute step.1 tracked.store).log at isEntry
    rw [logEq] at isEntry
    rcases List.mem_append.mp isEntry with isOld | isNew
    · obtain ⟨original, isKept, rfl⟩ := List.mem_map.mp isOld
      have before := sound.readable original (List.mem_filter.mp isKept).1
      have same := continues original
      exact ⟨fun score stored => before.score score
        (same.row.score ▸ stored), same.createdAt ▸ before.createdAt⟩
    · exact logs.readable entry isNew
  · exact Tracks.step (fun _ _ same => same.row.id)
      LoggedDecision.Continues.refl (fun _ _ _ => .trans)
      (fun _ _ same => by rw [same.row.itemId]) sound.tracks logs.grows

/-- In a sound state the decisions of an item are read back as they were
inserted. -/
theorem Sound.listForItem (sound : tracked.Sound) {itemId : Int}
    (bound : IsSqlInteger itemId) : tracked.ReadsBack itemId := by
  have increasing : Increasing (·.id)
      tracked.store.database.dedupeDecisions := by
    have ordered := sound.tracks.increasing
    rw [DecisionStore.log, Increasing, List.pairwise_map] at ordered
    exact ordered
  have continued := @Tracks.continued_filter _ _ _ _ _
    (fun entry : LoggedDecision => decide (entry.row.itemId = itemId))
    sound.tracks (fun _ _ same => by rw [same.row.itemId])
  rw [DecisionStore.log, List.filter_map, List.forall₂_map_right_iff]
    at continued
  obtain ⟨records, decoded, matched⟩ := mapM_of_forall₂ continued
    (fun row isRow => (sound.readable _ (List.mem_map_of_mem
      (List.mem_filter.mp isRow).1)).decodes)
  refine ⟨records, ?_, decoded, matched.imp ?_⟩
  · rw [DecisionStore.listForItem, if_pos bound,
      increasing.orderBy_filter]
    exact decoded
  · rintro entry record ⟨row, continues, isDecoded⟩
    exact continues.shownBy isDecoded

end Runs

end TrackedStore

section Explainability

/-- The attempts are accepted for every existing item, with a cluster and a
candidate that exist if they are given and with any JSON metadata. -/
def DecisionStore.AcceptsTrace (store : DecisionStore)
    (attempts : List StrategyDecisionAttempt) : Prop :=
  ∀ (clock : Nat → WallTime) (itemId : Int)
    (clusterId candidateItemId : Option Int)
    (metadata : Option (List (PyKey × PyObject)))
    (metadataJson : Option PyValue),
    itemId ∈ store.database.itemIds →
    Database.ResolvesIn store.database.clusterIds clusterId →
    Database.ResolvesIn store.database.itemIds candidateItemId →
    encodeMetadata metadata = .ok metadataJson →
    ∃ insertedIds, (atomically (persistAttempts clock ⟨.int itemId,
      optionalInt clusterId, optionalInt candidateItemId,
      attempts.map (·.given), metadata⟩) store).1 = .ok insertedIds

/-- Explanations are complete and ordered: the trace of every chain with
visible names is accepted, a call stores a row for every attempt or changes
nothing, and along every run the decisions of an item are read back in the
order of their insertion. -/
theorem explainability_complete_and_ordered :
    (∀ (repr : String → String) (strategies : List (String × StrategyCall))
      (result : StrategyResult) (attempts : List StrategyDecisionAttempt),
      (∀ strategy ∈ strategies, pythonStrip strategy.1 ≠ "") →
      executeStrategyChainWithTrace repr strategies =
        .ok (result, attempts) →
      ∀ store : DecisionStore, store.database.Consistent →
        store.AcceptsTrace attempts) ∧
    (∀ (clock : Nat → WallTime) (request : PersistRequest)
      (store : DecisionStore),
      (match atomically (persistAttempts clock request) store with
        | (.error _, after) => after = store
        | (.ok insertedIds, after) =>
            request.StoredIn store after insertedIds) ∧
      (¬ request.Valid →
        (atomically (persistAttempts clock request) store).2 = store)) ∧
    ∀ (start : DecisionStore) (itemId : Int)
      (steps : List ((Nat → WallTime) × DecisionOperation)),
      start.database.Consistent → start.database.dedupeDecisions = [] →
      IsSqlInteger itemId →
      (run TrackedStore.execute steps ⟨start, []⟩).ReadsBack itemId := by
  refine ⟨?_, ?_, ?_⟩
  · intro repr strategies result attempts named returned store consistent
      clock itemId clusterId candidateItemId metadata metadataJson itemStored
      clusterStored candidateStored encoded
    exact persistAttempts_trace
      (executeStrategyChainWithTrace_recordable named returned) consistent
      itemStored clusterStored candidateStored encoded clock
  · intro clock request store
    exact ⟨persistAttempts_stores clock request store,
      fun invalid => persistAttempts_of_invalid invalid clock store⟩
  · intro start itemId steps consistent empty bound
    have always : Always TrackedStore.execute TrackedStore.Sound steps
        ⟨start, []⟩ :=
      always_of_preserved TrackedStore.execute
        (fun step _ sound => sound.execute step) steps
        (TrackedStore.sound_of_empty consistent empty)
    exact (always steps (List.prefix_refl steps)).listForItem bound

/-- The sample store, with no decisions yet. -/
def sampleDecisionStore : DecisionStore :=
  ⟨Database.sampleStore, fun _ => ""⟩

/-- Two strategies, of which the first abstains. -/
def sampleChain : List (String × StrategyCall) :=
  [("exact_url", Except.ok (.mapping [(.str "status", .str "ABSTAIN"),
      (.str "reason", .str "no_url")])),
    ("content_hash", Except.ok (.mapping [(.str "status", .str "DUPLICATE"),
      (.str "reason", .str " same_hash "),
      (.str "score", .float (.finite 1))]))]

/-- The trace of the sample chain. -/
def sampleTrace : List StrategyDecisionAttempt :=
  [⟨"exact_url", "ABSTAIN", "no_url", none⟩,
    ⟨"content_hash", "DUPLICATE", "same_hash", some (.finite 1)⟩]

/-- The trace is persisted for two items, their clusters are merged and the
channel of the first item is purged. -/
def sampleSteps : List ((Nat → WallTime) × DecisionOperation) :=
  [(fun _ => ⟨0, wallLimit_pos⟩, .persistAttempts ⟨.int 1, .int 1, .int 2,
      sampleTrace.map (·.given), none⟩),
    (fun _ => ⟨0, wallLimit_pos⟩, .persistAttempts ⟨.int 2, .int 2, .int 1,
      sampleTrace.map (·.given), some [(.str "run", .int 7)]⟩),
    (fun _ => ⟨0, wallLimit_pos⟩, .dedupe (.merge [.int 1, .int 2])),
    (fun _ => ⟨0, wallLimit_pos⟩, .dedupe (.purge 1))]

theorem sampleChain_returns :
    ∃ result, executeStrategyChainWithTrace id sampleChain =
      .ok (result, sampleTrace) := by
  exact ⟨_, rfl⟩

/-- The sample chain is accepted for an item of the sample store, and the
decisions of the other item are read back after a merge and a purge. -/
theorem explained_sample :
    (∀ strategy ∈ sampleChain, pythonStrip strategy.1 ≠ "") ∧
      sampleDecisionStore.database.Consistent ∧
      sampleDecisionStore.database.dedupeDecisions = [] ∧ IsSqlInteger 2 ∧
      sampleDecisionStore.AcceptsTrace sampleTrace ∧
      (run TrackedStore.execute sampleSteps
        ⟨sampleDecisionStore, []⟩).ReadsBack 2 := by
  have named : ∀ strategy ∈ sampleChain, pythonStrip strategy.1 ≠ "" := by
    decide
  have consistent : sampleDecisionStore.database.Consistent :=
    Database.sampleStore_consistent
  obtain ⟨result, returned⟩ := sampleChain_returns
  obtain ⟨accepted, -, readBack⟩ := explainability_complete_and_ordered
  exact ⟨named, consistent, rfl, by decide,
    accepted id sampleChain result sampleTrace named returned
      sampleDecisionStore consistent,
    readBack sampleDecisionStore 2 sampleSteps consistent rfl (by decide)⟩

end Explainability

end Tca
