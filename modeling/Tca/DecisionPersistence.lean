import Tca.DecisionLog

/-!
# Persisting decision attempts

The checks of `persist_attempts` accept exactly the attempts whose texts are
not blank and whose scores are finite.  The file shows that a call stores a
row for every attempt or leaves the store as it was, and that the trace of a
strategy chain is accepted.
-/

namespace Tca

open TableRows Transaction

section Validation

/-- The score is absent or converts to a finite float. -/
def FiniteScore : PyObject → Prop
  | .none => True
  | .int number => (roundToDouble number).natAbs < 2 ^ 1024
  | .float number => number.isFinite = true
  | _ => False

/-- The object is a text that is not blank. -/
def VisibleText (value : PyObject) : Prop :=
  ∃ text, value = .str text ∧ pythonStrip text ≠ ""

/-- What the checks ask of an attempt. -/
structure GivenAttempt.Acceptable (attempt : GivenAttempt) : Prop where
  nameVisible : VisibleText attempt.strategyName
  outcomeVisible : VisibleText attempt.outcome
  reasonVisible : VisibleText attempt.reason
  scoreFinite : FiniteScore attempt.score

/-- The validated attempt is the one that was given. -/
structure GivenAttempt.IsValidated (attempt : GivenAttempt)
    (validated : ValidatedAttempt) : Prop where
  strategyName : attempt.strategyName = .str validated.strategyName
  outcome : attempt.outcome = .str validated.outcome
  reason : attempt.reason = .str validated.reason
  score : validated.score = attempt.score

theorem coerceNonEmptyStr_eq_ok_iff {value : PyObject} {field text : String} :
    coerceNonEmptyStr value field = .ok text ↔
      value = .str text ∧ pythonStrip text ≠ "" := by
  unfold coerceNonEmptyStr
  constructor
  · intro coerced
    split at coerced
    · split at coerced
      · cases coerced
      · rename_i visible
        obtain rfl := Except.ok.inj coerced
        exact ⟨rfl, visible⟩
    · cases coerced
  · rintro ⟨rfl, visible⟩
    exact if_neg visible

theorem coerceOptionalFiniteFloat_isOk_iff {value : PyObject}
    (field : String) :
    (∃ score, coerceOptionalFiniteFloat value field = .ok score) ↔
      FiniteScore value := by
  cases value with
  | none => exact iff_of_true ⟨none, rfl⟩ trivial
  | int number =>
      simp only [coerceOptionalFiniteFloat, FiniteScore, floatOfInt]
      split
      · exact iff_of_true ⟨_, rfl⟩ ‹_›
      · refine iff_of_false ?_ ‹_›
        rintro ⟨score, coerced⟩
        cases coerced
  | float number =>
      simp only [coerceOptionalFiniteFloat, FiniteScore, coerceFinite]
      split
      · exact iff_of_true ⟨_, rfl⟩ ‹_›
      · refine iff_of_false ?_ ‹_›
        rintro ⟨score, coerced⟩
        cases coerced
  | bool | str | list | mapping | other =>
      refine iff_of_false ?_ id
      rintro ⟨score, coerced⟩
      cases coerced

/-- The loop hands on the attempts it was given, all of them acceptable. -/
theorem validateAttempts_eq_ok {index : Nat} {attempts : List GivenAttempt}
    {validated : List ValidatedAttempt}
    (returned : validateAttempts index attempts = .ok validated) :
    (∀ attempt ∈ attempts, attempt.Acceptable) ∧
      List.Forall₂ GivenAttempt.IsValidated attempts validated := by
  induction attempts generalizing index validated with
  | nil =>
      obtain rfl := Except.ok.inj returned
      exact ⟨fun _ absent => absurd absent List.not_mem_nil, .nil⟩
  | cons attempt attempts ih =>
      unfold validateAttempts at returned
      obtain ⟨strategyName, nameRead, returned⟩ := bind_eq_ok returned
      obtain ⟨outcome, outcomeRead, returned⟩ := bind_eq_ok returned
      obtain ⟨reason, reasonRead, returned⟩ := bind_eq_ok returned
      obtain ⟨score, scoreRead, returned⟩ := bind_eq_ok returned
      obtain ⟨others, othersRead, returned⟩ := bind_eq_ok returned
      obtain rfl := Except.ok.inj returned
      have nameIs := coerceNonEmptyStr_eq_ok_iff.mp nameRead
      have outcomeIs := coerceNonEmptyStr_eq_ok_iff.mp outcomeRead
      have reasonIs := coerceNonEmptyStr_eq_ok_iff.mp reasonRead
      obtain ⟨acceptable, validates⟩ := ih othersRead
      refine ⟨List.forall_mem_cons.mpr ⟨⟨⟨_, nameIs⟩, ⟨_, outcomeIs⟩,
        ⟨_, reasonIs⟩, ?_⟩, acceptable⟩, .cons ?_ validates⟩
      · exact (coerceOptionalFiniteFloat_isOk_iff _).mp ⟨score, scoreRead⟩
      · exact ⟨nameIs.1, outcomeIs.1, reasonIs.1, rfl⟩

/-- What holds of the given scores holds of the validated ones. -/
theorem forall_score_of_validated {attempts : List GivenAttempt}
    {validated : List ValidatedAttempt} {property : PyObject → Prop}
    (validates : List.Forall₂ GivenAttempt.IsValidated attempts validated)
    (holds : ∀ attempt ∈ attempts, property attempt.score) :
    ∀ attempt ∈ validated, property attempt.score := by
  induction validates with
  | nil => exact fun _ absent => absurd absent List.not_mem_nil
  | cons same others ih =>
      obtain ⟨first, later⟩ := List.forall_mem_cons.mp holds
      exact List.forall_mem_cons.mpr ⟨same.score ▸ first, ih later⟩

theorem validateAttempts_isOk {attempts : List GivenAttempt}
    (acceptable : ∀ attempt ∈ attempts, attempt.Acceptable) (index : Nat) :
    ∃ validated, validateAttempts index attempts = .ok validated := by
  induction attempts generalizing index with
  | nil => exact ⟨[], rfl⟩
  | cons attempt attempts ih =>
      obtain ⟨first, later⟩ := List.forall_mem_cons.mp acceptable
      obtain ⟨strategyName, nameIs⟩ := first.nameVisible
      obtain ⟨outcome, outcomeIs⟩ := first.outcomeVisible
      obtain ⟨reason, reasonIs⟩ := first.reasonVisible
      obtain ⟨score, scoreRead⟩ :=
        (coerceOptionalFiniteFloat_isOk_iff
          s!"decision_attempts[{index}].score").mpr first.scoreFinite
      obtain ⟨others, othersRead⟩ := ih later (index + 1)
      refine ⟨⟨strategyName, outcome, reason, attempt.score⟩ :: others, ?_⟩
      rw [validateAttempts, coerceNonEmptyStr_eq_ok_iff.mpr nameIs,
        coerceNonEmptyStr_eq_ok_iff.mpr outcomeIs,
        coerceNonEmptyStr_eq_ok_iff.mpr reasonIs, scoreRead, othersRead]
      rfl

end Validation

namespace DecisionBatch

section Insertion

variable (batch : DecisionBatch)

/-- The rows of the attempts under consecutive ids. -/
def rows : Int → List ValidatedAttempt → List DecisionRow
  | _, [] => []
  | id, attempt :: attempts => batch.row id attempt :: rows (id + 1) attempts

/-- The store with a row for each of the attempts. -/
def addAttempts (clock : Nat → WallTime) :
    Nat → List ValidatedAttempt → DecisionStore → DecisionStore
  | _, [], store => store
  | index, attempt :: attempts, store =>
      addAttempts clock (index + 1) attempts
        (store.addDecision (clock index)
          (batch.row (nextRowid store.decisionIds) attempt))

/-- The row of the attempt can be inserted. -/
def Inserts (db : Database) (attempt : ValidatedAttempt) : Prop :=
  ((∀ id ∈ batch.references, IsSqlInteger id) ∧ ScoreBinds attempt.score) ∧
    batch.Resolves db

theorem nextRowid_addDecision (store : DecisionStore) (now : WallTime)
    (attempt : ValidatedAttempt) :
    nextRowid (store.addDecision now
        (batch.row (nextRowid store.decisionIds) attempt)).decisionIds =
      nextRowid store.decisionIds + 1 := by
  rw [← nextRowid_append]
  simp [DecisionStore.decisionIds, DecisionStore.addDecision, row]

variable {batch} {session : Session DecisionStore}

theorem run_insertAttempt {now : WallTime} {attempt : ValidatedAttempt}
    (inserts : batch.Inserts session.current.database attempt) :
    (batch.insertAttempt now attempt).run session =
      (.ok (nextRowid session.current.decisionIds),
        ⟨session.committed, session.current.addDecision now
          (batch.row (nextRowid session.current.decisionIds) attempt)⟩) := by
  rw [insertAttempt, run_require_bind, if_pos inserts.1, run_query_bind,
    run_require_bind, if_pos inserts.2]
  rfl

theorem run_insertAttempt_refused {now : WallTime}
    {attempt : ValidatedAttempt}
    (refused : ¬ batch.Inserts session.current.database attempt) :
    ∃ problem, (batch.insertAttempt now attempt).run session =
      (.error problem, session) := by
  rw [insertAttempt, run_require_bind]
  split
  · rename_i bound
    rw [run_query_bind, run_require_bind,
      if_neg fun resolves => refused ⟨bound, resolves⟩]
    exact ⟨_, rfl⟩
  · exact ⟨_, rfl⟩

variable {clock : Nat → WallTime} {attempts : List ValidatedAttempt}

/-- The loop stores a row for each attempt if every one can be inserted. -/
theorem run_insertAttempts {index : Nat}
    (inserts : ∀ attempt ∈ attempts,
      batch.Inserts session.current.database attempt) :
    (batch.insertAttempts clock index attempts).run session =
      (.ok ((batch.rows (nextRowid session.current.decisionIds)
          attempts).map (·.id)),
        ⟨session.committed,
          batch.addAttempts clock index attempts session.current⟩) := by
  induction attempts generalizing index session with
  | nil => rfl
  | cons attempt attempts ih =>
      obtain ⟨first, others⟩ := List.forall_mem_cons.mp inserts
      have rest := @ih ⟨session.committed, session.current.addDecision
        (clock index) (batch.row (nextRowid session.current.decisionIds)
          attempt)⟩ (index + 1) others
      rw [insertAttempts, run_bind, run_insertAttempt first]
      dsimp only
      rw [run_bind, rest]
      simp only [run_pure, nextRowid_addDecision]
      rfl

/-- Otherwise it raises with nothing committed. -/
theorem run_insertAttempts_refused {index : Nat}
    (refused : ¬ ∀ attempt ∈ attempts,
      batch.Inserts session.current.database attempt) :
    ∃ problem view, (batch.insertAttempts clock index attempts).run session =
      (.error problem, ⟨session.committed, view⟩) := by
  induction attempts generalizing index session with
  | nil => exact (refused fun _ absent => absurd absent List.not_mem_nil).elim
  | cons attempt attempts ih =>
      by_cases first : batch.Inserts session.current.database attempt
      · have later : ¬ ∀ other ∈ attempts,
            batch.Inserts session.current.database other := fun others =>
          refused (List.forall_mem_cons.mpr ⟨first, others⟩)
        obtain ⟨problem, view, raised⟩ := @ih ⟨session.committed,
          session.current.addDecision (clock index)
            (batch.row (nextRowid session.current.decisionIds) attempt)⟩
          (index + 1) later
        refine ⟨problem, view, ?_⟩
        rw [insertAttempts, run_bind, run_insertAttempt first]
        dsimp only
        rw [run_bind, raised]
      · obtain ⟨problem, raised⟩ := run_insertAttempt_refused first
        exact ⟨problem, session.current, by
          rw [insertAttempts, run_bind, raised]⟩

theorem addAttempts_database (index : Nat) (store : DecisionStore) :
    (batch.addAttempts clock index attempts store).database =
      { store.database with
        dedupeDecisions := store.database.dedupeDecisions ++
          batch.rows (nextRowid store.decisionIds) attempts } := by
  induction attempts generalizing index store with
  | nil => simp [addAttempts, rows]
  | cons attempt attempts ih =>
      rw [addAttempts, ih, nextRowid_addDecision]
      simp [DecisionStore.addDecision, rows]

end Insertion

end DecisionBatch

section Calls

/-- The optional reference as a caller hands it over. -/
def optionalInt : Option Int → PyObject
  | none => .none
  | some value => .int value

theorem coerceWriteInt_eq_ok_iff {value : PyObject} {field : String}
    {number : Int} :
    coerceWriteInt value field = .ok number ↔ value = .int number := by
  cases value <;> simp [coerceWriteInt]

theorem coerceOptionalWriteInt_eq_ok_iff {value : PyObject} {field : String}
    {reference : Option Int} :
    coerceOptionalWriteInt value field = .ok reference ↔
      value = optionalInt reference := by
  cases value <;> cases reference <;>
    simp [coerceOptionalWriteInt, coerceWriteInt, optionalInt, Except.map]

/-- The request passes the checks with the batch as its result. -/
structure PersistRequest.Prepares (request : PersistRequest)
    (batch : DecisionBatch) : Prop where
  itemId : request.itemId = .int batch.itemId
  clusterId : request.clusterId = optionalInt batch.clusterId
  candidateItemId :
    request.candidateItemId = optionalInt batch.candidateItemId
  acceptable : ∀ attempt ∈ request.decisionAttempts, attempt.Acceptable
  attempts : List.Forall₂ GivenAttempt.IsValidated request.decisionAttempts
    batch.attempts
  metadata : batch.attempts ≠ [] →
    encodeMetadata request.metadata = .ok batch.metadataJson

theorem PersistRequest.prepare_eq_ok {request : PersistRequest}
    {batch : DecisionBatch} (prepared : request.prepare = .ok batch) :
    request.Prepares batch := by
  unfold prepare at prepared
  obtain ⟨itemId, itemRead, prepared⟩ := bind_eq_ok prepared
  obtain ⟨clusterId, clusterRead, prepared⟩ := bind_eq_ok prepared
  obtain ⟨candidateItemId, candidateRead, prepared⟩ := bind_eq_ok prepared
  obtain ⟨attempts, attemptsRead, prepared⟩ := bind_eq_ok prepared
  obtain ⟨metadataJson, metadataRead, prepared⟩ := bind_eq_ok prepared
  obtain rfl := Except.ok.inj prepared
  obtain ⟨acceptable, validated⟩ := validateAttempts_eq_ok attemptsRead
  refine ⟨coerceWriteInt_eq_ok_iff.mp itemRead,
    coerceOptionalWriteInt_eq_ok_iff.mp clusterRead,
    coerceOptionalWriteInt_eq_ok_iff.mp candidateRead, acceptable, validated,
    fun nonempty => ?_⟩
  rwa [if_neg (by simpa using nonempty)] at metadataRead

/-- Acceptable attempts with references and metadata of the right kind pass
the checks. -/
theorem PersistRequest.prepare_isOk {itemId : Int}
    {clusterId candidateItemId : Option Int} {attempts : List GivenAttempt}
    {metadata : Option (List (PyKey × PyObject))}
    {metadataJson : Option PyValue}
    (acceptable : ∀ attempt ∈ attempts, attempt.Acceptable)
    (encoded : encodeMetadata metadata = .ok metadataJson) :
    ∃ batch, PersistRequest.prepare ⟨.int itemId, optionalInt clusterId,
        optionalInt candidateItemId, attempts, metadata⟩ = .ok batch ∧
      batch.itemId = itemId ∧ batch.clusterId = clusterId ∧
      batch.candidateItemId = candidateItemId := by
  obtain ⟨validated, validates⟩ := validateAttempts_isOk acceptable 0
  rw [prepare, coerceWriteInt_eq_ok_iff.mpr rfl,
    coerceOptionalWriteInt_eq_ok_iff.mpr rfl,
    coerceOptionalWriteInt_eq_ok_iff.mpr rfl, validates, encoded]
  cases validated with
  | nil => exact ⟨⟨_, _, _, [], none⟩, rfl, rfl, rfl, rfl⟩
  | cons first others =>
      exact ⟨⟨_, _, _, first :: others, metadataJson⟩, rfl, rfl, rfl, rfl⟩

variable {clock : Nat → WallTime} {request : PersistRequest}
  {batch : DecisionBatch} {store : DecisionStore}

theorem persistAttempts_of_error {problem : PyError}
    (refused : request.prepare = .error problem) :
    atomically (persistAttempts clock request) store =
      (.error problem, store) := by
  rw [persistAttempts, refused]
  rfl

/-- A call whose rows can all be inserted stores them. -/
theorem persistAttempts_of_inserts (prepared : request.prepare = .ok batch)
    (inserts : ∀ attempt ∈ batch.attempts,
      batch.Inserts store.database attempt) :
    atomically (persistAttempts clock request) store =
      (.ok ((batch.rows (nextRowid store.decisionIds) batch.attempts).map
          (·.id)),
        batch.addAttempts clock 0 batch.attempts store) := by
  rw [persistAttempts, prepared]
  dsimp only
  split
  · rename_i empty
    rw [List.isEmpty_iff.mp empty]
    rfl
  · rw [atomically, run_bind, @DecisionBatch.run_insertAttempts batch
      ⟨store, store⟩ clock batch.attempts 0 inserts]
    rfl

/-- A call with a row that cannot be inserted leaves the store as it was. -/
theorem persistAttempts_of_refused (prepared : request.prepare = .ok batch)
    (refused : ¬ ∀ attempt ∈ batch.attempts,
      batch.Inserts store.database attempt) :
    ∃ problem, atomically (persistAttempts clock request) store =
      (.error problem, store) := by
  have nonempty : ¬ batch.attempts.isEmpty = true := by
    intro empty
    apply refused
    rw [List.isEmpty_iff.mp empty]
    exact fun _ absent => absurd absent List.not_mem_nil
  obtain ⟨problem, view, raised⟩ := @DecisionBatch.run_insertAttempts_refused
    batch ⟨store, store⟩ clock batch.attempts 0 refused
  refine ⟨problem, ?_⟩
  rw [persistAttempts, prepared]
  dsimp only
  rw [if_neg nonempty, atomically, run_bind, raised]

/-- A call stores a row for every attempt or leaves the store as it was. -/
theorem persistAttempts_cases (clock : Nat → WallTime)
    (request : PersistRequest) (store : DecisionStore) :
    (∃ problem, atomically (persistAttempts clock request) store =
      (.error problem, store)) ∨
    ∃ batch, request.Prepares batch ∧
      (∀ attempt ∈ batch.attempts, batch.Inserts store.database attempt) ∧
      atomically (persistAttempts clock request) store =
        (.ok ((batch.rows (nextRowid store.decisionIds) batch.attempts).map
            (·.id)),
          batch.addAttempts clock 0 batch.attempts store) := by
  cases prepared : request.prepare with
  | error problem => exact Or.inl ⟨problem, persistAttempts_of_error prepared⟩
  | ok batch =>
      by_cases inserts : ∀ attempt ∈ batch.attempts,
          batch.Inserts store.database attempt
      · exact Or.inr ⟨batch, PersistRequest.prepare_eq_ok prepared, inserts,
          persistAttempts_of_inserts prepared inserts⟩
      · exact Or.inl (persistAttempts_of_refused prepared inserts)

end Calls

section AllOrNothing

/-- The row records the attempt of the request. -/
structure PersistRequest.RecordedIn (request : PersistRequest)
    (attempt : GivenAttempt) (row : DecisionRow) : Prop where
  itemId : request.itemId = .int row.itemId
  clusterId : request.clusterId = optionalInt row.clusterId
  candidateItemId : request.candidateItemId = optionalInt row.candidateItemId
  strategyName : attempt.strategyName = .str row.strategyName
  outcome : attempt.outcome = .str row.outcome
  reason : ∃ reason, attempt.reason = .str reason ∧
    row.reasonCode = some reason
  score : row.score = storedScore attempt.score
  metadata : encodeMetadata request.metadata = .ok row.metadataJson

/-- The later store has one more decision for each attempt of the request, in
their order and under the returned ids, and is the same otherwise. -/
def PersistRequest.StoredIn (request : PersistRequest)
    (before after : DecisionStore) (insertedIds : List Int) : Prop :=
  ∃ rows : List DecisionRow,
    after.database =
      { before.database with
        dedupeDecisions := before.database.dedupeDecisions ++ rows } ∧
    rows.map (·.id) = insertedIds ∧
    List.Forall₂ request.RecordedIn request.decisionAttempts rows

/-- The attempts can be stored and the metadata is JSON. -/
def PersistRequest.Valid (request : PersistRequest) : Prop :=
  (∀ attempt ∈ request.decisionAttempts, attempt.Acceptable) ∧
    ∃ metadataJson, encodeMetadata request.metadata = .ok metadataJson

variable {request : PersistRequest} {batch : DecisionBatch}

private theorem PersistRequest.Prepares.recordedIn_rows
    (prepares : request.Prepares batch) {attempts : List GivenAttempt}
    {validated : List ValidatedAttempt}
    (validates : List.Forall₂ GivenAttempt.IsValidated attempts validated)
    (encoded : validated ≠ [] →
      encodeMetadata request.metadata = .ok batch.metadataJson)
    (first : Int) :
    List.Forall₂ request.RecordedIn attempts (batch.rows first validated) := by
  induction validates generalizing first with
  | nil => exact .nil
  | cons same others ih =>
      have metadata := encoded (List.cons_ne_nil _ _)
      refine .cons ?_ (ih (fun _ => metadata) (first + 1))
      exact
        { itemId := prepares.itemId
          clusterId := prepares.clusterId
          candidateItemId := prepares.candidateItemId
          strategyName := same.strategyName
          outcome := same.outcome
          reason := ⟨_, same.reason, rfl⟩
          score := congrArg storedScore same.score
          metadata := metadata }

/-- A call returns the ids of one new row for each attempt, or raises and
leaves the store as it was. -/
theorem persistAttempts_stores (clock : Nat → WallTime)
    (request : PersistRequest) (store : DecisionStore) :
    match atomically (persistAttempts clock request) store with
    | (.error _, after) => after = store
    | (.ok insertedIds, after) => request.StoredIn store after insertedIds := by
  rcases persistAttempts_cases clock request store with
    ⟨problem, raised⟩ | ⟨batch, prepares, -, executed⟩
  · rw [raised]
  · rw [executed]
    exact ⟨_, batch.addAttempts_database 0 store, rfl,
      prepares.recordedIn_rows prepares.attempts prepares.metadata _⟩

/-- A call with an attempt that cannot be stored, or with metadata that is no
JSON, leaves the store as it was. -/
theorem persistAttempts_of_invalid (invalid : ¬ request.Valid)
    (clock : Nat → WallTime) (store : DecisionStore) :
    (atomically (persistAttempts clock request) store).2 = store := by
  rcases persistAttempts_cases clock request store with
    ⟨problem, raised⟩ | ⟨batch, prepares, -, executed⟩
  · rw [raised]
  · rw [executed]
    by_cases empty : batch.attempts = []
    · rw [empty]
      rfl
    · exact (invalid ⟨prepares.acceptable, _, prepares.metadata empty⟩).elim

end AllOrNothing

section Traces

theorem StrategyDecisionAttempt.Recordable.acceptable
    {attempt : StrategyDecisionAttempt} (recordable : attempt.Recordable) :
    attempt.given.Acceptable where
  nameVisible := ⟨_, rfl, recordable.nameVisible⟩
  outcomeVisible := ⟨_, rfl, recordable.outcomeVisible⟩
  reasonVisible := ⟨_, rfl, recordable.reasonVisible⟩
  scoreFinite := by
    cases scored : attempt.score with
    | none => simp [StrategyDecisionAttempt.given, scored, FiniteScore]
    | some score =>
        simp only [StrategyDecisionAttempt.given, scored, FiniteScore]
        exact recordable.scoreFinite score scored

/-- Scores of a trace are floats, which the driver binds. -/
theorem StrategyDecisionAttempt.scoreBinds_given
    (attempt : StrategyDecisionAttempt) : ScoreBinds attempt.given.score := by
  cases scored : attempt.score <;>
    simp [StrategyDecisionAttempt.given, scored, ScoreBinds]

variable {store : DecisionStore} {itemId : Int}
  {clusterId candidateItemId : Option Int}

/-- The trace of a chain with visible names is accepted for an existing item,
cluster and candidate. -/
theorem persistAttempts_trace {attempts : List StrategyDecisionAttempt}
    (recordable : ∀ attempt ∈ attempts, attempt.Recordable)
    (consistent : store.database.Consistent)
    (itemStored : itemId ∈ store.database.itemIds)
    (clusterStored : Database.ResolvesIn store.database.clusterIds clusterId)
    (candidateStored :
      Database.ResolvesIn store.database.itemIds candidateItemId)
    {metadata : Option (List (PyKey × PyObject))}
    {metadataJson : Option PyValue}
    (encoded : encodeMetadata metadata = .ok metadataJson)
    (clock : Nat → WallTime) :
    ∃ insertedIds, (atomically (persistAttempts clock ⟨.int itemId,
        optionalInt clusterId, optionalInt candidateItemId,
        attempts.map (·.given), metadata⟩) store).1 = .ok insertedIds := by
  have acceptable : ∀ attempt ∈ attempts.map (·.given),
      attempt.Acceptable := by
    intro attempt isGiven
    obtain ⟨traced, isTraced, rfl⟩ := List.mem_map.mp isGiven
    exact (recordable traced isTraced).acceptable
  obtain ⟨batch, prepared, rfl, rfl, rfl⟩ :=
    @PersistRequest.prepare_isOk itemId clusterId candidateItemId
      (attempts.map (·.given)) metadata metadataJson acceptable encoded
  have binds : ∀ attempt ∈ batch.attempts, ScoreBinds attempt.score := by
    refine forall_score_of_validated
      (PersistRequest.prepare_eq_ok prepared).attempts ?_
    intro attempt isGiven
    obtain ⟨traced, -, rfl⟩ := List.mem_map.mp isGiven
    exact traced.scoreBinds_given
  have references : ∀ id ∈ batch.references, IsSqlInteger id := by
    intro id isReference
    simp only [DecisionBatch.references, List.mem_cons, List.mem_append,
      Option.mem_toList] at isReference
    rcases isReference with rfl | isCluster | isCandidate
    · exact consistent.itemIdsSql _ itemStored
    · exact consistent.clusterIdsSql _ (clusterStored id isCluster)
    · exact consistent.itemIdsSql _ (candidateStored id isCandidate)
  have inserts : ∀ attempt ∈ batch.attempts,
      batch.Inserts store.database attempt := fun attempt isAttempt =>
    ⟨⟨references, binds attempt isAttempt⟩, itemStored, clusterStored,
      candidateStored⟩
  rw [persistAttempts_of_inserts prepared inserts]
  exact ⟨_, rfl⟩

end Traces

end Tca
