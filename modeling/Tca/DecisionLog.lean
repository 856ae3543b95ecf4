import Tca.StrategyChain
import Tca.IsoTimestamps
import Tca.DedupeClusterMerge

/-!
# The log of dedupe decisions

`persist_attempts` checks the attempts it is given and stores one row for
each, in one transaction; `list_for_item` reads the rows of an item in the
order of their ids.  The file embeds both calls with their checks.
-/

namespace Tca

open TableRows Transaction RowRanking

section Store

/-- The store, with the `created_at` column of its decisions by row id. -/
structure DecisionStore where
  database : Database
  createdAt : Int → String

/-- The time without its microseconds. -/
def WallTime.wholeSeconds (time : WallTime) : WallTime :=
  ⟨time.micros / 1000000 * 1000000, by
    have := time.inRange
    omega⟩

/-- `CURRENT_TIMESTAMP` at the given time in UTC. -/
def currentTimestamp (now : WallTime) : String :=
  Timestamp.isoformat ⟨now.wholeSeconds, none⟩

namespace DecisionStore

variable (store : DecisionStore)

def decisionIds : List Int :=
  store.database.dedupeDecisions.map (·.id)

/-- `INSERT INTO dedupe_decisions` of a row at the given time. -/
def addDecision (now : WallTime) (row : DecisionRow) : DecisionStore where
  database :=
    { store.database with
      dedupeDecisions := store.database.dedupeDecisions ++ [row] }
  createdAt := Function.update store.createdAt row.id (currentTimestamp now)

end DecisionStore

end Store

section Checks

/-- An attempt as a caller hands it over: any object with these
attributes. -/
structure GivenAttempt where
  strategyName : PyObject
  outcome : PyObject
  reason : PyObject
  score : PyObject

/-- An attempt of a trace as it is handed over. -/
def StrategyDecisionAttempt.given (attempt : StrategyDecisionAttempt) :
    GivenAttempt where
  strategyName := .str attempt.strategyName
  outcome := .str attempt.outcome
  reason := .str attempt.reason
  score := match attempt.score with
    | none => .none
    | some score => .float score

/-- The arguments of a call of `persist_attempts`. -/
structure PersistRequest where
  itemId : PyObject
  clusterId : PyObject
  candidateItemId : PyObject
  decisionAttempts : List GivenAttempt
  metadata : Option (List (PyKey × PyObject))

/-- An attempt whose texts were checked; the score is still the one given. -/
structure ValidatedAttempt where
  strategyName : String
  outcome : String
  reason : String
  score : PyObject

/-- What the rows of one call have in common, and its attempts. -/
structure DecisionBatch where
  itemId : Int
  clusterId : Option Int
  candidateItemId : Option Int
  attempts : List ValidatedAttempt
  metadataJson : Option PyValue

def invalidValue (field : String) : PyError :=
  .dedupeDecisionsRepositoryError s!"invalid `{field}` value"

/-- `_coerce_write_int`. -/
def coerceWriteInt (value : PyObject) (field : String) :
    Except PyError Int :=
  match value with
  | .int number => .ok number
  | _ => .error (invalidValue field)

/-- `_coerce_optional_write_int`. -/
def coerceOptionalWriteInt (value : PyObject) (field : String) :
    Except PyError (Option Int) :=
  match value with
  | .none => .ok none
  | given => (coerceWriteInt given field).map some

/-- `_coerce_non_empty_str`. -/
def coerceNonEmptyStr (value : PyObject) (field : String) :
    Except PyError String :=
  match value with
  | .str text =>
      if pythonStrip text = "" then .error (invalidValue field) else .ok text
  | _ => .error (invalidValue field)

/-- The check for a finite number. -/
def coerceFinite (field : String) (score : PyFloat) :
    Except PyError (Option PyFloat) :=
  if score.isFinite then .ok (some score) else .error (invalidValue field)

/-- `_coerce_optional_finite_float`. -/
def coerceOptionalFiniteFloat (value : PyObject) (field : String) :
    Except PyError (Option PyFloat) :=
  match value with
  | .none => .ok none
  | .int number => floatOfInt number >>= coerceFinite field
  | .float number => coerceFinite field number
  | _ => .error (invalidValue field)

/-- The loop of `_validate_attempts`, from a given index on. -/
def validateAttempts :
    Nat → List GivenAttempt → Except PyError (List ValidatedAttempt)
  | _, [] => .ok []
  | index, attempt :: attempts => do
      let strategyName ← coerceNonEmptyStr attempt.strategyName
        s!"decision_attempts[{index}].strategy_name"
      let outcome ← coerceNonEmptyStr attempt.outcome
        s!"decision_attempts[{index}].outcome"
      let reason ← coerceNonEmptyStr attempt.reason
        s!"decision_attempts[{index}].reason"
      let _ ← coerceOptionalFiniteFloat attempt.score
        s!"decision_attempts[{index}].score"
      let validated ← validateAttempts (index + 1) attempts
      return ⟨strategyName, outcome, reason, attempt.score⟩ :: validated

/-- `_encode_metadata`. -/
def encodeMetadata (metadata : Option (List (PyKey × PyObject))) :
    Except PyError (Option PyValue) :=
  match metadata with
  | none => .ok none
  | some entries =>
      match Json.dumps (.mapping entries) with
      | some document => .ok (some document)
      | none => .error (invalidValue "metadata")

/-- The checks of `persist_attempts` before it opens a session. -/
def PersistRequest.prepare (request : PersistRequest) :
    Except PyError DecisionBatch := do
  let itemId ← coerceWriteInt request.itemId "item_id"
  let clusterId ← coerceOptionalWriteInt request.clusterId "cluster_id"
  let candidateItemId ← coerceOptionalWriteInt request.candidateItemId
    "candidate_item_id"
  let attempts ← validateAttempts 0 request.decisionAttempts
  -- Without attempts the call returns before it looks at the metadata.
  let metadataJson ← (if attempts.isEmpty then .ok none
    else encodeMetadata request.metadata)
  return ⟨itemId, clusterId, candidateItemId, attempts, metadataJson⟩

end Checks

section Persisting

/-- The score column of a bound value; integers are stored as floats. -/
def storedScore : PyObject → Option PyFloat
  | .int value => some (.finite (roundToDouble value))
  | .float value => some value
  | _ => none

/-- The driver binds the score. -/
def ScoreBinds : PyObject → Prop
  | .int value => IsSqlInteger value
  | _ => True

instance : ∀ score, Decidable (ScoreBinds score)
  | .int value => inferInstanceAs (Decidable (IsSqlInteger value))
  | .none | .bool _ | .float _ | .str _ | .list _ | .mapping _ | .other =>
      .isTrue trivial

namespace DecisionBatch

variable (batch : DecisionBatch)

/-- The row of an attempt under the given id. -/
def row (id : Int) (attempt : ValidatedAttempt) : DecisionRow where
  id := id
  itemId := batch.itemId
  clusterId := batch.clusterId
  candidateItemId := batch.candidateItemId
  strategyName := attempt.strategyName
  outcome := attempt.outcome
  reasonCode := some attempt.reason
  score := storedScore attempt.score
  metadataJson := batch.metadataJson

/-- The ids that are bound in every insertion. -/
def references : List Int :=
  batch.itemId :: (batch.clusterId.toList ++ batch.candidateItemId.toList)

/-- The foreign keys of the rows resolve. -/
def Resolves (db : Database) : Prop :=
  batch.itemId ∈ db.itemIds ∧
    Database.ResolvesIn db.clusterIds batch.clusterId ∧
    Database.ResolvesIn db.itemIds batch.candidateItemId

instance (db : Database) : Decidable (batch.Resolves db) :=
  inferInstanceAs (Decidable (_ ∧ _ ∧ _))

/-- Execute the insertion of one attempt and return its id. -/
def insertAttempt (now : WallTime) (attempt : ValidatedAttempt) :
    Transaction DecisionStore PyError Int := do
  require ((∀ id ∈ batch.references, IsSqlInteger id) ∧
    ScoreBinds attempt.score) integerOverflow
  let store ← query fun store => store
  require (batch.Resolves store.database)
    (.integrityError "FOREIGN KEY constraint failed")
  let id := nextRowid store.decisionIds
  update fun store => store.addDecision now (batch.row id attempt)
  return id

/-- The loop over the attempts, from a given index on. -/
def insertAttempts (clock : Nat → WallTime) :
    Nat → List ValidatedAttempt → Transaction DecisionStore PyError (List Int)
  | _, [] => pure []
  | index, attempt :: attempts => do
      let id ← batch.insertAttempt (clock index) attempt
      let insertedIds ← insertAttempts clock (index + 1) attempts
      return id :: insertedIds

end DecisionBatch

/-- Persist each strategy decision attempt as an explainability row.  The
clock gives the time of each insertion. -/
def persistAttempts (clock : Nat → WallTime) (request : PersistRequest) :
    Transaction DecisionStore PyError (List Int) :=
  match request.prepare with
  | .error problem => raise problem
  | .ok batch =>
      if batch.attempts.isEmpty then pure []
      else do
        let insertedIds ← batch.insertAttempts clock 0 batch.attempts
        commit
        return insertedIds

end Persisting

section Listing

/-- Typed dedupe decision row payload returned by read helpers. -/
structure DedupeDecisionRecord where
  decisionId : Int
  itemId : Int
  clusterId : Option Int
  candidateItemId : Option Int
  strategyName : String
  outcome : String
  reasonCode : Option String
  score : Option PyFloat
  metadataJson : Option PyValue
  createdAt : Timestamp

/-- `_coerce_optional_float` on the score column. -/
def coerceOptionalFloat (value : Option PyFloat) (field : String) :
    Except PyError (Option PyFloat) :=
  match value with
  | none => .ok none
  | some number => coerceFinite field number

/-- `_parse_datetime`. -/
def parseDatetime (value field : String) : Except PyError Timestamp :=
  match fromisoformat value with
  | some parsed => .ok parsed.readAsUtc
  | none => .error (invalidValue field)

namespace DecisionStore

variable (store : DecisionStore)

/-- `_decode_decision_row`. -/
def decodeDecisionRow (row : DecisionRow) :
    Except PyError DedupeDecisionRecord := do
  let score ← coerceOptionalFloat row.score "score"
  let createdAt ← parseDatetime (store.createdAt row.id) "created_at"
  return {
    decisionId := row.id
    itemId := row.itemId
    clusterId := row.clusterId
    candidateItemId := row.candidateItemId
    strategyName := row.strategyName
    outcome := row.outcome
    reasonCode := row.reasonCode
    score
    metadataJson := row.metadataJson
    createdAt }

/-- Return dedupe decision records for an item in insertion order. -/
def listForItem (itemId : Int) :
    Except PyError (List DedupeDecisionRecord) :=
  if IsSqlInteger itemId then
    (orderBy (·.id) (store.database.dedupeDecisions.filter
      fun row => row.itemId = itemId)).mapM store.decodeDecisionRow
  else .error integerOverflow

end DecisionStore

end Listing

end Tca
