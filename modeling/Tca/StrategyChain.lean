import Tca.PythonObjects

/-!
# Strategy chains and their traces

A strategy is called without arguments and answers with any object.
`run_strategy` enforces the result contract, and
`execute_strategy_chain_with_trace` runs the strategies of a chain in order,
up to the first that does not abstain, and records every attempt.  The file
embeds both and describes the attempts that a trace can hold.
-/

namespace Tca

section Contract

/-- A result that meets the contract. -/
inductive StrategyResult where
  | duplicate (score : PyFloat) (reason : String)
      (metadata : Option (List (String × PyObject)))
  | distinct (reason : String) (metadata : Option (List (String × PyObject)))
  | abstain (reason : String) (metadata : Option (List (String × PyObject)))

namespace StrategyResult

/-- `result["status"]`. -/
def status : StrategyResult → String
  | .duplicate _ _ _ => "DUPLICATE"
  | .distinct _ _ => "DISTINCT"
  | .abstain _ _ => "ABSTAIN"

/-- `result["reason"]`. -/
def reason : StrategyResult → String
  | .duplicate _ reason _ | .distinct reason _ | .abstain reason _ => reason

/-- `result.get("score")`. -/
def score : StrategyResult → Option PyFloat
  | .duplicate score _ _ => some score
  | .distinct _ _ | .abstain _ _ => none

end StrategyResult

/-- What comes of calling a strategy: an object, or whatever it raises. -/
def StrategyCall : Type :=
  Except PyError PyObject

def strategyStatuses : List String :=
  ["DUPLICATE", "DISTINCT", "ABSTAIN"]

/-- `_coerce_score`. -/
def coerceScore (result : List (PyKey × PyObject)) :
    Except PyError PyFloat := do
  let score ← (match getKey result "score" with
    | some (.int value) => floatOfInt value
    | some (.float value) => .ok value
    | _ => .error (.strategyContractError
        "DUPLICATE strategy result `score` must be numeric."))
  if score.isFinite then return score
  else .error (.strategyContractError
    "DUPLICATE strategy result `score` must be finite.")

/-- The loop of `_coerce_metadata`. -/
def coerceMetadataEntries :
    List (PyKey × PyObject) → Except PyError (List (String × PyObject))
  | [] => .ok []
  | (.str key, value) :: entries => do
      let metadata ← coerceMetadataEntries entries
      return (key, value) :: metadata
  | _ :: _ => .error (.strategyContractError
      "Strategy result `metadata` keys must be strings.")

/-- `_coerce_metadata`. -/
def coerceMetadata (result : List (PyKey × PyObject)) :
    Except PyError (Option (List (String × PyObject))) :=
  match getKey result "metadata" with
  | none | some .none => .ok none
  | some (.mapping entries) => (coerceMetadataEntries entries).map some
  | some _ => .error (.strategyContractError
      "Strategy result `metadata` must be a mapping when provided.")

variable (repr : String → String)

/-- The checks of `coerce_strategy_result` on a mapping. -/
def coerceResultMap (result : List (PyKey × PyObject)) :
    Except PyError StrategyResult := do
  let status ← (match getKey result "status" with
    | some (.str status) => .ok status
    | _ => .error (.strategyContractError
        "Strategy result `status` must be a string."))
  if status ∉ strategyStatuses then
    let shown := repr status
    .error (.strategyContractError s!"Unknown strategy status: {shown}")
  else
    let given ← (match getKey result "reason" with
      | some (.str reason) => .ok reason
      | _ => .error (.strategyContractError
          "Strategy result `reason` must be a string."))
    let reason := pythonStrip given
    if reason = "" then
      .error (.strategyContractError
        "Strategy result `reason` must be non-empty.")
    else
      let metadata ← coerceMetadata result
      if status = "DUPLICATE" then
        let score ← coerceScore result
        return .duplicate score reason metadata
      else if status = "DISTINCT" then return .distinct reason metadata
      else return .abstain reason metadata

/-- Validate and normalize unknown strategy output to a contract result. -/
def coerceStrategyResult (result : PyObject) :
    Except PyError StrategyResult :=
  match result with
  | .mapping entries => coerceResultMap repr entries
  | _ => .error (.strategyContractError
      "Strategy result must be a mapping with `status` and `reason` fields.")

/-- Execute one strategy and enforce contract validity. -/
def runStrategy (strategyName : String) (strategy : StrategyCall) :
    Except PyError StrategyResult :=
  match strategy with
  | .error problem => .error problem
  | .ok rawResult =>
      match coerceStrategyResult repr rawResult with
      | .error (.strategyContractError problem) =>
          let shown := repr strategyName
          .error (.strategyContractError
            s!"Strategy {shown} returned invalid result contract: {problem}")
      | outcome => outcome

end Contract

section Chain

/-- One evaluated strategy attempt in configured execution order. -/
structure StrategyDecisionAttempt where
  strategyName : String
  outcome : String
  reason : String
  score : Option PyFloat
  deriving DecidableEq

def noStrategyMatchReason : String :=
  "no_strategy_match"

variable (repr : String → String)

/-- The loop over the strategies, from given attempts on. -/
def executeStrategies :
    List (String × StrategyCall) → List StrategyDecisionAttempt →
      Except PyError (StrategyResult × List StrategyDecisionAttempt)
  | [], attempts => .ok (.distinct noStrategyMatchReason none, attempts)
  | (strategyName, strategy) :: strategies, attempts => do
      let result ← runStrategy repr strategyName strategy
      let traced := attempts ++
        [⟨strategyName, result.status, result.reason, result.score⟩]
      if result.status = "ABSTAIN" then executeStrategies strategies traced
      else return (result, traced)

/-- Run strategies and return result plus per-attempt explainability
trace. -/
def executeStrategyChainWithTrace (strategies : List (String × StrategyCall)) :
    Except PyError (StrategyResult × List StrategyDecisionAttempt) :=
  executeStrategies repr strategies []

end Chain

section Traces

/-- What `persist_attempts` asks of an attempt: names and reasons that are not
blank, and a finite score if there is one. -/
structure StrategyDecisionAttempt.Recordable
    (attempt : StrategyDecisionAttempt) : Prop where
  nameVisible : pythonStrip attempt.strategyName ≠ ""
  outcomeVisible : pythonStrip attempt.outcome ≠ ""
  reasonVisible : pythonStrip attempt.reason ≠ ""
  scoreFinite : ∀ score, attempt.score = some score → score.isFinite = true

/-- What the contract promises of a result. -/
structure StrategyResult.MeetsContract (result : StrategyResult) : Prop where
  reasonVisible : pythonStrip result.reason ≠ ""
  scoreFinite : ∀ score, result.score = some score → score.isFinite = true

theorem StrategyResult.status_visible (result : StrategyResult) :
    pythonStrip result.status ≠ "" := by
  have visible : ∀ status ∈ strategyStatuses, pythonStrip status ≠ "" := by
    decide
  cases result <;> exact visible _ (by simp [status, strategyStatuses])

theorem coerceScore_isFinite {result : List (PyKey × PyObject)}
    {score : PyFloat} (coerced : coerceScore result = .ok score) :
    score.isFinite = true := by
  unfold coerceScore at coerced
  obtain ⟨given, -, coerced⟩ := bind_eq_ok coerced
  split at coerced
  · rename_i isFinite
    obtain rfl := Except.ok.inj coerced
    exact isFinite
  · cases coerced

variable {repr : String → String}

theorem coerceResultMap_meetsContract {entries : List (PyKey × PyObject)}
    {result : StrategyResult}
    (coerced : coerceResultMap repr entries = .ok result) :
    result.MeetsContract := by
  unfold coerceResultMap at coerced
  obtain ⟨status, -, coerced⟩ := bind_eq_ok coerced
  split at coerced
  · cases coerced
  · obtain ⟨given, -, coerced⟩ := bind_eq_ok coerced
    dsimp only at coerced
    split at coerced
    · cases coerced
    · rename_i visible
      have reasonVisible := pythonStrip_pythonStrip_ne_empty visible
      obtain ⟨metadata, -, coerced⟩ := bind_eq_ok coerced
      split at coerced
      · obtain ⟨score, scored, coerced⟩ := bind_eq_ok coerced
        obtain rfl := Except.ok.inj coerced
        refine ⟨reasonVisible, fun other same => ?_⟩
        obtain rfl := Option.some.inj same
        exact coerceScore_isFinite scored
      · split at coerced
        all_goals
          obtain rfl := Except.ok.inj coerced
          exact ⟨reasonVisible, fun _ same => nomatch same⟩

/-- Whatever a strategy does, a result that is handed on meets the
contract. -/
theorem runStrategy_meetsContract {strategyName : String}
    {strategy : StrategyCall} {result : StrategyResult}
    (returned : runStrategy repr strategyName strategy = .ok result) :
    result.MeetsContract := by
  unfold runStrategy at returned
  split at returned
  · cases returned
  · split at returned
    · cases returned
    · unfold coerceStrategyResult at returned
      split at returned
      · exact coerceResultMap_meetsContract returned
      · cases returned

/-- Every attempt that the loop adds can be recorded. -/
theorem executeStrategies_recordable
    {strategies : List (String × StrategyCall)}
    (named : ∀ strategy ∈ strategies, pythonStrip strategy.1 ≠ "")
    {attempts traced : List StrategyDecisionAttempt} {result : StrategyResult}
    (recordable : ∀ attempt ∈ attempts, attempt.Recordable)
    (returned : executeStrategies repr strategies attempts =
      .ok (result, traced)) :
    ∀ attempt ∈ traced, attempt.Recordable := by
  induction strategies generalizing attempts with
  | nil =>
      obtain ⟨-, rfl⟩ := Prod.mk.inj (Except.ok.inj returned)
      exact recordable
  | cons strategy strategies ih =>
      obtain ⟨strategyName, strategy⟩ := strategy
      obtain ⟨nameVisible, laterNamed⟩ := List.forall_mem_cons.mp named
      obtain ⟨outcome, ran, returned⟩ := bind_eq_ok returned
      have contract := runStrategy_meetsContract ran
      have added : ∀ attempt ∈ attempts ++ [⟨strategyName, outcome.status,
          outcome.reason, outcome.score⟩], attempt.Recordable :=
        List.forall_mem_append.mpr ⟨recordable,
          List.forall_mem_singleton.mpr ⟨nameVisible, outcome.status_visible,
            contract.reasonVisible, contract.scoreFinite⟩⟩
      dsimp only at returned
      split at returned
      · exact ih laterNamed added returned
      · obtain ⟨-, rfl⟩ := Prod.mk.inj (Except.ok.inj returned)
        exact added

/-- The trace of a chain with visible names can be recorded. -/
theorem executeStrategyChainWithTrace_recordable
    {strategies : List (String × StrategyCall)}
    (named : ∀ strategy ∈ strategies, pythonStrip strategy.1 ≠ "")
    {traced : List StrategyDecisionAttempt} {result : StrategyResult}
    (returned : executeStrategyChainWithTrace repr strategies =
      .ok (result, traced)) :
    ∀ attempt ∈ traced, attempt.Recordable :=
  executeStrategies_recordable named
    (fun _ absent => absurd absent List.not_mem_nil) returned

end Traces

end Tca
