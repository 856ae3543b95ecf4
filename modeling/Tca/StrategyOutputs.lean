import Tca.FloatRange
import Tca.StrategyChainSemantics

/-!
# What the check of a strategy's output can do

`coerce_strategy_result` is given any object.  It returns a result or refuses
the object with an error of its own, with one exception: the score of a
duplicate may be an integer that no float holds, and the conversion of it
raises.  The file says exactly when that happens, and shows that the results
themselves pass the check unchanged.
-/

namespace Tca

section Results

/-- The mapping that a contract result is. -/
def StrategyResult.toObject : StrategyResult → PyObject
  | .duplicate score reason metadata =>
      .mapping ([(.str "status", .str "DUPLICATE"), (.str "score", .float score),
        (.str "reason", .str reason)] ++ metadataEntry metadata)
  | .distinct reason metadata =>
      .mapping ([(.str "status", .str "DISTINCT"), (.str "reason", .str reason)]
        ++ metadataEntry metadata)
  | .abstain reason metadata =>
      .mapping ([(.str "status", .str "ABSTAIN"), (.str "reason", .str reason)]
        ++ metadataEntry metadata)
where
  /-- `result["metadata"] = dict(metadata)`, unless there is none. -/
  metadataEntry : Option (List (String × PyObject)) → List (PyKey × PyObject)
    | none => []
    | some metadata =>
        [(.str "metadata",
          .mapping (metadata.map fun entry => (.str entry.1, entry.2)))]

/-- A result that meets the contract.  That metadata have texts as keys is part
of the type. -/
structure StrategyResult.IsContractResult (result : StrategyResult) : Prop where
  knownStatus : result.status ∈ strategyStatuses
  trimmed : pythonStrip result.reason = result.reason
  nonempty : result.reason ≠ ""
  scored : result.score.isSome = true ↔ result.status = "DUPLICATE"
  finite : ∀ score, result.score = some score → score.isFinite = true

/-- The integer score of a duplicate that is complete otherwise is too large
for a float. -/
def ScoreOverflows (output : PyObject) : Prop :=
  ∃ entries reason metadata value, output = .mapping entries ∧
    GivesVerdict entries "DUPLICATE" reason ∧ GivesMetadata entries metadata ∧
    getKey entries "score" = some (.int value) ∧
    2 ^ 1024 - 2 ^ 970 ≤ value.natAbs

end Results

section Checks

variable {repr : String → String} {output : PyObject} {result : StrategyResult}

theorem StandsFor.isContractResult (stands : StandsFor output result) :
    result.IsContractResult := by
  cases output with
  | mapping entries =>
      cases result with
      | duplicate score reason metadata =>
          obtain ⟨⟨-, given, -, rfl, visible⟩, -, -, isFinite⟩ := stands
          constructor
          · simp [StrategyResult.status, strategyStatuses]
          · exact pythonStrip_pythonStrip given
          · exact visible
          · simp [StrategyResult.score, StrategyResult.status]
          · intro other same
            obtain rfl := Option.some.inj same
            exact isFinite
      | distinct reason metadata | abstain reason metadata =>
          obtain ⟨⟨-, given, -, rfl, visible⟩, -⟩ := stands
          constructor
          · simp [StrategyResult.status, strategyStatuses]
          · exact pythonStrip_pythonStrip given
          · exact visible
          · simp [StrategyResult.score, StrategyResult.status]
          · intro other impossible
            cases impossible
  | none | bool _ | int _ | float _ | str _ | list _ | other =>
      cases result <;> exact stands.elim

/-- A contract result stands for itself. -/
theorem StrategyResult.IsContractResult.standsFor
    (contract : result.IsContractResult) :
    StandsFor result.toObject result := by
  cases result with
  | duplicate score reason metadata =>
      refine ⟨⟨rfl, reason, rfl, contract.trimmed.symm, contract.nonempty⟩, ?_,
        Or.inr rfl, contract.finite score rfl⟩
      cases metadata with
      | none => exact Or.inl rfl
      | some metadata => rfl
  | distinct reason metadata | abstain reason metadata =>
      refine ⟨⟨rfl, reason, rfl, contract.trimmed.symm, contract.nonempty⟩, ?_⟩
      cases metadata with
      | none => exact Or.inl rfl
      | some metadata => rfl

/-- A mapping is refused for what it lacks, or its score overflows. -/
theorem coerceStrategyResult_error {problem : PyError}
    (failed : coerceStrategyResult repr output = .error problem) :
    IsContractError problem ∨
      ScoreOverflows output ∧
        problem = .overflowError "int too large to convert to float" := by
  cases output with
  | mapping entries =>
      rcases coerceResultMap_error failed with broken |
        ⟨reason, metadata, value, verdict, given, found, unconverted⟩
      · exact Or.inl broken
      · right
        have tooLarge : ¬ value.natAbs < 2 ^ 1024 - 2 ^ 970 := by
          intro inRange
          have converted := floatOfInt_eq_ok_iff.mpr ⟨inRange, rfl⟩
          rw [unconverted] at converted
          cases converted
        constructor
        · exact ⟨entries, reason, metadata, value, rfl, verdict, given, found,
            not_lt.mp tooLarge⟩
        · unfold floatOfInt at unconverted
          split at unconverted
          · cases unconverted
          · exact (Except.error.inj unconverted).symm
  | none | bool _ | int _ | float _ | str _ | list _ | other =>
      exact Or.inl ⟨_, (Except.error.inj failed).symm⟩

/-- The conversion of an overflowing score raises. -/
theorem ScoreOverflows.raises (overflows : ScoreOverflows output) :
    coerceStrategyResult repr output =
      .error (.overflowError "int too large to convert to float") := by
  obtain ⟨entries, reason, metadata, value, rfl,
    ⟨statusFound, given, reasonFound, rfl, visible⟩, givesMetadata, found,
    tooLarge⟩ := overflows
  have unconverted : floatOfInt value =
      .error (.overflowError "int too large to convert to float") := by
    unfold floatOfInt
    rw [if_neg]
    rw [roundToDouble_lt_iff]
    exact not_lt.mpr tooLarge
  simp [coerceStrategyResult, coerceResultMap, statusFound, reasonFound,
    visible, strategyStatuses, coerceMetadata_eq_ok_iff.mpr givesMetadata,
    coerceScore, found, unconverted, bind, Except.bind]

end Checks

/-- For every object, the check returns a contract result or raises
`StrategyContractError` exactly if no complete duplicate comes with an integer
score that is too large for a float.  It returns every result it has returned
unchanged. -/
theorem strategy_outputs_validated_iff (repr : String → String)
    (output : PyObject) :
    (((∃ result, coerceStrategyResult repr output = .ok result ∧
          result.IsContractResult) ∨
        ∃ message, coerceStrategyResult repr output =
          .error (.strategyContractError message)) ↔
      ¬ ScoreOverflows output) ∧
    ∀ result, coerceStrategyResult repr output = .ok result →
      coerceStrategyResult repr result.toObject = .ok result := by
  constructor
  · constructor
    · intro validated overflows
      rw [overflows.raises] at validated
      rcases validated with ⟨result, returned, -⟩ | ⟨message, refused⟩
      · cases returned
      · cases refused
    · intro inRange
      cases outcome : coerceStrategyResult repr output with
      | ok result =>
          have stands := coerceStrategyResult_eq_ok_iff.mp outcome
          exact Or.inl ⟨result, rfl, stands.isContractResult⟩
      | error problem =>
          rcases coerceStrategyResult_error outcome with ⟨message, rfl⟩ |
            ⟨overflows, -⟩
          · exact Or.inr ⟨message, rfl⟩
          · exact absurd overflows inRange
  · intro result returned
    have stands := coerceStrategyResult_eq_ok_iff.mp returned
    exact coerceStrategyResult_eq_ok_iff.mpr
      stands.isContractResult.standsFor

/-- A duplicate whose score is `10 ** 400`. -/
def hugeScoreOutput : PyObject :=
  .mapping [(.str "status", .str "DUPLICATE"), (.str "reason", .str "same"),
    (.str "score", .int (10 ^ 400))]

theorem hugeScoreOutput_overflows : ScoreOverflows hugeScoreOutput := by
  have beyond : ∀ base : Int, 2 ^ 3 ≤ base.natAbs →
      2 ^ 1024 - 2 ^ 970 ≤ (base ^ 400).natAbs := by
    intro base large
    rw [Int.natAbs_pow]
    apply (Nat.sub_le _ _).trans
    calc (2 : Nat) ^ 1024 ≤ 2 ^ (3 * 400) :=
          pow_le_pow_right₀ one_le_two (by decide)
      _ = (2 ^ 3) ^ 400 := pow_mul 2 3 400
      _ ≤ base.natAbs ^ 400 := pow_le_pow_left₀ (Nat.zero_le _) large 400
  exact ⟨_, "same", none, 10 ^ 400, rfl, ⟨rfl, "same", rfl, rfl, by decide⟩,
    Or.inl rfl, rfl, beyond 10 (by decide)⟩

/-- The conversion of a huge score raises `OverflowError`. -/
theorem huge_score_raises_overflow :
    coerceStrategyResult id hugeScoreOutput =
        .error (.overflowError "int too large to convert to float") ∧
      ¬ ((∃ result, coerceStrategyResult id hugeScoreOutput = .ok result ∧
            result.IsContractResult) ∨
          ∃ message, coerceStrategyResult id hugeScoreOutput =
            .error (.strategyContractError message)) := by
  have raised := @ScoreOverflows.raises id _ hugeScoreOutput_overflows
  constructor
  · exact raised
  · rw [raised]
    rintro (⟨result, returned, -⟩ | ⟨message, refused⟩)
    · cases returned
    · cases refused

end Tca
