import Tca.StrategyChain

/-!
# What a strategy chain does

The contract is restated as a relation between an output and the result it
stands for.  A chain is then run on strategies that may have effects, and the
file says which of them run, what the trace and the result are, and where the
chain stops at an output that breaks the contract.
-/

namespace Tca

section Contract

variable (entries : List (PyKey × PyObject))

/-- The mapping gives a finite score. -/
def GivesScore (score : PyFloat) : Prop :=
  ((∃ value, getKey entries "score" = some (.int value) ∧
      floatOfInt value = .ok score) ∨
    getKey entries "score" = some (.float score)) ∧ score.isFinite = true

/-- The mapping gives metadata with texts as keys, or none. -/
def GivesMetadata : Option (List (String × PyObject)) → Prop
  | none => getKey entries "metadata" = none ∨
      getKey entries "metadata" = some .none
  | some metadata => getKey entries "metadata" = some (.mapping
      (metadata.map fun entry => (.str entry.1, entry.2)))

/-- The mapping gives a status and a reason that is not blank. -/
def GivesVerdict (status reason : String) : Prop :=
  getKey entries "status" = some (.str status) ∧
    ∃ given, getKey entries "reason" = some (.str given) ∧
      reason = pythonStrip given ∧ reason ≠ ""

/-- The output meets the contract and stands for the result. -/
def StandsFor : PyObject → StrategyResult → Prop
  | .mapping entries, .duplicate score reason metadata =>
      GivesVerdict entries "DUPLICATE" reason ∧
        GivesMetadata entries metadata ∧ GivesScore entries score
  | .mapping entries, .distinct reason metadata =>
      GivesVerdict entries "DISTINCT" reason ∧ GivesMetadata entries metadata
  | .mapping entries, .abstain reason metadata =>
      GivesVerdict entries "ABSTAIN" reason ∧ GivesMetadata entries metadata
  | _, _ => False

/-- The output meets the contract. -/
def ContractValid (output : PyObject) : Prop :=
  ∃ result, StandsFor output result

/-- An integer that the output gives as a score can be made a float. -/
def ScoreInRange (output : PyObject) : Prop :=
  ∀ entries value, output = .mapping entries →
    getKey entries "score" = some (.int value) →
      ∃ score, floatOfInt value = .ok score

variable {entries : List (PyKey × PyObject)}

/-- A computation fails in its first step or after it. -/
theorem bind_eq_error {Value Output : Type}
    {body : Except PyError Value} {next : Value → Except PyError Output}
    {problem : PyError} (failed : (body >>= next) = .error problem) :
    body = .error problem ∨
      ∃ value, body = .ok value ∧ next value = .error problem := by
  cases body with
  | error other =>
      obtain rfl := Except.error.inj failed
      exact .inl rfl
  | ok value => exact .inr ⟨value, rfl, failed⟩

theorem coerceScore_eq_ok_iff {score : PyFloat} :
    coerceScore entries = .ok score ↔ GivesScore entries score := by
  constructor
  · intro coerced
    have isFinite := coerceScore_isFinite coerced
    unfold coerceScore at coerced
    obtain ⟨given, read, coerced⟩ := bind_eq_ok coerced
    split at coerced
    · obtain rfl := Except.ok.inj coerced
      refine ⟨?_, isFinite⟩
      split at read
      · rename_i value found
        exact .inl ⟨value, found, read⟩
      · rename_i value found
        obtain rfl := Except.ok.inj read
        exact .inr found
      · cases read
    · cases coerced
  · rintro ⟨⟨value, found, read⟩ | found, isFinite⟩
    · simp [coerceScore, found, read, isFinite, bind, Except.bind, pure,
        Except.pure]
    · simp [coerceScore, found, isFinite, bind, Except.bind, pure, Except.pure]

theorem coerceMetadataEntries_eq_ok_iff
    {metadata : List (String × PyObject)} :
    coerceMetadataEntries entries = .ok metadata ↔
      entries = metadata.map fun entry => (.str entry.1, entry.2) := by
  induction entries generalizing metadata with
  | nil =>
      constructor
      · intro coerced
        obtain rfl := Except.ok.inj coerced
        rfl
      · intro same
        obtain rfl := List.map_eq_nil_iff.mp same.symm
        rfl
  | cons entry entries ih =>
      obtain ⟨key, value⟩ := entry
      cases key with
      | str key =>
          constructor
          · intro coerced
            obtain ⟨rest, restCoerced, coerced⟩ := bind_eq_ok coerced
            obtain rfl := Except.ok.inj coerced
            rw [List.map_cons, ← ih.mp restCoerced]
          · intro same
            cases metadata with
            | nil => cases same
            | cons first rest =>
                obtain ⟨head, tail⟩ := List.cons.inj same
                obtain ⟨rfl, rfl⟩ : key = first.1 ∧ value = first.2 := by
                  simpa using head
                rw [coerceMetadataEntries, ih.mpr tail]
                rfl
      | number _ _ | none | other =>
          constructor
          · intro coerced
            cases coerced
          · intro same
            cases metadata with
            | nil => cases same
            | cons first rest => cases (List.cons.inj same).1

theorem coerceMetadata_eq_ok_iff
    {metadata : Option (List (String × PyObject))} :
    coerceMetadata entries = .ok metadata ↔
      GivesMetadata entries metadata := by
  unfold coerceMetadata
  split
  · rename_i absent
    cases metadata <;> simp [GivesMetadata, absent]
  · rename_i isNone
    cases metadata <;> simp [GivesMetadata, isNone]
  · rename_i given found
    cases metadata with
    | none => cases coerceMetadataEntries given <;> simp [GivesMetadata, found,
        Except.map]
    | some metadata =>
        simp only [GivesMetadata, found, Option.some.injEq,
          PyObject.mapping.injEq, ← coerceMetadataEntries_eq_ok_iff]
        cases coerceMetadataEntries given <;> simp [Except.map]
  · rename_i object notNone notMapping found
    refine iff_of_false nofun ?_
    cases metadata with
    | none =>
        rintro (absent | isNone)
        · cases found.symm.trans absent
        · exact notNone (Option.some.inj (found.symm.trans isNone))
    | some metadata =>
        intro given
        exact notMapping _ (Option.some.inj (found.symm.trans given))

/-- What the mapping gives when its status and reason have been read. -/
theorem givesVerdict_of_read {status given : String} {first second : PyError}
    (statusRead : (match getKey entries "status" with
      | some (.str status) => Except.ok status
      | _ => .error first) = .ok status)
    (reasonRead : (match getKey entries "reason" with
      | some (.str reason) => Except.ok reason
      | _ => .error second) = .ok given)
    (visible : pythonStrip given ≠ "") :
    GivesVerdict entries status (pythonStrip given) := by
  split at statusRead
  · rename_i text statusFound
    obtain rfl := Except.ok.inj statusRead
    split at reasonRead
    · rename_i text reasonFound
      obtain rfl := Except.ok.inj reasonRead
      exact ⟨statusFound, _, reasonFound, rfl, visible⟩
    · cases reasonRead
  · cases statusRead

variable {repr : String → String} {result : StrategyResult}

/-- What the checks of a mapping have found when they return. -/
theorem coerceResultMap_eq_ok (coerced : coerceResultMap repr entries =
    .ok result) :
    GivesVerdict entries result.status result.reason ∧
      ∃ metadata, GivesMetadata entries metadata ∧
        ((∃ score, GivesScore entries score ∧
            result = .duplicate score result.reason metadata) ∨
          result = .distinct result.reason metadata ∨
          result = .abstain result.reason metadata) := by
  unfold coerceResultMap at coerced
  obtain ⟨status, statusRead, coerced⟩ := bind_eq_ok coerced
  split at coerced
  · cases coerced
  · rename_i known
    obtain ⟨given, reasonRead, coerced⟩ := bind_eq_ok coerced
    dsimp only at coerced
    split at coerced
    · cases coerced
    · rename_i visible
      obtain ⟨metadata, metadataRead, coerced⟩ := bind_eq_ok coerced
      have verdict := givesVerdict_of_read statusRead reasonRead visible
      have givesMetadata := coerceMetadata_eq_ok_iff.mp metadataRead
      split at coerced
      · rename_i isDuplicate
        obtain ⟨score, scored, coerced⟩ := bind_eq_ok coerced
        obtain rfl := Except.ok.inj coerced
        rw [isDuplicate] at verdict
        exact ⟨verdict, metadata, givesMetadata,
          .inl ⟨score, coerceScore_eq_ok_iff.mp scored, rfl⟩⟩
      · rename_i notDuplicate
        split at coerced
        · rename_i isDistinct
          obtain rfl := Except.ok.inj coerced
          rw [isDistinct] at verdict
          exact ⟨verdict, metadata, givesMetadata, .inr (.inl rfl)⟩
        · rename_i notDistinct
          obtain rfl := Except.ok.inj coerced
          have isAbstain : status = "ABSTAIN" := by
            simpa [strategyStatuses, notDuplicate, notDistinct] using known
          rw [isAbstain] at verdict
          exact ⟨verdict, metadata, givesMetadata, .inr (.inr rfl)⟩

/-- The checks accept exactly the outputs that meet the contract. -/
theorem coerceStrategyResult_eq_ok_iff {output : PyObject} :
    coerceStrategyResult repr output = .ok result ↔
      StandsFor output result := by
  cases output with
  | mapping entries =>
      constructor
      · intro coerced
        obtain ⟨verdict, metadata, givesMetadata,
          ⟨score, givesScore, same⟩ | same | same⟩ :=
            coerceResultMap_eq_ok coerced
        all_goals
          cases result <;> simp_all [StandsFor, StrategyResult.status,
            StrategyResult.reason]
      · intro stands
        cases result with
        | duplicate score reason metadata =>
            obtain ⟨⟨statusFound, given, reasonFound, rfl, visible⟩,
              givesMetadata, givesScore⟩ := stands
            simp [coerceStrategyResult, coerceResultMap, statusFound,
              reasonFound, visible, strategyStatuses,
              coerceMetadata_eq_ok_iff.mpr givesMetadata,
              coerceScore_eq_ok_iff.mpr givesScore, bind, Except.bind, pure,
              Except.pure]
        | distinct reason metadata =>
            obtain ⟨⟨statusFound, given, reasonFound, rfl, visible⟩,
              givesMetadata⟩ := stands
            simp [coerceStrategyResult, coerceResultMap, statusFound,
              reasonFound, visible, strategyStatuses,
              coerceMetadata_eq_ok_iff.mpr givesMetadata, bind, Except.bind,
              pure, Except.pure]
        | abstain reason metadata =>
            obtain ⟨⟨statusFound, given, reasonFound, rfl, visible⟩,
              givesMetadata⟩ := stands
            simp [coerceStrategyResult, coerceResultMap, statusFound,
              reasonFound, visible, strategyStatuses,
              coerceMetadata_eq_ok_iff.mpr givesMetadata, bind, Except.bind,
              pure, Except.pure]
  | none | bool _ | int _ | float _ | str _ | list _ | other =>
      constructor
      · intro coerced
        cases coerced
      · cases result <;> exact False.elim

/-- The error says that the contract is broken. -/
def IsContractError (problem : PyError) : Prop :=
  ∃ message, problem = .strategyContractError message

theorem coerceMetadataEntries_error {problem : PyError}
    (failed : coerceMetadataEntries entries = .error problem) :
    IsContractError problem := by
  induction entries with
  | nil => cases failed
  | cons entry entries ih =>
      obtain ⟨key, value⟩ := entry
      cases key with
      | str key =>
          rcases bind_eq_error failed with inRest | ⟨rest, -, failed⟩
          · exact ih inRest
          · cases failed
      | number _ _ | none | other =>
          exact ⟨_, (Except.error.inj failed).symm⟩

theorem coerceMetadata_error {problem : PyError}
    (failed : coerceMetadata entries = .error problem) :
    IsContractError problem := by
  unfold coerceMetadata at failed
  split at failed
  · cases failed
  · cases failed
  · rename_i given found
    cases coerced : coerceMetadataEntries given with
    | error other =>
        rw [coerced] at failed
        obtain rfl := Except.error.inj failed
        exact coerceMetadataEntries_error coerced
    | ok metadata =>
        rw [coerced] at failed
        cases failed
  · exact ⟨_, (Except.error.inj failed).symm⟩

/-- A score that is refused otherwise than for breaking the contract is an
integer. -/
theorem coerceScore_error {problem : PyError}
    (failed : coerceScore entries = .error problem) :
    IsContractError problem ∨
      ∃ value, getKey entries "score" = some (.int value) ∧
        floatOfInt value = .error problem := by
  unfold coerceScore at failed
  rcases bind_eq_error failed with unread | ⟨score, -, failed⟩
  · split at unread
    · rename_i value found
      exact .inr ⟨value, found, unread⟩
    · cases unread
    · exact .inl ⟨_, (Except.error.inj unread).symm⟩
  · split at failed
    · cases failed
    · exact .inl ⟨_, (Except.error.inj failed).symm⟩

/-- Only the score of a complete duplicate is refused otherwise than for
breaking the contract. -/
theorem coerceResultMap_error {problem : PyError}
    (failed : coerceResultMap repr entries = .error problem) :
    IsContractError problem ∨
      ∃ reason metadata value, GivesVerdict entries "DUPLICATE" reason ∧
        GivesMetadata entries metadata ∧
        getKey entries "score" = some (.int value) ∧
        floatOfInt value = .error problem := by
  unfold coerceResultMap at failed
  rcases bind_eq_error failed with unread | ⟨status, statusRead, failed⟩
  · split at unread
    · cases unread
    · exact .inl ⟨_, (Except.error.inj unread).symm⟩
  split at failed
  · exact .inl ⟨_, (Except.error.inj failed).symm⟩
  rcases bind_eq_error failed with unread | ⟨given, reasonRead, failed⟩
  · split at unread
    · cases unread
    · exact .inl ⟨_, (Except.error.inj unread).symm⟩
  dsimp only at failed
  split at failed
  · exact .inl ⟨_, (Except.error.inj failed).symm⟩
  rename_i visible
  have verdict := givesVerdict_of_read statusRead reasonRead visible
  rcases bind_eq_error failed with unread | ⟨metadata, metadataRead, failed⟩
  · exact .inl (coerceMetadata_error unread)
  have givesMetadata := coerceMetadata_eq_ok_iff.mp metadataRead
  split at failed
  · rename_i isDuplicate
    rw [isDuplicate] at verdict
    rcases bind_eq_error failed with unscored | ⟨score, -, failed⟩
    · rcases coerceScore_error unscored with broken | ⟨value, found, raised⟩
      · exact .inl broken
      · exact .inr ⟨_, metadata, value, verdict, givesMetadata, found, raised⟩
    · cases failed
  · split at failed <;> cases failed

/-- An output that breaks the contract is refused as such. -/
theorem coerceStrategyResult_invalid {output : PyObject}
    (inRange : ScoreInRange output) (invalid : ¬ ContractValid output) :
    ∃ message, coerceStrategyResult repr output =
      .error (.strategyContractError message) := by
  cases coerced : coerceStrategyResult repr output with
  | ok result =>
      exact absurd ⟨result, coerceStrategyResult_eq_ok_iff.mp coerced⟩ invalid
  | error problem =>
      cases output with
      | mapping entries =>
          rcases coerceResultMap_error coerced with ⟨message, rfl⟩ |
            ⟨reason, metadata, value, -, -, found, raised⟩
          · exact ⟨message, rfl⟩
          · obtain ⟨score, converted⟩ := inRange entries value rfl found
            rw [raised] at converted
            cases converted
      | none | bool _ | int _ | float _ | str _ | list _ | other =>
          exact ⟨_, coerced.symm⟩

theorem runStrategy_eq_ok_iff {strategyName : String} {output : PyObject} :
    runStrategy repr strategyName (.ok output) = .ok result ↔
      StandsFor output result := by
  rw [← @coerceStrategyResult_eq_ok_iff repr]
  unfold runStrategy
  dsimp only
  split
  · rename_i message failed
    rw [failed]
    exact iff_of_false nofun nofun
  · rfl

theorem runStrategy_invalid (strategyName : String) {output : PyObject}
    (inRange : ScoreInRange output) (invalid : ¬ ContractValid output) :
    ∃ message, runStrategy repr strategyName (.ok output) =
      .error (.strategyContractError message) := by
  obtain ⟨message, failed⟩ :=
    @coerceStrategyResult_invalid repr output inRange invalid
  unfold runStrategy
  simp only [failed]
  exact ⟨_, rfl⟩

end Contract

section Chain

/-- A strategy with what a call of it answers and does. -/
structure EffectfulStrategy (World : Type*) where
  output : StrategyCall
  effect : World → World

variable {World : Type*} (repr : String → String)

/-- The loop over the strategies, on a world that their calls change. -/
def executeStrategiesIn :
    List (String × EffectfulStrategy World) → List StrategyDecisionAttempt →
      World → Except PyError (StrategyResult × List StrategyDecisionAttempt) ×
        World
  | [], attempts, world =>
      (.ok (.distinct noStrategyMatchReason none, attempts), world)
  | (strategyName, strategy) :: strategies, attempts, world =>
      let later := strategy.effect world
      match runStrategy repr strategyName strategy.output with
      | .error problem => (.error problem, later)
      | .ok result =>
          let traced := attempts ++
            [⟨strategyName, result.status, result.reason, result.score⟩]
          if result.status = "ABSTAIN" then
            executeStrategiesIn strategies traced later
          else (.ok (result, traced), later)

/-- `execute_strategy_chain_with_trace`, with its effects. -/
def executeStrategyChainIn
    (strategies : List (String × EffectfulStrategy World)) (world : World) :
    Except PyError (StrategyResult × List StrategyDecisionAttempt) × World :=
  executeStrategiesIn repr strategies [] world

/-- The effects of the calls, in their order. -/
def effectsOf (strategies : List (String × EffectfulStrategy World))
    (world : World) : World :=
  strategies.foldl (fun current strategy => strategy.2.effect current) world

namespace EffectfulStrategy

variable (strategy : EffectfulStrategy World)

/-- The strategy answers with an output that meets the contract. -/
def Answers (result : StrategyResult) : Prop :=
  ∃ output, strategy.output = .ok output ∧ StandsFor output result

/-- The strategy answers with an output that breaks the contract. -/
def Breaks : Prop :=
  ∃ output, strategy.output = .ok output ∧ ¬ ContractValid output

def Abstains : Prop :=
  ∃ result, strategy.Answers result ∧ result.status = "ABSTAIN"

/-- The strategy answers with a result other than `ABSTAIN`. -/
def Decides (result : StrategyResult) : Prop :=
  strategy.Answers result ∧ result.status ≠ "ABSTAIN"

end EffectfulStrategy

/-- The trace has one attempt for each strategy, in order, with the status, the
trimmed reason and the score of its result. -/
def Traces (strategies : List (String × EffectfulStrategy World))
    (trace : List StrategyDecisionAttempt) : Prop :=
  List.Forall₂ (fun strategy attempt => ∃ result, strategy.2.Answers result ∧
    attempt = ⟨strategy.1, result.status, result.reason, result.score⟩)
    strategies trace

end Chain

section Semantics

variable {World : Type*} {repr : String → String}
  {strategy : EffectfulStrategy World}
  {strategies before after : List (String × EffectfulStrategy World)}
  {result : StrategyResult}

theorem EffectfulStrategy.Answers.runStrategy_eq
    (answers : strategy.Answers result) (strategyName : String) :
    runStrategy repr strategyName strategy.output = .ok result := by
  obtain ⟨output, called, stands⟩ := answers
  rw [called]
  exact runStrategy_eq_ok_iff.mpr stands

/-- On the results, the chain is the one modelled before. -/
theorem executeStrategiesIn_fst
    (strategies : List (String × EffectfulStrategy World))
    (attempts : List StrategyDecisionAttempt) (world : World) :
    (executeStrategiesIn repr strategies attempts world).1 =
      executeStrategies repr
        (strategies.map fun strategy => (strategy.1, strategy.2.output))
        attempts := by
  induction strategies generalizing attempts world with
  | nil => rfl
  | cons strategy strategies ih =>
      obtain ⟨strategyName, strategy⟩ := strategy
      simp only [executeStrategiesIn, List.map_cons, executeStrategies]
      cases runStrategy repr strategyName strategy.output with
      | error problem => rfl
      | ok result =>
          simp only [bind, Except.bind]
          split
          · exact ih _ _
          · rfl

/-- Abstaining strategies all run, and the chain goes on after them. -/
theorem executeStrategiesIn_abstain
    (abstain : ∀ earlier ∈ before, earlier.2.Abstains)
    (attempts : List StrategyDecisionAttempt) (world : World) :
    ∃ trace, Traces before trace ∧
      ∀ later, executeStrategiesIn repr (before ++ later) attempts world =
        executeStrategiesIn repr later (attempts ++ trace)
          (effectsOf before world) := by
  induction before generalizing attempts world with
  | nil => exact ⟨[], .nil, fun later => by simp [effectsOf]⟩
  | cons strategy before ih =>
      obtain ⟨strategyName, strategy⟩ := strategy
      obtain ⟨⟨result, answers, isAbstain⟩, abstainLater⟩ :=
        List.forall_mem_cons.mp abstain
      obtain ⟨trace, traces, goesOn⟩ := ih abstainLater
        (attempts ++ [⟨strategyName, result.status, result.reason,
          result.score⟩]) (strategy.effect world)
      refine ⟨⟨strategyName, result.status, result.reason, result.score⟩ ::
        trace, .cons ⟨result, answers, rfl⟩ traces, fun later => ?_⟩
      rw [List.cons_append, executeStrategiesIn]
      simp only [answers.runStrategy_eq, isAbstain, ↓reduceIte]
      rw [← isAbstain, goesOn later, List.append_assoc]
      rfl

/-- The first strategy that decides ends the chain. -/
theorem executeStrategyChainIn_decide
    (abstain : ∀ earlier ∈ before, earlier.2.Abstains)
    (decides : strategy.Decides result) (strategyName : String)
    (after : List (String × EffectfulStrategy World)) (world : World) :
    ∃ trace, Traces (before ++ [(strategyName, strategy)]) trace ∧
      executeStrategyChainIn repr (before ++ (strategyName, strategy) :: after)
          world =
        (.ok (result, trace),
          effectsOf (before ++ [(strategyName, strategy)]) world) := by
  obtain ⟨answers, notAbstain⟩ := decides
  obtain ⟨trace, traces, goesOn⟩ :=
    @executeStrategiesIn_abstain World repr before abstain [] world
  refine ⟨trace ++ [⟨strategyName, result.status, result.reason,
    result.score⟩], ?_, ?_⟩
  · exact List.rel_append traces (.cons ⟨result, answers, rfl⟩ .nil)
  · rw [executeStrategyChainIn, goesOn, executeStrategiesIn]
    simp only [answers.runStrategy_eq, notAbstain, ↓reduceIte, effectsOf,
      List.foldl_append, List.nil_append]
    rfl

/-- A strategy that raises or breaks the contract before any decision ends the
chain with an error. -/
theorem executeStrategyChainIn_fail
    (abstain : ∀ earlier ∈ before, earlier.2.Abstains) {strategyName : String}
    {problem : PyError}
    (failed : runStrategy repr strategyName strategy.output = .error problem)
    (after : List (String × EffectfulStrategy World)) (world : World) :
    executeStrategyChainIn repr (before ++ (strategyName, strategy) :: after)
        world =
      (.error problem,
        effectsOf (before ++ [(strategyName, strategy)]) world) := by
  obtain ⟨trace, -, goesOn⟩ :=
    @executeStrategiesIn_abstain World repr before abstain [] world
  rw [executeStrategyChainIn, goesOn, executeStrategiesIn]
  simp only [failed, effectsOf, List.foldl_append]
  rfl

/-- Strategies that meet the contract all abstain, or there is a first one that
decides. -/
theorem abstain_or_first_decision
    (valid : ∀ strategy ∈ strategies, ∃ result, strategy.2.Answers result) :
    (∀ strategy ∈ strategies, strategy.2.Abstains) ∨
      ∃ before strategyName strategy after result,
        strategies = before ++ (strategyName, strategy) :: after ∧
        (∀ earlier ∈ before, earlier.2.Abstains) ∧
        strategy.Decides result := by
  induction strategies with
  | nil => exact .inl nofun
  | cons strategy strategies ih =>
      obtain ⟨strategyName, strategy⟩ := strategy
      obtain ⟨⟨result, answers⟩, validLater⟩ := List.forall_mem_cons.mp valid
      by_cases isAbstain : result.status = "ABSTAIN"
      · have abstains : strategy.Abstains := ⟨result, answers, isAbstain⟩
        rcases ih validLater with abstain |
          ⟨before, name, decider, after, decision, rfl, abstain, decides⟩
        · exact .inl (List.forall_mem_cons.mpr ⟨abstains, abstain⟩)
        · exact .inr ⟨(strategyName, strategy) :: before, name, decider, after,
            decision, rfl, List.forall_mem_cons.mpr ⟨abstains, abstain⟩,
            decides⟩
      · exact .inr ⟨[], strategyName, strategy, strategies, result, rfl, nofun,
          answers, isAbstain⟩

/-- What a chain does.  If all outputs meet the contract, exactly the
strategies up to the first decision run, in order; the trace lists them, and
the result is that decision, or `DISTINCT` if there is none.  An output that
breaks the contract before any decision ends the chain with the error for it,
and an exception of a strategy ends it with that exception.  The result depends
neither on the abstaining strategies before the decision nor on anything after
it. -/
theorem strategy_chain_semantics (repr : String → String)
    (strategies : List (String × EffectfulStrategy World))
    (inRange : ∀ strategy ∈ strategies, ∀ output,
      strategy.2.output = .ok output → ScoreInRange output) (world : World) :
    let outcome := executeStrategyChainIn repr strategies world
    outcome.1 = executeStrategyChainWithTrace repr
        (strategies.map fun strategy => (strategy.1, strategy.2.output)) ∧
      ((∀ strategy ∈ strategies, ∃ result, strategy.2.Answers result) →
        (∃ before strategyName strategy after result trace,
          strategies = before ++ (strategyName, strategy) :: after ∧
          (∀ earlier ∈ before, earlier.2.Abstains) ∧
          strategy.Decides result ∧
          Traces (before ++ [(strategyName, strategy)]) trace ∧
          outcome = (.ok (result, trace),
            effectsOf (before ++ [(strategyName, strategy)]) world)) ∨
        ∃ trace, (∀ strategy ∈ strategies, strategy.2.Abstains) ∧
          Traces strategies trace ∧
          outcome = (.ok (.distinct noStrategyMatchReason none, trace),
            effectsOf strategies world)) ∧
      (∀ before strategyName strategy after,
        strategies = before ++ (strategyName, strategy) :: after →
        (∀ earlier ∈ before, earlier.2.Abstains) →
        (strategy.Breaks → ∃ message,
          outcome = (.error (.strategyContractError message),
            effectsOf (before ++ [(strategyName, strategy)]) world)) ∧
        ∀ problem, strategy.output = .error problem →
          outcome = (.error problem,
            effectsOf (before ++ [(strategyName, strategy)]) world)) ∧
      ∀ before strategyName strategy after result,
        strategies = before ++ (strategyName, strategy) :: after →
        (∀ earlier ∈ before, earlier.2.Abstains) →
        strategy.Decides result →
        outcome.1.map (·.1) = .ok result ∧
          ∀ (otherBefore otherAfter : List (String × EffectfulStrategy World))
            (otherWorld : World),
            (∀ earlier ∈ otherBefore, earlier.2.Abstains) →
            (executeStrategyChainIn repr
              (otherBefore ++ (strategyName, strategy) :: otherAfter)
              otherWorld).1.map (·.1) = .ok result := by
  intro outcome
  refine ⟨executeStrategiesIn_fst strategies [] world, fun valid => ?_, ?_, ?_⟩
  · rcases abstain_or_first_decision valid with abstain |
      ⟨before, strategyName, strategy, after, result, rfl, abstain, decides⟩
    · obtain ⟨trace, traces, goesOn⟩ :=
        @executeStrategiesIn_abstain World repr strategies abstain [] world
      refine .inr ⟨trace, abstain, traces, ?_⟩
      have ended := goesOn []
      rw [List.append_nil] at ended
      exact ended
    · obtain ⟨trace, traces, ended⟩ := @executeStrategyChainIn_decide World repr
        strategy before result abstain decides strategyName after world
      exact .inl ⟨before, strategyName, strategy, after, result, trace, rfl,
        abstain, decides, traces, ended⟩
  · rintro before strategyName strategy after rfl abstain
    constructor
    · rintro ⟨output, called, invalid⟩
      obtain ⟨message, failed⟩ := @runStrategy_invalid repr strategyName output
        (inRange (strategyName, strategy) (by simp) output called) invalid
      refine ⟨message, executeStrategyChainIn_fail abstain ?_ after world⟩
      rw [called]
      exact failed
    · intro problem raised
      refine executeStrategyChainIn_fail abstain ?_ after world
      rw [raised]
      rfl
  · rintro before strategyName strategy after result rfl abstain decides
    have returned : ∀ (before after : List (String × EffectfulStrategy World))
        (world : World), (∀ earlier ∈ before, earlier.2.Abstains) →
        (executeStrategyChainIn repr (before ++ (strategyName, strategy) ::
          after) world).1.map (·.1) = .ok result := by
      intro before after world abstain
      obtain ⟨trace, -, ended⟩ := @executeStrategyChainIn_decide World repr
        strategy before result abstain decides strategyName after world
      rw [ended]
      rfl
    exact ⟨returned before after world abstain, returned⟩

/-- A strategy that logs its call. -/
def loggedStrategy (name : String) (output : PyObject) :
    String × EffectfulStrategy (List String) :=
  (name, ⟨.ok output, fun log => log ++ [name]⟩)

/-- A strategy abstains, the next one decides, and a last one would break the
contract. -/
def sampleStrategies : List (String × EffectfulStrategy (List String)) :=
  [loggedStrategy "first" (.mapping [(.str "status", .str "ABSTAIN"),
      (.str "reason", .str " unsure ")]),
    loggedStrategy "second" (.mapping [(.str "status", .str "DUPLICATE"),
      (.str "reason", .str "same"), (.str "score", .float (.finite 1))]),
    loggedStrategy "third" .none]

theorem strategy_chain_sample :
    (executeStrategyChainIn id sampleStrategies []).1 =
        executeStrategyChainWithTrace id
          (sampleStrategies.map fun strategy =>
            (strategy.1, strategy.2.output)) ∧
      executeStrategyChainIn id sampleStrategies [] =
        (.ok (.duplicate (.finite 1) "same" none,
          [⟨"first", "ABSTAIN", "unsure", none⟩,
            ⟨"second", "DUPLICATE", "same", some (.finite 1)⟩]),
          ["first", "second"]) := by
  refine ⟨(strategy_chain_semantics id sampleStrategies ?_ []).1, rfl⟩
  intro strategy member output called entries value isMapping given
  simp only [sampleStrategies, List.mem_cons, List.not_mem_nil,
    or_false] at member
  rcases member with rfl | rfl | rfl
  all_goals
    obtain rfl := Except.ok.inj called
    cases isMapping
  · simp [getKey] at given
  · simp [getKey] at given

end Semantics

end Tca
