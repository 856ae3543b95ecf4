import Mathlib.Data.List.Infix

/-!
# Guarded runs of a deterministic transition system

A run executes a finite list of operations.  A guard restricts each operation
by the state it is executed in.  The file relates properties of every state
visited by a run to guards on its operations: a guarded step lemma lifts to
whole runs, and an exact step lemma lifts to an exact characterization.
-/

namespace Tca.GuardedRuns

variable {Operation State : Type*} (step : Operation → State → State)

/-- The state after executing the operations in order. -/
def run (operations : List Operation) (state : State) : State :=
  operations.foldl (fun current operation => step operation current) state

/-- Every operation satisfies the guard in the state it is executed in. -/
def Guarded (guard : Operation → State → Prop) :
    List Operation → State → Prop
  | [], _ => True
  | operation :: operations, state =>
      guard operation state ∧ Guarded guard operations (step operation state)

instance decidableGuarded {guard : Operation → State → Prop}
    [∀ operation state, Decidable (guard operation state)] :
    ∀ operations state, Decidable (Guarded step guard operations state)
  | [], _ => .isTrue trivial
  | operation :: operations, state =>
      @instDecidableAnd _ _ _
        (decidableGuarded operations (step operation state))

/-- The property holds in every state the run visits, its first and its last
included. -/
def Always (property : State → Prop) (operations : List Operation)
    (state : State) : Prop :=
  ∀ executed, executed <+: operations → property (run step executed state)

@[simp]
theorem run_nil (state : State) : run step [] state = state :=
  rfl

@[simp]
theorem run_cons (operation : Operation) (operations : List Operation)
    (state : State) :
    run step (operation :: operations) state =
      run step operations (step operation state) :=
  rfl

theorem run_append (first second : List Operation) (state : State) :
    run step (first ++ second) state =
      run step second (run step first state) :=
  List.foldl_append

theorem guarded_append {guard : Operation → State → Prop}
    {first second : List Operation} {state : State} :
    Guarded step guard (first ++ second) state ↔
      Guarded step guard first state ∧
        Guarded step guard second (run step first state) := by
  induction first generalizing state with
  | nil => simp [Guarded]
  | cons operation operations ih =>
      simp only [List.cons_append, Guarded, run_cons, ih, and_assoc]

theorem always_nil {property : State → Prop} {state : State} :
    Always step property [] state ↔ property state := by
  simp [Always]

theorem always_cons {property : State → Prop} {operation : Operation}
    {operations : List Operation} {state : State} :
    Always step property (operation :: operations) state ↔
      property state ∧
        Always step property operations (step operation state) := by
  constructor
  · intro always
    refine ⟨always [] List.nil_prefix, fun executed isInitial => ?_⟩
    exact always (operation :: executed)
      ((List.prefix_cons_inj operation).mpr isInitial)
  · rintro ⟨here, later⟩ executed isInitial
    cases executed with
    | nil => exact here
    | cons first executed =>
        obtain ⟨rfl, rest⟩ := List.cons_prefix_cons.mp isInitial
        exact later executed rest

/-- A property that every guarded step preserves holds throughout a guarded
run. -/
theorem always_of_guarded {guard : Operation → State → Prop}
    {property : State → Prop}
    (preserved : ∀ operation state, property state →
      guard operation state → property (step operation state))
    {operations : List Operation} {state : State}
    (initially : property state)
    (guarded : Guarded step guard operations state) :
    Always step property operations state := by
  induction operations generalizing state with
  | nil => exact (always_nil step).mpr initially
  | cons operation operations ih =>
      obtain ⟨allowed, rest⟩ := guarded
      exact (always_cons step).mpr
        ⟨initially, ih (preserved operation state initially allowed) rest⟩

/-- An unconditional invariant holds throughout every run. -/
theorem always_of_preserved {property : State → Prop}
    (preserved : ∀ operation state, property state →
      property (step operation state))
    (operations : List Operation) {state : State}
    (initially : property state) :
    Always step property operations state := by
  induction operations generalizing state with
  | nil => exact (always_nil step).mpr initially
  | cons operation operations ih =>
      exact (always_cons step).mpr
        ⟨initially, ih (preserved operation state initially)⟩

/-- If a step leaves a first property or turns it into one that is kept from
then on, a run keeps the first property throughout or there is one operation
that turns it. -/
theorem always_or_turned {Kind : Type*} {first : State → Prop}
    {second : Kind → State → Prop}
    (turns : ∀ operation state, first state →
      first (step operation state) ∨ ∃ kind, second kind (step operation state))
    (keeps : ∀ kind operation state, second kind state →
      second kind (step operation state))
    (operations : List Operation) {state : State} (initially : first state) :
    Always step first operations state ∨
      ∃ kind before operation later,
        operations = before ++ operation :: later ∧
        Always step first before state ∧
        Always step (second kind) later
          (run step (before ++ [operation]) state) := by
  induction operations generalizing state with
  | nil => exact .inl ((always_nil step).mpr initially)
  | cons operation operations ih =>
      rcases turns operation state initially with stays | ⟨kind, turned⟩
      · rcases ih stays with always |
          ⟨kind, before, turning, later, rfl, always, kept⟩
        · exact .inl ((always_cons step).mpr ⟨initially, always⟩)
        · exact .inr ⟨kind, operation :: before, turning, later, rfl,
            (always_cons step).mpr ⟨initially, always⟩, kept⟩
      · exact .inr ⟨kind, [], operation, operations, rfl,
          (always_nil step).mpr initially,
          always_of_preserved step (keeps kind) operations turned⟩

/-- A guard that an invariant implies admits every run. -/
theorem guarded_of_invariant {guard : Operation → State → Prop}
    {invariant : State → Prop}
    (preserved : ∀ operation state, invariant state →
      invariant (step operation state))
    (allowed : ∀ operation state, invariant state → guard operation state)
    (operations : List Operation) {state : State}
    (initially : invariant state) : Guarded step guard operations state := by
  induction operations generalizing state with
  | nil => trivial
  | cons operation operations ih =>
      exact ⟨allowed operation state initially,
        ih (preserved operation state initially)⟩

/-- Operations that a guard admits in every state make an admitted run. -/
theorem guarded_of_forall_mem {guard : Operation → State → Prop}
    {operations : List Operation}
    (allowed : ∀ operation ∈ operations, ∀ state, guard operation state)
    (state : State) : Guarded step guard operations state := by
  induction operations generalizing state with
  | nil => trivial
  | cons operation operations ih =>
      obtain ⟨allowedHere, allowedLater⟩ := List.forall_mem_cons.mp allowed
      exact ⟨allowedHere state, ih allowedLater (step operation state)⟩

/-- The guard that admits every operation admits every run. -/
theorem guarded_trivial (operations : List Operation) (state : State) :
    Guarded step (fun _ _ => True) operations state :=
  @guarded_of_invariant _ _ step (fun _ _ => True) (fun _ => True)
    (fun _ _ _ => trivial) (fun _ _ _ => trivial) operations state trivial

/-- If, in states satisfying the invariant and the property, the guard says
exactly when an assumed step keeps the property, then a run of assumed steps
keeps the property throughout exactly when it is guarded. -/
theorem always_iff_guarded_of_assumed {assumed guard : Operation → State → Prop}
    {invariant property : State → Prop}
    (preserved : ∀ operation state, invariant state →
      assumed operation state → invariant (step operation state))
    (exact_step : ∀ operation state, invariant state →
      assumed operation state → property state →
      (property (step operation state) ↔ guard operation state))
    {operations : List Operation} {state : State}
    (initialInvariant : invariant state) (initially : property state)
    (assumedRun : Guarded step assumed operations state) :
    Always step property operations state ↔
      Guarded step guard operations state := by
  induction operations generalizing state with
  | nil => simpa [always_nil, Guarded] using initially
  | cons operation operations ih =>
      obtain ⟨assumedHere, assumedLater⟩ := assumedRun
      have here := exact_step operation state initialInvariant assumedHere
        initially
      have nextInvariant := preserved operation state initialInvariant
        assumedHere
      rw [always_cons, Guarded]
      constructor
      · rintro ⟨-, later⟩
        have next : property (step operation state) :=
          later [] List.nil_prefix
        exact ⟨here.mp next, (ih nextInvariant next assumedLater).mp later⟩
      · rintro ⟨allowed, rest⟩
        have next := here.mpr allowed
        exact ⟨initially, (ih nextInvariant next assumedLater).mpr rest⟩

/-- If, in states satisfying the invariant and the property, the guard says
exactly when a step keeps the property, then a run keeps the property
throughout exactly when it is guarded. -/
theorem always_iff_guarded {guard : Operation → State → Prop}
    {invariant property : State → Prop}
    (preserved : ∀ operation state, invariant state →
      invariant (step operation state))
    (exact_step : ∀ operation state, invariant state → property state →
      (property (step operation state) ↔ guard operation state))
    (operations : List Operation) {state : State}
    (initialInvariant : invariant state) (initially : property state) :
    Always step property operations state ↔
      Guarded step guard operations state :=
  always_iff_guarded_of_assumed step
    (fun operation state inv _ => preserved operation state inv)
    (fun operation state inv _ => exact_step operation state inv)
    initialInvariant initially (guarded_trivial step operations state)

/-- The case in which the property alone decides which steps keep it. -/
theorem always_iff_guarded_of_exact {guard : Operation → State → Prop}
    {property : State → Prop}
    (exact_step : ∀ operation state, property state →
      (property (step operation state) ↔ guard operation state))
    (operations : List Operation) {state : State}
    (initially : property state) :
    Always step property operations state ↔
      Guarded step guard operations state :=
  @always_iff_guarded _ _ step guard (fun _ => True) property
    (fun _ _ _ => trivial)
    (fun operation state _ => exact_step operation state) operations state
    trivial initially

/-- Guards that agree on assumed operations in states satisfying an invariant
admit the same runs of assumed operations. -/
theorem guarded_congr_of_assumed {assumed first second : Operation → State → Prop}
    {invariant : State → Prop}
    (preserved : ∀ operation state, invariant state →
      invariant (step operation state))
    (agree : ∀ operation state, invariant state → assumed operation state →
      (first operation state ↔ second operation state))
    {operations : List Operation} {state : State}
    (initially : invariant state)
    (assumedRun : Guarded step assumed operations state) :
    Guarded step first operations state ↔
      Guarded step second operations state := by
  induction operations generalizing state with
  | nil => rfl
  | cons operation operations ih =>
      obtain ⟨assumedHere, assumedLater⟩ := assumedRun
      rw [Guarded, Guarded, agree operation state initially assumedHere,
        ih (preserved operation state initially) assumedLater]

/-- Guards that agree in states satisfying an invariant admit the same runs. -/
theorem guarded_congr {first second : Operation → State → Prop}
    {invariant : State → Prop}
    (preserved : ∀ operation state, invariant state →
      invariant (step operation state))
    (agree : ∀ operation state, invariant state →
      (first operation state ↔ second operation state))
    (operations : List Operation) {state : State}
    (initially : invariant state) :
    Guarded step first operations state ↔
      Guarded step second operations state :=
  guarded_congr_of_assumed step preserved
    (fun operation state inv _ => agree operation state inv) initially
    (guarded_trivial step operations state)

/-- A run that meets a guard meets every guard that follows from it and from an
invariant of the guarded steps. -/
theorem guarded_of_guarded {first second : Operation → State → Prop}
    {invariant : State → Prop}
    (preserved : ∀ operation state, invariant state →
      first operation state → invariant (step operation state))
    (implied : ∀ operation state, invariant state →
      first operation state → second operation state)
    {operations : List Operation} {state : State}
    (initially : invariant state)
    (guarded : Guarded step first operations state) :
    Guarded step second operations state := by
  induction operations generalizing state with
  | nil => trivial
  | cons operation operations ih =>
      obtain ⟨allowed, rest⟩ := guarded
      exact ⟨implied operation state initially allowed,
        ih (preserved operation state initially allowed) rest⟩

/-- Any later state of the run is related to any earlier one. -/
def Throughout (relation : State → State → Prop)
    (operations : List Operation) (state : State) : Prop :=
  ∀ earlier later, earlier ++ later <+: operations →
    relation (run step earlier state) (run step (earlier ++ later) state)

/-- A preorder relates all states of a run exactly if every step respects it. -/
theorem throughout_iff_guarded {relation : State → State → Prop}
    (reflexive : ∀ state, relation state state)
    (transitive : ∀ {first second third}, relation first second →
      relation second third → relation first third)
    (operations : List Operation) (state : State) :
    Throughout step relation operations state ↔
      Guarded step (fun operation current =>
        relation current (step operation current)) operations state := by
  constructor
  · intro throughout
    induction operations generalizing state with
    | nil => trivial
    | cons operation operations ih =>
        refine ⟨throughout [] [operation] ?_, ih (step operation state) ?_⟩
        · exact (List.prefix_cons_inj operation).mpr List.nil_prefix
        · intro earlier later isInitial
          exact throughout (operation :: earlier) later
            ((List.prefix_cons_inj operation).mpr isInitial)
  · intro guarded earlier later isInitial
    obtain ⟨rest, rfl⟩ := isInitial
    rw [guarded_append, guarded_append] at guarded
    obtain ⟨⟨-, guardedLater⟩, -⟩ := guarded
    rw [run_append]
    have always := always_of_guarded step
      (fun operation current related allowed =>
        transitive related allowed)
      (reflexive (run step earlier state)) guardedLater
    exact always later List.prefix_rfl

end Tca.GuardedRuns
