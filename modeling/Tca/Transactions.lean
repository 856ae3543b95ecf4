import Mathlib.Logic.Basic

/-!
# Transactions over a committed state

A transaction body reads and writes a private view of the committed state.
Only an explicit commit publishes the view; leaving the body by an error or
by a return discards whatever was not committed.  The file provides the body
monad and its evaluation lemmas, the rules by which a body keeps an invariant
of the state, and those by which a body on a richer state does what another one
does on a part of it.
-/

namespace Tca

universe u

/-- The last committed state together with the open transaction's view. -/
structure Session (State : Type u) where
  committed : State
  current : State

/-- A transaction body: it consumes a session and either returns a value or
raises, in both cases leaving a session behind. -/
def Transaction (State Error Value : Type u) : Type u :=
  Session State → Except Error Value × Session State

namespace Transaction

variable {State Error Value Output : Type u}

/-- Execute a body from a given session. -/
def run (body : Transaction State Error Value) (session : Session State) :
    Except Error Value × Session State :=
  body session

instance : Monad (Transaction State Error) where
  pure value := fun session => (.ok value, session)
  bind body next := fun session =>
    match body session with
    | (.ok value, later) => next value later
    | (.error problem, later) => (.error problem, later)

/-- Read from the transaction's view. -/
def query (read : State → Value) : Transaction State Error Value :=
  fun session => (.ok (read session.current), session)

/-- Rewrite the transaction's view. -/
def update (write : State → State) : Transaction State Error PUnit :=
  fun session => (.ok ⟨⟩, { session with current := write session.current })

/-- Rewrite the transaction's view if the condition holds. -/
def updateWhen (condition : Prop) [Decidable condition]
    (write : State → State) : Transaction State Error PUnit :=
  if condition then update write else pure ⟨⟩

/-- Rewrite the transaction's view and return a value computed on the way. -/
def modify (change : State → Value × State) :
    Transaction State Error Value :=
  fun session =>
    (.ok (change session.current).1,
      { session with current := (change session.current).2 })

/-- Leave the body by an error. -/
def raise (problem : Error) : Transaction State Error Value :=
  fun session => (.error problem, session)

/-- Leave the body by an error unless the condition holds. -/
def require (condition : Prop) [Decidable condition] (problem : Error) :
    Transaction State Error PUnit :=
  if condition then pure ⟨⟩ else raise problem

/-- Publish the transaction's view. -/
def commit : Transaction State Error PUnit :=
  fun session => (.ok ⟨⟩, { session with committed := session.current })

/-- Open a session on a state, execute the body, and close the session.  Only
what was committed survives. -/
def atomically (body : Transaction State Error Value) (state : State) :
    Except Error Value × State :=
  let outcome := body.run ⟨state, state⟩
  (outcome.1, outcome.2.committed)

section Evaluation

variable (session : Session State)

@[simp]
theorem run_pure (value : Value) :
    (pure value : Transaction State Error Value).run session =
      (.ok value, session) :=
  rfl

@[simp]
theorem run_query_bind (read : State → Value)
    (next : Value → Transaction State Error Output) :
    (query read >>= next).run session =
      (next (read session.current)).run session :=
  rfl

@[simp]
theorem run_update_bind (write : State → State)
    (next : PUnit → Transaction State Error Output) :
    (update write >>= next).run session =
      (next ⟨⟩).run ⟨session.committed, write session.current⟩ :=
  rfl

@[simp]
theorem run_updateWhen_bind (condition : Prop) [Decidable condition]
    (write : State → State) (next : PUnit → Transaction State Error Output) :
    (updateWhen condition write >>= next).run session =
      (next ⟨⟩).run ⟨session.committed,
        if condition then write session.current else session.current⟩ := by
  unfold updateWhen
  split <;> rfl

@[simp]
theorem run_modify_bind (change : State → Value × State)
    (next : Value → Transaction State Error Output) :
    (modify change >>= next).run session =
      (next (change session.current).1).run
        ⟨session.committed, (change session.current).2⟩ :=
  rfl

@[simp]
theorem run_commit_bind
    (next : PUnit → Transaction State Error Output) :
    (commit >>= next).run session =
      (next ⟨⟩).run ⟨session.current, session.current⟩ :=
  rfl

@[simp]
theorem run_require_bind (condition : Prop) [Decidable condition]
    (problem : Error) (next : PUnit → Transaction State Error Output) :
    (require condition problem >>= next).run session =
      if condition then (next ⟨⟩).run session
      else (.error problem, session) := by
  unfold require
  split <;> rfl

@[simp]
theorem run_pure_bind (value : Value)
    (next : Value → Transaction State Error Output) :
    (pure value >>= next).run session = (next value).run session :=
  rfl

theorem run_bind (body : Transaction State Error Value)
    (next : Value → Transaction State Error Output) :
    (body >>= next).run session =
      match body.run session with
      | (.ok value, later) => (next value).run later
      | (.error problem, later) => (.error problem, later) :=
  rfl

end Evaluation

section Invariants

variable {invariant : State → Prop}

/-- The body leaves the view and the committed state with an invariant that
both have. -/
def Keeps (invariant : State → Prop)
    (body : Transaction State Error Value) : Prop :=
  ∀ session, invariant session.committed → invariant session.current →
    invariant (body.run session).2.committed ∧
      invariant (body.run session).2.current

theorem keeps_pure (value : Value) :
    Keeps invariant (pure value : Transaction State Error Value) :=
  fun _ committed current => ⟨committed, current⟩

theorem keeps_raise (problem : Error) :
    Keeps invariant (raise problem : Transaction State Error Value) :=
  fun _ committed current => ⟨committed, current⟩

theorem keeps_query (read : State → Value) :
    Keeps invariant (query read : Transaction State Error Value) :=
  fun _ committed current => ⟨committed, current⟩

theorem keeps_commit :
    Keeps invariant (commit : Transaction State Error PUnit) :=
  fun _ _ current => ⟨current, current⟩

theorem keeps_require (condition : Prop) [Decidable condition]
    (problem : Error) :
    Keeps invariant (require condition problem) := by
  unfold require
  split
  · exact keeps_pure _
  · exact keeps_raise _

theorem keeps_update {write : State → State}
    (preserved : ∀ state, invariant state → invariant (write state)) :
    Keeps invariant (update write : Transaction State Error PUnit) :=
  fun _ committed current => ⟨committed, preserved _ current⟩

theorem keeps_modify {change : State → Value × State}
    (preserved : ∀ state, invariant state → invariant (change state).2) :
    Keeps invariant (modify change : Transaction State Error Value) :=
  fun _ committed current => ⟨committed, preserved _ current⟩

theorem Keeps.bind {body : Transaction State Error Value}
    {next : Value → Transaction State Error Output}
    (first : Keeps invariant body)
    (later : ∀ value, Keeps invariant (next value)) :
    Keeps invariant (body >>= next) := by
  intro session committed current
  have kept := first session committed current
  rw [run_bind]
  generalize body.run session = outcome at kept
  rcases outcome with ⟨problem | value, after⟩
  · exact kept
  · exact later value after kept.1 kept.2

/-- A transaction keeps an invariant of the committed state. -/
theorem Keeps.atomically {body : Transaction State Error Value}
    (keeps : Keeps invariant body) {state : State} (holds : invariant state) :
    invariant (body.atomically state).2 :=
  (keeps ⟨state, state⟩ holds holds).1

end Invariants

section Projections

variable {Part : Type u} {part : State → Part}

/-- The part of a session. -/
def Session.restrict (part : State → Part) (session : Session State) :
    Session Part :=
  ⟨part session.committed, part session.current⟩

/-- On a part of the state the body does what another body does, with the same
result. -/
def Projects (part : State → Part) (body : Transaction State Error Value)
    (onPart : Transaction Part Error Value) : Prop :=
  ∀ session, onPart.run (Session.restrict part session) =
    ((body.run session).1, Session.restrict part (body.run session).2)

theorem projects_pure (value : Value) :
    Projects part (pure value : Transaction State Error Value)
      (pure value) :=
  fun _ => rfl

theorem projects_raise (problem : Error) :
    Projects part (raise problem : Transaction State Error Value)
      (raise problem) :=
  fun _ => rfl

theorem projects_query (read : Part → Value) :
    Projects part
      (query (fun state => read (part state)) : Transaction State Error Value)
      (query read) :=
  fun _ => rfl

theorem projects_commit :
    Projects part (commit : Transaction State Error PUnit) commit :=
  fun _ => rfl

theorem projects_require (condition : Prop) [Decidable condition]
    (problem : Error) :
    Projects part (require condition problem) (require condition problem) := by
  unfold require
  split
  · exact projects_pure _
  · exact projects_raise _

theorem projects_update {write : State → State} {onPart : Part → Part}
    (same : ∀ state, part (write state) = onPart (part state)) :
    Projects part (update write : Transaction State Error PUnit)
      (update onPart) :=
  fun session => by
    simp only [update, run, Session.restrict, same]

theorem projects_modify {change : State → Value × State}
    {onPart : Part → Value × Part}
    (same : ∀ state, onPart (part state) =
      ((change state).1, part (change state).2)) :
    Projects part (modify change : Transaction State Error Value)
      (modify onPart) :=
  fun session => by
    simp only [modify, run, Session.restrict, same]

theorem Projects.bind {body : Transaction State Error Value}
    {onPart : Transaction Part Error Value}
    {next : Value → Transaction State Error Output}
    {nextOnPart : Value → Transaction Part Error Output}
    (first : Projects part body onPart)
    (later : ∀ value, Projects part (next value) (nextOnPart value)) :
    Projects part (body >>= next) (onPart >>= nextOnPart) := by
  intro session
  rw [run_bind, run_bind, first session]
  generalize body.run session = outcome
  rcases outcome with ⟨problem | value, after⟩
  · rfl
  · exact later value after

/-- So does the transaction on the committed state. -/
theorem Projects.atomically {body : Transaction State Error Value}
    {onPart : Transaction Part Error Value} (projects : Projects part body onPart)
    (state : State) :
    onPart.atomically (part state) =
      ((body.atomically state).1, part (body.atomically state).2) := by
  have same := projects ⟨state, state⟩
  simp only [Transaction.atomically]
  rw [show (⟨part state, part state⟩ : Session Part) =
    Session.restrict part ⟨state, state⟩ from rfl, same]
  rfl

end Projections

end Transaction

end Tca
