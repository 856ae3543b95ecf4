import Mathlib.Logic.Basic

/-!
# Calls of several committed statements

A call reads and writes a state in statements of their own.  An exception ends
the call and leaves what the statements before it have written; a handler goes
on from there.  The file provides the monad of such calls, its evaluation
lemmas and the rule by which a call keeps an invariant of the state.
-/

namespace Tca

universe u

/-- A call: it returns a value or raises, and leaves a state in both cases. -/
def CommittedCall (State Error Value : Type u) : Type u :=
  State → Except Error Value × State

namespace CommittedCall

variable {State Error Value Output : Type u}

/-- Execute a call on a state. -/
def run (call : CommittedCall State Error Value) (state : State) :
    Except Error Value × State :=
  call state

instance : Monad (CommittedCall State Error) where
  pure value := fun state => (.ok value, state)
  bind call next := fun state =>
    match call state with
    | (.ok value, later) => next value later
    | (.error problem, later) => (.error problem, later)

/-- Read from the state; the read may raise. -/
def query (read : State → Except Error Value) :
    CommittedCall State Error Value :=
  fun state => (read state, state)

/-- Execute and commit one statement. -/
def statement (execute : State → Except Error (Value × State)) :
    CommittedCall State Error Value :=
  fun state =>
    match execute state with
    | .ok (value, later) => (.ok value, later)
    | .error problem => (.error problem, state)

/-- Leave the call by an error. -/
def raise (problem : Error) : CommittedCall State Error Value :=
  fun state => (.error problem, state)

/-- Go on with the handler if the body raises. -/
def recover (body : CommittedCall State Error Value)
    (handler : Error → CommittedCall State Error Value) :
    CommittedCall State Error Value :=
  fun state =>
    match body state with
    | (.ok value, later) => (.ok value, later)
    | (.error problem, later) => handler problem later

section Evaluation

variable (state : State)

@[simp]
theorem run_pure (value : Value) :
    (pure value : CommittedCall State Error Value).run state =
      (.ok value, state) :=
  rfl

@[simp]
theorem run_raise (problem : Error) :
    (raise problem : CommittedCall State Error Value).run state =
      (.error problem, state) :=
  rfl

theorem run_bind (call : CommittedCall State Error Value)
    (next : Value → CommittedCall State Error Output) :
    (call >>= next).run state =
      match call.run state with
      | (.ok value, later) => (next value).run later
      | (.error problem, later) => (.error problem, later) :=
  rfl

@[simp]
theorem run_query (read : State → Except Error Value) :
    (query read).run state = (read state, state) :=
  rfl

theorem run_recover (body : CommittedCall State Error Value)
    (handler : Error → CommittedCall State Error Value) :
    (recover body handler).run state =
      match body.run state with
      | (.ok value, later) => (.ok value, later)
      | (.error problem, later) => (handler problem).run later :=
  rfl

variable {state} {later : State} {value : Value} {problem : Error}
  {call : CommittedCall State Error Value}
  {next : Value → CommittedCall State Error Output}
  {handler : Error → CommittedCall State Error Value}

theorem run_bind_of_ok (returned : call.run state = (.ok value, later)) :
    (call >>= next).run state = (next value).run later := by
  rw [run_bind, returned]

theorem run_bind_of_error (raised : call.run state = (.error problem, later)) :
    (call >>= next).run state = (.error problem, later) := by
  rw [run_bind, raised]

theorem run_recover_of_ok (returned : call.run state = (.ok value, later)) :
    (recover call handler).run state = (.ok value, later) := by
  rw [run_recover, returned]

theorem run_statement_of_ok {execute : State → Except Error (Value × State)}
    (executed : execute state = .ok (value, later)) :
    (statement execute).run state = (.ok value, later) := by
  simp only [run, statement, executed]

theorem run_statement_of_error {execute : State → Except Error (Value × State)}
    (failed : execute state = .error problem) :
    (statement execute).run state = (.error problem, state) := by
  simp only [run, statement, failed]

/-- A statement is executed, or nothing is changed. -/
theorem statement_cases (execute : State → Except Error (Value × State))
    (state : State) :
    (∃ value later, execute state = .ok (value, later) ∧
      (statement execute).run state = (.ok value, later)) ∨
    ∃ problem, (statement execute).run state = (.error problem, state) := by
  cases outcome : execute state with
  | error problem => exact Or.inr ⟨problem, run_statement_of_error outcome⟩
  | ok executed =>
      obtain ⟨value, later⟩ := executed
      exact Or.inl ⟨value, later, rfl, run_statement_of_ok outcome⟩

end Evaluation

section Invariants

variable {invariant : State → Prop}

/-- The call leaves a state with the invariant, whether it returns or
raises. -/
def Keeps (invariant : State → Prop)
    (call : CommittedCall State Error Value) : Prop :=
  ∀ state, invariant state → invariant (call.run state).2

theorem keeps_pure (value : Value) :
    Keeps invariant (pure value : CommittedCall State Error Value) :=
  fun _ holds => holds

theorem keeps_raise (problem : Error) :
    Keeps invariant (raise problem : CommittedCall State Error Value) :=
  fun _ holds => holds

theorem keeps_query (read : State → Except Error Value) :
    Keeps invariant (query read) :=
  fun _ holds => holds

theorem keeps_statement {execute : State → Except Error (Value × State)}
    (preserved : ∀ state value later, invariant state →
      execute state = .ok (value, later) → invariant later) :
    Keeps invariant (statement execute) := by
  intro state holds
  rcases statement_cases execute state with
    ⟨value, later, executed, ran⟩ | ⟨problem, ran⟩
  · rw [ran]
    exact preserved state value later holds executed
  · rw [ran]
    exact holds

/-- What the first call leaves is kept by the rest. -/
theorem invariant_bind {call : CommittedCall State Error Value}
    {next : Value → CommittedCall State Error Output} {state : State}
    (first : invariant (call.run state).2)
    (later : ∀ value, Keeps invariant (next value)) :
    invariant ((call >>= next).run state).2 := by
  rw [run_bind]
  generalize call.run state = outcome at first
  rcases outcome with ⟨problem | value, after⟩
  · exact first
  · exact later value after first

theorem Keeps.bind {call : CommittedCall State Error Value}
    {next : Value → CommittedCall State Error Output}
    (first : Keeps invariant call)
    (later : ∀ value, Keeps invariant (next value)) :
    Keeps invariant (call >>= next) :=
  fun state holds => invariant_bind (first state holds) later

/-- A read changes nothing before the rest. -/
theorem invariant_query_bind {read : State → Except Error Value}
    {next : Value → CommittedCall State Error Output} {state : State}
    (here : invariant state)
    (later : ∀ value, invariant ((next value).run state).2) :
    invariant ((query read >>= next).run state).2 := by
  rw [run_bind, run_query]
  cases read state with
  | error problem => exact here
  | ok value => exact later value

/-- What the body leaves is kept by the handler. -/
theorem invariant_recover {body : CommittedCall State Error Value}
    {handler : Error → CommittedCall State Error Value} {state : State}
    (first : invariant (body.run state).2)
    (later : ∀ problem, Keeps invariant (handler problem)) :
    invariant ((recover body handler).run state).2 := by
  rw [run_recover]
  generalize body.run state = outcome at first
  rcases outcome with ⟨problem | value, after⟩
  · exact later problem after first
  · exact first

end Invariants

end CommittedCall

end Tca
