import Tca.InterleavedCalls
import Mathlib.Data.List.Forall2

/-!
# Two runs in lockstep

Two protocols run side by side.  Their calls are started, resumed and abandoned
at the same times, with requests and inputs that are related.  If the steps of
related calls on related stores end in related calls and stores, the two runs
stay related, and so do the results that their calls end with.
-/

namespace Tca.InterleavedCalls

open GuardedRuns

section Lockstep

variable {Store Request Phase Input Result : Type*}
  {Store' Request' Phase' Input' Result' : Type*}

/-- Related requests, phases, inputs, results and stores of two protocols. -/
structure Likeness (Store Request Phase Input Result : Type*)
    (Store' Request' Phase' Input' Result' : Type*) where
  store : Store → Store' → Prop
  request : Request → Request' → Prop
  phase : Phase → Phase' → Prop
  input : Input → Input' → Prop
  result : Result → Result' → Prop

variable (likeness : Likeness Store Request Phase Input Result
  Store' Request' Phase' Input' Result')

namespace Likeness

/-- Two calls stand at related places. -/
inductive Progress : InterleavedCalls.Progress Phase Result →
    InterleavedCalls.Progress Phase' Result' → Prop
  | suspended {phase : Phase} {phase' : Phase'}
      (alike : likeness.phase phase phase') :
      Progress (.suspended phase) (.suspended phase')
  | ended {result : Result} {result' : Result'}
      (alike : likeness.result result result') :
      Progress (.ended result) (.ended result')
  | abandoned : Progress .abandoned .abandoned

/-- The same call is started, resumed or abandoned in both runs. -/
inductive Event : InterleavedCalls.Event Request Input →
    InterleavedCalls.Event Request' Input' → Prop
  | start {request : Request} {request' : Request'}
      (alike : likeness.request request request') :
      Event (.start request) (.start request')
  | resume (call : Nat) {input : Input} {input' : Input'}
      (alike : likeness.input input input') :
      Event (.resume call input) (.resume call input')
  | abandon (call : Nat) : Event (.abandon call) (.abandon call)

structure System (system : InterleavedCalls.System Store Phase Result)
    (system' : InterleavedCalls.System Store' Phase' Result') : Prop where
  store : likeness.store system.store system'.store
  calls : List.Forall₂ likeness.Progress system.calls system'.calls

/-- The steps of related calls on related stores are related. -/
structure Steps (protocol : Protocol Store Request Phase Input Result)
    (protocol' : Protocol Store' Request' Phase' Input' Result') : Prop where
  enter : ∀ request request', likeness.request request request' →
    likeness.phase (protocol.enter request) (protocol'.enter request')
  advance : ∀ phase phase' input input' store store',
    likeness.phase phase phase' → likeness.input input input' →
      likeness.store store store' →
        likeness.Progress (protocol.advance phase input store).1
            (protocol'.advance phase' input' store').1 ∧
          likeness.store (protocol.advance phase input store).2
            (protocol'.advance phase' input' store').2

variable {likeness} {protocol : Protocol Store Request Phase Input Result}
  {protocol' : Protocol Store' Request' Phase' Input' Result'}
  {system : InterleavedCalls.System Store Phase Result}
  {system' : InterleavedCalls.System Store' Phase' Result'}

theorem forall₂_getElem? {Element Element' : Type*}
    {related : Element → Element' → Prop} {elements : List Element}
    {elements' : List Element'}
    (alike : List.Forall₂ related elements elements') (index : Nat) :
    Option.Rel related elements[index]? elements'[index]? := by
  induction alike generalizing index with
  | nil => exact .none
  | cons first _ ih =>
      cases index with
      | zero => exact .some first
      | succ index => exact ih index

theorem forall₂_set {Element Element' : Type*}
    {related : Element → Element' → Prop} {elements : List Element}
    {elements' : List Element'}
    (alike : List.Forall₂ related elements elements') (index : Nat)
    {element : Element} {element' : Element'}
    (new : related element element') :
    List.Forall₂ related (elements.set index element)
      (elements'.set index element') := by
  induction alike generalizing index with
  | nil => exact .nil
  | cons first rest ih =>
      cases index with
      | zero => exact .cons new rest
      | succ index => exact .cons first (ih index)

/-- A call is suspended in both runs or in none. -/
theorem System.phase? (alike : likeness.System system system') (call : Nat) :
    Option.Rel likeness.phase (system.phase? call) (system'.phase? call) := by
  have found := forall₂_getElem? alike.calls call
  unfold InterleavedCalls.System.phase?
  revert found
  generalize system.calls[call]? = progress
  generalize system'.calls[call]? = progress'
  rintro (progress | -)
  · cases progress with
    | suspended alike => exact .some alike
    | ended alike => exact .none
    | abandoned => exact .none
  · exact .none

theorem System.step (steps : likeness.Steps protocol protocol')
    (alike : likeness.System system system')
    {event : InterleavedCalls.Event Request Input}
    {event' : InterleavedCalls.Event Request' Input'}
    (same : likeness.Event event event') :
    likeness.System (protocol.step event system)
      (protocol'.step event' system') := by
  cases same with
  | start request =>
      refine ⟨alike.store, List.rel_append alike.calls ?_⟩
      exact .cons (.suspended (steps.enter _ _ request)) .nil
  | @resume call input input' inputs =>
      have running := alike.phase? call
      cases found : system.phase? call with
      | none =>
          rw [found] at running
          cases found' : system'.phase? call with
          | none =>
              rwa [protocol.step_resume_of_none found,
                protocol'.step_resume_of_none found']
          | some phase' =>
              rw [found'] at running
              cases running
      | some phase =>
          rw [found] at running
          cases found' : system'.phase? call with
          | none =>
              rw [found'] at running
              cases running
          | some phase' =>
              rw [found'] at running
              cases running with
              | some phases =>
                  obtain ⟨progress, stores⟩ := steps.advance _ _ _ _ _ _
                    phases inputs alike.store
                  rw [protocol.step_resume_of_some found,
                    protocol'.step_resume_of_some found']
                  exact ⟨stores, forall₂_set alike.calls call progress⟩
  | abandon call =>
      have running := alike.phase? call
      dsimp only [Protocol.step]
      revert running
      generalize system.phase? call = phase
      generalize system'.phase? call = phase'
      rintro (- | -)
      · exact ⟨alike.store, forall₂_set alike.calls call .abandoned⟩
      · exact alike

/-- Runs in lockstep stay related. -/
theorem System.run (steps : likeness.Steps protocol protocol')
    {events : List (InterleavedCalls.Event Request Input)}
    {events' : List (InterleavedCalls.Event Request' Input')}
    (same : List.Forall₂ likeness.Event events events')
    (alike : likeness.System system system') :
    likeness.System (run protocol.step events system)
      (run protocol'.step events' system') := by
  induction same generalizing system system' with
  | nil => exact alike
  | cons first _ ih => exact ih (alike.step steps first)

/-- A call that has ended has ended in both runs, with related results. -/
theorem System.ended (alike : likeness.System system system') {call : Nat}
    {result : Result} (ended : system.calls[call]? = some (.ended result)) :
    ∃ result', system'.calls[call]? = some (.ended result') ∧
      likeness.result result result' := by
  have found := forall₂_getElem? alike.calls call
  rw [ended] at found
  cases found' : system'.calls[call]? with
  | none =>
      rw [found'] at found
      cases found
  | some progress' =>
      rw [found'] at found
      cases found with
      | some progress =>
          cases progress with
          | ended related => exact ⟨_, rfl, related⟩

end Likeness

end Lockstep

end Tca.InterleavedCalls
