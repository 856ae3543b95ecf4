import Tca.GuardedRuns
import Mathlib.Data.List.Basic

/-!
# Interleaved calls on a shared store

A call takes a sequence of atomic steps on a store that it shares with other
calls.  Between two of its steps any other call may take steps of its own, so
what a call remembers from an earlier step may be out of date at a later one.
The file defines runs of such calls, proves the rule by which an invariant of
the store and the knowledge of every suspended call are kept by a run, and
describes the run in which a single call is left undisturbed.
-/

namespace Tca.InterleavedCalls

open GuardedRuns

/-- Where a call stands: suspended before an atomic step, ended with a result,
or abandoned because its process stopped. -/
inductive Progress (Phase Result : Type*) where
  | suspended (phase : Phase)
  | ended (result : Result)
  | abandoned
  deriving DecidableEq

/-- The call has returned or raised. -/
def Progress.isEnded {Phase Result : Type*} : Progress Phase Result → Bool
  | .ended _ => true
  | _ => false

/-- The calls that a store offers: the phase in which a requested call starts
and the atomic step of each phase.  A step may depend on an input from outside
the store, such as a clock reading or a reply. -/
structure Protocol (Store Request Phase Input Result : Type*) where
  enter : Request → Phase
  advance : Phase → Input → Store → Progress Phase Result × Store

/-- The store together with all calls made so far, in order of arrival. -/
@[ext]
structure System (Store Phase Result : Type*) where
  store : Store
  calls : List (Progress Phase Result)

/-- What the scheduler may do next. -/
inductive Event (Request Input : Type*) where
  | start (request : Request)
  | resume (call : Nat) (input : Input)
  | abandon (call : Nat)
  deriving DecidableEq

/-- An element of an updated list is the new one or one that was there. -/
theorem getElem?_set_cases {Element : Type*} {elements : List Element}
    {changed index : Nat} {new element : Element}
    (found : (elements.set changed new)[index]? = some element) :
    (changed = index ∧ element = new) ∨
      (changed ≠ index ∧ elements[index]? = some element) := by
  rw [List.getElem?_set] at found
  split at found
  · rename_i same
    split at found
    · exact .inl ⟨same, (Option.some.inj found).symm⟩
    · cases found
  · rename_i different
    exact .inr ⟨different, found⟩

variable {Store Request Phase Input Result : Type*}

namespace System

/-- The phase of a call that is still running. -/
def phase? (system : System Store Phase Result) (call : Nat) : Option Phase :=
  match system.calls[call]? with
  | some (.suspended phase) => some phase
  | _ => none

theorem phase?_eq_some_iff {system : System Store Phase Result} {call : Nat}
    {phase : Phase} :
    system.phase? call = some phase ↔
      system.calls[call]? = some (.suspended phase) := by
  unfold phase?
  split
  · rename_i found
    simp [found]
  · rename_i other
    simpa using other phase

theorem mem_calls_of_phase? {system : System Store Phase Result} {call : Nat}
    {phase : Phase} (running : system.phase? call = some phase) :
    .suspended phase ∈ system.calls :=
  List.mem_of_getElem? (phase?_eq_some_iff.mp running)

/-- A store on which no call has been made. -/
def idle (store : Store) : System Store Phase Result :=
  ⟨store, []⟩

end System

namespace Protocol

variable (protocol : Protocol Store Request Phase Input Result)

/-- The effect of an event.  Resuming or abandoning a call that is not running
changes nothing. -/
def step : Event Request Input → System Store Phase Result →
    System Store Phase Result
  | .start request, system =>
      { system with
        calls := system.calls ++ [.suspended (protocol.enter request)] }
  | .resume call input, system =>
      match system.phase? call with
      | none => system
      | some phase =>
          { store := (protocol.advance phase input system.store).2
            calls := system.calls.set call
              (protocol.advance phase input system.store).1 }
  | .abandon call, system =>
      match system.phase? call with
      | none => system
      | some _ => { system with calls := system.calls.set call .abandoned }

variable {system : System Store Phase Result} {call : Nat} {phase : Phase}
  {input : Input}

theorem step_resume_of_none (notRunning : system.phase? call = none) :
    protocol.step (.resume call input) system = system := by
  simp [step, notRunning]

theorem step_resume_of_some (running : system.phase? call = some phase) :
    protocol.step (.resume call input) system =
      { store := (protocol.advance phase input system.store).2
        calls := system.calls.set call
          (protocol.advance phase input system.store).1 } := by
  simp [step, running]

/-- A request adds one running call. -/
theorem phase?_start_iff {request : Request} {later : Phase} :
    (protocol.step (.start request) system).phase? call = some later ↔
      system.phase? call = some later ∨
        (call = system.calls.length ∧ later = protocol.enter request) := by
  rw [System.phase?_eq_some_iff, System.phase?_eq_some_iff]
  simp only [step, List.getElem?_append]
  split
  · rename_i earlier
    have notNew : call ≠ system.calls.length := by omega
    simp [notNew]
  · rename_i notEarlier
    rcases Nat.eq_or_lt_of_le (Nat.le_of_not_lt notEarlier) with new | beyond
    · simp [new, eq_comm]
    · have absent : system.calls[call]? = none :=
        List.getElem?_eq_none (Nat.le_of_lt beyond)
      have notNew : call - system.calls.length ≠ 0 := by omega
      simp [absent, Nat.ne_of_gt beyond, notNew]

/-- A resumed call is where its step left it, the others are where they
were. -/
theorem phase?_resume_iff (running : system.phase? call = some phase)
    {other : Nat} {later : Phase} :
    (protocol.step (.resume call input) system).phase? other = some later ↔
      (other = call ∧
          (protocol.advance phase input system.store).1 = .suspended later) ∨
        (other ≠ call ∧ system.phase? other = some later) := by
  have inRange : call < system.calls.length :=
    (List.getElem?_eq_some_iff.mp (System.phase?_eq_some_iff.mp running)).1
  rw [step_resume_of_some protocol running, System.phase?_eq_some_iff]
  by_cases same : other = call
  · subst same
    simp [List.getElem?_set_self inRange]
  · simp [List.getElem?_set_ne (Ne.symm same), same,
      System.phase?_eq_some_iff]

/-- A call that was abandoned stays so. -/
theorem abandoned_mem_step (event : Event Request Input)
    (stopped : .abandoned ∈ system.calls) :
    .abandoned ∈ (protocol.step event system).calls := by
  obtain ⟨index, found⟩ := List.mem_iff_getElem?.mp stopped
  have kept : ∀ call progress, (system.phase? call).isSome →
      .abandoned ∈ system.calls.set call progress := by
    intro call progress running
    have different : call ≠ index := by
      rintro rfl
      simp [System.phase?, found] at running
    refine List.mem_of_getElem? (i := index) ?_
    rw [List.getElem?_set_ne different, found]
  cases event with
  | start request => exact List.mem_append_left _ stopped
  | resume call input =>
      cases running : system.phase? call with
      | none => rwa [step_resume_of_none protocol running]
      | some phase =>
          rw [step_resume_of_some protocol running]
          exact kept call _ (by simp [running])
  | abandon call =>
      simp only [step]
      split
      · exact stopped
      · rename_i running
        exact kept call _ (by simp [running])

/-- The store after an event: only a resumed call can have changed it. -/
theorem step_store (event : Event Request Input)
    (system : System Store Phase Result) :
    (protocol.step event system).store = system.store ∨
      ∃ call input phase, event = .resume call input ∧
        system.phase? call = some phase ∧
        (protocol.step event system).store =
          (protocol.advance phase input system.store).2 := by
  cases event with
  | start request => exact .inl rfl
  | resume call input =>
      cases running : system.phase? call with
      | none => exact .inl (by rw [step_resume_of_none protocol running])
      | some phase =>
          exact .inr ⟨call, input, phase, rfl, running,
            by rw [step_resume_of_some protocol running]⟩
  | abandon call =>
      simp only [step]
      split <;> exact .inl rfl

/-- Restricts a run to admitted requests and each step of a call to the stores
in which the guard allows it. -/
def Permits (admitted : Request → Prop)
    (guard : Phase → Input → Store → Prop) :
    Event Request Input → System Store Phase Result → Prop
  | .start request, _ => admitted request
  | .resume call input, system =>
      ∀ phase ∈ system.phase? call, guard phase input system.store
  | .abandon _, _ => True

instance {admitted : Request → Prop} {guard : Phase → Input → Store → Prop}
    [DecidablePred admitted]
    [∀ phase input store, Decidable (guard phase input store)] :
    ∀ (event : Event Request Input) (system : System Store Phase Result),
      Decidable (Permits admitted guard event system)
  | .start request, _ => inferInstanceAs (Decidable (admitted request))
  | .resume call input, system =>
      inferInstanceAs
        (Decidable (∀ phase ∈ system.phase? call, guard phase input system.store))
  | .abandon _, _ => .isTrue trivial

/-- An invariant of the store that every step of a call preserves is preserved
by every event. -/
theorem step_store_preserved {invariant : Store → Prop}
    (preserved : ∀ phase input store, invariant store →
      invariant (protocol.advance phase input store).2)
    (event : Event Request Input) (system : System Store Phase Result)
    (holds : invariant system.store) :
    invariant (protocol.step event system).store := by
  rcases protocol.step_store event system with same |
    ⟨call, input, phase, -, -, advanced⟩
  · rwa [same]
  · rw [advanced]
    exact preserved phase input system.store holds

/-- If, in stores satisfying the invariant, the guard says exactly which steps
keep a property of the store, a run keeps the property throughout exactly when
every step meets the guard. -/
theorem always_store_iff_guarded {guard : Phase → Input → Store → Prop}
    {invariant property : Store → Prop}
    (preserved : ∀ phase input store, invariant store →
      invariant (protocol.advance phase input store).2)
    (exact_advance : ∀ phase input store, invariant store → property store →
      (property (protocol.advance phase input store).2 ↔
        guard phase input store))
    (events : List (Event Request Input))
    {system : System Store Phase Result}
    (initialInvariant : invariant system.store)
    (initially : property system.store) :
    Always protocol.step (fun later => property later.store) events system ↔
      Guarded protocol.step (Permits (fun _ => True) guard) events system := by
  refine always_iff_guarded protocol.step
    (protocol.step_store_preserved preserved)
    (fun event current holdsInvariant holds => ?_) events initialInvariant
    initially
  cases event with
  | start request => exact iff_of_true holds trivial
  | resume call input =>
      cases running : current.phase? call with
      | none =>
          rw [step_resume_of_none protocol running]
          simpa [Permits, running] using holds
      | some phase =>
          rw [step_resume_of_some protocol running]
          simpa [Permits, running] using
            exact_advance phase input current.store holdsInvariant holds
  | abandon call =>
      refine iff_of_true ?_ trivial
      simp only [step]
      split <;> exact holds

/-- The invariant holds of the store and every call knows what it should. -/
def Annotated (invariant : Store → Prop)
    (knows : Progress Phase Result → Store → Prop)
    (system : System Store Phase Result) : Prop :=
  invariant system.store ∧ ∀ call ∈ system.calls, knows call system.store

/-- Restricts a run to admitted requests and each step of a call to the stores
in which the guard allows it and to the calls that the step spares. -/
def PermitsBeside (admitted : Request → Prop)
    (guard : Phase → Input → Store → Prop)
    (spares : Phase → Input → Store → Progress Phase Result → Prop) :
    Event Request Input → System Store Phase Result → Prop
  | .start request, _ => admitted request
  | .resume call input, system =>
      ∀ phase ∈ system.phase? call, guard phase input system.store ∧
        ∀ other ∈ system.calls, spares phase input system.store other
  | .abandon _, _ => True

instance {admitted : Request → Prop} {guard : Phase → Input → Store → Prop}
    {spares : Phase → Input → Store → Progress Phase Result → Prop}
    [DecidablePred admitted]
    [∀ phase input store, Decidable (guard phase input store)]
    [∀ phase input store other, Decidable (spares phase input store other)] :
    ∀ (event : Event Request Input) (system : System Store Phase Result),
      Decidable (PermitsBeside admitted guard spares event system)
  | .start request, _ => inferInstanceAs (Decidable (admitted request))
  | .resume call input, system =>
      inferInstanceAs (Decidable (∀ phase ∈ system.phase? call,
        guard phase input system.store ∧
          ∀ other ∈ system.calls, spares phase input system.store other))
  | .abandon _, _ => .isTrue trivial

section NonInterference

variable {admitted : Request → Prop} {guard : Phase → Input → Store → Prop}
  {invariant : Store → Prop} {knows : Progress Phase Result → Store → Prop}
  (entered : ∀ request store, admitted request → invariant store →
    knows (.suspended (protocol.enter request)) store)
  (left : ∀ store, knows .abandoned store)
  (own : ∀ phase input store, invariant store →
    knows (.suspended phase) store → guard phase input store →
    invariant (protocol.advance phase input store).2 ∧
      knows (protocol.advance phase input store).1
        (protocol.advance phase input store).2)

include entered left own

/-- Every permitted event keeps an annotation, provided that each step of a
call establishes the call's next knowledge and disturbs no knowledge of the
calls that it spares. -/
theorem annotated_step_beside
    {spares : Phase → Input → Store → Progress Phase Result → Prop}
    (stable : ∀ phase input store other, invariant store →
      knows (.suspended phase) store → guard phase input store →
      spares phase input store other → knows other store →
      knows other (protocol.advance phase input store).2)
    (event : Event Request Input) (system : System Store Phase Result)
    (annotated : Annotated invariant knows system)
    (permitted : PermitsBeside admitted guard spares event system) :
    Annotated invariant knows (protocol.step event system) := by
  obtain ⟨holds, known⟩ := annotated
  cases event with
  | start request =>
      refine ⟨holds, fun call member => ?_⟩
      rcases List.mem_append.mp member with earlier | new
      · exact known call earlier
      · rw [List.mem_singleton.mp new]
        exact entered request system.store permitted holds
  | resume call input =>
      cases running : system.phase? call with
      | none => rw [step_resume_of_none protocol running]; exact ⟨holds, known⟩
      | some phase =>
          have knowsPhase := known _ (System.mem_calls_of_phase? running)
          obtain ⟨allowed, spared⟩ := permitted phase running
          obtain ⟨holdsAfter, knowsNext⟩ :=
            own phase input system.store holds knowsPhase allowed
          rw [step_resume_of_some protocol running]
          refine ⟨holdsAfter, fun other member => ?_⟩
          rcases List.mem_or_eq_of_mem_set member with stays | rfl
          · exact stable phase input system.store other holds knowsPhase
              allowed (spared other stays) (known other stays)
          · exact knowsNext
  | abandon call =>
      simp only [step]
      split
      · exact ⟨holds, known⟩
      · refine ⟨holds, fun other member => ?_⟩
        rcases List.mem_or_eq_of_mem_set member with stays | rfl
        · exact known other stays
        · exact left system.store

/-- The rule for steps that spare every call. -/
theorem annotated_step
    (stable : ∀ phase input store other, invariant store →
      knows (.suspended phase) store → guard phase input store →
      knows other store →
      knows other (protocol.advance phase input store).2)
    (event : Event Request Input) (system : System Store Phase Result)
    (annotated : Annotated invariant knows system)
    (permitted : Permits admitted guard event system) :
    Annotated invariant knows (protocol.step event system) := by
  have beside : PermitsBeside admitted guard (fun _ _ _ _ => True) event
      system := by
    cases event with
    | start request => exact permitted
    | resume call input =>
        exact fun phase running =>
          ⟨permitted phase running, fun _ _ => trivial⟩
    | abandon call => trivial
  exact protocol.annotated_step_beside entered left own
    (fun phase input store other holds known allowed _ =>
      stable phase input store other holds known allowed)
    event system annotated beside

end NonInterference

section Unrestricted

variable {invariant : Store → Prop}
  {knows : Progress Phase Result → Store → Prop}
  (entered : ∀ request store, invariant store →
    knows (.suspended (protocol.enter request)) store)
  (left : ∀ store, knows .abandoned store)
  (own : ∀ phase input store, invariant store →
    knows (.suspended phase) store →
    invariant (protocol.advance phase input store).2 ∧
      knows (protocol.advance phase input store).1
        (protocol.advance phase input store).2)
  (stable : ∀ phase input store other, invariant store →
    knows (.suspended phase) store → knows other store →
    knows other (protocol.advance phase input store).2)

include entered left own stable

/-- The rule for arbitrary events. -/
theorem annotated_step_unrestricted (event : Event Request Input)
    (system : System Store Phase Result)
    (annotated : Annotated invariant knows system) :
    Annotated invariant knows (protocol.step event system) := by
  have permitted : Permits (fun _ => True) (fun _ _ _ => True) event
      system := by
    cases event with
    | start request => trivial
    | resume call input => exact fun _ _ => trivial
    | abandon call => trivial
  exact protocol.annotated_step
    (fun request store _ holds => entered request store holds) left
    (fun phase input store holds known _ => own phase input store holds known)
    (fun phase input store other holds known _ otherKnown =>
      stable phase input store other holds known otherKnown)
    event system annotated permitted

/-- The rule for runs of arbitrary events. -/
theorem always_annotated (events : List (Event Request Input)) {store : Store}
    (initially : invariant store) :
    Always protocol.step (Annotated invariant knows) events
      (System.idle store) :=
  always_of_preserved protocol.step
    (protocol.annotated_step_unrestricted entered left own stable) events
    ⟨initially, by simp [System.idle]⟩

end Unrestricted

/-- Let a call take its steps one after the other. -/
def undisturbed : List Input → Progress Phase Result → Store →
    Progress Phase Result × Store
  | input :: inputs, .suspended phase, store =>
      undisturbed inputs (protocol.advance phase input store).1
        (protocol.advance phase input store).2
  | _, progress, store => (progress, store)

theorem undisturbed_ended (inputs : List Input) (result : Result)
    (store : Store) :
    protocol.undisturbed inputs (.ended result) store =
      (.ended result, store) := by
  cases inputs <;> rfl

/-- Resuming one call only, and with nothing in between, is the undisturbed
execution of the call. -/
theorem run_resume_undisturbed (inputs : List Input)
    (calls : List (Progress Phase Result)) (progress : Progress Phase Result)
    (store : Store) :
    run protocol.step (inputs.map (.resume calls.length))
        ⟨store, calls ++ [progress]⟩ =
      ⟨(protocol.undisturbed inputs progress store).2,
        calls ++ [(protocol.undisturbed inputs progress store).1]⟩ := by
  induction inputs generalizing progress store with
  | nil => cases progress <;> rfl
  | cons input inputs ih =>
      rw [List.map_cons, run_cons]
      cases progress with
      | suspended phase =>
          have running : System.phase?
              (⟨store, calls ++ [.suspended phase]⟩ :
                System Store Phase Result) calls.length = some phase :=
            System.phase?_eq_some_iff.mpr (by simp)
          rw [step_resume_of_some protocol running]
          simpa [undisturbed] using ih _ _
      | ended result =>
          rw [step_resume_of_none protocol (by simp [System.phase?]), ih,
            undisturbed_ended, undisturbed_ended]
      | abandoned =>
          rw [step_resume_of_none protocol (by simp [System.phase?]), ih]
          cases inputs <;> rfl

/-- A call that is started and resumed with nothing in between. -/
theorem run_start_undisturbed (request : Request) (inputs : List Input)
    (system : System Store Phase Result) :
    run protocol.step
        (.start request :: inputs.map (.resume system.calls.length)) system =
      ⟨(protocol.undisturbed inputs (.suspended (protocol.enter request))
          system.store).2,
        system.calls ++ [(protocol.undisturbed inputs
          (.suspended (protocol.enter request)) system.store).1]⟩ := by
  rw [run_cons]
  exact run_resume_undisturbed protocol inputs system.calls
    (.suspended (protocol.enter request)) system.store

end Protocol

end Tca.InterleavedCalls
