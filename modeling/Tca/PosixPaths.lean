import Tca.PythonTexts

/-!
# Normalizing POSIX paths

`posixpath.normpath` drops empty and `.` components and resolves `..`
components.  A rooted path keeps its initial slash, or two of them.  The file
shows what a normalized rooted path consists of and that it is its own normal
form.
-/

namespace Tca.PosixPaths

open PythonTexts

/-- The component `.`. -/
def dot : List Char :=
  ['.']

/-- The component `..`. -/
def dotdot : List Char :=
  ['.', '.']

/-- One round of the loop over the components. -/
def addComponent (rooted : Bool) (kept : List (List Char))
    (component : List Char) : List (List Char) :=
  if component = [] ∨ component = dot then kept
  else if component ≠ dotdot ∨ (rooted = false ∧ kept = []) ∨
      kept.getLast? = some dotdot then kept ++ [component]
  else kept.dropLast

/-- Two initial slashes are kept, three or more count as one. -/
def initialSlashes : List Char → Nat
  | '/' :: '/' :: '/' :: _ => 1
  | '/' :: '/' :: _ => 2
  | '/' :: _ => 1
  | _ => 0

/-- The components that are kept. -/
def keptComponents (path : List Char) : List (List Char) :=
  (path.splitOn '/').foldl (addComponent (initialSlashes path != 0)) []

/-- `posixpath.normpath`. -/
def normpath (path : List Char) : List Char :=
  if path = [] then dot
  else
    let normalized := List.replicate (initialSlashes path) '/' ++
      ['/'].intercalate (keptComponents path)
    if normalized = [] then dot else normalized

/-- A component that is kept as it is. -/
def Proper (component : List Char) : Prop :=
  component ≠ [] ∧ component ≠ dot ∧ component ≠ dotdot ∧ '/' ∉ component

section Components

variable {kept components : List (List Char)}

/-- The loop over a rooted path keeps proper components only. -/
theorem foldl_addComponent_proper
    (keptProper : ∀ component ∈ kept, Proper component)
    (plain : ∀ component ∈ components, '/' ∉ component) :
    ∀ component ∈ components.foldl (addComponent true) kept,
      Proper component := by
  induction components generalizing kept with
  | nil => exact keptProper
  | cons component components ih =>
      obtain ⟨plainHere, plainLater⟩ := List.forall_mem_cons.mp plain
      rw [List.foldl_cons]
      refine ih ?_ plainLater
      unfold addComponent
      split
      · exact keptProper
      · rename_i visible
        split
        · rename_i added
          have notLast : kept.getLast? ≠ some dotdot := fun last =>
            (keptProper dotdot (List.mem_of_getLast? last)).2.2.1 rfl
          have notDotdot : component ≠ dotdot := by
            simpa [notLast] using added
          rw [not_or] at visible
          intro other member
          rcases List.mem_append.mp member with earlier | new
          · exact keptProper other earlier
          · rw [List.mem_singleton.mp new]
            exact ⟨visible.1, visible.2, notDotdot, plainHere⟩
        · intro other member
          exact keptProper other (List.dropLast_subset _ member)

/-- Proper components are all kept. -/
theorem foldl_addComponent_of_proper {rooted : Bool}
    (proper : ∀ component ∈ components, Proper component)
    (kept : List (List Char)) :
    components.foldl (addComponent rooted) kept = kept ++ components := by
  induction components generalizing kept with
  | nil => simp
  | cons component components ih =>
      obtain ⟨⟨visible, notDot, notDotdot, -⟩, properLater⟩ :=
        List.forall_mem_cons.mp proper
      have added : addComponent rooted kept component = kept ++ [component] := by
        simp [addComponent, visible, notDot, notDotdot]
      rw [List.foldl_cons, added, ih properLater, List.append_assoc]
      rfl

theorem addComponent_empty (rooted : Bool) (kept : List (List Char)) :
    addComponent rooted kept [] = kept := by
  simp [addComponent]

/-- Nothing is kept that was not there. -/
theorem mem_foldl_addComponent {rooted : Bool} {component : List Char}
    (member : component ∈ components.foldl (addComponent rooted) kept) :
    component ∈ kept ∨ component ∈ components := by
  induction components generalizing kept with
  | nil => exact .inl member
  | cons first components ih =>
      rw [List.foldl_cons] at member
      rcases ih member with inKept | later
      · unfold addComponent at inKept
        split at inKept
        · exact .inl inKept
        · split at inKept
          · rcases List.mem_append.mp inKept with earlier | new
            · exact .inl earlier
            · exact .inr (List.mem_singleton.mp new ▸ List.mem_cons_self)
          · exact .inl (List.dropLast_subset _ inKept)
      · exact .inr (List.mem_cons_of_mem _ later)

end Components

section Rooted

/-- The path with the components after a number of slashes. -/
def rootedPath (slashes : Nat) (components : List (List Char)) : List Char :=
  List.replicate slashes '/' ++ ['/'].intercalate components

variable {slashes : Nat} {components : List (List Char)}

theorem initialSlashes_rooted {path : List Char}
    (rooted : path.head? = some '/') :
    initialSlashes path = 1 ∨ initialSlashes path = 2 := by
  unfold initialSlashes
  split
  · exact .inl rfl
  · exact .inr rfl
  · exact .inl rfl
  · rename_i other
    cases path with
    | nil => cases rooted
    | cons char path =>
        obtain rfl := Option.some.inj rooted
        exact absurd rfl (other path)

theorem normpath_eq {path : List Char} (rooted : path.head? = some '/') :
    normpath path = rootedPath (initialSlashes path) (keptComponents path) := by
  have visible : path ≠ [] := by
    rintro rfl
    cases rooted
  have normalized : rootedPath (initialSlashes path) (keptComponents path) ≠
      [] := by
    rcases initialSlashes_rooted rooted with one | two
    · simp [rootedPath, one]
    · simp [rootedPath, two]
  unfold normpath
  rw [if_neg visible]
  exact if_neg normalized

theorem keptComponents_proper {path : List Char}
    (rooted : path.head? = some '/') :
    ∀ component ∈ keptComponents path, Proper component := by
  have isRooted : (initialSlashes path != 0) = true := by
    rcases initialSlashes_rooted rooted with one | two
    · simp [one]
    · simp [two]
  rw [keptComponents, isRooted]
  exact foldl_addComponent_proper nofun fun _ => notMem_of_mem_splitOn

/-- A normalized rooted path has one or two slashes and proper components. -/
theorem normpath_rooted {path : List Char} (rooted : path.head? = some '/') :
    ∃ slashes components, (slashes = 1 ∨ slashes = 2) ∧
      (∀ component ∈ components, Proper component) ∧
      (∀ component ∈ components, ∀ char ∈ component, char ∈ path) ∧
      normpath path = rootedPath slashes components := by
  refine ⟨initialSlashes path, keptComponents path,
    initialSlashes_rooted rooted, keptComponents_proper rooted, ?_,
    normpath_eq rooted⟩
  intro component member char inComponent
  rcases mem_foldl_addComponent member with absent | isPart
  · cases absent
  · exact mem_of_mem_splitOn isPart inComponent

/-- Components with a character that is no slash. -/
theorem intercalate_cons {component : List Char}
    (proper : ∀ other ∈ component :: components, Proper other) :
    ∃ char rest, char ≠ '/' ∧
      ['/'].intercalate (component :: components) = char :: rest := by
  obtain ⟨visible, -, -, plain⟩ := proper component List.mem_cons_self
  cases component with
  | nil => exact absurd rfl visible
  | cons char component =>
      obtain ⟨notSlash, -⟩ := List.ne_and_not_mem_of_not_mem_cons plain
      exact ⟨char, _, Ne.symm notSlash, List.intercalate_cons_cons_left⟩

theorem initialSlashes_rootedPath (number : slashes = 1 ∨ slashes = 2)
    (proper : ∀ component ∈ components, Proper component)
    (visible : components ≠ []) (rest : List Char) :
    initialSlashes (rootedPath slashes components ++ rest) = slashes := by
  cases components with
  | nil => exact absurd rfl visible
  | cons component components =>
      obtain ⟨char, others, notSlash, joined⟩ := intercalate_cons proper
      rw [rootedPath, joined]
      rcases number with rfl | rfl
      · simp only [List.replicate, List.cons_append, List.nil_append]
        rw [initialSlashes]
        · intro tail same
          exact notSlash (List.cons.inj same).1
        · intro tail same
          exact notSlash (List.cons.inj same).1
      · simp only [List.replicate, List.cons_append, List.nil_append]
        rw [initialSlashes]
        intro tail same
        exact notSlash (List.cons.inj same).1

/-- The slashes of a rooted path add empty components only. -/
theorem splitOn_replicate_slash (number : Nat) (text : List Char) :
    (List.replicate number '/' ++ text).splitOn '/' =
      List.replicate number [] ++ text.splitOn '/' := by
  induction number with
  | zero => rfl
  | succ number ih =>
      rw [List.replicate_succ, List.cons_append,
        List.splitOn_cons_eq_if_modifyHead, if_pos (by decide), ih,
        List.replicate_succ, List.cons_append]

theorem foldl_addComponent_empty (rooted : Bool) (number : Nat)
    (kept : List (List Char)) :
    (List.replicate number []).foldl (addComponent rooted) kept = kept := by
  induction number with
  | zero => rfl
  | succ number ih =>
      rw [List.replicate_succ, List.foldl_cons, addComponent_empty, ih]

theorem keptComponents_rootedPath
    (proper : ∀ component ∈ components, Proper component)
    (visible : components ≠ []) {number : Nat} :
    keptComponents (rootedPath slashes components ++
      List.replicate number '/') = components := by
  have plain : ∀ component ∈ components, '/' ∉ component :=
    fun component member => (proper component member).2.2.2
  have split : (rootedPath slashes components ++
      List.replicate number '/').splitOn '/' =
      List.replicate slashes [] ++ (components ++ List.replicate number []) := by
    rw [rootedPath, List.append_assoc, splitOn_replicate_slash]
    congr 1
    cases number with
    | zero =>
        rw [List.replicate_zero, List.append_nil,
          List.splitOn_intercalate '/' plain visible, List.replicate_zero,
          List.append_nil]
    | succ number =>
        rw [List.replicate_succ, List.splitOn_append_cons_self,
          List.splitOn_intercalate '/' plain visible]
        have empties := splitOn_replicate_slash number []
        rw [List.append_nil, List.splitOn_nil] at empties
        rw [empties, ← List.replicate_succ', List.replicate_succ]
  rw [keptComponents, split, List.foldl_append, List.foldl_append,
    foldl_addComponent_empty, foldl_addComponent_empty,
    foldl_addComponent_of_proper proper, List.nil_append]

/-- A normalized path is its own normal form, with or without slashes at its
end. -/
theorem normpath_rootedPath (number : slashes = 1 ∨ slashes = 2)
    (proper : ∀ component ∈ components, Proper component)
    (visible : components ≠ []) (trailing : Nat) :
    normpath (rootedPath slashes components ++
      List.replicate trailing '/') = rootedPath slashes components := by
  have begins : ∀ rest, rootedPath slashes components ++ rest ≠ [] := by
    intro rest
    rcases number with rfl | rfl <;> simp [rootedPath]
  have body : List.replicate slashes '/' ++ ['/'].intercalate components ≠
      [] := by
    have whole := begins []
    rwa [List.append_nil] at whole
  unfold normpath
  rw [if_neg (begins _), initialSlashes_rootedPath number proper visible,
    keptComponents_rootedPath proper visible]
  exact if_neg body

theorem intercalate_concat (components : List (List Char))
    (last : List Char) :
    ∃ front, ['/'].intercalate (components ++ [last]) = front ++ last := by
  induction components with
  | nil => exact ⟨[], List.intercalate_singleton⟩
  | cons component components ih =>
      obtain ⟨front, joined⟩ := ih
      cases components with
      | nil =>
          exact ⟨component ++ ['/'], by simp [List.intercalate_cons_cons]⟩
      | cons next components =>
          refine ⟨component ++ ['/'] ++ front, ?_⟩
          rw [List.cons_append, List.cons_append, List.intercalate_cons_cons,
            ← List.cons_append, joined]
          simp

/-- A normalized path with components does not end in a slash. -/
theorem rootedPath_getLast?
    (proper : ∀ component ∈ components, Proper component)
    (visible : components ≠ []) :
    (rootedPath slashes components).getLast? ≠ some '/' := by
  rcases List.eq_nil_or_concat components with rfl | ⟨earlier, last, rfl⟩
  · exact absurd rfl visible
  · rw [List.concat_eq_append] at proper ⊢
    obtain ⟨lastVisible, -, -, plain⟩ := proper last (by simp)
    obtain ⟨front, joined⟩ := intercalate_concat earlier last
    rw [rootedPath, joined, ← List.append_assoc,
      List.getLast?_append_of_ne_nil _ lastVisible]
    exact fun ended => plain (List.mem_of_getLast? ended)

end Rooted

section Length

/-- The characters that components and their slashes take, empty components
apart. -/
def weight : List (List Char) → Nat
  | [] => 0
  | component :: components =>
      (if component = [] then 0 else component.length + 1) + weight components

variable {kept components : List (List Char)} {component path : List Char}

theorem weight_append (first second : List (List Char)) :
    weight (first ++ second) = weight first + weight second := by
  induction first with
  | nil => exact (Nat.zero_add _).symm
  | cons component first ih =>
      rw [List.cons_append, weight, weight, ih, Nat.add_assoc]

theorem weight_replicate (number : Nat) :
    weight (List.replicate number []) = 0 := by
  induction number with
  | zero => rfl
  | succ number ih => simp [List.replicate_succ, weight, ih]

theorem weight_addComponent (rooted : Bool) :
    weight (addComponent rooted kept component) ≤
      weight kept + weight [component] := by
  unfold addComponent
  split
  · exact Nat.le_add_right _ _
  split
  · exact Nat.le_of_eq (weight_append _ _)
  · rcases List.eq_nil_or_concat kept with rfl | ⟨earlier, last, rfl⟩
    · exact Nat.zero_le _
    · rw [List.concat_eq_append, List.dropLast_concat, weight_append]
      omega

theorem weight_foldl (rooted : Bool) :
    weight (components.foldl (addComponent rooted) kept) ≤
      weight kept + weight components := by
  induction components generalizing kept with
  | nil => exact Nat.le_refl _
  | cons component components ih =>
      have step := @weight_addComponent kept component rooted
      have later := @ih (addComponent rooted kept component)
      have whole := weight_append [component] components
      rw [List.singleton_append] at whole
      rw [List.foldl_cons]
      omega

theorem weight_cons (component : List Char)
    (components : List (List Char)) :
    weight (component :: components) =
      weight [component] + weight components :=
  weight_append [component] components

theorem weight_le (components : List (List Char)) :
    weight components ≤ (['/'].intercalate components).length + 1 := by
  induction components with
  | nil => exact Nat.zero_le _
  | cons component components ih =>
      have here : weight [component] ≤ component.length + 1 := by
        simp only [weight]
        split <;> omega
      cases components with
      | nil => rwa [List.intercalate_singleton]
      | cons next components =>
          rw [weight_cons, List.intercalate_cons_cons]
          simp only [List.length_append, List.length_singleton]
          omega

theorem intercalate_length_lt (components : List (List Char))
    (visible : ∀ component ∈ components, component ≠ [])
    (some : components ≠ []) :
    (['/'].intercalate components).length < weight components := by
  induction components with
  | nil => exact absurd rfl some
  | cons component components ih =>
      obtain ⟨visibleHere, visibleLater⟩ := List.forall_mem_cons.mp visible
      have here : weight [component] = component.length + 1 := by
        simp [weight, visibleHere]
      cases components with
      | nil =>
          rw [List.intercalate_singleton, here]
          omega
      | cons next components =>
          have later := ih visibleLater (List.cons_ne_nil _ _)
          rw [weight_cons, List.intercalate_cons_cons]
          simp only [List.length_append, List.length_singleton]
          omega

theorem eq_replicate_initialSlashes (path : List Char) :
    ∃ rest, path = List.replicate (initialSlashes path) '/' ++ rest := by
  unfold initialSlashes
  split
  · exact ⟨_, rfl⟩
  · exact ⟨_, rfl⟩
  · exact ⟨_, rfl⟩
  · exact ⟨_, rfl⟩

/-- Normalizing makes no rooted path longer. -/
theorem normpath_length_le (rooted : path.head? = some '/') :
    (normpath path).length ≤ path.length := by
  obtain ⟨rest, whole⟩ := eq_replicate_initialSlashes path
  have splitWhole : path.splitOn '/' =
      List.replicate (initialSlashes path) [] ++ rest.splitOn '/' := by
    conv_lhs => rw [whole]
    exact splitOn_replicate_slash _ _
  have lengthWhole : path.length = initialSlashes path + rest.length := by
    conv_lhs => rw [whole]
    simp
  have empties := weight_replicate (initialSlashes path)
  have keptWeight : weight (keptComponents path) ≤ rest.length + 1 := by
    have folded := @weight_foldl [] (path.splitOn '/')
      (initialSlashes path != 0)
    have joined := weight_le (rest.splitOn '/')
    rw [List.intercalate_splitOn] at joined
    rw [splitWhole, weight_append, empties, ← splitWhole] at folded
    simp only [weight, Nat.zero_add] at folded
    exact Nat.le_trans folded joined
  rw [normpath_eq rooted, rootedPath, List.length_append,
    List.length_replicate, lengthWhole]
  by_cases none : keptComponents path = []
  · simp [none]
  · have shorter := intercalate_length_lt (keptComponents path)
      (fun component member => (keptComponents_proper rooted component
        member).1) none
    omega

end Length

end Tca.PosixPaths
