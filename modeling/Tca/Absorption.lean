import Tca.SortedSets
import Mathlib.Logic.Relation
import Mathlib.Data.List.Induction

/-!
# Absorption of classes into their least element

A survivor map sends every value to the value that stands for it.  Absorbing a
group joins the survivors of its members into the least one of them.  When the
groups absorbed one after the other are connected, the resulting map depends
only on which values they mention: all of these go to the least one, and every
other value stands for itself.
-/

namespace Tca.Absorption

open SortedSets

variable {Value : Type*} [LinearOrder Value]

/-- Join the survivors of a group into the least one of them. -/
def absorb (survivor : Value → Value) (group : List Value) : Value → Value :=
  match sortedSet (group.map survivor) with
  | [] => survivor
  | least :: _ => fun value =>
      if survivor value ∈ group.map survivor then least else survivor value

/-- The survivor map after absorbing the groups in order. -/
def survivors (groups : List (List Value)) : Value → Value :=
  groups.foldl absorb id

/-- Two values occur in one group. -/
def Linked (groups : List (List Value)) (first second : Value) : Prop :=
  ∃ group ∈ groups, first ∈ group ∧ second ∈ group

/-- Any two mentioned values are joined by a chain of groups. -/
def Connected (groups : List (List Value)) : Prop :=
  ∀ first ∈ groups.flatten, ∀ second ∈ groups.flatten,
    Relation.ReflTransGen (Linked groups) first second

/-- A survivor map for the groups: it is idempotent, members of one group have
one survivor, which is never above them, and only mentioned values move. -/
structure Survives (groups : List (List Value)) (survivor : Value → Value) :
    Prop where
  idempotent : ∀ value, survivor (survivor value) = survivor value
  joined : ∀ group ∈ groups, ∀ first ∈ group, ∀ second ∈ group,
    survivor first = survivor second
  below : ∀ value, survivor value ≤ value
  mentioned : ∀ value, survivor value ≠ value →
    value ∈ groups.flatten ∧ survivor value ∈ groups.flatten

section Steps

variable {survivor : Value → Value} {group : List Value}

theorem absorb_nil (survivor : Value → Value) : absorb survivor [] = survivor :=
  rfl

theorem absorb_apply {least : Value} {others : List Value}
    (sorted : sortedSet (group.map survivor) = least :: others)
    (value : Value) :
    absorb survivor group value =
      if survivor value ∈ group.map survivor then least
      else survivor value := by
  rw [absorb, sorted]

/-- A value outside the group survives the same values as before. -/
theorem absorb_eq_iff_of_unlisted {least : Value} {others : List Value}
    (sorted : sortedSet (group.map survivor) = least :: others)
    {outside : Value} (unlisted : outside ∉ group.map survivor)
    (value : Value) :
    survivor value = outside ↔ absorb survivor group value = outside := by
  obtain ⟨leastListed, -, -⟩ := sortedSet_cons sorted
  rw [absorb_apply sorted]
  split
  · rename_i listed
    constructor
    · rintro rfl
      exact (unlisted listed).elim
    · rintro rfl
      exact (unlisted leastListed).elim
  · rfl

theorem survives_nil : Survives ([] : List (List Value)) id where
  idempotent _ := rfl
  joined _ member := absurd member List.not_mem_nil
  below _ := le_rfl
  mentioned _ moved := (moved rfl).elim

/-- Absorbing one more group gives a survivor map for the longer list. -/
theorem Survives.absorb {groups : List (List Value)}
    (survives : Survives groups survivor) (group : List Value) :
    Survives (groups ++ [group]) (absorb survivor group) := by
  cases sorted : sortedSet (group.map survivor) with
  | nil =>
      have empty : group = [] :=
        List.map_eq_nil_iff.mp (sortedSet_eq_nil_iff.mp sorted)
      subst empty
      refine
        { survives with
          joined := ?_
          mentioned := ?_ }
      · intro other member first firstMember
        rcases List.mem_append.mp member with earlier | last
        · exact survives.joined other earlier first firstMember
        · rw [List.mem_singleton.mp last] at firstMember
          exact absurd firstMember List.not_mem_nil
      · simpa [absorb_nil] using survives.mentioned
  | cons least others =>
      obtain ⟨leastMember, leastBelow, -⟩ := sortedSet_cons sorted
      obtain ⟨origin, originMember, originSurvivor⟩ :=
        List.mem_map.mp leastMember
      have leastFixed : survivor least = least := by
        rw [← originSurvivor, survives.idempotent]
      -- Survivors of group members are mentioned by the longer list.
      have mentionedOfSurvivor : ∀ value, value ∈ group.map survivor →
          value ∈ (groups ++ [group]).flatten := by
        intro value member
        obtain ⟨origin, originMember, rfl⟩ := List.mem_map.mp member
        rw [List.flatten_append, List.mem_append]
        by_cases fixed : survivor origin = origin
        · right
          simpa [fixed] using originMember
        · exact Or.inl (survives.mentioned origin fixed).2
      refine ⟨?_, ?_, ?_, ?_⟩
      · intro value
        rw [absorb_apply sorted value]
        split
        · rw [absorb_apply sorted, leastFixed, if_pos leastMember]
        · rename_i outside
          rw [absorb_apply sorted, survives.idempotent, if_neg outside]
      · intro other member first firstMember second secondMember
        rcases List.mem_append.mp member with earlier | last
        · rw [absorb_apply sorted, absorb_apply sorted,
            survives.joined other earlier first firstMember second
              secondMember]
        · obtain rfl := List.mem_singleton.mp last
          rw [absorb_apply sorted, absorb_apply sorted,
            if_pos (List.mem_map_of_mem firstMember),
            if_pos (List.mem_map_of_mem secondMember)]
      · intro value
        rw [absorb_apply sorted]
        split
        · rename_i inside
          exact (leastBelow _ inside).trans (survives.below value)
        · exact survives.below value
      · intro value moved
        rw [absorb_apply sorted] at moved ⊢
        split
        · rename_i inside
          refine ⟨?_, mentionedOfSurvivor least leastMember⟩
          by_cases fixed : survivor value = value
          · exact mentionedOfSurvivor value (fixed ▸ inside)
          · rw [List.flatten_append]
            exact List.mem_append_left _ (survives.mentioned value fixed).1
        · rename_i outside
          rw [if_neg outside] at moved
          obtain ⟨here, there⟩ := survives.mentioned value moved
          rw [List.flatten_append]
          exact ⟨List.mem_append_left _ here, List.mem_append_left _ there⟩

end Steps

theorem survives_survivors (groups : List (List Value)) :
    Survives groups (survivors groups) := by
  induction groups using List.reverseRecOn with
  | nil => exact survives_nil
  | append_singleton groups group ih =>
      rw [survivors, List.foldl_append, ← survivors]
      exact ih.absorb group

/-- Connected groups send every mentioned value to the least one. -/
theorem Survives.eq_least {groups : List (List Value)}
    {survivor : Value → Value} (survives : Survives groups survivor)
    (connected : Connected groups) {least : Value}
    (leastMember : least ∈ groups.flatten)
    (leastBelow : ∀ value ∈ groups.flatten, least ≤ value) {value : Value}
    (member : value ∈ groups.flatten) : survivor value = least := by
  have alongChain : ∀ other, Relation.ReflTransGen (Linked groups) value other →
      survivor value = survivor other := by
    intro other chain
    induction chain with
    | refl => rfl
    | tail _ link ih =>
        obtain ⟨group, inGroups, firstMember, secondMember⟩ := link
        rw [ih, survives.joined group inGroups _ firstMember _ secondMember]
  have sameSurvivor : survivor value = survivor least :=
    alongChain least (connected value member least leastMember)
  have fixed : survivor least = least := by
    by_contra moved
    exact moved (le_antisymm (survives.below least)
      (leastBelow _ (survives.mentioned least moved).2))
  rw [sameSurvivor, fixed]

theorem Survives.eq_self {groups : List (List Value)}
    {survivor : Value → Value} (survives : Survives groups survivor)
    {value : Value} (unmentioned : value ∉ groups.flatten) :
    survivor value = value := by
  by_contra moved
  exact unmentioned (survives.mentioned value moved).1

/-- The survivor maps of connected groups agree when the groups mention the
same values. -/
theorem survivors_eq_of_connected {first second : List (List Value)}
    (firstConnected : Connected first) (secondConnected : Connected second)
    (sameValues : ∀ value, value ∈ first.flatten ↔ value ∈ second.flatten) :
    survivors first = survivors second := by
  funext value
  by_cases member : value ∈ first.flatten
  · cases sorted : sortedSet first.flatten with
    | nil =>
        rw [sortedSet_eq_nil_iff.mp sorted] at member
        exact absurd member List.not_mem_nil
    | cons least others =>
        obtain ⟨leastMember, leastBelow, -⟩ := sortedSet_cons sorted
        rw [(survives_survivors first).eq_least firstConnected leastMember
            leastBelow member,
          (survives_survivors second).eq_least secondConnected
            ((sameValues least).mp leastMember)
            (fun other otherMember =>
              leastBelow other ((sameValues other).mpr otherMember))
            ((sameValues value).mp member)]
  · rw [(survives_survivors first).eq_self member,
      (survives_survivors second).eq_self
        fun other => member ((sameValues value).mpr other)]

omit [LinearOrder Value] in
/-- A single group is connected. -/
theorem connected_singleton (group : List Value) : Connected [group] := by
  intro first firstMember second secondMember
  refine Relation.ReflTransGen.single ⟨group, List.mem_singleton_self group, ?_⟩
  exact ⟨by simpa using firstMember, by simpa using secondMember⟩

end Tca.Absorption
