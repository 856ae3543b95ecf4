import Mathlib.Data.List.Sort
import Mathlib.Data.List.Dedup
import Mathlib.Data.List.Perm.Lattice

/-!
# Sorted sets

The distinct values of a list in increasing order.  The result depends only on
which values occur, and its first element is the least of them.
-/

namespace Tca.SortedSets

variable {Value : Type*} [LinearOrder Value]

/-- The distinct values in increasing order. -/
def sortedSet (values : List Value) : List Value :=
  values.dedup.insertionSort (· ≤ ·)

@[simp]
theorem mem_sortedSet {values : List Value} {value : Value} :
    value ∈ sortedSet values ↔ value ∈ values := by
  rw [sortedSet, List.mem_insertionSort, List.mem_dedup]

theorem sortedSet_nodup (values : List Value) : (sortedSet values).Nodup :=
  (List.perm_insertionSort _ _).nodup_iff.mpr (List.nodup_dedup values)

theorem sortedSet_pairwise (values : List Value) :
    (sortedSet values).Pairwise (· ≤ ·) :=
  List.pairwise_insertionSort _ _

theorem sortedSet_strict (values : List Value) :
    (sortedSet values).Pairwise (· < ·) := by
  have ordered := sortedSet_pairwise values
  have distinct : (sortedSet values).Pairwise (· ≠ ·) := sortedSet_nodup values
  exact (ordered.and distinct).imp fun both => lt_of_le_of_ne both.1 both.2

/-- Lists with the same values have the same sorted set. -/
theorem sortedSet_congr {first second : List Value}
    (sameValues : ∀ value, value ∈ first ↔ value ∈ second) :
    sortedSet first = sortedSet second := by
  apply List.Perm.eq_of_pairwise' (sortedSet_pairwise first)
    (sortedSet_pairwise second)
  rw [List.perm_ext_iff_of_nodup (sortedSet_nodup first)
    (sortedSet_nodup second)]
  simpa using sameValues

/-- The head of a sorted set is a value, below every other one. -/
theorem sortedSet_cons {values : List Value} {least : Value}
    {others : List Value} (sorted : sortedSet values = least :: others) :
    least ∈ values ∧ (∀ value ∈ values, least ≤ value) ∧
      ∀ value, value ∈ others ↔ value ∈ values ∧ value ≠ least := by
  have nodup := sortedSet_nodup values
  have pairwise := sortedSet_pairwise values
  rw [sorted] at nodup pairwise
  have occurs : ∀ value, value ∈ values ↔ value ∈ least :: others := by
    intro value
    rw [← sorted, mem_sortedSet]
  refine ⟨(occurs least).mpr List.mem_cons_self, ?_, ?_⟩
  · intro value member
    rcases List.mem_cons.mp ((occurs value).mp member) with rfl | later
    · exact le_rfl
    · exact (List.pairwise_cons.mp pairwise).1 value later
  · intro value
    rw [occurs, List.mem_cons]
    constructor
    · intro later
      refine ⟨Or.inr later, ?_⟩
      rintro rfl
      exact (List.nodup_cons.mp nodup).1 later
    · rintro ⟨same | later, different⟩
      · exact (different same).elim
      · exact later

theorem sortedSet_eq_nil_iff {values : List Value} :
    sortedSet values = [] ↔ values = [] := by
  rw [List.eq_nil_iff_forall_not_mem, List.eq_nil_iff_forall_not_mem]
  simp

end Tca.SortedSets
