import Tca.JsonRoundTrip
import Tca.RowRanking
import Mathlib.Data.List.Lex

/-!
# Documents with sorted keys

`json.dumps` with `sort_keys=True` writes the members of every object in the
order of their keys.  The file gives the document that is written in this way;
it is as fit for the round trip as the one that was handed over.
-/

namespace Tca.Json

open RowRanking

def CodePoint.number : CodePoint → Nat
  | .scalar char => char.toNat
  | .surrogate unit _ => unit

variable {φ : Type}

/-- Members are compared by the code points of their keys. -/
def memberKey (member : Text × Value φ) : List Nat :=
  member.1.map CodePoint.number

mutual

/-- The document that `sort_keys=True` writes. -/
def sortKeys : Value φ → Value φ
  | .null => .null
  | .bool value => .bool value
  | .int value => .int value
  | .float value => .float value
  | .str text => .str text
  | .list items => .list (sortItems items)
  | .object members => .object (orderBy memberKey (sortMemberValues members))

def sortItems : List (Value φ) → List (Value φ)
  | [] => []
  | item :: items => sortKeys item :: sortItems items

def sortMemberValues : List (Text × Value φ) → List (Text × Value φ)
  | [] => []
  | (key, value) :: members => (key, sortKeys value) :: sortMemberValues members

end

theorem sortItems_eq_map (items : List (Value φ)) :
    sortItems items = items.map sortKeys := by
  induction items with
  | nil => simp only [sortItems, List.map_nil]
  | cons item items ih => simp only [sortItems, ih, List.map_cons]

theorem sortMemberValues_eq_map (members : List (Text × Value φ)) :
    sortMemberValues members =
      members.map fun member => (member.1, sortKeys member.2) := by
  induction members with
  | nil => simp only [sortMemberValues, List.map_nil]
  | cons member members ih => simp only [sortMemberValues, ih, List.map_cons]

/-- Sorting keeps the members of an object, with their values sorted. -/
theorem mem_sorted_iff {members : List (Text × Value φ)}
    {sorted : Text × Value φ} :
    sorted ∈ orderBy memberKey (sortMemberValues members) ↔
      ∃ member ∈ members, (member.1, sortKeys member.2) = sorted := by
  rw [mem_orderBy, sortMemberValues_eq_map, List.mem_map]

theorem Faithful.sortKeys {isFloat : φ → Prop} {depth : Nat} {value : Value φ}
    (faithful : Faithful isFloat depth value) :
    Faithful isFloat depth (sortKeys value) := by
  induction depth generalizing value with
  | zero =>
      cases value with
      | list items => cases faithful
      | object members => cases faithful
      | null => exact faithful
      | bool value => exact faithful
      | int value => exact faithful
      | float value => exact faithful
      | str text => exact faithful
  | succ depth ih =>
      cases value with
      | list items =>
          rw [Json.sortKeys, sortItems_eq_map]
          intro sorted isSorted
          obtain ⟨item, member, rfl⟩ := List.mem_map.mp isSorted
          exact ih (faithful item member)
      | object members =>
          rw [Json.sortKeys]
          intro sorted isSorted
          obtain ⟨member, isMember, rfl⟩ := mem_sorted_iff.mp isSorted
          exact ⟨(faithful member isMember).1, ih (faithful member isMember).2⟩
      | null => exact faithful
      | bool value => exact faithful
      | int value => exact faithful
      | float value => exact faithful
      | str text => exact faithful

theorem sortKeys_eq_null_iff {value : Value φ} :
    sortKeys value = .null ↔ value = .null := by
  cases value <;> simp [sortKeys]

end Tca.Json
