import Tca.TableRows

/-!
# Tables with a key

A table of rows whose keys are distinct, so that a key addresses one row at
most.  Updates of other columns, deletions and insertions of fresh rows keep
the keys distinct; the file provides these statements and what they select.
-/

namespace Tca

open TableRows

structure KeyedTable (Row : Type*) {Key : Type*} (keyOf : Row → Key) where
  rows : List Row
  uniqueKeys : (rows.map keyOf).Nodup

namespace KeyedTable

variable {Row Key : Type*} {keyOf : Row → Key}

/-- Updating other columns of some rows keeps every key. -/
theorem map_key_updateIf (rows : List Row) (condition : Row → Bool)
    {set : Row → Row} (keepsKey : ∀ row, keyOf (set row) = keyOf row) :
    (rows.map fun row => if condition row then set row else row).map keyOf =
      rows.map keyOf := by
  rw [List.map_map]
  apply List.map_congr_left
  intro row _
  simp only [Function.comp_apply]
  split
  · exact keepsKey row
  · rfl

variable (table : KeyedTable Row keyOf)

def keys : List Key := table.rows.map keyOf

/-- The row with the key, if there is one. -/
def find? [DecidableEq Key] (key : Key) : Option Row :=
  table.rows.find? fun row => keyOf row = key

/-- Update columns other than the key in the rows that meet the condition. -/
def updateWhere (condition : Row → Bool) (set : Row → Row)
    (keepsKey : ∀ row, keyOf (set row) = keyOf row) :
    KeyedTable Row keyOf where
  rows := table.rows.map fun row => if condition row then set row else row
  uniqueKeys := by
    rw [map_key_updateIf table.rows condition keepsKey]
    exact table.uniqueKeys

/-- Delete the rows that meet the condition. -/
def deleteWhere (condition : Row → Bool) : KeyedTable Row keyOf where
  rows := table.rows.filter fun row => !condition row
  uniqueKeys := nodup_map_filter table.uniqueKeys _

/-- Add a row with an unused key. -/
def insert (row : Row) (fresh : keyOf row ∉ table.keys) :
    KeyedTable Row keyOf where
  rows := table.rows ++ [row]
  uniqueKeys := by
    rw [List.map_append, List.map_singleton]
    exact nodup_append_fresh table.uniqueKeys fresh

/-- Update the row with the key of a blank row, or insert the updated blank row
if there is none. -/
def upsert [DecidableEq Key] (blank : Row) (set : Row → Row)
    (keepsKey : ∀ row, keyOf (set row) = keyOf row) :
    KeyedTable Row keyOf :=
  if unused : keyOf blank ∉ table.keys then
    table.insert (set blank) (by rwa [keepsKey])
  else
    table.updateWhere (fun row => keyOf row = keyOf blank) set keepsKey

variable {table} {condition : Row → Bool} {set : Row → Row}
  {keepsKey : ∀ row, keyOf (set row) = keyOf row}

theorem eq_of_key_eq {first second : Row} (firstStored : first ∈ table.rows)
    (secondStored : second ∈ table.rows)
    (sameKey : keyOf first = keyOf second) : first = second :=
  TableRows.eq_of_key_eq table.uniqueKeys firstStored secondStored sameKey

theorem mem_keys {key : Key} :
    key ∈ table.keys ↔ ∃ row ∈ table.rows, keyOf row = key :=
  List.mem_map

section Lookup

variable [DecidableEq Key] {key : Key}

theorem find?_eq_some_iff {row : Row} :
    table.find? key = some row ↔ row ∈ table.rows ∧ keyOf row = key :=
  find?_key_eq_some_iff table.uniqueKeys

theorem mem_keys_of_find? {row : Row} (found : table.find? key = some row) :
    key ∈ table.keys := by
  obtain ⟨stored, isKey⟩ := find?_eq_some_iff.mp found
  exact mem_keys.mpr ⟨row, stored, isKey⟩

theorem find?_eq_none_iff : table.find? key = none ↔ key ∉ table.keys := by
  rw [find?, List.find?_eq_none, mem_keys]
  simp

end Lookup

theorem mem_updateWhere {row : Row} :
    row ∈ (table.updateWhere condition set keepsKey).rows ↔
      ∃ old ∈ table.rows, (if condition old then set old else old) = row :=
  List.mem_map

@[simp]
theorem keys_updateWhere :
    (table.updateWhere condition set keepsKey).keys = table.keys :=
  map_key_updateIf table.rows condition keepsKey

theorem mem_deleteWhere {row : Row} :
    row ∈ (table.deleteWhere condition).rows ↔
      row ∈ table.rows ∧ condition row = false := by
  simp [deleteWhere]

theorem mem_insert {newRow row : Row} {fresh : keyOf newRow ∉ table.keys} :
    row ∈ (table.insert newRow fresh).rows ↔
      row ∈ table.rows ∨ row = newRow := by
  simp [insert]

/-- An upsert replaces the row with its key and leaves the others alone. -/
theorem mem_upsert [DecidableEq Key] {blank row : Row} :
    row ∈ (table.upsert blank set keepsKey).rows ↔
      (row ∈ table.rows ∧ keyOf row ≠ keyOf blank) ∨
        row = set ((table.find? (keyOf blank)).getD blank) := by
  unfold upsert
  split
  · rename_i unused
    rw [mem_insert, find?_eq_none_iff.mpr unused, Option.getD_none]
    refine or_congr_left ⟨fun stored => ⟨stored, ?_⟩, And.left⟩
    intro sameKey
    exact unused (mem_keys.mpr ⟨row, stored, sameKey⟩)
  · rename_i used
    obtain ⟨old, oldStored, oldKey⟩ := mem_keys.mp (not_not.mp used)
    rw [mem_updateWhere, find?_eq_some_iff.mpr ⟨oldStored, oldKey⟩,
      Option.getD_some]
    constructor
    · rintro ⟨other, otherStored, rfl⟩
      by_cases addressed : keyOf other = keyOf blank
      · have same : other = old :=
          eq_of_key_eq otherStored oldStored (addressed.trans oldKey.symm)
        simp [same, oldKey]
      · simp [addressed, otherStored]
    · rintro (⟨stored, otherKey⟩ | rfl)
      · exact ⟨row, stored, by simp [otherKey]⟩
      · exact ⟨old, oldStored, by simp [oldKey]⟩

section LookupAfter

variable [DecidableEq Key] {key : Key}

/-- An update changes the row that a key finds if the row meets the
condition. -/
theorem find?_updateWhere (keepsKey : ∀ row, keyOf (set row) = keyOf row) :
    (table.updateWhere condition set keepsKey).find? key =
      (table.find? key).map
        fun row => if condition row then set row else row := by
  have sameKey : ∀ row, keyOf (if condition row then set row else row) =
      keyOf row := by
    intro row
    split
    · exact keepsKey row
    · rfl
  simp only [find?, updateWhere, List.find?_map, Function.comp_def, sameKey]

theorem find?_insert {newRow : Row} {fresh : keyOf newRow ∉ table.keys} :
    (table.insert newRow fresh).find? key =
      if key = keyOf newRow then some newRow else table.find? key := by
  by_cases addressed : key = keyOf newRow
  · subst addressed
    have absent := find?_eq_none_iff.mpr fresh
    rw [find?] at absent
    simp [find?, insert, List.find?_append, absent]
  · simp [find?, insert, List.find?_append, addressed, Ne.symm addressed]

/-- An upsert is found under its key, and other keys find what they did. -/
theorem find?_upsert {blank : Row} :
    (table.upsert blank set keepsKey).find? key =
      if key = keyOf blank then
        some (set ((table.find? (keyOf blank)).getD blank))
      else table.find? key := by
  unfold upsert
  split
  · rename_i unused
    rw [find?_insert, keepsKey, find?_eq_none_iff.mpr unused,
      Option.getD_none]
  · rename_i used
    rw [find?_updateWhere]
    split
    · rename_i addressed
      subst addressed
      obtain ⟨old, oldStored, oldKey⟩ := mem_keys.mp (not_not.mp used)
      simp [find?_eq_some_iff.mpr ⟨oldStored, oldKey⟩, oldKey]
    · rename_i other
      cases found : table.find? key with
      | none => rfl
      | some row =>
          have isKey := (find?_eq_some_iff.mp found).2
          simp [isKey, other]

/-- A deletion takes away the row that a key finds if the row meets the
condition. -/
theorem find?_deleteWhere :
    (table.deleteWhere condition).find? key =
      (table.find? key).filter fun row => !condition row := by
  apply Option.ext
  intro row
  rw [find?_eq_some_iff, mem_deleteWhere, Option.filter_eq_some_iff,
    find?_eq_some_iff]
  simp only [Bool.not_eq_true']
  tauto

end LookupAfter

end KeyedTable

end Tca
