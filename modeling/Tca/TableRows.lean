import Mathlib.Data.List.Nodup
import Mathlib.Data.Int.Order.Basic
import Mathlib.Algebra.Order.Group.Int
import Mathlib.Data.List.Sort
import Mathlib.Algebra.GroupWithZero.Nat

/-!
# Rows of relational tables

A table is the list of its rows in insertion order.  The file collects what
the statements of a relational store do to such lists: conflict-free
insertion, allocation of a fresh row id, clearing of nullable references to
deleted rows, and deletion of the leading rows of a selection.
-/

namespace Tca.TableRows

theorem nodup_append_fresh {Row : Type*} {rows : List Row} {row : Row}
    (nodup : rows.Nodup) (fresh : row ∉ rows) : (rows ++ [row]).Nodup := by
  rw [← List.concat_eq_append]
  exact nodup.concat fresh

/-- What holds of the stored rows and of an added one holds of all rows. -/
theorem forall_mem_append_row {Row : Type*} {rows : List Row} {row : Row}
    {property : Row → Prop} (stored : ∀ other ∈ rows, property other)
    (added : property row) : ∀ other ∈ rows ++ [row], property other :=
  List.forall_mem_append.mpr ⟨stored, List.forall_mem_singleton.mpr added⟩

section Insertion

variable {Row : Type*} [DecidableEq Row]

/-- Insert a row unless an equal one is stored. -/
def insertOrIgnore (rows : List Row) (row : Row) : List Row :=
  if row ∈ rows then rows else rows ++ [row]

/-- Insert several rows, each unless an equal one is stored by then. -/
def insertAllOrIgnore (rows added : List Row) : List Row :=
  added.foldl insertOrIgnore rows

@[simp]
theorem mem_insertOrIgnore {rows : List Row} {row other : Row} :
    other ∈ insertOrIgnore rows row ↔ other ∈ rows ∨ other = row := by
  unfold insertOrIgnore
  split
  · rename_i stored
    constructor
    · exact Or.inl
    · rintro (member | rfl)
      · exact member
      · exact stored
  · simp

theorem insertOrIgnore_nodup {rows : List Row} (nodup : rows.Nodup)
    (row : Row) : (insertOrIgnore rows row).Nodup := by
  unfold insertOrIgnore
  split
  · exact nodup
  · rename_i fresh
    exact nodup_append_fresh nodup fresh

@[simp]
theorem mem_insertAllOrIgnore {rows added : List Row} {row : Row} :
    row ∈ insertAllOrIgnore rows added ↔ row ∈ rows ∨ row ∈ added := by
  induction added generalizing rows with
  | nil => simp [insertAllOrIgnore]
  | cons head tail ih =>
      rw [insertAllOrIgnore, List.foldl_cons, ← insertAllOrIgnore, ih,
        mem_insertOrIgnore, List.mem_cons, or_assoc]

theorem insertAllOrIgnore_nodup {rows : List Row} (nodup : rows.Nodup)
    (added : List Row) : (insertAllOrIgnore rows added).Nodup := by
  induction added generalizing rows with
  | nil => exact nodup
  | cons head tail ih => exact ih (insertOrIgnore_nodup nodup head)

end Insertion

section Identifiers

/-- The row id given to a new row: one above the largest id in use, or one in
an empty table. -/
def nextRowid (ids : List Int) : Int :=
  match ids.max? with
  | none => 1
  | some largest => largest + 1

theorem lt_nextRowid {ids : List Int} {id : Int} (used : id ∈ ids) :
    id < nextRowid ids := by
  unfold nextRowid
  cases largest : ids.max? with
  | none =>
      rw [List.max?_eq_none_iff] at largest
      simp [largest] at used
  | some value =>
      have bounded := (List.max?_eq_some_iff.mp largest).2 id used
      exact Int.lt_add_one_of_le bounded

theorem nextRowid_notMem (ids : List Int) : nextRowid ids ∉ ids :=
  fun used => lt_irrefl _ (lt_nextRowid used)

/-- Row ids are given out one after the other. -/
theorem nextRowid_append (ids : List Int) :
    nextRowid (ids ++ [nextRowid ids]) = nextRowid ids + 1 := by
  have largest : (ids ++ [nextRowid ids]).max? = some (nextRowid ids) := by
    rw [List.max?_eq_some_iff]
    refine ⟨by simp, fun id used => ?_⟩
    rcases List.mem_append.mp used with earlier | last
    · exact (lt_nextRowid earlier).le
    · exact (List.mem_singleton.mp last).le
  rw [nextRowid, largest]

theorem nextRowid_pos {ids : List Int} (positive : ∀ id ∈ ids, 0 < id) :
    0 < nextRowid ids := by
  unfold nextRowid
  cases largest : ids.max? with
  | none => exact Int.one_pos
  | some value =>
      have := positive value (List.max?_eq_some_iff.mp largest).1
      exact Int.add_pos this Int.one_pos

/-- A nullable reference after the rows it may point to were deleted. -/
def clearReference (gone : Int → Bool) (reference : Option Int) :
    Option Int :=
  reference.filter fun id => !gone id

@[simp]
theorem clearReference_eq_some_iff {gone : Int → Bool}
    {reference : Option Int} {id : Int} :
    clearReference gone reference = some id ↔
      reference = some id ∧ gone id = false := by
  simp [clearReference]

theorem clearReference_eq_self {gone : Int → Bool} {reference : Option Int}
    (kept : ∀ id, reference = some id → gone id = false) :
    clearReference gone reference = reference := by
  cases reference with
  | none => rfl
  | some id => simp [clearReference, kept id rfl]

@[simp]
theorem clearReference_false (reference : Option Int) :
    clearReference (fun _ => false) reference = reference :=
  clearReference_eq_self fun _ _ => rfl

theorem clearReference_clearReference (first second : Int → Bool)
    (reference : Option Int) :
    clearReference second (clearReference first reference) =
      clearReference (fun id => first id || second id) reference := by
  cases reference with
  | none => rfl
  | some id => cases first id <;> cases second id <;> simp_all [clearReference]

end Identifiers

section Deletion

variable {Row Id : Type*}

/-- A key that no deleted row carries survives the deletion. -/
theorem mem_map_filter_not {rows : List Row} {idOf : Row → Id}
    {selected : Row → Bool} {id : Id} (stored : id ∈ rows.map idOf)
    (kept : id ∉ (rows.filter selected).map idOf) :
    id ∈ (rows.filter fun row => !selected row).map idOf := by
  obtain ⟨row, member, rfl⟩ := List.mem_map.mp stored
  apply List.mem_map_of_mem
  refine List.mem_filter.mpr ⟨member, ?_⟩
  cases chosen : selected row with
  | false => rfl
  | true =>
      exact (kept (List.mem_map_of_mem
        (List.mem_filter.mpr ⟨member, chosen⟩))).elim

theorem mem_of_mem_map_filter {rows : List Row} {idOf : Row → Id}
    {kept : Row → Bool} {id : Id}
    (member : id ∈ (rows.filter kept).map idOf) : id ∈ rows.map idOf :=
  (List.filter_sublist.map idOf).subset member

theorem nodup_map_filter {rows : List Row} {idOf : Row → Id}
    (nodup : (rows.map idOf).Nodup) (kept : Row → Bool) :
    ((rows.filter kept).map idOf).Nodup :=
  nodup.sublist (List.filter_sublist.map idOf)

/-- Updating rows and then deleting some, as one pass over the rows. -/
theorem filter_map_eq_filterMap {Updated : Type*} (rows : List Row)
    (change : Row → Updated) (kept : Updated → Bool) :
    (rows.map change).filter kept =
      rows.filterMap fun row =>
        if kept (change row) then some (change row) else none := by
  induction rows with
  | nil => rfl
  | cons row rows ih =>
      rw [List.map_cons, List.filter_cons, List.filterMap_cons, ih]
      cases kept (change row) <;> rfl

/-- Deleting rows and then updating the others, as one pass over the rows. -/
theorem map_filter_eq_filterMap {Updated : Type*} (rows : List Row)
    (change : Row → Updated) (kept : Row → Bool) :
    (rows.filter kept).map change =
      rows.filterMap fun row => if kept row then some (change row) else none := by
  induction rows with
  | nil => rfl
  | cons row rows ih =>
      rw [List.filter_cons, List.filterMap_cons, ← ih]
      cases kept row <;> rfl

/-- Rows with one key are one row. -/
theorem eq_of_key_eq {rows : List Row} {idOf : Row → Id}
    (nodup : (rows.map idOf).Nodup) {first second : Row}
    (firstMember : first ∈ rows) (secondMember : second ∈ rows)
    (sameKey : idOf first = idOf second) : first = second :=
  List.inj_on_of_nodup_map nodup firstMember secondMember sameKey

/-- A lookup by a unique key finds the one row. -/
theorem filter_key_eq_singleton [DecidableEq Id] {rows : List Row}
    {idOf : Row → Id} (nodup : (rows.map idOf).Nodup) {row : Row}
    (stored : row ∈ rows) :
    rows.filter (fun other => idOf other = idOf row) = [row] := by
  induction rows with
  | nil => exact absurd stored List.not_mem_nil
  | cons head tail ih =>
      rw [List.map_cons, List.nodup_cons] at nodup
      obtain ⟨headFresh, tailNodup⟩ := nodup
      rcases List.mem_cons.mp stored with rfl | later
      · have noOther : tail.filter (fun other => idOf other = idOf row) =
            [] := by
          apply List.filter_eq_nil_iff.mpr
          intro other member same
          exact headFresh (of_decide_eq_true same ▸ List.mem_map_of_mem member)
        simp [noOther]
      · have different : idOf head ≠ idOf row := fun same =>
          headFresh (same ▸ List.mem_map_of_mem later)
        rw [List.filter_cons, if_neg (by simpa using different),
          ih tailNodup later]

/-- The first row with a unique key is the only one. -/
theorem find?_key_eq_some_iff [DecidableEq Id] {rows : List Row}
    {idOf : Row → Id} (nodup : (rows.map idOf).Nodup) {id : Id} {row : Row} :
    rows.find? (fun other => idOf other = id) = some row ↔
      row ∈ rows ∧ idOf row = id := by
  constructor
  · intro found
    refine ⟨List.mem_of_find?_eq_some found, ?_⟩
    simpa using List.find?_some found
  · rintro ⟨stored, rfl⟩
    rw [← List.head?_filter, filter_key_eq_singleton nodup stored]
    rfl

/-- At most one row has a given unique key. -/
theorem length_filter_key_le_one [DecidableEq Id] {rows : List Row}
    {idOf : Row → Id} (nodup : (rows.map idOf).Nodup) (id : Id) :
    (rows.filter (fun row => idOf row = id)).length ≤ 1 := by
  by_cases found : ∃ row ∈ rows, idOf row = id
  · obtain ⟨row, stored, rfl⟩ := found
    rw [filter_key_eq_singleton nodup stored]
    rfl
  · have nothing : rows.filter (fun row => idOf row = id) = [] := by
      apply List.filter_eq_nil_iff.mpr
      intro row stored same
      exact found ⟨row, stored, of_decide_eq_true same⟩
    rw [nothing]
    exact Nat.zero_le 1

/-- Joining every row with at most one partner repeats none. -/
theorem map_flatMap_sublist {Joined : Type*} {rows : List Row}
    {join : Row → List Joined} {original : Joined → Row}
    (joined : ∀ row ∈ rows, ((join row).map original).Sublist [row]) :
    ((rows.flatMap join).map original).Sublist rows := by
  induction rows with
  | nil => exact List.Sublist.refl []
  | cons head tail ih =>
      have ofHead := joined head List.mem_cons_self
      have ofTail := ih fun row member =>
        joined row (List.mem_cons_of_mem _ member)
      rw [List.flatMap_cons, List.map_append]
      exact ofHead.append ofTail

/-- Joining every row with exactly one partner loses and repeats none. -/
theorem map_flatMap_eq_self {Joined : Type*} {rows : List Row}
    {join : Row → List Joined} {original : Joined → Row}
    (joined : ∀ row ∈ rows, ∃ result, join row = [result] ∧
      original result = row) :
    (rows.flatMap join).map original = rows := by
  induction rows with
  | nil => rfl
  | cons head tail ih =>
      obtain ⟨result, single, same⟩ := joined head List.mem_cons_self
      rw [List.flatMap_cons, List.map_append, single, List.map_singleton,
        same, ih fun row member => joined row (List.mem_cons_of_mem _ member)]
      rfl

end Deletion

section Batches

/-- The sizes of the batches in which `count` rows leave, at most `limit` at a
time. -/
def batchSizes (limit count : Nat) : List Nat :=
  if _exhausted : count = 0 ∨ limit = 0 then []
  else min limit count :: batchSizes limit (count - limit)
termination_by count
decreasing_by omega

theorem batchSizes_zero (limit : Nat) : batchSizes limit 0 = [] := by
  rw [batchSizes]
  simp

theorem batchSizes_step {limit count : Nat} (limitPositive : 0 < limit)
    (countPositive : 0 < count) :
    batchSizes limit count =
      min limit count :: batchSizes limit (count - limit) := by
  rw [batchSizes, dif_neg (by omega)]

theorem sum_batchSizes {limit : Nat} (limitPositive : 0 < limit)
    (count : Nat) : (batchSizes limit count).sum = count := by
  induction count using Nat.strong_induction_on with
  | _ count ih =>
      rcases Nat.eq_zero_or_pos count with rfl | countPositive
      · rw [batchSizes_zero]
        rfl
      · rw [batchSizes_step limitPositive countPositive, List.sum_cons,
          ih (count - limit) (by omega)]
        omega

theorem le_of_mem_batchSizes {limit count size : Nat}
    (limitPositive : 0 < limit) (member : size ∈ batchSizes limit count) :
    size ≤ limit := by
  induction count using Nat.strong_induction_on with
  | _ count ih =>
      rcases Nat.eq_zero_or_pos count with rfl | countPositive
      · simp [batchSizes_zero] at member
      · rw [batchSizes_step limitPositive countPositive] at member
        rcases List.mem_cons.mp member with rfl | later
        · exact min_le_left limit count
        · exact ih (count - limit) (by omega) later

/-- Every batch but the last is full. -/
theorem eq_of_mem_dropLast_batchSizes {limit count size : Nat}
    (limitPositive : 0 < limit)
    (member : size ∈ (batchSizes limit count).dropLast) : size = limit := by
  induction count using Nat.strong_induction_on with
  | _ count ih =>
      rcases Nat.eq_zero_or_pos count with rfl | countPositive
      · simp [batchSizes_zero] at member
      · rw [batchSizes_step limitPositive countPositive] at member
        rcases Nat.eq_zero_or_pos (count - limit) with last | more
        · simp [last, batchSizes_zero] at member
        · have nonempty : batchSizes limit (count - limit) ≠ [] := by
            rw [batchSizes_step limitPositive more]
            simp
          rw [List.dropLast_cons_of_ne_nil nonempty] at member
          rcases List.mem_cons.mp member with rfl | later
          · omega
          · exact ih (count - limit) (by omega) later

variable {Row : Type*} (idOf : Row → Int) (chosen : Row → Bool) (limit : Nat)

/-- The lowest ids of the chosen rows, at most `limit` of them. -/
def keyBatch (rows : List Row) : List Int :=
  (((rows.filter chosen).map idOf).insertionSort (· ≤ ·)).take limit

variable {idOf chosen limit} {rows : List Row}

theorem keyBatch_eq_nil_iff (limitPositive : 0 < limit) :
    keyBatch idOf chosen limit rows = [] ↔ rows.filter chosen = [] := by
  rw [keyBatch, List.take_eq_nil_iff, ← List.length_eq_zero_iff,
    List.length_insertionSort, List.length_map, List.length_eq_zero_iff]
  constructor
  · rintro (noLimit | noRows)
    · omega
    · exact noRows
  · exact Or.inr

theorem mem_of_mem_keyBatch {id : Int}
    (member : id ∈ keyBatch idOf chosen limit rows) :
    ∃ row ∈ rows, chosen row = true ∧ idOf row = id := by
  have inAll := (List.mem_insertionSort _).mp (List.mem_of_mem_take member)
  obtain ⟨row, chosenRow, rfl⟩ := List.mem_map.mp inAll
  obtain ⟨stored, isChosen⟩ := List.mem_filter.mp chosenRow
  exact ⟨row, stored, isChosen, rfl⟩

theorem keyBatch_length :
    (keyBatch idOf chosen limit rows).length =
      min limit (rows.filter chosen).length := by
  rw [keyBatch, List.length_take, List.length_insertionSort, List.length_map]

/-- Deleting a batch by id leaves fewer chosen rows. -/
theorem remaining_lt
    (nonempty : keyBatch idOf chosen limit rows ≠ []) :
    ((rows.filter fun row =>
        !decide (idOf row ∈ keyBatch idOf chosen limit rows)).filter
          chosen).length <
      (rows.filter chosen).length := by
  obtain ⟨id, inBatch⟩ := List.exists_mem_of_ne_nil _ nonempty
  obtain ⟨row, stored, isChosen, rfl⟩ := mem_of_mem_keyBatch inBatch
  rw [List.filter_filter, List.filter_congr fun row _ => Bool.and_comm _ _,
    ← List.filter_filter]
  refine List.length_filter_lt_length_iff_exists.mpr
    ⟨row, List.mem_filter.mpr ⟨stored, isChosen⟩, ?_⟩
  simpa using inBatch

section UniqueIds

variable (nodup : (rows.map idOf).Nodup)

include nodup

theorem keyBatch_nodup : (keyBatch idOf chosen limit rows).Nodup :=
  ((List.perm_insertionSort _ _).nodup_iff.mpr
    (nodup_map_filter nodup chosen)).sublist (List.take_sublist _ _)

/-- Rows with an id of the batch are chosen ones. -/
theorem chosen_of_mem_keyBatch {row : Row} (stored : row ∈ rows)
    (inBatch : idOf row ∈ keyBatch idOf chosen limit rows) :
    chosen row = true := by
  obtain ⟨other, otherStored, isChosen, sameId⟩ := mem_of_mem_keyBatch inBatch
  rw [← eq_of_key_eq nodup otherStored stored sameId]
  exact isChosen

/-- A batch deletes one row for each of its ids. -/
theorem deleted_length :
    (rows.filter fun row =>
        decide (idOf row ∈ keyBatch idOf chosen limit rows)).length =
      min limit (rows.filter chosen).length := by
  rw [← @keyBatch_length Row idOf chosen limit rows, ← List.length_map idOf]
  apply List.Perm.length_eq
  rw [List.perm_ext_iff_of_nodup (nodup_map_filter nodup _)
    (keyBatch_nodup nodup)]
  intro id
  constructor
  · intro member
    obtain ⟨row, selected, rfl⟩ := List.mem_map.mp member
    simpa using (List.mem_filter.mp selected).2
  · intro inBatch
    obtain ⟨row, stored, -, rfl⟩ := mem_of_mem_keyBatch inBatch
    exact List.mem_map_of_mem
      (List.mem_filter.mpr ⟨stored, by simpa using inBatch⟩)

/-- The chosen rows that a batch leaves. -/
theorem remaining_length :
    ((rows.filter fun row =>
        !decide (idOf row ∈ keyBatch idOf chosen limit rows)).filter
          chosen).length =
      (rows.filter chosen).length - limit := by
  have split := List.length_eq_length_filter_add (l := rows.filter chosen)
    fun row => decide (idOf row ∈ keyBatch idOf chosen limit rows)
  have deleted : (rows.filter chosen).filter
      (fun row => decide (idOf row ∈ keyBatch idOf chosen limit rows)) =
        rows.filter
          fun row => decide (idOf row ∈ keyBatch idOf chosen limit rows) := by
    rw [List.filter_filter]
    apply List.filter_congr
    intro row stored
    cases inBatch : decide (idOf row ∈ keyBatch idOf chosen limit rows) with
    | false => rfl
    | true =>
        rw [chosen_of_mem_keyBatch nodup stored (of_decide_eq_true inBatch)]
        rfl
  have swapped : (rows.filter chosen).filter
      (fun row => !decide (idOf row ∈ keyBatch idOf chosen limit rows)) =
        (rows.filter fun row =>
          !decide (idOf row ∈ keyBatch idOf chosen limit rows)).filter
            chosen := by
    simp only [List.filter_filter, Bool.and_comm]
  rw [deleted, swapped, deleted_length nodup] at split
  omega

end UniqueIds

end Batches

end Tca.TableRows
