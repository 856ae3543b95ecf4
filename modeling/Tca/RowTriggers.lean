import Mathlib.Data.List.Perm.Basic

/-!
# Indexes that row triggers maintain

An index holds one entry for each row of a table.  A statement goes through the
table and leaves a row alone, replaces it or deletes it; for each replaced or
deleted row a trigger removes the entry of the old row and adds that of the new
one.  An index that mirrors its table goes on doing so.
-/

namespace Tca.RowTriggers

/-- What a statement does to a row. -/
inductive RowEffect (Row : Type*) where
  | untouched
  | replaced (new : Row)
  | deleted

variable {Row Entry : Type*}

/-- The row after a statement, if it is still there. -/
def RowEffect.rowAfter (row : Row) : RowEffect Row → Option Row
  | .untouched => some row
  | .replaced new => some new
  | .deleted => none

/-- The table after a statement. -/
def sweep (effect : Row → RowEffect Row) (rows : List Row) : List Row :=
  rows.filterMap fun row => (effect row).rowAfter row

section Index

variable (entry : Row → Entry)

/-- The trigger on insertion. -/
def afterInsert (index : List Entry) (new : Row) : List Entry :=
  entry new :: index

/-- The index has one entry for each row and no others. -/
def Mirrors (index : List Entry) (rows : List Row) : Prop :=
  index.Perm (rows.map entry)

variable {entry} in
theorem Mirrors.afterInsert {index : List Entry} {rows : List Row}
    (mirrors : Mirrors entry index rows) (new : Row) :
    Mirrors entry (afterInsert entry index new) (rows ++ [new]) := by
  have added : (entry new :: rows.map entry).Perm
      ((rows ++ [new]).map entry) := by
    rw [List.map_append]
    exact (List.perm_append_singleton _ _).symm
  exact (mirrors.cons _).trans added

variable [DecidableEq Entry]

/-- The trigger on deletion. -/
def afterDelete (index : List Entry) (old : Row) : List Entry :=
  index.erase (entry old)

/-- The trigger on update. -/
def afterUpdate (index : List Entry) (old new : Row) : List Entry :=
  entry new :: index.erase (entry old)

/-- The triggers that fire for one row. -/
def RowEffect.fire (index : List Entry) (row : Row) :
    RowEffect Row → List Entry
  | .untouched => index
  | .replaced new => afterUpdate entry index row new
  | .deleted => afterDelete entry index row

/-- The index after a statement. -/
def fireTriggers (effect : Row → RowEffect Row) (rows : List Row)
    (index : List Entry) : List Entry :=
  rows.foldl (fun current row => (effect row).fire entry current row) index

variable {entry} {index : List Entry} {rows : List Row}

/-- One row's triggers, in the middle of a statement.  The rows before it have
been dealt with. -/
theorem Mirrors.fire {handled : List Row} {row : Row} {waiting : List Row}
    (mirrors : Mirrors entry index (handled ++ row :: waiting))
    (effect : RowEffect Row) :
    Mirrors entry (effect.fire entry index row)
      ((handled ++ (effect.rowAfter row).toList) ++ waiting) := by
  have rowFirst : index.Perm
      (entry row :: (handled ++ waiting).map entry) := by
    refine mirrors.trans ?_
    rw [← List.map_cons]
    exact List.perm_middle.map entry
  have erased : (index.erase (entry row)).Perm
      ((handled ++ waiting).map entry) := by
    have step := rowFirst.erase (entry row)
    rwa [List.erase_cons_head] at step
  cases effect with
  | untouched =>
      rw [RowEffect.fire, RowEffect.rowAfter, Option.toList_some,
        List.append_assoc]
      exact mirrors
  | replaced new =>
      rw [RowEffect.fire, RowEffect.rowAfter, Option.toList_some,
        List.append_assoc]
      refine (erased.cons (entry new)).trans ?_
      rw [← List.map_cons]
      exact (List.perm_middle.symm).map entry
  | deleted =>
      rw [RowEffect.fire, RowEffect.rowAfter, Option.toList_none,
        List.append_nil]
      exact erased

theorem Mirrors.fireTriggers_from {handled : List Row}
    (effect : Row → RowEffect Row)
    (mirrors : Mirrors entry index (handled ++ rows)) :
    Mirrors entry (fireTriggers entry effect rows index)
      (handled ++ sweep effect rows) := by
  induction rows generalizing handled index with
  | nil => exact mirrors
  | cons row rows ih =>
      have next := ih (mirrors.fire (effect row))
      rw [List.append_assoc] at next
      have split : sweep effect (row :: rows) =
          ((effect row).rowAfter row).toList ++ sweep effect rows := by
        cases after : (effect row).rowAfter row <;> simp [sweep, after]
      rw [split]
      exact next

/-- After a statement the index mirrors the table again. -/
theorem Mirrors.fireTriggers (mirrors : Mirrors entry index rows)
    (effect : Row → RowEffect Row) :
    Mirrors entry (fireTriggers entry effect rows index)
      (sweep effect rows) :=
  @Mirrors.fireTriggers_from _ _ entry _ index rows [] effect mirrors

end Index

section Statements

variable {effect : Row → RowEffect Row}

/-- A statement that deletes the selected rows. -/
theorem sweep_eq_filter {selected : Row → Bool}
    (after : ∀ row, (effect row).rowAfter row =
      if selected row then none else some row) (rows : List Row) :
    sweep effect rows = rows.filter fun row => !selected row := by
  rw [← List.filterMap_eq_filter]
  refine List.filterMap_congr fun row _ => ?_
  rw [after row]
  cases chosen : selected row <;> simp [Option.guard, chosen]

/-- A statement that rewrites rows. -/
theorem sweep_eq_map {change : Row → Row}
    (after : ∀ row, (effect row).rowAfter row = some (change row))
    (rows : List Row) : sweep effect rows = rows.map change := by
  rw [← List.filterMap_eq_map]
  exact List.filterMap_congr fun row _ => after row

end Statements

end Tca.RowTriggers
