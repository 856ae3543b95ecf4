import Mathlib.Data.List.Infix
import Mathlib.Order.Lattice

/-!
# Pages of a list read by descending key

A reader that asks for the rows below an offset, newest first, and continues
from the smallest key it has seen reads a descending list from its front to
its end.  Rows prepended between two reads never disturb the part that is
still unread.
-/

namespace Tca.KeysetPages

variable {Row Key : Type*}

/-- The unread part of a list that was read down to an offset: everything if
there is no offset yet, else what follows the row with the offset as key. -/
def Unread (key : Row → Key) (rows : List Row) (offset : Option Key)
    (unread : List Row) : Prop :=
  ∃ read, rows = read ++ unread ∧ offset = read.getLast?.map key

theorem unread_start (key : Row → Key) (rows : List Row) :
    Unread key rows none rows :=
  ⟨[], rfl, rfl⟩

/-- After reading a nonempty front of the unread part, and after any rows were
put in front of the list, the rest is what is unread below the last key. -/
theorem Unread.advance {key : Row → Key} {rows grown front rest : List Row}
    {offset : Option Key} (isUnread : Unread key rows offset (front ++ rest))
    (grows : rows <:+ grown) (nonempty : front ≠ []) :
    Unread key grown (front.getLast?.map key) rest := by
  obtain ⟨read, rfl, rfl⟩ := isUnread
  obtain ⟨arrived, rfl⟩ := grows
  refine ⟨arrived ++ read ++ front, by simp, ?_⟩
  have lastOfFront := List.getLast?_eq_some_getLast nonempty
  simp [List.getLast?_append, lastOfFront]

variable [LinearOrder Key] (key : Row → Key)

/-- The keys fall strictly from each row to the rows after it. -/
def Descending (rows : List Row) : Prop :=
  rows.Pairwise (fun newer older => key older < key newer)

/-- The rows with a key below the offset; without an offset, all rows. -/
def below : Option Key → List Row → List Row
  | none, rows => rows
  | some offset, rows => rows.filter (fun row => decide (key row < offset))

/-- The first rows below the offset, as many as the limit allows. -/
def page (limit : Nat) (offset : Option Key) (rows : List Row) : List Row :=
  (below key offset rows).take limit

variable {key}

/-- Below the key of a row stands exactly what follows the row. -/
theorem below_key_of_descending {newer older : List Row} {row : Row}
    (descending : Descending key (newer ++ row :: older)) :
    below key (some (key row)) (newer ++ row :: older) = older := by
  obtain ⟨-, fromRow, acrossRow⟩ := List.pairwise_append.mp descending
  obtain ⟨belowRow, -⟩ := List.pairwise_cons.mp fromRow
  have newerDropped :
      newer.filter (fun other => decide (key other < key row)) = [] := by
    rw [List.filter_eq_nil_iff]
    intro other isNewer
    have above := acrossRow other isNewer row List.mem_cons_self
    simp [above.le]
  have olderKept :
      older.filter (fun other => decide (key other < key row)) = older := by
    rw [List.filter_eq_self]
    intro other isOlder
    simpa using belowRow other isOlder
  simp [below, newerDropped, olderKept]

/-- A page holds the front of the unread part. -/
theorem page_of_unread {rows unread : List Row} {offset : Option Key}
    (descending : Descending key rows) (isUnread : Unread key rows offset unread)
    (limit : Nat) :
    page key limit offset rows = unread.take limit := by
  obtain ⟨read, rfl, rfl⟩ := isUnread
  induction read using List.reverseRecOn with
  | nil => rfl
  | append_singleton newer row _ =>
      have belowRow :
          below key (some (key row)) ((newer ++ [row]) ++ unread) = unread := by
        rw [List.append_assoc] at descending ⊢
        exact below_key_of_descending descending
      simp only [page, List.getLast?_append, List.getLast?_singleton,
        Option.some_or, Option.map_some]
      rw [belowRow]

/-- The smallest key of a descending list is the key of its last row. -/
theorem min?_keys_of_descending [Std.LawfulOrderMin Key] {rows : List Row}
    (descending : Descending key rows) :
    (rows.map key).min? = rows.getLast?.map key := by
  induction rows using List.reverseRecOn with
  | nil => rfl
  | append_singleton newer last _ =>
      obtain ⟨-, -, aboveLast⟩ := List.pairwise_append.mp descending
      simp only [List.getLast?_append, List.getLast?_singleton, Option.some_or,
        Option.map_some]
      rw [List.min?_eq_some_iff]
      refine ⟨by simp, ?_⟩
      intro other isKey
      obtain ⟨row, isRow, rfl⟩ := List.mem_map.mp isKey
      rcases List.mem_append.mp isRow with isNewer | isLast
      · exact (aboveLast row isNewer last (by simp)).le
      · rw [List.mem_singleton.mp isLast]

end Tca.KeysetPages
