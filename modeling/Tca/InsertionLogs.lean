import Tca.RowRanking
import Mathlib.Data.List.Forall2

/-!
# Insertion order from reusable row ids

A new row gets an id above all ids in use, so the ids of deleted rows come
back.  A step of such a table keeps some rows, perhaps changed, and adds new
ones.  The file shows that the rows left after any number of steps, in the
order of their ids, are those left of a history that never sees an id: every
row is appended to it when it is inserted and dropped when it is deleted.
-/

namespace Tca.InsertionLogs

open RowRanking

variable {Row : Type*} (idOf : Row → Int) (Continues : Row → Row → Prop)

/-- Rows in increasing order of their ids. -/
def Increasing (rows : List Row) : Prop :=
  rows.Pairwise fun first second => idOf first < idOf second

/-- A step keeps the chosen rows, each continued by a row with its id, and
adds rows under increasing ids above all those in use. -/
structure Grows (keep : Row → Bool) (before after added : List Row) :
    Prop where
  kept : ∃ change : Row → Row, (∀ row, Continues row (change row)) ∧
    after = (before.filter keep).map change ++ added
  increasing : Increasing idOf added
  above : ∀ row ∈ before, ∀ new ∈ added, idOf row < idOf new

/-- The rows of a table under ids that were not in use before. -/
def inserted (before after : List Row) : List Row :=
  after.filter fun row => idOf row ∉ before.map idOf

/-- The history after a step: rows that are not kept are dropped, inserted
ones appended. -/
def nextHistory (keep : Row → Bool) (before after history : List Row) :
    List Row :=
  history.filter keep ++ inserted idOf before after

/-- The rows of the table continue those of the history, one by one, and
their ids increase. -/
structure Tracks (history rows : List Row) : Prop where
  increasing : Increasing idOf rows
  continued : List.Forall₂ Continues history rows

section Reading

variable {idOf Continues} {history rows : List Row} {chosen : Row → Bool}

/-- Reading the chosen rows by their ids keeps the order of insertion. -/
theorem Increasing.orderBy_filter (ordered : Increasing idOf rows)
    (chosen : Row → Bool) :
    orderBy idOf (rows.filter chosen) = rows.filter chosen :=
  orderBy_eq_self idOf ((List.Pairwise.filter chosen ordered).imp le_of_lt)

/-- The chosen rows are those left of the history. -/
theorem Tracks.continued_filter (tracks : Tracks idOf Continues history rows)
    (sameChoice : ∀ row later, Continues row later →
      chosen row = chosen later) :
    List.Forall₂ Continues (history.filter chosen) (rows.filter chosen) := by
  refine List.rel_filter ?_ tracks.continued
  intro row later same
  exact iff_of_eq (congrArg (· = true) (sameChoice row later same))

/-- Decoding rows that continue the entries of a history, one by one. -/
theorem mapM_of_forall₂ {Entry Problem Record : Type*}
    {related : Entry → Row → Prop} {decode : Row → Except Problem Record}
    {entries : List Entry} (continued : List.Forall₂ related entries rows)
    (decodes : ∀ row ∈ rows, ∃ record, decode row = .ok record) :
    ∃ records, rows.mapM decode = .ok records ∧
      List.Forall₂ (fun entry record =>
        ∃ row, related entry row ∧ decode row = .ok record)
          entries records := by
  induction continued with
  | nil => exact ⟨[], rfl, .nil⟩
  | @cons entry row entries rows isRelated others ih =>
      obtain ⟨first, later⟩ := List.forall_mem_cons.mp decodes
      obtain ⟨record, decoded⟩ := first
      obtain ⟨records, decodedLater, matched⟩ := ih later
      refine ⟨record :: records, ?_, .cons ⟨row, isRelated, decoded⟩ matched⟩
      rw [List.mapM_cons, decoded, decodedLater]
      rfl

end Reading

section Steps

variable {idOf Continues} {keep : Row → Bool}
  {before after added history : List Row}
  (sameId : ∀ row later, Continues row later → idOf later = idOf row)

include sameId

theorem Grows.inserted_eq
    (grows : Grows idOf Continues keep before after added) :
    inserted idOf before after = added := by
  obtain ⟨change, continues, rfl⟩ := grows.kept
  have oldOnes : ((before.filter keep).map change).filter
      (fun row => decide (idOf row ∉ before.map idOf)) = [] := by
    apply List.filter_eq_nil_iff.mpr
    intro row isOld
    obtain ⟨original, isKept, rfl⟩ := List.mem_map.mp isOld
    rw [sameId _ _ (continues original)]
    simpa using ⟨original, (List.mem_filter.mp isKept).1, rfl⟩
  have newOnes : added.filter
      (fun row => decide (idOf row ∉ before.map idOf)) = added := by
    apply List.filter_eq_self.mpr
    intro row isNew
    rw [decide_eq_true_iff, List.mem_map]
    rintro ⟨original, stored, same⟩
    exact (grows.above original stored row isNew).ne same
  rw [inserted, List.filter_append, oldOnes, newOnes, List.nil_append]

theorem Grows.increasing_after
    (grows : Grows idOf Continues keep before after added)
    (ordered : Increasing idOf before) : Increasing idOf after := by
  obtain ⟨change, continues, rfl⟩ := grows.kept
  refine List.pairwise_append.mpr ⟨?_, grows.increasing, ?_⟩
  · rw [List.pairwise_map]
    refine (List.Pairwise.filter keep ordered).imp ?_
    intro first second less
    rwa [sameId _ _ (continues first), sameId _ _ (continues second)]
  · intro row isOld new isNew
    obtain ⟨original, isKept, rfl⟩ := List.mem_map.mp isOld
    rw [sameId _ _ (continues original)]
    exact grows.above original (List.mem_filter.mp isKept).1 new isNew

/-- A step of the table is a step of the history. -/
theorem Tracks.step
    (refl : ∀ row, Continues row row)
    (trans : ∀ row later latest, Continues row later →
      Continues later latest → Continues row latest)
    (sameChoice : ∀ row later, Continues row later → keep row = keep later)
    (tracks : Tracks idOf Continues history before)
    (grows : Grows idOf Continues keep before after added) :
    Tracks idOf Continues (nextHistory idOf keep before after history)
      after := by
  refine ⟨grows.increasing_after sameId tracks.increasing, ?_⟩
  rw [nextHistory, grows.inserted_eq sameId]
  obtain ⟨change, continues, rfl⟩ := grows.kept
  have keptRows := tracks.continued_filter sameChoice
  have changedRows : List.Forall₂ Continues (history.filter keep)
      ((before.filter keep).map change) :=
    List.forall₂_map_right_iff.mpr (keptRows.imp fun row later same =>
      trans row later _ same (continues later))
  exact List.rel_append changedRows
    (List.forall₂_same.mpr fun row _ => refl row)

end Steps

end Tca.InsertionLogs
