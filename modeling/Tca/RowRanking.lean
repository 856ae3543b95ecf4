import Mathlib.Data.List.Forall2
import Mathlib.Data.List.Sort
import Mathlib.Order.WithBot

/-!
# Ranked and paginated rows

Rows are put in the order of a key.  The first ranked row is the least one,
and it depends only on which rows there are when the key separates them.
Pages cut a list of ordered rows by a limit and an offset; the consecutive
pages of one size cover the rows without overlap.
-/

namespace Tca.RowRanking

variable {Row Key : Type*} [LinearOrder Key] (key : Row → Key)

/-- A nullable sort term: null sorts before every value. -/
def nullsFirst {Value : Type*} : Option Value → WithBot Value
  | none => ⊥
  | some value => value

theorem nullsFirst_injective {Value : Type*} :
    Function.Injective (@nullsFirst Value) := by
  intro first second same
  cases first <;> cases second <;> simp_all [nullsFirst]

/-- The rows in increasing order of the key. -/
def orderBy (rows : List Row) : List Row :=
  rows.insertionSort fun first second => key first ≤ key second

/-- The row ranked first. -/
def firstRanked (rows : List Row) : Option Row :=
  (orderBy key rows).head?

theorem mem_orderBy {rows : List Row} {row : Row} :
    row ∈ orderBy key rows ↔ row ∈ rows :=
  List.mem_insertionSort _

theorem orderBy_perm (rows : List Row) : (orderBy key rows).Perm rows :=
  List.perm_insertionSort _ rows

private theorem ranking_total :
    Std.Total fun first second : Row => key first ≤ key second :=
  ⟨fun first second => le_total (key first) (key second)⟩

private theorem ranking_trans :
    IsTrans Row fun first second => key first ≤ key second :=
  ⟨fun _ _ _ firstLe secondLe => le_trans firstLe secondLe⟩

theorem orderBy_pairwise (rows : List Row) :
    (orderBy key rows).Pairwise fun first second => key first ≤ key second :=
  haveI := ranking_total key
  haveI := ranking_trans key
  List.pairwise_insertionSort _ rows

/-- Rows that are in order already stay where they are. -/
theorem orderBy_eq_self {rows : List Row}
    (ordered : rows.Pairwise fun first second => key first ≤ key second) :
    orderBy key rows = rows :=
  ordered.insertionSort_eq

theorem firstRanked_eq_none_iff {rows : List Row} :
    firstRanked key rows = none ↔ rows = [] := by
  rw [firstRanked, List.head?_eq_none_iff]
  constructor
  · intro empty
    exact List.eq_nil_iff_forall_not_mem.mpr fun row member => by
      simpa [empty] using (mem_orderBy key).mpr member
  · rintro rfl
    rfl

/-- The first ranked row is one of the rows and no row precedes it. -/
theorem firstRanked_least {rows : List Row} {row : Row}
    (first : firstRanked key rows = some row) :
    row ∈ rows ∧ ∀ other ∈ rows, key row ≤ key other := by
  obtain ⟨rest, ordered⟩ := List.head?_eq_some_iff.mp first
  have sorted := orderBy_pairwise key rows
  rw [ordered, List.pairwise_cons] at sorted
  refine ⟨(mem_orderBy key).mp (by simp [ordered]), fun other member => ?_⟩
  have otherMember : other ∈ row :: rest := by
    rw [← ordered]
    exact (mem_orderBy key).mpr member
  rcases List.mem_cons.mp otherMember with rfl | inRest
  · exact le_rfl
  · exact sorted.1 other inRest

/-- With a key that separates the rows, the least row is ranked first. -/
theorem firstRanked_eq_some_iff {rows : List Row} {row : Row}
    (separates : ∀ first ∈ rows, ∀ second ∈ rows,
      key first = key second → first = second) :
    firstRanked key rows = some row ↔
      row ∈ rows ∧ ∀ other ∈ rows, key row ≤ key other := by
  constructor
  · exact firstRanked_least key
  · rintro ⟨member, least⟩
    cases ranked : firstRanked key rows with
    | none =>
        rw [(firstRanked_eq_none_iff key).mp ranked] at member
        simp at member
    | some other =>
        obtain ⟨otherMember, otherLeast⟩ := firstRanked_least key ranked
        have keysEqual : key other = key row :=
          le_antisymm (otherLeast row member) (least other otherMember)
        rw [separates other otherMember row member keysEqual]

/-- Of rows in order, those with few rows before them are taken. -/
theorem mem_take_iff {rows : List Row}
    (ordered : rows.Pairwise fun first second => key first < key second)
    {row : Row} (limit : Nat) :
    row ∈ rows.take limit ↔
      row ∈ rows ∧
        (rows.filter fun other => key other < key row).length < limit := by
  induction rows generalizing limit with
  | nil => simp
  | cons first rows ih =>
      obtain ⟨firstLess, laterOrdered⟩ := List.pairwise_cons.mp ordered
      cases limit with
      | zero => simp
      | succ limit =>
          rw [List.take_succ_cons, List.mem_cons, List.mem_cons,
            ih laterOrdered]
          constructor
          · rintro (rfl | ⟨later, few⟩)
            · have noneLess : (row :: rows).filter
                  (fun other => key other < key row) = [] := by
                rw [List.filter_eq_nil_iff]
                intro other member less
                rcases List.mem_cons.mp member with rfl | later
                · exact absurd (of_decide_eq_true less) (lt_irrefl _)
                · exact lt_asymm (firstLess other later)
                    (of_decide_eq_true less)
              rw [noneLess]
              exact ⟨.inl rfl, Nat.succ_pos _⟩
            · rw [List.filter_cons_of_pos (by simp [firstLess row later])]
              exact ⟨.inr later, Nat.succ_lt_succ few⟩
          · rintro ⟨rfl | later, few⟩
            · exact .inl rfl
            · rw [List.filter_cons_of_pos (by simp [firstLess row later])]
                at few
              exact .inr ⟨later, Nat.lt_of_succ_lt_succ few⟩

/-- The first ranked row depends only on which rows there are. -/
theorem firstRanked_congr {first second : List Row}
    (separates : ∀ one ∈ first, ∀ two ∈ first, key one = key two → one = two)
    (sameRows : ∀ row, row ∈ first ↔ row ∈ second) :
    firstRanked key first = firstRanked key second := by
  apply Option.ext
  intro row
  have alsoSeparates : ∀ one ∈ second, ∀ two ∈ second,
      key one = key two → one = two :=
    fun one oneMember two twoMember =>
      separates one ((sameRows one).mpr oneMember)
        two ((sameRows two).mpr twoMember)
  rw [firstRanked_eq_some_iff key separates,
    firstRanked_eq_some_iff key alsoSeparates]
  simp only [sameRows]

/-- A change of the rows that keeps their keys commutes with the ranking. -/
theorem firstRanked_map {change : Row → Row}
    (sameKey : ∀ row, key (change row) = key row) (rows : List Row) :
    firstRanked key (rows.map change) = (firstRanked key rows).map change := by
  have ordered : (orderBy key rows).map change =
      orderBy key (rows.map change) := by
    apply List.map_insertionSort
    intro first _ second _
    rw [sameKey, sameKey]
  rw [firstRanked, ← ordered, List.head?_map, firstRanked]

/-- With a key that separates the rows, restricting the rows commutes with
putting them in order. -/
theorem orderBy_filter {rows : List Row} (keep : Row → Bool)
    (separates : ∀ first ∈ rows, ∀ second ∈ rows,
      key first = key second → first = second) :
    orderBy key (rows.filter keep) = (orderBy key rows).filter keep := by
  have permuted : (orderBy key (rows.filter keep)).Perm
      ((orderBy key rows).filter keep) :=
    (orderBy_perm key (rows.filter keep)).trans
      ((orderBy_perm key rows).filter keep).symm
  apply permuted.eq_of_pairwise _ (orderBy_pairwise key (rows.filter keep))
    ((orderBy_pairwise key rows).filter keep)
  intro first second firstMember secondMember before after
  have firstRow := (mem_orderBy key).mp firstMember
  have secondRow := (mem_orderBy key).mp (List.mem_of_mem_filter secondMember)
  exact separates first (List.mem_of_mem_filter firstRow) second secondRow
    (le_antisymm before after)

section Related

variable {Other OtherKey : Type*} [LinearOrder OtherKey] {key : Row → Key}
  {otherKey : Other → OtherKey} {Related : Row → Other → Prop}
  {rows : List Row} {others : List Other}

/-- Related rows have keys in the same order. -/
def SameOrder (key : Row → Key) (otherKey : Other → OtherKey)
    (Related : Row → Other → Prop) : Prop :=
  ∀ first second firstOther secondOther,
    Related first firstOther → Related second secondOther →
      (key first ≤ key second ↔ otherKey firstOther ≤ otherKey secondOther)

theorem SameOrder.orderedInsert (sameOrder : SameOrder key otherKey Related)
    {row : Row} {other : Other} (first : Related row other)
    (related : List.Forall₂ Related rows others) :
    List.Forall₂ Related
      (rows.orderedInsert (fun first second => key first ≤ key second) row)
      (others.orderedInsert
        (fun first second => otherKey first ≤ otherKey second) other) := by
  induction related with
  | nil => exact .cons first .nil
  | @cons behind otherBehind rows others second rest ih =>
      have sameChoice := sameOrder row behind other otherBehind first second
      rw [List.orderedInsert_cons, List.orderedInsert_cons,
        if_congr sameChoice rfl rfl]
      split
      · exact .cons first (.cons second rest)
      · exact .cons second ih

/-- Related rows are put in related places. -/
theorem SameOrder.orderBy (sameOrder : SameOrder key otherKey Related)
    (related : List.Forall₂ Related rows others) :
    List.Forall₂ Related (RowRanking.orderBy key rows)
      (RowRanking.orderBy otherKey others) := by
  induction related with
  | nil => exact .nil
  | cons first _ ih => exact sameOrder.orderedInsert first ih

end Related

section Pages

/-- The rows selected by a limit and an offset. -/
def page (limit offset : Nat) (rows : List Row) : List Row :=
  (rows.drop offset).take limit

/-- The first pages of one size, concatenated. -/
theorem flatten_pages (size count : Nat) (rows : List Row) :
    ((List.range count).map fun index =>
        page size (index * size) rows).flatten =
      rows.take (count * size) := by
  induction count with
  | zero => simp
  | succ count ih =>
      rw [List.range_succ, List.map_append, List.flatten_append, ih,
        Nat.succ_mul, List.take_add]
      simp [page]

/-- A page read with one row more starts with the page. -/
theorem take_page_succ (size offset : Nat) (rows : List Row) :
    (page (size + 1) offset rows).take size = page size offset rows := by
  rw [page, page, List.take_take, Nat.min_eq_left (Nat.le_succ size)]

/-- The row after a page is there exactly if the next page is not empty. -/
theorem lt_length_page_succ_iff {size : Nat} (positive : 0 < size)
    (offset : Nat) (rows : List Row) :
    size < (page (size + 1) offset rows).length ↔
      page size (offset + size) rows ≠ [] := by
  rw [page, page, Ne, List.take_eq_nil_iff, List.drop_eq_nil_iff,
    List.length_take, List.length_drop]
  omega

theorem page_map {Value : Type*} (decode : Row → Value)
    (limit offset : Nat) (rows : List Row) :
    page limit offset (rows.map decode) =
      (page limit offset rows).map decode := by
  rw [page, page, List.map_take, List.map_drop]

theorem page_eq_nil_iff {limit offset : Nat} (positive : 0 < limit)
    {rows : List Row} :
    page limit offset rows = [] ↔ rows.length ≤ offset := by
  rw [page, List.take_eq_nil_iff, List.drop_eq_nil_iff]
  omega

/-- The number of pages that are not empty. -/
def pageCount (size : Nat) (rows : List Row) : Nat :=
  (rows.length + size - 1) / size

theorem pageCount_covers {size : Nat} (positive : 0 < size)
    (rows : List Row) : rows.length ≤ pageCount size rows * size := by
  have rounding := Nat.lt_div_mul_add positive (a := rows.length + size - 1)
  unfold pageCount
  omega

theorem lt_length_of_lt_pageCount {size : Nat} (positive : 0 < size)
    {rows : List Row} {index : Nat} (early : index < pageCount size rows) :
    index * size < rows.length := by
  have atMost : (index + 1) * size ≤ rows.length + size - 1 :=
    (Nat.le_div_iff_mul_le positive).mp early
  rw [Nat.succ_mul] at atMost
  omega

end Pages

end Tca.RowRanking
