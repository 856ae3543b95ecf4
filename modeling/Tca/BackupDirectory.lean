import Tca.KeyedTables
import Tca.RowRanking
import Tca.TimestampText
import Mathlib.Data.Set.Card
import Mathlib.Data.List.Dedup

/-!
# The directory of backups

A directory holds files and folders under distinct names.  Backups are named
after a date, so that their names sort like the dates; but a listing has every
file whose name begins and ends like that of a backup, dated or not.  The file
says which names of a listing are left when all but the last few are removed.
-/

namespace Tca

open FixedWidthText CivilCalendar RowRanking

/-- The code points of a name.  A byte that is not UTF-8 is a lone
surrogate. -/
abbrev FileName :=
  List Nat

def fileName (text : List Char) : FileName :=
  text.map Char.toNat

inductive EntryKind (Content : Type*) where
  | file (content : Content)
  | folder
  deriving DecidableEq

structure DirectoryEntry (Content : Type*) where
  name : FileName
  kind : EntryKind Content
  deriving DecidableEq

/-- The entries of a directory.  A directory that does not exist has none. -/
abbrev Directory (Content : Type*) :=
  KeyedTable (DirectoryEntry Content) DirectoryEntry.name

/-- An exception that is raised by the operating system, by SQLite or by the
job, as a handler sees it. -/
structure RaisedException where
  className : String
  message : String
  deriving DecidableEq

def fileNotFoundError : RaisedException :=
  ⟨"FileNotFoundError", "No such file or directory"⟩

def isADirectoryError : RaisedException :=
  ⟨"IsADirectoryError", "Is a directory"⟩

section Names

/-- The name of a backup of a day, for a way to write the year. -/
def nameOfDate (year : Nat → List Char) (day : Nat) : FileName :=
  fileName ("tca-".toList ++
    (year (civilDate day).1 ++ decimal 2 (civilDate day).2.1 ++
      decimal 2 (civilDate day).2.2) ++ ".db".toList)

/-- `_backup_path_for_date`.  The C library does not pad the `%Y` of
`strftime`. -/
def backupNameForDate (day : Nat) : FileName :=
  nameOfDate (Nat.toDigits 10) day

/-- `tca-YYYYMMDD.db`. -/
def datedName (day : Nat) : FileName :=
  nameOfDate (decimal 4) day

/-- `backup_path.with_suffix(".db.tmp")`. -/
def temporaryName (name : FileName) : FileName :=
  name ++ fileName ".tmp".toList

/-- The days of the years one to 9999. -/
def dayLimit : Nat :=
  3652059

/-- The name matches `tca-*.db`. -/
def IsBackupName (name : FileName) : Prop :=
  ∃ middle, name = fileName "tca-".toList ++ middle ++ fileName ".db".toList

theorem isBackupName_iff (name : FileName) :
    IsBackupName name ↔
      fileName "tca-".toList <+: name ∧
        fileName ".db".toList <:+ name ∧ 7 ≤ name.length := by
  constructor
  · rintro ⟨middle, rfl⟩
    refine ⟨?_, List.suffix_append _ _, ?_⟩
    · rw [List.append_assoc]
      exact List.prefix_append _ _
    · simp [fileName]
  · rintro ⟨⟨rest, rfl⟩, ends, long⟩
    have endsRest : fileName ".db".toList <:+ rest := by
      apply List.suffix_of_suffix_length_le ends (List.suffix_append _ rest)
      rw [List.length_append] at long
      simp only [fileName, List.length_map] at long ⊢
      change 7 ≤ 4 + rest.length at long
      change 3 ≤ rest.length
      omega
    obtain ⟨middle, rfl⟩ := endsRest
    exact ⟨middle, by rw [List.append_assoc]⟩

instance (name : FileName) : Decidable (IsBackupName name) :=
  decidable_of_iff _ (isBackupName_iff name).symm

theorem isBackupName_nameOfDate (year : Nat → List Char) (day : Nat) :
    IsBackupName (nameOfDate year day) := by
  unfold nameOfDate fileName
  rw [List.map_append, List.map_append]
  exact ⟨_, rfl⟩

/-- The temporary file is not listed among the backups. -/
theorem not_isBackupName_temporaryName (name : FileName) :
    ¬ IsBackupName (temporaryName name) := by
  rintro ⟨middle, same⟩
  have lasts := congrArg List.getLast? same
  unfold temporaryName at lasts
  rw [List.getLast?_append, List.getLast?_append] at lasts
  change (some 112 : Option Nat) = some 98 at lasts
  exact absurd lasts (by decide)

theorem temporaryName_ne {name other : FileName} (backup : IsBackupName other) :
    other ≠ temporaryName name := by
  rintro rfl
  exact not_isBackupName_temporaryName name backup

/-- Names sort like their texts. -/
theorem fileName_lt {first second : List Char} (smaller : first < second) :
    fileName first < fileName second := by
  induction first generalizing second with
  | nil =>
      cases second with
      | nil => exact absurd smaller (lt_irrefl _)
      | cons char second => exact List.nil_lt_cons _ _
  | cons char first ih =>
      cases second with
      | nil => exact absurd smaller (List.not_lt_nil _)
      | cons other second =>
          rw [List.cons_lt_cons_iff] at smaller
          unfold fileName
          rw [List.map_cons, List.map_cons, List.cons_lt_cons_iff]
          rcases smaller with lower | ⟨rfl, later⟩
          · exact Or.inl lower
          · exact Or.inr ⟨rfl, ih later⟩

/-- The names of later days sort later. -/
theorem datedName_lt {first second : Nat} (earlier : first < second)
    (inRange : second < dayLimit) : datedName first < datedName second := by
  have valid : ∀ day < dayLimit, (civilDate day).1 < 10 ^ 4 ∧
      (civilDate day).2.1 < 10 ^ 2 ∧ (civilDate day).2.2 < 10 ^ 2 := by
    intro day isDay
    have year := civilDate_year_lt isDay
    obtain ⟨month, date⟩ := civilDate_bounds day
    refine ⟨?_, ?_, ?_⟩
    all_goals omega
  have ordered := (orderedText_decimal 4).juxtapose
    ((orderedText_decimal 2).juxtapose (orderedText_decimal 2))
  have dates := civilDate_lt earlier
  have texts := ordered.lt_of_lt
    (toLex ((civilDate first).1, toLex (civilDate first).2))
    (toLex ((civilDate second).1, toLex (civilDate second).2))
    (valid first (earlier.trans inRange)) (valid second inRange)
    (Prod.Lex.toLex_lt_toLex.mpr dates)
  unfold datedName nameOfDate
  apply fileName_lt
  apply append_lt_append_of_lt
  · simp
  · apply List.append_left_lt
    simpa using texts

theorem datedName_lt_iff {first second : Nat} (firstDay : first < dayLimit)
    (secondDay : second < dayLimit) :
    datedName first < datedName second ↔ first < second := by
  constructor
  · intro smaller
    rcases Nat.lt_trichotomy first second with earlier | rfl | later
    · exact earlier
    · exact absurd smaller (lt_irrefl _)
    · exact absurd smaller (lt_asymm (datedName_lt later firstDay))
  · intro earlier
    exact datedName_lt earlier secondDay

end Names

section Retention

/-- `sorted(names, reverse=True)`. -/
def newestFirst (names : List FileName) : List FileName :=
  orderBy OrderDual.toDual names

/-- The number of names that sort after a name. -/
def rivalCount (names : List FileName) (name : FileName) : Nat :=
  (names.filter fun other => name < other).length

/-- The file of the day is there, and fewer than `count` files of later
days. -/
def AmongLatest (names : List FileName) (count day : Nat) : Prop :=
  datedName day ∈ names ∧
    {later | later < dayLimit ∧ day < later ∧
      datedName later ∈ names}.ncard < count

variable {names : List FileName} {name fresh : FileName} {count day : Nat}

theorem newestFirst_perm (names : List FileName) :
    (newestFirst names).Perm names :=
  orderBy_perm OrderDual.toDual names

theorem newestFirst_strict (distinct : names.Nodup) :
    (newestFirst names).Pairwise fun first second => second < first := by
  have ordered := orderBy_pairwise (OrderDual.toDual (α := FileName)) names
  have apart : (newestFirst names).Pairwise (· ≠ ·) :=
    (newestFirst_perm names).nodup_iff.mpr distinct
  apply (ordered.and apart).imp
  rintro first second ⟨notBefore, different⟩
  exact lt_of_le_of_ne (OrderDual.toDual_le_toDual.mp notBefore) different.symm

theorem rivalCount_newestFirst :
    ((newestFirst names).filter fun other => name < other).length =
      rivalCount names name :=
  ((newestFirst_perm names).filter _).length_eq

/-- The names that are kept are those with few names after them. -/
theorem mem_take_newestFirst (distinct : names.Nodup) :
    name ∈ (newestFirst names).take count ↔
      name ∈ names ∧ rivalCount names name < count := by
  have kept : name ∈ (newestFirst names).take count ↔ _ :=
    mem_take_iff OrderDual.toDual (newestFirst_strict distinct) count
  apply kept.trans
  apply and_congr (newestFirst_perm names).mem_iff
  rw [← rivalCount_newestFirst]
  apply Iff.of_eq
  apply congrArg fun listed : List FileName => listed.length < count
  apply List.filter_congr
  intro other _
  exact decide_eq_decide.mpr OrderDual.toDual_lt_toDual

/-- No more files of later days than names that sort later. -/
theorem ncard_later_le (isDay : day < dayLimit) :
    {later | later < dayLimit ∧ day < later ∧
      datedName later ∈ names}.ncard ≤ rivalCount names (datedName day) := by
  have apart : Set.InjOn datedName {later | later < dayLimit ∧ day < later ∧
      datedName later ∈ names} := by
    rintro first ⟨firstDay, -⟩ second ⟨secondDay, -⟩ same
    apply le_antisymm
    · rw [← not_lt, ← datedName_lt_iff secondDay firstDay, same]
      exact lt_irrefl _
    · rw [← not_lt, ← datedName_lt_iff firstDay secondDay, same]
      exact lt_irrefl _
  have among : datedName '' {later | later < dayLimit ∧ day < later ∧
      datedName later ∈ names} ⊆
        ((names.filter fun other => datedName day < other).toFinset :
          Set FileName) := by
    rintro name ⟨later, ⟨laterDay, isLater, listed⟩, rfl⟩
    simp only [List.coe_toFinset, List.mem_filter, Set.mem_ofPred_eq,
      decide_eq_true_eq]
    exact ⟨listed, (datedName_lt_iff isDay laterDay).mpr isLater⟩
  calc
    _ = (datedName '' {later | later < dayLimit ∧ day < later ∧
          datedName later ∈ names}).ncard := apart.ncard_image.symm
    _ ≤ ((names.filter fun other => datedName day < other).toFinset :
          Set FileName).ncard := Set.ncard_le_ncard among (Finset.finite_toSet _)
    _ = (names.filter fun other => datedName day < other).toFinset.card :=
        Set.ncard_coe_finset _
    _ ≤ rivalCount names (datedName day) := List.toFinset_card_le _

/-- The new file and exactly the latest dated files are kept if and only if few
names sort after each of them. -/
theorem keepsLatest_iff (distinct : names.Nodup) (isListed : fresh ∈ names) :
    (fresh ∈ (newestFirst names).take count ∧
        ∀ day < dayLimit, datedName day ∈ (newestFirst names).take count ↔
          AmongLatest names count day) ↔
      rivalCount names fresh < count ∧
        ∀ day < dayLimit, AmongLatest names count day →
          rivalCount names (datedName day) < count := by
  simp only [mem_take_newestFirst distinct]
  apply and_congr
  · exact and_iff_right isListed
  · apply forall_congr'
    intro day
    apply imp_congr_right
    intro isDay
    constructor
    · intro same latest
      exact (same.mpr latest).2
    · intro few
      constructor
      · rintro ⟨listed, rivals⟩
        exact ⟨listed, (ncard_later_le isDay).trans_lt rivals⟩
      · intro latest
        exact ⟨latest.1, few latest⟩

end Retention

end Tca
