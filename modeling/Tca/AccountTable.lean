import Tca.StorageSchema
import Tca.KeyedTables

/-!
# The table of Telegram accounts

Rows of `telegram_accounts` with the columns that the authentication, rotation
and polling code reads or writes.  The ids are distinct SQLite integers.
-/

namespace Tca

open TableRows

/-- A point in time in microseconds since the epoch.  Aware datetimes are
compared by the instants they denote. -/
abbrev Instant : Type :=
  Int

structure AccountRow where
  id : Int
  apiId : Int
  apiHashEncrypted : List UInt8
  phoneNumber : Option String
  sessionEncrypted : Option (List UInt8)
  keyVersion : Int
  pausedAt : Option Instant
  pauseReason : Option String
  deriving DecidableEq

structure AccountTable extends KeyedTable AccountRow AccountRow.id where
  sqlIds : ∀ row ∈ rows, IsSqlInteger row.id

namespace AccountTable

variable (accounts : AccountTable)

abbrev ids : List Int := accounts.toKeyedTable.keys

/-- A table without rows. -/
def empty : AccountTable := ⟨⟨[], List.nodup_nil⟩, by simp⟩

/-- `UPDATE telegram_accounts SET ... WHERE ...` for columns other than the
id. -/
def updateWhere (condition : AccountRow → Bool)
    (set : AccountRow → AccountRow) (keepsId : ∀ row, (set row).id = row.id) :
    AccountTable where
  toKeyedTable := accounts.toKeyedTable.updateWhere condition set keepsId
  sqlIds := by
    intro row member
    obtain ⟨old, oldStored, rfl⟩ := KeyedTable.mem_updateWhere.mp member
    split
    · rw [keepsId]
      exact accounts.sqlIds old oldStored
    · exact accounts.sqlIds old oldStored

/-- `INSERT INTO telegram_accounts` of a row with an unused id. -/
def insert (newRow : AccountRow) (fresh : newRow.id ∉ accounts.ids)
    (sqlId : IsSqlInteger newRow.id) : AccountTable where
  toKeyedTable := accounts.toKeyedTable.insert newRow fresh
  sqlIds := forall_mem_append_row accounts.sqlIds sqlId

variable {accounts} {condition : AccountRow → Bool}
  {set : AccountRow → AccountRow} {keepsId : ∀ row, (set row).id = row.id}

/-- A table is determined by its rows. -/
theorem ext_rows {first second : AccountTable}
    (sameRows : first.rows = second.rows) : first = second := by
  obtain ⟨⟨rows, uniqueKeys⟩, sqlIds⟩ := first
  obtain ⟨⟨otherRows, otherKeys⟩, otherIds⟩ := second
  simp only at sameRows
  subst sameRows
  rfl

theorem rows_updateWhere :
    (accounts.updateWhere condition set keepsId).rows =
      accounts.rows.map fun row => if condition row then set row else row :=
  rfl

@[simp]
theorem ids_updateWhere :
    (accounts.updateWhere condition set keepsId).ids = accounts.ids :=
  KeyedTable.map_key_updateIf accounts.rows condition keepsId

theorem mem_updateWhere {row : AccountRow} :
    row ∈ (accounts.updateWhere condition set keepsId).rows ↔
      ∃ old ∈ accounts.rows, (if condition old then set old else old) = row :=
  List.mem_map

end AccountTable

end Tca
