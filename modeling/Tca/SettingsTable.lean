import Tca.RetentionSettings

/-!
# Writes to the settings table

A setting is inserted under its key or overwritten.  Reading the key afterwards
gives the written value, and other keys read as before.  A setting can also be
created, which fails if its key is taken, and deleted on condition that it has
an expected value.
-/

namespace Tca

/-- `SettingsRepository.upsert` of a value that can be encoded. -/
def upsertSetting (settings : List SettingRow) (key : String)
    (value : PyValue) : List SettingRow :=
  if settings.any (fun row => row.key = key) then
    settings.map fun row =>
      if row.key = key then { row with valueJson := .ok value } else row
  else settings ++ [⟨key, .ok value⟩]

theorem find?_upsertSetting_same (settings : List SettingRow) (key : String)
    (value : PyValue) :
    (upsertSetting settings key value).find? (fun row => row.key = key) =
      some ⟨key, .ok value⟩ := by
  rw [upsertSetting]
  split
  · rename_i present
    induction settings with
    | nil => simp at present
    | cons row rows ih =>
        by_cases isRow : row.key = key
        · subst isRow
          simp
        · simp only [List.any_cons, isRow, decide_false,
            Bool.false_or] at present
          simpa [isRow] using ih present
  · rename_i absent
    have noRow : settings.find? (fun row => row.key = key) = none := by
      simpa using absent
    simp [List.find?_append, noRow]

theorem find?_upsertSetting_other (settings : List SettingRow)
    {key other : String} (value : PyValue) (different : other ≠ key) :
    (upsertSetting settings key value).find? (fun row => row.key = other) =
      settings.find? (fun row => row.key = other) := by
  rw [upsertSetting]
  split
  · clear * - different
    induction settings with
    | nil => rfl
    | cons row rows ih =>
        by_cases isKey : row.key = key
        · have notOther : row.key ≠ other := fun same =>
            different (same.symm.trans isKey)
          simpa [isKey, notOther, different.symm] using ih
        · by_cases isOther : row.key = other
          · rw [List.map_cons, if_neg isKey]
            simp [isOther]
          · simpa [isKey, isOther] using ih
  · simp [List.find?_append, different.symm]

/-- The written value is read back. -/
theorem getSetting_upsertSetting_same (settings : List SettingRow)
    (key : String) {value : PyValue} (json : isJsonValue value = true) :
    getSetting (upsertSetting settings key value) key = .ok (some value) := by
  rw [getSetting, find?_upsertSetting_same]
  simp [decodeValueJson, json, Except.map]

/-- Other settings are read as before. -/
theorem getSetting_upsertSetting_other (settings : List SettingRow)
    {key other : String} (value : PyValue) (different : other ≠ key) :
    getSetting (upsertSetting settings key value) other =
      getSetting settings other := by
  rw [getSetting, find?_upsertSetting_other settings value different, getSetting]

/-- `SettingsRepository.create` of a value that can be encoded. -/
def createSetting (settings : List SettingRow) (key : String)
    (value : PyValue) : Except PyError (List SettingRow) :=
  if settings.any (fun row => row.key = key) then
    .error (.settingAlreadyExistsError
      ("Setting already exists for key '" ++ key ++ "'."))
  else .ok (settings ++ [⟨key, .ok value⟩])

/-- No setting is stored under the key. -/
def SettingMissing (settings : List SettingRow) (key : String) : Prop :=
  ∀ row ∈ settings, row.key ≠ key

section Creation

variable {settings : List SettingRow} {key : String}

theorem createSetting_of_missing (missing : SettingMissing settings key)
    (value : PyValue) :
    createSetting settings key value = .ok (settings ++ [⟨key, .ok value⟩]) := by
  refine if_neg ?_
  simpa [SettingMissing] using missing

theorem createSetting_of_present {row : SettingRow} (stored : row ∈ settings)
    (value : PyValue) :
    createSetting settings row.key value = .error
      (.settingAlreadyExistsError
        ("Setting already exists for key '" ++ row.key ++ "'.")) := by
  refine if_pos ?_
  simpa using ⟨row, stored, rfl⟩

theorem getSetting_of_missing (missing : SettingMissing settings key) :
    getSetting settings key = .ok none := by
  have absent : settings.find? (fun row => row.key = key) = none := by
    simpa [SettingMissing] using missing
  rw [getSetting, absent]

/-- A created setting is read back. -/
theorem getSetting_created (missing : SettingMissing settings key)
    {value : PyValue} (json : isJsonValue value = true) :
    getSetting (settings ++ [⟨key, .ok value⟩]) key = .ok (some value) := by
  have absent : settings.find? (fun row => row.key = key) = none := by
    simpa [SettingMissing] using missing
  rw [getSetting, List.find?_append, absent]
  simp [decodeValueJson, json, Except.map]

/-- The row holds the text under the key. -/
def SettingRow.holdsText (row : SettingRow) (key text : String) : Bool :=
  row.key == key &&
    match row.valueJson with
    | .ok (.str stored) => stored == text
    | _ => false

/-- `SettingsRepository.delete_if_value_matches` of a text: whether a row was
deleted, and the rows that are left. -/
def deleteIfValueMatches (settings : List SettingRow) (key text : String) :
    Bool × List SettingRow :=
  (settings.any (·.holdsText key text),
    settings.filter (fun row => !row.holdsText key text))

/-- Deleting a created setting leaves the rows that were there before. -/
theorem deleteIfValueMatches_created (missing : SettingMissing settings key)
    (text : String) :
    deleteIfValueMatches (settings ++ [⟨key, .ok (.str text)⟩]) key text =
      (true, settings) := by
  have others : ∀ row ∈ settings, row.holdsText key text = false := by
    intro row stored
    simp [SettingRow.holdsText, missing row stored]
  have kept : settings.filter (fun row => !row.holdsText key text) =
      settings := by
    refine List.filter_eq_self.mpr fun row stored => ?_
    rw [others row stored]
    rfl
  rw [deleteIfValueMatches, List.any_append, List.filter_append, kept]
  simp [SettingRow.holdsText]

end Creation

end Tca
