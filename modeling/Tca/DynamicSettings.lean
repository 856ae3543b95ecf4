import Tca.AppLifespan
import Tca.BackupRetention
import Tca.BotDeliveryLoop
import Tca.ChannelGroups
import Tca.InterleavedCalls
import Tca.RetentionCutoffs
import Tca.SchedulerRange
import Tca.SettingTexts

/-!
# Seeded settings

At startup the application stores a default under every dynamic setting that
has no value, one after the other.  Requests read and write the settings, and
other parts of the application write settings of their own.  The file follows
all of them on one table, step by step and in any order.  Seeding is invisible:
requests and jobs find what they would find if only the writes had taken place,
because whoever reads a setting falls back to the default that is seeded.
-/

namespace Tca

open GuardedRuns InterleavedCalls

section Rows

/-- The row of a setting. -/
def settingRow? (settings : List SettingRow) (key : String) :
    Option SettingRow :=
  settings.find? (fun row => row.key = key)

/-- `SettingsRepository.update` of a value that can be encoded. -/
def updateSetting (settings : List SettingRow) (key : String)
    (value : PyValue) : Option (List SettingRow) :=
  if settings.any (fun row => row.key = key) then
    some (settings.map fun row =>
      if row.key = key then { row with valueJson := .ok value } else row)
  else none

/-- `SettingsRepository.delete`. -/
def deleteSetting (settings : List SettingRow) (key : String) :
    List SettingRow :=
  settings.filter fun row => row.key ≠ key

variable {settings later : List SettingRow} {key : String} {value : PyValue}

theorem getSetting_congr {other : List SettingRow}
    (same : settingRow? settings key = settingRow? other key) :
    getSetting settings key = getSetting other key := by
  unfold settingRow? at same
  rw [getSetting, getSetting, same]

theorem getSetting_of_row (isRow : settingRow? settings key =
    some ⟨key, .ok value⟩) (json : isJsonValue value = true) :
    getSetting settings key = .ok (some value) := by
  unfold settingRow? at isRow
  rw [getSetting, isRow]
  simp [decodeValueJson, json, Except.map]

theorem getSetting_of_noRow (noRow : settingRow? settings key = none) :
    getSetting settings key = .ok none := by
  unfold settingRow? at noRow
  rw [getSetting, noRow]

theorem settingRow?_upsertSetting (other : String) :
    settingRow? (upsertSetting settings key value) other =
      if other = key then some ⟨key, .ok value⟩
      else settingRow? settings other := by
  unfold settingRow?
  split
  · rename_i same
    subst same
    exact find?_upsertSetting_same settings other value
  · rename_i different
    exact find?_upsertSetting_other settings value different

theorem settingRow?_deleteSetting (other : String) :
    settingRow? (deleteSetting settings key) other =
      if other = key then none else settingRow? settings other := by
  unfold settingRow? deleteSetting
  rw [List.find?_filter]
  split
  · rename_i same
    subst same
    simp
  · rename_i different
    apply congrArg (settings.find? ·)
    funext row
    by_cases isOther : row.key = other
    · simp [isOther, different]
    · simp [isOther]

theorem settingMissing_iff :
    SettingMissing settings key ↔ settingRow? settings key = none := by
  simp [SettingMissing, settingRow?]

/-- A row that is updated is there, and an update is an upsert of it. -/
theorem updateSetting_cases (settings : List SettingRow) (key : String)
    (value : PyValue) :
    (settingRow? settings key = none ∧
        updateSetting settings key value = none) ∨
      ((settingRow? settings key).isSome ∧
        updateSetting settings key value =
          some (upsertSetting settings key value)) := by
  unfold updateSetting upsertSetting
  by_cases present : settings.any (fun row => row.key = key) = true
  · rw [if_pos present, if_pos present]
    refine .inr ⟨?_, rfl⟩
    simpa [settingRow?] using present
  · rw [if_neg present]
    refine .inl ⟨?_, rfl⟩
    simpa [settingRow?] using present

/-- A row that is created was not there, and the creation is an upsert. -/
theorem createSetting_cases (settings : List SettingRow) (key : String)
    (value : PyValue) :
    (settingRow? settings key = none ∧
        createSetting settings key value =
          .ok (upsertSetting settings key value)) ∨
      ((settingRow? settings key).isSome ∧
        createSetting settings key value = .error
          (.settingAlreadyExistsError
            ("Setting already exists for key '" ++ key ++ "'."))) := by
  unfold createSetting upsertSetting
  by_cases present : settings.any (fun row => row.key = key) = true
  · rw [if_pos present]
    refine .inr ⟨?_, rfl⟩
    simpa [settingRow?] using present
  · rw [if_neg present, if_neg present]
    refine .inl ⟨?_, rfl⟩
    simpa [settingRow?] using present

end Rows

section Defaults

/-- `DYNAMIC_SETTINGS_DEFAULTS`.  The threshold is the double nearest to
0.92. -/
def dynamicSettingsDefaults : List (String × PyValue) :=
  [("dedupe.default_horizon_minutes", .int 1440),
    ("dedupe.threshold.title_similarity",
      .float (.finite (8286623314361713 / 9007199254740992))),
    ("scheduler.default_poll_interval_seconds", .int 300),
    ("scheduler.max_pages_per_poll", .int 5),
    ("scheduler.max_messages_per_poll", .int 500),
    ("retention.raw_messages_days", .int 30),
    ("retention.items_days", .int 365),
    ("retention.ingest_errors_days", .int 90),
    ("retention.dedupe_decisions_days", .int 180),
    ("backup.retain_count", .int 14),
    ("bot.delivery_interval_seconds", .int 60),
    ("bot.delivery_batch_size", .int 10)]

/-- `_DEFAULT_DYNAMIC_SETTING_VALUES`. -/
def seededDefault? (key : String) : Option PyValue :=
  (dynamicSettingsDefaults.find? fun entry => entry.1 = key).map Prod.snd

theorem map_fst_dynamicSettingsDefaults :
    dynamicSettingsDefaults.map Prod.fst = allowedDynamicSettingKeys :=
  rfl

theorem seededDefault?_isSome_iff {key : String} :
    (seededDefault? key).isSome ↔ key ∈ allowedDynamicSettingKeys := by
  rw [← map_fst_dynamicSettingsDefaults]
  simp [seededDefault?, List.mem_map]

theorem mem_of_seededDefault? {key : String} {value : PyValue}
    (isDefault : seededDefault? key = some value) :
    (key, value) ∈ dynamicSettingsDefaults := by
  obtain ⟨entry, found, rfl⟩ := Option.map_eq_some_iff.mp isDefault
  have sameKey : entry.1 = key := by simpa using List.find?_some found
  rw [← sameKey]
  exact List.mem_of_find?_eq_some found

/-- A key has one default. -/
theorem seededDefault?_of_mem {entry : String × PyValue}
    (isDefault : entry ∈ dynamicSettingsDefaults) :
    seededDefault? entry.1 = some entry.2 := by
  simp only [dynamicSettingsDefaults, List.mem_cons, List.not_mem_nil,
    or_false] at isDefault
  rcases isDefault with rfl | rfl | rfl | rfl | rfl | rfl | rfl | rfl | rfl |
    rfl | rfl | rfl <;> rfl

theorem isJsonValue_of_seeded {key : String} {value : PyValue}
    (isDefault : seededDefault? key = some value) :
    isJsonValue value = true := by
  have every : dynamicSettingsDefaults.all (fun entry => isJsonValue entry.2) =
      true := rfl
  exact List.all_eq_true.mp every _ (mem_of_seededDefault? isDefault)

end Defaults

section Requests

/-- A committed write to the settings. -/
inductive SettingWrite where
  | store (key : String) (value : PyValue)
  | delete (key : String)

def SettingWrite.step : SettingWrite → List SettingRow → List SettingRow
  | .store key value, settings => upsertSetting settings key value
  | .delete key, settings => deleteSetting settings key

/-- The table, and everything that was written to it, apart from defaults. -/
structure SettingsHistory where
  rows : List SettingRow
  writes : List SettingWrite

def SettingsHistory.write (history : SettingsHistory) (write : SettingWrite) :
    SettingsHistory :=
  ⟨write.step history.rows, history.writes ++ [write]⟩

/-- The startups, the requests of the settings endpoint, and the writes of the
rest of the application to its own settings. -/
inductive SettingsRequest where
  | seed
  | get (key : String)
  | put (key : String) (value : PyValue)
  | store (key : String) (own : key ∉ allowedDynamicSettingKeys)
      (value : PyValue)
  | delete (key : String) (own : key ∉ allowedDynamicSettingKeys)

inductive SettingsPhase where
  | seed (remaining : List (String × PyValue)) (insertedCount : Nat)
  | get (key : String)
  | update (key : String) (value : PyValue)
  | create (key : String) (value : PyValue)
  | store (key : String) (own : key ∉ allowedDynamicSettingKeys)
      (value : PyValue)
  | delete (key : String) (own : key ∉ allowedDynamicSettingKeys)

/-- How a startup or a request ends. -/
inductive SettingsResult where
  | seeded (insertedCount : Nat)
  | read (key : String) (value : PyValue)
  | written (key : String) (value : PyValue)
  | badRequest (detail : String)
  | raised (error : SettingsError)
  | stored

abbrev SettingsProgress : Type :=
  Progress SettingsPhase SettingsResult

def unknownSettingKey (key : String) : SettingsResult :=
  .badRequest s!"Unknown setting key '{key}'."

/-- `_resolve_effective_setting_value` of a looked up record. -/
def effectiveSettingValue (key : String) (default : PyValue) :
    Except PyError (Option PyValue) → SettingsResult
  | .ok (some value) => .read key value
  | .ok none => .read key default
  | .error error => .raised (.raised error)

/-- `get_setting`, if the database answers. -/
def readSetting (settings : List SettingRow) (key : String) :
    SettingsResult :=
  match seededDefault? key with
  | none => unknownSettingKey key
  | some default => effectiveSettingValue key default (getSetting settings key)

/-- The statements of `seed_default_dynamic_settings`, `get_setting`,
`put_setting` and the writes of others.  The database may refuse each. -/
def settingsAdvance (phase : SettingsPhase) (problem : Option PyError)
    (history : SettingsHistory) : SettingsProgress × SettingsHistory :=
  match phase with
  | .seed [] insertedCount => (.ended (.seeded insertedCount), history)
  | .seed ((key, default) :: remaining) insertedCount =>
      match problem with
      | some problem => (.ended (.raised (.raised problem)), history)
      | none =>
          match createSetting history.rows key default with
          | .ok rows =>
              (.suspended (.seed remaining (insertedCount + 1)),
                { history with rows })
          | .error (.settingAlreadyExistsError _) =>
              (.suspended (.seed remaining insertedCount), history)
          | .error error => (.ended (.raised (.raised error)), history)
  | .get key =>
      match seededDefault? key, problem with
      | some _, some problem => (.ended (.raised (.raised problem)), history)
      | _, _ => (.ended (readSetting history.rows key), history)
  | .update key value =>
      match seededDefault? key with
      | none => (.ended (unknownSettingKey key), history)
      | some _ =>
          if isJsonValue value then
            match problem with
            | some problem => (.ended (.raised (.raised problem)), history)
            | none =>
                match updateSetting history.rows key value with
                | some rows =>
                    (.ended (.written key value),
                      ⟨rows, history.writes ++ [.store key value]⟩)
                | none => (.suspended (.create key value), history)
          else
            (.ended (.raised (settingEncodeError key
              "Out of range float values are not JSON compliant")), history)
  | .create key value =>
      match problem with
      | some problem => (.ended (.raised (.raised problem)), history)
      | none =>
          match createSetting history.rows key value with
          | .ok rows =>
              (.ended (.written key value),
                ⟨rows, history.writes ++ [.store key value]⟩)
          | .error error => (.ended (.raised (.raised error)), history)
  | .store key _ value =>
      match problem with
      | some problem => (.ended (.raised (.raised problem)), history)
      | none => (.ended .stored, history.write (.store key value))
  | .delete key _ =>
      match problem with
      | some problem => (.ended (.raised (.raised problem)), history)
      | none => (.ended .stored, history.write (.delete key))

/-- The startups and requests on one settings table. -/
def settingsRequests : Protocol SettingsHistory SettingsRequest SettingsPhase
    (Option PyError) SettingsResult where
  enter
    | .seed => .seed dynamicSettingsDefaults 0
    | .get key => .get key
    | .put key value => .update key value
    | .store key own value => .store key own value
    | .delete key own => .delete key own
  advance := settingsAdvance

abbrev SettingsEvent : Type :=
  Event SettingsRequest (Option PyError)

end Requests

section Readers

/-- The first table has the rows of the second one, and the defaults of some
settings that the second one does not have. -/
def OnlySeeded (settings plain : List SettingRow) : Prop :=
  ∀ key, settingRow? settings key = settingRow? plain key ∨
    ∃ default, seededDefault? key = some default ∧
      settingRow? plain key = none ∧
      settingRow? settings key = some ⟨key, .ok default⟩

/-- What goes wrong in the resolution of the configuration. -/
inductive ConfigError where
  | raised (error : PyError)
  | configValueTypeError (message : String)
  | missingSeedDefaultError (message : String)
  deriving DecidableEq

/-- `type(value).__name__`. -/
def PyValue.typeName : PyValue → String
  | .none => "NoneType"
  | .bool _ => "bool"
  | .int _ => "int"
  | .float _ => "float"
  | .str _ => "str"
  | .list _ => "list"
  | .dict _ => "dict"

def dedupeDefaultHorizonMinutesKey : String :=
  "dedupe.default_horizon_minutes"

/-- `_resolve_seeded_default_horizon_minutes`. -/
def resolveSeededDefaultHorizonMinutes : Except ConfigError Int :=
  match seededDefault? dedupeDefaultHorizonMinutesKey with
  | some (.int value) => .ok value
  | _ =>
      .error (.missingSeedDefaultError
        ("Missing seeded dynamic default for setting key '" ++
          dedupeDefaultHorizonMinutesKey ++ "'."))

/-- The horizon of a looked up record. -/
def dedupeHorizonMinutes : Except PyError (Option PyValue) →
    Except ConfigError Int
  | .error error => .error (.raised error)
  | .ok none => resolveSeededDefaultHorizonMinutes
  | .ok (some (.int value)) => .ok value
  | .ok (some value) =>
      .error (.configValueTypeError
        ("Resolved dynamic setting '" ++ dedupeDefaultHorizonMinutesKey ++
          "' has invalid type: expected int, got " ++ value.typeName ++ "."))

/-- `resolve_global_dedupe_horizon_minutes`. -/
def resolveGlobalDedupeHorizonMinutes (settings : List SettingRow) :
    Except ConfigError Int :=
  dedupeHorizonMinutes (getSetting settings dedupeDefaultHorizonMinutesKey)

/-- `resolve_effective_dedupe_horizon_minutes`, given the group that was looked
up, if there is one. -/
def resolveEffectiveDedupeHorizonMinutes (group : Option ChannelGroupRow)
    (settings : List SettingRow) : Except ConfigError Int :=
  match group.bind (·.dedupeHorizonMinutesOverride) with
  | some minutes => .ok minutes
  | none => resolveGlobalDedupeHorizonMinutes settings

/-- What the jobs and the loops take from the settings. -/
structure RuntimeSettings where
  retention : Except PyError RetentionPruneSettings
  pollIntervalSeconds : Except PyError Int
  backupRetainCount : Except PyError Int
  deliveryIntervalSeconds : Except PyError Int
  deliveryBatchSize : Except PyError Int
  dedupeHorizonMinutes : Option ChannelGroupRow → Except ConfigError Int

/-- The jobs and the loops read a table. -/
def runtimeSettings {Content : Type*} (environment : BackupEnvironment Content)
    (settings : List SettingRow) : RuntimeSettings where
  retention := resolveRetentionSettings settings
  pollIntervalSeconds := resolvePollIntervalSeconds settings 300
  backupRetainCount := resolveRetainCount { environment with settings }
  deliveryIntervalSeconds :=
    (getSetting settings "bot.delivery_interval_seconds").map
      resolveDeliveryInterval
  deliveryBatchSize :=
    (getSetting settings "bot.delivery_batch_size").map resolveBatchSize
  dedupeHorizonMinutes group :=
    resolveEffectiveDedupeHorizonMinutes group settings

namespace OnlySeeded

variable {settings plain : List SettingRow}

theorem refl (settings : List SettingRow) : OnlySeeded settings settings :=
  fun _ => .inl rfl

/-- A setting reads the same in both tables, or one has its default. -/
theorem getSetting_cases (seeded : OnlySeeded settings plain) {key : String}
    {default : PyValue} (isDefault : seededDefault? key = some default) :
    getSetting settings key = getSetting plain key ∨
      (getSetting settings key = .ok (some default) ∧
        getSetting plain key = .ok none) := by
  rcases seeded key with same | ⟨value, isValue, missing, isRow⟩
  · exact .inl (getSetting_congr same)
  · rw [isDefault] at isValue
    obtain rfl := Option.some.inj isValue
    exact .inr ⟨getSetting_of_row isRow (isJsonValue_of_seeded isDefault),
      getSetting_of_noRow missing⟩

/-- A reader that falls back to the default that is seeded finds the same in
both tables. -/
theorem read_eq (seeded : OnlySeeded settings plain) {key : String}
    {default : PyValue} (isDefault : seededDefault? key = some default)
    {Reading : Type*} (read : Except PyError (Option PyValue) → Reading)
    (fallsBack : read (.ok (some default)) = read (.ok none)) :
    read (getSetting settings key) = read (getSetting plain key) := by
  rcases seeded.getSetting_cases isDefault with same | ⟨stored, missing⟩
  · rw [same]
  · rw [stored, missing, fallsBack]

/-- Other settings are the same in both tables. -/
theorem getSetting_eq (seeded : OnlySeeded settings plain) {key : String}
    (own : key ∉ allowedDynamicSettingKeys) :
    getSetting settings key = getSetting plain key := by
  rcases seeded key with same | ⟨default, isDefault, -, -⟩
  · exact getSetting_congr same
  · exact absurd (seededDefault?_isSome_iff.mp (by rw [isDefault]; rfl)) own

theorem readSetting_eq (seeded : OnlySeeded settings plain) (key : String) :
    readSetting settings key = readSetting plain key := by
  unfold readSetting
  cases isDefault : seededDefault? key with
  | none => rfl
  | some default =>
      exact seeded.read_eq isDefault (effectiveSettingValue key default) rfl

theorem resolvePositiveDaysSetting_eq (seeded : OnlySeeded settings plain)
    {key : String} {defaultValue : Int} (positive : 0 < defaultValue)
    (isDefault : seededDefault? key = some (.int defaultValue))
    (allowZero : Bool) :
    resolvePositiveDaysSetting settings key defaultValue allowZero =
      resolvePositiveDaysSetting plain key defaultValue allowZero := by
  unfold resolvePositiveDaysSetting
  refine seeded.read_eq isDefault (fun record => record >>= _) ?_
  show Except.ok (resolveDaysNumeric defaultValue allowZero defaultValue) =
    Except.ok defaultValue
  rw [resolveDaysNumeric, if_pos positive]

theorem resolveGlobalDedupeHorizonMinutes_eq
    (seeded : OnlySeeded settings plain) :
    resolveGlobalDedupeHorizonMinutes settings =
      resolveGlobalDedupeHorizonMinutes plain :=
  seeded.read_eq rfl dedupeHorizonMinutes rfl

/-- Every job and every loop takes the same from both tables. -/
theorem runtimeSettings_eq (seeded : OnlySeeded settings plain)
    {Content : Type*} (environment : BackupEnvironment Content) :
    runtimeSettings environment settings =
      runtimeSettings environment plain := by
  have retention : resolveRetentionSettings settings =
      resolveRetentionSettings plain := by
    unfold resolveRetentionSettings resolveItemsDays
    rw [seeded.resolvePositiveDaysSetting_eq (by omega) rfl,
      seeded.resolvePositiveDaysSetting_eq (by omega) rfl,
      seeded.resolvePositiveDaysSetting_eq (by omega) rfl]
  have pollInterval : resolvePollIntervalSeconds settings 300 =
      resolvePollIntervalSeconds plain 300 := by
    unfold resolvePollIntervalSeconds
    exact seeded.read_eq rfl (fun record => record >>= _) rfl
  have retainCount : resolveRetainCount { environment with settings } =
      resolveRetainCount { environment with settings := plain } := by
    unfold resolveRetainCount
    dsimp only
    have isDefault : seededDefault? "backup.retain_count" =
        some (.int 14) := rfl
    rcases seeded.getSetting_cases isDefault with same | ⟨stored, missing⟩
    · rw [same]
    · rw [stored, missing]
      rfl
  have deliveryInterval :
      (getSetting settings "bot.delivery_interval_seconds").map
          resolveDeliveryInterval =
        (getSetting plain "bot.delivery_interval_seconds").map
          resolveDeliveryInterval :=
    seeded.read_eq rfl (fun record => record.map resolveDeliveryInterval) rfl
  have batchSize :
      (getSetting settings "bot.delivery_batch_size").map resolveBatchSize =
        (getSetting plain "bot.delivery_batch_size").map resolveBatchSize :=
    seeded.read_eq rfl (fun record => record.map resolveBatchSize) rfl
  unfold runtimeSettings resolveEffectiveDedupeHorizonMinutes
  rw [retention, pollInterval, retainCount, deliveryInterval, batchSize,
    seeded.resolveGlobalDedupeHorizonMinutes_eq]

/-- A default is stored where no row is. -/
theorem seed (seeded : OnlySeeded settings plain) {key : String}
    {default : PyValue} (isDefault : seededDefault? key = some default)
    (missing : settingRow? settings key = none) :
    OnlySeeded (upsertSetting settings key default) plain := by
  intro other
  rw [settingRow?_upsertSetting]
  split
  · rename_i same
    subst same
    refine .inr ⟨default, isDefault, ?_, rfl⟩
    rcases seeded other with same | ⟨_, -, plainMissing, -⟩
    · rw [← same]
      exact missing
    · exact plainMissing
  · exact seeded other

/-- A write leads to the same row in both tables. -/
theorem write (seeded : OnlySeeded settings plain) (write : SettingWrite) :
    OnlySeeded (write.step settings) (write.step plain) := by
  intro other
  cases write with
  | store key value =>
      unfold SettingWrite.step
      dsimp only
      rw [settingRow?_upsertSetting, settingRow?_upsertSetting]
      split
      · exact .inl rfl
      · exact seeded other
  | delete key =>
      unfold SettingWrite.step
      dsimp only
      rw [settingRow?_deleteSetting, settingRow?_deleteSetting]
      split
      · exact .inl rfl
      · exact seeded other

end OnlySeeded

end Readers

section Steps

/-- The settings that a table would have if nobody had seeded it. -/
def SettingsHistory.plain (start : List SettingRow)
    (history : SettingsHistory) : List SettingRow :=
  run SettingWrite.step history.writes start

/-- A write that leaves every dynamic setting that has a value with one. -/
def SettingWrite.Keeps : SettingWrite → Prop
  | .store _ _ => True
  | .delete key => key ∉ allowedDynamicSettingKeys

/-- What a step can do: nothing, store a missing default, or write. -/
inductive SettingsMove (history : SettingsHistory) :
    SettingsHistory → Prop where
  | stay : SettingsMove history history
  | seed (key : String) (default : PyValue)
      (isDefault : seededDefault? key = some default)
      (missing : settingRow? history.rows key = none) :
      SettingsMove history
        { history with rows := upsertSetting history.rows key default }
  | write (write : SettingWrite) (keeps : write.Keeps) :
      SettingsMove history (history.write write)

variable {history later : SettingsHistory}

theorem SettingsMove.onlySeeded {start : List SettingRow}
    (move : SettingsMove history later)
    (seeded : OnlySeeded history.rows (history.plain start)) :
    OnlySeeded later.rows (later.plain start) := by
  cases move with
  | stay => exact seeded
  | seed key default isDefault missing => exact seeded.seed isDefault missing
  | write write keeps =>
      have replayed : (history.write write).plain start =
          write.step (history.plain start) := by
        unfold SettingsHistory.plain SettingsHistory.write
        rw [run_append]
        rfl
      rw [replayed]
      exact seeded.write write

/-- A dynamic setting that has a row keeps one. -/
theorem SettingsMove.row_isSome (move : SettingsMove history later)
    {key : String} (allowed : key ∈ allowedDynamicSettingKeys)
    (isRow : (settingRow? history.rows key).isSome) :
    (settingRow? later.rows key).isSome := by
  have upserted : ∀ other value,
      (settingRow? (upsertSetting history.rows other value) key).isSome := by
    intro other value
    rw [settingRow?_upsertSetting]
    split
    · rfl
    · exact isRow
  cases move with
  | stay => exact isRow
  | seed other default isDefault missing => exact upserted other default
  | write write keeps =>
      cases write with
      | store other value => exact upserted other value
      | delete other =>
          have different : key ≠ other := fun same => keeps (same ▸ allowed)
          show (settingRow? (deleteSetting history.rows other) key).isSome
          rw [settingRow?_deleteSetting, if_neg different]
          exact isRow

theorem SettingsMove.writes_prefix (move : SettingsMove history later) :
    history.writes <+: later.writes := by
  cases move with
  | stay => exact List.prefix_rfl
  | seed key default isDefault missing => exact List.prefix_rfl
  | write write keeps => exact List.prefix_append _ _

/-- What a startup or a request knows of the table: the defaults that are not
left over have rows, an answered reading was right after some of the writes,
and an answered writing was written. -/
def SettingsKnown (start : List SettingRow) :
    SettingsProgress → SettingsHistory → Prop
  | .suspended (.seed remaining _), history =>
      (∀ entry ∈ remaining, entry ∈ dynamicSettingsDefaults) ∧
        ∀ entry ∈ dynamicSettingsDefaults, entry ∉ remaining →
          (settingRow? history.rows entry.1).isSome
  | .ended (.seeded _), history =>
      ∀ entry ∈ dynamicSettingsDefaults,
        (settingRow? history.rows entry.1).isSome
  | .ended (.read key value), history =>
      ∃ earlier, earlier <+: history.writes ∧
        readSetting (run SettingWrite.step earlier start) key =
          .read key value
  | .ended (.written key value), history =>
      .store key value ∈ history.writes
  | _, _ => True

theorem allowed_of_mem {entry : String × PyValue}
    (isDefault : entry ∈ dynamicSettingsDefaults) :
    entry.1 ∈ allowedDynamicSettingKeys :=
  List.mem_map_of_mem isDefault

/-- What is known stays true. -/
theorem SettingsKnown.stable {start : List SettingRow}
    {progress : SettingsProgress} (known : SettingsKnown start progress history)
    (move : SettingsMove history later) :
    SettingsKnown start progress later := by
  unfold SettingsKnown at known ⊢
  split at known
  · refine ⟨known.1, fun entry isDefault stored => ?_⟩
    exact move.row_isSome (allowed_of_mem isDefault)
      (known.2 entry isDefault stored)
  · intro entry isDefault
    exact move.row_isSome (allowed_of_mem isDefault) (known entry isDefault)
  · obtain ⟨earlier, isPrefix, read⟩ := known
    exact ⟨earlier, isPrefix.trans move.writes_prefix, read⟩
  · exact move.writes_prefix.subset known
  · trivial

theorem readSetting_cases (settings : List SettingRow) (key : String) :
    (∃ value, readSetting settings key = .read key value) ∨
      (∃ detail, readSetting settings key = .badRequest detail) ∨
      ∃ error, readSetting settings key = .raised error := by
  unfold readSetting
  cases seededDefault? key with
  | none => exact .inr (.inl ⟨_, rfl⟩)
  | some default =>
      rcases getSetting settings key with error | value
      · exact .inr (.inr ⟨_, rfl⟩)
      · cases value with
        | none => exact .inl ⟨_, rfl⟩
        | some value => exact .inl ⟨_, rfl⟩

/-- A startup stores the next default, or finds a value. -/
theorem seed_own {start : List SettingRow} {key : String} {default : PyValue}
    {remaining : List (String × PyValue)} (insertedCount : Nat)
    (problem : Option PyError)
    (known : SettingsKnown start
      (.suspended (.seed ((key, default) :: remaining) insertedCount))
      history) :
    let advanced := settingsAdvance
      (.seed ((key, default) :: remaining) insertedCount) problem history
    SettingsMove history advanced.2 ∧
      SettingsKnown start advanced.1 advanced.2 := by
  obtain ⟨areDefaults, stored⟩ := known
  obtain ⟨isDefault, othersDefaults⟩ := List.forall_mem_cons.mp areDefaults
  intro advanced
  subst advanced
  unfold settingsAdvance
  dsimp only
  cases problem with
  | some problem => exact ⟨.stay, trivial⟩
  | none =>
      rcases createSetting_cases history.rows key default with
        ⟨missing, created⟩ | ⟨present, taken⟩
      · rw [created]
        have move : SettingsMove history
            { history with rows := upsertSetting history.rows key default } :=
          .seed key default (seededDefault?_of_mem isDefault) missing
        refine ⟨move, othersDefaults, fun entry member left => ?_⟩
        by_cases isEntry : entry = (key, default)
        · subst isEntry
          show (settingRow? (upsertSetting history.rows key default) key).isSome
          rw [settingRow?_upsertSetting, if_pos rfl]
          rfl
        · exact move.row_isSome (allowed_of_mem member)
            (stored entry member (by simp [isEntry, left]))
      · rw [taken]
        refine ⟨.stay, othersDefaults, fun entry member left => ?_⟩
        by_cases isEntry : entry = (key, default)
        · subst isEntry
          exact present
        · exact stored entry member (by simp [isEntry, left])

/-- A reading is answered as the plain table has it at the time. -/
theorem get_own {start : List SettingRow} (key : String)
    (problem : Option PyError)
    (seeded : OnlySeeded history.rows (history.plain start)) :
    let advanced := settingsAdvance (.get key) problem history
    SettingsMove history advanced.2 ∧
      SettingsKnown start advanced.1 advanced.2 := by
  intro advanced
  subst advanced
  unfold settingsAdvance
  dsimp only
  split
  · exact ⟨.stay, trivial⟩
  · refine ⟨.stay, ?_⟩
    rcases readSetting_cases history.rows key with ⟨value, reading⟩ |
      ⟨detail, refused⟩ | ⟨error, raised⟩
    · rw [reading]
      exact ⟨history.writes, List.prefix_rfl,
        (seeded.readSetting_eq key).symm.trans reading⟩
    · rw [refused]
      trivial
    · rw [raised]
      trivial

theorem written_own {start : List SettingRow} (key : String)
    (value : PyValue) :
    SettingsMove history (history.write (.store key value)) ∧
      SettingsKnown start (.ended (.written key value))
        (history.write (.store key value)) :=
  ⟨.write _ trivial, List.mem_append_right _ List.mem_cons_self⟩

/-- What one step does and what the caller knows afterwards. -/
theorem settingsAdvance_own {start : List SettingRow} (phase : SettingsPhase)
    (problem : Option PyError)
    (seeded : OnlySeeded history.rows (history.plain start))
    (known : SettingsKnown start (.suspended phase) history) :
    SettingsMove history (settingsAdvance phase problem history).2 ∧
      SettingsKnown start (settingsAdvance phase problem history).1
        (settingsAdvance phase problem history).2 := by
  cases phase with
  | seed remaining insertedCount =>
      cases remaining with
      | nil =>
          refine ⟨.stay, fun entry member => ?_⟩
          exact known.2 entry member List.not_mem_nil
      | cons entry remaining => exact seed_own insertedCount problem known
  | get key => exact get_own key problem seeded
  | update key value =>
      unfold settingsAdvance
      dsimp only
      split
      · exact ⟨.stay, trivial⟩
      · split
        · split
          · exact ⟨.stay, trivial⟩
          · rcases updateSetting_cases history.rows key value with
              ⟨-, missing⟩ | ⟨-, updated⟩
            · rw [missing]
              exact ⟨.stay, trivial⟩
            · rw [updated]
              exact written_own key value
        · exact ⟨.stay, trivial⟩
  | create key value =>
      unfold settingsAdvance
      dsimp only
      split
      · exact ⟨.stay, trivial⟩
      · rcases createSetting_cases history.rows key value with
          ⟨-, created⟩ | ⟨-, taken⟩
        · rw [created]
          exact written_own key value
        · rw [taken]
          exact ⟨.stay, trivial⟩
  | store key own value =>
      unfold settingsAdvance
      dsimp only
      split
      · exact ⟨.stay, trivial⟩
      · exact ⟨.write _ trivial, trivial⟩
  | delete key own =>
      unfold settingsAdvance
      dsimp only
      split
      · exact ⟨.stay, trivial⟩
      · exact ⟨.write _ own, trivial⟩

end Steps

section Runs

variable {start : List SettingRow}

/-- In every state the table is the plain one up to defaults, and all startups
and requests know what they should. -/
theorem always_settingsKnown (start : List SettingRow)
    (events : List SettingsEvent) :
    Always settingsRequests.step
      (Protocol.Annotated
        (fun history => OnlySeeded history.rows (history.plain start))
        (SettingsKnown start)) events (System.idle ⟨start, []⟩) := by
  apply settingsRequests.always_annotated
  · intro request history seeded
    cases request with
    | seed =>
        exact ⟨fun _ => id, fun entry member left => absurd member left⟩
    | get key => trivial
    | put key value => trivial
    | store key own value => trivial
    | delete key own => trivial
  · exact fun _ => trivial
  · intro phase problem history seeded known
    obtain ⟨move, knows⟩ := settingsAdvance_own phase problem seeded known
    exact ⟨move.onlySeeded seeded, knows⟩
  · intro phase problem history other seeded known otherKnown
    obtain ⟨move, -⟩ := settingsAdvance_own phase problem seeded known
    exact otherKnown.stable move
  · exact OnlySeeded.refl start

/-- A request to write a dynamic setting that has a row needs one statement. -/
theorem update_written {history : SettingsHistory} {key : String}
    {value : PyValue} (allowed : key ∈ allowedDynamicSettingKeys)
    (json : isJsonValue value = true)
    (isRow : (settingRow? history.rows key).isSome) :
    (settingsAdvance (.update key value) none history).1 =
      .ended (.written key value) := by
  obtain ⟨default, isDefault⟩ :=
    Option.isSome_iff_exists.mp (seededDefault?_isSome_iff.mpr allowed)
  rcases updateSetting_cases history.rows key value with
    ⟨missing, -⟩ | ⟨-, updated⟩
  · rw [missing] at isRow
    cases isRow
  · simp only [settingsAdvance, isDefault, json, if_true, updated]

end Runs

/-- Seeding is invisible.  Take any number of startups that seed one table,
any requests of the settings endpoint and any writes to other settings, step by
step in any interleaving and with failures of the database anywhere.  Then every
setting is answered to a request, and taken by every job and loop, as it would
be if nobody had seeded and only the writes had been made.  Every request that
was answered got what some of the writes, up to then, had stored, and every
write that was answered is among them.  After a startup has seeded the table
each dynamic setting has a row, and requests write it with one statement. -/
theorem seeding_invisible {Content : Type*}
    (environment : BackupEnvironment Content) (start : List SettingRow)
    (events : List SettingsEvent) :
    let system := run settingsRequests.step events (System.idle ⟨start, []⟩)
    let history := system.store
    let plain := run SettingWrite.step history.writes start
    (∀ key, readSetting history.rows key = readSetting plain key) ∧
      runtimeSettings environment history.rows =
        runtimeSettings environment plain ∧
      (∀ key ∉ allowedDynamicSettingKeys,
        getSetting history.rows key = getSetting plain key) ∧
      (∀ key value, .ended (.read key value) ∈ system.calls →
        ∃ earlier, earlier <+: history.writes ∧
          readSetting (run SettingWrite.step earlier start) key =
            .read key value) ∧
      (∀ key value, .ended (.written key value) ∈ system.calls →
        .store key value ∈ history.writes) ∧
      ∀ insertedCount, .ended (.seeded insertedCount) ∈ system.calls →
        ∀ key ∈ allowedDynamicSettingKeys,
          ¬ SettingMissing history.rows key ∧
          ∀ value, isJsonValue value = true →
            (settingsAdvance (.update key value) none history).1 =
              .ended (.written key value) := by
  intro system history plain
  obtain ⟨seeded, known⟩ := always_settingsKnown start events events
    List.prefix_rfl
  refine ⟨seeded.readSetting_eq, seeded.runtimeSettings_eq environment,
    fun key own => seeded.getSetting_eq own, fun key value => known _,
    fun key value => known _, fun insertedCount ended key allowed => ?_⟩
  have isRow : (settingRow? history.rows key).isSome := by
    rw [← map_fst_dynamicSettingsDefaults] at allowed
    obtain ⟨entry, isDefault, rfl⟩ := List.mem_map.mp allowed
    exact known _ ended entry isDefault
  refine ⟨fun missing => ?_, fun value json =>
    update_written allowed json isRow⟩
  rw [settingMissing_iff.mp missing] at isRow
  cases isRow

end Tca
