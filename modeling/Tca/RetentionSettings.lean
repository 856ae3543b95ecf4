import Tca.StorageSchema

/-!
# Retention settings and cutoffs

The prune job reads three retention periods from the settings table and turns
them into cutoff times.  A stored value that is no usable number of days falls
back to the default of its key.  A cutoff outside the range of dates, or a
period outside the range of time spans, is an error.
-/

namespace Tca

/-- A Python `datetime`.  Its time zone gives the offset from UTC at a
wall-clock time. -/
structure PyDateTime where
  wall : WallTime
  tzinfo : Option (WallTime → Option UtcOffset)

/-- The time zone `UTC`. -/
def utcTimezone : WallTime → Option UtcOffset :=
  fun _ => some UtcOffset.utc

/-- The start of the year 2025 in UTC. -/
def sampleTime : PyDateTime :=
  ⟨⟨63871286400000000, by decide⟩, some utcTimezone⟩

/-- The timestamp that the driver binds for a datetime. -/
def PyDateTime.timestamp (value : PyDateTime) : Timestamp :=
  ⟨value.wall, value.tzinfo.bind fun zone => zone value.wall⟩

/-- The text that the driver binds for a datetime. -/
def PyDateTime.boundText (value : PyDateTime) : String :=
  value.timestamp.isoformat

/-- `_normalize_datetime`: a naive time is read as UTC. -/
def normalizeDatetime (value : PyDateTime) : PyDateTime :=
  match value.tzinfo with
  | none => { value with tzinfo := some utcTimezone }
  | some _ => value

/-- `value - timedelta(days=days)`. -/
def subtractDays (value : PyDateTime) (days : Int) :
    Except PyError PyDateTime :=
  if 2147483647 < days ∨ days < -2147483648 then
    .error (.overflowError "Python int too large to convert to C int")
  else if 999999999 < days ∨ days < -999999999 then
    .error (.overflowError
      s!"days={days}; must have magnitude <= 999999999")
  else
    let micros := (value.wall.micros : Int) - days * 86400000000
    if inRange : 0 ≤ micros ∧ micros < wallLimit then
      .ok { value with wall := ⟨micros.toNat, by omega⟩ }
    else .error (.overflowError "date value out of range")

mutual

/-- `_is_json_value`. -/
def isJsonValue : PyValue → Bool
  | .none => true
  | .bool _ => true
  | .int _ => true
  | .str _ => true
  | .float value => value.isFinite
  | .list values => areJsonValues values
  | .dict entries => areJsonEntries entries

def areJsonValues : List PyValue → Bool
  | [] => true
  | value :: values => isJsonValue value && areJsonValues values

def areJsonEntries : List (String × PyValue) → Bool
  | [] => true
  | entry :: entries => isJsonValue entry.2 && areJsonEntries entries

end

def settingDecodeError (key details : String) : PyError :=
  .settingValueDecodeError
    s!"Stored setting value for key '{key}' is not valid JSON payload: {details}"

/-- `_decode_value_json`. -/
def decodeValueJson (key : String) (valueJson : Except String PyValue) :
    Except PyError PyValue :=
  match valueJson with
  | .error details => .error (settingDecodeError key details)
  | .ok decoded =>
      if isJsonValue decoded then .ok decoded
      else .error (settingDecodeError key
        "decoded payload contains non-JSON type or non-finite number")

/-- `SettingsRepository.get_by_key`, reduced to the value. -/
def getSetting (settings : List SettingRow) (key : String) :
    Except PyError (Option PyValue) :=
  match settings.find? fun row => row.key = key with
  | none => .ok none
  | some row => (decodeValueJson row.key row.valueJson).map some

def resolveDaysNumeric (value : Int) (allowZero : Bool) (defaultValue : Int) :
    Int :=
  if 0 < value then value
  else if allowZero ∧ value = 0 then 0
  else defaultValue

/-- The number of days a setting resolves to. -/
def resolvePositiveDaysSetting (settings : List SettingRow) (key : String)
    (defaultValue : Int) (allowZero : Bool) : Except PyError Int := do
  let record ← getSetting settings key
  match record with
  | some (.int value) =>
      return resolveDaysNumeric value allowZero defaultValue
  | some (.float value) =>
      if value.isInteger then
        return resolveDaysNumeric value.toInt allowZero defaultValue
      else return defaultValue
  | _ => return defaultValue

/-- Resolved runtime retention settings for prune job execution. -/
structure RetentionPruneSettings where
  rawMessagesDays : Int
  itemsDays : Int
  ingestErrorsDays : Int
  deriving DecidableEq

/-- The period of items; zero is let through. -/
def resolveItemsDays (settings : List SettingRow) : Except PyError Int :=
  resolvePositiveDaysSetting settings "retention.items_days" 365 true

/-- `_resolve_settings`. -/
def resolveRetentionSettings (settings : List SettingRow) :
    Except PyError RetentionPruneSettings := do
  let rawMessagesDays ← resolvePositiveDaysSetting settings
    "retention.raw_messages_days" 30 false
  let itemsDays ← resolveItemsDays settings
  let ingestErrorsDays ← resolvePositiveDaysSetting settings
    "retention.ingest_errors_days" 90 false
  return ⟨rawMessagesDays, itemsDays, ingestErrorsDays⟩

/-- The three cutoffs of one prune run. -/
structure PruneCutoffs where
  rawMessages : PyDateTime
  items : PyDateTime
  ingestErrors : PyDateTime

/-- The cutoffs that the stored settings give at a time. -/
def resolveCutoffs (settings : List SettingRow) (now : PyDateTime) :
    Except PyError PruneCutoffs := do
  let resolved ← resolveRetentionSettings settings
  let current := normalizeDatetime now
  let rawMessages ← subtractDays current resolved.rawMessagesDays
  let items ← subtractDays current resolved.itemsDays
  let ingestErrors ← subtractDays current resolved.ingestErrorsDays
  return ⟨rawMessages, items, ingestErrors⟩

section Resolution

/-- A computation that returns went through its first step. -/
theorem bind_eq_ok {Value Output : Type}
    {first : Except PyError Value} {next : Value → Except PyError Output}
    {output : Output} (returned : (first >>= next) = .ok output) :
    ∃ value, first = .ok value ∧ next value = .ok output := by
  cases first with
  | error problem => cases returned
  | ok value => exact ⟨value, rfl, returned⟩

variable {settings : List SettingRow} {now : PyDateTime}

theorem resolveRetentionSettings_itemsDays
    {resolved : RetentionPruneSettings}
    (returned : resolveRetentionSettings settings = .ok resolved) :
    resolveItemsDays settings = .ok resolved.itemsDays := by
  obtain ⟨rawMessagesDays, -, returned⟩ := bind_eq_ok returned
  obtain ⟨itemsDays, itemsEq, returned⟩ := bind_eq_ok returned
  obtain ⟨ingestErrorsDays, -, returned⟩ := bind_eq_ok returned
  obtain rfl := Except.ok.inj returned
  exact itemsEq

/-- The cutoffs of a run are its time less the resolved periods. -/
theorem resolveCutoffs_eq_ok_iff {cutoffs : PruneCutoffs} :
    resolveCutoffs settings now = .ok cutoffs ↔
      ∃ resolved, resolveRetentionSettings settings = .ok resolved ∧
        subtractDays (normalizeDatetime now) resolved.rawMessagesDays =
          .ok cutoffs.rawMessages ∧
        subtractDays (normalizeDatetime now) resolved.itemsDays =
          .ok cutoffs.items ∧
        subtractDays (normalizeDatetime now) resolved.ingestErrorsDays =
          .ok cutoffs.ingestErrors := by
  constructor
  · intro returned
    obtain ⟨resolved, resolvedEq, returned⟩ := bind_eq_ok returned
    obtain ⟨rawMessages, rawEq, returned⟩ := bind_eq_ok returned
    obtain ⟨items, itemsEq, returned⟩ := bind_eq_ok returned
    obtain ⟨ingestErrors, errorsEq, returned⟩ := bind_eq_ok returned
    obtain rfl := Except.ok.inj returned
    exact ⟨resolved, resolvedEq, rawEq, itemsEq, errorsEq⟩
  · rintro ⟨resolved, resolvedEq, rawEq, itemsEq, errorsEq⟩
    rw [resolveCutoffs, resolvedEq]
    change (do
      let rawMessages ←
        subtractDays (normalizeDatetime now) resolved.rawMessagesDays
      let items ← subtractDays (normalizeDatetime now) resolved.itemsDays
      let ingestErrors ←
        subtractDays (normalizeDatetime now) resolved.ingestErrorsDays
      return PruneCutoffs.mk rawMessages items ingestErrors) = _
    rw [rawEq, itemsEq, errorsEq]
    rfl

/-- No days back is the time itself. -/
theorem subtractDays_zero (value : PyDateTime) :
    subtractDays value 0 = .ok value := by
  have inRange : (0 : Int) ≤ value.wall.micros - 0 * 86400000000 ∧
      (value.wall.micros : Int) - 0 * 86400000000 < wallLimit := by
    have := value.wall.inRange
    omega
  rw [subtractDays, if_neg (by decide), if_neg (by decide)]
  simp only
  rw [dif_pos inRange]
  simp

/-- A period that does not reach back before the first year. -/
theorem subtractDays_isOk {value : PyDateTime} {days : Int}
    (span : 0 ≤ days ∧ days ≤ 999999999)
    (reaches : days * 86400000000 ≤ value.wall.micros) :
    ∃ result, subtractDays value days = .ok result := by
  have inRange : 0 ≤ (value.wall.micros : Int) - days * 86400000000 ∧
      (value.wall.micros : Int) - days * 86400000000 < wallLimit := by
    have := value.wall.inRange
    omega
  rw [subtractDays, if_neg (by omega), if_neg (by omega)]
  simp only
  rw [dif_pos inRange]
  exact ⟨_, rfl⟩

theorem resolveDaysNumeric_nonneg {value defaultValue : Int}
    {allowZero : Bool} (defaultNonneg : 0 ≤ defaultValue) :
    0 ≤ resolveDaysNumeric value allowZero defaultValue := by
  unfold resolveDaysNumeric
  split
  · omega
  · split
    · exact le_rfl
    · exact defaultNonneg

/-- A resolved period is never negative. -/
theorem resolvePositiveDaysSetting_nonneg {key : String}
    {defaultValue days : Int} {allowZero : Bool}
    (defaultNonneg : 0 ≤ defaultValue)
    (returned : resolvePositiveDaysSetting settings key defaultValue
      allowZero = .ok days) : 0 ≤ days := by
  obtain ⟨record, -, returned⟩ := bind_eq_ok returned
  have numeric := fun value : Int =>
    @resolveDaysNumeric_nonneg value defaultValue allowZero defaultNonneg
  split at returned
  · exact Except.ok.inj returned ▸ numeric _
  · split at returned
    · exact Except.ok.inj returned ▸ numeric _
    · exact Except.ok.inj returned ▸ defaultNonneg
  · exact Except.ok.inj returned ▸ defaultNonneg

theorem resolveRetentionSettings_nonneg {resolved : RetentionPruneSettings}
    (returned : resolveRetentionSettings settings = .ok resolved) :
    0 ≤ resolved.rawMessagesDays ∧ 0 ≤ resolved.itemsDays ∧
      0 ≤ resolved.ingestErrorsDays := by
  obtain ⟨rawMessagesDays, rawEq, returned⟩ := bind_eq_ok returned
  obtain ⟨itemsDays, itemsEq, returned⟩ := bind_eq_ok returned
  obtain ⟨ingestErrorsDays, errorsEq, returned⟩ := bind_eq_ok returned
  obtain rfl := Except.ok.inj returned
  exact ⟨resolvePositiveDaysSetting_nonneg (by decide) rawEq,
    resolvePositiveDaysSetting_nonneg (by decide) itemsEq,
    resolvePositiveDaysSetting_nonneg (by decide) errorsEq⟩

/-- A later UTC time less a period is representable when an earlier one is,
and its text is not smaller. -/
theorem subtractDays_mono {first second result : PyDateTime} {days : Int}
    (firstUtc : first.tzinfo = some utcTimezone)
    (secondUtc : second.tzinfo = some utcTimezone)
    (ordered : first.wall.micros ≤ second.wall.micros)
    (daysNonneg : 0 ≤ days)
    (returned : subtractDays first days = .ok result) :
    ∃ later, subtractDays second days = .ok later ∧
      result.boundText ≤ later.boundText := by
  unfold subtractDays at returned ⊢
  split at returned
  · cases returned
  · split at returned
    · cases returned
    · rename_i inInt inSpan
      simp only at returned
      split at returned
      · rename_i firstRange
        obtain rfl := Except.ok.inj returned
        have secondLt := second.wall.inRange
        have secondRange :
            0 ≤ (second.wall.micros : Int) - days * 86400000000 ∧
              (second.wall.micros : Int) - days * 86400000000 < wallLimit := by
          omega
        rw [if_neg inInt, if_neg inSpan]
        simp only
        rw [dif_pos secondRange]
        refine ⟨_, rfl, ?_⟩
        apply Timestamp.isoformat_le
        · simp [PyDateTime.timestamp, firstUtc, secondUtc, utcTimezone]
        · simp only [PyDateTime.timestamp]
          omega
      · cases returned

/-- With UTC times in order, cutoffs exist at the later one when they exist at
the earlier one, and none of their texts gets smaller. -/
theorem resolveCutoffs_mono {first second : PyDateTime}
    (firstUtc : (normalizeDatetime first).tzinfo = some utcTimezone)
    (secondUtc : (normalizeDatetime second).tzinfo = some utcTimezone)
    (ordered : first.wall.micros ≤ second.wall.micros)
    {cutoffs : PruneCutoffs}
    (returned : resolveCutoffs settings first = .ok cutoffs) :
    ∃ later, resolveCutoffs settings second = .ok later ∧
      cutoffs.rawMessages.boundText ≤ later.rawMessages.boundText ∧
      cutoffs.items.boundText ≤ later.items.boundText ∧
      cutoffs.ingestErrors.boundText ≤ later.ingestErrors.boundText := by
  have sameWall : ∀ value : PyDateTime,
      (normalizeDatetime value).wall = value.wall := by
    intro value
    unfold normalizeDatetime
    split <;> rfl
  have normalizedOrder : (normalizeDatetime first).wall.micros ≤
      (normalizeDatetime second).wall.micros := by
    rw [sameWall, sameWall]
    exact ordered
  obtain ⟨resolved, resolvedEq, rawEq, itemsEq, errorsEq⟩ :=
    resolveCutoffs_eq_ok_iff.mp returned
  obtain ⟨rawNonneg, itemsNonneg, errorsNonneg⟩ :=
    resolveRetentionSettings_nonneg resolvedEq
  obtain ⟨rawLater, rawLaterEq, rawLe⟩ := subtractDays_mono firstUtc secondUtc
    normalizedOrder rawNonneg rawEq
  obtain ⟨itemsLater, itemsLaterEq, itemsLe⟩ := subtractDays_mono firstUtc
    secondUtc normalizedOrder itemsNonneg itemsEq
  obtain ⟨errorsLater, errorsLaterEq, errorsLe⟩ := subtractDays_mono firstUtc
    secondUtc normalizedOrder errorsNonneg errorsEq
  exact ⟨⟨rawLater, itemsLater, errorsLater⟩,
    resolveCutoffs_eq_ok_iff.mpr
      ⟨resolved, resolvedEq, rawLaterEq, itemsLaterEq, errorsLaterEq⟩,
    rawLe, itemsLe, errorsLe⟩

end Resolution

end Tca
