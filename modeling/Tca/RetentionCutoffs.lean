import Mathlib.Data.List.Induction
import Tca.DecisionLog
import Tca.PollSelection
import Tca.RetentionPrune
import Tca.SettingsTable

/-!
# Cutoffs of the prune job

Every retention period that the settings endpoint stores is turned into a
cutoff when the job runs, and rows are compared with the cutoff as texts.  The
file says for which periods the cutoffs exist and for which rows the texts
compare like the instants.
-/

namespace Tca

section Requests

/-- The keys of `DYNAMIC_SETTINGS_DEFAULTS`. -/
def allowedDynamicSettingKeys : List String :=
  ["dedupe.default_horizon_minutes", "dedupe.threshold.title_similarity",
    "scheduler.default_poll_interval_seconds", "scheduler.max_pages_per_poll",
    "scheduler.max_messages_per_poll", "retention.raw_messages_days",
    "retention.items_days", "retention.ingest_errors_days",
    "retention.dedupe_decisions_days", "backup.retain_count",
    "bot.delivery_interval_seconds", "bot.delivery_batch_size"]

/-- A request that is not refused: its key is known and JSON can hold its
value. -/
def isStorable (request : String × PyValue) : Bool :=
  request.1 ∈ allowedDynamicSettingKeys && isJsonValue request.2

/-- `put_setting`. -/
def putSetting (settings : List SettingRow) (request : String × PyValue) :
    List SettingRow :=
  if isStorable request then upsertSetting settings request.1 request.2
  else settings

/-- The settings after some requests. -/
def storedSettings (requests : List (String × PyValue)) : List SettingRow :=
  requests.foldl putSetting []

/-- The value of the last request for a key that was not refused. -/
def lastPut (requests : List (String × PyValue)) (key : String) :
    Option PyValue :=
  (requests.reverse.find? fun request =>
    isStorable request && request.1 = key).map Prod.snd

/-- The last request decides what is read. -/
theorem getSetting_storedSettings (requests : List (String × PyValue))
    (key : String) :
    getSetting (storedSettings requests) key = .ok (lastPut requests key) := by
  induction requests using List.reverseRecOn with
  | nil => rfl
  | append_singleton requests request ih =>
      have stepped : storedSettings (requests ++ [request]) =
          putSetting (storedSettings requests) request := by
        simp [storedSettings]
      rw [stepped, putSetting, lastPut, List.reverse_append,
        List.reverse_singleton, List.singleton_append, List.find?_cons]
      by_cases storable : isStorable request = true
      · rw [if_pos storable]
        have json : isJsonValue request.2 = true := by
          simp only [isStorable, Bool.and_eq_true] at storable
          exact storable.2
        by_cases isKey : request.1 = key
        · subst isKey
          rw [getSetting_upsertSetting_same _ _ json]
          simp [storable]
        · rw [getSetting_upsertSetting_other _ _ (Ne.symm isKey), ih]
          simp [storable, isKey, lastPut]
      · rw [if_neg storable, ih]
        simp [storable, lastPut]

end Requests

section Periods

/-- The whole days since the start of year one. -/
def WallTime.wholeDays (time : WallTime) : Int :=
  time.micros / 86400000000

/-- A stored number of days, or the default if it is not usable, does not reach
back before the first year. -/
def DaysFit (now : WallTime) (days defaultValue : Int) (allowZero : Bool) :
    Prop :=
  if 0 < days then days ≤ now.wholeDays
  else (allowZero = true ∧ days = 0) ∨ defaultValue ≤ now.wholeDays

/-- The period that a stored value stands for does not reach back before the
first year. -/
def PeriodFits (now : WallTime) (stored : Option PyValue)
    (defaultValue : Int) (allowZero : Bool) : Prop :=
  match stored with
  | some (.int days) => DaysFit now days defaultValue allowZero
  | some (.float value) =>
      if value.isInteger then DaysFit now value.toInt defaultValue allowZero
      else defaultValue ≤ now.wholeDays
  | _ => defaultValue ≤ now.wholeDays

theorem WallTime.wholeDays_nonneg (time : WallTime) : 0 ≤ time.wholeDays := by
  unfold wholeDays
  omega

theorem resolveDaysNumeric_le_iff {now : WallTime} {days defaultValue : Int}
    {allowZero : Bool} :
    resolveDaysNumeric days allowZero defaultValue ≤ now.wholeDays ↔
      DaysFit now days defaultValue allowZero := by
  have nonneg := now.wholeDays_nonneg
  unfold resolveDaysNumeric DaysFit
  split
  · exact Iff.rfl
  · split
    · rename_i isZero
      exact iff_of_true nonneg (.inl isZero)
    · rename_i notZero
      rw [or_iff_right notZero]

/-- A resolved period fits if the stored value says so. -/
theorem resolvePositiveDaysSetting_le_iff {settings : List SettingRow}
    {key : String} {stored : Option PyValue} {defaultValue : Int}
    {allowZero : Bool} (now : WallTime)
    (found : getSetting settings key = .ok stored) :
    ∃ days, resolvePositiveDaysSetting settings key defaultValue allowZero =
        .ok days ∧
      (days ≤ now.wholeDays ↔
        PeriodFits now stored defaultValue allowZero) := by
  unfold resolvePositiveDaysSetting
  rw [found]
  simp only [bind, Except.bind]
  cases stored with
  | none => exact ⟨_, rfl, Iff.rfl⟩
  | some value =>
      cases value with
      | int days => exact ⟨_, rfl, resolveDaysNumeric_le_iff⟩
      | float value =>
          simp only [PeriodFits]
          split
          · exact ⟨_, rfl, resolveDaysNumeric_le_iff⟩
          · exact ⟨_, rfl, Iff.rfl⟩
      | none | bool _ | str _ | list _ | dict _ => exact ⟨_, rfl, Iff.rfl⟩

/-- A period can be subtracted if it does not reach back before the first
year. -/
theorem subtractDays_isOk_iff {value : PyDateTime} {days : Int}
    (nonneg : 0 ≤ days) :
    (∃ result, subtractDays value days = .ok result) ↔
      days ≤ value.wall.wholeDays := by
  have wallLt := value.wall.inRange
  unfold wallLimit at wallLt
  unfold WallTime.wholeDays
  constructor
  · rintro ⟨result, returned⟩
    unfold subtractDays at returned
    split at returned
    · cases returned
    split at returned
    · cases returned
    simp only at returned
    split at returned
    · rename_i inRange
      omega
    · cases returned
  · intro fits
    exact subtractDays_isOk ⟨nonneg, by omega⟩ (by omega)

theorem normalizeDatetime_wall (value : PyDateTime) :
    (normalizeDatetime value).wall = value.wall := by
  unfold normalizeDatetime
  split <;> rfl

/-- The cutoffs of a run exist exactly when no period in force reaches back
before the first year. -/
theorem prune_cutoffs_exist_iff (requests : List (String × PyValue))
    (now : PyDateTime) :
    (∃ cutoffs, resolveCutoffs (storedSettings requests) now = .ok cutoffs) ↔
      PeriodFits now.wall (lastPut requests "retention.raw_messages_days") 30
          false ∧
        PeriodFits now.wall (lastPut requests "retention.items_days") 365
          true ∧
        PeriodFits now.wall (lastPut requests "retention.ingest_errors_days")
          90 false := by
  have read := getSetting_storedSettings requests
  obtain ⟨rawDays, rawIs, rawIff⟩ := @resolvePositiveDaysSetting_le_iff _ _ _
    30 false now.wall (read "retention.raw_messages_days")
  obtain ⟨itemsDays, itemsIs, itemsIff⟩ := @resolvePositiveDaysSetting_le_iff
    _ _ _ 365 true now.wall (read "retention.items_days")
  obtain ⟨errorsDays, errorsIs, errorsIff⟩ := @resolvePositiveDaysSetting_le_iff
    _ _ _ 90 false now.wall (read "retention.ingest_errors_days")
  have resolved : resolveRetentionSettings (storedSettings requests) =
      .ok ⟨rawDays, itemsDays, errorsDays⟩ := by
    rw [resolveRetentionSettings, rawIs, resolveItemsDays, itemsIs, errorsIs]
    rfl
  obtain ⟨rawNonneg, itemsNonneg, errorsNonneg⟩ :=
    resolveRetentionSettings_nonneg resolved
  have subtracts : ∀ {days : Int}, 0 ≤ days →
      ((∃ result, subtractDays (normalizeDatetime now) days = .ok result) ↔
        days ≤ now.wall.wholeDays) := by
    intro days nonneg
    rw [subtractDays_isOk_iff nonneg, normalizeDatetime_wall]
  rw [← rawIff, ← itemsIff, ← errorsIff, ← subtracts rawNonneg,
    ← subtracts itemsNonneg, ← subtracts errorsNonneg]
  constructor
  · rintro ⟨cutoffs, returned⟩
    obtain ⟨periods, periodsIs, raw, items, errors⟩ :=
      resolveCutoffs_eq_ok_iff.mp returned
    obtain rfl := Except.ok.inj (resolved.symm.trans periodsIs)
    exact ⟨⟨_, raw⟩, ⟨_, items⟩, ⟨_, errors⟩⟩
  · rintro ⟨⟨raw, rawEq⟩, ⟨items, itemsEq⟩, ⟨errors, errorsEq⟩⟩
    exact ⟨⟨raw, items, errors⟩, resolveCutoffs_eq_ok_iff.mpr
      ⟨_, resolved, rawEq, itemsEq, errorsEq⟩⟩

/-- A million days are stored, and the job fails at the start of 2025. -/
theorem long_period_stops_prune :
    resolveCutoffs
        (storedSettings [("retention.raw_messages_days", .int 1000000)])
        sampleTime =
      .error (.overflowError "date value out of range") :=
  rfl

end Periods

section Expiry

/-- The instant of a wall-clock time in UTC. -/
def WallTime.utcInstant (time : WallTime) : Instant :=
  Timestamp.instant ⟨time, none⟩

/-- The instant of a row that `CURRENT_TIMESTAMP` was stored in. -/
def createdInstant (stored : WallTime) : Instant :=
  stored.wholeSeconds.utcInstant

/-- The instant that the job runs at, less the retention period. -/
def retentionInstant (now : PyDateTime) (days : Int) : Instant :=
  now.timestamp.instant - days * 86400000000

/-- The row is neither between the cutoff's instant and its wall-clock time,
read as UTC, nor at an end of this span that the texts count in. -/
def OutsideGap (now : PyDateTime) (days : Int) (cutoff : PyDateTime)
    (stored : WallTime) : Prop :=
  let row := createdInstant stored
  let due := retentionInstant now days
  let clock := cutoff.wall.utcInstant
  ¬ (due ≤ row ∧ (row < clock ∨
      row = clock ∧ cutoff.timestamp.offset ≠ none)) ∧
    ¬ (row < due ∧ (clock < row ∨
      row = clock ∧ cutoff.timestamp.offset = none))

variable {now cutoff : PyDateTime} {days : Int} {stored : WallTime}

theorem WallTime.utcInstant_lt_iff {first second : WallTime} :
    first.utcInstant < second.utcInstant ↔ first.micros < second.micros := by
  simp only [utcInstant, Timestamp.instant, Option.getD_none,
    sub_lt_sub_iff_right]
  exact Int.ofNat_lt

theorem WallTime.utcInstant_eq_iff {first second : WallTime} :
    first.utcInstant = second.utcInstant ↔ first.micros = second.micros := by
  simp only [utcInstant, Timestamp.instant, Option.getD_none, sub_left_inj]
  exact Int.ofNat_inj

/-- A row's text is below that of the same second only if that has an
offset. -/
theorem currentTimestamp_lt_same {wall : WallTime}
    (same : stored.wholeSeconds.micros = wall.micros)
    (offset : Option UtcOffset) :
    currentTimestamp stored < Timestamp.isoformat ⟨wall, offset⟩ ↔
      offset ≠ none := by
  have isWall : stored.wholeSeconds = wall := by
    cases wall
    simpa [WallTime.wholeSeconds] using same
  have noFraction : wall.micros % 1000000 = 0 := by
    rw [← same]
    simp [WallTime.wholeSeconds]
  rw [currentTimestamp, isWall, String.lt_iff_toList_lt]
  simp only [Timestamp.isoformat, String.toList_ofList, noFraction,
    fractionText, if_true, Option.map_none, Option.getD_none, List.append_nil,
    List.nil_append]
  cases offset with
  | none => simp
  | some offset =>
      refine iff_of_true ?_ (by simp)
      rw [Option.map_some, Option.getD_some, offsetText]
      have longer : ∀ (text : List Char) sign rest,
          text < text ++ sign :: rest := by
        intro text sign rest
        have tail := List.nil_lt_cons sign rest
        have extended := @List.append_left_lt _ _ text _ _ tail
        rwa [List.append_nil] at extended
      exact longer _ _ _

/-- How the text of a row compares with a bound time. -/
theorem currentTimestamp_lt_iff (value : PyDateTime) :
    currentTimestamp stored < value.boundText ↔
      createdInstant stored < value.wall.utcInstant ∨
        createdInstant stored = value.wall.utcInstant ∧
          value.timestamp.offset ≠ none := by
  rw [createdInstant, WallTime.utcInstant_lt_iff, WallTime.utcInstant_eq_iff]
  rcases Nat.lt_trichotomy stored.wholeSeconds.micros value.wall.micros with
    earlier | same | later
  · exact iff_of_true (Timestamp.isoformat_lt earlier) (.inl earlier)
  · rw [PyDateTime.boundText, PyDateTime.timestamp,
      currentTimestamp_lt_same same]
    simp [same]
  · have below : value.boundText < currentTimestamp stored :=
      Timestamp.isoformat_lt later
    refine iff_of_false (lt_asymm below) ?_
    omega

/-- The texts compare like the instants exactly outside the gap. -/
theorem currentTimestamp_agrees_iff :
    (currentTimestamp stored < cutoff.boundText ↔
        createdInstant stored < retentionInstant now days) ↔
      OutsideGap now days cutoff stored := by
  rw [currentTimestamp_lt_iff, OutsideGap]
  generalize createdInstant stored = row
  generalize retentionInstant now days = due
  generalize cutoff.wall.utcInstant = clock
  have split : ¬ (row < clock ∨
      row = clock ∧ cutoff.timestamp.offset ≠ none) ↔
        clock < row ∨ row = clock ∧ cutoff.timestamp.offset = none := by
    by_cases aware : cutoff.timestamp.offset = none
    · simp only [aware, ne_eq, not_true, and_false, or_false, and_true,
        not_lt]
      exact le_iff_lt_or_eq.trans (or_congr_right eq_comm)
    · simp only [aware, ne_eq, not_false_eq_true, and_true, and_false,
        or_false, ← le_iff_lt_or_eq, not_le]
  rw [← split, ← not_lt]
  tauto

/-- Subtraction moves the wall clock and keeps the time zone. -/
theorem subtractDays_eq_ok {value result : PyDateTime}
    (subtracted : subtractDays value days = .ok result) :
    result.tzinfo = value.tzinfo ∧
      (result.wall.micros : Int) = value.wall.micros - days * 86400000000 := by
  unfold subtractDays at subtracted
  split at subtracted
  · cases subtracted
  split at subtracted
  · cases subtracted
  simp only at subtracted
  split at subtracted
  · rename_i inRange
    obtain rfl := Except.ok.inj subtracted
    exact ⟨rfl, Int.toNat_of_nonneg inRange.1⟩
  · cases subtracted

/-- With a clock that is naive or in UTC, only a row right at the cutoff is in
the gap. -/
theorem outsideGap_utc_iff
    (utc : (normalizeDatetime now).tzinfo = some utcTimezone)
    (subtracted : subtractDays (normalizeDatetime now) days = .ok cutoff) :
    OutsideGap now days cutoff stored ↔
      createdInstant stored ≠ retentionInstant now days := by
  have zone : now.timestamp.offset.getD UtcOffset.utc = UtcOffset.utc := by
    unfold normalizeDatetime at utc
    split at utc
    · rename_i naive
      simp [PyDateTime.timestamp, naive]
    · rw [PyDateTime.timestamp, utc]
      rfl
  obtain ⟨sameZone, moved⟩ := subtractDays_eq_ok subtracted
  rw [normalizeDatetime_wall] at moved
  have aware : cutoff.timestamp.offset ≠ none := by
    rw [PyDateTime.timestamp, sameZone, utc]
    exact Option.some_ne_none _
  have sameInstant : cutoff.wall.utcInstant = retentionInstant now days := by
    rw [retentionInstant, Timestamp.instant, zone, WallTime.utcInstant,
      Timestamp.instant, moved]
    have reordered : ∀ wall epoch offset span : Int,
        wall - span - epoch - offset = wall - epoch - offset - span := by
      omega
    exact reordered _ _ _ _
  rw [OutsideGap, sameInstant]
  simp only [aware, ne_eq, not_false_eq_true, and_true, and_false, or_false,
    ← le_iff_lt_or_eq]
  constructor
  · rintro ⟨outside, -⟩ same
    exact outside ⟨same.ge, same.le⟩
  · intro different
    exact ⟨fun both => different (le_antisymm both.2 both.1),
      fun both => lt_asymm both.1 both.2⟩

end Expiry

section PruneRows

variable {settings : List SettingRow} {now : PyDateTime}
  {resolved : RetentionPruneSettings} {cutoffs : PruneCutoffs}

/-- The prune job expires rows by instant exactly outside the gaps between its
cutoffs and their wall clocks. -/
theorem prune_expiry_by_instant_iff
    (periods : resolveRetentionSettings settings = .ok resolved)
    (cut : resolveCutoffs settings now = .ok cutoffs) (stored : WallTime) :
    (∀ row : RawMessageRow, row.createdAt = currentTimestamp stored →
      ((row.expired cutoffs.rawMessages.boundText = true ↔
          createdInstant stored <
            retentionInstant now resolved.rawMessagesDays) ↔
        OutsideGap now resolved.rawMessagesDays cutoffs.rawMessages
          stored)) ∧
      (∀ row : ItemRow, row.createdAt = currentTimestamp stored →
        ((row.expired cutoffs.items.boundText = true ↔
            createdInstant stored <
              retentionInstant now resolved.itemsDays) ↔
          OutsideGap now resolved.itemsDays cutoffs.items stored)) ∧
      (∀ row : IngestErrorRow, row.createdAt = currentTimestamp stored →
        ((row.expired cutoffs.ingestErrors.boundText = true ↔
            createdInstant stored <
              retentionInstant now resolved.ingestErrorsDays) ↔
          OutsideGap now resolved.ingestErrorsDays cutoffs.ingestErrors
            stored)) ∧
      ((normalizeDatetime now).tzinfo = some utcTimezone →
        (OutsideGap now resolved.rawMessagesDays cutoffs.rawMessages stored ↔
          createdInstant stored ≠
            retentionInstant now resolved.rawMessagesDays) ∧
        (OutsideGap now resolved.itemsDays cutoffs.items stored ↔
          createdInstant stored ≠ retentionInstant now resolved.itemsDays) ∧
        (OutsideGap now resolved.ingestErrorsDays cutoffs.ingestErrors
            stored ↔
          createdInstant stored ≠
            retentionInstant now resolved.ingestErrorsDays)) := by
  obtain ⟨found, foundIs, raw, items, errors⟩ :=
    resolveCutoffs_eq_ok_iff.mp cut
  obtain rfl := Except.ok.inj (periods.symm.trans foundIs)
  refine ⟨?_, ?_, ?_, ?_⟩
  · intro row created
    rw [RawMessageRow.expired, created, decide_eq_true_iff]
    exact currentTimestamp_agrees_iff
  · intro row created
    rw [ItemRow.expired, created, decide_eq_true_iff]
    exact currentTimestamp_agrees_iff
  · intro row created
    rw [IngestErrorRow.expired, created, decide_eq_true_iff]
    exact currentTimestamp_agrees_iff
  · intro utc
    exact ⟨outsideGap_utc_iff utc raw, outsideGap_utc_iff utc items,
      outsideGap_utc_iff utc errors⟩

/-- The cutoffs of a run at the start of 2025 without stored settings. -/
def sampleCutoffs : PruneCutoffs where
  rawMessages := ⟨⟨63868694400000000, by decide⟩, some utcTimezone⟩
  items := ⟨⟨63839750400000000, by decide⟩, some utcTimezone⟩
  ingestErrors := ⟨⟨63863510400000000, by decide⟩, some utcTimezone⟩

/-- A raw message of this moment is compared by its instant. -/
theorem prune_expiry_sample :
    RawMessageRow.expired sampleCutoffs.rawMessages.boundText
        ⟨1, 1, 1, currentTimestamp sampleTime.wall⟩ = true ↔
      createdInstant sampleTime.wall < retentionInstant sampleTime 30 := by
  have periods : resolveRetentionSettings [] = .ok ⟨30, 365, 90⟩ := rfl
  have cut : resolveCutoffs [] sampleTime = .ok sampleCutoffs := rfl
  obtain ⟨raw, -, -, utc⟩ :=
    prune_expiry_by_instant_iff periods cut sampleTime.wall
  apply (raw _ rfl).mpr
  apply (utc rfl).1.mpr
  decide

/-- A clock two hours ahead of UTC, at the start of 2025 there. -/
def aheadTime : PyDateTime :=
  ⟨sampleTime.wall, some fun _ => some ⟨7200000000, by decide, by decide⟩⟩

/-- A raw message exactly thirty days old is expired, and so is one that is an
hour younger if the clock is two hours ahead of UTC. -/
theorem young_rows_expire :
    resolveCutoffs [] sampleTime = .ok sampleCutoffs ∧
      RawMessageRow.expired sampleCutoffs.rawMessages.boundText
        ⟨1, 1, 1, currentTimestamp sampleCutoffs.rawMessages.wall⟩ = true ∧
      ¬ createdInstant sampleCutoffs.rawMessages.wall <
        retentionInstant sampleTime 30 ∧
      ∃ cutoffs, resolveCutoffs [] aheadTime = .ok cutoffs ∧
        RawMessageRow.expired cutoffs.rawMessages.boundText
          ⟨1, 1, 1, currentTimestamp ⟨63868690800000000, by decide⟩⟩ = true ∧
        ¬ createdInstant ⟨63868690800000000, by decide⟩ <
          retentionInstant aheadTime 30 := by
  refine ⟨rfl, ?_, ?_, ⟨_, rfl, ?_, ?_⟩⟩
  · decide
  · decide
  · decide
  · decide

end PruneRows

end Tca
