import Mathlib
import Tca.PollingStore
import Tca.SettingsTable
import Tca.IsoTimestamps

/-!
# Account risk escalation

Risk breaches of an account are kept, as a list of ISO times, in a settings row
of the account.  The third breach within an hour pauses the account, empties
the list and reports the pause.  The file embeds `record_account_risk_breach`
with the statements it runs, and shows that the list of breaches survives its
encoding and that different accounts use different settings.
-/

namespace Tca

open TableRows

/-- The tables that the ingest helpers read and write. -/
structure IngestStore where
  polling : PollingStore
  settings : List SettingRow
  notifications : List NotificationRow

/-- Return pause state for an account or nothing if missing. -/
def PollingStore.getPauseState (store : PollingStore) (accountId : Int) :
    Except PyError (Option AccountPauseRecord) :=
  if ¬ IsSqlInteger accountId then .error integerOverflow
  else .ok ((store.accounts.toKeyedTable.find? accountId).map decodePauseRow)

/-- `NotificationsRepository.create`. -/
def IngestStore.createNotification (store : IngestStore)
    (type severity message : String) (payload : PyValue) : IngestStore :=
  { store with
    notifications := store.notifications ++
      [⟨nextRowid (store.notifications.map (·.id)), type, severity, message,
        some payload⟩] }

namespace AccountRisk

/-- `ACCOUNT_RISK_WINDOW_SECONDS`. -/
def windowSeconds : Int := 3600

/-- `ACCOUNT_RISK_THRESHOLD`. -/
def threshold : Nat := 3

/-- `_state_key`. -/
def stateKey (accountId : Int) : String :=
  "ingest.account_risk_state." ++ toString accountId

/-- `_encode_state`. -/
def encodeState (breaches : List Timestamp) : PyValue :=
  .dict [("breaches",
    .list (breaches.map fun breach => .str breach.isoformatT))]

/-- The breach that one item of the stored list denotes, if any. -/
def decodeBreach : PyValue → Option Timestamp
  | .str item => (fromisoformat item).map Timestamp.readAsUtc
  | _ => none

/-- `_decode_state`. -/
def decodeState : Option PyValue → List Timestamp
  | some (.dict entries) =>
      match entries.lookup "breaches" with
      | some (.list items) => items.filterMap decodeBreach
      | _ => []
  | _ => []

/-- `_filter_recent`. -/
def filterRecent (breaches : List Timestamp) (now : Timestamp) :
    Except PyError (List Timestamp) := do
  let cutoff ← now.addMicros (-(windowSeconds * 1000000))
  return breaches.filter fun breach => cutoff.instant ≤ breach.instant

/-- Different accounts use different settings. -/
theorem stateKey_injective : Function.Injective stateKey := by
  intro first second same
  have sameText : toString first = toString second :=
    String.append_right_inj _ |>.mp same
  exact Int.repr_injective sameText

theorem areJsonValues_str (texts : List String) :
    areJsonValues (texts.map .str) = true := by
  induction texts with
  | nil => rfl
  | cons text texts ih => simpa [areJsonValues, isJsonValue] using ih

theorem isJsonValue_encodeState (breaches : List Timestamp) :
    isJsonValue (encodeState breaches) = true := by
  have texts := areJsonValues_str (breaches.map Timestamp.isoformatT)
  rw [List.map_map, Function.comp_def] at texts
  simpa [encodeState, isJsonValue, areJsonEntries] using texts

/-- Encoded breaches are read back; a naive time is read as UTC. -/
theorem decodeState_encodeState (breaches : List Timestamp) :
    decodeState (some (encodeState breaches)) =
      breaches.map Timestamp.readAsUtc := by
  simp only [encodeState, decodeState, List.lookup_cons_self]
  rw [List.filterMap_map]
  have decoded : (decodeBreach ∘ fun breach => .str breach.isoformatT) =
      fun breach : Timestamp => some breach.readAsUtc := by
    funext breach
    simp [decodeBreach, fromisoformat_isoformatT]
  rw [decoded, ← Function.comp_def, List.filterMap_eq_map]

end AccountRisk

namespace IngestStore

open AccountRisk

variable (store : IngestStore)

/-- The breaches that are stored for an account. -/
def storedBreaches (accountId : Int) : Except PyError (List Timestamp) :=
  (getSetting store.settings (stateKey accountId)).map decodeState

/-- `_upsert_state`. -/
def upsertBreaches (accountId : Int) (breaches : List Timestamp) :
    IngestStore :=
  { store with
    settings := upsertSetting store.settings (stateKey accountId)
      (encodeState breaches) }

/-- The pause state of an account. -/
def pauseState (accountId : Int) : Option AccountPauseRecord :=
  (store.polling.accounts.toKeyedTable.find? accountId).map decodePauseRow

/-- The report of a pause. -/
def reportRisk (accountId : Int) (breachCount : Nat) (breachReason : String)
    (now : Timestamp) : IngestStore :=
  store.createNotification "ingest.account_risk" "high"
    (s!"Account {accountId} paused after repeated risk events. " ++
      "Explicit resume required to continue polling.")
    (.dict
      [("account_id", .int accountId), ("breach_count", .int breachCount),
        ("breach_reason", .str breachReason),
        ("paused_at", .str now.isoformatT),
        ("window_seconds", .int windowSeconds)])

/-- The writes for a breach of an account that is not paused. -/
def persistBreach (accountId : Int) (breachReason : String) (now : Timestamp)
    (breaches : List Timestamp) :
    Except PyError (Option AccountPauseRecord) × IngestStore :=
  if breaches.length < threshold then
    (.ok none, store.upsertBreaches accountId breaches)
  else
    match store.polling.pauseAccount accountId "account-risk"
        (some now.instant) with
    | (.error problem, polling) =>
        (.error problem, { store with polling := polling })
    | (.ok paused, polling) =>
        let later :=
          { store with polling := polling }.upsertBreaches accountId []
        match paused with
        | none => (.ok none, later)
        | some record =>
            (.ok (some record),
              later.reportRisk accountId breaches.length breachReason now)

/-- Record a risk breach and pause the account when threshold is exceeded.
The time is what the time provider returns. -/
def recordAccountRiskBreach (accountId : Int) (breachReason : String)
    (time : Timestamp) :
    Except PyError (Option AccountPauseRecord) × IngestStore :=
  let now := time.readAsUtc
  match store.polling.getPauseState accountId with
  | .error problem => (.error problem, store)
  | .ok none => (.ok none, store)
  | .ok (some pauseState) =>
      if pauseState.pausedAt ≠ none then (.ok (some pauseState), store)
      else
        match (store.storedBreaches accountId).bind
            (filterRecent · now) with
        | .error problem => (.error problem, store)
        | .ok recent =>
            store.persistBreach accountId breachReason now (recent ++ [now])

/-- Clear pause state for an account. -/
def resumeAccount (accountId : Int) :
    Except PyError (Option AccountPauseRecord) × IngestStore :=
  let resumed := store.polling.resumeAccount accountId
  (resumed.1, { store with polling := resumed.2 })

section Effects

variable {store} {accountId other : Int} {breaches : List Timestamp}
  {breachReason : String} {time now : Timestamp}

theorem storedBreaches_upsertBreaches_same :
    (store.upsertBreaches accountId breaches).storedBreaches accountId =
      .ok (breaches.map Timestamp.readAsUtc) := by
  rw [storedBreaches, upsertBreaches, getSetting_upsertSetting_same _ _
    (isJsonValue_encodeState breaches), Except.map, decodeState_encodeState]

theorem storedBreaches_upsertBreaches_other (different : other ≠ accountId) :
    (store.upsertBreaches accountId breaches).storedBreaches other =
      store.storedBreaches other := by
  have otherKey : stateKey other ≠ stateKey accountId :=
    stateKey_injective.ne different
  rw [storedBreaches, upsertBreaches,
    getSetting_upsertSetting_other _ _ otherKey, storedBreaches]

/-- The pause columns are written for one account. -/
theorem pauseState_setPause (pausedAt : Option Instant)
    (pauseReason : Option String) :
    ((store.polling.setPause accountId pausedAt
        pauseReason).accounts.toKeyedTable.find? other).map decodePauseRow =
      (store.pauseState other).map fun record =>
        if other = accountId then ⟨other, pausedAt, pauseReason⟩
        else record := by
  have found : (store.polling.setPause accountId pausedAt
        pauseReason).accounts.toKeyedTable.find? other =
      (store.polling.accounts.toKeyedTable.find? other).map fun row =>
        if decide (row.id = accountId) then
          { row with pausedAt := pausedAt, pauseReason := pauseReason }
        else row :=
    KeyedTable.find?_updateWhere (by simp)
  rw [found, pauseState, Option.map_map, Option.map_map]
  cases stored : store.polling.accounts.toKeyedTable.find? other with
  | none => rfl
  | some row =>
      have isOther := (KeyedTable.find?_eq_some_iff.mp stored).2
      by_cases addressed : other = accountId
      · simp [isOther, addressed, decodePauseRow]
      · simp [isOther, addressed, decodePauseRow]

theorem isSqlInteger_of_pauseState {record : AccountPauseRecord}
    (stored : store.pauseState accountId = some record) :
    IsSqlInteger accountId := by
  obtain ⟨row, found, -⟩ := Option.map_eq_some_iff.mp stored
  obtain ⟨member, rfl⟩ := KeyedTable.find?_eq_some_iff.mp found
  exact store.polling.accounts.sqlIds row member

/-- A breach of an account that is missing or paused changes nothing. -/
theorem recordAccountRiskBreach_idle
    (idle : ∀ record ∈ store.pauseState accountId, record.pausedAt ≠ none) :
    (store.recordAccountRiskBreach accountId breachReason time).2 = store := by
  unfold recordAccountRiskBreach PollingStore.getPauseState
  rw [← pauseState]
  split
  · rfl
  · rfl
  · rename_i record found
    split at found
    · cases found
    · have paused := idle record (Except.ok.inj found)
      rw [if_pos paused]

/-- A breach of an account that is not paused is persisted with the recent
stored breaches. -/
theorem recordAccountRiskBreach_active {record : AccountPauseRecord}
    {stored : List Timestamp}
    (found : store.pauseState accountId = some record)
    (notPaused : record.pausedAt = none)
    (read : store.storedBreaches accountId = .ok stored) :
    store.recordAccountRiskBreach accountId breachReason time =
      match filterRecent stored time.readAsUtc with
      | .error problem => (.error problem, store)
      | .ok recent =>
          store.persistBreach accountId breachReason time.readAsUtc
            (recent ++ [time.readAsUtc]) := by
  have sqlId := isSqlInteger_of_pauseState found
  unfold recordAccountRiskBreach PollingStore.getPauseState
  rw [← pauseState, if_neg (not_not.mpr sqlId), found]
  simp only [notPaused, ne_eq, not_true_eq_false, if_false, read, Except.bind]

/-- A breach of an account that is not paused is counted with the stored
breaches of the last hour. -/
theorem recordAccountRiskBreach_counted {record : AccountPauseRecord}
    {stored : List Timestamp} {cutoff : Timestamp}
    (found : store.pauseState accountId = some record)
    (notPaused : record.pausedAt = none)
    (read : store.storedBreaches accountId = .ok stored)
    (cutoffIs : time.readAsUtc.addMicros (-(windowSeconds * 1000000)) =
      .ok cutoff) :
    store.recordAccountRiskBreach accountId breachReason time =
      store.persistBreach accountId breachReason time.readAsUtc
        ((stored.filter fun breach => cutoff.instant ≤ breach.instant) ++
          [time.readAsUtc]) := by
  rw [recordAccountRiskBreach_active found notPaused read, filterRecent,
    cutoffIs]
  rfl

/-- Without a representable cutoff a breach raises and changes nothing. -/
theorem recordAccountRiskBreach_raised {record : AccountPauseRecord}
    {stored : List Timestamp} {problem : PyError}
    (found : store.pauseState accountId = some record)
    (notPaused : record.pausedAt = none)
    (read : store.storedBreaches accountId = .ok stored)
    (cutoffIs : time.readAsUtc.addMicros (-(windowSeconds * 1000000)) =
      .error problem) :
    store.recordAccountRiskBreach accountId breachReason time =
      (.error problem, store) := by
  rw [recordAccountRiskBreach_active found notPaused read, filterRecent,
    cutoffIs]
  rfl

/-- Enough breaches pause an account of the table. -/
theorem persistBreach_pauses {record : AccountPauseRecord}
    (found : store.pauseState accountId = some record)
    (enough : ¬ breaches.length < threshold) :
    store.persistBreach accountId breachReason now breaches =
      (.ok (some ⟨accountId, some now.instant, some "account-risk"⟩),
        ({ store with
            polling := store.polling.setPause accountId (some now.instant)
              (some "account-risk") }.upsertBreaches accountId []).reportRisk
          accountId breaches.length breachReason now) := by
  have sqlId := isSqlInteger_of_pauseState found
  have pausedAs := @pauseState_setPause store accountId accountId
    (some now.instant) (some "account-risk")
  rw [found, Option.map_some, if_pos rfl] at pausedAs
  simp only [persistBreach, enough, if_false, PollingStore.pauseAccount,
    PollingStore.writePause, sqlId, not_true_eq_false, Option.getD_some,
    pausedAs]

/-- A breach does not touch channels and their polling states. -/
theorem recordAccountRiskBreach_channels :
    (store.recordAccountRiskBreach accountId breachReason
        time).2.polling.channels = store.polling.channels ∧
      (store.recordAccountRiskBreach accountId breachReason
        time).2.polling.states = store.polling.states := by
  have pauses : ∀ pausedAt pauseReason,
      (store.polling.writePause accountId pausedAt pauseReason).2.channels =
          store.polling.channels ∧
        (store.polling.writePause accountId pausedAt pauseReason).2.states =
          store.polling.states := by
    intro pausedAt pauseReason
    rcases @PollingStore.writePause_store store.polling accountId pausedAt
      pauseReason with same | written
    · rw [same]
      exact ⟨rfl, rfl⟩
    · rw [written]
      exact ⟨rfl, rfl⟩
  have paused := pauses (some time.readAsUtc.instant) (some "account-risk")
  unfold recordAccountRiskBreach persistBreach PollingStore.pauseAccount
  simp only [Option.getD_some]
  split
  · exact ⟨rfl, rfl⟩
  · exact ⟨rfl, rfl⟩
  split
  · exact ⟨rfl, rfl⟩
  split
  · exact ⟨rfl, rfl⟩
  split
  · exact ⟨rfl, rfl⟩
  split
  · rename_i written
    rwa [written] at paused
  · rename_i written
    rw [written] at paused
    split <;> exact paused

end Effects

end IngestStore

end Tca
