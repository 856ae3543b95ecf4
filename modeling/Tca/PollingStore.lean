import Tca.PollSelection

/-!
# The tables of the polling code

Accounts, channels, polling states and queued poll jobs, with the foreign keys
between them, the clock, and the statements of the repositories that read and
write them.  The foreign keys are part of the store, so that every statement
shows that it keeps them.
-/

namespace Tca

open TableRows

abbrev ChannelTable : Type :=
  KeyedTable ChannelRow ChannelRow.id

abbrev ChannelStateTable : Type :=
  KeyedTable ChannelStateRecord ChannelStateRecord.channelId

abbrev PollJobTable : Type :=
  KeyedTable PollJobRow PollJobRow.id

/-- The tables and the clock.  `writing` tells that a job of the writer queue
is between two of its commits, so that no other job can run. -/
structure PollingStore where
  accounts : AccountTable
  channels : ChannelTable
  states : ChannelStateTable
  jobs : PollJobTable
  now : Instant
  writing : Bool
  channelAccounts : ∀ channel ∈ channels.rows,
    channel.accountId ∈ accounts.ids
  stateChannels : ∀ state ∈ states.rows, state.channelId ∈ channels.keys
  jobChannels : ∀ job ∈ jobs.rows, job.channelId ∈ channels.keys

/-- Payload of `POST /channels`. -/
structure ChannelCreateRequest where
  accountId : Int
  telegramChannelId : Int
  name : String
  username : Option String
  deriving DecidableEq

/-- Typed pause state payload for a Telegram account. -/
structure AccountPauseRecord where
  accountId : Int
  pausedAt : Option Instant
  pauseReason : Option String
  deriving DecidableEq

/-- `_decode_pause_row`. -/
def decodePauseRow (row : AccountRow) : AccountPauseRecord :=
  ⟨row.id, row.pausedAt, row.pauseReason⟩

/-- `_format_cursor_timestamp`, as the time that its text denotes. -/
def formatCursorTimestamp (value : Timestamp) : Except PyError Timestamp := do
  let normalized ← value.addMicros
    (-(value.offset.getD UtcOffset.utc).micros)
  return { normalized with offset := some UtcOffset.utc }

/-- The integers of a cursor. -/
def ChannelCursor.messageIds (cursor : ChannelCursor) : List Int :=
  cursor.lastMessageId.toList ++ cursor.nextOffsetId.toList

/-- `_encode_cursor_json`, as the cursor that `_decode_cursor_json` makes of
the text. -/
def encodeCursorJson :
    Option ChannelCursor → Except PyError (Option ChannelCursor)
  | none => .ok none
  | some cursor => do
      let lastPolledAt ← formatCursorTimestamp cursor.lastPolledAt
      -- Python refuses to spell longer integers out.
      if ∀ id ∈ cursor.messageIds,
          (Nat.toDigits 10 id.natAbs).length ≤ 4300 then
        return some { cursor with lastPolledAt := lastPolledAt }
      else .error (.valueError
        ("Exceeds the limit (4300 digits) for integer string conversion; " ++
          "use sys.set_int_max_str_digits() to increase the limit"))

namespace PollingStore

variable (store : PollingStore)

/-- `UPDATE telegram_channels SET ... WHERE id = :channel_id` for columns that
no key refers to. -/
def updateChannel (channelId : Int) (set : ChannelRow → ChannelRow)
    (keepsId : ∀ row, (set row).id = row.id)
    (keepsAccount : ∀ row, (set row).accountId = row.accountId) :
    PollingStore :=
  { store with
    channels := store.channels.updateWhere (fun row => row.id = channelId) set
      keepsId
    channelAccounts := by
      intro row stored
      obtain ⟨old, oldStored, rfl⟩ := KeyedTable.mem_updateWhere.mp stored
      split
      · rw [keepsAccount]
        exact store.channelAccounts old oldStored
      · exact store.channelAccounts old oldStored
    stateChannels := by
      rw [KeyedTable.keys_updateWhere]
      exact store.stateChannels
    jobChannels := by
      rw [KeyedTable.keys_updateWhere]
      exact store.jobChannels }

/-- `_set_enabled_state`. -/
def setEnabled (channelId : Int) (isEnabled : Bool) : PollingStore :=
  store.updateChannel channelId (fun row => { row with isEnabled := isEnabled })
    (fun _ => rfl) fun _ => rfl

/-- The row that `create_channel` inserts. -/
def newChannel (payload : ChannelCreateRequest) : ChannelRow where
  id := nextRowid store.channels.keys
  accountId := payload.accountId
  telegramChannelId := payload.telegramChannelId
  name := payload.name
  username := payload.username
  isEnabled := true

/-- `INSERT INTO telegram_channels` for an account of the table. -/
def insertChannel (payload : ChannelCreateRequest)
    (known : payload.accountId ∈ store.accounts.ids) : PollingStore :=
  have grows : ∀ {channelId}, channelId ∈ store.channels.keys →
      channelId ∈ (store.channels.insert (store.newChannel payload)
        (nextRowid_notMem _)).keys := by
    intro channelId used
    obtain ⟨row, stored, rfl⟩ := KeyedTable.mem_keys.mp used
    exact KeyedTable.mem_keys.mpr
      ⟨row, KeyedTable.mem_insert.mpr (.inl stored), rfl⟩
  { store with
    channels := store.channels.insert (store.newChannel payload)
      (nextRowid_notMem _)
    channelAccounts := by
      intro row stored
      rcases KeyedTable.mem_insert.mp stored with earlier | rfl
      · exact store.channelAccounts row earlier
      · exact known
    stateChannels := fun state stored =>
      grows (store.stateChannels state stored)
    jobChannels := fun job stored => grows (store.jobChannels job stored) }

/-- `DELETE FROM telegram_channels WHERE id = :channel_id`, with the rows that
the foreign keys delete along with the channel. -/
def deleteChannel (channelId : Int) : PollingStore :=
  have remains : ∀ {other}, other ∈ store.channels.keys → other ≠ channelId →
      other ∈ (store.channels.deleteWhere fun row => row.id = channelId).keys := by
    intro other used different
    obtain ⟨row, stored, rfl⟩ := KeyedTable.mem_keys.mp used
    exact KeyedTable.mem_keys.mpr
      ⟨row, KeyedTable.mem_deleteWhere.mpr ⟨stored, by simpa using different⟩,
        rfl⟩
  { store with
    channels := store.channels.deleteWhere fun row => row.id = channelId
    states := store.states.deleteWhere fun row => row.channelId = channelId
    jobs := store.jobs.deleteWhere fun row => row.channelId = channelId
    channelAccounts := by
      intro row stored
      exact store.channelAccounts row (KeyedTable.mem_deleteWhere.mp stored).1
    stateChannels := by
      intro state stored
      obtain ⟨earlier, different⟩ := KeyedTable.mem_deleteWhere.mp stored
      exact remains (store.stateChannels state earlier)
        (by simpa using different)
    jobChannels := by
      intro job stored
      obtain ⟨earlier, different⟩ := KeyedTable.mem_deleteWhere.mp stored
      exact remains (store.jobChannels job earlier)
        (by simpa using different) }

/-- A polling state whose columns are all null. -/
def blankState (channelId : Int) : ChannelStateRecord :=
  ⟨channelId, none, none, none⟩

/-- `INSERT INTO channel_state ... ON CONFLICT(channel_id) DO UPDATE` for a
channel of the table. -/
def putState (channelId : Int)
    (set : ChannelStateRecord → ChannelStateRecord)
    (keepsChannel : ∀ row, (set row).channelId = row.channelId)
    (known : channelId ∈ store.channels.keys) : PollingStore :=
  { store with
    states := store.states.upsert (blankState channelId) set keepsChannel
    stateChannels := by
      intro state stored
      rcases KeyedTable.mem_upsert.mp stored with ⟨earlier, -⟩ | rfl
      · exact store.stateChannels state earlier
      · rw [keepsChannel]
        cases found : store.states.find? (blankState channelId).channelId with
        | none => exact known
        | some old =>
            exact store.stateChannels old
              (KeyedTable.find?_eq_some_iff.mp found).1 }

/-- The row that `enqueue_poll_job` inserts. -/
def newJob (channelId : Int) (correlationId : String) : PollJobRow :=
  ⟨nextRowid store.jobs.keys, channelId, correlationId⟩

/-- `INSERT INTO poll_jobs` for a channel of the table. -/
def insertJob (channelId : Int) (correlationId : String)
    (known : channelId ∈ store.channels.keys) : PollingStore :=
  { store with
    jobs := store.jobs.insert (store.newJob channelId correlationId)
      (nextRowid_notMem _)
    jobChannels := by
      intro job stored
      rcases KeyedTable.mem_insert.mp stored with earlier | rfl
      · exact store.jobChannels job earlier
      · exact known }

/-- `UPDATE telegram_accounts SET paused_at, pause_reason WHERE id =
:account_id`. -/
def setPause (accountId : Int) (pausedAt : Option Instant)
    (pauseReason : Option String) : PollingStore :=
  { store with
    accounts := store.accounts.updateWhere (fun row => row.id = accountId)
      (fun row =>
        { row with pausedAt := pausedAt, pauseReason := pauseReason })
      fun _ => rfl
    channelAccounts := by
      rw [AccountTable.ids_updateWhere]
      exact store.channelAccounts }

/-- Mark the writer queue as busy or as free. -/
def setWriting (writing : Bool) : PollingStore :=
  { store with writing := writing }

/-- `list_schedulable_channels`, reduced to the ids. -/
def listSchedulableChannels : List Int :=
  ((store.channels.rows.filter fun channel =>
      channel.isEnabled ∧ ∃ account ∈ store.accounts.rows,
        account.id = channel.accountId ∧ account.pausedAt = none).map
    ChannelRow.id).insertionSort (· ≤ ·)

/-- What SQLite raises when no row id is left. -/
def diskFull : PyError :=
  .operationalError "database or disk is full"

def foreignKeyFailed : PyError :=
  .integrityError "FOREIGN KEY constraint failed"

/-- No constraint stands in the way of a new channel. -/
def CanInsertChannel (payload : ChannelCreateRequest) : Prop :=
  (IsSqlInteger payload.accountId ∧
      IsSqlInteger payload.telegramChannelId) ∧
    IsSqlInteger (nextRowid store.channels.keys) ∧
    payload.telegramChannelId ∉
      store.channels.rows.map (·.telegramChannelId) ∧
    payload.accountId ∈ store.accounts.ids

instance (payload : ChannelCreateRequest) :
    Decidable (store.CanInsertChannel payload) :=
  inferInstanceAs (Decidable (_ ∧ _ ∧ _ ∧ _))

/-- Create a channel row and return stored payload. -/
def createChannel (payload : ChannelCreateRequest) :
    Except PyError ChannelRow × PollingStore :=
  if ¬ (IsSqlInteger payload.accountId ∧
      IsSqlInteger payload.telegramChannelId) then
    (.error integerOverflow, store)
  else if ¬ IsSqlInteger (nextRowid store.channels.keys) then
    (.error diskFull, store)
  else if payload.telegramChannelId ∈
      store.channels.rows.map (·.telegramChannelId) then
    (.error (.integrityError
      "UNIQUE constraint failed: telegram_channels.telegram_channel_id"), store)
  else if known : payload.accountId ∈ store.accounts.ids then
    (.ok (store.newChannel payload), store.insertChannel payload known)
  else (.error foreignKeyFailed, store)

/-- Insert a new poll job and return the queued payload. -/
def enqueuePollJob (channelId : Int) (correlationId : String) :
    Except PyError PollJobRow × PollingStore :=
  if ¬ IsSqlInteger channelId then (.error integerOverflow, store)
  else if ¬ IsSqlInteger (nextRowid store.jobs.keys) then
    (.error diskFull, store)
  else if correlationId ∈ store.jobs.rows.map (·.correlationId) then
    (.error (.integrityError
      "UNIQUE constraint failed: poll_jobs.correlation_id"), store)
  else if known : channelId ∈ store.channels.keys then
    (.ok (store.newJob channelId correlationId),
      store.insertJob channelId correlationId known)
  else (.error foreignKeyFailed, store)

/-- No constraint stands in the way of a poll job. -/
def CanInsertJob (channelId : Int) (correlationId : String) : Prop :=
  IsSqlInteger channelId ∧ IsSqlInteger (nextRowid store.jobs.keys) ∧
    correlationId ∉ store.jobs.rows.map (·.correlationId) ∧
    channelId ∈ store.channels.keys

/-- Insert or update some columns of a channel's polling state. -/
def writeState (channelId : Int)
    (set : ChannelStateRecord → ChannelStateRecord)
    (keepsChannel : ∀ row, (set row).channelId = row.channelId) :
    Except PyError ChannelStateRecord × PollingStore :=
  if ¬ IsSqlInteger channelId then (.error integerOverflow, store)
  else if known : channelId ∈ store.channels.keys then
    (.ok (set ((store.states.find? channelId).getD (blankState channelId))),
      store.putState channelId set keepsChannel known)
  else (.error foreignKeyFailed, store)

/-- Insert or update polling state for a channel. -/
def upsertState (channelId : Int)
    (pausedUntil lastSuccessAt : Option Timestamp) :
    Except PyError ChannelStateRecord × PollingStore :=
  store.writeState channelId
    (fun row =>
      { row with pausedUntil := pausedUntil, lastSuccessAt := lastSuccessAt })
    fun _ => rfl

/-- Insert or update channel pause timestamp only. -/
def updatePause (channelId : Int) (pausedUntil : Option Timestamp) :
    Except PyError ChannelStateRecord × PollingStore :=
  store.writeState channelId
    (fun row => { row with pausedUntil := pausedUntil }) fun _ => rfl

/-- Insert or update cursor state without mutating pause/success fields. -/
def updateCursor (channelId : Int) (cursor : Option ChannelCursor) :
    Except PyError ChannelStateRecord × PollingStore :=
  match encodeCursorJson cursor with
  | .error problem => (.error problem, store)
  | .ok encoded =>
      store.writeState channelId (fun row => { row with cursor := encoded })
        fun _ => rfl

/-- Write the pause columns of an account and return what is stored then. -/
def writePause (accountId : Int) (pausedAt : Option Instant)
    (pauseReason : Option String) :
    Except PyError (Option AccountPauseRecord) × PollingStore :=
  if ¬ IsSqlInteger accountId then (.error integerOverflow, store)
  else
    let later := store.setPause accountId pausedAt pauseReason
    (.ok ((later.accounts.toKeyedTable.find? accountId).map decodePauseRow),
      later)

/-- Set pause state for an account and return the updated payload. -/
def pauseAccount (accountId : Int) (reason : String)
    (pausedAt : Option Instant) :
    Except PyError (Option AccountPauseRecord) × PollingStore :=
  store.writePause accountId (some (pausedAt.getD store.now)) (some reason)

/-- Clear pause state for an account and return updated payload. -/
def resumeAccount (accountId : Int) :
    Except PyError (Option AccountPauseRecord) × PollingStore :=
  store.writePause accountId none none

section Effects

variable {store}

theorem mem_updateChannel {channelId : Int} {set : ChannelRow → ChannelRow}
    {keepsId : ∀ row, (set row).id = row.id}
    {keepsAccount : ∀ row, (set row).accountId = row.accountId}
    {row : ChannelRow} :
    row ∈ (store.updateChannel channelId set keepsId
        keepsAccount).channels.rows ↔
      ∃ old ∈ store.channels.rows,
        (if old.id = channelId then set old else old) = row := by
  simp [updateChannel, KeyedTable.updateWhere]

theorem mem_insertChannel {payload : ChannelCreateRequest}
    {known : payload.accountId ∈ store.accounts.ids} {row : ChannelRow} :
    row ∈ (store.insertChannel payload known).channels.rows ↔
      row ∈ store.channels.rows ∨ row = store.newChannel payload := by
  simp [insertChannel, KeyedTable.insert]

theorem mem_insertJob {channelId : Int} {correlationId : String}
    (known : channelId ∈ store.channels.keys) {row : PollJobRow} :
    row ∈ (store.insertJob channelId correlationId known).jobs.rows ↔
      row ∈ store.jobs.rows ∨ row = store.newJob channelId correlationId := by
  simp [insertJob, KeyedTable.insert]

theorem jobKeys_insertJob {channelId : Int} {correlationId : String}
    (known : channelId ∈ store.channels.keys) :
    (store.insertJob channelId correlationId known).jobs.keys =
      store.jobs.keys ++ [nextRowid store.jobs.keys] := by
  simp [insertJob, KeyedTable.insert, KeyedTable.keys, newJob]

theorem correlationIds_insertJob {channelId : Int} {correlationId : String}
    (known : channelId ∈ store.channels.keys) :
    (store.insertJob channelId correlationId known).jobs.rows.map
        (·.correlationId) =
      store.jobs.rows.map (·.correlationId) ++ [correlationId] := by
  simp [insertJob, KeyedTable.insert, newJob]

theorem mem_setPause {accountId : Int} {pausedAt : Option Instant}
    {pauseReason : Option String} {row : AccountRow} :
    row ∈ (store.setPause accountId pausedAt pauseReason).accounts.rows ↔
      ∃ old ∈ store.accounts.rows,
        (if old.id = accountId then
          { old with pausedAt := pausedAt, pauseReason := pauseReason }
        else old) = row := by
  simp [setPause, AccountTable.rows_updateWhere]

/-- A poll job is inserted for a channel of the table or not at all. -/
theorem enqueuePollJob_cases (channelId : Int) (correlationId : String) :
    (∃ problem, store.enqueuePollJob channelId correlationId =
        (.error problem, store)) ∨
      ∃ known : channelId ∈ store.channels.keys,
        store.enqueuePollJob channelId correlationId =
          (.ok (store.newJob channelId correlationId),
            store.insertJob channelId correlationId known) := by
  unfold enqueuePollJob
  split
  · exact .inl ⟨_, rfl⟩
  split
  · exact .inl ⟨_, rfl⟩
  split
  · exact .inl ⟨_, rfl⟩
  split
  · rename_i known
    exact .inr ⟨known, rfl⟩
  · exact .inl ⟨_, rfl⟩

theorem enqueuePollJob_of_canInsert {channelId : Int} {correlationId : String}
    (insertable : store.CanInsertJob channelId correlationId) :
    store.enqueuePollJob channelId correlationId =
      (.ok (store.newJob channelId correlationId),
        store.insertJob channelId correlationId insertable.2.2.2) := by
  obtain ⟨sqlChannel, sqlId, fresh, known⟩ := insertable
  rw [enqueuePollJob, if_neg (not_not.mpr sqlChannel),
    if_neg (not_not.mpr sqlId), if_neg fresh, dif_pos known]

theorem newJob_notMem (channelId : Int) (correlationId : String) :
    store.newJob channelId correlationId ∉ store.jobs.rows :=
  fun stored => nextRowid_notMem store.jobs.keys
    (KeyedTable.mem_keys.mpr ⟨_, stored, rfl⟩)

/-- A channel is inserted unless a constraint stands in the way. -/
theorem createChannel_cases (payload : ChannelCreateRequest) :
    (∃ problem, store.createChannel payload = (.error problem, store)) ∨
      ∃ insertable : store.CanInsertChannel payload,
        store.createChannel payload =
          (.ok (store.newChannel payload),
            store.insertChannel payload insertable.2.2.2) := by
  unfold createChannel
  split
  · exact .inl ⟨_, rfl⟩
  rename_i sqlIntegers
  split
  · exact .inl ⟨_, rfl⟩
  rename_i sqlId
  split
  · exact .inl ⟨_, rfl⟩
  rename_i fresh
  split
  · rename_i known
    exact .inr ⟨⟨not_not.mp sqlIntegers, not_not.mp sqlId, fresh, known⟩, rfl⟩
  · exact .inl ⟨_, rfl⟩

/-- A polling state is written for a channel of the table or not at all. -/
theorem writeState_cases (channelId : Int)
    (set : ChannelStateRecord → ChannelStateRecord)
    (keepsChannel : ∀ row, (set row).channelId = row.channelId) :
    (∃ problem, store.writeState channelId set keepsChannel =
        (.error problem, store)) ∨
      ∃ known : channelId ∈ store.channels.keys,
        store.writeState channelId set keepsChannel =
          (.ok (set ((store.states.find? channelId).getD
              (blankState channelId))),
            store.putState channelId set keepsChannel known) := by
  unfold writeState
  split
  · exact .inl ⟨_, rfl⟩
  split
  · rename_i known
    exact .inr ⟨known, rfl⟩
  · exact .inl ⟨_, rfl⟩

theorem writePause_store (accountId : Int) (pausedAt : Option Instant)
    (pauseReason : Option String) :
    (store.writePause accountId pausedAt pauseReason).2 = store ∨
      (store.writePause accountId pausedAt pauseReason).2 =
        store.setPause accountId pausedAt pauseReason := by
  unfold writePause
  split
  · exact .inl rfl
  · exact .inr rfl

theorem mem_listSchedulableChannels {channelId : Int} :
    channelId ∈ store.listSchedulableChannels ↔
      ∃ channel ∈ store.channels.rows, channel.isEnabled = true ∧
        (∃ account ∈ store.accounts.rows, account.id = channel.accountId ∧
          account.pausedAt = none) ∧ channel.id = channelId := by
  rw [listSchedulableChannels, List.mem_insertionSort, List.mem_map]
  simp only [List.mem_filter, decide_eq_true_eq, and_assoc]

end Effects

end PollingStore

/-- An account of the sample store. -/
def samplePollingAccount (id : Int) (pausedAt : Option Instant) :
    AccountRow where
  id := id
  apiId := 12345
  apiHashEncrypted := []
  phoneNumber := none
  sessionEncrypted := none
  keyVersion := 1
  pausedAt := pausedAt
  pauseReason := pausedAt.map fun _ => "account-risk"

/-- Two channels of an account that runs and one of an account that is
paused. -/
def samplePollingStore : PollingStore where
  accounts := ⟨⟨[samplePollingAccount 1 none, samplePollingAccount 2 (some 0)],
    by decide⟩, by decide⟩
  channels := ⟨[⟨1, 1, 100, "first", none, true⟩,
    ⟨2, 1, 200, "second", none, true⟩, ⟨3, 2, 300, "third", none, true⟩],
    by decide⟩
  states := ⟨[], by decide⟩
  jobs := ⟨[], by decide⟩
  now := 0
  writing := false
  channelAccounts := by decide
  stateChannels := by decide
  jobChannels := by decide

end Tca
