import Tca.BotDeliveries
import Tca.ChannelPurge
import Tca.SettingsTable

/-!
# The bot delivery loop

A delivery run reads its settings, fetches a batch of undelivered clusters and
attempts each of them: a sent message is recorded, a rejected token disables
the bot and ends the run, any other failure is counted in memory and reported
at every third one.  The file embeds the run, for any replies of the bot API.
-/

namespace Tca

open Transaction

/-- `bool(value)`. -/
def PyValue.truthy : PyValue → Bool
  | .none => false
  | .bool value => value
  | .int value => value ≠ 0
  | .float value => value ≠ .finite 0
  | .str value => value ≠ ""
  | .list values => !values.isEmpty
  | .dict entries => !entries.isEmpty

/-- The text of an exception. -/
def PyError.text : PyError → String
  | .valueError message | .typeError message | .overflowError message
  | .osError message | .integrityError message | .operationalError message
  | .settingAlreadyExistsError message | .settingValueDecodeError message
  | .threadQueryRepositoryError message
  | .botDeliveryAlreadyExistsError message | .keyMaterialError message
  | .keyRotationError message
  | .keyRotationStateMissingError message
  | .keyRotationAccountNotFoundError message | .multipleResultsFound message
  | .telegramAccountNotFoundError message | .rpcError message
  | .strategyContractError message
  | .dedupeDecisionsRepositoryError message | .recursionError message
  | .channelAlreadyAssignedToGroupError message
  | .envelopeDecryptionError message
  | .channelStateDecodeError message => message

/-- What comes of a call of the bot API's `send_message`. -/
inductive SendReply where
  | sent (messageId : Int)
  | tokenInvalid
  | failed (error : String)
  deriving DecidableEq

/-- What a `BotDeliveryCoreLoop` is given: its formatter, which may raise, and
Python's `str`. -/
structure DeliveryLoop where
  formatter : BotDeliveryEntryRecord → Except String String
  str : PyValue → String

/-- A run that has read its settings and its batch. -/
structure StartedRun where
  token : String
  chatId : String
  entries : List BotDeliveryEntryRecord
  deriving DecidableEq

/-- An attempt to deliver a cluster and what came of it. -/
structure DeliveryAttempt where
  clusterId : Int
  outcome : SendReply
  deriving DecidableEq

/-- The store, the loop's failure counters and all attempts so far. -/
structure DeliveryState where
  db : Database
  consecutiveFailures : Int → Option Nat
  attempts : List DeliveryAttempt

/-- The batch size that the setting gives. -/
def resolveBatchSize : Option PyValue → Int
  | some (.bool value) => if value then 1 else 0
  | some (.int value) => value
  | some (.float value) => value.truncate
  | _ => 10

namespace DeliveryLoop

variable (loop : DeliveryLoop)

/-- The first steps of `run_once`: settings and batch.  There is no run when
the bot is disabled or not configured. -/
def startRun (db : Database) : Except PyError (Option StartedRun) := do
  let enabled ← getSetting db.settings "bot.enabled"
  if (enabled.map PyValue.truthy).getD false then
    let tokenValue ← getSetting db.settings "bot.token"
    let chatIdValue ← getSetting db.settings "bot.chat_id"
    let token := (tokenValue.map loop.str).getD ""
    let chatId := (chatIdValue.map loop.str).getD ""
    if token = "" ∨ chatId = "" then return none
    else
      let batchSize ← getSetting db.settings "bot.delivery_batch_size"
      let entries ← listUndeliveredEntries db (resolveBatchSize batchSize)
      return some ⟨token, chatId, entries⟩
  else return none

/-- What comes of formatting an entry and sending it. -/
def attempt (entry : BotDeliveryEntryRecord) (reply : SendReply) : SendReply :=
  match loop.formatter entry with
  | .error problem => .failed problem
  | .ok _ => reply

end DeliveryLoop

namespace Database

variable (db : Database)

/-- The report of a rejected token. -/
def tokenInvalidNotification (chatId : String) : NotificationRow where
  id := TableRows.nextRowid (db.notifications.map (·.id))
  type := "bot_token_invalid"
  severity := "error"
  message :=
    "Telegram bot token is invalid. Bot delivery has been disabled."
  payloadJson := some (.dict [("chat_id", .str chatId)])

/-- The report of a cluster that failed three times. -/
def deliveryFailedNotification (clusterId : Int) (error : String) :
    NotificationRow where
  id := TableRows.nextRowid (db.notifications.map (·.id))
  type := "bot_delivery_failed"
  severity := "warning"
  message := s!"Failed to deliver cluster {clusterId}: {error}"
  payloadJson :=
    some (.dict [("cluster_id", .int clusterId), ("error", .str error)])

/-- `_handle_token_invalid`. -/
def handleTokenInvalid (chatId : String) : Database :=
  { db.addNotification (db.tokenInvalidNotification chatId) with
    settings := upsertSetting db.settings "bot.enabled" (.bool false) }

end Database

/-- How the loop goes on after an entry. -/
inductive EntryResult where
  | delivered (record : BotDeliveryRecord)
  | skipped
  | stopped
  deriving DecidableEq

namespace DeliveryState

variable (state : DeliveryState)

/-- The handler of an exception other than a rejected token. -/
def countFailure (clusterId : Int) (error : String) : DeliveryState :=
  let failCount := (state.consecutiveFailures clusterId).getD 0 + 1
  if 3 ≤ failCount then
    { state with
      db := state.db.addNotification
        (state.db.deliveryFailedNotification clusterId error)
      consecutiveFailures :=
        Function.update state.consecutiveFailures clusterId (some 0) }
  else
    { state with
      consecutiveFailures :=
        Function.update state.consecutiveFailures clusterId (some failCount) }

/-- Append an attempt to the history. -/
def log (clusterId : Int) (outcome : SendReply) : DeliveryState :=
  { state with attempts := state.attempts ++ [⟨clusterId, outcome⟩] }

/-- The body of the loop for one entry whose attempt had the given outcome.
An exception of the recording itself is handled like a failed send. -/
def processEntry (chatId : String) (clusterId : Int) (outcome : SendReply)
    (now : Timestamp) : EntryResult × DeliveryState :=
  let logged := state.log clusterId outcome
  match outcome with
  | .tokenInvalid =>
      (.stopped, { logged with db := logged.db.handleTokenInvalid chatId })
  | .failed error => (.skipped, logged.countFailure clusterId error)
  | .sent messageId =>
      match atomically (recordDelivery clusterId (some (toString messageId)) now)
          logged.db with
      | (.ok record, db) =>
          (.delivered record,
            { logged with
              db := db
              consecutiveFailures :=
                Function.update logged.consecutiveFailures clusterId none })
      | (.error problem, db) =>
          (.skipped,
            { logged with db := db }.countFailure clusterId problem.text)

end DeliveryState

/-- What the outside does during a run: the API's reply to each entry and the
time at which it is recorded. -/
structure DeliveryWorld where
  reply : BotDeliveryEntryRecord → SendReply
  clock : BotDeliveryEntryRecord → Timestamp

namespace DeliveryLoop

variable (loop : DeliveryLoop)

/-- The loop of `run_once` over the entries of its batch. -/
def processEntries (world : DeliveryWorld) (chatId : String) :
    List BotDeliveryEntryRecord → List BotDeliveryRecord → DeliveryState →
      List BotDeliveryRecord × DeliveryState
  | [], records, state => (records, state)
  | entry :: entries, records, state =>
      match state.processEntry chatId entry.clusterId
          (loop.attempt entry (world.reply entry)) (world.clock entry) with
      | (.delivered record, later) =>
          processEntries world chatId entries (records ++ [record]) later
      | (.skipped, later) => processEntries world chatId entries records later
      | (.stopped, later) => (records, later)

/-- Perform one delivery run, sending a batch of undelivered clusters. -/
def runOnce (world : DeliveryWorld) (state : DeliveryState) :
    Except PyError (List BotDeliveryRecord) × DeliveryState :=
  match loop.startRun state.db with
  | .error problem => (.error problem, state)
  | .ok none => (.ok [], state)
  | .ok (some run) =>
      let (records, later) :=
        loop.processEntries world run.chatId run.entries [] state
      (.ok records, later)

end DeliveryLoop

end Tca
