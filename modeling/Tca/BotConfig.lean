import Tca.DynamicSettings
import Tca.LockstepCalls

/-!
# The configuration of the bot

The token and the chat of the bot are settings.  Requests store them once
Telegram has accepted the token, show them, test them and delete them, and the
delivery loop reads them.  The file follows all of these on one table,
statement by statement and in any order, with any replies of Telegram and any
failures of the database.
-/

namespace Tca.BotConfig

open GuardedRuns InterleavedCalls

section Client

/-- What an HTTP request to Telegram comes to.  A body that is no JSON has no
document. -/
inductive HttpReply where
  | requestError (text : String)
  | raised (text : String)
  | response (statusCode : Nat) (text : String) (json : Option JsonValue)

/-- What `BotApiClient` raises. -/
inductive ClientProblem where
  | botTokenInvalidError (message : String)
  | botApiError (message : String)
  | botNetworkError (message : String)
  | other (message : String)

def ClientProblem.text : ClientProblem → String
  | .botTokenInvalidError message => message
  | .botApiError message => message
  | .botNetworkError message => message
  | .other message => message

structure BotInfo where
  botId : Int
  username : Json.Text

/-- `bool(value)` of a decoded document. -/
def truthy : JsonValue → Bool
  | .null => false
  | .bool value => value
  | .int value => value ≠ 0
  | .float value => value ≠ .finite 0
  | .str text => !text.isEmpty
  | .list items => !items.isEmpty
  | .object members => !members.isEmpty

/-- `members.get(key)`. -/
def get (members : List (Json.Text × JsonValue)) (key : String) : JsonValue :=
  (Json.member? members key).getD .null

/-- The value if it is an `int`, as booleans are. -/
def int? : JsonValue → Option Int
  | .int value => some value
  | .bool value => some (if value then 1 else 0)
  | _ => none

/-- Python's `str` of documents and of stored values that are no texts. -/
structure Printer where
  document (value : JsonValue) : String
  stored (value : PyValue) : String

variable (printer : Printer)

/-- What both calls of the client do with a reply until they have the result's
members. -/
def botResult : HttpReply → Except ClientProblem (List (Json.Text × JsonValue))
  | .requestError text =>
      .error (.botNetworkError
        s!"Network error connecting to Telegram API: {text}")
  | .raised text => .error (.other text)
  | .response statusCode text json =>
      if 200 ≤ statusCode ∧ statusCode < 300 then
        match json with
        | none =>
            .error (.botApiError
              s!"Invalid JSON response from Telegram API: {text}")
        | some (.object members) =>
            if truthy (get members "ok") then
              match get members "result" with
              | .object result => .ok result
              | other =>
                  let spelled := printer.document other
                  .error (.botApiError
                    s!"Unexpected result format from Telegram API: {spelled}")
            else
              let desc := printer.document (get members "description")
              .error (.botApiError s!"Telegram API returned ok=false: {desc}")
        | some _ =>
            .error (.botApiError
              "Telegram API returned ok=false: Unknown error")
      else if statusCode = 401 then
        .error (.botTokenInvalidError
          s!"Invalid bot token (401 Unauthorized): {text}")
      else .error (.botApiError s!"Telegram API error {statusCode}: {text}")

/-- `validate_token`. -/
def validateToken (reply : HttpReply) : Except ClientProblem BotInfo := do
  let result ← botResult printer reply
  match int? (get result "id"), get result "username" with
  | some botId, .str username => return ⟨botId, username⟩
  | _, _ =>
      let spelled := printer.document (.object result)
      throw (.botApiError
        s!"Missing required fields id/username in result: {spelled}")

/-- `send_message`: the id of the sent message. -/
def sendMessage (reply : HttpReply) : Except ClientProblem Int := do
  let result ← botResult printer reply
  match int? (get result "message_id") with
  | some messageId => return messageId
  | none =>
      let spelled := printer.document (.object result)
      throw (.botApiError
        s!"Missing required message_id in result: {spelled}")

end Client

section Requests

/-- The settings, the tokens that Telegram accepted with the chats that came
along, and everything that was handed to Telegram to send with. -/
structure BotStore where
  settings : List SettingRow
  accepted : List (String × String)
  used : List (String × String)

/-- The settings of the bot. -/
def botKeys : List String :=
  ["bot.token", "bot.chat_id", "bot.enabled"]

/-- The requests of the API, the delivery loop reading its credentials and
disabling a rejected token, and writes to all other settings. -/
inductive BotRequest where
  | configure (token chatId : String)
  | status
  | delete
  | test
  | setting (key : String)
  | load
  | disable
  | store (key : String) (other : key ∉ botKeys) (value : PyValue)
  | remove (key : String) (other : key ∉ botKeys)

inductive BotPhase where
  | validate (token chatId : String)
  | update (entry : String × PyValue) (rest : List (String × PyValue))
      (botUsername : Json.Text) (chatId : String)
  | create (entry : String × PyValue) (rest : List (String × PyValue))
      (botUsername : Json.Text) (chatId : String)
  | statusToken
  | statusChatId (token : String)
  | statusEnabled (token chatId : String)
  | deleteToken
  | deleteChatId
  | deleteEnabled
  | testToken
  | testChatId (token : String)
  | testSend (token chatId : String)
  | setting (key : String)
  | loadEnabled
  | loadToken
  | loadChatId (token : String)
  | disable
  | store (key : String) (other : key ∉ botKeys) (value : PyValue)
  | remove (key : String) (other : key ∉ botKeys)

/-- How a call ends. -/
inductive BotResult where
  | configured (botUsername : Json.Text) (chatId : String)
  | status (tokenMasked chatId : Option String) (enabled : Bool)
  | deleted
  | tested (messageId : Int)
  | httpException (status : Nat) (detail : String)
  | setting (result : SettingsResult)
  | raised (error : PyError)
  | loaded (credentials : Option (String × String))
  | written

abbrev BotProgress : Type :=
  Progress BotPhase BotResult

/-- The database may refuse a statement, and Telegram replies. -/
structure BotInput where
  problem : Option PyError
  reply : HttpReply

/-- All characters but the last four are hidden, or all if there are no
more. -/
def maskToken (token : String) : String :=
  let length := token.toList.length
  if 4 < length then
    String.ofList (List.replicate (length - 4) '*' ++
      token.toList.drop (length - 4))
  else String.ofList (List.replicate length '*')

/-- What `configure_bot` stores. -/
def configEntries (token chatId : String) : List (String × PyValue) :=
  [("bot.token", .str token), ("bot.chat_id", .str chatId),
    ("bot.enabled", .bool true)]

variable (printer : Printer)

/-- `str(record.value) if record else None`, with the empty text for no
record: both count as not configured. -/
def recordText : Option PyValue → String
  | none => ""
  | some (.str text) => text
  | some value => printer.stored value

/-- `bool(record.value) if record else False`. -/
def recordFlag (record : Option PyValue) : Bool :=
  (record.map PyValue.truthy).getD false

/-- Read a setting and go on, unless the read fails. -/
def readThen (input : BotInput) (settings : List SettingRow) (key : String)
    (next : Option PyValue → BotProgress) : BotProgress :=
  match input.problem, getSetting settings key with
  | some problem, _ => .ended (.raised problem)
  | none, .error error => .ended (.raised error)
  | none, .ok record => next record

/-- Execute a statement and go on, unless the database refuses it. -/
def writeThen (input : BotInput) (store : BotStore)
    (write : List SettingRow → List SettingRow) (next : BotProgress) :
    BotProgress × BotStore :=
  match input.problem with
  | some problem => (.ended (.raised problem), store)
  | none => (next, { store with settings := write store.settings })

/-- Go on with the next entry of a configuration. -/
def writeNext (rest : List (String × PyValue)) (botUsername : Json.Text)
    (chatId : String) : BotProgress :=
  match rest with
  | [] => .ended (.configured botUsername chatId)
  | entry :: rest => .suspended (.update entry rest botUsername chatId)

/-- The response of `get_bot_config`. -/
def statusOf (token chatId : String) (enabled : Bool) : BotResult :=
  if token = "" ∨ chatId = "" then .status none none false
  else .status (some (maskToken token)) (some chatId) enabled

/-- How `test_bot_config` goes on with what it has read. -/
def testWith (token chatId : String) : BotProgress :=
  if token = "" ∨ chatId = "" then
    .ended (.httpException 422 "Telegram bot delivery is not configured.")
  else .suspended (.testSend token chatId)

/-- The delivery loop has its credentials, if there are any. -/
def loadedOf (token chatId : String) (store : BotStore) :
    BotProgress × BotStore :=
  if token = "" ∨ chatId = "" then (.ended (.loaded none), store)
  else
    (.ended (.loaded (some (token, chatId))),
      { store with used := store.used ++ [(token, chatId)] })

/-- The step of `configure_bot` that asks Telegram. -/
def validate (token chatId : String) (reply : HttpReply) (store : BotStore) :
    BotProgress × BotStore :=
  match validateToken printer reply with
  | .error (.botTokenInvalidError message) =>
      (.ended (.httpException 422
        s!"Invalid Telegram bot token: {message}"), store)
  | .error problem =>
      let text := problem.text
      (.ended (.httpException 400
        s!"Failed to validate bot token: {text}"), store)
  | .ok info =>
      (writeNext (configEntries token chatId) info.username chatId,
        { store with accepted := store.accepted ++ [(token, chatId)] })

/-- The step of `test_bot_config` that sends. -/
def testSend (token chatId : String) (reply : HttpReply) (store : BotStore) :
    BotProgress × BotStore :=
  let sent := { store with used := store.used ++ [(token, chatId)] }
  match sendMessage printer reply with
  | .ok messageId => (.ended (.tested messageId), sent)
  | .error problem =>
      let text := problem.text
      (.ended (.httpException 400
        s!"Test message delivery failed: {text}"), sent)

/-- The atomic steps of all requests. -/
def botAdvance (phase : BotPhase) (input : BotInput) (store : BotStore) :
    BotProgress × BotStore :=
  match phase with
  | .validate token chatId => validate printer token chatId input.reply store
  | .update entry rest botUsername chatId =>
      match input.problem, updateSetting store.settings entry.1 entry.2 with
      | some problem, _ => (.ended (.raised problem), store)
      | none, some settings =>
          (writeNext rest botUsername chatId, { store with settings })
      | none, none =>
          (.suspended (.create entry rest botUsername chatId), store)
  | .create entry rest botUsername chatId =>
      match input.problem, createSetting store.settings entry.1 entry.2 with
      | some problem, _ => (.ended (.raised problem), store)
      | none, .ok settings =>
          (writeNext rest botUsername chatId, { store with settings })
      | none, .error error => (.ended (.raised error), store)
  | .statusToken =>
      (readThen input store.settings "bot.token" fun record =>
        .suspended (.statusChatId (recordText printer record)), store)
  | .statusChatId token =>
      (readThen input store.settings "bot.chat_id" fun record =>
        .suspended (.statusEnabled token (recordText printer record)), store)
  | .statusEnabled token chatId =>
      (readThen input store.settings "bot.enabled" fun record =>
        .ended (statusOf token chatId (recordFlag record)), store)
  | .deleteToken =>
      writeThen input store (deleteSetting · "bot.token")
        (.suspended .deleteChatId)
  | .deleteChatId =>
      writeThen input store (deleteSetting · "bot.chat_id")
        (.suspended .deleteEnabled)
  | .deleteEnabled =>
      writeThen input store (upsertSetting · "bot.enabled" (.bool false))
        (.ended .deleted)
  | .testToken =>
      (readThen input store.settings "bot.token" fun record =>
        .suspended (.testChatId (recordText printer record)), store)
  | .testChatId token =>
      (readThen input store.settings "bot.chat_id" fun record =>
        testWith token (recordText printer record), store)
  | .testSend token chatId => testSend printer token chatId input.reply store
  | .setting key =>
      match seededDefault? key, input.problem with
      | some _, some problem => (.ended (.raised problem), store)
      | _, _ => (.ended (.setting (readSetting store.settings key)), store)
  | .loadEnabled =>
      (readThen input store.settings "bot.enabled" fun record =>
        if recordFlag record then .suspended .loadToken
        else .ended (.loaded none), store)
  | .loadToken =>
      (readThen input store.settings "bot.token" fun record =>
        .suspended (.loadChatId (recordText printer record)), store)
  | .loadChatId token =>
      match input.problem, getSetting store.settings "bot.chat_id" with
      | some problem, _ => (.ended (.raised problem), store)
      | none, .error error => (.ended (.raised error), store)
      | none, .ok record => loadedOf token (recordText printer record) store
  | .disable =>
      writeThen input store (upsertSetting · "bot.enabled" (.bool false))
        (.ended .written)
  | .store key _ value =>
      writeThen input store (upsertSetting · key value) (.ended .written)
  | .remove key _ =>
      writeThen input store (deleteSetting · key) (.ended .written)

/-- All requests on one store. -/
def botRequests :
    Protocol BotStore BotRequest BotPhase BotInput BotResult where
  enter
    | .configure token chatId => .validate token chatId
    | .status => .statusToken
    | .delete => .deleteToken
    | .test => .testToken
    | .setting key => .setting key
    | .load => .loadEnabled
    | .disable => .disable
    | .store key other value => .store key other value
    | .remove key other => .remove key other
  advance := botAdvance printer

abbrev BotEvent : Type :=
  Event BotRequest BotInput

end Requests

end Tca.BotConfig
