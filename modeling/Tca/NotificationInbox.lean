import Tca.BoundParameters
import Tca.DecisionLog
import Tca.SettingTexts
import Tca.SortedJson

/-!
# The inbox of notifications

Every part of the program reports to the user by a row of `notifications`.  The
repository inserts rows, lists them with filters and marks them as
acknowledged.  The file embeds it with the routes around it and compares the
table with an inbox, a numbered list of alerts whose payloads are values and
whose times are times.
-/

namespace Tca.NotificationInbox

open EncodedTables RowRanking TableRows

/-- What the repository and its routes raise. -/
inductive Problem where
  | raised (error : PyError)
  | notificationsRepositoryError (message : String)
  | notificationPayloadEncodeError (message : String)
  | httpException (status : Nat) (detail : String)
  deriving DecidableEq

/-- Python's floats, its limit on recursion and the message of a
`JSONDecodeError`. -/
structure JsonLibrary where
  floats : FloatLibrary
  recursionLimit : Nat
  describe (text : List Char) : String

section Payloads

variable (library : JsonLibrary)

/-- The numeral or the word of a float. -/
def floatText : PyFloat → List Char
  | .finite value => library.floats.repr (.finite value)
  | .infinite true => "-Infinity".toList
  | .infinite false => "Infinity".toList
  | .notANumber => "NaN".toList

/-- `json.dumps(payload, separators=(",", ":"))`. -/
def payloadEncoder : Json.Encoder PyError PyFloat where
  intText value := (pythonStr value).map String.toList
  floatText value := .ok (floatText library value)

/-- `json.loads`. -/
def payloadDecoder : Json.Decoder PyError PyFloat where
  parseInt := jsonInt
  parseFloat := library.floats.float
  parseConstant name :=
    if name = "NaN".toList then .ok .notANumber
    else .ok (.infinite (name.head? = some '-'))
  depthLimit := library.recursionLimit

/-- `NotificationPayloadEncodeError.for_type`. -/
def payloadEncodeError (notificationType details : String) : Problem :=
  .notificationPayloadEncodeError
    (s!"Notification payload for type '{notificationType}' " ++
      s!"is not JSON-serializable: {details}")

/-- `_encode_payload_json`.  The payload `None` is no text at all. -/
def encodePayloadJson (notificationType : String) (payload : JsonValue) :
    Except Problem (Option (List Char)) :=
  match payload with
  | .null => .ok none
  | payload =>
      if nestsWithin library.recursionLimit payload then
        match (payloadEncoder library).dumps (Json.sortKeys payload) with
        | .ok text => .ok (some text)
        | .error (.valueError details) =>
            .error (payloadEncodeError notificationType details)
        | .error (.typeError details) =>
            .error (payloadEncodeError notificationType details)
        | .error error => .error (.raised error)
      else
        .error (.raised (.recursionError
          "maximum recursion depth exceeded while encoding a JSON object"))

/-- `_decode_payload_json`. -/
def decodePayloadJson (payloadJson : Option (List Char)) :
    Except Problem JsonValue :=
  match payloadJson with
  | none => .ok .null
  | some text =>
      match (payloadDecoder library).loads text with
      | .ok payload => .ok payload
      | .error .malformed =>
          .error (.raised (.valueError (library.describe text)))
      | .error (.raised error) => .error (.raised error)
      | .error (.tooDeep container) =>
          .error (.raised (jsonRecursionError container))

end Payloads

section Rows

/-- A row of `notifications`. -/
structure Row where
  id : Int
  type : String
  severity : String
  message : String
  payloadJson : Option (List Char)
  isAcknowledged : Bool
  acknowledgedAt : Option String
  createdAt : String

abbrev NotificationTable : Type :=
  KeyedTable Row Row.id

/-- What `create` returns. -/
structure NotificationRecord where
  notificationId : Int
  type : String
  severity : String
  message : String
  payload : JsonValue

/-- What is listed. -/
structure NotificationListRecord where
  notificationId : Int
  type : String
  severity : String
  message : String
  payload : JsonValue
  isAcknowledged : Bool
  acknowledgedAt : Option Timestamp
  createdAt : Timestamp

/-- Read the text of a time, in UTC unless it says otherwise. -/
def readDatetime (invalid value : String) : Except Problem Timestamp :=
  match fromisoformat value with
  | some parsed => .ok parsed.readAsUtc
  | none => .error (.notificationsRepositoryError invalid)

/-- `_coerce_datetime` of a text. -/
def coerceDatetime (value : String) : Except Problem Timestamp :=
  readDatetime "Notification row invalid created_at." value

/-- `_coerce_optional_datetime`. -/
def coerceOptionalDatetime (value : Option String) :
    Except Problem (Option Timestamp) :=
  match value with
  | none => .ok none
  | some text =>
      (readDatetime "Notification row invalid acknowledged_at." text).map some

variable (library : JsonLibrary)

/-- `_decode_row`. -/
def decodeRow (row : Row) : Except Problem NotificationRecord := do
  let payload ← decodePayloadJson library row.payloadJson
  return {
    notificationId := row.id
    type := row.type
    severity := row.severity
    message := row.message
    payload }

/-- `_decode_list_row`. -/
def decodeListRow (row : Row) : Except Problem NotificationListRecord := do
  let acknowledgedAt ← coerceOptionalDatetime row.acknowledgedAt
  let createdAt ← coerceDatetime row.createdAt
  let payload ← decodePayloadJson library row.payloadJson
  return {
    notificationId := row.id
    type := row.type
    severity := row.severity
    message := row.message
    payload
    isAcknowledged := row.isAcknowledged
    acknowledgedAt
    createdAt }

end Rows

section Repository

/-- One optional filter; an empty list filters nothing. -/
def admits (wanted : Option (List String)) (value : String) : Bool :=
  match wanted with
  | none => true
  | some [] => true
  | some wanted => value ∈ wanted

/-- The filters of a listing. -/
structure Filters where
  severities : Option (List String)
  types : Option (List String)

def Filters.admit (filters : Filters) (severity type : String) : Bool :=
  admits filters.severities severity && admits filters.types type

/-- The parameters that a listing binds. -/
def Filters.bound (filters : Filters) : Nat :=
  (filters.severities.getD []).length + (filters.types.getD []).length

def tooManyVariables : Problem :=
  .raised (.operationalError "too many SQL variables")

/-- `ORDER BY created_at DESC, id DESC`. -/
def Row.recency (row : Row) : (String ×ₗ Int)ᵒᵈ :=
  OrderDual.toDual (toLex (row.createdAt, row.id))

/-- `SET is_acknowledged = 1, acknowledged_at = COALESCE(acknowledged_at,
CURRENT_TIMESTAMP)`. -/
def Row.acknowledge (now : WallTime) (row : Row) : Row :=
  { row with
    isAcknowledged := true
    acknowledgedAt := some (row.acknowledgedAt.getD (currentTimestamp now)) }

variable (library : JsonLibrary)

/-- `create`. -/
def create (type severity message : String) (payload : JsonValue)
    (now : WallTime) (table : NotificationTable) :
    Except Problem NotificationRecord × NotificationTable :=
  match encodePayloadJson library type payload with
  | .error problem => (.error problem, table)
  | .ok payloadJson =>
      let row : Row := {
        id := nextRowid table.keys
        type, severity, message, payloadJson
        isAcknowledged := false
        acknowledgedAt := none
        createdAt := currentTimestamp now }
      (decodeRow library row, table.insert row (nextRowid_notMem table.keys))

/-- `list_notifications`. -/
def listNotifications (filters : Filters) (table : NotificationTable) :
    Except Problem (List NotificationListRecord) :=
  if filters.bound ≤ maxVariableNumber then
    (orderBy Row.recency
      (table.rows.filter fun row => filters.admit row.severity row.type)).mapM
        (decodeListRow library)
  else .error tooManyVariables

/-- `acknowledge`. -/
def acknowledge (notificationId : Int) (now : WallTime)
    (table : NotificationTable) :
    Except Problem (Option NotificationListRecord) × NotificationTable :=
  if IsSqlInteger notificationId then
    let later := table.updateWhere (fun row => row.id = notificationId)
      (Row.acknowledge now) fun _ => rfl
    ((later.find? notificationId).mapM (decodeListRow library), later)
  else (.error (.raised integerOverflow), table)

def notificationNotFound : Problem :=
  .httpException 404 "Notification not found."

/-- The route that acknowledges one notification. -/
def acknowledgeNotification (notificationId : Int) (now : WallTime)
    (table : NotificationTable) :
    Except Problem NotificationListRecord × NotificationTable :=
  match acknowledge library notificationId now table with
  | (.ok (some record), later) => (.ok record, later)
  | (.ok none, later) =>
      (.error notificationNotFound, later)
  | (.error problem, later) => (.error problem, later)

end Repository

section Calls

inductive Request where
  | create (type severity message : String) (payload : JsonValue)
  | list (filters : Filters)
  | acknowledge (notificationId : Int)

/-- A request and the time at which its statement runs. -/
structure Call where
  request : Request
  now : WallTime

/-- What a call returns or raises. -/
inductive Outcome where
  | created (record : NotificationRecord)
  | listed (records : List NotificationListRecord)
  | acknowledged (record : NotificationListRecord)
  | raised (problem : Problem)

def Outcome.of {Record : Type} (outcome : Record → Outcome) :
    Except Problem Record → Outcome
  | .ok record => outcome record
  | .error problem => .raised problem

/-- Serve a call from the table. -/
def perform (library : JsonLibrary) (call : Call) (table : NotificationTable) :
    Outcome × NotificationTable :=
  match call.request with
  | .create type severity message payload =>
      let (record, later) :=
        create library type severity message payload call.now table
      (.of .created record, later)
  | .list filters =>
      (.of .listed (listNotifications library filters table), table)
  | .acknowledge notificationId =>
      let (record, later) :=
        acknowledgeNotification library notificationId call.now table
      (.of .acknowledged record, later)

/-- The payload of a call can be held by a program and has finite floats. -/
def Call.Carries (library : JsonLibrary) (call : Call) : Prop :=
  match call.request with
  | .create _ _ _ payload =>
      ∃ depth, Json.Faithful library.floats.Prints depth payload
  | .list _ => True
  | .acknowledge _ => True

end Calls

section Inbox

/-- One notification as the user sees it. -/
structure Alert where
  id : Int
  type : String
  severity : String
  message : String
  payload : JsonValue
  createdAt : WallTime
  acknowledgedAt : Option WallTime

/-- The number that the next alert gets. -/
def nextNumber (alerts : List Alert) : Int :=
  alerts.length + 1

/-- The alerts, numbered in the order in which they were raised. -/
structure Inbox where
  alerts : List Alert
  numbered : alerts.map Alert.id =
    (List.range alerts.length).map fun (index : Nat) => (index : Int) + 1

/-- An inbox without alerts. -/
def Inbox.empty : Inbox :=
  ⟨[], rfl⟩

/-- Put an alert behind the others, under the next number. -/
def Inbox.add (inbox : Inbox) (alert : Alert)
    (isNext : alert.id = nextNumber inbox.alerts) : Inbox where
  alerts := inbox.alerts ++ [alert]
  numbered := by
    rw [List.map_append, List.length_append, List.length_singleton,
      List.range_succ, List.map_append, inbox.numbered]
    simp [isNext, nextNumber]

/-- The first acknowledgement counts. -/
def Alert.acknowledge (now : WallTime) (alert : Alert) : Alert :=
  { alert with
    acknowledgedAt := some (alert.acknowledgedAt.getD now.wholeSeconds) }

/-- Acknowledge the alert with the number, if there is one. -/
def Inbox.acknowledge (inbox : Inbox) (id : Int) (now : WallTime) :
    Inbox where
  alerts := inbox.alerts.map fun alert =>
    if alert.id = id then alert.acknowledge now else alert
  numbered := by
    rw [List.length_map, ← inbox.numbered, List.map_map]
    apply List.map_congr_left
    intro alert _
    rw [Function.comp_apply]
    split <;> rfl

/-- The latest alerts come first. -/
def Alert.recency (alert : Alert) : (Nat ×ₗ Int)ᵒᵈ :=
  OrderDual.toDual (toLex (alert.createdAt.micros, alert.id))

def Alert.record (alert : Alert) : NotificationRecord where
  notificationId := alert.id
  type := alert.type
  severity := alert.severity
  message := alert.message
  payload := alert.payload

/-- What is shown of an alert; its times are in UTC. -/
def Alert.listRecord (alert : Alert) : NotificationListRecord where
  notificationId := alert.id
  type := alert.type
  severity := alert.severity
  message := alert.message
  payload := alert.payload
  isAcknowledged := alert.acknowledgedAt.isSome
  acknowledgedAt := alert.acknowledgedAt.map fun time =>
    ⟨time, some UtcOffset.utc⟩
  createdAt := ⟨alert.createdAt, some UtcOffset.utc⟩

/-- The alerts that pass the filters, the latest first. -/
def Inbox.select (inbox : Inbox) (filters : Filters) : List Alert :=
  orderBy Alert.recency
    (inbox.alerts.filter fun alert => filters.admit alert.severity alert.type)

/-- The alert of a creation. -/
def newAlert (alerts : List Alert) (type severity message : String)
    (payload : JsonValue) (now : WallTime) : Alert where
  id := nextNumber alerts
  type := type
  severity := severity
  message := message
  payload := Json.sortKeys payload
  createdAt := now.wholeSeconds
  acknowledgedAt := none

/-- What a call means for the inbox. -/
def specify (library : JsonLibrary) (call : Call) (inbox : Inbox) :
    Outcome × Inbox :=
  match call.request with
  | .create type severity message payload =>
      match encodePayloadJson library type payload with
      | .error problem => (.raised problem, inbox)
      | .ok _ =>
          let alert :=
            newAlert inbox.alerts type severity message payload call.now
          (.created alert.record, inbox.add alert rfl)
  | .list filters =>
      if filters.bound ≤ maxVariableNumber then
        (.listed ((inbox.select filters).map Alert.listRecord), inbox)
      else (.raised tooManyVariables, inbox)
  | .acknowledge notificationId =>
      if IsSqlInteger notificationId then
        let later := inbox.acknowledge notificationId call.now
        match later.alerts.find? fun alert => alert.id = notificationId with
        | some alert => (.acknowledged alert.listRecord, later)
        | none => (.raised notificationNotFound, later)
      else (.raised (.raised integerOverflow), inbox)

end Inbox

section Payloads

variable {library : JsonLibrary}

theorem payloadEncoder_readBy :
    (payloadEncoder library).ReadBy (payloadDecoder library) :=
  fun value text printed =>
    @jsonEncoder_readBy (fun name => .ok name) 0 value text printed

theorem payloadEncoder_floatsReadBy (lawful : library.floats.Lawful) :
    (payloadEncoder library).FloatsReadBy (payloadDecoder library)
      library.floats.Prints := by
  rintro value text ⟨isDouble, isFinite⟩ printed
  cases value with
  | finite value =>
      obtain rfl := Except.ok.inj printed
      exact lawful (.finite value) isDouble isFinite
  | infinite negative => cases isFinite
  | notANumber => cases isFinite

/-- A document that nests within a limit is faithful to that depth. -/
theorem faithful_of_nests {isFloat : PyFloat → Prop} {depth : Nat}
    {value : JsonValue} (faithful : Json.Faithful isFloat depth value)
    {limit : Nat} (nests : nestsWithin limit value = true) :
    Json.Faithful isFloat limit value := by
  induction limit generalizing depth value with
  | zero =>
      cases value with
      | list items => cases nests
      | object members => cases nests
      | null => simp only [Json.Faithful]
      | bool value => simp only [Json.Faithful]
      | int value => simp only [Json.Faithful]
      | float value => simpa only [Json.Faithful] using faithful
      | str text => simpa only [Json.Faithful] using faithful
  | succ limit ih =>
      cases value with
      | list items =>
          cases depth with
          | zero => cases faithful
          | succ depth =>
              intro item member
              exact ih (faithful item member)
                (List.all_eq_true.mp nests item member)
      | object members =>
          cases depth with
          | zero => cases faithful
          | succ depth =>
              intro member isMember
              exact ⟨(faithful member isMember).1,
                ih (faithful member isMember).2
                  (List.all_eq_true.mp nests member isMember)⟩
      | null => simp only [Json.Faithful]
      | bool value => simp only [Json.Faithful]
      | int value => simp only [Json.Faithful]
      | float value => simpa only [Json.Faithful] using faithful
      | str text => simpa only [Json.Faithful] using faithful

/-- A payload that has a text was printed with its keys sorted. -/
theorem encodePayloadJson_cases {notificationType : String}
    {payload : JsonValue} {payloadJson : Option (List Char)}
    (encoded : encodePayloadJson library notificationType payload =
      .ok payloadJson) :
    (payload = .null ∧ payloadJson = none) ∨
      ∃ text, payloadJson = some text ∧
        nestsWithin library.recursionLimit payload = true ∧
        (payloadEncoder library).dumps (Json.sortKeys payload) = .ok text := by
  unfold encodePayloadJson at encoded
  split at encoded
  · exact .inl ⟨rfl, (Except.ok.inj encoded).symm⟩
  · split at encoded
    · rename_i nests
      split at encoded
      · rename_i text printed
        exact .inr ⟨text, (Except.ok.inj encoded).symm, nests, printed⟩
      · cases encoded
      · cases encoded
      · cases encoded
    · cases encoded

/-- What was stored is read back, with its keys sorted. -/
theorem decodePayloadJson_encoded (lawful : library.floats.Lawful)
    {notificationType : String} {depth : Nat} {payload : JsonValue}
    (faithful : Json.Faithful library.floats.Prints depth payload)
    {payloadJson : Option (List Char)}
    (encoded : encodePayloadJson library notificationType payload =
      .ok payloadJson) :
    decodePayloadJson library payloadJson = .ok (Json.sortKeys payload) := by
  rcases encodePayloadJson_cases encoded with
    ⟨rfl, rfl⟩ | ⟨text, rfl, nests, printed⟩
  · rfl
  · have sorted : Json.Faithful library.floats.Prints library.recursionLimit
        (Json.sortKeys payload) :=
      (faithful_of_nests faithful nests).sortKeys
    have loaded : (payloadDecoder library).loads text =
        .ok (Json.sortKeys payload) :=
      Json.loads_dumps_of_faithful payloadEncoder_readBy
        (payloadEncoder_floatsReadBy lawful) sorted printed
    rw [decodePayloadJson, loaded]

end Payloads

section Refinement

/-- The text of a time of the database. -/
def timeText (time : WallTime) : String :=
  Timestamp.isoformat ⟨time, none⟩

/-- The row stores the alert. -/
structure Stores (library : JsonLibrary) (row : Row) (alert : Alert) :
    Prop where
  id : row.id = alert.id
  type : row.type = alert.type
  severity : row.severity = alert.severity
  message : row.message = alert.message
  payload : decodePayloadJson library row.payloadJson = .ok alert.payload
  isAcknowledged : row.isAcknowledged = alert.acknowledgedAt.isSome
  acknowledgedAt : row.acknowledgedAt = alert.acknowledgedAt.map timeText
  createdAt : row.createdAt = timeText alert.createdAt

/-- The rows of the table store the alerts of the inbox, one by one. -/
def StandsFor (library : JsonLibrary) (table : NotificationTable)
    (inbox : Inbox) : Prop :=
  List.Forall₂ (Stores library) table.rows inbox.alerts

variable {library : JsonLibrary}

section Times

theorem readDatetime_timeText (invalid : String) (time : WallTime) :
    readDatetime invalid (timeText time) =
      .ok ⟨time, some UtcOffset.utc⟩ := by
  rw [readDatetime, timeText, fromisoformat_isoformat]
  rfl

theorem timeText_lt_iff {first second : WallTime} :
    timeText first < timeText second ↔ first.micros < second.micros := by
  constructor
  · intro earlier
    by_contra notEarlier
    have ordered := @Timestamp.isoformat_le ⟨second, none⟩
      ⟨first, none⟩ rfl (Nat.le_of_not_lt notEarlier)
    exact ordered.not_gt earlier
  · intro earlier
    exact @Timestamp.isoformat_lt ⟨first, none⟩ ⟨second, none⟩ earlier

theorem timeText_eq_iff {first second : WallTime} :
    timeText first = timeText second ↔ first.micros = second.micros := by
  constructor
  · intro same
    rcases Nat.lt_trichotomy first.micros second.micros with
      earlier | same | later
    · exact absurd same (timeText_lt_iff.mpr earlier).ne
    · exact same
    · exact absurd same (timeText_lt_iff.mpr later).ne'
  · intro same
    have times : first = second := by
      cases first
      cases second
      cases same
      rfl
    rw [times]

end Times

section Reading

variable {row : Row} {alert : Alert}

theorem Stores.decodeRow (stores : Stores library row alert) :
    decodeRow library row = .ok alert.record := by
  rw [NotificationInbox.decodeRow, stores.payload, stores.id, stores.type,
    stores.severity, stores.message]
  rfl

theorem Stores.coerceOptionalDatetime (stores : Stores library row alert) :
    coerceOptionalDatetime row.acknowledgedAt =
      .ok (alert.acknowledgedAt.map fun time =>
        ⟨time, some UtcOffset.utc⟩) := by
  rw [stores.acknowledgedAt]
  cases alert.acknowledgedAt with
  | none => rfl
  | some time =>
      simp only [Option.map_some, NotificationInbox.coerceOptionalDatetime,
        readDatetime_timeText]
      rfl

theorem Stores.decodeListRow (stores : Stores library row alert) :
    decodeListRow library row = .ok alert.listRecord := by
  have created : coerceDatetime row.createdAt =
      .ok ⟨alert.createdAt, some UtcOffset.utc⟩ := by
    rw [stores.createdAt]
    exact readDatetime_timeText _ _
  rw [NotificationInbox.decodeListRow, stores.coerceOptionalDatetime, created,
    stores.payload, stores.id, stores.type, stores.severity, stores.message,
    stores.isAcknowledged]
  rfl

/-- Rows and the alerts that they store are sorted alike. -/
theorem stores_sameOrder :
    SameOrder Row.recency Alert.recency (Stores library) := by
  intro first second firstAlert secondAlert stores storesSecond
  simp only [Row.recency, Alert.recency, OrderDual.toDual_le_toDual,
    Prod.Lex.toLex_le_toLex]
  rw [stores.createdAt, storesSecond.createdAt, stores.id, storesSecond.id,
    timeText_lt_iff, timeText_eq_iff]

end Reading

section Steps

variable {table : NotificationTable} {inbox : Inbox}

theorem nextRowid_range (count : Nat) :
    nextRowid ((List.range count).map fun (index : Nat) => (index : Int) + 1) =
      count + 1 := by
  induction count with
  | zero => rfl
  | succ count ih =>
      rw [List.range_succ, List.map_append, List.map_singleton, ← ih,
        nextRowid_append, ih]
      simp

theorem map_id_of_stores {rows : List Row} {alerts : List Alert}
    (stored : List.Forall₂ (Stores library) rows alerts) :
    rows.map Row.id = alerts.map Alert.id := by
  induction stored with
  | nil => rfl
  | cons first _ ih => rw [List.map_cons, List.map_cons, first.id, ih]

/-- Row ids are the numbers of the alerts. -/
theorem StandsFor.nextRowid (stands : StandsFor library table inbox) :
    nextRowid table.keys = nextNumber inbox.alerts := by
  have ids : table.keys = inbox.alerts.map Alert.id := map_id_of_stores stands
  rw [ids, inbox.numbered, nextRowid_range]
  rfl

/-- The outcomes are the same and the states afterwards belong together. -/
def Agrees (library : JsonLibrary) (call : Call) (table : NotificationTable)
    (inbox : Inbox) : Prop :=
  (perform library call table).1 = (specify library call inbox).1 ∧
    StandsFor library (perform library call table).2
      (specify library call inbox).2

theorem StandsFor.create (stands : StandsFor library table inbox)
    (lawful : library.floats.Lawful) {type severity message : String}
    {payload : JsonValue} {depth : Nat}
    (faithful : Json.Faithful library.floats.Prints depth payload)
    (now : WallTime) :
    Agrees library ⟨.create type severity message payload, now⟩ table
      inbox := by
  unfold Agrees perform specify NotificationInbox.create
  dsimp only
  cases encoded : encodePayloadJson library type payload with
  | error problem => exact ⟨rfl, stands⟩
  | ok payloadJson =>
      have stores : Stores library
          { id := TableRows.nextRowid table.keys
            type, severity, message, payloadJson
            isAcknowledged := false
            acknowledgedAt := none
            createdAt := currentTimestamp now }
          (newAlert inbox.alerts type severity message payload now) := {
        id := stands.nextRowid
        type := rfl
        severity := rfl
        message := rfl
        payload := decodePayloadJson_encoded lawful faithful encoded
        isAcknowledged := rfl
        acknowledgedAt := rfl
        createdAt := rfl }
      constructor
      · exact congrArg (Outcome.of .created) stores.decodeRow
      · exact List.rel_append stands (.cons stores .nil)

theorem StandsFor.selected (stands : StandsFor library table inbox)
    (filters : Filters) :
    List.Forall₂ (Stores library)
      (orderBy Row.recency
        (table.rows.filter fun row => filters.admit row.severity row.type))
      (inbox.select filters) := by
  apply stores_sameOrder.orderBy
  refine List.rel_filter ?_ stands
  intro row alert stores
  show filters.admit row.severity row.type = true ↔
    filters.admit alert.severity alert.type = true
  rw [stores.severity, stores.type]

theorem mapM_decodeListRow {rows : List Row} {alerts : List Alert}
    (stored : List.Forall₂ (Stores library) rows alerts) :
    rows.mapM (decodeListRow library) = .ok (alerts.map Alert.listRecord) := by
  induction stored with
  | nil => rfl
  | cons first _ ih =>
      rw [List.mapM_cons, first.decodeListRow, ih]
      rfl

theorem StandsFor.list (stands : StandsFor library table inbox)
    (filters : Filters) (now : WallTime) :
    Agrees library ⟨.list filters, now⟩ table inbox := by
  unfold Agrees perform specify listNotifications
  dsimp only
  split
  · rw [mapM_decodeListRow (stands.selected filters)]
    exact ⟨rfl, stands⟩
  · exact ⟨rfl, stands⟩

theorem Stores.acknowledge {row : Row} {alert : Alert}
    (stores : Stores library row alert) (now : WallTime) :
    Stores library (row.acknowledge now) (alert.acknowledge now) where
  id := stores.id
  type := stores.type
  severity := stores.severity
  message := stores.message
  payload := stores.payload
  isAcknowledged := rfl
  acknowledgedAt := by
    have before := stores.acknowledgedAt
    unfold Row.acknowledge Alert.acknowledge
    dsimp only
    rw [before]
    cases alert.acknowledgedAt <;> rfl
  createdAt := stores.createdAt

theorem StandsFor.acknowledged (stands : StandsFor library table inbox)
    (id : Int) (now : WallTime) :
    StandsFor library
      (table.updateWhere (fun row => row.id = id) (Row.acknowledge now)
        fun _ => rfl)
      (inbox.acknowledge id now) := by
  refine List.rel_map ?_ stands
  intro row alert stores
  dsimp only
  by_cases addressed : alert.id = id
  · rw [if_pos (decide_eq_true (stores.id.trans addressed)),
      if_pos addressed]
    exact stores.acknowledge now
  · have passedOver : ¬ decide (row.id = id) = true := by
      rwa [decide_eq_true_iff, stores.id]
    rw [if_neg passedOver, if_neg addressed]
    exact stores

theorem StandsFor.find? (stands : StandsFor library table inbox) (id : Int) :
    Option.Rel (Stores library) (table.find? id)
      (inbox.alerts.find? fun alert => alert.id = id) :=
  find?_of_forall₂ stands fun row alert stores => by rw [stores.id]

theorem StandsFor.acknowledge (stands : StandsFor library table inbox)
    (notificationId : Int) (now : WallTime) :
    Agrees library ⟨.acknowledge notificationId, now⟩ table inbox := by
  unfold Agrees perform specify acknowledgeNotification
    NotificationInbox.acknowledge
  dsimp only
  by_cases fits : IsSqlInteger notificationId
  · rw [if_pos fits, if_pos fits]
    have later := stands.acknowledged notificationId now
    have found := later.find? notificationId
    revert found
    generalize KeyedTable.find? _ notificationId = foundRow
    generalize List.find? _ _ = foundAlert
    rintro (stores | -)
    · rename_i row alert
      rw [show Option.mapM (decodeListRow library) (some row) =
        some <$> decodeListRow library row from rfl, stores.decodeListRow]
      exact ⟨rfl, later⟩
    · exact ⟨rfl, later⟩
  · rw [if_neg fits, if_neg fits]
    exact ⟨rfl, stands⟩

theorem perform_specify (lawful : library.floats.Lawful) (call : Call)
    (carries : call.Carries library)
    (stands : StandsFor library table inbox) :
    Agrees library call table inbox := by
  obtain ⟨request, now⟩ := call
  cases request with
  | create type severity message payload =>
      obtain ⟨depth, faithful⟩ := carries
      exact stands.create lawful faithful now
  | list filters => exact stands.list filters now
  | acknowledge notificationId => exact stands.acknowledge notificationId now

end Steps

end Refinement

/-- The table of notifications is an inbox.  In every run of creations,
listings and acknowledgements, whose payloads have finite floats, all that is
returned and raised is what the inbox would give: numbered alerts, each with
the payload that was handed over and the time of its first acknowledgement, the
latest first. -/
theorem notifications_refine_inbox {library : JsonLibrary}
    (lawful : library.floats.Lawful) {calls : List Call}
    (carried : ∀ call ∈ calls, call.Carries library)
    {table : NotificationTable} {inbox : Inbox}
    (stands : StandsFor library table inbox) :
    (outcomes (perform library) calls table).1 =
        (outcomes (specify library) calls inbox).1 ∧
      StandsFor library (outcomes (perform library) calls table).2
        (outcomes (specify library) calls inbox).2 :=
  outcomes_agree
    (fun call _ _ carries holds => perform_specify lawful call carries holds)
    carried stands

def sampleLibrary : JsonLibrary where
  floats := sampleFloats
  recursionLimit := 1000
  describe _ := "Expecting value: line 1 column 1 (char 0)"

/-- A call in the first hours of year one, given in seconds. -/
def sampleCall (seconds : Nat) (early : seconds < 86400) (request : Request) :
    Call where
  request := request
  now := ⟨seconds * 1000000, by
    have : wallLimit = 3652059 * 86400000000 := rfl
    omega⟩

/-- Two reports, acknowledgements of the first one and of no one, and a
listing of what is urgent. -/
def sampleCalls : List Call :=
  [sampleCall 60 (by decide) (.create "ingest.account_risk" "high"
      "Account 7 paused." (.object [(.ofChars ['n'], .int 3),
        (.ofChars ['a'], .float sampleDouble)])),
    sampleCall 61 (by decide) (.create "backup_failure" "medium"
      "Nightly backup failed." .null),
    sampleCall 70 (by decide) (.acknowledge 1),
    sampleCall 80 (by decide) (.acknowledge 1),
    sampleCall 90 (by decide) (.acknowledge 5),
    sampleCall 99 (by decide) (.list ⟨some ["high"], none⟩)]

/-- A table without rows. -/
def emptyTable : NotificationTable :=
  ⟨[], List.nodup_nil⟩

theorem standsFor_empty (library : JsonLibrary) :
    StandsFor library emptyTable Inbox.empty :=
  List.Forall₂.nil

theorem sampleCalls_carried :
    ∀ call ∈ sampleCalls, call.Carries sampleLibrary := by
  intro call member
  simp only [sampleCalls, List.mem_cons, List.not_mem_nil, or_false] at member
  rcases member with rfl | rfl | rfl | rfl | rfl | rfl
  · refine ⟨1, ?_⟩
    intro member isMember
    rcases List.mem_cons.mp isMember with rfl | isMember
    · exact ⟨Json.Text.joined_ofChars _, trivial⟩
    · obtain rfl := List.mem_singleton.mp isMember
      exact ⟨Json.Text.joined_ofChars _, .inl rfl, rfl⟩
  · exact ⟨0, trivial⟩
  · trivial
  · trivial
  · trivial
  · trivial

theorem notifications_refine_inbox_sample :
    (outcomes (perform sampleLibrary) sampleCalls emptyTable).1 =
      (outcomes (specify sampleLibrary) sampleCalls Inbox.empty).1 :=
  (notifications_refine_inbox sampleFloats_lawful sampleCalls_carried
    (standsFor_empty sampleLibrary)).1

end Tca.NotificationInbox
