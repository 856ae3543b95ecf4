import Tca.BotDeliveryLoop
import Tca.FloodWaits
import Tca.NotificationInbox

/-!
# What the inbox shows after a run

The alerts of a run can be read off its calls without following the table: each
creation that succeeds raises one alert, under the number of alerts so far, and
the first call behind it that acknowledges this number gives its time.  While
the clock does not go back, a listing shows these alerts in reverse.  The parts
of the program that report something have models of their own, in which they
append rows of documents; these rows are the rows of the table.
-/

namespace Tca.NotificationInbox

open EncodedTables RowRanking TableRows

section History

/-- The call acknowledges the alert with the number. -/
def Call.acknowledges (id : Int) (call : Call) : Bool :=
  match call.request with
  | .create _ _ _ _ => false
  | .list _ => false
  | .acknowledge notificationId => notificationId = id ∧ IsSqlInteger id

/-- When the calls first acknowledge the alert with the number. -/
def firstAcknowledgement (id : Int) (calls : List Call) : Option WallTime :=
  (calls.find? (Call.acknowledges id)).map fun call => call.now.wholeSeconds

/-- The alerts that the calls raise, from a number on.  An alert is
acknowledged by the calls behind it. -/
def alertsOf (library : JsonLibrary) : Int → List Call → List Alert
  | _, [] => []
  | number, call :: calls =>
      match call.request with
      | .create type severity message payload =>
          match encodePayloadJson library type payload with
          | .error _ => alertsOf library number calls
          | .ok _ =>
              { id := number
                type, severity, message
                payload := Json.sortKeys payload
                createdAt := call.now.wholeSeconds
                acknowledgedAt := firstAcknowledgement number calls } ::
                alertsOf library (number + 1) calls
      | .list _ => alertsOf library number calls
      | .acknowledge _ => alertsOf library number calls

/-- An alert after more calls. -/
def Alert.settle (calls : List Call) (alert : Alert) : Alert :=
  { alert with
    acknowledgedAt :=
      alert.acknowledgedAt.or (firstAcknowledgement alert.id calls) }

variable {library : JsonLibrary} {calls : List Call} {call : Call}

theorem acknowledges_iff {id notificationId : Int} {now : WallTime} :
    Call.acknowledges id ⟨.acknowledge notificationId, now⟩ = true ↔
      notificationId = id ∧ IsSqlInteger id := by
  rw [Call.acknowledges, decide_eq_true_iff]

theorem firstAcknowledgement_of_acknowledges {id : Int}
    (acknowledges : call.acknowledges id = true) :
    firstAcknowledgement id (call :: calls) =
      some call.now.wholeSeconds := by
  rw [firstAcknowledgement, List.find?_cons_of_pos acknowledges,
    Option.map_some]

theorem firstAcknowledgement_of_other {id : Int}
    (other : ¬ call.acknowledges id = true) :
    firstAcknowledgement id (call :: calls) =
      firstAcknowledgement id calls := by
  rw [firstAcknowledgement, firstAcknowledgement,
    List.find?_cons_of_neg other]

theorem Alert.settle_of_other {alert : Alert}
    (other : ¬ call.acknowledges alert.id = true) :
    alert.settle (call :: calls) = alert.settle calls := by
  rw [settle, settle, firstAcknowledgement_of_other other]

/-- The time of the call is lost if the alert was acknowledged before it. -/
theorem Alert.settle_acknowledge {alert : Alert}
    (acknowledges : call.acknowledges alert.id = true) :
    (alert.acknowledge call.now).settle calls =
      alert.settle (call :: calls) := by
  rw [settle, settle, firstAcknowledgement_of_acknowledges acknowledges]
  unfold Alert.acknowledge
  cases alert.acknowledgedAt <;> rfl

theorem Inbox.settle_acknowledge (inbox : Inbox) {id : Int}
    (fits : IsSqlInteger id) (now : WallTime) :
    (inbox.acknowledge id now).alerts.map (Alert.settle calls) =
      inbox.alerts.map (Alert.settle (⟨.acknowledge id, now⟩ :: calls)) := by
  rw [acknowledge, List.map_map]
  apply List.map_congr_left
  intro alert _
  rw [Function.comp_apply]
  by_cases addressed : alert.id = id
  · have acknowledges : Call.acknowledges alert.id
        ⟨.acknowledge id, now⟩ = true :=
      acknowledges_iff.mpr ⟨addressed.symm, addressed ▸ fits⟩
    rw [if_pos addressed, ← Alert.settle_acknowledge acknowledges]
  · rw [if_neg addressed, Alert.settle_of_other]
    intro acknowledges
    exact addressed (acknowledges_iff.mp acknowledges).1.symm

/-- Calls that acknowledge nothing leave all alerts alone. -/
theorem map_settle_of_other {alerts : List Alert}
    (other : ∀ id, Call.acknowledges id call = false) :
    alerts.map (Alert.settle (call :: calls)) =
      alerts.map (Alert.settle calls) := by
  apply List.map_congr_left
  intro alert _
  apply Alert.settle_of_other
  rw [other]
  exact Bool.false_ne_true

theorem nextNumber_append (alerts : List Alert) (alert : Alert) :
    nextNumber (alerts ++ [alert]) = nextNumber alerts + 1 := by
  simp [nextNumber]

theorem Inbox.next_acknowledge (inbox : Inbox) (id : Int) (now : WallTime) :
    nextNumber (inbox.acknowledge id now).alerts =
      nextNumber inbox.alerts := by
  simp [nextNumber, acknowledge]

/-- The alerts after a run: those of before, acknowledged by the run, and those
that it raises. -/
theorem alerts_after (inbox : Inbox) :
    (outcomes (specify library) calls inbox).2.alerts =
      inbox.alerts.map (Alert.settle calls) ++
        alertsOf library (nextNumber inbox.alerts) calls := by
  induction calls generalizing inbox with
  | nil =>
      have settled : Alert.settle [] = id := by
        funext alert
        simp [Alert.settle, firstAcknowledgement]
      simp [outcomes, alertsOf, settled]
  | cons call calls ih =>
      obtain ⟨request, now⟩ := call
      rw [outcomes]
      show (outcomes (specify library) calls _).2.alerts = _
      rw [ih]
      cases request with
      | create type severity message payload =>
          rw [map_settle_of_other fun _ => rfl]
          cases encoded : encodePayloadJson library type payload with
          | error problem => simp only [specify, alertsOf, encoded]
          | ok payloadJson =>
              simp only [specify, alertsOf, encoded]
              unfold Inbox.add
              dsimp only
              rw [nextNumber_append, List.map_append, List.append_assoc]
              rfl
      | list filters =>
          rw [map_settle_of_other fun _ => rfl]
          simp only [specify, alertsOf]
          split <;> rfl
      | acknowledge id =>
          simp only [specify, alertsOf]
          by_cases fits : IsSqlInteger id
          · rw [if_pos fits, ← inbox.settle_acknowledge fits,
              ← inbox.next_acknowledge id now]
            split <;> rfl
          · rw [if_neg fits, map_settle_of_other]
            intro other
            rw [Bool.eq_false_iff]
            intro acknowledges
            obtain ⟨rfl, otherFits⟩ := acknowledges_iff.mp acknowledges
            exact fits otherFits

end History

section Order

variable {library : JsonLibrary} {calls : List Call}

theorem alertsOf_id_le {number : Int} {alert : Alert}
    (raised : alert ∈ alertsOf library number calls) :
    number ≤ alert.id := by
  induction calls generalizing number with
  | nil => cases raised
  | cons call calls ih =>
      unfold alertsOf at raised
      split at raised
      · split at raised
        · exact ih raised
        · rcases List.mem_cons.mp raised with rfl | later
          · exact le_refl number
          · have := ih later
            omega
      · exact ih raised
      · exact ih raised

/-- An alert is raised at the time of its call. -/
theorem alertsOf_createdAt {number : Int} {alert : Alert}
    (raised : alert ∈ alertsOf library number calls) :
    ∃ call ∈ calls, alert.createdAt = call.now.wholeSeconds := by
  induction calls generalizing number with
  | nil => cases raised
  | cons call calls ih =>
      have behind : ∀ {number}, alert ∈ alertsOf library number calls →
          ∃ other ∈ call :: calls,
            alert.createdAt = other.now.wholeSeconds := by
        intro number later
        obtain ⟨other, member, isCreated⟩ := ih later
        exact ⟨other, List.mem_cons_of_mem _ member, isCreated⟩
      unfold alertsOf at raised
      split at raised
      · split at raised
        · exact behind raised
        · rcases List.mem_cons.mp raised with rfl | later
          · exact ⟨call, List.mem_cons_self, rfl⟩
          · exact behind later
      · exact behind raised
      · exact behind raised

/-- The second alert was raised behind the first one. -/
def Alert.Before (first second : Alert) : Prop :=
  first.createdAt.micros ≤ second.createdAt.micros ∧ first.id < second.id

theorem wholeSeconds_le {first second : WallTime}
    (ordered : first.micros ≤ second.micros) :
    first.wholeSeconds.micros ≤ second.wholeSeconds.micros := by
  show first.micros / 1000000 * 1000000 ≤ second.micros / 1000000 * 1000000
  omega

/-- While the clock does not go back, neither do the alerts. -/
theorem alertsOf_pairwise
    (forward : calls.Pairwise fun first second =>
      first.now.micros ≤ second.now.micros) (number : Int) :
    (alertsOf library number calls).Pairwise Alert.Before := by
  induction calls generalizing number with
  | nil => exact .nil
  | cons call calls ih =>
      obtain ⟨first, others⟩ := List.pairwise_cons.mp forward
      unfold alertsOf
      split
      · split
        · exact ih others number
        · refine List.pairwise_cons.mpr ⟨?_, ih others (number + 1)⟩
          intro alert raised
          obtain ⟨other, member, isCreated⟩ := alertsOf_createdAt raised
          constructor
          · rw [isCreated]
            exact wholeSeconds_le (first other member)
          · exact Int.lt_of_add_one_le (alertsOf_id_le raised)
      · exact ih others number
      · exact ih others number

theorem Alert.Before.recency_le {first second : Alert}
    (before : first.Before second) : second.recency ≤ first.recency := by
  rw [recency, recency, OrderDual.toDual_le_toDual, Prod.Lex.toLex_le_toLex]
  rcases before.1.lt_or_eq with earlier | same
  · exact .inl earlier
  · exact .inr ⟨same, before.2.le⟩

/-- Alerts one behind the other are shown in reverse. -/
theorem orderBy_recency {alerts : List Alert}
    (ordered : alerts.Pairwise Alert.Before) :
    orderBy Alert.recency alerts = alerts.reverse := by
  have permuted : (orderBy Alert.recency alerts).Perm alerts.reverse :=
    (orderBy_perm _ alerts).trans (List.reverse_perm alerts).symm
  apply permuted.eq_of_pairwise _ (orderBy_pairwise _ alerts)
    (List.pairwise_reverse.mpr (ordered.imp Alert.Before.recency_le))
  intro first second isFirst isSecond notAfter notBefore
  have sameId : first.id = second.id := by
    have same := le_antisymm notAfter notBefore
    exact congrArg (fun key => (ofLex (OrderDual.ofDual key)).2) same
  have distinct : (alerts.map Alert.id).Nodup :=
    List.pairwise_map.mpr (ordered.imp fun before => before.2.ne)
  exact TableRows.eq_of_key_eq distinct
    ((mem_orderBy _).mp isFirst) (List.mem_reverse.mp isSecond) sameId

end Order

/-- What a listing shows.  After every run from an empty table in which the
clock does not go back, a listing returns the alerts of the run that pass its
filters, the latest first: one for each creation that succeeded, numbered from
one, with its payload, and acknowledged when a call behind it first said so. -/
theorem listing_shows_history {library : JsonLibrary}
    (lawful : library.floats.Lawful) {calls : List Call}
    (carried : ∀ call ∈ calls, call.Carries library)
    (forward : calls.Pairwise fun first second =>
      first.now.micros ≤ second.now.micros)
    {filters : Filters} (few : filters.bound ≤ maxVariableNumber) :
    listNotifications library filters
        (outcomes (perform library) calls emptyTable).2 =
      .ok (((alertsOf library 1 calls).filter fun alert =>
        filters.admit alert.severity alert.type).reverse.map
          Alert.listRecord) := by
  have later := (notifications_refine_inbox lawful carried
    (standsFor_empty library)).2
  have alerts : (outcomes (specify library) calls Inbox.empty).2.alerts =
      alertsOf library 1 calls :=
    alerts_after Inbox.empty
  rw [listNotifications, if_pos few,
    mapM_decodeListRow (later.selected filters), Inbox.select, alerts,
    orderBy_recency]
  exact (alertsOf_pairwise forward 1).filter _

/-- The first report was acknowledged after seventy seconds. -/
theorem listing_shows_history_sample :
    (listNotifications sampleLibrary ⟨some ["high"], none⟩
        (outcomes (perform sampleLibrary) sampleCalls emptyTable).2).map
          (fun records => records.map fun record =>
            (record.notificationId,
              record.acknowledgedAt.map (·.wall.micros))) =
      .ok [(1, some 70000000)] := by
  have forward : sampleCalls.Pairwise fun first second =>
      first.now.micros ≤ second.now.micros := by
    decide
  have few : Filters.bound ⟨some ["high"], none⟩ ≤ maxVariableNumber := by
    decide
  rw [@listing_shows_history sampleLibrary sampleFloats_lawful sampleCalls
    sampleCalls_carried forward ⟨some ["high"], none⟩ few]
  rfl

section Senders

/-- The payload column, as the models of the senders have it. -/
def columnValue : JsonValue → Option PyValue
  | .null => none
  | payload => pyValue? payload

/-- Append a report, as the models of the senders do. -/
def report (type severity message : String) (payloadJson : Option PyValue)
    (notifications : List NotificationRow) : List NotificationRow :=
  notifications ++ [⟨nextRowid (notifications.map (·.id)), type, severity,
    message, payloadJson⟩]

theorem createNotification_eq_report (store : IngestStore)
    (type severity message : String) (payload : PyValue) :
    (store.createNotification type severity message payload).notifications =
      report type severity message (some payload) store.notifications :=
  rfl

theorem purgeNotification_eq_report (db : Database) (channelId : Int)
    (channel : ChannelRow) :
    (db.addNotification
        (db.purgeNotification channelId channel)).notifications =
      report "channel_purged" "low" s!"Channel {channelId} purged."
        (db.purgeNotification channelId channel).payloadJson
        db.notifications :=
  rfl

theorem handleTokenInvalid_eq_report (db : Database) (chatId : String) :
    (db.handleTokenInvalid chatId).notifications =
      report "bot_token_invalid" "error"
        "Telegram bot token is invalid. Bot delivery has been disabled."
        (some (.dict [("chat_id", .str chatId)])) db.notifications :=
  rfl

theorem deliveryFailed_eq_report (db : Database) (clusterId : Int)
    (error : String) :
    (db.addNotification
        (db.deliveryFailedNotification clusterId error)).notifications =
      report "bot_delivery_failed" "warning"
        s!"Failed to deliver cluster {clusterId}: {error}"
        (some (.dict [("cluster_id", .int clusterId), ("error", .str error)]))
        db.notifications :=
  rfl

/-- What the models of the senders make of a call. -/
def senderStep (library : JsonLibrary) (call : Call)
    (notifications : List NotificationRow) : List NotificationRow :=
  match call.request with
  | .create type severity message payload =>
      match encodePayloadJson library type payload with
      | .error _ => notifications
      | .ok _ =>
          report type severity message (columnValue payload) notifications
  | .list _ => notifications
  | .acknowledge _ => notifications

/-- The text of the row is that of the document. -/
structure ReadsAs (library : JsonLibrary) (row : Row)
    (notification : NotificationRow) : Prop where
  id : row.id = notification.id
  type : row.type = notification.type
  severity : row.severity = notification.severity
  message : row.message = notification.message
  payloadJson : ∃ payload,
    columnValue payload = notification.payloadJson ∧
      encodePayloadJson library row.type payload = .ok row.payloadJson

variable {library : JsonLibrary} {table : NotificationTable}
  {notifications : List NotificationRow}

theorem map_id_of_readsAs {rows : List Row}
    (same : List.Forall₂ (ReadsAs library) rows notifications) :
    rows.map Row.id = notifications.map (·.id) := by
  induction same with
  | nil => rfl
  | cons first _ ih => rw [List.map_cons, List.map_cons, first.id, ih]

theorem ReadsAs.acknowledge {row : Row} {notification : NotificationRow}
    (reads : ReadsAs library row notification) (now : WallTime) :
    ReadsAs library (row.acknowledge now) notification :=
  ⟨reads.id, reads.type, reads.severity, reads.message, reads.payloadJson⟩

theorem readsAs_acknowledged
    (same : List.Forall₂ (ReadsAs library) table.rows notifications)
    (id : Int) (now : WallTime) :
    List.Forall₂ (ReadsAs library)
      (table.updateWhere (fun row => row.id = id) (Row.acknowledge now)
        fun _ => rfl).rows notifications := by
  refine List.forall₂_map_left_iff.mpr (same.imp ?_)
  intro row notification reads
  split
  · exact reads.acknowledge now
  · exact reads

theorem acknowledgeNotification_table (id : Int) (now : WallTime) :
    (acknowledgeNotification library id now table).2 =
      (acknowledge library id now table).2 := by
  unfold acknowledgeNotification
  split <;> rename_i same <;> rw [same]

theorem readsAs_step
    (same : List.Forall₂ (ReadsAs library) table.rows notifications)
    (call : Call) :
    List.Forall₂ (ReadsAs library) (perform library call table).2.rows
      (senderStep library call notifications) := by
  obtain ⟨request, now⟩ := call
  cases request with
  | create type severity message payload =>
      unfold perform senderStep create
      dsimp only
      cases encoded : encodePayloadJson library type payload with
      | error problem => exact same
      | ok payloadJson =>
          have ids : nextRowid table.keys =
              nextRowid (notifications.map (·.id)) :=
            congrArg nextRowid (map_id_of_readsAs same)
          refine List.rel_append same (.cons ?_ .nil)
          exact ⟨ids, rfl, rfl, rfl, payload, rfl, encoded⟩
  | list filters => exact same
  | acknowledge id =>
      show List.Forall₂ (ReadsAs library)
        (acknowledgeNotification library id now table).2.rows notifications
      rw [acknowledgeNotification_table, acknowledge]
      split
      · exact readsAs_acknowledged same id now
      · exact same

/-- The notifications of the other models are these notifications.  After every
run the rows that the senders append in their models stand for the rows of the
table one by one, with listings and acknowledgements anywhere in between. -/
theorem notifications_modelled (calls : List Call)
    (same : List.Forall₂ (ReadsAs library) table.rows notifications) :
    List.Forall₂ (ReadsAs library)
      (outcomes (perform library) calls table).2.rows
      (GuardedRuns.run (senderStep library) calls notifications) := by
  induction calls generalizing table notifications with
  | nil => exact same
  | cons call calls ih => exact ih (readsAs_step same call)

end Senders

end Tca.NotificationInbox
