import Tca.BotDeliveryLoop

/-!
# Bookkeeping of delivery runs

Runs of one delivery loop attempt entry after entry, and other code changes the
store in between.  The file follows every attempt: which clusters are recorded
as delivered, how often failures are reported and what happens after a rejected
token, over any sequence of attempts.
-/

namespace Tca

open TableRows Transaction RowRanking GuardedRuns

def SendReply.isSent : SendReply → Bool
  | .sent _ => true
  | _ => false

def SendReply.isFailed : SendReply → Bool
  | .failed _ => true
  | _ => false

/-- The number of failed attempts for a cluster, rejected tokens apart. -/
def DeliveryState.failedAttempts (state : DeliveryState) (clusterId : Int) :
    Nat :=
  state.attempts.countP fun attempt =>
    attempt.clusterId = clusterId && attempt.outcome.isFailed

/-- A message for the cluster was sent. -/
def DeliveryState.HasSent (state : DeliveryState) (clusterId : Int) : Prop :=
  ∃ attempt ∈ state.attempts,
    attempt.clusterId = clusterId ∧ attempt.outcome.isSent = true

/-- The notification reports failed deliveries of the cluster. -/
def NotificationRow.reportsFailure (clusterId : Int) (row : NotificationRow) :
    Bool :=
  row.type = "bot_delivery_failed" &&
    match row.payloadJson with
    | some (.dict entries) =>
        match entries.lookup "cluster_id" with
        | some (.int reported) => reported = clusterId
        | _ => false
    | _ => false

/-- The number of reports of failed deliveries of a cluster. -/
def Database.failureReports (db : Database) (clusterId : Int) : Nat :=
  db.notifications.countP (NotificationRow.reportsFailure clusterId)

/-- One loop, with the run that it is in the middle of. -/
structure DeliveryProcess where
  state : DeliveryState
  running : Option StartedRun

/-- What can happen next: the loop is called, its current run attempts the next
entry, or other code leaves a changed store behind. -/
inductive DeliveryEvent where
  | call
  | attempt (reply : SendReply) (now : Timestamp)
  | elsewhere (db : Database)

namespace DeliveryLoop

variable (loop : DeliveryLoop)

/-- A run goes on as long as it has entries. -/
def continueWith (token chatId : String) :
    List BotDeliveryEntryRecord → Option StartedRun
  | [] => none
  | entry :: entries => some ⟨token, chatId, entry :: entries⟩

/-- The effect of an event.  Calls do not overlap, and without a run there is
nothing to attempt. -/
def step : DeliveryEvent → DeliveryProcess → DeliveryProcess
  | .call, process =>
      match process.running, loop.startRun process.state.db with
      | none, .ok (some started) =>
          { process with
            running :=
              continueWith started.token started.chatId started.entries }
      | _, _ => process
  | .attempt reply now, process =>
      match process.running with
      | some ⟨token, chatId, entry :: entries⟩ =>
          match process.state.processEntry chatId entry.clusterId
              (loop.attempt entry reply) now with
          | (.stopped, later) => ⟨later, none⟩
          | (.delivered _, later) =>
              ⟨later, continueWith token chatId entries⟩
          | (.skipped, later) => ⟨later, continueWith token chatId entries⟩
      | _ => process
  | .elsewhere db, process =>
      { process with state := { process.state with db := db } }

/-- The events of one call without anything in between. -/
def callEvents (world : DeliveryWorld) (entries : List BotDeliveryEntryRecord) :
    List DeliveryEvent :=
  entries.map fun entry => .attempt (world.reply entry) (world.clock entry)

theorem run_callEvents_idle (world : DeliveryWorld)
    (entries : List BotDeliveryEntryRecord) (state : DeliveryState) :
    GuardedRuns.run loop.step (callEvents world entries) ⟨state, none⟩ =
      ⟨state, none⟩ := by
  induction entries with
  | nil => rfl
  | cons entry entries ih => exact ih

theorem run_callEvents (world : DeliveryWorld) (token chatId : String)
    (entries : List BotDeliveryEntryRecord) (records : List BotDeliveryRecord)
    (state : DeliveryState) :
    GuardedRuns.run loop.step (callEvents world entries)
        ⟨state, continueWith token chatId entries⟩ =
      ⟨(loop.processEntries world chatId entries records state).2, none⟩ := by
  induction entries generalizing records state with
  | nil => rfl
  | cons entry entries ih =>
      simp only [callEvents, List.map_cons, run_cons, processEntries,
        continueWith, step]
      cases processed : state.processEntry chatId entry.clusterId
          (loop.attempt entry (world.reply entry)) (world.clock entry) with
      | mk result later =>
          cases result with
          | delivered record => exact ih (records ++ [record]) later
          | skipped => exact ih records later
          | stopped => exact loop.run_callEvents_idle world entries later

/-- A call of the loop is a run of its events. -/
theorem run_call_of_runOnce (world : DeliveryWorld) (state : DeliveryState) :
    ∃ entries,
      GuardedRuns.run loop.step (.call :: callEvents world entries)
          ⟨state, none⟩ = ⟨(loop.runOnce world state).2, none⟩ := by
  cases starts : loop.startRun state.db with
  | error problem =>
      refine ⟨[], ?_⟩
      simp [callEvents, step, starts, runOnce]
  | ok started =>
      cases started with
      | none =>
          refine ⟨[], ?_⟩
          simp [callEvents, step, starts, runOnce]
      | some started =>
          refine ⟨started.entries, ?_⟩
          simp only [run_cons, step, starts, runOnce]
          exact loop.run_callEvents world started.token started.chatId
            started.entries [] state

end DeliveryLoop

section Attempts

variable (state : DeliveryState) (clusterId : Int)

theorem failedAttempts_log (outcome : SendReply) (other : Int) :
    (state.log clusterId outcome).failedAttempts other =
      state.failedAttempts other +
        if clusterId = other ∧ outcome.isFailed = true then 1 else 0 := by
  simp [DeliveryState.failedAttempts, DeliveryState.log, List.countP_append,
    List.countP_cons]

theorem hasSent_log (outcome : SendReply) (other : Int) :
    (state.log clusterId outcome).HasSent other ↔
      state.HasSent other ∨ clusterId = other ∧ outcome.isSent = true := by
  simp [DeliveryState.HasSent, DeliveryState.log, or_and_right, exists_or]

theorem failureReports_addNotification (db : Database) (row : NotificationRow)
    (other : Int) :
    (db.addNotification row).failureReports other =
      db.failureReports other +
        if row.reportsFailure other then 1 else 0 := by
  simp [Database.failureReports, Database.addNotification, List.countP_append,
    List.countP_cons]

theorem reportsFailure_deliveryFailed (db : Database) (error : String)
    (other : Int) :
    (db.deliveryFailedNotification clusterId error).reportsFailure other =
      decide (clusterId = other) := by
  simp [NotificationRow.reportsFailure, Database.deliveryFailedNotification]

end Attempts

/-- No cluster is attempted again after a message for it was sent. -/
def SentLast (attempts : List DeliveryAttempt) : Prop :=
  attempts.Pairwise fun earlier later =>
    earlier.outcome.isSent = true → later.clusterId ≠ earlier.clusterId

/-- What holds between the attempts of a loop: the deliveries are the sent
messages, no cluster is attempted after it was sent, and every third failure of
a cluster was reported. -/
structure Bookkeeping (reportsBefore : Int → Nat) (state : DeliveryState) :
    Prop where
  consistent : state.db.Consistent
  delivered : ∀ clusterId,
    state.db.Delivered clusterId ↔ state.HasSent clusterId
  sentLast : SentLast state.attempts
  reports : ∀ clusterId, state.db.failureReports clusterId =
    reportsBefore clusterId + state.failedAttempts clusterId / 3
  counters : ∀ clusterId, ¬ state.db.Delivered clusterId →
    (state.consecutiveFailures clusterId).getD 0 =
      state.failedAttempts clusterId % 3

section Entry

variable {state : DeliveryState} {clusterId : Int}

/-- Recording a sent message succeeds, so an entry ends in one of three ways. -/
theorem processEntry_sent (consistent : state.db.Consistent)
    (stored : clusterId ∈ state.db.clusterIds)
    (undelivered : ¬ state.db.Delivered clusterId) (chatId : String)
    (messageId : Int) (now : Timestamp) :
    state.processEntry chatId clusterId (.sent messageId) now =
      (.delivered (decodeDeliveryRow (state.db.deliveryRow clusterId
          (some (toString messageId)) now)),
        { state.log clusterId (.sent messageId) with
          db := state.db.addDelivery (state.db.deliveryRow clusterId
            (some (toString messageId)) now)
          consecutiveFailures :=
            Function.update state.consecutiveFailures clusterId none }) := by
  have records := consistent.recordDelivery_eq_ok stored undelivered
    (some (toString messageId)) now
  simp only [DeliveryState.processEntry, DeliveryState.log, records]

@[simp]
theorem countFailure_attempts (error : String) :
    (state.countFailure clusterId error).attempts = state.attempts := by
  simp only [DeliveryState.countFailure]
  split <;> rfl

@[simp]
theorem countFailure_clusterIds (error : String) :
    (state.countFailure clusterId error).db.clusterIds =
      state.db.clusterIds := by
  simp only [DeliveryState.countFailure]
  split <;> rfl

@[simp]
theorem countFailure_delivered (error : String) (other : Int) :
    (state.countFailure clusterId error).db.Delivered other ↔
      state.db.Delivered other := by
  simp only [DeliveryState.countFailure]
  split <;> rfl

theorem countFailure_consistent (error : String)
    (consistent : state.db.Consistent) :
    (state.countFailure clusterId error).db.Consistent := by
  simp only [DeliveryState.countFailure]
  split
  · exact consistent.addNotification _
  · exact consistent

/-- The tables of clusters and deliveries after an entry. -/
theorem processEntry_tables (consistent : state.db.Consistent)
    (stored : clusterId ∈ state.db.clusterIds)
    (undelivered : ¬ state.db.Delivered clusterId) (chatId : String)
    (outcome : SendReply) (now : Timestamp) :
    let later := (state.processEntry chatId clusterId outcome now).2
    later.db.clusterIds = state.db.clusterIds ∧
      later.attempts = state.attempts ++ [⟨clusterId, outcome⟩] ∧
        ∀ other, later.db.Delivered other ↔
          state.db.Delivered other ∨
            clusterId = other ∧ outcome.isSent = true := by
  cases outcome with
  | sent messageId =>
      rw [processEntry_sent consistent stored undelivered]
      refine ⟨rfl, rfl, fun other => ?_⟩
      rw [Database.delivered_addDelivery]
      simp [Database.deliveryRow, SendReply.isSent, eq_comm]
  | tokenInvalid =>
      refine ⟨rfl, rfl, fun other => ?_⟩
      simp only [SendReply.isSent, Bool.false_eq_true, and_false, or_false]
      rfl
  | failed error =>
      simp [DeliveryState.processEntry, DeliveryState.log, SendReply.isSent]

/-- A failure is counted, and every third one is reported. -/
theorem countFailure_counts (state : DeliveryState) (clusterId : Int)
    (error : String) (other : Int) :
    (state.countFailure clusterId error).db.failureReports other =
        state.db.failureReports other +
          (if clusterId = other ∧
            2 ≤ (state.consecutiveFailures clusterId).getD 0 then 1 else 0) ∧
      ((state.countFailure clusterId error).consecutiveFailures other).getD 0 =
        if clusterId = other then
          if 2 ≤ (state.consecutiveFailures clusterId).getD 0 then 0
          else (state.consecutiveFailures clusterId).getD 0 + 1
        else (state.consecutiveFailures other).getD 0 := by
  by_cases third : 2 ≤ (state.consecutiveFailures clusterId).getD 0
  · have reported :
        3 ≤ (state.consecutiveFailures clusterId).getD 0 + 1 := by omega
    simp only [DeliveryState.countFailure, if_pos reported, third, and_true,
      if_true, failureReports_addNotification, reportsFailure_deliveryFailed,
      decide_eq_true_eq, true_and]
    by_cases same : clusterId = other
    · subst same
      simp
    · simp [same, Function.update_of_ne (Ne.symm same)]
  · have counted :
        ¬3 ≤ (state.consecutiveFailures clusterId).getD 0 + 1 := by omega
    simp only [DeliveryState.countFailure, if_neg counted, third, and_false,
      if_false, Nat.add_zero, true_and]
    by_cases same : clusterId = other
    · subst same
      simp
    · simp [same, Function.update_of_ne (Ne.symm same)]

/-- The reports and counters after an entry. -/
theorem processEntry_counts (consistent : state.db.Consistent)
    (stored : clusterId ∈ state.db.clusterIds)
    (undelivered : ¬ state.db.Delivered clusterId) (chatId : String)
    (outcome : SendReply) (now : Timestamp) (other : Int) :
    let later := (state.processEntry chatId clusterId outcome now).2
    later.db.failureReports other =
        state.db.failureReports other +
          (if (clusterId = other ∧ outcome.isFailed = true) ∧
            2 ≤ (state.consecutiveFailures clusterId).getD 0 then 1 else 0) ∧
      (¬ later.db.Delivered other →
        (later.consecutiveFailures other).getD 0 =
          if clusterId = other ∧ outcome.isFailed = true then
            if 2 ≤ (state.consecutiveFailures clusterId).getD 0 then 0
            else (state.consecutiveFailures clusterId).getD 0 + 1
          else (state.consecutiveFailures other).getD 0) := by
  cases outcome with
  | sent messageId =>
      rw [processEntry_sent consistent stored undelivered]
      simp only [SendReply.isFailed, Bool.false_eq_true, and_false, false_and,
        if_false]
      refine ⟨rfl, fun notDelivered => ?_⟩
      rw [Database.delivered_addDelivery, not_or] at notDelivered
      have different : other ≠ clusterId := notDelivered.2
      rw [Function.update_of_ne different]
  | tokenInvalid =>
      simp only [SendReply.isFailed, Bool.false_eq_true, and_false, false_and,
        if_false]
      refine ⟨?_, fun _ => rfl⟩
      show (state.db.addNotification _).failureReports other = _
      rw [failureReports_addNotification]
      rfl
  | failed error =>
      have counts := countFailure_counts (state.log clusterId (.failed error))
        clusterId error other
      simp only [SendReply.isFailed, and_true]
      exact ⟨counts.1, fun _ => counts.2⟩

theorem processEntry_consistent (consistent : state.db.Consistent)
    (stored : clusterId ∈ state.db.clusterIds)
    (undelivered : ¬ state.db.Delivered clusterId) (chatId : String)
    (outcome : SendReply) (now : Timestamp) :
    (state.processEntry chatId clusterId outcome now).2.db.Consistent := by
  cases outcome with
  | sent messageId =>
      rw [processEntry_sent consistent stored undelivered]
      exact consistent.addDelivery stored undelivered
  | tokenInvalid =>
      exact { consistent.addNotification
        (state.db.tokenInvalidNotification chatId) with }
  | failed error =>
      exact countFailure_consistent error consistent

variable {reportsBefore : Int → Nat}

/-- A further attempt for a cluster that was not sent yet. -/
theorem Bookkeeping.sentLast_append (books : Bookkeeping reportsBefore state)
    (undelivered : ¬ state.db.Delivered clusterId) (outcome : SendReply) :
    SentLast (state.attempts ++ [⟨clusterId, outcome⟩]) := by
  rw [SentLast, List.pairwise_append]
  refine ⟨books.sentLast, List.pairwise_singleton _ _, ?_⟩
  intro earlier isEarlier later isLast wasSent sameCluster
  obtain rfl := List.mem_singleton.mp isLast
  apply undelivered
  rw [books.delivered]
  exact ⟨earlier, isEarlier, sameCluster.symm, wasSent⟩

/-- An attempt for a stored, undelivered cluster keeps the books. -/
theorem Bookkeeping.processEntry (books : Bookkeeping reportsBefore state)
    (stored : clusterId ∈ state.db.clusterIds)
    (undelivered : ¬ state.db.Delivered clusterId) (chatId : String)
    (outcome : SendReply) (now : Timestamp) :
    Bookkeeping reportsBefore
      (state.processEntry chatId clusterId outcome now).2 := by
  obtain ⟨-, attempts, deliveredThen⟩ := processEntry_tables books.consistent
    stored undelivered chatId outcome now
  have counts := processEntry_counts books.consistent stored undelivered chatId
    outcome now
  have consistent := processEntry_consistent books.consistent stored undelivered
    chatId outcome now
  generalize (state.processEntry chatId clusterId outcome now).2 = later at *
  have failed : ∀ other, later.failedAttempts other =
      state.failedAttempts other +
        if clusterId = other ∧ outcome.isFailed = true then 1 else 0 := by
    intro other
    rw [← failedAttempts_log]
    simp only [DeliveryState.failedAttempts, attempts, DeliveryState.log]
  have counter := books.counters clusterId undelivered
  refine ⟨consistent, ?_, ?_, ?_, ?_⟩
  · intro other
    have logged := hasSent_log state clusterId outcome other
    rw [deliveredThen other, books.delivered other, ← logged]
    simp only [DeliveryState.HasSent, attempts, DeliveryState.log]
  · rw [attempts]
    exact books.sentLast_append undelivered outcome
  · intro other
    rw [(counts other).1, failed other, books.reports other, counter]
    by_cases counted : clusterId = other ∧ outcome.isFailed = true
    · obtain ⟨rfl, isFailed⟩ := counted
      simp only [isFailed, and_self, true_and, if_true]
      split <;> omega
    · simp [counted]
  · intro other notDelivered
    rw [(counts other).2 notDelivered, failed other, counter]
    by_cases counted : clusterId = other ∧ outcome.isFailed = true
    · obtain ⟨rfl, isFailed⟩ := counted
      simp only [isFailed, and_self, if_true]
      split <;> omega
    · rw [deliveredThen other, not_or] at notDelivered
      simpa [counted] using books.counters other notDelivered.1

end Entry

/-- The entries that a run still has to attempt: stored, undelivered clusters,
each once. -/
structure Pending (db : Database) (entries : List BotDeliveryEntryRecord) :
    Prop where
  nodup : (entries.map (·.clusterId)).Nodup
  stored : ∀ entry ∈ entries, entry.clusterId ∈ db.clusterIds
  undelivered : ∀ entry ∈ entries, ¬ db.Delivered entry.clusterId

/-- A batch of undelivered entries is pending. -/
theorem pending_of_listUndeliveredEntries {db : Database}
    (consistent : db.Consistent) {limit : Int}
    {entries : List BotDeliveryEntryRecord}
    (listed : listUndeliveredEntries db limit = .ok entries) :
    Pending db entries := by
  rw [listUndeliveredEntries] at listed
  split at listed
  swap
  · cases listed
  obtain rfl := Except.ok.inj listed
  generalize ordered : orderBy (fun row => row.cluster.id)
    (db.threadRows.filter fun row => ¬ db.Delivered row.cluster.id) = rows
  have joined : ∀ row ∈ rows,
      row ∈ db.threadRows ∧ ¬ db.Delivered row.cluster.id := by
    intro row isRow
    rw [← ordered, mem_orderBy, List.mem_filter] at isRow
    simpa using isRow
  have rowsNodup : (rows.map (·.cluster.id)).Nodup := by
    have permuted := (orderBy_perm (fun row : ThreadRow => row.cluster.id)
      (db.threadRows.filter fun row => ¬ db.Delivered row.cluster.id)).map
        (·.cluster.id)
    rw [ordered] at permuted
    rw [permuted.nodup_iff]
    have ofClusters := (Database.threadRows_clusters_sublist consistent).map
      (·.id)
    rw [List.map_map] at ofClusters
    exact consistent.clusterIdsNodup.sublist
      ((List.filter_sublist.map _).trans ofClusters)
  have chosen : (if limit < 0 then rows else rows.take limit.toNat).Sublist
      rows := by
    split
    · exact List.Sublist.refl rows
    · exact List.take_sublist _ rows
  generalize (if limit < 0 then rows else rows.take limit.toNat) = batch
    at chosen
  have eachJoined : ∀ row ∈ batch,
      row ∈ db.threadRows ∧ ¬ db.Delivered row.cluster.id := fun row isRow =>
    joined row (chosen.subset isRow)
  refine ⟨?_, ?_, ?_⟩
  · rw [List.map_map]
    exact rowsNodup.sublist (chosen.map _)
  · intro entry isEntry
    obtain ⟨row, isRow, rfl⟩ := List.mem_map.mp isEntry
    obtain ⟨stored, -⟩ := Database.mem_threadRows.mp (eachJoined row isRow).1
    exact List.mem_map_of_mem stored
  · intro entry isEntry
    obtain ⟨row, isRow, rfl⟩ := List.mem_map.mp isEntry
    exact (eachJoined row isRow).2

/-- What a run has read when it starts. -/
theorem DeliveryLoop.startRun_eq_some (loop : DeliveryLoop) {db : Database}
    {started : StartedRun} (starts : loop.startRun db = .ok (some started)) :
    (∃ value, getSetting db.settings "bot.enabled" = .ok (some value) ∧
      value.truthy = true) ∧
      ∃ limit, listUndeliveredEntries db limit = .ok started.entries := by
  rw [startRun] at starts
  obtain ⟨enabled, enabledRead, starts⟩ := bind_eq_ok starts
  split at starts
  · rename_i isEnabled
    obtain ⟨token, -, starts⟩ := bind_eq_ok starts
    obtain ⟨chatId, -, starts⟩ := bind_eq_ok starts
    dsimp only at starts
    split at starts
    · cases starts
    · obtain ⟨batchSize, -, starts⟩ := bind_eq_ok starts
      obtain ⟨entries, listed, starts⟩ := bind_eq_ok starts
      obtain rfl := Option.some.inj (Except.ok.inj starts)
      refine ⟨?_, _, listed⟩
      cases enabled with
      | none => simp at isEnabled
      | some value => exact ⟨value, enabledRead, by simpa using isEnabled⟩
  · cases starts

/-- The batch of a started run is pending. -/
theorem DeliveryLoop.pending_of_startRun (loop : DeliveryLoop) {db : Database}
    (consistent : db.Consistent) {started : StartedRun}
    (starts : loop.startRun db = .ok (some started)) :
    Pending db started.entries := by
  obtain ⟨-, limit, listed⟩ := loop.startRun_eq_some starts
  exact pending_of_listUndeliveredEntries consistent listed

namespace DeliveryProcess

/-- The entries that the current run still has to attempt. -/
def pendingEntries (process : DeliveryProcess) : List BotDeliveryEntryRecord :=
  match process.running with
  | none => []
  | some started => started.entries

/-- The books are kept, and what the current run still has to attempt is
pending. -/
structure Kept (reportsBefore : Int → Nat) (process : DeliveryProcess) :
    Prop where
  books : Bookkeeping reportsBefore process.state
  pending : Pending process.state.db process.pendingEntries

end DeliveryProcess

/-- What other code may do to the store meanwhile: it deletes no cluster, and
it leaves the deliveries and the reports of failed deliveries alone. -/
structure Database.DeliveriesUntouched (before after : Database) : Prop where
  consistent : after.Consistent
  clusters : ∀ clusterId ∈ before.clusterIds, clusterId ∈ after.clusterIds
  deliveries : after.botDeliveries = before.botDeliveries
  reports : ∀ clusterId,
    after.failureReports clusterId = before.failureReports clusterId

/-- The guard on the events of other code. -/
def DeliveryEvent.LeavesDeliveries (event : DeliveryEvent)
    (process : DeliveryProcess) : Prop :=
  match event with
  | .elsewhere db => process.state.db.DeliveriesUntouched db
  | _ => True

namespace DeliveryLoop

variable (loop : DeliveryLoop) {reportsBefore : Int → Nat}

theorem pendingEntries_continueWith (state : DeliveryState)
    (token chatId : String) (entries : List BotDeliveryEntryRecord) :
    DeliveryProcess.pendingEntries
      ⟨state, continueWith token chatId entries⟩ = entries := by
  cases entries <;> rfl

theorem pending_nil (db : Database) : Pending db [] :=
  ⟨List.nodup_nil, by simp, by simp⟩

/-- After an attempt for the first pending entry the others are pending. -/
theorem pending_processEntry {state : DeliveryState}
    {entry : BotDeliveryEntryRecord} {entries : List BotDeliveryEntryRecord}
    (consistent : state.db.Consistent)
    (pending : Pending state.db (entry :: entries)) (chatId : String)
    (outcome : SendReply) (now : Timestamp) :
    Pending (state.processEntry chatId entry.clusterId outcome now).2.db
      entries := by
  have stored := pending.stored entry List.mem_cons_self
  have undelivered := pending.undelivered entry List.mem_cons_self
  obtain ⟨sameClusters, -, deliveredThen⟩ := processEntry_tables consistent
    stored undelivered chatId outcome now
  obtain ⟨notAgain, nodup⟩ := List.nodup_cons.mp pending.nodup
  refine ⟨nodup, ?_, ?_⟩
  · intro other isPending
    rw [sameClusters]
    exact pending.stored other (List.mem_cons_of_mem _ isPending)
  · intro other isPending
    rw [deliveredThen, not_or]
    refine ⟨pending.undelivered other (List.mem_cons_of_mem _ isPending), ?_⟩
    rintro ⟨sameCluster, -⟩
    exact notAgain (List.mem_map.mpr ⟨other, isPending, sameCluster.symm⟩)

/-- Changes elsewhere that leave the deliveries alone keep the books. -/
theorem kept_elsewhere {process : DeliveryProcess} {db : Database}
    (kept : process.Kept reportsBefore)
    (untouched : process.state.db.DeliveriesUntouched db) :
    (loop.step (.elsewhere db) process).Kept reportsBefore := by
  obtain ⟨books, pending⟩ := kept
  obtain ⟨consistent, clusters, deliveries, reports⟩ := untouched
  have sameDelivered : ∀ clusterId, db.Delivered clusterId ↔
      process.state.db.Delivered clusterId := by
    intro clusterId
    rw [Database.Delivered, Database.Delivered, deliveries]
  constructor
  · refine ⟨consistent, ?_, books.sentLast, ?_, ?_⟩
    · intro clusterId
      exact (sameDelivered clusterId).trans (books.delivered clusterId)
    · intro clusterId
      exact (reports clusterId).trans (books.reports clusterId)
    · intro clusterId undelivered
      exact books.counters clusterId
        (fun delivered => undelivered ((sameDelivered clusterId).mpr delivered))
  · refine ⟨pending.nodup, ?_, ?_⟩
    · intro entry isPending
      exact clusters entry.clusterId (pending.stored entry isPending)
    · intro entry isPending delivered
      exact pending.undelivered entry isPending
        ((sameDelivered entry.clusterId).mp delivered)

/-- However an entry ends, the state is the one that processing it leaves. -/
theorem step_attempt_state {process : DeliveryProcess} {token chatId : String}
    {entry : BotDeliveryEntryRecord} {entries : List BotDeliveryEntryRecord}
    (isRunning : process.running = some ⟨token, chatId, entry :: entries⟩)
    (reply : SendReply) (now : Timestamp) :
    (loop.step (.attempt reply now) process).state =
      (process.state.processEntry chatId entry.clusterId
        (loop.attempt entry reply) now).2 := by
  simp only [step, isRunning]
  split <;> rename_i processed <;> rw [processed]

/-- Every event keeps the books. -/
theorem step_kept {event : DeliveryEvent} {process : DeliveryProcess}
    (kept : process.Kept reportsBefore)
    (allowed : event.LeavesDeliveries process) :
    (loop.step event process).Kept reportsBefore := by
  cases event with
  | call =>
      simp only [step]
      split
      · rename_i starts
        refine ⟨kept.books, ?_⟩
        rw [pendingEntries_continueWith]
        exact loop.pending_of_startRun kept.books.consistent starts
      · exact kept
  | attempt reply now =>
      simp only [step]
      split
      · rename_i token chatId entry entries isRunning
        have pending := kept.pending
        simp only [DeliveryProcess.pendingEntries, isRunning] at pending
        have books := kept.books.processEntry
          (pending.stored entry List.mem_cons_self)
          (pending.undelivered entry List.mem_cons_self) chatId
          (loop.attempt entry reply) now
        have others := pending_processEntry kept.books.consistent pending chatId
          (loop.attempt entry reply) now
        split <;> rename_i processed <;> rw [processed] at books others
        · exact ⟨books, pending_nil _⟩
        · refine ⟨books, ?_⟩
          rw [pendingEntries_continueWith]
          exact others
        · refine ⟨books, ?_⟩
          rw [pendingEntries_continueWith]
          exact others
      · exact kept
  | elsewhere db => exact loop.kept_elsewhere kept allowed

/-- The bot is disabled and no run is under way. -/
structure Silenced (process : DeliveryProcess) : Prop where
  idle : process.running = none
  disabled : getSetting process.state.db.settings "bot.enabled" =
    .ok (some (.bool false))

/-- The event does not set `bot.enabled`. -/
def KeepsEnabled (event : DeliveryEvent) (process : DeliveryProcess) : Prop :=
  match event with
  | .elsewhere db =>
      getSetting db.settings "bot.enabled" =
        getSetting process.state.db.settings "bot.enabled"
  | _ => True

/-- The event is an attempt that the API answers by rejecting the token. -/
def RejectsToken (event : DeliveryEvent) (process : DeliveryProcess) : Prop :=
  ∃ clusterId, (loop.step event process).state.attempts =
    process.state.attempts ++ [⟨clusterId, .tokenInvalid⟩]

theorem silenced_of_rejectsToken {event : DeliveryEvent}
    {process : DeliveryProcess} (kept : process.Kept reportsBefore)
    (rejects : loop.RejectsToken event process) :
    Silenced (loop.step event process) := by
  obtain ⟨clusterId, attempts⟩ := rejects
  cases event with
  | call =>
      simp only [step] at attempts
      split at attempts <;> simp at attempts
  | elsewhere db => simp [step] at attempts
  | attempt reply now =>
      cases isRunning : process.running with
      | none => simp [step, isRunning] at attempts
      | some started =>
          obtain ⟨token, chatId, _ | ⟨entry, entries⟩⟩ := started
          · simp [step, isRunning] at attempts
          have pending := kept.pending
          simp only [DeliveryProcess.pendingEntries, isRunning] at pending
          have stored := pending.stored entry List.mem_cons_self
          have undelivered := pending.undelivered entry List.mem_cons_self
          obtain ⟨-, attempted, -⟩ := processEntry_tables kept.books.consistent
            stored undelivered chatId (loop.attempt entry reply) now
          rw [loop.step_attempt_state isRunning, attempted] at attempts
          have rejected : loop.attempt entry reply = .tokenInvalid := by
            simp only [List.append_cancel_left_eq, List.cons.injEq,
              DeliveryAttempt.mk.injEq, and_true] at attempts
            exact attempts.2
          refine ⟨?_, ?_⟩
          · simp [step, isRunning, rejected, DeliveryState.processEntry]
          · simp only [step, isRunning, rejected, DeliveryState.processEntry]
            exact getSetting_upsertSetting_same _ _ rfl

/-- While the bot stays disabled nothing is attempted. -/
theorem step_silenced {event : DeliveryEvent} {process : DeliveryProcess}
    (silenced : Silenced process) (keeps : KeepsEnabled event process) :
    Silenced (loop.step event process) ∧
      (loop.step event process).state.attempts = process.state.attempts := by
  cases event with
  | call =>
      simp only [step]
      split
      · rename_i starts
        obtain ⟨⟨value, enabled, isTrue⟩, -⟩ := loop.startRun_eq_some starts
        rw [silenced.disabled] at enabled
        cases enabled
        cases isTrue
      · exact ⟨silenced, rfl⟩
  | attempt reply now =>
      simp only [step, silenced.idle]
      exact ⟨silenced, trivial⟩
  | elsewhere db =>
      exact ⟨⟨silenced.idle, keeps.trans silenced.disabled⟩, rfl⟩

/-- A run of events that do not set `bot.enabled` attempts nothing once the bot
is silenced. -/
theorem run_silenced {events : List DeliveryEvent} {process : DeliveryProcess}
    (silenced : Silenced process)
    (keeps : Guarded loop.step KeepsEnabled events process) :
    (GuardedRuns.run loop.step events process).state.attempts =
      process.state.attempts := by
  induction events generalizing process with
  | nil => rfl
  | cons event events ih =>
      obtain ⟨keepsFirst, keepsOthers⟩ := keeps
      obtain ⟨stillSilenced, unchanged⟩ :=
        loop.step_silenced silenced keepsFirst
      rw [run_cons, ih stillSilenced keepsOthers, unchanged]

end DeliveryLoop

/-- A new loop on a store without deliveries. -/
structure DeliveryProcess.Fresh (process : DeliveryProcess) : Prop where
  consistent : process.state.db.Consistent
  noDeliveries : process.state.db.botDeliveries = []
  noAttempts : process.state.attempts = []
  noFailures : ∀ clusterId, process.state.consecutiveFailures clusterId = none
  idle : process.running = none

theorem DeliveryProcess.Fresh.kept {process : DeliveryProcess}
    (fresh : process.Fresh) :
    process.Kept process.state.db.failureReports := by
  have noneFailed : ∀ clusterId, process.state.failedAttempts clusterId = 0 := by
    intro clusterId
    simp [DeliveryState.failedAttempts, fresh.noAttempts]
  refine ⟨⟨fresh.consistent, ?_, ?_, ?_, ?_⟩, ?_⟩
  · intro clusterId
    simp [Database.Delivered, fresh.noDeliveries, DeliveryState.HasSent,
      fresh.noAttempts]
  · rw [fresh.noAttempts]
    exact List.Pairwise.nil
  · intro clusterId
    rw [noneFailed]
    rfl
  · intro clusterId _
    rw [fresh.noFailures, noneFailed]
    rfl
  · rw [DeliveryProcess.pendingEntries, fresh.idle]
    exact DeliveryLoop.pending_nil _

/-- Over any sequence of calls, attempts and changes elsewhere that delete no
cluster: the recorded deliveries are the sent messages, a sent cluster is not
attempted again, every third failure of a cluster is reported, and after a
rejected token nothing is attempted until `bot.enabled` is set. -/
theorem delivery_runs_keep_books (loop : DeliveryLoop)
    (events : List DeliveryEvent) (start : DeliveryProcess)
    (fresh : start.Fresh)
    (allowed : Guarded loop.step DeliveryEvent.LeavesDeliveries events start) :
    let final := (GuardedRuns.run loop.step events start).state
    (∀ clusterId, final.db.Delivered clusterId ↔ final.HasSent clusterId) ∧
      SentLast final.attempts ∧
        (∀ clusterId, final.db.failureReports clusterId =
          start.state.db.failureReports clusterId +
            final.failedAttempts clusterId / 3) ∧
          ∀ earlier event later, events = earlier ++ event :: later →
            loop.RejectsToken event (GuardedRuns.run loop.step earlier start) →
              Guarded loop.step DeliveryLoop.KeepsEnabled later
                (loop.step event (GuardedRuns.run loop.step earlier start)) →
                final.attempts = (loop.step event
                  (GuardedRuns.run loop.step earlier start)).state.attempts := by
  have always := always_of_guarded loop.step
    (fun event process kept allowedHere => loop.step_kept kept allowedHere)
    fresh.kept allowed
  have books := (always events List.prefix_rfl).books
  refine ⟨books.delivered, books.sentLast, books.reports, ?_⟩
  rintro earlier event later rfl rejects keeps
  have keptBefore := always earlier (List.prefix_append _ _)
  have silenced := loop.silenced_of_rejectsToken keptBefore rejects
  rw [run_append, run_cons]
  exact loop.run_silenced silenced keeps

/-- A loop that formats every entry alike. -/
def sampleLoop : DeliveryLoop where
  formatter _ := .ok "text"
  str
    | .str value => value
    | _ => "other"

/-- A new loop on the sample store, with a configured bot. -/
def sampleDeliveries : DeliveryProcess where
  state :=
    { db :=
        { Database.sampleStore with
          settings :=
            [⟨"bot.enabled", .ok (.bool true)⟩, ⟨"bot.token", .ok (.str "t")⟩,
              ⟨"bot.chat_id", .ok (.str "c")⟩,
              ⟨"bot.delivery_batch_size", .ok (.int 1)⟩] }
      consecutiveFailures := fun _ => none
      attempts := [] }
  running := none

theorem sampleDeliveries_fresh : sampleDeliveries.Fresh where
  consistent := { Database.sampleStore_consistent with }
  noDeliveries := rfl
  noAttempts := rfl
  noFailures _ := rfl
  idle := rfl

/-- A failed attempt, a sent message in the next call, a rejected token. -/
def sampleDeliveryEvents : List DeliveryEvent :=
  [.call, .attempt (.failed "timeout") sampleTime.timestamp,
    .call, .attempt (.sent 7) sampleTime.timestamp,
    .call, .attempt .tokenInvalid sampleTime.timestamp, .call]

theorem sample_deliveries_keep_books :
    sampleDeliveries.Fresh ∧
      Guarded sampleLoop.step DeliveryEvent.LeavesDeliveries
        sampleDeliveryEvents sampleDeliveries ∧
      (∀ clusterId,
        (GuardedRuns.run sampleLoop.step sampleDeliveryEvents
          sampleDeliveries).state.db.Delivered clusterId ↔
        (GuardedRuns.run sampleLoop.step sampleDeliveryEvents
          sampleDeliveries).state.HasSent clusterId) ∧
      SentLast (GuardedRuns.run sampleLoop.step sampleDeliveryEvents
        sampleDeliveries).state.attempts := by
  have allowed : Guarded sampleLoop.step DeliveryEvent.LeavesDeliveries
      sampleDeliveryEvents sampleDeliveries :=
    ⟨trivial, trivial, trivial, trivial, trivial, trivial, trivial, trivial⟩
  obtain ⟨delivered, sentLast, -⟩ := delivery_runs_keep_books sampleLoop
    sampleDeliveryEvents sampleDeliveries sampleDeliveries_fresh allowed
  exact ⟨sampleDeliveries_fresh, allowed, delivered, sentLast⟩

end Tca
