import Tca.BatchedQueues
import Tca.BotDeliveryRuns

/-!
# Clusters that fail and clusters behind them

Every delivery run fetches the undelivered clusters with the lowest ids, as
many as a batch holds, and a cluster whose send fails stays undelivered.  The
file shows that runs serve the undelivered clusters as a queue from its head,
and says exactly when repeated runs deliver every cluster that can be sent.
-/

namespace Tca

open TableRows Transaction RowRanking BatchedQueues

namespace Database

variable (db : Database)

/-- The clusters that have a representative and no delivery. -/
def awaitingClusters : List Int :=
  (db.dedupeClusters.filter fun row =>
    row.representativeItemId.isSome ∧ ¬ db.Delivered row.id).map (·.id)

/-- The ids of the undelivered entries in the order they are fetched. -/
def undeliveredIds : List Int :=
  (orderBy (fun row => row.cluster.id)
    (db.threadRows.filter fun row => ¬ db.Delivered row.cluster.id)).map
      (·.cluster.id)

variable {db}

theorem mem_awaitingClusters {clusterId : Int} :
    clusterId ∈ db.awaitingClusters ↔ db.AwaitsDelivery clusterId := by
  simp only [awaitingClusters, List.mem_map, List.mem_filter,
    decide_eq_true_eq, Option.isSome_iff_ne_none]
  constructor
  · rintro ⟨row, ⟨stored, represented, undelivered⟩, rfl⟩
    exact ⟨undelivered, row, stored, rfl, represented⟩
  · rintro ⟨undelivered, row, stored, rfl, represented⟩
    exact ⟨row, ⟨stored, represented, undelivered⟩, rfl⟩

/-- A batch that can be bound holds the first undelivered ids. -/
theorem listUndeliveredEntries_ids (db : Database) {limit : Int}
    (bound : IsSqlInteger limit)
    (nonnegative : 0 ≤ limit) :
    ∃ entries, listUndeliveredEntries db limit = .ok entries ∧
      entries.map (·.clusterId) = db.undeliveredIds.take limit.toNat := by
  refine ⟨_, if_pos bound, ?_⟩
  rw [if_neg (Int.not_lt.mpr nonnegative), List.map_map, undeliveredIds,
    List.map_take]
  rfl

/-- Without a limit all undelivered ids are fetched. -/
theorem listUndeliveredEntries_all (db : Database) :
    ∃ entries, listUndeliveredEntries db (-1) = .ok entries ∧
      entries.map (·.clusterId) = db.undeliveredIds := by
  have isNegative : (-1 : Int) < 0 := by decide
  refine ⟨_, rfl, ?_⟩
  rw [if_pos isNegative, List.map_map]
  rfl

theorem undeliveredIds_nodup (consistent : db.Consistent) :
    db.undeliveredIds.Nodup := by
  obtain ⟨entries, listed, ids⟩ := listUndeliveredEntries_all db
  rw [← ids]
  exact (pending_of_listUndeliveredEntries consistent listed).nodup

theorem mem_undeliveredIds (consistent : db.Consistent) {clusterId : Int} :
    clusterId ∈ db.undeliveredIds ↔ db.AwaitsDelivery clusterId := by
  rw [← consistent.mem_listUndeliveredEntries]
  obtain ⟨entries, listed, ids⟩ := listUndeliveredEntries_all db
  constructor
  · intro isUndelivered
    rw [← ids] at isUndelivered
    obtain ⟨entry, isEntry, rfl⟩ := List.mem_map.mp isUndelivered
    exact ⟨-1, entries, listed, entry, isEntry, rfl⟩
  · rintro ⟨limit, fetched, fetches, entry, isEntry, rfl⟩
    rw [listUndeliveredEntries] at fetches
    split at fetches
    · obtain rfl := Except.ok.inj fetches
      obtain ⟨row, isRow, rfl⟩ := List.mem_map.mp isEntry
      have isListed : row ∈ orderBy (fun row => row.cluster.id)
          (db.threadRows.filter fun row => ¬ db.Delivered row.cluster.id) := by
        split at isRow
        · exact isRow
        · exact List.mem_of_mem_take isRow
      exact List.mem_map_of_mem isListed
    · cases fetches

theorem undeliveredIds_sorted (db : Database) :
    db.undeliveredIds.Pairwise (· ≤ ·) := by
  rw [undeliveredIds, List.pairwise_map]
  exact orderBy_pairwise _ _

theorem undeliveredIds_perm (consistent : db.Consistent) :
    db.undeliveredIds.Perm db.awaitingClusters := by
  have awaitingNodup : db.awaitingClusters.Nodup :=
    consistent.clusterIdsNodup.sublist (List.filter_sublist.map _)
  rw [List.perm_ext_iff_of_nodup (undeliveredIds_nodup consistent) awaitingNodup]
  intro clusterId
  rw [mem_undeliveredIds consistent, mem_awaitingClusters]

/-- The stores differ in their deliveries and notifications only. -/
def SameButDeliveries (before after : Database) : Prop :=
  ∃ deliveries notifications,
    after = { before with
      botDeliveries := deliveries, notifications := notifications }

theorem SameButDeliveries.refl (db : Database) : SameButDeliveries db db :=
  ⟨db.botDeliveries, db.notifications, rfl⟩

theorem SameButDeliveries.trans {first second third : Database}
    (firstStep : SameButDeliveries first second)
    (secondStep : SameButDeliveries second third) :
    SameButDeliveries first third := by
  obtain ⟨_, _, rfl⟩ := firstStep
  obtain ⟨deliveries, notifications, rfl⟩ := secondStep
  exact ⟨deliveries, notifications, rfl⟩

/-- After deliveries the clusters that await one are those that awaited one and
got none. -/
theorem SameButDeliveries.undeliveredIds_eq {before after : Database}
    (same : SameButDeliveries before after) (consistent : before.Consistent)
    (consistentAfter : after.Consistent) (keeps : Int → Bool)
    (delivered : ∀ clusterId, before.AwaitsDelivery clusterId →
      (after.Delivered clusterId ↔ keeps clusterId = false))
    (stillDelivered : ∀ clusterId, before.Delivered clusterId →
      after.Delivered clusterId) :
    after.undeliveredIds = before.undeliveredIds.filter keeps := by
  have sameClusters : after.dedupeClusters = before.dedupeClusters := by
    obtain ⟨deliveries, notifications, rfl⟩ := same
    rfl
  have sameMembers : ∀ clusterId, clusterId ∈ after.undeliveredIds ↔
      clusterId ∈ before.undeliveredIds.filter keeps := by
    intro clusterId
    rw [mem_undeliveredIds consistentAfter, List.mem_filter,
      mem_undeliveredIds consistent]
    constructor
    · rintro ⟨undelivered, row, stored, rowIs, represented⟩
      have awaited : before.AwaitsDelivery clusterId :=
        ⟨fun wasDelivered => undelivered (stillDelivered clusterId wasDelivered),
          row, sameClusters ▸ stored, rowIs, represented⟩
      refine ⟨awaited, ?_⟩
      simpa using mt (delivered clusterId awaited).mpr undelivered
    · rintro ⟨awaited, kept⟩
      refine ⟨?_, ?_⟩
      · rw [delivered clusterId awaited, kept]
        simp
      · rw [sameClusters]
        exact awaited.2
  have permuted := (List.perm_ext_iff_of_nodup
    (undeliveredIds_nodup consistentAfter)
    ((undeliveredIds_nodup consistent).filter keeps)).mpr sameMembers
  exact permuted.eq_of_pairwise (fun _ _ _ _ => le_antisymm)
    (undeliveredIds_sorted after)
    ((undeliveredIds_sorted before).filter keeps)

end Database

/-- The bot is enabled and configured, with the given batch size. -/
structure DeliveryLoop.Configured (loop : DeliveryLoop)
    (settings : List SettingRow) (batchSize : Int) : Prop where
  enabled : ∃ value, getSetting settings "bot.enabled" = .ok (some value) ∧
    value.truthy = true
  token : ∃ value, getSetting settings "bot.token" = .ok (some value) ∧
    loop.str value ≠ ""
  chatId : ∃ value, getSetting settings "bot.chat_id" = .ok (some value) ∧
    loop.str value ≠ ""
  batchSize_eq : ∃ value,
    getSetting settings "bot.delivery_batch_size" = .ok value ∧
      resolveBatchSize value = batchSize

/-- The clusters of the set always fail, all others are sent. -/
def DeliveryLoop.Behaves (loop : DeliveryLoop) (failing : Int → Bool)
    (world : DeliveryWorld) : Prop :=
  ∀ entry,
    if failing entry.clusterId then
      ∃ error, loop.attempt entry (world.reply entry) = .failed error
    else ∃ messageId, loop.attempt entry (world.reply entry) = .sent messageId

namespace DeliveryLoop

variable (loop : DeliveryLoop)

/-- A configured loop starts a run with the batch it can fetch. -/
theorem startRun_of_configured {db : Database} {batchSize : Int}
    (configured : loop.Configured db.settings batchSize) :
    ∃ token chatId, loop.startRun db =
      (listUndeliveredEntries db batchSize).map fun entries =>
        some ⟨token, chatId, entries⟩ := by
  obtain ⟨⟨enabled, enabledRead, isEnabled⟩, ⟨token, tokenRead, tokenText⟩,
    ⟨chatId, chatIdRead, chatIdText⟩, size, sizeRead, rfl⟩ := configured
  refine ⟨loop.str token, loop.str chatId, ?_⟩
  rw [startRun, enabledRead]
  simp only [Except.bind, bind, Option.map_some, Option.getD_some, isEnabled,
    if_true, tokenRead, chatIdRead, tokenText, chatIdText, or_self, if_false,
    sizeRead]
  cases listUndeliveredEntries db (resolveBatchSize size) <;> rfl

/-- An entry whose attempt fails or is sent leaves all other tables alone and
lets the loop go on. -/
theorem processEntry_behaves {state : DeliveryState} {clusterId : Int}
    {outcome : SendReply} (consistent : state.db.Consistent)
    (stored : clusterId ∈ state.db.clusterIds)
    (undelivered : ¬ state.db.Delivered clusterId)
    (accepted : outcome ≠ .tokenInvalid) (chatId : String) (now : Timestamp) :
    (state.processEntry chatId clusterId outcome now).1 ≠ .stopped ∧
      Database.SameButDeliveries state.db
        (state.processEntry chatId clusterId outcome now).2.db := by
  cases outcome with
  | sent messageId =>
      rw [processEntry_sent consistent stored undelivered]
      exact ⟨nofun, _, _, rfl⟩
  | tokenInvalid => exact absurd rfl accepted
  | failed error =>
      refine ⟨nofun, ?_⟩
      simp only [DeliveryState.processEntry, DeliveryState.countFailure]
      split
      · exact ⟨_, _, rfl⟩
      · exact Database.SameButDeliveries.refl _

/-- A behaving world never rejects the token, and it sends what does not
fail. -/
theorem Behaves.attempt {failing : Int → Bool} {world : DeliveryWorld}
    (behaves : loop.Behaves failing world) (entry : BotDeliveryEntryRecord) :
    loop.attempt entry (world.reply entry) ≠ .tokenInvalid ∧
      ((loop.attempt entry (world.reply entry)).isSent = true ↔
        failing entry.clusterId = false) := by
  have outcome := behaves entry
  cases isFailing : failing entry.clusterId with
  | true =>
      rw [isFailing, if_pos rfl] at outcome
      obtain ⟨error, failed⟩ := outcome
      simp [failed, SendReply.isSent]
  | false =>
      rw [isFailing, if_neg Bool.false_ne_true] at outcome
      obtain ⟨messageId, sent⟩ := outcome
      simp [sent, SendReply.isSent]

/-- The loop over a batch delivers those of its clusters that can be sent. -/
theorem processEntries_delivers {failing : Int → Bool} {world : DeliveryWorld}
    (behaves : loop.Behaves failing world) (chatId : String)
    (entries : List BotDeliveryEntryRecord) (records : List BotDeliveryRecord)
    (state : DeliveryState) (consistent : state.db.Consistent)
    (pending : Pending state.db entries) :
    let later := (loop.processEntries world chatId entries records state).2
    later.db.Consistent ∧ Database.SameButDeliveries state.db later.db ∧
      ∀ clusterId, later.db.Delivered clusterId ↔
        state.db.Delivered clusterId ∨
          clusterId ∈ entries.map (·.clusterId) ∧ failing clusterId = false := by
  induction entries generalizing records state with
  | nil => exact ⟨consistent, .refl _, by simp [processEntries]⟩
  | cons entry entries ih =>
      have stored := pending.stored entry List.mem_cons_self
      have undelivered := pending.undelivered entry List.mem_cons_self
      obtain ⟨accepted, isSent⟩ := Behaves.attempt loop behaves entry
      generalize outcomeIs : loop.attempt entry (world.reply entry) = outcome
        at accepted isSent
      have consistentThen := processEntry_consistent consistent stored
        undelivered chatId outcome (world.clock entry)
      obtain ⟨goesOn, same⟩ := processEntry_behaves consistent stored
        undelivered accepted chatId (world.clock entry)
      obtain ⟨-, -, deliveredThen⟩ := processEntry_tables consistent stored
        undelivered chatId outcome (world.clock entry)
      have pendingThen := pending_processEntry consistent pending chatId outcome
        (world.clock entry)
      simp only [processEntries, outcomeIs]
      generalize state.processEntry chatId entry.clusterId outcome
        (world.clock entry) = processed at *
      obtain ⟨result, middle⟩ := processed
      have continued : ∀ records,
          let later := (loop.processEntries world chatId entries records middle).2
          later.db.Consistent ∧ Database.SameButDeliveries state.db later.db ∧
            ∀ clusterId, later.db.Delivered clusterId ↔
              state.db.Delivered clusterId ∨
                clusterId ∈ (entry :: entries).map (·.clusterId) ∧
                  failing clusterId = false := by
        intro records
        obtain ⟨consistentLater, sameLater, deliveredLater⟩ :=
          ih records middle consistentThen pendingThen
        refine ⟨consistentLater, same.trans sameLater, fun clusterId => ?_⟩
        rw [deliveredLater, deliveredThen, isSent, List.map_cons,
          List.mem_cons]
        by_cases isEntry : entry.clusterId = clusterId
        · subst isEntry
          tauto
        · have notEntry : clusterId ≠ entry.clusterId := Ne.symm isEntry
          tauto
      cases result with
      | delivered record => exact continued (records ++ [record])
      | skipped => exact continued records
      | stopped => exact absurd rfl goesOn

/-- A run that can bind its batch size serves the undelivered clusters from the
head of their queue. -/
theorem runOnce_serves {batchSize : Int} (positive : 1 ≤ batchSize)
    (bound : IsSqlInteger batchSize) {failing : Int → Bool}
    {world : DeliveryWorld} (behaves : loop.Behaves failing world)
    {state : DeliveryState} (consistent : state.db.Consistent)
    (configured : loop.Configured state.db.settings batchSize) :
    let later := (loop.runOnce world state).2
    later.db.Consistent ∧ Database.SameButDeliveries state.db later.db ∧
      later.db.undeliveredIds =
        serve batchSize.toNat failing state.db.undeliveredIds := by
  obtain ⟨token, chatId, starts⟩ := loop.startRun_of_configured configured
  obtain ⟨entries, listed, ids⟩ := Database.listUndeliveredEntries_ids
    state.db bound (by omega)
  rw [listed] at starts
  have pending := pending_of_listUndeliveredEntries consistent listed
  obtain ⟨consistentLater, same, delivered⟩ := loop.processEntries_delivers
    behaves chatId entries [] state consistent pending
  simp only [runOnce, starts, Except.map]
  refine ⟨consistentLater, same, ?_⟩
  rw [same.undeliveredIds_eq consistent consistentLater
    (fun clusterId => !decide (clusterId ∈
      state.db.undeliveredIds.take batchSize.toNat) || failing clusterId)]
  · exact filter_eq_serve (Database.undeliveredIds_nodup consistent)
  · intro clusterId awaits
    rw [delivered, ids]
    simp [awaits.1]
  · intro clusterId wasDelivered
    rw [delivered]
    exact .inl wasDelivered

/-- A run that cannot bind its batch size changes nothing. -/
theorem runOnce_of_unbound {batchSize : Int}
    (unbound : ¬ IsSqlInteger batchSize) (world : DeliveryWorld)
    {state : DeliveryState}
    (configured : loop.Configured state.db.settings batchSize) :
    (loop.runOnce world state).2 = state := by
  obtain ⟨token, chatId, starts⟩ := loop.startRun_of_configured configured
  have refused : listUndeliveredEntries state.db batchSize =
      .error integerOverflow := if_neg unbound
  rw [refused] at starts
  simp [runOnce, starts, Except.map]

/-- Consecutive runs. -/
def runMany (worlds : Nat → DeliveryWorld) (state : DeliveryState) :
    Nat → DeliveryState
  | 0 => state
  | count + 1 => (loop.runOnce (worlds count) (runMany worlds state count)).2

/-- Consecutive runs serve the queue round after round. -/
theorem runMany_serves {batchSize : Int} (positive : 1 ≤ batchSize)
    (bound : IsSqlInteger batchSize) {failing : Int → Bool}
    {worlds : Nat → DeliveryWorld}
    (behaves : ∀ index, loop.Behaves failing (worlds index))
    {state : DeliveryState} (consistent : state.db.Consistent)
    (configured : loop.Configured state.db.settings batchSize) (count : Nat) :
    let later := loop.runMany worlds state count
    later.db.Consistent ∧ Database.SameButDeliveries state.db later.db ∧
      later.db.undeliveredIds =
        (serve batchSize.toNat failing)^[count] state.db.undeliveredIds := by
  induction count with
  | zero => exact ⟨consistent, .refl _, rfl⟩
  | succ count ih =>
      obtain ⟨consistentThen, sameThen, idsThen⟩ := ih
      have configuredThen : loop.Configured
          (loop.runMany worlds state count).db.settings batchSize := by
        obtain ⟨_, _, dbIs⟩ := sameThen
        rw [dbIs]
        exact configured
      obtain ⟨consistentLater, sameLater, idsLater⟩ := loop.runOnce_serves
        positive bound (behaves count) consistentThen configuredThen
      refine ⟨consistentLater, sameThen.trans sameLater, ?_⟩
      rw [Function.iterate_succ_apply', ← idsThen]
      exact idsLater

theorem runMany_of_unbound {batchSize : Int}
    (unbound : ¬ IsSqlInteger batchSize) (worlds : Nat → DeliveryWorld)
    {state : DeliveryState}
    (configured : loop.Configured state.db.settings batchSize) (count : Nat) :
    loop.runMany worlds state count = state := by
  induction count with
  | zero => rfl
  | succ count ih =>
      rw [runMany, ih]
      exact loop.runOnce_of_unbound unbound (worlds count) configured

end DeliveryLoop

namespace Database

variable {db : Database}

/-- In front of a cluster in the queue stand those with smaller ids. -/
theorem countP_front_undeliveredIds (consistent : db.Consistent)
    {front back : List Int} {clusterId : Int}
    (split : db.undeliveredIds = front ++ clusterId :: back)
    (failing : Int → Bool) :
    front.countP failing = (db.awaitingClusters.filter fun other =>
      failing other && other < clusterId).length := by
  have sorted := undeliveredIds_sorted db
  have nodup := undeliveredIds_nodup consistent
  have permuted := undeliveredIds_perm consistent
  rw [split] at sorted nodup permuted
  obtain ⟨-, fromCluster, acrossCluster⟩ := List.pairwise_append.mp sorted
  obtain ⟨-, distinctBack, distinct⟩ := List.nodup_append.mp nodup
  have smaller : ∀ other ∈ front, other < clusterId := by
    intro other isFront
    have atMost := acrossCluster other isFront clusterId List.mem_cons_self
    exact lt_of_le_of_ne atMost
      (distinct other isFront clusterId List.mem_cons_self)
  have notSmaller : ∀ other ∈ clusterId :: back, ¬ other < clusterId := by
    intro other isBack
    rcases List.mem_cons.mp isBack with rfl | isLater
    · exact lt_irrefl other
    · exact not_lt.mpr ((List.pairwise_cons.mp fromCluster).1 other isLater)
  rw [← List.countP_eq_length_filter, ← permuted.countP_eq, List.countP_append]
  have noneBehind : (clusterId :: back).countP
      (fun other => failing other && decide (other < clusterId)) = 0 := by
    rw [List.countP_eq_zero]
    intro other isBack
    simp [notSmaller other isBack]
  rw [noneBehind, Nat.add_zero]
  apply List.countP_congr
  intro other isFront
  simp [smaller other isFront]

/-- The queue flows when fewer failing clusters than a batch holds have smaller
ids than a cluster that can be sent. -/
theorem flows_undeliveredIds_iff (consistent : db.Consistent) (limit : Nat)
    (failing : Int → Bool) :
    Flows limit failing db.undeliveredIds ↔
      ∀ clusterId, db.AwaitsDelivery clusterId → failing clusterId = false →
        (db.awaitingClusters.filter fun other =>
          failing other && other < clusterId).length < limit := by
  constructor
  · intro flows clusterId awaits canBeSent
    obtain ⟨front, back, split⟩ := List.append_of_mem
      ((mem_undeliveredIds consistent).mpr awaits)
    rw [← countP_front_undeliveredIds consistent split failing]
    exact flows front clusterId back split canBeSent
  · intro few front clusterId back split canBeSent
    have awaits : db.AwaitsDelivery clusterId := by
      rw [← mem_undeliveredIds consistent, split]
      simp
    rw [countP_front_undeliveredIds consistent split failing]
    exact few clusterId awaits canBeSent

end Database

section Reached

variable {loop : DeliveryLoop} {batchSize : Int} {failing : Int → Bool}
  {worlds : Nat → DeliveryWorld} {state : DeliveryState}

/-- Every cluster that can be sent is delivered after the given number of
runs. -/
def DeliveryLoop.AllDelivered (loop : DeliveryLoop) (failing : Int → Bool)
    (worlds : Nat → DeliveryWorld) (state : DeliveryState) (count : Nat) :
    Prop :=
  ∀ clusterId, state.db.AwaitsDelivery clusterId →
    failing clusterId = false →
      (loop.runMany worlds state count).db.Delivered clusterId

/-- All sendable clusters are delivered when only failing ones are left in the
queue. -/
theorem allDelivered_iff (positive : 1 ≤ batchSize)
    (bound : IsSqlInteger batchSize)
    (behaves : ∀ index, loop.Behaves failing (worlds index))
    (consistent : state.db.Consistent)
    (configured : loop.Configured state.db.settings batchSize) (count : Nat) :
    loop.AllDelivered failing worlds state count ↔
      ∀ clusterId ∈ (serve batchSize.toNat failing)^[count]
        state.db.undeliveredIds, failing clusterId = true := by
  obtain ⟨consistentLater, same, ids⟩ := loop.runMany_serves positive bound
    behaves consistent configured count
  have onlyOld := iterate_serve_subset batchSize.toNat failing count
    state.db.undeliveredIds
  rw [← ids] at onlyOld ⊢
  have sameClusters : (loop.runMany worlds state count).db.dedupeClusters =
      state.db.dedupeClusters := by
    obtain ⟨_, _, dbIs⟩ := same
    rw [dbIs]
  constructor
  · intro allDelivered clusterId isLeft
    by_contra canBeSent
    have awaited := (Database.mem_undeliveredIds consistent).mp (onlyOld isLeft)
    have awaitsStill := (Database.mem_undeliveredIds consistentLater).mp isLeft
    exact awaitsStill.1 (allDelivered clusterId awaited (by simpa using canBeSent))
  · intro onlyFailing clusterId awaited canBeSent
    by_contra undelivered
    have isLeft := (Database.mem_undeliveredIds consistentLater).mpr
      ⟨undelivered, sameClusters ▸ awaited.2⟩
    rw [onlyFailing clusterId isLeft] at canBeSent
    cases canBeSent

/-- With a batch size that can be bound, runs reach every sendable cluster
exactly when the queue of undelivered clusters flows. -/
theorem exists_allDelivered_iff (positive : 1 ≤ batchSize)
    (bound : IsSqlInteger batchSize)
    (behaves : ∀ index, loop.Behaves failing (worlds index))
    (consistent : state.db.Consistent)
    (configured : loop.Configured state.db.settings batchSize) :
    (∃ count ≤ state.db.awaitingClusters.length,
      loop.AllDelivered failing worlds state count) ↔
      ∀ clusterId, state.db.AwaitsDelivery clusterId →
        failing clusterId = false →
          (state.db.awaitingClusters.filter fun other =>
            failing other && other < clusterId).length < batchSize.toNat := by
  rw [← Database.flows_undeliveredIds_iff consistent, ← exists_cleared_iff,
    (Database.undeliveredIds_perm consistent).length_eq]
  simp only [allDelivered_iff positive bound behaves consistent configured]

end Reached

/-- Runs deliver every cluster that can be sent, as many runs as clusters await
delivery suffice, exactly when each such cluster has fewer failing clusters
with smaller ids than a batch holds and the batch size can be bound. -/
theorem runs_reach_sendable_clusters_iff (loop : DeliveryLoop)
    (batchSize : Int) (positive : 1 ≤ batchSize) (failing : Int → Bool)
    (worlds : Nat → DeliveryWorld)
    (behaves : ∀ index, loop.Behaves failing (worlds index))
    (state : DeliveryState) (consistent : state.db.Consistent)
    (configured : loop.Configured state.db.settings batchSize) :
    (∃ count ≤ state.db.awaitingClusters.length,
      ∀ clusterId, state.db.AwaitsDelivery clusterId →
        failing clusterId = false →
          (loop.runMany worlds state count).db.Delivered clusterId) ↔
      ∀ clusterId, state.db.AwaitsDelivery clusterId →
        failing clusterId = false →
          IsSqlInteger batchSize ∧
            ((state.db.awaitingClusters.filter fun other =>
              failing other && other < clusterId).length : Int) < batchSize := by
  by_cases bound : IsSqlInteger batchSize
  · have reached := exists_allDelivered_iff positive bound behaves consistent
      configured
    simp only [bound, true_and]
    refine reached.trans (forall_congr' fun clusterId => ?_)
    have fits : ∀ count : Nat, count < batchSize.toNat ↔
        (count : Int) < batchSize := by omega
    rw [fits]
  · simp only [bound, false_and]
    constructor
    · rintro ⟨count, -, delivered⟩ clusterId awaits canBeSent
      have deliveredAlready := delivered clusterId awaits canBeSent
      rw [loop.runMany_of_unbound bound worlds configured] at deliveredAlready
      exact awaits.1 deliveredAlready
    · intro noneAwaits
      refine ⟨0, Nat.zero_le _, fun clusterId awaits canBeSent => ?_⟩
      exact (noneAwaits clusterId awaits canBeSent).elim

/-- The first cluster always fails, all others are sent. -/
def firstClusterFails (clusterId : Int) : Bool :=
  clusterId == 1

/-- An API that answers accordingly. -/
def firstFailsWorld : DeliveryWorld where
  reply entry :=
    if firstClusterFails entry.clusterId then .failed "timeout" else .sent 7
  clock _ := sampleTime.timestamp

theorem firstFailsWorld_behaves :
    sampleLoop.Behaves firstClusterFails firstFailsWorld := by
  intro entry
  simp only [DeliveryLoop.attempt, sampleLoop, firstFailsWorld]
  split
  · exact ⟨"timeout", rfl⟩
  · exact ⟨7, rfl⟩

theorem sampleDeliveries_configured :
    sampleLoop.Configured sampleDeliveries.state.db.settings 1 where
  enabled := ⟨.bool true, rfl, rfl⟩
  token := ⟨.str "t", rfl, by decide⟩
  chatId := ⟨.str "c", rfl, by decide⟩
  batchSize_eq := ⟨some (.int 1), rfl, rfl⟩

theorem sample_runs_reach_sendable_iff :
    1 ≤ (1 : Int) ∧
      sampleLoop.Behaves firstClusterFails firstFailsWorld ∧
      sampleLoop.Configured sampleDeliveries.state.db.settings 1 ∧
      ((∃ count ≤ sampleDeliveries.state.db.awaitingClusters.length,
        ∀ clusterId, sampleDeliveries.state.db.AwaitsDelivery clusterId →
          firstClusterFails clusterId = false →
            (sampleLoop.runMany (fun _ => firstFailsWorld)
              sampleDeliveries.state count).db.Delivered clusterId) ↔
        ∀ clusterId, sampleDeliveries.state.db.AwaitsDelivery clusterId →
          firstClusterFails clusterId = false →
            IsSqlInteger 1 ∧
              ((sampleDeliveries.state.db.awaitingClusters.filter fun other =>
                firstClusterFails other && other < clusterId).length : Int) <
                1) :=
  ⟨le_refl 1, firstFailsWorld_behaves, sampleDeliveries_configured,
    runs_reach_sendable_clusters_iff sampleLoop 1 (le_refl 1) firstClusterFails
      (fun _ => firstFailsWorld) (fun _ => firstFailsWorld_behaves)
      sampleDeliveries.state sampleDeliveries_fresh.consistent
      sampleDeliveries_configured⟩

/-- With a batch of one, a failing first cluster keeps the second one from ever
being delivered. -/
theorem failing_cluster_starves_delivery :
    sampleDeliveries.state.db.Consistent ∧
      sampleLoop.Behaves firstClusterFails firstFailsWorld ∧
      sampleLoop.Configured sampleDeliveries.state.db.settings 1 ∧
      ¬ ∃ count ≤ sampleDeliveries.state.db.awaitingClusters.length,
        ∀ clusterId, sampleDeliveries.state.db.AwaitsDelivery clusterId →
          firstClusterFails clusterId = false →
            (sampleLoop.runMany (fun _ => firstFailsWorld)
              sampleDeliveries.state count).db.Delivered clusterId := by
  refine ⟨sampleDeliveries_fresh.consistent, firstFailsWorld_behaves,
    sampleDeliveries_configured, ?_⟩
  intro reached
  have few := (exists_allDelivered_iff (le_refl 1) (by decide)
    (fun _ => firstFailsWorld_behaves) sampleDeliveries_fresh.consistent
    sampleDeliveries_configured).mp reached
  have awaits : sampleDeliveries.state.db.AwaitsDelivery 2 :=
    Database.mem_awaitingClusters.mp (by decide)
  exact absurd (few 2 awaits rfl) (by decide)

end Tca
