import Tca.PollingCalls

/-!
# Concurrent updates of one channel

A patch reads the columns it is not asked to change and writes them back, in
two commits on two tables; soft deletions, flood waits and cursor updates write
single columns.  All of them are jobs of the writer queue.  The file shows that
no update is lost: each field ends with the value of the last job that names
it.
-/

namespace Tca

open TableRows GuardedRuns InterleavedCalls

/-- The fields of a channel, as the repositories read them. -/
structure ChannelFields where
  name : String
  username : Option String
  isEnabled : Bool
  pausedUntil : Option Timestamp
  lastSuccessAt : Option Timestamp
  cursor : Option ChannelCursor
  deriving DecidableEq

/-- The fields that an operation names, with the values it gives them. -/
structure ChannelWrite where
  name : Option String := none
  username : Option (Option String) := none
  isEnabled : Option Bool := none
  pausedUntil : Option (Option Timestamp) := none
  lastSuccessAt : Option (Option Timestamp) := none
  cursor : Option (Option ChannelCursor) := none
  deriving DecidableEq

namespace ChannelWrite

/-- Give the named fields their values. -/
def applyTo (write : ChannelWrite) (fields : ChannelFields) :
    ChannelFields where
  name := write.name.getD fields.name
  username := write.username.getD fields.username
  isEnabled := write.isEnabled.getD fields.isEnabled
  pausedUntil := write.pausedUntil.getD fields.pausedUntil
  lastSuccessAt := write.lastSuccessAt.getD fields.lastSuccessAt
  cursor := write.cursor.getD fields.cursor

/-- No field is named by both. -/
structure Disjoint (first second : ChannelWrite) : Prop where
  name : first.name = none ∨ second.name = none
  username : first.username = none ∨ second.username = none
  isEnabled : first.isEnabled = none ∨ second.isEnabled = none
  pausedUntil : first.pausedUntil = none ∨ second.pausedUntil = none
  lastSuccessAt : first.lastSuccessAt = none ∨ second.lastSuccessAt = none
  cursor : first.cursor = none ∨ second.cursor = none

/-- The value of the last operation that names a field, or the initial value
if none does. -/
def lastNamed {Value : Type} (named : ChannelWrite → Option Value)
    (writes : List ChannelWrite) (initial : Value) : Value :=
  (writes.filterMap named).getLast?.getD initial

theorem lastNamed_cons {Value : Type} (named : ChannelWrite → Option Value)
    (write : ChannelWrite) (writes : List ChannelWrite) (initial : Value) :
    lastNamed named (write :: writes) initial =
      lastNamed named writes ((named write).getD initial) := by
  cases value : named write with
  | none => simp [lastNamed, value]
  | some given =>
      simp [lastNamed, value, List.getLast?_cons]

/-- Each field gets the value of the last operation that names it. -/
theorem foldl_applyTo (writes : List ChannelWrite) (initial : ChannelFields) :
    writes.foldl (fun fields write => write.applyTo fields) initial =
      { name := lastNamed (·.name) writes initial.name
        username := lastNamed (·.username) writes initial.username
        isEnabled := lastNamed (·.isEnabled) writes initial.isEnabled
        pausedUntil := lastNamed (·.pausedUntil) writes initial.pausedUntil
        lastSuccessAt :=
          lastNamed (·.lastSuccessAt) writes initial.lastSuccessAt
        cursor := lastNamed (·.cursor) writes initial.cursor } := by
  induction writes generalizing initial with
  | nil => rfl
  | cons write writes ih =>
      rw [List.foldl_cons, ih]
      simp only [lastNamed_cons, applyTo]

private theorem getD_comm {Value : Type} {first second : Option Value}
    (disjoint : first = none ∨ second = none) (initial : Value) :
    first.getD (second.getD initial) = second.getD (first.getD initial) := by
  rcases disjoint with rfl | rfl <;> rfl

/-- Writes that name different fields commute. -/
theorem Disjoint.applyTo_comm {first second : ChannelWrite}
    (disjoint : first.Disjoint second) (fields : ChannelFields) :
    first.applyTo (second.applyTo fields) =
      second.applyTo (first.applyTo fields) := by
  simp only [applyTo, getD_comm disjoint.name, getD_comm disjoint.username,
    getD_comm disjoint.isEnabled, getD_comm disjoint.pausedUntil,
    getD_comm disjoint.lastSuccessAt, getD_comm disjoint.cursor]

end ChannelWrite

/-- The fields that a patch names. -/
def ChannelPatchRequest.write (payload : ChannelPatchRequest) :
    ChannelWrite where
  name := payload.name.bind id
  username := payload.username
  isEnabled := payload.isEnabled.bind id
  pausedUntil := payload.pausedUntil.map coerceOptionalDatetime
  lastSuccessAt := payload.lastSuccessAt.map coerceOptionalDatetime

/-- The fields that a patch names in the polling state. -/
def ChannelPatchRequest.stateWrite (payload : ChannelPatchRequest) :
    ChannelWrite where
  pausedUntil := payload.pausedUntil.map coerceOptionalDatetime
  lastSuccessAt := payload.lastSuccessAt.map coerceOptionalDatetime

/-- What a job of the writer queue names of a channel.  A cursor that cannot be
encoded is not written. -/
def PollingPhase.write (channelId : Int) : PollingPhase → ChannelWrite
  | .patchChannel addressed payload =>
      if addressed = channelId then payload.write else {}
  | .deleteChannel addressed _ =>
      if addressed = channelId then { isEnabled := some false } else {}
  | .updatePause addressed pausedUntil =>
      if addressed = channelId then
        { pausedUntil := some (coerceOptionalDatetime (some pausedUntil)) }
      else {}
  | .updateCursor addressed cursor =>
      if addressed = channelId then
        { cursor := (encodeCursorJson cursor).toOption }
      else {}
  | _ => {}

namespace PollingStore

/-- The fields of a channel of the table. -/
def channelFields (store : PollingStore) (channelId : Int) :
    Option ChannelFields :=
  (store.channels.find? channelId).map fun row =>
    let state := store.states.find? channelId
    { name := row.name
      username := row.username
      isEnabled := row.isEnabled
      pausedUntil := coerceOptionalDatetime (state.bind (·.pausedUntil))
      lastSuccessAt := coerceOptionalDatetime (state.bind (·.lastSuccessAt))
      cursor := state.bind (·.cursor) }

end PollingStore

/-- The requests that the updates of channels consist of, with valid values:
patches, soft deletions, flood waits and cursor updates.  Time may pass between
them. -/
def PollingRequest.UpdatesChannel : PollingRequest → Prop
  | .patchChannel _ payload => payload.refusal = none
  | .deleteChannel _ purge => purge = false
  | .handleFloodWait _ _ => True
  | .updateCursor _ _ => True
  | .passTime _ => True
  | _ => False

/-- Such requests are made, and no commit fails. -/
def PollingEvent.UpdatesChannels : PollingEvent → Prop
  | .start request => request.UpdatesChannel
  | .resume _ input => input.commitProblem = none
  | .abandon _ => False

/-- What the job that an event takes from the writer queue names of a
channel. -/
def acceptedBy (channelId : Int) (event : PollingEvent)
    (system : PollingSystem) : List ChannelWrite :=
  match event with
  | .resume call _ =>
      match system.phase? call with
      | some phase =>
          if phase.queued ∧ ¬ system.store.writing then
            [phase.write channelId]
          else []
      | none => []
  | _ => []

/-- What the jobs of a run name of a channel.  The queue takes jobs in the
order in which it accepted them. -/
def acceptedWrites (channelId : Int) :
    List PollingEvent → PollingSystem → List ChannelWrite
  | [], _ => []
  | event :: events, system =>
      acceptedBy channelId event system ++
        acceptedWrites channelId events (pollingCalls.step event system)

section Effects

variable {store : PollingStore} {channelId : Int} {fields : ChannelFields}

/-- Fields of a channel of which only the row was changed. -/
theorem channelFields_updateChannel {addressed : Int}
    {set : ChannelRow → ChannelRow} {keepsId : ∀ row, (set row).id = row.id}
    {keepsAccount : ∀ row, (set row).accountId = row.accountId}
    {write : ChannelWrite}
    (names : ∀ row, (set row).name = write.name.getD row.name ∧
      (set row).username = write.username.getD row.username ∧
      (set row).isEnabled = write.isEnabled.getD row.isEnabled)
    (noState : write.pausedUntil = none ∧ write.lastSuccessAt = none ∧
      write.cursor = none)
    (stored : store.channelFields channelId = some fields) :
    (store.updateChannel addressed set keepsId keepsAccount).channelFields
        channelId =
      some ((if addressed = channelId then write else {}).applyTo fields) := by
  obtain ⟨row, found, rfl⟩ := Option.map_eq_some_iff.mp stored
  have isChannel : row.id = channelId :=
    (KeyedTable.find?_eq_some_iff.mp found).2
  obtain ⟨sameName, sameUsername, sameEnabled⟩ := names row
  obtain ⟨noPause, noSuccess, noCursor⟩ := noState
  have updated : (store.updateChannel addressed set keepsId
      keepsAccount).channels.find? channelId =
        some (if row.id = addressed then set row else row) := by
    rw [PollingStore.updateChannel, KeyedTable.find?_updateWhere, found]
    simp
  rw [PollingStore.channelFields, updated, Option.map_some]
  by_cases same : addressed = channelId
  · rw [if_pos (isChannel.trans same.symm), if_pos same]
    simp [ChannelWrite.applyTo, sameName, sameUsername, sameEnabled, noPause,
      noSuccess, noCursor, PollingStore.updateChannel]
  · have other : row.id ≠ addressed := fun equal =>
      same (equal.symm.trans isChannel)
    rw [if_neg other, if_neg same]
    rfl

/-- Fields of a channel of which only the polling state was changed. -/
theorem channelFields_writeState {addressed : Int}
    {set : ChannelStateRecord → ChannelStateRecord}
    {keepsChannel : ∀ row, (set row).channelId = row.channelId}
    {write : ChannelWrite} (sqlId : IsSqlInteger channelId)
    (noRow : write.name = none ∧ write.username = none ∧
      write.isEnabled = none)
    (stored : store.channelFields channelId = some fields)
    (names : addressed = channelId →
      ∀ old : ChannelStateRecord,
      old = (store.states.find? channelId).getD
        (PollingStore.blankState channelId) →
      coerceOptionalDatetime (set old).pausedUntil =
        write.pausedUntil.getD (coerceOptionalDatetime old.pausedUntil) ∧
      coerceOptionalDatetime (set old).lastSuccessAt =
        write.lastSuccessAt.getD (coerceOptionalDatetime old.lastSuccessAt) ∧
      (set old).cursor = write.cursor.getD old.cursor) :
    (store.writeState addressed set keepsChannel).2.channelFields channelId =
      some ((if addressed = channelId then write else {}).applyTo fields) := by
  obtain ⟨row, found, rfl⟩ := Option.map_eq_some_iff.mp stored
  obtain ⟨rowStored, isChannel⟩ := KeyedTable.find?_eq_some_iff.mp found
  have known : channelId ∈ store.channels.keys :=
    KeyedTable.mem_keys.mpr ⟨row, rowStored, isChannel⟩
  by_cases same : addressed = channelId
  · subst same
    obtain ⟨samePause, sameSuccess, sameCursor⟩ := names rfl _ rfl
    obtain ⟨noName, noUsername, noEnabled⟩ := noRow
    have written : (store.writeState addressed set keepsChannel).2 =
        store.putState addressed set keepsChannel known := by
      rw [PollingStore.writeState, if_neg (not_not.mpr sqlId), dif_pos known]
    have state : (store.putState addressed set keepsChannel
        known).states.find? addressed =
          some (set ((store.states.find? addressed).getD
            (PollingStore.blankState addressed))) := by
      simp [PollingStore.putState, KeyedTable.find?_upsert,
        PollingStore.blankState]
    have blank : ∀ {Value : Type} (column : ChannelStateRecord → Option Value),
        column (PollingStore.blankState addressed) = none →
        column ((store.states.find? addressed).getD
          (PollingStore.blankState addressed)) =
            (store.states.find? addressed).bind column := by
      intro Value column isBlank
      cases store.states.find? addressed with
      | none => exact isBlank
      | some state => rfl
    rw [written, if_pos rfl, PollingStore.channelFields, state]
    simp only [PollingStore.putState, found, Option.map_some,
      Option.bind_some, ChannelWrite.applyTo, noName, noUsername, noEnabled,
      Option.getD_none, samePause, sameSuccess, sameCursor,
      blank (·.pausedUntil) rfl, blank (·.lastSuccessAt) rfl,
      blank (·.cursor) rfl]
  · rw [if_neg same]
    rcases store.writeState_cases addressed set keepsChannel with
      ⟨problem, failed⟩ | ⟨addressedKnown, written⟩
    · rw [failed, stored]
      rfl
    · have state : (store.putState addressed set keepsChannel
          addressedKnown).states.find? channelId =
            store.states.find? channelId := by
        simp [PollingStore.putState, KeyedTable.find?_upsert,
          PollingStore.blankState, Ne.symm same]
      rw [written, PollingStore.channelFields, state]
      simp only [PollingStore.putState, found]
      rfl

/-- What the second commit of a patch still has to write. -/
def pendingWrite (channelId : Int) (channel : ChannelRow)
    (payload : ChannelPatchRequest) : ChannelWrite :=
  if channel.id = channelId then payload.stateWrite else {}

/-- The phases of the updates of channels. -/
def PollingPhase.UpdatesChannel : PollingPhase → Prop
  | .patchChannel _ payload => payload.refusal = none
  | .patchState _ _ => True
  | .deleteChannel _ purge => purge = false
  | .floodWait _ _ => True
  | .updatePause _ _ => True
  | .updateCursor _ _ => True
  | .passTime _ => True
  | _ => False

/-- The phase is the second commit of a patch. -/
def PollingPhase.Patches : PollingPhase → Prop
  | .patchState _ _ => True
  | _ => False

/-- What a phase other than the second commit of a patch does to the fields of a
channel: it writes what it names, or it leaves a part of that to the second
commit. -/
inductive PhaseEffect (channelId : Int) (phase : PollingPhase)
    (store : PollingStore) (fields : ChannelFields) :
    PollingProgress × PollingStore → Prop where
  | written (progress : PollingProgress) (later : PollingStore)
      (next : ∀ following, progress = .suspended following →
        following.UpdatesChannel ∧ ¬ following.Patches)
      (sameWriting : later.writing = store.writing)
      (stored : later.channelFields channelId =
        some ((phase.write channelId).applyTo fields)) :
      PhaseEffect channelId phase store fields (progress, later)
  | patching (channel : ChannelRow) (payload : ChannelPatchRequest)
      (later : PollingStore) (current : ChannelFields)
      (busy : later.writing = true)
      (stored : later.channelFields channelId = some current)
      (completes : (pendingWrite channelId channel payload).applyTo current =
        (phase.write channelId).applyTo fields) :
      PhaseEffect channelId phase store fields
        (.suspended (.patchState channel payload), later)

theorem applyTo_nothing (fields : ChannelFields) :
    ({} : ChannelWrite).applyTo fields = fields :=
  rfl

/-- A patch names its row columns and its state columns. -/
theorem applyTo_stateWrite (payload : ChannelPatchRequest)
    (fields : ChannelFields) :
    payload.stateWrite.applyTo
        ({ payload.write with pausedUntil := none, lastSuccessAt := none }
          |>.applyTo fields) =
      payload.write.applyTo fields :=
  rfl

/-- A job on a channel ends without a write if the channel is missing. -/
theorem withChannel_effect {addressed : Int} {phase : PollingPhase}
    {next : ChannelRow → PollingProgress × PollingStore}
    (sqlId : IsSqlInteger channelId)
    (stored : store.channelFields channelId = some fields)
    (elsewhere : addressed ≠ channelId → phase.write channelId = {})
    (goesOn : ∀ row, store.channels.find? addressed = some row →
      PhaseEffect channelId phase store fields (next row)) :
    PhaseEffect channelId phase store fields
      (withChannel addressed store next) := by
  have ends : addressed ≠ channelId → ∀ result, PhaseEffect channelId phase
      store fields (.ended result, store) := by
    intro other result
    refine .written _ store (by simp) rfl ?_
    rw [elsewhere other, stored, applyTo_nothing]
  unfold withChannel
  split
  · rename_i notSql
    exact ends (fun same => notSql (same ▸ sqlId)) _
  cases found : store.channels.find? addressed with
  | none =>
      refine ends ?_ _
      rintro rfl
      simp [PollingStore.channelFields, found] at stored
  | some row => exact goesOn row found

theorem patchChannel_effect {addressed : Int} {payload : ChannelPatchRequest}
    (sqlId : IsSqlInteger channelId) (valid : payload.refusal = none)
    (stored : store.channelFields channelId = some fields) :
    PhaseEffect channelId (.patchChannel addressed payload) store fields
      (patchChannel addressed payload store) := by
  let rowWrite : ChannelWrite :=
    { payload.write with pausedUntil := none, lastSuccessAt := none }
  have rowStored : (store.updateChannel addressed payload.applyTo
      (fun _ => rfl) fun _ => rfl).channelFields channelId =
        some ((if addressed = channelId then rowWrite else {}).applyTo
          fields) :=
    channelFields_updateChannel (fun _ => ⟨rfl, rfl, rfl⟩) ⟨rfl, rfl, rfl⟩
      stored
  refine withChannel_effect sqlId stored (fun other => if_neg other)
    fun row found => ?_
  have isAddressed : row.id = addressed :=
    (KeyedTable.find?_eq_some_iff.mp found).2
  simp only [valid]
  split
  · refine .patching _ payload _ _ rfl rowStored ?_
    simp only [pendingWrite, PollingPhase.write, ChannelPatchRequest.applyTo,
      isAddressed]
    split
    · exact applyTo_stateWrite payload fields
    · rfl
  · rename_i noState
    refine .written _ _ (by simp) rfl ?_
    have absent : payload.pausedUntil = none ∧
        payload.lastSuccessAt = none := by
      simpa [ChannelPatchRequest.SetsState] using noState
    have onlyRow : rowWrite = payload.write := by
      simp [rowWrite, ChannelPatchRequest.write, absent]
    rw [rowStored, onlyRow, PollingPhase.write]

theorem deleteChannel_effect {addressed : Int}
    (sqlId : IsSqlInteger channelId)
    (stored : store.channelFields channelId = some fields) :
    PhaseEffect channelId (.deleteChannel addressed false) store fields
      (deleteChannel addressed false store) := by
  refine withChannel_effect sqlId stored (fun other => if_neg other)
    fun row _ => ?_
  exact .written _ _ (by simp) rfl
    (channelFields_updateChannel (fun _ => ⟨rfl, rfl, rfl⟩) ⟨rfl, rfl, rfl⟩
      stored)

theorem writing_writeState (addressed : Int)
    (set : ChannelStateRecord → ChannelStateRecord)
    (keepsChannel : ∀ row, (set row).channelId = row.channelId) :
    (store.writeState addressed set keepsChannel).2.writing =
      store.writing := by
  rcases store.writeState_cases addressed set keepsChannel with
    ⟨problem, failed⟩ | ⟨known, written⟩
  · rw [failed]
  · rw [written]
    rfl

/-- A job that ends with a repository call writes what the call writes. -/
theorem endWith_effect {Value : Type} {phase : PollingPhase}
    {result : Value → PollingResult}
    {outcome : Except PyError Value × PollingStore}
    (sameWriting : outcome.2.writing = store.writing)
    (stored : outcome.2.channelFields channelId =
      some ((phase.write channelId).applyTo fields)) :
    PhaseEffect channelId phase store fields (endWith result outcome) := by
  unfold endWith
  split <;> exact .written _ _ (by simp) sameWriting stored

theorem updatePause_effect {addressed : Int} {pausedUntil : Timestamp}
    (sqlId : IsSqlInteger channelId)
    (stored : store.channelFields channelId = some fields) :
    PhaseEffect channelId (.updatePause addressed pausedUntil) store fields
      (endWith .state (store.updatePause addressed pausedUntil)) :=
  endWith_effect (writing_writeState _ _ _)
    (channelFields_writeState sqlId ⟨rfl, rfl, rfl⟩ stored
      fun _ _ _ => ⟨rfl, rfl, rfl⟩)

theorem updateCursor_effect {addressed : Int} {cursor : Option ChannelCursor}
    (sqlId : IsSqlInteger channelId)
    (stored : store.channelFields channelId = some fields) :
    PhaseEffect channelId (.updateCursor addressed cursor) store fields
      (endWith .state (store.updateCursor addressed cursor)) := by
  unfold PollingStore.updateCursor
  cases encoded : encodeCursorJson cursor with
  | error problem =>
      refine endWith_effect rfl ?_
      rw [PollingPhase.write, encoded, stored]
      split <;> rfl
  | ok value =>
      refine endWith_effect (writing_writeState _ _ _) ?_
      rw [PollingPhase.write, encoded]
      exact channelFields_writeState sqlId ⟨rfl, rfl, rfl⟩ stored
        fun _ _ _ => ⟨rfl, rfl, rfl⟩

/-- A flood wait that is accepted goes on with its job. -/
theorem floodWait_next {addressed waitSeconds : Int}
    {following : PollingPhase}
    (suspended : floodWait addressed waitSeconds store =
      .suspended following) :
    following.UpdatesChannel ∧ ¬ following.Patches := by
  unfold floodWait at suspended
  split at suspended
  · cases suspended
  split at suspended
  · cases suspended
  split at suspended
  · cases suspended
  · cases suspended
    exact ⟨trivial, not_false⟩

/-- Every phase but the second commit of a patch writes what it names. -/
theorem pollingStep_effect {phase : PollingPhase} {input : PollingInput}
    (sqlId : IsSqlInteger channelId) (updates : phase.UpdatesChannel)
    (notPatching : ¬ phase.Patches)
    (stored : store.channelFields channelId = some fields) :
    PhaseEffect channelId phase store fields
      (pollingStep phase input store) := by
  cases phase with
  | patchChannel addressed payload =>
      exact patchChannel_effect sqlId updates stored
  | patchState channel payload => exact absurd trivial notPatching
  | deleteChannel addressed purge =>
      obtain rfl : purge = false := updates
      exact deleteChannel_effect sqlId stored
  | floodWait addressed waitSeconds =>
      exact .written _ store (fun _ => floodWait_next) rfl stored
  | updatePause addressed pausedUntil => exact updatePause_effect sqlId stored
  | updateCursor addressed cursor => exact updateCursor_effect sqlId stored
  | passTime micros => exact .written _ _ (by simp) rfl stored
  | readClock | listChannels | listStates | enqueueJobs | pollNow
  | createChannel | pauseAccount | resumeAccount => exact updates.elim

private theorem coerceOptionalDatetime_idem (value : Option Timestamp) :
    coerceOptionalDatetime (coerceOptionalDatetime value) =
      coerceOptionalDatetime value := by
  cases value <;> rfl

/-- The second commit of a patch ends the job with what was still to be
written.  It reads the state that it writes back while the queue is busy. -/
theorem patchState_effect {channel : ChannelRow}
    {payload : ChannelPatchRequest} (sqlId : IsSqlInteger channelId)
    (stored : store.channelFields channelId = some fields) :
    (∃ result, (patchState channel payload none store).1 = .ended result) ∧
      (patchState channel payload none store).2.writing = false ∧
      (patchState channel payload none store).2.channelFields channelId =
        some ((pendingWrite channelId channel payload).applyTo fields) := by
  unfold patchState
  simp only [endWith_store]
  refine ⟨?_, writing_writeState _ _ _, ?_⟩
  · unfold endWith
    split <;> exact ⟨_, rfl⟩
  · refine channelFields_writeState sqlId ⟨rfl, rfl, rfl⟩ stored ?_
    rintro rfl old rfl
    have readBack : ∀ (column : ChannelStateRecord → Option Timestamp)
        (given : Option (Option Timestamp)),
        column (PollingStore.blankState channel.id) = none →
        coerceOptionalDatetime (given.getD (coerceOptionalDatetime
            ((store.states.find? channel.id).bind column))) =
          (given.map coerceOptionalDatetime).getD
            (coerceOptionalDatetime (column
              ((store.states.find? channel.id).getD
                (PollingStore.blankState channel.id)))) := by
      intro column given isBlank
      cases given with
      | some value => rfl
      | none =>
          rw [Option.getD_none, coerceOptionalDatetime_idem]
          cases store.states.find? channel.id with
          | none => simp [isBlank]
          | some state => rfl
    exact ⟨readBack (·.pausedUntil) _ rfl, readBack (·.lastSuccessAt) _ rfl,
      rfl⟩

end Effects

section Runs

variable {channelId : Int} {fields initial : ChannelFields}
  {system : PollingSystem}

/-- What a channel holds once the job that the queue is busy with has ended. -/
inductive TracksFields (channelId : Int) (system : PollingSystem)
    (fields : ChannelFields) : Prop where
  | free (idle : system.store.writing = false)
      (nonePatches : ∀ call phase, system.phase? call = some phase →
        ¬ phase.Patches)
      (stored : system.store.channelFields channelId = some fields)
  | patching (call : Nat) (channel : ChannelRow)
      (payload : ChannelPatchRequest) (current : ChannelFields)
      (busy : system.store.writing = true)
      (running : system.phase? call = some (.patchState channel payload))
      (alone : ∀ other phase, other ≠ call →
        system.phase? other = some phase → ¬ phase.Patches)
      (stored : system.store.channelFields channelId = some current)
      (completes :
        (pendingWrite channelId channel payload).applyTo current = fields)

/-- Every running call updates channels. -/
def OnlyUpdates (system : PollingSystem) : Prop :=
  ∀ call phase, system.phase? call = some phase → phase.UpdatesChannel

theorem TracksFields.stored_exists (tracks : TracksFields channelId system fields) :
    ∃ current, system.store.channelFields channelId = some current := by
  cases tracks with
  | free _ _ stored => exact ⟨_, stored⟩
  | patching _ _ _ current _ _ _ stored _ => exact ⟨current, stored⟩

theorem entered_updates {request : PollingRequest}
    (updates : request.UpdatesChannel) :
    (pollingCalls.enter request).UpdatesChannel ∧
      ¬ (pollingCalls.enter request).Patches := by
  cases request with
  | patchChannel addressed payload => exact ⟨updates, not_false⟩
  | deleteChannel addressed purge => exact ⟨updates, not_false⟩
  | handleFloodWait | updateCursor | passTime =>
      exact ⟨trivial, not_false⟩
  | runOnce | pollNow | createChannel | pauseAccount | resumeAccount =>
      exact updates.elim

/-- A phase whose turn it is takes its step. -/
theorem pollingAdvance_of_turn {phase : PollingPhase} {input : PollingInput}
    {store : PollingStore} (turn : ¬ (phase.queued ∧ store.writing)) :
    pollingAdvance phase input store = pollingStep phase input store :=
  if_neg turn

/-- A free queue takes a job: it runs to its end or leaves its second commit
to be made. -/
theorem TracksFields.resume_free {call : Nat} {phase : PollingPhase}
    {input : PollingInput} (sqlId : IsSqlInteger channelId)
    (idle : system.store.writing = false)
    (nonePatches : ∀ other phase, system.phase? other = some phase →
      ¬ phase.Patches)
    (stored : system.store.channelFields channelId = some fields)
    (running : system.phase? call = some phase)
    (updates : phase.UpdatesChannel) :
    TracksFields channelId (pollingCalls.step (.resume call input) system)
      ((phase.write channelId).applyTo fields) := by
  have notPatching := nonePatches call phase running
  have advanced : pollingCalls.advance phase input system.store =
      pollingStep phase input system.store :=
    pollingAdvance_of_turn (by simp [idle])
  have effect := @pollingStep_effect system.store channelId fields phase input
    sqlId updates notPatching stored
  have after := @Protocol.step_resume_of_some _ _ _ _ _ pollingCalls system
    call phase input running
  rw [advanced] at after
  have nextPhase := @Protocol.phase?_resume_iff _ _ _ _ _ pollingCalls system
    call phase input running
  rw [advanced] at nextPhase
  generalize pollingStep phase input system.store = outcome at *
  cases effect with
  | written progress later next sameWriting laterStored =>
      refine .free ?_ ?_ ?_
      · rw [after]
        exact sameWriting.trans idle
      · intro other following isRunning
        rcases nextPhase.mp isRunning with ⟨-, suspended⟩ | ⟨-, earlier⟩
        · exact (next following suspended).2
        · exact nonePatches other following earlier
      · rw [after]
        exact laterStored
  | patching channel payload later current busy laterStored completes =>
      refine .patching call channel payload current ?_
        (nextPhase.mpr (.inl ⟨rfl, rfl⟩)) ?_ ?_ completes
      · rw [after]
        exact busy
      · intro other following different isRunning
        rcases nextPhase.mp isRunning with ⟨same, -⟩ | ⟨-, earlier⟩
        · exact absurd same different
        · exact nonePatches other following earlier
      · rw [after]
        exact laterStored

/-- The second commit of a patch ends the job. -/
theorem TracksFields.resume_patching {call : Nat} {channel : ChannelRow}
    {payload : ChannelPatchRequest} {current : ChannelFields}
    {input : PollingInput} (sqlId : IsSqlInteger channelId)
    (commits : input.commitProblem = none)
    (running : system.phase? call = some (.patchState channel payload))
    (alone : ∀ other phase, other ≠ call →
      system.phase? other = some phase → ¬ phase.Patches)
    (stored : system.store.channelFields channelId = some current) :
    TracksFields channelId (pollingCalls.step (.resume call input) system)
      ((pendingWrite channelId channel payload).applyTo current) := by
  obtain ⟨⟨result, ended⟩, free, written⟩ :=
    @patchState_effect system.store channelId current channel payload sqlId
      stored
  have advanced : pollingCalls.advance (.patchState channel payload) input
      system.store = patchState channel payload none system.store := by
    rw [← commits]
    exact @pollingAdvance_of_turn (.patchState channel payload) input
      system.store fun waits => Bool.false_ne_true waits.1
  have after := @Protocol.step_resume_of_some _ _ _ _ _ pollingCalls system
    call (.patchState channel payload) input running
  rw [advanced] at after
  refine .free (by rw [after]; exact free) ?_ (by rw [after]; exact written)
  intro other following isRunning
  rcases (Protocol.phase?_resume_iff pollingCalls running).mp isRunning with
    ⟨-, suspended⟩ | ⟨different, earlier⟩
  · rw [advanced, ended] at suspended
    cases suspended
  · exact alone other following different earlier

/-- A phase that does not wait for the queue leaves the fields alone. -/
theorem pollingStep_unqueued {store : PollingStore} {phase : PollingPhase}
    {input : PollingInput} (updates : phase.UpdatesChannel)
    (notPatching : ¬ phase.Patches) (unqueued : phase.queued = false) :
    (∀ following, (pollingStep phase input store).1 = .suspended following →
        ¬ following.Patches) ∧
      (pollingStep phase input store).2.writing = store.writing ∧
      (pollingStep phase input store).2.channelFields channelId =
        store.channelFields channelId := by
  cases phase with
  | floodWait addressed waitSeconds =>
      exact ⟨fun _ suspended => (floodWait_next suspended).2, rfl, rfl⟩
  | passTime micros =>
      exact ⟨by simp [pollingStep], rfl, rfl⟩
  | patchState => exact absurd trivial notPatching
  | patchChannel | deleteChannel | updatePause | updateCursor =>
      cases unqueued
  | readClock | listChannels | listStates | enqueueJobs | pollNow
  | createChannel | pauseAccount | resumeAccount => exact updates.elim

theorem write_of_not_queued {phase : PollingPhase}
    (updates : phase.UpdatesChannel) (unqueued : phase.queued = false) :
    phase.write channelId = {} := by
  cases phase with
  | patchState | floodWait | passTime => rfl
  | patchChannel | deleteChannel | updatePause | updateCursor =>
      exact nomatch unqueued
  | readClock | listChannels | listStates | enqueueJobs | pollNow
  | createChannel | pauseAccount | resumeAccount => exact updates.elim

/-- While the queue is busy, the other calls wait or do not write. -/
theorem TracksFields.resume_beside {call patcher : Nat} {phase : PollingPhase}
    {channel : ChannelRow} {payload : ChannelPatchRequest}
    {current : ChannelFields} {input : PollingInput}
    (busy : system.store.writing = true)
    (patching : system.phase? patcher = some (.patchState channel payload))
    (alone : ∀ other phase, other ≠ patcher →
      system.phase? other = some phase → ¬ phase.Patches)
    (stored : system.store.channelFields channelId = some current)
    (different : call ≠ patcher)
    (running : system.phase? call = some phase)
    (updates : phase.UpdatesChannel) :
    TracksFields channelId (pollingCalls.step (.resume call input) system)
      ((pendingWrite channelId channel payload).applyTo current) := by
  have nextPhase := @Protocol.phase?_resume_iff _ _ _ _ _ pollingCalls system
    call phase input running
  have stillPatching : (pollingCalls.step (.resume call input) system).phase?
      patcher = some (.patchState channel payload) :=
    nextPhase.mpr (.inr ⟨different.symm, patching⟩)
  have notPatching := alone call phase different running
  have after := @Protocol.step_resume_of_some _ _ _ _ _ pollingCalls system
    call phase input running
  have beside : ∀ {later : PollingStore}, later.writing = true →
      later.channelFields channelId = some current →
      (pollingCalls.advance phase input system.store).2 = later →
      (∀ following, (pollingCalls.advance phase input system.store).1 =
        .suspended following → ¬ following.Patches) →
      TracksFields channelId (pollingCalls.step (.resume call input) system)
        ((pendingWrite channelId channel payload).applyTo current) := by
    rintro later laterBusy laterStored rfl next
    refine .patching patcher channel payload current (by rw [after]; exact
      laterBusy) stillPatching ?_ (by rw [after]; exact laterStored) rfl
    intro other following otherCall isRunning
    rcases nextPhase.mp isRunning with ⟨-, suspended⟩ | ⟨-, earlier⟩
    · exact next following suspended
    · exact alone other following otherCall earlier
  by_cases queued : phase.queued = true
  · have waits : pollingCalls.advance phase input system.store =
        (.suspended phase, system.store) :=
      if_pos ⟨queued, busy⟩
    refine beside busy stored (by rw [waits]) ?_
    intro following suspended
    rw [waits] at suspended
    obtain rfl := Progress.suspended.inj suspended
    exact notPatching
  · have advanced : pollingCalls.advance phase input system.store =
        pollingStep phase input system.store :=
      pollingAdvance_of_turn (by simp [queued])
    obtain ⟨next, sameWriting, sameFields⟩ :=
      @pollingStep_unqueued channelId system.store phase input updates
        notPatching (Bool.eq_false_iff.mpr queued)
    rw [advanced] at beside
    exact beside (sameWriting.trans busy) (sameFields.trans stored) rfl next

/-- A call that updates channels goes on doing so. -/
theorem updates_advance {phase following : PollingPhase}
    {input : PollingInput} {store : PollingStore}
    (sqlId : IsSqlInteger channelId)
    (stored : store.channelFields channelId = some fields)
    (commits : input.commitProblem = none) (updates : phase.UpdatesChannel)
    (suspended : (pollingAdvance phase input store).1 =
      .suspended following) : following.UpdatesChannel := by
  unfold pollingAdvance at suspended
  split at suspended
  · obtain rfl := Progress.suspended.inj suspended
    exact updates
  by_cases patches : phase.Patches
  · cases phase with
    | patchState channel payload =>
        obtain ⟨⟨result, ended⟩, -⟩ :=
          @patchState_effect store channelId fields channel payload sqlId stored
        rw [pollingStep, commits, ended] at suspended
        cases suspended
    | _ => exact patches.elim
  · have effect := @pollingStep_effect store channelId fields phase input sqlId
      updates patches stored
    generalize pollingStep phase input store = outcome at *
    cases effect with
    | written progress later next _ _ => exact (next following suspended).1
    | patching channel payload later current _ _ _ =>
        obtain rfl := Progress.suspended.inj suspended
        trivial

theorem OnlyUpdates.step {event : PollingEvent} (only : OnlyUpdates system)
    (sqlId : IsSqlInteger channelId)
    (stored : system.store.channelFields channelId = some fields)
    (allowed : event.UpdatesChannels) :
    OnlyUpdates (pollingCalls.step event system) := by
  intro call phase running
  cases event with
  | start request =>
      rcases (Protocol.phase?_start_iff pollingCalls).mp running with
        earlier | ⟨-, rfl⟩
      · exact only call phase earlier
      · exact (entered_updates allowed).1
  | resume resumed input =>
      cases found : system.phase? resumed with
      | none =>
          rw [Protocol.step_resume_of_none pollingCalls found] at running
          exact only call phase running
      | some current =>
          rcases (Protocol.phase?_resume_iff pollingCalls found).mp running
            with ⟨-, suspended⟩ | ⟨-, earlier⟩
          · exact updates_advance sqlId stored allowed (only resumed current
              found) suspended
          · exact only call phase earlier
  | abandon abandoned => exact allowed.elim

/-- A request does not touch the fields. -/
theorem TracksFields.start {request : PollingRequest}
    (updates : request.UpdatesChannel)
    (tracks : TracksFields channelId system fields) :
    TracksFields channelId (pollingCalls.step (.start request) system) fields := by
  have entered := (entered_updates updates).2
  cases tracks with
  | free idle nonePatches stored =>
      refine .free idle ?_ stored
      intro call phase running
      rcases (Protocol.phase?_start_iff pollingCalls).mp running with
        earlier | ⟨-, rfl⟩
      · exact nonePatches call phase earlier
      · exact entered
  | patching call channel payload current busy running alone stored
      completes =>
      refine .patching call channel payload current busy
        ((Protocol.phase?_start_iff pollingCalls).mpr (.inl running)) ?_
        stored completes
      intro other phase different isRunning
      rcases (Protocol.phase?_start_iff pollingCalls).mp isRunning with
        earlier | ⟨-, rfl⟩
      · exact alone other phase different earlier
      · exact entered

theorem TracksFields.resume {call : Nat} {input : PollingInput}
    (sqlId : IsSqlInteger channelId) (commits : input.commitProblem = none)
    (only : OnlyUpdates system) (tracks : TracksFields channelId system fields) :
    TracksFields channelId (pollingCalls.step (.resume call input) system)
      ((acceptedBy channelId (.resume call input) system).foldl
        (fun fields write => write.applyTo fields) fields) := by
  cases found : system.phase? call with
  | none =>
      rw [Protocol.step_resume_of_none pollingCalls found]
      simpa [acceptedBy, found] using tracks
  | some phase =>
      have updates := only call phase found
      cases tracks with
      | free idle nonePatches stored =>
          have taken := @TracksFields.resume_free channelId fields system call phase
            input sqlId idle nonePatches stored found updates
          by_cases queued : phase.queued = true
          · simpa [acceptedBy, found, queued, idle] using taken
          · have nothing : phase.write channelId = {} :=
              write_of_not_queued updates (Bool.eq_false_iff.mpr queued)
            rw [nothing, applyTo_nothing] at taken
            simpa [acceptedBy, found, queued] using taken
      | patching patcher channel payload current busy running alone stored
          completes =>
          have none : acceptedBy channelId (.resume call input) system =
              [] := by
            simp [acceptedBy, found, busy]
          rw [none, List.foldl_nil, ← completes]
          by_cases same : call = patcher
          · subst same
            exact TracksFields.resume_patching sqlId commits running alone stored
          · exact TracksFields.resume_beside busy running alone stored same found
              updates

/-- Along a run, a channel holds what the accepted operations make of it. -/
theorem TracksFields.run {events : List PollingEvent}
    (sqlId : IsSqlInteger channelId)
    (allowed : ∀ event ∈ events, PollingEvent.UpdatesChannels event)
    (only : OnlyUpdates system) (tracks : TracksFields channelId system fields) :
    TracksFields channelId (GuardedRuns.run pollingCalls.step events system)
      ((acceptedWrites channelId events system).foldl
        (fun fields write => write.applyTo fields) fields) := by
  induction events generalizing system fields with
  | nil => exact tracks
  | cons event events ih =>
      obtain ⟨allowedHere, allowedLater⟩ := List.forall_mem_cons.mp allowed
      obtain ⟨current, stored⟩ := tracks.stored_exists
      have onlyLater := only.step sqlId stored allowedHere
      have tracksLater : TracksFields channelId (pollingCalls.step event system)
          ((acceptedBy channelId event system).foldl
            (fun fields write => write.applyTo fields) fields) := by
        cases event with
        | start request => exact tracks.start allowedHere
        | resume call input => exact tracks.resume sqlId allowedHere only
        | abandon call => exact allowedHere.elim
      rw [run_cons, acceptedWrites, List.foldl_append]
      exact ih allowedLater onlyLater tracksLater

/-- When all calls have ended, nothing is left to be written. -/
theorem TracksFields.finished (tracks : TracksFields channelId system fields)
    (finished : ∀ call ∈ system.calls, call.isEnded) :
    system.store.channelFields channelId = some fields := by
  cases tracks with
  | free _ _ stored => exact stored
  | patching call channel payload current _ running _ _ _ =>
      exact nomatch finished _ (System.mem_calls_of_phase? running)

end Runs

section LastWrites

/-- The cursor of a channel, as it is stored. -/
def PollingStore.cursorOf (store : PollingStore) (channelId : Int) :
    Option ChannelCursor :=
  (store.states.find? channelId).bind (·.cursor)

theorem cursorOf_upsertState (store : PollingStore) (addressed channelId : Int)
    (pausedUntil lastSuccessAt : Option Timestamp) :
    (store.upsertState addressed pausedUntil lastSuccessAt).2.cursorOf
        channelId =
      store.cursorOf channelId := by
  unfold PollingStore.upsertState
  rcases store.writeState_cases addressed _ _ with
    ⟨problem, failed⟩ | ⟨known, written⟩
  · rw [failed]
  · rw [written, PollingStore.cursorOf, PollingStore.putState,
      KeyedTable.find?_upsert]
    split
    · rename_i same
      obtain rfl : channelId = addressed := same
      rw [PollingStore.cursorOf]
      cases found : store.states.find? channelId with
      | none => simp [PollingStore.blankState, found]
      | some state => simp [PollingStore.blankState, found]
    · rfl

/-- Neither commit of a patch touches a cursor. -/
theorem cursorOf_patch (store : PollingStore) (input : PollingInput)
    (payload : ChannelPatchRequest) (channelId : Int) :
    (∀ addressed, (pollingAdvance (.patchChannel addressed payload) input
        store).2.cursorOf channelId = store.cursorOf channelId) ∧
      ∀ channel, (pollingAdvance (.patchState channel payload) input
        store).2.cursorOf channelId = store.cursorOf channelId := by
  constructor
  · intro addressed
    unfold pollingAdvance
    split
    · rfl
    rcases @patchChannel_cases store addressed payload with
      ⟨result, refused⟩ | ⟨-, -, progress, writing, -, written⟩
    · rw [pollingStep, refused]
    · rw [pollingStep, written]
      rfl
  · intro channel
    unfold pollingAdvance
    split
    · rfl
    rw [pollingStep]
    unfold patchState
    split
    · rfl
    · rw [endWith_store, cursorOf_upsertState]
      rfl

/-- No update of a channel is lost: when all calls of a run have ended, each
field has the value of the last accepted operation that names it.  Operations
that name different fields may be accepted in either order, and a patch never
changes a cursor. -/
theorem channel_updates_not_lost {store : PollingStore} {channelId : Int}
    {initial : ChannelFields} {events : List PollingEvent}
    (sqlId : IsSqlInteger channelId) (idle : store.writing = false)
    (stored : store.channelFields channelId = some initial)
    (allowed : ∀ event ∈ events, PollingEvent.UpdatesChannels event)
    (finished : ∀ call ∈ (run pollingCalls.step events
      (System.idle store)).calls, call.isEnded) :
    let writes := acceptedWrites channelId events (System.idle store)
    let fields := (run pollingCalls.step events
      (System.idle store)).store.channelFields channelId
    fields = some
        { name := ChannelWrite.lastNamed (·.name) writes initial.name
          username :=
            ChannelWrite.lastNamed (·.username) writes initial.username
          isEnabled :=
            ChannelWrite.lastNamed (·.isEnabled) writes initial.isEnabled
          pausedUntil :=
            ChannelWrite.lastNamed (·.pausedUntil) writes initial.pausedUntil
          lastSuccessAt := ChannelWrite.lastNamed (·.lastSuccessAt) writes
            initial.lastSuccessAt
          cursor := ChannelWrite.lastNamed (·.cursor) writes initial.cursor } ∧
      (∀ reordered : List PollingEvent,
        (∀ event ∈ reordered, PollingEvent.UpdatesChannels event) →
        (∀ call ∈ (run pollingCalls.step reordered
          (System.idle store)).calls, call.isEnded) →
        ∀ before first second after,
          writes = before ++ first :: second :: after →
          acceptedWrites channelId reordered (System.idle store) =
            before ++ second :: first :: after →
          first.Disjoint second →
          (run pollingCalls.step reordered
            (System.idle store)).store.channelFields channelId = fields) ∧
      ∀ (current : PollingStore) (input : PollingInput)
        (payload : ChannelPatchRequest) (other : Int),
        (∀ addressed, (pollingAdvance (.patchChannel addressed payload) input
          current).2.cursorOf other = current.cursorOf other) ∧
        ∀ channel, (pollingAdvance (.patchState channel payload) input
          current).2.cursorOf other = current.cursorOf other := by
  have initially : TracksFields channelId (System.idle store) initial :=
    .free idle (by simp [System.idle, System.phase?]) stored
  have onlyInitially : OnlyUpdates (System.idle store) := by
    simp [OnlyUpdates, System.idle, System.phase?]
  have ends : ∀ run : List PollingEvent,
      (∀ event ∈ run, PollingEvent.UpdatesChannels event) →
      (∀ call ∈ (GuardedRuns.run pollingCalls.step run
        (System.idle store)).calls, call.isEnded) →
      (GuardedRuns.run pollingCalls.step run
          (System.idle store)).store.channelFields channelId =
        some ((acceptedWrites channelId run (System.idle store)).foldl
          (fun fields write => write.applyTo fields) initial) := by
    intro run runAllowed runFinished
    exact (initially.run sqlId runAllowed onlyInitially).finished runFinished
  refine ⟨?_, ?_, fun current input payload other =>
    cursorOf_patch current input payload other⟩
  · rw [ends events allowed finished, ChannelWrite.foldl_applyTo]
  · intro reordered reorderedAllowed reorderedFinished before first second
      after accepted reaccepted disjoint
    rw [ends events allowed finished,
      ends reordered reorderedAllowed reorderedFinished, accepted, reaccepted]
    simp only [List.foldl_append, List.foldl_cons,
      disjoint.applyTo_comm]

/-- A new name and the end of a pause. -/
def renamingPatch : ChannelPatchRequest :=
  { name := some (some "renamed"), pausedUntil := some none }

/-- A new user name for an enabled channel. -/
def enablingPatch : ChannelPatchRequest :=
  { username := some (some "user"), isEnabled := some (some true) }

/-- Two patches and a soft deletion.  The deletion and the second patch arrive
between the two commits of the first patch and have to wait. -/
def sampleUpdates : List PollingEvent :=
  [.start (.patchChannel 1 renamingPatch), .start (.deleteChannel 1 false),
    .resume 0 {}, .start (.patchChannel 1 enablingPatch), .resume 1 {},
    .resume 2 {}, .resume 0 {}, .resume 1 {}, .resume 2 {}]

theorem channel_updates_sample :
    (run pollingCalls.step sampleUpdates
        (System.idle samplePollingStore)).store.channelFields 1 =
      some ⟨"renamed", some "user", true, none, none, none⟩ :=
  (channel_updates_not_lost (by decide) rfl rfl
    (by simp [sampleUpdates, PollingEvent.UpdatesChannels,
      PollingRequest.UpdatesChannel, ChannelPatchRequest.refusal,
      renamingPatch, enablingPatch])
    (by decide)).1.trans rfl

end LastWrites

end Tca
