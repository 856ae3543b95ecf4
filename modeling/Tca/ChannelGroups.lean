import Tca.CommittedCalls
import Tca.KeyedTables
import Tca.StorageSchema

/-!
# Channel groups and their members

A channel belongs to one group at most; a group may have any number of
channels.  The routes of the API and the pages of the UI change groups and
memberships in statements of their own, one job of the writer queue after the
other.  The UI works with one channel for a group.
-/

namespace Tca

open TableRows CommittedCall

structure ChannelGroupRow where
  id : Int
  name : String
  description : Option String
  dedupeHorizonMinutesOverride : Option Int
  deriving DecidableEq

/-- The tables of groups, channels and memberships.  A channel has one
membership at most; memberships refer to groups and channels that exist. -/
structure GroupTables where
  groups : KeyedTable ChannelGroupRow ChannelGroupRow.id
  channels : KeyedTable ChannelRow ChannelRow.id
  members : KeyedTable ChannelGroupMemberRow ChannelGroupMemberRow.channelId
  memberGroup : ∀ member ∈ members.rows, member.groupId ∈ groups.keys
  memberChannel : ∀ member ∈ members.rows, member.channelId ∈ channels.keys
  channelInteger : ∀ channel ∈ channels.rows, IsSqlInteger channel.id

/-- How a route fails: with an answer of its own or with another exception. -/
inductive RouteError where
  | httpException (status : Nat) (detail : String)
  | raised (error : PyError)
  deriving DecidableEq

abbrev GroupCall (Value : Type) :=
  CommittedCall GroupTables RouteError Value

namespace GroupTables

/-- A new database. -/
def empty : GroupTables where
  groups := ⟨[], List.nodup_nil⟩
  channels := ⟨[], List.nodup_nil⟩
  members := ⟨[], List.nodup_nil⟩
  memberGroup := by simp
  memberChannel := by simp
  channelInteger := by simp

variable (tables : GroupTables)

def insertGroup (name : String) (description : Option String)
    (horizon : Option Int) : GroupTables where
  groups := tables.groups.insert
    ⟨nextRowid tables.groups.keys, name, description, horizon⟩
    (nextRowid_notMem _)
  channels := tables.channels
  members := tables.members
  memberGroup member stored := by
    obtain ⟨group, isGroup, sameId⟩ :=
      KeyedTable.mem_keys.mp (tables.memberGroup member stored)
    exact KeyedTable.mem_keys.mpr
      ⟨group, KeyedTable.mem_insert.mpr (Or.inl isGroup), sameId⟩
  memberChannel := tables.memberChannel
  channelInteger := tables.channelInteger

def updateGroupRow (groupId : Int) (name : String)
    (description : Option String) (horizon : Option Int) : GroupTables where
  groups := tables.groups.updateWhere (fun group => group.id = groupId)
    (fun group => ⟨group.id, name, description, horizon⟩) fun _ => rfl
  channels := tables.channels
  members := tables.members
  memberGroup := by
    rw [KeyedTable.keys_updateWhere]
    exact tables.memberGroup
  memberChannel := tables.memberChannel
  channelInteger := tables.channelInteger

/-- Memberships are deleted with their group. -/
def deleteGroupRow (groupId : Int) : GroupTables where
  groups := tables.groups.deleteWhere fun group => group.id = groupId
  channels := tables.channels
  members := tables.members.deleteWhere fun member => member.groupId = groupId
  memberGroup member stored := by
    obtain ⟨wasStored, kept⟩ := KeyedTable.mem_deleteWhere.mp stored
    obtain ⟨group, isGroup, sameId⟩ :=
      KeyedTable.mem_keys.mp (tables.memberGroup member wasStored)
    refine KeyedTable.mem_keys.mpr ⟨group, ?_, sameId⟩
    exact KeyedTable.mem_deleteWhere.mpr ⟨isGroup, sameId ▸ kept⟩
  memberChannel member stored :=
    tables.memberChannel member (KeyedTable.mem_deleteWhere.mp stored).1
  channelInteger := tables.channelInteger

def insertMember (groupId channelId : Int)
    (unassigned : channelId ∉ tables.members.keys)
    (isGroup : groupId ∈ tables.groups.keys)
    (isChannel : channelId ∈ tables.channels.keys) : GroupTables where
  groups := tables.groups
  channels := tables.channels
  members := tables.members.insert ⟨groupId, channelId⟩ unassigned
  memberGroup member stored := by
    rcases KeyedTable.mem_insert.mp stored with old | rfl
    · exact tables.memberGroup member old
    · exact isGroup
  memberChannel member stored := by
    rcases KeyedTable.mem_insert.mp stored with old | rfl
    · exact tables.memberChannel member old
    · exact isChannel
  channelInteger := tables.channelInteger

def deleteMember (groupId channelId : Int) : GroupTables where
  groups := tables.groups
  channels := tables.channels
  members := tables.members.deleteWhere fun member =>
    member.groupId = groupId ∧ member.channelId = channelId
  memberGroup member stored :=
    tables.memberGroup member (KeyedTable.mem_deleteWhere.mp stored).1
  memberChannel member stored :=
    tables.memberChannel member (KeyedTable.mem_deleteWhere.mp stored).1
  channelInteger := tables.channelInteger

/-- A channel that is created elsewhere. -/
def insertChannel (channel : ChannelRow)
    (fresh : channel.id ∉ tables.channels.keys)
    (isInteger : IsSqlInteger channel.id) : GroupTables where
  groups := tables.groups
  channels := tables.channels.insert channel fresh
  members := tables.members
  memberGroup := tables.memberGroup
  memberChannel member stored := by
    obtain ⟨other, isChannel, sameId⟩ :=
      KeyedTable.mem_keys.mp (tables.memberChannel member stored)
    exact KeyedTable.mem_keys.mpr
      ⟨other, KeyedTable.mem_insert.mpr (Or.inl isChannel), sameId⟩
  channelInteger other stored := by
    rcases KeyedTable.mem_insert.mp stored with old | rfl
    · exact tables.channelInteger other old
    · exact isInteger

/-- A channel that is purged elsewhere; its membership goes with it. -/
def deleteChannel (channelId : Int) : GroupTables where
  groups := tables.groups
  channels := tables.channels.deleteWhere fun channel =>
    channel.id = channelId
  members := tables.members.deleteWhere fun member =>
    member.channelId = channelId
  memberGroup member stored :=
    tables.memberGroup member (KeyedTable.mem_deleteWhere.mp stored).1
  memberChannel member stored := by
    obtain ⟨wasStored, kept⟩ := KeyedTable.mem_deleteWhere.mp stored
    obtain ⟨channel, isChannel, sameId⟩ :=
      KeyedTable.mem_keys.mp (tables.memberChannel member wasStored)
    refine KeyedTable.mem_keys.mpr ⟨channel, ?_, sameId⟩
    exact KeyedTable.mem_deleteWhere.mpr ⟨isChannel, sameId ▸ kept⟩
  channelInteger channel stored :=
    tables.channelInteger channel (KeyedTable.mem_deleteWhere.mp stored).1

end GroupTables

section Repository

/-- Parameters of a statement that SQLite cannot hold end it. -/
def bound {Value : Type} (parameters : List Int) (result : Value) :
    Except RouteError Value :=
  if ∀ value ∈ parameters, IsSqlInteger value then .ok result
  else .error (.raised integerOverflow)

/-- `ChannelAlreadyAssignedToGroupError.for_channel`. -/
def alreadyAssigned (channelId : Int) : RouteError :=
  .raised (.channelAlreadyAssignedToGroupError
    s!"Channel '{channelId}' is already assigned to a group.")

def createGroup (name : String) (description : Option String)
    (horizon : Option Int) : GroupCall ChannelGroupRow :=
  statement fun tables => bound horizon.toList
    (⟨nextRowid tables.groups.keys, name, description, horizon⟩,
      tables.insertGroup name description horizon)

def getGroupById (groupId : Int) : GroupCall (Option ChannelGroupRow) :=
  query fun tables => bound [groupId] (tables.groups.find? groupId)

/-- The updated row, or `none` if there is no such group. -/
def updateGroup (groupId : Int) (name : String) (description : Option String)
    (horizon : Option Int) : GroupCall (Option ChannelGroupRow) :=
  statement fun tables =>
    let updated := tables.updateGroupRow groupId name description horizon
    bound (groupId :: horizon.toList) (updated.groups.find? groupId, updated)

/-- Has a group been deleted? -/
def deleteGroup (groupId : Int) : GroupCall Bool :=
  statement fun tables => bound [groupId]
    ((tables.groups.find? groupId).isSome, tables.deleteGroupRow groupId)

/-- The unique key on the channel is checked before the references. -/
def insertMemberRow (groupId channelId : Int) (tables : GroupTables) :
    Except RouteError (ChannelGroupMemberRow × GroupTables) :=
  (bound [groupId, channelId] ()).bind fun _ =>
    if unassigned : channelId ∉ tables.members.keys then
      if exist : groupId ∈ tables.groups.keys ∧
          channelId ∈ tables.channels.keys then
        .ok (⟨groupId, channelId⟩,
          tables.insertMember groupId channelId unassigned exist.1 exist.2)
      else .error (.raised (.integrityError "FOREIGN KEY constraint failed"))
    else .error (alreadyAssigned channelId)

def addChannelMembership (groupId channelId : Int) :
    GroupCall ChannelGroupMemberRow :=
  statement (insertMemberRow groupId channelId)

/-- Has a membership been removed? -/
def removeChannelMembership (groupId channelId : Int) : GroupCall Bool :=
  statement fun tables => bound [groupId, channelId]
    ((tables.members.find? channelId).any fun member =>
      member.groupId = groupId, tables.deleteMember groupId channelId)

def getMembershipByChannelId (channelId : Int) :
    GroupCall (Option ChannelGroupMemberRow) :=
  query fun tables => bound [channelId] (tables.members.find? channelId)

/-- `ChannelsRepository.get_channel_by_id`. -/
def getChannelById (channelId : Int) : GroupCall (Option ChannelRow) :=
  query fun tables => bound [channelId] (tables.channels.find? channelId)

/-- The channels of a group. -/
def GroupTables.channelsOf (tables : GroupTables) (groupId : Int) : List Int :=
  (tables.members.rows.filter fun member => member.groupId = groupId).map
    ChannelGroupMemberRow.channelId

/-- `_get_group_channel_assignment`, with `scalar_one_or_none`. -/
def getGroupChannelAssignment (groupId : Int) : GroupCall (Option Int) :=
  query fun tables =>
    (bound [groupId] (tables.channelsOf groupId)).bind fun
      | [] => .ok none
      | [channelId] => .ok (some channelId)
      | _ :: _ :: _ =>
          .error (.raised (.multipleResultsFound
            "Multiple rows were found when one or none was required"))

end Repository

section ApiRoutes

structure ChannelGroupCreateRequest where
  name : String
  nameNonempty : name ≠ ""
  description : Option String
  dedupeHorizonMinutesOverride : Option Int

/-- A field that is not set is `none`. -/
structure ChannelGroupPatchRequest where
  name : Option (Option String)
  nameNonempty : name ≠ some (some "")
  description : Option (Option String)
  dedupeHorizonMinutesOverride : Option (Option Int)

structure ChannelGroupMembershipResponse where
  groupId : Int
  channelId : Int
  isMember : Bool
  deriving DecidableEq

def groupNotFound (groupId : Int) : RouteError :=
  .httpException 404 s!"Channel group '{groupId}' was not found."

def channelNotFound (channelId : Int) : RouteError :=
  .httpException 404 s!"Channel '{channelId}' was not found."

def channelAssignmentConflict (channelId assignedGroupId : Int) : RouteError :=
  .httpException 409 (s!"Channel '{channelId}' is already assigned to group " ++
    s!"'{assignedGroupId}'.")

def createChannelGroup (payload : ChannelGroupCreateRequest) :
    GroupCall ChannelGroupRow :=
  createGroup payload.name payload.description
    payload.dedupeHorizonMinutesOverride

/-- The name that a patch gives. -/
def patchedName (payload : ChannelGroupPatchRequest)
    (current : ChannelGroupRow) : GroupCall String :=
  match payload.name with
  | none => pure current.name
  | some none =>
      raise (.httpException 400 "Field `name` cannot be null.")
  | some (some name) => pure name

def patchChannelGroup (groupId : Int) (payload : ChannelGroupPatchRequest) :
    GroupCall ChannelGroupRow := do
  match ← getGroupById groupId with
  | none => raise (groupNotFound groupId)
  | some current =>
      let updatedName ← patchedName payload current
      match ← updateGroup groupId updatedName
          (payload.description.getD current.description)
          (payload.dedupeHorizonMinutesOverride.getD
            current.dedupeHorizonMinutesOverride) with
      | none => raise (groupNotFound groupId)
      | some updated => pure updated

def deleteChannelGroup (groupId : Int) : GroupCall Int := do
  let deleted ← deleteGroup groupId
  if deleted then pure groupId else raise (groupNotFound groupId)

/-- The insertion of a membership, with its conflict as an answer. -/
def insertMembership (groupId channelId : Int) :
    GroupCall ChannelGroupMembershipResponse :=
  recover
    (do
      let _ ← addChannelMembership groupId channelId
      pure ⟨groupId, channelId, true⟩)
    fun
      | .raised (.channelAlreadyAssignedToGroupError _) => do
          let refreshed ← getMembershipByChannelId channelId
          raise (channelAssignmentConflict channelId
            ((refreshed.map ChannelGroupMemberRow.groupId).getD groupId))
      | error => raise error

def putChannelGroupMembership (groupId channelId : Int) :
    GroupCall ChannelGroupMembershipResponse := do
  match ← getGroupById groupId with
  | none => raise (groupNotFound groupId)
  | some _ =>
      match ← getChannelById channelId with
      | none => raise (channelNotFound channelId)
      | some _ =>
          match ← getMembershipByChannelId channelId with
          | some existing =>
              if existing.groupId = groupId then
                pure ⟨groupId, channelId, true⟩
              else
                raise (channelAssignmentConflict channelId existing.groupId)
          | none => insertMembership groupId channelId

def deleteChannelGroupMembership (groupId channelId : Int) :
    GroupCall ChannelGroupMembershipResponse := do
  match ← getGroupById groupId with
  | none => raise (groupNotFound groupId)
  | some _ =>
      match ← getMembershipByChannelId channelId with
      | none => pure ⟨groupId, channelId, false⟩
      | some membership =>
          if membership.groupId ≠ groupId then
            pure ⟨groupId, channelId, false⟩
          else
            let _ ← removeChannelMembership groupId channelId
            pure ⟨groupId, channelId, false⟩

end ApiRoutes

section UiRoutes

/-- The parsed form of a group. -/
structure UiGroupFormValues where
  name : String
  description : Option String
  dedupeHorizonMinutesOverride : Option Int
  channelId : Option Int

/-- `_is_membership_channel_fk_integrity_error`. -/
def isMembershipChannelFkIntegrityError (message : String) : Bool :=
  (message.toLower.splitOn "fk_channel_group_members_channel_id").length > 1 ||
    (message.toLower.splitOn "foreign key constraint failed").length > 1

/-- The channel of a new group exists and has no group. -/
def checkNewAssignment (channelId : Int) : GroupCall Bool := do
  match ← getChannelById channelId with
  | none => pure false
  | some _ =>
      match ← getMembershipByChannelId channelId with
      | some _ => raise (alreadyAssigned channelId)
      | none => pure true

/-- Assign the channel of a new group, or delete the group again. -/
def assignNewGroup (groupId channelId : Int) : GroupCall Bool :=
  recover
    (do
      let _ ← addChannelMembership groupId channelId
      pure true)
    fun
      | .raised (.integrityError message) => do
          let _ ← deleteGroup groupId
          if isMembershipChannelFkIntegrityError message then pure false
          else raise (.raised (.integrityError message))
      | .raised (.channelAlreadyAssignedToGroupError message) => do
          let _ ← deleteGroup groupId
          raise (.raised (.channelAlreadyAssignedToGroupError message))
      | error => raise error

def createGroupFromFormValues (values : UiGroupFormValues) :
    GroupCall Bool := do
  match values.channelId with
  | none =>
      let _ ← createGroup values.name values.description
        values.dedupeHorizonMinutesOverride
      pure true
  | some channelId =>
      if !(← checkNewAssignment channelId) then pure false
      else
        let created ← createGroup values.name values.description
          values.dedupeHorizonMinutesOverride
        assignNewGroup created.id channelId

/-- Remove the channel that a group had, if it had one. -/
def removeCurrent (groupId : Int) (current : Option Int) : GroupCall PUnit :=
  match current with
  | none => pure ⟨⟩
  | some channelId => do
      let _ ← removeChannelMembership groupId channelId
      pure ⟨⟩

/-- Add the channel that a group had again, if it had one. -/
def addCurrent (groupId : Int) (current : Option Int) : GroupCall PUnit :=
  match current with
  | none => pure ⟨⟩
  | some channelId => do
      let _ ← addChannelMembership groupId channelId
      pure ⟨⟩

/-- Put a channel in the place of the one that a group had. -/
def swapMembership (groupId : Int) (current : Option Int)
    (desiredChannelId : Int) : GroupCall Bool := do
  removeCurrent groupId current
  recover
    (do
      let _ ← addChannelMembership groupId desiredChannelId
      pure true)
    fun error =>
      match error with
      | .raised (.channelAlreadyAssignedToGroupError _)
      | .raised (.integrityError _) => do
          addCurrent groupId current
          raise error
      | _ => raise error

/-- The assignment to a group that exists and has the channel `current`. -/
def assignToGroup (groupId : Int) (current desiredChannelId : Option Int) :
    GroupCall Bool := do
  match desiredChannelId with
  | none =>
      removeCurrent groupId current
      pure true
  | some desired =>
      match ← getChannelById desired with
      | none => pure false
      | some _ =>
          let membership ← getMembershipByChannelId desired
          if membership.any fun member => member.groupId ≠ groupId then
            raise (alreadyAssigned desired)
          else if current = some desired then pure true
          else swapMembership groupId current desired

/-- `_assign_group_channel_membership`. -/
def assignGroupChannelMembership (groupId : Int)
    (desiredChannelId : Option Int) : GroupCall Bool := do
  match ← getGroupById groupId with
  | none => pure false
  | some _ =>
      let currentChannelId ← getGroupChannelAssignment groupId
      assignToGroup groupId currentChannelId desiredChannelId

end UiRoutes

section Operations

/-- A job of the writer queue that changes groups, memberships or channels. -/
inductive GroupOperation where
  | createChannelGroup (payload : ChannelGroupCreateRequest)
  | patchChannelGroup (groupId : Int) (payload : ChannelGroupPatchRequest)
  | deleteChannelGroup (groupId : Int)
  | putChannelGroupMembership (groupId channelId : Int)
  | deleteChannelGroupMembership (groupId channelId : Int)
  | postCreateGroup (values : UiGroupFormValues)
  | postEditGroup (groupId : Int) (values : UiGroupFormValues)
  | postAssignGroupChannel (groupId : Int) (channelId : Option Int)
  | createChannel (channel : ChannelRow)
  | purgeChannel (channelId : Int)

/-- The tables after an operation, whether it returns or raises. -/
def GroupOperation.step : GroupOperation → GroupTables → GroupTables
  | .createChannelGroup payload, tables =>
      ((Tca.createChannelGroup payload).run tables).2
  | .patchChannelGroup groupId payload, tables =>
      ((Tca.patchChannelGroup groupId payload).run tables).2
  | .deleteChannelGroup groupId, tables =>
      ((Tca.deleteChannelGroup groupId).run tables).2
  | .putChannelGroupMembership groupId channelId, tables =>
      ((Tca.putChannelGroupMembership groupId channelId).run tables).2
  | .deleteChannelGroupMembership groupId channelId, tables =>
      ((Tca.deleteChannelGroupMembership groupId channelId).run tables).2
  | .postCreateGroup values, tables =>
      ((createGroupFromFormValues values).run tables).2
  | .postEditGroup groupId values, tables =>
      ((updateGroup groupId values.name values.description
        values.dedupeHorizonMinutesOverride).run tables).2
  | .postAssignGroupChannel groupId channelId, tables =>
      ((assignGroupChannelMembership groupId channelId).run tables).2
  | .createChannel channel, tables =>
      if fresh : channel.id ∉ tables.channels.keys ∧ IsSqlInteger channel.id then
        tables.insertChannel channel fresh.1 fresh.2
      else tables
  | .purgeChannel channelId, tables => tables.deleteChannel channelId

end Operations

end Tca
