import Tca.ChannelGroups
import Tca.GuardedRuns

/-!
# Assigning a channel to a group in the UI

The UI takes a group to have one channel at most.  The API can give it more,
and then the assignment raises before it has done anything.  With one channel
at most the assignment returns or refuses with an error of its own, and it
changes memberships only when it returns `True`.  The file shows which runs of
both interfaces keep that.
-/

namespace Tca

open CommittedCall GuardedRuns

namespace GroupTables

variable {tables : GroupTables} {groupId channelId : Int}

theorem mem_channelsOf :
    channelId ∈ tables.channelsOf groupId ↔
      ⟨groupId, channelId⟩ ∈ tables.members.rows := by
  simp only [channelsOf, List.mem_map, List.mem_filter, decide_eq_true_eq]
  constructor
  · rintro ⟨⟨group, channel⟩, ⟨stored, rfl⟩, rfl⟩
    exact stored
  · intro stored
    exact ⟨_, ⟨stored, rfl⟩, rfl⟩

theorem isSqlInteger_of_mem (isMember : channelId ∈ tables.channelsOf groupId) :
    IsSqlInteger channelId := by
  have stored := mem_channelsOf.mp isMember
  obtain ⟨channel, isChannel, rfl⟩ :=
    KeyedTable.mem_keys.mp (tables.memberChannel _ stored)
  exact tables.channelInteger channel isChannel

theorem mem_groups_of_mem (isMember : channelId ∈ tables.channelsOf groupId) :
    groupId ∈ tables.groups.keys :=
  tables.memberGroup _ (mem_channelsOf.mp isMember)

theorem channelsOf_insertMember {other newChannel : Int}
    {unassigned : newChannel ∉ tables.members.keys}
    {isGroup : groupId ∈ tables.groups.keys}
    {isChannel : newChannel ∈ tables.channels.keys} :
    (tables.insertMember groupId newChannel unassigned isGroup
        isChannel).channelsOf other =
      if groupId = other then tables.channelsOf other ++ [newChannel]
      else tables.channelsOf other := by
  unfold channelsOf insertMember KeyedTable.insert
  dsimp only
  rw [List.filter_append]
  split
  · rename_i same
    simp [same]
  · rename_i different
    simp [different]

theorem channelsOf_deleteMember_sublist (groupId channelId other : Int) :
    ((tables.deleteMember groupId channelId).channelsOf other).Sublist
      (tables.channelsOf other) :=
  (List.filter_sublist.filter _).map _

theorem channelsOf_deleteGroupRow_sublist (groupId other : Int) :
    ((tables.deleteGroupRow groupId).channelsOf other).Sublist
      (tables.channelsOf other) :=
  (List.filter_sublist.filter _).map _

theorem channelsOf_deleteChannel_sublist (channelId other : Int) :
    ((tables.deleteChannel channelId).channelsOf other).Sublist
      (tables.channelsOf other) :=
  (List.filter_sublist.filter _).map _

theorem mem_channelsOf_deleteMember {other kept : Int} :
    kept ∈ (tables.deleteMember groupId channelId).channelsOf other ↔
      kept ∈ tables.channelsOf other ∧
        ¬ (other = groupId ∧ kept = channelId) := by
  rw [mem_channelsOf, mem_channelsOf, deleteMember, KeyedTable.mem_deleteWhere]
  simp

/-- The only channel of a group is the first one. -/
theorem head?_of_mem (few : (tables.channelsOf groupId).length ≤ 1)
    (isMember : channelId ∈ tables.channelsOf groupId) :
    (tables.channelsOf groupId).head? = some channelId := by
  cases members : tables.channelsOf groupId with
  | nil =>
      rw [members] at isMember
      cases isMember
  | cons first others =>
      rw [members] at isMember few
      have alone : others = [] :=
        List.eq_nil_of_length_eq_zero (by simpa using few)
      rw [alone, List.mem_singleton] at isMember
      rw [List.head?_cons, isMember]

/-- Every group has one channel at most. -/
def AtMostOne (tables : GroupTables) : Prop :=
  ∀ groupId, IsSqlInteger groupId → (tables.channelsOf groupId).length ≤ 1

theorem AtMostOne.of_sublist {after : GroupTables} (atMostOne : AtMostOne tables)
    (fewer : ∀ groupId, (after.channelsOf groupId).Sublist
      (tables.channelsOf groupId)) : AtMostOne after :=
  fun groupId isInteger =>
    (fewer groupId).length_le.trans (atMostOne groupId isInteger)

theorem AtMostOne.insertMember (atMostOne : AtMostOne tables)
    (noChannel : tables.channelsOf groupId = [])
    (unassigned : channelId ∉ tables.members.keys)
    (isGroup : groupId ∈ tables.groups.keys)
    (isChannel : channelId ∈ tables.channels.keys) :
    AtMostOne (tables.insertMember groupId channelId unassigned isGroup
      isChannel) := by
  intro other isInteger
  rw [channelsOf_insertMember]
  split
  · rename_i same
    subst same
    simp [noChannel]
  · exact atMostOne other isInteger

end GroupTables

section Statements

variable {tables : GroupTables} {groupId channelId : Int}

theorem run_getGroupById (isInteger : IsSqlInteger groupId) :
    (getGroupById groupId).run tables =
      (.ok (tables.groups.find? groupId), tables) := by
  simp [getGroupById, bound, isInteger]

theorem run_getGroupById_overflow (tooLarge : ¬ IsSqlInteger groupId) :
    (getGroupById groupId).run tables =
      (.error (.raised integerOverflow), tables) := by
  simp [getGroupById, bound, tooLarge]

theorem run_getChannelById (isInteger : IsSqlInteger channelId) :
    (getChannelById channelId).run tables =
      (.ok (tables.channels.find? channelId), tables) := by
  simp [getChannelById, bound, isInteger]

theorem run_getChannelById_overflow (tooLarge : ¬ IsSqlInteger channelId) :
    (getChannelById channelId).run tables =
      (.error (.raised integerOverflow), tables) := by
  simp [getChannelById, bound, tooLarge]

theorem run_getMembershipByChannelId (isInteger : IsSqlInteger channelId) :
    (getMembershipByChannelId channelId).run tables =
      (.ok (tables.members.find? channelId), tables) := by
  simp [getMembershipByChannelId, bound, isInteger]

theorem run_getGroupChannelAssignment (isInteger : IsSqlInteger groupId)
    (few : (tables.channelsOf groupId).length ≤ 1) :
    (getGroupChannelAssignment groupId).run tables =
      (.ok (tables.channelsOf groupId).head?, tables) := by
  unfold getGroupChannelAssignment
  rw [run_query]
  simp only [bound, List.mem_singleton, forall_eq, isInteger, if_true,
    Except.bind]
  cases members : tables.channelsOf groupId with
  | nil => rfl
  | cons first others =>
      cases others with
      | nil => rfl
      | cons second others => simp [members] at few

theorem run_getGroupChannelAssignment_multiple
    (isInteger : IsSqlInteger groupId)
    (many : 1 < (tables.channelsOf groupId).length) :
    (getGroupChannelAssignment groupId).run tables =
      (.error (.raised (.multipleResultsFound
        "Multiple rows were found when one or none was required")),
        tables) := by
  unfold getGroupChannelAssignment
  rw [run_query]
  simp only [bound, List.mem_singleton, forall_eq, isInteger, if_true,
    Except.bind]
  cases members : tables.channelsOf groupId with
  | nil => simp [members] at many
  | cons first others =>
      cases others with
      | nil => simp [members] at many
      | cons second others => rfl

theorem run_removeChannelMembership (groupInteger : IsSqlInteger groupId)
    (channelInteger : IsSqlInteger channelId) :
    ∃ removed, (removeChannelMembership groupId channelId).run tables =
      (.ok removed, tables.deleteMember groupId channelId) := by
  have integers : ∀ value ∈ [groupId, channelId], IsSqlInteger value := by
    simp [groupInteger, channelInteger]
  exact ⟨_, run_statement_of_ok (if_pos integers)⟩

theorem run_addChannelMembership (groupInteger : IsSqlInteger groupId)
    (channelInteger : IsSqlInteger channelId)
    (unassigned : channelId ∉ tables.members.keys)
    (isGroup : groupId ∈ tables.groups.keys)
    (isChannel : channelId ∈ tables.channels.keys) :
    (addChannelMembership groupId channelId).run tables =
      (.ok ⟨groupId, channelId⟩,
        tables.insertMember groupId channelId unassigned isGroup
          isChannel) := by
  apply run_statement_of_ok
  simp [insertMemberRow, bound, groupInteger, channelInteger, Except.bind,
    unassigned, isGroup, isChannel]

/-- A membership is inserted, or nothing is changed. -/
theorem addChannelMembership_cases (tables : GroupTables)
    (groupId channelId : Int) :
    (∃ unassigned isGroup isChannel,
      (addChannelMembership groupId channelId).run tables =
        (.ok ⟨groupId, channelId⟩,
          tables.insertMember groupId channelId unassigned isGroup
            isChannel)) ∨
      ∃ error, (addChannelMembership groupId channelId).run tables =
        (.error error, tables) := by
  rcases statement_cases (insertMemberRow groupId channelId) tables with
    ⟨row, later, executed, ran⟩ | ⟨problem, ran⟩
  · left
    rw [insertMemberRow, bound] at executed
    split at executed
    · rw [Except.bind] at executed
      split at executed
      · split at executed
        · rename_i unassigned exist
          cases executed
          exact ⟨unassigned, exist.1, exist.2, ran⟩
        · cases executed
      · cases executed
    · cases executed
  · exact Or.inr ⟨problem, ran⟩

/-- A group that has no channel is given one at most. -/
theorem atMostOne_addChannelMembership (atMostOne : tables.AtMostOne)
    (noChannel : tables.channelsOf groupId = []) :
    ((addChannelMembership groupId channelId).run tables).2.AtMostOne := by
  rcases addChannelMembership_cases tables groupId channelId with
    ⟨unassigned, isGroup, isChannel, added⟩ | ⟨error, refused⟩
  · rw [added]
    exact atMostOne.insertMember noChannel unassigned isGroup isChannel
  · rw [refused]
    exact atMostOne

end Statements

section OneAssignment

variable {tables : GroupTables} {groupId : Int} {desiredChannelId : Option Int}

/-- What is expected of an assignment: it returns, or refuses a channel that
has another group; it changes no membership unless it returns `True`, and then
the group has the channel. -/
structure AssignmentHolds (tables : GroupTables) (groupId : Int)
    (desiredChannelId : Option Int) : Prop where
  total : (∃ assigned,
      ((assignGroupChannelMembership groupId desiredChannelId).run tables).1 =
        .ok assigned) ∨
    ∃ message,
      ((assignGroupChannelMembership groupId desiredChannelId).run tables).1 =
        .error (.raised (.channelAlreadyAssignedToGroupError message))
  atomic :
    ((assignGroupChannelMembership groupId desiredChannelId).run tables).1 ≠
        .ok true →
      ((assignGroupChannelMembership groupId desiredChannelId).run
        tables).2.members = tables.members
  assigned : ∀ channelId,
    ((assignGroupChannelMembership groupId desiredChannelId).run tables).1 =
        .ok true →
      desiredChannelId = some channelId →
        channelId ∈ ((assignGroupChannelMembership groupId
          desiredChannelId).run tables).2.channelsOf groupId

/-- The ids fit into SQLite's integers, as far as they are looked up, and the
group has one channel at most. -/
def AssignmentServed (tables : GroupTables) (groupId : Int)
    (desiredChannelId : Option Int) : Prop :=
  IsSqlInteger groupId ∧
    (groupId ∈ tables.groups.keys →
      (tables.channelsOf groupId).length ≤ 1 ∧
        ∀ channelId, desiredChannelId = some channelId →
          IsSqlInteger channelId)

theorem assignmentHolds_of_run {outcome : Except RouteError Bool}
    {after : GroupTables}
    (ran : (assignGroupChannelMembership groupId desiredChannelId).run tables =
      (outcome, after))
    (total : (∃ assigned, outcome = .ok assigned) ∨ ∃ message,
      outcome = .error (.raised (.channelAlreadyAssignedToGroupError message)))
    (atomic : outcome ≠ .ok true → after.members = tables.members)
    (assigned : ∀ channelId, outcome = .ok true →
      desiredChannelId = some channelId →
        channelId ∈ after.channelsOf groupId) :
    AssignmentHolds tables groupId desiredChannelId := by
  constructor
  · rw [ran]
    exact total
  · rw [ran]
    exact atomic
  · rw [ran]
    exact assigned

theorem not_assignmentHolds_of_run {error : RouteError} {after : GroupTables}
    (ran : (assignGroupChannelMembership groupId desiredChannelId).run tables =
      (.error error, after))
    (other : ∀ message,
      error ≠ .raised (.channelAlreadyAssignedToGroupError message)) :
    ¬ AssignmentHolds tables groupId desiredChannelId := by
  intro holds
  have total := holds.total
  rw [ran] at total
  rcases total with ⟨assigned, returned⟩ | ⟨message, raised⟩
  · cases returned
  · exact other message (Except.error.inj raised)

theorem run_assign_of_some {group : ChannelGroupRow}
    (isInteger : IsSqlInteger groupId)
    (found : tables.groups.find? groupId = some group)
    (few : (tables.channelsOf groupId).length ≤ 1) :
    (assignGroupChannelMembership groupId desiredChannelId).run tables =
      (assignToGroup groupId (tables.channelsOf groupId).head?
        desiredChannelId).run tables := by
  unfold assignGroupChannelMembership
  rw [run_bind_of_ok (run_getGroupById isInteger), found]
  dsimp only
  rw [run_bind_of_ok (run_getGroupChannelAssignment isInteger few)]

/-- The only channel of a group is removed. -/
theorem run_removeCurrent (isInteger : IsSqlInteger groupId)
    (few : (tables.channelsOf groupId).length ≤ 1) :
    ∃ removed : GroupTables,
      (removeCurrent groupId (tables.channelsOf groupId).head?).run tables =
        (.ok ⟨⟩, removed) ∧
      removed.groups = tables.groups ∧ removed.channels = tables.channels ∧
      removed.channelsOf groupId = [] ∧
      (∀ channelId, channelId ∉ tables.members.keys →
        channelId ∉ removed.members.keys) ∧
      ∀ other, (removed.channelsOf other).Sublist (tables.channelsOf other) := by
  cases members : tables.channelsOf groupId with
  | nil =>
      refine ⟨tables, rfl, rfl, rfl, members, fun _ absent => absent, ?_⟩
      exact fun other => List.Sublist.refl _
  | cons current others =>
      have alone : others = [] := by
        rw [members] at few
        exact List.eq_nil_of_length_eq_zero (by simpa using few)
      have isMember : current ∈ tables.channelsOf groupId := by
        rw [members]
        exact List.mem_cons_self
      obtain ⟨removed, ran⟩ := @run_removeChannelMembership tables _ _
        isInteger (GroupTables.isSqlInteger_of_mem isMember)
      refine ⟨tables.deleteMember groupId current, ?_, rfl, rfl, ?_, ?_, ?_⟩
      · change (removeCurrent groupId (some current)).run tables = _
        exact run_bind_of_ok ran
      · apply List.eq_nil_iff_forall_not_mem.mpr
        intro channelId kept
        rw [GroupTables.mem_channelsOf_deleteMember, members, alone,
          List.mem_singleton] at kept
        exact kept.2 ⟨rfl, kept.1⟩
      · intro channelId absent kept
        obtain ⟨member, stored, sameChannel⟩ := KeyedTable.mem_keys.mp kept
        apply absent
        exact KeyedTable.mem_keys.mpr
          ⟨member, (KeyedTable.mem_deleteWhere.mp stored).1, sameChannel⟩
      · exact GroupTables.channelsOf_deleteMember_sublist groupId current

/-- The swap succeeds for a channel without a group. -/
theorem run_swapMembership {desired : Int} (isInteger : IsSqlInteger groupId)
    (desiredInteger : IsSqlInteger desired)
    (few : (tables.channelsOf groupId).length ≤ 1)
    (isGroup : groupId ∈ tables.groups.keys)
    (isChannel : desired ∈ tables.channels.keys)
    (unassigned : desired ∉ tables.members.keys) :
    ∃ after : GroupTables,
      (swapMembership groupId (tables.channelsOf groupId).head? desired).run
        tables = (.ok true, after) ∧ desired ∈ after.channelsOf groupId := by
  obtain ⟨removed, ran, sameGroups, sameChannels, -, stillFree, -⟩ :=
    run_removeCurrent isInteger few
  have added := run_addChannelMembership isInteger desiredInteger
    (stillFree desired unassigned) (sameGroups ▸ isGroup)
    (sameChannels ▸ isChannel)
  unfold swapMembership
  rw [run_bind_of_ok ran]
  refine ⟨_, run_recover_of_ok (run_bind_of_ok added), ?_⟩
  rw [GroupTables.channelsOf_insertMember, if_pos rfl]
  exact List.mem_append_right _ (List.mem_singleton_self desired)

/-- The assignment of no channel removes the one of the group. -/
theorem holds_of_none {group : ChannelGroupRow}
    (isInteger : IsSqlInteger groupId)
    (found : tables.groups.find? groupId = some group)
    (few : (tables.channelsOf groupId).length ≤ 1) :
    AssignmentHolds tables groupId none := by
  obtain ⟨removed, ran, -⟩ := run_removeCurrent isInteger few
  have whole : (assignGroupChannelMembership groupId none).run tables =
      (.ok true, removed) := by
    rw [run_assign_of_some isInteger found few]
    exact run_bind_of_ok ran
  apply assignmentHolds_of_run whole
  · exact Or.inl ⟨true, rfl⟩
  · intro other
    exact absurd rfl other
  · intro channelId _ same
    cases same

section Desired

variable {group : ChannelGroupRow} {desired : Int} {channel : ChannelRow}

/-- For a channel that exists its membership decides. -/
theorem run_assign_of_channel (isInteger : IsSqlInteger groupId)
    (desiredInteger : IsSqlInteger desired)
    (found : tables.groups.find? groupId = some group)
    (few : (tables.channelsOf groupId).length ≤ 1)
    (isChannel : tables.channels.find? desired = some channel) :
    (assignGroupChannelMembership groupId (some desired)).run tables =
      (if (tables.members.find? desired).any
          fun member => member.groupId ≠ groupId then
        raise (alreadyAssigned desired)
      else if (tables.channelsOf groupId).head? = some desired then pure true
      else swapMembership groupId (tables.channelsOf groupId).head?
        desired).run tables := by
  rw [run_assign_of_some isInteger found few]
  unfold assignToGroup
  dsimp only
  rw [run_bind_of_ok (run_getChannelById desiredInteger), isChannel]
  dsimp only
  rw [run_bind_of_ok (run_getMembershipByChannelId desiredInteger)]

/-- A channel without a group takes the place of the current one. -/
theorem holds_of_unassigned (isInteger : IsSqlInteger groupId)
    (desiredInteger : IsSqlInteger desired)
    (found : tables.groups.find? groupId = some group)
    (few : (tables.channelsOf groupId).length ≤ 1)
    (isChannel : tables.channels.find? desired = some channel)
    (membership : tables.members.find? desired = none) :
    AssignmentHolds tables groupId (some desired) := by
  have whole := run_assign_of_channel isInteger desiredInteger found few
    isChannel
  have unassigned := KeyedTable.find?_eq_none_iff.mp membership
  have notCurrent : (tables.channelsOf groupId).head? ≠ some desired := by
    intro current
    have isMember := List.mem_of_head? current
    apply unassigned
    exact KeyedTable.mem_keys.mpr
      ⟨_, GroupTables.mem_channelsOf.mp isMember, rfl⟩
  obtain ⟨after, swapped, isMember⟩ := run_swapMembership isInteger
    desiredInteger few (KeyedTable.mem_keys_of_find? found)
    (KeyedTable.mem_keys_of_find? isChannel) unassigned
  simp only [membership, Option.any_none, Bool.false_eq_true, if_false,
    if_neg notCurrent, swapped] at whole
  apply assignmentHolds_of_run whole
  · exact Or.inl ⟨true, rfl⟩
  · intro other
    exact absurd rfl other
  · intro channelId _ same
    cases same
    exact isMember

/-- A channel in a group stays there. -/
theorem holds_of_assigned {member : ChannelGroupMemberRow}
    (isInteger : IsSqlInteger groupId) (desiredInteger : IsSqlInteger desired)
    (found : tables.groups.find? groupId = some group)
    (few : (tables.channelsOf groupId).length ≤ 1)
    (isChannel : tables.channels.find? desired = some channel)
    (membership : tables.members.find? desired = some member) :
    AssignmentHolds tables groupId (some desired) := by
  have whole := run_assign_of_channel isInteger desiredInteger found few
    isChannel
  obtain ⟨memberStored, memberChannel⟩ :=
    KeyedTable.find?_eq_some_iff.mp membership
  by_cases sameGroup : member.groupId = groupId
  · have isMember : desired ∈ tables.channelsOf groupId := by
      rw [GroupTables.mem_channelsOf, ← sameGroup, ← memberChannel]
      exact memberStored
    have current := GroupTables.head?_of_mem few isMember
    simp only [membership, Option.any_some, sameGroup, ne_eq,
      not_true_eq_false, decide_false, Bool.false_eq_true, if_false,
      if_pos current] at whole
    apply assignmentHolds_of_run whole
    · exact Or.inl ⟨true, rfl⟩
    · intro other
      exact absurd rfl other
    · intro channelId _ same
      cases same
      exact isMember
  · simp only [membership, Option.any_some, ne_eq, sameGroup,
      not_false_eq_true, decide_true, if_true] at whole
    apply assignmentHolds_of_run whole
    · exact Or.inr ⟨_, rfl⟩
    · exact fun _ => rfl
    · intro channelId impossible
      cases impossible

/-- The assignment of a channel id that SQLite can hold. -/
theorem holds_of_some (isInteger : IsSqlInteger groupId)
    (desiredInteger : IsSqlInteger desired)
    (found : tables.groups.find? groupId = some group)
    (few : (tables.channelsOf groupId).length ≤ 1) :
    AssignmentHolds tables groupId (some desired) := by
  cases isChannel : tables.channels.find? desired with
  | none =>
      have whole := @run_assign_of_some _ _ (some desired) _ isInteger found few
      unfold assignToGroup at whole
      dsimp only at whole
      rw [run_bind_of_ok (run_getChannelById desiredInteger), isChannel]
        at whole
      apply assignmentHolds_of_run whole
      · exact Or.inl ⟨false, rfl⟩
      · exact fun _ => rfl
      · intro channelId impossible
        cases impossible
  | some channel =>
      cases membership : tables.members.find? desired with
      | none =>
          exact holds_of_unassigned isInteger desiredInteger found few
            isChannel membership
      | some member =>
          exact holds_of_assigned isInteger desiredInteger found few
            isChannel membership

end Desired

theorem holds_of_noGroup (isInteger : IsSqlInteger groupId)
    (notFound : tables.groups.find? groupId = none) :
    AssignmentHolds tables groupId desiredChannelId := by
  have whole : (assignGroupChannelMembership groupId desiredChannelId).run
      tables = (.ok false, tables) := by
    unfold assignGroupChannelMembership
    rw [run_bind_of_ok (run_getGroupById isInteger), notFound]
    rfl
  apply assignmentHolds_of_run whole
  · exact Or.inl ⟨false, rfl⟩
  · exact fun _ => rfl
  · intro channelId impossible
    cases impossible

theorem not_holds_of_overflow (tooLarge : ¬ IsSqlInteger groupId) :
    ¬ AssignmentHolds tables groupId desiredChannelId := by
  have whole : (assignGroupChannelMembership groupId desiredChannelId).run
      tables = (.error (.raised integerOverflow), tables) := by
    unfold assignGroupChannelMembership
    exact run_bind_of_error (run_getGroupById_overflow tooLarge)
  apply not_assignmentHolds_of_run whole
  intro message impossible
  cases impossible

/-- A group with several channels cannot be assigned one, not even none. -/
theorem not_holds_of_many {group : ChannelGroupRow}
    (isInteger : IsSqlInteger groupId)
    (found : tables.groups.find? groupId = some group)
    (many : 1 < (tables.channelsOf groupId).length) :
    ¬ AssignmentHolds tables groupId desiredChannelId := by
  have whole : (assignGroupChannelMembership groupId desiredChannelId).run
      tables = (.error (.raised (.multipleResultsFound
        "Multiple rows were found when one or none was required")),
          tables) := by
    unfold assignGroupChannelMembership
    rw [run_bind_of_ok (run_getGroupById isInteger), found]
    exact run_bind_of_error
      (run_getGroupChannelAssignment_multiple isInteger many)
  apply not_assignmentHolds_of_run whole
  intro message impossible
  cases impossible

theorem not_holds_of_desired_overflow {group : ChannelGroupRow} {desired : Int}
    (isInteger : IsSqlInteger groupId) (tooLarge : ¬ IsSqlInteger desired)
    (found : tables.groups.find? groupId = some group)
    (few : (tables.channelsOf groupId).length ≤ 1) :
    ¬ AssignmentHolds tables groupId (some desired) := by
  have whole := @run_assign_of_some _ _ (some desired) _ isInteger found few
  unfold assignToGroup at whole
  rw [run_bind_of_error (run_getChannelById_overflow tooLarge)] at whole
  apply not_assignmentHolds_of_run whole
  intro message impossible
  cases impossible

/-- An assignment does what is expected of it exactly if it is served. -/
theorem assignmentHolds_iff :
    AssignmentHolds tables groupId desiredChannelId ↔
      AssignmentServed tables groupId desiredChannelId := by
  by_cases isInteger : IsSqlInteger groupId
  · cases found : tables.groups.find? groupId with
    | none =>
        have noGroup := KeyedTable.find?_eq_none_iff.mp found
        apply iff_of_true (holds_of_noGroup isInteger found)
        exact ⟨isInteger, fun isGroup => absurd isGroup noGroup⟩
    | some group =>
        have isGroup := KeyedTable.mem_keys_of_find? found
        rcases Nat.lt_or_ge 1 (tables.channelsOf groupId).length with many | few
        · apply iff_of_false (not_holds_of_many isInteger found many)
          rintro ⟨-, served⟩
          exact absurd (served isGroup).1 (by omega)
        · cases desiredChannelId with
          | none =>
              apply iff_of_true (holds_of_none isInteger found few)
              exact ⟨isInteger, fun _ => ⟨few, by simp⟩⟩
          | some desired =>
              by_cases desiredInteger : IsSqlInteger desired
              · apply iff_of_true
                · exact holds_of_some isInteger desiredInteger found few
                · exact ⟨isInteger, fun _ => ⟨few, by simpa⟩⟩
              · apply iff_of_false
                · exact not_holds_of_desired_overflow isInteger desiredInteger
                    found few
                · rintro ⟨-, served⟩
                  exact desiredInteger ((served isGroup).2 desired rfl)
  · apply iff_of_false (not_holds_of_overflow isInteger)
    exact fun served => isInteger served.1

end OneAssignment

section Runs

variable {tables : GroupTables}

/-- The operation gives a group with a channel another one. -/
def AddsSecondChannel : GroupOperation → GroupTables → Prop
  | .putChannelGroupMembership groupId channelId, tables =>
      IsSqlInteger groupId ∧ groupId ∈ tables.groups.keys ∧
        channelId ∈ tables.channels.keys ∧ channelId ∉ tables.members.keys ∧
          tables.channelsOf groupId ≠ []
  | _, _ => False

/-- Channels are not lost from groups that have none. -/
theorem keeps_of_sublist {Value : Type}
    {execute : GroupTables → Except RouteError (Value × GroupTables)}
    (fewer : ∀ tables value later, execute tables = .ok (value, later) →
      ∀ groupId, (later.channelsOf groupId).Sublist
        (tables.channelsOf groupId)) :
    Keeps GroupTables.AtMostOne (statement execute) := by
  apply keeps_statement
  intro tables value later atMostOne executed
  exact atMostOne.of_sublist (fewer tables value later executed)

theorem bound_eq_ok {Value : Type} {parameters : List Int}
    {result value : Value} (isOk : bound parameters result = .ok value) :
    value = result := by
  unfold bound at isOk
  split at isOk
  · exact (Except.ok.inj isOk).symm
  · cases isOk

theorem keeps_createGroup (name : String) (description : Option String)
    (horizon : Option Int) :
    Keeps GroupTables.AtMostOne (createGroup name description horizon) := by
  apply keeps_of_sublist
  intro tables value later executed groupId
  cases bound_eq_ok executed
  exact List.Sublist.refl _

theorem keeps_updateGroup (groupId : Int) (name : String)
    (description : Option String) (horizon : Option Int) :
    Keeps GroupTables.AtMostOne
      (updateGroup groupId name description horizon) := by
  apply keeps_of_sublist
  intro tables value later executed other
  cases bound_eq_ok executed
  exact List.Sublist.refl _

theorem keeps_deleteGroup (groupId : Int) :
    Keeps GroupTables.AtMostOne (deleteGroup groupId) := by
  apply keeps_of_sublist
  intro tables value later executed other
  cases bound_eq_ok executed
  exact GroupTables.channelsOf_deleteGroupRow_sublist groupId other

theorem keeps_removeChannelMembership (groupId channelId : Int) :
    Keeps GroupTables.AtMostOne
      (removeChannelMembership groupId channelId) := by
  apply keeps_of_sublist
  intro tables value later executed other
  cases bound_eq_ok executed
  exact GroupTables.channelsOf_deleteMember_sublist groupId channelId other

theorem keeps_patchChannelGroup (groupId : Int)
    (payload : ChannelGroupPatchRequest) :
    Keeps GroupTables.AtMostOne (patchChannelGroup groupId payload) := by
  unfold patchChannelGroup getGroupById
  refine Keeps.bind (keeps_query _) fun current => ?_
  cases current with
  | none => exact keeps_raise _
  | some current =>
      have keepsName : Keeps GroupTables.AtMostOne
          (patchedName payload current) := by
        unfold patchedName
        split
        · exact keeps_pure _
        · exact keeps_raise _
        · exact keeps_pure _
      refine Keeps.bind keepsName fun updatedName => ?_
      refine Keeps.bind (keeps_updateGroup _ _ _ _) fun updated => ?_
      cases updated with
      | none => exact keeps_raise _
      | some updated => exact keeps_pure _

theorem keeps_deleteChannelGroup (groupId : Int) :
    Keeps GroupTables.AtMostOne (deleteChannelGroup groupId) := by
  refine Keeps.bind (keeps_deleteGroup groupId) fun deleted => ?_
  cases deleted with
  | true => exact keeps_pure _
  | false => exact keeps_raise _

theorem keeps_deleteChannelGroupMembership (groupId channelId : Int) :
    Keeps GroupTables.AtMostOne
      (deleteChannelGroupMembership groupId channelId) := by
  unfold deleteChannelGroupMembership getGroupById getMembershipByChannelId
  refine Keeps.bind (keeps_query _) fun group => ?_
  cases group with
  | none => exact keeps_raise _
  | some group =>
      refine Keeps.bind (keeps_query _) fun membership => ?_
      cases membership with
      | none => exact keeps_pure _
      | some membership =>
          dsimp only
          split
          · exact keeps_pure _
          · exact Keeps.bind (keeps_removeChannelMembership groupId channelId)
              fun _ => keeps_pure _

theorem keeps_checkNewAssignment (channelId : Int) :
    Keeps GroupTables.AtMostOne (checkNewAssignment channelId) := by
  unfold checkNewAssignment getChannelById getMembershipByChannelId
  refine Keeps.bind (keeps_query _) fun channel => ?_
  cases channel with
  | none => exact keeps_pure _
  | some channel =>
      refine Keeps.bind (keeps_query _) fun membership => ?_
      cases membership with
      | none => exact keeps_pure _
      | some membership => exact keeps_raise _

/-- A group that has no channel yet is assigned one at most. -/
theorem atMostOne_assignNewGroup {groupId channelId : Int}
    (atMostOne : tables.AtMostOne)
    (noChannel : tables.channelsOf groupId = []) :
    ((assignNewGroup groupId channelId).run tables).2.AtMostOne := by
  unfold assignNewGroup
  apply invariant_recover
  · apply invariant_bind
    · exact atMostOne_addChannelMembership atMostOne noChannel
    · exact fun _ => keeps_pure _
  · intro problem
    split
    · refine Keeps.bind (keeps_deleteGroup groupId) fun _ => ?_
      split
      · exact keeps_pure _
      · exact keeps_raise _
    · exact Keeps.bind (keeps_deleteGroup groupId) fun _ => keeps_raise _
    · exact keeps_raise _

/-- A new group has no channel. -/
theorem channelsOf_nextRowid (tables : GroupTables) :
    tables.channelsOf (TableRows.nextRowid tables.groups.keys) = [] := by
  apply List.eq_nil_iff_forall_not_mem.mpr
  intro channelId isMember
  exact TableRows.nextRowid_notMem _ (GroupTables.mem_groups_of_mem isMember)

theorem createGroup_cases (tables : GroupTables) (name : String)
    (description : Option String) (horizon : Option Int) :
    (createGroup name description horizon).run tables =
        (.ok ⟨TableRows.nextRowid tables.groups.keys, name, description,
          horizon⟩, tables.insertGroup name description horizon) ∨
      ∃ error, (createGroup name description horizon).run tables =
        (.error error, tables) := by
  by_cases integers : ∀ value ∈ horizon.toList, IsSqlInteger value
  · exact Or.inl (run_statement_of_ok (if_pos integers))
  · exact Or.inr ⟨_, run_statement_of_error (if_neg integers)⟩

theorem keeps_createGroupFromFormValues (values : UiGroupFormValues) :
    Keeps GroupTables.AtMostOne (createGroupFromFormValues values) := by
  unfold createGroupFromFormValues
  cases values.channelId with
  | none => exact Keeps.bind (keeps_createGroup _ _ _) fun _ => keeps_pure _
  | some channelId =>
      refine Keeps.bind (keeps_checkNewAssignment channelId) fun free => ?_
      cases free with
      | false => exact keeps_pure _
      | true =>
          intro tables atMostOne
          simp only [Bool.not_true, Bool.false_eq_true, if_false]
          rcases createGroup_cases tables values.name values.description
            values.dedupeHorizonMinutesOverride with created | ⟨error, failed⟩
          · rw [run_bind_of_ok created]
            apply atMostOne_assignNewGroup
            · exact atMostOne
            · exact channelsOf_nextRowid tables
          · rw [run_bind_of_error failed]
            exact atMostOne

/-- The swap ends with one channel at most, whether it succeeds or puts the old
channel back. -/
theorem atMostOne_swapMembership {groupId desired : Int}
    (isInteger : IsSqlInteger groupId) (atMostOne : tables.AtMostOne) :
    ((swapMembership groupId (tables.channelsOf groupId).head? desired).run
      tables).2.AtMostOne := by
  obtain ⟨removed, ran, -, -, noChannel, -, fewer⟩ :=
    run_removeCurrent isInteger (atMostOne groupId isInteger)
  have stillOne := atMostOne.of_sublist fewer
  have added := fun channelId =>
    @atMostOne_addChannelMembership removed groupId channelId stillOne noChannel
  unfold swapMembership
  rw [run_bind_of_ok ran]
  rcases addChannelMembership_cases removed groupId desired with
    ⟨unassigned, isGroup, isChannel, succeeded⟩ | ⟨error, failed⟩
  · rw [run_recover, run_bind_of_ok succeeded]
    exact stillOne.insertMember noChannel unassigned isGroup isChannel
  · rw [run_recover, run_bind_of_error failed]
    have putBack : ((addCurrent groupId
        (tables.channelsOf groupId).head?).run removed).2.AtMostOne := by
      unfold addCurrent
      split
      · exact stillOne
      · exact invariant_bind (added _) fun _ => keeps_pure _
    dsimp only
    split
    · exact invariant_bind putBack fun _ => keeps_raise _
    · exact invariant_bind putBack fun _ => keeps_raise _
    · exact stillOne

/-- An assignment keeps one channel at most for every group. -/
theorem keeps_assignGroupChannelMembership (groupId : Int)
    (desiredChannelId : Option Int) :
    Keeps GroupTables.AtMostOne
      (assignGroupChannelMembership groupId desiredChannelId) := by
  intro tables atMostOne
  by_cases isInteger : IsSqlInteger groupId
  · cases found : tables.groups.find? groupId with
    | none =>
        unfold assignGroupChannelMembership
        rw [run_bind_of_ok (run_getGroupById isInteger), found]
        exact atMostOne
    | some group =>
        rw [run_assign_of_some isInteger found (atMostOne groupId isInteger)]
        cases desiredChannelId with
        | none =>
            obtain ⟨removed, ran, -, -, -, -, fewer⟩ :=
              run_removeCurrent isInteger (atMostOne groupId isInteger)
            unfold assignToGroup
            dsimp only
            rw [run_bind_of_ok ran]
            exact atMostOne.of_sublist fewer
        | some desired =>
            unfold assignToGroup getChannelById getMembershipByChannelId
            dsimp only
            apply invariant_query_bind atMostOne
            intro channel
            cases channel with
            | none => exact atMostOne
            | some channel =>
                apply invariant_query_bind atMostOne
                intro membership
                split
                · exact atMostOne
                · split
                  · exact atMostOne
                  · exact atMostOne_swapMembership isInteger atMostOne
  · unfold assignGroupChannelMembership
    rw [run_bind_of_error (run_getGroupById_overflow isInteger)]
    exact atMostOne

/-- An insertion keeps one channel at most exactly if there was none. -/
theorem atMostOne_insertMember_iff {groupId channelId : Int}
    (isInteger : IsSqlInteger groupId) (atMostOne : tables.AtMostOne)
    (unassigned : channelId ∉ tables.members.keys)
    (isGroup : groupId ∈ tables.groups.keys)
    (isChannel : channelId ∈ tables.channels.keys) :
    (tables.insertMember groupId channelId unassigned isGroup
        isChannel).AtMostOne ↔ tables.channelsOf groupId = [] := by
  constructor
  · intro after
    have few := after groupId isInteger
    rw [GroupTables.channelsOf_insertMember, if_pos rfl,
      List.length_append] at few
    exact List.eq_nil_of_length_eq_zero (by simpa using few)
  · intro noChannel
    exact atMostOne.insertMember noChannel unassigned isGroup isChannel

/-- Where group and channel exist, the insertion decides. -/
theorem atMostOne_put_of_channel {groupId channelId : Int}
    {group : ChannelGroupRow} {channel : ChannelRow}
    (atMostOne : tables.AtMostOne) (isInteger : IsSqlInteger groupId)
    (channelInteger : IsSqlInteger channelId)
    (found : tables.groups.find? groupId = some group)
    (foundChannel : tables.channels.find? channelId = some channel) :
    ((putChannelGroupMembership groupId channelId).run tables).2.AtMostOne ↔
      ¬ AddsSecondChannel (.putChannelGroupMembership groupId channelId)
        tables := by
  have isGroup := KeyedTable.mem_keys_of_find? found
  have isChannel := KeyedTable.mem_keys_of_find? foundChannel
  unfold putChannelGroupMembership
  rw [run_bind_of_ok (run_getGroupById isInteger), found]
  dsimp only
  rw [run_bind_of_ok (run_getChannelById channelInteger), foundChannel]
  dsimp only
  rw [run_bind_of_ok (run_getMembershipByChannelId channelInteger)]
  cases membership : tables.members.find? channelId with
  | some member =>
      have assigned := KeyedTable.mem_keys_of_find? membership
      apply iff_of_true
      · dsimp only
        split
        · exact atMostOne
        · exact atMostOne
      · rintro ⟨-, -, -, unassigned, -⟩
        exact unassigned assigned
  | none =>
      have unassigned := KeyedTable.find?_eq_none_iff.mp membership
      have added := run_addChannelMembership isInteger channelInteger
        unassigned isGroup isChannel
      have inserted := atMostOne_insertMember_iff isInteger atMostOne
        unassigned isGroup isChannel
      dsimp only
      unfold insertMembership
      rw [run_recover, run_bind_of_ok added]
      apply inserted.trans
      simp [AddsSecondChannel, isInteger, isGroup, isChannel, unassigned]

/-- The API gives a group a second channel exactly when it puts a channel
without a group into a group with a channel. -/
theorem atMostOne_put_iff {groupId channelId : Int}
    (atMostOne : tables.AtMostOne) :
    ((putChannelGroupMembership groupId channelId).run tables).2.AtMostOne ↔
      ¬ AddsSecondChannel (.putChannelGroupMembership groupId channelId)
        tables := by
  by_cases isInteger : IsSqlInteger groupId
  · cases found : tables.groups.find? groupId with
    | none =>
        unfold putChannelGroupMembership
        rw [run_bind_of_ok (run_getGroupById isInteger), found]
        apply iff_of_true atMostOne
        rintro ⟨-, isGroup, -⟩
        exact KeyedTable.find?_eq_none_iff.mp found isGroup
    | some group =>
        by_cases channelInteger : IsSqlInteger channelId
        · cases foundChannel : tables.channels.find? channelId with
          | none =>
              unfold putChannelGroupMembership
              rw [run_bind_of_ok (run_getGroupById isInteger), found]
              dsimp only
              rw [run_bind_of_ok (run_getChannelById channelInteger),
                foundChannel]
              apply iff_of_true atMostOne
              rintro ⟨-, -, isChannel, -⟩
              exact KeyedTable.find?_eq_none_iff.mp foundChannel isChannel
          | some channel =>
              exact atMostOne_put_of_channel atMostOne isInteger
                channelInteger found foundChannel
        · unfold putChannelGroupMembership
          rw [run_bind_of_ok (run_getGroupById isInteger), found]
          dsimp only
          rw [run_bind_of_error (run_getChannelById_overflow channelInteger)]
          apply iff_of_true atMostOne
          rintro ⟨-, -, isChannel, -⟩
          obtain ⟨channel, stored, rfl⟩ := KeyedTable.mem_keys.mp isChannel
          exact channelInteger (tables.channelInteger channel stored)
  · unfold putChannelGroupMembership
    rw [run_bind_of_error (run_getGroupById_overflow isInteger)]
    exact iff_of_true atMostOne fun adds => isInteger adds.1

/-- A step keeps one channel at most for every group unless it adds a second
one. -/
theorem atMostOne_step_iff (operation : GroupOperation)
    (atMostOne : tables.AtMostOne) :
    (operation.step tables).AtMostOne ↔
      ¬ AddsSecondChannel operation tables := by
  cases operation with
  | putChannelGroupMembership groupId channelId =>
      exact atMostOne_put_iff atMostOne
  | createChannelGroup payload =>
      exact iff_of_true (keeps_createGroup _ _ _ tables atMostOne) id
  | patchChannelGroup groupId payload =>
      exact iff_of_true (keeps_patchChannelGroup _ _ tables atMostOne) id
  | deleteChannelGroup groupId =>
      exact iff_of_true (keeps_deleteChannelGroup _ tables atMostOne) id
  | deleteChannelGroupMembership groupId channelId =>
      exact iff_of_true
        (keeps_deleteChannelGroupMembership _ _ tables atMostOne) id
  | postCreateGroup values =>
      exact iff_of_true (keeps_createGroupFromFormValues _ tables atMostOne) id
  | postEditGroup groupId values =>
      exact iff_of_true (keeps_updateGroup _ _ _ _ tables atMostOne) id
  | postAssignGroupChannel groupId channelId =>
      exact iff_of_true
        (keeps_assignGroupChannelMembership _ _ tables atMostOne) id
  | createChannel channel =>
      apply iff_of_true _ id
      rw [GroupOperation.step]
      split
      · exact atMostOne
      · exact atMostOne
  | purgeChannel channelId =>
      apply iff_of_true _ id
      exact atMostOne.of_sublist
        (GroupTables.channelsOf_deleteChannel_sublist channelId)

/-- All assignments of ids that SQLite can hold do what is expected exactly if
every group has one channel at most. -/
theorem all_assignmentHolds_iff :
    (∀ groupId desiredChannelId, IsSqlInteger groupId →
        (∀ channelId, desiredChannelId = some channelId →
          IsSqlInteger channelId) →
        AssignmentHolds tables groupId desiredChannelId) ↔
      tables.AtMostOne := by
  constructor
  · intro holds groupId isInteger
    by_contra many
    cases members : tables.channelsOf groupId with
    | nil => simp [members] at many
    | cons first others =>
        have isGroup : groupId ∈ tables.groups.keys := by
          have isMember : first ∈ tables.channelsOf groupId := by
            rw [members]
            exact List.mem_cons_self
          exact GroupTables.mem_groups_of_mem isMember
        have served := assignmentHolds_iff.mp
          (holds groupId none isInteger (by simp))
        exact many (served.2 isGroup).1
  · intro atMostOne groupId desiredChannelId isInteger integers
    exact assignmentHolds_iff.mpr
      ⟨isInteger, fun _ => ⟨atMostOne groupId isInteger, integers⟩⟩

theorem atMostOne_empty : GroupTables.empty.AtMostOne := by
  intro groupId _
  exact Nat.zero_le 1

end Runs

/-- In the state that any run of both interfaces reaches, an assignment does
what is expected of it exactly if its ids fit and its group has one channel at
most; and the assignments of all ids that fit do so throughout a run exactly if
no step of the run gives a group a second channel. -/
theorem group_assignment_iff (operations : List GroupOperation) :
    (∀ groupId desiredChannelId,
      AssignmentHolds (run GroupOperation.step operations GroupTables.empty)
          groupId desiredChannelId ↔
        AssignmentServed
          (run GroupOperation.step operations GroupTables.empty) groupId
          desiredChannelId) ∧
    (Always GroupOperation.step
        (fun tables => ∀ groupId desiredChannelId, IsSqlInteger groupId →
          (∀ channelId, desiredChannelId = some channelId →
            IsSqlInteger channelId) →
          AssignmentHolds tables groupId desiredChannelId)
        operations GroupTables.empty ↔
      Guarded GroupOperation.step
        (fun operation tables => ¬ AddsSecondChannel operation tables)
        operations GroupTables.empty) := by
  constructor
  · intro groupId desiredChannelId
    exact assignmentHolds_iff
  · simp only [all_assignmentHolds_iff]
    apply always_iff_guarded_of_exact
    · intro operation tables atMostOne
      exact atMostOne_step_iff operation atMostOne
    · exact atMostOne_empty

/-- Two channels are put into one group by the API. -/
def twoChannelsRun : List GroupOperation :=
  [.createChannel ⟨1, 1, 100, "first", none, true⟩,
    .createChannel ⟨2, 1, 200, "second", none, true⟩,
    .createChannelGroup ⟨"news", by decide, none, none⟩,
    .putChannelGroupMembership 1 1, .putChannelGroupMembership 1 2]

/-- Then the UI cannot clear the group, and cannot assign it a channel. -/
theorem two_channels_break_assignment :
    ((assignGroupChannelMembership 1 none).run
        (run GroupOperation.step twoChannelsRun GroupTables.empty)).1 =
      .error (.raised (.multipleResultsFound
        "Multiple rows were found when one or none was required")) ∧
    ¬ AssignmentHolds (run GroupOperation.step twoChannelsRun
      GroupTables.empty) 1 none ∧
    ¬ AssignmentHolds (run GroupOperation.step twoChannelsRun
      GroupTables.empty) 1 (some 1) := by
  have isInteger : IsSqlInteger 1 := by decide
  have many : 1 < ((run GroupOperation.step twoChannelsRun
      GroupTables.empty).channelsOf 1).length := by decide
  have found : (run GroupOperation.step twoChannelsRun
      GroupTables.empty).groups.find? 1 = some ⟨1, "news", none, none⟩ := rfl
  refine ⟨rfl, ?_, ?_⟩
  · exact not_holds_of_many isInteger found many
  · exact not_holds_of_many isInteger found many

end Tca
