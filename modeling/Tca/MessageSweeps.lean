import Tca.BoundedPagination

/-!
# Sweeps over a channel by bounded polls

Polls follow one another, each from the cursor the one before it returned.  A
sweep starts without an offset and ends with the first poll that returns none.
The file proves that a sweep ends after finitely many polls and returns the
messages that existed at its first call, each once, and that the sweep after it
starts again from the newest message.
-/

namespace Tca

open KeysetPages

/-- Limits under which a poll can read at all. -/
def PollLimits.Positive (limits : PollLimits) : Prop :=
  0 < limits.maxPagesPerPoll ∧ 0 < limits.maxMessagesPerPoll ∧
    0 < limits.pageSize

instance (limits : PollLimits) : Decidable limits.Positive :=
  inferInstanceAs (Decidable (_ ∧ _ ∧ _))

/-- A finished poll with the states of the client around it. -/
structure FinishedPoll (World Message : Type) where
  before : World
  limits : PollLimits
  result : BoundedPaginationResult Message
  after : World
  deriving DecidableEq

section Polls

variable {World Message : Type} (integerId : Message → Option Int)

/-- Consecutive polls, each from the cursor the one before it returned. -/
def runPolls (getMessages : GetMessages World Message) :
    List PollLimits → Option ChannelCursor → World →
      Except PyError (List (FinishedPoll World Message))
  | [], _, _ => .ok []
  | limits :: others, cursor, world =>
      match fetchBoundedMessages integerId getMessages cursor limits world with
      | (.error problem, _) => .error problem
      | (.ok result, after) =>
          match runPolls getMessages others (some result.cursor) after with
          | .error problem => .error problem
          | .ok polls =>
              .ok
                ({ before := world, limits := limits, result := result,
                   after := after } :: polls)

/-- All messages that the polls returned, in the order they returned them. -/
def returnedMessages (polls : List (FinishedPoll World Message)) :
    List Message :=
  polls.flatMap (fun poll => poll.result.messages)

/-- The last of the polls, and no other, returns a cursor without an offset. -/
def CompletesSweep (polls : List (FinishedPoll World Message)) : Prop :=
  ∃ earlier last, polls = earlier ++ [last] ∧
    last.result.cursor.nextOffsetId = none ∧
      ∀ poll ∈ earlier, poll.result.cursor.nextOffsetId ≠ none

theorem completesSweep_singleton {poll : FinishedPoll World Message}
    (ends : poll.result.cursor.nextOffsetId = none) : CompletesSweep [poll] :=
  ⟨[], poll, rfl, ends, by simp⟩

theorem CompletesSweep.cons {poll : FinishedPoll World Message}
    {polls : List (FinishedPoll World Message)}
    (completes : CompletesSweep polls)
    (continues : poll.result.cursor.nextOffsetId ≠ none) :
    CompletesSweep (poll :: polls) := by
  obtain ⟨earlier, last, rfl, ends, ongoing⟩ := completes
  refine ⟨poll :: earlier, last, rfl, ends, ?_⟩
  simpa using ⟨continues, ongoing⟩

/-- The first poll of a sweep either ends it or is followed by the rest. -/
theorem CompletesSweep.cases {poll : FinishedPoll World Message}
    {polls : List (FinishedPoll World Message)}
    (completes : CompletesSweep (poll :: polls)) :
    (poll.result.cursor.nextOffsetId = none ∧ polls = []) ∨
      (poll.result.cursor.nextOffsetId ≠ none ∧ CompletesSweep polls) := by
  obtain ⟨earlier, last, split, ends, ongoing⟩ := completes
  cases earlier with
  | nil =>
      obtain ⟨rfl, rfl⟩ : poll = last ∧ polls = [] := by simpa using split
      exact .inl ⟨ends, rfl⟩
  | cons first earlier =>
      obtain ⟨rfl, rfl⟩ : poll = first ∧ polls = earlier ++ [last] := by
        simpa using split
      have later : ∀ other ∈ earlier,
          other.result.cursor.nextOffsetId ≠ none := fun other isEarlier =>
        ongoing other (List.mem_cons_of_mem _ isEarlier)
      exact .inr ⟨ongoing poll List.mem_cons_self, earlier, last, rfl, ends, later⟩

end Polls

namespace ChannelHistory

variable {Message : Type} {integerId : Message → Option Int}
  (history : ChannelHistory integerId)

/-- What one poll does with a channel: it returns a front of the unread
messages and resumes below them unless it has read everything. -/
structure Polled (cursor : Option ChannelCursor) (unread : List Message)
    (poll : FinishedPoll Nat Message) (rest : List Message) : Prop where
  unread_eq : unread = poll.result.messages ++ rest
  lastMessageId : poll.result.cursor.lastMessageId =
    ((cursor.bind ChannelCursor.lastMessageId).toList ++
      poll.result.messages.map history.id).max?
  forward : poll.before ≤ poll.after
  calls : (poll.after : Int) ≤ poll.before + poll.limits.maxPagesPerPoll
  bounded : (poll.result.messages.length : Int) ≤ poll.limits.maxMessagesPerPoll
  finished : poll.result.cursor.nextOffsetId = none → rest = []
  continues : poll.result.cursor.nextOffsetId ≠ none →
    history.Remaining poll.after poll.result.cursor.nextOffsetId rest
  advances : poll.result.cursor.nextOffsetId ≠ none →
    poll.result.messages ≠ []

/-- A poll with positive limits returns, and it reads a front of what is
unread. -/
theorem fetchBoundedMessages_polled {limits : PollLimits}
    (positive : limits.Positive) {cursor : Option ChannelCursor} {call : Nat}
    {unread : List Message}
    (remaining : history.Remaining call (cursor.bind ChannelCursor.nextOffsetId)
      unread) :
    ∃ result after rest,
      fetchBoundedMessages integerId history.getMessages cursor limits call =
          (.ok result, after) ∧
        history.Polled cursor unread ⟨call, limits, result, after⟩ rest := by
  obtain ⟨positivePages, positiveMessages, positiveSize⟩ := positive
  obtain ⟨later, after, taken, rest, returns, fetched⟩ :=
    history.fetchPages_fetched limits.maxMessagesPerPoll positiveSize
      limits.maxPagesPerPoll.toNat
      { messages := []
        offsetId := cursor.bind ChannelCursor.nextOffsetId
        mostRecentId := cursor.bind ChannelCursor.lastMessageId
        exhausted := false } call unread rfl remaining
  have notIdle : ¬(limits.maxPagesPerPoll ≤ 0 ∨ limits.maxMessagesPerPoll ≤ 0) := by
    omega
  refine ⟨later.result limits.polledAt, after, rest, ?_, ?_⟩
  · simp only [fetchBoundedMessages, if_neg notIdle, returns]
  have messages : later.messages = taken := by simpa using fetched.messages
  have calls := fetched.calls
  have bounded := fetched.bounded
  have nonempty : later.exhausted = false → taken ≠ [] := fun ongoing =>
    fetched.advances ongoing (by omega) (by simpa using positiveMessages)
  have resumable : later.exhausted = false → later.offsetId ≠ none :=
    fun ongoing => fetched.resumable ongoing (.inl (nonempty ongoing))
  -- the returned cursor has no offset exactly when the loop saw the end
  have offset_eq_none : (later.result limits.polledAt).cursor.nextOffsetId =
      none ↔ later.exhausted = true := by
    cases exhausted : later.exhausted <;>
      simp [FetchProgress.result, exhausted, resumable]
  constructor
  · show unread = later.messages ++ rest
    rw [messages]
    exact fetched.unread_eq
  · show later.mostRecentId = (_ ++ later.messages.map history.id).max?
    rw [messages]
    exact fetched.mostRecentId
  · exact fetched.forward
  · show (after : Int) ≤ call + limits.maxPagesPerPoll
    omega
  · show (later.messages.length : Int) ≤ limits.maxMessagesPerPoll
    simpa [positiveMessages.le] using bounded
  · intro noOffset
    exact fetched.finished (offset_eq_none.mp noOffset)
  · intro someOffset
    have ongoing : later.exhausted = false := by simpa using mt offset_eq_none.mpr someOffset
    simpa [FetchProgress.result, ongoing] using fetched.continues ongoing
  · intro someOffset
    have ongoing : later.exhausted = false := by simpa using mt offset_eq_none.mpr someOffset
    show later.messages ≠ []
    rw [messages]
    exact nonempty ongoing

/-- What a completed sequence of polls did with a channel whose messages were
unread: it returned them all in order, within the limits of each poll, and kept
the highest id seen so far in every cursor. -/
structure Swept (cursor : Option ChannelCursor) (call : Nat)
    (unread : List Message) (polls : List (FinishedPoll Nat Message)) :
    Prop where
  completes : CompletesSweep polls
  returned : returnedMessages polls = unread
  forward : ∀ poll ∈ polls, call ≤ poll.after
  calls : ∀ poll ∈ polls,
    (poll.after : Int) ≤ poll.before + poll.limits.maxPagesPerPoll
  bounded : ∀ poll ∈ polls,
    (poll.result.messages.length : Int) ≤ poll.limits.maxMessagesPerPoll
  lastMessageId : ∀ earlier poll later, polls = earlier ++ poll :: later →
    poll.result.cursor.lastMessageId =
      ((cursor.bind ChannelCursor.lastMessageId).toList ++
        (returnedMessages (earlier ++ [poll])).map history.id).max?

/-- A poll that finds the end of the channel is a sweep of its own. -/
theorem Polled.swept {cursor : Option ChannelCursor} {unread rest : List Message}
    {poll : FinishedPoll Nat Message}
    (polled : history.Polled cursor unread poll rest)
    (ends : poll.result.cursor.nextOffsetId = none) :
    history.Swept cursor poll.before unread [poll] where
  completes := completesSweep_singleton ends
  returned := by
    rw [polled.unread_eq, polled.finished ends]
    simp [returnedMessages]
  forward := by simpa using polled.forward
  calls := by simpa using polled.calls
  bounded := by simpa using polled.bounded
  lastMessageId := by
    intro earlier other later split
    obtain ⟨rfl, rfl, rfl⟩ : earlier = [] ∧ poll = other ∧ later = [] := by
      cases earlier <;> simp_all
    simpa [returnedMessages] using polled.lastMessageId

/-- A poll that does not find the end, followed by a sweep of the rest. -/
theorem Swept.after_poll {cursor : Option ChannelCursor}
    {unread rest : List Message} {poll : FinishedPoll Nat Message}
    {polls : List (FinishedPoll Nat Message)}
    (swept : history.Swept (some poll.result.cursor) poll.after rest polls)
    (polled : history.Polled cursor unread poll rest)
    (continues : poll.result.cursor.nextOffsetId ≠ none) :
    history.Swept cursor poll.before unread (poll :: polls) where
  completes := swept.completes.cons continues
  returned := by
    rw [polled.unread_eq, ← swept.returned]
    rfl
  forward := by
    have later : ∀ other ∈ polls, poll.before ≤ other.after :=
      fun other isLater => polled.forward.trans (swept.forward other isLater)
    simpa using ⟨polled.forward, later⟩
  calls := by
    simpa using ⟨polled.calls, swept.calls⟩
  bounded := by
    simpa using ⟨polled.bounded, swept.bounded⟩
  lastMessageId := by
    intro earlier other later split
    cases earlier with
    | nil =>
        obtain ⟨rfl, rfl⟩ : poll = other ∧ polls = later := by simpa using split
        simpa [returnedMessages] using polled.lastMessageId
    | cons first earlier =>
        obtain ⟨rfl, rfl⟩ : poll = first ∧ polls = earlier ++ other :: later := by
          simpa using split
        rw [swept.lastMessageId earlier other later rfl]
        simp only [Option.bind_some, polled.lastMessageId, max?_toList_append]
        simp [returnedMessages]

/-- Polls that complete a sweep have swept what was unread before them. -/
theorem runPolls_swept {limits : List PollLimits}
    (positive : ∀ each ∈ limits, each.Positive)
    {cursor : Option ChannelCursor} {call : Nat} {unread : List Message}
    {polls : List (FinishedPoll Nat Message)}
    (returns : runPolls integerId history.getMessages limits cursor call =
      .ok polls)
    (completes : CompletesSweep polls)
    (remaining : history.Remaining call (cursor.bind ChannelCursor.nextOffsetId)
      unread) :
    history.Swept cursor call unread polls := by
  induction limits generalizing cursor call unread polls with
  | nil =>
      obtain rfl : [] = polls := Except.ok.inj returns
      obtain ⟨earlier, last, split, -⟩ := completes
      simp at split
  | cons first others ih =>
      have positiveFirst := positive first List.mem_cons_self
      have positiveOthers : ∀ each ∈ others, each.Positive := fun each isOther =>
        positive each (List.mem_cons_of_mem _ isOther)
      obtain ⟨result, after, rest, fetches, polled⟩ :=
        history.fetchBoundedMessages_polled positiveFirst remaining
      simp only [runPolls, fetches] at returns
      cases later : runPolls integerId history.getMessages others
          (some result.cursor) after with
      | error problem => simp [later] at returns
      | ok laterPolls =>
          simp only [later, Except.ok.injEq] at returns
          subst returns
          rcases completes.cases with ⟨ends, rfl⟩ | ⟨continues, laterCompletes⟩
          · exact polled.swept history ends
          · apply Swept.after_poll history _ polled continues
            exact ih positiveOthers later laterCompletes
              (polled.continues continues)

/-- Whatever the limits, finitely many polls complete a sweep. -/
theorem runPolls_completes (limits : Nat → PollLimits)
    (positive : ∀ index, (limits index).Positive)
    (cursor : Option ChannelCursor) {call : Nat} {unread : List Message}
    (remaining : history.Remaining call (cursor.bind ChannelCursor.nextOffsetId)
      unread) :
    ∃ count polls,
      runPolls integerId history.getMessages ((List.range count).map limits)
          cursor call = .ok polls ∧
        CompletesSweep polls := by
  -- every poll that leaves an offset shortens what is unread
  induction lengthIs : unread.length using Nat.strong_induction_on
    generalizing limits cursor call unread with
  | _ size ih =>
      obtain ⟨result, after, rest, fetches, polled⟩ :=
        history.fetchBoundedMessages_polled (positive 0) remaining
      by_cases ends : result.cursor.nextOffsetId = none
      · refine ⟨1, [⟨call, limits 0, result, after⟩], ?_,
          completesSweep_singleton ends⟩
        simp [runPolls, fetches]
      · have shorter : rest.length < size := by
          have nonempty := List.length_pos_iff.mpr (polled.advances ends)
          have split := congrArg List.length polled.unread_eq
          rw [List.length_append] at split
          omega
        obtain ⟨count, polls, returns, completes⟩ :=
          ih rest.length shorter (fun index => limits (index + 1))
            (fun index => positive (index + 1)) (some result.cursor)
            (polled.continues ends) rfl
        refine ⟨count + 1, ⟨call, limits 0, result, after⟩ :: polls, ?_,
          completes.cons ends⟩
        rw [List.range_succ_eq_map, List.map_cons, List.map_map]
        simp only [runPolls, fetches]
        rw [show limits ∘ Nat.succ = fun index => limits (index + 1) from rfl,
          returns]

theorem messages_suffix {call later : Nat} (ordered : call ≤ later) :
    history.messages call <:+ history.messages later := by
  induction later, ordered using Nat.le_induction with
  | base => exact List.suffix_rfl
  | succ later _ ih => exact ih.trans (history.grows later)

theorem nodup_ids (call : Nat) :
    ((history.messages call).map history.id).Nodup := by
  rw [List.Nodup, List.pairwise_map]
  exact (history.descending call).imp (fun isLess => isLess.ne')

/-- Without an offset, everything that exists is still to be read. -/
theorem remaining_of_none {cursor : Option ChannelCursor}
    (starts : cursor.bind ChannelCursor.nextOffsetId = none) (call : Nat) :
    history.Remaining call (cursor.bind ChannelCursor.nextOffsetId)
      (history.messages call) := by
  rw [starts]
  exact unread_start history.id (history.messages call)

/-- From a cursor without an offset, finitely many polls sweep the messages
that exist at the first call. -/
theorem exists_sweep {limits : Nat → PollLimits}
    (positive : ∀ index, (limits index).Positive)
    {cursor : Option ChannelCursor}
    (starts : cursor.bind ChannelCursor.nextOffsetId = none) (call : Nat) :
    ∃ count polls,
      runPolls integerId history.getMessages ((List.range count).map limits)
          cursor call = .ok polls ∧
        history.Swept cursor call (history.messages call) polls := by
  have remaining := history.remaining_of_none starts call
  obtain ⟨count, polls, returns, completes⟩ :=
    history.runPolls_completes limits positive cursor remaining
  have listedPositive : ∀ each ∈ (List.range count).map limits,
      each.Positive := by
    intro each isListed
    obtain ⟨index, -, rfl⟩ := List.mem_map.mp isListed
    exact positive index
  exact ⟨count, polls, returns,
    history.runPolls_swept listedPositive returns completes remaining⟩

/-- No id that a sweep returned exceeds the one its last cursor holds. -/
theorem Swept.id_le_last {cursor : Option ChannelCursor} {call : Nat}
    {unread : List Message} {earlier : List (FinishedPoll Nat Message)}
    {last : FinishedPoll Nat Message} {newest : Int}
    (swept : history.Swept cursor call unread (earlier ++ [last]))
    (lastMessageId : last.result.cursor.lastMessageId = some newest)
    {message : Message}
    (isReturned : message ∈ returnedMessages (earlier ++ [last])) :
    history.id message ≤ newest := by
  have highest := swept.lastMessageId earlier last [] rfl
  rw [lastMessageId] at highest
  obtain ⟨-, isHighest⟩ := List.max?_eq_some_iff.mp highest.symm
  exact isHighest (history.id message)
    (List.mem_append_right _ (List.mem_map_of_mem isReturned))

end ChannelHistory

/-- From a cursor without an offset, whatever the limits of the polls and
whatever arrives between the calls, finitely many polls complete a sweep; they
return the messages that existed at the first call, newest first and each once,
within the limits of every poll, and every cursor holds the highest id so
far. -/
theorem polls_sweep_channel {Message : Type}
    {integerId : Message → Option Int} (history : ChannelHistory integerId)
    (limits : Nat → PollLimits) (positive : ∀ index, (limits index).Positive)
    (cursor : Option ChannelCursor)
    (starts : cursor.bind ChannelCursor.nextOffsetId = none) (call : Nat) :
    ∃ count polls,
      runPolls integerId history.getMessages ((List.range count).map limits)
          cursor call = .ok polls ∧
        history.Swept cursor call (history.messages call) polls ∧
          ((returnedMessages polls).map history.id).Nodup := by
  obtain ⟨count, polls, returns, swept⟩ :=
    history.exists_sweep positive starts call
  refine ⟨count, polls, returns, swept, ?_⟩
  rw [swept.returned]
  exact history.nodup_ids call

/-- A channel with three messages; a fourth arrives after the first call. -/
def growingChannel : ChannelHistory (fun message : Int => some message) where
  messages call := if call = 0 then [3, 2, 1] else [4, 3, 2, 1]
  id message := message
  integerId_eq := by simp
  positive := by
    intro call message isMessage
    split at isMessage <;> simp at isMessage <;> omega
  descending := by
    intro call
    split <;> simp [Descending]
  grows := by
    intro call
    by_cases first : call = 0
    · exact ⟨[4], by simp [first]⟩
    · exact ⟨[], by simp [first]⟩

/-- One page of two messages for each poll. -/
def twoMessagesPerPoll : PollLimits :=
  { maxPagesPerPoll := 1
    maxMessagesPerPoll := 5
    pageSize := 2
    polledAt := { wall := ⟨0, wallLimit_pos⟩, offset := some UtcOffset.utc } }

theorem twoMessagesPerPoll_positive : twoMessagesPerPoll.Positive := by
  decide

theorem polls_sweep_growingChannel :
    twoMessagesPerPoll.Positive ∧
      ∃ count polls,
        runPolls some growingChannel.getMessages
            ((List.range count).map (fun _ => twoMessagesPerPoll)) none 0 =
          .ok polls ∧
        growingChannel.Swept none 0 [3, 2, 1] polls ∧
          ((returnedMessages polls).map growingChannel.id).Nodup :=
  ⟨twoMessagesPerPoll_positive,
    polls_sweep_channel growingChannel (fun _ => twoMessagesPerPoll)
      (fun _ => twoMessagesPerPoll_positive) none rfl 0⟩

/-- The sweep after a completed one starts over: it returns every message that
exists at its first call, each once, the messages above the highest id of the
completed sweep as well as all that were returned before. -/
theorem next_sweep_starts_over {Message : Type}
    {integerId : Message → Option Int} (history : ChannelHistory integerId)
    (limits : List PollLimits) (positive : ∀ each ∈ limits, each.Positive)
    (cursor : Option ChannelCursor)
    (starts : cursor.bind ChannelCursor.nextOffsetId = none) (call : Nat)
    (earlier : List (FinishedPoll Nat Message))
    (last : FinishedPoll Nat Message)
    (returns : runPolls integerId history.getMessages limits cursor call =
      .ok (earlier ++ [last]))
    (completes : CompletesSweep (earlier ++ [last])) (newest : Int)
    (lastMessageId : last.result.cursor.lastMessageId = some newest)
    (laterLimits : Nat → PollLimits)
    (positiveLater : ∀ index, (laterLimits index).Positive) :
    ∃ count polls,
      runPolls integerId history.getMessages
          ((List.range count).map laterLimits) (some last.result.cursor)
          last.after = .ok polls ∧
        CompletesSweep polls ∧
          returnedMessages polls = history.messages last.after ∧
            ((returnedMessages polls).map history.id).Nodup ∧
              (∀ message ∈ history.messages last.after,
                newest < history.id message →
                  message ∈ returnedMessages polls) ∧
                ∀ message ∈ returnedMessages (earlier ++ [last]),
                  history.id message ≤ newest ∧
                    message ∈ returnedMessages polls := by
  have swept := history.runPolls_swept positive returns completes
    (history.remaining_of_none starts call)
  have restarts : (some last.result.cursor).bind ChannelCursor.nextOffsetId =
      none := by
    obtain ⟨others, final, split, ends, -⟩ := completes
    obtain ⟨-, rfl⟩ : earlier = others ∧ last = final := by simpa using split
    exact ends
  obtain ⟨count, polls, laterReturns, laterSwept⟩ :=
    history.exists_sweep positiveLater restarts last.after
  refine ⟨count, polls, laterReturns, laterSwept.completes, laterSwept.returned,
    ?_, ?_, ?_⟩
  · rw [laterSwept.returned]
    exact history.nodup_ids last.after
  · intro message exists_ _
    rw [laterSwept.returned]
    exact exists_
  · intro message isReturned
    refine ⟨swept.id_le_last history lastMessageId isReturned, ?_⟩
    rw [swept.returned] at isReturned
    rw [laterSwept.returned]
    have ordered := swept.forward last (by simp)
    exact (history.messages_suffix ordered).subset isReturned

/-- The first of the two polls that sweep the channel of three messages. -/
def firstPoll : FinishedPoll Nat Int :=
  { before := 0
    limits := twoMessagesPerPoll
    result :=
      { messages := [3, 2]
        cursor :=
          { lastMessageId := some 3
            nextOffsetId := some 2
            lastPolledAt := twoMessagesPerPoll.polledAt } }
    after := 1 }

/-- The second of the two polls, which finds the end of the channel. -/
def secondPoll : FinishedPoll Nat Int :=
  { before := 1
    limits := twoMessagesPerPoll
    result :=
      { messages := [1]
        cursor :=
          { lastMessageId := some 3
            nextOffsetId := none
            lastPolledAt := twoMessagesPerPoll.polledAt } }
    after := 2 }

theorem completesSweep_secondPoll :
    CompletesSweep ([firstPoll] ++ [secondPoll]) :=
  ⟨[firstPoll], secondPoll, rfl, rfl, by simp [firstPoll]⟩

theorem next_sweep_of_growingChannel :
    runPolls some growingChannel.getMessages
        [twoMessagesPerPoll, twoMessagesPerPoll] none 0 =
      .ok ([firstPoll] ++ [secondPoll]) ∧
    ∃ count polls,
      runPolls some growingChannel.getMessages
          ((List.range count).map (fun _ => twoMessagesPerPoll))
          (some secondPoll.result.cursor) 2 = .ok polls ∧
        CompletesSweep polls ∧
          returnedMessages polls = [4, 3, 2, 1] ∧
            ((returnedMessages polls).map growingChannel.id).Nodup ∧
              (∀ message ∈ growingChannel.messages 2,
                3 < growingChannel.id message →
                  message ∈ returnedMessages polls) ∧
                ∀ message ∈ returnedMessages ([firstPoll] ++ [secondPoll]),
                  growingChannel.id message ≤ 3 ∧
                    message ∈ returnedMessages polls :=
  ⟨by decide,
    next_sweep_starts_over growingChannel
      [twoMessagesPerPoll, twoMessagesPerPoll]
      (by simp [twoMessagesPerPoll_positive]) none rfl 0 [firstPoll] secondPoll
      (by decide) completesSweep_secondPoll 3 rfl
      (fun _ => twoMessagesPerPoll) (fun _ => twoMessagesPerPoll_positive)⟩

/-- The poll after a completed sweep returns a message with the highest id that
the sweep had recorded. -/
theorem completed_sweep_is_read_again :
    runPolls some growingChannel.getMessages
        [twoMessagesPerPoll, twoMessagesPerPoll] none 0 =
      .ok ([firstPoll] ++ [secondPoll]) ∧
    secondPoll.result.cursor.nextOffsetId = none ∧
    secondPoll.result.cursor.lastMessageId = some 3 ∧
    (∃ result,
      fetchBoundedMessages some growingChannel.getMessages
          (some secondPoll.result.cursor) twoMessagesPerPoll secondPoll.after =
        (.ok result, 3) ∧
      3 ∈ result.messages) ∧
    growingChannel.id 3 ≤ 3 :=
  ⟨by decide, rfl, rfl, ⟨⟨[4, 3], some 4, some 3, twoMessagesPerPoll.polledAt⟩,
    by decide, by decide⟩, by decide⟩

end Tca
