import Tca.KeysetPages
import Tca.PollSelection

/-!
# Bounded pagination of one poll

A poll reads pages of a channel's messages, newest first, until it has used up
its pages or its messages or until a page shows that nothing older exists.  The
file embeds the fetch loop for an arbitrary client and describes what one poll
reads from a client that serves the messages of a growing channel.
-/

namespace Tca

open KeysetPages

/-- One page request of a client: a limit and an optional offset id. -/
abbrev GetMessages (World Message : Type) :=
  Int → Option Int → World → Except PyError (List Message) × World

/-- Result of a bounded pagination fetch cycle. -/
structure BoundedPaginationResult (Message : Type) where
  messages : List Message
  cursor : ChannelCursor
  deriving DecidableEq

/-- The limits of one poll and the time its clock shows. -/
structure PollLimits where
  maxPagesPerPoll : Int
  maxMessagesPerPoll : Int
  pageSize : Int
  polledAt : Timestamp
  deriving DecidableEq

/-- The variables of the fetch loop. -/
structure FetchProgress (Message : Type) where
  messages : List Message
  offsetId : Option Int
  mostRecentId : Option Int
  exhausted : Bool

/-- What a poll returns when its loop has ended. -/
def FetchProgress.result {Message : Type} (progress : FetchProgress Message)
    (polledAt : Timestamp) : BoundedPaginationResult Message :=
  { messages := progress.messages
    cursor :=
      { lastMessageId := progress.mostRecentId
        nextOffsetId := if progress.exhausted then none else progress.offsetId
        lastPolledAt := polledAt } }

section Fetch

variable {World Message : Type} (integerId : Message → Option Int)

/-- `_extract_message_id`; `integerId` is the attribute `id` of a message where
it has one that is an integer. -/
def extractMessageId (message : Message) : Except PyError Int :=
  match integerId message with
  | some messageId => .ok messageId
  | none => .error (.valueError "message missing integer id")

/-- The most recent id after a batch with the given highest id. -/
def moreRecentId (mostRecentId : Option Int) (batchMax : Int) : Int :=
  match mostRecentId with
  | none => batchMax
  | some recent => if recent < batchMax then batchMax else recent

/-- Take a batch into the collected messages and continue below it. -/
def absorbBatch (batch : List Message) (progress : FetchProgress Message) :
    Except PyError (FetchProgress Message) :=
  match batch.mapM (extractMessageId integerId) with
  | .error problem => .error problem
  | .ok batchIds =>
      match batchIds.max?, batchIds.min? with
      | some batchMax, some batchMin =>
          .ok
            { messages := progress.messages ++ batch
              offsetId := some batchMin
              mostRecentId := some (moreRecentId progress.mostRecentId batchMax)
              exhausted := progress.exhausted }
      | _, _ => .error (.valueError "max() iterable argument is empty")

/-- The `while` loop of a poll with the given number of pages left. -/
def fetchPages (getMessages : GetMessages World Message)
    (maxMessagesPerPoll pageSize : Int) :
    Nat → FetchProgress Message → World →
      Except PyError (FetchProgress Message) × World
  | 0, progress, world => (.ok progress, world)
  | pages + 1, progress, world =>
      if progress.messages.length < maxMessagesPerPoll then
        let remaining := maxMessagesPerPoll - progress.messages.length
        let pageLimit := min pageSize remaining
        match getMessages pageLimit progress.offsetId world with
        | (.error problem, later) => (.error problem, later)
        | (.ok [], later) =>
            (.ok { progress with offsetId := none, exhausted := true }, later)
        | (.ok (first :: others), later) =>
            match absorbBatch integerId (first :: others) progress with
            | .error problem => (.error problem, later)
            | .ok absorbed =>
                if (first :: others).length < pageLimit then
                  (.ok { absorbed with offsetId := none, exhausted := true },
                    later)
                else
                  fetchPages getMessages maxMessagesPerPoll pageSize pages
                    absorbed later
      else (.ok progress, world)

/-- `fetch_bounded_messages`. -/
def fetchBoundedMessages (getMessages : GetMessages World Message)
    (cursor : Option ChannelCursor) (limits : PollLimits) (world : World) :
    Except PyError (BoundedPaginationResult Message) × World :=
  let lastMessageId := cursor.bind ChannelCursor.lastMessageId
  let nextOffsetId := cursor.bind ChannelCursor.nextOffsetId
  if limits.maxPagesPerPoll ≤ 0 ∨ limits.maxMessagesPerPoll ≤ 0 then
    (.ok
      { messages := []
        cursor :=
          { lastMessageId := lastMessageId
            nextOffsetId := nextOffsetId
            lastPolledAt := limits.polledAt } }, world)
  else
    match fetchPages integerId getMessages limits.maxMessagesPerPoll
        limits.pageSize limits.maxPagesPerPoll.toNat
        { messages := []
          offsetId := nextOffsetId
          mostRecentId := lastMessageId
          exhausted := false } world with
    | (.error problem, later) => (.error problem, later)
    | (.ok progress, later) => (.ok (progress.result limits.polledAt), later)

end Fetch

/-- The messages of a channel, newest first, at each of the calls a client
receives.  Between two calls messages may arrive with ids above all that
exist; none disappears. -/
structure ChannelHistory {Message : Type}
    (integerId : Message → Option Int) where
  messages : Nat → List Message
  id : Message → Int
  integerId_eq : ∀ call, ∀ message ∈ messages call,
    integerId message = some (id message)
  positive : ∀ call, ∀ message ∈ messages call, 0 < id message
  descending : ∀ call, Descending id (messages call)
  grows : ∀ call, messages call <:+ messages (call + 1)

namespace ChannelHistory

variable {Message : Type} {integerId : Message → Option Int}
  (history : ChannelHistory integerId)

/-- The client that serves the channel: the newest messages below the offset,
up to the limit.  Its state counts the calls it has received. -/
def getMessages : GetMessages Nat Message :=
  fun limit offsetId call =>
    (.ok (page history.id limit.toNat offsetId (history.messages call)),
      call + 1)

/-- What is still to be read by a client call with the given offset. -/
def Remaining (call : Nat) (offsetId : Option Int)
    (unread : List Message) : Prop :=
  Unread history.id (history.messages call) offsetId unread

/-- The highest of a list, kept next to more values, stands for the list. -/
theorem max?_toList_append (values others : List Int) :
    (values.max?.toList ++ others).max? = (values ++ others).max? := by
  cases values with
  | nil => rfl
  | cons first rest =>
      simp only [List.max?_cons', Option.toList_some, List.cons_append,
        List.nil_append, List.foldl_append]

/-- An optional id and the ids of a batch, as one list with a highest id. -/
theorem some_moreRecentId {ids : List Int} {batchMax : Int}
    (mostRecentId : Option Int) (isMax : ids.max? = some batchMax) :
    some (moreRecentId mostRecentId batchMax) =
      (mostRecentId.toList ++ ids).max? := by
  cases mostRecentId with
  | none => simpa [moreRecentId] using isMax.symm
  | some recent =>
      have withRecent : (recent :: ids).max? = some (max recent batchMax) := by
        rw [List.max?_cons, isMax]
        rfl
      simp only [moreRecentId, Option.toList_some, List.singleton_append]
      rw [withRecent]
      split <;> congr 1 <;> omega

/-- The progress after a batch of the channel's messages. -/
def withBatch (batch : List Message) (progress : FetchProgress Message) :
    FetchProgress Message :=
  { messages := progress.messages ++ batch
    offsetId := batch.getLast?.map history.id
    mostRecentId := (progress.mostRecentId.toList ++ batch.map history.id).max?
    exhausted := progress.exhausted }

/-- A nonempty batch of the channel's messages is taken in without an error. -/
theorem absorbBatch_eq_ok {batch : List Message} {call : Nat}
    (progress : FetchProgress Message) (nonempty : batch ≠ [])
    (existing : ∀ message ∈ batch, message ∈ history.messages call)
    (descending : Descending history.id batch) :
    absorbBatch integerId batch progress =
      .ok (history.withBatch batch progress) := by
  have extracted :
      batch.mapM (extractMessageId integerId) =
        .ok (batch.map history.id) := by
    have each : ∀ message ∈ batch,
        extractMessageId integerId message = .ok (history.id message) := by
      intro message isMessage
      have reads := history.integerId_eq call message (existing message isMessage)
      simp [extractMessageId, reads]
    clear nonempty existing descending
    induction batch with
    | nil => rfl
    | cons first others ih =>
        rw [List.mapM_cons, each first List.mem_cons_self,
          ih (fun message isOther => each message (List.mem_cons_of_mem _ isOther))]
        rfl
  have idsNonempty : batch.map history.id ≠ [] := by simpa using nonempty
  obtain ⟨batchMax, isMax⟩ :=
    Option.isSome_iff_exists.mp (List.isSome_max?_of_ne_nil idsNonempty)
  obtain ⟨batchMin, isMin⟩ :=
    Option.isSome_iff_exists.mp (List.isSome_min?_of_ne_nil idsNonempty)
  have lowest := min?_keys_of_descending descending
  simp only [absorbBatch, extracted, isMax, isMin, withBatch,
    some_moreRecentId progress.mostRecentId isMax, ← lowest]

/-- What the fetch loop does with a channel: it takes a front of the unread
messages, and it either has read all of them or continues below the last. -/
structure Fetched (maxMessagesPerPoll : Int) (pages : Nat)
    (progress : FetchProgress Message) (call : Nat) (unread : List Message)
    (later : FetchProgress Message) (laterCall : Nat)
    (taken rest : List Message) : Prop where
  messages : later.messages = progress.messages ++ taken
  unread_eq : unread = taken ++ rest
  mostRecentId : later.mostRecentId =
    (progress.mostRecentId.toList ++ taken.map history.id).max?
  forward : call ≤ laterCall
  calls : laterCall ≤ call + pages
  bounded : (later.messages.length : Int) ≤
    max maxMessagesPerPoll progress.messages.length
  finished : later.exhausted = true → rest = []
  continues : later.exhausted = false →
    history.Remaining laterCall later.offsetId rest
  advances : later.exhausted = false → 0 < pages →
    progress.messages.length < maxMessagesPerPoll → taken ≠ []
  resumable : later.exhausted = false →
    taken ≠ [] ∨ progress.offsetId ≠ none → later.offsetId ≠ none

/-- A page below the offset is served from the front of what is unread. -/
theorem getMessages_of_remaining {call : Nat} {offsetId : Option Int}
    {unread : List Message} (limit : Int)
    (remaining : history.Remaining call offsetId unread) :
    history.getMessages limit offsetId call =
      (.ok (unread.take limit.toNat), call + 1) := by
  simp only [getMessages]
  rw [page_of_unread (history.descending call) remaining]

theorem suffix_of_remaining {call : Nat} {offsetId : Option Int}
    {unread : List Message}
    (remaining : history.Remaining call offsetId unread) :
    unread <:+ history.messages call := by
  obtain ⟨read, split, -⟩ := remaining
  exact ⟨read, split.symm⟩

/-- A loop that makes no call takes nothing. -/
theorem fetched_nothing {maxMessagesPerPoll : Int} {pages : Nat}
    {progress : FetchProgress Message} {call : Nat} {unread : List Message}
    (stopped : pages = 0 ∨ maxMessagesPerPoll ≤ progress.messages.length)
    (ongoing : progress.exhausted = false)
    (remaining : history.Remaining call progress.offsetId unread) :
    history.Fetched maxMessagesPerPoll pages progress call unread progress call
      [] unread where
  messages := by simp
  unread_eq := rfl
  mostRecentId := by cases progress.mostRecentId <;> rfl
  forward := by omega
  calls := by omega
  bounded := by omega
  finished := by simp [ongoing]
  continues := fun _ => remaining
  advances := by omega
  resumable := by simp

/-- A loop whose next page comes back short takes all that is unread. -/
theorem fetched_everything {maxMessagesPerPoll : Int} {pages : Nat}
    {progress later : FetchProgress Message} {call : Nat}
    {unread : List Message}
    (messages : later.messages = progress.messages ++ unread)
    (mostRecentId : later.mostRecentId =
      (progress.mostRecentId.toList ++ unread.map history.id).max?)
    (exhausted : later.exhausted = true)
    (bounded : (progress.messages.length + unread.length : Int) ≤
      maxMessagesPerPoll) :
    history.Fetched maxMessagesPerPoll (pages + 1) progress call unread later
      (call + 1) unread [] where
  messages := messages
  unread_eq := by simp
  mostRecentId := mostRecentId
  forward := by omega
  calls := by omega
  bounded := by
    rw [messages, List.length_append]
    push_cast
    omega
  finished := fun _ => rfl
  continues := by simp [exhausted]
  advances := by simp [exhausted]
  resumable := by simp [exhausted]

/-- A full page followed by what the rest of the loop takes. -/
theorem Fetched.after_page {maxMessagesPerPoll : Int} {pages : Nat}
    {progress later : FetchProgress Message} {call laterCall : Nat}
    {batch unread older taken rest : List Message}
    (fetched : history.Fetched maxMessagesPerPoll pages
      (history.withBatch batch progress) (call + 1) older later laterCall taken
      rest)
    (split : unread = batch ++ older) (nonempty : batch ≠ [])
    (bounded : (progress.messages.length + batch.length : Int) ≤
      maxMessagesPerPoll) :
    history.Fetched maxMessagesPerPoll (pages + 1) progress call unread later
      laterCall (batch ++ taken) rest where
  messages := by
    rw [fetched.messages, withBatch, List.append_assoc]
  unread_eq := by rw [split, fetched.unread_eq, List.append_assoc]
  mostRecentId := by
    rw [fetched.mostRecentId, withBatch, max?_toList_append, List.map_append,
      List.append_assoc]
  forward := by
    have later := fetched.forward
    omega
  calls := by
    have later := fetched.calls
    omega
  bounded := by
    have later := fetched.bounded
    simp only [withBatch, List.length_append, Nat.cast_add] at later
    omega
  finished := fetched.finished
  continues := fetched.continues
  advances := by simp [nonempty]
  resumable := by
    intro ongoing _
    apply fetched.resumable ongoing
    right
    simpa [withBatch] using nonempty

/-- One turn of the loop on a channel: it stops after an empty or a short page
and continues below a full one. -/
theorem fetchPages_succ {maxMessagesPerPoll pageSize : Int} (pages : Nat)
    {limit : Nat} {progress : FetchProgress Message} {call : Nat} {unread : List Message}
    (belowLimit : (progress.messages.length : Int) < maxMessagesPerPoll)
    (limitIs : (limit : Int) =
      min pageSize (maxMessagesPerPoll - progress.messages.length))
    (remaining : history.Remaining call progress.offsetId unread) :
    fetchPages integerId history.getMessages maxMessagesPerPoll pageSize
        (pages + 1) progress call =
      if unread.take limit = [] then
        (.ok { progress with offsetId := none, exhausted := true }, call + 1)
      else if (unread.take limit).length < limit then
        (.ok
          { history.withBatch (unread.take limit) progress with
            offsetId := none, exhausted := true }, call + 1)
      else
        fetchPages integerId history.getMessages maxMessagesPerPoll pageSize
          pages (history.withBatch (unread.take limit) progress) (call + 1) := by
  have called := history.getMessages_of_remaining limit remaining
  rw [Int.toNat_natCast] at called
  have isSuffix := history.suffix_of_remaining remaining
  have existing : ∀ message ∈ unread.take limit,
      message ∈ history.messages call := fun message isTaken =>
    isSuffix.subset (List.mem_of_mem_take isTaken)
  have descending : Descending history.id (unread.take limit) :=
    (history.descending call).sublist
      ((List.take_sublist limit unread).trans isSuffix.sublist)
  have absorbs := fun nonempty => history.absorbBatch_eq_ok
    progress nonempty existing descending
  rw [fetchPages, if_pos belowLimit]
  simp only [← limitIs, called]
  generalize unread.take limit = batch at absorbs ⊢
  cases batch with
  | nil => rfl
  | cons first others =>
      have length_lt : ((first :: others).length : Int) < limit ↔
          (first :: others).length < limit := Int.ofNat_lt
      simp only [absorbs (List.cons_ne_nil first others), length_lt,
        reduceCtorEq, if_false]

/-- The fetch loop takes a front of the unread messages, within its limits. -/
theorem fetchPages_fetched (maxMessagesPerPoll : Int) {pageSize : Int}
    (positiveSize : 0 < pageSize) (pages : Nat)
    (progress : FetchProgress Message) (call : Nat) (unread : List Message)
    (ongoing : progress.exhausted = false)
    (remaining : history.Remaining call progress.offsetId unread) :
    ∃ later laterCall taken rest,
      fetchPages integerId history.getMessages maxMessagesPerPoll pageSize pages
          progress call = (.ok later, laterCall) ∧
        history.Fetched maxMessagesPerPoll pages progress call unread later
          laterCall taken rest := by
  induction pages generalizing progress call unread with
  | zero =>
      exact ⟨progress, call, [], unread, rfl,
        history.fetched_nothing (.inl rfl) ongoing remaining⟩
  | succ pages ih =>
      by_cases belowLimit : (progress.messages.length : Int) < maxMessagesPerPoll
      swap
      · refine ⟨progress, call, [], unread, by simp [fetchPages, belowLimit], ?_⟩
        exact history.fetched_nothing (.inr (by omega)) ongoing remaining
      obtain ⟨limit, limitIs⟩ : ∃ limit : Nat, (limit : Int) =
          min pageSize (maxMessagesPerPoll - progress.messages.length) :=
        ⟨_, Int.toNat_of_nonneg (by omega)⟩
      have turn := history.fetchPages_succ pages belowLimit limitIs remaining
      have withinLimit : (unread.take limit).length ≤ limit :=
        List.length_take_le limit unread
      by_cases nothing : unread.take limit = []
      · have allRead : unread = [] := by
          rcases List.take_eq_nil_iff.mp nothing with noLimit | isEmpty
          · omega
          · exact isEmpty
        subst allRead
        refine ⟨_, call + 1, [], [], by rw [turn, if_pos nothing], ?_⟩
        apply history.fetched_everything
        · simp
        · cases progress.mostRecentId <;> rfl
        · rfl
        · simp only [List.length_nil]
          omega
      rw [if_neg nothing] at turn
      by_cases short : (unread.take limit).length < limit
      · -- a short page held all that was unread
        have takesAll : unread.take limit = unread := by
          apply List.take_of_length_le
          rw [List.length_take] at short
          omega
        refine ⟨_, call + 1, unread, [], by rw [turn, if_pos short], ?_⟩
        rw [takesAll] at short ⊢
        apply history.fetched_everything
        · rfl
        · rfl
        · rfl
        · omega
      · rw [if_neg short] at turn
        have split := (List.take_append_drop limit unread).symm
        have resumes : history.Remaining (call + 1)
            ((unread.take limit).getLast?.map history.id)
            (unread.drop limit) := by
          rw [Remaining, split] at remaining
          exact remaining.advance (history.grows call) nothing
        obtain ⟨later, laterCall, more, rest, returns, fetched⟩ :=
          ih (history.withBatch (unread.take limit) progress) (call + 1)
            (unread.drop limit) ongoing resumes
        refine ⟨later, laterCall, unread.take limit ++ more, rest,
          turn.trans returns, ?_⟩
        apply fetched.after_page history split nothing
        omega

end ChannelHistory

end Tca
