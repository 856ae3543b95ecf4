import Tca.BotConfig

/-!
# What the bot's configuration reveals

Two runs that differ in the tokens that are configured, but not in what is left
of them behind a mask, answer all requests of the API in the same way.  And the
tokens that are used for sending are tokens that Telegram has accepted.
-/

namespace Tca.BotConfig

open GuardedRuns InterleavedCalls

section Masks

/-- Nobody can tell the tokens apart when they are masked. -/
def SameMask (token token' : String) : Prop :=
  maskToken token = maskToken token'

theorem length_maskToken (token : String) :
    (maskToken token).toList.length = token.toList.length := by
  unfold maskToken
  dsimp only
  split
  · rw [String.toList_ofList, List.length_append, List.length_replicate,
      List.length_drop]
    omega
  · rw [String.toList_ofList, List.length_replicate]

theorem maskToken_eq_empty_iff {token : String} :
    maskToken token = "" ↔ token = "" := by
  rw [← String.toList_eq_nil_iff, ← List.length_eq_zero_iff, length_maskToken,
    List.length_eq_zero_iff, String.toList_eq_nil_iff]

theorem SameMask.eq_empty_iff {token token' : String}
    (same : SameMask token token') : token = "" ↔ token' = "" := by
  rw [← maskToken_eq_empty_iff, same, maskToken_eq_empty_iff]

end Masks

section Rows

/-- The rows of the token in two tables. -/
inductive AlikeToken : Option SettingRow → Option SettingRow → Prop
  | missing : AlikeToken none none
  | stored {token token' : String} (same : SameMask token token') :
      AlikeToken (some ⟨"bot.token", .ok (.str token)⟩)
        (some ⟨"bot.token", .ok (.str token')⟩)

/-- Two tables that differ in the token at most. -/
structure AlikeRows (settings settings' : List SettingRow) : Prop where
  others : ∀ key, key ≠ "bot.token" →
    settingRow? settings key = settingRow? settings' key
  token : AlikeToken (settingRow? settings "bot.token")
    (settingRow? settings' "bot.token")

/-- Two tokens, or the same value under another key. -/
inductive AlikeValue : String → PyValue → PyValue → Prop
  | token {token token' : String} (same : SameMask token token') :
      AlikeValue "bot.token" (.str token) (.str token')
  | other {key : String} (notToken : key ≠ "bot.token") (value : PyValue) :
      AlikeValue key value value

variable {settings settings' : List SettingRow} {key : String}
  {value value' : PyValue}

theorem AlikeRows.upsert (alike : AlikeRows settings settings')
    (values : AlikeValue key value value') :
    AlikeRows (upsertSetting settings key value)
      (upsertSetting settings' key value') := by
  constructor
  · intro other notToken
    rw [settingRow?_upsertSetting, settingRow?_upsertSetting,
      alike.others other notToken]
    split
    · rename_i isKey
      cases values with
      | token same => exact absurd isKey notToken
      | other _ value => rfl
    · rfl
  · rw [settingRow?_upsertSetting, settingRow?_upsertSetting]
    cases values with
    | token same =>
        rw [if_pos rfl, if_pos rfl]
        exact .stored same
    | other notToken value =>
        rw [if_neg notToken.symm, if_neg notToken.symm]
        exact alike.token

theorem AlikeRows.delete (alike : AlikeRows settings settings')
    (key : String) :
    AlikeRows (deleteSetting settings key) (deleteSetting settings' key) := by
  constructor
  · intro other notToken
    rw [settingRow?_deleteSetting, settingRow?_deleteSetting,
      alike.others other notToken]
  · rw [settingRow?_deleteSetting, settingRow?_deleteSetting]
    split
    · exact .missing
    · exact alike.token

/-- The tables have rows for the same keys. -/
theorem AlikeRows.isSome (alike : AlikeRows settings settings')
    (key : String) :
    (settingRow? settings key).isSome =
      (settingRow? settings' key).isSome := by
  by_cases isToken : key = "bot.token"
  · subst isToken
    have rows := alike.token
    revert rows
    generalize settingRow? settings "bot.token" = row
    generalize settingRow? settings' "bot.token" = row'
    rintro (- | -) <;> rfl
  · rw [alike.others key isToken]

theorem AlikeRows.update (alike : AlikeRows settings settings')
    (values : AlikeValue key value value') :
    Option.Rel AlikeRows (updateSetting settings key value)
      (updateSetting settings' key value') := by
  have present := alike.isSome key
  rcases updateSetting_cases settings key value with
    ⟨missing, unchanged⟩ | ⟨stored, updated⟩
  · rcases updateSetting_cases settings' key value' with
      ⟨-, unchanged'⟩ | ⟨stored', -⟩
    · rw [unchanged, unchanged']
      exact .none
    · rw [missing, stored'] at present
      cases present
  · rcases updateSetting_cases settings' key value' with
      ⟨missing', -⟩ | ⟨-, updated'⟩
    · rw [stored, missing'] at present
      cases present
    · rw [updated, updated']
      exact .some (alike.upsert values)

/-- A creation succeeds in both tables or fails in both. -/
theorem AlikeRows.create (alike : AlikeRows settings settings')
    (values : AlikeValue key value value') :
    (∃ later later', createSetting settings key value = .ok later ∧
      createSetting settings' key value' = .ok later' ∧
      AlikeRows later later') ∨
    ∃ error, createSetting settings key value = .error error ∧
      createSetting settings' key value' = .error error := by
  have present := alike.isSome key
  rcases createSetting_cases settings key value with
    ⟨missing, created⟩ | ⟨stored, refused⟩
  · rcases createSetting_cases settings' key value' with
      ⟨-, created'⟩ | ⟨stored', -⟩
    · exact .inl ⟨_, _, created, created', alike.upsert values⟩
    · rw [missing, stored'] at present
      cases present
  · rcases createSetting_cases settings' key value' with
      ⟨missing', -⟩ | ⟨-, refused'⟩
    · rw [stored, missing'] at present
      cases present
    · exact .inr ⟨_, refused, refused'⟩

/-- What the two tables return for the token. -/
inductive AlikeRecord : Option PyValue → Option PyValue → Prop
  | missing : AlikeRecord none none
  | stored {token token' : String} (same : SameMask token token') :
      AlikeRecord (some (.str token)) (some (.str token'))

theorem AlikeRecord.recordText {record record' : Option PyValue}
    (alike : AlikeRecord record record') (printer : Printer) :
    SameMask (recordText printer record) (recordText printer record') := by
  cases alike with
  | missing => rfl
  | stored same => exact same

theorem AlikeRows.getToken (alike : AlikeRows settings settings') :
    ∃ record record', getSetting settings "bot.token" = .ok record ∧
      getSetting settings' "bot.token" = .ok record' ∧
      AlikeRecord record record' := by
  have rows := alike.token
  cases row : settingRow? settings "bot.token" with
  | none =>
      rw [row] at rows
      cases row' : settingRow? settings' "bot.token" with
      | none =>
          exact ⟨none, none, getSetting_of_noRow row,
            getSetting_of_noRow row', .missing⟩
      | some stored' =>
          rw [row'] at rows
          cases rows
  | some stored =>
      rw [row] at rows
      cases row' : settingRow? settings' "bot.token" with
      | none =>
          rw [row'] at rows
          cases rows
      | some stored' =>
          rw [row'] at rows
          cases rows with
          | stored same =>
              exact ⟨_, _, getSetting_of_row row rfl,
                getSetting_of_row row' rfl, .stored same⟩

end Rows

section Likeness

/-- The same request, but for the token that is configured. -/
inductive AlikeRequest : BotRequest → BotRequest → Prop
  | configure {token token' : String} (same : SameMask token token')
      (chatId : String) :
      AlikeRequest (.configure token chatId) (.configure token' chatId)
  | status : AlikeRequest .status .status
  | delete : AlikeRequest .delete .delete
  | test : AlikeRequest .test .test
  | setting (key : String) : AlikeRequest (.setting key) (.setting key)
  | load : AlikeRequest .load .load
  | disable : AlikeRequest .disable .disable
  | store (key : String) (other : key ∉ botKeys) (value : PyValue) :
      AlikeRequest (.store key other value) (.store key other value)
  | remove (key : String) (other : key ∉ botKeys) :
      AlikeRequest (.remove key other) (.remove key other)

/-- Entries of configurations that differ in the token at most. -/
def AlikeEntry (entry entry' : String × PyValue) : Prop :=
  entry.1 = entry'.1 ∧ AlikeValue entry.1 entry.2 entry'.2

/-- The same phase, but for the token that it carries. -/
inductive AlikePhase : BotPhase → BotPhase → Prop
  | validate {token token' : String} (same : SameMask token token')
      (chatId : String) :
      AlikePhase (.validate token chatId) (.validate token' chatId)
  | update {entry entry' : String × PyValue}
      {rest rest' : List (String × PyValue)} (first : AlikeEntry entry entry')
      (others : List.Forall₂ AlikeEntry rest rest') (botUsername : Json.Text)
      (chatId : String) :
      AlikePhase (.update entry rest botUsername chatId)
        (.update entry' rest' botUsername chatId)
  | create {entry entry' : String × PyValue}
      {rest rest' : List (String × PyValue)} (first : AlikeEntry entry entry')
      (others : List.Forall₂ AlikeEntry rest rest') (botUsername : Json.Text)
      (chatId : String) :
      AlikePhase (.create entry rest botUsername chatId)
        (.create entry' rest' botUsername chatId)
  | statusToken : AlikePhase .statusToken .statusToken
  | statusChatId {token token' : String} (same : SameMask token token') :
      AlikePhase (.statusChatId token) (.statusChatId token')
  | statusEnabled {token token' : String} (same : SameMask token token')
      (chatId : String) :
      AlikePhase (.statusEnabled token chatId) (.statusEnabled token' chatId)
  | deleteToken : AlikePhase .deleteToken .deleteToken
  | deleteChatId : AlikePhase .deleteChatId .deleteChatId
  | deleteEnabled : AlikePhase .deleteEnabled .deleteEnabled
  | testToken : AlikePhase .testToken .testToken
  | testChatId {token token' : String} (same : SameMask token token') :
      AlikePhase (.testChatId token) (.testChatId token')
  | testSend {token token' : String} (same : SameMask token token')
      (chatId : String) :
      AlikePhase (.testSend token chatId) (.testSend token' chatId)
  | setting (key : String) : AlikePhase (.setting key) (.setting key)
  | loadEnabled : AlikePhase .loadEnabled .loadEnabled
  | loadToken : AlikePhase .loadToken .loadToken
  | loadChatId {token token' : String} (same : SameMask token token') :
      AlikePhase (.loadChatId token) (.loadChatId token')
  | disable : AlikePhase .disable .disable
  | store (key : String) (other : key ∉ botKeys) (value : PyValue) :
      AlikePhase (.store key other value) (.store key other value)
  | remove (key : String) (other : key ∉ botKeys) :
      AlikePhase (.remove key other) (.remove key other)

/-- The API answers the same; only the delivery loop is given the token. -/
inductive AlikeResult : BotResult → BotResult → Prop
  | same (result : BotResult) : AlikeResult result result
  | loaded {token token' : String} (same : SameMask token token')
      (chatId : String) :
      AlikeResult (.loaded (some (token, chatId)))
        (.loaded (some (token', chatId)))

/-- Everything is the same, but for tokens that look alike. -/
def masked : Likeness BotStore BotRequest BotPhase BotInput BotResult
    BotStore BotRequest BotPhase BotInput BotResult where
  store store store' := AlikeRows store.settings store'.settings
  request := AlikeRequest
  phase := AlikePhase
  input := Eq
  result := AlikeResult

/-- Two steps that end alike. -/
def AlikeSteps (step step' : BotProgress × BotStore) : Prop :=
  masked.Progress step.1 step'.1 ∧
    AlikeRows step.2.settings step'.2.settings

variable {printer : Printer} {input : BotInput} {store store' : BotStore}
  {token token' : String}

theorem readThen_token
    (alike : AlikeRows store.settings store'.settings)
    {next next' : Option PyValue → BotProgress}
    (goesOn : ∀ record record', AlikeRecord record record' →
      masked.Progress (next record) (next' record')) :
    masked.Progress (readThen input store.settings "bot.token" next)
      (readThen input store'.settings "bot.token" next') := by
  obtain ⟨record, record', found, found', records⟩ := alike.getToken
  unfold readThen
  rw [found, found']
  cases input.problem with
  | some problem => exact .ended (.same _)
  | none => exact goesOn record record' records

theorem readThen_other
    (alike : AlikeRows store.settings store'.settings) {key : String}
    (notToken : key ≠ "bot.token") {next next' : Option PyValue → BotProgress}
    (goesOn : ∀ record, masked.Progress (next record) (next' record)) :
    masked.Progress (readThen input store.settings key next)
      (readThen input store'.settings key next') := by
  unfold readThen
  rw [getSetting_congr (alike.others key notToken)]
  cases input.problem with
  | some problem => exact .ended (.same _)
  | none =>
      cases getSetting store'.settings key with
      | error error => exact .ended (.same _)
      | ok record => exact goesOn record

theorem writeThen_alike
    (alike : AlikeRows store.settings store'.settings)
    {write write' : List SettingRow → List SettingRow}
    (writes : AlikeRows (write store.settings) (write' store'.settings))
    {next next' : BotProgress} (goesOn : masked.Progress next next') :
    AlikeSteps (writeThen input store write next)
      (writeThen input store' write' next') := by
  unfold writeThen
  cases input.problem with
  | some problem => exact ⟨.ended (.same _), alike⟩
  | none => exact ⟨goesOn, writes⟩

theorem writeNext_alike {rest rest' : List (String × PyValue)}
    (entries : List.Forall₂ AlikeEntry rest rest') (botUsername : Json.Text)
    (chatId : String) :
    masked.Progress (writeNext rest botUsername chatId)
      (writeNext rest' botUsername chatId) := by
  cases entries with
  | nil => exact .ended (.same _)
  | cons first others =>
      exact .suspended (.update first others botUsername chatId)

theorem configEntries_alike (same : SameMask token token') (chatId : String) :
    List.Forall₂ AlikeEntry (configEntries token chatId)
      (configEntries token' chatId) := by
  have chatKey : "bot.chat_id" ≠ "bot.token" := by decide
  have enabledKey : "bot.enabled" ≠ "bot.token" := by decide
  exact .cons ⟨rfl, .token same⟩
    (.cons ⟨rfl, .other chatKey _⟩ (.cons ⟨rfl, .other enabledKey _⟩ .nil))

theorem validate_alike (alike : AlikeRows store.settings store'.settings)
    (same : SameMask token token') (chatId : String) (reply : HttpReply) :
    AlikeSteps (validate printer token chatId reply store)
      (validate printer token' chatId reply store') := by
  unfold validate
  cases validateToken printer reply with
  | error problem =>
      cases problem <;> exact ⟨.ended (.same _), alike⟩
  | ok info =>
      exact ⟨writeNext_alike (configEntries_alike same chatId) _ chatId, alike⟩

theorem testSend_alike (alike : AlikeRows store.settings store'.settings)
    (chatId : String) (reply : HttpReply) :
    AlikeSteps (testSend printer token chatId reply store)
      (testSend printer token' chatId reply store') := by
  unfold testSend
  cases sendMessage printer reply with
  | error problem => exact ⟨.ended (.same _), alike⟩
  | ok messageId => exact ⟨.ended (.same _), alike⟩

theorem statusOf_alike (same : SameMask token token') (chatId : String)
    (enabled : Bool) :
    statusOf token chatId enabled = statusOf token' chatId enabled := by
  unfold statusOf
  rw [if_congr (or_congr_left same.eq_empty_iff) rfl rfl]
  have masks : maskToken token = maskToken token' := same
  rw [masks]

theorem testWith_alike (same : SameMask token token') (chatId : String) :
    masked.Progress (testWith token chatId) (testWith token' chatId) := by
  unfold testWith
  rw [if_congr (or_congr_left same.eq_empty_iff) rfl rfl]
  split
  · exact .ended (.same _)
  · exact .suspended (.testSend same chatId)

theorem loadedOf_alike (alike : AlikeRows store.settings store'.settings)
    (same : SameMask token token') (chatId : String) :
    AlikeSteps (loadedOf token chatId store)
      (loadedOf token' chatId store') := by
  unfold loadedOf
  rw [if_congr (or_congr_left same.eq_empty_iff) rfl rfl]
  split
  · exact ⟨.ended (.same _), alike⟩
  · exact ⟨.ended (.loaded same chatId), alike⟩

/-- The settings of the API do not include the token. -/
theorem readSetting_alike (alike : AlikeRows store.settings store'.settings)
    (key : String) :
    readSetting store.settings key = readSetting store'.settings key := by
  unfold readSetting
  cases isDefault : seededDefault? key with
  | none => rfl
  | some default =>
      have allowed : key ∈ allowedDynamicSettingKeys :=
        seededDefault?_isSome_iff.mp (by rw [isDefault]; rfl)
      have notToken : key ≠ "bot.token" := by
        rintro rfl
        revert allowed
        decide
      dsimp only
      rw [getSetting_congr (alike.others key notToken)]

/-- The steps of alike phases on alike stores. -/
theorem botAdvance_alike (input : BotInput) {phase phase' : BotPhase}
    (phases : AlikePhase phase phase')
    (alike : AlikeRows store.settings store'.settings) :
    AlikeSteps (botAdvance printer phase input store)
      (botAdvance printer phase' input store') := by
  have chatKey : "bot.chat_id" ≠ "bot.token" := by decide
  have enabledKey : "bot.enabled" ≠ "bot.token" := by decide
  have notBot : ∀ key, key ∉ botKeys → key ≠ "bot.token" := by
    rintro key other rfl
    exact other (by decide)
  cases phases with
  | validate same chatId =>
      exact validate_alike alike same chatId input.reply
  | @update entry entry' rest rest' first others botUsername chatId =>
      obtain ⟨key, value⟩ := entry
      obtain ⟨key', value'⟩ := entry'
      obtain ⟨rfl, values⟩ := first
      have entries : AlikeEntry (key, value) (key, value') := ⟨rfl, values⟩
      have written := alike.update values
      unfold botAdvance
      dsimp only
      cases input.problem with
      | some problem => exact ⟨.ended (.same _), alike⟩
      | none =>
          revert written
          generalize updateSetting store.settings key value = later
          generalize updateSetting store'.settings key value' = later'
          rintro (written | -)
          · exact ⟨writeNext_alike others botUsername chatId, written⟩
          · exact ⟨.suspended (.create entries others _ _), alike⟩
  | @create entry entry' rest rest' first others botUsername chatId =>
      obtain ⟨key, value⟩ := entry
      obtain ⟨key', value'⟩ := entry'
      obtain ⟨rfl, values⟩ := first
      unfold botAdvance
      dsimp only
      cases input.problem with
      | some problem => exact ⟨.ended (.same _), alike⟩
      | none =>
          rcases alike.create values with
            ⟨later, later', created, created', written⟩ |
            ⟨error, refused, refused'⟩
          · rw [created, created']
            exact ⟨writeNext_alike others botUsername chatId, written⟩
          · rw [refused, refused']
            exact ⟨.ended (.same _), alike⟩
  | statusToken =>
      refine ⟨readThen_token alike ?_, alike⟩
      intro record record' records
      exact .suspended (.statusChatId (records.recordText printer))
  | statusChatId same =>
      refine ⟨readThen_other alike chatKey ?_, alike⟩
      intro record
      exact .suspended (.statusEnabled same _)
  | statusEnabled same chatId =>
      refine ⟨readThen_other alike enabledKey ?_, alike⟩
      intro record
      rw [statusOf_alike same]
      exact .ended (.same _)
  | deleteToken =>
      exact writeThen_alike alike (alike.delete _) (.suspended .deleteChatId)
  | deleteChatId =>
      exact writeThen_alike alike (alike.delete _) (.suspended .deleteEnabled)
  | deleteEnabled =>
      exact writeThen_alike alike (alike.upsert (.other enabledKey _))
        (.ended (.same _))
  | testToken =>
      refine ⟨readThen_token alike ?_, alike⟩
      intro record record' records
      exact .suspended (.testChatId (records.recordText printer))
  | testChatId same =>
      refine ⟨readThen_other alike chatKey ?_, alike⟩
      intro record
      exact testWith_alike same _
  | testSend same chatId => exact testSend_alike alike chatId input.reply
  | setting key =>
      unfold botAdvance
      dsimp only
      rw [readSetting_alike alike]
      split
      · exact ⟨.ended (.same _), alike⟩
      · exact ⟨.ended (.same _), alike⟩
  | loadEnabled =>
      refine ⟨readThen_other alike enabledKey ?_, alike⟩
      intro record
      split
      · exact .suspended .loadToken
      · exact .ended (.same _)
  | loadToken =>
      refine ⟨readThen_token alike ?_, alike⟩
      intro record record' records
      exact .suspended (.loadChatId (records.recordText printer))
  | loadChatId same =>
      unfold botAdvance
      dsimp only
      rw [getSetting_congr (alike.others _ chatKey)]
      cases input.problem with
      | some problem => exact ⟨.ended (.same _), alike⟩
      | none =>
          cases getSetting store'.settings "bot.chat_id" with
          | error error => exact ⟨.ended (.same _), alike⟩
          | ok record => exact loadedOf_alike alike same _
  | disable =>
      exact writeThen_alike alike (alike.upsert (.other enabledKey _))
        (.ended (.same _))
  | store key other value =>
      exact writeThen_alike alike (alike.upsert (.other (notBot key other) _))
        (.ended (.same _))
  | remove key other =>
      exact writeThen_alike alike (alike.delete key) (.ended (.same _))

theorem masked_steps (printer : Printer) :
    masked.Steps (botRequests printer) (botRequests printer) where
  enter := by
    rintro request request' alike
    cases alike with
    | configure same chatId => exact .validate same chatId
    | status => exact .statusToken
    | delete => exact .deleteToken
    | test => exact .testToken
    | setting key => exact .setting key
    | load => exact .loadEnabled
    | disable => exact .disable
    | store key other value => exact .store key other value
    | remove key other => exact .remove key other
  advance := by
    rintro phase phase' input _ store store' phases rfl alike
    exact botAdvance_alike input phases alike

end Likeness

/-- The API hides the tokens.  Take two runs of the same requests and steps, in
any interleaving, with the same replies of Telegram and the same failures of
the database; the configured tokens may differ as long as they look the same
when masked.  Whatever a call of the API answers in one run, it answers in the
other: the tokens make no difference beyond their mask. -/
theorem api_hides_tokens (printer : Printer) {events events' : List BotEvent}
    (sameEvents : List.Forall₂ masked.Event events events')
    {store store' : BotStore}
    (alike : AlikeRows store.settings store'.settings)
    {call : Nat} {result : BotResult}
    (ended : (run (botRequests printer).step events
      (System.idle store)).calls[call]? = some (.ended result))
    (answers : ∀ credentials, result ≠ .loaded (some credentials)) :
    (run (botRequests printer).step events'
      (System.idle store')).calls[call]? = some (.ended result) := by
  have initially : masked.System (System.idle store) (System.idle store') :=
    ⟨alike, .nil⟩
  obtain ⟨result', ended', results⟩ :=
    (initially.run (masked_steps printer) sameEvents).ended ended
  cases results with
  | same => exact ended'
  | loaded same chatId => exact absurd rfl (answers _)

def samplePrinter : Printer where
  document _ := "None"
  stored _ := "None"

/-- Telegram knows the token. -/
def sampleReply : HttpReply :=
  .response 200 "" (some (.object [(.ofChars "ok".toList, .bool true),
    (.ofChars "result".toList, .object [(.ofChars "id".toList, .int 7),
      (.ofChars "username".toList, .str (.ofChars "tca_bot".toList))])]))

/-- The next step of a call, which the database does not refuse. -/
def sampleStep (call : Nat) : BotEvent :=
  .resume call ⟨none, sampleReply⟩

/-- The token is configured and shown, and the delivery loop reads it. -/
def sampleEvents (token : String) : List BotEvent :=
  .start (.configure token "-100") :: List.replicate 7 (sampleStep 0) ++
    .start .status :: List.replicate 3 (sampleStep 1) ++
    .start .load :: List.replicate 3 (sampleStep 2)

theorem sampleEvents_alike {token token' : String}
    (same : SameMask token token') :
    List.Forall₂ masked.Event (sampleEvents token) (sampleEvents token') := by
  have steps : ∀ call count, List.Forall₂ masked.Event
      (List.replicate count (sampleStep call))
      (List.replicate count (sampleStep call)) := by
    intro call count
    exact List.forall₂_same.mpr fun event member => by
      rw [List.eq_of_mem_replicate member]
      exact .resume call rfl
  exact List.rel_append
    (List.rel_append (.cons (.start (.configure same "-100")) (steps 0 7))
      (.cons (.start .status) (steps 1 3)))
    (.cons (.start .load) (steps 2 3))

def emptyStore : BotStore :=
  ⟨[], [], []⟩

/-- Two tokens with the same length and the same last four characters. -/
theorem sameMask_sample : SameMask "11:wxyz" "22:wxyz" := by
  have first : "11:wxyz".toList = ['1', '1', ':', 'w', 'x', 'y', 'z'] := rfl
  have second : "22:wxyz".toList = ['2', '2', ':', 'w', 'x', 'y', 'z'] := rfl
  rw [SameMask, maskToken, maskToken, first, second]
  rfl

theorem api_hides_tokens_sample :
    (run (botRequests samplePrinter).step (sampleEvents "22:wxyz")
        (System.idle emptyStore)).calls[1]? =
      some (.ended (.status (some (maskToken "11:wxyz")) (some "-100")
        true)) := by
  have alike : AlikeRows emptyStore.settings emptyStore.settings :=
    ⟨fun _ _ => rfl, .missing⟩
  exact api_hides_tokens samplePrinter (sampleEvents_alike sameMask_sample)
    alike rfl (by intro credentials same; cases same)

section Provenance

/-- The token came along with a configuration that Telegram accepted. -/
def TokenAccepted (store : BotStore) (token : String) : Prop :=
  ∃ chatId, (token, chatId) ∈ store.accepted

/-- The chat came along with a configuration that Telegram accepted. -/
def ChatAccepted (store : BotStore) (chatId : String) : Prop :=
  ∃ token, (token, chatId) ∈ store.accepted

/-- A value under a key of the bot is what was accepted. -/
structure ValueAccepted (store : BotStore) (key : String) (value : PyValue) :
    Prop where
  token : key = "bot.token" →
    ∃ token, value = .str token ∧ TokenAccepted store token
  chatId : key = "bot.chat_id" →
    ∃ chatId, value = .str chatId ∧ ChatAccepted store chatId

/-- The token and the chat are not empty, and each was accepted. -/
structure CredentialsAccepted (store : BotStore) (token chatId : String) :
    Prop where
  tokenAccepted : TokenAccepted store token
  chatAccepted : ChatAccepted store chatId
  tokenGiven : token ≠ ""
  chatIdGiven : chatId ≠ ""

/-- Whatever is stored or was used has been accepted. -/
structure Vouched (store : BotStore) : Prop where
  stored : ∀ key row, settingRow? store.settings key = some row →
    key ∈ ["bot.token", "bot.chat_id"] →
      ∃ value, row = ⟨key, .ok value⟩ ∧ ValueAccepted store key value
  used : ∀ credentials ∈ store.used,
    CredentialsAccepted store credentials.1 credentials.2

/-- What was accepted or used stays so. -/
structure Grows (store later : BotStore) : Prop where
  accepted : store.accepted ⊆ later.accepted
  used : store.used ⊆ later.used

def BotPhase.Knows (store : BotStore) : BotPhase → Prop
  | .update entry rest _ _ =>
      ∀ other ∈ entry :: rest, ValueAccepted store other.1 other.2
  | .create entry rest _ _ =>
      ∀ other ∈ entry :: rest, ValueAccepted store other.1 other.2
  | .testChatId token => token = "" ∨ TokenAccepted store token
  | .testSend token chatId => CredentialsAccepted store token chatId
  | .loadChatId token => token = "" ∨ TokenAccepted store token
  | _ => True

def BotResult.Knows (store : BotStore) : BotResult → Prop
  | .loaded (some credentials) => credentials ∈ store.used
  | _ => True

/-- What a call knows about the tokens that it carries. -/
def Knows (progress : BotProgress) (store : BotStore) : Prop :=
  match progress with
  | .suspended phase => phase.Knows store
  | .ended result => result.Knows store
  | .abandoned => True

variable {store later : BotStore}

theorem TokenAccepted.of_grows {token : String}
    (accepted : TokenAccepted store token) (grows : Grows store later) :
    TokenAccepted later token :=
  accepted.imp fun _ member => grows.accepted member

theorem ChatAccepted.of_grows {chatId : String}
    (accepted : ChatAccepted store chatId) (grows : Grows store later) :
    ChatAccepted later chatId :=
  accepted.imp fun _ member => grows.accepted member

theorem ValueAccepted.of_grows {key : String} {value : PyValue}
    (accepted : ValueAccepted store key value) (grows : Grows store later) :
    ValueAccepted later key value where
  token isToken := by
    obtain ⟨token, isText, was⟩ := accepted.token isToken
    exact ⟨token, isText, was.of_grows grows⟩
  chatId isChat := by
    obtain ⟨chatId, isText, was⟩ := accepted.chatId isChat
    exact ⟨chatId, isText, was.of_grows grows⟩

theorem CredentialsAccepted.of_grows {token chatId : String}
    (accepted : CredentialsAccepted store token chatId)
    (grows : Grows store later) : CredentialsAccepted later token chatId where
  tokenAccepted := accepted.tokenAccepted.of_grows grows
  chatAccepted := accepted.chatAccepted.of_grows grows
  tokenGiven := accepted.tokenGiven
  chatIdGiven := accepted.chatIdGiven

theorem Knows.of_grows {progress : BotProgress} (knows : Knows progress store)
    (grows : Grows store later) : Knows progress later := by
  cases progress with
  | suspended phase =>
      cases phase with
      | update entry rest botUsername chatId =>
          exact fun other member => (knows other member).of_grows grows
      | create entry rest botUsername chatId =>
          exact fun other member => (knows other member).of_grows grows
      | testChatId token => exact knows.imp_right (·.of_grows grows)
      | testSend token chatId => exact CredentialsAccepted.of_grows knows grows
      | loadChatId token => exact knows.imp_right (·.of_grows grows)
      | _ => trivial
  | ended result =>
      cases result with
      | loaded credentials =>
          cases credentials with
          | none => trivial
          | some credentials => exact grows.used knows
      | _ => trivial
  | abandoned => trivial

/-- What a step does to the store: it changes the settings, or notes what was
accepted, or what is used. -/
inductive Effect (store : BotStore) : BotStore → Prop
  | none : Effect store store
  | upsert {key : String} {value : PyValue}
      (accepted : ValueAccepted store key value) :
      Effect store
        { store with settings := upsertSetting store.settings key value }
  | delete (key : String) :
      Effect store { store with settings := deleteSetting store.settings key }
  | accept (token chatId : String) :
      Effect store
        { store with accepted := store.accepted ++ [(token, chatId)] }
  | use {token chatId : String}
      (accepted : CredentialsAccepted store token chatId) :
      Effect store { store with used := store.used ++ [(token, chatId)] }

theorem Effect.grows (effect : Effect store later) : Grows store later := by
  cases effect with
  | none => exact ⟨List.Subset.refl _, List.Subset.refl _⟩
  | upsert accepted => exact ⟨List.Subset.refl _, List.Subset.refl _⟩
  | delete key => exact ⟨List.Subset.refl _, List.Subset.refl _⟩
  | accept token chatId =>
      exact ⟨List.subset_append_left _ _, List.Subset.refl _⟩
  | use accepted => exact ⟨List.Subset.refl _, List.subset_append_left _ _⟩

/-- A row of the bot that was there before is vouched for. -/
theorem Vouched.row (vouched : Vouched store) (grows : Grows store later)
    {key : String} {row : SettingRow}
    (isRow : settingRow? store.settings key = some row)
    (isBot : key ∈ ["bot.token", "bot.chat_id"]) :
    ∃ value, row = ⟨key, .ok value⟩ ∧ ValueAccepted later key value := by
  obtain ⟨value, rfl, accepted⟩ := vouched.stored key row isRow isBot
  exact ⟨value, rfl, accepted.of_grows grows⟩

theorem Vouched.usedBefore (vouched : Vouched store)
    (grows : Grows store later) {credentials : String × String}
    (member : credentials ∈ store.used) :
    CredentialsAccepted later credentials.1 credentials.2 :=
  (vouched.used credentials member).of_grows grows

theorem Vouched.of_effect (vouched : Vouched store)
    (effect : Effect store later) : Vouched later := by
  have grows := effect.grows
  cases effect with
  | none => exact vouched
  | @upsert key value accepted =>
      refine ⟨?_, fun _ member => vouched.usedBefore grows member⟩
      intro other row isRow isBot
      rw [settingRow?_upsertSetting] at isRow
      split at isRow
      · rename_i same
        subst same
        exact ⟨value, (Option.some.inj isRow).symm, accepted.of_grows grows⟩
      · exact vouched.row grows isRow isBot
  | delete key =>
      refine ⟨?_, fun _ member => vouched.usedBefore grows member⟩
      intro other row isRow isBot
      rw [settingRow?_deleteSetting] at isRow
      split at isRow
      · cases isRow
      · exact vouched.row grows isRow isBot
  | accept token chatId =>
      exact ⟨fun _ _ isRow isBot => vouched.row grows isRow isBot,
        fun _ member => vouched.usedBefore grows member⟩
  | @use token chatId accepted =>
      refine ⟨fun _ _ isRow isBot => vouched.row grows isRow isBot, ?_⟩
      intro credentials member
      rcases List.mem_append.mp member with earlier | new
      · exact vouched.usedBefore grows earlier
      · obtain rfl := List.mem_singleton.mp new
        exact accepted.of_grows grows

/-- A text that is read from accepted rows is empty or accepted. -/
theorem recordText_accepted {settings : List SettingRow} {key : String}
    {Accepted : String → Prop}
    (rows : ∀ row, settingRow? settings key = some row →
      ∃ text, row = ⟨key, .ok (.str text)⟩ ∧ Accepted text)
    {record : Option PyValue} (read : getSetting settings key = .ok record)
    (printer : Printer) :
    recordText printer record = "" ∨ Accepted (recordText printer record) := by
  cases isRow : settingRow? settings key with
  | none =>
      rw [getSetting_of_noRow isRow] at read
      obtain rfl := Except.ok.inj read
      exact .inl rfl
  | some row =>
      obtain ⟨text, rfl, accepted⟩ := rows row isRow
      rw [getSetting_of_row isRow rfl] at read
      obtain rfl := Except.ok.inj read
      exact .inr accepted

theorem Vouched.recordToken (vouched : Vouched store)
    {record : Option PyValue}
    (read : getSetting store.settings "bot.token" = .ok record)
    (printer : Printer) :
    recordText printer record = "" ∨
      TokenAccepted store (recordText printer record) := by
  refine recordText_accepted ?_ read printer
  intro row isRow
  obtain ⟨value, rfl, accepted⟩ := vouched.stored _ row isRow (by simp)
  obtain ⟨token, rfl, wasAccepted⟩ := accepted.token rfl
  exact ⟨token, rfl, wasAccepted⟩

theorem Vouched.recordChat (vouched : Vouched store)
    {record : Option PyValue}
    (read : getSetting store.settings "bot.chat_id" = .ok record)
    (printer : Printer) :
    recordText printer record = "" ∨
      ChatAccepted store (recordText printer record) := by
  refine recordText_accepted ?_ read printer
  intro row isRow
  obtain ⟨value, rfl, accepted⟩ := vouched.stored _ row isRow (by simp)
  obtain ⟨chatId, rfl, wasAccepted⟩ := accepted.chatId rfl
  exact ⟨chatId, rfl, wasAccepted⟩

/-- Texts that are not empty are credentials. -/
theorem credentials_of_known {token chatId : String}
    (tokenKnown : token = "" ∨ TokenAccepted store token)
    (chatKnown : chatId = "" ∨ ChatAccepted store chatId)
    (given : ¬ (token = "" ∨ chatId = "")) :
    CredentialsAccepted store token chatId := by
  obtain ⟨tokenGiven, chatIdGiven⟩ := not_or.mp given
  exact ⟨tokenKnown.resolve_left tokenGiven, chatKnown.resolve_left chatIdGiven,
    tokenGiven, chatIdGiven⟩

/-- A step has one of the effects, and the call knows what it carries. -/
def Keeps (store : BotStore) (step : BotProgress × BotStore) : Prop :=
  Effect store step.2 ∧ Knows step.1 step.2

section Steps

variable {printer : Printer} {input : BotInput}

theorem readThen_keeps {key : String} {next : Option PyValue → BotProgress}
    (goesOn : ∀ record, getSetting store.settings key = .ok record →
      Knows (next record) store) :
    Keeps store (readThen input store.settings key next, store) := by
  refine ⟨.none, ?_⟩
  unfold readThen
  dsimp only
  split
  · trivial
  · trivial
  · rename_i read
    exact goesOn _ read

theorem writeThen_keeps {write : List SettingRow → List SettingRow}
    {next : BotProgress}
    (effect : Effect store { store with settings := write store.settings })
    (known : ∀ later, Knows next later) :
    Keeps store (writeThen input store write next) := by
  unfold writeThen
  cases input.problem with
  | some problem => exact ⟨.none, trivial⟩
  | none => exact ⟨effect, known _⟩

/-- Values under other keys need no acceptance. -/
theorem valueAccepted_other {key : String} {value : PyValue}
    (notToken : key ≠ "bot.token") (notChat : key ≠ "bot.chat_id") :
    ValueAccepted store key value :=
  ⟨fun isToken => absurd isToken notToken, fun isChat => absurd isChat notChat⟩

theorem writeNext_knows {rest : List (String × PyValue)}
    (accepted : ∀ entry ∈ rest, ValueAccepted store entry.1 entry.2)
    (botUsername : Json.Text) (chatId : String) :
    Knows (writeNext rest botUsername chatId) store := by
  cases rest with
  | nil => trivial
  | cons entry rest => exact accepted

theorem configEntries_accepted {token chatId : String}
    (accepted : (token, chatId) ∈ store.accepted) :
    ∀ entry ∈ configEntries token chatId,
      ValueAccepted store entry.1 entry.2 := by
  have different : "bot.token" ≠ "bot.chat_id" := by decide
  intro entry member
  simp only [configEntries, List.mem_cons, List.not_mem_nil, or_false] at member
  rcases member with rfl | rfl | rfl
  · exact ⟨fun _ => ⟨token, rfl, chatId, accepted⟩,
      fun isChat => absurd isChat different⟩
  · exact ⟨fun isToken => absurd isToken.symm different,
      fun _ => ⟨chatId, rfl, token, accepted⟩⟩
  · exact valueAccepted_other (by decide) (by decide)

/-- An entry of a configuration is written, and the others come next. -/
theorem written_keeps {entry : String × PyValue}
    {rest : List (String × PyValue)}
    (known : ∀ other ∈ entry :: rest, ValueAccepted store other.1 other.2)
    (botUsername : Json.Text) (chatId : String) :
    Keeps store (writeNext rest botUsername chatId,
      { store with
        settings := upsertSetting store.settings entry.1 entry.2 }) := by
  have effect : Effect store
      { store with settings := upsertSetting store.settings entry.1 entry.2 } :=
    .upsert (known entry List.mem_cons_self)
  refine ⟨effect, writeNext_knows ?_ botUsername chatId⟩
  intro other member
  exact (known other (List.mem_cons_of_mem _ member)).of_grows effect.grows

theorem validate_keeps (token chatId : String) (reply : HttpReply) :
    Keeps store (validate printer token chatId reply store) := by
  unfold validate
  split
  · exact ⟨.none, trivial⟩
  · exact ⟨.none, trivial⟩
  · refine ⟨.accept token chatId, ?_⟩
    refine writeNext_knows (configEntries_accepted ?_) _ chatId
    exact List.mem_append_right _ List.mem_cons_self

theorem testSend_keeps {token chatId : String} (reply : HttpReply)
    (accepted : CredentialsAccepted store token chatId) :
    Keeps store (testSend printer token chatId reply store) := by
  unfold testSend
  dsimp only
  split
  · exact ⟨.use accepted, trivial⟩
  · exact ⟨.use accepted, trivial⟩

theorem loadedOf_keeps {token chatId : String}
    (tokenKnown : token = "" ∨ TokenAccepted store token)
    (chatKnown : chatId = "" ∨ ChatAccepted store chatId) :
    Keeps store (loadedOf token chatId store) := by
  unfold loadedOf
  split
  · exact ⟨.none, trivial⟩
  · rename_i given
    exact ⟨.use (credentials_of_known tokenKnown chatKnown given),
      List.mem_append_right _ List.mem_cons_self⟩

theorem testWith_knows {token chatId : String}
    (tokenKnown : token = "" ∨ TokenAccepted store token)
    (chatKnown : chatId = "" ∨ ChatAccepted store chatId) :
    Knows (testWith token chatId) store := by
  unfold testWith
  split
  · trivial
  · rename_i given
    exact credentials_of_known tokenKnown chatKnown given

theorem botAdvance_keeps (vouched : Vouched store) (phase : BotPhase)
    (knows : phase.Knows store) :
    Keeps store (botAdvance printer phase input store) := by
  have enabledOther : ∀ value, ValueAccepted store "bot.enabled" value :=
    fun value => valueAccepted_other (by decide) (by decide)
  cases phase with
  | validate token chatId => exact validate_keeps token chatId input.reply
  | update entry rest botUsername chatId =>
      unfold botAdvance
      dsimp only
      cases input.problem with
      | some problem => exact ⟨.none, trivial⟩
      | none =>
          rcases updateSetting_cases store.settings entry.1 entry.2 with
            ⟨-, missing⟩ | ⟨-, updated⟩
          · rw [missing]
            exact ⟨.none, knows⟩
          · rw [updated]
            exact written_keeps knows botUsername chatId
  | create entry rest botUsername chatId =>
      unfold botAdvance
      dsimp only
      cases input.problem with
      | some problem => exact ⟨.none, trivial⟩
      | none =>
          rcases createSetting_cases store.settings entry.1 entry.2 with
            ⟨-, created⟩ | ⟨-, refused⟩
          · rw [created]
            exact written_keeps knows botUsername chatId
          · rw [refused]
            exact ⟨.none, trivial⟩
  | statusToken => exact readThen_keeps fun record read => trivial
  | statusChatId token => exact readThen_keeps fun record read => trivial
  | statusEnabled token chatId =>
      apply readThen_keeps
      intro record read
      unfold statusOf
      split <;> trivial
  | deleteToken => exact writeThen_keeps (.delete _) fun later => trivial
  | deleteChatId => exact writeThen_keeps (.delete _) fun later => trivial
  | deleteEnabled =>
      exact writeThen_keeps (.upsert (enabledOther _)) fun later => trivial
  | testToken =>
      exact readThen_keeps fun record read => vouched.recordToken read printer
  | testChatId token =>
      apply readThen_keeps
      intro record read
      exact testWith_knows knows (vouched.recordChat read printer)
  | testSend token chatId => exact testSend_keeps input.reply knows
  | setting key =>
      unfold botAdvance
      dsimp only
      split
      · exact ⟨.none, trivial⟩
      · exact ⟨.none, trivial⟩
  | loadEnabled =>
      apply readThen_keeps
      intro record read
      split <;> trivial
  | loadToken =>
      exact readThen_keeps fun record read => vouched.recordToken read printer
  | loadChatId token =>
      unfold botAdvance
      dsimp only
      split
      · exact ⟨.none, trivial⟩
      · exact ⟨.none, trivial⟩
      · rename_i read
        exact loadedOf_keeps knows (vouched.recordChat read printer)
  | disable =>
      exact writeThen_keeps (.upsert (enabledOther _)) fun later => trivial
  | store key other value =>
      have notBot : ValueAccepted store key value := by
        apply valueAccepted_other
        · rintro rfl
          exact other (by decide)
        · rintro rfl
          exact other (by decide)
      exact writeThen_keeps (.upsert notBot) fun later => trivial
  | remove key other =>
      exact writeThen_keeps (.delete key) fun later => trivial

end Steps

end Provenance

/-- Only accepted credentials are used.  In every state of every run, whatever
the interleaving, the failures and the replies, the token and the chat that a
test or the delivery loop sends with are not empty, and each of them came along
with a configuration whose token Telegram had accepted before. -/
theorem accepted_credentials_used (printer : Printer)
    (events : List BotEvent) {store : BotStore} (vouched : Vouched store) :
    Always (botRequests printer).step
      (fun system => Vouched system.store ∧
        ∀ credentials,
          .ended (.loaded (some credentials)) ∈ system.calls →
            CredentialsAccepted system.store credentials.1 credentials.2)
      events (System.idle store) := by
  have annotated : Always (botRequests printer).step
      (Protocol.Annotated Vouched Knows) events (System.idle store) := by
    apply (botRequests printer).always_annotated
    · intro request store _
      cases request <;> trivial
    · exact fun _ => trivial
    · intro phase input store vouched knows
      obtain ⟨effect, known⟩ :=
        @botAdvance_keeps store printer input vouched phase knows
      exact ⟨vouched.of_effect effect, known⟩
    · intro phase input store other vouched knows otherKnows
      obtain ⟨effect, -⟩ :=
        @botAdvance_keeps store printer input vouched phase knows
      exact otherKnows.of_grows effect.grows
    · exact vouched
  intro executed isInitial
  obtain ⟨holds, known⟩ := annotated executed isInitial
  exact ⟨holds, fun credentials member =>
    holds.used credentials (known _ member)⟩

theorem accepted_credentials_used_sample :
    CredentialsAccepted
      (run (botRequests samplePrinter).step (sampleEvents "11:wxyz")
        (System.idle emptyStore)).store "11:wxyz" "-100" := by
  have vouched : Vouched emptyStore := by
    constructor
    · intro key row isRow
      cases isRow
    · intro credentials member
      cases member
  have always := accepted_credentials_used samplePrinter
    (sampleEvents "11:wxyz") vouched _ (List.prefix_refl _)
  exact always.2 ("11:wxyz", "-100") (List.mem_of_getElem? (i := 2) rfl)

end Tca.BotConfig
