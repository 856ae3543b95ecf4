import Tca.IsoTimestamps
import Tca.PollingStore
import Tca.PythonJson

/-!
# Cursors as JSON

The ingest position of a channel is stored as a JSON document.  The file embeds
the encoder and the decoder of the column, down to the times that are moved to
UTC and written with a `Z`.  Decoding inverts encoding.  The decoder is lenient:
its tests let values through that it was not meant for, and the file says
exactly for which documents that happens.
-/

namespace Tca

open PythonTexts

/-- What passes for an integer in a cursor: a `bool` is an `int`, too. -/
inductive CursorId where
  | int (value : Int)
  | bool (value : Bool)
  deriving DecidableEq

/-- A `ChannelCursor` as the interpreter has it, which does not enforce the
annotation `int | None` of the ids. -/
structure LooseCursor where
  lastMessageId : Option CursorId
  nextOffsetId : Option CursorId
  lastPolledAt : Timestamp
  deriving DecidableEq

def ChannelCursor.loose (cursor : ChannelCursor) : LooseCursor where
  lastMessageId := cursor.lastMessageId.map .int
  nextOffsetId := cursor.nextOffsetId.map .int
  lastPolledAt := cursor.lastPolledAt

section Utc

/-- `value.astimezone(UTC)` of an aware datetime. -/
def Timestamp.astimezoneUtc (value : Timestamp) : Except PyError Timestamp := do
  let shifted ← value.addMicros (-(value.offset.getD .utc).micros)
  return { shifted with offset := some .utc }

/-- A time that can be moved to UTC is the same instant there. -/
theorem Timestamp.astimezoneUtc_eq_ok {value utc : Timestamp}
    (moved : value.astimezoneUtc = .ok utc) :
    utc.offset = some .utc ∧ utc.instant = value.instant := by
  obtain ⟨shifted, added, moved⟩ := Json.bind_returns moved
  obtain rfl := Except.ok.inj moved
  refine ⟨rfl, ?_⟩
  unfold addMicros at added
  simp only at added
  split at added
  · rename_i inRange
    obtain rfl := Except.ok.inj added
    have sameInstant : ∀ wall epoch offset : Int,
        wall + -offset - epoch - 0 = wall - epoch - offset := by
      omega
    have utcMicros : UtcOffset.utc.micros = 0 := rfl
    simp only [instant, Option.getD_some, utcMicros,
      Int.toNat_of_nonneg inRange.1]
    exact sameInstant _ _ _
  · cases added

/-- A time in UTC stays as it is. -/
theorem Timestamp.astimezoneUtc_of_utc {value : Timestamp}
    (isUtc : value.offset = some .utc) : value.astimezoneUtc = .ok value := by
  obtain ⟨⟨micros, inRange⟩, offset⟩ := value
  simp only at isUtc
  subst isUtc
  have stays : (0 : Int) ≤ micros + -(UtcOffset.utc.micros) ∧
      (micros : Int) + -(UtcOffset.utc.micros) < wallLimit := by
    simp only [UtcOffset.utc]
    omega
  rw [astimezoneUtc, addMicros]
  simp only [Option.getD_some, dif_pos stays]
  simp only [UtcOffset.utc, neg_zero, add_zero, Int.toNat_natCast]
  rfl

/-- The time can be moved to UTC. -/
def UtcRepresentable (value : Timestamp) : Prop :=
  0 ≤ (value.wall.micros : Int) - (value.offset.getD .utc).micros ∧
    (value.wall.micros : Int) - (value.offset.getD .utc).micros < wallLimit

theorem astimezoneUtc_of_representable {value : Timestamp}
    (representable : UtcRepresentable value) :
    ∃ utc, value.readAsUtc.astimezoneUtc = .ok utc := by
  obtain ⟨notBefore, notAfter⟩ := representable
  have shifts : ∃ shifted,
      value.readAsUtc.addMicros (-(value.offset.getD .utc).micros) =
        .ok shifted := by
    rw [Timestamp.addMicros]
    exact ⟨_, dif_pos ⟨notBefore, notAfter⟩⟩
  obtain ⟨shifted, shifts⟩ := shifts
  refine ⟨{ shifted with offset := some .utc }, ?_⟩
  show (value.readAsUtc.addMicros (-(value.offset.getD .utc).micros) >>= _) = _
  rw [shifts]
  rfl

end Utc

namespace CursorJson

/-- A stored value of the column `cursor_json`. -/
inductive CursorColumn where
  | null
  | text (value : String)
  | other
  deriving DecidableEq

/-- `ChannelStateDecodeError.from_details(details=details)`. -/
def stateDecodeError (details : String) : PyError :=
  .channelStateDecodeError ("Channel state payload invalid: " ++ details)

def invalidField (field : String) : PyError :=
  stateDecodeError ("cursor_json invalid `" ++ field ++ "`")

/-- `_raise_invalid_json_constant`. -/
def raiseInvalidJsonConstant (value : List Char) :
    Except PyError (List Char) :=
  .error (.valueError ("invalid numeric constant '" ++ String.ofList value ++
    "'"))

/-- `_format_cursor_timestamp`. -/
def formatCursorTimestamp (value : Timestamp) : Except PyError (List Char) := do
  let normalized ← value.readAsUtc.astimezoneUtc
  return replace "+00:00".toList "Z".toList normalized.isoformatT.toList

/-- An id in the document of a cursor. -/
def idValue : Option CursorId → Json.Value (List Char)
  | none => .null
  | some (.int value) => .int value
  | some (.bool value) => .bool value

/-- `_encode_cursor_json`. -/
def encodeCursorJson :
    Option LooseCursor → Except PyError (Option String)
  | none => .ok none
  | some cursor => do
      let lastPolledAt ← formatCursorTimestamp cursor.lastPolledAt
      let serialized ← jsonEncoder.dumps (.object
        [(.ofChars "last_message_id".toList, idValue cursor.lastMessageId),
          (.ofChars "next_offset_id".toList, idValue cursor.nextOffsetId),
          (.ofChars "last_polled_at".toList, .str (.ofChars lastPolledAt))])
      return some (String.ofList serialized)

/-- Of the places where a separator of date and time can be, the first that has
a surrogate gets a `T`. -/
def sanitizeIsoformat (text : Json.Text) : Json.Text :=
  match [7, 8, 10].find? fun place =>
      match text[place]? with
      | some (.surrogate _ _) => true
      | _ => false with
  | some place => text.set place (.scalar 'T')
  | none => text

/-- `datetime.fromisoformat` on a text that may have surrogates. -/
def fromisoformatText (text : Json.Text) : Option Timestamp := do
  let chars ← (sanitizeIsoformat text).chars?
  fromisoformat (String.ofList chars)

/-- `_parse_cursor_timestamp`, with no result for `ValueError`. -/
def parseCursorTimestamp (value : Json.Text) : Option Timestamp :=
  let value :=
    if value.getLast? = some (.scalar 'Z') then
      value.dropLast ++ Json.Text.ofChars "+00:00".toList
    else value
  (fromisoformatText value).map Timestamp.readAsUtc

/-- `_coerce_cursor_datetime`. -/
def coerceCursorDatetime (value : Json.Value (List Char)) (field : String) :
    Except PyError Timestamp :=
  match value with
  | .str text =>
      match parseCursorTimestamp text with
      | some parsed => .ok parsed
      | none => .error (invalidField field)
  | _ => .error (invalidField field)

section Decoding

-- `describe` gives the text of the `JSONDecodeError` for a document.
variable (tables : NumeralTables) (describe : List Char → String)

/-- The text when `str.isdigit` accepts it. -/
def digitText? (text : Json.Text) : Option String := do
  let chars ← text.chars?
  if tables.isdigit (String.ofList chars) then some (String.ofList chars)
  else none

/-- `_coerce_optional_int`. -/
def coerceOptionalInt (value : Json.Value (List Char)) (field : String) :
    Except PyError (Option CursorId) :=
  match value with
  | .null => .ok none
  | .int value => .ok (some (.int value))
  | .bool value => .ok (some (.bool value))
  | .str text =>
      match digitText? tables text with
      | some digits => do return some (.int (← tables.int digits))
      | none => .error (invalidField field)
  | _ => .error (invalidField field)

/-- The value of a field that the document must have. -/
def requiredField (members : List (Json.Text × Json.Value (List Char)))
    (field : String) : Except PyError (Json.Value (List Char)) :=
  match Json.member? members field with
  | some value => .ok value
  | none => .error (stateDecodeError ("cursor_json missing `" ++ field ++ "`"))

/-- `_decode_cursor_json`. -/
def decodeCursorJson (recursionLimit : Nat) :
    CursorColumn → Except PyError (Option LooseCursor)
  | .null => .ok none
  | .other => .error (stateDecodeError "missing text `cursor_json`")
  | .text value =>
      match (jsonDecoder raiseInvalidJsonConstant recursionLimit).loads
          value.toList with
      | .error .malformed =>
          .error (stateDecodeError
            ("invalid cursor_json: " ++ describe value.toList))
      | .error (.raised (.valueError message)) =>
          .error (stateDecodeError ("invalid cursor_json: " ++ message))
      | .error (.raised error) => .error error
      | .error (.tooDeep container) => .error (jsonRecursionError container)
      | .ok (.object members) => do
          let lastMessageId ← requiredField members "last_message_id"
          let nextOffsetId ← requiredField members "next_offset_id"
          let lastPolledAt ← requiredField members "last_polled_at"
          let lastMessageId ←
            coerceOptionalInt tables lastMessageId "last_message_id"
          let nextOffsetId ←
            coerceOptionalInt tables nextOffsetId "next_offset_id"
          let lastPolledAt ←
            coerceCursorDatetime lastPolledAt "last_polled_at"
          return some ⟨lastMessageId, nextOffsetId, lastPolledAt⟩
      | .ok _ => .error (stateDecodeError "cursor_json must be object")

end Decoding

section Timestamps

open FixedWidthText CivilCalendar IsoTimestamps

/-- The text of a time has no other marks than its separators. -/
theorem notMem_secondsText {seconds : Nat} (inRange : seconds < 315537897600)
    {mark : Char} (notDigit : mark.isDigit = false)
    (notSeparator : mark ∉ ['-', ' ', ':']) : mark ∉ secondsText seconds := by
  have yearFits : (civilDate (seconds / 86400)).1 < 10 ^ 4 :=
    civilDate_year_lt (by omega)
  obtain ⟨monthBound, dayBound⟩ := civilDate_bounds (seconds / 86400)
  simp only [List.mem_cons, List.not_mem_nil, or_false, not_or] at notSeparator
  obtain ⟨notDash, notBlank, notColon⟩ := notSeparator
  simp only [secondsText, List.mem_append, List.mem_singleton,
    not_mem_decimal yearFits notDigit, notDash, notBlank, notColon,
    not_mem_decimal (show (civilDate (seconds / 86400)).2.1 < 10 ^ 2 by omega)
      notDigit,
    not_mem_decimal (show (civilDate (seconds / 86400)).2.2 < 10 ^ 2 by omega)
      notDigit,
    not_mem_decimal (show seconds % 86400 / 3600 < 10 ^ 2 by omega) notDigit,
    not_mem_decimal (show seconds % 86400 % 3600 / 60 < 10 ^ 2 by omega)
      notDigit,
    not_mem_decimal (show seconds % 86400 % 60 < 10 ^ 2 by omega) notDigit,
    or_self, not_false_eq_true]

/-- A time in UTC ends with its offset, and has no other plus sign. -/
theorem isoformatT_utc {value : Timestamp} (isUtc : value.offset = some .utc) :
    ∃ body : List Char, '+' ∉ body ∧
      value.isoformatT.toList = body ++ "+00:00".toList := by
  have inRange := value.wall.inRange
  unfold wallLimit at inRange
  have noSeconds : '+' ∉ secondsText (value.wall.micros / 1000000) :=
    notMem_secondsText (by omega) (by decide) (by decide)
  have noFraction : '+' ∉ fractionText (value.wall.micros % 1000000) :=
    not_mem_fractionText (by omega) (by decide) (by decide)
  refine ⟨(secondsText (value.wall.micros / 1000000) ++
    fractionText (value.wall.micros % 1000000)).set 10 'T', ?_, ?_⟩
  · intro member
    rcases List.mem_or_eq_of_mem_set member with inText | isLetter
    · rcases List.mem_append.mp inText with inSeconds | inFraction
      · exact noSeconds inSeconds
      · exact noFraction inFraction
    · cases isLetter
  · have long : 10 < (secondsText (value.wall.micros / 1000000) ++
        fractionText (value.wall.micros % 1000000)).length := by
      rw [List.length_append, secondsText_length]
      omega
    have offset : (value.offset.map offsetText).getD [] = "+00:00".toList := by
      rw [isUtc]
      rfl
    rw [Timestamp.isoformatT, String.toList_ofList, Timestamp.isoformat,
      String.toList_ofList, offset, ← List.append_assoc,
      List.set_append_left _ _ long]

/-- The text of a time in UTC, with a `Z`. -/
theorem formatCursorTimestamp_eq {value utc : Timestamp}
    (moved : value.readAsUtc.astimezoneUtc = .ok utc) :
    ∃ body : List Char, utc.isoformatT.toList = body ++ "+00:00".toList ∧
      formatCursorTimestamp value = .ok (body ++ ['Z']) := by
  obtain ⟨isUtc, -⟩ := Timestamp.astimezoneUtc_eq_ok moved
  obtain ⟨body, noPlus, spelled⟩ := isoformatT_utc isUtc
  refine ⟨body, spelled, ?_⟩
  rw [formatCursorTimestamp, moved]
  show Except.ok (replace _ _ utc.isoformatT.toList) = _
  rw [spelled]
  exact congrArg Except.ok (replace_append _ noPlus)

theorem fromisoformatText_ofChars (chars : List Char) :
    fromisoformatText (.ofChars chars) =
      fromisoformat (String.ofList chars) := by
  have unchanged : sanitizeIsoformat (.ofChars chars) = .ofChars chars := by
    have noSurrogate : ∀ place : Nat,
        (match (Json.Text.ofChars chars)[place]? with
          | some (.surrogate _ _) => true
          | _ => false) = false := by
      intro place
      rw [Json.Text.ofChars, List.getElem?_map]
      cases chars[place]? <;> rfl
    simp [sanitizeIsoformat, noSurrogate]
  rw [fromisoformatText, unchanged, Json.Text.chars?_ofChars]
  rfl

/-- The text of a time is read back as the time in UTC. -/
theorem parseCursorTimestamp_format {value utc : Timestamp} {text : List Char}
    (moved : value.readAsUtc.astimezoneUtc = .ok utc)
    (formatted : formatCursorTimestamp value = .ok text) :
    parseCursorTimestamp (.ofChars text) = some utc := by
  obtain ⟨isUtc, -⟩ := Timestamp.astimezoneUtc_eq_ok moved
  obtain ⟨body, spelled, written⟩ := formatCursorTimestamp_eq moved
  rw [written] at formatted
  obtain rfl := Except.ok.inj formatted
  have marked : (Json.Text.ofChars (body ++ ['Z'])).getLast? =
      some (.scalar 'Z') := by
    rw [Json.Text.ofChars, List.map_append, List.map_singleton,
      List.getLast?_concat]
  have unmarked : (Json.Text.ofChars (body ++ ['Z'])).dropLast ++
      Json.Text.ofChars "+00:00".toList =
        Json.Text.ofChars (body ++ "+00:00".toList) := by
    simp only [Json.Text.ofChars, List.map_append, List.map_singleton,
      List.dropLast_concat]
  have aware : utc.offset.isSome := by
    rw [isUtc]
    rfl
  simp only [parseCursorTimestamp, if_pos marked, unmarked,
    fromisoformatText_ofChars, ← spelled, String.ofList_toList,
    fromisoformat_isoformatT, Option.map_some,
    Timestamp.readAsUtc_of_aware aware]

end Timestamps

/-- Tables for texts whose only character outside ASCII is a superscript two,
which is a digit for `str.isdigit` and none for `int`. -/
def superscriptNumerals : NumeralTables where
  decimal _ := none
  isDigit char := char == '²'
  repr text := "'" ++ text ++ "'"

section RoundTrip

variable {recursionLimit : Nat} {cursor : LooseCursor} {text : String}
  (tables : NumeralTables) (describe : List Char → String)

/-- The document of a cursor. -/
def cursorMembers (cursor : LooseCursor) (lastPolledAt : List Char) :
    List (Json.Text × Json.Value (List Char)) :=
  [(.ofChars "last_message_id".toList, idValue cursor.lastMessageId),
    (.ofChars "next_offset_id".toList, idValue cursor.nextOffsetId),
    (.ofChars "last_polled_at".toList, .str (.ofChars lastPolledAt))]

theorem plain_idValue (id : Option CursorId) : Json.Plain 0 (idValue id) := by
  cases id with
  | none => trivial
  | some id => cases id <;> trivial

theorem plain_cursorMembers (deepEnough : 0 < recursionLimit)
    (cursor : LooseCursor) (lastPolledAt : List Char) :
    Json.Plain recursionLimit
      (.object (cursorMembers cursor lastPolledAt)) := by
  obtain ⟨depth, rfl⟩ := Nat.exists_eq_add_one.mpr deepEnough
  have plainTime : Json.Plain 0
      (.str (.ofChars lastPolledAt) : Json.Value (List Char)) := ⟨_, rfl⟩
  intro member isMember
  simp only [cursorMembers, List.mem_cons, List.not_mem_nil, or_false]
    at isMember
  rcases isMember with rfl | rfl | rfl
  · exact ⟨⟨_, rfl⟩, (plain_idValue _).atDepth depth⟩
  · exact ⟨⟨_, rfl⟩, (plain_idValue _).atDepth depth⟩
  · exact ⟨⟨_, rfl⟩, plainTime.atDepth depth⟩

theorem coerceOptionalInt_idValue (id : Option CursorId) (field : String) :
    coerceOptionalInt tables (idValue id) field = .ok id := by
  cases id with
  | none => rfl
  | some id => cases id <;> rfl

/-- What the encoder has done when it returns a text. -/
theorem encodeCursorJson_eq_ok
    (encoded : encodeCursorJson (some cursor) = .ok (some text)) :
    ∃ utc lastPolledAt, cursor.lastPolledAt.readAsUtc.astimezoneUtc = .ok utc ∧
      formatCursorTimestamp cursor.lastPolledAt = .ok lastPolledAt ∧
      jsonEncoder.dumps (.object (cursorMembers cursor lastPolledAt)) =
        .ok text.toList := by
  obtain ⟨lastPolledAt, formatted, encoded⟩ := Json.bind_returns encoded
  obtain ⟨serialized, printed, encoded⟩ := Json.bind_returns encoded
  obtain ⟨utc, moved, -⟩ := Json.bind_returns formatted
  obtain rfl := Option.some.inj (Except.ok.inj encoded)
  refine ⟨utc, lastPolledAt, moved, formatted, ?_⟩
  rw [String.toList_ofList]
  exact printed

/-- A text of the encoder is read as the cursor with its time in UTC. -/
theorem decodeCursorJson_encode (deepEnough : 0 < recursionLimit)
    (encoded : encodeCursorJson (some cursor) = .ok (some text)) :
    ∃ utc, cursor.lastPolledAt.readAsUtc.astimezoneUtc = .ok utc ∧
      decodeCursorJson tables describe recursionLimit (.text text) =
        .ok (some { cursor with lastPolledAt := utc }) := by
  obtain ⟨utc, lastPolledAt, moved, formatted, printed⟩ :=
    encodeCursorJson_eq_ok encoded
  have loaded : (jsonDecoder raiseInvalidJsonConstant recursionLimit).loads
      text.toList = .ok (.object (cursorMembers cursor lastPolledAt)) :=
    Json.loads_dumps jsonEncoder_readBy
      (plain_cursorMembers deepEnough cursor lastPolledAt) printed
  have parsed := parseCursorTimestamp_format moved formatted
  have timeRead : coerceCursorDatetime (.str (.ofChars lastPolledAt))
      "last_polled_at" = .ok utc := by
    simp only [coerceCursorDatetime, parsed]
  refine ⟨utc, moved, ?_⟩
  simp only [decodeCursorJson, loaded]
  show (coerceOptionalInt tables (idValue cursor.lastMessageId)
    "last_message_id" >>= _) = _
  rw [coerceOptionalInt_idValue]
  show (coerceOptionalInt tables (idValue cursor.nextOffsetId)
    "next_offset_id" >>= _) = _
  rw [coerceOptionalInt_idValue]
  show (coerceCursorDatetime (.str (.ofChars lastPolledAt))
    "last_polled_at" >>= _) = _
  rw [timeRead]
  rfl

/-- The text of a time is the text of the same time in UTC. -/
theorem formatCursorTimestamp_utc {value utc : Timestamp}
    (moved : value.readAsUtc.astimezoneUtc = .ok utc) :
    formatCursorTimestamp utc = formatCursorTimestamp value := by
  obtain ⟨isUtc, -⟩ := Timestamp.astimezoneUtc_eq_ok moved
  have aware : utc.offset.isSome := by
    rw [isUtc]
    rfl
  rw [formatCursorTimestamp, formatCursorTimestamp, moved,
    Timestamp.readAsUtc_of_aware aware, Timestamp.astimezoneUtc_of_utc isUtc]

theorem dumps_idValue {id : Option Int}
    (printable : ∀ value ∈ id, Printable value) :
    ∃ printed, jsonEncoder.dumps (idValue (id.map .int)) = .ok printed := by
  cases id with
  | none => exact ⟨_, rfl⟩
  | some value =>
      refine ⟨intDigits value, ?_⟩
      show (pythonStr value).map String.toList = _
      rw [pythonStr, if_pos (printable value rfl)]
      exact congrArg Except.ok String.toList_ofList

/-- A cursor is encoded when its ids can be printed and its time can be moved
to UTC. -/
theorem encodeCursorJson_returns {cursor : ChannelCursor} {utc : Timestamp}
    (lastPrintable : ∀ id ∈ cursor.lastMessageId, Printable id)
    (nextPrintable : ∀ id ∈ cursor.nextOffsetId, Printable id)
    (moved : cursor.lastPolledAt.readAsUtc.astimezoneUtc = .ok utc) :
    ∃ text, encodeCursorJson (some cursor.loose) = .ok (some text) := by
  obtain ⟨body, -, formatted⟩ := formatCursorTimestamp_eq moved
  obtain ⟨lastText, lastPrinted⟩ := dumps_idValue lastPrintable
  obtain ⟨nextText, nextPrinted⟩ := dumps_idValue nextPrintable
  have formattedLoose : formatCursorTimestamp cursor.loose.lastPolledAt =
      .ok (body ++ ['Z']) := formatted
  have lastLoose : jsonEncoder.dumps (idValue cursor.loose.lastMessageId) =
      .ok lastText := lastPrinted
  have nextLoose : jsonEncoder.dumps (idValue cursor.loose.nextOffsetId) =
      .ok nextText := nextPrinted
  rw [encodeCursorJson, formattedLoose]
  simp only [Json.Encoder.dumps, Json.Encoder.dumpsMembers, lastLoose,
    nextLoose]
  exact ⟨_, rfl⟩

theorem printable_of_isSqlInteger {id : Option Int}
    (fits : ∀ value ∈ id, IsSqlInteger value) :
    ∀ value ∈ id, Printable value := by
  intro value isId
  obtain ⟨lowest, highest⟩ := fits value isId
  exact printable_of_small (by omega)

/-- Decoding inverts encoding: a cursor comes back with its ids and the instant
of its time, and a text of the encoder is encoded again as it was. -/
theorem cursor_json_round_trip (deepEnough : 0 < recursionLimit) :
    (∀ cursor : ChannelCursor,
      (∀ id ∈ cursor.lastMessageId, IsSqlInteger id) →
      (∀ id ∈ cursor.nextOffsetId, IsSqlInteger id) →
      UtcRepresentable cursor.lastPolledAt →
      ∃ text decoded,
        encodeCursorJson (some cursor.loose) = .ok (some text) ∧
        decodeCursorJson tables describe recursionLimit (.text text) =
          .ok (some decoded) ∧
        decoded.lastMessageId = cursor.lastMessageId.map .int ∧
        decoded.nextOffsetId = cursor.nextOffsetId.map .int ∧
        decoded.lastPolledAt.instant = cursor.lastPolledAt.instant) ∧
    (∀ cursor text, encodeCursorJson (some cursor) = .ok (some text) →
      ∃ decoded,
        decodeCursorJson tables describe recursionLimit (.text text) =
          .ok (some decoded) ∧
        encodeCursorJson (some decoded) = .ok (some text)) := by
  constructor
  · intro cursor lastFits nextFits representable
    obtain ⟨utc, moved⟩ := astimezoneUtc_of_representable representable
    obtain ⟨text, encoded⟩ := encodeCursorJson_returns
      (printable_of_isSqlInteger lastFits)
      (printable_of_isSqlInteger nextFits) moved
    obtain ⟨utc, moved, decoded⟩ :=
      decodeCursorJson_encode tables describe deepEnough encoded
    refine ⟨text, _, encoded, decoded, rfl, rfl, ?_⟩
    obtain ⟨-, sameInstant⟩ := Timestamp.astimezoneUtc_eq_ok moved
    rw [Timestamp.instant_readAsUtc] at sameInstant
    exact sameInstant
  · intro cursor text encoded
    obtain ⟨utc, moved, decoded⟩ :=
      decodeCursorJson_encode tables describe deepEnough encoded
    refine ⟨_, decoded, ?_⟩
    rw [encodeCursorJson] at encoded ⊢
    rw [formatCursorTimestamp_utc moved]
    exact encoded

/-- A cursor with a time five and a half hours ahead of UTC, and a fraction. -/
def sampleCursor : ChannelCursor where
  lastMessageId := some 9223372036854775807
  nextOffsetId := none
  lastPolledAt :=
    ⟨⟨63839683800250000, by decide⟩, some ⟨19800000000, by decide, by decide⟩⟩

theorem sample_cursor_json_round_trip :
    ∃ text decoded,
      encodeCursorJson (some sampleCursor.loose) = .ok (some text) ∧
      decodeCursorJson superscriptNumerals (fun _ => "") 1000 (.text text) =
        .ok (some decoded) ∧
      decoded.lastPolledAt.instant = sampleCursor.lastPolledAt.instant ∧
      encodeCursorJson (some decoded) = .ok (some text) := by
  have roundTrip := @cursor_json_round_trip 1000 superscriptNumerals
    (fun _ => "") (by decide)
  obtain ⟨text, decoded, encoded, read, -, -, instant⟩ :=
    roundTrip.1 sampleCursor (by decide) (by decide) (by
      constructor <;> decide)
  obtain ⟨again, readAgain, encodedAgain⟩ := roundTrip.2 _ text encoded
  rw [read] at readAgain
  obtain rfl := Option.some.inj (Except.ok.inj readAgain)
  exact ⟨text, decoded, encoded, read, instant, encodedAgain⟩

end RoundTrip

section Refinement

variable {recursionLimit : Nat} (tables : NumeralTables)
  (describe : List Char → String) {cursor : ChannelCursor}

/-- The time that is stored for a cursor is the one its text denotes. -/
theorem formatCursorTimestamp_stored (value : Timestamp) :
    Tca.formatCursorTimestamp value = value.readAsUtc.astimezoneUtc := by
  have shifts : ∀ micros, value.readAsUtc.addMicros micros =
      (value.addMicros micros).map Timestamp.readAsUtc := by
    intro micros
    by_cases inRange : 0 ≤ (value.wall.micros : Int) + micros ∧
      (value.wall.micros : Int) + micros < wallLimit
    · have plain : value.addMicros micros = _ := dif_pos inRange
      have aware : value.readAsUtc.addMicros micros = _ := dif_pos inRange
      rw [plain, aware]
      rfl
    · have plain : value.addMicros micros = _ := dif_neg inRange
      have aware : value.readAsUtc.addMicros micros = _ := dif_neg inRange
      rw [plain, aware]
      rfl
  have sameOffset : (value.readAsUtc.offset.getD .utc).micros =
      (value.offset.getD .utc).micros := rfl
  rw [Tca.formatCursorTimestamp, Timestamp.astimezoneUtc, sameOffset, shifts]
  cases value.addMicros (-(value.offset.getD .utc).micros) <;> rfl

/-- The polling store keeps, for a text, the cursor that the decoder makes of
it: it stores a cursor just when the encoder returns a text. -/
theorem encodeCursorJson_stored (deepEnough : 0 < recursionLimit)
    {stored : ChannelCursor}
    (encoded : Tca.encodeCursorJson (some cursor) = .ok (some stored)) :
    ∃ text, encodeCursorJson (some cursor.loose) = .ok (some text) ∧
      decodeCursorJson tables describe recursionLimit (.text text) =
        .ok (some stored.loose) := by
  obtain ⟨utc, moved, encoded⟩ := Json.bind_returns encoded
  rw [formatCursorTimestamp_stored] at moved
  split at encoded
  · rename_i short
    obtain rfl := Option.some.inj (Except.ok.inj encoded)
    have printable : ∀ id ∈ cursor.messageIds, Printable id := short
    simp only [ChannelCursor.messageIds, List.mem_append, Option.mem_toList]
      at printable
    obtain ⟨text, encodedText⟩ := encodeCursorJson_returns
      (fun id isLast => printable id (.inl isLast))
      (fun id isNext => printable id (.inr isNext)) moved
    obtain ⟨other, movedAgain, decoded⟩ :=
      decodeCursorJson_encode tables describe deepEnough encodedText
    have sameTime : utc = other :=
      Except.ok.inj (moved.symm.trans movedAgain)
    subst sameTime
    exact ⟨text, encodedText, decoded⟩
  · cases encoded

/-- An integer that is too long for a text is refused. -/
theorem dumps_idValue_refused {id : Option Int}
    (refused : ¬∀ value ∈ id, Printable value) :
    jsonEncoder.dumps (idValue (id.map .int)) =
      .error (.valueError ("Exceeds the limit (4300 digits) for integer " ++
        "string conversion; use sys.set_int_max_str_digits() to increase " ++
        "the limit")) := by
  cases id with
  | none => exact absurd (fun value absent => by cases absent) refused
  | some value =>
      have long : ¬Printable value := by
        intro printable
        apply refused
        intro other isValue
        obtain rfl := Option.some.inj isValue
        exact printable
      show (pythonStr value).map String.toList = _
      rw [pythonStr, if_neg long]
      rfl

/-- A cursor with an id that is too long for a text is refused. -/
theorem encodeCursorJson_long {text : List Char}
    (formatted : formatCursorTimestamp cursor.loose.lastPolledAt = .ok text)
    (long : ¬∀ id ∈ cursor.messageIds, Printable id) :
    encodeCursorJson (some cursor.loose) =
      .error (.valueError ("Exceeds the limit (4300 digits) for integer " ++
        "string conversion; use sys.set_int_max_str_digits() to increase " ++
        "the limit")) := by
  simp only [ChannelCursor.messageIds, List.mem_append, Option.mem_toList]
    at long
  rw [encodeCursorJson, formatted]
  simp only [Json.Encoder.dumps, Json.Encoder.dumpsMembers]
  by_cases lastPrintable : ∀ id ∈ cursor.lastMessageId, Printable id
  · have nextLong : ¬∀ id ∈ cursor.nextOffsetId, Printable id := by
      intro nextPrintable
      apply long
      rintro id (isLast | isNext)
      · exact lastPrintable id isLast
      · exact nextPrintable id isNext
    obtain ⟨lastText, lastPrinted⟩ := dumps_idValue lastPrintable
    have lastLoose : jsonEncoder.dumps (idValue cursor.loose.lastMessageId) =
        .ok lastText := lastPrinted
    have nextLoose : jsonEncoder.dumps (idValue cursor.loose.nextOffsetId) =
        .error _ := dumps_idValue_refused nextLong
    rw [lastLoose, nextLoose]
    rfl
  · have lastLoose : jsonEncoder.dumps (idValue cursor.loose.lastMessageId) =
        .error _ := dumps_idValue_refused lastPrintable
    rw [lastLoose]
    rfl

/-- Where the store refuses a cursor, the encoder raises the same exception. -/
theorem encodeCursorJson_refused {error : PyError}
    (refused : Tca.encodeCursorJson (some cursor) = .error error) :
    encodeCursorJson (some cursor.loose) = .error error := by
  rw [Tca.encodeCursorJson, formatCursorTimestamp_stored] at refused
  cases moved : cursor.lastPolledAt.readAsUtc.astimezoneUtc with
  | error problem =>
      have failed : formatCursorTimestamp cursor.loose.lastPolledAt =
          .error problem := by
        show (cursor.lastPolledAt.readAsUtc.astimezoneUtc >>= _) = _
        rw [moved]
        rfl
      rw [moved] at refused
      obtain rfl := Except.error.inj refused
      rw [encodeCursorJson, failed]
      rfl
  | ok utc =>
      obtain ⟨body, -, formatted⟩ := formatCursorTimestamp_eq moved
      rw [moved] at refused
      dsimp only [bind, Except.bind] at refused
      split at refused
      · cases refused
      · rename_i long
        obtain rfl := Except.error.inj refused
        exact encodeCursorJson_long formatted long

end Refinement

section Failures

variable (tables : NumeralTables) (describe : List Char → String)

/-- An id that is an integer and no `bool`, or none. -/
def IsGenuine (id : Option CursorId) : Prop :=
  ∀ found ∈ id, ∃ value, found = .int value

/-- A cursor comes back with genuine ids, or the decoder's own exception. -/
def DecodesCleanly (outcome : Except PyError (Option LooseCursor)) : Prop :=
  (∃ cursor, outcome = .ok (some cursor) ∧ IsGenuine cursor.lastMessageId ∧
      IsGenuine cursor.nextOffsetId) ∨
    ∃ message, outcome = .error (.channelStateDecodeError message)

/-- What a value of a document is to the decoder of an id. -/
inductive IdReading where
  | genuine
  | boolean
  | refusedDigits
  | invalid
  deriving DecidableEq

/-- Texts count as integers when `str.isdigit` accepts them, and `int` refuses
some of these. -/
def idReading : Json.Value (List Char) → IdReading
  | .null => .genuine
  | .int _ => .genuine
  | .bool _ => .boolean
  | .str text =>
      match digitText? tables text with
      | none => .invalid
      | some digits =>
          match tables.int digits with
          | .ok _ => .genuine
          | .error _ => .refusedDigits
  | _ => .invalid

/-- A value that the decoder takes for an id. -/
def IdReading.IsRead (reading : IdReading) : Prop :=
  reading = .genuine ∨ reading = .boolean

/-- A text that the decoder takes for a time. -/
def IsTime (value : Json.Value (List Char)) : Prop :=
  ∃ text parsed, value = .str text ∧ parseCursorTimestamp text = some parsed

/-- The members of a cursor that the decoder handles cleanly: no digits that
`int` refuses where the decoder comes to read them, and no `bool` for an id of a
document that is otherwise read. -/
def CleanFields
    (lastMessageId nextOffsetId lastPolledAt : Json.Value (List Char)) : Prop :=
  idReading tables lastMessageId ≠ .refusedDigits ∧
    ((idReading tables lastMessageId).IsRead →
      idReading tables nextOffsetId ≠ .refusedDigits) ∧
    ((idReading tables lastMessageId).IsRead →
      (idReading tables nextOffsetId).IsRead → IsTime lastPolledAt →
        idReading tables lastMessageId ≠ .boolean ∧
          idReading tables nextOffsetId ≠ .boolean)

/-- What the reading of an id comes to. -/
theorem coerceOptionalInt_reading (value : Json.Value (List Char))
    (field : String) :
    match idReading tables value with
    | .genuine => ∃ id, coerceOptionalInt tables value field = .ok id ∧
        IsGenuine id
    | .boolean => ∃ id, coerceOptionalInt tables value field = .ok id ∧
        ¬IsGenuine id
    | .refusedDigits => ∃ message,
        coerceOptionalInt tables value field = .error (.valueError message)
    | .invalid => ∃ details,
        coerceOptionalInt tables value field =
          .error (stateDecodeError details) := by
  cases value with
  | null => exact ⟨none, rfl, by simp [IsGenuine]⟩
  | int number => exact ⟨some (.int number), rfl, by simp [IsGenuine]⟩
  | bool truth => exact ⟨some (.bool truth), rfl, by simp [IsGenuine]⟩
  | float numeral => exact ⟨_, rfl⟩
  | list items => exact ⟨_, rfl⟩
  | object members => exact ⟨_, rfl⟩
  | str text =>
      simp only [idReading, coerceOptionalInt]
      cases digitText? tables text with
      | none => exact ⟨_, rfl⟩
      | some digits =>
          dsimp only
          cases read : tables.int digits with
          | ok number =>
              exact ⟨some (.int number), rfl, by simp [IsGenuine]⟩
          | error error =>
              obtain ⟨message, rfl⟩ := int_error read
              exact ⟨message, rfl⟩

theorem coerceCursorDatetime_cases (value : Json.Value (List Char))
    (field : String) :
    (IsTime value ∧ ∃ parsed, coerceCursorDatetime value field = .ok parsed) ∨
      (¬IsTime value ∧ ∃ details,
        coerceCursorDatetime value field =
          .error (stateDecodeError details)) := by
  by_cases isTime : IsTime value
  · left
    obtain ⟨text, parsed, rfl, read⟩ := isTime
    refine ⟨⟨text, parsed, rfl, read⟩, parsed, ?_⟩
    simp only [coerceCursorDatetime, read]
  · right
    refine ⟨isTime, "cursor_json invalid `" ++ field ++ "`", ?_⟩
    unfold coerceCursorDatetime
    split
    · rename_i text
      split
      · rename_i parsed read
        exact absurd ⟨text, parsed, rfl, read⟩ isTime
      · rfl
    · rfl

theorem decodesCleanly_error (details : String) :
    DecodesCleanly (.error (stateDecodeError details)) :=
  .inr ⟨_, rfl⟩

theorem not_decodesCleanly_valueError (message : String) :
    ¬DecodesCleanly (.error (.valueError message)) := by
  rintro (⟨cursor, same, -⟩ | ⟨other, same⟩)
  · cases same
  · cases same

theorem decodesCleanly_ok_iff (cursor : LooseCursor) :
    DecodesCleanly (.ok (some cursor)) ↔
      IsGenuine cursor.lastMessageId ∧ IsGenuine cursor.nextOffsetId := by
  simp [DecodesCleanly]

/-- A value that is taken for an id gives one, and a `bool` no genuine one. -/
theorem coerceOptionalInt_of_isRead {value : Json.Value (List Char)}
    (isRead : (idReading tables value).IsRead) (field : String) :
    ∃ id, coerceOptionalInt tables value field = .ok id ∧
      (IsGenuine id ↔ idReading tables value ≠ .boolean) := by
  have read := coerceOptionalInt_reading tables value field
  rcases isRead with genuine | boolean
  · rw [genuine] at read ⊢
    obtain ⟨id, read, isGenuine⟩ := read
    exact ⟨id, read, iff_of_true isGenuine (by decide)⟩
  · rw [boolean] at read ⊢
    obtain ⟨id, read, notGenuine⟩ := read
    exact ⟨id, read, iff_of_false notGenuine (by decide)⟩

/-- A value that is not taken for an id ends the decoding, cleanly unless it is
digits that `int` refuses. -/
theorem coerceOptionalInt_of_not_isRead {value : Json.Value (List Char)}
    (notRead : ¬(idReading tables value).IsRead) (field : String)
    (next : Option CursorId → Except PyError (Option LooseCursor)) :
    DecodesCleanly (coerceOptionalInt tables value field >>= next) ↔
      idReading tables value ≠ .refusedDigits := by
  have read := coerceOptionalInt_reading tables value field
  cases reading : idReading tables value with
  | genuine => exact absurd (.inl reading) notRead
  | boolean => exact absurd (.inr reading) notRead
  | refusedDigits =>
      rw [reading] at read
      obtain ⟨message, read⟩ := read
      rw [read]
      exact iff_of_false (not_decodesCleanly_valueError message)
        (fun different => different rfl)
  | invalid =>
      rw [reading] at read
      obtain ⟨details, read⟩ := read
      rw [read]
      exact iff_of_true (decodesCleanly_error details) (by decide)

/-- How the members of a document are decoded. -/
theorem fields_decodeCleanly_iff
    (lastMessageId nextOffsetId lastPolledAt : Json.Value (List Char)) :
    DecodesCleanly (do
        let lastMessageId ←
          coerceOptionalInt tables lastMessageId "last_message_id"
        let nextOffsetId ←
          coerceOptionalInt tables nextOffsetId "next_offset_id"
        let lastPolledAt ← coerceCursorDatetime lastPolledAt "last_polled_at"
        return some ⟨lastMessageId, nextOffsetId, lastPolledAt⟩) ↔
      CleanFields tables lastMessageId nextOffsetId lastPolledAt := by
  have read_ne : ∀ {reading : IdReading}, reading.IsRead →
      reading ≠ .refusedDigits := by
    rintro reading (rfl | rfl) <;> decide
  unfold CleanFields
  by_cases lastIsRead : (idReading tables lastMessageId).IsRead
  · obtain ⟨last, lastRead, lastGenuine⟩ :=
      coerceOptionalInt_of_isRead tables lastIsRead "last_message_id"
    have lastClean := read_ne lastIsRead
    rw [lastRead]
    by_cases nextIsRead : (idReading tables nextOffsetId).IsRead
    · obtain ⟨next, nextRead, nextGenuine⟩ :=
        coerceOptionalInt_of_isRead tables nextIsRead "next_offset_id"
      have nextClean := read_ne nextIsRead
      rw [nextRead]
      rcases coerceCursorDatetime_cases lastPolledAt "last_polled_at" with
        ⟨isTime, parsed, timeRead⟩ | ⟨noTime, details, failed⟩
      · rw [timeRead]
        refine (decodesCleanly_ok_iff _).trans ?_
        simp only [lastGenuine, nextGenuine, lastIsRead, nextIsRead, isTime,
          lastClean, nextClean, ne_eq, not_false_eq_true, true_and,
          forall_const]
      · rw [failed]
        exact iff_of_true (decodesCleanly_error details)
          ⟨lastClean, fun _ => nextClean,
            fun _ _ isTime => absurd isTime noTime⟩
    · refine (coerceOptionalInt_of_not_isRead tables nextIsRead
        "next_offset_id" _).trans ?_
      simp only [lastIsRead, nextIsRead, lastClean, ne_eq, not_false_eq_true,
        true_and, forall_const, false_implies, and_true]
  · refine (coerceOptionalInt_of_not_isRead tables lastIsRead
      "last_message_id" _).trans ?_
    simp only [lastIsRead, false_implies, and_true]

/-- What a document is to the decoder: malformed or no object with all three
members, or one whose members are handled cleanly. -/
def CleanDocument (recursionLimit : Nat) (text : String) : Prop :=
  ∀ members lastMessageId nextOffsetId lastPolledAt,
    (jsonDecoder raiseInvalidJsonConstant recursionLimit).loads text.toList =
      .ok (.object members) →
    Json.member? members "last_message_id" = some lastMessageId →
    Json.member? members "next_offset_id" = some nextOffsetId →
    Json.member? members "last_polled_at" = some lastPolledAt →
    CleanFields tables lastMessageId nextOffsetId lastPolledAt

theorem requiredField_missing {members : List (Json.Text ×
      Json.Value (List Char))} {field : String}
    (missing : Json.member? members field = none)
    (next : Json.Value (List Char) → Except PyError (Option LooseCursor)) :
    DecodesCleanly (requiredField members field >>= next) := by
  rw [requiredField, missing]
  exact decodesCleanly_error _

theorem requiredField_present {members : List (Json.Text ×
      Json.Value (List Char))} {field : String}
    {value : Json.Value (List Char)}
    (present : Json.member? members field = some value)
    (next : Json.Value (List Char) → Except PyError (Option LooseCursor)) :
    (requiredField members field >>= next) = next value := by
  rw [requiredField, present]
  rfl

/-- An object is decoded cleanly when a member is missing, or when the members
are handled cleanly. -/
theorem members_decodeCleanly_iff
    (members : List (Json.Text × Json.Value (List Char))) :
    DecodesCleanly (do
        let lastMessageId ← requiredField members "last_message_id"
        let nextOffsetId ← requiredField members "next_offset_id"
        let lastPolledAt ← requiredField members "last_polled_at"
        let lastMessageId ←
          coerceOptionalInt tables lastMessageId "last_message_id"
        let nextOffsetId ←
          coerceOptionalInt tables nextOffsetId "next_offset_id"
        let lastPolledAt ← coerceCursorDatetime lastPolledAt "last_polled_at"
        return some ⟨lastMessageId, nextOffsetId, lastPolledAt⟩) ↔
      ∀ lastMessageId nextOffsetId lastPolledAt,
        Json.member? members "last_message_id" = some lastMessageId →
        Json.member? members "next_offset_id" = some nextOffsetId →
        Json.member? members "last_polled_at" = some lastPolledAt →
        CleanFields tables lastMessageId nextOffsetId lastPolledAt := by
  cases lastFound : Json.member? members "last_message_id" with
  | none =>
      apply iff_of_true (requiredField_missing lastFound _)
      intro last next polled absent
      cases absent
  | some last =>
      rw [requiredField_present lastFound]
      cases nextFound : Json.member? members "next_offset_id" with
      | none =>
          apply iff_of_true (requiredField_missing nextFound _)
          intro last next polled _ absent
          cases absent
      | some next =>
          rw [requiredField_present nextFound]
          cases timeFound : Json.member? members "last_polled_at" with
          | none =>
              apply iff_of_true (requiredField_missing timeFound _)
              intro last next polled _ _ absent
              cases absent
          | some polled =>
              rw [requiredField_present timeFound,
                fields_decodeCleanly_iff tables last next polled]
              simp only [Option.some.injEq]
              constructor
              · rintro clean _ _ _ rfl rfl rfl
                exact clean
              · intro clean
                exact clean last next polled rfl rfl rfl

/-- A document that is no object is turned away by the decoder's own
exception. -/
theorem decodesCleanly_of_noObject {recursionLimit : Nat} {text : String}
    (moderate : ∀ container,
      (jsonDecoder raiseInvalidJsonConstant recursionLimit).loads text.toList ≠
        .error (.tooDeep container))
    (noObject : ∀ members,
      (jsonDecoder raiseInvalidJsonConstant recursionLimit).loads text.toList ≠
        .ok (.object members)) :
    DecodesCleanly
      (decodeCursorJson tables describe recursionLimit (.text text)) := by
  have constants : ∀ name error,
      raiseInvalidJsonConstant name = .error error →
        ∃ message, error = .valueError message := by
    intro name error raised
    obtain rfl := Except.error.inj raised
    exact ⟨_, rfl⟩
  rw [decodeCursorJson]
  cases loaded : (jsonDecoder raiseInvalidJsonConstant recursionLimit).loads
      text.toList with
  | error failure =>
      cases failure with
      | malformed => exact decodesCleanly_error _
      | tooDeep container => exact absurd loaded (moderate container)
      | raised error =>
          obtain ⟨message, rfl⟩ := json_raised constants loaded
          exact decodesCleanly_error _
  | ok value =>
      cases value with
      | object members => exact absurd loaded (noObject members)
      | null => exact decodesCleanly_error _
      | bool truth => exact decodesCleanly_error _
      | int number => exact decodesCleanly_error _
      | float numeral => exact decodesCleanly_error _
      | str decoded => exact decodesCleanly_error _
      | list items => exact decodesCleanly_error _

/-- For a text that does not nest too deep, the decoder gives a cursor with
genuine ids or its own exception just when the members of the document are
handled cleanly. -/
theorem decode_cursor_json_clean_iff {recursionLimit : Nat} {text : String}
    (moderate : ∀ container,
      (jsonDecoder raiseInvalidJsonConstant recursionLimit).loads text.toList ≠
        .error (.tooDeep container)) :
    DecodesCleanly
        (decodeCursorJson tables describe recursionLimit (.text text)) ↔
      CleanDocument tables recursionLimit text := by
  by_cases isObject : ∃ members,
      (jsonDecoder raiseInvalidJsonConstant recursionLimit).loads text.toList =
        .ok (.object members)
  · obtain ⟨members, loaded⟩ := isObject
    unfold CleanDocument
    rw [decodeCursorJson, loaded]
    apply (members_decodeCleanly_iff tables members).trans
    constructor
    · intro clean other last next polled same
      obtain rfl := Json.Value.object.inj (Except.ok.inj same)
      exact clean last next polled
    · intro clean last next polled
      exact clean members last next polled rfl
  · apply iff_of_true
    · apply decodesCleanly_of_noObject tables describe moderate
      intro members loaded
      exact isObject ⟨members, loaded⟩
    · intro members _ _ _ loaded
      exact absurd ⟨members, loaded⟩ isObject

/-- A document without members is turned away cleanly. -/
theorem empty_cursor_decodes_cleanly :
    DecodesCleanly (decodeCursorJson superscriptNumerals (fun _ => "") 1000
      (.text "{}")) := by
  have loaded : (jsonDecoder raiseInvalidJsonConstant 1000).loads
      "{}".toList = .ok (.object []) := rfl
  rw [decode_cursor_json_clean_iff superscriptNumerals (fun _ => "") (by
    intro container
    rw [loaded]
    intro same
    cases same)]
  intro members last next polled same lastFound
  rw [loaded] at same
  obtain rfl := Json.Value.object.inj (Except.ok.inj same)
  cases lastFound

/-- A cursor whose id is `true`. -/
def boolCursorText : String :=
  "\x7b\"last_message_id\":true,\"next_offset_id\":null," ++
    "\"last_polled_at\":\"2024-01-01T00:00:00Z\"\x7d"

/-- A cursor whose id is a text with a superscript two. -/
def superscriptCursorText : String :=
  "\x7b\"last_message_id\":\"²\",\"next_offset_id\":null," ++
    "\"last_polled_at\":\"2024-01-01T00:00:00Z\"\x7d"

/-- The first cursor comes back with `true` for an id, the second one raises
another exception. -/
theorem lenient_ids_break_decoding :
    ¬DecodesCleanly (decodeCursorJson superscriptNumerals (fun _ => "") 1000
        (.text boolCursorText)) ∧
      ¬DecodesCleanly (decodeCursorJson superscriptNumerals (fun _ => "") 1000
        (.text superscriptCursorText)) := by
  have boolRead : decodeCursorJson superscriptNumerals (fun _ => "") 1000
      (.text boolCursorText) = .ok (some ⟨some (.bool true), none,
        ⟨⟨63839664000000000, by decide⟩, some .utc⟩⟩) := by
    decide +kernel
  have superscriptRead : decodeCursorJson superscriptNumerals (fun _ => "") 1000
      (.text superscriptCursorText) = .error (.valueError
        "invalid literal for int() with base 10: '²'") := by
    decide +kernel
  constructor
  · rw [boolRead, decodesCleanly_ok_iff]
    rintro ⟨genuine, -⟩
    obtain ⟨value, same⟩ := genuine _ rfl
    cases same
  · rw [superscriptRead]
    exact not_decodesCleanly_valueError _

end Failures

end CursorJson

end Tca
