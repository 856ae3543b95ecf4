import Tca.EncodedTables
import Tca.GuardedRuns
import Tca.PythonJson
import Tca.SettingsTable

/-!
# The texts of the settings

Settings are stored as JSON texts.  The repository prints a value before it
writes it and parses every row that it returns.  The file embeds both and shows
that the table of texts is the dictionary of the values: whatever is stored
comes back, and a conditional deletion that compares texts compares values.
-/

namespace Tca

open EncodedTables

/-- How Python prints a double and reads a numeral. -/
structure FloatLibrary where
  repr (value : PyFloat) : List Char
  float (numeral : List Char) : PyFloat
  IsDouble : PyFloat → Prop

/-- The text of a finite double is the numeral of a float and denotes it. -/
def FloatLibrary.Lawful (floats : FloatLibrary) : Prop :=
  ∀ value, floats.IsDouble value → value.isFinite = true →
    Json.FloatNumeral (floats.repr value) ∧
      floats.float (floats.repr value) = value

/-- What the repository of the settings raises. -/
inductive SettingsError where
  | raised (error : PyError)
  | settingValueEncodeError (message : String)
  deriving DecidableEq

abbrev JsonValue : Type :=
  Json.Value PyFloat

/-- The containers of a value nest no deeper than this. -/
def nestsWithin : Nat → JsonValue → Bool
  | 0, .list _ => false
  | 0, .object _ => false
  | depth + 1, .list items => items.all (nestsWithin depth)
  | depth + 1, .object members =>
      members.all fun member => nestsWithin depth member.2
  | _, .null => true
  | _, .bool _ => true
  | _, .int _ => true
  | _, .float _ => true
  | _, .str _ => true

mutual

/-- `_is_json_value` of a decoded document. -/
def isJsonDocument : JsonValue → Bool
  | .null => true
  | .bool _ => true
  | .int _ => true
  | .str _ => true
  | .float value => value.isFinite
  | .list items => areJsonDocuments items
  | .object members => areJsonMembers members

def areJsonDocuments : List JsonValue → Bool
  | [] => true
  | item :: items => isJsonDocument item && areJsonDocuments items

def areJsonMembers : List (Json.Text × JsonValue) → Bool
  | [] => true
  | (_, value) :: members => isJsonDocument value && areJsonMembers members

end

section Codec

variable (floats : FloatLibrary) (recursionLimit : Nat)
  (describe : List Char → String)

/-- `SettingValueEncodeError.for_key`. -/
def settingEncodeError (key details : String) : SettingsError :=
  .settingValueEncodeError
    s!"Setting value for key '{key}' is not JSON-serializable: {details}"

abbrev SettingTextTable : Type :=
  Table String (List Char)

/-- The floats that are printed. -/
def FloatLibrary.Prints (floats : FloatLibrary) (value : PyFloat) : Prop :=
  floats.IsDouble value ∧ value.isFinite = true

end Codec

section RoundTrip

variable {floats : FloatLibrary} {recursionLimit : Nat}
  {describe : List Char → String}

end RoundTrip

section Rows

mutual

/-- A document as the models of the callers have it, if its texts have no
surrogates. -/
def pyValue? : JsonValue → Option PyValue
  | .null => some .none
  | .bool value => some (.bool value)
  | .int value => some (.int value)
  | .float value => some (.float value)
  | .str text => text.chars?.map fun chars => .str (String.ofList chars)
  | .list items => (pyValues? items).map .list
  | .object members => (pyEntries? members).map .dict

def pyValues? : List JsonValue → Option (List PyValue)
  | [] => some []
  | item :: items => do return (← pyValue? item) :: (← pyValues? items)

def pyEntries? : List (Json.Text × JsonValue) → Option (List (String × PyValue))
  | [] => some []
  | (key, value) :: members => do
      return (String.ofList (← key.chars?), ← pyValue? value) ::
        (← pyEntries? members)

end

/-- What the other models of the settings make of an operation. -/
def settingStep : Operation String JsonValue → List SettingRow →
    List SettingRow
  | .create key value, settings =>
      match pyValue? value with
      | some value =>
          match createSetting settings key value with
          | .ok later => later
          | .error _ => settings
      | none => settings
  | .upsert key value, settings =>
      match pyValue? value with
      | some value => upsertSetting settings key value
      | none => settings
  | .deleteIfValueMatches key (.str text), settings =>
      match text.chars? with
      | some chars =>
          (deleteIfValueMatches settings key (String.ofList chars)).2
      | none => settings
  | _, settings => settings

variable (codec : Codec String JsonValue (List Char) SettingsError)
  (Valid : JsonValue → Prop)

/-- The operation is one that the other models have: its value can be encoded
and has no surrogates. -/
def Modelled : Operation String JsonValue → Prop
  | .create key value | .upsert key value =>
      Valid value ∧ (∃ text, codec.encode key value = .ok text) ∧
        ∃ modelled, pyValue? value = some modelled
  | .deleteIfValueMatches key (.str text) =>
      Valid (.str text) ∧ (∃ stored, codec.encode key (.str text) = .ok stored) ∧
        ∃ chars, text.chars? = some chars
  | .getByKey _ => True
  | _ => False

/-- The row of texts stores what the row of the other models has. -/
inductive ReadsAs : String × List Char → SettingRow → Prop
  | stored {row : String × List Char} {value : JsonValue} {modelled : PyValue}
      (encodes : Encodes codec Valid row value)
      (isValue : pyValue? value = some modelled) :
      ReadsAs row ⟨row.1, .ok modelled⟩

/-- The tables store the same settings in the same order. -/
def SameSettings (table : SettingTextTable) (settings : List SettingRow) :
    Prop :=
  List.Forall₂ (ReadsAs codec Valid) table.rows settings

variable {codec Valid} {table : SettingTextTable} {settings : List SettingRow}

theorem ReadsAs.key {row : String × List Char} {setting : SettingRow}
    (reads : ReadsAs codec Valid row setting) : setting.key = row.1 := by
  cases reads
  rfl

theorem any_of_forall₂ {Row Other : Type} {related : Row → Other → Prop}
    {rows : List Row} {others : List Other} {first : Row → Bool}
    {second : Other → Bool} (same : List.Forall₂ related rows others)
    (agree : ∀ row other, related row other → second other = first row) :
    others.any second = rows.any first := by
  induction same with
  | nil => rfl
  | cons head _ ih => rw [List.any_cons, List.any_cons, agree _ _ head, ih]

theorem find?_of_forall₂ {Row Other : Type} {related : Row → Other → Prop}
    {rows : List Row} {others : List Other} {first : Row → Bool}
    {second : Other → Bool} (same : List.Forall₂ related rows others)
    (agree : ∀ row other, related row other → second other = first row) :
    Option.Rel related (rows.find? first) (others.find? second) := by
  induction same with
  | nil => exact .none
  | cons head _ ih =>
      rw [List.find?_cons, List.find?_cons, agree _ _ head]
      split
      · exact .some head
      · exact ih

theorem SameSettings.any_key (same : SameSettings codec Valid table settings)
    (key : String) :
    settings.any (fun setting => setting.key = key) =
      decide (key ∈ table.keys) := by
  have sameKeys : settings.any (fun setting => setting.key = key) =
      table.rows.any (fun row => row.1 = key) := by
    apply any_of_forall₂ same
    intro row setting reads
    rw [reads.key]
  rw [sameKeys, Bool.eq_iff_iff, List.any_eq_true, decide_eq_true_eq,
    KeyedTable.mem_keys]
  simp

/-- A text without surrogates is the text of its characters. -/
theorem eq_ofChars_of_chars? {text : Json.Text} {chars : List Char}
    (isText : text.chars? = some chars) : text = .ofChars chars := by
  induction text generalizing chars with
  | nil =>
      obtain rfl := Option.some.inj isText
      rfl
  | cons point text ih =>
      cases point with
      | surrogate unit inRange => cases isText
      | scalar char =>
          rw [Json.Text.chars?, List.mapM_cons] at isText
          obtain ⟨first, isFirst, isText⟩ := Option.bind_eq_some_iff.mp isText
          obtain ⟨others, isOthers, isText⟩ := Option.bind_eq_some_iff.mp isText
          obtain rfl := Option.some.inj isFirst
          obtain rfl := Option.some.inj isText
          rw [ih isOthers]
          rfl

theorem eq_str_of_pyValue? {value : JsonValue} {text : String}
    (isText : pyValue? value = some (.str text)) :
    value = .str (.ofChars text.toList) := by
  cases value with
  | str points =>
      rw [pyValue?, Option.map_eq_some_iff] at isText
      obtain ⟨chars, isChars, same⟩ := isText
      obtain rfl := PyValue.str.inj same
      rw [eq_ofChars_of_chars? isChars, String.toList_ofList]
  | null => cases isText
  | bool value => cases isText
  | int value => cases isText
  | float value => cases isText
  | list items =>
      rw [pyValue?, Option.map_eq_some_iff] at isText
      obtain ⟨_, -, same⟩ := isText
      cases same
  | object members =>
      rw [pyValue?, Option.map_eq_some_iff] at isText
      obtain ⟨_, -, same⟩ := isText
      cases same

/-- The conditional deletion selects the same rows. -/
theorem ReadsAs.holdsText (recovers : codec.Recovers Valid) {key : String}
    {chars stored : List Char} {row : String × List Char}
    {setting : SettingRow} (reads : ReadsAs codec Valid row setting)
    (valid : Valid (.str (.ofChars chars)))
    (encoded : codec.encode key (.str (.ofChars chars)) = .ok stored) :
    setting.holdsText key (String.ofList chars) =
      decide (row.1 = key ∧ row.2 = stored) := by
  obtain ⟨encodes, isValue⟩ := reads
  rename_i value modelled
  obtain ⟨rowKey, rowText⟩ := row
  by_cases isKey : rowKey = key
  · subst isKey
    have encodesText : Encodes codec Valid (rowKey, stored)
        (.str (.ofChars chars)) := ⟨valid, encoded⟩
    by_cases sameText : rowText = stored
    · subst sameText
      have sameValue := encodes.unique recovers encodesText
      rw [sameValue, pyValue?, Json.Text.chars?_ofChars] at isValue
      obtain rfl := Option.some.inj isValue
      simp [SettingRow.holdsText]
    · have different : modelled ≠ .str (String.ofList chars) := by
        rintro rfl
        have isText := eq_str_of_pyValue? isValue
        rw [String.toList_ofList] at isText
        rw [isText] at encodes
        exact sameText (Except.ok.inj (encodes.encoded.symm.trans encoded))
      simp only [SettingRow.holdsText, sameText, and_false, decide_false]
      cases modelled with
      | str text =>
          have textDiffers : text ≠ String.ofList chars := fun same =>
            different (congrArg PyValue.str same)
          simp [textDiffers]
      | none => simp
      | bool value => simp
      | int value => simp
      | float value => simp
      | list values => simp
      | dict entries => simp
  · simp [SettingRow.holdsText, isKey]

theorem SameSettings.create (same : SameSettings codec Valid table settings)
    {key : String} {value : JsonValue} {text : List Char} {modelled : PyValue}
    (encodes : Encodes codec Valid (key, text) value)
    (isValue : pyValue? value = some modelled) :
    SameSettings codec Valid (perform codec (.create key value) table).2
      (settingStep (.create key value) settings) := by
  have present := same.any_key key
  have encoded : codec.encode key value = .ok text := encodes.encoded
  unfold settingStep perform
  dsimp only
  rw [encoded, isValue]
  dsimp only
  rw [createSetting, present]
  by_cases used : key ∈ table.keys
  · rw [dif_neg (not_not.mpr used), if_pos (decide_eq_true used)]
    exact same
  · rw [dif_pos used, if_neg (by simpa using used)]
    exact List.rel_append same
      (.cons (.stored encodes isValue) .nil)

theorem SameSettings.upsert (same : SameSettings codec Valid table settings)
    {key : String} {value : JsonValue} {text : List Char} {modelled : PyValue}
    (encodes : Encodes codec Valid (key, text) value)
    (isValue : pyValue? value = some modelled) :
    SameSettings codec Valid (perform codec (.upsert key value) table).2
      (settingStep (.upsert key value) settings) := by
  have present := same.any_key key
  have encoded : codec.encode key value = .ok text := encodes.encoded
  unfold settingStep perform
  dsimp only
  rw [encoded, isValue]
  dsimp only
  rw [upsertSetting, present, KeyedTable.upsert]
  by_cases used : key ∈ table.keys
  · rw [dif_neg (not_not.mpr used), if_pos (decide_eq_true used)]
    refine List.rel_map ?_ same
    intro row setting reads
    have sameKey := reads.key
    dsimp only
    by_cases isKey : row.1 = key
    · obtain ⟨rowKey, rowText⟩ := row
      subst isKey
      obtain ⟨-, -⟩ := reads
      simp only [decide_true, if_true]
      exact .stored encodes isValue
    · rw [if_neg (by simpa using isKey), if_neg (by rwa [sameKey])]
      exact reads
  · rw [dif_pos used, if_neg (by simpa using used)]
    exact List.rel_append same
      (.cons (.stored encodes isValue) .nil)

theorem SameSettings.deleteIfValueMatches (recovers : codec.Recovers Valid)
    (same : SameSettings codec Valid table settings) {key : String}
    {chars stored : List Char}
    (encodes : Encodes codec Valid (key, stored) (.str (.ofChars chars))) :
    SameSettings codec Valid
      (perform codec (.deleteIfValueMatches key (.str (.ofChars chars)))
        table).2
      (settingStep (.deleteIfValueMatches key (.str (.ofChars chars)))
        settings) := by
  have encoded : codec.encode key (.str (.ofChars chars)) = .ok stored :=
    encodes.encoded
  unfold settingStep perform
  dsimp only
  rw [encoded, Json.Text.chars?_ofChars]
  refine List.rel_filter ?_ same
  intro row setting reads
  dsimp only
  rw [reads.holdsText recovers encodes.valid encoded]

theorem SameSettings.step (recovers : codec.Recovers Valid)
    (same : SameSettings codec Valid table settings)
    {operation : Operation String JsonValue}
    (modelled : Modelled codec Valid operation) :
    SameSettings codec Valid (perform codec operation table).2
      (settingStep operation settings) := by
  cases operation with
  | create key value =>
      obtain ⟨valid, ⟨text, encoded⟩, value, isValue⟩ := modelled
      exact same.create ⟨valid, encoded⟩ isValue
  | upsert key value =>
      obtain ⟨valid, ⟨text, encoded⟩, value, isValue⟩ := modelled
      exact same.upsert ⟨valid, encoded⟩ isValue
  | deleteIfValueMatches key value =>
      cases value with
      | str text =>
          obtain ⟨valid, ⟨stored, encoded⟩, chars, isText⟩ := modelled
          obtain rfl := eq_ofChars_of_chars? isText
          exact same.deleteIfValueMatches recovers ⟨valid, encoded⟩
      | null => cases modelled
      | bool value => cases modelled
      | int value => cases modelled
      | float value => cases modelled
      | list items => cases modelled
      | object members => cases modelled
  | getByKey key => exact same
  | update key value => cases modelled
  | delete key => cases modelled

mutual

theorem isJsonValue_of_pyValue? {value : JsonValue} {modelled : PyValue}
    (isValue : pyValue? value = some modelled) :
    isJsonValue modelled = isJsonDocument value := by
  cases value with
  | null =>
      obtain rfl := Option.some.inj isValue
      rfl
  | bool value =>
      obtain rfl := Option.some.inj isValue
      rfl
  | int value =>
      obtain rfl := Option.some.inj isValue
      rfl
  | float value =>
      obtain rfl := Option.some.inj isValue
      rfl
  | str text =>
      rw [pyValue?, Option.map_eq_some_iff] at isValue
      obtain ⟨chars, -, rfl⟩ := isValue
      rfl
  | list items =>
      rw [pyValue?, Option.map_eq_some_iff] at isValue
      obtain ⟨values, areValues, rfl⟩ := isValue
      exact areJsonValues_of_pyValues? areValues
  | object members =>
      rw [pyValue?, Option.map_eq_some_iff] at isValue
      obtain ⟨entries, areEntries, rfl⟩ := isValue
      exact areJsonEntries_of_pyEntries? areEntries

theorem areJsonValues_of_pyValues? {items : List JsonValue}
    {values : List PyValue} (areValues : pyValues? items = some values) :
    areJsonValues values = areJsonDocuments items := by
  cases items with
  | nil =>
      obtain rfl := Option.some.inj areValues
      rfl
  | cons item items =>
      obtain ⟨value, isValue, areValues⟩ :=
        Option.bind_eq_some_iff.mp areValues
      obtain ⟨others, areOthers, areValues⟩ :=
        Option.bind_eq_some_iff.mp areValues
      obtain rfl := Option.some.inj areValues
      rw [areJsonValues, areJsonDocuments, isJsonValue_of_pyValue? isValue,
        areJsonValues_of_pyValues? areOthers]

theorem areJsonEntries_of_pyEntries? {members : List (Json.Text × JsonValue)}
    {entries : List (String × PyValue)}
    (areEntries : pyEntries? members = some entries) :
    areJsonEntries entries = areJsonMembers members := by
  cases members with
  | nil =>
      obtain rfl := Option.some.inj areEntries
      rfl
  | cons member members =>
      obtain ⟨key, value⟩ := member
      obtain ⟨chars, -, areEntries⟩ := Option.bind_eq_some_iff.mp areEntries
      obtain ⟨modelled, isValue, areEntries⟩ :=
        Option.bind_eq_some_iff.mp areEntries
      obtain ⟨others, areOthers, areEntries⟩ :=
        Option.bind_eq_some_iff.mp areEntries
      obtain rfl := Option.some.inj areEntries
      rw [areJsonEntries, areJsonMembers, isJsonValue_of_pyValue? isValue,
        areJsonEntries_of_pyEntries? areOthers]

end

/-- What the repository returns for a key, as the other models read it. -/
inductive SameRecord : Outcome String JsonValue SettingsError →
    Except PyError (Option PyValue) → Prop
  | missing : SameRecord .missing (.ok none)
  | record {key : String} {value : JsonValue} {modelled : PyValue}
      (isValue : pyValue? value = some modelled) :
      SameRecord (.record key value) (.ok (some modelled))

theorem SameSettings.getByKey (recovers : codec.Recovers Valid)
    (checked : ∀ key value text, Encodes codec Valid (key, text) value →
      isJsonDocument value = true)
    (same : SameSettings codec Valid table settings) (key : String) :
    SameRecord (perform codec (.getByKey key) table).1
      (getSetting settings key) := by
  have related : Option.Rel (ReadsAs codec Valid) (table.find? key)
      (settings.find? fun setting => setting.key = key) :=
    find?_of_forall₂ same fun row setting reads => by rw [reads.key]
  unfold perform getSetting
  dsimp only
  cases found : table.find? key with
  | none =>
      rw [found] at related
      cases foundSetting : settings.find? fun setting => setting.key = key with
      | none => exact .missing
      | some setting =>
          rw [foundSetting] at related
          cases related
  | some row =>
      rw [found] at related
      cases foundSetting : settings.find? fun setting => setting.key = key with
      | none =>
          rw [foundSetting] at related
          cases related
      | some setting =>
          rw [foundSetting] at related
          obtain ⟨encodes, isValue⟩ := related
          obtain ⟨rowKey, text⟩ := row
          have isJson := checked _ _ _ encodes
          rw [← isJsonValue_of_pyValue? isValue] at isJson
          rw [decodeOptional, decodeRow_of_encodes recovers encodes]
          simp only [decodeValueJson, isJson, if_true, Except.map]
          exact .record isValue

end Rows

/-- The double nearest to 0.92. -/
def sampleDouble : PyFloat :=
  .finite (8286623314361713 / 9007199254740992)

/-- Python's floats as far as they are whole and exact, and one more. -/
def sampleFloats : FloatLibrary where
  repr value :=
    if value = sampleDouble then "0.92".toList
    else intDigits value.toInt ++ ['.', '0']
  float numeral :=
    if numeral = "0.92".toList then sampleDouble
    else
      match jsonInt numeral.dropLast.dropLast with
      | .ok value => .finite value
      | .error _ => .notANumber
  IsDouble value :=
    value = sampleDouble ∨
      ∃ whole : Int, value = .finite whole ∧ whole.natAbs ≤ 9007199254740992

theorem sampleFloats_lawful : sampleFloats.Lawful := by
  have notWhole : ∀ whole : Int, PyFloat.finite whole ≠ sampleDouble := by
    intro whole same
    have isWhole : PyFloat.isInteger (.finite whole) = true := by
      simp [PyFloat.isInteger]
    rw [same] at isWhole
    revert isWhole
    decide +kernel
  rintro value (rfl | ⟨whole, rfl, exact⟩) -
  · have spelled : sampleFloats.repr sampleDouble = ['0', '.', '9', '2'] := by
      simp only [sampleFloats, if_true]
      rfl
    have parsed : sampleFloats.float "0.92".toList = sampleDouble := by
      simp only [sampleFloats, if_true]
    have letters : "0.92".toList = ['0', '.', '9', '2'] := rfl
    rw [letters] at parsed
    rw [spelled]
    refine ⟨⟨[], ['0'], ['.', '9', '2'], [], rfl, .inl rfl, .inl rfl,
      .inr ⟨'9', ['2'], rfl, List.all_eq_true.mp rfl⟩, .inl rfl, by decide⟩, parsed⟩
  · have spelled : sampleFloats.repr (.finite whole) =
        intDigits whole ++ ['.', '0'] := by
      simp only [sampleFloats, if_neg (notWhole whole)]
      rfl
    have parsed : jsonInt (intDigits whole) = .ok whole := by
      have printable : Printable whole :=
        printable_of_small (Nat.lt_of_le_of_lt exact (by decide))
      have printed : jsonEncoder.intText whole = .ok (intDigits whole) := by
        simp only [jsonEncoder, pythonStr, if_pos printable, Except.map,
          String.toList_ofList]
      exact (@jsonEncoder_readBy (fun name => .ok name) 0 whole _ printed).2
    have different : intDigits whole ++ ['.', '0'] ≠ "0.92".toList := by
      intro same
      have last := congrArg List.getLast? same
      rw [List.getLast?_append] at last
      cases last
    rw [spelled]
    constructor
    · constructor
      have isNumeral := numeral_intDigits whole
      generalize intDigits whole = digits at isNumeral
      cases isNumeral with
      | positive isWhole =>
          exact ⟨[], _, ['.', '0'], [], by simp, .inl rfl, isWhole,
            .inr ⟨'0', [], rfl, List.all_eq_true.mp rfl⟩, .inl rfl, by decide⟩
      | negative isWhole =>
          exact ⟨['-'], _, ['.', '0'], [], by simp, .inr rfl, isWhole,
            .inr ⟨'0', [], rfl, List.all_eq_true.mp rfl⟩, .inl rfl, by decide⟩
    · have stripped : (intDigits whole ++ ['.', '0']).dropLast.dropLast =
          intDigits whole := by
        rw [show intDigits whole ++ ['.', '0'] =
          intDigits whole ++ ['.'] ++ ['0'] by simp, List.dropLast_concat,
          List.dropLast_concat]
      simp only [sampleFloats, if_neg different, stripped, parsed]

end Tca
