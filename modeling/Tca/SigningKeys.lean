import Tca.Base64
import Tca.EnvelopeEncryption
import Tca.InterleavedCalls
import Tca.SessionCookies
import Tca.SettingsTable

/-!
# The key that signs the session cookies

Every process resolves its signing key when it starts: from the environment,
from the settings table, or by drawing one and storing it.  The file follows
the startups of any number of processes on one table, step by step and in any
order, with failures of the database anywhere.  All processes that have
resolved their key through the table hold the key that is stored, so that a
session opened on one of them is accepted by the others.
-/

namespace Tca

open GuardedRuns InterleavedCalls

namespace Base64

/-- `binascii.a2b_base64` outside its strict mode, from a position in a group,
the bits left over and the padding seen.  Other characters are passed over. -/
def scanLenient : Nat → Nat → Nat → List Char → Option (List UInt8)
  | position, _, _, [] => if position = 0 then some [] else none
  | position, left, pads, char :: text =>
      if char = '=' then
        if position < 2 then scanLenient position left pads text
        else if 4 ≤ position + (pads + 1) then some []
        else scanLenient position left (pads + 1) text
      else
        match value? char with
        | none => scanLenient position left pads text
        | some value =>
            match position with
            | 0 => scanLenient 1 value 0 text
            | 1 =>
                (scanLenient 2 (value % 16) 0 text).map
                  (UInt8.ofNat (left * 4 + value / 16) :: ·)
            | 2 =>
                (scanLenient 3 (value % 4) 0 text).map
                  (UInt8.ofNat (left * 16 + value / 4) :: ·)
            | _ =>
                (scanLenient 0 0 0 text).map
                  (UInt8.ofNat (left * 64 + value) :: ·)

/-- `base64.b64decode` of a text. -/
def decodeLenient (text : List Char) : Option (List UInt8) :=
  if text.all (·.toNat < 128) then scanLenient 0 0 0 text else none

theorem scanLenient_digit {value : Nat} (inRange : value < 64)
    (position left pads : Nat) (text : List Char) :
    scanLenient position left pads (digit value :: text) =
      match position with
      | 0 => scanLenient 1 value 0 text
      | 1 =>
          (scanLenient 2 (value % 16) 0 text).map
            (UInt8.ofNat (left * 4 + value / 16) :: ·)
      | 2 =>
          (scanLenient 3 (value % 4) 0 text).map
            (UInt8.ofNat (left * 16 + value / 4) :: ·)
      | _ =>
          (scanLenient 0 0 0 text).map
            (UInt8.ofNat (left * 64 + value) :: ·) := by
  rw [scanLenient.eq_def]
  simp only [digit_ne_padding inRange, if_false, value?_digit inRange]

/-- The lenient decoder undoes encoding, too. -/
theorem scanLenient_encode (bytes : List UInt8) (left pads : Nat) :
    scanLenient 0 left pads (encode bytes) = some bytes := by
  induction bytes using encode.induct generalizing left pads with
  | case1 => rfl
  | case2 first =>
      have small := first.toNat_lt
      have one := first_of_digits first (show 0 < 16 by omega)
      rw [Nat.add_zero] at one
      rw [encode, scanLenient_digit (by omega)]
      simp only [scanLenient_digit (show first.toNat % 4 * 16 < 64 by omega),
        one]
      rfl
  | case3 first second =>
      have small := first.toNat_lt
      have smallSecond := second.toNat_lt
      have one := first_of_digits first (show second.toNat / 16 < 16 by omega)
      have two := second_of_digits (first.toNat % 4) second
        (show 0 < 4 by omega)
      rw [Nat.add_zero] at two
      rw [encode, scanLenient_digit (by omega)]
      simp only [scanLenient_digit
          (show first.toNat % 4 * 16 + second.toNat / 16 < 64 by omega),
        scanLenient_digit (show second.toNat % 16 * 4 < 64 by omega), one, two]
      rfl
  | case4 first second third rest ih =>
      have small := first.toNat_lt
      have smallSecond := second.toNat_lt
      have smallThird := third.toNat_lt
      have one := first_of_digits first (show second.toNat / 16 < 16 by omega)
      have two := second_of_digits (first.toNat % 4) second
        (show third.toNat / 64 < 4 by omega)
      have three := third_of_digits (second.toNat % 16) third
      rw [encode, scanLenient_digit (by omega)]
      simp only [scanLenient_digit
          (show first.toNat % 4 * 16 + second.toNat / 16 < 64 by omega),
        scanLenient_digit
          (show second.toNat % 16 * 4 + third.toNat / 64 < 64 by omega),
        scanLenient_digit (show third.toNat % 64 < 64 by omega), one, two,
        three, ih, Option.map_some]

theorem decodeLenient_encode (bytes : List UInt8) :
    decodeLenient (encode bytes) = some bytes := by
  rw [decodeLenient, if_pos, scanLenient_encode]
  rw [List.all_eq_true]
  intro char member
  exact decide_eq_true (encode_ascii bytes char member)

end Base64

/-- White space between the bytes of a hexadecimal text. -/
def isHexSpace (char : Char) : Bool :=
  char ∈ [' ', '\t', '\n', '\x0b', '\x0c', '\r']

/-- The bytes of a hexadecimal text, or the position at which it fails. -/
def scanHex : Nat → List Char → Except Nat (List UInt8)
  | _, [] => .ok []
  | position, first :: text =>
      if isHexSpace first then scanHex (position + 1) text
      else
        match Json.hexValue? first, text with
        | none, _ => .error position
        | some _, [] => .error (position + 1)
        | some high, second :: rest =>
            match Json.hexValue? second with
            | none => .error (position + 1)
            | some low =>
                (scanHex (position + 2) rest).map
                  (UInt8.ofNat (high * 16 + low) :: ·)

/-- `bytes.fromhex`. -/
def bytesFromHex (text : List Char) : Except PyError (List UInt8) :=
  let scanned : Except Nat (List UInt8) :=
    match text.findIdx? (128 ≤ ·.toNat) with
    | some position => .error position
    | none => scanHex 0 text
  scanned.mapError fun position =>
    .valueError ("non-hexadecimal number found in fromhex() arg at position " ++
      toString position)

def signingKeyBytes : Nat :=
  32

/-- What `secrets.token_bytes(SIGNING_KEY_BYTES)` draws. -/
structure SigningKey where
  bytes : List UInt8
  length_eq : bytes.length = signingKeyBytes
  deriving DecidableEq

def cookieSigningKeySetting : String :=
  "auth.cookie_signing_key"

/-- The key of `TCA_COOKIE_SIGNING_KEY`. -/
def environmentKey (envKey : String) : List UInt8 :=
  match Base64.decodeLenient envKey.toList with
  | some keyBytes =>
      if keyBytes.length < signingKeyBytes then encodeUtf8 envKey.toList
      else keyBytes
  | none => encodeUtf8 envKey.toList

/-- A key that is long enough is taken from its Base64. -/
theorem environmentKey_encode {bytes : List UInt8}
    (longEnough : signingKeyBytes ≤ bytes.length) :
    environmentKey (String.ofList (Base64.encode bytes)) = bytes := by
  rw [environmentKey, String.toList_ofList, Base64.decodeLenient_encode]
  exact if_neg (Nat.not_lt.mpr longEnough)

/-- A startup is given the variable of the environment, if it is set, and the
key that `app.state` has.  Other requests write other settings. -/
inductive KeyStartup where
  | resolve (envKey : Option String) (held : Option (List UInt8))
  | upsert (key : String) (other : key ≠ cookieSigningKeySetting)
      (value : PyValue)

/-- Where a call of `_resolve_persistent_cookie_signing_key` is suspended. -/
inductive KeyStartupPhase where
  | begin (envKey : Option String) (held : Option (List UInt8))
  | create (drawn : SigningKey) (held : Option (List UInt8))
  | reread (held : Option (List UInt8))
  | upsert (key : String) (other : key ≠ cookieSigningKeySetting)
      (value : PyValue)

inductive KeyOrigin where
  | environment (envKey : String)
  | database
  | memory
  deriving DecidableEq

/-- What a startup leaves in `app.state`, or what it raises. -/
inductive KeyStartupResult where
  | resolved (origin : KeyOrigin) (signingKey : Option (List UInt8))
  | written
  | raised (error : PyError)
  deriving DecidableEq

/-- What a step is given from outside: the key that a draw yields, and the error
with which the database refuses the step, if it does. -/
structure KeyStartupInput where
  drawn : SigningKey
  problem : Option PyError := none

abbrev KeyStartupProgress : Type :=
  Progress KeyStartupPhase KeyStartupResult

section Startup

-- `str` of a value that a setting has.
variable (str : PyValue → String)

/-- `bytes.fromhex(str(record.value))` of the stored record, if there is one. -/
def readSigningKey (input : KeyStartupInput) (settings : List SettingRow) :
    Except PyError (Option (List UInt8)) := do
  if let some problem := input.problem then throw problem
  match ← getSetting settings cookieSigningKeySetting with
  | none => return none
  | some value => return some (← bytesFromHex (str value).toList)

/-- The atomic steps of `_resolve_persistent_cookie_signing_key`, and the writes
to other settings.  Whatever goes wrong in the first reading, a key is drawn;
what goes wrong in the second one is raised. -/
def keyStartupAdvance (phase : KeyStartupPhase) (input : KeyStartupInput)
    (settings : List SettingRow) : KeyStartupProgress × List SettingRow :=
  match phase with
  | .begin envKey held =>
      match envKey.filter (· ≠ "") with
      | some envKey =>
          (.ended (.resolved (.environment envKey) (environmentKey envKey)),
            settings)
      | none =>
          match readSigningKey str input settings with
          | .ok (some signingKey) =>
              (.ended (.resolved .database signingKey), settings)
          | .ok none | .error _ =>
              (.suspended (.create input.drawn held), settings)
  | .create drawn held =>
      match input.problem with
      | some _ => (.ended (.resolved .memory held), settings)
      | none =>
          match createSetting settings cookieSigningKeySetting
              (.str (String.ofList (hexDigits drawn.bytes))) with
          | .ok later => (.ended (.resolved .database drawn.bytes), later)
          | .error (.settingAlreadyExistsError _) =>
              (.suspended (.reread held), settings)
          | .error _ => (.ended (.resolved .memory held), settings)
  | .reread held =>
      match readSigningKey str input settings with
      | .ok (some signingKey) =>
          (.ended (.resolved .database signingKey), settings)
      | .ok none => (.ended (.resolved .memory held), settings)
      | .error error => (.ended (.raised error), settings)
  | .upsert key _ value =>
      match input.problem with
      | some problem => (.ended (.raised problem), settings)
      | none => (.ended .written, upsertSetting settings key value)

/-- The startups of the processes that share a settings table. -/
def keyStartups : Protocol (List SettingRow) KeyStartup KeyStartupPhase
    KeyStartupInput KeyStartupResult where
  enter
    | .resolve envKey held => .begin envKey held
    | .upsert key other value => .upsert key other value
  advance := keyStartupAdvance str

end Startup

abbrev KeyStartupEvent : Type :=
  Event KeyStartup KeyStartupInput

abbrev KeyStartupSystem : Type :=
  System (List SettingRow) KeyStartupPhase KeyStartupResult

section Hexadecimal

theorem not_isHexSpace_digitChar {digit : Nat} (small : digit < 16) :
    isHexSpace digit.digitChar = false := by
  have allDigits : ∀ digit < 16, isHexSpace digit.digitChar = false := by
    decide
  exact allDigits digit small

theorem scanHex_hexDigits (bytes : List UInt8) (position : Nat) :
    scanHex position (hexDigits bytes) = .ok bytes := by
  induction bytes generalizing position with
  | nil => rfl
  | cons byte bytes ih =>
      have small := byte.toNat_lt
      have high : byte.toNat / 16 < 16 := by omega
      have low : byte.toNat % 16 < 16 := by omega
      have whole : byte.toNat / 16 * 16 + byte.toNat % 16 = byte.toNat := by
        omega
      have split : hexDigits (byte :: bytes) =
          Nat.digitChar (byte.toNat / 16) ::
            Nat.digitChar (byte.toNat % 16) :: hexDigits bytes := rfl
      rw [split]
      unfold scanHex
      simp only [not_isHexSpace_digitChar high,
        Json.hexValue?_digitChar high, Json.hexValue?_digitChar low,
        Bool.false_eq_true, if_false, ih, whole, UInt8.ofNat_toNat,
        Except.map]

/-- `bytes.fromhex` undoes `bytes.hex`. -/
theorem bytesFromHex_hexDigits (bytes : List UInt8) :
    bytesFromHex (hexDigits bytes) = .ok bytes := by
  have ascii : (hexDigits bytes).findIdx? (128 ≤ ·.toNat) = none := by
    rw [List.findIdx?_eq_none_iff]
    intro char member
    apply decide_eq_false
    have := hexDigits_ascii member
    omega
  rw [bytesFromHex, ascii]
  simp only [scanHex_hexDigits]
  rfl

end Hexadecimal

section Steps

/-- The row that stores a signing key. -/
def signingKeyRow (signingKey : SigningKey) : SettingRow :=
  ⟨cookieSigningKeySetting,
    .ok (.str (String.ofList (hexDigits signingKey.bytes)))⟩

theorem bytes_eq_of_signingKeyRow_eq {signingKey other : SigningKey}
    (same : signingKeyRow signingKey = signingKeyRow other) :
    signingKey.bytes = other.bytes := by
  have texts : String.ofList (hexDigits signingKey.bytes) =
      String.ofList (hexDigits other.bytes) := by
    simpa [signingKeyRow] using same
  have digits := congrArg String.toList texts
  rw [String.toList_ofList, String.toList_ofList] at digits
  have parsed := bytesFromHex_hexDigits signingKey.bytes
  rw [digits, bytesFromHex_hexDigits] at parsed
  exact (Except.ok.inj parsed).symm

/-- What is stored under the setting. -/
def storedRow (settings : List SettingRow) : Option SettingRow :=
  settings.find? (fun row => row.key = cookieSigningKeySetting)

/-- No key is stored, or one that was drawn. -/
def KeyStored (settings : List SettingRow) : Prop :=
  storedRow settings = none ∨
    ∃ signingKey, storedRow settings = some (signingKeyRow signingKey)

/-- What a startup can rely on: one that reads again, or that has its key from
the table, knows that a key is stored. -/
def KnowsKey : KeyStartupProgress → List SettingRow → Prop
  | .suspended (.reread _), settings =>
      ∃ stored, storedRow settings = some (signingKeyRow stored)
  | .ended (.resolved .database signingKey), settings =>
      ∃ stored, storedRow settings = some (signingKeyRow stored) ∧
        signingKey = some stored.bytes
  | .ended (.resolved (.environment envKey) signingKey), _ =>
      signingKey = some (environmentKey envKey)
  | _, _ => True

variable {str : PyValue → String} {settings : List SettingRow}
  {input : KeyStartupInput}

/-- Reading the stored key yields its bytes. -/
theorem readSigningKey_stored (strText : ∀ text, str (.str text) = text)
    (unrefused : input.problem = none) {stored : SigningKey}
    (isStored : storedRow settings = some (signingKeyRow stored)) :
    readSigningKey str input settings = .ok (some stored.bytes) := by
  have read : getSetting settings cookieSigningKeySetting =
      .ok (some (.str (String.ofList (hexDigits stored.bytes)))) := by
    rw [getSetting]
    rw [storedRow] at isStored
    rw [isStored]
    rfl
  have parsed : bytesFromHex
      (str (.str (String.ofList (hexDigits stored.bytes)))).toList =
        .ok stored.bytes := by
    rw [strText, String.toList_ofList, bytesFromHex_hexDigits]
  rw [readSigningKey, unrefused, read]
  show (bytesFromHex (str _).toList >>= fun bytes => .ok (some bytes)) = _
  rw [parsed]
  rfl

theorem readSigningKey_missing (unrefused : input.problem = none)
    (missing : storedRow settings = none) :
    readSigningKey str input settings = .ok none := by
  have read : getSetting settings cookieSigningKeySetting = .ok none := by
    rw [getSetting]
    rw [storedRow] at missing
    rw [missing]
  rw [readSigningKey, unrefused, read]
  rfl

theorem readSigningKey_refused {problem : PyError}
    (refused : input.problem = some problem) :
    readSigningKey str input settings = .error problem := by
  rw [readSigningKey, refused]
  rfl

theorem settingMissing_of_storedRow (missing : storedRow settings = none) :
    SettingMissing settings cookieSigningKeySetting := by
  intro row member isKey
  exact List.find?_eq_none.mp missing row member (decide_eq_true isKey)

/-- The creation stores the drawn key if no key is stored. -/
theorem createSetting_key (missing : storedRow settings = none)
    (drawn : SigningKey) :
    createSetting settings cookieSigningKeySetting
        (.str (String.ofList (hexDigits drawn.bytes))) =
      .ok (settings ++ [signingKeyRow drawn]) ∧
    storedRow (settings ++ [signingKeyRow drawn]) =
      some (signingKeyRow drawn) := by
  constructor
  · exact createSetting_of_missing (settingMissing_of_storedRow missing) _
  · rw [storedRow] at missing ⊢
    rw [List.find?_append, missing]
    rfl

theorem createSetting_taken {stored : SigningKey}
    (isStored : storedRow settings = some (signingKeyRow stored))
    (value : PyValue) :
    ∃ message, createSetting settings cookieSigningKeySetting value =
      .error (.settingAlreadyExistsError message) := by
  have member := List.mem_of_find?_eq_some isStored
  exact ⟨_, createSetting_of_present member value⟩

/-- A write to another setting leaves the key as it is. -/
theorem storedRow_upsertSetting {key : String}
    (other : key ≠ cookieSigningKeySetting) (value : PyValue) :
    storedRow (upsertSetting settings key value) = storedRow settings :=
  find?_upsertSetting_other settings value other.symm

/-- The startup reads the table for the first time. -/
theorem begin_cases (input : KeyStartupInput)
    (strText : ∀ text, str (.str text) = text)
    (holds : KeyStored settings) (envKey : Option String)
    (held : Option (List UInt8)) :
    (keyStartupAdvance str (.begin envKey held) input settings).2 = settings ∧
      KnowsKey (keyStartupAdvance str (.begin envKey held) input settings).1
        settings := by
  rw [keyStartupAdvance]
  split
  · exact ⟨rfl, rfl⟩
  · cases refused : input.problem with
    | some problem =>
        rw [readSigningKey_refused refused]
        exact ⟨rfl, trivial⟩
    | none =>
        rcases holds with missing | ⟨stored, isStored⟩
        · rw [readSigningKey_missing refused missing]
          exact ⟨rfl, trivial⟩
        · rw [readSigningKey_stored strText refused isStored]
          exact ⟨rfl, stored, isStored, rfl⟩

/-- A startup that has drawn a key tries to store it. -/
theorem create_cases (holds : KeyStored settings) (drawn : SigningKey)
    (held : Option (List UInt8)) :
    KeyStored (keyStartupAdvance str (.create drawn held) input settings).2 ∧
      KnowsKey (keyStartupAdvance str (.create drawn held) input settings).1
        (keyStartupAdvance str (.create drawn held) input settings).2 ∧
      ∀ row, storedRow settings = some row →
        storedRow (keyStartupAdvance str (.create drawn held) input
          settings).2 = some row := by
  rw [keyStartupAdvance]
  cases input.problem with
  | some problem => exact ⟨holds, trivial, fun _ => id⟩
  | none =>
      rcases holds with missing | ⟨stored, isStored⟩
      · obtain ⟨created, found⟩ := createSetting_key missing drawn
        simp only [created]
        refine ⟨.inr ⟨drawn, found⟩, ⟨drawn, found, rfl⟩, fun row isRow => ?_⟩
        rw [missing] at isRow
        cases isRow
      · obtain ⟨message, taken⟩ := createSetting_taken isStored
          (.str (String.ofList (hexDigits drawn.bytes)))
        simp only [taken]
        exact ⟨.inr ⟨stored, isStored⟩, ⟨stored, isStored⟩, fun _ => id⟩

/-- A startup that was late reads the key that is stored. -/
theorem reread_cases (input : KeyStartupInput)
    (strText : ∀ text, str (.str text) = text)
    {stored : SigningKey}
    (isStored : storedRow settings = some (signingKeyRow stored))
    (held : Option (List UInt8)) :
    (keyStartupAdvance str (.reread held) input settings).2 = settings ∧
      KnowsKey (keyStartupAdvance str (.reread held) input settings).1
        settings := by
  rw [keyStartupAdvance]
  cases refused : input.problem with
  | some problem =>
      rw [readSigningKey_refused refused]
      exact ⟨rfl, trivial⟩
  | none =>
      rw [readSigningKey_stored strText refused isStored]
      exact ⟨rfl, stored, isStored, rfl⟩

/-- What a step does: it keeps the table in order, the startup knows what it
should, and a stored key stays. -/
theorem keyStartupAdvance_own (strText : ∀ text, str (.str text) = text)
    (phase : KeyStartupPhase) (input : KeyStartupInput)
    (settings : List SettingRow) (holds : KeyStored settings)
    (known : KnowsKey (.suspended phase) settings) :
    KeyStored (keyStartupAdvance str phase input settings).2 ∧
      KnowsKey (keyStartupAdvance str phase input settings).1
        (keyStartupAdvance str phase input settings).2 ∧
      ∀ row, storedRow settings = some row →
        storedRow (keyStartupAdvance str phase input settings).2 =
          some row := by
  cases phase with
  | begin envKey held =>
      obtain ⟨unchanged, knows⟩ :=
        begin_cases input strText holds envKey held
      rw [unchanged]
      exact ⟨holds, knows, fun _ => id⟩
  | create drawn held => exact create_cases holds drawn held
  | reread held =>
      obtain ⟨stored, isStored⟩ := known
      obtain ⟨unchanged, knows⟩ :=
        reread_cases input strText isStored held
      rw [unchanged]
      exact ⟨holds, knows, fun _ => id⟩
  | upsert key other value =>
      rw [keyStartupAdvance]
      cases input.problem with
      | some problem => exact ⟨holds, trivial, fun _ => id⟩
      | none =>
          have same := @storedRow_upsertSetting settings key other value
          refine ⟨?_, trivial, fun row => ?_⟩
          · rw [KeyStored, same]
            exact holds
          · rw [same]
            exact id

theorem knowsKey_stable {progress : KeyStartupProgress}
    {later : List SettingRow}
    (keeps : ∀ row, storedRow settings = some row →
      storedRow later = some row)
    (known : KnowsKey progress settings) : KnowsKey progress later := by
  unfold KnowsKey at known ⊢
  split at known
  · obtain ⟨stored, isStored⟩ := known
    exact ⟨stored, keeps _ isStored⟩
  · obtain ⟨stored, isStored, same⟩ := known
    exact ⟨stored, keeps _ isStored, same⟩
  · exact known
  · trivial

end Steps

section Runs

variable {str : PyValue → String} {settings : List SettingRow}

/-- Every startup knows what it should, whatever the others do. -/
theorem always_knowsKey (strText : ∀ text, str (.str text) = text)
    (holds : KeyStored settings) (events : List KeyStartupEvent) :
    Always (keyStartups str).step (Protocol.Annotated KeyStored KnowsKey) events
      (System.idle settings) := by
  apply (keyStartups str).always_annotated
  · intro request current _
    cases request <;> trivial
  · exact fun _ => trivial
  · intro phase input current holds known
    obtain ⟨holdsAfter, knows, -⟩ :=
      keyStartupAdvance_own strText phase input current holds known
    exact ⟨holdsAfter, knows⟩
  · intro phase input current other holds known otherKnown
    obtain ⟨-, -, keeps⟩ :=
      keyStartupAdvance_own strText phase input current holds known
    exact knowsKey_stable keeps otherKnown
  · exact holds

/-- Neither an error nor a key that only this process has. -/
def SharesKey : KeyStartupProgress → Prop
  | .ended (.raised _) => False
  | .ended (.resolved .memory _) => False
  | _ => True

/-- A step that the database does not refuse comes to a shared key. -/
theorem keyStartupAdvance_shares (strText : ∀ text, str (.str text) = text)
    (phase : KeyStartupPhase) {input : KeyStartupInput}
    (unrefused : input.problem = none) (holds : KeyStored settings)
    (known : KnowsKey (.suspended phase) settings) :
    SharesKey (keyStartupAdvance str phase input settings).1 := by
  cases phase with
  | begin envKey held =>
      rw [keyStartupAdvance]
      split
      · trivial
      · rcases holds with missing | ⟨stored, isStored⟩
        · rw [readSigningKey_missing unrefused missing]
          trivial
        · rw [readSigningKey_stored strText unrefused isStored]
          trivial
  | create drawn held =>
      rw [keyStartupAdvance, unrefused]
      rcases holds with missing | ⟨stored, isStored⟩
      · obtain ⟨created, -⟩ := createSetting_key missing drawn
        simp only [created]
        trivial
      · obtain ⟨message, taken⟩ := createSetting_taken isStored
          (.str (String.ofList (hexDigits drawn.bytes)))
        simp only [taken]
        trivial
  | reread held =>
      obtain ⟨stored, isStored⟩ := known
      rw [keyStartupAdvance, readSigningKey_stored strText unrefused isStored]
      trivial
  | upsert key other value =>
      rw [keyStartupAdvance, unrefused]
      trivial

/-- The database refuses nothing. -/
def Answered : KeyStartupEvent → Prop
  | .resume _ input => input.problem = none
  | _ => True

theorem always_sharesKey (strText : ∀ text, str (.str text) = text)
    (holds : KeyStored settings) {events : List KeyStartupEvent}
    (answered : ∀ event ∈ events, Answered event) :
    Always (keyStartups str).step
      (Protocol.Annotated KeyStored fun progress current =>
        KnowsKey progress current ∧ SharesKey progress)
      events (System.idle settings) := by
  refine always_of_guarded (keyStartups str).step
    ((keyStartups str).annotated_step ?_ ?_ ?_ ?_) ⟨holds, ?_⟩
    (@guarded_of_forall_mem _ _ (keyStartups str).step
      (Protocol.Permits (fun _ => True) fun _ input _ => input.problem = none)
      events ?_ _)
  · intro request current _ _
    cases request <;> exact ⟨trivial, trivial⟩
  · exact fun _ => ⟨trivial, trivial⟩
  · intro phase input current holds known unrefused
    obtain ⟨holdsAfter, knows, -⟩ :=
      keyStartupAdvance_own strText phase input current holds known.1
    exact ⟨holdsAfter, knows,
      keyStartupAdvance_shares strText phase unrefused holds known.1⟩
  · intro phase input current other holds known _ otherKnown
    obtain ⟨-, -, keeps⟩ :=
      keyStartupAdvance_own strText phase input current holds known.1
    exact ⟨knowsKey_stable keeps otherKnown.1, otherKnown.2⟩
  · simp [System.idle]
  · intro event member system
    have allowed := answered event member
    cases event with
    | start request => trivial
    | resume call input => exact fun _ _ => allowed
    | abandon call => trivial

end Runs

section Login

variable (hmacSha256 : List UInt8 → List UInt8 → List UInt8)
  (computeTokenSha256Digest : String → String)

inductive LoginResponse where
  | loginPage (errorMessage : String)
  | redirect (cookieValue : String)
  | raised (error : PyError)
  deriving DecidableEq

/-- `login_submit`, from the token of the form and what `time.time()`
returns. -/
def loginSubmit (settings : List SettingRow) (signingKey : Option (List UInt8))
    (token : Option String) (time : ℚ) : LoginResponse :=
  match token.filter (pythonStrip · ≠ "") with
  | none => .loginPage "Token is required."
  | some token =>
      match getSetting settings "auth.bootstrap_bearer_token_sha256" with
      | .error error => .raised error
      | .ok (some (.str storedDigest)) =>
          if computeTokenSha256Digest (pythonStrip token) ≠ storedDigest then
            .loginPage "Invalid token."
          else
            match signingKey with
            | none =>
                .raised (.typeError ("Missing app cookie signing key: " ++
                  "app.state.cookie_signing_key."))
            | some signingKey =>
                match createSignedCookieValue hmacSha256 signingKey
                    (PyFloat.finite time).truncate with
                | .ok cookieValue => .redirect cookieValue
                | .error error => .raised error
      | .ok _ => .loginPage "Invalid token."

variable {hmacSha256} {computeTokenSha256Digest}

/-- A session that is opened has a signed cookie. -/
theorem created_of_loginSubmit {settings : List SettingRow}
    {signingKey : Option (List UInt8)} {token : Option String} {time : ℚ}
    {cookieValue : String}
    (opened : loginSubmit hmacSha256 computeTokenSha256Digest settings
      signingKey token time = .redirect cookieValue) :
    ∃ key, signingKey = some key ∧
      createSignedCookieValue hmacSha256 key (PyFloat.finite time).truncate =
        .ok cookieValue := by
  unfold loginSubmit at opened
  split at opened
  · cases opened
  · split at opened
    · cases opened
    · split at opened
      · cases opened
      · split at opened
        · cases opened
        · rename_i key
          split at opened
          · rename_i created
            cases opened
            exact ⟨key, rfl, created⟩
          · cases opened
    · cases opened

end Login

/-- A session is open everywhere.  Take any number of processes that start on
one table, in any interleaving and with failures of the database anywhere, and
any writes to other settings.  Every key that a startup has resolved through the
table is the one that is stored, and a variable of the environment that is the
Base64 of a key that is long enough gives this key.  If two processes have
resolved their keys through the table, or from the same variable of the environment, then each
accepts a session that was opened on the other, for a day from then on and no
longer.  And if the database refuses nothing, every startup that ends has such
a key. -/
theorem session_accepted_everywhere (tables : NumeralTables)
    (hmacSha256 : List UInt8 → List UInt8 → List UInt8)
    (computeTokenSha256Digest : String → String) {str : PyValue → String}
    (strText : ∀ text, str (.str text) = text) {settings : List SettingRow}
    (holds : KeyStored settings) (events : List KeyStartupEvent) :
    let after := run (keyStartups str).step events (System.idle settings)
    (∀ signingKey, .ended (.resolved .database signingKey) ∈ after.calls →
      ∃ stored, storedRow after.store = some (signingKeyRow stored) ∧
        signingKey = some stored.bytes) ∧
    (∀ bytes signingKey, signingKeyBytes ≤ bytes.length →
      .ended (.resolved (.environment (String.ofList (Base64.encode bytes)))
        signingKey) ∈ after.calls → signingKey = some bytes) ∧
    (∀ origin first second, origin ≠ .memory →
      .ended (.resolved origin first) ∈ after.calls →
      .ended (.resolved origin second) ∈ after.calls →
      ∀ current token issued cookieValue,
        loginSubmit hmacSha256 computeTokenSha256Digest current first token
          issued = .redirect cookieValue →
        ∀ time, requireUiAuth tables hmacSha256 (.error .httpException) second
            (some cookieValue) time =
          if (PyFloat.finite time).truncate - (PyFloat.finite issued).truncate ≤
            sessionCookieMaxAgeSeconds then .ok ()
          else .error .uiAuthRedirectError) ∧
    ((∀ event ∈ events, Answered event) →
      ∀ progress ∈ after.calls, SharesKey progress) := by
  intro after
  obtain ⟨-, known⟩ := always_knowsKey strText holds events events
    List.prefix_rfl
  refine ⟨fun signingKey resolved => known _ resolved, ?_, ?_, ?_⟩
  · intro bytes signingKey longEnough resolved
    have fromVariable := known _ resolved
    rwa [KnowsKey, environmentKey_encode longEnough] at fromVariable
  · intro origin first second shared isFirst isSecond
    have same : first = second := by
      have knownFirst := known _ isFirst
      have knownSecond := known _ isSecond
      cases origin with
      | environment envKey => exact knownFirst.trans knownSecond.symm
      | database =>
          obtain ⟨stored, isStored, rfl⟩ := knownFirst
          obtain ⟨other, isOther, rfl⟩ := knownSecond
          rw [isStored] at isOther
          rw [bytes_eq_of_signingKeyRow_eq (Option.some.inj isOther)]
      | memory => exact absurd rfl shared
    subst same
    intro current token issued cookieValue opened time
    obtain ⟨key, rfl, created⟩ := created_of_loginSubmit opened
    rw [requireUiAuth, verify_created created]
    split <;> simp_all
  · intro answered progress member
    exact ((always_sharesKey strText holds answered events
      List.prefix_rfl).2 progress member).2

/-- The signature of the time 1700000000 under a key of twos. -/
def sampleHmac (_ _ : List UInt8) : List UInt8 :=
  [207, 161, 203, 59, 39, 21, 213, 139, 231, 12, 146, 241, 82, 4, 251, 96, 126,
    235, 129, 202, 192, 238, 228, 153, 234, 159, 88, 107, 118, 168, 0, 16]

/-- The digest of the text "token". -/
def sampleTokenDigest (_ : String) : String :=
  "3c469e9d6c5875d37a43f353d4f88e61fcf812c66eee3457465a40b0da4153e0"

def uniformSigningKey (byte : UInt8) : SigningKey :=
  ⟨List.replicate signingKeyBytes byte, List.length_replicate⟩

def sampleStr : PyValue → String
  | .str text => text
  | _ => ""

/-- Two processes find no key, and the second one stores its own. -/
def sampleKeyStartups : List KeyStartupEvent :=
  [.start (.resolve none none), .start (.resolve none none),
    .resume 0 ⟨uniformSigningKey 1, none⟩,
    .resume 1 ⟨uniformSigningKey 2, none⟩,
    .resume 1 ⟨uniformSigningKey 3, none⟩,
    .resume 0 ⟨uniformSigningKey 3, none⟩,
    .resume 0 ⟨uniformSigningKey 3, none⟩]

/-- What a call has come to. -/
def keyStartupResult? : KeyStartupProgress → Option KeyStartupResult
  | .ended result => some result
  | _ => none

theorem mem_calls_of_results {system : KeyStartupSystem}
    {result : KeyStartupResult}
    (member : some result ∈ system.calls.map keyStartupResult?) :
    .ended result ∈ system.calls := by
  obtain ⟨progress, isCall, same⟩ := List.mem_map.mp member
  cases progress with
  | ended other =>
      obtain rfl := Option.some.inj same
      exact isCall
  | suspended phase => cases same
  | abandoned => cases same

/-- A session that is opened on one of them is accepted by the other an hour
later. -/
theorem session_accepted_sample :
    ∃ cookieValue,
      loginSubmit sampleHmac sampleTokenDigest
        [⟨"auth.bootstrap_bearer_token_sha256",
          .ok (.str (sampleTokenDigest ""))⟩]
        (some (uniformSigningKey 2).bytes) (some "token") 1700000000 =
          .redirect cookieValue ∧
      requireUiAuth asciiNumerals sampleHmac (.error .httpException)
        (some (uniformSigningKey 2).bytes) (some cookieValue) 1700003600 =
          .ok () := by
  have results : ((run (keyStartups sampleStr).step sampleKeyStartups
      (System.idle [])).calls.map keyStartupResult?) =
        [some (.resolved .database (some (uniformSigningKey 2).bytes)),
          some (.resolved .database (some (uniformSigningKey 2).bytes))] := by
    decide +kernel
  have resolved : .ended (.resolved .database (uniformSigningKey 2).bytes) ∈
      (run (keyStartups sampleStr).step sampleKeyStartups
        (System.idle [])).calls := by
    apply mem_calls_of_results
    rw [results]
    exact List.mem_cons_self
  obtain ⟨-, -, accepted, -⟩ := @session_accepted_everywhere asciiNumerals
    sampleHmac sampleTokenDigest sampleStr (fun _ => rfl) [] (.inl rfl)
    sampleKeyStartups
  have opened : loginSubmit sampleHmac sampleTokenDigest
      [⟨"auth.bootstrap_bearer_token_sha256",
        .ok (.str (sampleTokenDigest ""))⟩]
      (some (uniformSigningKey 2).bytes) (some "token") 1700000000 =
        .redirect (String.ofList ("1700000000.".toList ++
          hexDigits (sampleHmac [] []))) := by
    decide
  refine ⟨_, opened, ?_⟩
  rw [accepted .database _ _ (by decide) resolved resolved _ _ _ _ opened]
  decide

end Tca
