import Tca.Base64
import Tca.InterleavedCalls
import Tca.SettingsTable

/-!
# The salt of the key-encryption key

A caller that finds no salt draws one and tries to create the setting.  If
another caller was first, it reads that caller's salt instead.  However the
calls are interleaved, all of them return the salt that is stored, and the
setting is written once.
-/

namespace Tca

open GuardedRuns InterleavedCalls

/-- `ARGON2ID_SALT_BYTES`. -/
def argon2idSaltBytes : Nat :=
  16

/-- What `secrets.token_bytes(ARGON2ID_SALT_BYTES)` draws. -/
structure Salt where
  bytes : List UInt8
  length_eq : bytes.length = argon2idSaltBytes
  deriving DecidableEq

def authKeySaltSetting : String :=
  "auth.kek_salt"

/-- `KeyMaterialError.invalid_salt`. -/
def invalidSalt (details : String) : PyError :=
  .keyMaterialError ("Stored auth key salt is invalid: " ++ details)

/-- `KeyMaterialError.missing_salt`. -/
def missingSalt : PyError :=
  .keyMaterialError "Stored auth key salt is missing."

/-- `_encode_salt`. -/
def encodeSalt (value : List UInt8) : String :=
  String.ofList (Base64.encode value)

/-- `_decode_salt`. -/
def decodeSalt : PyValue → Except PyError (List UInt8)
  | .str value =>
      match Base64.decode value.toList with
      | none => .error (invalidSalt "invalid base64 payload")
      | some decoded =>
          if decoded.length ≠ argon2idSaltBytes then
            .error (invalidSalt "unexpected salt length")
          else .ok decoded
  | _ => .error (invalidSalt "expected base64-encoded string")

theorem decodeSalt_encodeSalt (salt : Salt) :
    decodeSalt (.str (encodeSalt salt.bytes)) = .ok salt.bytes := by
  simp [decodeSalt, encodeSalt, Base64.decode_encode, salt.length_eq]

/-- Where a call of `_get_or_create_kek_salt` is suspended. -/
inductive SaltPhase where
  | read
  | create (newSalt : Salt)
  | reread
  deriving DecidableEq

inductive SaltResult where
  | returned (salt : List UInt8)
  | raised (error : PyError)
  deriving DecidableEq

/-- What a step is given from outside: the salt that a draw yields and the
error with which the database refuses the step, if it does. -/
structure SaltInput where
  drawn : Salt
  problem : Option PyError := none
  deriving DecidableEq

/-- The call ends with what a decoder makes of the stored value. -/
def endDecoded (value : PyValue) : Progress SaltPhase SaltResult :=
  match decodeSalt value with
  | .ok salt => .ended (.returned salt)
  | .error error => .ended (.raised error)

/-- The atomic steps of `_get_or_create_kek_salt`.  The creation runs on the
writer queue and is one step; a refused step changes nothing. -/
def saltAdvance (phase : SaltPhase) (input : SaltInput)
    (settings : List SettingRow) :
    Progress SaltPhase SaltResult × List SettingRow :=
  match input.problem with
  | some problem => (.ended (.raised problem), settings)
  | none =>
      match phase with
      | .read =>
          match getSetting settings authKeySaltSetting with
          | .error error => (.ended (.raised error), settings)
          | .ok (some value) => (endDecoded value, settings)
          | .ok none => (.suspended (.create input.drawn), settings)
      | .create newSalt =>
          match createSetting settings authKeySaltSetting
              (.str (encodeSalt newSalt.bytes)) with
          | .ok later => (.ended (.returned newSalt.bytes), later)
          | .error (.settingAlreadyExistsError _) =>
              (.suspended .reread, settings)
          | .error error => (.ended (.raised error), settings)
      | .reread =>
          match getSetting settings authKeySaltSetting with
          | .error error => (.ended (.raised error), settings)
          | .ok (some value) => (endDecoded value, settings)
          | .ok none => (.ended (.raised missingSalt), settings)

/-- Calls of `_get_or_create_kek_salt` on one settings table. -/
def saltCalls : Protocol (List SettingRow) Unit SaltPhase SaltInput
    SaltResult where
  enter _ := .read
  advance := saltAdvance

abbrev SaltEvent :=
  Event Unit SaltInput

abbrev SaltSystem :=
  System (List SettingRow) SaltPhase SaltResult

/-- The row that a creation writes. -/
def saltRow (salt : Salt) : SettingRow :=
  ⟨authKeySaltSetting, .ok (.str (encodeSalt salt.bytes))⟩

theorem bytes_eq_of_saltRow_eq {salt other : Salt}
    (same : saltRow salt = saltRow other) : salt.bytes = other.bytes := by
  have encoded : encodeSalt salt.bytes = encodeSalt other.bytes := by
    simpa [saltRow] using same
  have decoded := decodeSalt_encodeSalt salt
  rw [encoded, decodeSalt_encodeSalt] at decoded
  exact (Except.ok.inj decoded).symm

section Steps

variable {settings : List SettingRow} {input : SaltInput} {salt : Salt}

theorem getSetting_salt (missing : SettingMissing settings authKeySaltSetting)
    (salt : Salt) :
    getSetting (settings ++ [saltRow salt]) authKeySaltSetting =
      .ok (some (.str (encodeSalt salt.bytes))) :=
  getSetting_created missing rfl

theorem endDecoded_salt (salt : Salt) :
    endDecoded (.str (encodeSalt salt.bytes)) =
      .ended (.returned salt.bytes) := by
  rw [endDecoded, decodeSalt_encodeSalt]

/-- What a step does while no salt is stored. -/
theorem saltAdvance_missing
    (missing : SettingMissing settings authKeySaltSetting)
    (phase : SaltPhase) :
    saltAdvance phase input settings =
      match input.problem, phase with
      | some problem, _ => (.ended (.raised problem), settings)
      | none, .read => (.suspended (.create input.drawn), settings)
      | none, .create newSalt =>
          (.ended (.returned newSalt.bytes), settings ++ [saltRow newSalt])
      | none, .reread => (.ended (.raised missingSalt), settings) := by
  unfold saltAdvance
  cases input.problem with
  | some problem => rfl
  | none =>
      cases phase with
      | read => simp only [getSetting_of_missing missing]
      | create newSalt =>
          simp only [createSetting_of_missing missing]
          rfl
      | reread => simp only [getSetting_of_missing missing]

/-- What a step does once a salt is stored. -/
theorem saltAdvance_stored
    (missing : SettingMissing settings authKeySaltSetting)
    (salt : Salt) (phase : SaltPhase) :
    saltAdvance phase input (settings ++ [saltRow salt]) =
      (match input.problem, phase with
        | some problem, _ => .ended (.raised problem)
        | none, .create _ => .suspended .reread
        | none, _ => .ended (.returned salt.bytes),
        settings ++ [saltRow salt]) := by
  unfold saltAdvance
  cases input.problem with
  | some problem => rfl
  | none =>
      cases phase with
      | read => simp only [getSetting_salt missing, endDecoded_salt]
      | create newSalt =>
          have taken : saltRow salt ∈ settings ++ [saltRow salt] := by simp
          simp only [show authKeySaltSetting = (saltRow salt).key from rfl,
            createSetting_of_present taken]
      | reread => simp only [getSetting_salt missing, endDecoded_salt]

end Steps

section Runs

variable (settings : List SettingRow)

/-- The table is as it was at first, or one salt has been added. -/
def SaltAddedOnce (current : List SettingRow) : Prop :=
  current = settings ∨ ∃ salt, current = settings ++ [saltRow salt]

/-- What a call can rely on: one that reads again or has returned knows that
a salt is stored, and what it returned is that salt. -/
def KnowsSalt : Progress SaltPhase SaltResult → List SettingRow → Prop
  | .suspended .reread, current => ∃ salt, current = settings ++ [saltRow salt]
  | .ended (.returned bytes), current =>
      ∃ salt : Salt, bytes = salt.bytes ∧ current = settings ++ [saltRow salt]
  | _, _ => True

variable {settings : List SettingRow}

/-- A stored salt stays as it is. -/
theorem saltAdvance_keeps
    (missing : SettingMissing settings authKeySaltSetting) (salt : Salt)
    (phase : SaltPhase) (input : SaltInput) :
    (saltAdvance phase input (settings ++ [saltRow salt])).2 =
      settings ++ [saltRow salt] := by
  rw [saltAdvance_stored missing]

theorem saltAdvance_own
    (missing : SettingMissing settings authKeySaltSetting)
    (phase : SaltPhase) (input : SaltInput) (current : List SettingRow)
    (holds : SaltAddedOnce settings current) :
    SaltAddedOnce settings (saltAdvance phase input current).2 ∧
      KnowsSalt settings (saltAdvance phase input current).1
        (saltAdvance phase input current).2 := by
  rcases holds with rfl | ⟨salt, rfl⟩
  · rw [saltAdvance_missing missing]
    cases input.problem with
    | some problem => exact ⟨.inl rfl, trivial⟩
    | none =>
        cases phase with
        | read => exact ⟨.inl rfl, trivial⟩
        | create newSalt =>
            exact ⟨.inr ⟨newSalt, rfl⟩, newSalt, rfl, rfl⟩
        | reread => exact ⟨.inl rfl, trivial⟩
  · rw [saltAdvance_stored missing]
    refine ⟨.inr ⟨salt, rfl⟩, ?_⟩
    cases input.problem with
    | some problem => trivial
    | none =>
        cases phase with
        | read => exact ⟨salt, rfl, rfl⟩
        | create newSalt => exact ⟨salt, rfl⟩
        | reread => exact ⟨salt, rfl, rfl⟩

/-- No step disturbs what another call knows. -/
theorem saltAdvance_stable
    (missing : SettingMissing settings authKeySaltSetting)
    (phase : SaltPhase) (input : SaltInput) (current : List SettingRow)
    (other : Progress SaltPhase SaltResult)
    (known : KnowsSalt settings other current) :
    KnowsSalt settings other (saltAdvance phase input current).2 := by
  match other with
  | .suspended .reread =>
      obtain ⟨salt, rfl⟩ := known
      exact ⟨salt, saltAdvance_keeps missing salt phase input⟩
  | .ended (.returned bytes) =>
      obtain ⟨salt, same, rfl⟩ := known
      exact ⟨salt, same, saltAdvance_keeps missing salt phase input⟩
  | .suspended .read | .suspended (.create _) | .ended (.raised _)
  | .abandoned => trivial

/-- Whatever the calls do, the table is as it was at first or one salt has been
added, and every call knows what it should. -/
theorem always_knowsSalt
    (missing : SettingMissing settings authKeySaltSetting)
    (events : List SaltEvent) :
    Always saltCalls.step
      (Protocol.Annotated (SaltAddedOnce settings) (KnowsSalt settings))
      events (System.idle settings) :=
  saltCalls.always_annotated (fun _ _ _ => trivial) (fun _ => trivial)
    (fun phase input current holds _ =>
      saltAdvance_own missing phase input current holds)
    (fun phase input current other _ _ known =>
      saltAdvance_stable missing phase input current other known)
    events (.inl rfl)

/-- An event leaves the table as it is or adds a salt. -/
theorem saltCalls_step_missing
    (missing : SettingMissing settings authKeySaltSetting)
    (event : SaltEvent) (system : SaltSystem)
    (unchanged : system.store = settings) :
    (saltCalls.step event system).store = settings ∨
      ∃ salt, (saltCalls.step event system).store =
        settings ++ [saltRow salt] := by
  rcases saltCalls.step_store event system with same |
    ⟨call, input, phase, -, -, advanced⟩
  · exact .inl (same.trans unchanged)
  · rw [advanced, unchanged]
    exact (saltAdvance_own missing phase input settings (.inl rfl)).1

theorem saltCalls_step_stored
    (missing : SettingMissing settings authKeySaltSetting)
    (salt : Salt) (event : SaltEvent) (system : SaltSystem)
    (stored : system.store = settings ++ [saltRow salt]) :
    (saltCalls.step event system).store = settings ++ [saltRow salt] :=
  @Protocol.step_store_preserved _ _ _ _ _ saltCalls
    (fun current => current = settings ++ [saltRow salt])
    (fun phase input current same => by
      rw [same]
      exact saltAdvance_keeps missing salt phase input)
    event system stored

/-- A call that knows what it should and has raised nothing. -/
def KnowsSaltUnraised (settings : List SettingRow)
    (call : Progress SaltPhase SaltResult) (current : List SettingRow) : Prop :=
  KnowsSalt settings call current ∧ ∀ error, call ≠ .ended (.raised error)

/-- A step that the database does not refuse raises nothing. -/
theorem saltAdvance_returns
    (missing : SettingMissing settings authKeySaltSetting)
    (phase : SaltPhase) (input : SaltInput) (current : List SettingRow)
    (holds : SaltAddedOnce settings current)
    (known : KnowsSalt settings (.suspended phase) current)
    (allowed : input.problem = none) (error : PyError) :
    (saltAdvance phase input current).1 ≠ .ended (.raised error) := by
  rcases holds with rfl | ⟨salt, rfl⟩
  · rw [saltAdvance_missing missing, allowed]
    cases phase with
    | read => simp
    | create newSalt => simp
    | reread =>
        obtain ⟨salt, added⟩ := known
        simp at added
  · rw [saltAdvance_stored missing, allowed]
    cases phase <;> simp

/-- Nothing is refused by the database. -/
def Unrefused : SaltEvent → Prop
  | .resume _ input => input.problem = none
  | _ => True

/-- If the database refuses nothing, no call raises. -/
theorem salt_calls_unraised
    (missing : SettingMissing settings authKeySaltSetting)
    {events : List SaltEvent} (unrefused : ∀ event ∈ events, Unrefused event)
    (error : PyError) :
    .ended (.raised error) ∉
      (run saltCalls.step events (System.idle settings)).calls := by
  intro raised
  have annotated : Always saltCalls.step
      (Protocol.Annotated (SaltAddedOnce settings) (KnowsSaltUnraised settings))
      events (System.idle settings) := by
    refine always_of_guarded saltCalls.step
      (saltCalls.annotated_step (fun _ _ _ _ => ⟨trivial, nofun⟩)
        (fun _ => ⟨trivial, nofun⟩) ?_ ?_) ⟨.inl rfl, by simp [System.idle]⟩
      (@guarded_of_forall_mem _ _ saltCalls.step
        (Protocol.Permits (fun _ => True)
          (fun _ input _ => input.problem = none)) events ?_ _)
    · intro phase input current holds known allowed
      obtain ⟨holdsAfter, knownAfter⟩ :=
        saltAdvance_own missing phase input current holds
      exact ⟨holdsAfter, knownAfter,
        saltAdvance_returns missing phase input current holds known.1 allowed⟩
    · intro phase input current other _ _ _ known
      exact ⟨saltAdvance_stable missing phase input current other known.1,
        known.2⟩
    · intro event member system
      have allowed := unrefused event member
      cases event with
      | start request => trivial
      | resume call input => exact fun _ _ => allowed
      | abandon call => trivial
  exact ((annotated events List.prefix_rfl).2 _ raised).2 error rfl

end Runs

/-- All callers agree on the salt.  While the table is as it was, no call has
returned.  Otherwise one event of the run, and no other, has written the
setting, and every call that has returned yields the salt that the stored value
decodes to.  If the database refuses nothing, no call raises. -/
theorem kek_salt_agreed {settings : List SettingRow}
    (missing : SettingMissing settings authKeySaltSetting)
    (events : List SaltEvent) :
    let after := run saltCalls.step events (System.idle settings)
    ((Always saltCalls.step (fun system => system.store = settings) events
          (System.idle settings) ∧
        ∀ bytes, .ended (.returned bytes) ∉ after.calls) ∨
      ∃ salt before event later, events = before ++ event :: later ∧
        Always saltCalls.step (fun system => system.store = settings) before
          (System.idle settings) ∧
        Always saltCalls.step
          (fun system => system.store = settings ++ [saltRow salt]) later
          (run saltCalls.step (before ++ [event]) (System.idle settings)) ∧
        (∃ value, getSetting after.store authKeySaltSetting = .ok (some value) ∧
          decodeSalt value = .ok salt.bytes) ∧
        ∀ bytes, .ended (.returned bytes) ∈ after.calls →
          bytes = salt.bytes) ∧
    ((∀ event ∈ events, Unrefused event) →
      ∀ error, .ended (.raised error) ∉ after.calls) := by
  intro after
  refine ⟨?_, fun unrefused => salt_calls_unraised missing unrefused⟩
  have known := ((always_knowsSalt missing events) events List.prefix_rfl).2
  rcases always_or_turned saltCalls.step (saltCalls_step_missing missing)
      (saltCalls_step_stored missing) events
      (show (System.idle settings : SaltSystem).store = settings from rfl) with
    unchanged | ⟨salt, before, event, later, split, unchanged, kept⟩
  · refine .inl ⟨unchanged, fun bytes returned => ?_⟩
    obtain ⟨salt, -, stored⟩ := known _ returned
    rw [unchanged events List.prefix_rfl] at stored
    simp at stored
  · have stored : after.store = settings ++ [saltRow salt] := by
      have last := kept later List.prefix_rfl
      rw [← run_append, List.append_assoc] at last
      rw [show after = run saltCalls.step events (System.idle settings) from
        rfl, split]
      exact last
    refine .inr ⟨salt, before, event, later, split, unchanged, kept,
      ⟨.str (encodeSalt salt.bytes), ?_, decodeSalt_encodeSalt salt⟩, ?_⟩
    · rw [stored]
      exact getSetting_salt missing salt
    · intro bytes returned
      obtain ⟨returnedSalt, rfl, storedAfter⟩ := known _ returned
      refine bytes_eq_of_saltRow_eq ?_
      simpa using storedAfter.symm.trans stored

/-- The salt whose bytes are all the same. -/
def uniformSalt (byte : UInt8) : Salt :=
  ⟨List.replicate argon2idSaltBytes byte, List.length_replicate⟩

/-- Two callers find no salt.  The one that reads last creates its own first,
and the other returns that one, too. -/
def sampleSaltRace : List SaltEvent :=
  [.start (), .start (), .resume 0 ⟨uniformSalt 1, none⟩,
    .resume 1 ⟨uniformSalt 2, none⟩, .resume 1 ⟨uniformSalt 3, none⟩,
    .resume 0 ⟨uniformSalt 3, none⟩, .resume 0 ⟨uniformSalt 3, none⟩]

theorem kek_salt_sample :
    (run saltCalls.step sampleSaltRace (System.idle [])).calls =
        [.ended (.returned (uniformSalt 2).bytes),
          .ended (.returned (uniformSalt 2).bytes)] ∧
      ∀ error, .ended (.raised error) ∉
        (run saltCalls.step sampleSaltRace (System.idle [])).calls :=
  ⟨by decide, (kek_salt_agreed (by simp [SettingMissing])
    sampleSaltRace).2 (by simp [sampleSaltRace, Unrefused])⟩

end Tca
