import Tca.BackupDirectory
import Tca.IsoTimestamps
import Tca.RetentionSettings
import Tca.UnicodeTables

/-!
# The nightly backup and its retention

The job writes a backup under a temporary name, checks it, renames it and then
deletes all but the last few backups of a listing.  Each of its steps can fail.
The listing is sorted by name and not by date, so that other files compete with
the dated ones; and only what fails after the temporary file has been begun is
cleaned up.
-/

namespace Tca

open RowRanking

/-- What SQLite's online backup leaves under the temporary name. -/
inductive CopyOutcome (Content : Type*) where
  | copied (content : Content)
  | failed (left : Option Content) (error : RaisedException)

/-- The row of `PRAGMA integrity_check`; a value that is no text is `none`. -/
inductive IntegrityRow where
  | notATuple
  | tuple (values : List (Option String))
  deriving DecidableEq

/-- What a run of the job is given: its clock, the settings, and the outcome of
each step that the operating system or SQLite may refuse. -/
structure BackupEnvironment (Content : Type*) where
  now : PyDateTime
  /-- The paths, in code points; the directory's one ends in a slash. -/
  sourceDbPath : String
  backupDir : FileName
  sourceExists : Bool
  mkdirError : Option RaisedException
  staleUnlinkError : Option RaisedException
  copy : CopyOutcome Content
  integrityRow : Except RaisedException IntegrityRow
  replaceError : Option RaisedException
  leftoverUnlinkError : Option RaisedException
  settings : List SettingRow
  /-- The lookup of the setting raises a `SQLAlchemyError`. -/
  settingsUnavailable : Bool
  listingError : Option RaisedException
  backupUnlinkError : FileName → Option RaisedException
  notificationError : Option RaisedException

structure BackupJobRunSummary where
  backupPath : FileName
  integrityCheckResult : String
  deriving DecidableEq

/-- The notification of a failed run, with the fields of its payload. -/
structure BackupNotification where
  notificationType : String
  severity : String
  message : String
  backupPath : FileName
  errorType : String
  errorMessage : String
  failedAt : String
  deriving DecidableEq

/-- How a run raises: with an error of its own, with the error of a setting
that cannot be decoded, or because the notification cannot be stored. -/
inductive BackupJobError where
  | nightlySqliteBackupError (message : String) (cause : RaisedException)
  | settingError (error : PyError)
  | notificationError (error : RaisedException)
  deriving DecidableEq

structure BackupRun (Content : Type*) where
  result : Except BackupJobError BackupJobRunSummary
  directory : Directory Content
  notifications : List BackupNotification

namespace Directory

variable {Content : Type*} (directory : Directory Content)

def hasEntry (name : FileName) : Bool :=
  (directory.find? name).isSome

/-- Create a file or replace its content. -/
def write (name : FileName) (content : Content) : Directory Content :=
  directory.upsert ⟨name, .file content⟩
    (fun entry => ⟨entry.name, .file content⟩) fun _ => rfl

def remove (name : FileName) : Directory Content :=
  directory.deleteWhere fun entry => entry.name = name

/-- `path.unlink()`. -/
def unlink (name : FileName) (refused : Option RaisedException) :
    Except RaisedException (Directory Content) :=
  match refused, directory.find? name with
  | some error, _ => .error error
  | none, none => .error fileNotFoundError
  | none, some ⟨_, .folder⟩ => .error isADirectoryError
  | none, some ⟨_, .file _⟩ => .ok (directory.remove name)

/-- `if path.exists(): path.unlink()`. -/
def unlinkIfExists (name : FileName) (refused : Option RaisedException) :
    Except RaisedException (Directory Content) :=
  if directory.hasEntry name then directory.unlink name refused
  else .ok directory

/-- `source.replace(target)`. -/
def replace (source target : FileName) (refused : Option RaisedException) :
    Except RaisedException (Directory Content) :=
  match refused, directory.find? source, directory.find? target with
  | some error, _, _ => .error error
  | none, some ⟨_, .file _⟩, some ⟨_, .folder⟩ => .error isADirectoryError
  | none, some ⟨_, .file content⟩, _ =>
      .ok ((directory.remove source).write target content)
  | none, _, _ => .error fileNotFoundError

/-- The files that match `tca-*.db`. -/
def listBackups : List FileName :=
  (directory.rows.filter fun entry =>
    (match entry.kind with
      | .file _ => true
      | .folder => false) && decide (IsBackupName entry.name)).map
        DirectoryEntry.name

end Directory

section Job

variable {Content : Type*} (tables : UnicodeTables) (repr : String → String)
  (environment : BackupEnvironment Content)

def coerceIntegrityCheckRow : IntegrityRow → Except RaisedException String
  | .notATuple =>
      .error ⟨"NightlySQLiteBackupError",
        "PRAGMA integrity_check returned invalid row shape."⟩
  | .tuple [some value] =>
      .ok (String.ofList (tables.lower value.toList))
  | .tuple [none] =>
      .error ⟨"NightlySQLiteBackupError",
        "PRAGMA integrity_check returned non-string result."⟩
  | .tuple _ =>
      .error ⟨"NightlySQLiteBackupError",
        "PRAGMA integrity_check returned unexpected column count."⟩

def runIntegrityCheck : Except RaisedException String :=
  environment.integrityRow >>= coerceIntegrityCheckRow tables

/-- The `try` block of `_create_backup_and_run_integrity_check`. -/
def writeBackup (backupPath : FileName) (directory : Directory Content) :
    Except RaisedException Unit × Directory Content :=
  let temporaryBackupPath := temporaryName backupPath
  match environment.copy with
  | .failed none error => (.error error, directory)
  | .failed (some content) error =>
      (.error error, directory.write temporaryBackupPath content)
  | .copied content =>
      let written := directory.write temporaryBackupPath content
      match runIntegrityCheck tables environment with
      | .error error => (.error error, written)
      | .ok result =>
          if result ≠ "ok" then
            (.error ⟨"NightlySQLiteBackupError",
              "SQLite backup integrity_check failed with result " ++
                repr result ++ "."⟩, written)
          else
            match written.replace temporaryBackupPath backupPath
                environment.replaceError with
            | .error error => (.error error, written)
            | .ok replaced => (.ok (), replaced)

def createBackupAndRunIntegrityCheck (backupPath : FileName)
    (directory : Directory Content) :
    Except RaisedException String × Directory Content :=
  let temporaryBackupPath := temporaryName backupPath
  if !environment.sourceExists then
    (.error ⟨"FileNotFoundError", "Source SQLite database does not exist: " ++
      environment.sourceDbPath⟩, directory)
  else
    match environment.mkdirError with
    | some error => (.error error, directory)
    | none =>
        match directory.unlinkIfExists temporaryBackupPath
            environment.staleUnlinkError with
        | .error error => (.error error, directory)
        | .ok cleared =>
            match writeBackup tables repr environment backupPath cleared with
            | (.ok (), replaced) => (.ok "ok", replaced)
            | (.error error, left) =>
                match left.unlinkIfExists temporaryBackupPath
                    environment.leftoverUnlinkError with
                | .error second => (.error second, left)
                | .ok cleaned => (.error error, cleaned)

/-- Delete the files in turn; the first refusal ends the loop. -/
def unlinkAll (names : List FileName) (directory : Directory Content) :
    Except RaisedException Unit × Directory Content :=
  match names with
  | [] => (.ok (), directory)
  | name :: names =>
      match directory.unlink name (environment.backupUnlinkError name) with
      | .error error => (.error error, directory)
      | .ok remaining => unlinkAll names remaining

def cleanupOldBackups (retainCount : Int) (directory : Directory Content) :
    Except RaisedException Unit × Directory Content :=
  if retainCount < 1 then (.ok (), directory)
  else
    match environment.listingError with
    | some error => (.error error, directory)
    | none =>
        unlinkAll environment
          ((newestFirst directory.listBackups).drop retainCount.toNat) directory

def defaultBackupRetainCount : Int :=
  14

def coerceRetainCount : PyValue → Int
  | .int value => if 0 < value then value else defaultBackupRetainCount
  | .float value =>
      if value.isInteger then
        if 0 < value.toInt then value.toInt else defaultBackupRetainCount
      else defaultBackupRetainCount
  | _ => defaultBackupRetainCount

def resolveRetainCount : Except PyError Int :=
  if environment.settingsUnavailable then .ok defaultBackupRetainCount
  else
    match getSetting environment.settings "backup.retain_count" with
    | .error error => .error error
    | .ok none => .ok defaultBackupRetainCount
    | .ok (some value) => .ok (coerceRetainCount value)

/-- The day of the run, in the time zone of its clock. -/
def BackupEnvironment.runDay : Nat :=
  (normalizeDatetime environment.now).wall.micros / 86400000000

def BackupEnvironment.backupPath : FileName :=
  backupNameForDate environment.runDay

/-- The end of a run that failed: the notification, and the error. -/
def failRun (cause : RaisedException) (directory : Directory Content) :
    BackupRun Content :=
  match environment.notificationError with
  | some error => ⟨.error (.notificationError error), directory, []⟩
  | none =>
      ⟨.error (.nightlySqliteBackupError "Nightly SQLite backup job failed."
          cause), directory,
        [{ notificationType := "backup_failure"
           severity := "high"
           message := "Nightly SQLite backup failed."
           backupPath := environment.backupDir ++ environment.backupPath
           errorType := cause.className
           errorMessage := cause.message
           failedAt :=
             (normalizeDatetime environment.now).timestamp.isoformatT }]⟩

/-- `NightlySQLiteBackupJob.run_once`. -/
def runBackupOnce (directory : Directory Content) : BackupRun Content :=
  let backupPath := environment.backupPath
  match createBackupAndRunIntegrityCheck tables repr environment backupPath
      directory with
  | (.error error, left) => failRun environment error left
  | (.ok integrityCheckResult, created) =>
      match resolveRetainCount environment with
      | .error error => ⟨.error (.settingError error), created, []⟩
      | .ok retainCount =>
          match cleanupOldBackups environment retainCount created with
          | (.error error, left) => failRun environment error left
          | (.ok (), kept) =>
              ⟨.ok ⟨backupPath, integrityCheckResult⟩, kept, []⟩

end Job

namespace Directory

section Entries

variable {Content : Type*} {directory : Directory Content}
  {name other : FileName} {content : Content}
  {refused : Option RaisedException}

def HoldsFile (directory : Directory Content) (name : FileName)
    (content : Content) : Prop :=
  directory.find? name = some ⟨name, .file content⟩

def IsFile (directory : Directory Content) (name : FileName) : Prop :=
  ∃ content, directory.HoldsFile name content

theorem name_of_find? {entry : DirectoryEntry Content}
    (found : directory.find? name = some entry) : entry.name = name :=
  (KeyedTable.find?_eq_some_iff.mp found).2

theorem isFile_congr {second : Directory Content}
    (same : directory.find? name = second.find? name) :
    directory.IsFile name ↔ second.IsFile name := by
  unfold IsFile HoldsFile
  rw [same]

theorem isFile_of_find? (found : directory.find? name =
    some ⟨other, .file content⟩) : directory.IsFile name := by
  obtain rfl : other = name := name_of_find? found
  exact ⟨content, found⟩

theorem find?_write :
    (directory.write name content).find? other =
      if other = name then some ⟨name, .file content⟩
      else directory.find? other := by
  rw [write, KeyedTable.find?_upsert]
  split
  · cases found : directory.find? name with
    | none => rfl
    | some entry =>
        rw [Option.getD_some, name_of_find? found]
  · rfl

theorem find?_remove :
    (directory.remove name).find? other =
      if other = name then none else directory.find? other := by
  ext entry
  rw [KeyedTable.find?_eq_some_iff, remove, KeyedTable.mem_deleteWhere]
  split
  · rename_i same
    subst same
    simp only [decide_eq_false_iff_not, reduceCtorEq, iff_false]
    rintro ⟨⟨-, different⟩, same⟩
    exact different same
  · rename_i different
    rw [KeyedTable.find?_eq_some_iff]
    constructor
    · rintro ⟨⟨stored, -⟩, named⟩
      exact ⟨stored, named⟩
    · rintro ⟨stored, rfl⟩
      exact ⟨⟨stored, by simpa using different⟩, rfl⟩

theorem unlink_eq_ok_iff {remaining : Directory Content} :
    directory.unlink name refused = .ok remaining ↔
      refused = none ∧ directory.IsFile name ∧
        remaining = directory.remove name := by
  unfold unlink
  split
  · simp
  · rename_i absent
    simp [IsFile, HoldsFile, absent]
  · rename_i found
    simp [IsFile, HoldsFile, found]
  · rename_i found
    have isFile := isFile_of_find? found
    simp [isFile, eq_comm]

theorem mem_listBackups :
    name ∈ directory.listBackups ↔
      directory.IsFile name ∧ IsBackupName name := by
  unfold listBackups IsFile HoldsFile
  simp only [List.mem_map, List.mem_filter, Bool.and_eq_true,
    decide_eq_true_eq]
  constructor
  · rintro ⟨⟨entryName, kind⟩, ⟨stored, isFile, isBackup⟩, rfl⟩
    cases kind with
    | folder => cases isFile
    | file content =>
        refine ⟨⟨content, ?_⟩, isBackup⟩
        exact KeyedTable.find?_eq_some_iff.mpr ⟨stored, rfl⟩
  · rintro ⟨⟨content, found⟩, isBackup⟩
    have stored := (KeyedTable.find?_eq_some_iff.mp found).1
    exact ⟨_, ⟨stored, rfl, isBackup⟩, rfl⟩

theorem replace_eq_ok {source target : FileName}
    {replaced : Directory Content}
    (done : directory.replace source target refused = .ok replaced) :
    ∃ content, replaced = (directory.remove source).write target content := by
  unfold replace at done
  split at done
  · cases done
  · cases done
  · cases done
    exact ⟨_, rfl⟩
  · cases done

/-- An entry that is to be removed is a file that can be removed, or there is
none. -/
theorem unlinkIfExists_eq_ok_iff {remaining : Directory Content} :
    directory.unlinkIfExists name refused = .ok remaining ↔
      (directory.find? name = none ∧ remaining = directory) ∨
        (refused = none ∧ directory.IsFile name ∧
          remaining = directory.remove name) := by
  unfold unlinkIfExists hasEntry
  rw [← unlink_eq_ok_iff]
  cases found : directory.find? name with
  | none =>
      have notFound : directory.unlink name refused ≠ .ok remaining := by
        rw [ne_eq, unlink_eq_ok_iff]
        simp [IsFile, HoldsFile, found]
      simp [notFound, eq_comm]
  | some entry => simp

/-- What has been removed if it existed does not exist. -/
theorem find?_unlinkIfExists {remaining : Directory Content}
    (done : directory.unlinkIfExists name refused = .ok remaining) :
    remaining.find? other =
      if other = name then none else directory.find? other := by
  rcases unlinkIfExists_eq_ok_iff.mp done with ⟨absent, rfl⟩ | ⟨-, -, rfl⟩
  · split
    · rename_i same
      rw [same, absent]
    · rfl
  · exact find?_remove

theorem listBackups_nodup : directory.listBackups.Nodup :=
  TableRows.nodup_map_filter directory.uniqueKeys _

end Entries

end Directory

/-- The copy is left under the temporary name, in whole or in part. -/
def CopyOutcome.LeavesFile {Content : Type*} : CopyOutcome Content → Prop
  | .copied _ => True
  | .failed left _ => left ≠ none

def Directory.IsFolder {Content : Type*} (directory : Directory Content)
    (name : FileName) : Prop :=
  directory.find? name = some ⟨name, .folder⟩

/-- A failure leaves no temporary file: there was none if the job stops before
it has removed an old one, and the one it has begun can be removed. -/
structure CleansUp {Content : Type*}
    (environment : BackupEnvironment Content) (backupPath : FileName)
    (directory : Directory Content) : Prop where
  noneStale : (environment.sourceExists = false ∨
      environment.mkdirError ≠ none ∨ environment.staleUnlinkError ≠ none) →
    ¬ directory.IsFile (temporaryName backupPath)
  noneLeft : environment.sourceExists = true →
    environment.mkdirError = none →
      ¬ directory.IsFolder (temporaryName backupPath) →
        environment.copy.LeavesFile → environment.leftoverUnlinkError = none

section Creation

variable {Content : Type*} {tables : UnicodeTables} {repr : String → String}
  {environment : BackupEnvironment Content} {backupPath name : FileName}
  {directory left : Directory Content} {error : RaisedException}

/-- The `try` block writes under the temporary name only, until the file is
renamed. -/
theorem find?_writeBackup_error
    (failed : writeBackup tables repr environment backupPath directory =
      (.error error, left)) (other : name ≠ temporaryName backupPath) :
    left.find? name = directory.find? name := by
  unfold writeBackup at failed
  split at failed
  · cases failed
    rfl
  · cases failed
    rw [Directory.find?_write, if_neg other]
  · have written : ∀ content, (directory.write (temporaryName backupPath)
        content).find? name = directory.find? name := by
      intro content
      rw [Directory.find?_write, if_neg other]
    dsimp only at failed
    split at failed
    · cases failed
      exact written _
    · split at failed
      · cases failed
        exact written _
      · split at failed
        · cases failed
          exact written _
        · cases failed

theorem find?_writeBackup_ok {created : Directory Content}
    (done : writeBackup tables repr environment backupPath directory =
      (.ok (), created)) :
    ∃ content, ∀ name, name ≠ temporaryName backupPath →
      created.find? name =
        if name = backupPath then some ⟨backupPath, .file content⟩
        else directory.find? name := by
  unfold writeBackup at done
  split at done
  · cases done
  · cases done
  · dsimp only at done
    split at done
    · cases done
    · split at done
      · cases done
      · split at done
        · cases done
        · rename_i replaced
          cases done
          obtain ⟨content, rfl⟩ := Directory.replace_eq_ok replaced
          refine ⟨content, ?_⟩
          intro name other
          rw [Directory.find?_write, Directory.find?_remove, if_neg other,
            Directory.find?_write, if_neg other]

/-- A creation that succeeds changes the new backup, beside the temporary
file. -/
theorem find?_created {created : Directory Content} {result : String}
    (done : createBackupAndRunIntegrityCheck tables repr environment backupPath
      directory = (.ok result, created)) :
    ∃ content, ∀ name, name ≠ temporaryName backupPath →
      created.find? name =
        if name = backupPath then some ⟨backupPath, .file content⟩
        else directory.find? name := by
  unfold createBackupAndRunIntegrityCheck at done
  dsimp only at done
  split at done
  · cases done
  · split at done
    · cases done
    · split at done
      · cases done
      · rename_i cleared clearedEq
        split at done
        · rename_i replaced written
          cases done
          obtain ⟨content, same⟩ := find?_writeBackup_ok written
          refine ⟨content, ?_⟩
          intro name other
          rw [same name other, Directory.find?_unlinkIfExists clearedEq,
            if_neg other]
        · split at done
          · cases done
          · cases done

/-- A creation that fails changes nothing beside the temporary file. -/
theorem find?_notCreated
    (failed : createBackupAndRunIntegrityCheck tables repr environment
      backupPath directory = (.error error, left))
    (other : name ≠ temporaryName backupPath) :
    left.find? name = directory.find? name := by
  unfold createBackupAndRunIntegrityCheck at failed
  dsimp only at failed
  split at failed
  · cases failed
    rfl
  · split at failed
    · cases failed
      rfl
    · split at failed
      · cases failed
        rfl
      · rename_i cleared clearedEq
        have same : cleared.find? name = directory.find? name := by
          rw [Directory.find?_unlinkIfExists clearedEq, if_neg other]
        split at failed
        · cases failed
        · rename_i first written writtenEq
          have kept := find?_writeBackup_error writtenEq other
          split at failed
          · cases failed
            rw [kept, same]
          · rename_i cleaned cleanedEq
            cases failed
            rw [Directory.find?_unlinkIfExists cleanedEq, if_neg other, kept,
              same]

theorem isFile_written {content : Content} :
    (directory.write name content).IsFile name :=
  ⟨content, by rw [Directory.HoldsFile, Directory.find?_write, if_pos rfl]⟩

/-- What a `try` block that fails has left under the temporary name. -/
theorem writeBackup_error_cases
    (failed : writeBackup tables repr environment backupPath directory =
      (.error error, left))
    (absent : directory.find? (temporaryName backupPath) = none) :
    (environment.copy.LeavesFile ∧ left.IsFile (temporaryName backupPath)) ∨
      (¬ environment.copy.LeavesFile ∧
        left.find? (temporaryName backupPath) = none) := by
  unfold writeBackup at failed
  split at failed
  · rename_i outcome
    cases failed
    right
    simp [outcome, CopyOutcome.LeavesFile, absent]
  · rename_i outcome
    cases failed
    left
    simp [outcome, CopyOutcome.LeavesFile, isFile_written]
  · rename_i outcome
    left
    refine ⟨by simp [outcome, CopyOutcome.LeavesFile], ?_⟩
    dsimp only at failed
    split at failed
    · cases failed
      exact isFile_written
    · split at failed
      · cases failed
        exact isFile_written
      · split at failed
        · cases failed
          exact isFile_written
        · cases failed

theorem entry_cases (directory : Directory Content) (name : FileName) :
    directory.find? name = none ∨ directory.IsFile name ∨
      directory.IsFolder name := by
  cases found : directory.find? name with
  | none => exact Or.inl rfl
  | some entry =>
      right
      obtain rfl := Directory.name_of_find? found
      rcases entry with ⟨name, content | -⟩
      · exact Or.inl ⟨content, found⟩
      · exact Or.inr found

theorem stale_of_unlinkIfExists_error {refused : Option RaisedException}
    (failed : directory.unlinkIfExists name refused = .error error) :
    (refused ≠ none ∧ directory.find? name ≠ none) ∨
      directory.IsFolder name := by
  unfold Directory.unlinkIfExists Directory.hasEntry Directory.unlink at failed
  cases found : directory.find? name with
  | none => simp [found] at failed
  | some entry =>
      cases refused with
      | some problem => simp
      | none =>
          right
          rcases entry with ⟨entryName, content | -⟩
          · simp [found] at failed
          · rw [Directory.IsFolder, found, ← Directory.name_of_find? found]

theorem not_isFile_of_isFolder (isFolder : directory.IsFolder name) :
    ¬ directory.IsFile name := by
  rintro ⟨content, isFile⟩
  rw [Directory.HoldsFile, isFolder] at isFile
  cases isFile

/-- Once the temporary file has been begun, it is the handler that cleans
up. -/
theorem cleansUp_iff_of_begun {cleared : Directory Content}
    (sourceExists : environment.sourceExists = true)
    (mkdir : environment.mkdirError = none)
    (begun : directory.unlinkIfExists (temporaryName backupPath)
      environment.staleUnlinkError = .ok cleared) :
    CleansUp environment backupPath directory ↔
      (environment.copy.LeavesFile →
        environment.leftoverUnlinkError = none) := by
  have removable := Directory.unlinkIfExists_eq_ok_iff.mp begun
  constructor
  · intro cleans leaves
    refine cleans.noneLeft sourceExists mkdir ?_ leaves
    intro isFolder
    rcases removable with ⟨notThere, -⟩ | ⟨-, isFile, -⟩
    · rw [Directory.IsFolder, notThere] at isFolder
      cases isFolder
    · exact not_isFile_of_isFolder isFolder isFile
  · intro handled
    constructor
    · rintro (missing | refused | refused) ⟨content, isFile⟩
      · rw [sourceExists] at missing
        cases missing
      · exact refused mkdir
      · rcases removable with ⟨notThere, -⟩ | ⟨allowed, -⟩
        · rw [Directory.HoldsFile, notThere] at isFile
          cases isFile
        · exact refused allowed
    · intro _ _ _
      exact handled

section Handler

variable {written : Directory Content}
  (failed : writeBackup tables repr environment backupPath directory =
    (.error error, written))
  (absent : directory.find? (temporaryName backupPath) = none)

include failed absent

theorem leftover_of_error {second : RaisedException}
    (refused : written.unlinkIfExists (temporaryName backupPath)
      environment.leftoverUnlinkError = .error second) :
    ¬ written.IsFile (temporaryName backupPath) ↔
      (environment.copy.LeavesFile →
        environment.leftoverUnlinkError = none) := by
  rcases writeBackup_error_cases failed absent with ⟨leaves, isFile⟩ |
    ⟨-, noEntry⟩
  · have notAllowed : environment.leftoverUnlinkError ≠ none := by
      rcases stale_of_unlinkIfExists_error refused with ⟨problem, -⟩ | isFolder
      · exact problem
      · exact absurd isFile (not_isFile_of_isFolder isFolder)
    constructor
    · intro noFile
      exact absurd isFile noFile
    · intro handled
      exact absurd (handled leaves) notAllowed
  · simp [Directory.unlinkIfExists, Directory.hasEntry, noEntry] at refused

theorem leftover_of_ok {cleaned : Directory Content}
    (removed : written.unlinkIfExists (temporaryName backupPath)
      environment.leftoverUnlinkError = .ok cleaned) :
    ¬ cleaned.IsFile (temporaryName backupPath) ↔
      (environment.copy.LeavesFile →
        environment.leftoverUnlinkError = none) := by
  constructor
  · intro _ leaves
    rcases Directory.unlinkIfExists_eq_ok_iff.mp removed with
      ⟨noEntry, -⟩ | ⟨allowed, -⟩
    · rcases writeBackup_error_cases failed absent with
        ⟨-, content, isFile⟩ | ⟨leavesNone, -⟩
      · rw [Directory.HoldsFile, noEntry] at isFile
        cases isFile
      · exact absurd leaves leavesNone
    · exact allowed
  · rintro - ⟨content, isFile⟩
    rw [Directory.HoldsFile, Directory.find?_unlinkIfExists removed,
      if_pos rfl] at isFile
    cases isFile

end Handler

/-- A creation that fails leaves a temporary file exactly if it does not clean
up. -/
theorem isFile_temporary_iff
    (failed : createBackupAndRunIntegrityCheck tables repr environment
      backupPath directory = (.error error, left)) :
    ¬ left.IsFile (temporaryName backupPath) ↔
      CleansUp environment backupPath directory := by
  unfold createBackupAndRunIntegrityCheck at failed
  dsimp only at failed
  split at failed
  · rename_i missing
    cases failed
    have absent : environment.sourceExists = false := by simpa using missing
    constructor
    · intro noFile
      exact ⟨fun _ => noFile, by simp [absent]⟩
    · intro cleans
      exact cleans.noneStale (Or.inl absent)
  · rename_i present
    have sourceExists : environment.sourceExists = true := by simpa using present
    split at failed
    · rename_i refused
      cases failed
      constructor
      · intro noFile
        exact ⟨fun _ => noFile, by simp [refused]⟩
      · intro cleans
        exact cleans.noneStale (Or.inr (Or.inl (by simp [refused])))
    · rename_i mkdir
      split at failed
      · rename_i staleError stale
        cases failed
        constructor
        · intro noFile
          refine ⟨fun _ => noFile, ?_⟩
          intro _ _ notFolder
          rcases entry_cases directory (temporaryName backupPath) with
            absent | isFile | isFolder
          · simp [Directory.unlinkIfExists, Directory.hasEntry, absent] at stale
          · exact absurd isFile noFile
          · exact absurd isFolder notFolder
        · intro cleans
          rcases stale_of_unlinkIfExists_error stale with
            ⟨refused, -⟩ | isFolder
          · exact cleans.noneStale (Or.inr (Or.inr refused))
          · exact not_isFile_of_isFolder isFolder
      · rename_i cleared clearedEq
        rw [cleansUp_iff_of_begun sourceExists mkdir clearedEq]
        have absent : cleared.find? (temporaryName backupPath) = none := by
          rw [Directory.find?_unlinkIfExists clearedEq, if_pos rfl]
        split at failed
        · cases failed
        · rename_i written writtenEq
          split at failed
          · rename_i refused
            cases failed
            exact leftover_of_error writtenEq absent refused
          · rename_i cleanedEq
            cases failed
            exact leftover_of_ok writtenEq absent cleanedEq

end Creation

section Cleanup

variable {Content : Type*} {environment : BackupEnvironment Content}
  {directory kept : Directory Content} {names : List FileName}
  {name : FileName} {retainCount : Int}

theorem find?_unlinkAll (done : unlinkAll environment names directory =
      (.ok (), kept)) :
    kept.find? name = if name ∈ names then none else directory.find? name := by
  induction names generalizing directory with
  | nil =>
      cases done
      simp
  | cons first names ih =>
      rw [unlinkAll] at done
      split at done
      · cases done
      · rename_i remaining removed
        obtain ⟨-, -, rfl⟩ := Directory.unlink_eq_ok_iff.mp removed
        rw [ih done, Directory.find?_remove]
        by_cases isFirst : name = first
        · simp [isFirst]
        · simp [isFirst]

/-- The files that are kept are the first ones of the listing, sorted by name
from the last to the first. -/
theorem mem_listBackups_cleanup (positive : 1 ≤ retainCount)
    (done : cleanupOldBackups environment retainCount directory =
      (.ok (), kept)) :
    name ∈ kept.listBackups ↔
      name ∈ (newestFirst directory.listBackups).take retainCount.toNat := by
  rw [cleanupOldBackups, if_neg (by omega)] at done
  split at done
  · cases done
  · have found : kept.find? name = _ := find?_unlinkAll done
    have distinct : (newestFirst directory.listBackups).Nodup :=
      (newestFirst_perm _).nodup_iff.mpr Directory.listBackups_nodup
    have listed : name ∈ directory.listBackups ↔
        name ∈ (newestFirst directory.listBackups).take retainCount.toNat ∨
          name ∈ (newestFirst directory.listBackups).drop
            retainCount.toNat := by
      rw [← List.mem_append, List.take_append_drop,
        (newestFirst_perm _).mem_iff]
    have apart := List.disjoint_take_drop distinct (le_refl retainCount.toNat)
    by_cases dropped : name ∈ (newestFirst directory.listBackups).drop
        retainCount.toNat
    · rw [if_pos dropped] at found
      have notKept : name ∉ kept.listBackups := by
        rw [Directory.mem_listBackups]
        rintro ⟨⟨content, isFile⟩, -⟩
        rw [Directory.HoldsFile, found] at isFile
        cases isFile
      have notTaken : name ∉ (newestFirst directory.listBackups).take
          retainCount.toNat := fun taken => apart taken dropped
      exact iff_of_false notKept notTaken
    · rw [if_neg dropped] at found
      rw [Directory.mem_listBackups, Directory.isFile_congr found,
        ← Directory.mem_listBackups, listed]
      exact or_iff_left dropped

theorem coerceRetainCount_pos (value : PyValue) :
    1 ≤ coerceRetainCount value := by
  unfold coerceRetainCount defaultBackupRetainCount
  split
  · split
    all_goals omega
  · split
    · split
      all_goals omega
    · omega
  · omega

/-- At least one backup is retained, whatever is stored. -/
theorem resolveRetainCount_pos
    (resolved : resolveRetainCount environment = .ok retainCount) :
    1 ≤ retainCount := by
  unfold resolveRetainCount at resolved
  split at resolved
  · cases resolved
    decide
  · split at resolved
    · cases resolved
    · cases resolved
      decide
    · cases resolved
      exact coerceRetainCount_pos _

end Cleanup

section Retention

variable {Content : Type*}

/-- The backups of the directory once the new one has been created. -/
def BackupEnvironment.backupsWithNew (environment : BackupEnvironment Content)
    (directory : Directory Content) : List FileName :=
  (environment.backupPath :: directory.listBackups).dedup

/-- The new backup and each of the latest dated backups have fewer backups that
sort after them by name than are retained. -/
def NewestSortLast (environment : BackupEnvironment Content)
    (retainCount : Nat) (directory : Directory Content) : Prop :=
  rivalCount (environment.backupsWithNew directory) environment.backupPath <
      retainCount ∧
    ∀ day < dayLimit,
      AmongLatest (environment.backupsWithNew directory) retainCount day →
        rivalCount (environment.backupsWithNew directory) (datedName day) <
          retainCount

variable {tables : UnicodeTables} {repr : String → String}
  {environment : BackupEnvironment Content} {created directory : Directory Content}

/-- The listing after a successful creation. -/
theorem listBackups_created {result : String}
    (done : createBackupAndRunIntegrityCheck tables repr environment
      environment.backupPath directory = (.ok result, created)) :
    created.listBackups.Perm (environment.backupsWithNew directory) := by
  obtain ⟨content, same⟩ := find?_created done
  apply (List.perm_ext_iff_of_nodup Directory.listBackups_nodup
    (List.nodup_dedup _)).mpr
  intro name
  have isBackup : IsBackupName environment.backupPath :=
    isBackupName_nameOfDate _ _
  rw [List.mem_dedup, List.mem_cons, Directory.mem_listBackups,
    Directory.mem_listBackups]
  by_cases isNew : name = environment.backupPath
  · subst isNew
    have found := same _ (temporaryName_ne isBackup)
    rw [if_pos rfl] at found
    exact iff_of_true ⟨⟨content, found⟩, isBackup⟩ (Or.inl rfl)
  · rw [or_iff_right isNew]
    apply and_congr_left
    intro named
    have found := same name (temporaryName_ne named)
    rw [if_neg isNew] at found
    exact Directory.isFile_congr found

theorem rivalCount_congr {first second : List FileName}
    (same : first.Perm second) (name : FileName) :
    rivalCount first name = rivalCount second name :=
  (same.filter _).length_eq

theorem amongLatest_congr {first second : List FileName}
    (same : first.Perm second) (count day : Nat) :
    AmongLatest first count day ↔ AmongLatest second count day := by
  unfold AmongLatest
  simp only [same.mem_iff]

/-- What a successful run leaves in the directory. -/
theorem run_eq_ok {summary : BackupJobRunSummary} {retainCount : Int}
    (returned : (runBackupOnce tables repr environment directory).result =
      .ok summary)
    (resolved : resolveRetainCount environment = .ok retainCount) :
    summary.backupPath = environment.backupPath ∧
      ∃ result created,
        createBackupAndRunIntegrityCheck tables repr environment
          environment.backupPath directory = (.ok result, created) ∧
        cleanupOldBackups environment retainCount created =
          (.ok (), (runBackupOnce tables repr environment directory).directory)
          := by
  have notFailed : ∀ cause left,
      (failRun environment cause left).result ≠ .ok summary := by
    intro cause left impossible
    unfold failRun at impossible
    split at impossible
    all_goals cases impossible
  unfold runBackupOnce at returned ⊢
  dsimp only at returned ⊢
  split at returned
  · exact absurd returned (notFailed _ _)
  · rename_i result created creation
    rw [resolved] at returned
    dsimp only at returned
    split at returned
    · exact absurd returned (notFailed _ _)
    · rename_i kept cleaned
      cases returned
      refine ⟨rfl, result, created, creation, ?_⟩
      simp only [resolved, cleaned]

theorem run_directory_of_error {cause : RaisedException}
    {left : Directory Content}
    (failed : createBackupAndRunIntegrityCheck tables repr environment
      environment.backupPath directory = (.error cause, left)) :
    (runBackupOnce tables repr environment directory).directory = left := by
  unfold runBackupOnce failRun
  simp only [failed]
  split
  all_goals rfl

end Retention

/-- For every directory, settings and course of the steps: a run that returns
keeps its own backup and exactly the latest dated ones if and only if these sort
last; and a run that fails in creating the backup leaves every backup as it was
and no temporary file if and only if it cleans up. -/
theorem backup_retention_iff {Content : Type*} (tables : UnicodeTables)
    (repr : String → String) (environment : BackupEnvironment Content)
    (directory : Directory Content) :
    (∀ summary retainCount,
      (runBackupOnce tables repr environment directory).result = .ok summary →
        resolveRetainCount environment = .ok retainCount →
          ((summary.backupPath ∈ (runBackupOnce tables repr environment
                directory).directory.listBackups ∧
              ∀ day < dayLimit, datedName day ∈ (runBackupOnce tables repr
                  environment directory).directory.listBackups ↔
                AmongLatest (environment.backupsWithNew directory)
                  retainCount.toNat day) ↔
            NewestSortLast environment retainCount.toNat directory)) ∧
    ∀ cause left,
      createBackupAndRunIntegrityCheck tables repr environment
          environment.backupPath directory = (.error cause, left) →
        (((∀ name content, IsBackupName name →
              directory.HoldsFile name content →
                (runBackupOnce tables repr environment
                  directory).directory.HoldsFile name content) ∧
            ¬ (runBackupOnce tables repr environment
              directory).directory.IsFile
                (temporaryName environment.backupPath)) ↔
          CleansUp environment environment.backupPath directory) := by
  constructor
  · intro summary retainCount returned resolved
    obtain ⟨samePath, result, created, creation, cleaned⟩ :=
      run_eq_ok returned resolved
    have listing := listBackups_created creation
    have isListed : environment.backupPath ∈ created.listBackups :=
      listing.mem_iff.mpr (List.mem_dedup.mpr List.mem_cons_self)
    have kept : ∀ name, name ∈ (runBackupOnce tables repr environment
        directory).directory.listBackups ↔ _ := fun name =>
      mem_listBackups_cleanup (resolveRetainCount_pos resolved) cleaned
    have exactly := @keepsLatest_iff _ _ retainCount.toNat
      Directory.listBackups_nodup isListed
    unfold NewestSortLast
    simp only [rivalCount_congr listing, amongLatest_congr listing] at exactly
    simp only [kept, samePath, exactly]
  · intro cause left failed
    rw [run_directory_of_error failed, ← isFile_temporary_iff failed]
    apply and_iff_right
    intro name content isBackup held
    rw [Directory.HoldsFile,
      find?_notCreated failed (temporaryName_ne isBackup)]
    exact held

/-- A run at the start of 2025 that retains one backup. -/
def sampleBackupRun : BackupEnvironment String where
  now := sampleTime
  sourceDbPath := "tca.db"
  backupDir := fileName "backups/".toList
  sourceExists := true
  mkdirError := none
  staleUnlinkError := none
  copy := .copied "new"
  integrityRow := .ok (.tuple [some "ok"])
  replaceError := none
  leftoverUnlinkError := none
  settings := [⟨"backup.retain_count", .ok (.int 1)⟩]
  settingsUnavailable := false
  listingError := none
  backupUnlinkError _ := none
  notificationError := none

/-- A directory with a copy that was made by hand. -/
def manualBackup : Directory String where
  rows := [⟨fileName "tca-manual.db".toList, .file "manual"⟩]
  uniqueKeys := by decide

/-- The copy sorts after the new backup, which is deleted. -/
theorem manual_backup_displaces_new :
    resolveRetainCount sampleBackupRun = .ok 1 ∧
      (runBackupOnce UnicodeTables.asciiTables id sampleBackupRun manualBackup).result =
        .ok ⟨fileName "tca-20250101.db".toList, "ok"⟩ ∧
      (runBackupOnce UnicodeTables.asciiTables id sampleBackupRun
        manualBackup).directory.listBackups =
          [fileName "tca-manual.db".toList] ∧
      sampleBackupRun.backupPath ∉ (runBackupOnce UnicodeTables.asciiTables id
        sampleBackupRun manualBackup).directory.listBackups := by
  refine ⟨?_, ?_, ?_, ?_⟩
  all_goals decide

end Tca
