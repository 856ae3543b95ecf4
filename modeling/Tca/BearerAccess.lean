import Tca.BootstrapToken
import Tca.SigningKeys

/-!
# Who gets in with the bootstrap token

The API lets a request in whose bearer token has the stored digest, and the
login form opens a session for such a token.  The file follows the startups of a
fresh installation to the requests behind them: the token that the one
successful startup has written to its file opens the API and the UI, nothing
with another digest opens either, and if no startup has succeeded nobody gets
in.
-/

namespace Tca

open GuardedRuns InterleavedCalls

section Requests

-- `hashlib.sha256(…).digest()`; nothing is assumed of it.
variable (sha256 : List UInt8 → List UInt8)

def computeTokenSha256Digest (token : String) : String :=
  String.ofList (hexDigits (sha256 (encodeUtf8 token.toList)))

/-- `require_bearer_auth`, from the credentials in the header. -/
def requireBearerAuth (settings : List SettingRow)
    (credentials : Option String) : Except UiAuthError Unit :=
  match credentials.filter (· ≠ "") with
  | none => .error .httpException
  | some credentials =>
      match getSetting settings bootstrapBearerTokenDigestKey with
      | .error error => .error (.raised error)
      | .ok (some (.str storedDigest)) =>
          match compareDigest storedDigest.toList
              (computeTokenSha256Digest sha256 credentials).toList with
          | .error error => .error (.raised error)
          | .ok true => .ok ()
          | .ok false => .error .httpException
      | .ok _ => .error .httpException

/-- The two texts have one digest. -/
def SameDigest (first second : String) : Prop :=
  sha256 (encodeUtf8 first.toList) = sha256 (encodeUtf8 second.toList)

instance (first second : String) : Decidable (SameDigest sha256 first second) :=
  inferInstanceAs (Decidable (_ = _))

variable {sha256}

theorem computeTokenSha256Digest_eq_iff {first second : String} :
    computeTokenSha256Digest sha256 first =
        computeTokenSha256Digest sha256 second ↔
      SameDigest sha256 first second := by
  unfold computeTokenSha256Digest SameDigest
  constructor
  · intro same
    have digits := congrArg String.toList same
    rw [String.toList_ofList, String.toList_ofList] at digits
    have parsed := bytesFromHex_hexDigits
      (sha256 (encodeUtf8 first.toList))
    rw [digits, bytesFromHex_hexDigits] at parsed
    exact (Except.ok.inj parsed).symm
  · intro same
    rw [same]

/-- Two digests can be compared. -/
theorem compareDigest_digests (first second : String) :
    compareDigest (computeTokenSha256Digest sha256 first).toList
        (computeTokenSha256Digest sha256 second).toList =
      .ok (decide (SameDigest sha256 first second)) := by
  have ascii : ((computeTokenSha256Digest sha256 first).toList ++
      (computeTokenSha256Digest sha256 second).toList).all
        (·.toNat < 128) = true := by
    unfold computeTokenSha256Digest
    rw [List.all_eq_true, String.toList_ofList, String.toList_ofList]
    intro char member
    apply decide_eq_true
    rcases List.mem_append.mp member with isDigit | isDigit
    · exact hexDigits_ascii isDigit
    · exact hexDigits_ascii isDigit
  rw [compareDigest, if_pos ascii]
  apply congrArg Except.ok
  rw [Bool.eq_iff_iff, beq_iff_eq, decide_eq_true_iff,
    ← computeTokenSha256Digest_eq_iff, String.toList_inj]

variable {settings : List SettingRow}

/-- Without a stored digest nobody is let in. -/
theorem requireBearerAuth_missing
    (missing : getSetting settings bootstrapBearerTokenDigestKey = .ok none)
    (credentials : Option String) :
    requireBearerAuth sha256 settings credentials = .error .httpException := by
  unfold requireBearerAuth
  rw [missing]
  cases credentials.filter (· ≠ "") <;> rfl

/-- With the digest of a token stored, its digest lets in. -/
theorem requireBearerAuth_stored {token : String}
    (stored : getSetting settings bootstrapBearerTokenDigestKey =
      .ok (some (.str (computeTokenSha256Digest sha256 token))))
    (credentials : String) :
    requireBearerAuth sha256 settings (some credentials) =
      if credentials ≠ "" ∧ SameDigest sha256 token credentials then .ok ()
      else .error .httpException := by
  unfold requireBearerAuth
  rw [stored]
  by_cases isEmpty : credentials = ""
  · simp [isEmpty, Option.filter]
  · by_cases same : SameDigest sha256 token credentials
    · simp [isEmpty, Option.filter, compareDigest_digests, same]
    · simp [isEmpty, Option.filter, compareDigest_digests, same]

variable (hmacSha256 : List UInt8 → List UInt8 → List UInt8)

/-- Without a stored digest no session is opened. -/
theorem loginSubmit_missing
    (missing : getSetting settings bootstrapBearerTokenDigestKey = .ok none)
    (signingKey : Option (List UInt8)) (form : Option String) (time : ℚ) :
    ∃ errorMessage, loginSubmit hmacSha256 (computeTokenSha256Digest sha256)
      settings signingKey form time = .loginPage errorMessage := by
  unfold bootstrapBearerTokenDigestKey at missing
  unfold loginSubmit
  rw [missing]
  cases form.filter (pythonStrip · ≠ "") with
  | none => exact ⟨_, rfl⟩
  | some token => exact ⟨_, rfl⟩

/-- The answer of `login_submit` to a token that it accepts. -/
def openSession (signingKey : List UInt8) (time : ℚ) : LoginResponse :=
  match createSignedCookieValue hmacSha256 signingKey
      (PyFloat.finite time).truncate with
  | .ok cookieValue => .redirect cookieValue
  | .error error => .raised error

/-- With the digest of a token stored, a form opens a session if what is left
of its text without white space around it has this digest. -/
theorem loginSubmit_stored {token : String}
    (stored : getSetting settings bootstrapBearerTokenDigestKey =
      .ok (some (.str (computeTokenSha256Digest sha256 token))))
    (signingKey : List UInt8) (form : String) (time : ℚ) :
    loginSubmit hmacSha256 (computeTokenSha256Digest sha256) settings
        (some signingKey) (some form) time =
      if pythonStrip form = "" then .loginPage "Token is required."
      else if SameDigest sha256 (pythonStrip form) token then
        openSession hmacSha256 signingKey time
      else .loginPage "Invalid token." := by
  unfold bootstrapBearerTokenDigestKey at stored
  unfold loginSubmit
  rw [stored]
  by_cases isEmpty : pythonStrip form = ""
  · simp [isEmpty, Option.filter]
  · by_cases same : SameDigest sha256 (pythonStrip form) token
    · simp [isEmpty, Option.filter, same, computeTokenSha256Digest_eq_iff]
      rfl
    · simp [isEmpty, Option.filter, same, computeTokenSha256Digest_eq_iff]

end Requests

section Drawing

/-- A character of the alphabet of `base64.urlsafe_b64encode`. -/
def isUrlSafe (char : Char) : Bool :=
  48 ≤ char.toNat && char.toNat ≤ 57 || 65 ≤ char.toNat && char.toNat ≤ 90 ||
    97 ≤ char.toNat && char.toNat ≤ 122 || char.toNat == 45 ||
    char.toNat == 95

/-- A text that `secrets.token_urlsafe` may return. -/
def IsUrlSafe (token : String) : Prop :=
  token ≠ "" ∧ token.toList.all isUrlSafe = true

instance (token : String) : Decidable (IsUrlSafe token) :=
  inferInstanceAs (Decidable (_ ∧ _))

theorem isPythonSpace_of_isUrlSafe {char : Char}
    (safe : isUrlSafe char = true) : isPythonSpace char = false := by
  unfold isUrlSafe at safe
  unfold isPythonSpace
  simp only [Bool.or_eq_true, Bool.and_eq_true, decide_eq_true_eq,
    beq_iff_eq] at safe
  apply decide_eq_false
  simp only [List.mem_cons, List.not_mem_nil, or_false]
  omega

theorem dropWhile_isPythonSpace_of_safe {text : List Char}
    (safe : text.all isUrlSafe = true) :
    text.dropWhile isPythonSpace = text := by
  cases text with
  | nil => rfl
  | cons char text =>
      have first : isUrlSafe char = true :=
        List.all_eq_true.mp safe char List.mem_cons_self
      exact List.dropWhile_cons_of_neg (by
        simp [isPythonSpace_of_isUrlSafe first])

/-- The text of the file, pasted with its line end, is the token. -/
theorem pythonStrip_tokenText {token : String} (safe : IsUrlSafe token) :
    pythonStrip (tokenText token) = token := by
  obtain ⟨notEmpty, allSafe⟩ := safe
  have reversed : token.toList.reverse.all isUrlSafe = true := by
    rwa [List.all_reverse]
  have letters : token.toList ≠ [] := fun none =>
    notEmpty (String.toList_inj.mp none)
  obtain ⟨char, text, isCons⟩ := List.exists_cons_of_ne_nil letters
  have visible : isPythonSpace char = false := by
    apply isPythonSpace_of_isUrlSafe
    apply List.all_eq_true.mp allSafe
    rw [isCons]
    exact List.mem_cons_self
  have leading : (tokenText token).toList.dropWhile isPythonSpace =
      token.toList ++ ['\n'] := by
    rw [tokenText, String.toList_append, isCons]
    exact List.dropWhile_cons_of_neg (by simp [visible])
  have lineEnd : isPythonSpace '\n' = true := by decide
  unfold pythonStrip
  rw [leading, List.reverse_append, List.reverse_singleton,
    List.singleton_append, List.dropWhile_cons_of_pos lineEnd,
    dropWhile_isPythonSpace_of_safe reversed, List.reverse_reverse,
    String.ofList_toList]

/-- Every draw of the startups is a text of `secrets.token_urlsafe`. -/
def DrawsUrlSafe : BootstrapEvent → Prop
  | .resume _ input => IsUrlSafe input.drawn
  | _ => True

instance : DecidablePred DrawsUrlSafe
  | .start _ => .isTrue trivial
  | .resume _ input => inferInstanceAs (Decidable (IsUrlSafe input.drawn))
  | .abandon _ => .isTrue trivial

/-- The token that a call has drawn, if it has, is URL-safe. -/
def HoldsUrlSafe : Progress BootstrapPhase BootstrapResult → Prop
  | .suspended (.create token) => IsUrlSafe token
  | progress => ∀ token, ownToken? progress = some token → IsUrlSafe token

variable {digestOf : String → String} {store : BootstrapStore}

theorem fileStep_holds {input : BootstrapInput} {token : String}
    {succeeded : Progress BootstrapPhase BootstrapResult × Option String}
    {left : Nat → Option String}
    (safe : IsUrlSafe token) (holds : HoldsUrlSafe succeeded.1) :
    HoldsUrlSafe (fileStep store input token succeeded left).1 := by
  unfold fileStep
  split
  · exact holds
  · intro other own
    obtain rfl := Option.some.inj own
    exact safe

theorem bootstrapAdvance_holds (phase : BootstrapPhase) {input : BootstrapInput}
    (drawn : IsUrlSafe input.drawn)
    (holds : HoldsUrlSafe (.suspended phase)) :
    HoldsUrlSafe (bootstrapAdvance digestOf phase input store).1 := by
  have same : ∀ {token : String}, IsUrlSafe token →
      ∀ other, some token = some other → IsUrlSafe other := by
    rintro token safe other own
    obtain rfl := Option.some.inj own
    exact safe
  cases phase with
  | read =>
      unfold bootstrapAdvance
      dsimp only
      split
      · exact fun _ own => by cases own
      · exact fun _ own => by cases own
      · exact drawn
  | create token =>
      unfold bootstrapAdvance
      dsimp only
      split
      · exact same holds
      · exact fun _ own => by cases own
      · exact fun _ own => by cases own
  | makeDirectory token =>
      have safe := holds token rfl
      exact fileStep_holds safe (same safe)
  | openFile token =>
      have safe := holds token rfl
      exact fileStep_holds safe (same safe)
  | writeText token =>
      have safe := holds token rfl
      exact fileStep_holds safe (same safe)
  | changeMode token =>
      have safe := holds token rfl
      exact fileStep_holds safe (same safe)
  | rollBack token error => exact same (holds token rfl)

/-- A token that was generated is one of those that were drawn. -/
theorem always_holdsUrlSafe (initial : BootstrapStore)
    {events : List BootstrapEvent}
    (draws : ∀ event ∈ events, DrawsUrlSafe event) :
    Always (bootstrapCalls digestOf).step
      (Protocol.Annotated (fun _ => True) fun progress _ =>
        HoldsUrlSafe progress) events
      (System.idle initial) := by
  refine always_of_guarded (bootstrapCalls digestOf).step
    ((bootstrapCalls digestOf).annotated_step ?_ ?_ ?_ ?_)
    ⟨trivial, by simp [System.idle]⟩
    (@guarded_of_forall_mem _ _ (bootstrapCalls digestOf).step
      (Protocol.Permits (fun _ => True) fun _ input _ => IsUrlSafe input.drawn)
      events ?_ _)
  · exact fun _ _ _ _ _ own => by cases own
  · exact fun _ _ own => by cases own
  · intro phase input store _ holds drawn
    exact ⟨trivial, bootstrapAdvance_holds phase drawn holds⟩
  · exact fun _ _ _ _ _ _ _ => id
  · intro event member system
    have drawn := draws event member
    cases event with
    | start request => trivial
    | resume call input => exact fun _ _ => drawn
    | abandon call => trivial

end Drawing

section Access

variable {tables : NumeralTables}
  {hmacSha256 : List UInt8 → List UInt8 → List UInt8}

/-- A session is accepted for as long as its cookie is fresh. -/
theorem requireUiAuth_opened {signingKey : List UInt8} {issued time : ℚ}
    {cookieValue : String}
    (opened : openSession hmacSha256 signingKey issued =
      .redirect cookieValue) :
    requireUiAuth tables hmacSha256 (.error .httpException) (some signingKey)
        (some cookieValue) time =
      if (PyFloat.finite time).truncate - (PyFloat.finite issued).truncate ≤
        sessionCookieMaxAgeSeconds then .ok ()
      else .error .uiAuthRedirectError := by
  have created : createSignedCookieValue hmacSha256 signingKey
      (PyFloat.finite issued).truncate = .ok cookieValue := by
    unfold openSession at opened
    split at opened
    · rename_i created
      cases opened
      exact created
    · cases opened
  rw [requireUiAuth, verify_created created]
  by_cases fresh : (PyFloat.finite time).truncate -
      (PyFloat.finite issued).truncate ≤ sessionCookieMaxAgeSeconds
  · simp [fresh]
  · simp [fresh]

/-- The token opens everything.  Let any number of startups run on a fresh
installation, step by step in any interleaving and with failures of the file
anywhere, until all have ended, and let other settings be written afterwards.
If a startup has returned `True`, the file has its token.  The API accepts the
tokens that have the digest of this one and turns all others away, and so does
the login form, apart from white space around a token, so that the whole text
of the file can be pasted.  The UI accepts the token, and a session for a day.
If no startup has returned `True`, neither the API nor the login form lets
anyone in. -/
theorem bootstrap_token_opens (tables : NumeralTables)
    (sha256 : List UInt8 → List UInt8)
    (hmacSha256 : List UInt8 → List UInt8 → List UInt8)
    {initial : BootstrapStore}
    (missing : SettingMissing initial.settings bootstrapBearerTokenDigestKey)
    {events : List BootstrapEvent}
    (draws : ∀ event ∈ events, DrawsUrlSafe event)
    (finished : ∀ call ∈ (run (bootstrapCalls
      (computeTokenSha256Digest sha256)).step events
        (System.idle initial)).calls, call.isEnded) :
    let digestOf := computeTokenSha256Digest sha256
    let after := run (bootstrapCalls digestOf).step events (System.idle initial)
    ∀ settings, getSetting settings bootstrapBearerTokenDigestKey =
        getSetting after.store.settings bootstrapBearerTokenDigestKey →
      (∀ token, .ended (.generated token) ∈ after.calls →
        after.store.file = some (tokenText token) ∧
        (∀ credentials,
          requireBearerAuth sha256 settings (some credentials) =
            if credentials ≠ "" ∧ SameDigest sha256 token credentials then
              .ok ()
            else .error .httpException) ∧
        (∀ signingKey form time,
          loginSubmit hmacSha256 digestOf settings (some signingKey)
              (some form) time =
            if pythonStrip form = "" then .loginPage "Token is required."
            else if SameDigest sha256 (pythonStrip form) token then
              openSession hmacSha256 signingKey time
            else .loginPage "Invalid token.") ∧
        (∀ signingKey time,
          loginSubmit hmacSha256 digestOf settings (some signingKey)
              (some (tokenText token)) time =
            openSession hmacSha256 signingKey time) ∧
        (∀ signingKey cookie time,
          requireUiAuth tables hmacSha256
              (requireBearerAuth sha256 settings (some token)) signingKey cookie
              time = .ok ()) ∧
        ∀ signingKey issued cookieValue,
          openSession hmacSha256 signingKey issued = .redirect cookieValue →
          ∀ time, requireUiAuth tables hmacSha256
              (requireBearerAuth sha256 settings none) (some signingKey)
              (some cookieValue) time =
            if (PyFloat.finite time).truncate -
                (PyFloat.finite issued).truncate ≤ sessionCookieMaxAgeSeconds
            then .ok ()
            else .error .uiAuthRedirectError) ∧
      ((∀ token, .ended (.generated token) ∉ after.calls) →
        (∀ credentials, requireBearerAuth sha256 settings credentials =
          .error .httpException) ∧
        ∀ signingKey form time, ∃ errorMessage,
          loginSubmit hmacSha256 digestOf settings signingKey form time =
            .loginPage errorMessage) := by
  intro digestOf after settings unchanged
  have claims : TokenClaims digestOf initial.settings after :=
    always_of_preserved _ (TokenClaims.step missing) events
      (.free rfl (by simp [System.idle])) events List.prefix_rfl
  rcases claims.finished finished with ⟨untouched, nobody⟩ |
    ⟨call, token, found, written, file, only⟩
  · have nothing : getSetting settings bootstrapBearerTokenDigestKey =
        .ok none := by
      rw [unchanged, untouched]
      exact getSetting_of_missing missing
    refine ⟨fun token generated => absurd generated (nobody token), fun _ => ?_⟩
    exact ⟨requireBearerAuth_missing nothing,
      loginSubmit_missing hmacSha256 nothing⟩
  · have generated := List.mem_of_getElem? found
    refine ⟨fun other otherGenerated => ?_, fun none => absurd generated
      (none token)⟩
    have same : other = token := by
      obtain ⟨index, foundOther⟩ := List.mem_iff_getElem?.mp otherGenerated
      obtain rfl := only index other foundOther
      cases found.symm.trans foundOther
      rfl
    subst same
    have safe : IsUrlSafe other :=
      (always_holdsUrlSafe initial draws events List.prefix_rfl).2 _ generated
        other rfl
    have stored : getSetting settings bootstrapBearerTokenDigestKey =
        .ok (some (.str (digestOf other))) := by
      rw [unchanged, written]
      exact getSetting_created missing rfl
    have own : SameDigest sha256 other other := rfl
    have login := loginSubmit_stored hmacSha256 stored
    refine ⟨file, requireBearerAuth_stored stored, login,
      fun signingKey time => ?_, fun signingKey cookie time => ?_,
      fun signingKey issued cookieValue opened time => ?_⟩
    · rw [login, pythonStrip_tokenText safe, if_neg safe.1, if_pos own]
    · rw [requireBearerAuth_stored stored, if_pos ⟨safe.1, own⟩]
      rfl
    · exact requireUiAuth_opened opened

end Access

/-- SHA-256 of the texts "a" and "b". -/
def sampleTokenSha256 (bytes : List UInt8) : List UInt8 :=
  if bytes = [97] then
    [202, 151, 129, 18, 202, 27, 189, 202, 250, 194, 49, 179, 154, 35, 220, 77,
      167, 134, 239, 248, 20, 124, 78, 114, 185, 128, 119, 133, 175, 238, 72,
      187]
  else
    [62, 35, 232, 22, 0, 57, 89, 74, 51, 137, 79, 101, 100, 225, 177, 52, 139,
      189, 122, 0, 136, 212, 44, 74, 203, 115, 238, 174, 213, 156, 0, 157]

/-- The disk is full for the first startup, and the second one succeeds. -/
def sampleFullDisk : List BootstrapEvent :=
  [.start (), .start (), .resume 0 ⟨"a", none⟩, .resume 0 ⟨"a", none⟩,
    .resume 0 ⟨"a", none⟩,
    .resume 0 ⟨"a", some ⟨"No space left on device", 0⟩⟩,
    .resume 0 ⟨"a", none⟩, .resume 1 ⟨"b", none⟩, .resume 1 ⟨"b", none⟩,
    .resume 1 ⟨"b", none⟩, .resume 1 ⟨"b", none⟩, .resume 1 ⟨"b", none⟩,
    .resume 1 ⟨"b", none⟩]

theorem bootstrap_token_opens_sample :
    let settings := (run (bootstrapCalls
      (computeTokenSha256Digest sampleTokenSha256)).step sampleFullDisk
        (System.idle ⟨[], none⟩)).store.settings
    requireBearerAuth sampleTokenSha256 settings (some "b") = .ok () ∧
      requireBearerAuth sampleTokenSha256 settings (some "a") =
        .error .httpException := by
  intro settings
  have calls : (run (bootstrapCalls
      (computeTokenSha256Digest sampleTokenSha256)).step sampleFullDisk
        (System.idle ⟨[], none⟩)).calls =
      [.ended (.failed "a" (.osError "No space left on device")),
        .ended (.generated "b")] := by
    decide
  obtain ⟨opens, -⟩ := bootstrap_token_opens asciiNumerals sampleTokenSha256
    sampleHmac (fun _ member => by cases member) (by decide)
    (by rw [calls]; decide) settings rfl
  obtain ⟨-, api, -⟩ := opens "b" (by rw [calls]; decide)
  rw [api, api]
  decide

end Tca
