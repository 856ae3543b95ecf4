import Tca.PythonIntegers

/-!
# Signed session cookies

A cookie is a time and, after a full stop, the signature of the time in
hexadecimal.  Whoever sends the cookie chooses both texts.  The check accepts
exactly the cookies that are signed with the key and fresh, but it raises on a
signature with a character outside ASCII, which the comparison does not take.
-/

namespace Tca

open PythonTexts

def sessionCookieMaxAgeSeconds : Int :=
  86400

/-- `bytes.hex`. -/
def hexDigits (bytes : List UInt8) : List Char :=
  bytes.flatMap fun byte =>
    [Nat.digitChar (byte.toNat / 16), Nat.digitChar (byte.toNat % 16)]

/-- `hmac.compare_digest` of two texts. -/
def compareDigest (first second : List Char) : Except PyError Bool :=
  if (first ++ second).all (·.toNat < 128) then .ok (first == second)
  else
    .error (.typeError
      "comparing strings with non-ASCII characters is not supported")

/-- How a request for a page of the UI is turned away. -/
inductive UiAuthError where
  | httpException
  | uiAuthRedirectError
  | raised (error : PyError)
  deriving DecidableEq

section Cookies

-- `hmac.new(key, message, "sha256").digest()`; nothing is assumed of it.
variable (tables : NumeralTables)
  (hmacSha256 : List UInt8 → List UInt8 → List UInt8)

/-- The signature of a time, `hmac.new(…).hexdigest()`. -/
def cookieSignature (signingKey : List UInt8) (timestamp : List Char) :
    List Char :=
  hexDigits (hmacSha256 signingKey (String.ofList timestamp).toUTF8.toList)

def createSignedCookieValue (signingKey : List UInt8) (issuedAt : Int) :
    Except PyError String := do
  let timestamp ← pythonStr issuedAt
  return String.ofList (timestamp.toList ++
    '.' :: cookieSignature hmacSha256 signingKey timestamp.toList)

/-- `time` is what `time.time()` returns. -/
def verifySignedCookieValue (signingKey : List UInt8) (cookieValue : String)
    (maxAgeSeconds : Int) (time : ℚ) : Except PyError Bool :=
  match partition '.' cookieValue.toList with
  | (_, none) => .ok false
  | (timestamp, some presentedSignature) =>
      match tables.int (String.ofList timestamp) with
      | .error (.valueError _) => .ok false
      | .error error => .error error
      | .ok issuedAt => do
          let expectedSignature :=
            cookieSignature hmacSha256 signingKey timestamp
          if !(← compareDigest expectedSignature presentedSignature) then
            return false
          let age := (PyFloat.finite time).truncate - issuedAt
          return decide (age ≤ maxAgeSeconds)

/-- `require_ui_auth`, from what the check of the bearer token does. -/
def requireUiAuth (bearer : Except UiAuthError Unit)
    (signingKey : Option (List UInt8)) (cookie : Option String) (time : ℚ) :
    Except UiAuthError Unit :=
  match bearer with
  | .ok () => .ok ()
  | .error .httpException =>
      match signingKey with
      | none =>
          .error (.raised (.typeError
            "Missing app cookie signing key: app.state.cookie_signing_key."))
      | some signingKey =>
          match cookie with
          | none => .error .uiAuthRedirectError
          | some cookieValue =>
              match verifySignedCookieValue tables hmacSha256 signingKey
                  cookieValue sessionCookieMaxAgeSeconds time with
              | .ok true => .ok ()
              | .ok false => .error .uiAuthRedirectError
              | .error error => .error (.raised error)
  | .error error => .error error

/-- The text is signed and names a time that is not too long ago. -/
def IsFreshCookie (signingKey : List UInt8) (cookieValue : String)
    (maxAgeSeconds : Int) (time : ℚ) : Prop :=
  ∃ timestamp issuedAt, cookieValue.toList =
      timestamp ++ '.' :: cookieSignature hmacSha256 signingKey timestamp ∧
    tables.int (String.ofList timestamp) = .ok issuedAt ∧
    (PyFloat.finite time).truncate - issuedAt ≤ maxAgeSeconds

/-- The text names a time, and what follows the first full stop is not ASCII. -/
def HasUnreadableSignature (cookieValue : String) : Prop :=
  ∃ timestamp signature issuedAt,
    cookieValue.toList = timestamp ++ '.' :: signature ∧
      tables.int (String.ofList timestamp) = .ok issuedAt ∧
      ∃ char ∈ signature, 128 ≤ char.toNat

end Cookies

section Signatures

theorem digitChar_ascii {digit : Nat} (small : digit < 16) :
    digit.digitChar.toNat < 128 := by
  have allDigits : ∀ digit < 16, digit.digitChar.toNat < 128 := by decide
  exact allDigits digit small

/-- Hexadecimal digits are ASCII. -/
theorem hexDigits_ascii {bytes : List UInt8} {char : Char}
    (member : char ∈ hexDigits bytes) : char.toNat < 128 := by
  obtain ⟨byte, -, isDigit⟩ := List.mem_flatMap.mp member
  have small := byte.toNat_lt
  simp only [List.mem_cons, List.not_mem_nil, or_false] at isDigit
  rcases isDigit with rfl | rfl
  · apply digitChar_ascii
    omega
  · apply digitChar_ascii
    omega

variable {hmacSha256 : List UInt8 → List UInt8 → List UInt8}
  {signingKey : List UInt8} {timestamp signature : List Char}

theorem compareDigest_of_ascii
    (ascii : ∀ char ∈ signature, char.toNat < 128) :
    compareDigest (cookieSignature hmacSha256 signingKey timestamp) signature =
      .ok (cookieSignature hmacSha256 signingKey timestamp == signature) := by
  apply if_pos
  rw [List.all_eq_true]
  intro char member
  apply decide_eq_true
  rcases List.mem_append.mp member with expected | presented
  · exact hexDigits_ascii expected
  · exact ascii char presented

theorem compareDigest_self :
    compareDigest (cookieSignature hmacSha256 signingKey timestamp)
      (cookieSignature hmacSha256 signingKey timestamp) = .ok true := by
  have ascii : ∀ char ∈ cookieSignature hmacSha256 signingKey timestamp,
      char.toNat < 128 := by
    intro char member
    exact hexDigits_ascii member
  rw [compareDigest_of_ascii ascii, beq_self_eq_true]

theorem compareDigest_of_not_ascii {first : List Char} {char : Char}
    (member : char ∈ signature) (high : 128 ≤ char.toNat) :
    compareDigest first signature = .error (.typeError
      "comparing strings with non-ASCII characters is not supported") := by
  apply if_neg
  rw [List.all_eq_true]
  intro ascii
  have low := of_decide_eq_true (ascii char (List.mem_append_right _ member))
  omega

end Signatures

section Checking

variable {tables : NumeralTables}
  {hmacSha256 : List UInt8 → List UInt8 → List UInt8}
  {signingKey : List UInt8} {cookieValue : String} {maxAgeSeconds : Int}
  {time : ℚ} {timestamp signature : List Char} {issuedAt : Int}

/-- The full stop that ends a time is the first one of the cookie. -/
theorem partition_of_int
    (cookie : cookieValue.toList = timestamp ++ '.' :: signature)
    (read : tables.int (String.ofList timestamp) = .ok issuedAt) :
    partition '.' cookieValue.toList = (timestamp, some signature) := by
  rw [cookie]
  apply partition_append
  have absent := notMem_of_int read
  rwa [String.toList_ofList] at absent

theorem verify_of_int
    (cookie : cookieValue.toList = timestamp ++ '.' :: signature)
    (read : tables.int (String.ofList timestamp) = .ok issuedAt) :
    verifySignedCookieValue tables hmacSha256 signingKey cookieValue
        maxAgeSeconds time =
      (compareDigest (cookieSignature hmacSha256 signingKey timestamp)
        signature).map fun same => same &&
          decide ((PyFloat.finite time).truncate - issuedAt ≤
            maxAgeSeconds) := by
  rw [verifySignedCookieValue, partition_of_int cookie read]
  simp only [read]
  cases compareDigest (cookieSignature hmacSha256 signingKey timestamp)
      signature with
  | error error => rfl
  | ok same => cases same <;> rfl

theorem verify_of_unreadable
    (unreadable : HasUnreadableSignature tables cookieValue) :
    verifySignedCookieValue tables hmacSha256 signingKey cookieValue
        maxAgeSeconds time =
      .error (.typeError
        "comparing strings with non-ASCII characters is not supported") := by
  obtain ⟨timestamp, signature, issuedAt, cookie, read, char, member, high⟩ :=
    unreadable
  rw [verify_of_int cookie read, compareDigest_of_not_ascii member high]
  rfl

/-- A cookie whose first part is not a time, or that has one part, is not
signed. -/
theorem verify_of_no_time
    (noTime : ∀ timestamp signature issuedAt,
      cookieValue.toList = timestamp ++ '.' :: signature →
        tables.int (String.ofList timestamp) ≠ .ok issuedAt) :
    verifySignedCookieValue tables hmacSha256 signingKey cookieValue
      maxAgeSeconds time = .ok false := by
  rw [verifySignedCookieValue]
  rcases partition_cases '.' cookieValue.toList with ⟨-, whole⟩ |
    ⟨timestamp, signature, -, cookie, whole⟩
  · rw [whole]
  · rw [whole]
    cases read : tables.int (String.ofList timestamp) with
    | ok issuedAt =>
        exact absurd read (noTime timestamp signature issuedAt cookie)
    | error error =>
        obtain ⟨message, rfl⟩ := int_error read
        simp only [read]

theorem verify_of_readable
    (readable : ¬ HasUnreadableSignature tables cookieValue) :
    ∃ accepted, verifySignedCookieValue tables hmacSha256 signingKey
        cookieValue maxAgeSeconds time = .ok accepted ∧
      (accepted = true ↔ IsFreshCookie tables hmacSha256 signingKey
        cookieValue maxAgeSeconds time) := by
  by_cases hasTime : ∃ timestamp signature issuedAt,
      cookieValue.toList = timestamp ++ '.' :: signature ∧
        tables.int (String.ofList timestamp) = .ok issuedAt
  · obtain ⟨timestamp, signature, issuedAt, cookie, read⟩ := hasTime
    have ascii : ∀ char ∈ signature, char.toNat < 128 := by
      intro char member
      by_contra high
      exact readable ⟨timestamp, signature, issuedAt, cookie, read, char,
        member, by omega⟩
    rw [verify_of_int cookie read, compareDigest_of_ascii ascii]
    refine ⟨_, rfl, ?_⟩
    rw [Bool.and_eq_true, beq_iff_eq, decide_eq_true_iff]
    constructor
    · rintro ⟨rfl, fresh⟩
      exact ⟨timestamp, issuedAt, cookie, read, fresh⟩
    · rintro ⟨otherTimestamp, otherIssuedAt, otherCookie, otherRead, fresh⟩
      have parted := partition_of_int otherCookie otherRead
      rw [partition_of_int cookie read] at parted
      cases parted
      rw [read] at otherRead
      cases otherRead
      exact ⟨rfl, fresh⟩
  · refine ⟨false, ?_, ?_⟩
    · apply verify_of_no_time
      intro timestamp signature issuedAt cookie read
      exact hasTime ⟨timestamp, signature, issuedAt, cookie, read⟩
    · constructor
      · intro impossible
        cases impossible
      · rintro ⟨timestamp, issuedAt, cookie, read, -⟩
        exact absurd ⟨timestamp, _, issuedAt, cookie, read⟩ hasTime

/-- A cookie that was created is accepted until it expires. -/
theorem verify_created
    (created : createSignedCookieValue hmacSha256 signingKey issuedAt =
      .ok cookieValue) :
    verifySignedCookieValue tables hmacSha256 signingKey cookieValue
        maxAgeSeconds time =
      .ok (decide ((PyFloat.finite time).truncate - issuedAt ≤
        maxAgeSeconds)) := by
  rw [createSignedCookieValue, pythonStr] at created
  split at created
  · rename_i printable
    have whole : cookieValue.toList = intDigits issuedAt ++
        '.' :: cookieSignature hmacSha256 signingKey (intDigits issuedAt) := by
      cases created
      simp only [String.toList_ofList]
    rw [verify_of_int whole (int_intDigits printable), compareDigest_self]
    rfl
  · cases created

/-- Without a bearer token a request is let in by a signed and fresh cookie, is
redirected with any other readable one, and fails on an unreadable one. -/
theorem requireUiAuth_cookie :
    (requireUiAuth tables hmacSha256 (.error .httpException) (some signingKey)
        (some cookieValue) time = .ok () ↔
      ¬ HasUnreadableSignature tables cookieValue ∧
        IsFreshCookie tables hmacSha256 signingKey cookieValue
          sessionCookieMaxAgeSeconds time) ∧
    (requireUiAuth tables hmacSha256 (.error .httpException) (some signingKey)
        (some cookieValue) time = .error .uiAuthRedirectError ↔
      ¬ HasUnreadableSignature tables cookieValue ∧
        ¬ IsFreshCookie tables hmacSha256 signingKey cookieValue
          sessionCookieMaxAgeSeconds time) := by
  by_cases unreadable : HasUnreadableSignature tables cookieValue
  · simp [requireUiAuth, verify_of_unreadable unreadable, unreadable]
  · obtain ⟨accepted, returned, exact⟩ :=
      @verify_of_readable tables hmacSha256 signingKey cookieValue
        sessionCookieMaxAgeSeconds time unreadable
    cases accepted with
    | false => simp [requireUiAuth, returned, unreadable, ← exact]
    | true => simp [requireUiAuth, returned, unreadable, ← exact]

end Checking

/-- For every key, time and text, the check returns a Boolean, `True` exactly
for the signed and fresh cookies, if and only if the signature that follows a
time is ASCII; and the cookies of `create_signed_cookie_value` are accepted
until they expire. -/
theorem session_cookie_checked_iff (tables : NumeralTables)
    (hmacSha256 : List UInt8 → List UInt8 → List UInt8)
    (signingKey : List UInt8) (maxAgeSeconds : Int) (time : ℚ) :
    (∀ cookieValue,
      (∃ accepted, verifySignedCookieValue tables hmacSha256 signingKey
          cookieValue maxAgeSeconds time = .ok accepted ∧
        (accepted = true ↔ IsFreshCookie tables hmacSha256 signingKey
          cookieValue maxAgeSeconds time)) ↔
      ¬ HasUnreadableSignature tables cookieValue) ∧
    ∀ issuedAt cookieValue,
      createSignedCookieValue hmacSha256 signingKey issuedAt =
          .ok cookieValue →
        verifySignedCookieValue tables hmacSha256 signingKey cookieValue
            maxAgeSeconds time =
          .ok (decide ((PyFloat.finite time).truncate - issuedAt ≤
            maxAgeSeconds)) := by
  constructor
  · intro cookieValue
    constructor
    · rintro ⟨accepted, returned, -⟩ unreadable
      rw [verify_of_unreadable unreadable] at returned
      cases returned
    · exact verify_of_readable
  · intro issuedAt cookieValue
    exact verify_created

/-- An interpreter without digits outside ASCII. -/
def asciiNumerals : NumeralTables where
  decimal _ := none
  isDigit _ := false
  repr text := text

/-- A request with this cookie is answered with a server error, whatever the
key is. -/
theorem latin_signature_raises :
    HasUnreadableSignature asciiNumerals "0.é" ∧
      ∀ hmacSha256 signingKey maxAgeSeconds time,
        ¬ ∃ accepted, verifySignedCookieValue asciiNumerals hmacSha256
          signingKey "0.é" maxAgeSeconds time = .ok accepted := by
  have unreadable : HasUnreadableSignature asciiNumerals "0.é" :=
    ⟨['0'], ['é'], 0, by decide, by decide, 'é', by decide, by decide⟩
  refine ⟨unreadable, ?_⟩
  intro hmacSha256 signingKey maxAgeSeconds time returned
  obtain ⟨accepted, returned⟩ := returned
  rw [verify_of_unreadable unreadable] at returned
  cases returned

end Tca
