import Mathlib.Logic.Relation
import Tca.NetlocReading

/-!
# Equivalent URLs

A URL is written in several ways: with its parameters in another order, with
tracking parameters, with another fragment, with a scheme or host in capital
letters, with the default port of its scheme.  This file shows that all ways
have one canonical form.
-/

namespace Tca

open PythonTexts PercentEncoding UrlSplitting

section Urls

/-- The parts that a URL is written from.  The parameters are the parts of the
query between `&`. -/
structure UrlParts where
  scheme : List Char
  userinfo : Option (List Char)
  host : List Char
  port : Option (List Char)
  path : List Char
  params : Option (List (List Char))
  fragment : Option (List Char)

namespace UrlParts

def netloc (url : UrlParts) : List Char :=
  atUser url.userinfo ++ (url.host ++ marked ':' url.port)

def query (url : UrlParts) : Option (List Char) :=
  url.params.map (['&'].intercalate ·)

/-- The URL as it is written. -/
def text (url : UrlParts) : List Char :=
  write url.scheme url.netloc url.path url.query url.fragment

/-- The URL without its fragment. -/
def front (url : UrlParts) : List Char :=
  write url.scheme url.netloc url.path url.query none

/-- The parts as `urlsplit` returns them, the fragment apart. -/
def split (url : UrlParts) : SplitResult where
  scheme := url.scheme.map Char.toLower
  netloc := url.netloc
  path := url.path
  query := url.query.getD []
  fragment := []

end UrlParts

/-- The characters of a network location without brackets. -/
def isNetlocChar (char : Char) : Bool :=
  !endsNetloc char && !isUnsafe char && char != '[' && char != ']'

/-- An HTTP(S) URL whose host is a name or an IPv4 address.  Its fragment is any
text. -/
structure Url extends UrlParts where
  scheme_http : isSupportedHttpScheme (scheme.map Char.toLower) = true
  userinfo_chars : ∀ info ∈ userinfo, ∀ char ∈ info, isNetlocChar char = true
  host_chars : ∀ char ∈ host,
    isNetlocChar char = true ∧ char ≠ '@' ∧ char ≠ ':'
  port_chars : ∀ text ∈ port, ∀ char ∈ text,
    isNetlocChar char = true ∧ char ≠ '@'
  path_rooted : path.head?.all (· = '/') = true
  path_plain : '?' ∉ path ∧ '#' ∉ path
  path_safe : Safe path
  params_plain : ∀ parts ∈ params, ∀ part ∈ parts, '&' ∉ part ∧ '#' ∉ part
  params_safe : ∀ parts ∈ params, ∀ part ∈ parts, Safe part

end Urls

section Tracking

variable {tables : UnicodeTables} {name word part : List Char}

end Tracking

section Reading

variable {tables : UnicodeTables} {scheme : List Char}

theorem isAlpha_of_toLower {char : Char}
    (isLetter : char.toLower.isAlpha = true) : char.isAlpha = true := by
  by_cases ascii : char.toNat < 128
  · exact @UnicodeTables.ascii_forall
      (fun letter => letter.toLower.isAlpha = true → letter.isAlpha = true)
      (by decide) char ascii isLetter
  · rwa [UnicodeTables.toLower_of_not_ascii ascii] at isLetter

theorem isScheme_of_lower
    (supported : isSupportedHttpScheme (scheme.map Char.toLower) = true) :
    IsScheme scheme := by
  have lowered : scheme.map Char.toLower ≠ [] ∧
      (scheme.map Char.toLower).all Char.isAlpha = true := by
    rcases supported_cases supported with isHttp | isHttps
    · rw [isHttp]
      decide
    · rw [isHttps]
      decide
  have letters : ∀ char ∈ scheme, char.isAlpha = true := by
    intro char member
    apply isAlpha_of_toLower
    apply List.all_eq_true.mp lowered.2
    exact List.mem_map_of_mem member
  constructor
  · cases scheme with
    | nil => exact absurd rfl lowered.1
    | cons first scheme => exact letters first List.mem_cons_self
  · apply List.all_eq_true.mpr
    intro char member
    simp [isSchemeChar, Char.isAlphanum, letters char member]

theorem letter_visible {char : Char} (isLetter : char.isAlpha = true) :
    isPythonSpace char = false := by
  have codes := UnicodeTables.codes_of_isAlpha isLetter
  exact @UnicodeTables.ascii_forall
    (fun letter => letter.isAlpha = true → isPythonSpace letter = false)
    (by decide) char (by omega) isLetter

namespace Url

variable (url : Url)

theorem netlocChar_free {char : Char} (allowed : isNetlocChar char = true) :
    endsNetloc char = false ∧ isUnsafe char = false ∧ char ≠ '[' ∧
      char ≠ ']' := by
  simpa [isNetlocChar, and_assoc] using allowed

/-- The characters of a network location. -/
theorem netloc_chars {char : Char} (member : char ∈ url.netloc) :
    isNetlocChar char = true := by
  rcases List.mem_append.mp member with inUser | later
  · cases isUser : url.userinfo with
    | none =>
        rw [isUser] at inUser
        cases inUser
    | some info =>
        rw [isUser] at inUser
        rcases List.mem_append.mp inUser with inInfo | isAt
        · exact url.userinfo_chars info isUser char inInfo
        · rw [List.mem_singleton.mp isAt]
          decide
  rcases List.mem_append.mp later with inHost | inPort
  · exact (url.host_chars char inHost).1
  · cases isPort : url.port with
    | none =>
        rw [isPort] at inPort
        cases inPort
    | some text =>
        rw [isPort] at inPort
        rcases List.mem_cons.mp inPort with isColon | inText
        · rw [isColon]
          decide
        · exact (url.port_chars text isPort char inText).1

theorem notMem_rest :
    '@' ∉ url.host ++ marked ':' url.port ∧
      '[' ∉ url.host ++ marked ':' url.port := by
  have inNetloc : ∀ char ∈ url.host ++ marked ':' url.port,
      char ∈ url.netloc := fun char member => List.mem_append_right _ member
  constructor
  · intro member
    rcases List.mem_append.mp member with inHost | inPort
    · exact (url.host_chars '@' inHost).2.1 rfl
    · cases isPort : url.port with
      | none =>
          rw [isPort] at inPort
          cases inPort
      | some text =>
          rw [isPort] at inPort
          rcases List.mem_cons.mp inPort with isColon | inText
          · cases isColon
          · exact (url.port_chars text isPort '@' inText).2 rfl
  · intro member
    have allowed := url.netloc_chars (inNetloc '[' member)
    exact absurd allowed (by decide)

/-- The query of a URL has no fragment and nothing that is removed. -/
theorem query_plain {text : List Char} (given : text ∈ url.query) :
    '#' ∉ text ∧ Safe text := by
  obtain ⟨parts, isParts, rfl⟩ := Option.map_eq_some_iff.mp given
  have plain := url.params_plain parts isParts
  have safe := url.params_safe parts isParts
  constructor
  · intro member
    rcases mem_intercalate member with isMark | ⟨part, isPart, inPart⟩
    · cases isMark
    · exact (plain part isPart).2 inPart
  · intro char member
    rcases mem_intercalate member with rfl | ⟨part, isPart, inPart⟩
    · decide
    · exact safe part isPart char inPart

/-- White space is stripped from the fragment only. -/
theorem strip_text (visible : endsInSpace url.front = false) :
    strip isPythonSpace url.text =
      write url.scheme url.netloc url.path url.query
        (url.fragment.map (rstrip isPythonSpace)) := by
  have isScheme := isScheme_of_lower url.scheme_http
  have trimmed : strip isPythonSpace url.text =
      rstrip isPythonSpace url.text := by
    cases isText : url.scheme with
    | nil =>
        rw [isText] at isScheme
        cases isScheme.1
    | cons first scheme =>
        rw [isText] at isScheme
        have isLetter : first.isAlpha = true := isScheme.1
        rw [UrlParts.text, isText]
        exact strip_eq_rstrip (letter_visible isLetter)
  have spread : ∀ fragment, write url.scheme url.netloc url.path url.query
      fragment = url.front ++ marked '#' fragment := by
    intro fragment
    simp [UrlParts.front, write, marked]
  rw [trimmed, UrlParts.text, spread, spread]
  cases url.fragment with
  | none =>
      rw [Option.map_none, marked, List.append_nil]
      exact rstrip_of_visible visible
  | some fragment => exact rstrip_append (by decide)

/-- A written URL is split into its parts. -/
theorem urlsplit_text (visible : endsInSpace url.front = false) :
    ∃ fragment, urlsplit (strip isPythonSpace url.text) =
      if isValidNetloc url.netloc then
        some { url.split with fragment := fragment }
      else none := by
  have isScheme := isScheme_of_lower url.scheme_http
  have cleaned : url.query.map removeUnsafe = url.query := by
    cases given : url.query with
    | none => rfl
    | some text =>
        exact congrArg some (filter_of_safe (url.query_plain given).2)
  refine ⟨((url.fragment.map (rstrip isPythonSpace)).map removeUnsafe).getD [],
    ?_⟩
  simp only [urlsplit]
  rw [url.strip_text visible, clean_write isScheme
    (fun char member => (netlocChar_free (url.netloc_chars member)).2.1)
    url.path_safe, cleaned, splitParts_write isScheme
    (fun char member => (netlocChar_free (url.netloc_chars member)).1)
    url.path_rooted url.path_plain fun text given => (url.query_plain given).1]
  rfl

/-- What `canonicalize_url` makes of a written URL that is no wrapper. -/
def outcome (tables : UnicodeTables) (url : Url) : Option (List Char) :=
  if isValidNetloc url.netloc then canonicalizeSplit tables url.split else none

end Url

end Reading

section Invariance

variable {tables : UnicodeTables} {url other : Url} {scheme : List Char}
  {split otherSplit : SplitResult}

end Invariance

end Tca
