import Mathlib.Data.List.Sort
import Mathlib.Data.List.Lex
import Mathlib.Data.Prod.Lex
import Mathlib.Data.Char
import Tca.PosixPaths
import Tca.UrlSplitting

/-!
# Canonical URLs

`canonicalize_url` takes a link out of its Telegram wrappers and rewrites its
parts: the scheme and the host in lower case, no default port, a normalized
path, the query without tracking parameters and sorted, and no fragment.  The
file shows what the rewritten parts look like and that the parts of a canonical
URL can be told from each other.
-/

namespace Tca

open PythonTexts PercentEncoding PosixPaths UrlSplitting

section Definitions

variable (tables : UnicodeTables)

/-- `_TRACKING_QUERY_KEYS`. -/
def trackingQueryKeys : List (List Char) :=
  ["fbclid".toList, "gclid".toList]

/-- `_TELEGRAM_WRAPPER_HOSTS`. -/
def telegramWrapperHosts : List (List Char) :=
  ["t.me".toList, "telegram.me".toList]

/-- `_TELEGRAM_WRAPPER_PATHS`. -/
def telegramWrapperPaths : List (List Char) :=
  ["/iv".toList, "/share".toList, "/share/url".toList]

/-- `_DEFAULT_PORT_BY_SCHEME`. -/
def defaultPortByScheme (scheme : List Char) : Option Nat :=
  if scheme = "http".toList then some 80
  else if scheme = "https".toList then some 443
  else none

def isSupportedHttpScheme (scheme : List Char) : Bool :=
  (defaultPortByScheme scheme).isSome

/-- The port that is written: none for the default one. -/
def writtenPort (scheme : List Char) (port : Option Nat) : Option Nat :=
  if port = defaultPortByScheme scheme then none else port

def canonicalizeNetloc (split : SplitResult) (scheme : List Char) :
    Option (List Char) :=
  match hostname tables split.netloc with
  | none => none
  | some hostname =>
      let normalizedHostname := tables.lower hostname
      match port split.netloc with
      | none => none
      | some port =>
          let userinfo :=
            match username split.netloc with
            | none => []
            | some username =>
                username ++ marked ':' (password split.netloc) ++ ['@']
          some (userinfo ++ normalizedHostname ++
            marked ':' ((writtenPort scheme port).map (Nat.toDigits 10)))

/-- `path or "/"`. -/
def pathOrRoot (path : List Char) : List Char :=
  if path = [] then ['/'] else path

def canonicalizePath (path : List Char) : List Char :=
  let normalizedPath := normpath (pathOrRoot path)
  if path.getLast? = some '/' ∧ normalizedPath ≠ ['/'] then
    normalizedPath ++ ['/']
  else normalizedPath

def isTrackingQueryParam (key : List Char) : Bool :=
  let loweredKey := tables.lower key
  "utm_".toList.isPrefixOf loweredKey || loweredKey ∈ trackingQueryKeys

/-- The parameters that stay in a query. -/
def keptParams (query : List Char) : List (List Char × List Char) :=
  (parseQsl query).filter fun param => !isTrackingQueryParam tables param.1

/-- Pairs of texts are compared by their first texts first. -/
def paramLe (first second : List Char × List Char) : Prop :=
  toLex first ≤ toLex second

instance : DecidableRel paramLe :=
  fun first second => inferInstanceAs (Decidable (toLex first ≤ toLex second))

def canonicalizeQuery (query : List Char) : List Char :=
  urlencode ((keptParams tables query).insertionSort paramLe)

/-- The target of a wrapper: the first value of its parameter `url`. -/
def wrappedTarget (split : SplitResult) : Option (List Char) :=
  if (hostname tables split.netloc).any (· ∈ telegramWrapperHosts) &&
      split.path ∈ telegramWrapperPaths then
    ((parseQsl split.query).find? (·.1 = "url".toList)).map Prod.snd
  else none

/-- The rounds of the loop of `_unwrap_telegram_url`. -/
def unwrapRounds : Nat → List Char → Option (List Char)
  | 0, candidate => some candidate
  | rounds + 1, candidate =>
      match urlsplit candidate with
      | none => none
      | some split =>
          match wrappedTarget tables split with
          | none => some candidate
          | some targetUrl => unwrapRounds rounds (unquote targetUrl)

/-- `_unwrap_telegram_url`.  There is no result where `urlsplit` raises. -/
def unwrapTelegramUrl (value : List Char) : Option (List Char) :=
  unwrapRounds tables 2 value

/-- The part of `canonicalize_url` that rewrites a split URL. -/
def canonicalizeSplit (split : SplitResult) : Option (List Char) :=
  let scheme := tables.lower split.scheme
  if isSupportedHttpScheme scheme then
    match canonicalizeNetloc tables split scheme with
    | none => none
    | some netloc =>
        some (urlunsplit {
          scheme := scheme
          netloc := netloc
          path := canonicalizePath split.path
          query := canonicalizeQuery tables split.query
          fragment := [] })
  else none

/-- The URL that is rewritten, split. -/
def splitUnwrapped (stripped : List Char) : Option SplitResult :=
  (unwrapTelegramUrl tables stripped).bind urlsplit

def canonicalizeUrl : Option (List Char) → Option (List Char)
  | none => none
  | some value =>
      let stripped := strip isPythonSpace value
      if stripped = [] then none
      else
        match splitUnwrapped tables stripped with
        | none => none
        | some split => canonicalizeSplit tables split

end Definitions

section Endings

variable {text first second : List Char}

/-- A text ends in white space. -/
def endsInSpace (text : List Char) : Bool :=
  text.getLast?.any isPythonSpace

theorem rstrip_of_visible (visible : endsInSpace text = false) :
    rstrip isPythonSpace text = text := by
  rcases List.eq_nil_or_concat text with rfl | ⟨front, last, rfl⟩
  · rfl
  · rw [List.concat_eq_append] at visible ⊢
    exact rstrip_concat (by simpa [endsInSpace] using visible)

end Endings

section Netlocs

variable {tables : UnicodeTables} {split : SplitResult}
  {scheme netloc : List Char}

/-- The canonical network location with these parts. -/
def writeNetloc (info : Option (List Char)) (host : List Char)
    (number : Option Nat) : List Char :=
  atUser info ++ (host ++ marked ':' (number.map (Nat.toDigits 10)))

/-- The host as it is written in a canonical network location. -/
def canonicalHost (tables : UnicodeTables) (host : List Char) : List Char :=
  tables.lower (lowerHost tables host)

theorem canonicalizeNetloc_eq_some :
    canonicalizeNetloc tables split scheme = some netloc ↔
      ∃ number, (hostinfo split.netloc).1 ≠ [] ∧
        port split.netloc = some number ∧
        netloc = writeNetloc (userinfo split.netloc)
          (canonicalHost tables (hostinfo split.netloc).1)
          (writtenPort scheme number) := by
  have users : (match username split.netloc with
      | none => []
      | some username =>
          username ++ (marked ':' (password split.netloc) ++ ['@'])) =
        atUser (userinfo split.netloc) := by
    rw [userinfo_eq]
    cases username split.netloc <;> simp [atUser]
  unfold canonicalizeNetloc hostname writeNetloc canonicalHost
  by_cases noHost : (hostinfo split.netloc).1 = []
  · simp [noHost]
  · cases port split.netloc with
    | none => simp [noHost]
    | some number => simp [noHost, users, eq_comm]

/-- The symbols of a canonical network location. -/
theorem mem_writeNetloc (lawful : tables.LawfulCase) {char : Char}
    (symbol : isSymbol char = true) {number : Option Nat}
    (member : char ∈ writeNetloc (userinfo netloc)
      (canonicalHost tables (hostinfo netloc).1) number) :
    char ∈ netloc ∨ char = ':' ∨ char.isDigit = true := by
  rcases List.mem_append.mp member with inUser | later
  · obtain ⟨whole, -⟩ := netloc_eq netloc
    rw [whole]
    exact .inl (List.mem_append_left _ inUser)
  rcases List.mem_append.mp later with inHost | inPort
  · exact .inl (mem_netloc (mem_hostinfo (mem_lowerHost lawful symbol
      (lawful.mem_of_mem_lower inHost symbol))))
  · cases number with
    | none => cases inPort
    | some number =>
        rcases List.mem_cons.mp inPort with rfl | inDigits
        · exact .inr (.inl rfl)
        · exact .inr (.inr (Nat.isDigit_of_mem_toDigits (by decide)
            (by decide) inDigits))

/-- A canonical network location has none of a kind of symbols that the network
location has none of. -/
theorem writeNetloc_free (lawful : tables.LawfulCase) {refused : Char → Bool}
    (symbols : ∀ char, refused char = true →
      isSymbol char = true ∧ char ≠ ':' ∧ char.isDigit = false)
    (free : ∀ char ∈ netloc, refused char = false) {number : Option Nat} :
    ∀ char ∈ writeNetloc (userinfo netloc)
      (canonicalHost tables (hostinfo netloc).1) number,
      refused char = false := by
  intro char member
  rw [← Bool.not_eq_true]
  intro isRefused
  obtain ⟨symbol, notColon, notDigit⟩ := symbols char isRefused
  rcases mem_writeNetloc lawful symbol member with inNetloc | isColon | digit
  · rw [free char inNetloc] at isRefused
    cases isRefused
  · exact notColon isColon
  · rw [notDigit] at digit
    cases digit

theorem endsNetloc_symbol (char : Char) (ends : endsNetloc char = true) :
    isSymbol char = true ∧ char ≠ ':' ∧ char.isDigit = false := by
  simp only [endsNetloc, List.mem_cons, List.not_mem_nil, or_false,
    decide_eq_true_eq] at ends
  rcases ends with rfl | rfl | rfl
  all_goals decide

theorem isUnsafe_symbol (char : Char) (removed : isUnsafe char = true) :
    isSymbol char = true ∧ char ≠ ':' ∧ char.isDigit = false := by
  simp only [isUnsafe, List.mem_cons, List.not_mem_nil, or_false,
    decide_eq_true_eq] at removed
  rcases removed with rfl | rfl | rfl
  all_goals decide

end Netlocs

section Paths

variable {path : List Char}

theorem pathOrRoot_rooted (rooted : path.head?.all (· = '/') = true) :
    (pathOrRoot path).head? = some '/' := by
  unfold pathOrRoot
  cases path with
  | nil => rfl
  | cons first path =>
      have isSlash : first = '/' := by simpa using rooted
      simp [isSlash]

/-- A canonical path is a normalized path, with a slash at its end or not. -/
theorem canonicalizePath_cases (path : List Char) :
    (canonicalizePath path = normpath (pathOrRoot path) ∧
      (path.getLast? = some '/' → normpath (pathOrRoot path) = ['/'])) ∨
      (canonicalizePath path = normpath (pathOrRoot path) ++ ['/'] ∧
        path.getLast? = some '/' ∧ normpath (pathOrRoot path) ≠ ['/']) := by
  unfold canonicalizePath
  dsimp only
  split
  · rename_i slash
    exact .inr ⟨rfl, slash⟩
  · rename_i noSlash
    refine .inl ⟨rfl, fun ended => ?_⟩
    by_contra notRoot
    exact noSlash ⟨ended, notRoot⟩

/-- A canonical path begins with a slash and has the characters of the path. -/
theorem canonicalizePath_rooted (rooted : path.head?.all (· = '/') = true) :
    (canonicalizePath path).head? = some '/' ∧
      ∀ char ∈ canonicalizePath path, char = '/' ∨ char ∈ path := by
  have chars : ∀ char ∈ pathOrRoot path, char = '/' ∨ char ∈ path := by
    intro char member
    unfold pathOrRoot at member
    split at member
    · exact .inl (List.mem_singleton.mp member)
    · exact .inr member
  obtain ⟨slashes, components, number, -, inPath, normalized⟩ :=
    normpath_rooted (pathOrRoot_rooted rooted)
  have begins : (normpath (pathOrRoot path)).head? = some '/' := by
    rw [normalized]
    rcases number with rfl | rfl <;> rfl
  have charsNormalized : ∀ char ∈ normpath (pathOrRoot path),
      char = '/' ∨ char ∈ path := by
    intro char member
    rw [normalized] at member
    rcases List.mem_append.mp member with isSlash | later
    · exact .inl (List.eq_of_mem_replicate isSlash)
    · rcases mem_intercalate later with isSlash | ⟨component, isPart, inPart⟩
      · exact .inl isSlash
      · exact chars char (inPath component isPart char inPart)
  rcases canonicalizePath_cases path with ⟨whole, -⟩ | ⟨whole, -⟩
  · rw [whole]
    exact ⟨begins, charsNormalized⟩
  · rw [whole]
    refine ⟨by rw [List.head?_append, begins]; rfl, ?_⟩
    intro char member
    rcases List.mem_append.mp member with inNormalized | isSlash
    · exact charsNormalized char inNormalized
    · exact .inl (List.mem_singleton.mp isSlash)

end Paths

section Queries

variable {tables : UnicodeTables} {query other : List Char}

theorem insertionSort_eq_of_perm
    {first second : List (List Char × List Char)} (same : first.Perm second) :
    first.insertionSort paramLe = second.insertionSort paramLe := by
  have total : Std.Total paramLe := ⟨fun _ _ => le_total _ _⟩
  have transitive : IsTrans _ paramLe := ⟨fun _ _ _ => le_trans⟩
  refine List.Perm.eq_of_pairwise (fun _ _ _ _ below above =>
    toLex.injective (le_antisymm below above))
    (List.pairwise_insertionSort paramLe first)
    (List.pairwise_insertionSort paramLe second) ?_
  exact (List.perm_insertionSort paramLe first).trans
    (same.trans (List.perm_insertionSort paramLe second).symm)

theorem parseQsl_canonicalizeQuery (tables : UnicodeTables)
    (query : List Char) :
    (parseQsl (canonicalizeQuery tables query)).Perm
      (keptParams tables query) := by
  rw [canonicalizeQuery, parseQsl_urlencode]
  exact List.perm_insertionSort paramLe _

/-- A canonical query stands for the parameters that are kept, in any order. -/
theorem canonicalizeQuery_eq_iff :
    canonicalizeQuery tables query = canonicalizeQuery tables other ↔
      (keptParams tables query).Perm (keptParams tables other) := by
  constructor
  · intro same
    have read := parseQsl_canonicalizeQuery tables query
    rw [same] at read
    exact read.symm.trans (parseQsl_canonicalizeQuery tables other)
  · intro same
    rw [canonicalizeQuery, canonicalizeQuery, insertionSort_eq_of_perm same]

/-- A canonical query is its own canonical form. -/
theorem canonicalizeQuery_canonicalizeQuery (tables : UnicodeTables)
    (query : List Char) :
    canonicalizeQuery tables (canonicalizeQuery tables query) =
      canonicalizeQuery tables query := by
  refine canonicalizeQuery_eq_iff.mpr ?_
  have read := parseQsl_canonicalizeQuery tables query
  have kept : keptParams tables (canonicalizeQuery tables query) =
      parseQsl (canonicalizeQuery tables query) := by
    refine List.filter_eq_self.mpr fun param member => ?_
    exact (List.mem_filter.mp (read.mem_iff.mp member)).2
  rw [kept]
  exact read

theorem canonicalizeQuery_eq_nil_iff :
    canonicalizeQuery tables query = [] ↔ keptParams tables query = [] := by
  rw [canonicalizeQuery, urlencode_eq_nil_iff, ← List.length_eq_zero_iff,
    List.length_insertionSort, List.length_eq_zero_iff]

end Queries

section CanonicalUrls

/-- What is known of the parts of a canonical URL. -/
structure Canonical (scheme netloc path query : List Char) : Prop where
  scheme_supported : isSupportedHttpScheme scheme = true
  netloc_plain : ∀ char ∈ netloc, endsNetloc char = false
  netloc_safe : Safe netloc
  path_rooted : path.head? = some '/'
  path_plain : '?' ∉ path ∧ '#' ∉ path
  path_safe : Safe path
  query_chars : ∀ char ∈ query, isQueryChar char = true

variable {tables : UnicodeTables} {split : SplitResult}
  {scheme netloc path query url : List Char}

/-- The canonical URL with these parts. -/
def canonicalText (scheme netloc path query : List Char) : List Char :=
  write scheme netloc path (nonempty query) none

theorem supported_cases (supported : isSupportedHttpScheme scheme = true) :
    scheme = "http".toList ∨ scheme = "https".toList := by
  unfold isSupportedHttpScheme defaultPortByScheme at supported
  split at supported
  · rename_i isHttp
    exact .inl isHttp
  split at supported
  · rename_i isHttps
    exact .inr isHttps
  · cases supported

theorem supported_isScheme (supported : isSupportedHttpScheme scheme = true) :
    IsScheme scheme ∧ scheme.map Char.toLower = scheme := by
  rcases supported_cases supported with rfl | rfl
  · decide
  · decide

theorem queryChar_ascii {char : Char} (inQuery : isQueryChar char = true) :
    char.toNat < 128 := by
  simp only [isQueryChar, isQuoted, isUnreserved, Bool.or_eq_true,
    Bool.and_eq_true, decide_eq_true_eq, List.mem_cons, List.not_mem_nil,
    or_false] at inQuery
  rcases inQuery with ((codes | rfl | rfl | rfl | rfl) | rfl) | rfl | rfl | rfl
  · omega
  all_goals decide

theorem queryChar_safe {char : Char} (inQuery : isQueryChar char = true) :
    isUnsafe char = false ∧ char ≠ '#' ∧ isPythonSpace char = false :=
  @UnicodeTables.ascii_forall
    (fun letter => isQueryChar letter = true → isUnsafe letter = false ∧
      letter ≠ '#' ∧ isPythonSpace letter = false)
    (by decide) char (queryChar_ascii inQuery) inQuery

theorem nonempty_getD (part : List Char) : (nonempty part).getD [] = part := by
  unfold nonempty
  split
  · rename_i isEmpty
    exact isEmpty.symm
  · rfl

theorem mem_nonempty {part text : List Char} (member : text ∈ nonempty part) :
    text = part := by
  unfold nonempty at member
  split at member
  · cases member
  · exact (Option.some.inj member).symm

namespace Canonical

variable (canonical : Canonical scheme netloc path query)

include canonical

/-- The parts of a canonical URL are read back. -/
theorem splitParts_text :
    splitParts (canonicalText scheme netloc path query) =
      ⟨scheme, netloc, path, query, []⟩ := by
  obtain ⟨isScheme, isLower⟩ := supported_isScheme canonical.scheme_supported
  rw [canonicalText, splitParts_write isScheme canonical.netloc_plain
    (by simp [canonical.path_rooted]) canonical.path_plain, isLower,
    nonempty_getD]
  · rfl
  · intro text member fragment
    rw [mem_nonempty member] at fragment
    exact (queryChar_safe (canonical.query_chars '#' fragment)).2.1 rfl

theorem clean_text : clean (canonicalText scheme netloc path query) =
    canonicalText scheme netloc path query := by
  have querySafe : Safe query := fun char inQuery =>
    (queryChar_safe (canonical.query_chars char inQuery)).1
  have queryKept : (nonempty query).map removeUnsafe = nonempty query := by
    unfold nonempty
    split
    · rfl
    · exact congrArg some (filter_of_safe querySafe)
  rw [canonicalText, clean_write
    (supported_isScheme canonical.scheme_supported).1 canonical.netloc_safe
    canonical.path_safe, queryKept]
  rfl

theorem urlsplit_text :
    urlsplit (canonicalText scheme netloc path query) =
      if isValidNetloc netloc then some ⟨scheme, netloc, path, query, []⟩
      else none := by
  simp only [urlsplit, canonical.clean_text, canonical.splitParts_text]

/-- Canonical URLs are the same only if their parts are. -/
theorem text_inj {otherScheme otherNetloc otherPath otherQuery : List Char}
    (other : Canonical otherScheme otherNetloc otherPath otherQuery)
    (same : canonicalText scheme netloc path query =
      canonicalText otherScheme otherNetloc otherPath otherQuery) :
    scheme = otherScheme ∧ netloc = otherNetloc ∧ path = otherPath ∧
      query = otherQuery := by
  have parts := congrArg splitParts same
  rw [canonical.splitParts_text, other.splitParts_text] at parts
  injection parts with sameScheme sameNetloc samePath sameQuery
  exact ⟨sameScheme, sameNetloc, samePath, sameQuery⟩

end Canonical

variable (lawful : tables.LawfulCase) (wellSplit : WellSplit split)

include wellSplit in
theorem lower_scheme (lawful : tables.LawfulCase) :
    tables.lower split.scheme = split.scheme := by
  refine UnicodeTables.lower_of_lowered fun char member => ?_
  obtain ⟨ascii, stable⟩ := wellSplit.scheme_lower char member
  refine ⟨by rw [lawful.lowerChar_ascii char ascii, stable], ?_⟩
  rintro rfl
  exact absurd ascii (by decide)

include lawful wellSplit

/-- The parts of a canonical URL. -/
theorem canonical_of_netloc
    (supported : isSupportedHttpScheme split.scheme = true)
    (written : canonicalizeNetloc tables split split.scheme = some netloc) :
    Canonical split.scheme netloc (canonicalizePath split.path)
      (canonicalizeQuery tables split.query) := by
  obtain ⟨number, visible, -, rfl⟩ := canonicalizeNetloc_eq_some.mp written
  have netlocVisible : split.netloc ≠ [] := by
    intro nothing
    rw [nothing] at visible
    exact visible rfl
  obtain ⟨rooted, chars⟩ :=
    canonicalizePath_rooted (wellSplit.path_rooted netlocVisible)
  exact {
    scheme_supported := supported
    netloc_plain :=
      writeNetloc_free lawful endsNetloc_symbol wellSplit.netloc_plain
    netloc_safe :=
      writeNetloc_free lawful isUnsafe_symbol wellSplit.netloc_safe
    path_rooted := rooted
    path_plain := by
      constructor
      · intro member
        rcases chars '?' member with isSlash | inPath
        · cases isSlash
        · exact wellSplit.path_plain.1 inPath
      · intro member
        rcases chars '#' member with isSlash | inPath
        · cases isSlash
        · exact wellSplit.path_plain.2 inPath
    path_safe := by
      intro char member
      rcases chars char member with rfl | inPath
      · decide
      · exact wellSplit.path_safe char inPath
    query_chars := isQueryChar_urlencode _ }

/-- What `canonicalize_url` makes of a split URL. -/
theorem canonicalizeSplit_eq_some :
    canonicalizeSplit tables split = some url ↔
      isSupportedHttpScheme split.scheme = true ∧
        ∃ netloc, canonicalizeNetloc tables split split.scheme = some netloc ∧
          url = canonicalText split.scheme netloc (canonicalizePath split.path)
            (canonicalizeQuery tables split.query) := by
  have sameScheme := lower_scheme wellSplit lawful
  unfold canonicalizeSplit
  simp only [sameScheme]
  by_cases supported : isSupportedHttpScheme split.scheme = true
  · cases written : canonicalizeNetloc tables split split.scheme with
    | none => simp [supported]
    | some netloc =>
        have canonical := canonical_of_netloc lawful wellSplit supported written
        have kept : rooted (canonicalizePath split.path) =
            canonicalizePath split.path := by
          have begins := canonical.path_rooted
          cases isPath : canonicalizePath split.path with
          | nil => rfl
          | cons first path =>
              rw [isPath] at begins
              rw [Option.some.inj begins]
              rfl
        have noFragment : nonempty ([] : List Char) = none := rfl
        simp only [supported, if_true, urlunsplit, kept, canonicalText,
          noFragment, Option.some_inj, true_and, exists_eq_left']
        exact eq_comm
  · simp [supported]

end CanonicalUrls

section Wrappers

variable {tables : UnicodeTables} {split : SplitResult}
  {candidate target : List Char}

theorem wrappedTarget_eq_some :
    wrappedTarget tables split = some target →
      (hostname tables split.netloc).any (· ∈ telegramWrapperHosts) = true ∧
        split.path ∈ telegramWrapperPaths ∧
        ("url".toList, target) ∈ parseQsl split.query := by
  intro wrapped
  unfold wrappedTarget at wrapped
  split at wrapped
  · rename_i isWrapper
    rw [Bool.and_eq_true, decide_eq_true_eq] at isWrapper
    obtain ⟨⟨name, value⟩, found, rfl⟩ := Option.map_eq_some_iff.mp wrapped
    have isUrl : name = "url".toList := by
      simpa using List.find?_some found
    rw [isUrl] at found
    exact ⟨isWrapper.1, isWrapper.2, List.mem_of_find?_eq_some found⟩
  · cases wrapped

theorem wrappedTarget_eq_none_iff :
    wrappedTarget tables split = none ↔
      ¬ ((hostname tables split.netloc).any (· ∈ telegramWrapperHosts) = true ∧
        split.path ∈ telegramWrapperPaths ∧
        ∃ value, ("url".toList, value) ∈ parseQsl split.query) := by
  constructor
  · rintro notWrapped ⟨isHost, isPath, value, member⟩
    unfold wrappedTarget at notWrapped
    rw [isHost, if_pos (by simp [isPath]), Option.map_eq_none_iff,
      List.find?_eq_none] at notWrapped
    exact notWrapped _ member (by simp)
  · intro notWrapper
    cases wrapped : wrappedTarget tables split with
    | none => rfl
    | some target =>
        obtain ⟨isHost, isPath, member⟩ := wrappedTarget_eq_some wrapped
        exact absurd ⟨isHost, isPath, target, member⟩ notWrapper

/-- One round of unwrapping. -/
theorem unwrapRounds_succ (rounds : Nat) (candidate : List Char) :
    unwrapRounds tables (rounds + 1) candidate =
      match urlsplit candidate with
      | none => none
      | some split =>
          match wrappedTarget tables split with
          | none => some candidate
          | some targetUrl => unwrapRounds tables rounds (unquote targetUrl) :=
  rfl

theorem unwrapRounds_of_none {rounds : Nat}
    (read : urlsplit candidate = some split)
    (notWrapped : wrappedTarget tables split = none) :
    unwrapRounds tables rounds candidate = some candidate := by
  cases rounds with
  | zero => rfl
  | succ rounds => simp only [unwrapRounds_succ, read, notWrapped]

theorem unwrapRounds_of_some {rounds : Nat}
    (read : urlsplit candidate = some split)
    (wrapped : wrappedTarget tables split = some target) :
    unwrapRounds tables (rounds + 1) candidate =
      unwrapRounds tables rounds (unquote target) := by
  simp only [unwrapRounds_succ, read, wrapped]

theorem unwrapRounds_of_unreadable {rounds : Nat}
    (unreadable : urlsplit candidate = none) :
    unwrapRounds tables (rounds + 1) candidate = none := by
  simp only [unwrapRounds_succ, unreadable]

/-- Unwrapping makes no URL longer. -/
theorem unwrapRounds_length_le {rounds : Nat}
    (unwrapped : unwrapRounds tables rounds candidate = some target) :
    target.length ≤ candidate.length := by
  induction rounds generalizing candidate with
  | zero =>
      cases unwrapped
      exact Nat.le_refl _
  | succ rounds ih =>
      rw [unwrapRounds_succ] at unwrapped
      split at unwrapped
      · cases unwrapped
      · rename_i parts read
        split at unwrapped
        · cases unwrapped
          exact Nat.le_refl _
        · rename_i inner wrapped
          obtain ⟨-, -, member⟩ := wrappedTarget_eq_some wrapped
          calc target.length
            _ ≤ (unquote inner).length := ih unwrapped
            _ ≤ inner.length := unquote_length_le inner
            _ ≤ parts.query.length := value_length_le member
            _ ≤ candidate.length := query_length_le read

/-- `canonicalize_url` strips, unwraps, splits and rewrites. -/
theorem canonicalizeUrl_eq_bind (tables : UnicodeTables) (value : List Char) :
    canonicalizeUrl tables (some value) =
      (splitUnwrapped tables (strip isPythonSpace value)).bind
        (canonicalizeSplit tables) := by
  unfold canonicalizeUrl
  dsimp only
  split
  · rename_i nothing
    rw [nothing]
    rfl
  · cases splitUnwrapped tables (strip isPythonSpace value) <;> rfl

theorem urlsplit_of_splitUnwrapped
    (read : splitUnwrapped tables candidate = some split) :
    ∃ target, unwrapTelegramUrl tables candidate = some target ∧
      urlsplit target = some split :=
  Option.bind_eq_some_iff.mp read

end Wrappers

end Tca
