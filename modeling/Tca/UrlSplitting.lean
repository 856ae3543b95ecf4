import Tca.PercentEncoding
import Tca.UnicodeTables

/-!
# Splitting URLs

`urllib.parse.urlsplit` reads a text as a URL and refuses some network
locations; the attributes of its result take the network location apart.  The
file has both, `urlunsplit`, and what they make of each other's results.
-/

namespace Tca.UrlSplitting

open PythonTexts

section Addresses

def isHexDigit (char : Char) : Bool :=
  (PercentEncoding.hexValue? char).isSome

/-- The text of a number, without leading zeros, up to 255. -/
def isOctet (text : List Char) : Bool :=
  text != [] && text.all Char.isDigit && text.length ≤ 3 &&
    (text = ['0'] || text.head? != some '0') &&
    Nat.ofDigitChars 10 text 0 ≤ 255

def isIPv4 (text : List Char) : Bool :=
  (text.splitOn '.').length = 4 && (text.splitOn '.').all isOctet

def isHextet (text : List Char) : Bool :=
  text != [] && text.all isHexDigit && text.length ≤ 4

/-- The groups of an address on one side of a `::`, where an empty text next to
the end is alone. -/
def sideGroups (outermost : List Char) (side : List (List Char)) :
    Option (List (List Char)) :=
  if outermost != [] then some side
  else if side.length = 1 then some []
  else none

/-- The groups of an address with at most one `::`. -/
def areHextets (groups : List (List Char)) : Bool :=
  match groups.tail.dropLast.count [] with
  | 0 => groups.length = 8 && groups.all isHextet
  | 1 =>
      let skipped := 1 + groups.tail.idxOf []
      match sideGroups (groups.headD []) (groups.take skipped),
          sideGroups (groups.getLastD []) (groups.drop (skipped + 1)) with
      | some high, some low =>
          high.length + low.length < 8 && (high ++ low).all isHextet
      | _, _ => false
  | _ => false

/-- An IPv6 address, its last two groups written as an IPv4 address or not. -/
def isIPv6Groups (groups : List (List Char)) : Bool :=
  if '.' ∈ groups.getLastD [] then
    isIPv4 (groups.getLastD []) &&
      areHextets (groups.dropLast ++ [['0'], ['0']])
  else areHextets groups

/-- An address with an optional scope. -/
def isIPv6 (text : List Char) : Bool :=
  ((partition '%' text).2.all fun scope => scope != [] && '%' ∉ scope) &&
    3 ≤ ((partition '%' text).1.splitOn ':').length &&
    isIPv6Groups ((partition '%' text).1.splitOn ':')

/-- What follows the `v` of an address of a future version. -/
def isIPvFuture (text : List Char) : Bool :=
  (partition '.' text).1 != [] && (partition '.' text).1.all isHexDigit &&
    ((partition '.' text).2.any fun address =>
      address != [] && '\n' ∉ address)

/-- `_check_bracketed_host`. -/
def isBracketedHost : List Char → Bool
  | 'v' :: text => isIPvFuture text
  | text => isIPv6 text

end Addresses

section Splitting

/-- What `urlsplit` returns. -/
structure SplitResult where
  scheme : List Char
  netloc : List Char
  path : List Char
  query : List Char
  fragment : List Char
  deriving DecidableEq, Repr

def isControlOrSpace (char : Char) : Bool :=
  char.toNat ≤ 32

/-- The characters that are removed wherever they are. -/
def isUnsafe (char : Char) : Bool :=
  char ∈ ['\t', '\r', '\n']

def clean (url : List Char) : List Char :=
  (url.dropWhile isControlOrSpace).filter fun char => !isUnsafe char

def isSchemeChar (char : Char) : Bool :=
  char.isAlphanum || char ∈ ['+', '-', '.']

/-- The scheme in lower case and the rest of the URL. -/
def splitScheme (url : List Char) : List Char × List Char :=
  match partition ':' url with
  | (first :: scheme, some rest) =>
      if first.isAlpha && (first :: scheme).all isSchemeChar then
        ((first :: scheme).map Char.toLower, rest)
      else ([], url)
  | _ => ([], url)

/-- The characters that end a network location. -/
def endsNetloc (char : Char) : Bool :=
  char ∈ ['/', '?', '#']

/-- `_splitnetloc`, if there is a network location. -/
def splitNetloc : List Char → List Char × List Char
  | '/' :: '/' :: rest =>
      (rest.takeWhile (fun char => !endsNetloc char),
        rest.dropWhile (fun char => !endsNetloc char))
  | rest => ([], rest)

/-- `_check_bracketed_netloc`. -/
def checkBracketedNetloc (netloc : List Char) : Bool :=
  let hostAndPort := (rpartition '@' netloc).2
  match partition '[' hostAndPort with
  | (before, some bracketed) =>
      before = [] &&
        ((partition ']' bracketed).2.all fun port =>
          port = [] || port.head? = some ':') &&
        isBracketedHost (partition ']' bracketed).1
  | (_, none) => isBracketedHost (partition ':' hostAndPort).1

/-- The checks on brackets, and `_checknetloc`: no character may become a
delimiter in NFKC. -/
def isValidNetloc (netloc : List Char) : Bool :=
  (('[' ∉ netloc && ']' ∉ netloc) ||
      ('[' ∈ netloc && ']' ∈ netloc && checkBracketedNetloc netloc)) &&
    netloc.all fun char => char.toNat ∉ nfkcDelimiters

/-- The parts of a URL after the removal of characters. -/
def splitParts (url : List Char) : SplitResult :=
  let schemeAndRest := splitScheme url
  let netlocAndRest := splitNetloc schemeAndRest.2
  let restAndFragment := partition '#' netlocAndRest.2
  let pathAndQuery := partition '?' restAndFragment.1
  { scheme := schemeAndRest.1
    netloc := netlocAndRest.1
    path := pathAndQuery.1
    query := pathAndQuery.2.getD []
    fragment := restAndFragment.2.getD [] }

/-- `urlsplit`.  There is no result where it raises a `ValueError`. -/
def urlsplit (url : List Char) : Option SplitResult :=
  let parts := splitParts (clean url)
  if isValidNetloc parts.netloc then some parts else none

end Splitting

section Attributes

/-- What is before the last `@` of a network location. -/
def userinfo (netloc : List Char) : Option (List Char) :=
  (rpartition '@' netloc).1

def username (netloc : List Char) : Option (List Char) :=
  (userinfo netloc).map fun info => (partition ':' info).1

def password (netloc : List Char) : Option (List Char) :=
  (userinfo netloc).bind fun info => (partition ':' info).2

/-- `_hostinfo`: the host and the text of the port. -/
def hostinfo (netloc : List Char) : List Char × List Char :=
  let hostAndPort := (rpartition '@' netloc).2
  match partition '[' hostAndPort with
  | (_, some bracketed) =>
      ((partition ']' bracketed).1,
        (partition ':' ((partition ']' bracketed).2.getD [])).2.getD [])
  | (_, none) =>
      ((partition ':' hostAndPort).1, (partition ':' hostAndPort).2.getD [])

/-- A part with the character that introduces it. -/
def marked (mark : Char) : Option (List Char) → List Char
  | none => []
  | some part => mark :: part

/-- A host in lower case; a scope is left as it is. -/
def lowerHost (tables : UnicodeTables) (host : List Char) : List Char :=
  tables.lower (partition '%' host).1 ++ marked '%' (partition '%' host).2

/-- `hostname`. -/
def hostname (tables : UnicodeTables) (netloc : List Char) :
    Option (List Char) :=
  if (hostinfo netloc).1 = [] then none
  else some (lowerHost tables (hostinfo netloc).1)

/-- The number that a text of digits stands for, if it is a port. -/
def readPort (text : List Char) : Option Nat :=
  if text.all Char.isDigit && text.length ≤ 4300 &&
      Nat.ofDigitChars 10 text 0 ≤ 65535 then
    some (Nat.ofDigitChars 10 text 0)
  else none

/-- `port`.  There is no result where it raises a `ValueError`. -/
def port (netloc : List Char) : Option (Option Nat) :=
  if (hostinfo netloc).2 = [] then some none
  else (readPort (hostinfo netloc).2).map some

end Attributes

section Unsplitting

/-- A part that is left out if it is empty. -/
def nonempty (part : List Char) : Option (List Char) :=
  if part = [] then none else some part

/-- A URL written from its parts. -/
def write (scheme netloc path : List Char)
    (query fragment : Option (List Char)) : List Char :=
  scheme ++ ':' :: '/' :: '/' ::
    (netloc ++ (path ++ (marked '?' query ++ marked '#' fragment)))

def rooted : List Char → List Char
  | [] => []
  | '/' :: path => '/' :: path
  | path => '/' :: path

/-- `urlunsplit`, for a scheme that uses network locations. -/
def urlunsplit (split : SplitResult) : List Char :=
  write split.scheme split.netloc (rooted split.path) (nonempty split.query)
    (nonempty split.fragment)

end Unsplitting

section Written

/-- The texts that are read as a scheme. -/
def IsScheme (scheme : List Char) : Prop :=
  scheme.head?.any Char.isAlpha = true ∧ scheme.all isSchemeChar = true

instance (scheme : List Char) : Decidable (IsScheme scheme) :=
  inferInstanceAs (Decidable (_ ∧ _))

variable {scheme netloc path rest : List Char}
  {query fragment : Option (List Char)}

theorem splitScheme_write (isScheme : IsScheme scheme) (rest : List Char) :
    splitScheme (scheme ++ ':' :: rest) = (scheme.map Char.toLower, rest) := by
  obtain ⟨begins, schemeChars⟩ := isScheme
  have absent : ':' ∉ scheme := by
    intro member
    exact absurd (List.all_eq_true.mp schemeChars ':' member) (by decide)
  rw [splitScheme, partition_append absent]
  cases scheme with
  | nil => cases begins
  | cons first scheme =>
      have isLetter : first.isAlpha = true := begins
      simp only [isLetter, schemeChars, Bool.and_true, if_true]

/-- A network location is read up to what ends it. -/
theorem splitNetloc_write (plain : ∀ char ∈ netloc, endsNetloc char = false)
    (ended : rest.head?.all endsNetloc = true) :
    splitNetloc ('/' :: '/' :: (netloc ++ rest)) = (netloc, rest) := by
  have continues : ∀ char ∈ netloc, (!endsNetloc char) = true := by
    intro char member
    rw [plain char member]
    rfl
  rw [splitNetloc, List.takeWhile_append_of_pos continues,
    List.dropWhile_append_of_pos continues]
  cases rest with
  | nil => simp
  | cons first rest =>
      have ends : endsNetloc first = true := ended
      simp [ends]

/-- What follows the network location is read part by part. -/
theorem partition_write (pathPlain : '?' ∉ path ∧ '#' ∉ path)
    (queryPlain : ∀ text ∈ query, '#' ∉ text) :
    partition '#' (path ++ (marked '?' query ++ marked '#' fragment)) =
        (path ++ marked '?' query, fragment) ∧
      partition '?' (path ++ marked '?' query) = (path, query) := by
  have noFragment : '#' ∉ path ++ marked '?' query := by
    rw [List.mem_append, not_or]
    refine ⟨pathPlain.2, ?_⟩
    cases query with
    | none => exact List.not_mem_nil
    | some text =>
        exact List.not_mem_cons_of_ne_of_not_mem (by decide)
          (queryPlain text rfl)
  constructor
  · rw [← List.append_assoc]
    cases fragment with
    | none => rw [marked, List.append_nil, partition_of_notMem noFragment]
    | some text => rw [marked, partition_append noFragment]
  · cases query with
    | none => rw [marked, List.append_nil, partition_of_notMem pathPlain.1]
    | some text => rw [marked, partition_append pathPlain.1]

/-- The parts of a written URL are read back. -/
theorem splitParts_write (isScheme : IsScheme scheme)
    (netlocPlain : ∀ char ∈ netloc, endsNetloc char = false)
    (pathRooted : path.head?.all (· = '/') = true)
    (pathPlain : '?' ∉ path ∧ '#' ∉ path)
    (queryPlain : ∀ text ∈ query, '#' ∉ text) :
    splitParts (write scheme netloc path query fragment) =
      ⟨scheme.map Char.toLower, netloc, path, query.getD [],
        fragment.getD []⟩ := by
  have ended : (path ++ (marked '?' query ++
      marked '#' fragment)).head?.all endsNetloc = true := by
    cases path with
    | nil =>
        cases query with
        | none => cases fragment <;> rfl
        | some text => rfl
    | cons first path =>
        have isSlash : first = '/' := by simpa using pathRooted
        rw [isSlash]
        rfl
  obtain ⟨readFragment, readQuery⟩ :=
    @partition_write path query fragment pathPlain queryPlain
  simp only [splitParts, write, splitScheme_write isScheme,
    splitNetloc_write netlocPlain ended, readFragment, readQuery]

end Written

section Cleaning

/-- The text has no character that is removed. -/
def Safe (text : List Char) : Prop :=
  ∀ char ∈ text, isUnsafe char = false

variable {scheme netloc path text : List Char}
  {query fragment : Option (List Char)}

theorem filter_of_safe (safe : Safe text) :
    text.filter (fun char => !isUnsafe char) = text :=
  List.filter_eq_self.mpr fun char member => by rw [safe char member]; rfl

theorem safe_filter (text : List Char) :
    Safe (text.filter fun char => !isUnsafe char) := by
  intro char member
  simpa using (List.mem_filter.mp member).2

theorem safe_clean (url : List Char) : Safe (clean url) :=
  safe_filter _

theorem clean_length_le (url : List Char) :
    (clean url).length ≤ url.length :=
  Nat.le_trans (List.length_filter_le _ _)
    (List.dropWhile_sublist _).length_le

/-- Letters are not removed. -/
theorem alpha_visible {char : Char} (isLetter : char.isAlpha = true) :
    isControlOrSpace char = false := by
  simp only [isControlOrSpace, decide_eq_false_iff_not, Nat.not_le]
  have codes := UnicodeTables.codes_of_isAlpha isLetter
  omega

theorem schemeChar_safe {char : Char} (inScheme : isSchemeChar char = true) :
    isUnsafe char = false := by
  rw [← Bool.not_eq_true]
  intro isRemoved
  simp only [isUnsafe, List.mem_cons, List.not_mem_nil, or_false,
    decide_eq_true_eq] at isRemoved
  rcases isRemoved with rfl | rfl | rfl
  all_goals exact absurd inScheme (by decide)

/-- What is removed from a text. -/
def removeUnsafe (text : List Char) : List Char :=
  text.filter fun char => !isUnsafe char

/-- A URL with a safe network location and path is cleaned after these. -/
theorem clean_write (isScheme : IsScheme scheme) (netlocSafe : Safe netloc)
    (pathSafe : Safe path) :
    clean (write scheme netloc path query fragment) =
      write scheme netloc path (query.map removeUnsafe)
        (fragment.map removeUnsafe) := by
  obtain ⟨begins, schemeChars⟩ := isScheme
  have schemeSafe : Safe scheme := fun char member =>
    schemeChar_safe (List.all_eq_true.mp schemeChars char member)
  have kept : (write scheme netloc path query fragment).dropWhile
      isControlOrSpace = write scheme netloc path query fragment := by
    cases scheme with
    | nil => cases begins
    | cons first scheme =>
        have isLetter : first.isAlpha = true := begins
        exact List.dropWhile_cons_of_neg (by simp [alpha_visible isLetter])
  have queryCleaned : (marked '?' query).filter (fun char => !isUnsafe char) =
      marked '?' (query.map removeUnsafe) := by
    cases query <;> rfl
  have fragmentCleaned : (marked '#' fragment).filter
      (fun char => !isUnsafe char) = marked '#' (fragment.map removeUnsafe) := by
    cases fragment <;> rfl
  have spread : ∀ rest, (':' :: '/' :: '/' :: rest).filter
      (fun char => !isUnsafe char) =
        ':' :: '/' :: '/' :: rest.filter (fun char => !isUnsafe char) :=
    fun _ => rfl
  rw [clean, kept]
  simp only [write, List.filter_append, filter_of_safe schemeSafe, spread,
    filter_of_safe netlocSafe, filter_of_safe pathSafe, queryCleaned,
    fragmentCleaned]

end Cleaning

section Results

/-- What is known of the parts of a URL. -/
structure WellSplit (split : SplitResult) : Prop where
  scheme_lower : ∀ char ∈ split.scheme,
    char.toNat < 128 ∧ char.toLower = char
  netloc_plain : ∀ char ∈ split.netloc, endsNetloc char = false
  netloc_valid : isValidNetloc split.netloc = true
  netloc_safe : Safe split.netloc
  path_plain : '?' ∉ split.path ∧ '#' ∉ split.path
  path_rooted : split.netloc ≠ [] → split.path.head?.all (· = '/') = true
  path_safe : Safe split.path
  query_plain : '#' ∉ split.query

variable {url : List Char} {split : SplitResult}

theorem urlsplit_eq_some :
    urlsplit url = some split ↔
      isValidNetloc split.netloc = true ∧ splitParts (clean url) = split := by
  unfold urlsplit
  dsimp only
  split
  · rename_i valid
    rw [Option.some_inj]
    constructor
    · rintro rfl
      exact ⟨valid, rfl⟩
    · exact And.right
  · rename_i notValid
    constructor
    · nofun
    · rintro ⟨valid, rfl⟩
      exact absurd valid notValid

theorem mem_splitScheme {char : Char} (member : char ∈ (splitScheme url).2) :
    char ∈ url := by
  unfold splitScheme at member
  split at member
  · rename_i first scheme rest parted
    split at member
    · rcases partition_cases ':' url with ⟨-, whole⟩ |
        ⟨before, after, -, rfl, whole⟩
      · rw [whole] at parted
        cases parted
      · rw [whole] at parted
        cases parted
        simp [member]
    · exact member
  · exact member

theorem schemeChar_ascii {char : Char} (inScheme : isSchemeChar char = true) :
    char.toNat < 128 := by
  rw [isSchemeChar, Bool.or_eq_true, decide_eq_true_eq] at inScheme
  rcases inScheme with alphanumeric | mark
  · rcases Bool.or_eq_true_iff.mp alphanumeric with isLetter | isDigit
    · have codes := UnicodeTables.codes_of_isAlpha isLetter
      omega
    · have codes := UnicodeTables.codes_of_isDigit isDigit
      omega
  · simp only [List.mem_cons, List.not_mem_nil, or_false] at mark
    rcases mark with rfl | rfl | rfl
    all_goals decide

/-- Schemes are returned in lower case. -/
theorem splitScheme_lower : ∀ char ∈ (splitScheme url).1,
    char.toNat < 128 ∧ char.toLower = char := by
  intro char member
  unfold splitScheme at member
  split at member
  · split at member
    · rename_i isScheme
      obtain ⟨-, schemeChars⟩ := Bool.and_eq_true_iff.mp isScheme
      obtain ⟨letter, inScheme, rfl⟩ := List.mem_map.mp member
      exact UnicodeTables.toLower_ascii (schemeChar_ascii
        (List.all_eq_true.mp schemeChars letter inScheme))
    · cases member
  · cases member

theorem splitScheme_length_lt (visible : (splitScheme url).1 ≠ []) :
    (splitScheme url).2.length < url.length := by
  unfold splitScheme at visible ⊢
  split at visible
  · rename_i first scheme rest parted
    split at visible
    · rename_i isScheme
      rcases partition_cases ':' url with ⟨-, whole⟩ |
        ⟨before, after, -, rfl, whole⟩
      · rw [whole] at parted
        cases parted
      · rw [whole] at parted
        cases parted
        simp only [isScheme, if_true, List.length_append,
          List.length_cons]
        omega
    · exact absurd rfl visible
  · exact absurd rfl visible

theorem splitScheme_of_nil (noScheme : (splitScheme url).1 = []) :
    (splitScheme url).2 = url := by
  unfold splitScheme at noScheme ⊢
  split
  · rename_i first scheme rest parted
    split
    · rename_i isScheme
      simp only [parted, isScheme, if_true] at noScheme
      cases noScheme
    · rfl
  · rfl

/-- The network location and the rest of a URL after its scheme. -/
theorem splitNetloc_cases (rest : List Char) :
    splitNetloc rest = ([], rest) ∨
      ∃ netloc after, rest = '/' :: '/' :: (netloc ++ after) ∧
        (∀ char ∈ netloc, endsNetloc char = false) ∧
        after.head?.all endsNetloc = true ∧
        splitNetloc rest = (netloc, after) := by
  unfold splitNetloc
  split
  · rename_i rest
    refine .inr ⟨_, _, (congrArg (fun text => '/' :: '/' :: text)
      List.takeWhile_append_dropWhile).symm, ?_, ?_, rfl⟩
    · intro char member
      simpa using List.mem_takeWhile_imp member
    · cases after : rest.dropWhile fun char => !endsNetloc char with
      | nil => rfl
      | cons first after =>
          have ends : (!endsNetloc first) = false := by
            simpa [after] using List.head?_dropWhile_not
              (fun char => !endsNetloc char) rest
          simpa using ends
  · exact .inl rfl

theorem mem_splitNetloc {rest : List Char} {char : Char} :
    (char ∈ (splitNetloc rest).1 → char ∈ rest) ∧
      (char ∈ (splitNetloc rest).2 → char ∈ rest) := by
  rcases splitNetloc_cases rest with whole | ⟨netloc, after, rfl, -, -, whole⟩
  · simp [whole]
  · rw [whole]
    constructor
    · intro member
      simp [member]
    · intro member
      simp [member]

theorem splitNetloc_length_le (rest : List Char) :
    (splitNetloc rest).2.length ≤ rest.length := by
  rcases splitNetloc_cases rest with whole | ⟨netloc, after, rfl, -, -, whole⟩
  · rw [whole]
  · rw [whole]
    simp only [List.length_cons, List.length_append]
    omega

/-- A path goes up to what ends it. -/
theorem rooted_of_begins {path after : List Char} (begins : path <+: after)
    (ended : after.head?.all endsNetloc = true) (noQuery : '?' ∉ path)
    (noFragment : '#' ∉ path) : path.head?.all (· = '/') = true := by
  cases path with
  | nil => rfl
  | cons first path =>
      obtain ⟨rest, rfl⟩ := begins
      have ends : first = '/' ∨ first = '?' ∨ first = '#' := by
        simpa [endsNetloc] using ended
      rcases ends with rfl | rfl | rfl
      · rfl
      · exact absurd List.mem_cons_self noQuery
      · exact absurd List.mem_cons_self noFragment

/-- What `urlsplit` returns is well split. -/
theorem wellSplit_of_urlsplit (read : urlsplit url = some split) :
    WellSplit split := by
  obtain ⟨valid, rfl⟩ := urlsplit_eq_some.mp read
  simp only [splitParts] at valid ⊢
  have safe : ∀ char ∈ (splitScheme (clean url)).2, isUnsafe char = false :=
    fun char member => safe_clean url char (mem_splitScheme member)
  generalize (splitScheme (clean url)).2 = rest at valid safe ⊢
  have pathPrefix : (partition '?' (partition '#' (splitNetloc rest).2).1).1
      <+: (partition '#' (splitNetloc rest).2).1 := partition_fst_begins _ _
  have pathInRest := pathPrefix.trans (partition_fst_begins '#' _)
  have noFragment : '#' ∉ (partition '#' (splitNetloc rest).2).1 :=
    notMem_partition_fst _ _
  exact {
    scheme_lower := splitScheme_lower
    netloc_plain := by
      rcases splitNetloc_cases rest with whole |
        ⟨netloc, after, -, plain, -, whole⟩
      · rw [whole]
        exact nofun
      · rwa [whole]
    netloc_valid := valid
    netloc_safe := fun char member => safe char (mem_splitNetloc.1 member)
    path_plain := ⟨notMem_partition_fst _ _,
      fun member => noFragment (pathPrefix.subset member)⟩
    path_rooted := by
      intro visible
      rcases splitNetloc_cases rest with whole |
        ⟨netloc, after, -, -, ended, whole⟩
      · rw [whole] at visible
        exact absurd rfl visible
      · have endedHere : (splitNetloc rest).2.head?.all endsNetloc = true := by
          rwa [whole]
        exact rooted_of_begins pathInRest endedHere (notMem_partition_fst _ _)
          fun member => noFragment (pathPrefix.subset member)
    path_safe := fun char member =>
      safe char (mem_splitNetloc.2 (pathInRest.subset member))
    query_plain := fun member =>
      noFragment ((partition_snd_suffix _ _).subset member) }

theorem query_length_le_rest (read : urlsplit url = some split) :
    split.query.length ≤ (splitScheme (clean url)).2.length := by
  obtain ⟨-, rfl⟩ := urlsplit_eq_some.mp read
  refine Nat.le_trans ?_ (splitNetloc_length_le _)
  exact Nat.le_trans (partition_snd_suffix _ _).length_le
    (partition_fst_begins _ _).length_le

theorem query_length_le (read : urlsplit url = some split) :
    split.query.length ≤ url.length := by
  have shorter : (splitScheme (clean url)).2.length ≤ (clean url).length := by
    by_cases noScheme : (splitScheme (clean url)).1 = []
    · rw [splitScheme_of_nil noScheme]
    · exact Nat.le_of_lt (splitScheme_length_lt noScheme)
  exact Nat.le_trans (query_length_le_rest read)
    (Nat.le_trans shorter (clean_length_le url))

/-- The query of a URL with a scheme is shorter than the URL. -/
theorem query_length_lt (read : urlsplit url = some split)
    (visible : split.scheme ≠ []) : split.query.length < url.length := by
  have shorter := query_length_le_rest read
  obtain ⟨-, rfl⟩ := urlsplit_eq_some.mp read
  exact Nat.lt_of_lt_of_le (Nat.lt_of_le_of_lt shorter
    (splitScheme_length_lt visible)) (clean_length_le url)

end Results

section NetlocParts

/-- The user information with its mark. -/
def atUser : Option (List Char) → List Char
  | none => []
  | some info => info ++ ['@']

variable {info : Option (List Char)} {host text : List Char}

theorem rpartition_atUser (absent : '@' ∉ text) :
    rpartition '@' (atUser info ++ text) = (info, text) := by
  cases info with
  | none => exact rpartition_of_notMem absent
  | some info =>
      rw [atUser, List.append_assoc, List.singleton_append,
        rpartition_append absent]

/-- A network location has user information and a host with its port. -/
theorem netloc_eq (netloc : List Char) :
    netloc = atUser (userinfo netloc) ++ (rpartition '@' netloc).2 ∧
      '@' ∉ (rpartition '@' netloc).2 := by
  unfold userinfo
  rcases rpartition_cases '@' netloc with ⟨absent, whole⟩ |
    ⟨first, second, absent, rfl, whole⟩
  · rw [whole]
    exact ⟨rfl, absent⟩
  · rw [whole]
    exact ⟨by simp [atUser], absent⟩

/-- User information is written back as it was read. -/
theorem userinfo_eq (netloc : List Char) :
    userinfo netloc = (username netloc).map fun name =>
      name ++ marked ':' (password netloc) := by
  unfold username password
  cases userinfo netloc with
  | none => rfl
  | some info =>
      rcases partition_cases ':' info with ⟨-, whole⟩ |
        ⟨first, second, -, rfl, whole⟩
      · simp [whole, marked]
      · simp [whole, marked]

/-- A host without brackets goes up to the first colon. -/
theorem hostinfo_atUser (noUser : '@' ∉ text) (noBracket : '[' ∉ text) :
    hostinfo (atUser info ++ text) =
      ((partition ':' text).1, (partition ':' text).2.getD []) := by
  simp only [hostinfo, rpartition_atUser noUser, partition_of_notMem noBracket]

theorem mem_hostinfo {netloc : List Char} {char : Char}
    (member : char ∈ (hostinfo netloc).1) :
    char ∈ (rpartition '@' netloc).2 := by
  simp only [hostinfo] at member
  rcases partition_cases '[' (rpartition '@' netloc).2 with ⟨-, parted⟩ |
    ⟨before, bracketed, -, rest, parted⟩
  · rw [parted] at member
    exact (partition_fst_begins _ _).subset member
  · rw [parted] at member
    rw [rest]
    exact List.mem_append_right _ (List.mem_cons_of_mem _
      ((partition_fst_begins _ _).subset member))

theorem mem_netloc {netloc : List Char} {char : Char}
    (member : char ∈ (rpartition '@' netloc).2) : char ∈ netloc := by
  obtain ⟨whole, -⟩ := netloc_eq netloc
  rw [whole]
  exact List.mem_append_right _ member

/-- Symbols of a host in lower case are those of the host. -/
theorem mem_lowerHost {tables : UnicodeTables} (lawful : tables.LawfulCase)
    {char : Char} (symbol : isSymbol char = true)
    (member : char ∈ lowerHost tables host) : char ∈ host := by
  rcases partition_cases '%' host with ⟨-, parted⟩ |
    ⟨name, scope, -, rfl, parted⟩
  · simp only [lowerHost, parted, marked, List.append_nil] at member
    exact lawful.mem_of_mem_lower member symbol
  · simp only [lowerHost, parted, marked] at member
    rcases List.mem_append.mp member with inName | inScope
    · exact List.mem_append_left _ (lawful.mem_of_mem_lower inName symbol)
    · exact List.mem_append_right _ inScope

end NetlocParts

end Tca.UrlSplitting
