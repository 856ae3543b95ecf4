import Tca.NetlocReading

/-!
# Canonical URLs of canonical URLs

`canonicalize_url` is applied to its own results when a stored link is read
again.  This file shows exactly which links lead to a canonical URL that stays
the same: the brackets around an address, a path that resolves to two slashes,
white space that the removed fragment uncovers, and a wrapper that shows up
only in the canonical URL are what can go wrong.
-/

namespace Tca

open PythonTexts PercentEncoding PosixPaths UrlSplitting

section Paths

variable {path : List Char}

theorem canonicalizePath_rootedPath {slashes : Nat}
    {components : List (List Char)} (number : slashes = 1 ∨ slashes = 2)
    (proper : ∀ component ∈ components, Proper component)
    (visible : components ≠ []) :
    canonicalizePath (rootedPath slashes components) =
        rootedPath slashes components ∧
      canonicalizePath (rootedPath slashes components ++ ['/']) =
        rootedPath slashes components ++ ['/'] := by
  have notEmpty : ∀ rest, rootedPath slashes components ++ rest ≠ [] := by
    intro rest
    rcases number with rfl | rfl <;> simp [rootedPath]
  have given : ∀ rest, pathOrRoot (rootedPath slashes components ++ rest) =
      rootedPath slashes components ++ rest := fun rest => if_neg (notEmpty rest)
  have bare := normpath_rootedPath number proper visible 0
  have slash := normpath_rootedPath number proper visible 1
  have lastVisible := @rootedPath_getLast? slashes components proper visible
  have notRoot : rootedPath slashes components ≠ ['/'] := by
    intro isRoot
    rw [isRoot] at lastVisible
    exact lastVisible rfl
  have givenBare := given []
  rw [List.replicate_zero, List.append_nil] at bare
  rw [List.append_nil] at givenBare
  constructor
  · rw [canonicalizePath, givenBare, bare]
    exact if_neg fun ended => lastVisible ended.1
  · rw [canonicalizePath, given, show ['/'] = List.replicate 1 '/' from rfl,
      slash]
    exact if_pos ⟨by simp, notRoot⟩

/-- A canonical path is its own canonical form unless it resolves to two
slashes. -/
theorem canonicalizePath_stable_iff
    (rooted : path.head?.all (· = '/') = true) :
    canonicalizePath (canonicalizePath path) = canonicalizePath path ↔
      normpath (pathOrRoot path) ≠ ['/', '/'] := by
  obtain ⟨slashes, components, number, proper, -, normalized⟩ :=
    normpath_rooted (pathOrRoot_rooted rooted)
  by_cases none : components = []
  · subst none
    rcases number with rfl | rfl
    · have isRoot : normpath (pathOrRoot path) = ['/'] := normalized
      have canonical : canonicalizePath path = ['/'] := by
        simp [canonicalizePath, isRoot]
      rw [canonical, isRoot]
      decide
    · have isDouble : normpath (pathOrRoot path) = ['/', '/'] := normalized
      rw [isDouble]
      refine iff_of_false ?_ fun different => different rfl
      rcases canonicalizePath_cases path with ⟨canonical, -⟩ | ⟨canonical, -⟩
      · rw [canonical, isDouble]
        decide
      · rw [canonical, isDouble]
        decide
  · obtain ⟨bare, slash⟩ := canonicalizePath_rootedPath number proper none
    refine iff_of_true ?_ ?_
    · rcases canonicalizePath_cases path with ⟨canonical, -⟩ | ⟨canonical, -⟩
      · rw [canonical, normalized, bare]
      · rw [canonical, normalized, slash]
    · intro isDouble
      have lastVisible := @rootedPath_getLast? slashes components proper none
      rw [← normalized, isDouble] at lastVisible
      exact lastVisible rfl

theorem endsInSpace_canonicalizePath :
    endsInSpace (canonicalizePath path) = false ↔
      path.getLast? = some '/' ∨
        endsInSpace (normpath (pathOrRoot path)) = false := by
  rcases canonicalizePath_cases path with ⟨canonical, root⟩ |
    ⟨canonical, ended, -⟩
  · rw [canonical]
    refine ⟨.inr, ?_⟩
    rintro (ended | visible)
    · rw [root ended]
      decide
    · exact visible
  · rw [canonical]
    refine iff_of_true ?_ (.inl ended)
    simp [endsInSpace]
    decide

theorem wrapperPath_canonicalizePath :
    canonicalizePath path ∈ telegramWrapperPaths ↔
      path.getLast? ≠ some '/' ∧
        normpath (pathOrRoot path) ∈ telegramWrapperPaths := by
  have noSlash : ∀ wrapper ∈ telegramWrapperPaths,
      wrapper.getLast? ≠ some '/' := by decide
  rcases canonicalizePath_cases path with ⟨canonical, root⟩ |
    ⟨canonical, ended, -⟩
  · rw [canonical]
    refine ⟨fun member => ⟨fun ended => ?_, member⟩, And.right⟩
    rw [root ended] at member
    exact absurd member (by decide)
  · rw [canonical]
    refine iff_of_false ?_ fun wrapper => wrapper.1 ended
    intro member
    exact noSlash _ member (by simp)

theorem rstrip_head (begins : path.head? = some '/') :
    (rstrip isPythonSpace path).head? = some '/' := by
  cases path with
  | nil => cases begins
  | cons first rest =>
      rw [Option.some.inj begins]
      have kept := @rstrip_append isPythonSpace '/' [] rest (by decide)
      rw [List.nil_append] at kept
      rw [kept]
      rfl

/-- White space at the end of a canonical path is lost. -/
theorem endsInSpace_of_rstrip (begins : path.head? = some '/')
    (same : canonicalizePath (rstrip isPythonSpace path) = path) :
    endsInSpace path = false := by
  rw [← Bool.not_eq_true]
  intro space
  rcases List.eq_nil_or_concat path with rfl | ⟨front, last, whole⟩
  · cases begins
  rw [List.concat_eq_append] at whole
  have isSpace : isPythonSpace last = true := by
    simpa [endsInSpace, whole] using space
  have shorter : (rstrip isPythonSpace path).length < path.length := by
    rw [whole]
    exact rstrip_length_lt isSpace
  have trimmedBegins := rstrip_head begins
  have given : pathOrRoot (rstrip isPythonSpace path) =
      rstrip isPythonSpace path := by
    refine if_neg fun nothing => ?_
    rw [nothing] at trimmedBegins
    cases trimmedBegins
  rcases canonicalizePath_cases (rstrip isPythonSpace path) with
    ⟨canonical, -⟩ | ⟨canonical, -⟩
  · have normalizedShorter := normpath_length_le trimmedBegins
    rw [given, same] at canonical
    rw [← canonical] at normalizedShorter
    omega
  · rw [same] at canonical
    have isSlash : last = '/' := by
      have lasts := congrArg List.getLast? (whole.symm.trans canonical)
      simpa using lasts
    rw [isSlash] at isSpace
    exact absurd isSpace (by decide)

end Paths

section ReadAgain

variable {tables : UnicodeTables} {split : SplitResult}
  {scheme netloc path query : List Char}

/-- The path of a canonical URL that is read again: without a query, white
space at its end is stripped. -/
def trimmedPath (path query : List Char) : List Char :=
  if query = [] then rstrip isPythonSpace path else path

theorem trimmedPath_begins (path query : List Char) :
    trimmedPath path query <+: path := by
  unfold trimmedPath
  split
  · exact rstrip_begins path
  · exact List.prefix_rfl

theorem trimmedPath_of_visible (query : List Char)
    (visible : endsInSpace path = false) : trimmedPath path query = path := by
  unfold trimmedPath
  split
  · exact rstrip_of_visible visible
  · rfl

theorem Canonical.trimmed (canonical : Canonical scheme netloc path query) :
    Canonical scheme netloc (trimmedPath path query) query where
  scheme_supported := canonical.scheme_supported
  netloc_plain := canonical.netloc_plain
  netloc_safe := canonical.netloc_safe
  path_rooted := by
    unfold trimmedPath
    split
    · exact rstrip_head canonical.path_rooted
    · exact canonical.path_rooted
  path_plain :=
    ⟨fun member => canonical.path_plain.1
        ((trimmedPath_begins path query).subset member),
      fun member => canonical.path_plain.2
        ((trimmedPath_begins path query).subset member)⟩
  path_safe char member :=
    canonical.path_safe char ((trimmedPath_begins path query).subset member)
  query_chars := canonical.query_chars

/-- Stripping a canonical URL trims its path. -/
theorem Canonical.strip_text (canonical : Canonical scheme netloc path query) :
    strip isPythonSpace (canonicalText scheme netloc path query) =
      canonicalText scheme netloc (trimmedPath path query) query := by
  have begins : ∃ rest, scheme = 'h' :: rest := by
    rcases supported_cases canonical.scheme_supported with rfl | rfl
    · exact ⟨_, rfl⟩
    · exact ⟨_, rfl⟩
  have stripped : strip isPythonSpace (canonicalText scheme netloc path query) =
      rstrip isPythonSpace (canonicalText scheme netloc path query) := by
    obtain ⟨rest, rfl⟩ := begins
    exact strip_eq_rstrip (by decide)
  have spread : ∀ path, canonicalText scheme netloc path query =
      (scheme ++ ':' :: '/' :: '/' :: netloc) ++
        (path ++ marked '?' (nonempty query)) := by
    intro path
    simp [canonicalText, write, marked]
  rw [stripped, spread, spread]
  by_cases noQuery : query = []
  · have ending : marked '?' (nonempty query) = [] := by
      simp [nonempty, noQuery, marked]
    rw [ending, List.append_nil, List.append_nil, trimmedPath, if_pos noQuery]
    have rooted := canonical.path_rooted
    cases path with
    | nil => cases rooted
    | cons first rest =>
        rw [Option.some.inj rooted]
        exact rstrip_append_cons (by decide)
  · rcases List.eq_nil_or_concat query with nothing | ⟨front, last, whole⟩
    · exact absurd nothing noQuery
    · rw [List.concat_eq_append] at whole
      have ending : marked '?' (nonempty query) = '?' :: front ++ [last] := by
        simp [nonempty, marked, whole]
      have visible := (queryChar_safe (canonical.query_chars last
        (by simp [whole]))).2.2
      rw [ending, trimmedPath, if_neg noQuery, ← List.append_assoc,
        ← List.append_assoc]
      exact rstrip_concat visible

/-- The canonical URL of a split URL. -/
def canonicalUrl (tables : UnicodeTables) (split : SplitResult)
    (netloc : List Char) : List Char :=
  canonicalText split.scheme netloc (canonicalizePath split.path)
    (canonicalizeQuery tables split.query)

/-- The canonical URL of a split URL, stripped and split. -/
def readAgain (tables : UnicodeTables) (split : SplitResult)
    (netloc : List Char) : SplitResult where
  scheme := split.scheme
  netloc := netloc
  path := trimmedPath (canonicalizePath split.path)
    (canonicalizeQuery tables split.query)
  query := canonicalizeQuery tables split.query
  fragment := []

variable (lawful : tables.LawfulCase)

include lawful

/-- The target of a wrapper is too short to have the wrapper's canonical URL. -/
theorem not_wrapped_of_same (canonical : Canonical split.scheme netloc
      (canonicalizePath split.path) (canonicalizeQuery tables split.query))
    {inner target : List Char}
    (wrapped : wrappedTarget tables (readAgain tables split netloc) =
      some inner)
    (unwrapped : unwrapRounds tables 1 (unquote inner) = some target) :
    (urlsplit target).bind (canonicalizeSplit tables) ≠
      some (canonicalUrl tables split netloc) := by
  intro same
  obtain ⟨other, read, rewritten⟩ := Option.bind_eq_some_iff.mp same
  have wellSplit := wellSplit_of_urlsplit read
  obtain ⟨supported, otherNetloc, writtenOther, sameText⟩ :=
    (canonicalizeSplit_eq_some lawful wellSplit).mp rewritten
  have otherCanonical :=
    canonical_of_netloc lawful wellSplit supported writtenOther
  obtain ⟨-, -, -, sameQuery⟩ := canonical.text_inj otherCanonical sameText
  have visible : other.scheme ≠ [] := by
    intro nothing
    rw [nothing] at supported
    cases supported
  obtain ⟨-, -, member⟩ := wrappedTarget_eq_some wrapped
  have inKept : ("url".toList, inner) ∈ keptParams tables split.query :=
    (parseQsl_canonicalizeQuery tables split.query).mem_iff.mp member
  have inOther : ("url".toList, inner) ∈ parseQsl other.query :=
    (List.mem_filter.mp
      ((canonicalizeQuery_eq_iff.mp sameQuery).mem_iff.mp inKept)).1
  have shorter : inner.length < inner.length :=
    calc inner.length
      _ ≤ other.query.length := value_length_le inOther
      _ < target.length := query_length_lt read visible
      _ ≤ (unquote inner).length := unwrapRounds_length_le unwrapped
      _ ≤ inner.length := unquote_length_le inner
  exact Nat.lt_irrefl _ shorter

/-- A canonical URL is its own canonical form if it is accepted, is no wrapper
and has rewritten parts. -/
theorem canonicalizeUrl_again_iff (canonical : Canonical split.scheme netloc
      (canonicalizePath split.path) (canonicalizeQuery tables split.query)) :
    canonicalizeUrl tables (some (canonicalUrl tables split netloc)) =
        some (canonicalUrl tables split netloc) ↔
      isValidNetloc netloc = true ∧
        wrappedTarget tables (readAgain tables split netloc) = none ∧
        canonicalizeSplit tables (readAgain tables split netloc) =
          some (canonicalUrl tables split netloc) := by
  have read := canonical.trimmed.urlsplit_text
  rw [canonicalizeUrl_eq_bind, canonicalUrl, canonical.strip_text,
    ← canonicalUrl, splitUnwrapped, unwrapTelegramUrl]
  by_cases valid : isValidNetloc netloc = true
  · rw [if_pos valid] at read
    have readParts : urlsplit (canonicalText split.scheme netloc
        (trimmedPath (canonicalizePath split.path)
          (canonicalizeQuery tables split.query))
        (canonicalizeQuery tables split.query)) =
          some (readAgain tables split netloc) := read
    cases wrapped : wrappedTarget tables (readAgain tables split netloc) with
    | none =>
        rw [unwrapRounds_of_none readParts wrapped, Option.bind_some, readParts,
          Option.bind_some]
        simp only [valid, true_and]
    | some inner =>
        rw [unwrapRounds_of_some readParts wrapped]
        constructor
        · intro same
          cases unwrapped : unwrapRounds tables 1 (unquote inner) with
          | none =>
              rw [unwrapped] at same
              cases same
          | some target =>
              rw [unwrapped] at same
              exact absurd same
                (not_wrapped_of_same lawful canonical wrapped unwrapped)
        · rintro ⟨-, notWrapped, -⟩
          cases notWrapped
  · rw [if_neg valid] at read
    rw [unwrapRounds_of_unreadable read]
    simp [valid]

/-- The parts of a canonical URL that is read again have to stay the same. -/
theorem canonicalizeSplit_readAgain
    (canonical : Canonical split.scheme netloc (canonicalizePath split.path)
      (canonicalizeQuery tables split.query))
    (valid : isValidNetloc netloc = true) :
    canonicalizeSplit tables (readAgain tables split netloc) =
        some (canonicalUrl tables split netloc) ↔
      canonicalizeNetloc tables (readAgain tables split netloc) split.scheme =
          some netloc ∧
        canonicalizePath (readAgain tables split netloc).path =
          canonicalizePath split.path := by
  have read := canonical.trimmed.urlsplit_text
  rw [if_pos valid] at read
  have wellSplit : WellSplit (readAgain tables split netloc) :=
    wellSplit_of_urlsplit read
  have sameQuery := canonicalizeQuery_canonicalizeQuery tables split.query
  rw [canonicalizeSplit_eq_some lawful wellSplit]
  constructor
  · rintro ⟨supported, other, written, same⟩
    have otherCanonical :=
      canonical_of_netloc lawful wellSplit supported written
    obtain ⟨-, rfl, samePath, -⟩ := canonical.text_inj otherCanonical same
    exact ⟨written, samePath.symm⟩
  · rintro ⟨written, samePath⟩
    refine ⟨canonical.scheme_supported, netloc, written, ?_⟩
    rw [samePath]
    simp only [readAgain, canonicalUrl, sameQuery]

omit lawful in
/-- When the path of a canonical URL stays the same. -/
theorem canonicalizePath_readAgain (canonical : Canonical split.scheme netloc
      (canonicalizePath split.path) (canonicalizeQuery tables split.query))
    (rooted : split.path.head?.all (· = '/') = true) :
    canonicalizePath (readAgain tables split netloc).path =
        canonicalizePath split.path ↔
      normpath (pathOrRoot split.path) ≠ ['/', '/'] ∧
        (keptParams tables split.query ≠ [] ∨
          endsInSpace (canonicalizePath split.path) = false) := by
  rw [← canonicalizePath_stable_iff rooted]
  change canonicalizePath (trimmedPath _ _) = _ ↔ _
  by_cases noQuery : canonicalizeQuery tables split.query = []
  · have noParams := canonicalizeQuery_eq_nil_iff.mp noQuery
    constructor
    · intro same
      rw [trimmedPath, if_pos noQuery] at same
      have visible := endsInSpace_of_rstrip canonical.path_rooted same
      have kept := trimmedPath_of_visible
        (canonicalizeQuery tables split.query) visible
      rw [trimmedPath, if_pos noQuery] at kept
      rw [kept] at same
      exact ⟨same, .inr visible⟩
    · rintro ⟨same, some | visible⟩
      · exact absurd noParams some
      · rwa [trimmedPath_of_visible _ visible]
  · have some : keptParams tables split.query ≠ [] := fun noParams =>
      noQuery (canonicalizeQuery_eq_nil_iff.mpr noParams)
    rw [trimmedPath, if_neg noQuery]
    exact ⟨fun same => ⟨same, .inl some⟩, And.left⟩

theorem url_not_tracking :
    isTrackingQueryParam tables "url".toList = false := by
  have lowered : tables.lower "url".toList = "url".toList := by
    have ascii : ∀ char ∈ "url".toList, char.toNat < 128 := by simp
    have lowered := lawful.lowerFrom_append ascii [] []
    rw [List.append_nil] at lowered
    exact lowered
  rw [isTrackingQueryParam, lowered]
  decide

theorem mem_parseQsl_url {value : List Char} :
    ("url".toList, value) ∈ parseQsl (canonicalizeQuery tables split.query) ↔
      ("url".toList, value) ∈ parseQsl split.query := by
  rw [(parseQsl_canonicalizeQuery tables split.query).mem_iff, keptParams,
    List.mem_filter, url_not_tracking lawful]
  simp

end ReadAgain

section Idempotence

/-- The host of a canonical URL up to its first colon. -/
def canonicalName (tables : UnicodeTables) (split : SplitResult) : List Char :=
  (partition ':' (canonicalHost tables (hostinfo split.netloc).1)).1

/-- A split URL whose canonical URL is read back unchanged. -/
structure ReadsBackUnchanged (tables : UnicodeTables) (split : SplitResult) :
    Prop where
  /-- A host in brackets can be written without them. -/
  host : ∀ number, port split.netloc = some number →
    '[' ∈ (rpartition '@' split.netloc).2 →
      ReadsWithoutBrackets split.scheme (userinfo split.netloc)
        (canonicalHost tables (hostinfo split.netloc).1)
        (writtenPort split.scheme number)
  /-- The path does not resolve to two slashes. -/
  path : normpath (pathOrRoot split.path) ≠ ['/', '/']
  /-- The canonical URL does not end in white space. -/
  ending : keptParams tables split.query ≠ [] ∨
    split.path.getLast? = some '/' ∨
    endsInSpace (normpath (pathOrRoot split.path)) = false
  /-- The canonical URL is no wrapper. -/
  wrapper : ¬ (canonicalName tables split ∈ telegramWrapperHosts ∧
    split.path.getLast? ≠ some '/' ∧
    normpath (pathOrRoot split.path) ∈ telegramWrapperPaths ∧
    ∃ value, ("url".toList, value) ∈ parseQsl split.query)

variable {tables : UnicodeTables} {split : SplitResult} {netloc : List Char}
  (lawful : tables.LawfulCase)

include lawful

/-- Whether the canonical URL is a wrapper. -/
theorem wrappedTarget_readAgain
    (hostRead : hostname tables netloc = some (canonicalName tables split))
    (visible : endsInSpace (canonicalizePath split.path) = false ∨
      keptParams tables split.query ≠ []) :
    wrappedTarget tables (readAgain tables split netloc) = none ↔
      ¬ (canonicalName tables split ∈ telegramWrapperHosts ∧
        split.path.getLast? ≠ some '/' ∧
        normpath (pathOrRoot split.path) ∈ telegramWrapperPaths ∧
        ∃ value, ("url".toList, value) ∈ parseQsl split.query) := by
  have kept : (readAgain tables split netloc).path =
      canonicalizePath split.path := by
    rcases visible with noSpace | some
    · exact trimmedPath_of_visible _ noSpace
    · exact if_neg fun noQuery =>
        some (canonicalizeQuery_eq_nil_iff.mp noQuery)
  have isHost : (hostname tables (readAgain tables split netloc).netloc).any
      (· ∈ telegramWrapperHosts) = true ↔
        canonicalName tables split ∈ telegramWrapperHosts := by
    change (hostname tables netloc).any _ = true ↔ _
    rw [hostRead, Option.any_some, decide_eq_true_eq]
  have params : (∃ value, ("url".toList, value) ∈
      parseQsl (readAgain tables split netloc).query) ↔
        ∃ value, ("url".toList, value) ∈ parseQsl split.query :=
    exists_congr fun value => mem_parseQsl_url lawful
  rw [wrappedTarget_eq_none_iff, isHost, kept, wrapperPath_canonicalizePath,
    params, and_assoc]

/-- The host of a canonical URL, as it is read again. -/
theorem hostname_readAgain {number : Option Nat}
    (visible : (hostinfo split.netloc).1 ≠ [])
    (portRead : port split.netloc = some number)
    (sameNetloc : netloc = writeNetloc (userinfo split.netloc)
      (canonicalHost tables (hostinfo split.netloc).1)
      (writtenPort split.scheme number))
    (reads : '[' ∈ (rpartition '@' split.netloc).2 →
      ReadsWithoutBrackets split.scheme (userinfo split.netloc)
        (canonicalHost tables (hostinfo split.netloc).1)
        (writtenPort split.scheme number)) :
    hostname tables netloc = some (canonicalName tables split) := by
  have written := writtenHost lawful split.scheme visible portRead
  rw [sameNetloc]
  by_cases opening : '[' ∈ (rpartition '@' split.netloc).2
  · exact written.hostname_eq (reads opening).host_plain
      (reads opening).name_visible
  · obtain ⟨noColon, -⟩ := hostinfo_plain opening
    refine written.hostname_eq ?_ ?_
    · rw [mem_canonicalHost lawful (by decide) (by decide)]
      exact fun member => opening (mem_hostinfo member)
    · rw [partition_of_notMem]
      · exact written.visible
      · rwa [mem_canonicalHost lawful (by decide) (by decide)]

/-- A split URL reads back unchanged exactly if its canonical URL is its own
canonical form. -/
theorem readsBackUnchanged_iff (wellSplit : WellSplit split)
    (supported : isSupportedHttpScheme split.scheme = true)
    (written : canonicalizeNetloc tables split split.scheme = some netloc) :
    canonicalizeUrl tables (some (canonicalUrl tables split netloc)) =
        some (canonicalUrl tables split netloc) ↔
      ReadsBackUnchanged tables split := by
  have canonical := canonical_of_netloc lawful wellSplit supported written
  obtain ⟨number, visible, portRead, sameNetloc⟩ :=
    canonicalizeNetloc_eq_some.mp written
  have netlocVisible : split.netloc ≠ [] := by
    intro nothing
    rw [nothing] at visible
    exact visible rfl
  have readsBack := @readsBack_iff tables split.scheme split.netloc
    (readAgain tables split netloc) number lawful wellSplit.netloc_valid visible
    portRead sameNetloc
  have pathAgain := canonicalizePath_readAgain canonical
    (wellSplit.path_rooted netlocVisible)
  rw [canonicalizeUrl_again_iff lawful canonical]
  constructor
  · rintro ⟨valid, notWrapped, rewritten⟩
    obtain ⟨netlocKept, pathKept⟩ :=
      (canonicalizeSplit_readAgain lawful canonical valid).mp rewritten
    have reads := readsBack.mp ⟨valid, netlocKept⟩
    obtain ⟨notDouble, ending⟩ := pathAgain.mp pathKept
    have hostRead :=
      hostname_readAgain lawful visible portRead sameNetloc reads
    exact {
      host := by
        intro other otherRead
        cases portRead.symm.trans otherRead
        exact reads
      path := notDouble
      ending := ending.imp_right endsInSpace_canonicalizePath.mp
      wrapper := (wrappedTarget_readAgain lawful hostRead ending.symm).mp
        notWrapped }
  · intro unchanged
    have reads := unchanged.host number portRead
    obtain ⟨valid, netlocKept⟩ := readsBack.mpr reads
    have ending := unchanged.ending.imp_right endsInSpace_canonicalizePath.mpr
    have hostRead :=
      hostname_readAgain lawful visible portRead sameNetloc reads
    refine ⟨valid, ?_, ?_⟩
    · exact (wrappedTarget_readAgain lawful hostRead ending.symm).mpr
        unchanged.wrapper
    · exact (canonicalizeSplit_readAgain lawful canonical valid).mpr
        ⟨netlocKept, pathAgain.mpr ⟨unchanged.path, ending⟩⟩

/-- `canonicalize_url` leaves a canonical URL as it is exactly if the split URL
that it was written for reads back unchanged. -/
theorem canonical_url_stable_iff {value url : List Char}
    (canonicalized : canonicalizeUrl tables (some value) = some url) :
    canonicalizeUrl tables (some url) = some url ↔
      ∃ split, splitUnwrapped tables (strip isPythonSpace value) = some split ∧
        ReadsBackUnchanged tables split := by
  rw [canonicalizeUrl_eq_bind] at canonicalized
  obtain ⟨split, unwrapped, rewritten⟩ :=
    Option.bind_eq_some_iff.mp canonicalized
  obtain ⟨target, -, read⟩ := urlsplit_of_splitUnwrapped unwrapped
  have wellSplit := wellSplit_of_urlsplit read
  obtain ⟨supported, netloc, written, sameUrl⟩ :=
    (canonicalizeSplit_eq_some lawful wellSplit).mp rewritten
  have unchanged := readsBackUnchanged_iff lawful wellSplit supported written
  rw [canonicalUrl, ← sameUrl] at unchanged
  rw [unchanged, unwrapped]
  simp

omit lawful in
/-- A canonical URL that stays the same. -/
theorem canonical_url_stable_sample :
    canonicalizeUrl UnicodeTables.asciiTables
        (some "HTTP://Example.com:80/a/../b/?utm_x=1&q=1".toList) =
        some "http://example.com/b/?q=1".toList ∧
      (canonicalizeUrl UnicodeTables.asciiTables
          (some "http://example.com/b/?q=1".toList) =
          some "http://example.com/b/?q=1".toList ↔
        ∃ split, splitUnwrapped UnicodeTables.asciiTables
            (strip isPythonSpace
              "HTTP://Example.com:80/a/../b/?utm_x=1&q=1".toList) =
            some split ∧
          ReadsBackUnchanged UnicodeTables.asciiTables split) :=
  ⟨by decide, canonical_url_stable_iff
    UnicodeTables.asciiTables_lawfulCase (by decide)⟩

omit lawful in
/-- Two slashes become three, and three become one. -/
theorem double_slash_url_changes :
    canonicalizeUrl UnicodeTables.asciiTables
        (some "https://example.com//".toList) =
        some "https://example.com///".toList ∧
      canonicalizeUrl UnicodeTables.asciiTables
        (some "https://example.com///".toList) =
        some "https://example.com/".toList := by
  decide

end Idempotence

end Tca
