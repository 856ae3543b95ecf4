import Tca.EmbeddedUrls
import Tca.FoldedWords

/-!
# The normal form of hashed texts

A text for hashes is put in lower case before the URLs in it are rewritten, and
rewriting can add capital letters: those of escapes, and those that come out of
a wrapper.  The file shows which texts reach a normal form.
-/

namespace Tca

open PythonTexts PercentEncoding UrlSplitting UnicodeTables

section Conditions

variable (tables : UnicodeTables)

/-- A URL in a text is taken out of a wrapper. -/
def IsUnwrapped (url : List Char) : Prop :=
  unwrapTelegramUrl tables (strip isPythonSpace url) ≠
    some (strip isPythonSpace url)

/-- Rewriting a URL adds no capital letters: its parameters are written without
them, and what comes out of a wrapper is in normal form. -/
structure KeepsSmall (url : List Char) (split : SplitResult)
    (netloc : List Char) : Prop where
  params : ∀ param ∈ keptParams tables split.query,
    (param.1 ++ param.2).all writtenSmall = true
  unwrapped : IsUnwrapped tables url → WordsFolded tables netloc ∧
    WordsFolded tables (canonicalizePath split.path)

/-- This holds of every URL in the folded text that can be rewritten. -/
def UrlsKeepSmall (text : List Char) : Prop :=
  ∀ url ∈ embeddedUrls 0 (foldText tables text), ∀ split netloc,
    splitUnwrapped tables (strip isPythonSpace url) = some split →
      rewrittenNetloc tables split = some netloc →
        KeepsSmall tables url split netloc

/-- Some URL in the folded text is taken out of a wrapper. -/
def HasUnwrapped (text : List Char) : Prop :=
  ∃ url ∈ embeddedUrls 0 (foldText tables text), IsUnwrapped tables url

/-- Words of letters and digits in lower case, separated by single spaces, which
are not changed by another normalization. -/
structure ReachesNormalForm (text : List Char) : Prop where
  words : ∃ words, normalizeHashText tables (some text) =
      [' '].intercalate words ∧
    ∀ word ∈ words, word ≠ [] ∧ ∀ char ∈ word,
      tables.isAlnum char = true ∧ tables.lower [char] = [char]
  idempotent : normalizeHashText tables
      (some (normalizeHashText tables (some text))) =
    normalizeHashText tables (some text)

variable {tables} {url netloc text : List Char} {split : SplitResult}
  (lawful : tables.LawfulCase) (folding : LawfulFolding tables)

include lawful folding

/-- A URL that is no wrapper has folded words in its network location and its
path. -/
theorem wordsFolded_of_not_unwrapped (folded : Folded tables url)
    (visible : ∀ char ∈ url, isPythonSpace char = false)
    (direct : ¬ IsUnwrapped tables url)
    (read : splitUnwrapped tables (strip isPythonSpace url) = some split)
    (rewritten : rewrittenNetloc tables split = some netloc) :
    WordsFolded tables netloc ∧
      WordsFolded tables (canonicalizePath split.path) := by
  have stripped : strip isPythonSpace url <:+: url :=
    (rstrip_begins _).isInfix.trans (List.dropWhile_suffix _).isInfix
  obtain ⟨target, unwrapped, targetRead⟩ := urlsplit_of_splitUnwrapped read
  rw [not_not.mp direct] at unwrapped
  obtain rfl := Option.some.inj unwrapped
  have cleaned : clean (strip isPythonSpace url) <:+: url :=
    (clean_within fun char member => visible char
      (stripped.subset member)).trans stripped
  obtain ⟨-, parts⟩ := urlsplit_eq_some.mp targetRead
  obtain ⟨netlocInside, pathInside⟩ :=
    splitParts_within (clean (strip isPythonSpace url))
  rw [parts] at netlocInside pathInside
  have netlocFolded :=
    folding.folded_part _ _ folded (netlocInside.trans cleaned)
  have pathFolded :=
    folding.folded_part _ _ folded (pathInside.trans cleaned)
  refine ⟨?_, wordsFolded_canonicalizePath folding pathFolded⟩
  unfold rewrittenNetloc at rewritten
  split at rewritten
  · obtain ⟨number, -, -, rfl⟩ := canonicalizeNetloc_eq_some.mp rewritten
    exact wordsFolded_writeNetloc lawful folding netlocFolded _
  · cases rewritten

/-- The words that rewriting writes are folded if it adds no capital
letters. -/
theorem partWords_folded (folded : Folded tables url)
    (visible : ∀ char ∈ url, isPythonSpace char = false)
    (read : splitUnwrapped tables (strip isPythonSpace url) = some split)
    (rewritten : rewrittenNetloc tables split = some netloc)
    (keeps : KeepsSmall tables url split netloc) :
    ∀ word ∈ partWords tables split netloc, Folded tables word := by
  have parts : WordsFolded tables netloc ∧
      WordsFolded tables (canonicalizePath split.path) := by
    by_cases unwrapped : IsUnwrapped tables url
    · exact keeps.unwrapped unwrapped
    · exact wordsFolded_of_not_unwrapped lawful folding folded visible
        unwrapped read rewritten
  have small := canonicalizeQuery_small_iff.mpr keeps.params
  have query : WordsFolded tables (canonicalizeQuery tables split.query) :=
    folding.wordsFolded_ascii fun char member =>
      ⟨queryChar_ascii (isQueryChar_urlencode _ char member),
        small char member⟩
  intro word isWord
  rcases List.mem_append.mp isWord with inNetloc | later
  · exact parts.1 word inNetloc
  rcases List.mem_append.mp later with inPath | inQuery
  · exact parts.2 word inPath
  · exact query word inQuery

end Conditions

section Rewriting

variable {tables : UnicodeTables} {text whole url netloc : List Char}
  {split : SplitResult} {char : Char}

variable (lawful : tables.LawfulCase) (folding : LawfulFolding tables)

include lawful folding

/-- The scheme of a URL does not change the word that it ends. -/
theorem folded_before_scheme {before scheme : List Char}
    (folded : Folded tables whole) (inside : before ++ text <:+: whole)
    (starts : startsUrl text = true)
    (supported : isSupportedHttpScheme scheme = true) :
    Folded tables (before ++ scheme) := by
  have lowered : tables.Lowered text := fun char member =>
    folded.lowered lawful char
      (inside.subset (List.mem_append_right _ member))
  have begins := starts_http lawful lowered starts
  have http : Folded tables (before ++ "http".toList) :=
    folding.folded_part _ _ folded
      ((List.prefix_append_right_inj before).mpr begins |>.isInfix.trans inside)
  rcases supported_cases supported with rfl | rfl
  · exact http
  · have letter : Folded tables ['s'] :=
      folding.fold_ascii _ (List.forall_mem_singleton.mpr (by decide))
    have joined := folding.folded_join _ _ 's' (by decide) http letter
    rwa [List.append_assoc] at joined

/-- The words of one rewritten URL, with the text before it. -/
theorem wordsFolded_match {before : List Char}
    (folded : Folded tables whole) (inside : before ++ text <:+: whole)
    (starts : startsUrl text = true)
    (keeps : ∀ split netloc,
      splitUnwrapped tables (strip isPythonSpace (visibleRun text)) =
          some split →
        rewrittenNetloc tables split = some netloc →
          KeepsSmall tables (visibleRun text) split netloc) :
    WordsFolded tables
      (before ++ canonicalizeMatch tables (visibleRun text)) := by
  have inRun : before ++ visibleRun text <:+: whole := by
    refine List.IsInfix.trans ?_ inside
    conv_rhs => rw [← visibleRun_append text, ← List.append_assoc]
    exact (List.prefix_append _ _).isInfix
  rcases canonicalizeMatch_cases lawful (visibleRun text) with same |
    ⟨split, netloc, read, rewritten⟩
  · rw [same]
    exact folding.wordsFolded_part folded inRun
  · obtain ⟨canonical, written⟩ :=
      canonicalizeMatch_of_rewritten lawful read rewritten
    have runFolded := folding.folded_part _ _ folded
      ((List.suffix_append before _).isInfix.trans inRun)
    intro word isWord
    rw [written, canonicalUrl,
      hashWords_canonicalText folding canonical] at isWord
    rcases List.mem_append.mp isWord with inScheme | inParts
    · exact folding.wordsFolded_part (folded_before_scheme lawful folding
        folded inside starts canonical.scheme_supported)
        List.infix_rfl word inScheme
    · exact partWords_folded lawful folding runFolded
        (visible_visibleRun text) read rewritten
        (keeps split netloc read rewritten) word inParts

theorem partWords_mem_match {before : List Char}
    (read : splitUnwrapped tables (strip isPythonSpace url) = some split)
    (rewritten : rewrittenNetloc tables split = some netloc) :
    ∀ word ∈ partWords tables split netloc,
      word ∈ hashWords tables (before ++ canonicalizeMatch tables url) := by
  intro word isWord
  obtain ⟨canonical, written⟩ :=
    canonicalizeMatch_of_rewritten lawful read rewritten
  rw [written, canonicalUrl, hashWords_canonicalText folding canonical]
  exact List.mem_append_right _ isWord

/-- The words of a folded text stay folded where rewriting the URLs in it adds
no capital letters. -/
theorem wordsFolded_rewritten {before result : List Char}
    {urls : List (List Char)} (rewrites : RewritesUrls tables text result urls)
    (folded : Folded tables whole) (inside : before ++ text <:+: whole)
    (keeps : ∀ url ∈ urls, ∀ split netloc,
      splitUnwrapped tables (strip isPythonSpace url) = some split →
        rewrittenNetloc tables split = some netloc →
          KeepsSmall tables url split netloc) :
    WordsFolded tables (before ++ result) := by
  induction rewrites generalizing before with
  | nil => exact folding.wordsFolded_part folded inside
  | plain starts _ ih =>
      rw [List.append_cons] at inside ⊢
      exact ih inside keeps
  | last starts ended =>
      exact wordsFolded_match lawful folding folded inside starts
        (List.forall_mem_singleton.mp keeps)
  | @next space text rest result urls starts after isSpace _ ih =>
      obtain ⟨keepsHere, keepsLater⟩ := List.forall_mem_cons.mp keeps
      have here :=
        wordsFolded_match lawful folding folded inside starts keepsHere
      have restInside : [] ++ rest <:+: whole := by
        refine List.IsInfix.trans ?_ inside
        rw [← visibleRun_append text, after]
        exact ((List.suffix_cons space rest).trans
          (List.suffix_append _ _)).isInfix.trans
            (List.suffix_append _ _).isInfix
      have later := ih restInside keepsLater
      intro word isWord
      rw [← List.append_assoc,
        hashWords_append_cons (folding.space_dropped isSpace)] at isWord
      rcases List.mem_append.mp isWord with inHere | inLater
      · exact here word inHere
      · exact later word inLater

/-- The text has all words that rewriting a URL in it writes. -/
theorem partWords_mem {before result : List Char} {urls : List (List Char)}
    (rewrites : RewritesUrls tables text result urls) (isUrl : url ∈ urls)
    (read : splitUnwrapped tables (strip isPythonSpace url) = some split)
    (rewritten : rewrittenNetloc tables split = some netloc) :
    ∀ word ∈ partWords tables split netloc,
      word ∈ hashWords tables (before ++ result) := by
  intro word isWord
  induction rewrites generalizing before with
  | nil => exact absurd isUrl List.not_mem_nil
  | plain starts _ ih =>
      rw [List.append_cons]
      exact ih isUrl
  | last starts ended =>
      rw [← List.mem_singleton.mp isUrl]
      exact partWords_mem_match lawful folding read rewritten word isWord
  | @next space text rest result urls starts after isSpace _ ih =>
      rw [← List.append_assoc,
        hashWords_append_cons (folding.space_dropped isSpace)]
      rcases List.mem_cons.mp isUrl with isHere | isLater
      · rw [← isHere]
        exact List.mem_append_left _
          (partWords_mem_match lawful folding read rewritten word isWord)
      · exact List.mem_append_right _ (@ih [] isLater)

end Rewriting

section NormalForm

variable {tables : UnicodeTables} {text : List Char}
  (lawful : tables.LawfulCase) (folding : LawfulFolding tables)

include folding

theorem normalizeHashText_eq (text : List Char) :
    normalizeHashText tables (some text) = [' '].intercalate
      (hashWords tables
        (normalizeEmbeddedUrls tables 0 (foldText tables text))) := by
  unfold normalizeHashText
  dsimp only
  split
  · rename_i nothing
    have folded : foldText tables [] = [] :=
      folding.fold_ascii [] fun _ absent => absurd absent List.not_mem_nil
    rw [nothing, folded]
    rfl
  · exact collapseNonAlphanumeric_eq folding _

/-- The words of a normalized text are those of the rewritten text. -/
theorem hashWords_normalizeHashText (text : List Char) :
    hashWords tables (normalizeHashText tables (some text)) = hashWords tables
      (normalizeEmbeddedUrls tables 0 (foldText tables text)) := by
  rw [normalizeHashText_eq folding, hashWords_collapsed folding]

/-- A normalized text has spaces, letters and digits. -/
theorem mem_normalizeHashText {char : Char}
    (member : char ∈ normalizeHashText tables (some text)) :
    char = ' ' ∨ tables.isAlnum char = true := by
  rw [normalizeHashText_eq folding] at member
  rcases mem_intercalate member with isSpace | ⟨word, isWord, inWord⟩
  · exact .inl isSpace
  · exact .inr ((mem_runs isWord).2.1 char inWord)

/-- No URL is found in a normalized text, folded again. -/
theorem noColon_normalizeHashText :
    ':' ∉ foldText tables (normalizeHashText tables (some text)) := by
  intro present
  obtain ⟨char, member, source⟩ := folding.fold_colon _ present
  rcases mem_normalizeHashText folding member with rfl | alnum
  · rcases source with isColon | delimiter
    · exact absurd isColon (by decide)
    · exact absurd delimiter (by decide)
  · rcases source with rfl | delimiter
    · rw [folding.notAlnum (by decide) (by decide)] at alnum
      cases alnum
    · rw [folding.alnum_delimiter char delimiter] at alnum
      cases alnum

/-- A second normalization folds the text and collapses it. -/
theorem normalizeHashText_again :
    normalizeHashText tables (some (normalizeHashText tables (some text))) =
      [' '].intercalate (hashWords tables
        (foldText tables (normalizeHashText tables (some text)))) := by
  rw [normalizeHashText_eq folding (normalizeHashText tables (some text)),
    normalizeEmbeddedUrls_of_noColon (noColon_normalizeHashText folding)]

include lawful

/-- Where rewriting adds no capital letters a normal form is reached. -/
theorem reachesNormalForm_of_keepsSmall
    (idempotent : Folded tables (foldText tables text))
    (keeps : UrlsKeepSmall tables text) : ReachesNormalForm tables text := by
  have folded : ∀ word ∈ hashWords tables
      (normalizeEmbeddedUrls tables 0 (foldText tables text)),
      Folded tables word :=
    @wordsFolded_rewritten tables _ _ lawful folding [] _ _
      (normalizeEmbeddedUrls_rewrites tables _) idempotent List.infix_rfl keeps
  refine ⟨⟨_, normalizeHashText_eq folding text, ?_⟩, ?_⟩
  · intro word isWord
    obtain ⟨visible, alnum, -⟩ := mem_runs isWord
    refine ⟨visible, fun char member => ⟨alnum char member, ?_⟩⟩
    exact lower_of_lowered (List.forall_mem_singleton.mpr
      ((folded word isWord).lowered lawful char member))
  · have whole : Folded tables (normalizeHashText tables (some text)) := by
      rw [normalizeHashText_eq folding]
      exact folding.folded_words folded
    rw [normalizeHashText_again folding, whole,
      hashWords_normalizeHashText folding, ← normalizeHashText_eq folding]

/-- A normal form shows that rewriting has added no capital letters. -/
theorem keepsSmall_of_reachesNormalForm
    (again : HasUnwrapped tables text → Folded tables
      (foldText tables (normalizeHashText tables (some text))))
    (normal : ReachesNormalForm tables text) : UrlsKeepSmall tables text := by
  obtain ⟨⟨words, joined, proper⟩, idempotent⟩ := normal
  have sameWords : hashWords tables
      (normalizeEmbeddedUrls tables 0 (foldText tables text)) = words := by
    rw [← hashWords_normalizeHashText folding, joined]
    exact runs_intercalate (folding.notAlnum (by decide) (by decide))
      fun word isWord => ⟨(proper word isWord).1,
        fun char member => ((proper word isWord).2 char member).1⟩
  intro url isUrl split netloc read rewritten
  have inWords : ∀ word ∈ partWords tables split netloc, word ∈ words := by
    intro word isWord
    rw [← sameWords]
    exact @partWords_mem tables _ _ _ _ lawful folding [] _ _
      (normalizeEmbeddedUrls_rewrites tables _) isUrl read rewritten word isWord
  constructor
  · apply canonicalizeQuery_small_iff.mp
    intro letter member
    have ascii := queryChar_ascii (isQueryChar_urlencode _ letter member)
    by_cases alnum : letter.isAlphanum = true
    · obtain ⟨word, isWord, inWord⟩ := @exists_mem_runs tables.isAlnum _ letter
        member (by rw [folding.alnum_ascii letter ascii, alnum])
      have inParts : word ∈ partWords tables split netloc :=
        List.mem_append_right _ (List.mem_append_right _ isWord)
      have stable := ((proper word (inWords word inParts)).2 letter inWord).2
      rw [lower_char lawful ascii] at stable
      exact List.singleton_inj.mp stable
    · exact @ascii_forall (fun letter => letter.isAlphanum ≠ true →
        letter.toLower = letter) (by decide) letter ascii alnum
  · intro unwrapped
    have folded := again ⟨url, isUrl, unwrapped⟩
    have folds : hashWords tables (foldText tables
        (normalizeHashText tables (some text))) = words := by
      rw [normalizeHashText_again folding] at idempotent
      rw [← hashWords_collapsed folding, idempotent,
        hashWords_normalizeHashText folding, sameWords]
    have wordsFolded : ∀ word ∈ words, Folded tables word := by
      rw [← folds]
      exact folding.wordsFolded_part folded List.infix_rfl
    exact ⟨fun word isWord => wordsFolded word (inWords word
        (List.mem_append_left _ isWord)),
      fun word isWord => wordsFolded word (inWords word
        (List.mem_append_right _ (List.mem_append_left _ isWord)))⟩

/-- A text reaches a normal form exactly if rewriting the URLs in it adds no
capital letters.  Folding must settle the text, and what is made of it if a
URL is taken out of a wrapper. -/
theorem hash_text_normal_iff
    (idempotent : Folded tables (foldText tables text))
    (again : HasUnwrapped tables text → Folded tables
      (foldText tables (normalizeHashText tables (some text)))) :
    ReachesNormalForm tables text ↔ UrlsKeepSmall tables text :=
  ⟨keepsSmall_of_reachesNormalForm lawful folding again,
    reachesNormalForm_of_keepsSmall lawful folding idempotent⟩

end NormalForm

section Sample

theorem asciiTables_folded_iff {text : List Char} :
    Folded asciiTables text ↔ asciiTables.Lowered text :=
  ⟨fun folded => folded.lowered asciiTables_lawfulCase, lower_of_lowered⟩

theorem asciiTables_alnum_ascii {char : Char}
    (alnum : asciiTables.isAlnum char = true) : char.toNat < 128 := by
  apply schemeChar_ascii
  rw [isSchemeChar, Bool.or_eq_true]
  exact .inl alnum

theorem asciiTables_lawfulFolding : LawfulFolding asciiTables where
  fold_ascii text ascii := by
    have whole := asciiTables_lawfulCase.lowerFrom_append ascii [] []
    rwa [List.append_nil, lowerFrom, List.append_nil] at whole
  folded_part text part folded inside := by
    rw [asciiTables_folded_iff] at folded ⊢
    exact fun char member => folded char (inside.subset member)
  folded_join first second char _ firstFolded secondFolded := by
    rw [asciiTables_folded_iff] at firstFolded secondFolded ⊢
    exact List.forall_mem_append.mpr ⟨firstFolded, secondFolded⟩
  folded_space text folded := by
    rw [asciiTables_folded_iff] at folded ⊢
    exact List.forall_mem_cons.mpr ⟨by decide, folded⟩
  fold_colon text member := ⟨':',
    asciiTables_lawfulCase.mem_of_mem_lower member (by decide), .inl rfl⟩
  alnum_ascii char _ := rfl
  alnum_visible char alnum := by
    have ascii := asciiTables_alnum_ascii alnum
    exact @ascii_forall (fun char => asciiTables.isAlnum char = true →
      isPythonSpace char = false) (by decide) char ascii alnum
  alnum_delimiter char delimiter := by
    rw [← Bool.not_eq_true]
    intro alnum
    have ascii := asciiTables_alnum_ascii alnum
    exact absurd delimiter (@ascii_forall (fun char =>
      ¬ nfkcDelimiters.contains char.toNat = true) (by decide) char
      ascii)

theorem asciiTables_idempotent (text : List Char) :
    Folded asciiTables (foldText asciiTables text) :=
  asciiTables_lawfulCase.lower_lower text

/-- A small letter outside ASCII is escaped with capital letters. -/
theorem accents_come_back_capital :
    Folded asciiTables (foldText asciiTables "https://h/?q=é".toList) ∧
      normalizeHashText asciiTables (some "https://h/?q=é".toList) =
        "https h q C3 A9".toList ∧
      normalizeHashText asciiTables (some "https h q C3 A9".toList) =
        "https h q c3 a9".toList ∧
      ¬ ReachesNormalForm asciiTables "https://h/?q=é".toList := by
  have once : normalizeHashText asciiTables (some "https://h/?q=é".toList) =
      "https h q C3 A9".toList := by decide
  have twice : normalizeHashText asciiTables
      (some "https h q C3 A9".toList) = "https h q c3 a9".toList := by
    decide
  refine ⟨asciiTables_idempotent _, once, twice, fun normal => ?_⟩
  have same := normal.idempotent
  rw [once, twice] at same
  exact absurd same (by decide)

theorem hash_text_normal_sample :
    ReachesNormalForm asciiTables "Read HTTPS://H/?b=2&a=x y".toList := by
  have text : embeddedUrls 0 (foldText asciiTables
      "Read HTTPS://H/?b=2&a=x y".toList) =
      ["https://h/?b=2&a=x".toList] := by decide
  refine (hash_text_normal_iff asciiTables_lawfulCase
    asciiTables_lawfulFolding (asciiTables_idempotent _)
    fun _ => asciiTables_idempotent _).mpr ?_
  intro url isUrl split netloc read rewritten
  rw [text, List.mem_singleton] at isUrl
  subst isUrl
  have parts : splitUnwrapped asciiTables
      (strip isPythonSpace "https://h/?b=2&a=x".toList) =
      some ⟨"https".toList, "h".toList, "/".toList, "b=2&a=x".toList, []⟩ := by
    decide
  obtain rfl := Option.some.inj (parts.symm.trans read)
  constructor
  · have kept : keptParams asciiTables "b=2&a=x".toList =
        [("b".toList, "2".toList), ("a".toList, "x".toList)] := by
      decide
    rw [kept]
    exact List.forall_mem_cons.mpr
      ⟨by decide, List.forall_mem_singleton.mpr (by decide)⟩
  · intro unwrapped
    exact absurd (show unwrapTelegramUrl asciiTables
      (strip isPythonSpace "https://h/?b=2&a=x".toList) =
      some (strip isPythonSpace "https://h/?b=2&a=x".toList) by
        decide) unwrapped

end Sample

end Tca
