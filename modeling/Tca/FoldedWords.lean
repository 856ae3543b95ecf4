import Tca.TextNormalization
import Tca.UrlIdempotence
import Tca.UrlWrappers

/-!
# Words in normal form

Texts for hashes are made of words, the runs of letters and digits.  The file
describes words that folding does not change, and the words of canonical URLs:
those of the network location and of the path come out of the URL, those of the
query are written anew.
-/

namespace Tca

open PythonTexts PercentEncoding PosixPaths UrlSplitting UnicodeTables Utf8

section Folding

variable (tables : UnicodeTables)

/-- The compatibility form in lower case is the text itself. -/
def Folded (text : List Char) : Prop :=
  foldText tables text = text

/-- The words of a text for hashes: its runs of letters and digits. -/
def hashWords (text : List Char) : List (List Char) :=
  runs tables.isAlnum text

/-- Every word of a text is folded. -/
def WordsFolded (text : List Char) : Prop :=
  ∀ word ∈ hashWords tables text, Folded tables word

/-- What is known of compatibility forms and of letters and digits. -/
structure LawfulFolding : Prop where
  fold_ascii : ∀ text : List Char, (∀ char ∈ text, char.toNat < 128) →
    foldText tables text = text.map Char.toLower
  /-- Normal forms are closed under parts. -/
  folded_part : ∀ text part : List Char, Folded tables text → part <:+: text →
    Folded tables part
  /-- An ASCII character does not combine with what is before it. -/
  folded_join : ∀ (first second : List Char) (char : Char),
    char.toNat < 128 → Folded tables first → Folded tables (char :: second) →
      Folded tables (first ++ char :: second)
  /-- A space does not combine with what follows it either. -/
  folded_space : ∀ text : List Char, Folded tables text →
    Folded tables (' ' :: text)
  /-- Colons come from colons and from characters that stand for them. -/
  fold_colon : ∀ text : List Char, ':' ∈ foldText tables text →
    ∃ char ∈ text, char = ':' ∨ nfkcDelimiters.contains char.toNat = true
  alnum_ascii : ∀ char : Char, char.toNat < 128 →
    tables.isAlnum char = char.isAlphanum
  alnum_visible : ∀ char : Char, tables.isAlnum char = true →
    isPythonSpace char = false
  alnum_delimiter : ∀ char : Char,
    nfkcDelimiters.contains char.toNat = true → tables.isAlnum char = false

variable {tables} {first second text part : List Char} {char : Char}

theorem Folded.lowered (lawful : tables.LawfulCase)
    (folded : Folded tables text) : tables.Lowered text := by
  have lowered := lawful.lowered_lower (tables.nfkc text)
  unfold Folded foldText at folded
  rwa [folded] at lowered

theorem lower_char (lawful : tables.LawfulCase) (ascii : char.toNat < 128) :
    tables.lower [char] = [char.toLower] := by
  have here := lawful.lowerFrom_append (List.forall_mem_singleton.mpr ascii)
    [] []
  rwa [List.append_nil] at here

variable (folding : LawfulFolding tables)

include folding

theorem LawfulFolding.notAlnum (ascii : char.toNat < 128)
    (mark : char.isAlphanum = false) : tables.isAlnum char = false := by
  rw [folding.alnum_ascii char ascii, mark]

/-- White space is in no word. -/
theorem LawfulFolding.space_dropped (space : isPythonSpace char = true) :
    tables.isAlnum char = false := by
  rw [← Bool.not_eq_true]
  intro alnum
  rw [folding.alnum_visible char alnum] at space
  cases space

theorem LawfulFolding.wordsFolded_part (folded : Folded tables text)
    (inside : part <:+: text) : WordsFolded tables part := by
  intro word isWord
  have wordInside := (mem_runs isWord).2.2
  exact folding.folded_part text word folded (wordInside.trans inside)

/-- An ASCII text of small letters has folded words. -/
theorem LawfulFolding.wordsFolded_ascii
    (small : ∀ char ∈ text, char.toNat < 128 ∧ char.toLower = char) :
    WordsFolded tables text := by
  have folded : Folded tables text := by
    rw [Folded, folding.fold_ascii text fun char member =>
      (small char member).1]
    have same : text.map Char.toLower = text.map id :=
      List.map_congr_left fun char member => (small char member).2
    rw [same, List.map_id]
  exact folding.wordsFolded_part folded List.infix_rfl

/-- Folded words that are joined by spaces are folded together. -/
theorem LawfulFolding.folded_words {words : List (List Char)}
    (folded : ∀ word ∈ words, Folded tables word) :
    Folded tables ([' '].intercalate words) := by
  induction words with
  | nil =>
      exact folding.fold_ascii [] fun _ absent => absurd absent List.not_mem_nil
  | cons word words ih =>
      obtain ⟨foldedHere, foldedLater⟩ := List.forall_mem_cons.mp folded
      cases words with
      | nil => rwa [List.intercalate_singleton]
      | cons next words =>
          rw [List.intercalate_cons_cons, List.append_assoc,
            List.singleton_append]
          exact folding.folded_join _ _ ' ' (by decide) foldedHere
            (folding.folded_space _ (ih foldedLater))

end Folding

section Words

variable {tables : UnicodeTables} {first second text : List Char}
  {separator : Char}

theorem hashWords_append_cons (dropped : tables.isAlnum separator = false) :
    hashWords tables (first ++ separator :: second) =
      hashWords tables first ++ hashWords tables second :=
  runs_append_cons dropped

theorem hashWords_cons (dropped : tables.isAlnum separator = false) :
    hashWords tables (separator :: second) = hashWords tables second :=
  runs_cons dropped

variable (folding : LawfulFolding tables)

include folding

/-- The words between white space are the runs of letters and digits, once
everything else is replaced by spaces. -/
theorem splitWords_replaced (text : List Char) :
    splitWords (text.map fun char =>
      if tables.isAlnum char then char else ' ') = hashWords tables text := by
  induction length : text.length using Nat.strongRecOn
    generalizing text with
  | _ size ih =>
      rcases kept_or_separated tables.isAlnum text with
        kept | ⟨first, separator, second, rfl, -, dropped⟩
      · have same : (text.map fun char =>
            if tables.isAlnum char then char else ' ') = text.map id :=
          List.map_congr_left fun char member => if_pos (kept char member)
        rw [same, List.map_id]
        by_cases nothing : text = []
        · rw [nothing]
          rfl
        · have visible : ∀ char ∈ text, (!isPythonSpace char) = true := by
            intro char member
            rw [folding.alnum_visible char (kept char member)]
            rfl
          rw [splitWords, hashWords, runs_of_kept visible nothing,
            runs_of_kept kept nothing]
      · rw [List.length_append, List.length_cons] at length
        have space : (!isPythonSpace ' ') = false := by decide
        rw [List.map_append, List.map_cons, dropped, if_neg Bool.false_ne_true,
          splitWords, runs_append_cons space, hashWords_append_cons dropped,
          ← ih first.length (by omega) first rfl,
          ← ih second.length (by omega) second rfl]
        rfl

theorem collapseNonAlphanumeric_eq (text : List Char) :
    collapseNonAlphanumeric tables text =
      [' '].intercalate (hashWords tables text) := by
  rw [collapseNonAlphanumeric, splitWords_replaced folding]

/-- The words of a collapsed text are those of the text. -/
theorem hashWords_collapsed (text : List Char) :
    hashWords tables ([' '].intercalate (hashWords tables text)) =
      hashWords tables text := by
  apply runs_intercalate (folding.notAlnum (by decide) (by decide))
  intro word isWord
  obtain ⟨visible, alnum, -⟩ := mem_runs isWord
  exact ⟨visible, alnum⟩

end Words

section CanonicalWords

variable {tables : UnicodeTables} {split : SplitResult}
  {scheme netloc path query url before : List Char}

/-- The words of the parts of a canonical URL behind its scheme. -/
def partWords (tables : UnicodeTables) (split : SplitResult)
    (netloc : List Char) : List (List Char) :=
  hashWords tables netloc ++
    (hashWords tables (canonicalizePath split.path) ++
      hashWords tables (canonicalizeQuery tables split.query))

/-- The words of a canonical URL are those of its parts. -/
theorem hashWords_canonicalText (folding : LawfulFolding tables)
    (canonical : Canonical scheme netloc path query) :
    hashWords tables (before ++ canonicalText scheme netloc path query) =
      hashWords tables (before ++ scheme) ++ (hashWords tables netloc ++
        (hashWords tables path ++ hashWords tables query)) := by
  have mark : ∀ char ∈ [':', '/', '?'], tables.isAlnum char = false := by
    intro char member
    have plain : [':', '/', '?'].all (fun char => decide (char.toNat < 128) &&
        !char.isAlphanum) = true := by decide
    have here := List.all_eq_true.mp plain char member
    rw [Bool.and_eq_true, Bool.not_eq_true', decide_eq_true_eq] at here
    exact folding.notAlnum here.1 here.2
  have colon := mark ':' (by simp)
  have slash := mark '/' (by simp)
  have question := mark '?' (by simp)
  have queryWords : hashWords tables (path ++ marked '?' (nonempty query)) =
      hashWords tables path ++ hashWords tables query := by
    unfold nonempty
    split
    · rename_i nothing
      rw [nothing]
      simp [marked, hashWords, runs_nil]
    · exact hashWords_append_cons question
  have pathWords : ∀ rest, hashWords tables (netloc ++ (path ++ rest)) =
      hashWords tables netloc ++ hashWords tables (path ++ rest) := by
    intro rest
    have begins := canonical.path_rooted
    cases path with
    | nil => cases begins
    | cons first path =>
        rw [Option.some.inj begins, List.cons_append,
          hashWords_append_cons slash, hashWords_cons slash]
  rw [canonicalText, write, ← List.append_assoc, hashWords_append_cons colon,
    hashWords_cons slash, hashWords_cons slash, marked, List.append_nil,
    pathWords, queryWords]

/-- A URL that can be rewritten becomes a canonical URL. -/
theorem canonicalizeMatch_of_rewritten (lawful : tables.LawfulCase)
    (read : splitUnwrapped tables (strip isPythonSpace url) = some split)
    (rewritten : rewrittenNetloc tables split = some netloc) :
    Canonical split.scheme netloc (canonicalizePath split.path)
        (canonicalizeQuery tables split.query) ∧
      canonicalizeMatch tables url = canonicalUrl tables split netloc := by
  obtain ⟨target, -, targetRead⟩ := urlsplit_of_splitUnwrapped read
  have wellSplit := wellSplit_of_urlsplit targetRead
  refine ⟨canonical_of_rewritten lawful wellSplit rewritten, ?_⟩
  rw [canonicalizeMatch, canonicalizeUrl_eq_bind, read, Option.bind_some,
    canonicalizeSplit_eq_map lawful wellSplit, rewritten]
  rfl

/-- Any other URL stays as it is. -/
theorem canonicalizeMatch_cases (lawful : tables.LawfulCase)
    (url : List Char) :
    canonicalizeMatch tables url = url ∨
      ∃ split netloc, splitUnwrapped tables (strip isPythonSpace url) =
          some split ∧
        rewrittenNetloc tables split = some netloc := by
  cases read : splitUnwrapped tables (strip isPythonSpace url) with
  | none =>
      left
      rw [canonicalizeMatch, canonicalizeUrl_eq_bind, read]
      rfl
  | some split =>
      cases rewritten : rewrittenNetloc tables split with
      | none =>
          obtain ⟨target, -, targetRead⟩ := urlsplit_of_splitUnwrapped read
          left
          rw [canonicalizeMatch, canonicalizeUrl_eq_bind, read,
            Option.bind_some, canonicalizeSplit_eq_map lawful
              (wellSplit_of_urlsplit targetRead), rewritten]
          rfl
      | some netloc => exact .inr ⟨split, netloc, rfl, rewritten⟩

end CanonicalWords

section QueryWords

/-- A character that is written in a query without capital letters: a small
letter, a digit, one of `_.-~`, a space, or an ASCII character whose code ends
in a decimal digit. -/
def writtenSmall (char : Char) : Bool :=
  char.toNat < 128 && !char.isUpper &&
    (isUnreserved char || char == ' ' || char.toNat % 16 < 10)

theorem hexDigit_capital {value : Nat} (large : 10 ≤ value)
    (inRange : value < 16) :
    (hexDigit value).toLower ≠ hexDigit value := by
  have all : ∀ index ∈ List.range 16, 10 ≤ index →
      (hexDigit index).toLower ≠ hexDigit index := by decide
  exact all value (List.mem_range.mpr inRange) large

/-- A character outside ASCII is escaped with a capital letter at first. -/
theorem quotePlusChar_capital {char : Char} (notAscii : ¬ char.toNat < 128) :
    ∃ letter ∈ quotePlusChar char, letter.toLower ≠ letter := by
  have valid : char.toNat < 0xD800 ∨
      0xDFFF < char.toNat ∧ char.toNat < 0x110000 := char.valid
  have lead : ∃ value bytes, encodeChar char = value :: bytes ∧
      192 ≤ value ∧ value < 256 := by
    unfold encodeChar
    dsimp only
    split
    · omega
    split
    · exact ⟨_, _, rfl, by omega, by omega⟩
    split
    · exact ⟨_, _, rfl, by omega, by omega⟩
    · exact ⟨_, _, rfl, by omega, by omega⟩
  obtain ⟨value, bytes, encoded, large, inRange⟩ := lead
  have notSpace : char ≠ ' ' := by
    rintro rfl
    exact notAscii (by decide)
  have escaped : quoteByte value =
      ['%', hexDigit (value / 16), hexDigit (value % 16)] :=
    if_neg fun plain => absurd plain.1 (by omega)
  refine ⟨hexDigit (value / 16), ?_, hexDigit_capital (by omega) (by omega)⟩
  rw [quotePlusChar, if_neg notSpace, encoded, List.flatMap_cons, escaped]
  simp

/-- The characters that are written without capital letters. -/
theorem writtenSmall_iff {char : Char} : writtenSmall char = true ↔
    ∀ letter ∈ quotePlusChar char, letter.toLower = letter := by
  by_cases ascii : char.toNat < 128
  · have checked : writtenSmall char = (quotePlusChar char).all
        (fun letter => letter.toLower == letter) :=
      @ascii_forall (fun char => writtenSmall char = (quotePlusChar char).all
        (fun letter => letter.toLower == letter)) (by decide) char ascii
    rw [checked, List.all_eq_true]
    simp only [beq_iff_eq]
  · obtain ⟨letter, member, capital⟩ := quotePlusChar_capital ascii
    constructor
    · intro small
      simp [writtenSmall, ascii] at small
    · exact fun small => absurd (small letter member) capital

variable {tables : UnicodeTables} {query : List Char}

theorem mem_writeParam {param : List Char × List Char} {letter : Char} :
    letter ∈ writeParam param ↔ letter = '=' ∨
      ∃ char ∈ param.1 ++ param.2, letter ∈ quotePlusChar char := by
  simp only [writeParam, quotePlus, List.mem_append, List.mem_cons,
    List.mem_flatMap]
  constructor
  · rintro (⟨char, inName, written⟩ | isMark | ⟨char, inValue, written⟩)
    · exact .inr ⟨char, .inl inName, written⟩
    · exact .inl isMark
    · exact .inr ⟨char, .inr inValue, written⟩
  · rintro (isMark | ⟨char, inName | inValue, written⟩)
    · exact .inr (.inl isMark)
    · exact .inl ⟨char, inName, written⟩
    · exact .inr (.inr ⟨char, inValue, written⟩)

/-- A canonical query has no capital letters exactly if its parameters are
written without. -/
theorem canonicalizeQuery_small_iff :
    (∀ letter ∈ canonicalizeQuery tables query, letter.toLower = letter) ↔
      ∀ param ∈ keptParams tables query,
        (param.1 ++ param.2).all writtenSmall = true := by
  have sorted : ∀ param, param ∈
      (keptParams tables query).insertionSort paramLe ↔
        param ∈ keptParams tables query :=
    fun param => (List.perm_insertionSort paramLe _).mem_iff
  constructor
  · intro small param isParam
    rw [List.all_eq_true]
    intro char member
    rw [writtenSmall_iff]
    intro letter written
    apply small
    exact mem_intercalate_of_mem
      (List.mem_map_of_mem ((sorted param).mpr isParam))
      (mem_writeParam.mpr (.inr ⟨char, member, written⟩))
  · intro small letter member
    rcases mem_intercalate member with rfl | ⟨part, isPart, inPart⟩
    · decide
    · obtain ⟨param, isParam, rfl⟩ := List.mem_map.mp isPart
      rcases mem_writeParam.mp inPart with rfl | ⟨char, inParam, written⟩
      · decide
      · have all := List.all_eq_true.mp
          (small param ((sorted param).mp isParam))
        exact writtenSmall_iff.mp (all char inParam) letter written

end QueryWords

section PartsOfUrls

variable {tables : UnicodeTables} {url netloc path : List Char}
  {split : SplitResult}

theorem splitScheme_suffix (url : List Char) : (splitScheme url).2 <:+ url := by
  unfold splitScheme
  split
  · rename_i first scheme rest parted
    split
    · have suffix := partition_snd_suffix ':' url
      rwa [parted] at suffix
    · exact List.suffix_rfl
  · exact List.suffix_rfl

theorem splitNetloc_within (rest : List Char) :
    (splitNetloc rest).1 <:+: rest ∧ (splitNetloc rest).2 <:+: rest := by
  rcases splitNetloc_cases rest with whole | ⟨netloc, after, rfl, -, -, whole⟩
  · rw [whole]
    exact And.intro List.nil_infix List.infix_rfl
  · rw [whole]
    exact ⟨⟨['/', '/'], after, rfl⟩, ⟨'/' :: '/' :: netloc, [], by simp⟩⟩

/-- The network location and the path of a URL are parts of it. -/
theorem splitParts_within (url : List Char) :
    (splitParts url).netloc <:+: url ∧ (splitParts url).path <:+: url := by
  have rest := (splitScheme_suffix url).isInfix
  obtain ⟨inNetloc, inAfter⟩ := splitNetloc_within (splitScheme url).2
  refine ⟨inNetloc.trans rest, ?_⟩
  exact ((partition_fst_begins _ _).isInfix.trans
    (partition_fst_begins _ _).isInfix).trans (inAfter.trans rest)

/-- Nothing is removed from a URL without white space, its beginning apart. -/
theorem clean_within (visible : ∀ char ∈ url, isPythonSpace char = false) :
    clean url <:+: url := by
  have kept : ∀ char ∈ url.dropWhile isControlOrSpace,
      (!isUnsafe char) = true := by
    intro char member
    have inUrl := (List.dropWhile_sublist _).subset member
    rw [Bool.not_eq_true', ← Bool.not_eq_true]
    intro removed
    have space : isPythonSpace char = true := by
      simp only [isUnsafe, List.mem_cons, List.not_mem_nil, or_false,
        decide_eq_true_eq] at removed
      rcases removed with rfl | rfl | rfl
      all_goals decide
    rw [visible char inUrl] at space
    cases space
  rw [clean, List.filter_eq_self.mpr kept]
  exact (List.dropWhile_suffix _).isInfix

theorem hostinfo_within (netloc : List Char) :
    (hostinfo netloc).1 <:+: netloc := by
  have after : (rpartition '@' netloc).2 <:+: netloc := by
    obtain ⟨whole, -⟩ := netloc_eq netloc
    conv_rhs => rw [whole]
    exact (List.suffix_append _ _).isInfix
  refine List.IsInfix.trans ?_ after
  unfold hostinfo
  rcases partition_cases '[' (rpartition '@' netloc).2 with ⟨-, parted⟩ |
    ⟨before, bracketed, -, rest, parted⟩
  · simp only [parted]
    exact (partition_fst_begins _ _).isInfix
  · simp only [parted]
    rw [rest]
    exact (partition_fst_begins _ _).isInfix.trans
      ⟨before ++ ['['], [], by simp⟩

variable (lawful : tables.LawfulCase) (folding : LawfulFolding tables)

include folding

/-- The words of a normalized path are words of components of the path. -/
theorem wordsFolded_normpath (folded : Folded tables path) :
    WordsFolded tables (normpath path) := by
  have slash := folding.notAlnum (show '/'.toNat < 128 by decide) (by decide)
  have small : WordsFolded tables dot :=
    folding.wordsFolded_ascii (List.forall_mem_singleton.mpr (by decide))
  unfold normpath
  split
  · exact small
  · dsimp only
    split
    · exact small
    · have slashes : ∀ number, hashWords tables (List.replicate number '/' ++
          ['/'].intercalate (keptComponents path)) =
          hashWords tables (['/'].intercalate (keptComponents path)) := by
        intro number
        induction number with
        | zero => rfl
        | succ number ih =>
            rw [List.replicate_succ, List.cons_append, hashWords_cons slash, ih]
      intro word isWord
      rw [slashes] at isWord
      obtain ⟨component, isKept, inComponent⟩ :=
        mem_runs_intercalate slash isWord
      have isComponent : component ∈ path.splitOn '/' := by
        rcases mem_foldl_addComponent isKept with absent | member
        · exact absurd absent List.not_mem_nil
        · exact member
      exact folding.wordsFolded_part folded (infix_of_mem_splitOn isComponent)
        word inComponent

theorem wordsFolded_canonicalizePath (folded : Folded tables path) :
    WordsFolded tables (canonicalizePath path) := by
  have slash := folding.notAlnum (show '/'.toNat < 128 by decide) (by decide)
  have root : Folded tables (pathOrRoot path) := by
    unfold pathOrRoot
    split
    · exact folding.fold_ascii ['/']
        (List.forall_mem_singleton.mpr (by decide))
    · exact folded
  have normalized := wordsFolded_normpath folding root
  rcases canonicalizePath_cases path with ⟨whole, -⟩ | ⟨whole, -⟩
  · rwa [whole]
  · intro word isWord
    rw [whole, hashWords_append_cons slash] at isWord
    rw [show hashWords tables [] = [] from rfl, List.append_nil] at isWord
    exact normalized word isWord

include lawful

theorem wordsFolded_writeNetloc (folded : Folded tables netloc)
    (number : Option Nat) :
    WordsFolded tables (writeNetloc (userinfo netloc)
      (canonicalHost tables (hostinfo netloc).1) number) := by
  have at' := folding.notAlnum (show '@'.toNat < 128 by decide) (by decide)
  have colon := folding.notAlnum (show ':'.toNat < 128 by decide) (by decide)
  have hostInside := hostinfo_within netloc
  have hostFolded := folding.folded_part _ _ folded hostInside
  have hostWords := folding.wordsFolded_part folded hostInside
  have portWords : WordsFolded tables
      ((number.map (Nat.toDigits 10)).getD []) := by
    apply folding.wordsFolded_ascii
    intro char member
    cases number with
    | none => exact absurd member List.not_mem_nil
    | some number =>
        have digit := Nat.isDigit_of_mem_toDigits (by decide) (by decide) member
        have codes := codes_of_isDigit digit
        have small := @ascii_forall (fun char => 48 ≤ char.toNat ∧
          char.toNat ≤ 57 → char.toLower = char) (by decide) char
          (by omega) codes
        exact ⟨by omega, small⟩
  have userWords : ∀ rest, WordsFolded tables rest →
      WordsFolded tables (atUser (userinfo netloc) ++ rest) := by
    intro rest restWords
    cases isUser : userinfo netloc with
    | none => exact restWords
    | some info =>
        have inside : info <:+: netloc := by
          obtain ⟨whole, -⟩ := netloc_eq netloc
          rw [isUser] at whole
          conv_rhs => rw [whole]
          exact ⟨[], '@' :: (rpartition '@' netloc).2, by simp [atUser]⟩
        intro word isWord
        rw [atUser, List.append_assoc, List.singleton_append,
          hashWords_append_cons at'] at isWord
        rcases List.mem_append.mp isWord with inInfo | inRest
        · exact folding.wordsFolded_part folded inside word inInfo
        · exact restWords word inRest
  apply userWords
  rw [canonicalHost_of_lowered (hostFolded.lowered lawful)]
  cases number with
  | none =>
      rw [Option.map_none, marked, List.append_nil]
      exact hostWords
  | some number =>
      intro word isWord
      rw [Option.map_some, marked, hashWords_append_cons colon] at isWord
      rcases List.mem_append.mp isWord with inHost | inPort
      · exact hostWords word inHost
      · exact portWords word inPort

end PartsOfUrls

end Tca
