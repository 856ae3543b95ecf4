import Tca.UrlCanonicalization

/-!
# Normalized texts

Texts are put in compatibility form and in lower case, and the URLs in them are
made canonical.  For hashes everything but letters and digits is replaced by
single spaces; for similarity only white space is.
-/

namespace Tca

open PythonTexts

/-- A character of a text matches a letter of a pattern, if case is ignored.
U+017F is an `s` then. -/
def matchesLetter (letter char : Char) : Bool :=
  char == letter || char == letter.toUpper ||
    (letter == 's' && char.toNat == 0x17F)

/-- What follows a match of some letters at the start of a text. -/
def afterLetters : List Char → List Char → Option (List Char)
  | [], text => some text
  | _ :: _, [] => none
  | letter :: letters, char :: text =>
      if matchesLetter letter char then afterLetters letters text else none

/-- `https?://[^\s]+` matches at the start of a text. -/
def startsUrl (text : List Char) : Bool :=
  match afterLetters "http".toList text with
  | none => false
  | some rest =>
      let rest := (afterLetters "s".toList rest).getD rest
      match afterLetters "://".toList rest with
      | none => false
      | some rest => rest.head?.any fun char => !isPythonSpace char

/-- `[^\s]+` from the start of a text. -/
def visibleRun (text : List Char) : List Char :=
  text.takeWhile fun char => !isPythonSpace char

section Normalization

variable (tables : UnicodeTables)

/-- `_canonicalize_match`. -/
def canonicalizeMatch (candidate : List Char) : List Char :=
  (canonicalizeUrl tables (some candidate)).getD candidate

/-- `_URL_PATTERN.sub`: every URL in a text is made canonical.  The number
tells how much of a URL is still to be passed. -/
def normalizeEmbeddedUrls : Nat → List Char → List Char
  | _, [] => []
  | skip + 1, _ :: text => normalizeEmbeddedUrls skip text
  | 0, char :: text =>
      if startsUrl (char :: text) then
        canonicalizeMatch tables (visibleRun (char :: text)) ++
          normalizeEmbeddedUrls ((visibleRun (char :: text)).length - 1) text
      else char :: normalizeEmbeddedUrls 0 text

/-- `unicodedata.normalize("NFKC", value).lower()`. -/
def foldText (value : List Char) : List Char :=
  tables.lower (tables.nfkc value)

/-- `text.split()`. -/
def splitWords (text : List Char) : List (List Char) :=
  runs (fun char => !isPythonSpace char) text

/-- `_collapse_non_alphanumeric`. -/
def collapseNonAlphanumeric (value : List Char) : List Char :=
  [' '].intercalate (splitWords (value.map fun char =>
    if tables.isAlnum char then char else ' '))

/-- Normalize one text input for deterministic hash comparisons. -/
def normalizeHashText (value : Option (List Char)) : List Char :=
  match value with
  | none => []
  | some value =>
      if value = [] then []
      else collapseNonAlphanumeric tables
        (normalizeEmbeddedUrls tables 0 (foldText tables value))

/-- Build normalized hash input from title and body fields. -/
def buildHashNormalizedInput (title body : Option (List Char)) : List Char :=
  normalizeHashText tables (some (title.getD [] ++ '\n' :: body.getD []))

/-- `_WHITESPACE_PATTERN.sub(" ", value)`; the flag tells whether the
character before was white space. -/
def squeezeWhitespace : Bool → List Char → List Char
  | _, [] => []
  | inSpace, char :: text =>
      if isPythonSpace char then
        if inSpace then squeezeWhitespace true text
        else ' ' :: squeezeWhitespace true text
      else char :: squeezeWhitespace false text

/-- `_collapse_repeated_whitespace`. -/
def collapseRepeatedWhitespace (value : List Char) : List Char :=
  strip isPythonSpace (squeezeWhitespace false value)

/-- Normalize one text input for token-based similarity comparisons. -/
def normalizeSimilarityText (value : Option (List Char)) : List Char :=
  match value with
  | none => []
  | some value =>
      if value = [] then []
      else collapseRepeatedWhitespace
        (normalizeEmbeddedUrls tables 0 (foldText tables value))

end Normalization

end Tca
