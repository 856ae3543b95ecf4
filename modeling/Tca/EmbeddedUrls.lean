import Tca.TextNormalization

/-!
# URLs in a text

The normalization of a text goes on behind every URL that it rewrites.  The file
describes its steps, what a URL in a text begins with, and texts without URLs.
-/

namespace Tca

open PythonTexts

section Embedded

variable (tables : UnicodeTables)

/-- The URLs that are found in a text. -/
def embeddedUrls : Nat → List Char → List (List Char)
  | _, [] => []
  | skip + 1, _ :: text => embeddedUrls skip text
  | 0, char :: text =>
      if startsUrl (char :: text) then
        visibleRun (char :: text) ::
          embeddedUrls ((visibleRun (char :: text)).length - 1) text
      else embeddedUrls 0 text

/-- What follows the first run of visible characters. -/
def afterVisible (text : List Char) : List Char :=
  text.dropWhile fun char => !isPythonSpace char

variable {tables} {char : Char} {text : List Char}

theorem visibleRun_append (text : List Char) :
    visibleRun text ++ afterVisible text = text :=
  List.takeWhile_append_dropWhile

theorem normalizeEmbeddedUrls_skip (skip : Nat) (text : List Char) :
    normalizeEmbeddedUrls tables skip text =
      normalizeEmbeddedUrls tables 0 (text.drop skip) := by
  induction skip generalizing text with
  | zero => rfl
  | succ skip ih =>
      cases text with
      | nil => rfl
      | cons char text =>
          rw [normalizeEmbeddedUrls, ih]
          rfl

theorem embeddedUrls_skip (skip : Nat) (text : List Char) :
    embeddedUrls skip text = embeddedUrls 0 (text.drop skip) := by
  induction skip generalizing text with
  | zero => rfl
  | succ skip ih =>
      cases text with
      | nil => rfl
      | cons char text =>
          rw [embeddedUrls, ih]
          rfl

/-- A URL begins visibly. -/
theorem starts_visible (starts : startsUrl (char :: text) = true) :
    isPythonSpace char = false := by
  rw [← Bool.not_eq_true]
  intro space
  have noMatch : matchesLetter 'h' char = false := by
    rw [← Bool.not_eq_true]
    intro letter
    simp only [matchesLetter, Bool.or_eq_true, beq_iff_eq] at letter
    rcases letter with (rfl | rfl) | other
    · exact absurd space (by decide)
    · exact absurd space (by decide)
    · exact absurd (Bool.and_eq_true_iff.mp other).1 (by decide)
  have none : afterLetters "http".toList (char :: text) = none := by
    show (if matchesLetter 'h' char then _ else none) = none
    rw [noMatch]
    rfl
  rw [startsUrl, none] at starts
  cases starts

theorem drop_visibleRun (visible : isPythonSpace char = false) :
    text.drop ((visibleRun (char :: text)).length - 1) =
      afterVisible (char :: text) := by
  have run : visibleRun (char :: text) = char :: visibleRun text :=
    List.takeWhile_cons_of_pos (by rw [visible]; rfl)
  have rest : afterVisible (char :: text) = afterVisible text :=
    List.dropWhile_cons_of_pos (by rw [visible]; rfl)
  have dropped : (visibleRun text ++ afterVisible text).drop
      (visibleRun text).length = afterVisible text := List.drop_left
  rw [visibleRun_append] at dropped
  rw [run, rest, List.length_cons, Nat.add_sub_cancel, dropped]

/-- A URL is rewritten, and the text goes on behind it. -/
theorem normalizeEmbeddedUrls_url (starts : startsUrl (char :: text) = true) :
    normalizeEmbeddedUrls tables 0 (char :: text) =
      canonicalizeMatch tables (visibleRun (char :: text)) ++
        normalizeEmbeddedUrls tables 0 (afterVisible (char :: text)) := by
  rw [normalizeEmbeddedUrls, if_pos starts, normalizeEmbeddedUrls_skip,
    drop_visibleRun (starts_visible starts)]

theorem embeddedUrls_url (starts : startsUrl (char :: text) = true) :
    embeddedUrls 0 (char :: text) = visibleRun (char :: text) ::
      embeddedUrls 0 (afterVisible (char :: text)) := by
  rw [embeddedUrls, if_pos starts, embeddedUrls_skip,
    drop_visibleRun (starts_visible starts)]

/-- White space stays in a text. -/
theorem normalizeEmbeddedUrls_space (space : isPythonSpace char = true) :
    normalizeEmbeddedUrls tables 0 (char :: text) =
        char :: normalizeEmbeddedUrls tables 0 text ∧
      embeddedUrls 0 (char :: text) = embeddedUrls 0 text := by
  have noUrl : ¬ startsUrl (char :: text) = true := by
    intro starts
    rw [starts_visible starts] at space
    cases space
  exact ⟨by rw [normalizeEmbeddedUrls, if_neg noUrl],
    by rw [embeddedUrls, if_neg noUrl]⟩

/-- A run of visible characters ends with the text or before white space. -/
theorem afterVisible_cases (text : List Char) :
    afterVisible text = [] ∨ ∃ space rest,
      afterVisible text = space :: rest ∧ isPythonSpace space = true := by
  cases after : afterVisible text with
  | nil => exact .inl rfl
  | cons space rest =>
      have isSpace := List.head?_dropWhile_not (fun char => !isPythonSpace char)
        text
      unfold afterVisible at after
      rw [after] at isSpace
      exact .inr ⟨space, rest, rfl, by simpa using isSpace⟩

/-- How a text is rewritten, and the URLs that are found in it. -/
inductive RewritesUrls (tables : UnicodeTables) :
    List Char → List Char → List (List Char) → Prop where
  | nil : RewritesUrls tables [] [] []
  | plain {char : Char} {text result : List Char} {urls : List (List Char)} :
      ¬ startsUrl (char :: text) = true → RewritesUrls tables text result urls →
        RewritesUrls tables (char :: text) (char :: result) urls
  /-- The last URL ends with the text. -/
  | last {text : List Char} : startsUrl text = true → afterVisible text = [] →
      RewritesUrls tables text (canonicalizeMatch tables (visibleRun text))
        [visibleRun text]
  | next {space : Char} {text rest result : List Char}
      {urls : List (List Char)} :
      startsUrl text = true → afterVisible text = space :: rest →
        isPythonSpace space = true → RewritesUrls tables rest result urls →
          RewritesUrls tables text
            (canonicalizeMatch tables (visibleRun text) ++ space :: result)
            (visibleRun text :: urls)

theorem normalizeEmbeddedUrls_rewrites (tables : UnicodeTables)
    (text : List Char) : RewritesUrls tables text
      (normalizeEmbeddedUrls tables 0 text) (embeddedUrls 0 text) := by
  induction length : text.length using Nat.strongRecOn generalizing text with
  | _ size ih =>
      cases text with
      | nil => exact .nil
      | cons char text =>
          rw [List.length_cons] at length
          by_cases starts : startsUrl (char :: text) = true
          · rw [normalizeEmbeddedUrls_url starts, embeddedUrls_url starts]
            rcases afterVisible_cases (char :: text) with ended |
              ⟨space, rest, after, isSpace⟩
            · rw [ended, normalizeEmbeddedUrls, List.append_nil, embeddedUrls]
              exact .last starts ended
            · obtain ⟨result, urls⟩ :=
                @normalizeEmbeddedUrls_space tables space rest isSpace
              have parted := visibleRun_append (char :: text)
              rw [after] at parted ⊢
              rw [result, urls]
              have total := congrArg List.length parted
              rw [List.length_append, List.length_cons,
                List.length_cons] at total
              exact .next starts after isSpace
                (ih rest.length (by omega) rest rfl)
          · rw [normalizeEmbeddedUrls, if_neg starts, embeddedUrls,
              if_neg starts]
            exact .plain starts (ih text.length (by omega) text rfl)

theorem visible_visibleRun (text : List Char) :
    ∀ char ∈ visibleRun text, isPythonSpace char = false := by
  intro char member
  have visible := List.mem_takeWhile_imp member
  rwa [Bool.not_eq_true'] at visible

end Embedded

section Starts

variable {tables : UnicodeTables} {text rest letters : List Char}

theorem afterLetters_suffix (found : afterLetters letters text = some rest) :
    rest <:+ text := by
  induction letters generalizing text with
  | nil => exact Option.some.inj found ▸ List.suffix_rfl
  | cons letter letters ih =>
      cases text with
      | nil => cases found
      | cons char text =>
          rw [afterLetters] at found
          split at found
          · exact (ih found).trans (List.suffix_cons char text)
          · cases found

theorem afterLetters_eq_some {letters rest : List Char}
    (plain : 's' ∉ letters)
    (small : ∀ char ∈ text, ∀ letter ∈ letters, char ≠ letter.toUpper)
    (found : afterLetters letters text = some rest) :
    text = letters ++ rest := by
  induction letters generalizing text with
  | nil => exact Option.some.inj found
  | cons letter letters ih =>
      cases text with
      | nil => cases found
      | cons char text =>
          obtain ⟨notS, plainLater⟩ := List.ne_and_not_mem_of_not_mem_cons plain
          rw [afterLetters] at found
          split at found
          · rename_i matched
            have notUpper :=
              small char List.mem_cons_self letter List.mem_cons_self
            simp only [matchesLetter, Bool.or_eq_true, Bool.and_eq_true,
              beq_iff_eq, notUpper, Ne.symm notS, or_false, false_and]
              at matched
            rw [matched, List.cons_append]
            congr 1
            exact ih plainLater (fun other member after isLetter =>
              small other (List.mem_cons_of_mem _ member) after
                (List.mem_cons_of_mem _ isLetter)) found
          · cases found

/-- A URL in a text in lower case begins with `http`. -/
theorem starts_http (lawful : tables.LawfulCase)
    (lowered : tables.Lowered text) (starts : startsUrl text = true) :
    "http".toList <+: text := by
  have small : ∀ char ∈ text, ∀ letter ∈ "http".toList,
      char ≠ letter.toUpper := by
    rintro char member letter isLetter rfl
    have ascii : letter.toUpper.toNat < 128 ∧
        [letter.toUpper.toLower] ≠ [letter.toUpper] := by
      have all : "http".toList.all (fun letter =>
          decide (letter.toUpper.toNat < 128) &&
            letter.toUpper.toLower != letter.toUpper) = true := by decide
      have here := List.all_eq_true.mp all letter isLetter
      rw [Bool.and_eq_true, decide_eq_true_eq, bne_iff_ne] at here
      exact ⟨here.1, fun same => here.2 (List.singleton_inj.mp same)⟩
    have stable := (lowered _ member).1
    rw [lawful.lowerChar_ascii _ ascii.1] at stable
    exact ascii.2 stable
  cases found : afterLetters "http".toList text with
  | none =>
      rw [startsUrl, found] at starts
      cases starts
  | some rest =>
      rw [afterLetters_eq_some (by decide) small found]
      exact List.prefix_append _ _

/-- A URL has a colon. -/
theorem colon_of_starts (starts : startsUrl text = true) : ':' ∈ text := by
  unfold startsUrl at starts
  split at starts
  · cases starts
  · rename_i rest afterHttp
    dsimp only at starts
    have inside : ((afterLetters "s".toList rest).getD rest) <:+ text := by
      refine List.IsSuffix.trans ?_ (afterLetters_suffix afterHttp)
      cases secure : afterLetters "s".toList rest with
      | none => exact List.suffix_rfl
      | some later => exact afterLetters_suffix secure
    split at starts
    · cases starts
    · rename_i slashes afterColon
      apply inside.subset
      cases begins : (afterLetters "s".toList rest).getD rest with
      | nil =>
          rw [begins] at afterColon
          cases afterColon
      | cons char later =>
          rw [begins] at afterColon
          have found : (if matchesLetter ':' char then
              afterLetters "//".toList later else none) = some slashes :=
            afterColon
          split at found
          · rename_i matched
            have isColon : char = ':' := by
              have mark : ':'.toUpper = ':' := by decide
              have notS : (':' == 's') = false := by decide
              simpa [matchesLetter, mark, notS] using matched
            rw [isColon]
            exact List.mem_cons_self
          · cases found

/-- A text without colons has no URLs. -/
theorem normalizeEmbeddedUrls_of_noColon (noColon : ':' ∉ text) :
    normalizeEmbeddedUrls tables 0 text = text := by
  induction text with
  | nil => rfl
  | cons char text ih =>
      have noUrl : ¬ startsUrl (char :: text) = true :=
        mt colon_of_starts noColon
      rw [normalizeEmbeddedUrls, if_neg noUrl,
        ih fun later => noColon (List.mem_cons_of_mem _ later)]

end Starts

end Tca
