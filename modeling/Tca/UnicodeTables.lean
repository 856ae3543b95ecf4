import Tca.PythonValues

/-!
# Texts and the Unicode character database

Python's `str.lower`, `str.isalnum` and `unicodedata.normalize` read the tables
of the Unicode character database.  The tables are given; lower-casing is built
on them as the language documents it, with its rule for a sigma at the end of a
word.  The file states what is known of the tables and what follows for
lower-cased texts.
-/

namespace Tca

/-- The tables that the interpreter brings along. -/
structure UnicodeTables where
  /-- The lower-case mapping of a character on its own. -/
  lowerChar : Char → List Char
  cased : Char → Bool
  caseIgnorable : Char → Bool
  isAlnum : Char → Bool
  /-- `unicodedata.normalize("NFKC", text)`. -/
  nfkc : List Char → List Char

/-- U+03A3. -/
def capitalSigma : Char :=
  Char.ofNat 0x3A3

/-- U+03C3. -/
def smallSigma : Char :=
  Char.ofNat 0x3C3

/-- U+03C2. -/
def smallFinalSigma : Char :=
  Char.ofNat 0x3C2

/-- The characters outside ASCII whose NFKC form has one of `/`, `?`, `#`, `@`
and `:`. -/
def nfkcDelimiters : List Nat :=
  [8263, 8264, 8265, 8448, 8449, 8453, 8454, 10868, 65043, 65046, 65109, 65110,
    65119, 65131, 65283, 65295, 65306, 65311, 65312]

/-- ASCII characters that are not letters, white space and the characters above:
no other character becomes one of them in lower case. -/
def isSymbol (char : Char) : Bool :=
  (char.toNat < 128 && !char.isAlpha) || isPythonSpace char ||
    char.toNat ∈ nfkcDelimiters

namespace UnicodeTables

variable (tables : UnicodeTables)

/-- A sigma ends a word: there is a cased letter before it and none after it,
case-ignorable characters apart. -/
def finalSigma (before after : List Char) : Bool :=
  (before.dropWhile tables.caseIgnorable).head?.any tables.cased &&
    !(after.dropWhile tables.caseIgnorable).head?.any tables.cased

/-- The lower case of a character in its context.  What is before it comes in
reversed order. -/
def lowerAt (before : List Char) (char : Char) (after : List Char) :
    List Char :=
  if char = capitalSigma then
    [if tables.finalSigma before after then smallFinalSigma else smallSigma]
  else tables.lowerChar char

def lowerFrom (before : List Char) : List Char → List Char
  | [] => []
  | char :: after =>
      tables.lowerAt before char after ++ lowerFrom (char :: before) after

/-- `text.lower()`. -/
def lower (text : List Char) : List Char :=
  tables.lowerFrom [] text

/-- What is known of the case tables. -/
structure LawfulCase : Prop where
  lowerChar_ne_nil : ∀ char, tables.lowerChar char ≠ []
  /-- Lower-case characters are their own lower case. -/
  lowerChar_stable : ∀ char, ∀ lowered ∈ tables.lowerChar char,
    tables.lowerChar lowered = [lowered] ∧ lowered ≠ capitalSigma
  lowerChar_smallSigma : tables.lowerChar smallSigma = [smallSigma]
  lowerChar_smallFinalSigma :
    tables.lowerChar smallFinalSigma = [smallFinalSigma]
  lowerChar_ascii : ∀ char : Char, char.toNat < 128 →
    tables.lowerChar char = [char.toLower]
  /-- Symbols come from themselves only. -/
  lowerChar_symbol : ∀ char, ∀ lowered ∈ tables.lowerChar char,
    isSymbol lowered → lowered = char
  cased_ascii : ∀ char : Char, char.toNat < 128 →
    tables.cased char.toLower = tables.cased char
  caseIgnorable_ascii : ∀ char : Char, char.toNat < 128 →
    tables.caseIgnorable char.toLower = tables.caseIgnorable char

section Lowered

/-- Every character is its own lower case. -/
def Lowered (text : List Char) : Prop :=
  ∀ char ∈ text, tables.lowerChar char = [char] ∧ char ≠ capitalSigma

variable {tables} {text : List Char}

theorem lowerFrom_of_lowered (lowered : tables.Lowered text)
    (before : List Char) : tables.lowerFrom before text = text := by
  induction text generalizing before with
  | nil => rfl
  | cons char text ih =>
      obtain ⟨⟨stable, notSigma⟩, loweredLater⟩ :=
        List.forall_mem_cons.mp lowered
      rw [lowerFrom, lowerAt, if_neg notSigma, stable, ih loweredLater]
      rfl

theorem lower_of_lowered (lowered : tables.Lowered text) :
    tables.lower text = text :=
  lowerFrom_of_lowered lowered []

variable (lawful : tables.LawfulCase)

include lawful

theorem LawfulCase.lowered_lowerAt (before : List Char) (char : Char)
    (after : List Char) : tables.Lowered (tables.lowerAt before char after) := by
  unfold lowerAt
  split
  · split
    · exact List.forall_mem_singleton.mpr
        ⟨lawful.lowerChar_smallFinalSigma, by decide⟩
    · exact List.forall_mem_singleton.mpr
        ⟨lawful.lowerChar_smallSigma, by decide⟩
  · exact lawful.lowerChar_stable char

theorem LawfulCase.lowered_lower (text : List Char) :
    tables.Lowered (tables.lower text) := by
  unfold lower
  generalize [] = before
  induction text generalizing before with
  | nil => exact nofun
  | cons char text ih =>
      exact List.forall_mem_append.mpr
        ⟨lawful.lowered_lowerAt before char text, ih (char :: before)⟩

theorem LawfulCase.lower_lower (text : List Char) :
    tables.lower (tables.lower text) = tables.lower text :=
  lower_of_lowered (lawful.lowered_lower text)

/-- Lower-casing adds no symbols. -/
theorem LawfulCase.mem_of_mem_lowerFrom {before text : List Char} {char : Char}
    (member : char ∈ tables.lowerFrom before text)
    (symbol : isSymbol char = true) : char ∈ text := by
  induction text generalizing before with
  | nil => cases member
  | cons first text ih =>
      rcases List.mem_append.mp member with here | later
      · unfold lowerAt at here
        split at here
        · split at here
          all_goals
            rw [List.mem_singleton.mp here] at symbol
            exact absurd symbol (by decide)
        · rw [lawful.lowerChar_symbol first char here symbol]
          exact List.mem_cons_self
      · exact List.mem_cons_of_mem _ (ih later)

theorem LawfulCase.mem_of_mem_lower {text : List Char} {char : Char}
    (member : char ∈ tables.lower text) (symbol : isSymbol char = true) :
    char ∈ text :=
  lawful.mem_of_mem_lowerFrom member symbol

theorem LawfulCase.lowerFrom_ne_nil {before text : List Char}
    (visible : text ≠ []) : tables.lowerFrom before text ≠ [] := by
  cases text with
  | nil => exact absurd rfl visible
  | cons char text =>
      intro nothing
      have here : tables.lowerAt before char text = [] :=
        (List.append_eq_nil_iff.mp nothing).1
      unfold lowerAt at here
      split at here
      · cases here
      · exact lawful.lowerChar_ne_nil char here

end Lowered

section AsciiCodes

variable {char : Char}

theorem codes_of_isAlpha (isLetter : char.isAlpha = true) :
    65 ≤ char.toNat ∧ char.toNat ≤ 122 := by
  have cases : (decide (char.val ≥ 'A'.val ∧ char.val ≤ 'Z'.val) ||
      (decide (char.val ≥ 'a'.val) && decide (char.val ≤ 'z'.val))) = true :=
    isLetter
  rw [Bool.or_eq_true, Bool.and_eq_true, decide_eq_true_eq, decide_eq_true_eq,
    decide_eq_true_eq] at cases
  have code : char.toNat = char.val.toNat := rfl
  have upperA : 'A'.val.toNat = 65 := rfl
  have upperZ : 'Z'.val.toNat = 90 := rfl
  have lowerA : 'a'.val.toNat = 97 := rfl
  have lowerZ : 'z'.val.toNat = 122 := rfl
  simp only [ge_iff_le, UInt32.le_iff_toNat_le] at cases
  omega

theorem codes_of_isDigit (isDigit : char.isDigit = true) :
    48 ≤ char.toNat ∧ char.toNat ≤ 57 := by
  have range : (decide (char.val ≥ '0'.val) && decide (char.val ≤ '9'.val)) =
      true := isDigit
  rw [Bool.and_eq_true, decide_eq_true_eq, decide_eq_true_eq] at range
  have code : char.toNat = char.val.toNat := rfl
  have zero : '0'.val.toNat = 48 := rfl
  have nine : '9'.val.toNat = 57 := rfl
  simp only [ge_iff_le, UInt32.le_iff_toNat_le] at range
  omega

end AsciiCodes

section AsciiCase

/-- Letters outside ASCII have no ASCII lower case. -/
theorem toLower_of_not_ascii {char : Char} (notAscii : ¬ char.toNat < 128) :
    char.toLower = char := by
  unfold Char.toLower
  refine dif_neg fun upper => notAscii ?_
  have small : char.val.toNat ≤ 90 := upper.2
  have code : char.toNat = char.val.toNat := rfl
  omega

/-- What holds of all ASCII characters is checked on their codes, in eight rows
of sixteen. -/
theorem ascii_forall {property : Char → Prop}
    (all : ∀ row ∈ List.range 8, ∀ column ∈ List.range 16,
      property (Char.ofNat (16 * row + column))) {char : Char}
    (ascii : char.toNat < 128) : property char := by
  have here := all (char.toNat / 16) (List.mem_range.mpr (by omega))
    (char.toNat % 16) (List.mem_range.mpr (Nat.mod_lt _ (by decide)))
  rwa [Nat.div_add_mod, Char.ofNat_toNat] at here

/-- The ASCII lower case is an ASCII character and its own lower case. -/
theorem toLower_ascii {char : Char} (ascii : char.toNat < 128) :
    char.toLower.toNat < 128 ∧ char.toLower.toLower = char.toLower :=
  @ascii_forall (fun letter => letter.toLower.toNat < 128 ∧
    letter.toLower.toLower = letter.toLower) (by decide) char ascii

theorem toLower_ne_capitalSigma {char : Char} (notSigma : char ≠ capitalSigma) :
    char.toLower ≠ capitalSigma := by
  by_cases ascii : char.toNat < 128
  · exact @ascii_forall (fun letter => letter.toLower ≠ capitalSigma)
      (by decide) char ascii
  · rwa [toLower_of_not_ascii ascii]

variable {tables} (lawful : tables.LawfulCase)

include lawful

/-- An ASCII text at the beginning is put in lower case on its own. -/
theorem LawfulCase.lowerFrom_append {first : List Char}
    (ascii : ∀ char ∈ first, char.toNat < 128) (before second : List Char) :
    tables.lowerFrom before (first ++ second) = first.map Char.toLower ++
      tables.lowerFrom (first.reverse ++ before) second := by
  induction first generalizing before with
  | nil => rfl
  | cons char first ih =>
      obtain ⟨asciiHere, asciiLater⟩ := List.forall_mem_cons.mp ascii
      have notSigma : char ≠ capitalSigma := by
        rintro rfl
        exact absurd asciiHere (by decide)
      rw [List.cons_append, lowerFrom, lowerAt, if_neg notSigma,
        lawful.lowerChar_ascii char asciiHere, ih asciiLater]
      simp

/-- ASCII characters that are their own lower case stay in a text. -/
theorem LawfulCase.mem_lowerFrom {before text : List Char} {char : Char}
    (member : char ∈ text) (ascii : char.toNat < 128)
    (stable : char.toLower = char) : char ∈ tables.lowerFrom before text := by
  induction text generalizing before with
  | nil => cases member
  | cons first text ih =>
      rcases List.mem_cons.mp member with rfl | later
      · have here := lawful.lowerFrom_append
          (List.forall_mem_singleton.mpr ascii) before text
        rw [List.singleton_append] at here
        rw [here, List.map_singleton, stable]
        exact List.mem_cons_self
      · exact List.mem_append_right _ (ih later)

end AsciiCase

section Sample

/-- The tables as they are for ASCII texts. -/
def asciiTables : UnicodeTables where
  lowerChar char := if char = capitalSigma then [smallSigma] else [char.toLower]
  cased := Char.isAlpha
  caseIgnorable char := char.toNat ∈ [39, 46, 58, 94, 96]
  isAlnum := Char.isAlphanum
  nfkc := id

theorem toLower_symbol {char : Char} (symbol : isSymbol char.toLower = true) :
    char.toLower = char := by
  by_cases ascii : char.toNat < 128
  · exact @ascii_forall (fun letter => isSymbol letter.toLower = true →
      letter.toLower = letter) (by decide) char ascii symbol
  · exact toLower_of_not_ascii ascii

theorem asciiTables_lawfulCase : asciiTables.LawfulCase where
  lowerChar_ne_nil char := by
    simp only [asciiTables]
    split
    all_goals exact List.cons_ne_nil _ _
  lowerChar_stable char lowered member := by
    simp only [asciiTables] at member ⊢
    split at member
    · rw [List.mem_singleton.mp member]
      decide
    · rename_i notSigma
      rw [List.mem_singleton.mp member, if_neg (toLower_ne_capitalSigma notSigma)]
      refine ⟨?_, toLower_ne_capitalSigma notSigma⟩
      by_cases ascii : char.toNat < 128
      · rw [(toLower_ascii ascii).2]
      · rw [toLower_of_not_ascii ascii, toLower_of_not_ascii ascii]
  lowerChar_smallSigma := by decide
  lowerChar_smallFinalSigma := by decide
  lowerChar_ascii char ascii := by
    refine if_neg ?_
    rintro rfl
    exact absurd ascii (by decide)
  lowerChar_symbol char lowered member symbol := by
    simp only [asciiTables] at member
    split at member
    · rw [List.mem_singleton.mp member] at symbol
      exact absurd symbol (by decide)
    · rw [List.mem_singleton.mp member] at symbol ⊢
      exact toLower_symbol symbol
  cased_ascii char ascii := @ascii_forall
    (fun letter => asciiTables.cased letter.toLower = asciiTables.cased letter)
    (by decide) char ascii
  caseIgnorable_ascii char ascii := @ascii_forall
    (fun letter => asciiTables.caseIgnorable letter.toLower =
      asciiTables.caseIgnorable letter) (by decide) char ascii

end Sample

end UnicodeTables

end Tca
