import Tca.PythonValues

/-!
# Integers as texts

`int(text)` reads a decimal numeral of any script, with white space around it,
a sign before it and single underscores between its digits, and gives up on more
than 4300 digits.  `str(value)` has the same limit.  `str.isdigit` accepts other
texts than `int`: it knows superscripts but no signs.
-/

namespace Tca

/-- What the interpreter knows of characters outside ASCII, and how it shows a
text in messages. -/
structure NumeralTables where
  /-- The value of a decimal digit. -/
  decimal : Char → Option Nat
  isDigit : Char → Bool
  repr : String → String

/-- `sys.get_int_max_str_digits()`. -/
def maxStrDigits : Nat :=
  4300

/-- The white space that `int` skips among the ASCII characters. -/
def isAsciiSpace (char : Char) : Bool :=
  char.toNat ∈ [9, 10, 11, 12, 13, 32]

/-- An optional sign: is it a minus, and what follows it. -/
def takeSign : List Char → Bool × List Char
  | [] => (false, [])
  | first :: text =>
      if first = '-' then (true, text)
      else if first = '+' then (false, text)
      else (false, first :: text)

/-- A character of a numeral: a digit or an underscore. -/
def isNumeral (char : Char) : Bool :=
  char.isDigit || char == '_'

/-- Every underscore stands between two digits, and there is a digit. -/
def groupsDigits (numeral : List Char) : Bool :=
  (numeral.splitOn '_').all fun group => !group.isEmpty

/-- The value of digits with a sign. -/
def signed (negative : Bool) (magnitude : Nat) : Int :=
  if negative then -(magnitude : Int) else magnitude

namespace NumeralTables

variable (tables : NumeralTables)

/-- The ASCII character that `int` reads in place of a character. -/
def toAscii (char : Char) : Char :=
  if char.toNat < 128 then char
  else if isPythonSpace char then ' '
  else
    match tables.decimal char with
    | some digit => Nat.digitChar digit
    | none => '?'

/-- `int(text)`. -/
def int (text : String) : Except PyError Int :=
  let ascii := (text.toList.map tables.toAscii).dropWhile isAsciiSpace
  let unsigned := (takeSign ascii).2
  let numeral := unsigned.takeWhile isNumeral
  let digits := numeral.filter (· ≠ '_')
  if groupsDigits numeral &&
      (unsigned.dropWhile isNumeral).all isAsciiSpace then
    if digits.length ≤ maxStrDigits then
      .ok (signed (takeSign ascii).1 (Nat.ofDigitChars 10 digits 0))
    else
      .error (.valueError ("Exceeds the limit (4300 digits) for integer " ++
        "string conversion: value has " ++ toString digits.length ++
        " digits; use sys.set_int_max_str_digits() to increase the limit"))
  else
    .error (.valueError ("invalid literal for int() with base 10: " ++
      tables.repr text))

/-- `text.isdigit()`. -/
def isdigit (text : String) : Bool :=
  !text.isEmpty && text.toList.all fun char =>
    if char.toNat < 128 then char.isDigit else tables.isDigit char

end NumeralTables

/-- The decimal numeral of an integer. -/
def intDigits : Int → List Char
  | .ofNat magnitude => Nat.toDigits 10 magnitude
  | .negSucc less => '-' :: Nat.toDigits 10 (less + 1)

/-- `str(value)` is within the limit on digits. -/
def Printable (value : Int) : Prop :=
  (Nat.toDigits 10 value.natAbs).length ≤ maxStrDigits

instance (value : Int) : Decidable (Printable value) :=
  inferInstanceAs (Decidable (_ ≤ _))

/-- `str(value)`. -/
def pythonStr (value : Int) : Except PyError String :=
  if Printable value then .ok (String.ofList (intDigits value))
  else
    .error (.valueError ("Exceeds the limit (4300 digits) for integer " ++
      "string conversion; use sys.set_int_max_str_digits() to increase the " ++
      "limit"))

section Printing

variable {magnitude : Nat} {value : Int}

theorem isDigit_of_mem_toDigits {char : Char}
    (member : char ∈ Nat.toDigits 10 magnitude) : char.isDigit = true :=
  Nat.isDigit_of_mem_toDigits (by decide) (by decide) member

theorem exists_toDigits_cons (magnitude : Nat) :
    ∃ first others, Nat.toDigits 10 magnitude = first :: others ∧
      first.isDigit = true := by
  cases digits : Nat.toDigits 10 magnitude with
  | nil => exact absurd digits Nat.toDigits_ne_nil
  | cons first others =>
      refine ⟨first, others, rfl, ?_⟩
      apply @isDigit_of_mem_toDigits magnitude
      rw [digits]
      exact List.mem_cons_self

theorem isDigit_codes {char : Char} (digit : char.isDigit = true) :
    48 ≤ char.toNat ∧ char.toNat ≤ 57 := by
  have codes := digit
  simp only [Char.isDigit, Bool.and_eq_true, decide_eq_true_eq,
    UInt32.le_iff_toNat_le] at codes
  exact codes

theorem isAsciiSpace_of_isDigit {char : Char} (digit : char.isDigit = true) :
    isAsciiSpace char = false := by
  have codes := isDigit_codes digit
  simp only [isAsciiSpace, List.mem_cons, List.not_mem_nil, or_false,
    decide_eq_false_iff_not]
  omega

theorem intDigits_eq (value : Int) :
    intDigits value =
      (if value < 0 then ['-'] else []) ++ Nat.toDigits 10 value.natAbs := by
  cases value with
  | ofNat magnitude =>
      have natural : ¬ Int.ofNat magnitude < 0 := by
        rw [Int.ofNat_eq_natCast]
        omega
      rw [if_neg natural]
      rfl
  | negSucc less =>
      rw [if_pos (Int.negSucc_lt_zero less)]
      rfl

theorem takeSign_intDigits (value : Int) :
    takeSign (intDigits value) =
      (decide (value < 0), Nat.toDigits 10 value.natAbs) := by
  rw [intDigits_eq]
  by_cases negative : value < 0
  · simp [negative, takeSign]
  · obtain ⟨first, others, digits, isDigit⟩ :=
      exists_toDigits_cons value.natAbs
    have codes := isDigit_codes isDigit
    have notMinus : first ≠ '-' := by
      rintro rfl
      exact absurd codes (by decide)
    have notPlus : first ≠ '+' := by
      rintro rfl
      exact absurd codes (by decide)
    simp [negative, digits, takeSign, notMinus, notPlus]

theorem signed_natAbs (value : Int) :
    signed (decide (value < 0)) value.natAbs = value := by
  simp only [signed, decide_eq_true_eq]
  split
  all_goals omega

end Printing

section Reading

variable {tables : NumeralTables} {text : String} {value : Int}

theorem groupsDigits_of_digits {digits : List Char} (present : digits ≠ [])
    (allDigits : ∀ char ∈ digits, char.isDigit = true) :
    groupsDigits digits = true := by
  have absent : '_' ∉ digits := by
    intro underscore
    exact absurd (allDigits '_' underscore) (by decide)
  rw [groupsDigits, List.splitOn_eq_singleton absent]
  simpa using present

/-- ASCII characters are read as they are. -/
theorem map_toAscii {chars : List Char}
    (ascii : ∀ char ∈ chars, char.toNat < 128) :
    chars.map tables.toAscii = chars := by
  induction chars with
  | nil => rfl
  | cons char chars ih =>
      have first : tables.toAscii char = char :=
        if_pos (ascii char List.mem_cons_self)
      rw [List.map_cons, first, ih]
      intro other later
      exact ascii other (List.mem_cons_of_mem _ later)

theorem ascii_of_mem_intDigits {char : Char}
    (member : char ∈ intDigits value) : char.toNat < 128 := by
  rw [intDigits_eq, List.mem_append] at member
  rcases member with sign | digit
  · split at sign
    · cases List.mem_singleton.mp sign
      decide
    · cases sign
  · have codes := isDigit_codes (isDigit_of_mem_toDigits digit)
    omega

theorem head_intDigits (value : Int) :
    (intDigits value).dropWhile isAsciiSpace = intDigits value := by
  rw [intDigits_eq]
  split
  · rfl
  · obtain ⟨first, others, digits, isDigit⟩ :=
      exists_toDigits_cons value.natAbs
    rw [List.nil_append, digits, List.dropWhile_cons_of_neg]
    simp [isAsciiSpace_of_isDigit isDigit]

/-- `int` reads back what `str` has printed. -/
theorem int_intDigits (printable : Printable value) :
    tables.int (String.ofList (intDigits value)) = .ok value := by
  have numerals : ∀ char ∈ Nat.toDigits 10 value.natAbs,
      isNumeral char = true := by
    intro char member
    rw [isNumeral, isDigit_of_mem_toDigits member]
    rfl
  have noUnderscore : (Nat.toDigits 10 value.natAbs).filter (· ≠ '_') =
      Nat.toDigits 10 value.natAbs := by
    rw [List.filter_eq_self]
    intro char member
    have notUnderscore : char ≠ '_' := by
      rintro rfl
      exact Nat.underscore_not_in_toDigits member
    simpa using notUnderscore
  have short : (Nat.toDigits 10 value.natAbs).length ≤ maxStrDigits :=
    printable
  have grouped : groupsDigits (Nat.toDigits 10 value.natAbs) = true :=
    groupsDigits_of_digits Nat.toDigits_ne_nil
      fun char => isDigit_of_mem_toDigits
  rw [NumeralTables.int, String.toList_ofList,
    map_toAscii fun char => ascii_of_mem_intDigits, head_intDigits,
    takeSign_intDigits]
  simp only [List.takeWhile_eq_self_iff.mpr numerals,
    List.dropWhile_eq_nil_iff.mpr numerals, noUnderscore, grouped,
    Nat.ofDigitChars_ten_toDigits, List.all_nil, Bool.and_self, if_true,
    if_pos short, signed_natAbs]

theorem mem_takeSign {chars : List Char} {char : Char}
    (member : char ∈ chars) :
    char = '-' ∨ char = '+' ∨ char ∈ (takeSign chars).2 := by
  cases chars with
  | nil => cases member
  | cons first others =>
      rw [takeSign]
      rcases List.mem_cons.mp member with rfl | later
      · by_cases minus : char = '-'
        · exact Or.inl minus
        · by_cases plus : char = '+'
          · exact Or.inr (Or.inl plus)
          · simp [minus, plus]
      · right
        right
        split
        · exact later
        · split
          · exact later
          · exact member

/-- `int` accepts a text only if a numeral and nothing but white space is left
behind the sign. -/
theorem rest_of_int (read : tables.int text = .ok value) :
    (((takeSign ((text.toList.map tables.toAscii).dropWhile
      isAsciiSpace)).2).dropWhile isNumeral).all isAsciiSpace = true := by
  rw [NumeralTables.int] at read
  split at read
  · rename_i accepted
    exact (Bool.and_eq_true_iff.mp accepted).2
  · cases read

/-- What `int` accepts has only signs, digits, underscores and spaces. -/
theorem toAscii_of_int (read : tables.int text = .ok value) {char : Char}
    (member : char ∈ text.toList) :
    isAsciiSpace (tables.toAscii char) = true ∨
      isNumeral (tables.toAscii char) = true ∨
      tables.toAscii char = '-' ∨ tables.toAscii char = '+' := by
  have inAscii : tables.toAscii char ∈ text.toList.map tables.toAscii :=
    List.mem_map_of_mem member
  rw [← List.takeWhile_append_dropWhile (p := isAsciiSpace)
    (l := text.toList.map tables.toAscii), List.mem_append] at inAscii
  rcases inAscii with leading | later
  · exact Or.inl (List.mem_takeWhile_imp leading)
  · rcases mem_takeSign later with minus | plus | unsigned
    · exact Or.inr (Or.inr (Or.inl minus))
    · exact Or.inr (Or.inr (Or.inr plus))
    · rw [← List.takeWhile_append_dropWhile (p := isNumeral)
        (l := (takeSign _).2), List.mem_append] at unsigned
      rcases unsigned with numeral | trailing
      · exact Or.inr (Or.inl (List.mem_takeWhile_imp numeral))
      · exact Or.inl (List.all_eq_true.mp (rest_of_int read) _ trailing)

/-- A full stop is not part of an integer. -/
theorem notMem_of_int (read : tables.int text = .ok value) :
    '.' ∉ text.toList := by
  intro stop
  have same : tables.toAscii '.' = '.' := if_pos (by decide)
  have cases := toAscii_of_int read stop
  rw [same] at cases
  revert cases
  decide

/-- `int` fails with a `ValueError` only. -/
theorem int_error {error : PyError} (failed : tables.int text = .error error) :
    ∃ message, error = .valueError message := by
  rw [NumeralTables.int] at failed
  split at failed
  · split at failed
    · cases failed
    · cases failed
      exact ⟨_, rfl⟩
  · cases failed
    exact ⟨_, rfl⟩

end Reading

end Tca
