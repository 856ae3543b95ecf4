import Tca.JsonTexts
import Mathlib.Data.Nat.Notation

/-!
# Printed JSON

Documents are printed without white space and in ASCII: every other character
is spelled by its code units.  The scanner reads a printed document back.
-/

namespace Tca.Json

/-- A code unit by its number. -/
def escapeUnit (unit : Nat) : List Char :=
  ['\\', 'u', Nat.digitChar (unit / 4096), Nat.digitChar (unit / 256 % 16),
    Nat.digitChar (unit / 16 % 16), Nat.digitChar (unit % 16)]

/-- The letter of a short escape. -/
def shortEscape? (char : Char) : Option Char :=
  [('"', '"'), ('\\', '\\'), ('\n', 'n'), ('\r', 'r'), ('\t', 't'),
    ('\x0c', 'f'), ('\x08', 'b')].lookup char

/-- A code point inside quotes. -/
def escape : CodePoint → List Char
  | .surrogate unit _ => escapeUnit unit
  | .scalar char =>
      let code := char.toNat
      match shortEscape? char with
      | some letter => ['\\', letter]
      | none =>
          if 0x20 ≤ code ∧ code ≤ 0x7E then [char]
          else if code < 0x10000 then escapeUnit code
          else
            escapeUnit (0xD800 + (code - 0x10000) / 0x400) ++
              escapeUnit (0xDC00 + (code - 0x10000) % 0x400)

def quote (text : Text) : List Char :=
  '"' :: (text.flatMap escape ++ ['"'])

/-- How numbers are printed. -/
structure Encoder (ε φ : Type) where
  intText : Int → Except ε (List Char)
  floatText : φ → Except ε (List Char)

variable {ε φ : Type}

namespace Encoder

variable (encoder : Encoder ε φ)

mutual

/-- `json.dumps(value, separators=(",", ":"))`. -/
def dumps : Value φ → Except ε (List Char)
  | .null => .ok "null".toList
  | .bool true => .ok "true".toList
  | .bool false => .ok "false".toList
  | .int value => encoder.intText value
  | .float value => encoder.floatText value
  | .str text => .ok (quote text)
  | .list [] => .ok ['[', ']']
  | .list (item :: items) => do
      let text ← dumps item
      let others ← dumpsItems items
      return '[' :: (text ++ others ++ [']'])
  | .object [] => .ok ['{', '}']
  | .object ((key, value) :: members) => do
      let text ← dumps value
      let others ← dumpsMembers members
      return '{' :: (quote key ++ ':' :: text ++ others ++ ['}'])

/-- The items of an array behind its first one. -/
def dumpsItems : List (Value φ) → Except ε (List Char)
  | [] => .ok []
  | item :: items => do
      let text ← dumps item
      let others ← dumpsItems items
      return ',' :: (text ++ others)

/-- The members of an object behind its first one. -/
def dumpsMembers : List (Text × Value φ) → Except ε (List Char)
  | [] => .ok []
  | (key, value) :: members => do
      let text ← dumps value
      let others ← dumpsMembers members
      return ',' :: (quote key ++ ':' :: text ++ others)

end

end Encoder

section Strings

/-- The code units that the escape of a character spells. -/
def units (char : Char) : Text :=
  if char.toNat < 0x10000 then [.scalar char]
  else
    [.ofUnit (0xD800 + (char.toNat - 0x10000) / 0x400),
      .ofUnit (0xDC00 + (char.toNat - 0x10000) % 0x400)]

theorem hexValue?_digitChar {value : Nat} (inRange : value < 16) :
    hexValue? (Nat.digitChar value) = some value := by
  have all : ∀ index ∈ List.range 16,
      hexValue? (Nat.digitChar index) = some index := by decide
  exact all value (List.mem_range.mpr inRange)

theorem scanUnits_escapeUnit {unit : Nat} (inRange : unit < 0x10000)
    (rest : List Char) :
    scanUnits (escapeUnit unit ++ rest) =
      (scanUnits rest).map fun scanned =>
        (.ofUnit unit :: scanned.1, scanned.2) := by
  have spelled : hexUnit? (Nat.digitChar (unit / 4096))
      (Nat.digitChar (unit / 256 % 16)) (Nat.digitChar (unit / 16 % 16))
      (Nat.digitChar (unit % 16)) = some unit := by
    simp only [hexUnit?,
      hexValue?_digitChar (show unit / 4096 < 16 by omega),
      hexValue?_digitChar (show unit / 256 % 16 < 16 by omega),
      hexValue?_digitChar (show unit / 16 % 16 < 16 by omega),
      hexValue?_digitChar (show unit % 16 < 16 by omega),
      Option.bind_eq_bind, Option.bind_some, Option.pure_def]
    congr 1
    omega
  simp only [escapeUnit, List.cons_append, List.nil_append, scanUnits, spelled,
    Option.bind_eq_bind, Option.bind_some, Option.pure_def]
  cases scanUnits rest <;> rfl

theorem scanUnits_plain {char : Char} (printable : 0x20 ≤ char.toNat)
    (noQuote : char ≠ '"') (noBackslash : char ≠ '\\') (rest : List Char) :
    scanUnits (char :: rest) =
      (scanUnits rest).map fun scanned =>
        (.scalar char :: scanned.1, scanned.2) := by
  rw [scanUnits.eq_5 _ _ noQuote
    (fun _ _ _ _ _ isBackslash _ => noBackslash isBackslash)
    (fun _ _ isBackslash _ => noBackslash isBackslash),
    if_neg (by omega)]
  cases scanUnits rest <;> rfl

theorem ofUnit_char (char : Char) :
    CodePoint.ofUnit char.toNat = .scalar char := by
  have valid : char.toNat < 0xD800 ∨
      (0xDFFF < char.toNat ∧ char.toNat < 0x110000) := char.valid
  unfold CodePoint.ofUnit
  rw [dif_neg (by omega), Char.ofNat_toNat]

theorem shortEscape?_some {char letter : Char}
    (known : shortEscape? char = some letter) :
    unescape? letter = some char ∧ letter ≠ 'u' ∧ char.toNat < 0x10000 := by
  have all : ∀ pair ∈ [('"', '"'), ('\\', '\\'), ('\n', 'n'), ('\r', 'r'),
      ('\t', 't'), ('\x0c', 'f'), ('\x08', 'b')],
      unescape? pair.2 = some pair.1 ∧ pair.2 ≠ 'u' ∧
        pair.1.toNat < 0x10000 := by decide
  obtain ⟨before, after, split, -⟩ := List.lookup_eq_some_iff.mp known
  refine all (char, letter) ?_
  rw [split]
  simp

theorem shortEscape?_none {char : Char} (unknown : shortEscape? char = none) :
    char ≠ '"' ∧ char ≠ '\\' := by
  constructor
  · rintro rfl
    revert unknown
    decide
  · rintro rfl
    revert unknown
    decide

theorem scanUnits_escape (char : Char) (rest : List Char) :
    scanUnits (escape (.scalar char) ++ rest) =
      (scanUnits rest).map fun scanned =>
        (units char ++ scanned.1, scanned.2) := by
  unfold escape units
  simp only
  split
  · rename_i letter known
    obtain ⟨unescaped, notUnit, small⟩ := shortEscape?_some known
    rw [if_pos small]
    show scanUnits ('\\' :: letter :: rest) = _
    rw [scanUnits.eq_4 _ _ fun _ _ _ _ _ isUnit _ => notUnit isUnit,
      unescaped]
    simp only [Option.bind_eq_bind, Option.bind_some, Option.pure_def]
    cases scanUnits rest <;> rfl
  · rename_i unknown
    obtain ⟨noQuote, noBackslash⟩ := shortEscape?_none unknown
    split
    · rename_i printable
      rw [if_pos (show char.toNat < 0x10000 by omega)]
      exact scanUnits_plain printable.1 noQuote noBackslash rest
    split
    · rename_i unprintable small
      rw [← ofUnit_char]
      exact scanUnits_escapeUnit small rest
    · rename_i unprintable large
      have valid : char.toNat < 0xD800 ∨
          (0xDFFF < char.toNat ∧ char.toNat < 0x110000) := char.valid
      rw [List.append_assoc, scanUnits_escapeUnit (by omega),
        scanUnits_escapeUnit (by omega), Option.map_map]
      rfl

/-- A low surrogate is not joined to what follows it. -/
theorem joinUnit_low {low : Nat} (inRange : 0xD800 ≤ low ∧ low ≤ 0xDFFF)
    (isLow : 0xDC00 ≤ low) (rest : Text) :
    joinUnit (.surrogate low inRange) rest =
      .surrogate low inRange :: rest := by
  cases rest with
  | nil => rfl
  | cons next rest =>
      cases next with
      | scalar char => rfl
      | surrogate unit unitRange => exact if_neg (by omega)

theorem joinSurrogates_pair {high low : Nat}
    (highRange : 0xD800 ≤ high ∧ high ≤ 0xDFFF)
    (lowRange : 0xD800 ≤ low ∧ low ≤ 0xDFFF) (isHigh : high < 0xDC00)
    (isLow : 0xDC00 ≤ low) (rest : Text) :
    joinSurrogates (.surrogate high highRange :: .surrogate low lowRange ::
        rest) =
      .scalar (Char.ofNat
        (0x10000 + (high - 0xD800) * 0x400 + (low - 0xDC00))) ::
        joinSurrogates rest := by
  have alone : joinSurrogates (.surrogate low lowRange :: rest) =
      .surrogate low lowRange :: joinSurrogates rest :=
    joinUnit_low lowRange isLow _
  show joinUnit _ (joinSurrogates (.surrogate low lowRange :: rest)) = _
  rw [alone]
  exact if_pos ⟨isHigh, isLow⟩

/-- The units of a character are joined to the character. -/
theorem joinSurrogates_units (char : Char) (rest : Text) :
    joinSurrogates (units char ++ rest) =
      .scalar char :: joinSurrogates rest := by
  have valid : char.toNat < 0xD800 ∨
      (0xDFFF < char.toNat ∧ char.toNat < 0x110000) := char.valid
  unfold units
  split
  · rfl
  · rename_i large
    have joined : 0x10000 +
        (0xD800 + (char.toNat - 0x10000) / 0x400 - 0xD800) * 0x400 +
        (0xDC00 + (char.toNat - 0x10000) % 0x400 - 0xDC00) =
          char.toNat := by
      omega
    rw [CodePoint.ofUnit, CodePoint.ofUnit, dif_pos (by omega),
      dif_pos (by omega), List.cons_append, List.cons_append,
      joinSurrogates_pair _ _ (by omega) (by omega), joined, Char.ofNat_toNat]
    rfl

/-- The code units that the escape of a code point spells. -/
def CodePoint.units : CodePoint → Text
  | .scalar char => Json.units char
  | .surrogate unit inRange => [.surrogate unit inRange]

theorem scanUnits_escape_point (point : CodePoint) (rest : List Char) :
    scanUnits (escape point ++ rest) =
      (scanUnits rest).map fun scanned =>
        (point.units ++ scanned.1, scanned.2) := by
  cases point with
  | scalar char => exact scanUnits_escape char rest
  | surrogate unit inRange =>
      have spelled : CodePoint.ofUnit unit = .surrogate unit inRange :=
        dif_pos inRange
      rw [escape, scanUnits_escapeUnit (by omega), spelled]
      rfl

/-- A text whose surrogates are lone, as all decoded texts are. -/
def Text.Joined (text : Text) : Prop :=
  joinSurrogates text = text

/-- Spelling the code units of a text changes nothing but its surrogates. -/
theorem joinSurrogates_flatMap_units (text : Text) :
    joinSurrogates (text.flatMap CodePoint.units) = joinSurrogates text := by
  induction text with
  | nil => rfl
  | cons point text ih =>
      rw [List.flatMap_cons]
      cases point with
      | scalar char =>
          rw [CodePoint.units, joinSurrogates_units, ih]
          rfl
      | surrogate unit inRange =>
          show joinUnit _ (joinSurrogates (text.flatMap CodePoint.units)) = _
          rw [ih]
          rfl

theorem Text.joined_ofChars (chars : List Char) :
    (Text.ofChars chars).Joined := by
  induction chars with
  | nil => rfl
  | cons char chars ih =>
      show joinUnit (.scalar char) (joinSurrogates (Text.ofChars chars)) = _
      rw [ih]
      rfl

/-- A printed string is read back up to its closing quote. -/
theorem scanString_quote {text : Text} (joined : text.Joined)
    (rest : List Char) :
    scanString (text.flatMap escape ++ '"' :: rest) =
      (.ok (text, rest) : Except (Failure ε) (Scanned Text)) := by
  have scanned : scanUnits (text.flatMap escape ++ '"' :: rest) =
      some (text.flatMap CodePoint.units, rest) := by
    clear joined
    induction text with
    | nil => rfl
    | cons point text ih =>
        rw [List.flatMap_cons, List.append_assoc, scanUnits_escape_point, ih]
        rfl
  rw [scanString, scanned]
  simp only [joinSurrogates_flatMap_units]
  rw [joined]

end Strings

section Numbers

/-- The digits of a numeral before its point. -/
def Whole (digits : List Char) : Prop :=
  digits = ['0'] ∨
    (digits ≠ [] ∧ digits.head? ≠ some '0' ∧
      ∀ digit ∈ digits, digit.isDigit = true)

/-- The texts of integers. -/
inductive Numeral : List Char → Prop where
  | positive {digits : List Char} (whole : Whole digits) : Numeral digits
  | negative {digits : List Char} (whole : Whole digits) :
      Numeral ('-' :: digits)

/-- A point and the digits behind it, or nothing. -/
def Fraction (text : List Char) : Prop :=
  text = [] ∨ ∃ digit digits, text = '.' :: digit :: digits ∧
    ∀ char ∈ digit :: digits, char.isDigit = true

/-- An exponent with its digits, or nothing. -/
def Exponent (text : List Char) : Prop :=
  text = [] ∨ ∃ mark sign digits, text = mark :: (sign ++ digits) ∧
    (mark = 'e' ∨ mark = 'E') ∧ (sign = [] ∨ sign = ['-'] ∨ sign = ['+']) ∧
    digits ≠ [] ∧ ∀ digit ∈ digits, digit.isDigit = true

/-- The texts of floats. -/
structure FloatNumeral (numeral : List Char) : Prop where
  spelled : ∃ minus whole fraction exponent,
    numeral = minus ++ whole ++ fraction ++ exponent ∧
    (minus = [] ∨ minus = ['-']) ∧ Whole whole ∧ Fraction fraction ∧
    Exponent exponent ∧ ¬(fraction = [] ∧ exponent = [])

/-- A text that does not continue the numeral before it. -/
def EndsNumeral (rest : List Char) : Prop :=
  ∀ char, rest.head? = some char →
    char.isDigit = false ∧ char ≠ '.' ∧ char ≠ 'e' ∧ char ≠ 'E'

theorem Whole.exists_cons {digits : List Char} (whole : Whole digits) :
    ∃ first others, digits = first :: others ∧ first.isDigit = true := by
  rcases whole with rfl | ⟨nonempty, -, isDigits⟩
  · exact ⟨'0', [], rfl, by decide⟩
  · obtain ⟨first, others, rfl⟩ := List.exists_cons_of_ne_nil nonempty
    exact ⟨first, others, rfl, isDigits first List.mem_cons_self⟩

/-- A text that continues no run of digits. -/
def EndsDigits (rest : List Char) : Prop :=
  ∀ char, rest.head? = some char → char.isDigit = false

theorem digits_end {digits rest : List Char}
    (isDigits : ∀ digit ∈ digits, digit.isDigit = true)
    (ends : EndsDigits rest) :
    (digits ++ rest).takeWhile Char.isDigit = digits ∧
      (digits ++ rest).dropWhile Char.isDigit = rest := by
  rw [List.takeWhile_append_of_pos isDigits,
    List.dropWhile_append_of_pos isDigits]
  cases rest with
  | nil => exact ⟨List.append_nil _, rfl⟩
  | cons first rest =>
      have noDigit := ends first rfl
      simp [noDigit]

theorem EndsNumeral.digits {rest : List Char} (ends : EndsNumeral rest) :
    EndsDigits rest :=
  fun char first => (ends char first).1

theorem scanWhole_append {whole rest : List Char}
    (isWhole : Whole whole) (ends : EndsDigits rest) :
    scanWhole (whole ++ rest) = some (whole, rest) := by
  rcases isWhole with rfl | ⟨nonempty, noZero, isDigits⟩
  · rfl
  · obtain ⟨first, others, rfl⟩ := List.exists_cons_of_ne_nil nonempty
    have notZero : first ≠ '0' := fun zero => noZero (congrArg some zero)
    obtain ⟨isDigit, areDigits⟩ := List.forall_mem_cons.mp isDigits
    obtain ⟨taken, dropped⟩ := digits_end areDigits ends
    rw [List.cons_append, scanWhole, if_neg notZero, if_pos isDigit, taken,
      dropped]

theorem scanFraction_of_ends {rest : List Char} (ends : EndsNumeral rest) :
    scanFraction rest = ([], rest) := by
  fun_cases scanFraction rest with
  | case1 digit rest isDigit => exact absurd rfl (ends '.' rfl).2.1
  | case2 digit rest notDigit => rfl
  | case3 rest noPoint => rfl

theorem scanExponent_of_ends {rest : List Char} (ends : EndsNumeral rest) :
    scanExponent rest = ([], rest) := by
  fun_cases scanExponent rest with
  | case1 => rfl
  | case2 mark rest sign digits split present =>
      obtain ⟨-, -, noSmall, noLarge⟩ := ends mark rfl
      rcases present.1 with small | large
      · exact absurd small noSmall
      · exact absurd large noLarge
  | case3 mark rest sign digits split absent => rfl

variable {decoder : Decoder ε φ}

/-- What the scanner gives for a numeral. -/
def readNumeral (decoder : Decoder ε φ) (numeral rest : List Char) :
    Except (Failure ε) (Scanned (Value φ)) :=
  match decoder.parseInt numeral with
  | .ok value => .ok (.int value, rest)
  | .error error => .error (.raised error)

/-- A numeral is read up to its end. -/
theorem scanNumber_append {numeral rest : List Char}
    (isNumeral : Numeral numeral) (ends : EndsNumeral rest) :
    decoder.scanNumber (numeral ++ rest) =
      readNumeral decoder numeral rest := by
  cases isNumeral with
  | positive whole =>
      obtain ⟨first, others, rfl, isDigit⟩ := whole.exists_cons
      have noMinus : first ≠ '-' := by
        rintro rfl
        cases isDigit
      have unsigned : scanMinus (first :: others ++ rest) =
          ([], first :: others ++ rest) :=
        scanMinus.eq_2 _ fun _ minus => noMinus (List.cons.inj minus).1
      rw [Decoder.scanNumber, unsigned]
      simp only [scanWhole_append whole ends.digits, scanFraction_of_ends ends,
        scanExponent_of_ends ends, and_self, if_true, List.nil_append]
      rfl
  | negative whole =>
      rw [Decoder.scanNumber, List.cons_append, scanMinus]
      simp only [scanWhole_append whole ends.digits, scanFraction_of_ends ends,
        scanExponent_of_ends ends, and_self, if_true, List.cons_append,
        List.nil_append]
      rfl

theorem scanExponent_append {exponent rest : List Char}
    (isExponent : Exponent exponent) (ends : EndsNumeral rest) :
    scanExponent (exponent ++ rest) = (exponent, rest) := by
  rcases isExponent with rfl |
    ⟨mark, sign, digits, rfl, isMark, isSign, nonempty, isDigits⟩
  · exact scanExponent_of_ends ends
  · obtain ⟨taken, dropped⟩ := digits_end isDigits ends.digits
    have signed : scanSign (sign ++ digits ++ rest) =
        (sign, digits ++ rest) := by
      rcases isSign with rfl | rfl | rfl
      · obtain ⟨first, others, rfl⟩ := List.exists_cons_of_ne_nil nonempty
        have isDigit := isDigits first List.mem_cons_self
        have noSign : ¬(first = '-' ∨ first = '+') := by
          rintro (rfl | rfl)
          · cases isDigit
          · cases isDigit
        exact if_neg noSign
      · rfl
      · rfl
    rw [List.cons_append, scanExponent, signed]
    simp only [taken, dropped]
    rw [if_pos ⟨isMark, nonempty⟩]
    rfl

/-- A number goes on with a fraction, with an exponent or not at all. -/
theorem exponent_endsDigits {exponent rest : List Char}
    (isExponent : Exponent exponent) (ends : EndsNumeral rest) :
    EndsDigits (exponent ++ rest) ∧
      (exponent ++ rest).head? ≠ some '.' := by
  rcases isExponent with rfl | ⟨mark, sign, digits, rfl, isMark, -⟩
  · exact ⟨ends.digits, fun isPoint => (ends '.' isPoint).2.1 rfl⟩
  · constructor
    · intro char first
      obtain rfl := Option.some.inj first
      rcases isMark with rfl | rfl <;> decide
    · intro isPoint
      obtain rfl := Option.some.inj isPoint
      revert isMark
      decide

theorem scanFraction_append {fraction exponent rest : List Char}
    (isFraction : Fraction fraction) (isExponent : Exponent exponent)
    (ends : EndsNumeral rest) :
    scanFraction (fraction ++ (exponent ++ rest)) =
      (fraction, exponent ++ rest) := by
  obtain ⟨endsDigits, noPoint⟩ := exponent_endsDigits isExponent ends
  rcases isFraction with rfl | ⟨digit, digits, rfl, isDigits⟩
  · rw [List.nil_append]
    generalize exponent ++ rest = behind at noPoint ⊢
    fun_cases scanFraction behind with
    | case1 digit others isDigit => exact absurd rfl noPoint
    | case2 digit others noDigit => rfl
    | case3 text isOther => rfl
  · obtain ⟨first, others⟩ := List.forall_mem_cons.mp isDigits
    obtain ⟨taken, dropped⟩ := digits_end others endsDigits
    rw [List.cons_append, List.cons_append, scanFraction, if_pos first, taken,
      dropped]

/-- A float's numeral is read up to its end. -/
theorem scanNumber_append_float {numeral rest : List Char}
    (isNumeral : FloatNumeral numeral) (ends : EndsNumeral rest) :
    decoder.scanNumber (numeral ++ rest) =
      .ok (.float (decoder.parseFloat numeral), rest) := by
  obtain ⟨minus, whole, fraction, exponent, rfl, isMinus, isWhole, isFraction,
    isExponent, notInteger⟩ := isNumeral.spelled
  have behindWhole : EndsDigits (fraction ++ (exponent ++ rest)) := by
    rcases isFraction with rfl | ⟨digit, digits, rfl, -⟩
    · exact (exponent_endsDigits isExponent ends).1
    · intro char first
      obtain rfl := Option.some.inj first
      decide
  have unsigned : scanMinus (minus ++ (whole ++ (fraction ++
      (exponent ++ rest)))) =
        (minus, whole ++ (fraction ++ (exponent ++ rest))) := by
    rcases isMinus with rfl | rfl
    · obtain ⟨first, others, rfl, isDigit⟩ := isWhole.exists_cons
      have noMinus : first ≠ '-' := by
        rintro rfl
        cases isDigit
      exact scanMinus.eq_2 _ fun _ same => noMinus (List.cons.inj same).1
    · rfl
  simp only [List.append_assoc]
  rw [Decoder.scanNumber, unsigned]
  simp only [scanWhole_append isWhole behindWhole,
    scanFraction_append isFraction isExponent ends,
    scanExponent_append isExponent ends, if_neg notInteger, List.append_assoc]

/-- Words begin unlike numerals and with a visible character that ends no
array. -/
theorem words_begin {word : List Char × Except (Failure ε) (Value φ)}
    (known : word ∈ decoder.words) :
    ∃ first others, word.1 = first :: others ∧
      (first.isDigit = false ∧ isSpace first = false ∧ first ∉ [']', '\uFEFF'] ∧
        (first = '-' → others.head? = some 'I')) := by
  simp only [Decoder.words, List.mem_cons, List.not_mem_nil, or_false] at known
  rcases known with rfl | rfl | rfl | rfl | rfl | rfl
  · exact ⟨'n', ['u', 'l', 'l'], rfl, by decide⟩
  · exact ⟨'t', ['r', 'u', 'e'], rfl, by decide⟩
  · exact ⟨'f', ['a', 'l', 's', 'e'], rfl, by decide⟩
  · exact ⟨'N', ['a', 'N'], rfl, by decide⟩
  · exact ⟨'I', ['n', 'f', 'i', 'n', 'i', 't', 'y'], rfl, by decide⟩
  · exact ⟨'-', ['I', 'n', 'f', 'i', 'n', 'i', 't', 'y'], rfl, by decide⟩

theorem Numeral.noWord {numeral : List Char} (isNumeral : Numeral numeral)
    (rest : List Char) :
    decoder.words.find? (fun word => word.1.isPrefixOf (numeral ++ rest)) =
      none := by
  refine List.find?_eq_none.mpr fun word known shows => ?_
  obtain ⟨first, others, spells, noDigit, -, -, afterMinus⟩ :=
    words_begin known
  have prefixed := List.isPrefixOf_iff_prefix.mp shows
  rw [spells] at prefixed
  cases isNumeral with
  | positive whole =>
      obtain ⟨digit, digits, rfl, isDigit⟩ := whole.exists_cons
      obtain ⟨rfl, -⟩ := List.cons_prefix_cons.mp prefixed
      rw [noDigit] at isDigit
      cases isDigit
  | negative whole =>
      obtain ⟨digit, digits, rfl, isDigit⟩ := whole.exists_cons
      obtain ⟨isMinus, behind⟩ := List.cons_prefix_cons.mp prefixed
      have isLetter := afterMinus isMinus
      cases others with
      | nil => cases isLetter
      | cons letter others =>
          obtain rfl := Option.some.inj isLetter
          obtain ⟨rfl, -⟩ := List.cons_prefix_cons.mp behind
          cases isDigit

end Numbers

section Values

/-- A document without floats and surrogates, with containers to the given
depth. -/
def Plain : Nat → Value φ → Prop
  | _, .null => True
  | _, .bool _ => True
  | _, .int _ => True
  | _, .float _ => False
  | _, .str text => ∃ chars, text = .ofChars chars
  | 0, .list _ => False
  | 0, .object _ => False
  | depth + 1, .list items => ∀ item ∈ items, Plain depth item
  | depth + 1, .object members =>
      ∀ member ∈ members,
        (∃ chars, member.1 = .ofChars chars) ∧ Plain depth member.2

/-- What is plain without containers is plain at every depth. -/
theorem Plain.atDepth {value : Value φ} (plain : Plain 0 value) (depth : Nat) :
    Plain depth value := by
  cases value with
  | float value => cases plain
  | list items => cases plain
  | object members => cases plain
  | null => simp only [Plain]
  | bool value => simp only [Plain]
  | int value => simp only [Plain]
  | str text =>
      simp only [Plain] at plain ⊢
      exact plain

/-- A document whose floats are admitted and whose texts have lone surrogates
only, with containers to the given depth. -/
def Faithful (isFloat : φ → Prop) : Nat → Value φ → Prop
  | _, .null => True
  | _, .bool _ => True
  | _, .int _ => True
  | _, .float value => isFloat value
  | _, .str text => text.Joined
  | 0, .list _ => False
  | 0, .object _ => False
  | depth + 1, .list items => ∀ item ∈ items, Faithful isFloat depth item
  | depth + 1, .object members =>
      ∀ member ∈ members, member.1.Joined ∧ Faithful isFloat depth member.2

theorem Faithful.of_plain {depth : Nat} {value : Value φ}
    (plain : Plain depth value) : Faithful (fun _ => False) depth value := by
  induction depth generalizing value with
  | zero =>
      cases value with
      | str text =>
          obtain ⟨chars, rfl⟩ := plain
          exact Text.joined_ofChars chars
      | null => simp only [Faithful]
      | bool value => simp only [Faithful]
      | int value => simp only [Faithful]
      | float value => cases plain
      | list items => cases plain
      | object members => cases plain
  | succ depth ih =>
      cases value with
      | str text =>
          obtain ⟨chars, rfl⟩ := plain
          exact Text.joined_ofChars chars
      | null => simp only [Faithful]
      | bool value => simp only [Faithful]
      | int value => simp only [Faithful]
      | float value => cases plain
      | list items => exact fun item member => ih (plain item member)
      | object members =>
          intro member isMember
          obtain ⟨⟨chars, spelled⟩, plainValue⟩ := plain member isMember
          rw [spelled]
          exact ⟨Text.joined_ofChars chars, ih plainValue⟩

/-- What is faithful without containers is faithful at every depth. -/
theorem Faithful.atDepth {isFloat : φ → Prop} {value : Value φ}
    (faithful : Faithful isFloat 0 value) (depth : Nat) :
    Faithful isFloat depth value := by
  cases value with
  | list items => cases faithful
  | object members => cases faithful
  | null => simp only [Faithful]
  | bool value => simp only [Faithful]
  | int value => simp only [Faithful]
  | float value =>
      simp only [Faithful] at faithful ⊢
      exact faithful
  | str text =>
      simp only [Faithful] at faithful ⊢
      exact faithful

/-- The decoder reads the integers that the encoder prints. -/
def Encoder.ReadBy (encoder : Encoder ε φ) (decoder : Decoder ε φ) : Prop :=
  ∀ value text, encoder.intText value = .ok text →
    Numeral text ∧ decoder.parseInt text = .ok value

/-- The decoder reads the admitted floats that the encoder prints. -/
def Encoder.FloatsReadBy (encoder : Encoder ε φ) (decoder : Decoder ε φ)
    (isFloat : φ → Prop) : Prop :=
  ∀ value text, isFloat value → encoder.floatText value = .ok text →
    FloatNumeral text ∧ decoder.parseFloat text = value

variable {encoder : Encoder ε φ} {decoder : Decoder ε φ} {text : List Char}

theorem scanOnce_eq (depth : Nat) :
    ∃ item, decoder.scanOnce depth = decoder.scanValue item := by
  cases depth with
  | zero => exact ⟨none, rfl⟩
  | succ depth => exact ⟨some (decoder.scanOnce depth), rfl⟩

/-- White space, the end of an array and a byte order mark begin no numeral. -/
theorem no_numeral_of_stray {first : Char}
    (stray : isSpace first = true ∨ first ∈ [']', '\uFEFF']) :
    first ≠ '-' ∧ first ≠ '0' ∧ first.isDigit = false := by
  have isOne : first ∈ [' ', '\t', '\n', '\r'] ++ [']', '\uFEFF'] := by
    rcases stray with space | isEnd
    · exact List.mem_append_left _ (of_decide_eq_true space)
    · exact List.mem_append_right _ isEnd
  simp only [List.cons_append, List.nil_append, List.mem_cons,
    List.not_mem_nil, or_false] at isOne
  rcases isOne with rfl | rfl | rfl | rfl | rfl | rfl <;> decide

theorem scanAtom_stray {first : Char} {rest : List Char}
    (stray : isSpace first = true ∨ first ∈ [']', '\uFEFF']) :
    decoder.scanAtom (first :: rest) = .error .malformed := by
  have noWord : decoder.words.find?
      (fun word => word.1.isPrefixOf (first :: rest)) = none := by
    refine List.find?_eq_none.mpr fun word known shows => ?_
    obtain ⟨letter, others, spells, -, noSpace, noEnd, -⟩ := words_begin known
    have prefixed := List.isPrefixOf_iff_prefix.mp shows
    rw [spells] at prefixed
    obtain ⟨rfl, -⟩ := List.cons_prefix_cons.mp prefixed
    rcases stray with space | isEnd
    · rw [noSpace] at space
      cases space
    · exact noEnd isEnd
  obtain ⟨noMinus, noZero, noDigit⟩ := no_numeral_of_stray stray
  have unsigned : scanMinus (first :: rest) = ([], first :: rest) :=
    scanMinus.eq_2 _ fun _ minus => noMinus (List.cons.inj minus).1
  rw [Decoder.scanAtom, noWord]
  simp only [Decoder.scanNumber, unsigned, scanWhole, if_neg noZero, noDigit,
    Bool.false_eq_true, if_false]

/-- A value begins with neither white space nor the end of an array, nor with a
byte order mark. -/
theorem scanOnce_begins {depth : Nat} {scanned : Scanned (Value φ)}
    (read : decoder.scanOnce depth text = .ok scanned) :
    ∃ first rest, text = first :: rest ∧ isSpace first = false ∧
      first ∉ [']', '\uFEFF'] := by
  obtain ⟨item, isValue⟩ := @scanOnce_eq _ _ decoder depth
  rw [isValue] at read
  cases text with
  | nil => cases read
  | cons first rest =>
      refine ⟨first, rest, rfl, ?_⟩
      by_contra notPlain
      have stray : isSpace first = true ∨ first ∈ [']', '\uFEFF'] := by
        cases space : isSpace first with
        | true => exact .inl rfl
        | false =>
            right
            by_contra noEnd
            exact notPlain ⟨space, noEnd⟩
      have noToken : first ≠ '"' ∧ first ≠ '{' ∧ first ≠ '[' := by
        refine ⟨?_, ?_, ?_⟩ <;> (rintro rfl; revert stray; decide)
      rw [Decoder.scanValue.eq_6 _ _ _
        (fun _ same => noToken.1 (List.cons.inj same).1)
        (fun _ same => noToken.2.1 (List.cons.inj same).1)
        (fun _ same => noToken.2.2 (List.cons.inj same).1),
        scanAtom_stray stray] at read
      cases read

theorem skipSpace_of_scanOnce {depth : Nat} {scanned : Scanned (Value φ)}
    (read : decoder.scanOnce depth text = .ok scanned) :
    skipSpace text = text := by
  obtain ⟨first, rest, rfl, noSpace, -⟩ := scanOnce_begins read
  rw [skipSpace, List.dropWhile_cons_of_neg (by simp [noSpace])]

/-- A printed value is read back by a scanner, whatever stands behind it. -/
def ReadsBack (encoder : Encoder ε φ)
    (item : List Char → Except (Failure ε) (Scanned (Value φ)))
    (value : Value φ) : Prop :=
  ∀ text rest, encoder.dumps value = .ok text → EndsNumeral rest →
    item (text ++ rest) = .ok (value, rest)

theorem bind_returns {Result Output : Type} {first : Except ε Result}
    {next : Result → Except ε Output} {output : Output}
    (returned : (first >>= next) = .ok output) :
    ∃ result, first = .ok result ∧ next result = .ok output := by
  cases first with
  | error problem => cases returned
  | ok result => exact ⟨result, rfl, returned⟩

section Parts

variable {α : Type} {Prints : α → List Char → Prop} {values : List α}
  {others : List Char} {closing : Char}

/-- How the parts of a container are printed behind its first one. -/
inductive PrintsParts (Prints : α → List Char → Prop) :
    List α → List Char → Prop
  | nil : PrintsParts Prints [] []
  | cons {value : α} {values : List α} {text others : List Char}
      (first : Prints value text) (behind : PrintsParts Prints values others) :
      PrintsParts Prints (value :: values) (',' :: (text ++ others))

theorem PrintsParts.length_le (printed : PrintsParts Prints values others) :
    values.length ≤ others.length := by
  induction printed with
  | nil => exact Nat.zero_le _
  | cons first behind ih =>
      simp only [List.length_cons, List.length_append]
      omega

theorem endsNumeral_of_head {char : Char} {rest : List Char}
    (isToken : char ∈ [',', ']', '}']) : EndsNumeral (char :: rest) := by
  intro head isHead
  obtain rfl := Option.some.inj isHead
  simp only [List.mem_cons, List.not_mem_nil, or_false] at isToken
  rcases isToken with rfl | rfl | rfl <;> decide

theorem PrintsParts.ends (printed : PrintsParts Prints values others)
    (closes : closing ∈ [']', '}']) (rest : List Char) :
    EndsNumeral (others ++ closing :: rest) := by
  cases printed with
  | nil => exact endsNumeral_of_head (List.mem_cons_of_mem _ closes)
  | cons first behind => exact endsNumeral_of_head List.mem_cons_self

variable {part : List Char → Except (Failure ε) (Scanned α)} {value : α}
  {room : Nat} {behind rest : List Char}

theorem scanParts_last (closes : closing ∈ [']', '}'])
    (read : part text = .ok (value, closing :: rest)) :
    scanParts part closing (room + 1) text = .ok ([value], rest) := by
  rw [scanParts, read]
  simp only [List.mem_cons, List.not_mem_nil, or_false] at closes
  rcases closes with rfl | rfl <;> rfl

theorem scanParts_comma (closes : closing ∈ [']', '}'])
    (read : part text = .ok (value, ',' :: behind))
    (next : scanParts part closing room (skipSpace behind) =
      .ok (values, rest)) :
    scanParts part closing (room + 1) text = .ok (value :: values, rest) := by
  have notEnd : ',' ≠ closing := by
    rintro rfl
    revert closes
    decide
  rw [scanParts, read]
  show (if ',' = closing then _ else scanParts part closing room
    (skipSpace behind) >>= _) = _
  rw [if_neg notEnd, next]
  rfl

/-- The parts of a printed container are read back. -/
theorem scanParts_prints (closes : closing ∈ [']', '}'])
    (noSpace : ∀ text scanned, part text = .ok scanned →
      skipSpace text = text)
    (back : ∀ other ∈ value :: values, ∀ text rest, Prints other text →
      EndsNumeral rest → part (text ++ rest) = .ok (other, rest))
    (printed : Prints value text) (behind : PrintsParts Prints values others)
    (enough : values.length < room) (rest : List Char) :
    scanParts part closing room (text ++ (others ++ closing :: rest)) =
      .ok (value :: values, rest) := by
  induction behind generalizing value text room with
  | nil =>
      obtain ⟨room, rfl⟩ := Nat.exists_eq_add_one.mpr enough
      have read := back value List.mem_cons_self text (closing :: rest) printed
        (endsNumeral_of_head (List.mem_cons_of_mem _ closes))
      exact scanParts_last closes read
  | @cons next values nextText others printedNext behind ih =>
      obtain ⟨room, rfl⟩ := Nat.exists_eq_add_one.mpr
        (Nat.lt_of_le_of_lt (Nat.zero_le _) enough)
      have read := back value List.mem_cons_self text
        (',' :: (nextText ++ (others ++ closing :: rest))) printed
        (endsNumeral_of_head List.mem_cons_self)
      have readNext := back next (List.mem_cons_of_mem _ List.mem_cons_self)
        nextText (others ++ closing :: rest) printedNext
        (behind.ends closes rest)
      have afterComma := ih
        (fun other member => back other (List.mem_cons_of_mem _ member))
        printedNext (Nat.lt_of_succ_lt_succ enough)
      rw [← noSpace _ _ readNext] at afterComma
      rw [List.cons_append, List.append_assoc]
      exact scanParts_comma closes read afterComma

end Parts

/-- The text of a member: its quoted key, a colon and its value. -/
def PrintsMember (encoder : Encoder ε φ) (member : Text × Value φ)
    (text : List Char) : Prop :=
  ∃ printed, encoder.dumps member.2 = .ok printed ∧
    text = quote member.1 ++ ':' :: printed

theorem dumpsItems_prints {items : List (Value φ)} {others : List Char}
    (printed : encoder.dumpsItems items = .ok others) :
    PrintsParts (fun item text => encoder.dumps item = .ok text) items
      others := by
  induction items generalizing others with
  | nil =>
      obtain rfl := Except.ok.inj printed
      exact .nil
  | cons item items ih =>
      obtain ⟨text, first, printed⟩ := bind_returns printed
      obtain ⟨behind, second, printed⟩ := bind_returns printed
      obtain rfl := Except.ok.inj printed
      exact .cons first (ih second)

theorem dumpsMembers_prints {members : List (Text × Value φ)}
    {others : List Char}
    (printed : encoder.dumpsMembers members = .ok others) :
    PrintsParts (PrintsMember encoder) members others := by
  induction members generalizing others with
  | nil =>
      obtain rfl := Except.ok.inj printed
      exact .nil
  | cons member members ih =>
      obtain ⟨text, first, printed⟩ := bind_returns printed
      obtain ⟨behind, second, printed⟩ := bind_returns printed
      obtain rfl := Except.ok.inj printed
      exact .cons ⟨text, first, rfl⟩ (ih second)

theorem skipSpace_of_scanMember
    {item : List Char → Except (Failure ε) (Scanned (Value φ))}
    {scanned : Scanned (Text × Value φ)}
    (read : scanMember item text = .ok scanned) : skipSpace text = text := by
  unfold scanMember at read
  split at read
  · rfl
  · cases read

/-- A printed member is read back. -/
theorem scanMember_dumps
    {item : List Char → Except (Failure ε) (Scanned (Value φ))}
    {member : Text × Value φ} {rest : List Char}
    (noSpace : ∀ text scanned, item text = .ok scanned →
      skipSpace text = text)
    (joinedKey : member.1.Joined)
    (back : ReadsBack encoder item member.2)
    (printed : PrintsMember encoder member text)
    (ends : EndsNumeral rest) :
    scanMember item (text ++ rest) = .ok (member, rest) := by
  obtain ⟨text, printed, rfl⟩ := printed
  obtain ⟨key, value⟩ := member
  have read := back text rest printed ends
  have keyRead : scanString (key.flatMap escape ++
      '"' :: ':' :: (text ++ rest)) =
        (.ok (key, ':' :: (text ++ rest)) :
          Except (Failure ε) (Scanned Text)) :=
    scanString_quote joinedKey _
  simp only [quote, List.cons_append, List.append_assoc, List.nil_append]
  show (scanString (key.flatMap escape ++
    '"' :: ':' :: (text ++ rest)) >>= _) = _
  rw [keyRead]
  show (item (skipSpace (text ++ rest)) >>= _) = _
  rw [noSpace _ _ read, read]
  rfl

theorem Numeral.begins {numeral : List Char} (isNumeral : Numeral numeral) :
    ∃ first others, numeral = first :: others ∧
      (first.isDigit = true ∨ first = '-') := by
  cases isNumeral with
  | positive whole =>
      obtain ⟨first, others, rfl, isDigit⟩ := whole.exists_cons
      exact ⟨first, others, rfl, .inl isDigit⟩
  | negative whole => exact ⟨'-', _, rfl, .inr rfl⟩

theorem FloatNumeral.begins {numeral : List Char}
    (isNumeral : FloatNumeral numeral) :
    ∃ first others, numeral = first :: others ∧
      (first.isDigit = true ∨
        (first = '-' ∧ ∃ digit, others.head? = some digit ∧
          digit.isDigit = true)) := by
  obtain ⟨minus, whole, fraction, exponent, rfl, isMinus, isWhole, -⟩ :=
    isNumeral.spelled
  obtain ⟨digit, digits, rfl, isDigit⟩ := isWhole.exists_cons
  rcases isMinus with rfl | rfl
  · exact ⟨digit, _, rfl, .inl isDigit⟩
  · exact ⟨'-', _, rfl, .inr ⟨rfl, digit, rfl, isDigit⟩⟩

theorem FloatNumeral.noWord {numeral : List Char}
    (isNumeral : FloatNumeral numeral) (rest : List Char) :
    decoder.words.find? (fun word => word.1.isPrefixOf (numeral ++ rest)) =
      none := by
  refine List.find?_eq_none.mpr fun word known shows => ?_
  obtain ⟨letter, letters, spells, noDigit, -, -, afterMinus⟩ :=
    words_begin known
  have prefixed := List.isPrefixOf_iff_prefix.mp shows
  obtain ⟨first, others, rfl, begins⟩ := isNumeral.begins
  rw [spells] at prefixed
  obtain ⟨rfl, behind⟩ := List.cons_prefix_cons.mp prefixed
  rcases begins with isDigit | ⟨rfl, digit, isNext, isDigit⟩
  · rw [noDigit] at isDigit
    cases isDigit
  · have isLetter := afterMinus rfl
    obtain ⟨others, rfl⟩ := List.head?_eq_some_iff.mp isNext
    obtain ⟨letters, rfl⟩ := List.head?_eq_some_iff.mp isLetter
    obtain ⟨rfl, -⟩ := List.cons_prefix_cons.mp behind
    cases isDigit

/-- What begins like a numeral and is no word is read as a numeral. -/
theorem scanValue_numeral {numeral : List Char}
    (begins : ∃ first others, numeral = first :: others ∧
      (first.isDigit = true ∨ first = '-'))
    (rest : List Char)
    (noWord : decoder.words.find? (fun word =>
      word.1.isPrefixOf (numeral ++ rest)) = none)
    (item : Option (List Char → Except (Failure ε) (Scanned (Value φ)))) :
    decoder.scanValue item (numeral ++ rest) =
      decoder.scanNumber (numeral ++ rest) := by
  obtain ⟨first, others, rfl, begins⟩ := begins
  have noToken : first ≠ '"' ∧ first ≠ '{' ∧ first ≠ '[' := by
    refine ⟨?_, ?_, ?_⟩ <;> (rintro rfl; revert begins; decide)
  rw [List.cons_append] at noWord ⊢
  rw [Decoder.scanValue.eq_6 _ _ _
    (fun _ same => noToken.1 (List.cons.inj same).1)
    (fun _ same => noToken.2.1 (List.cons.inj same).1)
    (fun _ same => noToken.2.2 (List.cons.inj same).1), Decoder.scanAtom,
    noWord]

theorem Numeral.scanValue {numeral : List Char} (isNumeral : Numeral numeral)
    (item : Option (List Char → Except (Failure ε) (Scanned (Value φ))))
    (rest : List Char) :
    decoder.scanValue item (numeral ++ rest) =
      decoder.scanNumber (numeral ++ rest) :=
  scanValue_numeral isNumeral.begins rest (isNumeral.noWord rest) item

theorem FloatNumeral.scanValue {numeral : List Char}
    (isNumeral : FloatNumeral numeral)
    (item : Option (List Char → Except (Failure ε) (Scanned (Value φ))))
    (rest : List Char) :
    decoder.scanValue item (numeral ++ rest) =
      decoder.scanNumber (numeral ++ rest) := by
  apply scanValue_numeral _ rest (isNumeral.noWord rest) item
  obtain ⟨first, others, spelled, begins⟩ := isNumeral.begins
  exact ⟨first, others, spelled, begins.imp_right And.left⟩

variable {isFloat : φ → Prop}

/-- A printed value that is no container is read back. -/
theorem scanValue_dumps {item : Option
      (List Char → Except (Failure ε) (Scanned (Value φ)))}
    (reads : encoder.ReadBy decoder)
    (readsFloats : encoder.FloatsReadBy decoder isFloat) {value : Value φ}
    (faithful : Faithful isFloat 0 value) :
    ReadsBack encoder (decoder.scanValue item) value := by
  intro text rest printed ends
  cases value with
  | null =>
      obtain rfl := Except.ok.inj printed
      rfl
  | bool value =>
      cases value with
      | false =>
          obtain rfl := Except.ok.inj printed
          rfl
      | true =>
          obtain rfl := Except.ok.inj printed
          rfl
  | int value =>
      obtain ⟨isNumeral, parsed⟩ := reads value text printed
      rw [isNumeral.scanValue item rest, scanNumber_append isNumeral ends,
        readNumeral, parsed]
  | float value =>
      obtain ⟨isNumeral, parsed⟩ := readsFloats value text faithful printed
      rw [isNumeral.scanValue item rest,
        scanNumber_append_float isNumeral ends, parsed]
  | str decoded =>
      obtain rfl := Except.ok.inj printed
      rw [quote, List.cons_append, List.append_assoc]
      show (scanString (decoded.flatMap escape ++ '"' :: rest) >>= _) = _
      rw [scanString_quote faithful]
      rfl
  | list items => cases faithful
  | object members => cases faithful

/-- A printed array is read back. -/
theorem scanArray_dumps {depth : Nat} {items : List (Value φ)}
    (back : ∀ item ∈ items, ReadsBack encoder (decoder.scanOnce depth) item) :
    ReadsBack encoder (decoder.scanOnce (depth + 1)) (.list items) := by
  intro text rest printed ends
  cases items with
  | nil =>
      obtain rfl := Except.ok.inj printed
      rfl
  | cons item items =>
      obtain ⟨first, printedFirst, printed⟩ := bind_returns printed
      obtain ⟨others, printedOthers, printed⟩ := bind_returns printed
      obtain rfl := Except.ok.inj printed
      have behind := dumpsItems_prints printedOthers
      have read := back item List.mem_cons_self first _ printedFirst
        (behind.ends (show ']' ∈ [']', '}'] by decide) rest)
      obtain ⟨head, tail, split, noSpace, noEnd⟩ := scanOnce_begins read
      have skipped := skipSpace_of_scanOnce read
      have room := behind.length_le
      have itemsRead := scanParts_prints (show ']' ∈ [']', '}'] by decide)
        (fun text scanned => skipSpace_of_scanOnce) back printedFirst behind
        (show items.length < (first ++ (others ++ ']' :: rest)).length by
          simp only [List.length_append, List.length_cons]
          omega) rest
      rw [List.cons_append, List.append_assoc, List.append_assoc]
      show scanArray (decoder.scanOnce depth)
        (first ++ (others ++ ']' :: rest)) = _
      rw [scanArray, skipped]
      rw [← scanItems_eq_scanParts, split] at itemsRead
      rw [split]
      split
      · rename_i behind isEnd
        obtain rfl := (List.cons.inj isEnd).1
        exact absurd List.mem_cons_self noEnd
      · rw [itemsRead]
        rfl

/-- A printed object is read back. -/
theorem scanObject_dumps {depth : Nat} {members : List (Text × Value φ)}
    (back : ∀ member ∈ members, member.1.Joined ∧
      ReadsBack encoder (decoder.scanOnce depth) member.2) :
    ReadsBack encoder (decoder.scanOnce (depth + 1)) (.object members) := by
  intro text rest printed ends
  cases members with
  | nil =>
      obtain rfl := Except.ok.inj printed
      rfl
  | cons member members =>
      obtain ⟨key, value⟩ := member
      obtain ⟨first, printedFirst, printed⟩ := bind_returns printed
      obtain ⟨others, printedOthers, printed⟩ := bind_returns printed
      obtain rfl := Except.ok.inj printed
      have behind := dumpsMembers_prints printedOthers
      have room := behind.length_le
      obtain ⟨object, spelled⟩ : ∃ object, object =
        quote key ++ ':' :: (first ++ (others ++ '}' :: rest)) := ⟨_, rfl⟩
      have enough : members.length < object.length := by
        simp only [spelled, List.length_append, List.length_cons]
        omega
      have noSpace : ∀ text scanned,
          scanMember (decoder.scanOnce depth) text = .ok scanned →
            skipSpace text = text := fun text scanned => skipSpace_of_scanMember
      have membersRead : scanMembers (decoder.scanOnce depth) object.length
          object = .ok ((key, value) :: members, rest) := by
        rw [scanMembers_eq_scanParts]
        have read := scanParts_prints (show '}' ∈ [']', '}'] by decide) noSpace
          (fun member isMember text rest => scanMember_dumps
            (fun text scanned => skipSpace_of_scanOnce)
            (back member isMember).1 (back member isMember).2)
          ⟨first, printedFirst, rfl⟩ behind enough rest
        rw [List.append_assoc, List.cons_append, ← spelled] at read
        exact read
      have begins : scanObject (decoder.scanOnce depth) object =
          (scanMembers (decoder.scanOnce depth) object.length object >>=
            fun scanned => .ok (.object scanned.1, scanned.2)) := by
        rw [spelled]
        rfl
      have shape : '{' :: (quote key ++ ':' :: first ++ others ++ ['}']) ++
          rest = '{' :: object := by
        simp only [spelled, List.cons_append, List.append_assoc,
          List.nil_append]
      rw [shape]
      show scanObject (decoder.scanOnce depth) object = _
      rw [begins, membersRead]
      rfl

/-- A printed document is read back, whatever stands behind it. -/
theorem scanOnce_dumps (reads : encoder.ReadBy decoder)
    (readsFloats : encoder.FloatsReadBy decoder isFloat) {depth : Nat}
    {value : Value φ} (faithful : Faithful isFloat depth value) :
    ReadsBack encoder (decoder.scanOnce depth) value := by
  induction depth generalizing value with
  | zero => exact scanValue_dumps reads readsFloats faithful
  | succ depth ih =>
      cases value with
      | list items =>
          exact scanArray_dumps fun item member => ih (faithful item member)
      | object members =>
          exact scanObject_dumps fun member isMember =>
            ⟨(faithful member isMember).1, ih (faithful member isMember).2⟩
      | null => exact scanValue_dumps reads readsFloats faithful
      | bool value => exact scanValue_dumps reads readsFloats faithful
      | int value => exact scanValue_dumps reads readsFloats faithful
      | float value => exact scanValue_dumps reads readsFloats faithful
      | str decoded => exact scanValue_dumps reads readsFloats faithful

/-- A document that is a refused numeral. -/
theorem loads_refused {numeral : List Char} (isNumeral : Numeral numeral)
    {error : ε} (refused : decoder.parseInt numeral = .error error) :
    decoder.loads numeral = .error (.raised error) := by
  have atEnd : EndsNumeral [] := by
    intro char absent
    cases absent
  obtain ⟨item, isValue⟩ := @scanOnce_eq _ _ decoder decoder.depthLimit
  have scanned : decoder.scanOnce decoder.depthLimit numeral =
      .error (.raised error) := by
    have read := @scanNumber_append _ _ decoder _ _ isNumeral atEnd
    rw [← isNumeral.scanValue item [], ← isValue, readNumeral, refused,
      List.append_nil] at read
    exact read
  obtain ⟨first, others, rfl, begins⟩ := isNumeral.begins
  have notStray : ¬(isSpace first = true ∨ first ∈ [']', '\uFEFF']) := by
    intro stray
    obtain ⟨noMinus, -, noDigit⟩ := no_numeral_of_stray stray
    rcases begins with isDigit | isMinus
    · rw [noDigit] at isDigit
      cases isDigit
    · exact noMinus isMinus
  have noMark : (first :: others).head? ≠ some '\uFEFF' := by
    intro isMark
    obtain rfl := Option.some.inj isMark
    exact notStray (by decide)
  rw [Decoder.loads, if_neg noMark, skipSpace,
    List.dropWhile_cons_of_neg fun space => notStray (.inl space), scanned]
  rfl

/-- `loads` inverts `dumps` on documents that do not nest too deep. -/
theorem loads_dumps_of_faithful (reads : encoder.ReadBy decoder)
    (readsFloats : encoder.FloatsReadBy decoder isFloat) {value : Value φ}
    (faithful : Faithful isFloat decoder.depthLimit value)
    (printed : encoder.dumps value = .ok text) :
    decoder.loads text = .ok value := by
  have read := scanOnce_dumps reads readsFloats faithful text [] printed (by
      intro char absent
      cases absent)
  rw [List.append_nil] at read
  obtain ⟨first, rest, rfl, noSpace, noEnd⟩ := scanOnce_begins read
  have noMark : (first :: rest).head? ≠ some '\uFEFF' := by
    intro isMark
    obtain rfl := Option.some.inj isMark
    exact noEnd (by decide)
  rw [Decoder.loads, if_neg noMark, skipSpace_of_scanOnce read, read]
  rfl

/-- The case of documents without floats and surrogates. -/
theorem loads_dumps (reads : encoder.ReadBy decoder) {value : Value φ}
    (plain : Plain decoder.depthLimit value)
    (printed : encoder.dumps value = .ok text) :
    decoder.loads text = .ok value :=
  loads_dumps_of_faithful reads (fun _ _ admitted => absurd admitted id)
    (Faithful.of_plain plain) printed

end Values

end Tca.Json
