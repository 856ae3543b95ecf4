import Mathlib.Data.List.Basic

/-!
# JSON texts

The scanner of JSON documents.  It reads one value at the front of a text and
goes down into the containers as long as the depth allows it.  Numbers and the
constants outside the standard are left to hooks, whose failures it passes on in
the order in which it meets them.
-/

namespace Tca.Json

/-- A code point of a decoded text: a character, or one half of a surrogate
pair whose other half is missing. -/
inductive CodePoint where
  | scalar (char : Char)
  | surrogate (unit : Nat) (inRange : 0xD800 ≤ unit ∧ unit ≤ 0xDFFF)
  deriving DecidableEq

abbrev Text := List CodePoint

def Text.ofChars (chars : List Char) : Text :=
  chars.map .scalar

/-- The characters of a text without surrogates. -/
def Text.chars? (text : Text) : Option (List Char) :=
  text.mapM fun
    | .scalar char => some char
    | .surrogate _ _ => none

/-- A text of characters has no surrogates. -/
theorem Text.chars?_ofChars (chars : List Char) :
    (Text.ofChars chars).chars? = some chars := by
  induction chars with
  | nil => rfl
  | cons char chars ih =>
      rw [Text.chars?, Text.ofChars] at ih ⊢
      simp [ih]

/-- A decoded document.  The members of an object stand in the order of the
text, also those whose key comes again. -/
inductive Value (φ : Type) where
  | null
  | bool (value : Bool)
  | int (value : Int)
  | float (value : φ)
  | str (text : Text)
  | list (items : List (Value φ))
  | object (members : List (Text × Value φ))

/-- The value of a key in an object: the last member of that key counts. -/
def member? {φ : Type} (members : List (Text × Value φ)) (key : String) :
    Option (Value φ) :=
  members.reverse.lookup (.ofChars key.toList)

/-- Why a text is not decoded. -/
inductive Failure (ε : Type) where
  | malformed
  | tooDeep (container : String)
  | raised (error : ε)

/-- What a scanner gives: something read and the text behind it. -/
abbrev Scanned (α : Type) := α × List Char

/-- How numerals and constants are read, and how deep containers may nest. -/
structure Decoder (ε φ : Type) where
  parseInt : List Char → Except ε Int
  parseFloat : List Char → φ
  parseConstant : List Char → Except ε φ
  depthLimit : Nat

/-- White space between the tokens. -/
def isSpace (char : Char) : Bool :=
  char ∈ [' ', '\t', '\n', '\r']

def skipSpace (text : List Char) : List Char :=
  text.dropWhile isSpace

section Strings

def hexValue? (char : Char) : Option Nat :=
  if char.isDigit then some (char.toNat - 48)
  else if 97 ≤ char.toNat ∧ char.toNat ≤ 102 then some (char.toNat - 87)
  else if 65 ≤ char.toNat ∧ char.toNat ≤ 70 then some (char.toNat - 55)
  else none

/-- The number that four hexadecimal digits spell. -/
def hexUnit? (first second third fourth : Char) : Option Nat := do
  let first ← hexValue? first
  let second ← hexValue? second
  let third ← hexValue? third
  let fourth ← hexValue? fourth
  return ((first * 16 + second) * 16 + third) * 16 + fourth

/-- The character that a letter after a backslash stands for. -/
def unescape? (char : Char) : Option Char :=
  ['"', '\\', '/', 'b', 'f', 'n', 'r', 't'].zip
    ['"', '\\', '/', '\x08', '\x0c', '\n', '\r', '\t'] |>.lookup char

/-- A code unit, which may be a surrogate. -/
def CodePoint.ofUnit (unit : Nat) : CodePoint :=
  if inRange : 0xD800 ≤ unit ∧ unit ≤ 0xDFFF then .surrogate unit inRange
  else .scalar (Char.ofNat unit)

/-- The units of a string up to its closing quote. -/
def scanUnits : List Char → Option (Scanned Text)
  | [] => none
  | '"' :: rest => some ([], rest)
  | '\\' :: 'u' :: first :: second :: third :: fourth :: rest => do
      let unit ← hexUnit? first second third fourth
      let (units, rest) ← scanUnits rest
      return (.ofUnit unit :: units, rest)
  | '\\' :: escape :: rest => do
      let char ← unescape? escape
      let (units, rest) ← scanUnits rest
      return (.scalar char :: units, rest)
  | char :: rest =>
      if char.toNat < 0x20 then none
      else do
        let (units, rest) ← scanUnits rest
        return (.scalar char :: units, rest)

/-- A code unit before others: a high surrogate and a low one behind it are one
character. -/
def joinUnit : CodePoint → Text → Text
  | .surrogate high highRange, .surrogate low lowRange :: rest =>
      if high < 0xDC00 ∧ 0xDC00 ≤ low then
        .scalar (Char.ofNat
          (0x10000 + (high - 0xD800) * 0x400 + (low - 0xDC00))) :: rest
      else .surrogate high highRange :: .surrogate low lowRange :: rest
  | first, rest => first :: rest

def joinSurrogates (units : Text) : Text :=
  units.foldr joinUnit []

/-- A string behind its opening quote. -/
def scanString {ε : Type} (text : List Char) :
    Except (Failure ε) (Scanned Text) :=
  match scanUnits text with
  | some (units, rest) => .ok (joinSurrogates units, rest)
  | none => .error .malformed

end Strings

section Numbers

/-- The part of a numeral before the point, without a needless zero. -/
def scanWhole : List Char → Option (Scanned (List Char))
  | [] => none
  | first :: rest =>
      if first = '0' then some (['0'], rest)
      else if first.isDigit then
        some (first :: rest.takeWhile Char.isDigit,
          rest.dropWhile Char.isDigit)
      else none

/-- A point and the digits behind it, or nothing. -/
def scanFraction : List Char → Scanned (List Char)
  | '.' :: digit :: rest =>
      if digit.isDigit then
        ('.' :: digit :: rest.takeWhile Char.isDigit,
          rest.dropWhile Char.isDigit)
      else ([], '.' :: digit :: rest)
  | text => ([], text)

/-- A sign, or nothing. -/
def scanSign : List Char → Scanned (List Char)
  | [] => ([], [])
  | first :: rest =>
      if first = '-' ∨ first = '+' then ([first], rest)
      else ([], first :: rest)

/-- An exponent with its digits, or nothing. -/
def scanExponent : List Char → Scanned (List Char)
  | [] => ([], [])
  | mark :: rest =>
      let (sign, digits) := scanSign rest
      if (mark = 'e' ∨ mark = 'E') ∧ digits.takeWhile Char.isDigit ≠ [] then
        (mark :: sign ++ digits.takeWhile Char.isDigit,
          digits.dropWhile Char.isDigit)
      else ([], mark :: rest)

/-- The minus before a numeral. -/
def scanMinus : List Char → Scanned (List Char)
  | '-' :: rest => (['-'], rest)
  | text => ([], text)

end Numbers

variable {ε φ : Type}

namespace Decoder

variable (decoder : Decoder ε φ)

/-- A numeral; a point or an exponent makes it a float. -/
def scanNumber (text : List Char) : Except (Failure ε) (Scanned (Value φ)) :=
  let (minus, unsigned) := scanMinus text
  match scanWhole unsigned with
  | none => .error .malformed
  | some (whole, rest) =>
      let (fraction, rest) := scanFraction rest
      let (exponent, rest) := scanExponent rest
      if fraction = [] ∧ exponent = [] then
        match decoder.parseInt (minus ++ whole) with
        | .ok value => .ok (.int value, rest)
        | .error error => .error (.raised error)
      else
        .ok (.float (decoder.parseFloat (minus ++ whole ++ fraction ++
          exponent)), rest)

/-- A constant outside the standard. -/
def constant (name : List Char) : Except (Failure ε) (Value φ) :=
  match decoder.parseConstant name with
  | .ok value => .ok (.float value)
  | .error error => .error (.raised error)

/-- The words of the grammar and what they stand for. -/
def words : List (List Char × Except (Failure ε) (Value φ)) :=
  [("null".toList, .ok .null), ("true".toList, .ok (.bool true)),
    ("false".toList, .ok (.bool false)),
    ("NaN".toList, decoder.constant "NaN".toList),
    ("Infinity".toList, decoder.constant "Infinity".toList),
    ("-Infinity".toList, decoder.constant "-Infinity".toList)]

/-- A word or a numeral. -/
def scanAtom (text : List Char) : Except (Failure ε) (Scanned (Value φ)) :=
  match decoder.words.find? fun word => word.1.isPrefixOf text with
  | some (word, value) => do return (← value, text.drop word.length)
  | none => decoder.scanNumber text

end Decoder

section Containers

variable (item : List Char → Except (Failure ε) (Scanned (Value φ)))

/-- The items of an array from one of them on, at most so many. -/
def scanItems :
    Nat → List Char → Except (Failure ε) (Scanned (List (Value φ)))
  | 0, _ => .error .malformed
  | room + 1, text => do
      let (value, rest) ← item text
      match skipSpace rest with
      | ']' :: rest => return ([value], rest)
      | ',' :: rest => do
          let (values, rest) ← scanItems room (skipSpace rest)
          return (value :: values, rest)
      | _ => .error .malformed

/-- An array behind its opening bracket. -/
def scanArray (text : List Char) : Except (Failure ε) (Scanned (Value φ)) :=
  match skipSpace text with
  | ']' :: rest => .ok (.list [], rest)
  | text => do
      let (values, rest) ← scanItems item text.length text
      return (.list values, rest)

/-- A key with its value. -/
def scanMember (text : List Char) :
    Except (Failure ε) (Scanned (Text × Value φ)) :=
  match text with
  | '"' :: rest => do
      let (key, rest) ← scanString rest
      match skipSpace rest with
      | ':' :: rest => do
          let (value, rest) ← item (skipSpace rest)
          return ((key, value), rest)
      | _ => .error .malformed
  | _ => .error .malformed

/-- The members of an object from one of them on, at most so many. -/
def scanMembers :
    Nat → List Char → Except (Failure ε) (Scanned (List (Text × Value φ)))
  | 0, _ => .error .malformed
  | room + 1, text => do
      let (member, rest) ← scanMember item text
      match skipSpace rest with
      | '}' :: rest => return ([member], rest)
      | ',' :: rest => do
          let (members, rest) ← scanMembers room (skipSpace rest)
          return (member :: members, rest)
      | _ => .error .malformed

/-- An object behind its opening brace. -/
def scanObject (text : List Char) : Except (Failure ε) (Scanned (Value φ)) :=
  match skipSpace text with
  | '}' :: rest => .ok (.object [], rest)
  | text => do
      let (members, rest) ← scanMembers item text.length text
      return (.object members, rest)

/-- The loop of both containers: parts between commas up to a closing token. -/
def scanParts {α : Type} (part : List Char → Except (Failure ε) (Scanned α))
    (closing : Char) :
    Nat → List Char → Except (Failure ε) (Scanned (List α))
  | 0, _ => .error .malformed
  | room + 1, text => do
      let (value, rest) ← part text
      match skipSpace rest with
      | [] => .error .malformed
      | token :: behind =>
          if token = closing then return ([value], behind)
          else if token = ',' then do
            let (values, rest) ← scanParts part closing room (skipSpace behind)
            return (value :: values, rest)
          else .error .malformed

theorem scanItems_eq_scanParts (room : Nat) (text : List Char) :
    scanItems item room text = scanParts item ']' room text := by
  induction room generalizing text with
  | zero => rfl
  | succ room ih =>
      rw [scanItems, scanParts]
      apply bind_congr
      rintro ⟨value, rest⟩
      dsimp only
      split
      · rename_i behind skipped
        rw [skipped]
        rfl
      · rename_i behind skipped
        rw [skipped, ih]
        rfl
      · rename_i notEnd notComma
        cases skipped : skipSpace rest with
        | nil => rfl
        | cons token behind =>
            rw [skipped] at notEnd notComma
            dsimp only
            rw [if_neg fun same => notEnd behind (by rw [same]),
              if_neg fun same => notComma behind (by rw [same])]

theorem scanMembers_eq_scanParts (room : Nat) (text : List Char) :
    scanMembers item room text =
      scanParts (scanMember item) '}' room text := by
  induction room generalizing text with
  | zero => rfl
  | succ room ih =>
      rw [scanMembers, scanParts]
      apply bind_congr
      rintro ⟨value, rest⟩
      dsimp only
      split
      · rename_i behind skipped
        rw [skipped]
        rfl
      · rename_i behind skipped
        rw [skipped, ih]
        rfl
      · rename_i notEnd notComma
        cases skipped : skipSpace rest with
        | nil => rfl
        | cons token behind =>
            rw [skipped] at notEnd notComma
            dsimp only
            rw [if_neg fun same => notEnd behind (by rw [same]),
              if_neg fun same => notComma behind (by rw [same])]

end Containers

namespace Decoder

variable (decoder : Decoder ε φ)

/-- A value whose parts are read by another scanner, if there may be any. -/
def scanValue
    (item : Option (List Char → Except (Failure ε) (Scanned (Value φ))))
    (text : List Char) : Except (Failure ε) (Scanned (Value φ)) :=
  match text with
  | '"' :: rest => do
      let (decoded, rest) ← scanString rest
      return (.str decoded, rest)
  | '{' :: rest =>
      match item with
      | some item => scanObject item rest
      | none => .error (.tooDeep "object")
  | '[' :: rest =>
      match item with
      | some item => scanArray item rest
      | none => .error (.tooDeep "array")
  | text => decoder.scanAtom text

/-- The value at the front of a text, with containers to the given depth. -/
def scanOnce : Nat → List Char → Except (Failure ε) (Scanned (Value φ))
  | 0 => decoder.scanValue none
  | depth + 1 => decoder.scanValue (some (scanOnce depth))

/-- `json.loads(text)`. -/
def loads (text : List Char) : Except (Failure ε) (Value φ) :=
  if text.head? = some '\uFEFF' then .error .malformed
  else do
    let (value, rest) ← decoder.scanOnce decoder.depthLimit (skipSpace text)
    if skipSpace rest = [] then return value else .error .malformed

end Decoder

section Progress

/-- A scan of a text takes something off its front or fails in one of the
allowed ways. -/
def Scans {α : Type} (Allowed : Failure ε → Prop) (text : List Char) :
    Except (Failure ε) (Scanned α) → Prop
  | .ok (_, rest) => rest.length < text.length
  | .error failure => Allowed failure

/-- The failures of a decoder: its own and those of its hooks. -/
structure Decoder.Admits (decoder : Decoder ε φ)
    (Allowed : Failure ε → Prop) : Prop where
  malformed : Allowed .malformed
  tooDeep : ∀ container, Allowed (.tooDeep container)
  parseInt : ∀ numeral error, decoder.parseInt numeral = .error error →
    Allowed (.raised error)
  parseConstant : ∀ name error, decoder.parseConstant name = .error error →
    Allowed (.raised error)

variable {Allowed : Failure ε → Prop} {α β : Type} {text rest : List Char}

theorem Scans.longer {scanned : Except (Failure ε) (Scanned α)}
    (scans : Scans Allowed rest scanned) (shorter : rest.length ≤ text.length) :
    Scans Allowed text scanned := by
  cases scanned with
  | ok scanned => exact Nat.lt_of_lt_of_le scans shorter
  | error failure => exact scans

theorem Scans.bind {scanned : Except (Failure ε) (Scanned α)}
    {next : Scanned α → Except (Failure ε) (Scanned β)}
    (scans : Scans Allowed text scanned)
    (continues : ∀ value rest, rest.length < text.length →
      Scans Allowed text (next (value, rest))) :
    Scans Allowed text (scanned >>= next) := by
  cases scanned with
  | ok scanned => exact continues scanned.1 scanned.2 scans
  | error failure => exact scans

theorem skipSpace_length (text : List Char) :
    (skipSpace text).length ≤ text.length :=
  (List.dropWhile_sublist _).length_le

theorem length_of_skipSpace {char : Char}
    (skipped : skipSpace text = char :: rest) : rest.length < text.length := by
  have shorter := skipSpace_length text
  rw [skipped] at shorter
  exact shorter

theorem scanUnits_length {units : Text} (scanned : scanUnits text =
    some (units, rest)) : rest.length < text.length := by
  induction text using scanUnits.induct generalizing units with
  | case1 => cases scanned
  | case2 text =>
      obtain ⟨-, rfl⟩ := scanned
      exact Nat.lt_succ_self _
  | case3 first second third fourth text ih =>
      simp only [scanUnits, Option.bind_eq_bind, Option.bind_eq_some_iff,
        Option.pure_def, Option.some.injEq, Prod.mk.injEq] at scanned
      obtain ⟨unit, -, ⟨others, behind⟩, inner, -, rfl⟩ := scanned
      have shorter : behind.length < text.length := ih inner
      simp only [List.length_cons]
      omega
  | case4 escape text notUnit ih =>
      rw [scanUnits.eq_4 _ _ notUnit] at scanned
      simp only [Option.bind_eq_bind, Option.bind_eq_some_iff,
        Option.pure_def, Option.some.injEq, Prod.mk.injEq] at scanned
      obtain ⟨char, -, ⟨others, behind⟩, inner, -, rfl⟩ := scanned
      have shorter : behind.length < text.length := ih inner
      simp only [List.length_cons]
      omega
  | case5 char text notQuote notUnit notEscape control =>
      rw [scanUnits.eq_5 _ _ notQuote notUnit notEscape, if_pos control]
        at scanned
      cases scanned
  | case6 char text notQuote notUnit notEscape printable ih =>
      rw [scanUnits.eq_5 _ _ notQuote notUnit notEscape, if_neg printable]
        at scanned
      simp only [Option.bind_eq_bind, Option.bind_eq_some_iff,
        Option.pure_def, Option.some.injEq, Prod.mk.injEq] at scanned
      obtain ⟨⟨others, behind⟩, inner, -, rfl⟩ := scanned
      have shorter : behind.length < text.length := ih inner
      simp only [List.length_cons]
      omega

theorem scanWhole_length {whole : List Char}
    (scanned : scanWhole text = some (whole, rest)) :
    rest.length < text.length := by
  cases text with
  | nil => cases scanned
  | cons first text =>
      simp only [scanWhole] at scanned
      split at scanned
      · obtain ⟨-, rfl⟩ := scanned
        exact Nat.lt_succ_self _
      split at scanned
      · obtain ⟨-, rfl⟩ := scanned
        exact Nat.lt_succ_of_le (List.dropWhile_sublist _).length_le
      · cases scanned

theorem scanFraction_length (text : List Char) :
    (scanFraction text).2.length ≤ text.length := by
  fun_cases scanFraction text with
  | case1 digit rest isDigit =>
      have shorter : (rest.dropWhile Char.isDigit).length ≤ rest.length :=
        (List.dropWhile_sublist _).length_le
      simp only [List.length_cons]
      omega
  | case2 digit rest notDigit => exact Nat.le_refl _
  | case3 text noPoint => exact Nat.le_refl _

theorem scanSign_length (text : List Char) :
    (scanSign text).2.length ≤ text.length := by
  fun_cases scanSign text with
  | case1 => exact Nat.le_refl _
  | case2 first rest isSign => exact Nat.le_succ _
  | case3 first rest noSign => exact Nat.le_refl _

theorem scanExponent_length (text : List Char) :
    (scanExponent text).2.length ≤ text.length := by
  fun_cases scanExponent text with
  | case1 => exact Nat.le_refl _
  | case2 mark rest sign digits split present =>
      have signLength := scanSign_length rest
      rw [split] at signLength
      have shorter : (digits.dropWhile Char.isDigit).length ≤ digits.length :=
        (List.dropWhile_sublist _).length_le
      simp only [List.length_cons] at signLength ⊢
      omega
  | case3 mark rest sign digits split absent => exact Nat.le_refl _

theorem scanMinus_length (text : List Char) :
    (scanMinus text).2.length ≤ text.length := by
  fun_cases scanMinus text with
  | case1 rest => exact Nat.le_succ _
  | case2 text noMinus => exact Nat.le_refl _

theorem scanString_scans (malformed : Allowed .malformed)
    (text : List Char) : Scans Allowed text (scanString text) := by
  unfold scanString
  split
  · rename_i units rest scanned
    exact scanUnits_length scanned
  · exact malformed

section Hooks

variable {decoder : Decoder ε φ} (admits : decoder.Admits Allowed)

include admits

theorem Decoder.Admits.number (text : List Char) :
    Scans Allowed text (decoder.scanNumber text) := by
  have minusLength := scanMinus_length text
  unfold scanNumber
  simp only
  split
  · exact admits.malformed
  · rename_i whole rest scanned
    have wholeLength := scanWhole_length scanned
    have fractionLength := scanFraction_length rest
    have exponentLength := scanExponent_length (scanFraction rest).2
    split
    · split
      · show List.length _ < _
        omega
      · rename_i error failed
        exact admits.parseInt _ _ failed
    · show List.length _ < _
      omega

theorem Decoder.Admits.word {word : List Char}
    {value : Except (Failure ε) (Value φ)}
    (known : (word, value) ∈ decoder.words) :
    word ≠ [] ∧ ∀ failure, value = .error failure → Allowed failure := by
  have constant : ∀ name failure,
      decoder.constant name = .error failure → Allowed failure := by
    intro name failure failed
    unfold Decoder.constant at failed
    split at failed
    · cases failed
    · rename_i error raised
      obtain rfl := Except.error.inj failed
      exact admits.parseConstant _ _ raised
  have noFailure : ∀ value failure,
      (.ok value : Except (Failure ε) (Value φ)) = .error failure →
        Allowed failure := by
    intro value failure failed
    cases failed
  simp only [words, List.mem_cons, Prod.mk.injEq, List.not_mem_nil, or_false]
    at known
  rcases known with ⟨rfl, rfl⟩ | ⟨rfl, rfl⟩ | ⟨rfl, rfl⟩ | ⟨rfl, rfl⟩ |
    ⟨rfl, rfl⟩ | ⟨rfl, rfl⟩
  · exact ⟨by decide, noFailure _⟩
  · exact ⟨by decide, noFailure _⟩
  · exact ⟨by decide, noFailure _⟩
  · exact ⟨by decide, constant _⟩
  · exact ⟨by decide, constant _⟩
  · exact ⟨by decide, constant _⟩

theorem Decoder.Admits.atom (text : List Char) :
    Scans Allowed text (decoder.scanAtom text) := by
  unfold scanAtom
  split
  · rename_i word value found
    have known := admits.word (List.mem_of_find?_eq_some found)
    have shows := List.find?_some found
    cases value with
    | ok value =>
        have wordLength := List.length_pos_iff.mpr known.1
        have fits : word.length ≤ text.length :=
          (List.isPrefixOf_iff_prefix.mp shows).length_le
        show List.length _ < _
        rw [List.length_drop]
        omega
    | error failure => exact known.2 _ rfl
  · exact admits.number text

end Hooks

theorem scanParts_scans
    {part : List Char → Except (Failure ε) (Scanned α)} {closing : Char}
    (malformed : Allowed .malformed)
    (partScans : ∀ text, Scans Allowed text (part text)) (room : Nat)
    (text : List Char) :
    Scans Allowed text (scanParts part closing room text) := by
  induction room generalizing text with
  | zero => exact malformed
  | succ room ih =>
      apply (partScans text).bind
      intro value rest shorter
      dsimp only
      split
      · exact malformed
      · rename_i token behind skipped
        have behindShorter := length_of_skipSpace skipped
        have skippedShorter := skipSpace_length behind
        split
        · exact Nat.lt_trans behindShorter shorter
        split
        · have others := (ih (skipSpace behind)).longer
            (show _ ≤ text.length by omega)
          exact others.bind fun values last lastShorter => lastShorter
        · exact malformed

section Parts

variable {item : List Char → Except (Failure ε) (Scanned (Value φ))}
  (malformed : Allowed .malformed)
  (itemScans : ∀ text, Scans Allowed text (item text))

include malformed itemScans

theorem scanArray_scans (text : List Char) :
    Scans Allowed text (scanArray item text) := by
  unfold scanArray
  split
  · rename_i rest skipped
    exact length_of_skipSpace skipped
  · rename_i notEmpty
    rw [scanItems_eq_scanParts]
    have items := (@scanParts_scans ε Allowed _ item ']' malformed itemScans
      (skipSpace text).length (skipSpace text)).longer (skipSpace_length text)
    exact items.bind fun values rest shorter => shorter

theorem scanMember_scans (text : List Char) :
    Scans Allowed text (scanMember item text) := by
  unfold scanMember
  split
  · rename_i behind
    have keyScans : Scans Allowed ('"' :: behind) (scanString behind) :=
      (scanString_scans malformed behind).longer (Nat.le_succ _)
    refine keyScans.bind fun key rest shorter => ?_
    simp only
    split
    · rename_i afterColon skipped
      have colonShorter := length_of_skipSpace skipped
      have skippedShorter := skipSpace_length afterColon
      have valueScans := (itemScans (skipSpace afterColon)).longer
        (show _ ≤ ('"' :: behind).length by omega)
      exact valueScans.bind fun value last lastShorter => lastShorter
    · exact malformed
  · exact malformed

theorem scanObject_scans (text : List Char) :
    Scans Allowed text (scanObject item text) := by
  unfold scanObject
  split
  · rename_i rest skipped
    exact length_of_skipSpace skipped
  · rename_i notEmpty
    rw [scanMembers_eq_scanParts]
    have members := (@scanParts_scans ε Allowed _ (scanMember item) '}'
      malformed (scanMember_scans malformed itemScans)
      (skipSpace text).length (skipSpace text)).longer (skipSpace_length text)
    exact members.bind fun values rest shorter => shorter

end Parts

variable {decoder : Decoder ε φ}

theorem Decoder.Admits.value (admits : decoder.Admits Allowed)
    {item : Option (List Char → Except (Failure ε) (Scanned (Value φ)))}
    (itemScans : ∀ scan ∈ item, ∀ text, Scans Allowed text (scan text))
    (text : List Char) : Scans Allowed text (decoder.scanValue item text) := by
  fun_cases scanValue decoder item text with
  | case1 item quoted =>
      have scans : Scans Allowed ('"' :: quoted) (scanString quoted) :=
        (scanString_scans admits.malformed quoted).longer (Nat.le_succ _)
      exact scans.bind fun decoded behind shorter => shorter
  | case2 rest item =>
      exact (scanObject_scans admits.malformed (itemScans item rfl) rest).longer
        (Nat.le_succ _)
  | case3 rest => exact admits.tooDeep "object"
  | case4 rest item =>
      exact (scanArray_scans admits.malformed (itemScans item rfl) rest).longer
        (Nat.le_succ _)
  | case5 rest => exact admits.tooDeep "array"
  | case6 text noString noObject noArray => exact admits.atom text

theorem Decoder.Admits.once (admits : decoder.Admits Allowed) (depth : Nat)
    (text : List Char) : Scans Allowed text (decoder.scanOnce depth text) := by
  induction depth generalizing text with
  | zero => exact admits.value (fun scan absent => by cases absent) text
  | succ depth ih =>
      refine admits.value (fun scan isItem => ?_) text
      obtain rfl := Option.some.inj isItem
      exact ih

/-- A failed decoding failed in one of the ways that its hooks allow. -/
theorem Decoder.Admits.loads (admits : decoder.Admits Allowed)
    {text : List Char} {failure : Failure ε}
    (failed : decoder.loads text = .error failure) : Allowed failure := by
  have scans := admits.once decoder.depthLimit (skipSpace text)
  unfold Decoder.loads at failed
  split at failed
  · obtain rfl := Except.error.inj failed
    exact admits.malformed
  · cases scanned : decoder.scanOnce decoder.depthLimit (skipSpace text) with
    | ok read =>
        rw [scanned] at failed
        change (if skipSpace read.2 = [] then _ else _) = _ at failed
        split at failed
        · cases failed
        · obtain rfl := Except.error.inj failed
          exact admits.malformed
    | error other =>
        rw [scanned] at failed scans
        obtain rfl := Except.error.inj failed
        exact scans

end Progress

section Room

/-!
The loops stop at a bound on the number of parts.  Every part takes a character
off the text, so no text has more parts than the bound that the scanner sets.
-/

theorem scanParts_succ {α : Type} {closing : Char}
    {part : List Char → Except (Failure ε) (Scanned α)}
    (progress : ∀ text, Scans (fun _ => True) text (part text))
    (atEnd : part [] = .error .malformed) {room : Nat} {text : List Char}
    (enough : text.length ≤ room) :
    scanParts part closing (room + 1) text =
      scanParts part closing room text := by
  induction room generalizing text with
  | zero =>
      obtain rfl := List.length_eq_zero_iff.mp (Nat.le_zero.mp enough)
      show (part [] >>= _) = Except.error Failure.malformed
      rw [atEnd]
      rfl
  | succ room ih =>
      have shorter := progress text
      rw [scanParts, scanParts]
      cases read : part text with
      | error failure => rfl
      | ok scanned =>
          rw [read] at shorter
          have scannedShorter : scanned.2.length < text.length := shorter
          dsimp only [bind, Except.bind]
          split
          · rfl
          · rename_i token behind skipped
            have behindShorter := length_of_skipSpace skipped
            have skippedShorter := skipSpace_length behind
            rw [ih (show (skipSpace behind).length ≤ room by omega)]

theorem scanParts_eq {α : Type} {closing : Char}
    {part : List Char → Except (Failure ε) (Scanned α)}
    (progress : ∀ text, Scans (fun _ => True) text (part text))
    (atEnd : part [] = .error .malformed) (text : List Char) (extra : Nat) :
    scanParts part closing (text.length + extra) text =
      scanParts part closing text.length text := by
  induction extra with
  | zero => rfl
  | succ extra ih =>
      rw [← ih]
      exact scanParts_succ progress atEnd (Nat.le_add_right _ _)

variable {item : List Char → Except (Failure ε) (Scanned (Value φ))}
  (progress : ∀ text, Scans (fun _ => True) text (item text))

include progress

/-- No array has more items than characters. -/
theorem scanItems_eq (atEnd : item [] = .error .malformed) {text : List Char}
    (extra : Nat) :
    scanItems item (text.length + extra) text =
      scanItems item text.length text := by
  rw [scanItems_eq_scanParts, scanItems_eq_scanParts]
  exact scanParts_eq progress atEnd text extra

/-- No object has more members than characters. -/
theorem scanMembers_eq {text : List Char} (extra : Nat) :
    scanMembers item (text.length + extra) text =
      scanMembers item text.length text := by
  rw [scanMembers_eq_scanParts, scanMembers_eq_scanParts]
  exact scanParts_eq (scanMember_scans trivial progress) rfl text extra

end Room

end Tca.Json
