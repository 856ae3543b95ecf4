import Tca.JsonRoundTrip
import Tca.PythonIntegers

/-!
# The hooks of Python's JSON library

Integers of a document have the limit on digits that `int` and `str` have.  A
float is kept as its numeral, which no caller in the repository looks into.
-/

namespace Tca

/-- `int(numeral)` for an integer of a document. -/
def jsonInt (numeral : List Char) : Except PyError Int :=
  let (negative, digits) := takeSign numeral
  if digits.length ≤ maxStrDigits then
    .ok (signed negative (Nat.ofDigitChars 10 digits 0))
  else
    .error (.valueError ("Exceeds the limit (4300 digits) for integer " ++
      "string conversion: value has " ++ toString digits.length ++
      " digits; use sys.set_int_max_str_digits() to increase the limit"))

/-- The decoder of `json.loads`. -/
def jsonDecoder (parseConstant : List Char → Except PyError (List Char))
    (recursionLimit : Nat) : Json.Decoder PyError (List Char) where
  parseInt := jsonInt
  parseFloat := id
  parseConstant := parseConstant
  depthLimit := recursionLimit

/-- The encoder of `json.dumps`. -/
def jsonEncoder : Json.Encoder PyError (List Char) where
  intText value := (pythonStr value).map String.toList
  floatText := .ok

/-- The exception for containers that nest too deep. -/
def jsonRecursionError (container : String) : PyError :=
  .recursionError ("maximum recursion depth exceeded while decoding a JSON " ++
    container ++ " from a unicode string")

section Integers

theorem head?_toDigits_ne_zero {magnitude : Nat} (positive : 0 < magnitude) :
    (Nat.toDigits 10 magnitude).head? ≠ some '0' := by
  induction magnitude using Nat.strong_induction_on with
  | h magnitude ih =>
      rcases Nat.lt_or_ge magnitude 10 with small | large
      · rw [Nat.toDigits_of_lt_base small]
        intro isZero
        have zero := Nat.digitChar_eq_zero.mp (Option.some.inj isZero)
        omega
      · rw [Nat.toDigits_of_base_le (by decide) large]
        have first := ih (magnitude / 10) (by omega) (by omega)
        obtain ⟨digit, digits, spelled, -⟩ :=
          exists_toDigits_cons (magnitude / 10)
        rw [spelled] at first ⊢
        exact first

theorem whole_toDigits (magnitude : Nat) :
    Json.Whole (Nat.toDigits 10 magnitude) := by
  rcases Nat.eq_zero_or_pos magnitude with rfl | positive
  · left
    rfl
  · right
    exact ⟨Nat.toDigits_ne_nil, head?_toDigits_ne_zero positive,
      fun digit => isDigit_of_mem_toDigits⟩

theorem numeral_intDigits (value : Int) : Json.Numeral (intDigits value) := by
  cases value with
  | ofNat magnitude => exact .positive (whole_toDigits magnitude)
  | negSucc less => exact .negative (whole_toDigits (less + 1))

/-- The decoder reads the integers that the encoder prints. -/
theorem jsonEncoder_readBy
    {parseConstant : List Char → Except PyError (List Char)}
    {recursionLimit : Nat} :
    jsonEncoder.ReadBy (jsonDecoder parseConstant recursionLimit) := by
  intro value text printed
  by_cases printable : Printable value
  · have spelled : text = intDigits value := by
      simp only [jsonEncoder, pythonStr, if_pos printable, Except.map,
        String.toList_ofList, Except.ok.injEq] at printed
      exact printed.symm
    have short : (Nat.toDigits 10 value.natAbs).length ≤ maxStrDigits :=
      printable
    subst spelled
    refine ⟨numeral_intDigits value, ?_⟩
    show jsonInt (intDigits value) = .ok value
    rw [jsonInt, takeSign_intDigits]
    simp only [if_pos short, Nat.ofDigitChars_ten_toDigits, signed_natAbs]
  · simp only [jsonEncoder, pythonStr, if_neg printable, Except.map] at printed
    cases printed

/-- Integers of twenty digits are far below the limit. -/
theorem printable_of_small {value : Int}
    (small : value.natAbs < 100000000000000000000) : Printable value := by
  have short : (Nat.toDigits 10 value.natAbs).length ≤ 20 := by
    apply (Nat.length_toDigits_le_iff (by decide) (by decide)).mpr
    exact Nat.lt_of_lt_of_le small (by decide)
  exact Nat.le_trans short (by decide)

end Integers

section Errors

variable {parseConstant : List Char → Except PyError (List Char)}
  {recursionLimit : Nat}

/-- What a document's decoding raises is a `ValueError` when the constants
raise nothing else. -/
theorem json_raised
    (constants : ∀ name error, parseConstant name = .error error →
      ∃ message, error = .valueError message)
    {text : List Char} {error : PyError}
    (raised : (jsonDecoder parseConstant recursionLimit).loads text =
      .error (.raised error)) :
    ∃ message, error = .valueError message := by
  have admits : (jsonDecoder parseConstant recursionLimit).Admits
      fun failure => ∀ error, failure = .raised error →
        ∃ message, error = PyError.valueError message := {
    malformed := by
      intro error same
      cases same
    tooDeep := by
      intro container error same
      cases same
    parseInt := by
      intro numeral error refused other same
      obtain rfl := Json.Failure.raised.inj same
      simp only [jsonDecoder, jsonInt] at refused
      split at refused
      · cases refused
      · obtain rfl := Except.error.inj refused
        exact ⟨_, rfl⟩
    parseConstant := by
      intro name error refused other same
      obtain rfl := Json.Failure.raised.inj same
      exact constants name _ refused }
  exact admits.loads raised error rfl

end Errors

end Tca
