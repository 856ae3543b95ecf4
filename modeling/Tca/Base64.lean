import Mathlib.Data.List.Basic

/-!
# Base64

Three bytes are written as four digits of six bits each; a shorter last group
is padded.  The decoder is the strict one: it takes digits in groups of four
and padding at the very end only.  Decoding inverts encoding.
-/

namespace Tca.Base64

/-- The digits in the order of their values. -/
def alphabet : List Char :=
  "ABCDEFGHIJKLMNOPQRSTUVWXYZabcdefghijklmnopqrstuvwxyz0123456789+/".toList

def digit (value : Nat) : Char :=
  alphabet.getD value '='

def value? (char : Char) : Option Nat :=
  alphabet.idxOf? char

/-- The digits of a text of bytes. -/
def encode : List UInt8 → List Char
  | [] => []
  | [first] =>
      [digit (first.toNat / 4), digit (first.toNat % 4 * 16), '=', '=']
  | [first, second] =>
      [digit (first.toNat / 4),
        digit (first.toNat % 4 * 16 + second.toNat / 16),
        digit (second.toNat % 16 * 4), '=']
  | first :: second :: third :: rest =>
      digit (first.toNat / 4) ::
        digit (first.toNat % 4 * 16 + second.toNat / 16) ::
        digit (second.toNat % 16 * 4 + third.toNat / 64) ::
        digit (third.toNat % 64) :: encode rest

/-- The bytes of a text of digits. -/
def decode : List Char → Option (List UInt8)
  | [] => some []
  | first :: second :: third :: fourth :: rest => do
      let high ← value? first
      let middle ← value? second
      let one := UInt8.ofNat (high * 4 + middle / 16)
      if fourth = '=' ∧ rest = [] then
        if third = '=' then return [one]
        else
          let low ← value? third
          return [one, UInt8.ofNat (middle % 16 * 16 + low / 4)]
      else
        let low ← value? third
        let lowest ← value? fourth
        let bytes ← decode rest
        return one :: UInt8.ofNat (middle % 16 * 16 + low / 4) ::
          UInt8.ofNat (low % 4 * 64 + lowest) :: bytes
  | _ => none

theorem value?_digit {value : Nat} (inRange : value < 64) :
    value? (digit value) = some value := by
  have all : ∀ index ∈ List.range 64, value? (digit index) = some index := by
    decide
  exact all value (List.mem_range.mpr inRange)

theorem digit_ne_padding {value : Nat} (inRange : value < 64) :
    digit value ≠ '=' := by
  intro isPadding
  have read := value?_digit inRange
  have unread : value? '=' = none := by
    decide
  rw [isPadding, unread] at read
  cases read

theorem ofNat_eq_of_toNat {value : Nat} {byte : UInt8}
    (same : value = byte.toNat) : UInt8.ofNat value = byte := by
  rw [same, UInt8.ofNat_toNat]

/-- The first byte of a group is in its first two digits. -/
theorem first_of_digits (first : UInt8) {low : Nat} (inRange : low < 16) :
    UInt8.ofNat (first.toNat / 4 * 4 + (first.toNat % 4 * 16 + low) / 16) =
      first := by
  refine ofNat_eq_of_toNat ?_
  omega

/-- The second byte is in the second and the third digit. -/
theorem second_of_digits (high : Nat) (second : UInt8) {low : Nat}
    (inRange : low < 4) :
    UInt8.ofNat ((high * 16 + second.toNat / 16) % 16 * 16 +
        (second.toNat % 16 * 4 + low) / 4) = second := by
  have small := second.toNat_lt
  refine ofNat_eq_of_toNat ?_
  omega

/-- The third byte is in the last two digits. -/
theorem third_of_digits (high : Nat) (third : UInt8) :
    UInt8.ofNat ((high * 4 + third.toNat / 64) % 4 * 64 + third.toNat % 64) =
      third := by
  have small := third.toNat_lt
  refine ofNat_eq_of_toNat ?_
  omega

/-- Decoding inverts encoding. -/
theorem decode_encode (bytes : List UInt8) :
    decode (encode bytes) = some bytes := by
  induction bytes using encode.induct with
  | case1 => rfl
  | case2 first =>
      have small := first.toNat_lt
      have one := first_of_digits first (show 0 < 16 by omega)
      rw [Nat.add_zero] at one
      simp only [encode, decode,
        value?_digit (show first.toNat / 4 < 64 by omega),
        value?_digit (show first.toNat % 4 * 16 < 64 by omega),
        Option.bind_eq_bind, Option.bind_some, and_self, ↓reduceIte, one]
      rfl
  | case3 first second =>
      have small := first.toNat_lt
      have smallSecond := second.toNat_lt
      have one := first_of_digits first (show second.toNat / 16 < 16 by omega)
      have two := second_of_digits (first.toNat % 4) second 
        (show 0 < 4 by omega)
      rw [Nat.add_zero] at two
      have thirdRange : second.toNat % 16 * 4 < 64 := by omega
      simp only [encode, decode,
        value?_digit (show first.toNat / 4 < 64 by omega),
        value?_digit (show first.toNat % 4 * 16 + second.toNat / 16 < 64 by
          omega),
        value?_digit thirdRange, digit_ne_padding thirdRange,
        Option.bind_eq_bind, Option.bind_some, and_self, ↓reduceIte, one, two]
      rfl
  | case4 first second third rest ih =>
      have small := first.toNat_lt
      have smallSecond := second.toNat_lt
      have smallThird := third.toNat_lt
      have one := first_of_digits first (show second.toNat / 16 < 16 by omega)
      have two := second_of_digits (first.toNat % 4) second
        (show third.toNat / 64 < 4 by omega)
      have three := third_of_digits (second.toNat % 16) third
      have fourthRange : third.toNat % 64 < 64 := by omega
      simp only [encode, decode,
        value?_digit (show first.toNat / 4 < 64 by omega),
        value?_digit (show first.toNat % 4 * 16 + second.toNat / 16 < 64 by
          omega),
        value?_digit (show second.toNat % 16 * 4 + third.toNat / 64 < 64 by
          omega),
        value?_digit fourthRange, digit_ne_padding fourthRange,
        Option.bind_eq_bind, Option.bind_some, false_and, ↓reduceIte, one, two,
        three, ih]
      rfl

theorem digit_ascii (value : Nat) : (digit value).toNat < 128 := by
  have all : (alphabet ++ ['=']).all (·.toNat < 128) = true := by
    decide
  apply of_decide_eq_true
  apply List.all_eq_true.mp all
  rw [digit, List.getD_eq_getElem?_getD, List.mem_append]
  cases found : alphabet[value]? with
  | none => exact .inr List.mem_cons_self
  | some char => exact .inl (List.mem_of_getElem? found)

/-- The digits are ASCII characters. -/
theorem encode_ascii (bytes : List UInt8) :
    ∀ char ∈ encode bytes, char.toNat < 128 := by
  induction bytes using encode.induct with
  | case1 => exact List.forall_mem_nil _
  | case2 first => simp [encode, digit_ascii]
  | case3 first second => simp [encode, digit_ascii]
  | case4 first second third rest ih =>
      simp only [encode, List.forall_mem_cons]
      exact ⟨digit_ascii _, digit_ascii _, digit_ascii _, digit_ascii _, ih⟩

end Tca.Base64
