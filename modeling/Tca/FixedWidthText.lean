import Mathlib.Data.Prod.Lex
import Mathlib.Data.List.Lex
import Mathlib.Data.Char
import Mathlib.Algebra.Order.Group.Nat
import Mathlib.Tactic.IntervalCases

/-!
# Fixed-width texts that sort like the values they spell

Zero-padded decimal fields of a fixed width compare, as texts, like the
numbers they spell.  The property survives separators and juxtaposition of
fields, so a text made of fixed-width fields sorts like the tuple of its
fields.
-/

namespace Tca.FixedWidthText

section Lexicographic

variable {Symbol : Type*} [LinearOrder Symbol]

/-- Between texts of one length, the first difference decides whatever
follows. -/
theorem append_lt_append_of_lt {first second : List Symbol}
    (sameLength : first.length = second.length) (smaller : first < second)
    (firstRest secondRest : List Symbol) :
    first ++ firstRest < second ++ secondRest := by
  induction first generalizing second with
  | nil =>
      have : second = [] := List.eq_nil_of_length_eq_zero
        (by simpa using sameLength.symm)
      simp [this] at smaller
  | cons head tail ih =>
      cases second with
      | nil => simp at sameLength
      | cons otherHead otherTail =>
          rw [List.cons_lt_cons_iff] at smaller
          rw [List.cons_append, List.cons_append, List.cons_lt_cons_iff]
          rcases smaller with headSmaller | ⟨headEq, tailSmaller⟩
          · exact Or.inl headSmaller
          · exact Or.inr ⟨headEq, ih (by simpa using sameLength) tailSmaller⟩

end Lexicographic

/-- The texts of valid values have one width and sort like the values. -/
structure OrderedText {Value : Type*} [LinearOrder Value]
    (valid : Value → Prop) (width : Nat) (text : Value → List Char) :
    Prop where
  length_eq : ∀ value, valid value → (text value).length = width
  lt_of_lt : ∀ first second, valid first → valid second →
    first < second → text first < text second

namespace OrderedText

variable {Value Other : Type*} [LinearOrder Value] [LinearOrder Other]
  {valid : Value → Prop} {otherValid : Other → Prop}
  {width otherWidth : Nat} {text : Value → List Char}
  {otherText : Other → List Char}

theorem followedBy (ordered : OrderedText valid width text)
    (separator : List Char) :
    OrderedText valid (width + separator.length)
      fun value => text value ++ separator where
  length_eq value isValid := by
    simp [ordered.length_eq value isValid]
  lt_of_lt first second firstValid secondValid smaller := by
    apply append_lt_append_of_lt
    · rw [ordered.length_eq first firstValid,
        ordered.length_eq second secondValid]
    · exact ordered.lt_of_lt first second firstValid secondValid smaller

/-- Juxtaposed fields sort like the lexicographic pair of their values. -/
theorem juxtapose (ordered : OrderedText valid width text)
    (otherOrdered : OrderedText otherValid otherWidth otherText) :
    OrderedText
      (fun pair : Value ×ₗ Other =>
        valid (ofLex pair).1 ∧ otherValid (ofLex pair).2)
      (width + otherWidth)
      fun pair => text (ofLex pair).1 ++ otherText (ofLex pair).2 where
  length_eq pair isValid := by
    simp [ordered.length_eq _ isValid.1, otherOrdered.length_eq _ isValid.2]
  lt_of_lt first second firstValid secondValid smaller := by
    rcases Prod.Lex.lt_iff.mp smaller with
      leading | ⟨same, trailing⟩
    · apply append_lt_append_of_lt
      · rw [ordered.length_eq _ firstValid.1,
          ordered.length_eq _ secondValid.1]
      · exact ordered.lt_of_lt _ _ firstValid.1 secondValid.1 leading
    · rw [same]
      exact List.append_left_lt
        (otherOrdered.lt_of_lt _ _ firstValid.2 secondValid.2 trailing)

end OrderedText

/-- The last `width` decimal digits of a number, padded with zeros. -/
def decimal : Nat → Nat → List Char
  | 0, _ => []
  | width + 1, number => decimal width (number / 10) ++ [(number % 10).digitChar]

@[simp]
theorem decimal_length (width number : Nat) :
    (decimal width number).length = width := by
  induction width generalizing number with
  | zero => rfl
  | succ width ih => simp [decimal, ih]

private theorem digitChar_lt {first second : Nat} (secondBound : second < 10)
    (smaller : first < second) : first.digitChar < second.digitChar := by
  interval_cases second <;> interval_cases first <;> decide

/-- Zero-padded decimals sort like numbers. -/
theorem orderedText_decimal (width : Nat) :
    OrderedText (fun number => number < 10 ^ width) width (decimal width) where
  length_eq number _ := decimal_length width number
  lt_of_lt first second firstBound secondBound smaller := by
    induction width generalizing first second with
    | zero =>
        simp only [pow_zero] at secondBound
        omega
    | succ width ih =>
        rw [pow_succ] at firstBound secondBound
        simp only [decimal]
        rcases Nat.lt_or_ge (first / 10) (second / 10) with lower | notLower
        · apply append_lt_append_of_lt (by simp)
          exact ih (first / 10) (second / 10) (by omega) (by omega) lower
        · have sameLead : first / 10 = second / 10 := by omega
          rw [sameLead]
          apply List.append_left_lt
          rw [List.cons_lt_cons_iff]
          exact Or.inl (digitChar_lt (Nat.mod_lt _ (by omega)) (by omega))

end Tca.FixedWidthText
