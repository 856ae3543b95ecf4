import Tca.PythonObjects
import Mathlib.Data.Rat.Floor
import Mathlib.Tactic.Linarith

/-!
# Which integers become floats

An integer is made a float by rounding it to a significand of 53 bits, halves
to the even one.  The file bounds what rounding does and proves that exactly
the integers below a halfway point between two powers of two are in range.
-/

namespace Tca

section Rounding

/-- An upper bound that is an integer survives rounding. -/
theorem roundHalfEven_le {value : ℚ} {bound : Int} (below : value ≤ bound) :
    roundHalfEven value ≤ bound := by
  have floorLe : (value.floor : ℚ) ≤ value := Int.floor_le value
  have floorBound : value.floor ≤ bound := by
    exact_mod_cast floorLe.trans below
  unfold roundHalfEven
  dsimp only
  split
  · exact floorBound
  · rename_i roundsUp
    have positive : (value.floor : ℚ) < value := by
      by_contra exactFloor
      apply roundsUp
      left
      linarith
    have strict : value.floor < bound := by
      exact_mod_cast positive.trans_le below
    omega

/-- So does a lower bound. -/
theorem le_roundHalfEven {value : ℚ} {bound : Int} (above : bound ≤ value) :
    bound ≤ roundHalfEven value := by
  have floorBound : bound ≤ value.floor := Int.le_floor.mpr above
  unfold roundHalfEven
  dsimp only
  split <;> omega

/-- Rounding loses half a unit at most. -/
theorem le_roundHalfEven_add_half (value : ℚ) :
    value ≤ roundHalfEven value + 1 / 2 := by
  have belowNext : value < (value.floor : ℚ) + 1 := Int.lt_floor_add_one value
  unfold roundHalfEven
  dsimp only
  split
  · rename_i roundsDown
    rcases roundsDown with less | ⟨tie, -⟩ <;> linarith
  · push_cast
    linarith

/-- Rounding adds half a unit at most. -/
theorem roundHalfEven_le_add_half (value : ℚ) :
    (roundHalfEven value : ℚ) ≤ value + 1 / 2 := by
  have floorLe : (value.floor : ℚ) ≤ value := Int.floor_le value
  unfold roundHalfEven
  dsimp only
  split
  · linarith
  · rename_i roundsUp
    have atLeastHalf : ¬ value - value.floor < 1 / 2 := fun less =>
      roundsUp (Or.inl less)
    push_cast
    linarith

/-- Halfway to an even number, rounding goes to the even number. -/
theorem roundHalfEven_of_tie {value : ℚ} {even : Int} (isEven : even % 2 = 0)
    (tie : value = even - 1 / 2 ∨ value = even + 1 / 2) :
    roundHalfEven value = even := by
  unfold roundHalfEven
  dsimp only
  rcases tie with below | above
  · have floorIs : value.floor = even - 1 := by
      have below : ⌊value⌋ = even - 1 := by
        rw [Int.floor_eq_iff]
        push_cast
        constructor <;> linarith
      exact below
    rw [floorIs, if_neg]
    · omega
    · push_cast
      rintro (less | ⟨-, odd⟩)
      · linarith
      · omega
  · have floorIs : value.floor = even := by
      have below : ⌊value⌋ = even := by
        rw [Int.floor_eq_iff]
        constructor <;> linarith
      exact below
    rw [floorIs, if_pos]
    right
    exact ⟨by linarith, isEven⟩

variable {value : ℚ} {bound : Nat}

theorem natAbs_roundHalfEven_le (below : |value| ≤ bound) :
    (roundHalfEven value).natAbs ≤ bound := by
  obtain ⟨atLeast, atMost⟩ := abs_le.mp below
  have upper : roundHalfEven value ≤ (bound : Int) :=
    roundHalfEven_le (by exact_mod_cast atMost)
  have lower : -(bound : Int) ≤ roundHalfEven value := by
    apply le_roundHalfEven
    push_cast
    exact atLeast
  omega

theorem le_natAbs_roundHalfEven (above : (bound : ℚ) ≤ |value|) :
    bound ≤ (roundHalfEven value).natAbs := by
  rcases le_abs.mp above with positive | negative
  · have lower : (bound : Int) ≤ roundHalfEven value :=
      le_roundHalfEven (by exact_mod_cast positive)
    omega
  · have upper : roundHalfEven value ≤ -(bound : Int) := by
      apply roundHalfEven_le
      push_cast
      linarith
    omega

/-- Rounding reaches an even number exactly from half a unit before it. -/
theorem natAbs_roundHalfEven_lt_iff (isEven : bound % 2 = 0) :
    (roundHalfEven value).natAbs < bound ↔ |value| < bound - 1 / 2 := by
  constructor
  · intro less
    by_contra tooLarge
    have reaches : (bound : ℚ) - 1 / 2 ≤ |value| := not_lt.mp tooLarge
    have rounded : bound ≤ (roundHalfEven value).natAbs := by
      rcases le_abs.mp reaches with positive | negative
      · rcases positive.eq_or_lt with tie | beyond
        · have isBound := @roundHalfEven_of_tie value (bound : Int) (by omega)
            (Or.inl (by push_cast; linarith))
          omega
        · have lost := le_roundHalfEven_add_half value
          have close : (bound : ℚ) - 1 < roundHalfEven value := by linarith
          have atLeast : (bound : Int) - 1 < roundHalfEven value := by
            exact_mod_cast close
          omega
      · rcases negative.eq_or_lt with tie | beyond
        · have isBound := @roundHalfEven_of_tie value (-(bound : Int)) (by omega)
            (Or.inr (by push_cast; linarith))
          omega
        · have added := roundHalfEven_le_add_half value
          have close : (roundHalfEven value : ℚ) < -(bound : ℚ) + 1 := by
            linarith
          have atMost : roundHalfEven value < -(bound : Int) + 1 := by
            exact_mod_cast close
          omega
    omega
  · intro less
    obtain ⟨atLeast, atMost⟩ := abs_lt.mp less
    have added := roundHalfEven_le_add_half value
    have lost := le_roundHalfEven_add_half value
    have upper : (roundHalfEven value : ℚ) < bound := by linarith
    have lower : -(bound : ℚ) < roundHalfEven value := by linarith
    have upperInt : roundHalfEven value < (bound : Int) := by
      exact_mod_cast upper
    have lowerInt : -(bound : Int) < roundHalfEven value := by
      exact_mod_cast lower
    omega

end Rounding

section Range

/-- The size of an integer in units of the last place of its significand. -/
theorem abs_div_unit (value : Int) (places : Nat) :
    |(value : ℚ) / ((2 ^ places : Int) : ℚ)| =
      (value.natAbs : ℚ) / 2 ^ places := by
  have positive : (0 : ℚ) < 2 ^ places := by positivity
  have unit : |((2 ^ places : Int) : ℚ)| = 2 ^ places := by
    push_cast
    exact abs_of_pos positive
  rw [abs_div, unit, Nat.cast_natAbs, Int.cast_abs]

variable {value : Int} {places : Nat}

/-- The significand of an integer of `places + 53` binary digits. -/
def significand (value : Int) (places : Nat) : Int :=
  roundHalfEven ((value : ℚ) / ((2 ^ places : Int) : ℚ))

theorem significand_le (upper : value.natAbs < 2 ^ (places + 53)) :
    (significand value places).natAbs ≤ 2 ^ 53 := by
  apply natAbs_roundHalfEven_le
  have unitPositive : (0 : ℚ) < 2 ^ places := by positivity
  rw [abs_div_unit, div_le_iff₀ unitPositive]
  have powers : (2 : Nat) ^ 53 * 2 ^ places = 2 ^ (places + 53) := by
    rw [← pow_add, Nat.add_comm]
  exact_mod_cast powers ▸ upper.le

theorem le_significand (lower : 2 ^ (places + 52) ≤ value.natAbs) :
    2 ^ 52 ≤ (significand value places).natAbs := by
  apply le_natAbs_roundHalfEven
  have unitPositive : (0 : ℚ) < 2 ^ places := by positivity
  rw [abs_div_unit, le_div_iff₀ unitPositive]
  have powers : (2 : Nat) ^ 52 * 2 ^ places = 2 ^ (places + 52) := by
    rw [← pow_add, Nat.add_comm]
  exact_mod_cast powers ▸ lower

theorem range_end_eq : (2 : Nat) ^ 1024 = 2 ^ 53 * 2 ^ 971 := by
  rw [← pow_add]

theorem halfway_eq : (2 : Nat) ^ 1024 - 2 ^ 970 = (2 ^ 54 - 1) * 2 ^ 970 := by
  have factored : (2 : Nat) ^ 1024 = 2 ^ 54 * 2 ^ 970 := by rw [← pow_add]
  rw [factored, Nat.sub_mul, one_mul]

theorem pow_lt_halfway : (2 : Nat) ^ 1023 < 2 ^ 1024 - 2 ^ 970 := by
  have factored : (2 : Nat) ^ 1023 = 2 ^ 53 * 2 ^ 970 := by rw [← pow_add]
  rw [halfway_eq, factored]
  exact Nat.mul_lt_mul_of_pos_right (by decide) (by positivity)

/-- Fewer than 1024 digits stay in the range. -/
theorem significand_lt_of_few (few : places < 971)
    (upper : value.natAbs < 2 ^ (places + 53)) :
    (significand value places).natAbs * 2 ^ places < 2 ^ 1024 ∧
      value.natAbs < 2 ^ 1024 - 2 ^ 970 := by
  have powers : (2 : Nat) ^ (places + 53) ≤ 2 ^ 1023 :=
    pow_le_pow_right₀ one_le_two (by omega)
  constructor
  · calc (significand value places).natAbs * 2 ^ places
        ≤ 2 ^ 53 * 2 ^ places :=
          Nat.mul_le_mul_right _ (significand_le upper)
      _ = 2 ^ (places + 53) := by rw [← pow_add, Nat.add_comm]
      _ ≤ 2 ^ 1023 := powers
      _ < 2 ^ 1024 := pow_lt_halfway.trans_le (Nat.sub_le _ _)
  · calc value.natAbs < 2 ^ (places + 53) := upper
      _ ≤ 2 ^ 1023 := powers
      _ < 2 ^ 1024 - 2 ^ 970 := pow_lt_halfway

/-- More than 1024 digits leave the range. -/
theorem le_significand_of_many (many : 971 < places)
    (lower : 2 ^ (places + 52) ≤ value.natAbs) :
    2 ^ 1024 ≤ (significand value places).natAbs * 2 ^ places ∧
      2 ^ 1024 - 2 ^ 970 ≤ value.natAbs := by
  have powers : (2 : Nat) ^ 1024 ≤ 2 ^ (places + 52) :=
    pow_le_pow_right₀ one_le_two (by omega)
  constructor
  · calc 2 ^ 1024 ≤ 2 ^ (places + 52) := powers
      _ = 2 ^ 52 * 2 ^ places := by rw [← pow_add, Nat.add_comm]
      _ ≤ (significand value places).natAbs * 2 ^ places :=
        Nat.mul_le_mul_right _ (le_significand lower)
  · calc 2 ^ 1024 - 2 ^ 970 ≤ 2 ^ 1024 := Nat.sub_le _ _
      _ ≤ 2 ^ (places + 52) := powers
      _ ≤ value.natAbs := lower

/-- With 1024 digits the halfway point decides. -/
theorem significand_lt_iff :
    (significand value 971).natAbs * 2 ^ 971 < 2 ^ 1024 ↔
      value.natAbs < 2 ^ 1024 - 2 ^ 970 := by
  have unitPositive : (0 : ℚ) < 2 ^ 971 := by positivity
  rw [range_end_eq, Nat.mul_lt_mul_right (by positivity), significand,
    natAbs_roundHalfEven_lt_iff (by norm_num), abs_div_unit,
    div_lt_iff₀ unitPositive, ← range_end_eq]
  have limit : ((((2 : Nat) ^ 53 : Nat) : ℚ) - 1 / 2) * 2 ^ 971 =
      ((2 ^ 1024 - 2 ^ 970 : Nat) : ℚ) := by
    have doubled : (2 : ℚ) ^ 971 = 2 ^ 970 * 2 := pow_succ 2 970
    rw [halfway_eq, doubled]
    simp only [Nat.cast_mul, Nat.cast_pow, Nat.cast_ofNat]
    generalize (2 : ℚ) ^ 970 = unit
    push_cast
    ring
  rw [limit, Nat.cast_lt]

/-- An integer rounds to a float below `2 ** 1024` exactly if it lies below the
point halfway between the largest float and `2 ** 1024`. -/
theorem roundToDouble_lt_iff (value : Int) :
    (roundToDouble value).natAbs < 2 ^ 1024 ↔
      value.natAbs < 2 ^ 1024 - 2 ^ 970 := by
  unfold roundToDouble
  split
  · rename_i isSmall
    have belowLimit : (2 : Nat) ^ 53 < 2 ^ 1024 - 2 ^ 970 :=
      (pow_le_pow_right₀ one_le_two (by decide)).trans_lt pow_lt_halfway
    have belowPower : (2 : Nat) ^ 53 < 2 ^ 1024 :=
      belowLimit.trans_le (Nat.sub_le _ _)
    exact iff_of_true (isSmall.trans belowPower) (isSmall.trans belowLimit)
  · rename_i isLarge
    have atLeast : 2 ^ 53 ≤ value.natAbs := not_lt.mp isLarge
    have nonzero : value.natAbs ≠ 0 := by
      intro isZero
      rw [isZero] at atLeast
      exact absurd atLeast (by norm_num)
    have lower : 2 ^ value.natAbs.log2 ≤ value.natAbs :=
      Nat.log2_self_le nonzero
    have upper : value.natAbs < 2 ^ (value.natAbs.log2 + 1) :=
      Nat.lt_log2_self
    have manyPlaces : 53 ≤ value.natAbs.log2 :=
      (Nat.le_log2 nonzero).mpr atLeast
    obtain ⟨places, placesIs⟩ := Nat.exists_eq_add_of_le'
      (show 52 ≤ value.natAbs.log2 by omega)
    dsimp only
    rw [placesIs, Nat.add_sub_cancel]
    rw [placesIs] at lower upper
    have product : (roundHalfEven ((value : ℚ) / ((2 ^ places : Int) : ℚ)) *
        2 ^ places).natAbs =
          (significand value places).natAbs * 2 ^ places := by
      rw [Int.natAbs_mul, Int.natAbs_pow]
      rfl
    rw [product]
    rcases Nat.lt_trichotomy places 971 with few | isLast | many
    · have inRange := significand_lt_of_few few upper
      exact iff_of_true inRange.1 inRange.2
    · subst isLast
      exact significand_lt_iff
    · have outOfRange := le_significand_of_many many lower
      exact iff_of_false (not_lt.mpr outOfRange.1) (not_lt.mpr outOfRange.2)

/-- `float(value)` raises for all larger integers. -/
theorem floatOfInt_eq_ok_iff {value : Int} {score : PyFloat} :
    floatOfInt value = .ok score ↔
      value.natAbs < 2 ^ 1024 - 2 ^ 970 ∧
        score = .finite (roundToDouble value) := by
  unfold floatOfInt
  split
  · rename_i inRange
    rw [roundToDouble_lt_iff] at inRange
    simp only [Except.ok.injEq, inRange, true_and, eq_comm]
  · rename_i outOfRange
    rw [roundToDouble_lt_iff] at outOfRange
    simp only [reduceCtorEq, outOfRange, false_and]

end Range

end Tca
