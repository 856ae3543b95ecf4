import Mathlib.Data.Prod.Lex
import Mathlib.Tactic.IntervalCases

/-!
# The proleptic Gregorian calendar

Day numbers count from zero on the first day of year one.  The conversion to
a civil date first finds the year by 400-, 100-, 4- and 1-year cycles and then
walks the month lengths.  Later day numbers have lexicographically later
dates.
-/

namespace Tca.CivilCalendar

def isLeap (year : Nat) : Bool :=
  year % 4 == 0 && (year % 100 != 0 || year % 400 == 0)

/-- Number of days before the first day of a year. -/
def daysBeforeYear (year : Nat) : Nat :=
  (year - 1) * 365 + (year - 1) / 4 - (year - 1) / 100 + (year - 1) / 400

def yearLength (year : Nat) : Nat :=
  if isLeap year then 366 else 365

/-- The year of a day number and the zero-based day within that year.  The
last day of a 400-year or of a 4-year cycle is day 365 of the year before the
one the cycle count suggests. -/
def yearAndDay (days : Nat) : Nat × Nat :=
  let inCycle := days % 146097
  let centuries := inCycle / 36524
  let inCentury := inCycle % 36524
  let quads := inCentury / 1461
  let inQuad := inCentury % 1461
  let years := inQuad / 365
  let year := days / 146097 * 400 + 1 + centuries * 100 + quads * 4 + years
  if years = 4 ∨ centuries = 4 then (year - 1, 365) else (year, inQuad % 365)

def monthLengths (leap : Bool) : List Nat :=
  [31, if leap then 29 else 28, 31, 30, 31, 30, 31, 31, 30, 31, 30, 31]

/-- Walk the month lengths with a zero-based day of the year; the month and
the day of the month both count from one. -/
def splitMonths : List Nat → Nat → Nat × Nat
  | [], rest => (1, rest + 1)
  | length :: lengths, rest =>
      if rest < length then (1, rest + 1)
      else
        let later := splitMonths lengths (rest - length)
        (later.1 + 1, later.2)

/-- Year, month and day of a day number. -/
def civilDate (days : Nat) : Nat × Nat × Nat :=
  let located := yearAndDay days
  (located.1, splitMonths (monthLengths (isLeap located.1)) located.2)

private theorem succ_div_eq (number divisor : Nat) :
    (number + 1) / divisor =
      number / divisor + if (number + 1) % divisor = 0 then 1 else 0 := by
  simp only [Nat.succ_div, Nat.dvd_iff_mod_eq_zero]

theorem daysBeforeYear_succ {year : Nat} (positive : 0 < year) :
    daysBeforeYear (year + 1) = daysBeforeYear year + yearLength year := by
  obtain ⟨year, rfl⟩ := Nat.exists_eq_add_one.mpr positive
  have centuriesLe : year / 100 ≤ year := Nat.div_le_self year 100
  have hundredOfFourHundred :
      (year + 1) % 400 = 0 → (year + 1) % 100 = 0 := by
    omega
  have fourOfHundred : (year + 1) % 100 = 0 → (year + 1) % 4 = 0 := by
    omega
  simp only [daysBeforeYear, yearLength, isLeap, Nat.add_sub_cancel,
    succ_div_eq year]
  generalize year / 4 = quads, year / 100 = centuries,
    year / 400 = cycles at *
  by_cases isFour : (year + 1) % 4 = 0
  · by_cases isHundred : (year + 1) % 100 = 0
    · by_cases isFourHundred : (year + 1) % 400 = 0
      · simp [isFour, isHundred, isFourHundred]
        omega
      · simp [isFour, isHundred, isFourHundred]
        omega
    · have isFourHundred : (year + 1) % 400 ≠ 0 :=
        fun zero => isHundred (hundredOfFourHundred zero)
      simp [isFour, isHundred, isFourHundred]
      omega
  · have isHundred : (year + 1) % 100 ≠ 0 :=
      fun zero => isFour (fourOfHundred zero)
    have isFourHundred : (year + 1) % 400 ≠ 0 :=
      fun zero => isHundred (hundredOfFourHundred zero)
    simp [isFour, isHundred, isFourHundred]
    omega

theorem daysBeforeYear_mono : Monotone daysBeforeYear := by
  apply monotone_nat_of_le_succ
  intro year
  rcases Nat.eq_zero_or_pos year with rfl | positive
  · exact Nat.le_refl 0
  · rw [daysBeforeYear_succ positive]
    exact Nat.le_add_right _ _

theorem yearLength_ge (year : Nat) : 365 ≤ yearLength year := by
  unfold yearLength
  split <;> omega

/-- The days before a year counted in cycles, when no cycle count overflows. -/
private theorem daysBeforeYear_cycles {cycles centuries quads years : Nat}
    (centuriesLt : centuries < 4) (quadsLt : quads < 25)
    (yearsLt : years < 4) :
    daysBeforeYear (cycles * 400 + 1 + centuries * 100 + quads * 4 + years) =
      cycles * 146097 + centuries * 36524 + quads * 1461 + years * 365 := by
  unfold daysBeforeYear
  omega

/-- A year that completes a 4-year cycle is leap unless it completes a
century, and always when it completes a 400-year cycle. -/
private theorem isLeap_cycle_end {cycles centuries quads : Nat}
    (centuriesLt : centuries < 4)
    (within : quads < 24 ∨ centuries = 3 ∧ quads = 24) :
    isLeap (cycles * 400 + 1 + centuries * 100 + quads * 4 + 3) = true := by
  have four :
      (cycles * 400 + 1 + centuries * 100 + quads * 4 + 3) % 4 = 0 := by
    omega
  rcases within with quadsLt | ⟨rfl, rfl⟩
  · have hundred :
        (cycles * 400 + 1 + centuries * 100 + quads * 4 + 3) % 100 ≠ 0 := by
      omega
    simp [isLeap, four, hundred]
  · have fourHundred :
        (cycles * 400 + 1 + 3 * 100 + 24 * 4 + 3) % 400 = 0 := by
      omega
    simp [isLeap, four, fourHundred]

/-- A day number is the days before its year plus its day in the year. -/
theorem yearAndDay_spec (days : Nat) :
    days = daysBeforeYear (yearAndDay days).1 + (yearAndDay days).2 ∧
      (yearAndDay days).2 < yearLength (yearAndDay days).1 ∧
      0 < (yearAndDay days).1 := by
  unfold yearAndDay
  dsimp only
  generalize cyclesEq : days / 146097 = cycles
  generalize inCycleEq : days % 146097 = inCycle
  generalize centuriesEq : inCycle / 36524 = centuries
  generalize inCenturyEq : inCycle % 36524 = inCentury
  generalize quadsEq : inCentury / 1461 = quads
  generalize inQuadEq : inCentury % 1461 = inQuad
  generalize yearsEq : inQuad / 365 = years
  split
  · rename_i overflow
    -- The last day of a cycle belongs to the year the cycle ends with.
    dsimp only
    by_cases lastCentury : centuries = 4
    · have yearEq : cycles * 400 + 1 + centuries * 100 + quads * 4 + years - 1 =
          cycles * 400 + 1 + 3 * 100 + 24 * 4 + 3 := by
        omega
      rw [yearEq, daysBeforeYear_cycles (by omega) (by omega) (by omega),
        yearLength, isLeap_cycle_end (by omega) (Or.inr ⟨rfl, rfl⟩)]
      refine ⟨by omega, by simp, by omega⟩
    · have yearsFour : years = 4 := by omega
      have yearEq : cycles * 400 + 1 + centuries * 100 + quads * 4 + years - 1 =
          cycles * 400 + 1 + centuries * 100 + quads * 4 + 3 := by
        omega
      rw [yearEq, daysBeforeYear_cycles (by omega) (by omega) (by omega),
        yearLength, isLeap_cycle_end (by omega) (Or.inl (by omega))]
      refine ⟨by omega, by simp, by omega⟩
  · rename_i ordinary
    dsimp only
    have lengthBound := yearLength_ge
      (cycles * 400 + 1 + centuries * 100 + quads * 4 + years)
    rw [daysBeforeYear_cycles (by omega) (by omega) (by omega)]
    refine ⟨by omega, by omega, by omega⟩

/-- Later days lie in later years, or later in the same year. -/
theorem yearAndDay_lt {first second : Nat} (earlier : first < second) :
    (yearAndDay first).1 < (yearAndDay second).1 ∨
      (yearAndDay first).1 = (yearAndDay second).1 ∧
        (yearAndDay first).2 < (yearAndDay second).2 := by
  obtain ⟨firstEq, -, -⟩ := yearAndDay_spec first
  obtain ⟨secondEq, secondDay, secondPositive⟩ := yearAndDay_spec second
  rcases lt_trichotomy (yearAndDay first).1 (yearAndDay second).1 with
    before | same | after
  · exact Or.inl before
  · refine Or.inr ⟨same, ?_⟩
    rw [same] at firstEq
    omega
  · -- The second day would fall before the year of the first one.
    have ended := daysBeforeYear_mono (Nat.succ_le_of_lt after)
    rw [Nat.succ_eq_add_one, daysBeforeYear_succ secondPositive] at ended
    omega

theorem splitMonths_pos (lengths : List Nat) (rest : Nat) :
    0 < (splitMonths lengths rest).1 := by
  cases lengths with
  | nil => exact Nat.one_pos
  | cons length lengths =>
      unfold splitMonths
      split <;> simp

/-- Later days of the year have later months, or later days of the month. -/
theorem splitMonths_lt (lengths : List Nat) {first second : Nat}
    (earlier : first < second) :
    toLex (splitMonths lengths first) < toLex (splitMonths lengths second) := by
  induction lengths generalizing first second with
  | nil => simpa [splitMonths, Prod.Lex.toLex_lt_toLex] using earlier
  | cons length lengths ih =>
      rw [Prod.Lex.toLex_lt_toLex]
      by_cases firstInside : first < length
      · by_cases secondInside : second < length
        · simpa [splitMonths, firstInside, secondInside] using earlier
        · have := splitMonths_pos lengths (second - length)
          simpa [splitMonths, firstInside, secondInside] using Or.inl this
      · have secondOutside : ¬ second < length := by omega
        have later := ih (show first - length < second - length by omega)
        rw [Prod.Lex.toLex_lt_toLex] at later
        simpa [splitMonths, firstInside, secondOutside] using later

/-- Days that fit the month lengths land in one of the months. -/
theorem splitMonths_bounds {lengths : List Nat} {longest rest : Nat}
    (bounded : ∀ length ∈ lengths, length ≤ longest)
    (fits : rest < lengths.sum) :
    (splitMonths lengths rest).1 ≤ lengths.length ∧
      (splitMonths lengths rest).2 ≤ longest := by
  induction lengths generalizing rest with
  | nil => simp at fits
  | cons length lengths ih =>
      have headBound := bounded length (by simp)
      by_cases inside : rest < length
      · simp only [splitMonths, inside, if_true, List.length_cons]
        omega
      · rw [List.sum_cons] at fits
        have tail := ih
          (fun other member => bounded other (List.mem_cons_of_mem _ member))
          (show rest - length < lengths.sum by omega)
        simp only [splitMonths, inside, if_false, List.length_cons]
        omega

/-- Later days have later dates. -/
theorem civilDate_lt {first second : Nat} (earlier : first < second) :
    (civilDate first).1 < (civilDate second).1 ∨
      (civilDate first).1 = (civilDate second).1 ∧
        toLex (civilDate first).2 < toLex (civilDate second).2 := by
  rcases yearAndDay_lt earlier with years | ⟨sameYear, daysOfYear⟩
  · exact Or.inl years
  · refine Or.inr ⟨sameYear, ?_⟩
    simp only [civilDate, sameYear]
    exact splitMonths_lt _ daysOfYear

/-- Months and days of a date have at most two digits. -/
theorem civilDate_bounds (days : Nat) :
    (civilDate days).2.1 ≤ 12 ∧ (civilDate days).2.2 ≤ 31 := by
  obtain ⟨-, dayBound, -⟩ := yearAndDay_spec days
  unfold civilDate
  dsimp only
  cases leap : isLeap (yearAndDay days).1
  · exact splitMonths_bounds (by decide)
      (by simpa [monthLengths, yearLength, leap] using dayBound)
  · exact splitMonths_bounds (by decide)
      (by simpa [monthLengths, yearLength, leap] using dayBound)

/-- The year of a day number below the first day of year ten thousand has at
most four digits. -/
theorem civilDate_year_lt {days : Nat} (inRange : days < 3652059) :
    (civilDate days).1 < 10000 := by
  obtain ⟨daysEq, -, -⟩ := yearAndDay_spec days
  by_contra tooLate
  have ended := daysBeforeYear_mono
    (show 10000 ≤ (yearAndDay days).1 from Nat.le_of_not_lt tooLate)
  have boundary : daysBeforeYear 10000 = 3652059 := rfl
  omega

/-- The number of days in a month, zero for a number that is no month. -/
def daysInMonth (year month : Nat) : Nat :=
  if month = 0 then 0 else (monthLengths (isLeap year)).getD (month - 1) 0

/-- The day number of a civil date. -/
def dayNumber (year month day : Nat) : Nat :=
  daysBeforeYear year +
    ((monthLengths (isLeap year)).take (month - 1)).sum + (day - 1)

/-- Month and day of a day of the year lead back to it. -/
theorem splitMonths_inverse {lengths : List Nat} {rest : Nat}
    (fits : rest < lengths.sum) :
    (lengths.take ((splitMonths lengths rest).1 - 1)).sum +
        ((splitMonths lengths rest).2 - 1) = rest ∧
      0 < (splitMonths lengths rest).2 ∧
        (splitMonths lengths rest).2 ≤
          lengths.getD ((splitMonths lengths rest).1 - 1) 0 := by
  induction lengths generalizing rest with
  | nil => simp at fits
  | cons length lengths ih =>
      by_cases inside : rest < length
      · simp only [splitMonths, inside, if_true]
        refine ⟨by simp, Nat.succ_pos rest, ?_⟩
        simpa using Nat.succ_le_of_lt inside
      · rw [List.sum_cons] at fits
        obtain ⟨days, positive, bounded⟩ :=
          ih (show rest - length < lengths.sum by omega)
        have positiveMonth := splitMonths_pos lengths (rest - length)
        obtain ⟨month, monthIs⟩ := Nat.exists_eq_add_one.mpr positiveMonth
        simp only [splitMonths, inside, if_false, monthIs,
          Nat.add_sub_cancel] at days bounded ⊢
        refine ⟨?_, positive, by simpa using bounded⟩
        rw [List.take_succ_cons, List.sum_cons]
        omega

/-- The date of a day number is valid, and it leads back to the day number. -/
theorem dayNumber_civilDate (days : Nat) :
    dayNumber (civilDate days).1 (civilDate days).2.1 (civilDate days).2.2 =
        days ∧
      0 < (civilDate days).1 ∧ 0 < (civilDate days).2.2 ∧
        (civilDate days).2.2 ≤
          daysInMonth (civilDate days).1 (civilDate days).2.1 := by
  obtain ⟨daysIs, dayBound, positiveYear⟩ := yearAndDay_spec days
  have fits : (yearAndDay days).2 <
      (monthLengths (isLeap (yearAndDay days).1)).sum := by
    cases leap : isLeap (yearAndDay days).1 <;>
      simpa [monthLengths, yearLength, leap] using dayBound
  obtain ⟨inYear, positiveDay, bounded⟩ := splitMonths_inverse fits
  have positiveMonth := splitMonths_pos
    (monthLengths (isLeap (yearAndDay days).1)) (yearAndDay days).2
  refine ⟨?_, positiveYear, positiveDay, ?_⟩
  · simp only [dayNumber, civilDate]
    omega
  · have isMonth : (civilDate days).2.1 ≠ 0 := Nat.ne_of_gt positiveMonth
    rw [daysInMonth, if_neg isMonth]
    exact bounded

end Tca.CivilCalendar
