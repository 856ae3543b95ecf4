import Tca.CivilCalendar
import Tca.FixedWidthText
import Mathlib.Data.String.Basic

/-!
# Timestamps and their text

A timestamp is a wall-clock time in microseconds since the start of year one,
within the years one to 9999, together with an optional offset from UTC.  Its
text has the shape `YYYY-MM-DD HH:MM:SS[.ffffff][+HH:MM[:SS[.ffffff]]]`.  The
binary order of the texts is the order of the wall-clock times.
-/

namespace Tca

open FixedWidthText CivilCalendar

/-- Microseconds in the years one to 9999. -/
def wallLimit : Nat :=
  3652059 * 86400000000

theorem wallLimit_pos : 0 < wallLimit := by
  decide

/-- A wall-clock time, in microseconds since the start of year one. -/
structure WallTime where
  micros : Nat
  inRange : micros < wallLimit
  deriving DecidableEq

/-- An offset from UTC in microseconds, strictly within one day. -/
structure UtcOffset where
  micros : Int
  afterLowest : -86400000000 < micros
  beforeHighest : micros < 86400000000
  deriving DecidableEq

/-- The offset of UTC itself. -/
def UtcOffset.utc : UtcOffset :=
  ⟨0, by decide, by decide⟩

/-- A wall-clock time, naive or with its offset from UTC. -/
structure Timestamp where
  wall : WallTime
  offset : Option UtcOffset
  deriving DecidableEq

/-- The text of a wall-clock time in whole seconds. -/
def secondsText (seconds : Nat) : List Char :=
  let date := civilDate (seconds / 86400)
  let rest := seconds % 86400
  decimal 4 date.1 ++ ['-'] ++ decimal 2 date.2.1 ++ ['-'] ++
    decimal 2 date.2.2 ++ [' '] ++ decimal 2 (rest / 3600) ++ [':'] ++
    decimal 2 (rest % 3600 / 60) ++ [':'] ++ decimal 2 (rest % 60)

/-- The text of the microseconds, empty for a whole second. -/
def fractionText (micros : Nat) : List Char :=
  if micros = 0 then [] else '.' :: decimal 6 micros

/-- The text of an offset: hours and minutes, then seconds and microseconds
only when they are not zero. -/
def offsetText (offset : UtcOffset) : List Char :=
  let size := offset.micros.natAbs
  let rest := size % 60000000
  (if offset.micros < 0 then '-' else '+') ::
    (decimal 2 (size / 3600000000) ++ [':'] ++
      decimal 2 (size % 3600000000 / 60000000) ++
      (if rest = 0 then []
        else ':' :: (decimal 2 (rest / 1000000) ++
          fractionText (rest % 1000000))))

/-- The text of a timestamp, with a blank between date and time. -/
def Timestamp.isoformat (timestamp : Timestamp) : String :=
  String.ofList
    (secondsText (timestamp.wall.micros / 1000000) ++
      (fractionText (timestamp.wall.micros % 1000000) ++
        (timestamp.offset.map offsetText).getD []))

section SecondsOrder

/-- The calendar and clock fields of a wall-clock time, in the order in which
they are compared. -/
private def secondsFields (seconds : Nat) :
    Nat ×ₗ Nat ×ₗ Nat ×ₗ Nat ×ₗ Nat ×ₗ Nat :=
  let date := civilDate (seconds / 86400)
  let rest := seconds % 86400
  toLex (date.1, toLex (date.2.1, toLex (date.2.2,
    toLex (rest / 3600, toLex (rest % 3600 / 60, rest % 60)))))

private theorem secondsFields_lt {first second : Nat}
    (earlier : first < second) :
    secondsFields first < secondsFields second := by
  simp only [secondsFields, Prod.Lex.toLex_lt_toLex]
  rcases Nat.lt_or_ge (first / 86400) (second / 86400) with days | notDays
  · have dates := civilDate_lt days
    rw [Prod.Lex.toLex_lt_toLex] at dates
    rcases dates with year | ⟨sameYear, month | ⟨sameMonth, day⟩⟩
    · exact Or.inl year
    · exact Or.inr ⟨sameYear, Or.inl month⟩
    · exact Or.inr ⟨sameYear, Or.inr ⟨sameMonth, Or.inl day⟩⟩
  · have sameDay : first / 86400 = second / 86400 := by omega
    simp only [sameDay, true_and, lt_irrefl, false_or]
    omega

/-- Whole seconds within the supported years sort like their texts. -/
theorem secondsText_lt {first second : Nat} (earlier : first < second)
    (inRange : second < 3652059 * 86400) :
    secondsText first < secondsText second := by
  have valid : ∀ seconds, seconds < 3652059 * 86400 →
      (civilDate (seconds / 86400)).1 < 10 ^ 4 ∧
        (civilDate (seconds / 86400)).2.1 < 10 ^ 2 ∧
        (civilDate (seconds / 86400)).2.2 < 10 ^ 2 ∧
        seconds % 86400 / 3600 < 10 ^ 2 ∧
        seconds % 86400 % 3600 / 60 < 10 ^ 2 ∧
        seconds % 86400 % 60 < 10 ^ 2 := by
    intro seconds secondsLt
    have year := civilDate_year_lt
      (show seconds / 86400 < 3652059 by omega)
    have bounds := civilDate_bounds (seconds / 86400)
    omega
  have fields :=
    ((orderedText_decimal 4).followedBy ['-']).juxtapose
      (((orderedText_decimal 2).followedBy ['-']).juxtapose
        (((orderedText_decimal 2).followedBy [' ']).juxtapose
          (((orderedText_decimal 2).followedBy [':']).juxtapose
            (((orderedText_decimal 2).followedBy [':']).juxtapose
              (orderedText_decimal 2)))))
  have ordered := fields.lt_of_lt (secondsFields first) (secondsFields second)
    (valid first (by omega)) (valid second inRange)
    (secondsFields_lt earlier)
  simpa [secondsText, secondsFields] using ordered

theorem secondsText_length (seconds : Nat) :
    (secondsText seconds).length = 19 := by
  simp [secondsText]

end SecondsOrder

/-- An offset text starts below the point that introduces a fraction. -/
private theorem offsetText_lt_point (offset : Option UtcOffset)
    (rest : List Char) :
    (offset.map offsetText).getD [] < '.' :: rest := by
  cases offset with
  | none => exact List.nil_lt_cons _ _
  | some offset =>
      simp only [Option.map_some, Option.getD_some, offsetText]
      rw [List.cons_lt_cons_iff]
      left
      split <;> decide

/-- Texts are in the order of the wall-clock times, whatever the offsets. -/
theorem Timestamp.isoformat_lt {first second : Timestamp}
    (earlier : first.wall.micros < second.wall.micros) :
    first.isoformat < second.isoformat := by
  have inRange := second.wall.inRange
  unfold wallLimit at inRange
  rw [String.lt_iff_toList_lt]
  simp only [isoformat, String.toList_ofList]
  rcases Nat.lt_or_ge (first.wall.micros / 1000000)
      (second.wall.micros / 1000000) with seconds | notSeconds
  · apply append_lt_append_of_lt
    · rw [secondsText_length, secondsText_length]
    · exact secondsText_lt seconds (by omega)
  · have sameSeconds : first.wall.micros / 1000000 =
        second.wall.micros / 1000000 := by
      omega
    have fraction : first.wall.micros % 1000000 <
        second.wall.micros % 1000000 := by
      omega
    rw [sameSeconds]
    apply List.append_left_lt
    have secondFraction : second.wall.micros % 1000000 ≠ 0 := by omega
    simp only [fractionText, secondFraction, if_false, List.cons_append]
    split
    · exact offsetText_lt_point first.offset _
    · rw [List.cons_append, List.cons_lt_cons_iff]
      refine Or.inr ⟨rfl, ?_⟩
      apply append_lt_append_of_lt (by simp)
      exact (orderedText_decimal 6).lt_of_lt _ _ (by omega) (by omega) fraction

theorem Timestamp.isoformat_le {first second : Timestamp}
    (sameOffset : first.offset = second.offset)
    (ordered : first.wall.micros ≤ second.wall.micros) :
    first.isoformat ≤ second.isoformat := by
  rcases ordered.eq_or_lt with same | earlier
  · simp [isoformat, same, sameOffset]
  · exact (isoformat_lt earlier).le

end Tca
