import Tca.PollSelection

/-!
# Reading ISO timestamps

`datetime.fromisoformat` finds the separator between date and time, reads a
calendar date or a week date, a time with optional minutes, seconds and
fraction, and an offset from UTC.  The file embeds it on texts and shows that
it reads every timestamp back from the text that `isoformat` gives.
-/

namespace Tca

open FixedWidthText CivilCalendar

namespace IsoTimestamps

/-- The number that a nonempty text of ASCII digits spells. -/
def parseDigits (text : List Char) : Option Nat :=
  if text ≠ [] ∧ text.all Char.isDigit then some (Nat.ofDigitChars 10 text 0)
  else none

/-- The number that the first characters spell, with the text after them. -/
def parseField (width : Nat) (text : List Char) : Option (Nat × List Char) :=
  if text.length < width then none
  else (parseDigits (text.take width)).map fun value => (value, text.drop width)

/-- Where the date ends in a text of at least seven characters. -/
def findDatetimeSeparator (text : List Char) : Option Nat :=
  if text.length = 7 then some 7
  else if text[4]? = some '-' then
    if text[5]? = some 'W' then
      if text[8]? = some '-' then
        if text.length = 9 then none
        else if (text[10]?.map Char.isDigit).getD false then some 8
        else some 10
      else some 8
    else some 10
  else if text[4]? = some 'W' then
    let digits := ((text.drop 7).takeWhile Char.isDigit).length
    if 7 + digits < 9 then some (7 + digits)
    else if (7 + digits) % 2 = 0 then some 7
    else some 8
  else some 8

/-- The day number of the Monday of the first week of a year. -/
def isoWeekOneMonday (year : Nat) : Int :=
  let firstDay := daysBeforeYear year
  let firstWeekday := firstDay % 7
  if 3 < firstWeekday then (firstDay - firstWeekday + 7 : Int)
  else (firstDay - firstWeekday : Int)

/-- `_isoweek_to_gregorian`.  Years that start on a Thursday, and leap years
that start on a Wednesday, have a week 53. -/
def isoWeekToGregorian (year week day : Nat) : Option (Nat × Nat × Nat) :=
  let firstWeekday := daysBeforeYear year % 7
  let longYear := firstWeekday = 3 ∨ (firstWeekday = 2 ∧ isLeap year = true)
  if year < 1 ∨ 9999 < year then none
  else if ¬ (0 < week ∧ (week < 53 ∨ (week = 53 ∧ longYear))) then none
  else if ¬ (0 < day ∧ day < 8) then none
  else
    let days := isoWeekOneMonday year + ((week - 1) * 7 + (day - 1) : Nat)
    if days < 0 then none else some (civilDate days.toNat)

/-- `_parse_isoformat_date`. -/
def parseDate (text : List Char) : Option (Nat × Nat × Nat) := do
  let (year, rest) ← parseField 4 text
  let dashed := rest.head? = some '-'
  let rest := if dashed then rest.drop 1 else rest
  if rest.head? = some 'W' then
    let (week, rest) ← parseField 2 (rest.drop 1)
    if rest = [] then isoWeekToGregorian year week 1
    else if (rest.head? = some '-') ≠ dashed then none
    else
      let (day, _) ← parseField 1 (if dashed then rest.drop 1 else rest)
      isoWeekToGregorian year week day
  else
    let (month, rest) ← parseField 2 rest
    if (rest.head? = some '-') ≠ dashed then none
    else
      let (day, _) ← parseField 2 (if dashed then rest.drop 1 else rest)
      return (year, month, day)

/-- The microseconds of a fraction; digits after the sixth are dropped. -/
def parseFraction (text : List Char) : Option Nat :=
  match text with
  | [] => some 0
  | mark :: digits =>
      if mark = '.' ∨ mark = ',' then
        if digits.all Char.isDigit then
          (parseDigits (digits.take 6)).map fun value =>
            value * 10 ^ (6 - (digits.take 6).length)
        else none
      else none

/-- Hour, minute, second and microsecond. -/
structure ClockFields where
  hour : Nat
  minute : Nat
  second : Nat
  micros : Nat
  deriving DecidableEq

/-- `_parse_hh_mm_ss_ff`: `HH[:?MM[:?SS[{.,}fff[fff]]]]`. -/
def parseClock (text : List Char) : Option ClockFields := do
  let (hour, rest) ← parseField 2 text
  if rest = [] then return ⟨hour, 0, 0, 0⟩
  let colons := rest.head? = some ':'
  let (minute, rest) ← parseField 2 (if colons then rest.drop 1 else rest)
  if rest = [] then return ⟨hour, minute, 0, 0⟩
  if colons ∧ rest.head? ≠ some ':' then none
  else
    let (second, rest) ← parseField 2 (if colons then rest.drop 1 else rest)
    let micros ← parseFraction rest
    return ⟨hour, minute, second, micros⟩

/-- The offset with the given sign and fields; a whole day is too much. -/
def offsetOf (negative : Bool) (fields : ClockFields) : Option UtcOffset :=
  let size : Int := ((fields.hour * 3600 + fields.minute * 60 +
    fields.second) * 1000000 + fields.micros : Nat)
  let micros := if negative then -size else size
  if inRange : -86400000000 < micros ∧ micros < 86400000000 then
    some ⟨micros, inRange.1, inRange.2⟩
  else none

/-- Where the offset starts: at the first minus sign, else at the first plus
sign, else at the first `Z`. -/
def findOffset (text : List Char) : Option Nat :=
  if '-' ∈ text then some (text.idxOf '-')
  else if '+' ∈ text then some (text.idxOf '+')
  else if 'Z' ∈ text then some (text.idxOf 'Z')
  else none

/-- `_parse_isoformat_time`. -/
def parseTime (text : List Char) :
    Option (ClockFields × Option UtcOffset) :=
  if text.length < 2 then none
  else
    match findOffset text with
    | none => (parseClock text).map fun fields => (fields, none)
    | some position => do
        let fields ← parseClock (text.take position)
        let offset := text.drop (position + 1)
        if text[position]? = some 'Z' then
          if offset = [] then return (fields, some UtcOffset.utc) else none
        else if offset.length = 0 ∨ offset.length = 1 ∨ offset.length = 3 then
          none
        else
          let offsetFields ← parseClock offset
          let parsed ← offsetOf (text[position]? = some '-') offsetFields
          return (fields, some parsed)

/-- The wall-clock time with the given fields, if they are valid. -/
def wallTimeOf (date : Nat × Nat × Nat) (clock : ClockFields) :
    Option WallTime :=
  let (year, month, day) := date
  let seconds := dayNumber year month day * 86400 + clock.hour * 3600 +
    clock.minute * 60 + clock.second
  if inRange : (0 < year ∧ year < 10000 ∧ 0 < day ∧
        day ≤ daysInMonth year month ∧ clock.hour < 24 ∧ clock.minute < 60 ∧
        clock.second < 60 ∧ clock.micros < 1000000) ∧
      seconds * 1000000 + clock.micros < wallLimit then
    some ⟨seconds * 1000000 + clock.micros, inRange.2⟩
  else none

section Fields

/-- Fixed-width decimals consist of digits and spell their number. -/
theorem decimal_spells {width number : Nat} (fits : number < 10 ^ width) :
    (decimal width number).all Char.isDigit ∧
      Nat.ofDigitChars 10 (decimal width number) 0 = number := by
  induction width generalizing number with
  | zero =>
      rw [pow_zero] at fits
      simp [decimal, Nat.ofDigitChars_nil]
      omega
  | succ width ih =>
      rw [pow_succ] at fits
      obtain ⟨digits, spelled⟩ := ih (show number / 10 < 10 ^ width by omega)
      have lastDigit : number % 10 < 10 := Nat.mod_lt _ (by decide)
      constructor
      · simp [decimal, digits, Nat.isDigit_digitChar, lastDigit]
      · rw [decimal, Nat.ofDigitChars_append, spelled,
          Nat.ofDigitChars_cons_digitChar_of_lt_ten lastDigit,
          Nat.ofDigitChars_nil]
        omega

theorem parseDigits_decimal {width number : Nat} (nonempty : 0 < width)
    (fits : number < 10 ^ width) :
    parseDigits (decimal width number) = some number := by
  obtain ⟨digits, spelled⟩ := decimal_spells fits
  have notNil : decimal width number ≠ [] := by
    apply List.ne_nil_of_length_pos
    rwa [decimal_length]
  rw [parseDigits, if_pos ⟨notNil, digits⟩, spelled]

/-- A field is read back from the start of a text. -/
theorem parseField_decimal {width number : Nat} (nonempty : 0 < width)
    (fits : number < 10 ^ width) (rest : List Char) :
    parseField width (decimal width number ++ rest) = some (number, rest) := by
  have longEnough : ¬ (decimal width number ++ rest).length < width := by
    rw [List.length_append, decimal_length]
    omega
  rw [parseField, if_neg longEnough,
    List.take_left' (decimal_length width number),
    List.drop_left' (decimal_length width number),
    parseDigits_decimal nonempty fits, Option.map_some]

theorem not_mem_decimal {width number : Nat} (fits : number < 10 ^ width)
    {mark : Char} (notDigit : mark.isDigit = false) :
    mark ∉ decimal width number := by
  intro member
  have digit := List.all_eq_true.mp (decimal_spells fits).1 mark member
  rw [notDigit] at digit
  exact Bool.false_ne_true digit

/-- A field does not start with a mark that is no digit. -/
theorem head?_decimal_ne {width number : Nat} (nonempty : 0 < width)
    (fits : number < 10 ^ width) (rest : List Char) {mark : Char}
    (notDigit : mark.isDigit = false) :
    (decimal width number ++ rest).head? ≠ some mark := by
  have notNil : decimal width number ≠ [] := by
    apply List.ne_nil_of_length_pos
    rwa [decimal_length]
  rw [List.head?_append_of_ne_nil _ notNil]
  intro starts
  exact not_mem_decimal fits notDigit (List.mem_of_head? starts)

theorem parseFraction_fractionText {micros : Nat} (fits : micros < 10 ^ 6) :
    parseFraction (fractionText micros) = some micros := by
  unfold fractionText
  split
  · rename_i whole
    rw [whole, parseFraction]
  · have all := (decimal_spells fits).1
    have taken : (decimal 6 micros).take 6 = decimal 6 micros :=
      List.take_of_length_le (decimal_length 6 micros).le
    simp only [parseFraction, true_or, if_true, all, taken,
      parseDigits_decimal (by decide) fits, Option.map_some, decimal_length]
    simp

/-- A clock text with its seconds is read back. -/
theorem parseClock_fields {hour minute second micros : Nat}
    (hourFits : hour < 10 ^ 2) (minuteFits : minute < 10 ^ 2)
    (secondFits : second < 10 ^ 2) (microsFit : micros < 10 ^ 6) :
    parseClock (decimal 2 hour ++ ':' :: (decimal 2 minute ++
        ':' :: (decimal 2 second ++ fractionText micros))) =
      some ⟨hour, minute, second, micros⟩ := by
  simp [parseClock, parseField_decimal (by decide) hourFits,
    parseField_decimal (by decide) minuteFits,
    parseField_decimal (by decide) secondFits,
    parseFraction_fractionText microsFit]

/-- So is one that ends after its minutes. -/
theorem parseClock_minutes {hour minute : Nat} (hourFits : hour < 10 ^ 2)
    (minuteFits : minute < 10 ^ 2) :
    parseClock (decimal 2 hour ++ ':' :: decimal 2 minute) =
      some ⟨hour, minute, 0, 0⟩ := by
  have minuteRead := parseField_decimal (by decide) minuteFits []
  rw [List.append_nil] at minuteRead
  simp [parseClock, parseField_decimal (by decide) hourFits, minuteRead]

end Fields

section Offsets

theorem not_mem_fractionText {micros : Nat} (fits : micros < 10 ^ 6)
    {mark : Char} (notDigit : mark.isDigit = false) (notPoint : mark ≠ '.') :
    mark ∉ fractionText micros := by
  unfold fractionText
  split
  · exact List.not_mem_nil
  · rw [List.mem_cons]
    rintro (isPoint | isDigit)
    · exact notPoint isPoint
    · exact not_mem_decimal fits notDigit isDigit

/-- The clock text of an offset, after its sign. -/
def offsetClock (size : Nat) : List Char :=
  decimal 2 (size / 3600000000) ++ ':' ::
    (decimal 2 (size % 3600000000 / 60000000) ++
      (if size % 60000000 = 0 then []
        else ':' :: (decimal 2 (size % 60000000 / 1000000) ++
          fractionText (size % 60000000 % 1000000))))

theorem offsetText_eq (offset : UtcOffset) :
    offsetText offset = (if offset.micros < 0 then '-' else '+') ::
      offsetClock offset.micros.natAbs := by
  simp [offsetText, offsetClock]

/-- The clock text of an offset is read back to its size. -/
theorem parseClock_offsetClock {size : Nat} (inRange : size < 86400000000) :
    ∃ fields, parseClock (offsetClock size) = some fields ∧
      (fields.hour * 3600 + fields.minute * 60 + fields.second) * 1000000 +
        fields.micros = size := by
  have hourFits : size / 3600000000 < 10 ^ 2 := by omega
  have minuteFits : size % 3600000000 / 60000000 < 10 ^ 2 := by omega
  unfold offsetClock
  split
  · rename_i whole
    rw [List.append_nil]
    refine ⟨_, parseClock_minutes hourFits minuteFits, ?_⟩
    dsimp only
    omega
  · refine ⟨_, parseClock_fields hourFits minuteFits (by omega) (by omega), ?_⟩
    dsimp only
    omega

theorem offsetClock_length (size : Nat) : 5 ≤ (offsetClock size).length := by
  simp only [offsetClock, List.length_append, List.length_cons, decimal_length]
  omega

theorem offsetOf_fields (offset : UtcOffset) {fields : ClockFields}
    (sizeIs : (fields.hour * 3600 + fields.minute * 60 + fields.second) *
      1000000 + fields.micros = offset.micros.natAbs) :
    offsetOf (decide (offset.micros < 0)) fields = some offset := by
  have signed : (if decide (offset.micros < 0) = true then
      -(offset.micros.natAbs : Int) else offset.micros.natAbs) =
        offset.micros := by
    simp only [decide_eq_true_iff]
    split <;> omega
  unfold offsetOf
  simp only [sizeIs, signed, offset.afterLowest, offset.beforeHighest,
    and_self, dite_true]

theorem not_mem_offsetClock {size : Nat} (inRange : size < 86400000000)
    {mark : Char} (notDigit : mark.isDigit = false) (notPoint : mark ≠ '.')
    (notColon : mark ≠ ':') : mark ∉ offsetClock size := by
  have hours := not_mem_decimal
    (show size / 3600000000 < 10 ^ 2 by omega) notDigit
  have minutes := not_mem_decimal
    (show size % 3600000000 / 60000000 < 10 ^ 2 by omega) notDigit
  have seconds := not_mem_decimal
    (show size % 60000000 / 1000000 < 10 ^ 2 by omega) notDigit
  have fraction := not_mem_fractionText
    (show size % 60000000 % 1000000 < 10 ^ 6 by omega) notDigit notPoint
  unfold offsetClock
  split <;> simp only [List.mem_append, List.mem_cons, List.not_mem_nil,
    hours, minutes, seconds, fraction, notColon, or_self, not_false_eq_true]

/-- A clock text without signs is split from the offset after it. -/
theorem parseTime_offset {clock : List Char} {fields : ClockFields}
    (long : 2 ≤ clock.length) (noMinus : '-' ∉ clock) (noPlus : '+' ∉ clock)
    (noZulu : 'Z' ∉ clock) (parsed : parseClock clock = some fields)
    (offset : Option UtcOffset) :
    parseTime (clock ++ (offset.map offsetText).getD []) =
      some (fields, offset) := by
  have longEnough :
      ¬ (clock ++ (offset.map offsetText).getD []).length < 2 := by
    rw [List.length_append]
    omega
  unfold parseTime
  rw [if_neg longEnough]
  cases offset with
  | none =>
      simp [findOffset, noMinus, noPlus, noZulu, parsed]
  | some offset =>
      have inRange : offset.micros.natAbs < 86400000000 := by
        have := offset.afterLowest
        have := offset.beforeHighest
        omega
      have restMinus := not_mem_offsetClock inRange
        (show '-'.isDigit = false by decide) (by decide) (by decide)
      obtain ⟨offsetFields, offsetParsed, sizeIs⟩ :=
        parseClock_offsetClock inRange
      have restLong := offsetClock_length offset.micros.natAbs
      have offsetIs := offsetOf_fields offset sizeIs
      have position : findOffset (clock ++ offsetText offset) =
          some clock.length := by
        rw [offsetText_eq]
        split
        · simp [findOffset, List.idxOf_append_of_notMem noMinus]
        · simp [findOffset, noMinus, noPlus, restMinus,
            List.idxOf_append_of_notMem noPlus]
      have sign : (clock ++ offsetText offset)[clock.length]? =
          some (if offset.micros < 0 then '-' else '+') := by
        simp [offsetText_eq]
      have rest : (clock ++ offsetText offset).drop (clock.length + 1) =
          offsetClock offset.micros.natAbs := by
        simp [offsetText_eq]
      have notZulu : (if offset.micros < 0 then '-' else '+') ≠ 'Z' := by
        split <;> decide
      have minusIff : (if offset.micros < 0 then '-' else '+') = '-' ↔
          offset.micros < 0 := by
        split <;> simp [*]
      have accepted : ¬ ((offsetClock offset.micros.natAbs).length = 0 ∨
          (offsetClock offset.micros.natAbs).length = 1 ∨
          (offsetClock offset.micros.natAbs).length = 3) := by
        omega
      simp only [Option.map_some, Option.getD_some, position, List.take_left,
        sign, rest, parsed, Option.some.injEq, notZulu, minusIff, accepted,
        offsetParsed, offsetIs, if_false, Option.bind_eq_bind,
        Option.bind_some]
      rfl

end Offsets

end IsoTimestamps

open IsoTimestamps

/-- `datetime.fromisoformat`, with no result where it raises `ValueError`. -/
def fromisoformat (dateString : String) : Option Timestamp := do
  let text := dateString.toList
  if text.length < 7 then none
  else
    let separator ← findDatetimeSeparator text
    let date ← parseDate (text.take separator)
    let timeText := text.drop (separator + 1)
    if timeText = [] then
      let wall ← wallTimeOf date ⟨0, 0, 0, 0⟩
      return ⟨wall, none⟩
    else
      let (clock, offset) ← parseTime timeText
      let wall ← wallTimeOf date clock
      return ⟨wall, offset⟩

section RoundTrip

/-- The text of a date. -/
private def dateText (days : Nat) : List Char :=
  decimal 4 (civilDate days).1 ++ '-' :: (decimal 2 (civilDate days).2.1 ++
    '-' :: decimal 2 (civilDate days).2.2)

/-- The text of a time of the day. -/
private def clockText (rest micros : Nat) : List Char :=
  decimal 2 (rest / 3600) ++ ':' :: (decimal 2 (rest % 3600 / 60) ++
    ':' :: (decimal 2 (rest % 60) ++ fractionText micros))

private theorem dateText_length (days : Nat) : (dateText days).length = 10 := by
  simp [dateText]

private theorem clockText_length (rest micros : Nat) :
    3 ≤ (clockText rest micros).length := by
  simp only [clockText, List.length_append, List.length_cons, decimal_length]
  omega

/-- The text spells the timestamp: its date, a separator and its time. -/
private def Spells (text : String) (separator : Char)
    (timestamp : Timestamp) : Prop :=
  text.toList = dateText (timestamp.wall.micros / 1000000 / 86400) ++
    separator :: (clockText (timestamp.wall.micros / 1000000 % 86400)
        (timestamp.wall.micros % 1000000) ++
      (timestamp.offset.map offsetText).getD [])

private theorem isoformat_spells (timestamp : Timestamp) :
    Spells timestamp.isoformat ' ' timestamp := by
  simp [Spells, Timestamp.isoformat, secondsText, dateText, clockText]

private theorem isoformatT_spells (timestamp : Timestamp) :
    Spells timestamp.isoformatT 'T' timestamp := by
  rw [Spells, Timestamp.isoformatT, String.toList_ofList,
    isoformat_spells timestamp,
    List.set_append_right _ _ (dateText_length _).le, dateText_length]
  rfl

private theorem parseDate_dateText {days : Nat} (inRange : days < 3652059) :
    parseDate (dateText days) = some (civilDate days) := by
  have yearFits : (civilDate days).1 < 10 ^ 4 := civilDate_year_lt inRange
  obtain ⟨monthBound, dayBound⟩ := civilDate_bounds days
  have monthFits : (civilDate days).2.1 < 10 ^ 2 := by omega
  have dayFits : (civilDate days).2.2 < 10 ^ 2 := by omega
  have dayRead := parseField_decimal (by decide) dayFits []
  rw [List.append_nil] at dayRead
  have noWeek := head?_decimal_ne (by decide) monthFits
    ('-' :: decimal 2 (civilDate days).2.2)
    (show 'W'.isDigit = false by decide)
  simp only [parseDate, dateText, parseField_decimal (by decide) yearFits,
    parseField_decimal (by decide) monthFits, dayRead, noWeek,
    Option.bind_eq_bind, Option.bind_some, List.head?_cons, if_true,
    List.drop_one, List.tail_cons, if_false, ne_eq, not_true_eq_false]
  rfl

private theorem findDatetimeSeparator_dateText (days : Nat)
    (separator : Char) (rest : List Char) :
    findDatetimeSeparator (dateText days ++ separator :: rest) = some 10 := by
  obtain ⟨monthBound, -⟩ := civilDate_bounds days
  have notShort : (dateText days ++ separator :: rest).length ≠ 7 := by
    rw [List.length_append, dateText_length]
    omega
  have dash : (dateText days ++ separator :: rest)[4]? = some '-' := by
    simp [dateText]
  have month : (dateText days ++ separator :: rest)[5]? =
      (decimal 2 (civilDate days).2.1 ++
        ('-' :: decimal 2 (civilDate days).2.2 ++ separator :: rest)).head? := by
    simp [dateText, decimal]
  have noWeek : (dateText days ++ separator :: rest)[5]? ≠ some 'W' := by
    rw [month]
    exact head?_decimal_ne (by decide)
      (show (civilDate days).2.1 < 10 ^ 2 by omega) _ (by decide)
  rw [findDatetimeSeparator, if_neg notShort, if_pos dash, if_neg noWeek]

private theorem wallTimeOf_fields (wall : WallTime) :
    wallTimeOf (civilDate (wall.micros / 1000000 / 86400))
        ⟨wall.micros / 1000000 % 86400 / 3600,
          wall.micros / 1000000 % 86400 % 3600 / 60,
          wall.micros / 1000000 % 86400 % 60, wall.micros % 1000000⟩ =
      some wall := by
  have inRange := wall.inRange
  obtain ⟨days, positiveYear, positiveDay, dayBound⟩ :=
    dayNumber_civilDate (wall.micros / 1000000 / 86400)
  have yearBound := civilDate_year_lt
    (show wall.micros / 1000000 / 86400 < 3652059 by
      unfold wallLimit at inRange
      omega)
  have composed : (wall.micros / 1000000 / 86400 * 86400 +
      wall.micros / 1000000 % 86400 / 3600 * 3600 +
      wall.micros / 1000000 % 86400 % 3600 / 60 * 60 +
      wall.micros / 1000000 % 86400 % 60) * 1000000 +
        wall.micros % 1000000 = wall.micros := by
    omega
  unfold wallTimeOf
  simp only [days, composed]
  rw [dif_pos]
  refine ⟨⟨positiveYear, yearBound, positiveDay, dayBound, ?_⟩, inRange⟩
  omega

/-- The time of a day, with the offset after it, is read back. -/
private theorem parseTime_clockText {rest micros : Nat} (inDay : rest < 86400)
    (microsFit : micros < 10 ^ 6) (offset : Option UtcOffset) :
    parseTime (clockText rest micros ++ (offset.map offsetText).getD []) =
      some (⟨rest / 3600, rest % 3600 / 60, rest % 60, micros⟩, offset) := by
  have hourFits : rest / 3600 < 10 ^ 2 := by omega
  have minuteFits : rest % 3600 / 60 < 10 ^ 2 := by omega
  have secondFits : rest % 60 < 10 ^ 2 := by omega
  have marks : ∀ mark : Char, mark.isDigit = false → mark ≠ '.' →
      mark ≠ ':' → mark ∉ clockText rest micros := by
    intro mark notDigit notPoint notColon
    simp only [clockText, List.mem_append, List.mem_cons,
      not_mem_decimal hourFits notDigit, not_mem_decimal minuteFits notDigit,
      not_mem_decimal secondFits notDigit, notColon,
      not_mem_fractionText microsFit notDigit notPoint, or_self,
      not_false_eq_true]
  exact parseTime_offset (Nat.le_of_succ_le (clockText_length rest micros))
    (marks '-' (by decide) (by decide) (by decide))
    (marks '+' (by decide) (by decide) (by decide))
    (marks 'Z' (by decide) (by decide) (by decide))
    (parseClock_fields hourFits minuteFits secondFits microsFit) offset

private theorem Spells.fromisoformat {text : String} {separator : Char}
    {timestamp : Timestamp} (spells : Spells text separator timestamp) :
    fromisoformat text = some timestamp := by
  have inRange := timestamp.wall.inRange
  unfold wallLimit at inRange
  unfold Spells at spells
  have timeRead := parseTime_clockText
    (show timestamp.wall.micros / 1000000 % 86400 < 86400 by omega)
    (show timestamp.wall.micros % 1000000 < 10 ^ 6 by omega) timestamp.offset
  have separated := findDatetimeSeparator_dateText
    (timestamp.wall.micros / 1000000 / 86400) separator
    (clockText (timestamp.wall.micros / 1000000 % 86400)
      (timestamp.wall.micros % 1000000) ++
        (timestamp.offset.map offsetText).getD [])
  have longEnough : ¬ text.toList.length < 7 := by
    rw [spells, List.length_append, dateText_length]
    omega
  have dateRead : parseDate (text.toList.take 10) =
      some (civilDate (timestamp.wall.micros / 1000000 / 86400)) := by
    rw [spells, List.take_left' (dateText_length _)]
    exact parseDate_dateText (by omega)
  have timeIs : text.toList.drop (10 + 1) =
      clockText (timestamp.wall.micros / 1000000 % 86400)
        (timestamp.wall.micros % 1000000) ++
          (timestamp.offset.map offsetText).getD [] := by
    rw [spells, ← List.drop_drop, List.drop_left' (dateText_length _)]
    rfl
  have timePresent : ¬ (clockText (timestamp.wall.micros / 1000000 % 86400)
      (timestamp.wall.micros % 1000000) ++
        (timestamp.offset.map offsetText).getD [] = []) := by
    intro empty
    have short := clockText_length (timestamp.wall.micros / 1000000 % 86400)
      (timestamp.wall.micros % 1000000)
    rw [(List.append_eq_nil_iff.mp empty).1] at short
    simp at short
  rw [← spells] at separated
  simp only [Tca.fromisoformat, longEnough, if_false, separated, dateRead,
    timeIs, timePresent, timeRead, wallTimeOf_fields, Option.bind_eq_bind,
    Option.bind_some]
  rfl

/-- `fromisoformat` reads back every text that `isoformat(" ")` gives. -/
theorem fromisoformat_isoformat (timestamp : Timestamp) :
    fromisoformat timestamp.isoformat = some timestamp :=
  (isoformat_spells timestamp).fromisoformat

/-- `fromisoformat` reads back every text that `isoformat` gives. -/
theorem fromisoformat_isoformatT (timestamp : Timestamp) :
    fromisoformat timestamp.isoformatT = some timestamp :=
  (isoformatT_spells timestamp).fromisoformat

end RoundTrip

end Tca
